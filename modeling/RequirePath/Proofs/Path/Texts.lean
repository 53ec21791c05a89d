import RequirePath.Proofs.Path.Spelling
import RequirePath.Proofs.Text.Lossy

/-! Paths that are texts. A byte below 128 is never part of a longer sequence, so a text can be cut at it and both parts
are texts; the pieces between slashes are, and what is spelled of texts is one again. -/

namespace RequirePath

namespace Utf8

variable {b : UInt8} {c : Char} {cs : List Char} {before after : List UInt8}

/-- A byte below 128 stands for a character of its own. -/
theorem encodeChar_of_mem (h : b ∈ encodeChar c) (hb : b.toNat < 128) : encodeChar c = [b] := by
  have hlt := toNat_lt c
  have hhigh : ∀ {n : Nat}, n < 256 → 128 ≤ n → b ≠ n.toUInt8 := by
    intro n hn hle he
    rw [he, toNat_toUInt8 hn] at hb
    omega
  unfold encodeChar at h ⊢
  dsimp only at h ⊢
  split_ifs at h ⊢ with h₁ h₂ h₃
  · rw [List.mem_singleton.1 h]
  · simp only [List.mem_cons, List.not_mem_nil, or_false] at h
    rcases h with h | h
    all_goals exact absurd h (hhigh (by omega) (by omega))
  · simp only [List.mem_cons, List.not_mem_nil, or_false] at h
    rcases h with h | h | h
    all_goals exact absurd h (hhigh (by omega) (by omega))
  · simp only [List.mem_cons, List.not_mem_nil, or_false] at h
    rcases h with h | h | h | h
    all_goals exact absurd h (hhigh (by omega) (by omega))

/-- A text that is cut before a byte below 128 leaves a text before it and after it. -/
theorem exists_encode_of_cut (h : encode cs = before ++ b :: after) (hb : b.toNat < 128) :
    (∃ xs, encode xs = before) ∧ ∃ ys, encode ys = after := by
  induction cs generalizing before with
  | nil => cases before <;> cases h
  | cons c cs ih =>
      rw [encode, List.flatMap_cons, ← encode] at h
      rcases List.append_eq_append_iff.1 h with ⟨more, rfl, hmore⟩ | ⟨more, hchar, hrest⟩
      · obtain ⟨⟨xs, rfl⟩, hafter⟩ := ih hmore
        exact ⟨⟨c :: xs, by rw [encode, List.flatMap_cons, ← encode]⟩, hafter⟩
      · cases more with
        | nil =>
            have hcut : encode cs = [] ++ b :: after := hrest.symm
            obtain ⟨-, hafter⟩ := ih hcut
            exact ⟨⟨[c], by rw [encode, List.flatMap_singleton, hchar, List.append_nil]⟩, hafter⟩
        | cons d more =>
            obtain ⟨rfl, rfl⟩ := List.cons.inj hrest
            have hone := encodeChar_of_mem (hchar ▸ List.mem_append_right _ List.mem_cons_self) hb
            rw [hone] at hchar
            obtain ⟨rfl, hnil⟩ := List.append_eq_singleton_iff.1 hchar.symm |>.resolve_right fun h => by cases h.2
            obtain rfl := (List.cons.inj hnil).2
            exact ⟨⟨[], rfl⟩, ⟨cs, rfl⟩⟩

end Utf8

namespace Pathname

variable {path stem suffix piece : Pathname} {b : UInt8} {names : List Filename} {p workingDirectory : LexicalPath}

theorem isSome_text? (path : Pathname) : (text? path).isSome = isText path :=
  Option.isSome_map

theorem isText_encode (cs : List Char) : isText (Utf8.encode cs) = true := by
  rw [isText, Utf8.decode?, Utf8.decode_encode]
  rfl

theorem isSome_mapM_text? (paths : List Pathname) : (paths.mapM text?).isSome = paths.all isText := by
  induction paths with
  | nil => rfl
  | cons path rest ih =>
      rw [List.mapM_cons, List.all_cons, ← ih, ← isSome_text?]
      cases text? path with
      | none => rfl
      | some s => cases rest.mapM text? <;> rfl

theorem isText_iff : isText path = true ↔ ∃ s, ofText s = path := by
  constructor
  · intro h
    cases hd : Utf8.decode path with
    | error fault =>
        rw [isText, Utf8.decode?, hd] at h
        cases h
    | ok cs => exact ⟨String.ofList cs, by rw [ofText, String.toList_ofList, Utf8.encode_of_decode hd]⟩
  · rintro ⟨s, rfl⟩
    exact isText_encode _

theorem display_ofText (s : String) : display (ofText s) = s := by
  rw [display, ofText, Utf8.decodeLossy_encode, String.ofList_toList]

theorem ofText_display (h : isText path = true) : ofText (display path) = path := by
  obtain ⟨s, rfl⟩ := isText_iff.1 h
  rw [display_ofText]

theorem isText_append (h : isText stem = true) (h' : isText suffix = true) : isText (stem ++ suffix) = true := by
  obtain ⟨s, rfl⟩ := isText_iff.1 h
  obtain ⟨t, rfl⟩ := isText_iff.1 h'
  rw [ofText, ofText, ← Utf8.encode_append]
  exact isText_encode _

theorem isText_cons_slash (h : isText path = true) : isText (slash :: path) = true := by
  obtain ⟨s, rfl⟩ := isText_iff.1 h
  exact isText_encode ('/' :: s.toList)

/-- Both parts of a text that is cut at a byte below 128 are texts. -/
theorem isText_of_cut (h : isText (stem ++ b :: suffix) = true) (hb : b.toNat < 128) :
    isText stem = true ∧ isText suffix = true := by
  obtain ⟨s, hs⟩ := isText_iff.1 h
  obtain ⟨⟨xs, rfl⟩, ys, rfl⟩ := Utf8.exists_encode_of_cut hs hb
  exact ⟨isText_encode xs, isText_encode ys⟩

theorem isText_of_mem_splitAt (h : isText path = true) (hp : piece ∈ Text.splitAt slash path) : isText piece = true := by
  induction hn : path.length using Nat.strongRecOn generalizing path with
  | _ n ih =>
      by_cases hmem : slash ∈ path
      · obtain ⟨before, after, rfl, hbefore⟩ := List.eq_append_cons_of_mem hmem
        obtain ⟨hfirst, hrest⟩ := isText_of_cut h (by decide)
        rw [Text.splitAt_append hbefore] at hp
        rcases List.mem_cons.1 hp with rfl | hp
        · exact hfirst
        · exact ih after.length (by rw [← hn, List.length_append, List.length_cons]; omega) hrest hp rfl
      · rw [Text.splitAt_of_not_mem hmem] at hp
        rw [List.mem_singleton.1 hp]
        exact h

theorem isText_of_mem_namesOf (h : isText path = true) (hp : piece ∈ LexicalPath.namesOf path) : isText piece = true :=
  isText_of_mem_splitAt h (List.mem_filter.1 hp).1

theorem isText_joinNames (h : ∀ name ∈ names, isText name = true) : isText (LexicalPath.joinNames names) = true := by
  induction names with
  | nil => rfl
  | cons name names ih =>
      have hname := h name List.mem_cons_self
      have hrest := ih fun x hx => h x (List.mem_cons_of_mem _ hx)
      by_cases hnil : names = []
      · rw [hnil]
        exact hname
      · rw [LexicalPath.joinNames_cons hnil]
        exact isText_append hname (isText_cons_slash hrest)

theorem isText_spelling (h : ∀ name ∈ p.names, isText name = true) : isText p.spelling = true := by
  have hanchor : isText p.anchor.spelling = true := by cases p.anchor <;> rfl
  unfold LexicalPath.spelling
  split
  · rfl
  · exact isText_append hanchor (isText_joinNames h)

/-- An absolute path that is a text stays one without its double dots. -/
theorem isText_absolute (h : isText path = true) (ha : (LexicalPath.parse path).isAbsolute = true) :
    isText (LexicalPath.absolute workingDirectory (LexicalPath.parse path)).spelling = true := by
  refine isText_spelling fun name hm => ?_
  rw [LexicalPath.absolute, LexicalPath.join, if_pos ha, LexicalPath.collapse, ha] at hm
  obtain ⟨hm, -⟩ := LexicalPath.mem_foldl_collapseStep (List.mem_reverse.1 hm) fun _ h => absurd h List.not_mem_nil
  exact isText_of_mem_namesOf h (hm.resolve_right List.not_mem_nil)

end Pathname

end RequirePath
