import RequirePath.Proofs.Json.Bounds
import RequirePath.Proofs.Text.Line

/-! The spelling of line ends makes no difference to a document. They stand between its parts only, where all of
them are blanks. -/

namespace RequirePath.Json

open Text (unifyNewlines)

variable {cs cs' : List Char} {digits depth : Nat}

/-! ### Parts without line ends -/

/-- No control character is in the text. -/
def Shown (cs : List Char) : Prop :=
  ∀ c ∈ cs, 0x20 ≤ c.toNat

theorem Shown.append (h : Shown cs) (h' : Shown cs') : Shown (cs ++ cs') := by
  intro c hc
  rcases List.mem_append.1 hc with hc | hc
  · exact h c hc
  · exact h' c hc

theorem Shown.cons {c : Char} (hc : 0x20 ≤ c.toNat) (h : Shown cs) : Shown (c :: cs) := by
  intro d hd
  rcases List.mem_cons.1 hd with rfl | hd
  · exact hc
  · exact h d hd

theorem shown_nil : Shown [] := by
  simp [Shown]

theorem shown_of_all (h : (cs.all fun c => 0x20 ≤ c.toNat) = true) : Shown cs := by
  simpa [Shown] using h

theorem IsDigits.shown (h : IsDigits cs) : Shown cs := by
  intro c hc
  have hdigit := h.digits c hc
  simp only [Char.isDigit, Bool.and_eq_true, decide_eq_true_eq] at hdigit
  exact Nat.le_trans (by decide) (UInt32.le_iff_toNat_le.1 hdigit.1)

theorem IsFraction.shown {ds : List Char} (h : IsFraction ds cs) : Shown cs := by
  cases h with
  | absent => exact shown_nil
  | point hds => exact hds.shown.cons (by decide)

theorem IsExponent.shown {n : Int} (h : IsExponent n cs) : Shown cs := by
  have hletter : ∀ {e : Char} {more : List Char}, e = 'e' ∨ e = 'E' → Shown more → Shown (e :: more) := by
    rintro e more (rfl | rfl) hmore
    · exact hmore.cons (by decide)
    · exact hmore.cons (by decide)
  cases h with
  | absent => exact shown_nil
  | bare he hds => exact hletter he hds.shown
  | plus he hds => exact hletter he (hds.shown.cons (by decide))
  | minus he hds => exact hletter he (hds.shown.cons (by decide))

theorem IsNumeral.shown {negative : Bool} {v : Value} (h : IsNumeral digits negative v cs) : Shown cs := by
  cases h with
  | int hwhole => exact hwhole.isDigits.shown
  | float hwhole hfrac hexp => exact hwhole.isDigits.shown.append (hfrac.shown.append hexp.shown)

theorem IsConstant.shown {v : Value} (h : IsConstant v cs) : Shown cs := by
  cases h <;> exact shown_of_all (by decide)

theorem le_of_hexDigit {c : Char} {n : Nat} (h : Text.hexDigit? c = some n) : 0x20 ≤ c.toNat := by
  have hle : ∀ {a : Char}, a ≤ c → a.toNat ≤ c.toNat := fun hac => UInt32.le_iff_toNat_le.1 hac
  unfold Text.hexDigit? at h
  split_ifs at h with h1 h2 h3
  · exact Nat.le_trans (by decide) (hle h1.1)
  · exact Nat.le_trans (by decide) (hle h2.1)
  · exact Nat.le_trans (by decide) (hle h3.1)

theorem shown_of_hexQuad {a b c d : Char} {n : Nat} (h : hexQuad? a b c d = some n) : Shown [a, b, c, d] := by
  simp only [hexQuad?, Option.bind_eq_bind, Option.bind_eq_some_iff] at h
  obtain ⟨x, hx, y, hy, z, hz, w, hw, -⟩ := h
  exact (((shown_nil.cons (le_of_hexDigit hw)).cons (le_of_hexDigit hz)).cons (le_of_hexDigit hy)).cons (le_of_hexDigit hx)

theorem le_of_simpleEscape {c d : Char} (h : simpleEscape? c = some d) : 0x20 ≤ c.toNat := by
  unfold simpleEscape? at h
  split_ifs at h with h1 h2 h3 h4 h5 h6
  · rcases h1 with rfl | rfl | rfl <;> decide
  · rw [h2]
    decide
  · rw [h3]
    decide
  · rw [h4]
    decide
  · rw [h5]
    decide
  · rw [h6]
    decide

theorem IsEscape.shown {d : Char} {xs following : List Char} (h : IsEscape d xs following) : Shown xs := by
  cases h with
  | letter hc => exact shown_nil.cons (le_of_simpleEscape hc)
  | unit hn => exact (shown_of_hexQuad hn).cons (by decide)
  | pair hh _ hl =>
      have hlow := ((shown_of_hexQuad hl).cons (show 0x20 ≤ 'u'.toNat by decide)).cons (show 0x20 ≤ '\\'.toNat by decide)
      exact ((shown_of_hexQuad hh).append hlow).cons (by decide)

theorem IsQuoted.shown {chars : List Char} (h : IsQuoted chars cs) : Shown cs := by
  induction h with
  | close => exact shown_of_all (by decide)
  | plain _ _ hcontrol _ ih => exact ih.cons hcontrol
  | escape hd _ ih => exact (hd.shown.append ih).cons (by decide)

theorem Shown.not_mem {c : Char} (h : Shown cs) (hc : c.toNat < 0x20) : c ∉ cs :=
  fun hmem => absurd (h c hmem) (Nat.not_le.2 hc)

/-- Parts without control characters are spelled in one way. -/
theorem Shown.eq_of_unify (h : Shown cs) (heq : unifyNewlines cs' = unifyNewlines cs) : cs' = cs := by
  rw [Text.unifyNewlines_eq_self (h.not_mem (by decide))] at heq
  exact Text.eq_of_unifyNewlines_eq (h.not_mem (by decide)) heq

/-! ### Cuts between parts -/

/-- The last character is no carriage return. -/
def EndsShown (cs : List Char) : Prop :=
  ∃ init c, cs = init ++ [c] ∧ c ≠ '\r'

theorem EndsShown.append (h : EndsShown cs) (before : List Char) : EndsShown (before ++ cs) := by
  obtain ⟨init, c, rfl, hc⟩ := h
  exact ⟨before ++ init, c, (List.append_assoc _ _ _).symm, hc⟩

theorem EndsShown.cons (h : EndsShown cs) (c : Char) : EndsShown (c :: cs) :=
  h.append [c]

theorem endsShown_singleton {c : Char} (hc : c ≠ '\r') : EndsShown [c] :=
  ⟨[], c, rfl, hc⟩

theorem Shown.endsShown (h : Shown cs) (hne : cs ≠ []) : EndsShown cs := by
  refine ⟨cs.dropLast, cs.getLast hne, (List.dropLast_concat_getLast hne).symm, ?_⟩
  intro hlast
  exact h.not_mem (c := '\r') (by decide) (hlast ▸ List.getLast_mem hne)

theorem IsQuoted.endsShown {chars : List Char} (h : IsQuoted chars cs) : EndsShown cs := by
  obtain ⟨c, more, rfl⟩ := h.cons
  exact h.shown.endsShown (List.cons_ne_nil _ _)

theorem Spells.endsShown {part : Part} (h : Spells digits depth part cs) : EndsShown cs := by
  induction h with
  | constant h =>
      refine h.shown.endsShown ?_
      cases h <;> simp
  | positive h =>
      obtain ⟨c, more, rfl, -⟩ := h.cons
      exact h.shown.endsShown (List.cons_ne_nil _ _)
  | negative h =>
      obtain ⟨c, more, rfl, -⟩ := h.cons
      exact (h.shown.endsShown (List.cons_ne_nil _ _)).cons _
  | text h => exact h.endsShown.cons _
  | emptyArray => exact ((endsShown_singleton (by decide)).append _).cons _
  | emptyObject => exact ((endsShown_singleton (by decide)).append _).cons _
  | array _ ih => exact ih.cons _
  | object _ ih => exact ih.cons _
  | lastItem => exact (((endsShown_singleton (by decide)).append _).append _).append _
  | item _ _ _ _ _ ih => exact (((ih.cons _).append _).append _).append _
  | lastField =>
      exact ((((((((endsShown_singleton (by decide)).append _).append _).append _).cons _).append _).append _).cons _).append _
  | field _ _ _ _ _ _ _ _ ih =>
      exact ((((((((ih.cons _).append _).append _).append _).cons _).append _).append _).cons _).append _

theorem EndsShown.unify_append (h : EndsShown cs) (rest : List Char) :
    unifyNewlines (cs ++ rest) = unifyNewlines cs ++ unifyNewlines rest := by
  obtain ⟨init, c, rfl, hc⟩ := h
  refine Text.unifyNewlines_append fun hlast => ?_
  rw [List.getLast?_concat, Option.some.injEq] at hlast
  exact absurd hlast hc

/-- Any text may be cut before a character that is no line feed. -/
theorem unify_append_cons {c : Char} (hc : c ≠ '\n') (before rest : List Char) :
    unifyNewlines (before ++ c :: rest) = unifyNewlines before ++ unifyNewlines (c :: rest) := by
  refine Text.unifyNewlines_append fun _ hhead => ?_
  exact hc (Option.some.inj hhead)

theorem blank_unifyNewlines : Blank (unifyNewlines cs) ↔ Blank cs := by
  have hcons : ∀ {c : Char} {rest : List Char}, Blank (c :: rest) ↔ isBlank c = true ∧ Blank rest := by
    intro c rest
    simp [Blank]
  have hreturn : isBlank '\r' = true := by decide
  have hfeed : isBlank '\n' = true := by decide
  induction cs using Text.newline_induction with
  | nil => exact Iff.rfl
  | pair rest ih =>
      rw [Text.unifyNewlines_pair]
      simp only [hcons, ih, hreturn, hfeed, true_and]
  | lone rest h ih =>
      rw [Text.unifyNewlines_return h]
      simp only [hcons, ih, hreturn, hfeed]
  | cons c rest hc ih =>
      rw [Text.unifyNewlines_cons hc]
      simp only [hcons, ih]

/-! ### Documents -/

theorem blank_of_unify_eq {b b' : List Char} (hb : Blank b) (heq : unifyNewlines b' = unifyNewlines b) : Blank b' :=
  blank_unifyNewlines.1 (heq ▸ blank_unifyNewlines.2 hb)

/-- A text with the same lines as one with a bracket, a comma, a colon or a quote in it has that character too. -/
theorem cut_before {b rest : List Char} (c : Char) (hfeed : c ≠ '\n') (hreturn : c ≠ '\r')
    (heq : unifyNewlines cs = unifyNewlines (b ++ c :: rest)) :
    ∃ b' rest', cs = b' ++ c :: rest' ∧ unifyNewlines b' = unifyNewlines b ∧ unifyNewlines rest' = unifyNewlines rest := by
  rw [unify_append_cons hfeed, Text.unifyNewlines_cons hreturn] at heq
  obtain ⟨b', after, rfl, hb, hafter⟩ := Text.exists_of_unifyNewlines_eq_append heq
  obtain ⟨rest', rfl, hrest⟩ := Text.exists_of_unifyNewlines_eq_cons hfeed hafter
  exact ⟨b', rest', rfl, hb, hrest⟩

/-- A text with the same lines as one that starts with blanks and a value has their lines at its start. -/
theorem cut_value {b spelled rest : List Char} {v : Value} (h : Spells digits depth (.value v) spelled)
    (heq : unifyNewlines cs = unifyNewlines (b ++ (spelled ++ rest))) :
    ∃ b' spelled' rest', cs = b' ++ (spelled' ++ rest') ∧ unifyNewlines b' = unifyNewlines b ∧
      unifyNewlines spelled' = unifyNewlines spelled ∧ unifyNewlines rest' = unifyNewlines rest := by
  have hcut : unifyNewlines (b ++ (spelled ++ rest)) =
      unifyNewlines b ++ (unifyNewlines spelled ++ unifyNewlines rest) := by
    rw [← h.endsShown.unify_append]
    obtain ⟨c, more, rfl, hc⟩ := h.value_cons
    exact unify_append_cons (ne_of_holds hc (by decide)) b (more ++ rest)
  rw [hcut] at heq
  obtain ⟨b', after, rfl, hb, hafter⟩ := Text.exists_of_unifyNewlines_eq_append heq
  obtain ⟨spelled', rest', rfl, hspelled, hrest⟩ := Text.exists_of_unifyNewlines_eq_append hafter
  exact ⟨b', spelled', rest', rfl, hb, hspelled, hrest⟩

theorem cut_name {b name spelled rest : List Char} (h : IsQuoted name spelled)
    (heq : unifyNewlines cs = unifyNewlines (b ++ '\x22' :: (spelled ++ rest))) :
    ∃ b' rest', cs = b' ++ '\x22' :: (spelled ++ rest') ∧ unifyNewlines b' = unifyNewlines b ∧
      unifyNewlines rest' = unifyNewlines rest := by
  obtain ⟨b', after, rfl, hb, hafter⟩ := cut_before '\x22' (by decide) (by decide) heq
  rw [h.endsShown.unify_append] at hafter
  obtain ⟨spelled', rest', rfl, hspelled, hrest⟩ := Text.exists_of_unifyNewlines_eq_append hafter
  rw [h.shown.eq_of_unify hspelled]
  exact ⟨b', rest', rfl, hb, hrest⟩

/-- Texts with the same lines spell the same. -/
theorem Spells.of_unify_eq {part : Part} (h : Spells digits depth part cs) (heq : unifyNewlines cs' = unifyNewlines cs) :
    Spells digits depth part cs' := by
  -- what holds no line end is the same in both texts; only the blanks between may differ
  induction h generalizing cs' with
  | constant h =>
      rw [h.shown.eq_of_unify heq]
      exact .constant h
  | positive h =>
      rw [h.shown.eq_of_unify heq]
      exact .positive h
  | negative h =>
      rw [(h.shown.cons (by decide)).eq_of_unify heq]
      exact .negative h
  | text h =>
      rw [(h.shown.cons (by decide)).eq_of_unify heq]
      exact .text h
  | @emptyArray _ b hb =>
      obtain ⟨before, after, rfl, hbefore, hafter⟩ := cut_before (b := []) '[' (by decide) (by decide) heq
      obtain ⟨b', rest, rfl, hb', hrest⟩ := cut_before ']' (by decide) (by decide) hafter
      rw [Text.eq_nil_of_unifyNewlines_eq hbefore, Text.eq_nil_of_unifyNewlines_eq hrest]
      exact .emptyArray (blank_of_unify_eq hb hb')
  | @emptyObject _ b hb =>
      obtain ⟨before, after, rfl, hbefore, hafter⟩ := cut_before (b := []) '\x7b' (by decide) (by decide) heq
      obtain ⟨b', rest, rfl, hb', hrest⟩ := cut_before '\x7d' (by decide) (by decide) hafter
      rw [Text.eq_nil_of_unifyNewlines_eq hbefore, Text.eq_nil_of_unifyNewlines_eq hrest]
      exact .emptyObject (blank_of_unify_eq hb hb')
  | array _ ih =>
      obtain ⟨before, after, rfl, hbefore, hafter⟩ := cut_before (b := []) '[' (by decide) (by decide) heq
      rw [Text.eq_nil_of_unifyNewlines_eq hbefore]
      exact .array (ih hafter)
  | object _ ih =>
      obtain ⟨before, after, rfl, hbefore, hafter⟩ := cut_before (b := []) '\x7b' (by decide) (by decide) heq
      rw [Text.eq_nil_of_unifyNewlines_eq hbefore]
      exact .object (ih hafter)
  | lastItem hb h hb' ih =>
      obtain ⟨b, spelled, after, rfl, hbefore, hspelled, hafter⟩ := cut_value h heq
      obtain ⟨b', rest, rfl, hblank, hrest⟩ := cut_before ']' (by decide) (by decide) hafter
      rw [Text.eq_nil_of_unifyNewlines_eq hrest]
      exact .lastItem (blank_of_unify_eq hb hbefore) (ih hspelled) (blank_of_unify_eq hb' hblank)
  | item hb h hb' _ ih ihmore =>
      obtain ⟨b, spelled, after, rfl, hbefore, hspelled, hafter⟩ := cut_value h heq
      obtain ⟨b', more, rfl, hblank, hmore⟩ := cut_before ',' (by decide) (by decide) hafter
      exact .item (blank_of_unify_eq hb hbefore) (ih hspelled) (blank_of_unify_eq hb' hblank) (ihmore hmore)
  | lastField hb hname hb₁ hb₂ h hb' ih =>
      obtain ⟨b, afterName, rfl, hbefore, hafterName⟩ := cut_name hname heq
      obtain ⟨b₁, beforeValue, rfl, hblank₁, hbeforeValue⟩ := cut_before ':' (by decide) (by decide) hafterName
      obtain ⟨b₂, spelled, after, rfl, hblank₂, hspelled, hafter⟩ := cut_value h hbeforeValue
      obtain ⟨b', rest, rfl, hblank, hrest⟩ := cut_before '\x7d' (by decide) (by decide) hafter
      rw [Text.eq_nil_of_unifyNewlines_eq hrest]
      exact .lastField (blank_of_unify_eq hb hbefore) hname (blank_of_unify_eq hb₁ hblank₁) (blank_of_unify_eq hb₂ hblank₂)
        (ih hspelled) (blank_of_unify_eq hb' hblank)
  | field hb hname hb₁ hb₂ h hb' _ ih ihmore =>
      obtain ⟨b, afterName, rfl, hbefore, hafterName⟩ := cut_name hname heq
      obtain ⟨b₁, beforeValue, rfl, hblank₁, hbeforeValue⟩ := cut_before ':' (by decide) (by decide) hafterName
      obtain ⟨b₂, spelled, after, rfl, hblank₂, hspelled, hafter⟩ := cut_value h hbeforeValue
      obtain ⟨b', more, rfl, hblank, hmore⟩ := cut_before ',' (by decide) (by decide) hafter
      exact .field (blank_of_unify_eq hb hbefore) hname (blank_of_unify_eq hb₁ hblank₁) (blank_of_unify_eq hb₂ hblank₂)
        (ih hspelled) (blank_of_unify_eq hb' hblank) (ihmore hmore)

theorem IsObject.of_unify_eq {fs : List (String × Value)} (h : IsObject digits depth fs cs)
    (heq : unifyNewlines cs' = unifyNewlines cs) : IsObject digits depth fs cs' := by
  obtain ⟨b, inside, b', hb, hinside, hb', rfl⟩ := h
  obtain ⟨before, after, rfl, hbefore, hafter⟩ := cut_before '\x7b' (by decide) (by decide) heq
  rw [hinside.endsShown.unify_append] at hafter
  obtain ⟨inside', blanks, rfl, hinside', hblanks⟩ := Text.exists_of_unifyNewlines_eq_append hafter
  exact ⟨before, inside', blanks, blank_of_unify_eq hb hbefore, hinside.of_unify_eq hinside',
    blank_of_unify_eq hb' hblanks, rfl⟩

theorem isObject_unifyNewlines {fs : List (String × Value)} :
    IsObject digits depth fs (unifyNewlines cs) ↔ IsObject digits depth fs cs :=
  ⟨fun h => h.of_unify_eq (Text.unifyNewlines_unifyNewlines cs).symm,
    fun h => h.of_unify_eq (Text.unifyNewlines_unifyNewlines cs)⟩

/-! ### What passes a bound -/

theorem countP_unifyNewlines {p : Char → Bool} (hreturn : p '\r' = false) (hfeed : p '\n' = false) (cs : List Char) :
    (unifyNewlines cs).countP p = cs.countP p := by
  induction cs using Text.newline_induction with
  | nil => rfl
  | pair rest ih =>
      rw [Text.unifyNewlines_pair]
      simp only [List.countP_cons, ih, hreturn, hfeed]
      rfl
  | lone rest h ih =>
      rw [Text.unifyNewlines_return h]
      simp only [List.countP_cons, ih, hreturn, hfeed]
  | cons c rest hc ih =>
      rw [Text.unifyNewlines_cons hc]
      simp only [List.countP_cons, ih]

theorem HasDigits.of_unifyNewlines {n : Nat} (h : HasDigits n (unifyNewlines cs)) : HasDigits n cs := by
  obtain ⟨run, ⟨before, after, heq⟩, hlength, hdigits⟩ := h
  rw [List.append_assoc] at heq
  obtain ⟨before', rest, rfl, -, hrest⟩ := Text.exists_of_unifyNewlines_eq_append heq.symm
  obtain ⟨run', after', rfl, hrun, -⟩ := Text.exists_of_unifyNewlines_eq_append hrest
  have hfeed : '\n' ∉ run := fun hmem => absurd (hdigits '\n' hmem) (by decide)
  obtain rfl := Text.eq_of_unifyNewlines_eq hfeed hrun
  exact ⟨run', ⟨before', after', List.append_assoc _ _ _⟩, hlength, hdigits⟩

theorem Passes.of_unifyNewlines {e : Stop} (h : Passes depth (unifyNewlines cs) e) : Passes depth cs e := by
  cases e with
  | problem kind left => trivial
  | tooDeep =>
      have hcount := countP_unifyNewlines (p := isOpening) (by decide) (by decide) cs
      exact Nat.lt_of_lt_of_eq h hcount
  | tooManyDigits n => exact ⟨h.1, h.2.of_unifyNewlines⟩

end RequirePath.Json
