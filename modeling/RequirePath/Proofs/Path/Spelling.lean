import Mathlib.Tactic.SplitIfs
import RequirePath.Config.Basic
import RequirePath.File.Resolve
import RequirePath.Proofs.Text.Pieces

/-! The spelling of a path and the names that are read off it. A normal path is absolute and has plain names
only, as the root of a configuration has; its spelling is looked up name by name, and the path of an entry is
its spelling with one more name. -/

namespace RequirePath

theorem Pathname.endsInAny_iff {path : Pathname} {endings : List Pathname} :
    endsInAny path endings = true ↔ ∃ s ∈ endings, s <:+ path := by
  simp only [endsInAny, List.any_eq_true, List.isSuffixOf_iff_suffix]

/-- A name that is no dot or double dot and has no slash in it. -/
structure IsPlainName (name : Filename) : Prop where
  ne_nil : name ≠ []
  slash_notMem : slash ∉ name
  ne_dot : name ≠ dot
  ne_dotDot : name ≠ dotDot

instance (name : Filename) : Decidable (IsPlainName name) :=
  decidable_of_iff (name ≠ [] ∧ slash ∉ name ∧ name ≠ dot ∧ name ≠ dotDot)
    ⟨fun ⟨h₁, h₂, h₃, h₄⟩ => ⟨h₁, h₂, h₃, h₄⟩, fun h => ⟨h.1, h.2, h.3, h.4⟩⟩

namespace LexicalPath

variable {p : LexicalPath} {name : Filename} {names : List Filename}

/-- An absolute path of plain names. -/
structure Normal (p : LexicalPath) : Prop where
  isAbsolute : p.isAbsolute = true
  plain : ∀ name ∈ p.names, IsPlainName name

instance (p : LexicalPath) : Decidable p.Normal :=
  decidable_of_iff (p.isAbsolute = true ∧ ∀ name ∈ p.names, IsPlainName name)
    ⟨fun ⟨h₁, h₂⟩ => ⟨h₁, h₂⟩, fun h => ⟨h.1, h.2⟩⟩

/-- An absolute path as reading a spelling gives it. There may be double dots among its names. -/
structure Tidy (p : LexicalPath) : Prop where
  isAbsolute : p.isAbsolute = true
  names : ∀ name ∈ p.names, name ≠ [] ∧ slash ∉ name ∧ name ≠ dot

theorem Normal.tidy (h : p.Normal) : p.Tidy :=
  ⟨h.isAbsolute, fun name hn => ⟨(h.plain name hn).ne_nil, (h.plain name hn).slash_notMem, (h.plain name hn).ne_dot⟩⟩

/-- A tidy path without double dots is normal. -/
theorem Tidy.normal (h : p.Tidy) (hd : dotDot ∉ p.names) : p.Normal := by
  refine ⟨h.isAbsolute, fun name hm => ?_⟩
  obtain ⟨hne, hslash, hdot⟩ := h.names name hm
  exact ⟨hne, hslash, hdot, fun he => hd (he ▸ hm)⟩

/-- The path of an entry of a directory. -/
def entry (p : LexicalPath) (name : Filename) : LexicalPath := ⟨p.anchor, p.names ++ [name]⟩

theorem Normal.entry (h : p.Normal) (hn : IsPlainName name) : (p.entry name).Normal := by
  refine ⟨h.isAbsolute, fun x hx => ?_⟩
  rcases List.mem_append.1 hx with hx | hx
  · exact h.plain x hx
  · rwa [List.mem_singleton.1 hx]

/-- A plain name alone is a path of one name. -/
theorem parse_plain (h : IsPlainName name) : parse name = ⟨.relative, [name]⟩ := by
  have hnames : namesOf name = [name] := by
    rw [namesOf, Text.splitAt_of_not_mem h.slash_notMem, List.filter_cons_of_pos, List.filter_nil]
    simp [h.ne_nil, h.ne_dot]
  have hanchor : Anchor.of name = .relative := by
    have hhead : ∀ a rest, name = a :: rest → (a != slash) = true := by
      rintro a rest rfl
      exact bne_iff_ne.2 fun he => h.slash_notMem (he ▸ List.mem_cons_self)
    unfold Anchor.of
    split
    · rw [if_pos (hhead _ _ rfl)]
    · rw [if_pos (hhead _ _ rfl)]
    · rw [if_pos (hhead _ _ rfl)]
    · rfl
  rw [parse, hnames, hanchor]

theorem join_parse_plain (p : LexicalPath) (h : IsPlainName name) : p.join (parse name) = p.entry name := by
  rw [parse_plain h]
  rfl

/-! ### Spelling -/

theorem Tidy.spelling_eq (h : p.Tidy) : p.spelling = p.anchor.spelling ++ joinNames p.names := by
  obtain ⟨anchor, names⟩ := p
  have habs := h.isAbsolute
  cases anchor with
  | relative => simp [LexicalPath.isAbsolute] at habs
  | root => rfl
  | doubleRoot => rfl

theorem spelling_eq (h : p.Normal) : p.spelling = p.anchor.spelling ++ joinNames p.names :=
  h.tidy.spelling_eq

theorem joinNames_cons (hne : names ≠ []) (name : Filename) :
    joinNames (name :: names) = name ++ slash :: joinNames names := by
  obtain ⟨x, xs, rfl⟩ := List.exists_cons_of_ne_nil hne
  rfl

theorem joinNames_append (hne : names ≠ []) (name : Filename) :
    joinNames (names ++ [name]) = joinNames names ++ slash :: name := by
  induction names with
  | nil => exact absurd rfl hne
  | cons x xs ih =>
      cases xs with
      | nil => rfl
      | cons y ys =>
          have hne' : y :: ys ≠ [] := List.cons_ne_nil _ _
          rw [List.cons_append, joinNames_cons (List.append_ne_nil_of_left_ne_nil hne' _), ih hne',
            joinNames_cons hne', List.append_assoc, List.cons_append]

theorem getLast?_joinNames (hne : names ≠ []) (hnames : ∀ name ∈ names, name ≠ [] ∧ slash ∉ name ∧ name ≠ dot) :
    (joinNames names).getLast? ≠ some slash := by
  induction names with
  | nil => exact absurd rfl hne
  | cons x xs ih =>
      obtain ⟨-, hx, -⟩ := hnames x List.mem_cons_self
      cases xs with
      | nil =>
          rw [joinNames]
          exact fun h => hx (List.mem_of_getLast? h)
      | cons y ys =>
          have hrest := ih (List.cons_ne_nil _ _) fun z hz => hnames z (List.mem_cons_of_mem _ hz)
          have hnil : joinNames (y :: ys) ≠ [] := by
            have hy := (hnames y (by simp)).1
            cases ys with
            | nil => exact hy
            | cons z zs => simp [joinNames_cons]
          obtain ⟨b, bs, hb⟩ := List.exists_cons_of_ne_nil hnil
          rw [joinNames_cons (by simp), hb, List.getLast?_append, List.getLast?_cons_cons, ← hb]
          cases hlast : (joinNames (y :: ys)).getLast? with
          | none => rw [List.getLast?_eq_none_iff, hb] at hlast; cases hlast
          | some c => rwa [hlast] at hrest

theorem splitAt_joinNames (hne : names ≠ []) (h : ∀ x ∈ names, slash ∉ x) : Text.splitAt slash (joinNames names) = names := by
  induction names with
  | nil => exact absurd rfl hne
  | cons x xs ih =>
      obtain ⟨hx, hxs⟩ := List.forall_mem_cons.1 h
      cases xs with
      | nil => exact Text.splitAt_of_not_mem hx
      | cons y ys =>
          rw [joinNames_cons (List.cons_ne_nil _ _), Text.splitAt_append hx, ih (List.cons_ne_nil _ _) hxs]

/-- The pieces of a path between its slashes make it up again. -/
theorem joinNames_splitAt (path : Pathname) : joinNames (Text.splitAt slash path) = path := by
  induction path with
  | nil => rfl
  | cons b rest ih =>
      by_cases hb : (b == slash) = true
      · rw [Text.splitAt_cons_of_beq hb, joinNames_cons (Text.splitAt_ne_nil slash rest), ih, eq_of_beq hb, List.nil_append]
      · obtain ⟨piece, pieces, hp⟩ := List.exists_cons_of_ne_nil (Text.splitAt_ne_nil slash rest)
        rw [Text.splitAt_cons_of_not_beq hb hp]
        rw [hp] at ih
        cases pieces with
        | nil => rw [← ih]; rfl
        | cons y ys => rw [← ih]; rfl

open FileSystem (steps endsInSlash)

theorem steps_cons_slash (path : Pathname) : steps (slash :: path) = steps path := by
  rw [steps, Text.splitAt_cons_self, List.filter_cons_of_neg (by simp), steps]

theorem steps_anchor_append (anchor : Anchor) (path : Pathname) : steps (anchor.spelling ++ path) = steps path := by
  cases anchor with
  | relative => rfl
  | root => exact steps_cons_slash path
  | doubleRoot => exact (steps_cons_slash (slash :: path)).trans (steps_cons_slash path)

theorem steps_joinNames (hnames : ∀ name ∈ names, name ≠ [] ∧ slash ∉ name ∧ name ≠ dot) : steps (joinNames names) = names := by
  induction names with
  | nil => rfl
  | cons x xs ih =>
      obtain ⟨hne, hx, -⟩ := hnames x List.mem_cons_self
      have hrest := ih fun z hz => hnames z (List.mem_cons_of_mem _ hz)
      have hkeep : (!x.isEmpty) = true := by simpa using hne
      cases xs with
      | nil =>
          rw [joinNames, steps, Text.splitAt_of_not_mem hx]
          exact List.filter_cons_of_pos hkeep
      | cons y ys =>
          rw [steps] at hrest
          rw [joinNames_cons (by simp), steps, Text.splitAt_append hx, List.filter_cons, if_pos hkeep, hrest]

/-- The names that a path is looked up by are its own. -/
theorem Tidy.steps_spelling (h : p.Tidy) : steps p.spelling = p.names := by
  rw [h.spelling_eq, steps_anchor_append, steps_joinNames h.names]

theorem steps_spelling (h : p.Normal) : steps p.spelling = p.names :=
  h.tidy.steps_spelling

theorem Tidy.isAbsolute_spelling (h : p.Tidy) : Pathname.isAbsolute p.spelling = true := by
  rw [h.spelling_eq]
  obtain ⟨anchor, names⟩ := p
  have habs := h.isAbsolute
  cases anchor with
  | relative => simp [LexicalPath.isAbsolute] at habs
  | root => rfl
  | doubleRoot => rfl

theorem isAbsolute_spelling (h : p.Normal) : Pathname.isAbsolute p.spelling = true :=
  h.tidy.isAbsolute_spelling

theorem linkStart_spelling (h : p.Normal) (cwd : Location) : (if Pathname.isAbsolute p.spelling then [] else cwd) = [] := by
  rw [isAbsolute_spelling h, if_pos rfl]

theorem Tidy.endsInSlash_spelling (h : p.Tidy) (hne : p.names ≠ []) : endsInSlash p.spelling = false := by
  have hlast := getLast?_joinNames hne h.names
  rw [endsInSlash, h.spelling_eq, beq_eq_false_iff_ne]
  cases hj : joinNames p.names with
  | nil =>
      obtain ⟨x, xs, hx⟩ := List.exists_cons_of_ne_nil hne
      have hs := steps_joinNames h.names
      rw [hj, hx] at hs
      cases hs
  | cons b bs =>
      rw [hj] at hlast
      rw [List.getLast?_append]
      cases hb : (b :: bs).getLast? with
      | none => rw [List.getLast?_eq_none_iff] at hb; cases hb
      | some c => rwa [hb] at hlast

theorem endsInSlash_spelling (h : p.Normal) (hne : p.names ≠ []) : endsInSlash p.spelling = false :=
  h.tidy.endsInSlash_spelling hne

theorem spelling_ne_nil (h : p.Normal) : p.spelling ≠ [] := by
  intro he
  have := isAbsolute_spelling h
  rw [he] at this
  cases this

/-- The spelling of an entry is that of its directory and its name. -/
theorem tidyChild_spelling (h : p.Normal) (hn : IsPlainName name) :
    Pathname.tidyChild p.spelling name = (p.entry name).spelling := by
  rw [spelling_eq (h.entry hn), Pathname.tidyChild, spelling_eq h]
  by_cases hne : p.names = []
  · obtain ⟨anchor, names⟩ := p
    have habs := h.isAbsolute
    simp only at hne
    subst hne
    cases anchor with
    | relative => simp [LexicalPath.isAbsolute] at habs
    | root => rfl
    | doubleRoot => rfl
  · have hlast := endsInSlash_spelling h hne
    rw [endsInSlash, spelling_eq h] at hlast
    rw [hlast, if_neg Bool.false_ne_true, entry, joinNames_append hne, Pathname.child, List.append_assoc]

/-! ### Removal of double dots -/

theorem collapseStep_of_ne {absolute : Bool} {done : List Filename} (h : name ≠ dotDot) :
    collapseStep absolute done name = name :: done := by
  unfold collapseStep
  rw [if_pos (bne_iff_ne.2 h)]

/-- A double dot removes the name before it. -/
theorem collapseStep_dotDot {done : List Filename} (h : ∀ x ∈ done, x ≠ dotDot) :
    collapseStep true done dotDot = done.tail := by
  unfold collapseStep
  cases done with
  | nil => rfl
  | cons last before =>
      have hlast : (last == dotDot) = false := beq_false_of_ne (h last List.mem_cons_self)
      simp [hlast]

theorem foldl_collapseStep (hplain : ∀ name ∈ names, name ≠ dotDot) (absolute : Bool) (done : List Filename) :
    names.foldl (collapseStep absolute) done = names.reverse ++ done := by
  induction names generalizing done with
  | nil => rfl
  | cons x xs ih =>
      rw [List.foldl_cons, collapseStep_of_ne (hplain x List.mem_cons_self), ih fun z hz => hplain z (List.mem_cons_of_mem _ hz)]
      simp

theorem collapse_eq_self (h : p.Normal) : p.collapse = p := by
  rw [collapse, foldl_collapseStep fun x hx => (h.plain x hx).ne_dotDot]
  simp

/-- A normal path means the same from every working directory. -/
theorem absolute_eq_self (h : p.Normal) (workingDirectory : LexicalPath) : absolute workingDirectory p = p := by
  rw [absolute, join, if_pos h.isAbsolute, collapse_eq_self h]

/-- The names that are left once an absolute path has no double dots are names of it. -/
theorem mem_foldl_collapseStep {done : List Filename} (h : name ∈ names.foldl (collapseStep true) done)
    (hd : ∀ x ∈ done, x ≠ dotDot) : (name ∈ names ∨ name ∈ done) ∧ name ≠ dotDot := by
  induction names generalizing done with
  | nil => exact ⟨Or.inr h, hd name h⟩
  | cons x xs ih =>
      have hstep : ∀ y ∈ collapseStep true done x, (y = x ∨ y ∈ done) ∧ y ≠ dotDot := by
        intro y hy
        by_cases hx : x = dotDot
        · rw [hx, collapseStep_dotDot hd] at hy
          have hm := List.mem_of_mem_tail hy
          exact ⟨Or.inr hm, hd y hm⟩
        · rw [collapseStep_of_ne hx] at hy
          rcases List.mem_cons.1 hy with rfl | hy
          · exact ⟨Or.inl rfl, hx⟩
          · exact ⟨Or.inr hy, hd y hy⟩
      obtain ⟨hm, hne⟩ := ih h fun y hy => (hstep y hy).2
      refine ⟨?_, hne⟩
      rcases hm with hm | hm
      · exact Or.inl (List.mem_cons_of_mem _ hm)
      · rcases (hstep name hm).1 with rfl | hm
        · exact Or.inl List.mem_cons_self
        · exact Or.inr hm

theorem normal_collapse (habs : p.isAbsolute = true)
    (hn : ∀ name ∈ p.names, name ≠ [] ∧ slash ∉ name ∧ name ≠ dot) : p.collapse.Normal := by
  refine ⟨habs, fun name hm => ?_⟩
  rw [collapse, habs] at hm
  obtain ⟨hm, hne⟩ := mem_foldl_collapseStep (List.mem_reverse.1 hm) nofun
  obtain ⟨h₁, h₂, h₃⟩ := hn name (hm.resolve_right List.not_mem_nil)
  exact ⟨h₁, h₂, h₃, hne⟩

theorem of_mem_namesOf {path : Pathname} (h : name ∈ namesOf path) : name ≠ [] ∧ slash ∉ name ∧ name ≠ dot := by
  obtain ⟨hm, hk⟩ := List.mem_filter.1 h
  simp only [Bool.and_eq_true, Bool.not_eq_true', bne_iff_ne, List.isEmpty_eq_false_iff] at hk
  exact ⟨hk.1, Text.not_mem_of_mem_splitAt hm, hk.2⟩

/-- A path that is read in a tidy directory. -/
theorem Tidy.join_parse (h : p.Tidy) (path : Pathname) : (p.join (parse path)).Tidy := by
  have hparse : ∀ name ∈ (parse path).names, name ≠ [] ∧ slash ∉ name ∧ name ≠ dot := fun name hm => of_mem_namesOf hm
  rw [join]
  split_ifs with habs
  · exact ⟨habs, hparse⟩
  · exact ⟨h.isAbsolute, fun name hm => (List.mem_append.1 hm).elim (h.names name) (hparse name)⟩

theorem tidy_join_parse (h : p.Normal) (path : Pathname) : (p.join (parse path)).Tidy :=
  h.tidy.join_parse path

/-- A tidy path means a normal one, the same from every working directory. -/
theorem Tidy.normal_absolute (h : p.Tidy) (workingDirectory : LexicalPath) : (absolute workingDirectory p).Normal := by
  rw [absolute, join, if_pos h.isAbsolute]
  exact normal_collapse h.isAbsolute h.names

theorem normal_absolute {workingDirectory : LexicalPath} (h : workingDirectory.Tidy) (s : String) :
    (absolute workingDirectory (ofText s)).Normal := by
  have htidy := h.join_parse (Pathname.ofText s)
  exact normal_collapse htidy.isAbsolute htidy.names

end LexicalPath

end RequirePath
