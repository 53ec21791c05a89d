import Mathlib.Data.List.Infix
import RequirePath.Proofs.Path.Within

/-! Double dots after a directory. A path that is spelled within a normal one has more names after those of that path.
By themselves these names climb some levels up and then go down other names; behind the normal path, each level removes
one of its last names. So the path without double dots is within the normal one exactly if the way down is over the names
that the climb has removed. -/

namespace RequirePath

open FileSystem (steps)

/-! ### The climb of names -/

namespace LexicalPath

variable {p q : LexicalPath} {name : Filename} {names down up : List Filename} {levels : Nat}

theorem collapseStep_dotDot_relative (hd : dotDot ∉ down) (levels : Nat) :
    collapseStep false (down ++ List.replicate levels dotDot) dotDot =
      if down = [] then List.replicate (levels + 1) dotDot else down.tail ++ List.replicate levels dotDot := by
  cases down with
  | nil => cases levels <;> rfl
  | cons last before =>
      have hlast : (last == dotDot) = false := beq_false_of_ne fun he => hd (he ▸ List.mem_cons_self)
      simp [collapseStep, hlast]

/-- The same names behind a relative path without names and behind an absolute one, whose names stand in reverse: the
levels that the first one climbs are taken from the second one. -/
theorem foldl_collapseStep_climb (hu : dotDot ∉ up) (hd : dotDot ∉ down) (levels : Nat) (names : List Filename) :
    ∃ down' levels', dotDot ∉ down' ∧
      names.foldl (collapseStep false) (down ++ List.replicate levels dotDot) =
        down' ++ List.replicate levels' dotDot ∧
      names.foldl (collapseStep true) (down ++ up.drop levels) = down' ++ up.drop levels' := by
  induction names generalizing down levels with
  | nil => exact ⟨down, levels, hd, rfl, rfl⟩
  | cons name rest ih =>
      rw [List.foldl_cons, List.foldl_cons]
      by_cases hname : name = dotDot
      -- a double dot takes back a name on the way down, and climbs one level more if there is none
      · have habove : ∀ x ∈ down ++ up.drop levels, x ≠ dotDot := by
          rintro x hx rfl
          exact (List.mem_append.1 hx).elim hd fun hx => hu (List.mem_of_mem_drop hx)
        rw [hname, collapseStep_dotDot_relative hd, collapseStep_dotDot habove]
        cases down with
        | nil =>
            rw [if_pos rfl, List.nil_append, List.tail_drop]
            exact ih hd (levels + 1)
        | cons last before =>
            rw [if_neg (List.cons_ne_nil _ _)]
            exact ih (fun h => hd (List.mem_cons_of_mem _ h)) levels
      · rw [collapseStep_of_ne hname, collapseStep_of_ne hname]
        have hdown : dotDot ∉ name :: down := List.not_mem_cons_of_ne_of_not_mem (Ne.symm hname) hd
        exact ih hdown levels

/-- Names behind those of an absolute path climb out of its last names and go down others. -/
theorem collapse_append (ha : p.isAbsolute = true) (hp : dotDot ∉ p.names) (names : List Filename) :
    ∃ levels below, dotDot ∉ below ∧
      (collapse ⟨.relative, names⟩).names = List.replicate levels dotDot ++ below ∧
      (collapse ⟨p.anchor, p.names ++ names⟩).names = p.names.take (p.names.length - levels) ++ below := by
  have hreverse : dotDot ∉ p.names.reverse := fun h => hp (List.mem_reverse.1 h)
  obtain ⟨down, levels, hdown, hrelative, habsolute⟩ :=
    foldl_collapseStep_climb hreverse List.not_mem_nil 0 names
  refine ⟨levels, down.reverse, fun h => hdown (List.mem_reverse.1 h), ?_, ?_⟩
  · have hstart : (collapse ⟨.relative, names⟩).names = (names.foldl (collapseStep false) []).reverse := rfl
    rw [hstart, show names.foldl (collapseStep false) [] = _ from hrelative, List.reverse_append, List.reverse_replicate]
  · have hstart : (collapse ⟨p.anchor, p.names ++ names⟩).names =
        ((p.names ++ names).foldl (collapseStep p.isAbsolute) []).reverse := rfl
    have hfirst : p.names.foldl (collapseStep true) [] = [] ++ p.names.reverse.drop 0 := by
      rw [foldl_collapseStep fun x hx he => hp (he ▸ hx)]
      simp
    rw [hstart, ha, List.foldl_append, hfirst, habsolute, List.reverse_append, List.drop_reverse, List.reverse_reverse]

/-- Names that, taken one by one, never lead above where they start: among the first of them, however many, there are at
most as many double dots as other names. -/
def StaysBelow (names : List Filename) : Prop :=
  ∀ start, start <+: names → start.count dotDot ≤ start.countP (· != dotDot)

instance (names : List Filename) : Decidable (StaysBelow names) :=
  decidable_of_iff (∀ start ∈ names.inits, start.count dotDot ≤ start.countP (· != dotDot))
    (forall_congr' fun start => by rw [List.mem_inits])

/-- As long as there is a name to take back for each double dot, none is left. -/
theorem dotDot_notMem_foldl_collapseStep (hd : dotDot ∉ down)
    (hs : ∀ start, start <+: names → start.count dotDot ≤ down.length + start.countP (· != dotDot)) :
    dotDot ∉ names.foldl (collapseStep false) down := by
  induction names generalizing down with
  | nil => exact hd
  | cons name rest ih =>
      rw [List.foldl_cons]
      by_cases hname : name = dotDot
      · subst hname
        cases down with
        | nil =>
            have hfirst := hs [dotDot] (List.prefix_append _ _)
            simp at hfirst
        | cons last before =>
            have hlast : (last == dotDot) = false := beq_false_of_ne fun he => hd (he ▸ List.mem_cons_self)
            have hstep : collapseStep false (last :: before) dotDot = before := by simp [collapseStep, hlast]
            rw [hstep]
            refine ih (fun h => hd (List.mem_cons_of_mem _ h)) fun start hstart => ?_
            have hmore := hs (dotDot :: start) (List.cons_prefix_cons.2 ⟨rfl, hstart⟩)
            simp only [List.count_cons_self, List.countP_cons, bne_self_eq_false, Bool.false_eq_true, if_false,
              List.length_cons] at hmore
            omega
      · rw [collapseStep_of_ne hname]
        refine ih (List.not_mem_cons_of_ne_of_not_mem (Ne.symm hname) hd) fun start hstart => ?_
        have hmore := hs (name :: start) (List.cons_prefix_cons.2 ⟨rfl, hstart⟩)
        simp only [List.count_cons_of_ne hname, List.countP_cons, bne_iff_ne.2 hname, if_true] at hmore
        rw [List.length_cons]
        omega

/-- Names that stay below where they start leave the names before them alone. -/
theorem prefix_collapse_append (ha : p.isAbsolute = true) (hp : dotDot ∉ p.names) (hs : StaysBelow names) :
    p.names <+: (collapse ⟨p.anchor, p.names ++ names⟩).names := by
  obtain ⟨levels, below, -, hclimb, hcollapse⟩ := collapse_append ha hp names
  have hnone : dotDot ∉ (collapse ⟨.relative, names⟩).names := fun hm =>
    dotDot_notMem_foldl_collapseStep List.not_mem_nil (fun start h => Nat.le_trans (hs start h) (Nat.le_add_left _ _))
      (List.mem_reverse.1 hm)
  have hlevels : levels = 0 := by
    rw [hclimb, List.mem_append, List.mem_replicate] at hnone
    exact Nat.eq_zero_of_not_pos fun hpos => hnone (Or.inl ⟨Nat.ne_of_gt hpos, rfl⟩)
  rw [hcollapse, hlevels, Nat.sub_zero, List.take_length]
  exact List.prefix_append _ _

end LexicalPath

/-! ### Paths without double dots -/

namespace Pathname

open LexicalPath (namesOf parse collapse)

variable {path rest : Pathname} {anchor : Anchor} {p q : LexicalPath} {b : UInt8}

/-- A path with its double dots removed by spelling. -/
def normalized (path : Pathname) : Pathname := (parse path).collapse.spelling

example : normalized (ofText "/app//lib/./../../etc/x.rb") = ofText "/etc/x.rb" := by decide

theorem namesOf_eq_filter (path : Pathname) : namesOf path = (steps path).filter (· != dot) := by
  rw [namesOf, steps, List.filter_filter]
  exact congrArg (List.filter · _) (funext fun x => Bool.and_comm _ _)

theorem anchor_of_append (hb : b ≠ slash) (rest : Pathname) : Anchor.of (anchor.spelling ++ b :: rest) = anchor := by
  have hne : (b != slash) = true := bne_iff_ne.2 hb
  cases anchor with
  | relative =>
      rcases rest with - | ⟨c, - | ⟨d, rest⟩⟩
      all_goals exact if_pos hne
  | root =>
      cases rest with
      | nil => simp [Anchor.of, Anchor.spelling, hne]
      | cons c rest => simp [Anchor.of, Anchor.spelling, hne]
  | doubleRoot => simp [Anchor.of, Anchor.spelling, hne]

theorem parse_of_isWithin (hp : p.Normal) (h : isWithin path p.spelling = true) :
    ∃ names, namesOf path = p.names ++ names ∧ (p.names ≠ [] → Anchor.of path = p.anchor) := by
  obtain ⟨names, hnames⟩ := prefix_of_isWithin hp h
  refine ⟨names.filter (· != dot), ?_, fun hne => ?_⟩
  · have hself : p.names.filter (· != dot) = p.names :=
      List.filter_eq_self.2 fun x hx => bne_iff_ne.2 (hp.plain x hx).ne_dot
    rw [namesOf_eq_filter, ← hnames, List.filter_append, hself]
  · obtain ⟨x, xs, hx⟩ := List.exists_cons_of_ne_nil hne
    have hplain := hp.plain x (hx ▸ List.mem_cons_self)
    obtain ⟨b, bs, rfl⟩ := List.exists_cons_of_ne_nil hplain.ne_nil
    have hb : b ≠ slash := fun he => hplain.slash_notMem (he ▸ List.mem_cons_self)
    have hstart : p.anchor.spelling ++ [b] <+: path ++ [slash] := by
      refine List.IsPrefix.trans ?_ ((isWithin_spelling_iff hp hne).1 h)
      rw [spelling_concat_slash hp hne, hx, slashed_cons]
      exact ⟨bs ++ slash :: slashed xs, by simp⟩
    obtain ⟨rest, rfl⟩ : p.anchor.spelling ++ [b] <+: path := by
      rcases List.prefix_concat_iff.1 hstart with he | hstart
      · exact absurd (List.append_inj_right' he rfl) (by simpa using hb)
      · exact hstart
    rw [List.append_assoc, List.singleton_append]
    exact anchor_of_append hb rest

theorem normal_collapse_parse (ha : (parse path).isAbsolute = true) : (parse path).collapse.Normal :=
  LexicalPath.normal_collapse ha fun _ hm => LexicalPath.of_mem_namesOf hm

theorem isAbsolute_parse_eq (path : Pathname) : (parse path).isAbsolute = isAbsolute path := by
  have hanchor : (Anchor.of path != .relative) = (path.head? == some slash) := by
    rcases path with - | ⟨a, - | ⟨b, - | ⟨c, rest⟩⟩⟩
    · rfl
    · by_cases ha : a = slash <;> simp [Anchor.of, ha]
    · by_cases ha : a = slash <;> by_cases hb : b = slash <;> simp [Anchor.of, ha, hb]
    · by_cases ha : a = slash <;> by_cases hb : b = slash <;> by_cases hc : c = slash <;> simp [Anchor.of, ha, hb, hc]
  exact hanchor

theorem isAbsolute_parse (ha : isAbsolute path = true) : (parse path).isAbsolute = true :=
  (isAbsolute_parse_eq path).trans ha

theorem tidy_parse (ha : isAbsolute path = true) : (parse path).Tidy :=
  ⟨isAbsolute_parse ha, fun _ hm => LexicalPath.of_mem_namesOf hm⟩

/-- Which paths that are spelled within a normal one are still within it without their double dots: the names after
those of the normal path climb some levels and go down again, and the way down is over the names climbed out of. -/
theorem isWithin_normalized_iff (hp : p.Normal) (h : isWithin path p.spelling = true) :
    ∃ rest levels names, namesOf path = p.names ++ rest ∧
      (collapse ⟨.relative, rest⟩).names = List.replicate levels dotDot ++ names ∧ dotDot ∉ names ∧
      (isWithin (normalized path) p.spelling = true ↔ p.names.drop (p.names.length - levels) <+: names) := by
  obtain ⟨rest, hrest, hanchor⟩ := parse_of_isWithin hp h
  have hplain : dotDot ∉ p.names := fun hm => (hp.plain _ hm).ne_dotDot rfl
  have habsolute := isAbsolute_parse (isAbsolute_of_isWithin hp h)
  obtain ⟨levels, names, hnames, hclimb, hcollapse⟩ := LexicalPath.collapse_append hp.isAbsolute hplain rest
  refine ⟨rest, levels, names, hrest, hclimb, hnames, ?_⟩
  have hleft : (parse path).collapse.names = p.names.take (p.names.length - levels) ++ names := by
    rw [← hcollapse, LexicalPath.collapse, LexicalPath.collapse, habsolute]
    dsimp only [parse]
    rw [hrest]
    exact congrArg (fun a => (List.foldl (LexicalPath.collapseStep a) [] _).reverse) hp.isAbsolute.symm
  have hsplit : p.names.take (p.names.length - levels) ++ p.names.drop (p.names.length - levels) <+:
      p.names.take (p.names.length - levels) ++ names ↔ p.names.drop (p.names.length - levels) <+: names :=
    List.prefix_append_right_inj _
  rw [List.take_append_drop] at hsplit
  rw [normalized, isWithin_spelling_spelling_iff hp (normal_collapse_parse habsolute) hanchor, hleft, hsplit]

end Pathname

end RequirePath
