import Mathlib.Tactic.SplitIfs
import RequirePath.File.FileSystem

/-! What the two basic changes of a file system do to the node at each place: `put` sets one place and
`erase` clears one. A place with a node lies in a directory, so what is no directory is bare, and a place
below one that has no node has none either. -/

namespace RequirePath.FileSystem

variable {fs : FileSystem} {place q : Location} {node n : Node}

theorem lookup_eq_some_iff {nodes : List (Location × Node)} (hd : (nodes.map Prod.fst).Nodup) :
    nodes.lookup place = some n ↔ (place, n) ∈ nodes := by
  induction nodes with
  | nil => simp
  | cons e nodes ih =>
      obtain ⟨p, m⟩ := e
      simp only [List.map_cons, List.nodup_cons] at hd
      rw [List.lookup_cons]
      by_cases h : place = p
      · subst h
        simp only [beq_self_eq_true, List.mem_cons, Prod.mk.injEq, true_and, Option.some.injEq]
        constructor
        · rintro rfl
          exact Or.inl rfl
        · rintro (rfl | hm)
          · rfl
          · exact absurd (List.mem_map.2 ⟨_, hm, rfl⟩) hd.1
      · simp only [beq_false_of_ne h, List.mem_cons, Prod.mk.injEq, h, false_and, false_or]
        exact ih hd.2

theorem node?_eq_some_iff : fs.node? place = some n ↔ (place, n) ∈ fs.nodes :=
  lookup_eq_some_iff fs.distinct

theorem isDirectoryAt_iff : fs.isDirectoryAt place = true ↔ ∃ n, fs.node? place = some n ∧ n.isDirectory = true := by
  simp only [node?_eq_some_iff]
  exact hasDirectory_iff

theorem isDirectoryAt_of_node? (h : fs.node? place = some n) : fs.isDirectoryAt place = n.isDirectory := by
  rw [Bool.eq_iff_iff, isDirectoryAt_iff]
  constructor
  · rintro ⟨m, hm, hd⟩
    rw [h, Option.some.injEq] at hm
    rwa [hm]
  · exact fun hd => ⟨n, h, hd⟩

theorem isDirectoryAt_root (fs : FileSystem) : fs.isDirectoryAt [] = true :=
  fs.root_isDirectory

/-- What has a node lies in a directory. -/
theorem isDirectoryAt_parent {name : Filename} (h : fs.node? (name :: place) = some n) :
    fs.isDirectoryAt place = true :=
  fs.parent_isDirectory name place n (node?_eq_some_iff.1 h)

/-- What a directory lies in is one. -/
theorem isDirectoryAt_tail (h : fs.isDirectoryAt place = true) : fs.isDirectoryAt place.tail = true := by
  cases place with
  | nil => exact isDirectoryAt_root _
  | cons name parent =>
      obtain ⟨n, hn, -⟩ := isDirectoryAt_iff.1 h
      exact isDirectoryAt_parent hn

theorem isDirectoryAt_of_suffix (hd : fs.isDirectoryAt place = true) (hq : q <:+ place) : fs.isDirectoryAt q = true := by
  obtain ⟨outer, rfl⟩ := hq
  induction outer with
  | nil => exact hd
  | cons x outer ih => exact ih (isDirectoryAt_tail hd)

theorem node?_child_eq_none {name : Filename} (h : fs.isDirectoryAt place = false) :
    fs.node? (name :: place) = none := by
  cases hn : fs.node? (name :: place) with
  | none => rfl
  | some n => rw [isDirectoryAt_parent hn] at h; cases h

theorem isDirectoryAt_eq_false (h : fs.node? place = none) : fs.isDirectoryAt place = false := by
  rw [Bool.eq_false_iff, ne_eq, isDirectoryAt_iff, h]
  simp

theorem isBare_iff : fs.isBare place = true ↔ ∀ name, fs.node? (name :: place) = none := by
  simp only [isBare, List.all_eq_true, Bool.or_eq_true, bne_iff_ne, ne_eq, List.isEmpty_iff, Prod.forall]
  constructor
  · intro h name
    cases hn : fs.node? (name :: place) with
    | none => rfl
    | some n =>
        have := h _ _ (node?_eq_some_iff.1 hn)
        simp at this
  · intro h p n hm
    cases p with
    | nil => exact Or.inr rfl
    | cons name parent =>
        refine Or.inl fun hp => ?_
        simp only [List.tail_cons] at hp
        subst hp
        exact absurd (h name) (by rw [node?_eq_some_iff.2 hm]; simp)

theorem isBare_of_not_isDirectoryAt (h : fs.isDirectoryAt place = false) : fs.isBare place = true :=
  isBare_iff.2 fun _ => node?_child_eq_none h

/-- Nothing lies below a place that has nothing in it. -/
theorem node?_below_bare (hb : fs.isBare place = true) (hq : place <:+ q) (hne : q ≠ place) : fs.node? q = none := by
  obtain ⟨inner, rfl⟩ := hq
  induction inner with
  | nil => exact absurd rfl hne
  | cons x inner ih =>
      cases inner with
      | nil => exact isBare_iff.1 hb x
      | cons y inner =>
          refine node?_child_eq_none (isDirectoryAt_eq_false (ih fun he => ?_))
          have := congrArg List.length he
          simp only [List.cons_append, List.length_cons, List.length_append] at this
          omega

theorem lookup_filter_ne {nodes : List (Location × Node)} (h : q ≠ place) :
    (nodes.filter fun e => e.1 != place).lookup q = nodes.lookup q := by
  induction nodes with
  | nil => rfl
  | cons e nodes ih =>
      rw [List.filter_cons]
      split
      · rw [List.lookup_cons, List.lookup_cons, ih]
      · next he =>
          have hp : e.1 = place := by simpa using he
          rw [List.lookup_cons, hp, beq_false_of_ne h, ih]

theorem lookup_filter_self {nodes : List (Location × Node)} :
    (nodes.filter fun e => e.1 != place).lookup place = none := by
  rw [List.lookup_eq_none_iff]
  intro e he
  have := (List.mem_filter.1 he).2
  rw [bne_iff_ne] at this
  exact bne_iff_ne.2 (Ne.symm this)

/-- Putting a node that may stand at a place changes that place only. -/
theorem node?_put (h : fs.admits place node = true) :
    (fs.put place node).node? q = if q = place then some node else fs.node? q := by
  rw [put, dif_pos h]
  simp only [node?, List.lookup_cons]
  by_cases hq : q = place
  · rw [hq, beq_self_eq_true, if_pos rfl]
  · rw [beq_false_of_ne hq, if_neg hq]
    exact lookup_filter_ne hq

/-- Erasing a place with nothing in it changes that place only. -/
theorem node?_erase (hroot : place ≠ []) (hbare : fs.isBare place = true) :
    (fs.erase place).node? q = if q = place then none else fs.node? q := by
  rw [erase, dif_pos ⟨hroot, hbare⟩]
  simp only [node?]
  by_cases hq : q = place
  · rw [if_pos hq, hq]
    exact lookup_filter_self
  · rw [if_neg hq]
    exact lookup_filter_ne hq

theorem erase_eq_self (h : ¬(place ≠ [] ∧ fs.isBare place = true)) : fs.erase place = fs := by
  rw [erase, dif_neg h]

/-- A node may be replaced by one that is a directory if it is. -/
theorem admits_of_node? (h : fs.node? place = some n) (hd : n.isDirectory = true → node.isDirectory = true)
    (hroot : place = [] → node.isDirectory = true) : fs.admits place node = true := by
  simp only [admits, Bool.and_eq_true, Bool.or_eq_true]
  constructor
  · cases place with
    | nil => exact hroot rfl
    | cons name parent => exact isDirectoryAt_parent h
  · cases hdir : n.isDirectory with
    | true => exact Or.inl (hd hdir)
    | false => exact Or.inr (isBare_of_not_isDirectoryAt (by rw [isDirectoryAt_of_node? h, hdir]))

/-- A node may be put at a vacant place in a directory. -/
theorem admits_of_vacant {name : Filename} (hd : fs.isDirectoryAt place = true)
    (h : fs.node? (name :: place) = none) : fs.admits (name :: place) node = true := by
  simp only [admits, hd, Bool.true_and, Bool.or_eq_true]
  exact Or.inr (isBare_of_not_isDirectoryAt (isDirectoryAt_eq_false h))

theorem node?_touch (t : Timestamp) :
    (fs.touch place t).node? q = if q = place then (fs.node? q).map ({ · with modified := t }) else fs.node? q := by
  unfold touch
  cases h : fs.node? place with
  | none =>
      split_ifs with hq
      · rw [hq, h, Option.map_none]
      · rfl
  | some n =>
      have hdir : ({ n with modified := t } : Node).isDirectory = n.isDirectory := rfl
      rw [node?_put (admits_of_node? h (by rw [hdir]; exact id) ?_)]
      · split_ifs with hq
        · rw [hq, h, Option.map_some]
        · rfl
      · rintro rfl
        rw [hdir, ← isDirectoryAt_of_node? h]
        exact isDirectoryAt_root _

end RequirePath.FileSystem
