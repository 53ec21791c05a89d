import Mathlib.Data.List.Nodup
import Mathlib.Tactic.SplitIfs
import RequirePath.Json.Value

/-! The fields of an object, as they are set one after another. Of two fields of one name the later wins where they are set,
and the earlier where they are added; and no name comes twice if none did before. -/

namespace RequirePath.Fields

variable {name other : String} {v : Value} {fs gs : Fields}

theorem get?_cons (name n : String) (v : Value) (fs : Fields) :
    get? name ((n, v) :: fs) = if name = n then some v else get? name fs := by
  rw [get?, List.lookup_cons]
  by_cases h : name = n
  · rw [if_pos h, beq_iff_eq.2 h]
  · rw [if_neg h, beq_eq_false_iff_ne.2 h, get?]

theorem get?_append (name : String) (fs gs : Fields) : get? name (fs ++ gs) = (get? name fs).or (get? name gs) :=
  List.lookup_append

theorem get?_set (name other : String) (v : Value) (fs : Fields) :
    get? name (set other v fs) = if name = other then some v else get? name fs := by
  induction fs with
  | nil => rw [set, get?_cons]
  | cons p fs ih =>
      obtain ⟨n, w⟩ := p
      by_cases hn : n = other
      · rw [set, if_pos hn, get?_cons, get?_cons, hn]
        split_ifs <;> rfl
      · rw [set, if_neg hn, get?_cons, get?_cons, ih]
        split_ifs with h h'
        · exact absurd (h.symm.trans h') hn
        · rfl
        · rfl
        · rfl

/-- Fields that are set one after another hide those before them. -/
theorem get?_foldl_set (name : String) (fs acc : Fields) :
    get? name (fs.foldl (fun fields p => set p.1 p.2 fields) acc) = (get? name fs.reverse).or (get? name acc) := by
  induction fs generalizing acc with
  | nil => rfl
  | cons p fs ih =>
      obtain ⟨n, v⟩ := p
      rw [List.foldl_cons, ih, get?_set, List.reverse_cons, get?_append, Option.or_assoc, get?_cons]
      split_ifs <;> rfl

/-- A name has the value of its last field. -/
theorem get?_ofList (name : String) (fs : List (String × Value)) : get? name (ofList fs) = get? name fs.reverse := by
  rw [ofList, get?_foldl_set]
  exact Option.or_none

theorem get?_setNew (name other : String) (v : Value) (fs : Fields) :
    get? name (setNew other v fs) = (get? name fs).or (get? name [(other, v)]) := by
  unfold setNew
  split_ifs with hthere
  · by_cases hname : name = other
    · obtain ⟨w, hw⟩ := Option.isSome_iff_exists.1 hthere
      rw [hname, hw]
      rfl
    · rw [get?_cons, if_neg hname]
      exact Option.or_none.symm
  · exact get?_append name fs _

/-- Fields that are added one after another stand behind those before them. -/
theorem get?_foldl_setNew (name : String) (fs acc : Fields) :
    get? name (fs.foldl (fun fields p => setNew p.1 p.2 fields) acc) = (get? name acc).or (get? name fs) := by
  induction fs generalizing acc with
  | nil => exact Option.or_none.symm
  | cons p fs ih => rw [List.foldl_cons, ih, get?_setNew, Option.or_assoc, ← get?_append, List.singleton_append]

theorem get?_eq_none_iff : get? name fs = none ↔ name ∉ fs.map Prod.fst := by
  induction fs with
  | nil => simp [get?]
  | cons p fs ih =>
      obtain ⟨n, v⟩ := p
      rw [get?_cons, List.map_cons, List.mem_cons, not_or, ← ih]
      split_ifs with h <;> simp [h]

theorem mem_of_get? (h : get? name fs = some v) : (name, v) ∈ fs := by
  induction fs with
  | nil => cases h
  | cons p fs ih =>
      obtain ⟨n, w⟩ := p
      rw [get?_cons] at h
      split_ifs at h with hn
      · cases h
        rw [hn]
        exact List.mem_cons_self
      · exact List.mem_cons_of_mem _ (ih h)

/-! ### Names -/

/-- No name comes twice. -/
def Distinct (fs : Fields) : Prop := (fs.map Prod.fst).Nodup

theorem Distinct.get?_of_mem (hd : Distinct fs) (h : (name, v) ∈ fs) : get? name fs = some v := by
  induction fs with
  | nil => cases h
  | cons p fs ih =>
      obtain ⟨hnew, hd⟩ := List.nodup_cons.1 hd
      rw [get?_cons]
      rcases List.mem_cons.1 h with rfl | h
      · rw [if_pos rfl]
      · rw [if_neg, ih hd h]
        rintro rfl
        exact hnew (List.mem_map.2 ⟨_, h, rfl⟩)

theorem names_set (other : String) (v : Value) (fs : Fields) : (set other v fs).map Prod.fst =
    if other ∈ fs.map Prod.fst then fs.map Prod.fst else fs.map Prod.fst ++ [other] := by
  induction fs with
  | nil => rfl
  | cons p fs ih =>
      obtain ⟨n, w⟩ := p
      by_cases hn : n = other
      · rw [set, if_pos hn, if_pos (by simp [hn])]
        rfl
      · rw [set, if_neg hn, List.map_cons, ih, List.map_cons]
        have hother : ¬other = n := fun h => hn h.symm
        by_cases hmem : other ∈ fs.map Prod.fst
        · rw [if_pos hmem, if_pos (List.mem_cons_of_mem _ hmem)]
        · rw [if_neg hmem, if_neg (by simp only [List.mem_cons, hother, hmem, or_self, not_false_eq_true])]
          rfl

/-- A field that is there gets another value in its place. -/
theorem map_fst_set {w : Value} (h : get? other fs = some w) (v : Value) : (set other v fs).map Prod.fst = fs.map Prod.fst := by
  have hmem : other ∈ fs.map Prod.fst := by
    by_contra hno
    rw [get?_eq_none_iff.2 hno] at h
    cases h
  rw [names_set, if_pos hmem]

theorem Distinct.append_new (hd : Distinct fs) (hnew : get? other fs = none) : (fs.map Prod.fst ++ [other]).Nodup := by
  refine List.nodup_append.2 ⟨hd, List.nodup_singleton _, fun n hn m hm => ?_⟩
  rintro rfl
  rw [List.mem_singleton.1 hm] at hn
  exact get?_eq_none_iff.1 hnew hn

theorem Distinct.set (hd : Distinct fs) (other : String) (v : Value) : Distinct (set other v fs) := by
  unfold Distinct
  rw [names_set]
  split_ifs with hmem
  · exact hd
  · exact hd.append_new (get?_eq_none_iff.2 hmem)

theorem Distinct.setNew (hd : Distinct fs) (other : String) (v : Value) : Distinct (setNew other v fs) := by
  unfold Fields.setNew
  split_ifs with hthere
  · exact hd
  · unfold Distinct
    rw [List.map_append]
    exact hd.append_new (Option.not_isSome_iff_eq_none.1 hthere)

/-- Changes of one field after another keep the names distinct if each does. -/
theorem Distinct.foldl {change : Fields → String × Value → Fields} (hchange : ∀ fs p, Distinct fs → Distinct (change fs p))
    (hd : Distinct fs) (gs : Fields) : Distinct (gs.foldl change fs) := by
  induction gs generalizing fs with
  | nil => exact hd
  | cons p gs ih => exact ih (hchange fs p hd)

theorem set_of_absent (h : other ∉ fs.map Prod.fst) (v : Value) : set other v fs = fs ++ [(other, v)] := by
  induction fs with
  | nil => rfl
  | cons p fs ih =>
      rw [List.map_cons, List.mem_cons, not_or] at h
      rw [set, if_neg (Ne.symm h.1), ih h.2]
      rfl

/-- Fields whose names are new and distinct are set just as they are. -/
theorem foldl_set_of_distinct (acc fs : Fields) (h : Distinct (acc ++ fs)) :
    fs.foldl (fun fields p => set p.1 p.2 fields) acc = acc ++ fs := by
  induction fs generalizing acc with
  | nil => exact (List.append_nil acc).symm
  | cons p fs ih =>
      have habsent : p.1 ∉ acc.map Prod.fst := by
        unfold Distinct at h
        rw [List.map_append, List.map_cons] at h
        exact fun hmem => (List.nodup_append.1 h).2.2 p.1 hmem p.1 List.mem_cons_self rfl
      have hmore : Distinct ((acc ++ [p]) ++ fs) := by
        rw [List.append_assoc]
        exact h
      rw [List.foldl_cons, set_of_absent habsent, ih _ hmore, List.append_assoc]
      rfl

theorem ofList_of_distinct (h : Distinct fs) : ofList fs = fs :=
  foldl_set_of_distinct [] fs h

end RequirePath.Fields
