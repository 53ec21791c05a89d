import RequirePath.Text.Line

/-! The pieces of a list between separators. A separator cuts a list into the pieces before it and those after it, and
pieces without the separator in them are taken back from the list that they make up. -/

namespace RequirePath.Text

variable {α : Type} [BEq α] {c separator : α} {rest xs piece last : List α} {pieces : List (List α)}

/-! ### One entry at a time -/

theorem splitAt_cons_of_beq (h : (c == separator) = true) (rest : List α) :
    splitAt separator (c :: rest) = [] :: splitAt separator rest :=
  if_pos h

/-- An entry that is no separator joins the first piece of what stands after it. -/
theorem splitAt_cons_of_not_beq (h : ¬(c == separator) = true) (hrest : splitAt separator rest = piece :: pieces) :
    splitAt separator (c :: rest) = (c :: piece) :: pieces := by
  unfold splitAt at hrest ⊢
  rw [splitWhere, if_neg h, hrest]

theorem splitAt_ne_nil (separator : α) (xs : List α) : splitAt separator xs ≠ [] := by
  induction xs with
  | nil => exact List.cons_ne_nil _ _
  | cons c rest ih =>
      by_cases hc : (c == separator) = true
      · rw [splitAt_cons_of_beq hc]
        exact List.cons_ne_nil _ _
      · obtain ⟨piece, pieces, hrest⟩ := List.exists_cons_of_ne_nil ih
        rw [splitAt_cons_of_not_beq hc hrest]
        exact List.cons_ne_nil _ _

variable [LawfulBEq α]

theorem splitAt_cons_self (separator : α) (rest : List α) :
    splitAt separator (separator :: rest) = [] :: splitAt separator rest :=
  splitAt_cons_of_beq (beq_self_eq_true separator) rest

/-! ### Whole texts -/

theorem splitAt_append_cons (separator : α) (xs ys : List α) :
    splitAt separator (xs ++ separator :: ys) = splitAt separator xs ++ splitAt separator ys := by
  induction xs with
  | nil => exact splitAt_cons_self separator ys
  | cons c xs ih =>
      by_cases hc : (c == separator) = true
      · rw [List.cons_append, splitAt_cons_of_beq hc, splitAt_cons_of_beq hc, ih, List.cons_append]
      · obtain ⟨piece, pieces, hp⟩ := List.exists_cons_of_ne_nil (splitAt_ne_nil separator xs)
        rw [hp, List.cons_append] at ih
        rw [List.cons_append, splitAt_cons_of_not_beq hc ih, splitAt_cons_of_not_beq hc hp, List.cons_append]

theorem splitAt_of_not_mem (h : separator ∉ xs) : splitAt separator xs = [xs] := by
  induction xs with
  | nil => rfl
  | cons c xs ih =>
      simp only [List.mem_cons, not_or] at h
      have hc : ¬(c == separator) = true := fun he => h.1 (eq_of_beq he).symm
      exact splitAt_cons_of_not_beq hc (ih h.2)

/-- A piece ends at the first separator. -/
theorem splitAt_append (h : separator ∉ xs) (rest : List α) :
    splitAt separator (xs ++ separator :: rest) = xs :: splitAt separator rest := by
  rw [splitAt_append_cons, splitAt_of_not_mem h]
  rfl

/-- Pieces that each end in a separator are the pieces of the whole, and what stands after them is one more. -/
theorem splitAt_flatMap (h : ∀ piece ∈ pieces, separator ∉ piece) (hlast : separator ∉ last) :
    splitAt separator (pieces.flatMap (· ++ [separator]) ++ last) = pieces ++ [last] := by
  induction pieces with
  | nil => exact splitAt_of_not_mem hlast
  | cons piece pieces ih =>
      have hpiece := h piece List.mem_cons_self
      have hpieces := ih fun x hx => h x (List.mem_cons_of_mem _ hx)
      rw [List.flatMap_cons, List.append_assoc, List.append_assoc, List.singleton_append, splitAt_append hpiece, hpieces,
        List.cons_append]

/-- The whole of pieces that each end in a separator ends in an empty piece. -/
theorem splitAt_ended (h : ∀ piece ∈ pieces, separator ∉ piece) :
    splitAt separator (pieces.flatMap (· ++ [separator])) = pieces ++ [[]] := by
  have hsplit := splitAt_flatMap h (List.not_mem_nil (a := separator))
  rwa [List.append_nil] at hsplit

/-- No piece has the separator in it. -/
theorem not_mem_of_mem_splitAt (h : piece ∈ splitAt separator xs) : separator ∉ piece := by
  induction xs generalizing piece with
  | nil =>
      rw [List.mem_singleton.1 h]
      exact List.not_mem_nil
  | cons c xs ih =>
      by_cases hc : (c == separator) = true
      · rw [splitAt_cons_of_beq hc] at h
        rcases List.mem_cons.1 h with rfl | h
        · exact List.not_mem_nil
        · exact ih h
      · have hne : separator ≠ c := fun he => hc (beq_iff_eq.2 he.symm)
        obtain ⟨first, others, hs⟩ := List.exists_cons_of_ne_nil (splitAt_ne_nil separator xs)
        rw [splitAt_cons_of_not_beq hc hs] at h
        rw [hs] at ih
        rcases List.mem_cons.1 h with rfl | h
        · exact List.not_mem_cons_of_ne_of_not_mem hne (ih List.mem_cons_self)
        · exact ih (List.mem_cons_of_mem _ h)

end RequirePath.Text
