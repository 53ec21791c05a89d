import RequirePath.Text.Line

/-! Texts that differ in the spelling of their line ends only. -/

namespace RequirePath.Text

variable {cs xs ys : List Char} {c : Char}

/-! ### One line end or character at a time -/

theorem unifyNewlines_pair (cs : List Char) : unifyNewlines ('\r' :: '\n' :: cs) = '\n' :: unifyNewlines cs := rfl

theorem unifyNewlines_return (h : ys.head? ≠ some '\n') : unifyNewlines ('\r' :: ys) = '\n' :: unifyNewlines ys := by
  rw [unifyNewlines, if_pos rfl]
  rintro rest - rfl
  exact absurd rfl h

theorem unifyNewlines_cons (hc : c ≠ '\r') (cs : List Char) : unifyNewlines (c :: cs) = c :: unifyNewlines cs := by
  rw [unifyNewlines, if_neg hc]
  rintro rest rfl
  exact absurd rfl hc

/-- Induction on a text: it starts with a carriage return and its line feed, with a carriage return alone, or with another
character. -/
@[elab_as_elim]
theorem newline_induction {motive : List Char → Prop} (nil : motive [])
    (pair : ∀ rest, motive rest → motive ('\r' :: '\n' :: rest))
    (lone : ∀ rest, rest.head? ≠ some '\n' → motive rest → motive ('\r' :: rest))
    (cons : ∀ c rest, c ≠ '\r' → motive rest → motive (c :: rest)) (cs : List Char) : motive cs := by
  -- a pair takes two characters, so the text after one more character is carried along
  suffices hboth : motive cs ∧ ∀ c, motive (c :: cs) from hboth.1
  induction cs with
  | nil =>
      refine ⟨nil, fun c => ?_⟩
      by_cases hc : c = '\r'
      · rw [hc]
        exact lone [] nofun nil
      · exact cons c [] hc nil
  | cons d rest ih =>
      obtain ⟨hrest, hmore⟩ := ih
      refine ⟨hmore d, fun c => ?_⟩
      by_cases hc : c = '\r'
      · subst hc
        by_cases hd : d = '\n'
        · rw [hd]
          exact pair rest hrest
        · exact lone (d :: rest) (fun hhead => hd (Option.some.inj hhead)) (hmore d)
      · exact cons c (d :: rest) hc (hmore d)

/-! ### Unified texts -/

/-- A text without carriage returns is left alone. -/
theorem unifyNewlines_eq_self (h : '\r' ∉ cs) : unifyNewlines cs = cs := by
  induction cs with
  | nil => rfl
  | cons c cs ih =>
      simp only [List.mem_cons, not_or] at h
      rw [unifyNewlines_cons (Ne.symm h.1), ih h.2]

theorem not_mem_unifyNewlines (cs : List Char) : '\r' ∉ unifyNewlines cs := by
  induction cs using newline_induction with
  | nil => exact List.not_mem_nil
  | pair rest ih =>
      rw [unifyNewlines_pair]
      exact List.not_mem_cons_of_ne_of_not_mem (by decide) ih
  | lone rest h ih =>
      rw [unifyNewlines_return h]
      exact List.not_mem_cons_of_ne_of_not_mem (by decide) ih
  | cons c rest hc ih =>
      rw [unifyNewlines_cons hc]
      exact List.not_mem_cons_of_ne_of_not_mem (Ne.symm hc) ih

theorem unifyNewlines_unifyNewlines (cs : List Char) : unifyNewlines (unifyNewlines cs) = unifyNewlines cs :=
  unifyNewlines_eq_self (not_mem_unifyNewlines cs)

/-- Two texts are unified apart, unless a line end is cut in two. -/
theorem unifyNewlines_append (h : xs.getLast? = some '\r' → ys.head? ≠ some '\n') :
    unifyNewlines (xs ++ ys) = unifyNewlines xs ++ unifyNewlines ys := by
  have hlast : ∀ {c : Char} {rest : List Char}, (rest.getLast? = some '\r' → (c :: rest).getLast? = some '\r') := by
    intro c rest hr
    rw [List.getLast?_cons, hr]
    rfl
  induction xs using newline_induction with
  | nil => rfl
  | pair rest ih =>
      have hrest := ih fun hr => h (hlast (hlast hr))
      rw [List.cons_append, List.cons_append, unifyNewlines_pair, hrest, unifyNewlines_pair, List.cons_append]
  | lone rest hhead ih =>
      have hrest := ih fun hr => h (hlast hr)
      -- no line feed follows it, neither in its own text nor over the cut
      have hnext : (rest ++ ys).head? ≠ some '\n' := by
        cases rest with
        | nil => exact h rfl
        | cons d rest => exact hhead
      rw [List.cons_append, unifyNewlines_return hnext, hrest, unifyNewlines_return hhead, List.cons_append]
  | cons c rest hc ih =>
      have hrest := ih fun hr => h (hlast hr)
      rw [List.cons_append, unifyNewlines_cons hc, hrest, unifyNewlines_cons hc, List.cons_append]

/-- A cut of a unified text is a cut of the text. -/
theorem exists_of_unifyNewlines_eq_append (h : unifyNewlines cs = xs ++ ys) :
    ∃ before after, cs = before ++ after ∧ unifyNewlines before = xs ∧ unifyNewlines after = ys := by
  induction cs using newline_induction generalizing xs with
  | nil =>
      obtain ⟨rfl, rfl⟩ := List.append_eq_nil_iff.1 h.symm
      exact ⟨[], [], rfl, rfl, rfl⟩
  | pair rest ih =>
      cases xs with
      | nil => exact ⟨[], '\r' :: '\n' :: rest, rfl, rfl, h⟩
      | cons x xs =>
          rw [unifyNewlines_pair] at h
          obtain ⟨rfl, hrest⟩ := List.cons.inj h
          obtain ⟨before, after, rfl, rfl, rfl⟩ := ih hrest
          exact ⟨'\r' :: '\n' :: before, after, rfl, rfl, rfl⟩
  | lone rest hhead ih =>
      cases xs with
      | nil => exact ⟨[], '\r' :: rest, rfl, rfl, h⟩
      | cons x xs =>
          rw [unifyNewlines_return hhead] at h
          obtain ⟨rfl, hrest⟩ := List.cons.inj h
          obtain ⟨before, after, rfl, rfl, rfl⟩ := ih hrest
          have hbefore : before.head? ≠ some '\n' := by
            cases before with
            | nil => exact nofun
            | cons d before => exact hhead
          exact ⟨'\r' :: before, after, rfl, unifyNewlines_return hbefore, rfl⟩
  | cons c rest hc ih =>
      cases xs with
      | nil => exact ⟨[], c :: rest, rfl, rfl, h⟩
      | cons x xs =>
          rw [unifyNewlines_cons hc] at h
          obtain ⟨rfl, hrest⟩ := List.cons.inj h
          obtain ⟨before, after, rfl, rfl, rfl⟩ := ih hrest
          exact ⟨c :: before, after, rfl, unifyNewlines_cons hc before, rfl⟩

theorem eq_nil_of_unifyNewlines_eq (h : unifyNewlines cs = []) : cs = [] := by
  cases cs using newline_induction with
  | nil => rfl
  | pair rest =>
      rw [unifyNewlines_pair] at h
      cases h
  | lone rest hhead =>
      rw [unifyNewlines_return hhead] at h
      cases h
  | cons c rest hc =>
      rw [unifyNewlines_cons hc] at h
      cases h

/-- A character that ends no line stands for itself in a unified text. -/
theorem exists_of_unifyNewlines_eq_cons (hc : c ≠ '\n') (h : unifyNewlines cs = c :: ys) :
    ∃ rest, cs = c :: rest ∧ unifyNewlines rest = ys := by
  cases cs using newline_induction with
  | nil => cases h
  | pair rest =>
      rw [unifyNewlines_pair] at h
      exact absurd (List.cons.inj h).1.symm hc
  | lone rest hhead =>
      rw [unifyNewlines_return hhead] at h
      exact absurd (List.cons.inj h).1.symm hc
  | cons d rest hd =>
      rw [unifyNewlines_cons hd] at h
      obtain ⟨rfl, hrest⟩ := List.cons.inj h
      exact ⟨rest, rfl, hrest⟩

/-- A text without line feeds is unified from itself only. -/
theorem eq_of_unifyNewlines_eq (hx : '\n' ∉ xs) (h : unifyNewlines cs = xs) : cs = xs := by
  induction xs generalizing cs with
  | nil => exact eq_nil_of_unifyNewlines_eq h
  | cons x xs ih =>
      simp only [List.mem_cons, not_or] at hx
      obtain ⟨rest, rfl, hrest⟩ := exists_of_unifyNewlines_eq_cons (Ne.symm hx.1) h
      rw [ih hx.2 hrest]

end RequirePath.Text
