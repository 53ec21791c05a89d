import RequirePath.Proofs.Path.Within

/-! The form of the spelling of a normal path, told by its bytes. Two paths in this form are compared byte by byte with no
slash or dot in the way. -/

namespace RequirePath

namespace Pathname

variable {path : Pathname}

/-- An absolute path in normal form: no component is a dot or a double dot, a slash follows another only at the front and
only once, and none is at the end unless the path has nothing but slashes. -/
structure IsNormalForm (path : Pathname) : Prop where
  isAbsolute : isAbsolute path = true
  components : ∀ name ∈ Text.splitAt slash path, name ≠ dot ∧ name ≠ dotDot
  slashes : ¬[slash, slash] <:+: path.tail
  endsInSlash : path.getLast? = some slash → ∀ b ∈ path, b = slash

/-- Between two slashes there is an empty piece, and a piece before it. -/
theorem nil_mem_tail_splitAt (h : [slash, slash] <:+: path) : [] ∈ (Text.splitAt slash path).tail := by
  obtain ⟨before, after, rfl⟩ := h
  obtain ⟨piece, pieces, hbefore⟩ := List.exists_cons_of_ne_nil (Text.splitAt_ne_nil slash before)
  rw [List.append_assoc, List.cons_append, List.singleton_append, Text.splitAt_append_cons, Text.splitAt_cons_self, hbefore,
    List.cons_append, List.tail_cons]
  exact List.mem_append_right _ List.mem_cons_self

end Pathname

namespace LexicalPath

open FileSystem (steps)
open Pathname (IsNormalForm nil_mem_tail_splitAt)

variable {p : LexicalPath}

theorem not_slashes_infix_spelling (h : p.Normal) : ¬[slash, slash] <:+: p.spelling.tail := by
  intro hinfix
  have hplain : ∀ x ∈ p.names, x ≠ [] := fun x hx => (h.plain x hx).ne_nil
  have habsolute := h.isAbsolute
  obtain ⟨anchor, names⟩ := p
  by_cases hne : names = []
  · subst hne
    cases anchor with
    | relative => cases habsolute
    | root => exact absurd hinfix.length_le (by decide)
    | doubleRoot => exact absurd hinfix.length_le (by decide)
  · have hsplit := splitAt_joinNames hne fun x hx => (h.plain x hx).slash_notMem
    have hpiece := nil_mem_tail_splitAt hinfix
    cases anchor with
    | relative => cases habsolute
    | root =>
        have htail : (spelling ⟨.root, names⟩).tail = joinNames names := rfl
        rw [htail, hsplit] at hpiece
        exact hplain [] (List.mem_of_mem_tail hpiece) rfl
    | doubleRoot =>
        have htail : (spelling ⟨.doubleRoot, names⟩).tail = slash :: joinNames names := rfl
        rw [htail, Text.splitAt_cons_self, hsplit] at hpiece
        exact hplain [] hpiece rfl

/-- The spelling of a normal path is in normal form. -/
theorem Normal.isNormalForm (h : p.Normal) : IsNormalForm p.spelling where
  isAbsolute := isAbsolute_spelling h
  components := by
    intro name hm
    by_cases hempty : name = []
    · rw [hempty]
      decide
    · have hstep : name ∈ steps p.spelling := List.mem_filter.2 ⟨hm, by simpa using hempty⟩
      rw [steps_spelling h] at hstep
      exact ⟨(h.plain name hstep).ne_dot, (h.plain name hstep).ne_dotDot⟩
  slashes := not_slashes_infix_spelling h
  endsInSlash := by
    intro hlast
    by_cases hne : p.names = []
    · rcases Pathname.spelling_root h hne with hroot | hroot
      all_goals
        rw [hroot]
        simp
    · exact absurd hlast (beq_eq_false_iff_ne.1 (endsInSlash_spelling h hne))

end LexicalPath

end RequirePath
