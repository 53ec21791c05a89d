import RequirePath.Proofs.Path.Within

/-! The paths of the entries of a directory. One slash or two stand before the name; the names of the path are those of
the directory and its own in both cases. -/

namespace RequirePath.Pathname

open FileSystem (steps endsInSlash)

variable {directory : Pathname} {name : Filename}

theorem endsInSlash_append (path : Pathname) (hn : IsPlainName name) : endsInSlash (path ++ name) = false := by
  rw [endsInSlash, beq_eq_false_iff_ne, List.getLast?_append]
  cases hl : name.getLast? with
  | none => exact absurd (List.getLast?_eq_none_iff.1 hl) hn.ne_nil
  | some x =>
      rintro he
      exact hn.slash_notMem (Option.some.inj he ▸ List.mem_of_getLast? hl)

/-- The path of an entry, with one slash or two, is absolute and has the names of the directory and its own. -/
structure IsEntryPath (directory : Pathname) (name : Filename) (path : Pathname) : Prop where
  isAbsolute : isAbsolute path = true
  steps : FileSystem.steps path = FileSystem.steps directory ++ [name]
  endsInSlash : FileSystem.endsInSlash path = false
  length_le : directory.length ≤ path.length
  length_le_add : path.length ≤ directory.length + name.length + 1

theorem isEntryPath_child (ha : isAbsolute directory = true) (hn : IsPlainName name) :
    IsEntryPath directory name (child directory name) where
  isAbsolute := by
    obtain ⟨b, bs, rfl⟩ := List.exists_cons_of_ne_nil (show directory ≠ [] by rintro rfl; cases ha)
    exact ha
  steps := steps_child hn.ne_nil hn.slash_notMem
  endsInSlash := by
    rw [child, ← List.singleton_append, ← List.append_assoc]
    exact endsInSlash_append _ hn
  length_le := (List.prefix_append _ _).length_le
  length_le_add := by
    rw [child, List.length_append, List.length_cons]
    omega

theorem isEntryPath_tidyChild (ha : isAbsolute directory = true) (hn : IsPlainName name) :
    IsEntryPath directory name (tidyChild directory name) := by
  unfold tidyChild
  split_ifs with hslash
  · obtain ⟨outer, rfl⟩ := List.getLast?_eq_some_iff.1 (eq_of_beq hslash)
    refine ⟨?_, ?_, endsInSlash_append _ hn, (List.prefix_append _ _).length_le, ?_⟩
    · cases outer with
      | nil => rfl
      | cons b bs => exact ha
    · rw [List.append_assoc, List.singleton_append, steps_append_slash, steps_concat_slash,
        steps_of_notMem hn.ne_nil hn.slash_notMem]
    · rw [List.length_append]
      omega
  · exact isEntryPath_child ha hn

theorem isEntryPath_entry {p : LexicalPath} (hp : p.Normal) (hn : IsPlainName name) :
    IsEntryPath p.spelling name (p.entry name).spelling := by
  rw [← LexicalPath.tidyChild_spelling hp hn]
  exact isEntryPath_tidyChild (LexicalPath.isAbsolute_spelling hp) hn

end RequirePath.Pathname
