import RequirePath.Proofs.Walk
import RequirePath.Proofs.Walk.Recursion

/-! The names of a found path below the directory that a walk starts from. A path is made of that directory and, for each
name, a slash and the name, so the names can be read off it again: they are the way that the walk has gone. -/

namespace RequirePath.Walk

open Pathname (child)

variable {fs : FileSystem} {cwd here place : Location} {r : Restriction} {suffixes : List Pathname}
variable {directory path rest : Pathname} {name : Filename} {within : List Location}

/-- The names of a path below a directory: what stands between the slashes of what follows the directory and one slash. -/
def namesBelow (directory path : Pathname) : List Filename :=
  Text.splitAt slash (path.drop (directory.length + 1))

theorem namesBelow_append (directory rest : Pathname) :
    namesBelow directory (directory ++ slash :: rest) = Text.splitAt slash rest := by
  rw [namesBelow, ← List.drop_drop, List.drop_left, List.drop_one, List.tail_cons]

theorem namesBelow_ne_nil (directory path : Pathname) : namesBelow directory path ≠ [] :=
  Text.splitAt_ne_nil slash _

/-- The name of an entry. -/
theorem namesBelow_child (hs : slash ∉ name) : namesBelow directory (child directory name) = [name] := by
  rw [child, namesBelow_append, Text.splitAt_of_not_mem hs]

/-- Below an entry, the name of the entry comes first. -/
theorem namesBelow_child_append (hs : slash ∉ name) :
    namesBelow directory (child directory name ++ slash :: rest) =
      name :: namesBelow (child directory name) (child directory name ++ slash :: rest) := by
  rw [namesBelow_append, child, List.append_assoc, List.cons_append, namesBelow_append, Text.splitAt_append hs]

/-- What is found below a directory is spelled as the directory and, after a slash, something else. -/
theorem exists_of_mem_files (h : path ∈ files fs cwd r suffixes directory here within) :
    ∃ rest, path = directory ++ slash :: rest := by
  induction directory, here, within using files.induct fs cwd with
  | case1 directory here within ih =>
      rw [files_eq, List.mem_flatMap] at h
      obtain ⟨name, -, hpath⟩ := h
      rcases filesOfEntry_cases hpath with ⟨-, rfl, -⟩ | ⟨place, hc, hwithin, hbelow⟩
      · exact ⟨name, rfl⟩
      · obtain ⟨rest, rfl⟩ := ih name place hc hwithin hbelow
        exact ⟨name ++ slash :: rest, by rw [child, List.append_assoc, List.cons_append]⟩

/-- What is found below an entry has the name of the entry first. -/
theorem namesBelow_of_mem_files (hs : slash ∉ name) (h : path ∈ files fs cwd r suffixes (child directory name) place within) :
    namesBelow directory path = name :: namesBelow (child directory name) path := by
  obtain ⟨rest, rfl⟩ := exists_of_mem_files h
  exact namesBelow_child_append hs

end RequirePath.Walk
