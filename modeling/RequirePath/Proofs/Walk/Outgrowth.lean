import RequirePath.Proofs.File.Outgrowth
import RequirePath.Proofs.Walk.Named

/-! What a walk finds in a file system that has outgrown another one. Below a new directory there are new directories and,
perhaps, the file that has taken a place; with a name that ends in no suffix it is passed over. So a walk from a directory
that was there finds what it found, and one from a new directory finds nothing. A root may lead to a directory that was
there only since the new ones are on its way; from other roots the index is the same. -/

namespace RequirePath

open FileSystem

/-- What nothing comes of may be left out. -/
theorem List.flatMap_eq_flatMap_filter {α β : Type} {f g : α → List β} {keep : α → Bool} {xs : List α}
    (hkeep : ∀ x ∈ xs, keep x = true → f x = g x) (hdrop : ∀ x ∈ xs, keep x = false → f x = []) :
    xs.flatMap f = (xs.filter keep).flatMap g := by
  induction xs with
  | nil => rfl
  | cons x xs ih =>
      have hrest := ih (fun y hy => hkeep y (List.mem_cons_of_mem _ hy)) fun y hy => hdrop y (List.mem_cons_of_mem _ hy)
      rw [List.flatMap_cons, hrest]
      cases hx : keep x with
      | true => rw [List.filter_cons_of_pos hx, List.flatMap_cons, hkeep x List.mem_cons_self hx]
      | false => rw [List.filter_cons_of_neg (by rw [hx]; exact Bool.false_ne_true), hdrop x List.mem_cons_self hx, List.nil_append]

/-- A path ends in what its last name ends in, unless there is a slash in it. -/
theorem Pathname.endsInAny_child {directory : Pathname} {name : Filename} {endings : List Pathname}
    (hslash : ∀ s ∈ endings, slash ∉ s) (h : endsInAny name endings = false) : endsInAny (child directory name) endings = false := by
  rw [← Bool.not_eq_true, endsInAny_iff] at h ⊢
  rintro ⟨s, hs, hends⟩
  have hname : ¬s <:+ name := fun hsuffix => h ⟨s, hs, hsuffix⟩
  rcases List.suffix_or_suffix_of_suffix hends (List.suffix_append directory (slash :: name)) with hshort | hlong
  · rcases List.suffix_cons_iff.1 hshort with rfl | hsuffix
    · exact hslash _ hs List.mem_cons_self
    · exact hname hsuffix
  · exact hslash _ hs (hlong.subset List.mem_cons_self)

namespace Walk

open Pathname (child isAbsolute endsInAny isEntryPath_child)

variable {fs fs' : FileSystem} {cwd here place q : Location} {r : Restriction} {suffixes : List Pathname}
variable {directory root : Pathname} {name : Filename} {within : List Location} {frame : Frame}

/-- Without links an entry is what stands at its place. -/
theorem classify_of_linkFree (hl : fs.LinkFree) (frame : Frame) (name : Filename) :
    classify fs cwd frame name = .ok (kindAt fs (name :: frame.place)) := by
  unfold classify kindAt
  cases hn : fs.node? (name :: frame.place) with
  | none => rfl
  | some n =>
      dsimp only
      rw [hl _ n hn, if_neg Bool.false_ne_true]

/-- The names in a directory at the place that its path leads to. -/
theorem contents_of_locate {n : Node} (hlocate : fs.locate cwd true directory = .ok here) (hn : fs.node? here = some n)
    (hd : n.isDirectory = true) : (contents fs cwd directory).1 = if n.readable then fs.names here else [] := by
  unfold contents list
  rw [hlocate]
  dsimp only
  rw [hn]
  dsimp only
  rw [hd]
  cases n.readable <;> rfl

theorem contents_of_error {e : Errno} (hlocate : fs.locate cwd true directory = .error e) :
    (contents fs cwd directory).1 = [] := by
  unfold contents list
  rw [hlocate]

variable (ho : fs.Outgrows fs' place) (hl : fs.LinkFree) (hn : fs.WellNamed) (hn' : fs'.WellNamed)
variable (hslash : ∀ s ∈ suffixes, slash ∉ s) (hends : ∀ name d, place = name :: d → endsInAny name suffixes = false)
include ho hl hslash hends

/-- The file that has taken the place, and what it took the place of, are passed over. -/
theorem filesOfEntry_place (hplace : name :: here = place) (directory : Pathname) (within : List Location) :
    filesOfEntry fs cwd r suffixes directory here within name = [] ∧
      filesOfEntry fs' cwd r suffixes directory here within name = [] := by
  have hchild : endsInAny (child directory name) suffixes = false :=
    Pathname.endsInAny_child hslash (hends name here hplace.symm)
  have hnone : ∀ fs : FileSystem, fs.LinkFree → fs.isDirectoryAt (name :: here) = false →
      filesOfEntry fs cwd r suffixes directory here within name = [] := by
    intro fs hl hd
    unfold filesOfEntry
    rw [classify_of_linkFree hl]
    cases hk : kindAt fs (name :: here) with
    | directory q =>
        rw [(kindAt_eq_directory hk).2] at hd
        cases hd
    | file =>
        dsimp only
        rw [hchild, if_neg Bool.false_ne_true]
    | other => rfl
  obtain ⟨n, hnode, hfile⟩ := ho.isFile
  refine ⟨hnone fs hl ?_, hnone fs' (ho.linkFree hl) ?_⟩
  · rw [hplace, ho.notDirectory]
  · rw [hplace, isDirectoryAt_of_node? hnode, Node.isDirectory_of_isFile hfile]

/-- An entry that is new stands for no file if there is none below it. -/
theorem filesOfEntry_of_fresh (hfresh : fs.node? (name :: here) = none)
    (hbelow : classify fs' cwd ⟨directory, here, []⟩ name = .ok (.directory (name :: here)) → name :: here ∉ here :: within →
      files fs' cwd r suffixes (child directory name) (name :: here) (here :: within) = []) :
    filesOfEntry fs' cwd r suffixes directory here within name = [] := by
  by_cases hplace : name :: here = place
  · exact (filesOfEntry_place ho hl hslash hends hplace directory within).2
  unfold filesOfEntry
  cases hc : classify fs' cwd ⟨directory, here, []⟩ name with
  | error e => rfl
  | ok kind =>
      have hkind : kindAt fs' (name :: here) = kind := by
        rw [classify_of_linkFree (ho.linkFree hl)] at hc
        exact Except.ok.inj hc
      cases kind with
      | other => rfl
      | file =>
          obtain ⟨n, hnode, hfile⟩ := kindAt_eq_file hkind
          rw [Node.isFile_of_isDirectory (ho.fresh _ n hplace hfresh hnode)] at hfile
          cases hfile
      | directory q =>
          obtain ⟨rfl, -⟩ := kindAt_eq_directory hkind
          dsimp only
          split_ifs with hexcluded hwithin
          · rfl
          · rfl
          · exact hbelow hc hwithin

/-- An entry that was there stands for the files that it stood for if the same files are below it. -/
theorem filesOfEntry_of_kept {n : Node} (hkept : fs.node? (name :: here) = some n)
    (hbelow : classify fs cwd ⟨directory, here, []⟩ name = .ok (.directory (name :: here)) →
      fs.isDirectoryAt (name :: here) = true → name :: here ∉ here :: within →
        files fs' cwd r suffixes (child directory name) (name :: here) (here :: within) =
          files fs cwd r suffixes (child directory name) (name :: here) (here :: within)) :
    filesOfEntry fs' cwd r suffixes directory here within name = filesOfEntry fs cwd r suffixes directory here within name := by
  by_cases hplace : name :: here = place
  · obtain ⟨hnothing, hnothing'⟩ := filesOfEntry_place ho hl hslash hends hplace directory within
    rw [hnothing, hnothing']
  obtain ⟨n', hn', halike⟩ := ho.kept _ n hplace hkept
  have hkind : kindAt fs' (name :: here) = kindAt fs (name :: here) := by
    unfold kindAt
    rw [hkept, hn']
    dsimp only
    rw [halike.isDirectory_eq, halike.isFile_eq]
  have hclassify : classify fs cwd ⟨directory, here, []⟩ name = .ok (kindAt fs (name :: here)) := classify_of_linkFree hl _ name
  unfold filesOfEntry
  rw [classify_of_linkFree (ho.linkFree hl), hclassify, hkind]
  cases hk : kindAt fs (name :: here) with
  | file => rfl
  | other => rfl
  | directory q =>
      rw [hk] at hclassify
      obtain ⟨rfl, hdir⟩ := kindAt_eq_directory hk
      dsimp only
      split_ifs with hexcluded hwithin
      · rfl
      · rfl
      · exact hbelow hclassify hdir hwithin

include hn'

/-- Nothing is found below a new directory. -/
theorem files_of_fresh (ha : isAbsolute directory = true) (hfresh : fs.node? here = none)
    (hd : ∀ d, fs'.locate cwd true directory = .ok d → d = here) :
    files fs' cwd r suffixes directory here within = [] := by
  induction directory, here, within using files.induct fs' cwd with
  | case1 directory here within ih =>
      rw [files_eq, List.flatMap_eq_nil_iff]
      intro name hname
      have hchild : fs.node? (name :: here) = none := node?_child_eq_none (isDirectoryAt_eq_false hfresh)
      refine filesOfEntry_of_fresh ho hl hslash hends hchild fun hc hwithin => ?_
      have hplain := isPlainName_of_classify hn' hc (by rintro ⟨⟩)
      exact ih name _ hc hwithin (isEntryPath_child ha hplain).isAbsolute hchild fun q hq => eq_of_locate_child hn' ha hd hc hq

omit hn' hslash hends in
/-- The path of a directory that was there leads to it if it does now, as long as the path of the directory around it
does. -/
theorem locate_child_of_outgrows (ha : isAbsolute directory = true) (hplain : IsPlainName name)
    (hd : fs.isDirectoryAt (name :: here) = true)
    (hback : ∀ d, fs'.locate cwd true directory = .ok d → fs.locate cwd true directory = .ok d)
    (hhere : ∀ d, fs.locate cwd true directory = .ok d → d = here)
    (h : fs'.locate cwd true (child directory name) = .ok q) : fs.locate cwd true (child directory name) = .ok q := by
  have hchild := isEntryPath_child ha hplain
  obtain ⟨n, hnode, hdir⟩ := isDirectoryAt_iff.1 hd
  obtain ⟨n', hnode', halike⟩ := ho.directory hnode hdir
  obtain ⟨d, k, hd', hlast⟩ := exists_locate_of_entry ha hchild h
  have hlocate := hback d hd'
  obtain rfl := hhere d hlocate
  have hlink := hl _ n hnode
  have hopen : fs.IsOpen d := (ho.isOpen_iff (isDirectoryAt_parent hnode)).1 hlast.isOpen_of_cons
  obtain ⟨rfl, hname⟩ : q = name :: d ∧ IsEntryName name := by
    cases hlast with
    | stay => exact absurd rfl hplain.ne_dot
    | climb => exact absurd rfl hplain.ne_dotDot
    | enter _ hname _ _ h =>
        cases h
        exact ⟨rfl, hname⟩
    | halt hf => cases hf
    | jump _ _ hm hc =>
        have hfree := ho.linkFree hl _ _ hm
        rw [isLink_iff.2 ⟨_, hc⟩] at hfree
        cases hfree
  obtain ⟨-, hlen, -⟩ := resolve_eq_ok_iff.1 (locate_eq_ok_iff.1 h)
  have hfound := resolve_of_isEntryPath ha (locate_eq_ok_iff.1 hlocate) hopen hplain hchild hname.2.2 hlen
  rw [entry, hnode, Option.isSome_some, if_pos rfl] at hfound
  obtain ⟨hne, -, links, hk, hway⟩ := resolve_eq_ok_iff.1 hfound
  exact locate_eq_ok_iff.2 (resolve_eq_ok_iff.2 ⟨hne, hlen, links, hk, hway.followed hnode hlink⟩)

include hn

/-- Below a directory that was there the same files are found. -/
theorem files_of_outgrows (ha : isAbsolute directory = true) (hdir : fs.isDirectoryAt here = true)
    (hhere : ∀ d, fs.locate cwd true directory = .ok d → d = here)
    (hback : ∀ d, fs'.locate cwd true directory = .ok d → fs.locate cwd true directory = .ok d) :
    files fs' cwd r suffixes directory here within = files fs cwd r suffixes directory here within := by
  induction directory, here, within using files.induct fs cwd with
  | case1 directory here within ih =>
      rw [files_eq, files_eq]
      cases hlocate : fs.locate cwd true directory with
      | error e =>
          cases hlocate' : fs'.locate cwd true directory with
          | error e' => rw [contents_of_error hlocate, contents_of_error hlocate']; rfl
          | ok d =>
              rw [hback d hlocate'] at hlocate
              cases hlocate
      | ok d =>
          obtain rfl := hhere d hlocate
          have hhere' : ∀ q, fs'.locate cwd true directory = .ok q → q = d := fun q hq => hhere q (hback q hq)
          obtain ⟨n, hnode, hnd⟩ := isDirectoryAt_iff.1 hdir
          obtain ⟨n', hnode', halike⟩ := ho.directory hnode hnd
          rw [contents_of_locate hlocate hnode hnd,
            contents_of_locate (ho.locate hl hlocate) hnode' (by rw [halike.isDirectory_eq, hnd])]
          have hreadable : n'.readable = n.readable := by rw [Node.readable, Node.readable, halike.1]
          rw [hreadable]
          cases n.readable with
          | false => rfl
          | true =>
              rw [if_pos rfl, if_pos rfl, ← ho.names_filter d]
              refine List.flatMap_eq_flatMap_filter (fun name _ hold => ?_) fun name _ hnew => ?_
              · obtain ⟨m, hm⟩ := Option.isSome_iff_exists.1 hold
                refine filesOfEntry_of_kept ho hl hslash hends hm fun hc hdir' hwithin => ?_
                have hplain := isPlainName_of_classify hn hc (by rintro ⟨⟩)
                exact ih name _ hc hwithin (isEntryPath_child ha hplain).isAbsolute hdir'
                  (fun q hq => eq_of_locate_child hn ha hhere hc hq)
                  fun q hq => locate_child_of_outgrows ho hl ha hplain hdir' hback hhere hq
              · rw [Option.isSome_eq_false_iff, Option.isNone_iff_eq_none] at hnew
                refine filesOfEntry_of_fresh ho hl hslash hends hnew fun hc _ => ?_
                have hplain := isPlainName_of_classify hn' hc (by rintro ⟨⟩)
                exact files_of_fresh ho hl hn' hslash hends (isEntryPath_child ha hplain).isAbsolute hnew
                  fun q hq => eq_of_locate_child hn' ha hhere' hc hq

/-- The index of a root is the same, unless the root leads to a directory that was there and did not lead there before. -/
theorem index_of_outgrows (hroot : ∀ q, fs.isDirectoryAt q = true → fs'.locate cwd true root = .ok q →
    fs.locate cwd true root = .ok q) : (index fs' cwd r suffixes root).1 = (index fs cwd r suffixes root).1 := by
  rw [index_eq_files, index_eq_files]
  cases ha : isAbsolute root with
  | false => rfl
  | true =>
      cases r.excludes root with
      | true => rfl
      | false =>
          simp only [Bool.not_false, Bool.true_and]
          cases hd' : fs'.directory? cwd root with
          | false =>
              have hd : fs.directory? cwd root = false := by
                rw [← Bool.not_eq_true]
                intro hd
                rw [ho.directory? hl hd] at hd'
                cases hd'
              rw [hd, if_neg Bool.false_ne_true, if_neg Bool.false_ne_true]
          | true =>
              obtain ⟨hnul, q, hq, hdir'⟩ := directory?_eq_true_iff.1 hd'
              rw [if_pos rfl, hq]
              dsimp only
              cases hdir : fs.isDirectoryAt q with
              | true =>
                  have hlocate := hroot q hdir hq
                  rw [directory?_eq_true_iff.2 ⟨hnul, q, hlocate, hdir⟩, if_pos rfl, hlocate]
                  have hplace : ∀ {fs : FileSystem} {d : Location}, fs.locate cwd true root = .ok q →
                      fs.locate cwd true root = .ok d → d = q := fun h h' => Except.ok.inj (h'.symm.trans h)
                  exact files_of_outgrows ho hl hn hn' hslash hends ha hdir (fun d hd => hplace hlocate hd)
                    fun d hd => by rw [hplace hq hd, hlocate]
              | false =>
                  -- the directory is new, and the root led to no other one
                  have hd : fs.directory? cwd root = false := by
                    rw [← Bool.not_eq_true]
                    intro hd
                    obtain ⟨-, d, hlocate, hdir''⟩ := directory?_eq_true_iff.1 hd
                    rw [ho.locate hl hlocate, Except.ok.injEq] at hq
                    rw [← hq, hdir''] at hdir
                    cases hdir
                  rw [hd, if_neg Bool.false_ne_true]
                  exact files_of_fresh ho hl hn' hslash hends ha (ho.node?_eq_none hdir' hdir)
                    fun d hd => Except.ok.inj (hd.symm.trans hq)

end Walk

end RequirePath
