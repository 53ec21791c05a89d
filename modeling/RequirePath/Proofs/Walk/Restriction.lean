import RequirePath.Proofs.Walk.NamesBelow

/-! What a restriction takes away from a walk: the paths with an excluded directory on the way to them, and nothing else.
The walk goes into a directory only if it is not inside of it, and it is inside of those on the way alone; so what is left
out in one place does not change what is found in another, whatever links there are. -/

namespace RequirePath.Walk

open Pathname (child isWithin isWithinAny ofText)

variable {fs : FileSystem} {cwd here place : Location} {r r' : Restriction} {suffixes : List Pathname}
variable {directory root path : Pathname} {name : Filename} {within : List Location}

/-- The directories that names lie in, one below another from a directory on. -/
def wayFrom (directory : Pathname) : List Filename → List Pathname
  | [] => []
  | name :: names => directory :: wayFrom (child directory name) names

/-- The directories on the way from a root to a path below it, the root among them. -/
def directoriesTo (root path : Pathname) : List Pathname :=
  wayFrom root (namesBelow root path)

/-- No directory on the way from a root to a path is excluded. -/
def Restriction.admits (r : Restriction) (root path : Pathname) : Bool :=
  (directoriesTo root path).all fun d => !r.excludes d

/-- The first directory on the way is the one that it starts from. -/
theorem admits_of_namesBelow (r : Restriction) {names : List Filename} (hnames : namesBelow directory path = name :: names) :
    r.admits directory path =
      (!r.excludes directory && (wayFrom (child directory name) names).all fun d => !r.excludes d) := by
  show (wayFrom directory (namesBelow directory path)).all (fun d => !r.excludes d) = _
  rw [hnames]
  rfl

theorem admits_eq_false (hx : r.excludes directory = true) (path : Pathname) : r.admits directory path = false := by
  obtain ⟨name, names, hnames⟩ := List.exists_cons_of_ne_nil (namesBelow_ne_nil directory path)
  rw [admits_of_namesBelow r hnames, hx]
  rfl

theorem admits_child (hx : r.excludes directory = false) (hs : slash ∉ name) :
    r.admits directory (child directory name) = true := by
  rw [admits_of_namesBelow r (namesBelow_child hs), hx]
  rfl

/-- From a directory that is not excluded on, the way to what is found below an entry is that from the entry on. -/
theorem admits_of_mem_files (hx : r.excludes directory = false) (hs : slash ∉ name)
    (h : path ∈ files fs cwd r' suffixes (child directory name) place within) :
    r.admits directory path = r.admits (child directory name) path := by
  rw [admits_of_namesBelow r (namesBelow_of_mem_files hs h), hx]
  rfl

/-- Below a directory that is not excluded, a walk finds what one without a restriction finds and the restriction admits. -/
theorem files_eq_filter (hn : fs.WellNamed) (hfree : ∀ d, r'.excludes d = false) (hx : r.excludes directory = false) :
    files fs cwd r suffixes directory here within =
      (files fs cwd r' suffixes directory here within).filter (r.admits directory) := by
  induction directory, here, within using files.induct fs cwd with
  | case1 directory here within ih =>
      rw [files_eq, files_eq, List.filter_flatMap]
      refine List.flatMap_congr fun name _ => ?_
      unfold filesOfEntry
      cases hc : classify fs cwd ⟨directory, here, []⟩ name with
      | error e => rfl
      | ok kind =>
          cases kind with
          | other => rfl
          | file =>
              have hplain := isPlainName_of_classify hn hc (by rintro ⟨⟩)
              dsimp only
              split_ifs
              · rw [List.filter_cons_of_pos (admits_child hx hplain.slash_notMem), List.filter_nil]
              · rfl
          | directory place =>
              have hplain := isPlainName_of_classify hn hc (by rintro ⟨⟩)
              dsimp only
              rw [hfree, if_neg Bool.false_ne_true]
              by_cases hwithin : place ∈ here :: within
              · rw [if_pos hwithin, if_pos hwithin, ite_self]
                rfl
              · rw [if_neg hwithin, if_neg hwithin]
                have hbelow : ∀ path ∈ files fs cwd r' suffixes (child directory name) place (here :: within),
                    r.admits directory path = r.admits (child directory name) path :=
                  fun path hpath => admits_of_mem_files hx hplain.slash_notMem hpath
                rw [List.filter_congr hbelow]
                cases hchild : r.excludes (child directory name) with
                | true =>
                    -- the entry is left out, and with it all that lies below it
                    exact (List.filter_eq_nil_iff.2 fun path _ => by simp [admits_eq_false hchild]).symm
                | false => exact ih name place hc hwithin hchild

theorem index_eq_filter (hn : fs.WellNamed) (hfree : ∀ d, r'.excludes d = false) :
    (index fs cwd r suffixes root).1 = (index fs cwd r' suffixes root).1.filter (r.admits root) := by
  rw [index_eq_files, index_eq_files, hfree]
  cases hx : r.excludes root with
  | true =>
      rw [Bool.not_true, Bool.and_false, Bool.false_and, if_neg Bool.false_ne_true]
      exact (List.filter_eq_nil_iff.2 fun path _ => by simp [admits_eq_false hx]).symm
  | false =>
      split_ifs
      · split
        · exact files_eq_filter hn hfree hx
        · rfl
      · rfl

/-- A restricted walk finds, in the same order and as often, what an unrestricted one finds, but for the paths with an
excluded directory on the way: one that is within the working tree and in no allowed zone. So with more zones it finds all
that it finds with fewer, in the same order. -/
theorem index_restricted (hn : fs.WellNamed) (cwd : Location) (wt : Pathname) (zones suffixes : List Pathname) (root : Pathname) :
    (index fs cwd ⟨true, wt, zones⟩ suffixes root).1 =
      (index fs cwd ⟨false, wt, zones⟩ suffixes root).1.filter
        (fun path => (directoriesTo root path).all fun d => !(isWithin d wt && !isWithinAny d zones)) ∧
    ∀ zones', zones ⊆ zones' →
      (index fs cwd ⟨true, wt, zones⟩ suffixes root).1.Sublist (index fs cwd ⟨true, wt, zones'⟩ suffixes root).1 := by
  have hfilter : ∀ zones, (index fs cwd ⟨true, wt, zones⟩ suffixes root).1 =
      (index fs cwd free suffixes root).1.filter (Restriction.admits ⟨true, wt, zones⟩ root) :=
    fun zones => index_eq_filter hn fun _ => rfl
  refine ⟨index_eq_filter hn fun _ => rfl, fun zones' hzones => ?_⟩
  rw [hfilter zones, hfilter zones']
  refine List.monotone_filter_right _ fun path hpath => ?_
  refine List.all_eq_true.2 fun d hd => ?_
  have hadmits := List.all_eq_true.1 hpath d hd
  simp only [Restriction.excludes, Bool.true_and, Bool.not_and, Bool.not_not, Bool.or_eq_true] at hadmits ⊢
  refine hadmits.imp_right fun hany => ?_
  obtain ⟨z, hz, hin⟩ := List.any_eq_true.1 hany
  exact List.any_eq_true.2 ⟨z, hzones hz, hin⟩

/-- A directory with a project, which has a library. -/
def sampleProject : FileSystem :=
  let t : Timestamp := ⟨10, 0⟩
  let fs := (FileSystem.empty t).put [ofText "srv"] (Node.newDirectory t)
  let fs := fs.put [ofText "app", ofText "srv"] (Node.newDirectory t)
  let fs := fs.put [ofText "lib", ofText "app", ofText "srv"] (Node.newDirectory t)
  fs.put [ofText "x.rb", ofText "lib", ofText "app", ofText "srv"] (Node.newFile [] t)

/-- The module of the project is found if the project is an allowed zone. Its library as a zone does not help, since the
project lies on the way to it. -/
theorem index_restricted_sample :
    let found := fun zones => (index sampleProject [] ⟨true, ofText "/srv/app", zones⟩ [ofText ".rb"] (ofText "/srv")).1
    sampleProject.WellNamed ∧ found [] = [] ∧ found [ofText "/srv/app/lib"] = [] ∧
      (found [ofText "/srv/app/lib"]).Sublist (found [ofText "/srv/app/lib", ofText "/srv/app"]) ∧
      found [ofText "/srv/app/lib", ofText "/srv/app"] = [ofText "/srv/app/lib/x.rb"] := by
  intro found
  have hn : sampleProject.WellNamed := by decide
  have hfree : (index sampleProject [] ⟨false, ofText "/srv/app", []⟩ [ofText ".rb"] (ofText "/srv")).1 =
      [ofText "/srv/app/lib/x.rb"] := by decide +kernel
  refine ⟨hn, ?_, by decide +kernel, ?_, by decide +kernel⟩
  · rw [show found [] = _ from (index_restricted hn [] (ofText "/srv/app") [] [ofText ".rb"] (ofText "/srv")).1, hfree]
    decide +kernel
  · exact (index_restricted hn [] (ofText "/srv/app") [ofText "/srv/app/lib"] [ofText ".rb"] (ofText "/srv")).2 _
      (List.cons_subset_cons _ (List.nil_subset _))

end RequirePath.Walk
