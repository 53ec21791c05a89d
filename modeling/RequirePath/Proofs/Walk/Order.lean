import RequirePath.Proofs.Walk.NamesBelow

/-! The order of what a walk finds. Names are compared byte by byte, and sequences of names name by name; this is the order
of the entries of a directory, and what lies below an entry has its place. Paths compared as a whole stand in another
order, since a slash comes after some bytes of names. -/

namespace RequirePath

namespace FileSystem

/-- The order in which names are listed, for distinct names. -/
theorem lt_of_nameLE {a b : Filename} (h : nameLE a b = true) (hne : a ≠ b) : a < b := by
  induction a generalizing b with
  | nil =>
      obtain ⟨y, ys, rfl⟩ := List.exists_cons_of_ne_nil hne.symm
      exact List.nil_lt_cons y ys
  | cons x xs ih =>
      cases b with
      | nil => cases h
      | cons y ys =>
          rw [nameLE, Bool.or_eq_true, Bool.and_eq_true, decide_eq_true_eq, beq_iff_eq] at h
          refine List.cons_lt_cons_iff.2 (h.imp_right ?_)
          rintro ⟨rfl, hle⟩
          exact ⟨rfl, ih hle fun he => hne (congrArg _ he)⟩

theorem pairwise_names_lt (fs : FileSystem) (directory : Location) : (fs.names directory).Pairwise (· < ·) :=
  (pairwise_names fs directory).imp₂ (fun _ _ => lt_of_nameLE) (nodup_names fs directory)

end FileSystem

namespace Walk

open Pathname (child ofText)
open LexicalPath (joinNames)

variable {fs : FileSystem} {cwd here place : Location} {r : Restriction} {suffixes : List Pathname}
variable {directory root path : Pathname} {name : Filename} {names under a b : List Filename} {within : List Location}

theorem pairwise_contents (fs : FileSystem) (cwd : Location) (directory : Pathname) :
    (contents fs cwd directory).1.Pairwise (· < ·) := by
  rcases contents_cases fs cwd directory with hnone | ⟨place, -, hnames⟩
  · rw [hnone]
    exact List.Pairwise.nil
  · rw [hnames]
    exact FileSystem.pairwise_names_lt fs place

/-- What an entry stands for has the name of the entry first. -/
theorem exists_namesBelow_eq_cons (hn : fs.WellNamed)
    (h : path ∈ filesOfEntry fs cwd r suffixes directory here within name) :
    ∃ names, namesBelow directory path = name :: names := by
  rcases filesOfEntry_cases h with ⟨hc, rfl, -⟩ | ⟨place, hc, -, hbelow⟩
  · exact ⟨[], namesBelow_child (isPlainName_of_classify hn hc (by rintro ⟨⟩)).slash_notMem⟩
  · exact ⟨_, namesBelow_of_mem_files (isPlainName_of_classify hn hc (by rintro ⟨⟩)).slash_notMem hbelow⟩

/-- What a walk finds below a directory is in the order of its names from there. -/
theorem pairwise_files (hn : fs.WellNamed) :
    (files fs cwd r suffixes directory here within).Pairwise fun e e' => namesBelow directory e < namesBelow directory e' := by
  induction directory, here, within using files.induct fs cwd with
  | case1 directory here within ih =>
      rw [files_eq, List.pairwise_flatMap]
      constructor
      · intro name _
        unfold filesOfEntry
        cases hc : classify fs cwd ⟨directory, here, []⟩ name with
        | error e => exact List.Pairwise.nil
        | ok kind =>
            cases kind with
            | other => exact List.Pairwise.nil
            | file =>
                dsimp only
                split_ifs
                · exact List.pairwise_singleton _ _
                · exact List.Pairwise.nil
            | directory place =>
                have hplain := isPlainName_of_classify hn hc (by rintro ⟨⟩)
                dsimp only
                split_ifs with hexcluded hwithin
                · exact List.Pairwise.nil
                · exact List.Pairwise.nil
                · -- below the entry all names are those from the entry on, after its own
                  refine (ih name place hc hwithin).imp_of_mem fun he he' hlt => ?_
                  rw [namesBelow_of_mem_files hplain.slash_notMem he, namesBelow_of_mem_files hplain.slash_notMem he']
                  exact List.cons_lt_cons_iff.2 (Or.inr ⟨rfl, hlt⟩)
      · refine (pairwise_contents fs cwd directory).imp fun hlt e he e' he' => ?_
        obtain ⟨_, hnames⟩ := exists_namesBelow_eq_cons hn he
        obtain ⟨_, hnames'⟩ := exists_namesBelow_eq_cons hn he'
        rw [hnames, hnames']
        exact List.cons_lt_cons_iff.2 (Or.inl hlt)

theorem pairwise_index (hn : fs.WellNamed) :
    (index fs cwd r suffixes root).1.Pairwise fun e e' => namesBelow root e < namesBelow root e' := by
  rw [index_eq_files]
  split_ifs
  · split
    · exact pairwise_files hn
    · exact List.Pairwise.nil
  · exact List.Pairwise.nil

/-! ### Names and paths -/

/-- A found path is spelled by its names below the root. -/
theorem eq_of_namesBelow (hn : fs.WellNamed) (h : path ∈ (index fs cwd r suffixes root).1) :
    path = root ++ slash :: joinNames (namesBelow root path) ∧ ∀ x ∈ namesBelow root path, IsPlainName x := by
  obtain ⟨names, hne, hplain, rfl⟩ := eq_of_mem_index hn h
  rw [namesBelow_append, LexicalPath.splitAt_joinNames hne fun x hx => (hplain x hx).slash_notMem]
  exact ⟨rfl, hplain⟩

/-! ### Blocks -/

theorem lt_or_startsWith (hlt : a < b) (h : under <+: b) : a < under ∨ under <+: a := by
  induction under generalizing a b with
  | nil => exact Or.inr List.nil_prefix
  | cons x xs ih =>
      obtain ⟨rest, rfl⟩ := h
      cases a with
      | nil => exact Or.inl (List.nil_lt_cons x xs)
      | cons y ys =>
          rw [List.cons_append] at hlt
          rcases List.cons_lt_cons_iff.1 hlt with hxy | ⟨rfl, hrest⟩
          · exact Or.inl (List.cons_lt_cons_iff.2 (Or.inl hxy))
          · rcases ih hrest (List.prefix_append xs rest) with hless | hpre
            · exact Or.inl (List.cons_lt_cons_iff.2 (Or.inr ⟨rfl, hless⟩))
            · exact Or.inr (List.cons_prefix_cons.2 ⟨rfl, hpre⟩)

/-- What holds of everything that stands before something that it holds of, holds of the front of a list. -/
theorem exists_front {α : Type} {R : α → α → Prop} {p : α → Prop} {xs : List α} (h : xs.Pairwise R)
    (hp : ∀ {x y}, R x y → p y → p x) : ∃ front rest, xs = front ++ rest ∧ (∀ x ∈ front, p x) ∧ ∀ x ∈ rest, ¬p x := by
  induction xs with
  | nil => exact ⟨[], [], rfl, by simp, by simp⟩
  | cons x xs ih =>
      obtain ⟨hfirst, htail⟩ := List.pairwise_cons.1 h
      by_cases hx : p x
      · obtain ⟨front, rest, rfl, hfront, hrest⟩ := ih htail
        exact ⟨x :: front, rest, rfl, List.forall_mem_cons.2 ⟨hx, hfront⟩, hrest⟩
      · exact ⟨[], x :: xs, rfl, by simp, List.forall_mem_cons.2 ⟨hx, fun y hy hpy => hx (hp (hfirst y hy) hpy)⟩⟩

/-- In a list in the order of names, what lies below some names stands in one block, at the place of these names. -/
theorem exists_block {α : Type} {key : α → List Filename} {xs : List α} (h : xs.Pairwise fun x y => key x < key y)
    (under : List Filename) : ∃ before block after, xs = before ++ block ++ after ∧ (∀ x ∈ before, key x < under) ∧
      (∀ x ∈ block, under <+: key x) ∧ ∀ x ∈ after, under < key x ∧ ¬under <+: key x := by
  obtain ⟨front, after, rfl, hfront, hafter⟩ := exists_front (p := fun x => key x < under ∨ under <+: key x) h
    fun hlt hy => hy.elim (fun hless => Or.inl (List.lt_trans hlt hless)) (lt_or_startsWith hlt)
  obtain ⟨before, block, rfl, hbefore, hblock⟩ := exists_front (p := fun x => key x < under) (List.pairwise_append.1 h).1
    fun hlt hy => List.lt_trans hlt hy
  refine ⟨before, block, after, rfl, hbefore, fun x hx => ?_, fun x hx => ?_⟩
  · exact (hfront x (List.mem_append_right _ hx)).resolve_left (hblock x hx)
  · obtain ⟨hless, hpre⟩ := not_or.1 (hafter x hx)
    refine ⟨?_, hpre⟩
    rcases Std.lt_trichotomy (key x) under with hlt | heq | hgt
    · exact absurd hlt hless
    · exact absurd (heq ▸ List.prefix_refl _) hpre
    · exact hgt

/-! ### The order of an index -/

/-- The paths that a walk finds are spelled by their names below the root, and stand in the order of these names, name by
name and each byte by byte, so none occurs twice. What lies below a directory, or below any names, stands in one block:
what comes before it has smaller names and what comes after it has greater ones. -/
theorem index_in_order (hn : fs.WellNamed) (cwd : Location) (r : Restriction) (suffixes : List Pathname) (root : Pathname) :
    let found := (index fs cwd r suffixes root).1
    (∀ path ∈ found, path = root ++ slash :: joinNames (namesBelow root path) ∧ ∀ x ∈ namesBelow root path, IsPlainName x) ∧
    found.Pairwise (fun e e' => namesBelow root e < namesBelow root e') ∧ found.Nodup ∧
    ∀ under : List Filename, ∃ before block after, found = before ++ block ++ after ∧
      (∀ e ∈ before, namesBelow root e < under) ∧ (∀ e ∈ block, under <+: namesBelow root e) ∧
      ∀ e ∈ after, under < namesBelow root e ∧ ¬under <+: namesBelow root e := by
  intro found
  have hordered : found.Pairwise fun e e' => namesBelow root e < namesBelow root e' := pairwise_index hn
  refine ⟨fun path hpath => eq_of_namesBelow hn hpath, hordered, ?_, exists_block hordered⟩
  refine hordered.imp fun hlt => ?_
  rintro rfl
  exact List.lt_irrefl _ hlt

/-- A library with a module and a directory of its name. -/
def sampleNested : FileSystem :=
  let t : Timestamp := ⟨10, 0⟩
  let fs := (FileSystem.empty t).put [ofText "lib"] (Node.newDirectory t)
  let fs := fs.put [ofText "a.rb", ofText "lib"] (Node.newFile [] t)
  let fs := fs.put [ofText "a", ofText "lib"] (Node.newDirectory t)
  fs.put [ofText "b.rb", ofText "a", ofText "lib"] (Node.newFile [] t)

theorem contents_sampleNested : contents sampleNested [] (ofText "/lib") = ([ofText "a", ofText "a.rb"], []) := by
  have hlist : contents sampleNested [] (ofText "/lib") = (sampleNested.names [ofText "lib"], []) := by rfl
  have hentries : sampleNested.nodes.filterMap (FileSystem.nameIn [ofText "lib"]) = [ofText "a", ofText "a.rb"] := by decide
  rw [hlist, FileSystem.names, hentries, List.mergeSort_of_pairwise (by decide)]

/-- What is in the directory comes first, although the path of the module is the smaller one of the two. -/
theorem index_in_order_sample :
    let found := (index sampleNested [] free [ofText ".rb"] (ofText "/lib")).1
    sampleNested.WellNamed ∧ found = [ofText "/lib/a/b.rb", ofText "/lib/a.rb"] ∧
      found.Pairwise (fun e e' => namesBelow (ofText "/lib") e < namesBelow (ofText "/lib") e') ∧
      ofText "/lib/a.rb" < ofText "/lib/a/b.rb" := by
  intro found
  have hn : sampleNested.WellNamed := by decide
  have hroot : sampleNested.locate [] true (ofText "/lib") = .ok [ofText "lib"] := by rfl
  let start : State := ⟨[⟨ofText "/lib", [ofText "lib"], [ofText "a", ofText "a.rb"]⟩], [], []⟩
  have henter : enter sampleNested [] (ofText "/lib") [ofText "lib"] ⟨[], [], []⟩ = start := by
    rw [enter, contents_sampleNested]
    rfl
  have hend : (run sampleNested [] free [ofText ".rb"] 6 start).frames = [] := List.isEmpty_iff.1 (by decide +kernel)
  have hfound : found = [ofText "/lib/a/b.rb", ofText "/lib/a.rb"] := by
    show (index sampleNested [] free [ofText ".rb"] (ofText "/lib")).1 = _
    rw [index_eq_files, if_pos (by decide), hroot]
    dsimp only
    rw [← entries_run_enter, henter, run_of_ended _ _ _ _ hend (by decide +kernel)]
    decide +kernel
  exact ⟨hn, hfound, (index_in_order hn [] free [ofText ".rb"] (ofText "/lib")).2.1, by decide⟩

end Walk

end RequirePath
