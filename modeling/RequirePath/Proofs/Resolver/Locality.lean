import RequirePath.Proofs.Path.Within
import RequirePath.Proofs.Resolver.Order
import RequirePath.Proofs.Resolver.Soundness

/-! What a resolver reads of the disk: whether paths exist that are spelled within the working tree, and nothing else.
An answer of the index reads not even that, and neither does a specifier that ends in no suffix of modules. -/

namespace RequirePath

open FileSystem RequirePath.Action
open Pathname (isAbsolute isWithin endsInAny ofText)

variable {c : Config} {l : Loaded} {h h' : Host} {requester : Option Pathname} {specifier path r tree root rest : Pathname}
variable {v : Variants} {t : Tier} {tiers : List Tier} {fs fs' : FileSystem} {cwd cwd' : Location} {resolver : Resolver}

/-! ### What follows a path in a directory -/

/-- What goes on from a path within a directory with a slash is within it, whatever either spelling ends in. -/
theorem Pathname.isWithin_append (h : isWithin root tree = true) (ha : isAbsolute rest = true) :
    isWithin (root ++ rest) tree = true := by
  obtain ⟨more, rfl⟩ := exists_of_isAbsolute ha
  have hne : tree.isEmpty = false := by
    cases tree with
    | nil => cases h
    | cons b bs => rfl
  rw [isWithin, hne] at h ⊢
  refine Bool.or_eq_true_iff.2 (Or.inr (List.isPrefixOf_iff_prefix.2 ?_))
  rcases Bool.or_eq_true_iff.1 h with heq | hprefix
  · -- the path is the directory itself, so the slash is the one that its stem ends in
    rw [eq_of_beq heq, stem]
    split_ifs with hslash
    · exact List.prefix_append _ _
    · exact ⟨more, by simp⟩
  · exact (List.isPrefixOf_iff_prefix.1 hprefix).trans (List.prefix_append _ _)

/-- No path exists whose first name is missing at the root. -/
theorem FileSystem.exists?_eq_false {name : Filename} {names : List Filename} (ha : isAbsolute path = true)
    (hpath : steps path = name :: names) (hname : IsEntryName name) (hv : fs.node? [name] = none) :
    fs.exists? cwd path = false := by
  cases hs : fs.status cwd path with
  | error e => rw [exists?, hs, Except.isOk, Except.toBool, Bool.and_false]
  | ok n =>
      obtain ⟨q, hq, hn⟩ := status_eq_ok_iff.1 hs
      obtain ⟨-, -, links, -, hway⟩ := resolve_eq_ok_iff.1 hq
      rw [linkStart, if_pos ha, hpath] at hway
      generalize endsInSlash path = must at hway
      generalize hplace : Place.found q = place at hway
      cases hway with
      | stay => exact absurd rfl hname.1
      | climb => exact absurd rfl hname.2.1
      | miss => cases hplace
      | enter ho he hm => simp [hm] at hv
      | halt hf ho he hm => simp [hm] at hv
      | jump ho he hm => simp [hm] at hv

namespace Host

/-- On two machines the same paths exist of those that are spelled within a directory. -/
def AgreeWithin (tree : Pathname) (h h' : Host) : Prop :=
  ∀ path, isWithin path tree = true →
    h.files.exists? h.workingDirectory path = h'.files.exists? h'.workingDirectory path

end Host

/-! ### Tiers on two disks -/

namespace Resolver

theorem answer_congr (ha : ∀ u ∈ v.toList, isAbsolute u = true)
    (hsame : ∀ path, isWithin path resolver.config.workingTree = true → fs.exists? cwd path = fs'.exists? cwd' path) :
    resolver.answer fs cwd requester v t = resolver.answer fs' cwd' requester v t := by
  cases t with
  | index => rfl
  | filesystem =>
      refine congrArg Except.ok (List.find?_congr fun path hpath => ?_)
      obtain ⟨p, hp, hcandidate⟩ := List.mem_flatMap.1 hpath
      obtain ⟨u, hu, rfl⟩ := List.mem_map.1 hcandidate
      exact hsame _ (Pathname.isWithin_append (List.mem_filter.1 hp).2 (ha u hu))
  | requestingDirectory =>
      cases requester with
      | none => rfl
      | some directory =>
          simp only [answer]
          cases hwithin : isWithin (directory ++ v.primary) resolver.config.workingTree with
          | false => rfl
          | true => rw [hsame _ hwithin]
  | constant path => rfl

theorem firstAnswer_congr (ha : ∀ u ∈ v.toList, isAbsolute u = true)
    (hsame : ∀ path, isWithin path resolver.config.workingTree = true → fs.exists? cwd path = fs'.exists? cwd' path) :
    resolver.firstAnswer fs cwd requester v tiers = resolver.firstAnswer fs' cwd' requester v tiers := by
  induction tiers with
  | nil => rfl
  | cons t tiers ih => rw [firstAnswer, firstAnswer, answer_congr ha hsame, ih]

/-- An answer that is named after the index is the one of the first tier, which looks at no disk. -/
theorem firstAnswer_of_index
    (hfirst : resolver.firstAnswer fs cwd requester v Tier.standard = .ok (some (r, Tier.index.name))) :
    resolver.firstAnswer fs' cwd' requester v Tier.standard = .ok (some (r, Tier.index.name)) := by
  rw [Tier.standard, firstAnswer] at hfirst ⊢
  have hlater : resolver.firstAnswer fs cwd requester v [.filesystem, .requestingDirectory] ≠
      .ok (some (r, Tier.index.name)) := by
    intro hrest
    obtain ⟨t, ht, -, hname⟩ := exists_tier_of_firstAnswer hrest
    simp only [List.mem_cons, List.not_mem_nil, or_false] at ht
    rcases ht with rfl | rfl
    · exact absurd hname (by decide)
    · exact absurd hname (by decide)
  cases hindex : resolver.answer fs cwd requester v .index with
  | error e =>
      rw [hindex] at hfirst
      cases hfirst
  | ok found =>
      have hindex' : resolver.answer fs' cwd' requester v .index = .ok found := hindex
      rw [hindex] at hfirst
      rw [hindex']
      rcases found with - | - | ⟨b, path⟩
      · exact absurd hfirst hlater
      · exact absurd hfirst hlater
      · exact hfirst

/-- Either the tiers answer a request, or its result is fixed before they are asked. -/
theorem resolve_fst_cases (resolver : Resolver) (specifier : Pathname) :
    (∃ result, ∀ requester h, (resolver.resolve requester specifier h).1 = result) ∨
      ∃ v, Variants.of? resolver.config.primarySuffix resolver.config.compiledSuffix (logicalPath specifier) = some v ∧
        ∀ requester h, (resolver.resolve requester specifier h).1 =
          resolver.firstAnswer h.files h.workingDirectory requester v resolver.tiers := by
  cases hhandles : resolver.handles specifier with
  | false => exact Or.inl ⟨.ok none, fun requester h => by rw [resolve_of_not_handles hhandles]⟩
  | true =>
      cases hv : Variants.of? resolver.config.primarySuffix resolver.config.compiledSuffix (logicalPath specifier) with
      | some v => exact Or.inr ⟨v, rfl, fun requester h => resolve_fst hhandles hv⟩
      | none =>
          exact Or.inl ⟨.error (.unsupportedSuffix (Pathname.display (logicalPath specifier))), fun requester h => by
            rw [resolve_of_unsupported hhandles hv]⟩

/-- An answer rests on the files and the working directory alone. -/
theorem resolve_fst_congr (resolver : Resolver) (requester : Option Pathname) (specifier : Pathname)
    (hfiles : h'.files = h.files) (hcwd : h'.workingDirectory = h.workingDirectory) :
    (resolver.resolve requester specifier h').1 = (resolver.resolve requester specifier h).1 := by
  rcases resolve_fst_cases resolver specifier with ⟨result, hresult⟩ | ⟨v, -, hfirst⟩
  · exact (hresult requester h').trans (hresult requester h).symm
  · rw [hfirst, hfirst, hfiles, hcwd]

/-- On two machines with the same paths in the working tree a request has the same answer or the same failure. If one of
them answers from the index, or if the specifier ends in no suffix of modules, so does every other one. -/
theorem resolve_reads_working_tree (hdots : c.DottedSuffixes) (l : Loaded) (requester : Option Pathname)
    (specifier : Pathname) (h h' : Host) :
    let answer (h : Host) := ((⟨l, c, Tier.standard⟩ : Resolver).resolve requester specifier h).1
    (h.AgreeWithin c.workingTree h' → answer h = answer h') ∧
      ((∃ path, answer h = .ok (some (path, Tier.index.name))) ∨ endsInAny specifier c.suffixes = false →
        answer h = answer h') := by
  rcases resolve_fst_cases ⟨l, c, Tier.standard⟩ specifier with ⟨result, hresult⟩ | ⟨v, hv, hfirst⟩
  · have hequal := (hresult requester h).trans (hresult requester h').symm
    exact ⟨fun _ => hequal, fun _ => hequal⟩
  have habsolute : ∀ u ∈ v.toList, isAbsolute u = true := fun u hu =>
    Variants.isAbsolute_of_mem hdots.primary (isAbsolute_logicalPath specifier) hv hu
  constructor
  · intro hsame
    exact ((hfirst requester h).trans (firstAnswer_congr habsolute hsame)).trans (hfirst requester h').symm
  · rintro (⟨path, hindex⟩ | hends)
    · have hindex' : (⟨l, c, Tier.standard⟩ : Resolver).firstAnswer h'.files h'.workingDirectory requester v Tier.standard =
          .ok (some (path, Tier.index.name)) := firstAnswer_of_index ((hfirst requester h).symm.trans hindex)
      exact hindex.trans (hindex'.symm.trans (hfirst requester h').symm)
    · have hhandles : (⟨l, c, Tier.standard⟩ : Resolver).handles specifier = false := hends
      simp only [resolve_of_not_handles hhandles]

/-- Two machines without the project, of which one has a module in another directory: a request gets the same answer from
both, from the index and from the disk. -/
theorem resolve_reads_working_tree_sample :
    let c : Config := { Store.sampleConfig with projectRoot := ⟨.root, [ofText "srv"]⟩ }
    let r : Resolver := ⟨⟨[ofText "/srv/lib", ofText "/lib"], [ofText "/lib/y.rb"], false⟩, c, Tier.standard⟩
    let bare : Host := { Store.sampleHost with files := FileSystem.empty ⟨10, 0⟩ }
    let answer (h : Host) (specifier : Pathname) := (r.resolve (some (ofText "/srv")) specifier h).1
    answer Store.sampleHost (ofText "x.rb") = answer bare (ofText "x.rb") ∧
      answer Store.sampleHost (ofText "y.rb") = answer bare (ofText "y.rb") ∧
      answer Store.sampleHost (ofText "y.css") = answer bare (ofText "y.css") := by
  intro c r bare answer
  have hdots : c.DottedSuffixes := ⟨by decide, by decide⟩
  have hroot : c.projectRoot.Normal := by decide
  have hagree : Store.sampleHost.AgreeWithin c.workingTree bare := by
    intro path hwithin
    have ha := Pathname.isAbsolute_of_isWithin hroot hwithin
    obtain ⟨names, hnames⟩ := Pathname.prefix_of_isWithin hroot hwithin
    have hname : IsEntryName (ofText "srv") := ⟨by decide, by decide, by decide⟩
    rw [FileSystem.exists?_eq_false ha hnames.symm hname (by decide),
      FileSystem.exists?_eq_false ha hnames.symm hname (by decide)]
  have hindex : answer Store.sampleHost (ofText "y.rb") = .ok (some (ofText "/lib/y.rb", Tier.index.name)) :=
    Cache.eq_ok_of_toOption (by decide)
  exact ⟨(resolve_reads_working_tree hdots r.loaded (some (ofText "/srv")) (ofText "x.rb") Store.sampleHost bare).1 hagree,
    (resolve_reads_working_tree hdots r.loaded (some (ofText "/srv")) (ofText "y.rb") Store.sampleHost bare).2
      (Or.inl ⟨_, hindex⟩),
    (resolve_reads_working_tree hdots r.loaded (some (ofText "/srv")) (ofText "y.css") Store.sampleHost bare).2
      (Or.inr (by decide))⟩

end Resolver

end RequirePath
