import RequirePath.Proofs.Resolver.Order

/-! When a request fails. A resolver takes a specifier for its own by the suffix that the specifier has, and looks for the
variants of its logical path. The two agree unless the dot that the logical path leaves out belongs to the suffix: the
specifier is nothing but a suffix that starts with a dot and a slash. The rule on suffixes asks for the dot alone. -/

namespace RequirePath

open Pathname (endsInAny ofText)

variable {specifier logical primary compiled : Pathname} {suffixes : List Pathname}

/-! ### Suffixes of logical paths -/

/-- A logical path leaves out a dot that is followed by a slash; else it is the specifier, with a slash in front if it has
none. -/
theorem logicalPath_cases (specifier : Pathname) :
    (∃ name, specifier = dot ++ slash :: name ∧ logicalPath specifier = slash :: name) ∨
      ¬dot ++ [slash] <+: specifier ∧
        (Pathname.isAbsolute specifier = true ∧ logicalPath specifier = specifier ∨
          Pathname.isAbsolute specifier = false ∧ logicalPath specifier = slash :: specifier) := by
  by_cases hdot : dot ++ [slash] <+: specifier
  · obtain ⟨name, rfl⟩ := hdot
    exact Or.inl ⟨name, rfl, rfl⟩
  · have hfront : (logicalPath.dot.isPrefixOf specifier && (specifier.drop 1).head? == some slash) = false := by
      refine Bool.eq_false_iff.2 fun hfront => hdot ?_
      obtain ⟨hstem, hslash⟩ := Bool.and_eq_true_iff.1 hfront
      obtain ⟨rest, rfl⟩ := List.isPrefixOf_iff_prefix.1 hstem
      obtain ⟨name, rfl⟩ := List.head?_eq_some_iff.1 (eq_of_beq hslash)
      exact ⟨name, rfl⟩
    refine Or.inr ⟨hdot, ?_⟩
    unfold logicalPath
    rw [hfront]
    cases habsolute : Pathname.isAbsolute specifier with
    | true => exact Or.inl ⟨rfl, rfl⟩
    | false => exact Or.inr ⟨rfl, rfl⟩

/-- Only a dot that is followed by a slash is left out of a logical path. -/
theorem suffix_logicalPath (h : ¬dot ++ [slash] <+: specifier) : specifier <:+ logicalPath specifier := by
  rcases logicalPath_cases specifier with ⟨name, rfl, -⟩ | ⟨-, ⟨-, heq⟩ | ⟨-, heq⟩⟩
  · exact absurd ⟨name, rfl⟩ h
  · exact ⟨[], heq.symm⟩
  · exact ⟨[slash], heq.symm⟩

/-- A specifier has a suffix that its logical path has not: it is a suffix itself and starts with a dot and a slash, and
without the dot it ends in no suffix. -/
structure LosesSuffix (suffixes : List Pathname) (specifier : Pathname) : Prop where
  leading : dot ++ [slash] <+: specifier
  whole : specifier ∈ suffixes
  rest : endsInAny specifier.tail suffixes = false

namespace LosesSuffix

theorem endsInAny (h : LosesSuffix suffixes specifier) : Pathname.endsInAny specifier suffixes = true :=
  Pathname.endsInAny_iff.2 ⟨specifier, h.whole, List.suffix_rfl⟩

theorem logicalPath_eq (h : LosesSuffix suffixes specifier) : logicalPath specifier = specifier.tail := by
  obtain ⟨rest, rfl⟩ := h.leading
  rfl

theorem slash_mem (h : LosesSuffix suffixes specifier) : ∃ s ∈ suffixes, slash ∈ s :=
  ⟨specifier, h.whole, h.leading.subset (List.mem_append_right _ List.mem_cons_self)⟩

end LosesSuffix

theorem endsInAny_logicalPath_eq_false_iff (h : endsInAny specifier suffixes = true) :
    endsInAny (logicalPath specifier) suffixes = false ↔ LosesSuffix suffixes specifier := by
  constructor
  · intro hlost
    obtain ⟨s, hs, hends⟩ := Pathname.endsInAny_iff.1 h
    have hnone : ∀ s ∈ suffixes, ¬s <:+ logicalPath specifier := fun s hs hsuffix =>
      Bool.false_ne_true (hlost.symm.trans (Pathname.endsInAny_iff.2 ⟨s, hs, hsuffix⟩))
    by_cases hfront : dot ++ [slash] <+: specifier
    · obtain ⟨rest, rfl⟩ := hfront
      -- a suffix that goes on in the logical path would still be one there
      rcases List.suffix_cons_iff.1 hends with rfl | hends
      · exact ⟨⟨rest, rfl⟩, hs, hlost⟩
      · exact absurd hends (hnone s hs)
    · exact absurd (hends.trans (suffix_logicalPath hfront)) (hnone s hs)
  · intro hloses
    rw [hloses.logicalPath_eq]
    exact hloses.rest

theorem Variants.of?_eq_none_iff : of? primary compiled logical = none ↔ endsInAny logical [primary, compiled] = false := by
  constructor
  · intro hnone
    rw [← Bool.not_eq_true]
    intro hends
    obtain ⟨v, hv⟩ := exists_of_endsInAny hends
    cases hnone.symm.trans hv
  · intro hends
    obtain ⟨hprimary, hcompiled⟩ : primary.isSuffixOf logical = false ∧ compiled.isSuffixOf logical = false := by
      simpa [endsInAny] using hends
    rw [of?, hprimary, hcompiled]
    rfl

namespace Resolver

variable {r : Resolver}

/-! ### Requests that fail -/

theorem variants_eq_none_iff (hhandles : r.handles specifier = true) :
    Variants.of? r.config.primarySuffix r.config.compiledSuffix (logicalPath specifier) = none ↔
      LosesSuffix r.config.suffixes specifier :=
  Variants.of?_eq_none_iff.trans (endsInAny_logicalPath_eq_false_iff hhandles)

/-- Tiers that are asked for a directory that is a path do not fail. -/
theorem firstAnswer_isOk (r : Resolver) (fs : FileSystem) (cwd : Location) (directory : Pathname) (v : Variants)
    (tiers : List Tier) : ∃ found, r.firstAnswer fs cwd (some directory) v tiers = .ok found := by
  induction tiers with
  | nil => exact ⟨none, rfl⟩
  | cons t rest ih =>
      obtain ⟨found, hrest⟩ := ih
      rw [firstAnswer, answer_eq_find?]
      split
      · next heq => cases heq
      · exact ⟨_, rfl⟩
      · exact ⟨found, hrest⟩

/-- A request fails exactly if the specifier loses its suffix, whatever is loaded, whoever requires it and whatever files
there are; it then fails before it looks at any file, because the logical path has no variants. Every other request has a
result. -/
theorem resolve_fails_iff (c : Config) (l : Loaded) (directory specifier : Pathname) (h : Host) :
    let r : Resolver := ⟨l, c, Tier.standard⟩
    ((∃ e, (r.resolve (some directory) specifier h).1 = .error e) ↔ LosesSuffix c.suffixes specifier) ∧
      (r.handles specifier = true →
        (Variants.of? c.primarySuffix c.compiledSuffix (logicalPath specifier) = none ↔ LosesSuffix c.suffixes specifier)) ∧
      (LosesSuffix c.suffixes specifier → r.handles specifier = true ∧
        r.resolve (some directory) specifier h = (.error (.unsupportedSuffix (Pathname.display specifier.tail)), h)) := by
  intro r
  have hfails : LosesSuffix c.suffixes specifier → r.handles specifier = true ∧
      r.resolve (some directory) specifier h = (.error (.unsupportedSuffix (Pathname.display specifier.tail)), h) := by
    intro hloses
    have hhandles : r.handles specifier = true := hloses.endsInAny
    refine ⟨hhandles, ?_⟩
    rw [resolve_of_unsupported hhandles ((variants_eq_none_iff hhandles).2 hloses), hloses.logicalPath_eq]
  refine ⟨⟨?_, fun hloses => ⟨_, congrArg Prod.fst (hfails hloses).2⟩⟩, variants_eq_none_iff, hfails⟩
  rintro ⟨e, herror⟩
  cases hhandles : r.handles specifier with
  | false =>
      rw [resolve_of_not_handles hhandles] at herror
      cases herror
  | true =>
      cases hv : Variants.of? c.primarySuffix c.compiledSuffix (logicalPath specifier) with
      | none => exact (variants_eq_none_iff hhandles).1 hv
      | some v =>
          obtain ⟨found, hfound⟩ := firstAnswer_isOk r h.files h.workingDirectory directory v r.tiers
          rw [resolve_fst hhandles hv, hfound] at herror
          cases herror

/-- The configuration of the sample with a suffix that starts with a dot and a slash. -/
def nestedSuffixConfig : Config := { Store.sampleConfig with primarySuffix := ofText "./rb" }

/-- With the suffixes of the sample no request fails; with the other suffix the request for that suffix does. -/
theorem resolve_fails_iff_sample :
    (∀ specifier e, ((⟨⟨[], [], false⟩, Store.sampleConfig, Tier.standard⟩ : Resolver).resolve (some (ofText "/app")) specifier
      Store.sampleHost).1 ≠ .error e) ∧
      (⟨⟨[], [], false⟩, nestedSuffixConfig, Tier.standard⟩ : Resolver).resolve (some (ofText "/app")) (ofText "./rb")
        Store.sampleHost = (.error (.unsupportedSuffix "/rb"), Store.sampleHost) := by
  constructor
  · intro specifier e herror
    obtain ⟨s, hs, hslash⟩ := ((resolve_fails_iff Store.sampleConfig ⟨[], [], false⟩ (ofText "/app") specifier
      Store.sampleHost).1.1 ⟨e, herror⟩).slash_mem
    exact absurd hslash ((by decide : ∀ s ∈ Store.sampleConfig.suffixes, slash ∉ s) s hs)
  · have hloses : LosesSuffix nestedSuffixConfig.suffixes (ofText "./rb") := ⟨by decide, by decide, by decide⟩
    exact ((resolve_fails_iff nestedSuffixConfig ⟨[], [], false⟩ (ofText "/app") (ofText "./rb") Store.sampleHost).2.2
      hloses).2

/-- Settings with such a suffix are admitted, and a resolver takes a specifier for its own that it then fails on. -/
theorem resolve_fails_on_suffix :
    Config.ofSettings ⟨.root, []⟩ [("project_root", .text "/app"), ("primary_suffix", .text "./rb")] = .ok nestedSuffixConfig ∧
      let r : Resolver := ⟨⟨[], [], false⟩, nestedSuffixConfig, Tier.standard⟩
      r.handles (ofText "./rb") = true ∧
        Variants.of? nestedSuffixConfig.primarySuffix nestedSuffixConfig.compiledSuffix (logicalPath (ofText "./rb")) = none ∧
        (r.resolve (some (ofText "/app")) (ofText "./rb") Store.sampleHost).1 = .error (.unsupportedSuffix "/rb") := by
  refine ⟨by rfl, by decide, by decide, ?_⟩
  rw [resolve_of_unsupported (by decide) (by decide)]
  rfl

end Resolver

end RequirePath
