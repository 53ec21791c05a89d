import RequirePath.Proofs.Resolver.Supported

/-! Spellings of one module. A module may be required by its bare name, from the root, or from the directory at hand; all
three have one logical path. A suffix that holds no slash is read off what comes after the last slash, so it cannot tell a
specifier from its logical path, and a request then rests on the logical path alone. -/

namespace RequirePath

open Pathname (endsInAny isAbsolute ofText)

variable {specifier other name : Pathname} {suffixes : List Pathname}

/-- The three spellings of a module: its bare name, the name below the directory at hand, and the name below the root. -/
def spellings (name : Pathname) : List Pathname :=
  [name, dot ++ slash :: name, slash :: name]

theorem logicalPath_of_bare (hroot : isAbsolute name = false) (hdot : ¬dot ++ [slash] <+: name) :
    logicalPath name = slash :: name := by
  rcases logicalPath_cases name with ⟨rest, rfl, -⟩ | ⟨-, ⟨habsolute, -⟩ | ⟨-, heq⟩⟩
  · exact absurd ⟨rest, rfl⟩ hdot
  · exact absurd (hroot.symm.trans habsolute) Bool.false_ne_true
  · exact heq

/-- All spellings of a module have the same logical path. -/
theorem logicalPath_of_mem_spellings (hroot : isAbsolute name = false) (hdot : ¬dot ++ [slash] <+: name)
    (hs : specifier ∈ spellings name) : logicalPath specifier = slash :: name := by
  simp only [spellings, List.mem_cons, List.not_mem_nil, or_false] at hs
  rcases hs with rfl | rfl | rfl
  · exact logicalPath_of_bare hroot hdot
  · rfl
  · rfl

/-- What holds no slash ends a path only if it ends what comes after a slash of the path. -/
theorem suffix_append_slash_iff {s : Pathname} (hs : slash ∉ s) (front : Pathname) : s <:+ front ++ slash :: name ↔ s <:+ name := by
  constructor
  · intro h
    rcases List.suffix_or_suffix_of_suffix h (List.suffix_append front (slash :: name)) with hshort | hlong
    · rcases List.suffix_cons_iff.1 hshort with rfl | hshort
      · exact absurd List.mem_cons_self hs
      · exact hshort
    · exact absurd (hlong.subset List.mem_cons_self) hs
  · intro h
    exact h.trans ((List.suffix_cons slash name).trans (List.suffix_append front _))

theorem endsInAny_append_slash (hs : ∀ s ∈ suffixes, slash ∉ s) (front : Pathname) :
    endsInAny (front ++ slash :: name) suffixes = endsInAny name suffixes := by
  rw [Bool.eq_iff_iff, Pathname.endsInAny_iff, Pathname.endsInAny_iff]
  exact exists_congr fun s => and_congr_right fun hmem => suffix_append_slash_iff (hs s hmem) front

/-- With such suffixes a specifier ends in one exactly if its logical path does. -/
theorem endsInAny_logicalPath (hs : ∀ s ∈ suffixes, slash ∉ s) (specifier : Pathname) :
    endsInAny (logicalPath specifier) suffixes = endsInAny specifier suffixes := by
  rcases logicalPath_cases specifier with ⟨name, rfl, heq⟩ | ⟨-, ⟨-, heq⟩ | ⟨-, heq⟩⟩
  · rw [heq]
    exact (endsInAny_append_slash hs []).trans (endsInAny_append_slash hs dot).symm
  · rw [heq]
  · rw [heq]
    exact endsInAny_append_slash hs []

namespace Resolver

variable {r : Resolver}

theorem handles_logicalPath (hs : ∀ s ∈ r.config.suffixes, slash ∉ s) (specifier : Pathname) :
    r.handles (logicalPath specifier) = r.handles specifier :=
  endsInAny_logicalPath hs specifier

/-- Specifiers with one logical path have one result, whatever tiers the resolver has. -/
theorem resolve_fst_of_logicalPath (hs : ∀ s ∈ r.config.suffixes, slash ∉ s) (requester : Option Pathname) (h : Host)
    (heq : logicalPath other = logicalPath specifier) :
    (r.resolve requester other h).1 = (r.resolve requester specifier h).1 := by
  have hboth : r.handles other = r.handles specifier := by
    rw [← handles_logicalPath hs other, heq, handles_logicalPath hs]
  cases hhandles : r.handles specifier with
  | false => rw [resolve_of_not_handles hhandles, resolve_of_not_handles (hboth.trans hhandles)]
  | true =>
      cases hv : Variants.of? r.config.primarySuffix r.config.compiledSuffix (logicalPath specifier) with
      | none => rw [resolve_of_unsupported hhandles hv, resolve_of_unsupported (hboth.trans hhandles) (heq ▸ hv), heq]
      | some v => rw [resolve_fst hhandles hv, resolve_fst (hboth.trans hhandles) (heq ▸ hv)]

/-- With such suffixes every request has a result. -/
theorem resolve_isOk (hs : ∀ s ∈ r.config.suffixes, slash ∉ s) (directory specifier : Pathname) (h : Host) :
    ∃ found, (r.resolve (some directory) specifier h).1 = .ok found := by
  cases hhandles : r.handles specifier with
  | false => exact ⟨none, by rw [resolve_of_not_handles hhandles]⟩
  | true =>
      cases hv : Variants.of? r.config.primarySuffix r.config.compiledSuffix (logicalPath specifier) with
      | none =>
          obtain ⟨s, hmem, hslash⟩ := ((variants_eq_none_iff hhandles).1 hv).slash_mem
          exact absurd hslash (hs s hmem)
      | some v =>
          rw [resolve_fst hhandles hv]
          exact firstAnswer_isOk r h.files h.workingDirectory directory v r.tiers

/-- All spellings of a module are handled alike and have one result, a path with its tier or none, if the suffixes hold no
slash. The name may be any that is not itself spelled from the root or from the directory at hand. -/
theorem resolve_spellings (r : Resolver) (hs : ∀ s ∈ r.config.suffixes, slash ∉ s) (directory name : Pathname) (h : Host)
    (hroot : isAbsolute name = false) (hdot : ¬dot ++ [slash] <+: name) :
    ∃ found, ∀ specifier ∈ spellings name, r.handles specifier = r.handles name ∧
      (r.resolve (some directory) specifier h).1 = .ok found := by
  obtain ⟨found, hfound⟩ := resolve_isOk hs directory name h
  refine ⟨found, fun specifier hmem => ?_⟩
  have heq : logicalPath specifier = logicalPath name := by
    rw [logicalPath_of_mem_spellings hroot hdot hmem, logicalPath_of_bare hroot hdot]
  constructor
  · rw [← handles_logicalPath hs specifier, heq, handles_logicalPath hs]
  · rw [← hfound]
    exact resolve_fst_of_logicalPath hs (some directory) h heq

/-- The module of the sample by all its spellings, over an index that has it below the second of two load paths. -/
theorem resolve_spellings_sample :
    let r : Resolver := ⟨⟨[ofText "/gem", ofText "/lib"], [ofText "/lib/x.rb"], false⟩, Store.sampleConfig, Tier.standard⟩
    (∀ s ∈ r.config.suffixes, slash ∉ s) ∧ isAbsolute (ofText "x.rb") = false ∧ ¬dot ++ [slash] <+: ofText "x.rb" ∧
      ∀ specifier ∈ [ofText "x.rb", ofText "./x.rb", ofText "/x.rb"],
        (r.resolve (some (ofText "/app")) specifier Store.sampleHost).1 = .ok (some (ofText "/lib/x.rb", "index")) := by
  intro r
  have hs : ∀ s ∈ r.config.suffixes, slash ∉ s := by decide
  refine ⟨hs, by decide, by decide, ?_⟩
  obtain ⟨found, hall⟩ := resolve_spellings r hs (ofText "/app") (ofText "x.rb") Store.sampleHost (by decide) (by decide)
  have hfound : (r.resolve (some (ofText "/app")) (ofText "x.rb") Store.sampleHost).1 =
      .ok (some (ofText "/lib/x.rb", "index")) := by rfl
  have hspelled : [ofText "x.rb", ofText "./x.rb", ofText "/x.rb"] = spellings (ofText "x.rb") := by decide
  rw [hspelled]
  intro specifier hmem
  rw [(hall specifier hmem).2, ← (hall _ List.mem_cons_self).2, hfound]

end Resolver

end RequirePath
