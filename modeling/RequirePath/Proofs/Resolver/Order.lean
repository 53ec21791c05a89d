import RequirePath.Proofs.Resolver

/-! The order of resolution. All tiers of a resolver together try one list of candidates: first those of the index, then
those on disk, then the one beside the file that requires; below each load path the primary variant comes before the
compiled one. The answer is the first candidate that hits, wherever it stands in the list. -/

namespace RequirePath

open RequirePath.Action
open Pathname (isAbsolute isWithin endsInAny ofText)

variable {c : Config} {l : Loaded} {directory specifier logical p u : Pathname} {v : Variants} {fs : FileSystem}
variable {cwd : Location} {there : Pathname → Bool} {t : Tier} {tiers : List Tier} {h : Host}

/-! ### Variants -/

theorem isAbsolute_logicalPath (specifier : Pathname) : isAbsolute (logicalPath specifier) = true := by
  unfold logicalPath
  split_ifs with hdot habsolute
  · exact (Bool.and_eq_true_iff.1 hdot).2
  · exact habsolute
  · rfl

theorem Variants.isAbsolute_of_mem {primary compiled : Pathname} (hp : dot <+: primary) (ha : isAbsolute logical = true)
    (hv : of? primary compiled logical = some v) (hu : u ∈ v.toList) : isAbsolute u = true := by
  -- a suffix that starts with a dot does not reach the slash at the front
  have hstem : primary <:+ logical → isAbsolute (logical.take (logical.length - primary.length)) = true := by
    rintro ⟨stem, rfl⟩
    have htake : (stem ++ primary).take ((stem ++ primary).length - primary.length) = stem := by simp
    rw [htake]
    cases stem with
    | nil =>
        obtain ⟨rest, rfl⟩ := hp
        cases ha
    | cons b bs => exact ha
  unfold of? at hv
  split_ifs at hv with hprimary hcompiled
  · obtain rfl := Option.some.inj hv
    rcases List.mem_cons.1 hu with rfl | hu
    · exact ha
    · rw [List.mem_singleton.1 hu]
      exact Pathname.isAbsolute_append (hstem (List.isSuffixOf_iff_suffix.1 hprimary)) _
  · obtain rfl := Option.some.inj hv
    rcases List.mem_cons.1 hu with rfl | hu
    · exact Pathname.isAbsolute_append ha _
    · rw [List.mem_singleton.1 hu]
      exact ha

theorem Variants.exists_of_endsInAny {primary compiled : Pathname} (h : endsInAny logical [primary, compiled] = true) :
    ∃ v, of? primary compiled logical = some v := by
  unfold of?
  by_cases hprimary : primary.isSuffixOf logical = true
  · exact ⟨_, if_pos hprimary⟩
  · have hcompiled : compiled.isSuffixOf logical = true := by simpa [endsInAny, hprimary] using h
    exact ⟨_, by rw [if_neg hprimary, if_pos hcompiled]⟩

/-! ### Candidates -/

/-- A path that is tried, and the tier that tries it. -/
structure Candidate where
  path : Pathname
  tier : Tier

namespace Candidate

def answer (e : Candidate) : Pathname × String := (e.path, e.tier.name)

/-- The variants below each of some load paths, the primary one first. -/
def below (tier : Tier) (v : Variants) (loadPaths : List Pathname) : List Candidate :=
  loadPaths.flatMap fun p => [⟨p ++ v.primary, tier⟩, ⟨p ++ v.compiled, tier⟩]

/-- The candidates of a tier: of the load paths, those on disk are of the ones in the working tree only. -/
def ofTier (l : Loaded) (c : Config) (directory : Pathname) (v : Variants) : Tier → List Candidate
  | .index => below .index v l.loadPaths
  | .filesystem => below .filesystem v (l.loadPaths.filter (isWithin · c.workingTree))
  | .requestingDirectory => [⟨directory ++ v.primary, .requestingDirectory⟩]
  | .constant path => path.toList.map (⟨·, .constant path⟩)

/-- All candidates of a request, in the order in which they are tried. -/
def order (l : Loaded) (c : Config) (directory : Pathname) (v : Variants) : List Candidate :=
  below .index v l.loadPaths ++ below .filesystem v (l.loadPaths.filter (isWithin · c.workingTree)) ++
    [⟨directory ++ v.primary, .requestingDirectory⟩]

/-- A candidate hits: it is in the index, or it passes a test of what is on disk; the one beside the file that requires
must also be in the working tree. -/
def hits (l : Loaded) (c : Config) (there : Pathname → Bool) (e : Candidate) : Bool :=
  match e.tier with
  | .index => l.contains e.path
  | .filesystem => there e.path
  | .requestingDirectory => isWithin e.path c.workingTree && there e.path
  | .constant _ => true

theorem flatMap_ofTier_standard : Tier.standard.flatMap (ofTier l c directory v) = order l c directory v := by
  simp [Tier.standard, ofTier, order]

theorem below_eq (tier : Tier) (loadPaths : List Pathname) :
    below tier v loadPaths = (loadPaths.flatMap (Resolver.candidates v)).map (⟨·, tier⟩) := by
  simp [below, List.map_flatMap, Resolver.candidates, Variants.toList]

theorem mem_below_iff {tier : Tier} {loadPaths : List Pathname} {e : Candidate} :
    e ∈ below tier v loadPaths ↔ ∃ p ∈ loadPaths, ∃ u ∈ v.toList, e = ⟨p ++ u, tier⟩ := by
  simp [below, Variants.toList]

theorem tier_of_mem_ofTier {e : Candidate} (he : e ∈ ofTier l c directory v t) : e.tier = t := by
  cases t with
  | index =>
      obtain ⟨p, -, u, -, rfl⟩ := mem_below_iff.1 he
      rfl
  | filesystem =>
      obtain ⟨p, -, u, -, rfl⟩ := mem_below_iff.1 he
      rfl
  | requestingDirectory => rw [List.mem_singleton.1 he]
  | constant path =>
      obtain ⟨q, -, rfl⟩ := List.mem_map.1 he
      rfl

theorem path_ne_nil {e : Candidate} (hu : ∀ u ∈ v.toList, isAbsolute u = true) (ht : t ∈ Tier.standard)
    (he : e ∈ ofTier l c directory v t) : e.path ≠ [] := by
  have hne : ∀ p, ∀ u ∈ v.toList, p ++ u ≠ [] := by
    intro p u hmem hnil
    have := hu u hmem
    rw [(List.append_eq_nil_iff.1 hnil).2] at this
    cases this
  simp only [Tier.standard, List.mem_cons, List.not_mem_nil, or_false] at ht
  rcases ht with rfl | rfl | rfl
  · obtain ⟨p, -, u, hmem, rfl⟩ := mem_below_iff.1 he
    exact hne p u hmem
  · obtain ⟨p, -, u, hmem, rfl⟩ := mem_below_iff.1 he
    exact hne p u hmem
  · rw [List.mem_singleton.1 he]
    exact hne directory v.primary List.mem_cons_self

end Candidate

namespace Resolver

open Candidate

variable {r : Resolver}

/-! ### The first hit -/

theorem find?_below (tier : Tier) (loadPaths : List Pathname) (test : Candidate → Bool) :
    ((below tier v loadPaths).find? test).map Candidate.path =
      (loadPaths.flatMap (candidates v)).find? fun path => test ⟨path, tier⟩ := by
  rw [below_eq, List.find?_map, Option.map_map]
  exact Option.map_id'

/-- A tier answers with the first of its candidates that hits. -/
theorem answer_eq_find? (t : Tier) :
    r.answer fs cwd (some directory) v t =
      .ok (((ofTier r.loaded r.config directory v t).find? (hits r.loaded r.config (fs.exists? cwd))).map Candidate.path) := by
  let test := hits r.loaded r.config (fs.exists? cwd)
  cases t with
  | index => exact congrArg Except.ok (find?_below .index _ test).symm
  | filesystem => exact congrArg Except.ok (find?_below .filesystem _ test).symm
  | requestingDirectory =>
      rw [answer, ofTier, List.find?_singleton]
      by_cases hit : test ⟨directory ++ v.primary, .requestingDirectory⟩ = true
      · rw [if_pos hit]
        exact congrArg Except.ok (if_pos hit)
      · rw [if_neg hit]
        exact congrArg Except.ok (if_neg hit)
  | constant path => cases path <;> rfl

/-- The tiers together answer with the first of all their candidates that hits, if none of them is empty: an empty path
would be taken for no answer. -/
theorem firstAnswer_eq_find? (hne : ∀ t ∈ tiers, ∀ e ∈ ofTier r.loaded r.config directory v t, e.path ≠ []) :
    r.firstAnswer fs cwd (some directory) v tiers =
      .ok (((tiers.flatMap (ofTier r.loaded r.config directory v)).find?
        (hits r.loaded r.config (fs.exists? cwd))).map Candidate.answer) := by
  induction tiers with
  | nil => rfl
  | cons t rest ih =>
      have htail := ih fun t' ht' => hne t' (List.mem_cons_of_mem _ ht')
      rw [firstAnswer, answer_eq_find?, List.flatMap_cons, List.find?_append]
      cases hfind : (ofTier r.loaded r.config directory v t).find? (hits r.loaded r.config (fs.exists? cwd)) with
      | none => simpa using htail
      | some e =>
          have hmem := List.mem_of_find?_eq_some hfind
          obtain ⟨b, path, hpath⟩ := List.exists_cons_of_ne_nil (hne t List.mem_cons_self e hmem)
          simp [hpath, Candidate.answer, tier_of_mem_ofTier hmem]

theorem resolve_of_not_handles {requester : Option Pathname} (hhandles : r.handles specifier = false) :
    r.resolve requester specifier h = (.ok none, h) := by
  unfold resolve
  rw [hhandles]
  rfl

theorem resolve_of_unsupported {requester : Option Pathname} (hhandles : r.handles specifier = true)
    (hv : Variants.of? r.config.primarySuffix r.config.compiledSuffix (logicalPath specifier) = none) :
    r.resolve requester specifier h = (.error (.unsupportedSuffix (Pathname.display (logicalPath specifier))), h) := by
  unfold resolve
  simp only [hhandles, hv, Bool.not_true, Bool.false_eq_true, if_false]
  rfl

theorem resolve_fst {requester : Option Pathname} (hhandles : r.handles specifier = true)
    (hv : Variants.of? r.config.primarySuffix r.config.compiledSuffix (logicalPath specifier) = some v) :
    (r.resolve requester specifier h).1 = r.firstAnswer h.files h.workingDirectory requester v r.tiers := by
  have hlook : ∀ result, r.firstAnswer h.files h.workingDirectory requester v r.tiers = result →
      lookOrFail (fun h => r.firstAnswer h.files h.workingDirectory requester v r.tiers) h = (result, h) := by
    rintro result rfl
    rfl
  unfold resolve
  simp only [hhandles, hv, Bool.not_true, Bool.false_eq_true, if_false]
  -- what follows the answer is logged and leaves it as it is
  cases hfirst : r.firstAnswer h.files h.workingDirectory requester v r.tiers with
  | error e => rw [bind_of_error (hlook _ hfirst)]
  | ok found =>
      rw [bind_of_ok (hlook _ hfirst)]
      cases found <;> rfl

theorem resolve_eq_find? (hdots : c.DottedSuffixes) (hends : endsInAny specifier c.suffixes = true)
    (hv : Variants.of? c.primarySuffix c.compiledSuffix (logicalPath specifier) = some v) :
    ((⟨l, c, Tier.standard⟩ : Resolver).resolve (some directory) specifier h).1 =
      .ok (((order l c directory v).find? (hits l c (h.files.exists? h.workingDirectory))).map Candidate.answer) := by
  have habsolute : ∀ u ∈ v.toList, isAbsolute u = true := fun u hu =>
    Variants.isAbsolute_of_mem hdots.primary (isAbsolute_logicalPath _) hv hu
  have hhandles : (⟨l, c, Tier.standard⟩ : Resolver).handles specifier = true := hends
  rw [resolve_fst hhandles hv, firstAnswer_eq_find? fun t ht e he => path_ne_nil habsolute ht he, flatMap_ofTier_standard]

/-- A request whose specifier ends in a suffix of modules, and does so still as a logical path, is answered with the first
candidate that hits; it has no answer exactly if no candidate hits. A request with any other specifier has no answer,
whatever files there are. -/
theorem resolve_eq_first_hit (hdots : c.DottedSuffixes) (l : Loaded) (directory specifier : Pathname) (h : Host) :
    (endsInAny specifier c.suffixes = true → endsInAny (logicalPath specifier) c.suffixes = true →
      ∃ v, Variants.of? c.primarySuffix c.compiledSuffix (logicalPath specifier) = some v ∧
        let hit := hits l c (h.files.exists? h.workingDirectory)
        let answer := ((⟨l, c, Tier.standard⟩ : Resolver).resolve (some directory) specifier h).1
        answer = .ok (((order l c directory v).find? hit).map Candidate.answer) ∧
          (answer = .ok none ↔ ∀ e ∈ order l c directory v, hit e = false)) ∧
    (endsInAny specifier c.suffixes = false → ∀ requester,
      (⟨l, c, Tier.standard⟩ : Resolver).resolve requester specifier h = (.ok none, h)) := by
  constructor
  · intro hends hlogical
    obtain ⟨v, hv⟩ := Variants.exists_of_endsInAny hlogical
    have hanswer : ((⟨l, c, Tier.standard⟩ : Resolver).resolve (some directory) specifier h).1 = _ :=
      resolve_eq_find? hdots hends hv
    refine ⟨v, hv, hanswer, ?_⟩
    rw [hanswer, Except.ok.injEq, Option.map_eq_none_iff, List.find?_eq_none]
    simp only [Bool.not_eq_true]
  · intro hends requester
    exact resolve_of_not_handles hends

/-- The second load path has the compiled variant in the index, the first one has neither; a stylesheet is left to the
host. -/
theorem resolve_eq_first_hit_sample :
    let r : Resolver := ⟨⟨[ofText "/app/lib", ofText "/lib"], [ofText "/lib/x.js"], false⟩, Store.sampleConfig, Tier.standard⟩
    (r.resolve (some (ofText "/app")) (ofText "x.rb") Store.sampleHost).1 = .ok (some (ofText "/lib/x.js", "index")) ∧
      r.resolve (some (ofText "/app")) (ofText "x.css") Store.sampleHost = (.ok none, Store.sampleHost) := by
  intro r
  have hdots : Store.sampleConfig.DottedSuffixes := ⟨by decide, by decide⟩
  obtain ⟨v, hv, hanswer, -⟩ := (resolve_eq_first_hit hdots r.loaded (ofText "/app") (ofText "x.rb") Store.sampleHost).1
    (by decide) (by decide)
  obtain rfl : v = ⟨ofText "/x.rb", ofText "/x.js"⟩ := Option.some.inj (hv.symm.trans (by decide))
  have hfirst : ((order r.loaded Store.sampleConfig (ofText "/app") ⟨ofText "/x.rb", ofText "/x.js"⟩).find?
      (hits r.loaded Store.sampleConfig (Store.sampleHost.files.exists? Store.sampleHost.workingDirectory))).map Candidate.answer =
        some (ofText "/lib/x.js", "index") := by decide
  constructor
  · exact hanswer.trans (congrArg Except.ok hfirst)
  · exact (resolve_eq_first_hit hdots r.loaded (ofText "/app") (ofText "x.css") Store.sampleHost).2 (by decide) _

end Resolver

end RequirePath
