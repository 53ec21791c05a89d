import RequirePath.Proofs.Cache.Content
import RequirePath.Proofs.Resolver
import RequirePath.Proofs.Walk.Named

/-! What a resolver answers over a fresh rebuild is there. Nothing checks the lines of the load-path command; but the
walks index only what an absolute path names, and the other tiers look into the working tree, at what is there. The
rebuild itself only adds files, and moves its record to the cache file. That takes no indexed file away, as long as it
does not take the place of a link that others lead over. -/

namespace RequirePath

open FileSystem RequirePath.Action
open Pathname (isAbsolute endsInAny isWithin ofText)

variable {c : Config} {l : Loaded} {h h' : Host} {path root p u r : Pathname} {n : Node}

/-! ### What a rebuild leaves -/

namespace Cache

/-- No link is at the path of the cache file once the directories of the cache are made. -/
def Unlinked (c : Config) (h : Host) : Prop :=
  ∀ h₁ h₂ n, makePath c.cacheDirPath h = (.ok (), h₁) → makePath c.compilerCachePath h₁ = (.ok (), h₂) →
    h₂.files.linkStatus h₂.workingDirectory c.cacheFilePath.spelling = .ok n → n.isLink = false

theorem Unlinked.of_linkStatus
    (hs : ((makePath c.compilerCachePath (makePath c.cacheDirPath h).2).2.files.linkStatus h.workingDirectory
      c.cacheFilePath.spelling).toOption = none) : Unlinked c h := by
  intro h₁ h₂ n hfirst hsecond hn
  have hcwd : h₂.workingDirectory = h.workingDirectory := by
    rw [(makePath_keeps hsecond).1, (makePath_keeps hfirst).1]
  rw [hfirst, hsecond, ← hcwd, hn] at hs
  cases hs

theorem Unlinked.of_rests (hu : Unlinked c h) (hr : Rests h h') : Unlinked c h' := by
  intro h₁ h₂ n hfirst hsecond hn
  have heq : h = h'.after h.events := by
    rw [hr.eq_after]
    rfl
  obtain ⟨events₁, heq₁⟩ := ignoresEvents_makePath c.cacheDirPath h' h.events
  rw [← heq, hfirst] at heq₁
  obtain ⟨events₂, heq₂⟩ := ignoresEvents_makePath c.compilerCachePath h₁ events₁
  rw [hsecond] at heq₂
  exact hu _ _ n heq₁ heq₂ hn

/-- The writing of a record leaves each file that a path names, or another one in its stead, if no link is at the path
of the cache file. -/
theorem named?_of_writeRecord (hu : Unlinked c h) (ha : writeRecord c l h = (.ok (), h'))
    (hnamed : h.files.named? path = some n) (hf : n.isFile = true) :
    ∃ n', h'.files.named? path = some n' ∧ n'.isFile = true := by
  obtain ⟨h₁, h₂, fs, d, name, hfirst, hsecond, -, hmade, hinstall⟩ := writeRecord_ok ha
  obtain ⟨record, fs₁, target, -, hfill, htarget, -, hmoves⟩ := installRecord_ok hmade hinstall
  have hkeeps := (makePath_keeps hfirst).2.trans (makePath_keeps hsecond).2
  obtain ⟨q, links, hk, hway, hn⟩ := named?_eq_some_iff.1 hnamed
  have hgrows := hkeeps.grows.trans hfill.adds.keeps.grows
  obtain ⟨n₂, hn₂, -⟩ := hkeeps q n hn
  obtain ⟨n₃, hn₃, halike⟩ := hgrows q n hn
  have hne : q ≠ name :: d := by
    rintro rfl
    rw [hmade.adds.vacant] at hn₂
    cases hn₂
  refine named?_move hmoves rfl (fun m hm => ?_) hne hk (hway.grow hgrows.unlocked) hn₃ (by rw [halike.isFile_eq, hf])
  -- a link that is replaced would have been there before the new file
  cases hlink : m.isLink with
  | false => rfl
  | true =>
      obtain ⟨m', hm', hkept⟩ := (hfill.adds.of_node? hm).resolve_left fun hnew => by
        rw [hnew.2] at hlink
        cases hlink
      have hold : m = m' := hkept.eq (by
        cases hdir : m'.isDirectory with
        | false => rfl
        | true =>
            rw [hkept.alike.isLink_eq, Node.isLink, eq_of_beq hdir] at hlink
            cases hlink)
      subst hold
      cases target with
      | vacant e x =>
          obtain ⟨-, -, k, -, hway'⟩ := resolve_eq_ok_iff.1 htarget
          rw [Place.location, hway'.of_vacant.2.2] at hm
          cases hm
      | found place =>
          obtain ⟨hnil, hlen, k, hk', hway'⟩ := resolve_eq_ok_iff.1 htarget
          have hplace : place ≠ name :: d := by
            rintro rfl
            rw [show Place.location (.found (name :: d)) = name :: d from rfl, hmade.adds.vacant] at hm'
            cases hm'
          have hstatus : h₂.files.linkStatus h₂.workingDirectory c.cacheFilePath.spelling = .ok m :=
            linkStatus_eq_ok_iff.2 ⟨place,
              resolve_eq_ok_iff.2 ⟨hnil, hlen, k, hk', hfill.adds.leads_of_ne rfl hway' hplace⟩, hm'⟩
          rw [hu h₁ h₂ m hfirst hsecond hstatus] at hlink
          cases hlink

/-- What a rebuild has indexed is absolute, has a suffix of modules, and names a file afterwards. -/
theorem named?_of_rebuild (hc : h.LogsToConsole) (hn : h.files.WellNamed) (hs : h.files.ShortNamed) (hu : Unlinked c h)
    (ha : rebuild c h = (.ok l, h')) (he : path ∈ l.entries) :
    isAbsolute path = true ∧ endsInAny path c.suffixes = true ∧
      ∃ n, h'.files.named? path = some n ∧ n.isFile = true := by
  obtain ⟨hentries, h₁, h₂, hrest, hwrite, hrest'⟩ := rebuild_ok hc ha
  rw [hentries, List.mem_flatMap] at he
  obtain ⟨root, -, hindex⟩ := he
  obtain ⟨habsolute, hends, n, hnamed, hfile⟩ := Walk.named?_of_mem_index hn hs hindex
  rw [← hrest.files] at hnamed
  obtain ⟨n', hnamed', hfile'⟩ := named?_of_writeRecord (hu.of_rests hrest) hwrite hnamed hfile
  exact ⟨habsolute, hends, n', by rw [hrest'.files, hnamed'], hfile'⟩

end Cache

/-! ### What the tiers answer -/

/-- The variants of a path end in the suffixes, wherever they are looked for. -/
theorem Variants.endsInAny_append {primary compiled logical : Pathname} {v : Variants}
    (hv : of? primary compiled logical = some v) (hu : u ∈ v.toList) (p : Pathname) :
    endsInAny (p ++ u) [primary, compiled] = true := by
  have hends : primary <:+ u ∨ compiled <:+ u := by
    unfold of? at hv
    split_ifs at hv with hprimary hcompiled
    · obtain rfl := Option.some.inj hv
      rcases List.mem_cons.1 hu with rfl | hu
      · exact Or.inl (List.isSuffixOf_iff_suffix.1 hprimary)
      · rw [List.mem_singleton.1 hu]
        exact Or.inr (List.suffix_append _ _)
    · obtain rfl := Option.some.inj hv
      rcases List.mem_cons.1 hu with rfl | hu
      · exact Or.inl (List.suffix_append _ _)
      · rw [List.mem_singleton.1 hu]
        exact Or.inr (List.isSuffixOf_iff_suffix.1 hcompiled)
  have happend : u <:+ p ++ u := List.suffix_append _ _
  rcases hends with hends | hends
  · exact Pathname.endsInAny_iff.2 ⟨primary, List.mem_cons_self, hends.trans happend⟩
  · exact Pathname.endsInAny_iff.2 ⟨compiled, List.mem_cons_of_mem _ List.mem_cons_self, hends.trans happend⟩

namespace Resolver

variable {resolver : Resolver} {requester : Option Pathname} {specifier : Pathname} {v : Variants} {tier : String}
variable {tiers : List Tier} {fs : FileSystem} {cwd : Location} {later later' : Host}

theorem exists_tier_of_firstAnswer (h : resolver.firstAnswer fs cwd requester v tiers = .ok (some (r, tier))) :
    ∃ t ∈ tiers, resolver.answer fs cwd requester v t = .ok (some r) ∧ tier = t.name := by
  induction tiers with
  | nil => cases h
  | cons t rest ih =>
      unfold firstAnswer at h
      split at h
      · cases h
      · next b path hanswer =>
          obtain ⟨rfl, rfl⟩ := Prod.mk.inj (Option.some.inj (Except.ok.inj h))
          exact ⟨t, List.mem_cons_self, hanswer, rfl⟩
      · obtain ⟨t', ht', hanswer⟩ := ih h
        exact ⟨t', List.mem_cons_of_mem _ ht', hanswer⟩

/-- A specifier that is resolved has variants, and one of the tiers answers it. -/
theorem resolve_ok (h : resolver.resolve requester specifier later = (.ok (some (r, tier)), later')) :
    ∃ v, Variants.of? resolver.config.primarySuffix resolver.config.compiledSuffix (logicalPath specifier) = some v ∧
      ∃ t ∈ resolver.tiers, resolver.answer later.files later.workingDirectory requester v t = .ok (some r) ∧
        tier = t.name := by
  unfold resolve at h
  split_ifs at h
  · cases h
  dsimp only at h
  cases hv : Variants.of? resolver.config.primarySuffix resolver.config.compiledSuffix (logicalPath specifier) with
  | none =>
      rw [hv] at h
      cases h
  | some v =>
      rw [hv] at h
      refine ⟨v, rfl, ?_⟩
      obtain ⟨found, h₁, hfirst, h⟩ := of_bind_ok h
      have hfound : found = some (r, tier) := by
        cases found with
        | none => exact Except.ok.inj (congrArg Prod.fst h)
        | some answer => exact Except.ok.inj (congrArg Prod.fst h)
      subst hfound
      exact exists_tier_of_firstAnswer (congrArg Prod.fst hfirst)

/-- What a standard tier answers is indexed, or an absolute path in the working tree that names something. -/
theorem answer_standard (hroot : resolver.config.projectRoot.Normal) {t : Tier} (ht : t ∈ Tier.standard)
    (hv : Variants.of? resolver.config.primarySuffix resolver.config.compiledSuffix (logicalPath specifier) = some v)
    (h : resolver.answer fs cwd requester v t = .ok (some r)) :
    t = .index ∧ r ∈ resolver.loaded.entries ∨
      t ≠ .index ∧ isAbsolute r = true ∧ endsInAny r resolver.config.suffixes = true ∧ ∃ n, fs.named? r = some n := by
  simp only [Tier.standard, List.mem_cons, List.not_mem_nil, or_false] at ht
  rcases ht with rfl | rfl | rfl
  · have hfound := List.find?_some (Except.ok.inj h)
    exact Or.inl ⟨rfl, List.contains_iff_mem.1 hfound⟩
  · have hfound := Except.ok.inj h
    obtain ⟨p, hp, hr⟩ := List.mem_flatMap.1 (List.mem_of_find?_eq_some hfound)
    obtain ⟨u, hu, rfl⟩ := List.mem_map.1 hr
    have habsolute := Pathname.isAbsolute_append (Pathname.isAbsolute_of_isWithin hroot (List.mem_filter.1 hp).2) u
    exact Or.inr ⟨by rintro ⟨⟩, habsolute, Variants.endsInAny_append hv hu p,
      exists_named?_of_exists? habsolute (List.find?_some hfound)⟩
  · cases requester with
    | none => cases h
    | some directory =>
        have hfound := Except.ok.inj h
        split_ifs at hfound with hthere
        obtain rfl := Option.some.inj hfound
        rw [Bool.and_eq_true] at hthere
        have habsolute := Pathname.isAbsolute_of_isWithin hroot hthere.1
        exact Or.inr ⟨by rintro ⟨⟩, habsolute, Variants.endsInAny_append hv List.mem_cons_self directory,
          exists_named?_of_exists? habsolute hthere.2⟩

end Resolver

namespace Store

variable {s s' : Store} {requester : Option Pathname} {specifier : Pathname} {tier : String} {later later' : Host}

/-- What a resolver over a fresh rebuild answers is an absolute path with a suffix of modules that names something,
and a file if it is from the index, whatever the load-path command has printed: no link may be at the path of the
cache file when the record takes its place. -/
theorem resolve_sound (hc : h.LogsToConsole) (hroot : s.config.projectRoot.Normal) (hn : h.files.WellNamed)
    (hs : h.files.ShortNamed) (hu : Cache.Unlinked s.config h) (hbuild : s.rebuild h = ((.ok l, s'), h'))
    (hfiles : later.files = h'.files)
    (hresolve : (⟨l, s.config, Tier.standard⟩ : Resolver).resolve requester specifier later =
      (.ok (some (r, tier)), later')) :
    isAbsolute r = true ∧ endsInAny r s.config.suffixes = true ∧
      ∃ n, h'.files.named? r = some n ∧ (tier = Tier.index.name → n.isFile = true) := by
  obtain ⟨v, hv, t, ht, hanswer, rfl⟩ := Resolver.resolve_ok hresolve
  rcases Resolver.answer_standard hroot ht hv hanswer with ⟨rfl, hmem⟩ | ⟨hlive, habsolute, hends, n, hnamed⟩
  · obtain ⟨habsolute, hends, n, hnamed, hfile⟩ := Cache.named?_of_rebuild hc hn hs hu (keeping_ok hbuild) hmem
    exact ⟨habsolute, hends, n, hnamed, fun _ => hfile⟩
  · rw [hfiles] at hnamed
    refine ⟨habsolute, hends, n, hnamed, fun hname => ?_⟩
    simp only [Tier.standard, List.mem_cons, List.not_mem_nil, or_false] at ht
    rcases ht with rfl | rfl | rfl
    · exact absurd rfl hlive
    · exact absurd hname (by decide)
    · exact absurd hname (by decide)

/-- The module of the sample is answered from the index and is there. -/
theorem resolve_sound_sample :
    ∃ l s' h' later', rebuild ⟨sampleConfig, none⟩ sampleHost = ((.ok l, s'), h') ∧
      (⟨l, sampleConfig, Tier.standard⟩ : Resolver).resolve (some (ofText "/app")) (ofText "x.rb") h' =
        (.ok (some (ofText "/lib/x.rb", "index")), later') ∧
      isAbsolute (ofText "/lib/x.rb") = true ∧ endsInAny (ofText "/lib/x.rb") sampleConfig.suffixes = true ∧
      ∃ n, h'.files.named? (ofText "/lib/x.rb") = some n ∧ ("index" = Tier.index.name → n.isFile = true) := by
  have hunlinked : Cache.Unlinked sampleConfig sampleHost := .of_linkStatus (by decide)
  have hanswer := rebuild_sampleHost
  have hresolve : ((⟨⟨[ofText "/lib"], [ofText "/lib/x.rb"], true⟩, sampleConfig, Tier.standard⟩ : Resolver).resolve
      (some (ofText "/app")) (ofText "x.rb") (rebuild ⟨sampleConfig, none⟩ sampleHost).2).1.toOption =
        some (some (ofText "/lib/x.rb", "index")) := by decide
  rcases hbuild : rebuild ⟨sampleConfig, none⟩ sampleHost with ⟨⟨e | l, s'⟩, h'⟩
  · rw [hbuild] at hanswer
    cases hanswer
  · rw [hbuild] at hanswer hresolve
    obtain rfl : l = ⟨[ofText "/lib"], [ofText "/lib/x.rb"], true⟩ := Option.some.inj hanswer
    have hequal := Prod.ext (Cache.eq_ok_of_toOption hresolve) rfl
    exact ⟨_, s', h', _, rfl, hequal, resolve_sound (fun _ hs => absurd hs List.not_mem_nil) plainCache_sampleConfig.root
      (by decide) (by decide) hunlinked hbuild rfl hequal⟩

/-- A cache file whose path leads over a link to the compiler's directory, which is not there at first. -/
def aliasConfig : Config := { sampleConfig with cacheFile := ofText "l/x" }

/-- A machine with a load path that is a link and the place where the cache file comes to be. -/
def aliasHost : Host :=
  let t : Timestamp := ⟨10, 0⟩
  let fs := sampleFiles.put [ofText ".owl_cache", ofText "app"] (Node.newDirectory t)
  let fs := fs.put [ofText "l", ofText ".owl_cache", ofText "app"] ⟨.link (ofText "cc/../../../srv"), 0o777, t⟩
  let fs := fs.put [ofText "srv"] (Node.newDirectory t)
  let fs := fs.put [ofText "x", ofText "srv"] ⟨.link (ofText "/lib"), 0o777, t⟩
  { files := fs, now := ⟨100, 0⟩, tool := .finished (ofText "/srv/x\n") [] 0 }

/-- Before the rebuild nothing is at the path of the cache file. The rebuild makes the compiler's directory, and the
path leads to the link that is the load path: the record takes its place, and the indexed module is gone. -/
theorem resolve_misses_replaced_link :
    aliasHost.files.WellNamed ∧ aliasHost.files.ShortNamed ∧
      (aliasHost.files.linkStatus [] aliasConfig.cacheFilePath.spelling).toOption = none ∧
      ∃ l s' h' later', rebuild ⟨aliasConfig, none⟩ aliasHost = ((.ok l, s'), h') ∧
        (⟨l, aliasConfig, Tier.standard⟩ : Resolver).resolve (some (ofText "/app")) (ofText "x.rb") h' =
          (.ok (some (ofText "/srv/x/x.rb", "index")), later') ∧
        h'.files.named? (ofText "/srv/x/x.rb") = none := by
  have hanswer : (rebuild ⟨aliasConfig, none⟩ aliasHost).1.1.toOption =
      some ⟨[ofText "/srv/x"], [ofText "/srv/x/x.rb"], true⟩ := by decide +kernel
  have hresolve : ((⟨⟨[ofText "/srv/x"], [ofText "/srv/x/x.rb"], true⟩, aliasConfig, Tier.standard⟩ : Resolver).resolve
      (some (ofText "/app")) (ofText "x.rb") (rebuild ⟨aliasConfig, none⟩ aliasHost).2).1.toOption =
        some (some (ofText "/srv/x/x.rb", "index")) := by
    decide +kernel
  have hgone : (rebuild ⟨aliasConfig, none⟩ aliasHost).2.files.named? (ofText "/srv/x/x.rb") = none := by decide +kernel
  refine ⟨by decide +kernel, by decide +kernel, by decide +kernel, ?_⟩
  rcases hbuild : rebuild ⟨aliasConfig, none⟩ aliasHost with ⟨⟨e | l, s'⟩, h'⟩
  · rw [hbuild] at hanswer
    cases hanswer
  · rw [hbuild] at hanswer hresolve hgone
    obtain rfl : l = ⟨[ofText "/srv/x"], [ofText "/srv/x/x.rb"], true⟩ := Option.some.inj hanswer
    exact ⟨_, s', h', _, rfl, Prod.ext (Cache.eq_ok_of_toOption hresolve) rfl, hgone⟩

end Store

end RequirePath
