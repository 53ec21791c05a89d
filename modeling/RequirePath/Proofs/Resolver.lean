import RequirePath.Proofs.Cache.ReadBack
import RequirePath.Proofs.Walk
import RequirePath.Resolve.Resolver

/-! What a rebuild indexes is resolved. The index holds what the walks of the load paths found, each file under the
path of its load path, a slash and its names. A request with these names is looked for under the same spelling,
so it is answered from the index, by the first load path that has a variant of it. -/

namespace RequirePath

open FileSystem RequirePath.Action
open LexicalPath (joinNames)

/-! ### What a rebuild indexes -/

namespace Cache

variable {c : Config} {l : Loaded} {h h' : Host} {r : Walk.Restriction} {suffixes roots found : List Pathname}

/-- The index of load paths has the files that are found below each, one load path after another. -/
theorem indexLoadPaths_ok (hc : h.LogsToConsole) (ha : indexLoadPaths r suffixes roots h = (.ok found, h')) :
    found = roots.flatMap fun root => (Walk.index h.files h.workingDirectory r suffixes root).1 := by
  induction roots generalizing h found h' with
  | nil => exact (Except.ok.inj (congrArg Prod.fst ha)).symm
  | cons root rest ih =>
      unfold indexLoadPaths at ha
      obtain ⟨first, h₁, hfirst, ha⟩ := of_bind_ok ha
      have hrest₁ := rests_of_within (within_indexDirectory frame_rests root r suffixes) hc hfirst
      obtain ⟨u, h₂, hlog, ha⟩ := of_bind_ok ha
      have hrest₂ : Rests h₁ h₂ := by
        have hw := within_hostLog frame_rests (hrest₁.continues.logsToConsole hc) walkPart .debug
          s!"[owl:index] {Pathname.display root}: {first.length} entries" (Pathname.isText root)
        rw [show h₂ = _ from (congrArg Prod.snd hlog).symm]
        exact ⟨hw.1, hw.2⟩
      obtain ⟨others, h₃, hothers, ha⟩ := of_bind_ok ha
      have hrest := hrest₁.trans hrest₂
      have hfound : found = first ++ others := (Except.ok.inj (congrArg Prod.fst ha)).symm
      have hvalue : first = (Walk.index h.files h.workingDirectory r suffixes root).1 :=
        (Except.ok.inj (congrArg Prod.fst hfirst)).symm
      -- the log is all that has changed, so the other load paths are walked over the same files
      rw [hfound, hvalue, ih (hrest.continues.logsToConsole hc) hothers, hrest.files, hrest.continues.workingDirectory]
      rfl

/-- A rebuild gives the load paths and the index of them, and has written the record of both. -/
theorem rebuild_ok (hc : h.LogsToConsole) (ha : rebuild c h = (.ok l, h')) :
    (l.entries = l.loadPaths.flatMap fun root =>
      (Walk.index h.files h.workingDirectory (restriction c) c.suffixes root).1) ∧
    ∃ h₁ h₂, Rests h h₁ ∧ writeRecord c l h₁ = (.ok (), h₂) ∧ Rests h₂ h' := by
  unfold rebuild at ha
  obtain ⟨loadPaths, h₁, henumerate, ha⟩ := of_bind_ok ha
  have hrest₁ := rests_of_within (within_enumerate frame_rests (fun _ _ => rfl) c) hc henumerate
  have hc₁ := hrest₁.continues.logsToConsole hc
  obtain ⟨entries, h₂, hindex, ha⟩ := of_bind_ok ha
  have hrest₂ := hrest₁.trans (rests_of_within (within_indexLoadPaths frame_rests _ _ _) hc₁ hindex)
  have hentries := indexLoadPaths_ok hc₁ hindex
  rw [hrest₁.files, hrest₁.continues.workingDirectory] at hentries
  obtain ⟨u, h₃, hwrite, ha⟩ := of_bind_ok ha
  have hc₃ := (writeRecord_continues (hrest₂.continues.logsToConsole hc) hwrite).logsToConsole
    (hrest₂.continues.logsToConsole hc)
  obtain ⟨v, h₄, hlog, ha⟩ := of_bind_ok ha
  have hrest₄ := rests_of_within (within_log frame_rests _ _ _) hc₃ hlog
  obtain ⟨hl, rfl⟩ := Prod.mk.inj ha
  rw [← Except.ok.inj hl]
  exact ⟨hentries, h₂, h₃, hrest₂, hwrite, hrest₄⟩

end Cache

/-! ### Requests by name -/

variable {names : List Filename} {logical specifier e p : Pathname} {c : Config} {v : Variants}

/-- The names below a directory, joined, are a request for what has a slash in front of them. -/
theorem logicalPath_joinNames (hne : names ≠ []) (hn : ∀ x ∈ names, IsPlainName x) :
    logicalPath (joinNames names) = slash :: joinNames names := by
  cases names with
  | nil => exact absurd rfl hne
  | cons x xs =>
      have hx := hn x List.mem_cons_self
      obtain ⟨rest, hjoin⟩ : ∃ rest, joinNames (x :: xs) = x ++ rest := by
        cases xs with
        | nil => exact ⟨[], by simp [joinNames]⟩
        | cons y ys => exact ⟨slash :: joinNames (y :: ys), LexicalPath.joinNames_cons (List.cons_ne_nil _ _) x⟩
      obtain ⟨hnil, hslash, hdot, -⟩ := hx
      rw [hjoin]
      rcases x with - | ⟨a, x⟩
      · exact absurd rfl hnil
      have ha : a ≠ slash := fun h => hslash (by simp [h])
      have habsolute : Pathname.isAbsolute (a :: x ++ rest) = false := by
        simpa [Pathname.isAbsolute] using ha
      have hfirst : (logicalPath.dot.isPrefixOf (a :: x ++ rest) && ((a :: x ++ rest).drop 1).head? == some slash) = false := by
        cases x with
        | nil =>
            have : a ≠ 46 := fun h => hdot (by rw [h]; rfl)
            simp [logicalPath.dot, Ne.symm this]
        | cons b x =>
            have hb : b ≠ slash := fun h => hslash (by simp [h])
            simp [hb]
      rw [logicalPath, hfirst, habsolute]
      rfl

/-- A logical path that ends in one of the suffixes is one of its variants. -/
theorem Variants.exists_of?_eq {primary compiled : Pathname} (b : UInt8)
    (h : Pathname.endsInAny specifier [primary, compiled] = true) :
    ∃ v, of? primary compiled (b :: specifier) = some v ∧ b :: specifier ∈ v.toList := by
  have hends : primary <:+ specifier ∨ compiled <:+ specifier := by
    simpa [Pathname.endsInAny] using h
  unfold of?
  by_cases hprimary : primary.isSuffixOf (b :: specifier) = true
  · rw [if_pos hprimary]
    exact ⟨_, rfl, List.mem_cons_self⟩
  · have hcompiled : compiled.isSuffixOf (b :: specifier) = true := by
      rw [List.isSuffixOf_iff_suffix] at hprimary ⊢
      rcases hends with hp | hc
      · exact absurd (hp.trans (List.suffix_cons _ _)) hprimary
      · exact hc.trans (List.suffix_cons _ _)
    rw [if_neg hprimary, if_pos hcompiled]
    exact ⟨_, rfl, List.mem_cons_of_mem _ List.mem_cons_self⟩

namespace Resolver

/-- The first candidate that is there lies below a load path that stands no later than any other one with a
candidate that is there. -/
theorem find?_candidates {loadPaths : List Pathname} {isThere : Pathname → Bool} (hp : p ∈ loadPaths)
    (hv : logical ∈ v.toList) (hthere : isThere (p ++ logical) = true) :
    ∃ before q after u, loadPaths = before ++ q :: after ∧ p ∉ before ∧ u ∈ v.toList ∧ isThere (q ++ u) = true ∧
      (loadPaths.flatMap (candidates v)).find? isThere = some (q ++ u) := by
  induction loadPaths with
  | nil => exact absurd hp List.not_mem_nil
  | cons q rest ih =>
      rw [List.flatMap_cons, List.find?_append]
      cases hfind : (candidates v q).find? isThere with
      | some path =>
          obtain ⟨u, hu, rfl⟩ := List.mem_map.1 (List.mem_of_find?_eq_some hfind)
          exact ⟨[], q, rest, u, rfl, List.not_mem_nil, hu, List.find?_some hfind, rfl⟩
      | none =>
          have hne : p ≠ q := by
            rintro rfl
            exact List.find?_eq_none.1 hfind _ (List.mem_map_of_mem hv) hthere
          have hrest : p ∈ rest := (List.mem_cons.1 hp).resolve_left hne
          obtain ⟨before, q', after, u, hsplit, hbefore, hu, hthere', hanswer⟩ := ih hrest
          refine ⟨q :: before, q', after, u, by rw [hsplit, List.cons_append], ?_, hu, hthere', hanswer⟩
          exact List.not_mem_cons_of_ne_of_not_mem hne hbefore

/-- A request with the names of an indexed file below a load path is answered from the index. -/
theorem resolve_of_mem_entries {l : Loaded} (hne : names ≠ []) (hn : ∀ x ∈ names, IsPlainName x)
    (hends : Pathname.endsInAny (joinNames names) c.suffixes = true) (hp : p ∈ l.loadPaths)
    (he : p ++ slash :: joinNames names ∈ l.entries) (hnil : [] ∉ l.entries) (requester : Option Pathname) (h : Host) :
    ∃ before q after v u h', l.loadPaths = before ++ q :: after ∧ p ∉ before ∧
      Variants.of? c.primarySuffix c.compiledSuffix (slash :: joinNames names) = some v ∧ u ∈ v.toList ∧
      (⟨l, c, Tier.standard⟩ : Resolver).resolve requester (joinNames names) h =
        (.ok (some (q ++ u, Tier.index.name)), h') := by
  obtain ⟨v, hvariants, hmem⟩ := Variants.exists_of?_eq slash hends
  have hthere : l.contains (p ++ slash :: joinNames names) = true := List.contains_iff_mem.2 he
  obtain ⟨before, q, after, u, hsplit, hbefore, hu, hfound, hanswer⟩ := find?_candidates hp hmem hthere
  -- an empty path would be taken for no answer
  have hpath : ∃ b path, q ++ u = b :: path := by
    refine List.exists_cons_of_ne_nil fun hempty => hnil ?_
    rw [← hempty]
    exact List.contains_iff_mem.1 hfound
  have hfirst : (⟨l, c, Tier.standard⟩ : Resolver).firstAnswer h.files h.workingDirectory requester v Tier.standard =
      .ok (some (q ++ u, Tier.index.name)) := by
    obtain ⟨b, path, hcons⟩ := hpath
    rw [hcons] at hanswer ⊢
    simp only [firstAnswer, Tier.standard, answer, hanswer]
  refine ⟨before, q, after, v, u, h.log part .debug
    s!"[owl:resolve] {Pathname.display (joinNames names)} -> {Pathname.display (q ++ u)} ({Tier.index.name})" true,
    hsplit, hbefore, hvariants, hu, ?_⟩
  have hhandles : (⟨l, c, Tier.standard⟩ : Resolver).handles (joinNames names) = true := hends
  have hlook : lookOrFail (fun h => (⟨l, c, Tier.standard⟩ : Resolver).firstAnswer h.files h.workingDirectory requester v
      Tier.standard) h = (.ok (some (q ++ u, Tier.index.name)), h) := Prod.ext hfirst rfl
  unfold resolve
  simp only [hhandles, logicalPath_joinNames hne hn, hvariants, Bool.not_true, Bool.false_eq_true, if_false]
  rw [bind_of_ok hlook]
  rfl

end Resolver

namespace Store

open Pathname (ofText)

variable {s s' : Store} {l : Loaded} {h h' : Host}

/-- Every file that a successful rebuild has indexed below a load path is named by its names from there on. If they
end in a suffix of modules, a request with them is answered from the index, with a variant of the names below that
load path or one that stands before it. So it is over what the rebuild gave and over what a new store loads from
the cache file that the rebuild has written, whoever requires it and whatever has become of the files. -/
theorem resolve_of_rebuild (hc : h.LogsToConsole) (hn : h.files.WellNamed)
    (hbuild : s.rebuild h = ((.ok l, s'), h')) (hp : p ∈ l.loadPaths)
    (he : e ∈ (Walk.index h.files h.workingDirectory (Cache.restriction s.config) s.config.suffixes p).1) :
    ∃ names, names ≠ [] ∧ (∀ x ∈ names, IsPlainName x) ∧ e = p ++ slash :: joinNames names ∧
      (Pathname.endsInAny (joinNames names) s.config.suffixes = true → ∀ l',
        (l' = l ∨ ∃ h₂ s₂ h₃, h₂.LogsToConsole ∧
          h₂.files.read h₂.workingDirectory s.config.cacheFilePath.spelling =
            h'.files.read h'.workingDirectory s.config.cacheFilePath.spelling ∧
          load ⟨s.config, none⟩ h₂ = ((.ok l', s₂), h₃) ∧ l'.rebuilt = false) →
        ∀ requester later, ∃ before q after v u later', l'.loadPaths = before ++ q :: after ∧ p ∉ before ∧
          Variants.of? s.config.primarySuffix s.config.compiledSuffix (slash :: joinNames names) = some v ∧
          u ∈ v.toList ∧
          (⟨l', s.config, Tier.standard⟩ : Resolver).resolve requester (joinNames names) later =
            (.ok (some (q ++ u, Tier.index.name)), later')) := by
  obtain ⟨names, hne, hplain, rfl⟩ := Walk.eq_of_mem_index hn he
  obtain ⟨hentries, h₁, h₂, hrest, hwrite, hrest'⟩ := Cache.rebuild_ok hc (keeping_ok hbuild)
  refine ⟨names, hne, hplain, rfl, fun hends l' hl' requester later => ?_⟩
  -- a new store that has not rebuilt has read the record of `l`
  obtain ⟨hpaths, hsame⟩ : l'.loadPaths = l.loadPaths ∧ l'.entries = l.entries := by
    rcases hl' with rfl | ⟨h₃, s₃, h₄, hc₃, hread, hload, hrebuilt⟩
    · exact ⟨rfl, rfl⟩
    · obtain ⟨record, hholds, rfl⟩ := Cache.holds_of_loadOrRebuild hc₃ (keeping_ok hload) hrebuilt
      rw [hrest'.files, hrest'.continues.workingDirectory] at hread
      rw [Cache.eq_of_holds_written (hrest.continues.logsToConsole hc) hwrite hholds hread]
      exact ⟨rfl, rfl⟩
  rw [← hpaths] at hp
  refine Resolver.resolve_of_mem_entries hne hplain hends hp ?_ ?_ requester later
  · rw [hsame, hentries]
    exact List.mem_flatMap.2 ⟨p, hpaths ▸ hp, he⟩
  · rw [hsame, hentries]
    intro hmem
    obtain ⟨root, -, hroot⟩ := List.mem_flatMap.1 hmem
    obtain ⟨names', -, -, hempty⟩ := Walk.eq_of_mem_index hn hroot
    exact absurd hempty (by simp)

theorem rebuild_sampleHost :
    (rebuild ⟨sampleConfig, none⟩ sampleHost).1.1.toOption = some ⟨[ofText "/lib"], [ofText "/lib/x.rb"], true⟩ := by
  decide +kernel

/-- The module of the sample is answered from the index, whoever requires it on whatever machine. -/
theorem resolve_of_rebuild_sample :
    let l : Loaded := ⟨[ofText "/lib"], [ofText "/lib/x.rb"], true⟩
    ∃ s' h', rebuild ⟨sampleConfig, none⟩ sampleHost = ((.ok l, s'), h') ∧
      ∀ requester later, ∃ u ∈ [ofText "/x.rb", ofText "/x.js"], ∃ later',
        (⟨l, sampleConfig, Tier.standard⟩ : Resolver).resolve requester (ofText "x.rb") later =
          (.ok (some (ofText "/lib" ++ u, "index")), later') := by
  intro l
  have hanswer : (rebuild ⟨sampleConfig, none⟩ sampleHost).1.1.toOption = some l := rebuild_sampleHost
  rcases hbuild : rebuild ⟨sampleConfig, none⟩ sampleHost with ⟨⟨e | l', s'⟩, h'⟩
  · rw [hbuild] at hanswer
    cases hanswer
  · rw [hbuild] at hanswer
    obtain rfl : l' = l := Option.some.inj hanswer
    refine ⟨s', h', rfl, fun requester later => ?_⟩
    obtain ⟨names, -, -, heq, hall⟩ := resolve_of_rebuild (fun _ hs => absurd hs List.not_mem_nil) (by decide +kernel)
      hbuild (p := ofText "/lib") (e := ofText "/lib/x.rb") (by decide) (by decide +kernel)
    have hspelled : ofText "/lib/x.rb" = ofText "/lib" ++ slash :: ofText "x.rb" := by decide
    have hnames : ofText "x.rb" = joinNames names :=
      (List.cons.inj (List.append_cancel_left (hspelled.symm.trans heq))).2
    rw [← hnames] at hall
    obtain ⟨before, q, after, v, u, later', hsplit, -, hv, hu, hresolve⟩ :=
      hall (by decide) _ (Or.inl rfl) requester later
    have hq : q = ofText "/lib" := by
      have hmem : q ∈ [ofText "/lib"] := by
        rw [show [ofText "/lib"] = before ++ q :: after from hsplit]
        exact List.mem_append_right _ List.mem_cons_self
      exact List.mem_singleton.1 hmem
    have hvariants : v.toList = [ofText "/x.rb", ofText "/x.js"] := by
      rw [← Option.some.inj ((show Variants.of? sampleConfig.primarySuffix sampleConfig.compiledSuffix
        (slash :: ofText "x.rb") = some ⟨ofText "/x.rb", ofText "/x.js"⟩ by decide).symm.trans hv)]
      rfl
    rw [hq] at hresolve
    rw [hvariants] at hu
    exact ⟨u, hu, later', hresolve⟩

end Store

end RequirePath
