import RequirePath.Proofs.File.LinkFree
import RequirePath.Proofs.Path.Climb
import RequirePath.Proofs.Resolver.Order
import RequirePath.Proofs.Resolver.Soundness

/-! What the tiers on disk answer. Their answers are spelled within the working tree, but a specifier or a directory with
double dots may climb out of it. And they take whatever exists: a directory with a suffix of modules is an answer, where
the index would have none. -/

namespace RequirePath

open FileSystem RequirePath.Action
open LexicalPath (namesOf collapse)
open Pathname (isAbsolute isWithin endsInAny normalized ofText)

variable {c : Config} {l : Loaded} {h h' : Host} {r directory specifier : Pathname} {requester : Option Pathname}
variable {v : Variants} {t : Tier} {tier : String} {fs : FileSystem} {cwd : Location} {resolver : Resolver}

/-! ### Confinement -/

namespace Tier

/-- The names of the tiers that look on disk. -/
def IsLive (tier : String) : Prop := tier = Tier.filesystem.name ∨ tier = Tier.requestingDirectory.name

instance (tier : String) : Decidable (IsLive tier) := inferInstanceAs (Decidable (_ ∨ _))

theorem eq_of_isLive_name (ht : IsLive t.name) : t = .filesystem ∨ t = .requestingDirectory := by
  cases t with
  | index => exact absurd ht (by decide)
  | filesystem => exact Or.inl rfl
  | requestingDirectory => exact Or.inr rfl
  | constant path => exact absurd (show IsLive "const" from ht) (by decide)

end Tier

namespace Resolver

theorem isWithin_of_answer (hdots : resolver.config.DottedSuffixes)
    (hv : Variants.of? resolver.config.primarySuffix resolver.config.compiledSuffix (logicalPath specifier) = some v)
    (ht : Tier.IsLive t.name) (h : resolver.answer fs cwd requester v t = .ok (some r)) :
    isWithin r resolver.config.workingTree = true := by
  rcases Tier.eq_of_isLive_name ht with rfl | rfl
  · obtain ⟨p, hp, hr⟩ := List.mem_flatMap.1 (List.mem_of_find?_eq_some (Except.ok.inj h))
    obtain ⟨u, hu, rfl⟩ := List.mem_map.1 hr
    have hwithin := (List.mem_filter.1 hp).2
    have habsolute := Variants.isAbsolute_of_mem hdots.primary (isAbsolute_logicalPath specifier) hv hu
    exact Pathname.isWithin_mono (Pathname.extends_append p habsolute) hwithin
  · cases requester with
    | none => cases h
    | some directory =>
        have hfound := Except.ok.inj h
        split_ifs at hfound with hthere
        rw [← Option.some.inj hfound]
        exact (Bool.and_eq_true_iff.1 hthere).1

/-- A machine with a module in the project and one in another directory. -/
def climbHost : Host :=
  let t : Timestamp := ⟨10, 0⟩
  let fs := Store.sampleFiles.put [ofText "lib", ofText "app"] (Node.newDirectory t)
  let fs := fs.put [ofText "y.rb", ofText "app"] (Node.newFile [] t)
  { Store.sampleHost with files := fs }

end Resolver

/-! ### Files and directories -/

namespace FileSystem

/-- Whether a path leads to a file, as far as that can be found out. -/
def file? (fs : FileSystem) (cwd : Location) (path : Pathname) : Bool :=
  !Pathname.holdsNul path && fs.permits cwd path Node.isFile

theorem exists?_of_file? {path : Pathname} (hf : fs.file? cwd path = true) : fs.exists? cwd path = true := by
  unfold file? permits at hf
  unfold exists?
  cases hs : fs.status cwd path with
  | ok n => exact Bool.and_eq_true_iff.2 ⟨(Bool.and_eq_true_iff.1 hf).1, rfl⟩
  | error e => simp [hs] at hf

theorem file?_eq_isFile {path : Pathname} {n : Node} (ha : isAbsolute path = true) (hthere : fs.exists? cwd path = true)
    (hn : fs.named? path = some n) : fs.file? cwd path = n.isFile := by
  obtain ⟨hnul, hok⟩ := Bool.and_eq_true_iff.1 hthere
  cases hs : fs.status cwd path with
  | ok n' =>
      obtain rfl : n' = n := Option.some.inj ((named?_of_status ha hs).symm.trans hn)
      rw [file?, permits, hnul, hs]
      rfl
  | error e =>
      rw [hs] at hok
      cases hok

end FileSystem

namespace Candidate

variable {e e' : Candidate} {there there' : Pathname → Bool}

theorem tier_mem_of_mem_order (he : e ∈ order l c directory v) : e.tier ∈ Tier.standard := by
  rw [← flatMap_ofTier_standard] at he
  obtain ⟨t, ht, hmem⟩ := List.mem_flatMap.1 he
  rwa [tier_of_mem_ofTier hmem]

theorem answer_injOn (he : e ∈ order l c directory v) (he' : e' ∈ order l c directory v) (h : e'.answer = e.answer) :
    e' = e := by
  have hnames : ∀ t ∈ Tier.standard, ∀ t' ∈ Tier.standard, t'.name = t.name → t' = t := by decide
  obtain ⟨hpath, hname⟩ := Prod.mk.inj h
  cases e
  cases e'
  obtain rfl := hnames _ (tier_mem_of_mem_order he) _ (tier_mem_of_mem_order he') hname
  obtain rfl := hpath
  rfl

theorem hits_mono (hle : ∀ path, there' path = true → there path = true) (h : hits l c there' e = true) :
    hits l c there e = true := by
  unfold hits at h ⊢
  cases ht : e.tier with
  | index => simpa [ht] using h
  | filesystem => exact hle _ (by simpa [ht] using h)
  | requestingDirectory =>
      rw [ht] at h
      obtain ⟨hwithin, hthere⟩ := Bool.and_eq_true_iff.1 h
      exact Bool.and_eq_true_iff.2 ⟨hwithin, hle _ hthere⟩
  | constant path => rfl

/-- With a stricter test of what is on disk the answer stays the same exactly if it passes that test. -/
theorem find?_hits_iff (hle : ∀ path, there' path = true → there path = true)
    (he : (order l c directory v).find? (hits l c there) = some e) :
    ((order l c directory v).find? (hits l c there')).map answer = some e.answer ↔ hits l c there' e = true := by
  constructor
  · intro h
    obtain ⟨e', he', hanswer⟩ := Option.map_eq_some_iff.1 h
    rw [← answer_injOn (List.mem_of_find?_eq_some he) (List.mem_of_find?_eq_some he') hanswer]
    exact List.find?_some he'
  · intro h
    obtain ⟨-, before, after, horder, hbefore⟩ := List.find?_eq_some_iff_append.1 he
    have hfirst : (order l c directory v).find? (hits l c there') = some e := by
      refine List.find?_eq_some_iff_append.2 ⟨h, before, after, horder, fun a ha => ?_⟩
      by_contra hhits
      have hmiss := hbefore a ha
      rw [hits_mono hle (by simpa using hhits)] at hmiss
      cases hmiss
    rw [hfirst, Option.map_some]

/-- What hits names something, and a file exactly if it hits also where only files count; from the index it does. -/
theorem named?_of_hits (hindexed : ∀ path ∈ l.entries, ∃ n, fs.named? path = some n ∧ n.isFile = true)
    (habsolute : Tier.IsLive e.tier.name → isAbsolute e.path = true) (ht : e.tier ∈ Tier.standard)
    (hhits : hits l c (fs.exists? cwd) e = true) :
    ∃ n, fs.named? e.path = some n ∧ hits l c (fs.file? cwd) e = n.isFile ∧
      (n.isFile = false → Tier.IsLive e.tier.name) := by
  obtain ⟨path, tier⟩ := e
  simp only [Tier.standard, List.mem_cons, List.not_mem_nil, or_false] at ht
  rcases ht with rfl | rfl | rfl
  · obtain ⟨n, hn, hfile⟩ := hindexed path (List.contains_iff_mem.1 hhits)
    exact ⟨n, hn, by rw [hfile]; exact hhits, fun h => by rw [hfile] at h; cases h⟩
  · obtain ⟨n, hn⟩ := exists_named?_of_exists? (habsolute (Or.inl rfl)) hhits
    exact ⟨n, hn, file?_eq_isFile (habsolute (Or.inl rfl)) hhits hn, fun _ => Or.inl rfl⟩
  · obtain ⟨hwithin, hthere⟩ := Bool.and_eq_true_iff.1 hhits
    obtain ⟨n, hn⟩ := exists_named?_of_exists? (habsolute (Or.inr rfl)) hthere
    have hfile := file?_eq_isFile (habsolute (Or.inr rfl)) hthere hn
    refine ⟨n, hn, ?_, fun _ => Or.inr rfl⟩
    rw [← hfile, hits, hwithin, Bool.true_and]

end Candidate

namespace Store

open Candidate

variable {s s' : Store} {later later' : Host}

/-- What a resolver over a fresh rebuild answers names a file exactly if a test for files in the place of the test for
existence would give the same answer. The other answers are of the tiers on disk, spelled within the working tree. -/
theorem resolve_isFile_iff (hc : h.LogsToConsole) (hroot : s.config.projectRoot.Normal) (hdots : s.config.DottedSuffixes)
    (hn : h.files.WellNamed) (hs : h.files.ShortNamed) (hu : Cache.Unlinked s.config h)
    (hbuild : s.rebuild h = ((.ok l, s'), h')) (hfiles : later.files = h'.files)
    (hresolve : (⟨l, s.config, Tier.standard⟩ : Resolver).resolve (some directory) specifier later =
      (.ok (some (r, tier)), later')) :
    ∃ v n, Variants.of? s.config.primarySuffix s.config.compiledSuffix (logicalPath specifier) = some v ∧
      h'.files.named? r = some n ∧
      (n.isFile = true ↔ ((order l s.config directory v).find?
        (hits l s.config (h'.files.file? later.workingDirectory))).map Candidate.answer = some (r, tier)) ∧
      (n.isFile = false → Tier.IsLive tier ∧ isWithin r s.config.workingTree = true) := by
  have hends : endsInAny specifier s.config.suffixes = true := by
    by_contra hends
    have hhandles : (⟨l, s.config, Tier.standard⟩ : Resolver).handles specifier = false := Bool.eq_false_iff.2 hends
    rw [Resolver.resolve_of_not_handles hhandles] at hresolve
    cases hresolve
  obtain ⟨v, hv, t, -, hanswer, htier⟩ := Resolver.resolve_ok hresolve
  have hwithin : Tier.IsLive tier → isWithin r s.config.workingTree = true := fun hlive =>
    Resolver.isWithin_of_answer hdots hv (htier ▸ hlive) hanswer
  have hfirst := (Resolver.resolve_eq_find? (l := l) hdots hends hv).symm.trans (congrArg Prod.fst hresolve)
  obtain ⟨e, he, heq⟩ := Option.map_eq_some_iff.1 (Except.ok.inj hfirst)
  obtain ⟨rfl, rfl⟩ := Prod.mk.inj heq
  rw [hfiles] at he
  have hiff := find?_hits_iff (fun _ => exists?_of_file?) he
  have hhits := List.find?_some he
  have hindexed : ∀ path ∈ l.entries, ∃ n, h'.files.named? path = some n ∧ n.isFile = true := fun path hpath =>
    (Cache.named?_of_rebuild hc hn hs hu (keeping_ok hbuild) hpath).2.2
  obtain ⟨n, hnamed, hkind, hlive⟩ := named?_of_hits hindexed
    (fun hlive => Pathname.isAbsolute_of_isWithin hroot (hwithin hlive))
    (tier_mem_of_mem_order (List.mem_of_find?_eq_some he)) (List.find?_some he)
  exact ⟨v, n, hv, hnamed, by rw [← hkind, ← hiff]; rfl, fun hf => ⟨hlive hf, hwithin (hlive hf)⟩⟩

/-- A project with a load path of its own; two directories in it have the suffix of modules. -/
def directoryHost : Host :=
  let t : Timestamp := ⟨10, 0⟩
  let fs := sampleFiles.put [ofText "lib", ofText "app"] (Node.newDirectory t)
  let fs := fs.put [ofText "d.rb", ofText "lib", ofText "app"] (Node.newDirectory t)
  let fs := fs.put [ofText "e.rb", ofText "app"] (Node.newDirectory t)
  { sampleHost with files := fs, tool := .finished (ofText "/app/lib\n") [] 0 }

/-- A rebuild there indexes no module, and both tiers on disk answer with a directory. -/
theorem rebuild_directoryHost :
    (rebuild ⟨sampleConfig, none⟩ directoryHost).1.1.toOption = some ⟨[ofText "/app/lib"], [], true⟩ ∧
      ∀ h', (rebuild ⟨sampleConfig, none⟩ directoryHost).2 = h' →
        ((⟨⟨[ofText "/app/lib"], [], true⟩, sampleConfig, Tier.standard⟩ : Resolver).resolve
          (some (ofText "/app")) (ofText "d.rb") h').1.toOption = some (some (ofText "/app/lib/d.rb", "filesystem")) ∧
        (h'.files.named? (ofText "/app/lib/d.rb")).map Node.isFile = some false ∧
        ((⟨⟨[ofText "/app/lib"], [], true⟩, sampleConfig, Tier.standard⟩ : Resolver).resolve
          (some (ofText "/app")) (ofText "e.rb") h').1.toOption = some (some (ofText "/app/e.rb", "requesting_directory")) ∧
        (h'.files.named? (ofText "/app/e.rb")).map Node.isFile = some false := by
  refine ⟨by decide +kernel, ?_⟩
  rintro h' rfl
  decide +kernel

/-- The directory on the load path is answered; a test for files would find nothing there. -/
theorem resolve_isFile_iff_sample :
    ∃ l s' h' later' v n, rebuild ⟨sampleConfig, none⟩ directoryHost = ((.ok l, s'), h') ∧
      (⟨l, sampleConfig, Tier.standard⟩ : Resolver).resolve (some (ofText "/app")) (ofText "d.rb") h' =
        (.ok (some (ofText "/app/lib/d.rb", "filesystem")), later') ∧
      Variants.of? (ofText ".rb") (ofText ".js") (ofText "/d.rb") = some v ∧
      h'.files.named? (ofText "/app/lib/d.rb") = some n ∧
      (n.isFile = true ↔ ((order l sampleConfig (ofText "/app") v).find?
        (hits l sampleConfig (h'.files.file? h'.workingDirectory))).map Candidate.answer =
          some (ofText "/app/lib/d.rb", "filesystem")) ∧
      (n.isFile = false → Tier.IsLive "filesystem" ∧ isWithin (ofText "/app/lib/d.rb") sampleConfig.workingTree = true) := by
  obtain ⟨hanswer, hlater⟩ := rebuild_directoryHost
  rcases hbuild : rebuild ⟨sampleConfig, none⟩ directoryHost with ⟨⟨e | l, s'⟩, h'⟩
  · rw [hbuild] at hanswer
    cases hanswer
  · rw [hbuild] at hanswer
    obtain ⟨hresolve, -⟩ := hlater h' (congrArg Prod.snd hbuild)
    obtain rfl : l = ⟨[ofText "/app/lib"], [], true⟩ := Option.some.inj hanswer
    obtain ⟨later', hequal⟩ : ∃ later', (⟨⟨[ofText "/app/lib"], [], true⟩, sampleConfig, Tier.standard⟩ : Resolver).resolve
        (some (ofText "/app")) (ofText "d.rb") h' = (.ok (some (ofText "/app/lib/d.rb", "filesystem")), later') :=
      ⟨_, Prod.ext (Cache.eq_ok_of_toOption hresolve) rfl⟩
    obtain ⟨v, n, hv, hn, hiff, hlive⟩ := resolve_isFile_iff (fun _ hs => absurd hs List.not_mem_nil)
      plainCache_sampleConfig.root ⟨by decide, by decide⟩ (by decide) (by decide) (.of_linkStatus (by decide)) hbuild rfl hequal
    exact ⟨_, s', h', later', v, n, rfl, hequal, hv, hn, hiff, hlive⟩

/-- Both tiers on disk answer with a directory right after the rebuild. -/
theorem resolve_answers_directory :
    ∃ l s' h', rebuild ⟨sampleConfig, none⟩ directoryHost = ((.ok l, s'), h') ∧
      ((⟨l, sampleConfig, Tier.standard⟩ : Resolver).resolve (some (ofText "/app")) (ofText "d.rb") h').1.toOption =
        some (some (ofText "/app/lib/d.rb", "filesystem")) ∧
      (h'.files.named? (ofText "/app/lib/d.rb")).map Node.isFile = some false ∧
      ((⟨l, sampleConfig, Tier.standard⟩ : Resolver).resolve (some (ofText "/app")) (ofText "e.rb") h').1.toOption =
        some (some (ofText "/app/e.rb", "requesting_directory")) ∧
      (h'.files.named? (ofText "/app/e.rb")).map Node.isFile = some false := by
  obtain ⟨hanswer, hlater⟩ := rebuild_directoryHost
  rcases hbuild : rebuild ⟨sampleConfig, none⟩ directoryHost with ⟨⟨e | l, s'⟩, h'⟩
  · rw [hbuild] at hanswer
    cases hanswer
  · rw [hbuild] at hanswer
    obtain rfl : l = ⟨[ofText "/app/lib"], [], true⟩ := Option.some.inj hanswer
    exact ⟨_, s', h', rfl, hlater h' (congrArg Prod.snd hbuild)⟩

end Store

end RequirePath
