import RequirePath.Proofs.Cache.Freshness
import RequirePath.Proofs.Config
import RequirePath.Proofs.Path.Texts
import RequirePath.Proofs.Resolver.Order
import RequirePath.Proofs.Resolver.Soundness

/-! What a resolver answers is a text. Load paths are texts, whether they are read or found anew; so are the suffixes of a
configuration, and the variants of a specifier that is a text. Each tier puts these together. -/

namespace RequirePath

open FileSystem RequirePath.Action
open Pathname (isText ofText)

variable {c : Config} {l : Loaded} {h h' : Host} {requester : Option Pathname} {specifier logical path p u : Pathname}
variable {primary compiled : Pathname} {v : Variants} {t : Tier} {tier : String} {fs : FileSystem} {cwd : Location}

/-! ### Load paths and suffixes -/

theorem Cache.isText_of_loadOrRebuild (hc : h.LogsToConsole) (ha : loadOrRebuild c h = (.ok l, h')) (hp : p ∈ l.loadPaths) :
    isText p = true := by
  rcases loadOrRebuild_ok_cases hc ha with ⟨record, -, rfl, -⟩ | ⟨-, usable, h₁, h₂, hensure, hpause, hrebuild⟩
  · obtain ⟨s, -, rfl⟩ := List.mem_map.1 hp
    exact Pathname.isText_encode _
  · have hc₂ := hpause.continues.logsToConsole ((ensureCacheFile_continues hensure).logsToConsole hc)
    obtain ⟨output, -, rfl⟩ := rebuild_found hc₂ hrebuild
    obtain ⟨line, -, rfl⟩ := List.mem_map.1 hp
    exact Pathname.isText_encode _

namespace Config

variable {settings : Settings} {workingDirectory : LexicalPath}

/-- The suffixes of modules are texts. -/
structure TextSuffixes (c : Config) : Prop where
  primary : isText c.primarySuffix = true
  compiled : isText c.compiledSuffix = true

theorem isText_of_suffixRule {field : String} {s : Setting} {suffix : Pathname} (h : suffixRule field s = .ok suffix) :
    isText suffix = true := by
  obtain ⟨text, rfl, -⟩ := exists_text_of_suffixRule h
  exact Pathname.isText_encode _

/-- The suffixes of a configuration that is made from settings are texts. -/
theorem textSuffixes_of_ofSettings (h : ofSettings workingDirectory settings = .ok c) : c.TextSuffixes := by
  unfold ofSettings at h
  dsimp only at h
  split at h
  · cases h
    exact ⟨of_readField (by decide) fun _ _ => isText_of_suffixRule, of_readField (by decide) fun _ _ => isText_of_suffixRule⟩
  · cases h

end Config

/-! ### Variants -/

theorem isText_logicalPath (h : isText specifier = true) : isText (logicalPath specifier) = true := by
  unfold logicalPath
  split_ifs with hdot habsolute
  · obtain ⟨rest, rfl⟩ := List.isPrefixOf_iff_prefix.1 (Bool.and_eq_true_iff.1 hdot).1
    have hcut : isText ([] ++ 46 :: rest) = true := h
    exact (Pathname.isText_of_cut hcut (by decide)).2
  · exact h
  · exact Pathname.isText_cons_slash h

theorem Variants.isText_of_mem (hdot : dot <+: primary) (hp : isText primary = true) (hc : isText compiled = true)
    (hl : isText logical = true) (hv : of? primary compiled logical = some v) (hu : u ∈ v.toList) : isText u = true := by
  unfold of? at hv
  split_ifs at hv with hprimary hcompiled
  · obtain rfl := Option.some.inj hv
    rcases List.mem_cons.1 hu with rfl | hu
    · exact hl
    · -- the stem is cut before the dot that the suffix starts with
      obtain ⟨stem, rfl⟩ := List.isSuffixOf_iff_suffix.1 hprimary
      obtain ⟨rest, rfl⟩ := hdot
      have hcut : isText (stem ++ 46 :: rest) = true := hl
      have hstem := (Pathname.isText_of_cut hcut (by decide)).1
      rw [List.mem_singleton.1 hu, List.length_append, Nat.add_sub_cancel, List.take_left']
      · exact Pathname.isText_append hstem hc
      · rfl
  · obtain rfl := Option.some.inj hv
    rcases List.mem_cons.1 hu with rfl | hu
    · exact Pathname.isText_append hl hp
    · rw [List.mem_singleton.1 hu]
      exact hl

namespace Resolver

variable {resolver : Resolver}

theorem isText_of_answer (hl : ∀ p ∈ resolver.loaded.loadPaths, isText p = true)
    (hrequester : ∀ directory, requester = some directory → isText directory = true)
    (hv : ∀ u ∈ v.toList, isText u = true) (ht : t ∈ Tier.standard)
    (h : resolver.answer fs cwd requester v t = .ok (some path)) : isText path = true := by
  have hbelow : ∀ loadPaths, loadPaths ⊆ resolver.loaded.loadPaths → path ∈ loadPaths.flatMap (candidates v) →
      isText path = true := by
    intro loadPaths hsub hpath
    obtain ⟨p, hp, hcandidate⟩ := List.mem_flatMap.1 hpath
    obtain ⟨u, hu, rfl⟩ := List.mem_map.1 hcandidate
    exact Pathname.isText_append (hl p (hsub hp)) (hv u hu)
  simp only [Tier.standard, List.mem_cons, List.not_mem_nil, or_false] at ht
  rcases ht with rfl | rfl | rfl
  · exact hbelow _ (fun _ hp => hp) (List.mem_of_find?_eq_some (Except.ok.inj h))
  · exact hbelow _ (fun _ hp => (List.mem_filter.1 hp).1) (List.mem_of_find?_eq_some (Except.ok.inj h))
  · cases requester with
    | none => cases h
    | some directory =>
        have hfound := Except.ok.inj h
        split_ifs at hfound
        rw [← Option.some.inj hfound]
        exact Pathname.isText_append (hrequester directory rfl) (hv v.primary List.mem_cons_self)

/-- The answer to a request of texts is a text. -/
theorem isText_of_resolve (hdots : c.DottedSuffixes) (htexts : c.TextSuffixes) (hl : ∀ p ∈ l.loadPaths, isText p = true)
    (hrequester : ∀ directory, requester = some directory → isText directory = true) (hspecifier : isText specifier = true)
    (ha : (⟨l, c, Tier.standard⟩ : Resolver).resolve requester specifier h = (.ok (some (path, tier)), h')) :
    isText path = true := by
  obtain ⟨v, hv, t, ht, hanswer, -⟩ := resolve_ok ha
  exact isText_of_answer hl hrequester
    (fun u hu => Variants.isText_of_mem hdots.primary htexts.primary htexts.compiled (isText_logicalPath hspecifier) hv hu)
    ht hanswer

end Resolver

end RequirePath
