import RequirePath.Proofs.Path.Spelling

/-! Configurations whose cache lies in a directory of its own: the names of the cache are single names, and the
two things in the cache directory have different ones. The root of a configuration that is made from settings
is normal, so the paths of its cache are, and its suffixes start with a dot. -/

namespace RequirePath.Config

open LexicalPath

variable {c : Config} {workingDirectory : LexicalPath} {settings : Settings}

/-- A field is not set, or a rule takes its setting, or refuses it. -/
theorem readField_cases {α : Type} (settings : Settings) (field : String) (default : α)
    (rule : Setting → Except (List Issue) α) :
    (settings.lookup field = none ∧ readField settings field default rule = (default, [])) ∨
    ∃ s, settings.lookup field = some s ∧
      ((∃ a, rule s = .ok a ∧ readField settings field default rule = (a, [])) ∨
        ∃ issues, rule s = .error issues ∧ readField settings field default rule = (default, issues)) := by
  unfold readField
  cases settings.lookup field with
  | none => exact Or.inl ⟨rfl, rfl⟩
  | some s =>
      refine Or.inr ⟨s, rfl, ?_⟩
      dsimp only
      cases rule s with
      | ok a => exact Or.inl ⟨a, rfl, rfl⟩
      | error issues => exact Or.inr ⟨issues, rfl, rfl⟩

/-- What is read of a field has what the default and all that the rule gives have. -/
theorem of_readField {α : Type} {P : α → Prop} {field : String} {default : α} {rule : Setting → Except (List Issue) α}
    (hd : P default) (hr : ∀ s a, rule s = .ok a → P a) : P (readField settings field default rule).1 := by
  rcases readField_cases settings field default rule with ⟨-, hread⟩ | ⟨s, -, ⟨a, hrule, hread⟩ | ⟨issues, -, hread⟩⟩
  · rwa [hread]
  · rw [hread]
    exact hr s a hrule
  · rwa [hread]

/-- The root of a configuration is the absolute form of the text that the settings have for it, or without one the working
directory as it is. -/
theorem projectRoot_cases (h : ofSettings workingDirectory settings = .ok c) :
    (∃ text, settings.lookup "project_root" = some (.text text) ∧
      c.projectRoot = absolute workingDirectory (ofText text)) ∨
    settings.lookup "project_root" = none ∧ c.projectRoot = workingDirectory := by
  unfold ofSettings at h
  dsimp only at h
  split at h
  · next hissues =>
      cases h
      simp only [List.isEmpty_iff, List.append_eq_nil_iff, and_assoc] at hissues
      obtain ⟨hroot, -⟩ := hissues
      dsimp only
      rcases readField_cases settings "project_root" workingDirectory (rootRule workingDirectory "project_root") with
        ⟨hnone, hread⟩ | ⟨s, hsome, ⟨p, hrule, hread⟩ | ⟨issues, hrule, hread⟩⟩
      · rw [hread]
        exact Or.inr ⟨hnone, rfl⟩
      · rw [hread]
        cases s with
        | text text => exact Or.inl ⟨text, hsome, (Except.ok.inj hrule).symm⟩
        | _ => cases hrule
      · rw [hread] at hroot
        subst hroot
        cases s <;> cases hrule
  · cases h

/-- The root of a configuration is normal, whichever absolute path the program runs in. Only a working directory that is
taken as the root itself must have no double dots. -/
theorem normal_projectRoot (hw : workingDirectory.Tidy) (h : ofSettings workingDirectory settings = .ok c)
    (hd : settings.lookup "project_root" = none → dotDot ∉ workingDirectory.names) : c.projectRoot.Normal := by
  rcases projectRoot_cases h with ⟨text, -, hroot⟩ | ⟨hnone, hroot⟩
  · rw [hroot]
    exact normal_absolute hw text
  · rw [hroot]
    exact hw.normal (hd hnone)

/-- Both suffixes of modules start with a dot. -/
structure DottedSuffixes (c : Config) : Prop where
  primary : dot <+: c.primarySuffix
  compiled : dot <+: c.compiledSuffix

theorem exists_text_of_suffixRule {field : String} {s : Setting} {suffix : Pathname} (h : suffixRule field s = .ok suffix) :
    ∃ text : String, suffix = Pathname.ofText text ∧ text.toList.head? = some '.' := by
  unfold suffixRule at h
  split at h
  · cases h
  · next text htext =>
      split_ifs at h with hdot
      exact ⟨text, (Except.ok.inj h).symm, eq_of_beq hdot⟩

theorem dot_prefix_of_suffixRule {field : String} {s : Setting} {suffix : Pathname}
    (h : suffixRule field s = .ok suffix) : dot <+: suffix := by
  obtain ⟨text, rfl, hdot⟩ := exists_text_of_suffixRule h
  obtain ⟨rest, hrest⟩ := List.head?_eq_some_iff.1 hdot
  rw [Pathname.ofText, hrest, Utf8.encode, List.flatMap_cons]
  exact List.prefix_append _ _

/-- The suffixes of a configuration that is made from settings start with a dot. -/
theorem dottedSuffixes_of_ofSettings (h : ofSettings workingDirectory settings = .ok c) : c.DottedSuffixes := by
  unfold ofSettings at h
  dsimp only at h
  split at h
  · cases h
    exact ⟨of_readField (by decide) fun _ _ => dot_prefix_of_suffixRule,
      of_readField (by decide) fun _ _ => dot_prefix_of_suffixRule⟩
  · cases h

/-! The paths of the cache are tidy below a normal root, whatever their names are. -/

theorem tidy_cacheDirPath (h : c.projectRoot.Normal) : c.cacheDirPath.Tidy := h.tidy.join_parse _

theorem tidy_cacheFilePath (h : c.projectRoot.Normal) : c.cacheFilePath.Tidy := (tidy_cacheDirPath h).join_parse _

theorem tidy_compilerCachePath (h : c.projectRoot.Normal) : c.compilerCachePath.Tidy := (tidy_cacheDirPath h).join_parse _

/-- The cache has plain names, and the compiler's directory is not where the cache file is. -/
structure PlainCache (c : Config) : Prop where
  root : c.projectRoot.Normal
  cacheDir : IsPlainName c.cacheDir
  cacheFile : IsPlainName c.cacheFile
  compilerCacheDir : IsPlainName c.compilerCacheDir
  distinct : c.cacheFile ≠ c.compilerCacheDir

theorem PlainCache.cacheDirPath_eq (h : c.PlainCache) : c.cacheDirPath = c.projectRoot.entry c.cacheDir :=
  join_parse_plain _ h.cacheDir

theorem PlainCache.normal (h : c.PlainCache) : c.cacheDirPath.Normal := by
  rw [h.cacheDirPath_eq]
  exact h.root.entry h.cacheDir

theorem PlainCache.cacheFilePath_eq (h : c.PlainCache) : c.cacheFilePath = c.cacheDirPath.entry c.cacheFile :=
  join_parse_plain _ h.cacheFile

theorem PlainCache.normal_cacheFilePath (h : c.PlainCache) : c.cacheFilePath.Normal := by
  rw [h.cacheFilePath_eq]
  exact h.normal.entry h.cacheFile

theorem PlainCache.compilerCachePath_eq (h : c.PlainCache) :
    c.compilerCachePath = c.cacheDirPath.entry c.compilerCacheDir :=
  join_parse_plain _ h.compilerCacheDir

/-- The names of the cache are single names. -/
structure SingleNames (c : Config) : Prop where
  root : c.projectRoot.Normal
  cacheDir : IsPlainName c.cacheDir
  cacheFile : IsPlainName c.cacheFile
  compilerCacheDir : IsPlainName c.compilerCacheDir

theorem PlainCache.singleNames (h : c.PlainCache) : c.SingleNames :=
  ⟨h.root, h.cacheDir, h.cacheFile, h.compilerCacheDir⟩

theorem SingleNames.cacheDirPath_eq (h : c.SingleNames) : c.cacheDirPath = c.projectRoot.entry c.cacheDir :=
  join_parse_plain _ h.cacheDir

theorem SingleNames.cacheFilePath_eq (h : c.SingleNames) : c.cacheFilePath = c.cacheDirPath.entry c.cacheFile :=
  join_parse_plain _ h.cacheFile

theorem SingleNames.compilerCachePath_eq (h : c.SingleNames) :
    c.compilerCachePath = c.cacheDirPath.entry c.compilerCacheDir :=
  join_parse_plain _ h.compilerCacheDir

theorem SingleNames.normal (h : c.SingleNames) : c.cacheDirPath.Normal := by
  rw [h.cacheDirPath_eq]
  exact h.root.entry h.cacheDir

end RequirePath.Config
