import RequirePath.Proofs.Config.Fields
import RequirePath.Proofs.Config.Settings

/-! The layers of a configuration. What counts for a field is the value that the caller gives, else that of the variable of
the field, else that of the settings file, else the default; and a value that does not count is not looked at. -/

namespace RequirePath.Config

open Pathname (ofText)

variable {h h' : Host} {root file : Option String} {overrides settings : Settings} {field : String}
variable {environment : List (String × String)} {c : Config}

/-- The value that the caller gives for a field; nothing counts as no value. -/
def given? (overrides : Settings) (field : String) : Option Setting :=
  overrides.findSome? fun (name, s) =>
    match s with
    | .null => none
    | _ => if name = field then some s else none

/-- The variable that gives the value of a field, for the fields that have one. -/
def variableOf? : String → Option String
  | "cache_dir" => some "OWL_CACHE_DIR"
  | "on_corrupt_cache" => some "OWL_ON_CORRUPT_CACHE"
  | "log_level" => some "OWL_LOG_LEVEL"
  | "log_path" => some "OWL_LOG_PATH"
  | _ => none

/-- The value of a variable; an empty one counts as no value. -/
def valueOf? (environment : List (String × String)) (name : String) : Option Setting :=
  match environment.lookup name with
  | some value => if value = "" then none else some (.text value)
  | none => none

/-- The value that counts for a field, if some layer gives one. -/
def effective (overrides : Settings) (environment : List (String × String)) (settings : Settings) (field : String) :
    Option Setting :=
  (given? overrides field).or (((variableOf? field).bind (valueOf? environment)).or (settings.lookup field))

/-- The absolute form of the root that the caller gives, or the working directory. -/
def rootPath (root : Option String) (h : Host) : LexicalPath :=
  match root with
  | some text => LexicalPath.absolute h.workingPath (LexicalPath.ofText text)
  | none => h.workingPath

/-! ### Layers -/

theorem lookup_given (overrides : Settings) (field : String) :
    (overrides.filter fun p =>
      match p.2 with
      | .null => false
      | _ => true).lookup field = given? overrides field := by
  induction overrides with
  | nil => rfl
  | cons p overrides ih =>
      obtain ⟨name, s⟩ := p
      unfold given? at ih ⊢
      rw [List.findSome?_cons]
      cases s with
      | null => exact ih
      | _ =>
          rw [List.filter_cons_of_pos rfl, List.lookup_cons, ih]
          by_cases hname : name = field
          · subst hname
            simp
          · have hne : (field == name) = false := beq_eq_false_iff_ne.2 (Ne.symm hname)
            simp [hname, hne]

theorem lookup_filter_ne (other : String) (settings : Settings) (hfield : field ≠ other) :
    (settings.filter fun p => p.1 != other).lookup field = settings.lookup field := by
  induction settings with
  | nil => rfl
  | cons p settings ih =>
      obtain ⟨name, s⟩ := p
      rw [List.filter_cons, List.lookup_cons]
      by_cases hname : name = other
      · have hne : (field == name) = false := beq_eq_false_iff_ne.2 (hname ▸ hfield)
        rw [if_neg (by simp [hname]), ih, hne]
      · rw [if_pos (by simp [hname]), List.lookup_cons, ih]

/-- The settings of some variables, each for a field. -/
def ofVariables (environment pairs : List (String × String)) : Settings :=
  pairs.filterMap fun (name, f) => (valueOf? environment name).map (f, ·)

theorem ofEnvironment_eq (environment : List (String × String)) :
    ofEnvironment environment = ofVariables environment environmentFields := by
  unfold ofEnvironment ofVariables valueOf?
  congr 1
  funext (name, f)
  dsimp only
  cases environment.lookup name with
  | none => rfl
  | some value =>
      simp only [String.isEmpty_iff]
      split_ifs <;> rfl

theorem lookup_ofVariables_cons (environment : List (String × String)) (name f : String) (pairs : List (String × String))
    (field : String) : (ofVariables environment ((name, f) :: pairs)).lookup field =
      ((if field = f then some name else none).bind (valueOf? environment)).or
        ((ofVariables environment pairs).lookup field) := by
  unfold ofVariables
  rw [List.filterMap_cons]
  dsimp only
  cases hvalue : valueOf? environment name with
  | none =>
      dsimp only [Option.map_none]
      split_ifs <;> simp [hvalue]
  | some s =>
      dsimp only [Option.map_some]
      rw [List.lookup_cons]
      split_ifs with hf
      · simp [hf, hvalue]
      · simp [beq_eq_false_iff_ne.2 hf]

/-- The variable of a field gives its value whatever the other variables are. -/
theorem lookup_ofEnvironment (environment : List (String × String)) (field : String) :
    (ofEnvironment environment).lookup field = (variableOf? field).bind (valueOf? environment) := by
  rw [ofEnvironment_eq]
  simp only [environmentFields, lookup_ofVariables_cons]
  fun_cases variableOf? field <;> simp_all [ofVariables]

/-- The layers give for each field but the root the value that counts. -/
theorem lookup_layers (hfield : field ≠ rootField) :
    (layers root overrides (ofEnvironment environment) settings).lookup field = effective overrides environment settings field := by
  have hlower : (layers root overrides (ofEnvironment environment) settings).lookup field =
      ((overrides.filter fun p =>
          match p.2 with
          | .null => false
          | _ => true) ++ ofEnvironment environment ++ settings).lookup field := by
    unfold layers
    dsimp only
    cases root with
    | none => exact lookup_filter_ne rootField _ hfield
    | some text =>
        have hne : (field == rootField) = false := beq_eq_false_iff_ne.2 hfield
        rw [List.lookup_cons, hne]
        exact lookup_filter_ne rootField _ hfield
  rw [hlower, List.lookup_append, List.lookup_append, lookup_given, lookup_ofEnvironment, effective, Option.or_assoc]

/-- The layers give the root that the caller gives, whatever the others have for it. -/
theorem readField_layers (root : Option String) (overrides environment settings : Settings) (h : Host) :
    readField (layers root overrides environment settings) rootField h.workingPath (rootRule h.workingPath rootField) =
      (rootPath root h, []) := by
  unfold layers readField rootPath
  dsimp only
  cases root with
  | none =>
      have hnone (settings : Settings) : (settings.filter fun p => p.1 != rootField).lookup rootField = none := by
        refine List.lookup_eq_none_iff.2 fun p hp => ?_
        have hname := (List.mem_filter.1 hp).2
        rw [bne_iff_ne] at hname
        exact bne_iff_ne.2 hname.symm
      dsimp only
      rw [hnone]
  | some text =>
      dsimp only
      rw [List.lookup_cons_self]
      rfl

/-! ### Loading -/

theorem readSettings_surroundings (path : LexicalPath) (h : Host) : SameSurroundings h (readSettings path h).2 := by
  have hsame : SameSurroundings h h := ⟨rfl, rfl⟩
  have hignore (message : String) : SameSurroundings h (ignore message h).2 :=
    sameSurroundings_of_continues (h.log_continues part .warning message true)
  cases hlook : h.files.isThere h.workingDirectory path.spelling with
  | error errno =>
      rw [readSettings_of_refused hlook]
      exact hsame
  | ok there =>
      cases there with
      | false =>
          rw [readSettings_of_absent hlook]
          exact hsame
      | true =>
          rw [readSettings_of_present hlook]
          cases h.files.read h.workingDirectory path.spelling with
          | error e => exact hignore _
          | ok bytes =>
              dsimp only
              cases Yaml.Document.read (.ofBytes bytes) with
              | error fault =>
                  dsimp only
                  cases failureOf fault with
                  | some e => exact hsame
                  | none => exact hignore _
              | ok d =>
                  unfold settingsOf
                  dsimp only
                  split_ifs
                  · exact hsame
                  · rcases ofSection d with e | settings | settings
                    · exact hsame
                    · exact hignore _
                    · exact hsame

/-- Once the file has been read, the layers decide. -/
theorem load_of_read (overrides : Settings) (hread : readSettings (settingsPath root file h) h = (.ok settings, h')) :
    (load root file overrides h).1 = ofLayers root overrides settings h := by
  have hsame := readSettings_surroundings (settingsPath root file h) h
  rw [hread] at hsame
  exact load_of_readSettings hread hsame

theorem name_ne_rootField : ∀ f ∈ fields, f.name ≠ rootField := by
  unfold fields
  decide

theorem lookup_layers_name (root : Option String) (overrides : Settings) (environment : List (String × String))
    (settings : Settings) (f : Field) (hf : f ∈ fields) : (layers root overrides (ofEnvironment environment) settings).lookup f.name =
      effective overrides environment settings f.name := lookup_layers (name_ne_rootField f hf)

/-- Layers in which the same values count come to the same. -/
theorem ofLayers_congr {k : Host} {overrides' settings' : Settings} (hcwd : k.workingPath = h.workingPath)
    (hsame : ∀ f ∈ fields, effective overrides' k.environment settings' f.name =
      effective overrides h.environment settings f.name) :
    ofLayers root overrides' settings' k = ofLayers root overrides settings h := by
  have hroot := readField_layers root overrides (ofEnvironment h.environment) settings h
  have hroot' := readField_layers root overrides' (ofEnvironment k.environment) settings' k
  have hpath : rootPath root k = rootPath root h := by
    unfold rootPath
    rw [hcwd]
  rw [hcwd, hpath] at hroot'
  rw [ofLayers, ofLayers, hcwd, ofSettings_congr hroot' hroot fun f hf => ?_]
  rw [lookup_layers_name _ _ _ _ f hf, lookup_layers_name _ _ _ _ f hf, hsame f hf]

/-- Layers in which the same values count load the same, whatever else they have. -/
theorem load_congr {k k' : Host} {file' : Option String} {overrides' settings' : Settings}
    (hread : readSettings (settingsPath root file h) h = (.ok settings, h'))
    (hread' : readSettings (settingsPath root file' k) k = (.ok settings', k')) (hcwd : k.workingPath = h.workingPath)
    (hsame : ∀ f ∈ fields, effective overrides' k.environment settings' f.name =
      effective overrides h.environment settings f.name) :
    (load root file' overrides' k).1 = (load root file overrides h).1 := by
  rw [load_of_read overrides' hread', load_of_read overrides hread, ofLayers_congr hcwd hsame]

/-- The values that count give the configuration in which each field holds its value, or some field refuses its value, and
the violations are of just the fields that do. -/
theorem load_cases (overrides : Settings) (hread : readSettings (settingsPath root file h) h = (.ok settings, h')) :
    (∃ c, (load root file overrides h).1 = .ok c ∧ c.projectRoot = rootPath root h ∧
      ∀ f ∈ fields, f.Holds (effective overrides h.environment settings f.name) (f.get c)) ∨
    ∃ issues, (load root file overrides h).1 = .error (.invalidSettings issues) ∧
      (∃ f ∈ fields, f.Refuses (effective overrides h.environment settings f.name)) ∧
      ∀ field, (∃ i ∈ issues, i.field = some field) ↔
        ∃ f ∈ fields, f.name = field ∧ f.Refuses (effective overrides h.environment settings f.name) := by
  rw [load_of_read overrides hread, ofLayers]
  rcases ofSettings_cases (readField_layers root overrides (ofEnvironment h.environment) settings h)
    (lookup_layers_name root overrides h.environment settings) with ⟨c, hc, hholds⟩ | ⟨issues, hissues, hrefuses⟩
  · rw [hc]
    exact Or.inl ⟨c, rfl, hholds⟩
  · rw [hissues]
    exact Or.inr ⟨issues, rfl, hrefuses⟩

/-- A configuration is made of the values that count. Each field holds what its value gives it or its default, and the root is
the caller's whatever the layers say. There is none exactly if a field refuses the value that counts for it, and the violations
are then of the fields that do. What the layers have besides is not looked at. -/
theorem load_by_layers (overrides : Settings) (hread : readSettings (settingsPath root file h) h = (.ok settings, h')) :
    (∀ c, (load root file overrides h).1 = .ok c ↔ c.projectRoot = rootPath root h ∧
      ∀ f ∈ fields, f.Holds (effective overrides h.environment settings f.name) (f.get c)) ∧
    ((∃ e, (load root file overrides h).1 = .error e) ↔
      ∃ f ∈ fields, f.Refuses (effective overrides h.environment settings f.name)) ∧
    (∀ e, (load root file overrides h).1 = .error e → ∃ issues, e = .invalidSettings issues ∧ ∀ field,
      (∃ i ∈ issues, i.field = some field) ↔
        ∃ f ∈ fields, f.name = field ∧ f.Refuses (effective overrides h.environment settings f.name)) ∧
    ∀ file' overrides' settings' k k', readSettings (settingsPath root file' k) k = (.ok settings', k') →
      k.workingPath = h.workingPath → (∀ f ∈ fields, effective overrides' k.environment settings' f.name =
        effective overrides h.environment settings f.name) →
      (load root file' overrides' k).1 = (load root file overrides h).1 := by
  rcases load_cases overrides hread with ⟨made, hload, hroot, hholds⟩ | ⟨issues, hload, ⟨f, hf, hrefuses⟩, hissues⟩
  · refine ⟨fun c => ?_, ⟨?_, ?_⟩, fun e he => ?_, fun _ _ _ _ _ hread' => load_congr hread hread'⟩
    · rw [hload]
      constructor
      · intro hc
        cases hc
        exact ⟨hroot, hholds⟩
      · rintro ⟨hc, hc'⟩
        exact congrArg Except.ok (eq_of_contents (hroot.trans hc.symm) fun f hf => (hholds f hf).unique (hc' f hf))
    · rintro ⟨e, he⟩
      cases hload.symm.trans he
    · rintro ⟨f, hf, hrefuses⟩
      exact absurd hrefuses (hholds f hf).not_refuses
    · cases hload.symm.trans he
  · refine ⟨fun c => ⟨fun hc => ?_, ?_⟩, ⟨fun _ => ⟨f, hf, hrefuses⟩, fun _ => ⟨_, hload⟩⟩, fun e he => ?_,
      fun _ _ _ _ _ hread' => load_congr hread hread'⟩
    · cases hload.symm.trans hc
    · rintro ⟨-, hholds⟩
      exact absurd hrefuses (hholds f hf).not_refuses
    · cases hload.symm.trans he
      exact ⟨issues, rfl, hissues⟩

/-- Settings with numbers for the cache directory and the log level, another root, and a name that no field has. -/
def layeredBytes : List UInt8 :=
  ofText "resolver: \x7bcache_dir: 1, log_level: 2, project_root: /x, color: 3\x7d"

/-- The number for the cache directory is hidden by a variable and the one for the log level by the caller, so neither is
complained of. -/
theorem load_by_layers_sample :
    let h := { settingsHost Node.directoryMode layeredBytes with environment := [("OWL_CACHE_DIR", "c"), ("OWL_LOG_PATH", "")] }
    let overrides := [("log_level", .text "INFO"), ("cache_dir", .null)]
    ∃ settings h' c, readSettings (settingsPath (some "/app") none h) h = (.ok settings, h') ∧
      (∃ s, settings.lookup "cache_dir" = some s ∧ ∀ x, ¬Kind.path.Takes s x) ∧
      (load (some "/app") none overrides h).1 = .ok c ∧ c.projectRoot = rootPath (some "/app") h ∧ c.cacheDir = ofText "c" := by
  intro h overrides
  obtain ⟨settings, hsettings, hnumber⟩ := Json.map_eq_ok (by decide +kernel :
    (readSettings (settingsPath (some "/app") none h) h).1.map (fun s => (s.lookup "cache_dir").map Setting.asText) =
      .ok (some (.error .notText)))
  obtain ⟨c, hc, -⟩ := Json.map_eq_ok (by decide +kernel :
    (load (some "/app") none overrides h).1.map (fun _ => ()) = .ok ())
  obtain ⟨s, hs, htext⟩ := Option.map_eq_some_iff.1 hnumber
  have hread : readSettings (settingsPath (some "/app") none h) h = (.ok settings, _) := Prod.ext hsettings rfl
  obtain ⟨hroot, hholds⟩ := ((load_by_layers overrides hread).1 c).1 hc
  have hdir := hholds ⟨"cache_dir", .path, .path (ofText ".owl_cache"), fun c => .path c.cacheDir⟩
    (List.mem_cons_of_mem _ (List.mem_cons_of_mem _ List.mem_cons_self))
  have hvalue : effective overrides h.environment settings "cache_dir" = some (.text "c") := rfl
  refine ⟨settings, _, c, hread, ⟨s, hs, fun x hx => ?_⟩, hc, hroot, ?_⟩
  · rcases s.asText_cases with ⟨t, -, hok⟩ | ⟨hno, -⟩
    · cases hok.symm.trans htext
    · cases hx with
      | path ht => exact hno _ ht
  · dsimp only at hdir
    rw [hvalue] at hdir
    exact Content.path.inj (hdir.unique (.given (.path (.text "c"))))

end RequirePath.Config
