import Mathlib.Data.List.Forall2
import RequirePath.Config.Basic
import RequirePath.Proofs.Text.Utf8

/-! The fields of a configuration that settings give. A field of a kind takes the settings that suit it, and what it holds
then is told without the rules that read it. The configuration of settings has in each field what the field takes from its
setting, or the default; settings that some field refuses give none, and the violations are of just those fields. -/

namespace RequirePath

open Pathname (ofText)

namespace Setting

variable {s : Setting} {t t' : String}

/-- A setting spells a text: it is the text, or the bytes that encode it. -/
inductive Spells : Setting → String → Prop
  | text (t : String) : Spells (.text t) t
  | bytes (t : String) : Spells (.bytes (Utf8.encode t.toList)) t

theorem Spells.unique (h : s.Spells t) (h' : s.Spells t') : t = t' := by
  cases h with
  | text =>
      cases h'
      rfl
  | bytes =>
      generalize hb : Utf8.encode t.toList = bytes at h'
      cases h' with
      | bytes =>
          have hd := Utf8.decode_encode t.toList
          rw [hb, Utf8.decode_encode] at hd
          exact (String.toList_injective (Except.ok.inj hd)).symm

theorem asText_cases (s : Setting) :
    (∃ t, s.Spells t ∧ s.asText = .ok t) ∨ (∀ t, ¬s.Spells t) ∧ ∃ v, s.asText = .error v := by
  cases s with
  | text t => exact Or.inl ⟨t, .text t, rfl⟩
  | bytes bs =>
      unfold asText Utf8.decode?
      dsimp only
      cases hd : Utf8.decode bs with
      | ok cs =>
          obtain rfl := Utf8.encode_of_decode hd
          have hspells := Spells.bytes (String.ofList cs)
          rw [String.toList_ofList] at hspells
          exact Or.inl ⟨_, hspells, rfl⟩
      | error fault =>
          refine Or.inr ⟨fun t ht => ?_, _, rfl⟩
          cases ht
          rw [Utf8.decode_encode] at hd
          cases hd
  | null => exact Or.inr ⟨nofun, _, rfl⟩
  | list items => exact Or.inr ⟨nofun, _, rfl⟩
  | other => exact Or.inr ⟨nofun, _, rfl⟩

end Setting

namespace Config

variable {α β : Type} {s : Setting} {t t' : String} {x y : Content} {settings settings' : Settings} {field : String}
variable {root workingDirectory : LexicalPath} {c c' : Config}

/-- What a field of a configuration is for. -/
inductive Kind
  | path
  | suffix
  | paths
  | policy
  | text
  | optionalText

/-- What a field of a configuration holds. -/
inductive Content
  | path (p : Pathname)
  | paths (ps : List Pathname)
  | policy (p : CorruptPolicy)
  | text (t : String)
  | optionalText (t : Option String)

/-- A field of a kind takes a setting, and holds a content then. -/
inductive Kind.Takes : Kind → Setting → Content → Prop
  | path {s : Setting} {t : String} (hs : s.Spells t) : Takes .path s (.path (ofText t))
  /-- A suffix starts with a dot. -/
  | suffix {s : Setting} {t : String} (hs : s.Spells t) (hdot : ['.'] <+: t.toList) : Takes .suffix s (.path (ofText t))
  | paths {items : List Setting} {ts : List String} (hs : List.Forall₂ Setting.Spells items ts) :
      Takes .paths (.list items) (.paths (ts.map ofText))
  /-- A policy is one of the two words, and not the bytes of one. -/
  | policy (p : CorruptPolicy) : Takes .policy (.text p.word) (.policy p)
  | text {s : Setting} {t : String} (hs : s.Spells t) : Takes .text s (.text t)
  | nothing : Takes .optionalText .null (.optionalText none)
  | something {s : Setting} {t : String} (hs : s.Spells t) : Takes .optionalText s (.optionalText (some t))

/-- A field of a configuration that settings give. -/
structure Field where
  name : String
  kind : Kind
  default : Content
  get : Config → Content

/-- The fields of a configuration but its root. -/
def fields : List Field :=
  [⟨"gemfile", .path, .path (ofText "Gemfile"), fun c => .path c.gemfile⟩,
    ⟨"gemfile_lock", .path, .path (ofText "Gemfile.lock"), fun c => .path c.gemfileLock⟩,
    ⟨"cache_dir", .path, .path (ofText ".owl_cache"), fun c => .path c.cacheDir⟩,
    ⟨"cache_file", .path, .path (ofText "load_paths.json"), fun c => .path c.cacheFile⟩,
    ⟨"compiler_cache_dir", .path, .path (ofText "cc"), fun c => .path c.compilerCacheDir⟩,
    ⟨"rails_marker", .path, .path (ofText "bin/rails"), fun c => .path c.railsMarker⟩,
    ⟨"primary_suffix", .suffix, .path (ofText ".rb"), fun c => .path c.primarySuffix⟩,
    ⟨"compiled_suffix", .suffix, .path (ofText ".js"), fun c => .path c.compiledSuffix⟩,
    ⟨"allowed_zones", .paths, .paths [], fun c => .paths c.allowedZones⟩,
    ⟨"on_corrupt_cache", .policy, .policy .rebuild, fun c => .policy c.onCorruptCache⟩,
    ⟨"log_level", .text, .text "WARNING", fun c => .text c.logLevel⟩,
    ⟨"log_path", .optionalText, .optionalText none, fun c => .optionalText c.logPath⟩]

namespace Field

variable {f : Field} {value : Option Setting}

/-- A field holds the content that it takes from its setting, or its default without one. -/
inductive Holds (f : Field) : Option Setting → Content → Prop
  | default : Holds f none f.default
  | given {s : Setting} {x : Content} (hs : f.kind.Takes s x) : Holds f (some s) x

/-- A field has a setting that it does not take. -/
def Refuses (f : Field) (value : Option Setting) : Prop := ∃ s, value = some s ∧ ∀ x, ¬f.kind.Takes s x

end Field

/-! ### Rules -/

/-- Some violations, all of one field. -/
def OfField (field : String) (issues : List Issue) : Prop := issues ≠ [] ∧ ∀ i ∈ issues, i.field = some field

theorem ofField_issue (field : String) (v : Violation) : OfField field (issue field v) :=
  ⟨List.cons_ne_nil _ _, fun i hi => by rw [List.mem_singleton.1 hi]⟩

theorem textRule_cases (field : String) (s : Setting) :
    (∃ t, s.Spells t ∧ textRule field s = .ok t) ∨
      (∀ t, ¬s.Spells t) ∧ ∃ v, textRule field s = .error (issue field v) := by
  unfold textRule
  rcases s.asText_cases with ⟨t, ht, hok⟩ | ⟨hno, v, herror⟩
  · exact Or.inl ⟨t, ht, by rw [hok]; rfl⟩
  · exact Or.inr ⟨hno, v, by rw [herror]; rfl⟩

/-- The violations of the items of a list, the first of which has an index. -/
def itemIssues (field : String) (items : List Setting) (index : Nat) : List Issue :=
  ((items.map Setting.asText).zipIdx index).filterMap fun (r, i) =>
    match r with
    | .ok _ => none
    | .error v => some ⟨some field, some i, v⟩

/-- The items of a list are texts without a violation, or one is none and all violations are of the field. -/
theorem itemIssues_cases (field : String) (items : List Setting) (index : Nat) :
    (∃ ts, List.Forall₂ Setting.Spells items ts ∧ itemIssues field items index = [] ∧
      ((items.map Setting.asText).filterMap fun r => r.toOption.map ofText) = ts.map ofText) ∨
    (∀ ts, ¬List.Forall₂ Setting.Spells items ts) ∧ OfField field (itemIssues field items index) := by
  induction items generalizing index with
  | nil => exact Or.inl ⟨[], .nil, rfl, rfl⟩
  | cons s items ih =>
      unfold itemIssues at ih ⊢
      rw [List.map_cons, List.zipIdx_cons]
      rcases s.asText_cases with ⟨t, ht, hok⟩ | ⟨hno, v, herror⟩
      · rw [hok]
        rcases ih (index + 1) with ⟨ts, hts, hnone, hpaths⟩ | ⟨hno, hissues⟩
        · refine Or.inl ⟨t :: ts, .cons ht hts, ?_, ?_⟩
          · rw [List.filterMap_cons, hnone]
          · rw [List.filterMap_cons, hpaths]
            rfl
        · refine Or.inr ⟨fun ts hts => ?_, ?_⟩
          · cases hts with
            | cons _ hrest => exact hno _ hrest
          · rwa [List.filterMap_cons]
      · rw [herror, List.filterMap_cons]
        refine Or.inr ⟨fun ts hts => ?_, List.cons_ne_nil _ _, fun i hi => ?_⟩
        · cases hts with
          | cons ht _ => exact hno _ ht
        · rcases List.mem_cons.1 hi with rfl | hi
          · rfl
          · rcases ih (index + 1) with ⟨ts, -, hnone, -⟩ | ⟨-, -, hfield⟩
            · rw [hnone] at hi
              cases hi
            · exact hfield i hi

/-- The rule of the fields of a kind. -/
def Kind.rule (k : Kind) (field : String) (s : Setting) : Except (List Issue) Content :=
  match k with
  | .path => (pathRule field s).map .path
  | .suffix => (suffixRule field s).map .path
  | .paths => (pathsRule field s).map .paths
  | .policy => (policyRule field s).map .policy
  | .text => (textRule field s).map .text
  | .optionalText => (optionalRule field s).map .optionalText

/-- A rule reads a setting to the content that the fields of its kind hold then, or they do not take it and all violations
are of the field. -/
def Kind.Reads (k : Kind) (field : String) (s : Setting) : Prop :=
  (∃ x, k.Takes s x ∧ k.rule field s = .ok x) ∨
    (∀ x, ¬k.Takes s x) ∧ ∃ issues, k.rule field s = .error issues ∧ OfField field issues

/-- So does a rule that takes just the texts. -/
theorem reads_of_text {k : Kind} (wrap : String → Content) (htakes : ∀ x, k.Takes s x ↔ ∃ t, s.Spells t ∧ wrap t = x)
    (hrule : k.rule field s = (textRule field s).map wrap) : k.Reads field s := by
  rw [Kind.Reads, hrule]
  rcases textRule_cases field s with ⟨t, ht, hok⟩ | ⟨hno, v, herror⟩
  · rw [hok]
    exact Or.inl ⟨_, (htakes _).2 ⟨t, ht, rfl⟩, rfl⟩
  · rw [herror]
    refine Or.inr ⟨fun x hx => ?_, _, rfl, ofField_issue field v⟩
    obtain ⟨t, ht, -⟩ := (htakes x).1 hx
    exact hno t ht

theorem reads_suffix (field : String) (s : Setting) : Kind.suffix.Reads field s := by
  unfold Kind.Reads Kind.rule suffixRule
  dsimp only
  rcases textRule_cases field s with ⟨t, ht, hok⟩ | ⟨hno, v, herror⟩
  · rw [hok]
    dsimp only
    split_ifs with hdot
    · obtain ⟨rest, hrest⟩ := List.head?_eq_some_iff.1 (eq_of_beq hdot)
      exact Or.inl ⟨_, .suffix ht ⟨rest, hrest.symm⟩, rfl⟩
    · refine Or.inr ⟨fun x hx => hdot ?_, _, rfl, ofField_issue field _⟩
      cases hx with
      | suffix hs hd =>
          obtain ⟨rest, hrest⟩ := hd
          rw [ht.unique hs, ← hrest]
          rfl
  · rw [herror]
    refine Or.inr ⟨fun x hx => ?_, _, rfl, ofField_issue field v⟩
    cases hx with
    | suffix hs _ => exact hno _ hs

theorem reads_paths (field : String) (s : Setting) : Kind.paths.Reads field s := by
  cases s with
  | list items =>
      have hrule : Kind.paths.rule field (.list items) = (if (itemIssues field items 0).isEmpty
          then .ok ((items.map Setting.asText).filterMap fun r => r.toOption.map ofText)
          else .error (itemIssues field items 0) : Except (List Issue) (List Pathname)).map .paths := rfl
      rw [Kind.Reads, hrule]
      rcases itemIssues_cases field items 0 with ⟨ts, hts, hnone, hpaths⟩ | ⟨hno, hissues⟩
      · rw [hnone, hpaths]
        exact Or.inl ⟨_, .paths hts, rfl⟩
      · rw [if_neg fun hempty => hissues.1 (List.isEmpty_iff.1 hempty)]
        refine Or.inr ⟨fun x hx => ?_, _, rfl, hissues⟩
        cases hx with
        | paths hs => exact hno _ hs
  | _ => exact Or.inr ⟨nofun, _, rfl, ofField_issue field _⟩

theorem reads_policy (field : String) (s : Setting) : Kind.policy.Reads field s := by
  unfold Kind.Reads Kind.rule policyRule
  dsimp only
  split
  · exact Or.inl ⟨_, .policy .rebuild, rfl⟩
  · exact Or.inl ⟨_, .policy .fail, rfl⟩
  · next hrebuild hfail =>
      refine Or.inr ⟨fun x hx => ?_, _, rfl, ofField_issue field _⟩
      cases hx with
      | policy p =>
          cases p with
          | rebuild => exact hrebuild rfl
          | fail => exact hfail rfl

theorem Kind.reads (k : Kind) (field : String) (s : Setting) : k.Reads field s := by
  cases k with
  | path =>
      refine reads_of_text (fun t => .path (ofText t)) (fun x => ⟨fun hx => ?_, ?_⟩) ?_
      · cases hx with
        | path hs => exact ⟨_, hs, rfl⟩
      · rintro ⟨t, ht, rfl⟩
        exact .path ht
      · unfold rule pathRule
        cases textRule field s <;> rfl
  | suffix => exact reads_suffix field s
  | paths => exact reads_paths field s
  | policy => exact reads_policy field s
  | text =>
      refine reads_of_text .text (fun x => ⟨fun hx => ?_, ?_⟩) rfl
      · cases hx with
        | text hs => exact ⟨_, hs, rfl⟩
      · rintro ⟨t, ht, rfl⟩
        exact .text ht
  | optionalText =>
      by_cases hnull : s = .null
      · subst hnull
        exact Or.inl ⟨_, .nothing, rfl⟩
      · refine reads_of_text (fun t => .optionalText (some t)) (fun x => ⟨fun hx => ?_, ?_⟩) ?_
        · cases hx with
          | nothing => exact absurd rfl hnull
          | something hs => exact ⟨_, hs, rfl⟩
        · rintro ⟨t, ht, rfl⟩
          exact .something ht
        · unfold rule optionalRule
          dsimp only
          split
          · exact absurd rfl hnull
          · cases textRule field s <;> rfl

theorem word_injective : Function.Injective CorruptPolicy.word := by
  intro p p' h
  cases p <;> cases p' <;> revert h <;> decide

theorem Kind.Takes.unique {k : Kind} (h : k.Takes s x) (h' : k.Takes s y) : x = y := by
  cases h with
  | path hs =>
      cases h' with
      | path hs' => rw [hs.unique hs']
  | suffix hs =>
      cases h' with
      | suffix hs' => rw [hs.unique hs']
  | paths hs =>
      cases h' with
      | paths hs' => rw [List.right_unique_forall₂' @Setting.Spells.unique hs hs']
  | policy p =>
      generalize hw : p.word = word at h'
      cases h' with
      | policy p' =>
          rw [word_injective hw]
  | text hs =>
      cases h' with
      | text hs' => rw [hs.unique hs']
  | nothing =>
      cases h' with
      | nothing => rfl
      | something hs' => cases hs'
  | something hs =>
      cases h' with
      | nothing => cases hs
      | something hs' => rw [hs.unique hs']

/-! ### Fields -/

namespace Field

variable {f : Field} {value : Option Setting}

theorem Holds.unique (h : f.Holds value x) (h' : f.Holds value y) : x = y := by
  cases h with
  | default =>
      cases h'
      rfl
  | given hs =>
      cases h' with
      | given hs' => exact hs.unique hs'

theorem Holds.not_refuses (h : f.Holds value x) : ¬f.Refuses value := by
  rintro ⟨s, rfl, hno⟩
  cases h with
  | given hs => exact hno _ hs

/-- What is read of a field, with the violations. -/
def read (f : Field) (settings : Settings) : Content × List Issue :=
  readField settings f.name f.default (f.kind.rule f.name)

/-- A field holds what is read of it, or refuses its setting, and then all violations are of the field. -/
theorem read_cases (f : Field) (settings : Settings) :
    (f.Holds (settings.lookup f.name) (f.read settings).1 ∧ (f.read settings).2 = []) ∨
      f.Refuses (settings.lookup f.name) ∧ OfField f.name (f.read settings).2 := by
  unfold read readField
  cases settings.lookup f.name with
  | none => exact Or.inl ⟨.default, rfl⟩
  | some s =>
      dsimp only
      rcases f.kind.reads f.name s with ⟨x, hx, hok⟩ | ⟨hno, issues, herror, hissues⟩
      · rw [hok]
        exact Or.inl ⟨.given hx, rfl⟩
      · rw [herror]
        exact Or.inr ⟨⟨s, rfl, hno⟩, hissues⟩

theorem read_congr (h : settings.lookup f.name = settings'.lookup f.name) : f.read settings = f.read settings' := by
  rw [read, read, readField, readField, h]

end Field

/-- The violations of all fields, in their order. -/
def issuesOf (settings : Settings) : List Issue := fields.flatMap fun f => (f.read settings).2

theorem readField_map (wrap : α → β) (default : α) (rule : Setting → Except (List Issue) α) :
    readField settings field (wrap default) (fun s => (rule s).map wrap) =
      (readField settings field default rule).map wrap id := by
  unfold readField
  cases settings.lookup field with
  | none => rfl
  | some s =>
      dsimp only
      cases rule s <;> rfl

/-- Settings come to the configuration that has in each field what is read of it, or to the violations of all fields. -/
theorem ofSettings_eq (hroot : readField settings "project_root" workingDirectory (rootRule workingDirectory "project_root") =
    (root, [])) :
    ∃ c, c.projectRoot = root ∧ (∀ f ∈ fields, f.get c = (f.read settings).1) ∧ ofSettings workingDirectory settings =
      if (issuesOf settings).isEmpty then .ok c else .error (issuesOf settings) := by
  have hpath (field default : String) (get : Config → Content) : Field.read ⟨field, .path, .path (ofText default), get⟩ settings =
      (readField settings field (ofText default) (pathRule field)).map Content.path id :=
    readField_map Content.path (ofText default) (pathRule field)
  have hsuffix (field default : String) (get : Config → Content) :
      Field.read ⟨field, .suffix, .path (ofText default), get⟩ settings =
      (readField settings field (ofText default) (suffixRule field)).map Content.path id :=
    readField_map Content.path (ofText default) (suffixRule field)
  have hpaths (field : String) (get : Config → Content) : Field.read ⟨field, .paths, .paths [], get⟩ settings =
      (readField settings field [] (pathsRule field)).map Content.paths id :=
    readField_map Content.paths [] (pathsRule field)
  have hpolicy (field : String) (get : Config → Content) : Field.read ⟨field, .policy, .policy .rebuild, get⟩ settings =
      (readField settings field .rebuild (policyRule field)).map Content.policy id :=
    readField_map Content.policy .rebuild (policyRule field)
  have htext (field default : String) (get : Config → Content) : Field.read ⟨field, .text, .text default, get⟩ settings =
      (readField settings field default (textRule field)).map Content.text id :=
    readField_map Content.text default (textRule field)
  have hoptional (field : String) (get : Config → Content) :
      Field.read ⟨field, .optionalText, .optionalText none, get⟩ settings =
      (readField settings field none (optionalRule field)).map Content.optionalText id :=
    readField_map Content.optionalText none (optionalRule field)
  refine ⟨?c, ?root, ?contents, ?made⟩
  case made =>
    unfold ofSettings
    rw [hroot]
    simp only [issuesOf, fields, List.flatMap_cons, List.flatMap_nil, hpath, hsuffix, hpaths, hpolicy, htext, hoptional,
      List.nil_append, List.append_nil, List.append_assoc, Prod.map_snd, id_eq]
    rfl
  case root => rfl
  case contents =>
    simp only [fields, List.forall_mem_cons, hpath, hsuffix, hpaths, hpolicy, htext, hoptional]
    exact ⟨rfl, rfl, rfl, rfl, rfl, rfl, rfl, rfl, rfl, rfl, rfl, rfl, nofun⟩

/-- Two configurations with the same root and the same contents of all fields are the same. -/
theorem eq_of_contents (hroot : c.projectRoot = c'.projectRoot) (h : ∀ f ∈ fields, f.get c = f.get c') : c = c' := by
  cases c
  cases c'
  simp only [fields, List.forall_mem_cons, Content.path.injEq, Content.paths.injEq, Content.policy.injEq, Content.text.injEq,
    Content.optionalText.injEq] at h
  simp_all only

/-- Settings come to the configuration in which each field holds what its setting gives it, or some field refuses its setting,
and the violations are of just the fields that do. -/
theorem ofSettings_cases {value : String → Option Setting}
    (hroot : readField settings "project_root" workingDirectory (rootRule workingDirectory "project_root") = (root, []))
    (hvalue : ∀ f ∈ fields, settings.lookup f.name = value f.name) :
    (∃ c, ofSettings workingDirectory settings = .ok c ∧ c.projectRoot = root ∧
      ∀ f ∈ fields, f.Holds (value f.name) (f.get c)) ∨
    ∃ issues, ofSettings workingDirectory settings = .error issues ∧ (∃ f ∈ fields, f.Refuses (value f.name)) ∧
      ∀ field, (∃ i ∈ issues, i.field = some field) ↔ ∃ f ∈ fields, f.name = field ∧ f.Refuses (value f.name) := by
  obtain ⟨c, hc, hcontents, heq⟩ := ofSettings_eq hroot
  have hread (f : Field) (hf : f ∈ fields) : (f.Holds (value f.name) (f.read settings).1 ∧ (f.read settings).2 = []) ∨
      f.Refuses (value f.name) ∧ OfField f.name (f.read settings).2 := by
    rw [← hvalue f hf]
    exact f.read_cases settings
  rw [heq]
  by_cases hsome : ∃ f ∈ fields, f.Refuses (value f.name)
  · have hne : issuesOf settings ≠ [] := by
      obtain ⟨f, hf, hrefuses⟩ := hsome
      rcases hread f hf with ⟨hholds, -⟩ | ⟨-, hissues, -⟩
      · exact absurd hrefuses hholds.not_refuses
      · exact fun hnil => hissues (List.flatMap_eq_nil_iff.1 hnil f hf)
    rw [if_neg fun hempty => hne (List.isEmpty_iff.1 hempty)]
    refine Or.inr ⟨_, rfl, hsome, fun field => ⟨?_, ?_⟩⟩
    · rintro ⟨i, hi, hfield⟩
      obtain ⟨f, hf, hi⟩ := List.mem_flatMap.1 hi
      rcases hread f hf with ⟨-, hnil⟩ | ⟨hrefuses, -, hall⟩
      · rw [hnil] at hi
        cases hi
      · exact ⟨f, hf, Option.some.inj ((hall i hi).symm.trans hfield), hrefuses⟩
    · rintro ⟨f, hf, rfl, hrefuses⟩
      rcases hread f hf with ⟨hholds, -⟩ | ⟨-, hissues, hall⟩
      · exact absurd hrefuses hholds.not_refuses
      · obtain ⟨i, hi⟩ := List.exists_mem_of_ne_nil _ hissues
        exact ⟨i, List.mem_flatMap.2 ⟨f, hf, hi⟩, hall i hi⟩
  · have hholds (f : Field) (hf : f ∈ fields) := (hread f hf).resolve_right fun ⟨hrefuses, _⟩ => hsome ⟨f, hf, hrefuses⟩
    have hnil : issuesOf settings = [] := List.flatMap_eq_nil_iff.2 fun f hf => (hholds f hf).2
    rw [if_pos (List.isEmpty_iff.2 hnil)]
    refine Or.inl ⟨c, rfl, hc, fun f hf => ?_⟩
    rw [hcontents f hf]
    exact (hholds f hf).1

/-- Settings that give the same root and the same for each field come to the same. -/
theorem ofSettings_congr (hroot : readField settings "project_root" workingDirectory (rootRule workingDirectory "project_root") =
    (root, [])) (hroot' : readField settings' "project_root" workingDirectory (rootRule workingDirectory "project_root") =
    (root, [])) (hsame : ∀ f ∈ fields, settings.lookup f.name = settings'.lookup f.name) :
    ofSettings workingDirectory settings = ofSettings workingDirectory settings' := by
  obtain ⟨c, hc, hcontents, heq⟩ := ofSettings_eq hroot
  obtain ⟨c', hc', hcontents', heq'⟩ := ofSettings_eq hroot'
  have hissues : issuesOf settings = issuesOf settings' :=
    List.flatMap_congr fun f hf => by rw [Field.read_congr (hsame f hf)]
  have hsame : c = c' := eq_of_contents (hc.trans hc'.symm) fun f hf => by
    rw [hcontents f hf, hcontents' f hf, Field.read_congr (hsame f hf)]
  rw [heq, heq', hissues, hsame]

end Config

end RequirePath
