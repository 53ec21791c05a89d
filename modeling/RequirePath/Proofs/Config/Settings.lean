import RequirePath.Proofs.Cache.Content
import RequirePath.Proofs.Config.Load

/-! Settings files that give no settings. A file that is not there, that may not be read, or that holds no section of
settings leaves the configuration as it is without a file. What breaks the loading in its stead is told exactly: the look for
the file is refused, its bytes are no text, or a name of its section is no text. -/

namespace RequirePath

namespace Config

open FileSystem RequirePath.Action
open Pathname (ofText)

variable {h h' k : Host} {path : LexicalPath} {root file : Option String} {overrides settings : Settings} {e : Failure}
variable {bytes : List UInt8} {d : Yaml.Document} {inner : List (Nat × Nat)}

/-- The path of the settings file: the one that is given, or the one in the project. -/
def settingsPath (root file : Option String) (h : Host) : LexicalPath :=
  match file, root with
  | some f, _ => LexicalPath.ofText f
  | none, some r => (LexicalPath.ofText r).join settingsFile
  | none, none => h.workingPath.join settingsFile

/-- The configuration of settings of a file, with those of the layers above it. -/
def ofLayers (root : Option String) (overrides settings : Settings) (h : Host) : Except Failure Config :=
  (ofSettings h.workingPath (layers root overrides (ofEnvironment h.environment) settings)).mapError .invalidSettings

/-- There is a file at a path, and its bytes can be read. -/
def Stored (path : LexicalPath) (h : Host) (bytes : List UInt8) : Prop :=
  h.files.isThere h.workingDirectory path.spelling = .ok true ∧
    h.files.read h.workingDirectory path.spelling = .ok bytes

/-- A document is a table with a table of settings under the name of the section. -/
def HasSection (d : Yaml.Document) (inner : List (Nat × Nat)) : Prop :=
  ∃ fields id, d.datum d.root = .table fields ∧ d.field? "resolver" fields = some id ∧ d.datum id = .table inner

/-- What breaks the loading of settings. -/
inductive Breaks (path : LexicalPath) (h : Host) : Failure → Prop
  /-- The system refuses to look for the file, and not because it is not there. -/
  | refused {errno : Errno} (hlook : h.files.isThere h.workingDirectory path.spelling = .error errno) :
      Breaks path h (.system errno path.spelling.quoted)
  /-- The bytes of the file are no text, and the reader comes to them. -/
  | undecodable {bytes : List UInt8} {fault : Yaml.Fault} {e : Failure} (hb : Stored path h bytes)
      (hu : ∀ cs, Utf8.decode bytes ≠ .ok cs) (hd : Yaml.Document.read (.ofBytes bytes) = .error fault)
      (he : failureOf fault = some e) : Breaks path h e
  /-- A name in the section is no text. -/
  | unnamed {bytes : List UInt8} {d : Yaml.Document} {inner : List (Nat × Nat)} (hb : Stored path h bytes)
      (hd : Yaml.Document.read (.ofBytes bytes) = .ok d) (hs : HasSection d inner)
      (hn : ∃ field ∈ inner, ∀ name, d.datum field.1 ≠ .text name) : Breaks path h .wrongType

/-- The settings file, if it is a text, is read to a value or is malformed. -/
def ReadsTexts (path : LexicalPath) (h : Host) : Prop :=
  ∀ bytes cs fault, Stored path h bytes → Utf8.decode bytes = .ok cs →
    Yaml.Document.read (.ofBytes bytes) = .error fault → failureOf fault = none

/-! ### Sections -/

/-- The settings of a section whose names are all texts; one with another name breaks it. -/
theorem ofSection_of_hasSection (hs : HasSection d inner) :
    ((∃ field ∈ inner, ∀ name, d.datum field.1 ≠ .text name) ∧ ofSection d = .error .wrongType) ∨
      (¬∃ field ∈ inner, ∀ name, d.datum field.1 ≠ .text name) ∧ ∃ settings, ofSection d = .ok (some settings) := by
  obtain ⟨fields, id, hroot, hfield, hinner⟩ := hs
  obtain ⟨named, hnamed, hsection⟩ : ∃ named : Nat × Nat → Option (String × Setting),
      (∀ field, (named field).isSome ↔ ∃ name, d.datum field.1 = .text name) ∧
      ofSection d = if (inner.filterMap named).length = inner.length then .ok (some (inner.filterMap named).reverse)
        else .error .wrongType := by
    refine ⟨_, fun field => ?_, by unfold ofSection; rw [hroot]; dsimp only; rw [hfield]; dsimp only; rw [hinner]⟩
    cases d.datum field.1 <;> simp
  by_cases hall : ∀ field ∈ inner, (named field).isSome
  · refine Or.inr ⟨?_, _, by rw [hsection, if_pos (List.filterMap_length_eq_length.2 hall)]⟩
    rintro ⟨field, hfield, hno⟩
    obtain ⟨name, hname⟩ := (hnamed field).1 (hall field hfield)
    exact hno name hname
  · refine Or.inl ⟨?_, by rw [hsection, if_neg fun hlen => hall (List.filterMap_length_eq_length.1 hlen)]⟩
    obtain ⟨field, hfield⟩ := Classical.not_forall.1 hall
    obtain ⟨hmem, hno⟩ := Classical.not_imp.1 hfield
    exact ⟨field, hmem, fun name hname => hno ((hnamed field).2 ⟨name, hname⟩)⟩

/-- Without a section there are no settings. -/
theorem ofSection_of_not_hasSection (hs : ∀ inner, ¬HasSection d inner) :
    ofSection d = .ok none ∨ ofSection d = .ok (some []) := by
  unfold ofSection
  cases hroot : d.datum d.root with
  | table fields =>
      dsimp only
      cases hfield : d.field? "resolver" fields with
      | none => exact Or.inr rfl
      | some id =>
          dsimp only
          cases hinner : d.datum id with
          | table inner => exact absurd ⟨fields, id, hroot, hfield, hinner⟩ (hs inner)
          | _ => exact Or.inl rfl
  | _ => exact Or.inl rfl

theorem not_isVoid_of_hasSection (hs : HasSection d inner) : (d.datum d.root).isVoid = false := by
  obtain ⟨fields, id, hroot, hfield, -⟩ := hs
  rw [hroot]
  cases fields with
  | nil => cases hfield
  | cons field fields => rfl

/-! ### Settings files -/

theorem isThere_eq (path : LexicalPath) (h : Host) : Action.isThere path h =
    ((h.files.isThere h.workingDirectory path.spelling).mapError fun e => .system e path.spelling.quoted, h) := rfl

theorem ignore_eq (message : String) (h : Host) : ignore message h = (.ok [], h.log part .warning message true) := rfl

/-- What is made of the value that a settings file holds. -/
def settingsOf (path : LexicalPath) (d : Yaml.Document) : Action Settings :=
  if (d.datum d.root).isVoid then pure []
  else
    match ofSection d with
    | .error e => fail e
    | .ok (some settings) => pure settings
    | .ok none => ignore s!"Ignoring settings in {path.display}: 'resolver' must be a mapping"

theorem readSettings_of_refused {errno : Errno} (hlook : h.files.isThere h.workingDirectory path.spelling = .error errno) :
    readSettings path h = (.error (.system errno path.spelling.quoted), h) := by
  have hthere := isThere_eq path h
  rw [hlook] at hthere
  rw [readSettings, bind_of_error hthere]

theorem readSettings_of_absent (hlook : h.files.isThere h.workingDirectory path.spelling = .ok false) :
    readSettings path h = (.ok [], h) := by
  have hthere := isThere_eq path h
  rw [hlook] at hthere
  rw [readSettings, bind_of_ok hthere]
  rfl

/-- What a file that is there comes to is decided by its bytes. -/
theorem readSettings_of_present (hlook : h.files.isThere h.workingDirectory path.spelling = .ok true) :
    readSettings path h =
      (match h.files.read h.workingDirectory path.spelling with
      | .error e => ignore (s!"Failed to read settings from {path.display}: " ++ e.message path.spelling.quoted)
      | .ok bytes =>
        match Yaml.Document.read (.ofBytes bytes) with
        | .error fault =>
          match failureOf fault with
          | some e => fail e
          | none => ignore s!"Failed to read settings from {path.display}: malformed"
        | .ok d => settingsOf path d) h := by
  have hthere := isThere_eq path h
  rw [hlook] at hthere
  rw [readSettings, bind_of_ok hthere]
  rfl

theorem readSettings_of_fault {fault : Yaml.Fault} (hb : Stored path h bytes)
    (hd : Yaml.Document.read (.ofBytes bytes) = .error fault) :
    readSettings path h =
      (match failureOf fault with
      | some e => fail e
      | none => ignore s!"Failed to read settings from {path.display}: malformed") h := by
  rw [readSettings_of_present hb.1, hb.2]
  dsimp only
  rw [hd]

theorem readSettings_of_value (hb : Stored path h bytes) (hd : Yaml.Document.read (.ofBytes bytes) = .ok d) :
    readSettings path h = settingsOf path d h := by
  rw [readSettings_of_present hb.1, hb.2]
  dsimp only
  rw [hd]

/-- A file with a section gives settings, or fails at a name of the section. -/
theorem settingsOf_of_hasSection (path : LexicalPath) (h : Host) (hs : HasSection d inner) :
    ((∃ field ∈ inner, ∀ name, d.datum field.1 ≠ .text name) ∧ settingsOf path d h = (.error .wrongType, h)) ∨
      (¬∃ field ∈ inner, ∀ name, d.datum field.1 ≠ .text name) ∧ ∃ settings, settingsOf path d h = (.ok settings, h) := by
  unfold settingsOf
  rw [not_isVoid_of_hasSection hs, if_neg Bool.false_ne_true]
  rcases ofSection_of_hasSection hs with ⟨hbad, hwrong⟩ | ⟨hgood, settings, hok⟩
  · rw [hwrong]
    exact Or.inl ⟨hbad, rfl⟩
  · rw [hok]
    exact Or.inr ⟨hgood, settings, rfl⟩

/-- A file without a section is left out. -/
theorem settingsOf_of_not_hasSection (path : LexicalPath) (h : Host) (hs : ∀ inner, ¬HasSection d inner) :
    settingsOf path d h = (.ok [], h) ∨ ∃ message, settingsOf path d h = ignore message h := by
  unfold settingsOf
  split_ifs
  · exact Or.inl rfl
  · rcases ofSection_of_not_hasSection hs with hnone | hempty
    · rw [hnone]
      exact Or.inr ⟨_, rfl⟩
    · rw [hempty]
      exact Or.inl rfl

theorem Breaks.readSettings_eq (hb : Breaks path h e) : readSettings path h = (.error e, h) := by
  cases hb with
  | refused hlook => exact readSettings_of_refused hlook
  | undecodable hb _ hd he =>
      rw [readSettings_of_fault hb hd, he]
      rfl
  | unnamed hb hd hs hn =>
      rw [readSettings_of_value hb hd]
      rcases settingsOf_of_hasSection path h hs with ⟨-, hwrong⟩ | ⟨hgood, -⟩
      · exact hwrong
      · exact absurd hn hgood

/-- The file holds a section of settings. -/
def GivesSection (path : LexicalPath) (h : Host) : Prop :=
  ∃ bytes d inner, Stored path h bytes ∧ Yaml.Document.read (.ofBytes bytes) = .ok d ∧ HasSection d inner

/-- The machine has gone on with the same working directory and environment. -/
def SameSurroundings (h h' : Host) : Prop :=
  h'.workingDirectory = h.workingDirectory ∧ h'.environment = h.environment

theorem sameSurroundings_of_continues (a : h.Continues h') : SameSurroundings h h' :=
  ⟨a.workingDirectory, a.environment⟩

/-- What breaks the loading breaks it at once; else there are settings, and none without a section. -/
theorem readSettings_cases (hy : ReadsTexts path h) :
    (∃ e, Breaks path h e) ∨ ∃ settings h', readSettings path h = (.ok settings, h') ∧ SameSurroundings h h' ∧
      (¬GivesSection path h → settings = []) := by
  have hsame : SameSurroundings h h := ⟨rfl, rfl⟩
  have hleft : (∃ message, readSettings path h = ignore message h) → ∃ settings h',
      readSettings path h = (.ok settings, h') ∧ SameSurroundings h h' ∧ (¬GivesSection path h → settings = []) := by
    rintro ⟨message, hread⟩
    rw [hread]
    exact ⟨[], _, ignore_eq message h, sameSurroundings_of_continues (h.log_continues part .warning message true), fun _ => rfl⟩
  cases hlook : h.files.isThere h.workingDirectory path.spelling with
  | error errno => exact Or.inl ⟨_, .refused hlook⟩
  | ok there =>
      cases there with
      | false => exact Or.inr ⟨[], h, readSettings_of_absent hlook, hsame, fun _ => rfl⟩
      | true =>
          cases hread : h.files.read h.workingDirectory path.spelling with
          | error errno =>
              exact Or.inr (hleft ⟨_, by rw [readSettings_of_present hlook, hread]⟩)
          | ok bytes =>
              have hb : Stored path h bytes := ⟨hlook, hread⟩
              cases hd : Yaml.Document.read (.ofBytes bytes) with
              | error fault =>
                  cases hf : failureOf fault with
                  | some e =>
                      refine Or.inl ⟨e, .undecodable hb (fun cs hcs => ?_) hd hf⟩
                      rw [hy bytes cs fault hb hcs hd] at hf
                      cases hf
                  | none => exact Or.inr (hleft ⟨_, by rw [readSettings_of_fault hb hd, hf]⟩)
              | ok d =>
                  rw [readSettings_of_value hb hd] at hleft ⊢
                  by_cases hs : ∃ inner, HasSection d inner
                  · obtain ⟨inner, hs⟩ := hs
                    rcases settingsOf_of_hasSection path h hs with ⟨hbad, -⟩ | ⟨-, settings, hok⟩
                    · exact Or.inl ⟨_, .unnamed hb hd hs hbad⟩
                    · exact Or.inr ⟨settings, h, hok, hsame, fun hno => absurd ⟨bytes, d, inner, hb, hd, hs⟩ hno⟩
                  · rcases settingsOf_of_not_hasSection path h fun inner hinner => hs ⟨inner, hinner⟩ with hempty | hleave
                    · exact Or.inr ⟨[], h, hempty, hsame, fun _ => rfl⟩
                    · exact Or.inr (hleft hleave)

/-! ### Loading -/

theorem Breaks.ne_invalidSettings (hb : Breaks path h e) (issues : List Issue) :
    e ≠ .invalidSettings issues := by
  cases hb with
  | refused hlook => exact nofun
  | @undecodable bytes fault e hb _ hd he =>
      rintro rfl
      cases fault <;> cases he
  | unnamed hb hd hs hn => exact nofun

theorem load_eq (root file : Option String) (overrides : Settings) (h : Host) : load root file overrides h =
    (readSettings (settingsPath root file h) >>= fun settings =>
      lookOrFail (ofLayers root overrides settings)) h := by
  cases file <;> cases root <;> rfl

theorem load_of_readSettings (hread : readSettings (settingsPath root file h) h = (.ok settings, h'))
    (hsame : SameSurroundings h h') : (load root file overrides h).1 = ofLayers root overrides settings h := by
  rw [load_eq, bind_of_ok hread, lookOrFail, ofLayers, ofLayers, Host.workingPath, Host.workingPath, hsame.1, hsame.2]

/-- A settings file breaks the loading of a configuration exactly where the system refuses to look for it, where its bytes are
no text, or where a name of its section is no text. Else there is a configuration, or settings that do not suit their fields;
and a file that cannot be read or holds no section gives what there is without a file. -/
theorem load_breaks_iff (root file : Option String) (overrides : Settings) (h : Host)
    (hy : ReadsTexts (settingsPath root file h) h) :
    (∀ e, (load root file overrides h).1 = .error e ∧ (∀ issues, e ≠ .invalidSettings issues) ↔
      Breaks (settingsPath root file h) h e) ∧
    ((∀ e, ¬Breaks (settingsPath root file h) h e) → ¬GivesSection (settingsPath root file h) h →
      (load root file overrides h).1 = ofLayers root overrides [] h) ∧
    ∀ k : Host, k.workingDirectory = h.workingDirectory → k.environment = h.environment →
      k.files.isThere k.workingDirectory (settingsPath root file k).spelling = .ok false →
        (load root file overrides k).1 = ofLayers root overrides [] h := by
  refine ⟨fun e => ⟨fun ⟨hload, hother⟩ => ?_, fun hb => ⟨?_, hb.ne_invalidSettings⟩⟩, fun hunbroken hno => ?_,
    fun k hcwd henv hlook => ?_⟩
  · rcases readSettings_cases hy with ⟨e', hb⟩ | ⟨settings, h', hread, hsame, -⟩
    · rw [load_eq, bind_of_error hb.readSettings_eq] at hload
      cases hload
      exact hb
    · rw [load_of_readSettings hread hsame, ofLayers] at hload
      cases hs : ofSettings h.workingPath (layers root overrides (ofEnvironment h.environment) settings) with
      | ok c =>
          rw [hs] at hload
          cases hload
      | error issues =>
          rw [hs] at hload
          exact absurd (Except.error.inj hload).symm (hother issues)
  · rw [load_eq, bind_of_error hb.readSettings_eq]
  · rcases readSettings_cases hy with ⟨e, hb⟩ | ⟨settings, h', hread, hsame, hnone⟩
    · exact absurd hb (hunbroken e)
    · rw [load_of_readSettings hread hsame, hnone hno]
  · rw [load_of_readSettings (readSettings_of_absent hlook) ⟨rfl, rfl⟩, ofLayers, ofLayers, Host.workingPath,
      Host.workingPath, hcwd, henv]

/-- The sample with a settings file of some bytes in a directory of some mode. -/
def settingsHost (mode : Nat) (bytes : List UInt8) : Host :=
  let t : Timestamp := ⟨10, 0⟩
  let fs := Store.sampleFiles.put [ofText ".owl", ofText "app"] ⟨.directory, mode, t⟩
  { Store.sampleHost with files := fs.put [ofText "settings.yaml", ofText ".owl", ofText "app"] (Node.newFile bytes t) }

/-- A list that does not end. -/
def unendedBytes : List UInt8 := ofText "resolver: [cache_dir"

/-- A settings file with a list that does not end gives what there is without a file. -/
theorem load_breaks_iff_sample :
    let h := settingsHost Node.directoryMode unendedBytes
    (load (some "/app") none [] h).1 = ofLayers (some "/app") [] [] h ∧
      (load (some "/app") none [] Store.sampleHost).1 = ofLayers (some "/app") [] [] h := by
  intro h
  have hthere : h.files.isThere h.workingDirectory (settingsPath (some "/app") none h).spelling = .ok true :=
    Cache.eq_ok_of_toOption (by decide +kernel)
  have hread : h.files.read h.workingDirectory (settingsPath (some "/app") none h).spelling = .ok unendedBytes :=
    Cache.eq_ok_of_toOption (by decide +kernel)
  have habsent : Store.sampleHost.files.isThere Store.sampleHost.workingDirectory
      (settingsPath (some "/app") none Store.sampleHost).spelling = .ok false :=
    Cache.eq_ok_of_toOption (by decide +kernel)
  have hd : Yaml.Document.read (.ofBytes unendedBytes) = .error .malformed :=
    Json.map_eq_error (by decide +kernel : (Yaml.Document.read (.ofBytes unendedBytes)).map (fun _ => ()) = .error .malformed)
  have hstored {bytes : List UInt8} (hb : Stored (settingsPath (some "/app") none h) h bytes) : bytes = unendedBytes :=
    Except.ok.inj (hb.2.symm.trans hread)
  obtain ⟨-, hignored, hnone⟩ := load_breaks_iff (some "/app") none [] h fun bytes cs fault' hb _ hd' => by
    rw [hstored hb, hd] at hd'
    cases hd'
    rfl
  refine ⟨hignored (fun e hb => ?_) ?_, hnone _ rfl rfl habsent⟩
  · cases hb with
    | refused hlook => cases hthere.symm.trans hlook
    | undecodable hb _ hd' he =>
        rw [hstored hb, hd] at hd'
        cases hd'
        cases he
    | unnamed hb hd' => cases (hstored hb ▸ hd').symm.trans hd
  · rintro ⟨bytes, d, inner, hb, hd', -⟩
    cases (hstored hb ▸ hd').symm.trans hd

/-- Settings that are no text give neither a configuration nor a complaint about a setting, though the machine reads
texts. -/
theorem load_breaks_at_bytes :
    ¬∀ (root file : Option String) (overrides : Settings) (h : Host), ReadsTexts (settingsPath root file h) h →
      (∃ c, (load root file overrides h).1 = .ok c) ∨
        ∃ issues, (load root file overrides h).1 = .error (.invalidSettings issues) := by
  intro hall
  have hread : (settingsHost Node.directoryMode [0xff]).files.read (settingsHost Node.directoryMode [0xff]).workingDirectory
      (settingsPath (some "/app") none (settingsHost Node.directoryMode [0xff])).spelling = .ok [0xff] :=
    Cache.eq_ok_of_toOption (by decide)
  have hload : (load (some "/app") none [] (settingsHost Node.directoryMode [0xff])).1 =
      .error (.undecodable ⟨0, 0xff, 0, .invalidStart⟩) :=
    Json.map_eq_error (by decide :
      (load (some "/app") none [] (settingsHost Node.directoryMode [0xff])).1.map (fun _ => ()) = .error _)
  have hbytes : (Utf8.decode [0xff]).toOption = none := by decide
  have htexts : ReadsTexts (settingsPath (some "/app") none (settingsHost Node.directoryMode [0xff]))
      (settingsHost Node.directoryMode [0xff]) := by
    intro bytes cs fault hb hcs _
    cases Except.ok.inj (hb.2.symm.trans hread)
    rw [hcs] at hbytes
    cases hbytes
  rcases hall (some "/app") none [] (settingsHost Node.directoryMode [0xff]) htexts with ⟨c, hc⟩ | ⟨issues, hc⟩
  · cases hload.symm.trans hc
  · cases hload.symm.trans hc

end Config

end RequirePath
