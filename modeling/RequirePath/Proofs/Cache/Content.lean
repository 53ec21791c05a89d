import Mathlib
import RequirePath.Proofs.Cache.Events
import RequirePath.Proofs.Cache.Reload
import RequirePath.Proofs.Cache.Unreadable
import RequirePath.Proofs.Json.Fields
import RequirePath.Proofs.Json.LineEnds

/-! What the bytes of a cache file are taken for. They hold a record if they are the UTF-8 of an object that gives
both of its lists; the record is read if the document is within the bounds of the reader. Other bytes make the cache
corrupt, unless the reader stops at a bound before it comes to what is wrong. -/

namespace RequirePath

open FileSystem RequirePath.Action
open Pathname (ofText)

namespace Record

variable {field : String} {fields : Fields} {ts : List String} {r : Record}

theorem exists_map_text {items : List Value} (h : ∀ v ∈ items, ∃ s, v = .text s) : ∃ ts : List String, items = ts.map .text := by
  induction items with
  | nil => exact ⟨[], rfl⟩
  | cons v items ih =>
      obtain ⟨s, rfl⟩ := h v List.mem_cons_self
      obtain ⟨ts, rfl⟩ := ih fun w hw => h w (List.mem_cons_of_mem _ hw)
      exact ⟨s :: ts, rfl⟩

theorem texts_eq_ok_iff {items : List Value} : texts field items = .ok ts ↔ items = ts.map .text := by
  refine ⟨fun h => ?_, fun h => h ▸ texts_map_text field ts⟩
  have hall : ∀ v ∈ items, ∃ s, v = Value.text s := by
    intro v hv
    unfold texts at h
    dsimp only at h
    split_ifs at h with hissues
    rw [List.isEmpty_iff, List.filterMap_eq_nil_iff] at hissues
    obtain ⟨i, hi, rfl⟩ := List.getElem_of_mem hv
    have hnone := hissues (items[i], i) (List.mem_zipIdx_iff_getElem?.2 (List.getElem?_eq_getElem hi))
    cases hitem : items[i] with
    | text s => exact ⟨s, rfl⟩
    | _ => simp [hitem] at hnone
  obtain ⟨ts', rfl⟩ := exists_map_text hall
  rw [texts_map_text, Except.ok.injEq] at h
  rw [h]

theorem textsOf_eq_ok_iff : textsOf field fields = .ok ts ↔ Fields.get? field fields = some (.array (ts.map .text)) := by
  unfold textsOf
  split
  · next h => simp [h]
  · next items h => rw [h, texts_eq_ok_iff]; simp
  · next v hne h =>
      rw [h]
      constructor
      · intro heq
        cases heq
      · intro heq
        exact absurd (Option.some.inj heq) (hne _)

theorem ofValue_eq_ok_iff {v : Value} :
    ofValue v = .ok r ↔ ∃ fields, v = .object fields ∧
      Fields.get? loadPathsField fields = some (.array (r.loadPaths.map .text)) ∧
      Fields.get? entriesField fields = some (.array (r.entries.map .text)) := by
  simp only [← textsOf_eq_ok_iff]
  constructor
  · intro h
    unfold ofValue at h
    split at h
    · next fields =>
        refine ⟨fields, rfl, ?_⟩
        split at h
        · next hl he =>
            cases h
            exact ⟨hl, he⟩
        · cases h
        · cases h
        · cases h
    · cases h
  · rintro ⟨fields, rfl, hl, he⟩
    rw [ofValue, hl, he]

/-! ### Documents that hold a record -/

/-- The bytes hold the record: they are the UTF-8 of a document with an object, in which the last field of either name
is the list of its texts. -/
def StandsIn (digits depth : Nat) (r : Record) (bytes : List UInt8) : Prop :=
  ∃ cs fs, bytes = Utf8.encode cs ∧ Json.IsObject digits depth fs cs ∧
    Fields.get? loadPathsField fs.reverse = some (.array (r.loadPaths.map .text)) ∧
    Fields.get? entriesField fs.reverse = some (.array (r.entries.map .text))

/-- The bytes pass the bound at which the reader fails. -/
def Passes (bytes : List UInt8) : Failure → Prop
  | .tooDeep => ∃ cs, bytes = Utf8.encode cs ∧ Json.depthLimit < cs.countP Json.isOpening
  | .tooManyDigits n => ∃ cs, bytes = Utf8.encode cs ∧ Json.digitLimit < n ∧ Json.HasDigits n cs
  | _ => False

variable {path : String} {bytes : List UInt8} {digits depth : Nat}

/-- The document of bytes that hold a record, once its line ends are unified. -/
theorem StandsIn.isDocument (h : r.StandsIn digits depth bytes) :
    ∃ cs fields, Utf8.decode bytes = .ok cs ∧ Json.IsDocument digits depth (.object fields) (Text.unifyNewlines cs) ∧
      ofValue (.object fields) = .ok r := by
  obtain ⟨cs, fs, rfl, hobject, hl, he⟩ := h
  refine ⟨cs, Fields.ofList fs, Utf8.decode_encode cs, (Json.isObject_unifyNewlines.2 hobject).isDocument, ?_⟩
  exact ofValue_eq_ok_iff.2 ⟨_, rfl, by rw [Fields.get?_ofList, hl], by rw [Fields.get?_ofList, he]⟩

theorem standsIn_of_decode (h : decode path bytes = .ok r) : r.StandsIn Json.digitLimit Json.depthLimit bytes := by
  unfold decode at h
  split at h
  · cases h
  · next cs hcs =>
      dsimp only at h
      split at h
      · cases h
      · cases h
      · cases h
      · next v hv =>
          split at h
          · cases h
          · next r' hr =>
              cases h
              obtain ⟨fields, rfl, hl, he⟩ := ofValue_eq_ok_iff.1 hr
              rcases (Json.document_sound hv).object_cases with rfl | ⟨fs, rfl, hobject⟩
              · cases hl
              · rw [Fields.get?_ofList] at hl he
                exact ⟨cs, fs, (Utf8.encode_of_decode hcs).symm, Json.isObject_unifyNewlines.1 hobject, hl, he⟩

/-- The bytes that are read as a record are those that hold it within the bounds of the reader. -/
theorem decode_eq_ok_iff : decode path bytes = .ok r ↔ r.StandsIn Json.digitLimit Json.depthLimit bytes := by
  refine ⟨standsIn_of_decode, fun h => ?_⟩
  obtain ⟨cs, fields, hcs, hdocument, hr⟩ := h.isDocument
  simp only [decode, hcs, Json.document_eq_ok_iff.2 hdocument, hr]

/-- Bytes that make the cache corrupt hold no record, however many digits and brackets are admitted. -/
theorem not_standsIn_of_decode {p reason : String} (h : decode path bytes = .error (.cacheCorrupt p reason)) :
    ¬r.StandsIn digits depth bytes := by
  intro hr
  obtain ⟨cs, fields, hcs, hdocument, hvalue⟩ := hr.isDocument
  -- what holds a record is read, or stops the reader at a bound, and neither makes the cache corrupt
  rcases Json.document_complete hdocument with hread | ⟨e, hread, ⟨rfl, -⟩ | ⟨n, rfl, -⟩⟩
  · simp only [decode, hcs, hread, hvalue] at h
    cases h
  · simp only [decode, hcs, hread] at h
    cases h
  · simp only [decode, hcs, hread] at h
    cases h

/-- Bytes that are not read as a record make the cache corrupt or pass a bound. -/
theorem decode_error_cases {e : Failure} (h : decode path bytes = .error e) :
    (∃ reason, e = .cacheCorrupt path reason) ∨ Passes bytes e := by
  unfold decode at h
  split at h
  · cases h
    exact Or.inl ⟨_, rfl⟩
  · next cs hcs =>
      have hbytes := (Utf8.encode_of_decode hcs).symm
      dsimp only at h
      split at h
      · cases h
        exact Or.inl ⟨_, rfl⟩
      · next hv =>
          cases h
          exact Or.inr ⟨cs, hbytes, (Json.passes_of_document hv).of_unifyNewlines⟩
      · next n hv =>
          cases h
          exact Or.inr ⟨cs, hbytes, (Json.passes_of_document hv).of_unifyNewlines⟩
      · split at h
        · cases h
          exact Or.inl ⟨_, rfl⟩
        · cases h

end Record

namespace Cache

variable {c : Config} {h h' : Host}

theorem Rests.eq_after (hr : Rests h h') : h' = h.after h'.events := by
  have heq := hr.continues
  rw [Host.Continues, hr.files] at heq
  exact heq

/-- A rebuild gives the same on a machine that has gone on with the same files. -/
theorem rebuild_of_rests (hr : Rests h h') : (rebuild c h').1 = (rebuild c h).1 := by
  obtain ⟨events, heq⟩ := ignoresEvents_rebuild c h h'.events
  rw [hr.eq_after, heq]

/-- What a load gives by what was read and what a rebuild gives, if it is to rebuild a corrupt cache. -/
def fromRead (rebuilt : Except Failure Loaded) : Except Failure Record → Except Failure Loaded
  | .ok record => .ok (Loaded.ofRecord record)
  | .error (.cacheCorrupt _ _) => rebuilt
  | .error e => .error e

theorem useRecord_of_rebuild (hc : h.LogsToConsole) (hpolicy : c.onCorruptCache = .rebuild) (r : Except Failure Record) :
    (useRecord c r h).1 = fromRead (rebuild c h).1 r := by
  cases r with
  | ok record => rfl
  | error e =>
      cases e with
      | cacheCorrupt path reason =>
          have hnot : ¬c.onCorruptCache = .fail := by
            rw [hpolicy]
            decide
          obtain ⟨hcontinues, hfiles⟩ := within_log frame_rests part .warning
            s!"[owl:cache] {(Failure.cacheCorrupt path reason).message}; rebuilding" h hc
          rw [useRecord, if_neg hnot]
          exact rebuild_of_rests ⟨hcontinues, hfiles⟩
      | _ => rfl

theorem loadOrRebuild_of_rebuild (hc : h.LogsToConsole) (hg : IsManifest h c.gemfilePath)
    (hl : IsManifest h c.gemfileLockPath) (hu : Usable c h)
    (ht : ¬timeAt h c.cacheFilePath < timeAt h c.gemfileLockPath) (hpolicy : c.onCorruptCache = .rebuild) :
    (loadOrRebuild c h).1 = fromRead (rebuild c h).1 (readRecord c.cacheFilePath h).1 := by
  obtain ⟨s, heq, hcontinues, hidles⟩ := loadOrRebuild_of_usable hc hg hl hu ht
  have hread : (readRecord c.cacheFilePath s).1 = (readRecord c.cacheFilePath h).1 := by
    simp only [readRecord, lookOrFail, hidles.1, hcontinues.workingDirectory]
  rw [heq, readOrRebuild_eq, useRecord_of_rebuild (hcontinues.logsToConsole hc) hpolicy, hread,
    rebuild_of_rests ⟨hcontinues, hidles.1⟩]

theorem readRecord_error_cases {bytes : List UInt8} {e : Failure}
    (hnul : Pathname.holdsNul c.cacheFilePath.spelling = false)
    (hread : h.files.read h.workingDirectory c.cacheFilePath.spelling = .ok bytes)
    (he : (readRecord c.cacheFilePath h).1 = .error e) :
    (∃ reason, e = .cacheCorrupt c.cacheFilePath.display reason) ∧
      (∀ (digits depth : Nat) (record : Record), ¬record.StandsIn digits depth bytes) ∨ Record.Passes bytes e := by
  rw [readRecord_of_read hnul hread] at he
  rcases Record.decode_error_cases he with ⟨reason, rfl⟩ | hpasses
  · exact Or.inl ⟨⟨reason, rfl⟩, fun digits depth record => Record.not_standsIn_of_decode he⟩
  · exact Or.inr hpasses

/-- If a corrupt cache can be rebuilt, a load fails where the bytes pass a bound, and nowhere else. -/
theorem fromRead_error_iff {bytes : List UInt8} {e : Failure} (l : Loaded)
    (hnul : Pathname.holdsNul c.cacheFilePath.spelling = false)
    (hread : h.files.read h.workingDirectory c.cacheFilePath.spelling = .ok bytes) :
    fromRead (.ok l) (readRecord c.cacheFilePath h).1 = .error e ↔
      (readRecord c.cacheFilePath h).1 = .error e ∧ Record.Passes bytes e := by
  cases hresult : (readRecord c.cacheFilePath h).1 with
  | ok record =>
      constructor
      · intro heq
        cases heq
      · rintro ⟨heq, -⟩
        cases heq
  | error e' =>
      rcases readRecord_error_cases hnul hread hresult with ⟨⟨reason, rfl⟩, -⟩ | hpasses
      · constructor
        · intro heq
          cases heq
        · rintro ⟨heq, hfalse⟩
          cases heq
          exact hfalse.elim
      · have hfail : fromRead (.ok l) (.error e') = .error e' := by
          cases e' with
          | cacheCorrupt path reason => exact hpasses.elim
          | _ => rfl
        rw [hfail]
        constructor
        · intro heq
          cases heq
          exact ⟨rfl, hpasses⟩
        · rintro ⟨heq, -⟩
          cases heq
          rfl

/-- What the bytes of a cache file that is read are taken for. They are read as a record exactly if they hold it
within the bounds of the reader. If the cache is found corrupt, they hold no record; any other failure is that of a
bound that they pass. So a load that is to rebuild a corrupt cache, and can, fails exactly at such a bound. -/
theorem readRecord_classifies (c : Config) (h : Host) (bytes : List UInt8)
    (hnul : Pathname.holdsNul c.cacheFilePath.spelling = false)
    (hread : h.files.read h.workingDirectory c.cacheFilePath.spelling = .ok bytes) :
    (∀ record : Record, (readRecord c.cacheFilePath h).1 = .ok record ↔
      record.StandsIn Json.digitLimit Json.depthLimit bytes) ∧
    (∀ e, (readRecord c.cacheFilePath h).1 = .error e →
      (∃ reason, e = .cacheCorrupt c.cacheFilePath.display reason) ∧
        (∀ (digits depth : Nat) (record : Record), ¬record.StandsIn digits depth bytes) ∨ Record.Passes bytes e) ∧
    (h.LogsToConsole → IsManifest h c.gemfilePath → IsManifest h c.gemfileLockPath → Usable c h →
      ¬timeAt h c.cacheFilePath < timeAt h c.gemfileLockPath → c.onCorruptCache = .rebuild →
      ∀ l, (rebuild c h).1 = .ok l → ∀ e,
        (loadOrRebuild c h).1 = .error e ↔ (readRecord c.cacheFilePath h).1 = .error e ∧ Record.Passes bytes e) := by
  refine ⟨fun record => ?_, fun e he => readRecord_error_cases hnul hread he, ?_⟩
  · rw [readRecord_of_read hnul hread]
    exact Record.decode_eq_ok_iff
  · intro hc hg hl hu ht hpolicy l hrebuild e
    rw [loadOrRebuild_of_rebuild hc hg hl hu ht hpolicy, hrebuild]
    exact fromRead_error_iff l hnul hread

/-- The project of the sample with a cache file that is later than its lock file. -/
def sampleCached (bytes : List UInt8) : Host :=
  let t : Timestamp := ⟨20, 0⟩
  let fs := Store.sampleFiles.put [ofText ".owl_cache", ofText "app"] (Node.newDirectory t)
  { Store.sampleHost with
    files := fs.put [ofText "load_paths.json", ofText ".owl_cache", ofText "app"] (Node.newFile bytes t) }

/-- The project is in order, and the cache file is read, whatever is in it. -/
theorem checks_sampleCached (bytes : List UInt8) :
    (checkManifest Store.sampleConfig (sampleCached bytes)).1 = .ok () ∧
      (ensureCacheFile Store.sampleConfig (sampleCached bytes)).1 = .ok true ∧
      (sampleCached bytes).files.read (sampleCached bytes).workingDirectory Store.sampleConfig.cacheFilePath.spelling =
        .ok bytes := by
  refine ⟨?_, ?_, ?_⟩ <;> cbv

theorem read_sampleCached (bytes : List UInt8) :
    (sampleCached bytes).files.read (sampleCached bytes).workingDirectory Store.sampleConfig.cacheFilePath.spelling =
      .ok bytes :=
  (checks_sampleCached bytes).2.2

theorem isManifest_sampleCached (bytes : List UInt8) :
    IsManifest (sampleCached bytes) Store.sampleConfig.gemfilePath ∧
      IsManifest (sampleCached bytes) Store.sampleConfig.gemfileLockPath := by
  obtain ⟨hcheck, -⟩ := checks_sampleCached bytes
  exact (checkManifest_ok (Prod.ext hcheck rfl : checkManifest _ (sampleCached bytes) = (.ok (), _))).2

theorem usable_sampleCached (bytes : List UInt8) : Usable Store.sampleConfig (sampleCached bytes) := by
  obtain ⟨-, hensure, -⟩ := checks_sampleCached bytes
  exact (ensureCacheFile_true (Prod.ext hensure rfl : ensureCacheFile _ (sampleCached bytes) = (.ok true, _))).2

theorem readRecord_sampleCached {cs : List Char} (hcs : '\r' ∉ cs) :
    (Json.document cs = .error .tooDeep →
      (readRecord Store.sampleConfig.cacheFilePath (sampleCached (Utf8.encode cs))).1 = .error .tooDeep) ∧
    ∀ n, Json.document cs = .error (.tooManyDigits n) →
      (readRecord Store.sampleConfig.cacheFilePath (sampleCached (Utf8.encode cs))).1 = .error (.tooManyDigits n) := by
  rw [readRecord_of_read (by decide) (read_sampleCached _)]
  constructor
  · intro h
    simp only [Record.decode, Utf8.decode_encode, Text.unifyNewlines_eq_self hcs, h]
  · intro n h
    simp only [Record.decode, Utf8.decode_encode, Text.unifyNewlines_eq_self hcs, h]

/-- Brackets that open deeper than the reader admits. -/
def sampleBrackets : List Char := List.replicate 3000 '['

theorem document_sampleBrackets : Json.document sampleBrackets = .error .tooDeep := by
  rw [← List.append_nil sampleBrackets]
  exact Json.document_brackets (by decide) []

/-- An integer of one digit more than the reader admits. -/
def sampleDigits : List Char := List.replicate (Json.digitLimit + 1) '1'

theorem document_sampleDigits : Json.document sampleDigits = .error (.tooManyDigits (Json.digitLimit + 1)) :=
  Json.document_digits (Nat.lt_succ_self _)

theorem eq_ok_of_toOption {ε α : Type} {r : Except ε α} {a : α} (h : r.toOption = some a) : r = .ok a := by
  cases r with
  | error e => cases h
  | ok b => exact congrArg Except.ok (Option.some.inj h)

/-- Brackets in place of a record: the load fails, though the cache is to be rebuilt and the load-path command works. -/
theorem readRecord_classifies_sample :
    let h := sampleCached (Utf8.encode sampleBrackets)
    (readRecord Store.sampleConfig.cacheFilePath h).1 = .error .tooDeep ∧
      Store.sampleConfig.onCorruptCache = .rebuild ∧
      (rebuild Store.sampleConfig h).1 = .ok ⟨[ofText "/lib"], [ofText "/lib/x.rb"], true⟩ ∧
      (loadOrRebuild Store.sampleConfig h).1 = .error .tooDeep := by
  intro h
  have hnul : Pathname.holdsNul Store.sampleConfig.cacheFilePath.spelling = false := by decide
  have hread := read_sampleCached (Utf8.encode sampleBrackets)
  have hlines : '\r' ∉ sampleBrackets := fun hmem => absurd (List.eq_of_mem_replicate hmem) (by decide)
  have hrecord : (readRecord Store.sampleConfig.cacheFilePath h).1 = .error .tooDeep :=
    (readRecord_sampleCached hlines).1 document_sampleBrackets
  have hrebuild : (rebuild Store.sampleConfig h).1 = .ok ⟨[ofText "/lib"], [ofText "/lib/x.rb"], true⟩ :=
    eq_ok_of_toOption (by decide +kernel)
  obtain ⟨-, herror, hload⟩ := readRecord_classifies Store.sampleConfig h _ hnul hread
  have hpasses : Record.Passes (Utf8.encode sampleBrackets) .tooDeep := by
    rcases herror _ hrecord with ⟨⟨reason, he⟩, -⟩ | hpasses
    · cases he
    · exact hpasses
  obtain ⟨hg, hl⟩ := isManifest_sampleCached (Utf8.encode sampleBrackets)
  have hlater : ¬timeAt h Store.sampleConfig.cacheFilePath < timeAt h Store.sampleConfig.gemfileLockPath := by decide +kernel
  refine ⟨hrecord, rfl, hrebuild, ?_⟩
  have hiff := hload (fun _ hs => absurd hs List.not_mem_nil) hg hl (usable_sampleCached _) hlater rfl _ hrebuild .tooDeep
  exact hiff.2 ⟨hrecord, hpasses⟩

/-- Not all bytes are read as a record or make the cache corrupt. -/
theorem readRecord_unclassified :
    ¬∀ (c : Config) (h : Host) (bytes : List UInt8), Pathname.holdsNul c.cacheFilePath.spelling = false →
      h.files.read h.workingDirectory c.cacheFilePath.spelling = .ok bytes →
      (∃ record, (readRecord c.cacheFilePath h).1 = .ok record) ∨
        ∃ path reason, (readRecord c.cacheFilePath h).1 = .error (.cacheCorrupt path reason) := by
  intro hall
  have hnul : Pathname.holdsNul Store.sampleConfig.cacheFilePath.spelling = false := by decide
  have hread := read_sampleCached (Utf8.encode sampleDigits)
  have hlines : '\r' ∉ sampleDigits := fun hmem => absurd (List.eq_of_mem_replicate hmem) (by decide)
  have hrecord : (readRecord Store.sampleConfig.cacheFilePath (sampleCached (Utf8.encode sampleDigits))).1 =
      .error (.tooManyDigits (Json.digitLimit + 1)) :=
    (readRecord_sampleCached hlines).2 _ document_sampleDigits
  rcases hall _ _ _ hnul hread with ⟨record, heq⟩ | ⟨path, reason, heq⟩
  · rw [hrecord] at heq
    cases heq
  · rw [hrecord] at heq
    cases heq

end Cache

end RequirePath
