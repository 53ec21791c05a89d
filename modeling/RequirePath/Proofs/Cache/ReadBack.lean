import RequirePath.Proofs.Cache.Reload
import RequirePath.Proofs.File.LinkFree

/-! A record that is written is read back. Texts of any characters pass through the encoder, the file and the
reader unchanged, and what the path of the cache file leads to after the writing is the file that was written. -/

namespace RequirePath

open FileSystem RequirePath.Action
open Pathname (ofText)

namespace Pathname

theorem text?_ofText (s : String) : text? (ofText s) = some s := by
  rw [text?, Utf8.decode?, ofText, Utf8.decode_encode]
  exact congrArg some String.ofList_toList

theorem mapM_text?_ofText (texts : List String) : (texts.map ofText).mapM text? = some texts := by
  induction texts with
  | nil => rfl
  | cons s texts ih =>
      rw [List.map_cons, List.mapM_cons, text?_ofText, ih]
      rfl

end Pathname

namespace Loaded

theorem record?_map_ofText (loadPaths entries : List String) (rebuilt : Bool) :
    record? ⟨loadPaths.map ofText, entries.map ofText, rebuilt⟩ = some ⟨loadPaths, entries⟩ := by
  simp only [record?, Pathname.mapM_text?_ofText]
  rfl

end Loaded

namespace Cache

variable {c : Config} {l : Loaded} {h h' : Host} {bytes : List UInt8}

/-- The writing of a record ends with a move of the file that holds it to the path of the cache file. -/
theorem writeRecord_moves (hc : h.LogsToConsole) (ha : writeRecord c l h = (.ok (), h')) :
    ∃ record fs source target, l.record? = some record ∧ Pathname.holdsNul c.cacheFilePath.spelling = false ∧
      fs.resolve h'.workingDirectory false c.cacheFilePath.spelling = .ok target ∧
      Moves fs h'.files source target.location ⟨.file record.encode, Node.privateMode, h'.now⟩ ∧
      (h.files.LinkFree → fs.LinkFree) := by
  have hcontinues := writeRecord_continues hc ha
  obtain ⟨r₁, s₁, h₁, ⟨-, e, he⟩ | ⟨r₂, s₂, h₂, ⟨-, e, he⟩ | ⟨fs₁, d, name, -, -, hmade, hi⟩⟩⟩ := writeRecord_cases ha
  · cases he
  · cases he
  obtain ⟨hs₁, -⟩ := makePath_keeps h₁
  obtain ⟨hs₂, -⟩ := makePath_keeps h₂
  have hcwd : s₂.workingDirectory = h'.workingDirectory := by rw [hcontinues.workingDirectory, hs₂, hs₁]
  have hnow : s₂.now = h'.now := by rw [hcontinues.now, hs₂, hs₁]
  obtain ⟨record, fs, target, hl, hfill, ht, -, hmoves⟩ := installRecord_ok hmade hi
  dsimp only at hfill ht hmoves
  rw [hcwd] at ht
  rw [hnow] at hmoves
  obtain ⟨_, -, hmove⟩ := installRecord_some hmade hl hi
  refine ⟨record, fs, _, target, hl, (changeFiles_ok hmove).1, ht, hmoves, fun hlinks => ?_⟩
  exact hfill.adds.linkFree (makePath_linkFree (makePath_linkFree hlinks h₁) h₂) rfl

/-- What is read from the cache file after a record was written is the bytes of the record. -/
theorem eq_encode_of_read (hc : h.LogsToConsole) (ha : writeRecord c l h = (.ok (), h'))
    (hr : h'.files.read h'.workingDirectory c.cacheFilePath.spelling = .ok bytes) :
    ∃ record, l.record? = some record ∧ bytes = record.encode := by
  obtain ⟨record, fs, source, target, hl, -, ht, hmoves, -⟩ := writeRecord_moves hc ha
  obtain ⟨n, hs, -, hcontent⟩ := read_eq_ok_iff.1 hr
  rw [content_of_moves ht hmoves rfl hs, Content.file.injEq] at hcontent
  exact ⟨record, hl, hcontent.symm⟩

/-- Without links in the way the cache file can be read after a record was written. -/
theorem read_of_writeRecord (hp : c.PlainCache) (hlinks : h.files.LinkFree) (hc : h.LogsToConsole)
    (ha : writeRecord c l h = (.ok (), h')) :
    ∃ record, l.record? = some record ∧ Pathname.holdsNul c.cacheFilePath.spelling = false ∧
      h'.files.read h'.workingDirectory c.cacheFilePath.spelling = .ok record.encode := by
  obtain ⟨record, fs, source, target, hl, hnul, ht, hmoves, hfs⟩ := writeRecord_moves hc ha
  rw [hp.cacheFilePath_eq] at hnul ht ⊢
  have hs := status_of_moves hp.normal hp.cacheFile (hfs hlinks) ht hmoves rfl
  exact ⟨record, hl, hnul, read_eq_ok_iff.2 ⟨_, hs, by simp [Node.readable, Node.privateMode], rfl⟩⟩

/-- A load that finds nothing anew gives the record of the cache file. -/
theorem holds_of_loadOrRebuild (hc : h.LogsToConsole) (ha : loadOrRebuild c h = (.ok l, h')) (hl : l.rebuilt = false) :
    ∃ record, Holds c h record ∧ l = Loaded.ofRecord record := by
  rcases loadOrRebuild_cases hc ha with ⟨-, e, he⟩ | ⟨-, -, ⟨e, -, he⟩ | ⟨usable, s₁, hensure, hproceed⟩⟩
  · cases he
  · cases he
  have hc₁ := (ensureCacheFile_continues hensure).logsToConsole hc
  rcases proceed_cases hc₁ hproceed with ⟨-, e, he⟩ | ⟨rfl, -, -, record, hholds, hr⟩ | ⟨s₂, hpause, hreb⟩
  · cases he
  · obtain ⟨rfl, -⟩ := ensureCacheFile_true hensure
    exact ⟨record, hholds, Except.ok.inj hr⟩
  -- a load that rebuilds says so in its answer
  · rcases rebuild_cases (hpause.continues.logsToConsole hc₁) hreb with
      ⟨-, e, he⟩ | ⟨l', s₃, r₂, s₄, -, hl', -, ⟨e, -, he, -⟩ | ⟨-, hr, -⟩⟩
    · cases he
    · cases he
    · rw [Except.ok.inj hr, hl'] at hl
      cases hl

/-- What is loaded from a cache file that a record was written to is what the record was made from. -/
theorem eq_of_holds_written {h₂ : Host} {record : Record} (hc : h.LogsToConsole)
    (ha : writeRecord c l h = (.ok (), h')) (hh : Holds c h₂ record)
    (hr : h₂.files.read h₂.workingDirectory c.cacheFilePath.spelling =
      h'.files.read h'.workingDirectory c.cacheFilePath.spelling) :
    Loaded.ofRecord record = { l with rebuilt := false } := by
  obtain ⟨-, bytes, hread, hdecode⟩ := hh
  obtain ⟨record', hl, rfl⟩ := eq_encode_of_read hc ha (hr.symm.trans hread)
  rw [Record.decode_encode, Except.ok.injEq] at hdecode
  rw [← hdecode]
  exact Loaded.ofRecord_of_record? hl

/-- A record of any texts is encoded, and its bytes are read as that record. A successful writing stores these
bytes: what is read at the path of the cache file afterwards is nothing else, and is read if no link is in the
way. -/
theorem readRecord_of_writeRecord (c : Config) (loadPaths entries : List String) (rebuilt : Bool) :
    let l : Loaded := ⟨loadPaths.map ofText, entries.map ofText, rebuilt⟩
    let record : Record := ⟨loadPaths, entries⟩
    l.record? = some record ∧ (∀ shown, Record.decode shown record.encode = .ok record) ∧
      ∀ h h', h.LogsToConsole → writeRecord c l h = (.ok (), h') →
        (∃ place, h'.files.bytesAt place = some record.encode) ∧
        (∀ bytes, h'.files.read h'.workingDirectory c.cacheFilePath.spelling = .ok bytes → bytes = record.encode) ∧
        (∀ h₂ : Host, Pathname.holdsNul c.cacheFilePath.spelling = false →
          h₂.files.read h₂.workingDirectory c.cacheFilePath.spelling = .ok record.encode →
          readRecord c.cacheFilePath h₂ = (.ok record, h₂)) ∧
        (c.PlainCache → h.files.LinkFree → readRecord c.cacheFilePath h' = (.ok record, h')) := by
  intro l record
  have hrecord : l.record? = some record := Loaded.record?_map_ofText loadPaths entries rebuilt
  have hread : ∀ h₂ : Host, Pathname.holdsNul c.cacheFilePath.spelling = false →
      h₂.files.read h₂.workingDirectory c.cacheFilePath.spelling = .ok record.encode →
      readRecord c.cacheFilePath h₂ = (.ok record, h₂) := by
    intro h₂ hnul hr
    exact readRecord_of_holds ⟨hnul, record.encode, hr, Record.decode_encode _ record⟩
  refine ⟨hrecord, fun shown => Record.decode_encode shown record, fun h h' hc ha => ?_⟩
  refine ⟨?_, fun bytes hr => ?_, hread, fun hp hlinks => ?_⟩
  · obtain ⟨record', fs, source, target, hl, -, -, hmoves, -⟩ := writeRecord_moves hc ha
    obtain rfl : record = record' := Option.some.inj (hrecord.symm.trans hl)
    exact ⟨target.location, bytesAt_eq_some_iff.2 ⟨_, hmoves.node?_place, rfl⟩⟩
  · obtain ⟨record', hl, hbytes⟩ := eq_encode_of_read hc ha hr
    obtain rfl : record = record' := Option.some.inj (hrecord.symm.trans hl)
    exact hbytes
  · obtain ⟨record', hl, hnul, hr⟩ := read_of_writeRecord hp hlinks hc ha
    obtain rfl : record = record' := Option.some.inj (hrecord.symm.trans hl)
    exact hread h' hnul hr

/-- Texts with a blank text, quotes, control characters and characters past the first plane among them. -/
theorem readRecord_of_writeRecord_sample :
    let texts : List String := ["", "\x22\\/", "\x00\x08\t\n\r\r\n\x0c\x1f\x7f", "\u2028\ufeff\uffff😀"]
    ∃ h', writeRecord Store.sampleConfig ⟨texts.map ofText, texts.map ofText, true⟩ Store.sampleHost = (.ok (), h') ∧
      readRecord Store.sampleConfig.cacheFilePath h' = (.ok ⟨texts, texts⟩, h') := by
  intro texts
  have hok : (writeRecord Store.sampleConfig ⟨texts.map ofText, texts.map ofText, true⟩
      Store.sampleHost).1.toOption = some () := by decide +kernel
  rcases ha : writeRecord Store.sampleConfig ⟨texts.map ofText, texts.map ofText, true⟩ Store.sampleHost with ⟨e | u, h'⟩
  · rw [ha] at hok
    cases hok
  · obtain ⟨-, -, hall⟩ := readRecord_of_writeRecord Store.sampleConfig texts texts true
    obtain ⟨-, -, -, hread⟩ := hall _ h' (fun _ hs => absurd hs List.not_mem_nil) ha
    exact ⟨h', rfl, hread Store.plainCache_sampleConfig (by decide +kernel)⟩

end Cache

end RequirePath
