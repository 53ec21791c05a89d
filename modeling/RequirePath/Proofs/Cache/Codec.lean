import RequirePath.Cache.Loaded
import RequirePath.Proofs.Json.RoundTrip
import RequirePath.Proofs.Text.Line
import RequirePath.Proofs.Text.Utf8

/-! The bytes of a record are read back as the record, and the placeholder is read as no record. What a
record gives when it is read has the load paths and the files that it was made from, as texts are paths
through UTF-8 and lose nothing on the way. -/

namespace RequirePath

namespace Pathname

/-- A path is the path of the text that it spells. -/
theorem ofText_of_text? {path : Pathname} {s : String} (h : text? path = some s) : ofText s = path := by
  unfold text? Utf8.decode? at h
  cases hd : Utf8.decode path with
  | error fault => simp [hd, Except.toOption] at h
  | ok cs =>
      simp only [hd, Except.toOption, Option.map_some, Option.some.injEq] at h
      rw [ofText, ← h, String.toList_ofList, Utf8.encode_of_decode hd]

theorem map_ofText_of_mapM {paths : List Pathname} {texts : List String} (h : paths.mapM text? = some texts) :
    texts.map ofText = paths := by
  induction paths generalizing texts with
  | nil =>
      simp only [List.mapM_nil, Option.pure_def, Option.some.injEq] at h
      rw [← h]
      rfl
  | cons p ps ih =>
      simp only [List.mapM_cons, Option.pure_def, Option.bind_eq_bind, Option.bind_eq_some_iff,
        Option.some.injEq] at h
      obtain ⟨t, ht, ts, hts, rfl⟩ := h
      rw [List.map_cons, ofText_of_text? ht, ih hts]

end Pathname

namespace Record

/-- The document of a record on one line. -/
theorem onOneLine_toValue (r : Record) : Json.OnOneLine r.toValue := by
  have htexts (ts : List String) : Json.OnOneLine (.array (ts.map .text)) :=
    Json.onOneLine_array (by simpa using fun s _ => Json.onOneLine_text s)
  refine Json.onOneLine_object ?_
  simp only [List.mem_cons, List.not_mem_nil, or_false, forall_eq_or_imp, forall_eq]
  exact ⟨htexts _, htexts _⟩

theorem readsBack_toValue (r : Record) : Json.ReadsBack Json.depthLimit r.toValue := by
  have htexts (ts : List String) : Json.ReadsBack (988 + 1) (.array (ts.map .text)) :=
    Json.readsBack_array (by simpa using fun s _ => Json.readsBack_text 988 s)
  refine Json.readsBack_object 989 ?_ rfl
  simp only [List.mem_cons, List.not_mem_nil, or_false, forall_eq_or_imp, forall_eq]
  exact ⟨htexts _, htexts _⟩

theorem texts_map_text (field : String) (ts : List String) : texts field (ts.map .text) = .ok ts := by
  unfold texts
  rw [List.filterMap_eq_nil_iff.2]
  · rw [List.filterMap_map]
    exact congrArg Except.ok List.filterMap_some
  · rintro ⟨v, i⟩ hv
    obtain ⟨s, -, rfl⟩ := List.mem_map.1 (List.fst_mem_of_mem_zipIdx hv)
    rfl

theorem ofValue_toValue (r : Record) : ofValue r.toValue = .ok r := by
  simp only [toValue, ofValue, textsOf, Fields.get?, List.lookup_cons, beq_self_eq_true,
    show (entriesField == loadPathsField) = false by decide, texts_map_text]

/-- The bytes of a record are read as that record. -/
theorem decode_encode (path : String) (r : Record) : decode path r.encode = .ok r := by
  have hline : '\r' ∉ Json.chars r.toValue := fun h => absurd (onOneLine_toValue r _ h) (by decide)
  have hmark : (Json.chars r.toValue).head? ≠ some '\ufeff' := by
    simp only [toValue, Json.chars, List.cons_append, List.head?_cons]
    decide
  simp only [decode, encode, Utf8.decode_encode, Text.unifyNewlines_eq_self hline,
    Json.document_chars (readsBack_toValue r) hmark, ofValue_toValue]

/-- The placeholder lacks both lists. -/
theorem decode_placeholder_eq (path : String) :
    decode path placeholder = .error (.cacheCorrupt path "2 validation errors") := by
  have hd : Json.document ['\x7b', '\x7d'] = .ok (.object []) := by rfl
  have hline : '\r' ∉ ['\x7b', '\x7d'] := by decide
  have hissues : ofValue (.object []) =
      .error [⟨some loadPathsField, none, .missing⟩, ⟨some entriesField, none, .missing⟩] := by rfl
  simp only [decode, placeholder, Utf8.decode_encode, Text.unifyNewlines_eq_self hline, hd, hissues]
  rfl

/-- The placeholder holds no record. -/
theorem decode_placeholder (path : String) (r : Record) : decode path placeholder ≠ .ok r := by
  rw [decode_placeholder_eq]
  nofun

theorem encode_injective {r s : Record} (h : r.encode = s.encode) : r = s := by
  have hr := decode_encode "" r
  rw [h, decode_encode] at hr
  exact (Except.ok.inj hr).symm

end Record

namespace Loaded

/-- Reading the record of a loaded cache gives the cache back, not found anew. -/
theorem ofRecord_of_record? {l : Loaded} {r : Record} (h : l.record? = some r) :
    ofRecord r = { l with rebuilt := false } := by
  simp only [record?, Option.pure_def, Option.bind_eq_bind, Option.bind_eq_some_iff, Option.some.injEq] at h
  obtain ⟨loadPaths, hl, entries, he, rfl⟩ := h
  simp only [ofRecord, Pathname.map_ofText_of_mapM hl, Pathname.map_ofText_of_mapM he]

end Loaded

end RequirePath
