import Mathlib.Data.List.Forall2
import RequirePath.Host
import RequirePath.Proofs.File.Append
import RequirePath.Proofs.Json.Written
import RequirePath.Proofs.Text.Pieces
import RequirePath.Proofs.Text.Utf8

/-! The lines that keep log records. Each is a document on one line, an object that holds what the record has: what an object
in the place of its message gives comes first, then what every line has, then the further fields. So a new file that records
are written to is cut by its line ends into one line for each of them, in their order. -/

namespace RequirePath.Log

variable {r : Record} {time text : String} {digits depth : Nat} {line : List Char} {lines : List (List Char)} {old : List UInt8}
variable {h : Host} {file : LexicalPath} {records : List (Timestamp × Record)}

namespace Record

/-- The fields of an object that stands in the place of the message. -/
def own (r : Record) : Fields :=
  match r.message with
  | .object fs => fs
  | _ => []

/-- What every line has under a name. -/
def base? (r : Record) (time text : String) : String → Option Value
  | "ts" => some (.text time)
  | "lvl" => some r.levelName
  | "schema" => some layout
  | "logger" => some r.logger
  | "event" => some ((Fields.get? "event" r.extras).getD .null)
  | "message" => some (.text text)
  | _ => none

/-- What the line of a record has under a name: what the object in the place of its message has there, else what every line has,
else the further field of that name. -/
def value? (r : Record) (time text name : String) : Option Value :=
  (Fields.get? name r.own).or ((r.base? time text name).or (Fields.get? name r.extras))

/-- All values of a record are without fractions and within bounds, and no further field has the name of a part of a record. -/
structure Fits (digits depth : Nat) (r : Record) : Prop where
  logger : r.logger.Fits digits depth
  levelName : r.levelName.Fits digits depth
  distinct : Fields.Distinct r.own
  own : ∀ p ∈ r.own, p.2.Fits digits depth
  extras : ∀ p ∈ r.extras, p.2.Fits digits depth
  unreserved : ∀ p ∈ r.extras, p.1 ∉ reserved

/-- A line without control characters that is an object with just what the line of a record has. -/
structure HasLine (r : Record) (time : String) (digits depth : Nat) (line : List Char) : Prop where
  shown : ∀ c ∈ line, 0x20 ≤ c.toNat
  object : ∃ text fs, r.text = .ok text ∧ Fields.Distinct fs ∧ (∀ name, Fields.get? name fs = r.value? time text name) ∧
    Json.IsDocument digits depth (.object fs) line ∧
    (digits ≤ Json.digitLimit → depth ≤ Json.depthLimit → Json.document line = .ok (.object fs))

/-! ### One line -/

/-- The fields that every line has. -/
def baseFields (r : Record) (time text : String) : Fields :=
  [("ts", .text time), ("lvl", r.levelName), ("schema", layout), ("logger", r.logger),
    ("event", (Fields.get? "event" r.extras).getD .null), ("message", .text text)]

theorem get?_baseFields (r : Record) (time text name : String) :
    Fields.get? name (r.baseFields time text) = r.base? time text name := by
  simp only [baseFields, Fields.get?_cons]
  fun_cases base? r time text name <;> simp_all [Fields.get?]

theorem distinct_baseFields (r : Record) (time text : String) : Fields.Distinct (r.baseFields time text) := by
  exact (by decide : ["ts", "lvl", "schema", "logger", "event", "message"].Nodup)

theorem fields_eq (ht : r.text = .ok text) (hu : ∀ p ∈ r.extras, p.1 ∉ reserved) :
    r.fields time = .ok (r.extras.foldl (fun fs p => Fields.setNew p.1 p.2 fs)
      (r.own.foldl (fun fs p => Fields.set p.1 p.2 fs) (r.baseFields time text))) := by
  have hextras : (r.extras.filter fun p => !reserved.contains p.1) = r.extras :=
    List.filter_eq_self.2 fun p hp => by simpa using hu p hp
  unfold fields own
  rw [ht, hextras]
  cases r.message <;> rfl

/-- The fields of a line are distinct, and they are just what the line has. -/
theorem exists_fields (ht : r.text = .ok text) (hf : r.Fits digits depth) :
    ∃ fs, r.fields time = .ok fs ∧ Fields.Distinct fs ∧ ∀ name, Fields.get? name fs = r.value? time text name := by
  refine ⟨_, fields_eq ht hf.unreserved, ?_, fun name => ?_⟩
  · exact Fields.Distinct.foldl (fun fs p hd => hd.setNew p.1 p.2)
      (Fields.Distinct.foldl (fun fs p hd => hd.set p.1 p.2) (distinct_baseFields r time text) _) _
  · rw [Fields.get?_foldl_setNew, Fields.get?_foldl_set, ← Fields.get?_ofList, Fields.ofList_of_distinct hf.distinct,
      get?_baseFields, value?, Option.or_assoc]

theorem fits_layout (digits depth : Nat) : layout.Fits digits (depth + 1) := by
  refine .object (by unfold Fields.Distinct; decide) fun p hp => ?_
  simp only [List.mem_cons, List.not_mem_nil, or_false] at hp
  rcases hp with rfl | rfl <;> exact .text _

theorem fits_base (hf : r.Fits digits (depth + 1)) {name : String} {v : Value} (h : r.base? time text name = some v) :
    v.Fits digits (depth + 1) := by
  unfold base? at h
  split at h
  case h_5 =>
    cases hevent : Fields.get? "event" r.extras with
    | none =>
        rw [hevent] at h
        cases h
        exact .null
    | some w =>
        rw [hevent] at h
        cases h
        exact hf.extras _ (Fields.mem_of_get? hevent)
  all_goals cases h
  · exact .text _
  · exact hf.levelName
  · exact fits_layout digits depth
  · exact hf.logger
  · exact .text _

theorem fits_value (hf : r.Fits digits (depth + 1)) {name : String} {v : Value} (h : r.value? time text name = some v) :
    v.Fits digits (depth + 1) := by
  rcases Option.or_eq_some_iff.1 h with hown | ⟨-, h⟩
  · exact hf.own _ (Fields.mem_of_get? hown)
  rcases Option.or_eq_some_iff.1 h with hbase | ⟨-, hextra⟩
  · exact fits_base hf hbase
  · exact hf.extras _ (Fields.mem_of_get? hextra)

/-- A record whose arguments fill its message has its line. -/
theorem exists_hasLine (time : String) (ht : r.text = .ok text) (hf : r.Fits digits (depth + 1)) :
    ∃ line, r.line time = .ok (String.ofList line) ∧ r.HasLine time digits (depth + 2) line := by
  obtain ⟨fs, hfields, hd, hvalues⟩ := exists_fields ht hf
  have hfits : (Value.object fs).Fits digits (depth + 2) := by
    refine .object hd fun p hp => fits_value hf (?_ : r.value? time text p.1 = some p.2)
    rw [← hvalues]
    exact hd.get?_of_mem hp
  have hdocument := Json.isDocument_chars hfits
  refine ⟨Json.chars (.object fs), ?_, Json.onOneLine_of_fits hfits, text, fs, ht, hd, hvalues, hdocument,
    hdocument.document_eq⟩
  unfold Record.line
  rw [hfields]
  rfl

end Record

/-! ### Lines -/

/-- The machine after records have been handed to a file of lines, each at its time. -/
def deliverLines (file : LexicalPath) (h : Host) (records : List (Timestamp × Record)) : Host :=
  records.foldl (fun h e => Host.deliver e.2 true { h with now := e.1 } (.lines file)) h

/-- The lines as a text. -/
def textOfLines (lines : List (List Char)) : List Char := lines.flatMap (· ++ ['\n'])

/-- The record of a time has a line. -/
def IsLineOf (e : Timestamp × Record) (line : List Char) : Prop := e.2.line (timeText e.1) = .ok (String.ofList line)

theorem deliver_isLineOf {e : Timestamp × Record} (hline : IsLineOf e line) (h : Host) (file : LexicalPath) :
    Host.deliver e.2 true { h with now := e.1 } (.lines file) =
      Host.appendQuietly { h with now := e.1 } file (Utf8.encode (line ++ ['\n'])) := by
  unfold Host.deliver
  rw [hline]
  dsimp only
  rw [if_pos rfl, String.toList_ofList]

/-- Bytes that the system lets one add are added. -/
theorem appendQuietly_eq {bytes : List UInt8} {files : FileSystem} (hnul : Pathname.holdsNul file.spelling = false)
    (ha : h.files.append h.workingDirectory file.spelling bytes h.now = .ok files) :
    h.appendQuietly file bytes = { h with files } := by
  unfold Host.appendQuietly
  rw [if_neg (by rw [hnul]; exact Bool.false_ne_true), ha]

/-- Lines that are added one after another stand behind what the file holds. -/
theorem holdsOpen_deliverLines (hnul : Pathname.holdsNul file.spelling = false)
    (hlines : List.Forall₂ IsLineOf records lines) (hold : h.files.HoldsOpen h.workingDirectory file.spelling old) :
    (deliverLines file h records).files.HoldsOpen h.workingDirectory file.spelling
      (old ++ Utf8.encode (textOfLines lines)) := by
  induction hlines generalizing h old with
  | nil => rwa [textOfLines, List.flatMap_nil, Utf8.encode, List.flatMap_nil, List.append_nil]
  | @cons e line records lines hline hlines ih =>
      obtain ⟨files, ha, hnew⟩ := hold.append (Utf8.encode (line ++ ['\n'])) e.1
      have hall := ih (h := { h with now := e.1, files }) hnew
      rw [deliverLines, List.foldl_cons, deliver_isLineOf hline, appendQuietly_eq hnul ha, textOfLines, List.flatMap_cons,
        Utf8.encode_append, ← List.append_assoc]
      exact hall

/-- A new file takes the lines of records, if there are any. -/
theorem holdsOpen_deliverLines_new (hnul : Pathname.holdsNul file.spelling = false)
    (hnew : h.files.TakesNew h.workingDirectory file.spelling) (hlines : List.Forall₂ IsLineOf records lines)
    (hne : records ≠ []) : (deliverLines file h records).files.HoldsOpen h.workingDirectory file.spelling
      (Utf8.encode (textOfLines lines)) := by
  cases hlines with
  | nil => exact absurd rfl hne
  | @cons e line records lines hline hlines =>
      obtain ⟨files, ha, hfirst⟩ := hnew.append (Utf8.encode (line ++ ['\n'])) e.1
      have hall := holdsOpen_deliverLines (h := { h with now := e.1, files }) hnul hlines hfirst
      rw [deliverLines, List.foldl_cons, deliver_isLineOf hline, appendQuietly_eq hnul ha, textOfLines, List.flatMap_cons,
        Utf8.encode_append]
      exact hall

theorem exists_forall₂ {α β : Type} {R : α → β → Prop} {xs : List α} (hall : ∀ a ∈ xs, ∃ b, R a b) :
    ∃ ys, List.Forall₂ R xs ys := by
  induction xs with
  | nil => exact ⟨[], .nil⟩
  | cons a xs ih =>
      obtain ⟨b, hb⟩ := hall a List.mem_cons_self
      obtain ⟨ys, hys⟩ := ih fun x hx => hall x (List.mem_cons_of_mem _ hx)
      exact ⟨b :: ys, .cons hb hys⟩

/-- The text of lines without control characters is cut by its line ends into those lines. -/
theorem splitAt_textOfLines {R : Timestamp × Record → List Char → Prop} (hlines : List.Forall₂ R records lines)
    (hshown : ∀ e line, R e line → ∀ c ∈ line, 0x20 ≤ c.toNat) : Text.splitAt '\n' (textOfLines lines) = lines ++ [[]] := by
  have hfree : ∀ line ∈ lines, '\n' ∉ line := by
    induction hlines with
    | nil => exact nofun
    | cons hline _ ih =>
        refine List.forall_mem_cons.2 ⟨fun hmem => ?_, ih⟩
        exact absurd (hshown _ _ hline _ hmem) (by decide)
  exact Text.splitAt_ended hfree

/-- A message with a line end in it and two further fields. -/
def sampleText : Record where
  logger := .text "owl"
  levelName := .text "INFO"
  message := .text "a\nb"
  extras := [("event", .text "e"), ("x", .int (-3))]

/-- An object in the place of a message, which gives another time. -/
def sampleObject : Record where
  logger := .text "owl"
  levelName := .text "INFO"
  message := .object [("ts", .int 1), ("k", .array [.null])]

end RequirePath.Log
