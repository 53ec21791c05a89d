import RequirePath.Failure
import RequirePath.Json.Reader
import RequirePath.Json.Writer

/-! The document that a cache file holds: the load paths and the paths of the files below them, as two lists
of texts in an object. Writing gives one line of UTF-8; reading takes any JSON document of that shape. -/

namespace RequirePath

/-- What a cache file holds. -/
structure Record where
  loadPaths : List String
  entries : List String
  deriving DecidableEq, Repr

namespace Record

/-- The name of the list of load paths. -/
def loadPathsField : String := "opal_load_paths"

/-- The name of the list of files. -/
def entriesField : String := "opal_load_path_entries"

/-- The document of a record. -/
def toValue (r : Record) : Value :=
  .object [(loadPathsField, .array (r.loadPaths.map .text)), (entriesField, .array (r.entries.map .text))]

/-- The bytes of a record in a file. -/
def encode (r : Record) : List UInt8 :=
  Utf8.encode (Json.chars r.toValue)

/-- The bytes of the file that stands in for a record that is not made yet. -/
def placeholder : List UInt8 :=
  Utf8.encode ['\x7b', '\x7d']

/-- The texts of a list; every item that is no text is a violation of its own. -/
def texts (field : String) (items : List Value) : Except (List Issue) (List String) :=
  let issues := items.zipIdx.filterMap fun (v, i) =>
    match v with
    | .text _ => none
    | _ => some ⟨some field, some i, .notText⟩
  if issues.isEmpty then
    .ok (items.filterMap fun v =>
      match v with
      | .text s => some s
      | _ => none)
  else .error issues

/-- The texts of a field that must be a list of texts. -/
def textsOf (field : String) (fields : Fields) : Except (List Issue) (List String) :=
  match Fields.get? field fields with
  | none => .error [⟨some field, none, .missing⟩]
  | some (.array items) => texts field items
  | some _ => .error [⟨some field, none, .notList⟩]

/-- The record of a document. All violations are reported, those of the load paths first. -/
def ofValue : Value → Except (List Issue) Record
  | .object fields =>
    match textsOf loadPathsField fields, textsOf entriesField fields with
    | .ok loadPaths, .ok entries => .ok ⟨loadPaths, entries⟩
    | .ok _, .error e => .error e
    | .error e, .ok _ => .error e
    | .error e, .error e' => .error (e ++ e')
  | _ => .error [⟨none, none, .notObject⟩]

/-- The record of the bytes of the file at a path. Bytes that hold none make the cache corrupt, except that
a document out of bounds is a failure of its own. -/
def decode (path : String) (bytes : List UInt8) : Except Failure Record :=
  match Utf8.decode bytes with
  | .error fault => .error (.cacheCorrupt path fault.message)
  | .ok raw =>
    let cs := Text.unifyNewlines raw
    match Json.document cs with
    | .error (.problem kind left) => .error (.cacheCorrupt path (Json.placeMessage kind cs left))
    | .error .tooDeep => .error .tooDeep
    | .error (.tooManyDigits count) => .error (.tooManyDigits count)
    | .ok v =>
      match ofValue v with
      | .error issues => .error (.cacheCorrupt path s!"{issues.length} validation errors")
      | .ok r => .ok r

end Record

end RequirePath
