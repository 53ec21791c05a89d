import RequirePath.Failure
import RequirePath.Json.Value
import RequirePath.Yaml.Document

/-! The value of one setting, as far as the fields of a configuration tell values apart, whichever document
or variable it comes from. -/

namespace RequirePath

/-- The value of one setting. -/
inductive Setting
  | null
  | text (s : String)
  | bytes (bs : List UInt8)
  | list (items : List Setting)
  | other
  deriving Inhabited

namespace Setting

/-- The setting that a JSON value gives. -/
def ofValue : Value → Setting
  | .null => .null
  | .text s => .text s
  | .array items => .list (ofValues items)
  | _ => .other
where
  /-- The settings that JSON values give. -/
  ofValues : List Value → List Setting
    | [] => []
    | v :: rest => ofValue v :: ofValues rest

/-- The setting that a value inside a value of a settings file gives. -/
def ofItem : Yaml.Datum → Setting
  | .null => .null
  | .text s => .text s
  | .bytes bs => .bytes bs
  | _ => .other

/-- The setting that a value of a settings file gives. A set counts as a list. -/
def ofDatum (d : Yaml.Document) (v : Yaml.Datum) : Setting :=
  match v with
  | .list items | .set items => .list (items.map fun id => ofItem (d.datum id))
  | .pairs items => .list (items.map fun _ => .other)
  | v => ofItem v

/-- The text of a setting; bytes count as the text that they encode. -/
def asText : Setting → Except Violation String
  | .text s => .ok s
  | .bytes bs =>
    match Utf8.decode? bs with
    | some cs => .ok (String.ofList cs)
    | none => .error .notUnicode
  | _ => .error .notText

end Setting

/-- Settings by name. -/
abbrev Settings := List (String × Setting)

end RequirePath
