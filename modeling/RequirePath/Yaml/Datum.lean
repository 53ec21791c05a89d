import RequirePath.Text.Base64
import RequirePath.Yaml.Numeral

/-! The values of single nodes. A scalar has a value by its tag; a collection holds the numbers of the nodes
in it, since a node can stand in many places, and in itself. -/

namespace RequirePath.Yaml

/-- A value. A list of pairs is a list whose items are pairs. -/
inductive Datum
  | null
  | bool (b : Bool)
  | int (n : Int)
  | float (x : Binary64)
  | text (s : String)
  | bytes (bs : List UInt8)
  | moment (m : Form.Moment)
  | list (items : List Nat)
  | pairs (items : List (Nat × Nat))
  | set (members : List Nat)
  | table (fields : List (Nat × Nat))
  deriving Inhabited

/-- The name space of common tags. -/
def commonTag (name : String) : String := "tag:yaml.org,2002:" ++ name

namespace Datum

/-- The integer that a value counts as: truth values count as one and zero. -/
def whole? : Datum → Option Int
  | .bool b => some (if b then 1 else 0)
  | .int n => some n
  | _ => none

/-- Two values that count as one key. -/
def same (a b : Datum) : Bool :=
  match a, b with
  | .null, .null => true
  | .text s, .text t => s == t
  | .bytes s, .bytes t => s == t
  | .moment s, .moment t => s.same t
  | .float x, .float y => x.same y
  | .float x, n | n, .float x => n.whole?.any fun k => x.value? == some (k : Dyadic)
  | _, _ => a.whole?.any fun k => b.whole? == some k

/-- A value that can be a key. -/
def isKey : Datum → Bool
  | .list _ | .pairs _ | .set _ | .table _ => false
  | _ => true

/-- A value that counts as none. -/
def isVoid : Datum → Bool
  | .null => true
  | .bool b => !b
  | .int n => n == 0
  | .float x => x.value? == some 0
  | .text s => s.isEmpty
  | .bytes bs => bs.isEmpty
  | .list items => items.isEmpty
  | .pairs items => items.isEmpty
  | .set members => members.isEmpty
  | .table fields => fields.isEmpty
  | .moment _ => false

/-- The collection without content that a tag asks for. -/
def emptyOf? (tag : String) : Option Datum :=
  [("seq", Datum.list []), ("map", .table []), ("set", .set []), ("omap", .pairs []),
    ("pairs", .pairs [])].findSome? fun p => if commonTag p.1 = tag then some p.2 else none

/-- The truth value of a word in any case. -/
def boolOf (s : String) : Except Fault Datum :=
  let word := String.ofList (Text.lower s.toList)
  match Form.boolOf? word with
  | some b => .ok (.bool b)
  | none => .error (.missingKey word)

/-- The date or the moment that a text writes. -/
def momentOf (s : String) : Except Fault Datum :=
  match Form.moment? s.toList with
  | none => .error .noOperation
  | some m =>
    match m.fault with
    | some message => .error (.badValue message)
    | none => .ok (.moment m)

/-- How the tag of a scalar makes a value of its text. -/
def maker? (tag : String) : Option (String → Except Fault Datum) :=
  let makers : List (String × (String → Except Fault Datum)) :=
    [("str", fun s => .ok (.text s)), ("null", fun _ => .ok .null), ("bool", boolOf),
      ("int", fun s => (Numeral.int s).map .int), ("float", fun s => (Numeral.float s).map .float),
      ("binary", fun s =>
        match Text.Base64.decode? s.toList with
        | some bs => .ok (.bytes bs)
        | none => .error .malformed),
      ("timestamp", momentOf)]
  makers.findSome? fun p => if commonTag p.1 = tag then some p.2 else none

end Datum

end RequirePath.Yaml
