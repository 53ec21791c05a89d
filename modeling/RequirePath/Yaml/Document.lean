import RequirePath.Yaml.Merge

/-! The values of a document. A collection gets its value at once and its content later, after those that were
met before it, so of several faults the one that is least deep counts. A key must be a value that can be
compared. -/

namespace RequirePath.Yaml

/-- The values of the nodes of a document, and the number of the node that holds all others. -/
structure Document where
  data : Array (Option Datum)
  root : Nat

namespace Document

/-- The value of a node. -/
def datum (d : Document) (id : Nat) : Datum :=
  (d.data[id]?.join).getD .null

/-- The document that holds nothing. -/
def void : Document := ⟨#[some .null], 0⟩

/-- The node of the value of a name in a table; of several pairs the last one counts. -/
def field? (d : Document) (name : String) (fields : List (Nat × Nat)) : Option Nat :=
  (fields.reverse.find? fun p =>
    match d.datum p.1 with
    | .text s => s == name
    | _ => false).map Prod.snd

/-! ### Values of nodes -/

/-- The nodes of a document, their values so far, and the collections that wait for their content, the last
one first. -/
structure Build where
  nodes : Array Node
  data : Array (Option Datum)
  waiting : List Nat := []

/-- The text of a node: that of a scalar, or that under the key of a default value. A node can hold itself
there, and then there is no end. -/
def textOf (nodes : Array Node) : Nat → Nat → Except Fault String
  | 0, _ => .error .tooDeep
  | bound + 1, id =>
    match nodes[id]? with
    | some (.scalar _ s) => .ok s
    | some (.mapping _ pairs) =>
      match pairs.find? fun p => Merge.tagOf nodes p.1 == commonTag "value" with
      | some (_, value) => textOf nodes bound value
      | none => .error .malformed
    | _ => .error .malformed

/-- The value of a node whose tag is that of a scalar. -/
def scalarOf (nodes : Array Node) (id : Nat) (tag : String) : Except Fault Datum :=
  match Datum.maker? tag with
  | none => .error .malformed
  | some make => do
    let s ← textOf nodes (nodes.size + 1) id
    if tag = commonTag "timestamp" && Merge.isMapping nodes id then .error .wrongType else make s

/-- Gives a node a value. -/
def Build.set (b : Build) (id : Nat) (d : Datum) : Build :=
  { b with data := b.data.setIfInBounds id (some d) }

/-- The value of a node; that of a collection has no content yet when the node is met first. -/
def Build.visit (b : Build) (id : Nat) : Except Fault (Datum × Build) :=
  match b.data[id]?.join with
  | some d => .ok (d, b)
  | none =>
    let tag := Merge.tagOf b.nodes id
    match Datum.emptyOf? tag with
    | some d => .ok (d, { b.set id d with waiting := id :: b.waiting })
    | none => (scalarOf b.nodes id tag).map fun d => (d, b.set id d)

/-- Visits the key and the value of a pair. A key must be a value that can be one. -/
def Build.visitPair (b : Build) (mustBeKey : Bool) (pair : Nat × Nat) : Except Fault Build := do
  let (key, b) ← b.visit pair.1
  if mustBeKey && !key.isKey then .error .malformed
  else
    let (_, b) ← b.visit pair.2
    pure b

/-- The only pair of a mapping that has one. -/
def onlyPair? (nodes : Array Node) (id : Nat) : Option (Nat × Nat) :=
  match Merge.pairsOf nodes id with
  | [p] => some p
  | _ => none

/-- The members of a set: of keys that count as one the first stays. -/
def members (data : Array (Option Datum)) (keys : List Nat) : List Nat :=
  let datum (id : Nat) : Datum := (data[id]?.join).getD .null
  (keys.foldl (fun kept k =>
    if kept.any fun j => j == k || (datum j).same (datum k) then kept else k :: kept) []).reverse

/-- Gives a collection its content. Its node must have the shape that its tag says. -/
def Build.fill (b : Build) (id : Nat) : Except Fault Build := do
  match b.data[id]?.join, b.nodes[id]? with
  | some (.list _), some (.sequence _ items) => do
    let b ← items.foldlM (fun b item => (b.visit item).map Prod.snd) b
    pure (b.set id (.list items))
  | some (.pairs _), some (.sequence _ items) => do
    let (b, found) ← items.foldlM (fun (b, found) item =>
      match onlyPair? b.nodes item with
      | some pair => (b.visitPair false pair).map fun b => (b, pair :: found)
      | none => .error .malformed) (b, [])
    pure (b.set id (.pairs found.reverse))
  | some (.table _), some (.mapping _ _) => do
    let nodes ← Merge.flatten b.nodes id
    let pairs := Merge.pairsOf nodes id
    let b ← pairs.foldlM (fun b pair => b.visitPair true pair) { b with nodes }
    pure (b.set id (.table pairs))
  | some (.set _), some (.mapping _ _) => do
    let nodes ← Merge.flatten b.nodes id
    let pairs := Merge.pairsOf nodes id
    let b ← pairs.foldlM (fun b pair => b.visitPair true pair) { b with nodes }
    pure (b.set id (.set (members b.data (pairs.map Prod.fst))))
  | _, _ => .error .malformed

/-- Gives the collections that wait their content, those that were met first first; the bound is above the
number of rounds. -/
def Build.fillAll : Nat → Build → Except Fault Build
  | 0, b => .ok b
  | bound + 1, b => do
    if b.waiting.isEmpty then pure b
    else
      let next ← b.waiting.reverse.foldlM Build.fill { b with waiting := [] }
      fillAll bound next

/-- The values of the nodes of a document. -/
def ofGraph (g : Node.Graph) : Except Fault Document := do
  let start : Build := { nodes := g.nodes, data := Array.replicate g.nodes.size none }
  let (_, b) ← start.visit g.root
  let b ← b.fillAll (g.nodes.size + 1)
  pure ⟨b.data, g.root⟩

/-- The values of the document that a source holds; one without a node holds nothing. -/
def read (source : Source) : Except Fault Document := do
  match ← Node.ofTokens? (Token.scan source) with
  | none => pure void
  | some g => ofGraph g

end Document

end RequirePath.Yaml
