import RequirePath.Yaml.Datum
import RequirePath.Yaml.Token

/-! The nodes of a YAML document: scalars, sequences and mappings with their tags. Nodes are numbered, and a
collection names the nodes in it by their numbers; an alias is the number of the node that it names. A stream
holds one document at most. -/

namespace RequirePath.Yaml

/-- One node. -/
inductive Node
  | scalar (tag text : String)
  | sequence (tag : String) (items : List Nat)
  | mapping (tag : String) (pairs : List (Nat × Nat))
  deriving Inhabited

namespace Node

/-- The tag of a node. -/
def tag : Node → String
  | .scalar t _ | .sequence t _ | .mapping t _ => t

/-- The pairs of a mapping. -/
def pairs : Node → List (Nat × Nat)
  | .mapping _ ps => ps
  | _ => []

/-- The tag of a plain scalar by its form. A text in one line has the form of the line. -/
def tagOfForm (s : String) : String :=
  let cs := s.toList
  let line := String.ofList (Form.line cs)
  if Form.isBool line then commonTag "bool"
  else if Form.isFloat line.toList then commonTag "float"
  else if Form.isInt line.toList then commonTag "int"
  else if line = "<<" then commonTag "merge"
  else if s.isEmpty || (!line.isEmpty && Form.isNull line) then commonTag "null"
  else if Form.isMoment cs then commonTag "timestamp"
  else if line = "=" then commonTag "value"
  else if ["!", "&", "*"].contains line then commonTag "yaml"
  else commonTag "str"

/-- The tag of a scalar: as written, or by its form, or text. The tag of a lone exclamation mark asks for
the form whatever the style. -/
def scalarTag (written : Option String) (s : String) (style : Style) : String :=
  match written with
  | none => if style = .plain then tagOfForm s else commonTag "str"
  | some t => if t = "!" then tagOfForm s else t

/-- The tag of a collection. -/
def collectionTag (written : Option String) (name : String) : String :=
  match written with
  | none => commonTag name
  | some t => if t = "!" then commonTag name else t

/-- The node that stands where nothing is written. -/
def absent : Node := .scalar (commonTag "null") ""

/-- The greatest number of collections that may stand in one another. -/
def depthLimit : Nat := 488

/-- The tokens that are left, the nodes so far, and the numbers of the nodes with names. -/
structure Rest where
  tokens : List Token
  nodes : Array Node := #[]
  names : List (String × Nat) := []

namespace Rest

/-- One of several tokens comes next. -/
def atOne (r : Rest) (ts : List Token) : Bool :=
  match r.tokens with
  | t :: _ => ts.contains t
  | [] => true

/-- A token comes next. -/
def next (r : Rest) (t : Token) : Bool :=
  r.tokens.head? == some t

/-- Without the next token. -/
def drop (r : Rest) : Rest :=
  { r with tokens := r.tokens.drop 1 }

/-- Why the tokens do not go on as they must: those that come next do not fit, unless a fault stands in
their place. -/
def fault (r : Rest) : Fault :=
  match r.tokens with
  | .broken f :: _ => f
  | _ => .malformed

/-- Adds a node: its number, and what is left. -/
def add (r : Rest) (n : Node) : Nat × Rest :=
  (r.nodes.size, { r with nodes := r.nodes.push n })

/-- Gives the node of a number its content. -/
def set (r : Rest) (id : Nat) (n : Node) : Rest :=
  { r with nodes := r.nodes.setIfInBounds id n }

/-- Gives the node of a number a name. -/
def name (r : Rest) (anchor : Option String) (id : Nat) : Rest :=
  match anchor with
  | some a => { r with names := (a, id) :: r.names }
  | none => r

end Rest

/-- The full form of a tag, by the handles that the document declares. -/
def fullTag (handles : List (String × String)) (handle : Option String) (suffix : String) :
    Except Fault String :=
  match handle with
  | none => .ok suffix
  | some h =>
    match handles.lookup h with
    | some lead => .ok (lead ++ suffix)
    | none => .error .malformed

/-- The name and the tag that may stand before a node, in any order, and the tokens after them. -/
def properties (tokens : List Token) :
    Option String × Option (Option String × String) × List Token :=
  match tokens with
  | .anchor a :: .tag h s :: more | .tag h s :: .anchor a :: more => (some a, some (h, s), more)
  | .anchor a :: more => (some a, none, more)
  | .tag h s :: more => (none, some (h, s), more)
  | _ => (none, none, tokens)

mutual

/-- Reads a node inside `depth` collections. In a block it may be a block itself; as the value of a mapping
it may be a sequence that is not indented. -/
def node (handles : List (String × String)) (depth : Nat) (inBlock unindented : Bool) :
    Nat → Rest → Except Fault (Nat × Rest)
  | 0, _ => .error .malformed
  | bound + 1, r => do
    match r.tokens with
    | .alias a :: _ =>
      match r.names.lookup a with
      | some id => pure (id, r.drop)
      | none => .error .malformed
    | _ =>
      let (anchor, tag, tokens) := properties r.tokens
      let r := { r with tokens := tokens }
      match tokens with
      | .broken fault :: _ => .error fault
      | _ =>
        let tag ← match tag with
          | some (h, s) => (fullTag handles h s).map some
          | none => pure none
        if anchor.any fun a => (r.names.lookup a).isSome then .error .malformed
        else if depthLimit < depth then .error .tooDeep
        else
          let (id, r) := r.add absent
          let r := r.name anchor id
          let sequence (read : Except Fault (List Nat × Rest)) : Except Fault (Nat × Rest) :=
            read.map fun (items, r) => (id, r.set id (.sequence (collectionTag tag "seq") items))
          let mapping (read : Except Fault (List (Nat × Nat) × Rest)) : Except Fault (Nat × Rest) :=
            read.map fun (pairs, r) => (id, r.set id (.mapping (collectionTag tag "map") pairs))
          let scalar (text : String) (style : Style) (r : Rest) : Except Fault (Nat × Rest) :=
            pure (id, r.set id (.scalar (scalarTag tag text style) text))
          match r.tokens, inBlock, unindented with
          | .entry :: _, _, true => sequence (unindentedItems handles (depth + 1) bound r)
          | .scalar text style :: _, _, _ => scalar text style r.drop
          | .flowSequence :: _, _, _ => sequence (flowItems handles (depth + 1) true bound r.drop)
          | .flowMapping :: _, _, _ => mapping (flowPairs handles (depth + 1) true bound r.drop)
          | .blockSequence :: _, true, _ => sequence (blockItems handles (depth + 1) bound r.drop)
          | .blockMapping :: _, true, _ => mapping (blockPairs handles (depth + 1) bound r.drop)
          | _, _, _ =>
            if anchor.isSome || tag.isSome then scalar "" .plain r else .error r.fault
termination_by structural bound => bound

/-- Reads the entries of a sequence up to the end of its block. -/
def blockItems (handles : List (String × String)) (depth : Nat) : Nat → Rest → Except Fault (List Nat × Rest)
  | 0, _ => .error .malformed
  | bound + 1, r => do
    if r.next .entry then
      let r := r.drop
      let (n, r) ←
        if r.atOne [.entry, .blockEnd] then pure (r.add absent) else node handles depth true false bound r
      let (rest, r) ← blockItems handles depth bound r
      pure (n :: rest, r)
    else if r.next .blockEnd then pure ([], r.drop)
    else .error r.fault
termination_by structural bound => bound

/-- Reads the entries of a sequence that is not indented. -/
def unindentedItems (handles : List (String × String)) (depth : Nat) :
    Nat → Rest → Except Fault (List Nat × Rest)
  | 0, _ => .error .malformed
  | bound + 1, r => do
    if r.next .entry then
      let r := r.drop
      let (n, r) ←
        if r.atOne [.entry, .key, .value, .blockEnd] then pure (r.add absent)
        else node handles depth true false bound r
      let (rest, r) ← unindentedItems handles depth bound r
      pure (n :: rest, r)
    else pure ([], r)
termination_by structural bound => bound

/-- Reads the keys and values of a mapping up to the end of its block. -/
def blockPairs (handles : List (String × String)) (depth : Nat) :
    Nat → Rest → Except Fault (List (Nat × Nat) × Rest)
  | 0, _ => .error .malformed
  | bound + 1, r => do
    if r.next .blockEnd then pure ([], r.drop)
    else if r.next .key then
      let r := r.drop
      let (k, r) ←
        if r.atOne [.key, .value, .blockEnd] then pure (r.add absent) else node handles depth true true bound r
      let (v, r) ←
        if r.next .value then
          let r := r.drop
          if r.atOne [.key, .value, .blockEnd] then pure (r.add absent)
          else node handles depth true true bound r
        else pure (r.add absent)
      let (rest, r) ← blockPairs handles depth bound r
      pure ((k, v) :: rest, r)
    else .error r.fault
termination_by structural bound => bound

/-- Reads the value of a pair in a flow collection that ends with the given token. -/
def flowValue (handles : List (String × String)) (depth : Nat) (ending : Token) :
    Nat → Rest → Except Fault (Nat × Rest)
  | 0, _ => .error .malformed
  | bound + 1, r => do
    if r.next .value then
      let r := r.drop
      if r.atOne [.separator, ending] then pure (r.add absent) else node handles depth false false bound r
    else pure (r.add absent)
termination_by structural bound => bound

/-- Reads the items of a flow sequence up to its end; a pair among them is a mapping of its own. -/
def flowItems (handles : List (String × String)) (depth : Nat) (first : Bool) :
    Nat → Rest → Except Fault (List Nat × Rest)
  | 0, _ => .error .malformed
  | bound + 1, r => do
    if r.next .flowSequenceEnd then pure ([], r.drop)
    else if !first && !r.next .separator then .error r.fault
    else
      let r := if first then r else r.drop
      if r.next .flowSequenceEnd then pure ([], r.drop)
      else
        let (n, r) ←
          if r.next .key then
            if depthLimit < depth then .error .tooDeep
            else
              let r := r.drop
              let (k, r) ←
                if r.atOne [.value, .separator, .flowSequenceEnd] then pure (r.add absent)
                else node handles (depth + 1) false false bound r
              let (v, r) ← flowValue handles (depth + 1) .flowSequenceEnd bound r
              pure (r.add (mapping (commonTag "map") [(k, v)]))
          else node handles depth false false bound r
        let (rest, r) ← flowItems handles depth false bound r
        pure (n :: rest, r)
termination_by structural bound => bound

/-- Reads the pairs of a flow mapping up to its end. -/
def flowPairs (handles : List (String × String)) (depth : Nat) (first : Bool) :
    Nat → Rest → Except Fault (List (Nat × Nat) × Rest)
  | 0, _ => .error .malformed
  | bound + 1, r => do
    if r.next .flowMappingEnd then pure ([], r.drop)
    else if !first && !r.next .separator then .error r.fault
    else
      let r := if first then r else r.drop
      if r.next .flowMappingEnd then pure ([], r.drop)
      else
        let (p, r) ←
          if r.next .key then
            let r := r.drop
            let (k, r) ←
              if r.atOne [.value, .separator, .flowMappingEnd] then pure (r.add absent)
              else node handles depth false false bound r
            let (v, r) ← flowValue handles depth .flowMappingEnd bound r
            pure ((k, v), r)
          else
            let (k, r) ← node handles depth false false bound r
            let (v, r) := r.add absent
            pure ((k, v), r)
        let (rest, r) ← flowPairs handles depth false bound r
        pure (p :: rest, r)
termination_by structural bound => bound

end

/-- The handles of tags that every document has. -/
def commonHandles : List (String × String) :=
  [("!", "!"), ("!!", commonTag "")]

/-- Reads the directives before a document: its handles, and what is left. A handle is declared once, and
so is the version, whose first number must be one. -/
def directives (seenVersion : Bool) (declared : List (String × String)) :
    List Token → Except Fault (List (String × String) × List Token)
  | .versionDirective major :: rest =>
    if seenVersion || major != 1 then .error .malformed else directives true declared rest
  | .tagDirective handle lead :: rest =>
    if (declared.lookup handle).isSome then .error .malformed
    else directives seenVersion ((handle, lead) :: declared) rest
  | .otherDirective :: rest => directives seenVersion declared rest
  | rest => .ok (declared, rest)

/-- A token that stands before a document. -/
def isBefore : Token → Bool
  | .versionDirective _ | .tagDirective _ _ | .otherDirective | .documentStart => true
  | _ => false

/-- The nodes of one document, and the number of the one that holds all others. -/
structure Graph where
  nodes : Array Node
  root : Nat

/-- The nodes of a stream of tokens, if it has a document. -/
def ofTokens? (tokens : List Token) : Except Fault (Option Graph) := do
  match tokens with
  | [] => pure none
  | first :: _ =>
    let bound := 6 * tokens.length + 6
    let (id, r) ←
      if isBefore first then do
        let (declared, rest) ← directives false [] tokens
        match rest with
        | .documentStart :: body =>
          let bare : Bool := match body with
            | [] | .documentEnd :: _ => true
            | t :: _ => isBefore t
          if bare then pure (({ tokens := body } : Rest).add absent)
          else node (declared ++ commonHandles) 1 true false bound { tokens := body }
        | _ => .error ({ tokens := rest } : Rest).fault
      else node commonHandles 1 true false bound { tokens }
    let left := r.tokens.dropWhile (· == .documentEnd)
    if left.isEmpty then pure (some ⟨r.nodes, id⟩) else .error ({ r with tokens := left } : Rest).fault

end Node

end RequirePath.Yaml
