import RequirePath.Console.Action.Grammar

/-! Reading of expressions by the grammar. A text that is no expression is read a second time to find out which
mistake it holds; a token that cannot be read counts before all other mistakes, and so does a bracket of an
earlier line that stays open. -/

namespace RequirePath.Action

/-- Why reading stops: at a token that is none, or at a mistake. -/
inductive Stop
  | atToken (message : String)
  | atMistake (message : String)

/-- What a phrase finds at a place: its parts, and the place after it. -/
abbrev Found := Option (List Tree × Nat)

/-- The last place that has been looked at, and what rules have found at places. -/
structure Memory where
  reach : Nat := 0
  found : List ((Rule × Nat) × Found) := []

/-- A step of reading. -/
abbrev Reading (α : Type) : Type := ExceptT Stop (StateM Memory) α

/-- What the tokens are and how texts among them are checked. -/
structure Source where
  tokens : Array Token
  textFault : List Tree → Option String

namespace Reading

/-- The token at a place. Reading stops there if it is none. -/
def tokenAt (s : Source) (place : Nat) : Reading Token := do
  modify fun m => { m with reach := max m.reach place }
  match s.tokens[place]? with
  | some t =>
    match t.kind with
    | .broken _ message => throw (.atToken message)
    | _ => pure t
  | none => pure { kind := .ending }

/-- Finds a single token of a class. -/
def single (s : Source) (place : Nat) (fits : Token → Bool) : Reading Found := do
  let t ← tokenAt s place
  pure (if fits t then some ([.leaf t], place + 1) else none)

/-- The trees that a rule leaves for its parts. -/
def leave (r : Rule) (parts : List Tree) : List Tree :=
  match parts, r.isShown with
  | [_], false => parts
  | _, _ => [.node r parts]

mutual

/-- Reads a phrase at a place. Mistakes are sought only if asked for. -/
def phrase (s : Source) (seeking : Bool) : Nat → Phrase → Nat → Reading Found
  | 0, _, _ => pure none
  | bound + 1, p, place => do
    match p with
    | .word chars => single s place fun t => t.kind == .word && t.chars == chars.toList
    | .kind k => single s place fun t => t.kind == k
    | .oneOf names => single s place fun t => t.kind == .name && names.contains (String.ofList t.chars)
    | .rule r => do
      let memory ← get
      match memory.found.lookup (r, place) with
      | some found => pure found
      | none => do
        let read ← phrase s seeking bound (r.phrase s.textFault) place
        let found : Found := read.map fun (parts, after) => (leave r parts, after)
        if r.isKept then modify fun m => { m with found := ((r, place), found) :: m.found }
        pure found
    | .seq ps => inTurn s seeking bound ps place
    | .first ps => firstOf s seeking bound ps place
    | .many least p => repeated s seeking bound least p place
    | .ahead p => pure ((← phrase s seeking bound p place).map fun _ => ([], place))
    | .notAhead p =>
      pure (if (← phrase s seeking bound p place).isSome then none else some ([], place))
    | .skip p => pure ((← phrase s seeking bound p place).map fun (_, after) => ([], after))
    | .calm p => phrase s false bound p place
    | .checked p fault =>
      match ← phrase s seeking bound p place with
      | some (parts, after) =>
        match fault parts with
        | some message => throw (.atMistake message)
        | none => pure (some (parts, after))
      | none => pure none
    | .mistakes cases => if seeking then mistake s true bound cases place else pure none
    | .plainMistakes cases => mistake s seeking bound cases place
termination_by structural bound => bound

/-- Reads phrases one after another. -/
def inTurn (s : Source) (seeking : Bool) : Nat → List Phrase → Nat → Reading Found
  | 0, _, _ => pure none
  | _, [], place => pure (some ([], place))
  | bound + 1, p :: rest, place => do
    match ← phrase s seeking bound p place with
    | none => pure none
    | some (parts, after) =>
      pure ((← inTurn s seeking bound rest after).map fun (more, after) => (parts ++ more, after))
termination_by structural bound => bound

/-- Reads the first of some phrases that fits. -/
def firstOf (s : Source) (seeking : Bool) : Nat → List Phrase → Nat → Reading Found
  | 0, _, _ => pure none
  | _, [], _ => pure none
  | bound + 1, p :: rest, place => do
    match ← phrase s seeking bound p place with
    | none => firstOf s seeking bound rest place
    | found => pure found
termination_by structural bound => bound

/-- Reads a phrase as often as it fits, and a number of times at least. -/
def repeated (s : Source) (seeking : Bool) : Nat → Nat → Phrase → Nat → Reading Found
  | 0, _, _, _ => pure none
  | bound + 1, least, p, place => do
    match ← phrase s seeking bound p place with
    | none => pure (if least = 0 then some ([], place) else none)
    | some (parts, after) =>
      if after = place then pure (some (parts, after))
      else
        pure ((← repeated s seeking bound (least - 1) p after).map fun (more, after) => (parts ++ more, after))
termination_by structural bound => bound

/-- Stops at the first mistake that fits, if it has a name. -/
def mistake (s : Source) (seeking : Bool) : Nat → List (Phrase × Naming) → Nat → Reading Found
  | 0, _, _ => pure none
  | _, [], _ => pure none
  | bound + 1, (p, naming) :: rest, place => do
    match ← phrase s seeking bound p place with
    | none => mistake s seeking bound rest place
    | some (parts, after) =>
      let level := (s.tokens[after - 1]?.map Token.level).getD 0
      match naming parts level with
      | some message => throw (.atMistake message)
      | none => pure none
termination_by structural bound => bound

end

/-- How deeply phrases may stand in one another, for each token. -/
def depthPerToken : Nat := 400

/-- Reads a whole text. -/
def whole (s : Source) (seeking : Bool) : Reading Found :=
  phrase s seeking (depthPerToken * (s.tokens.size + 1)) (.rule .whole) 0

end Reading

/-- The token that is none among those after a place, if it counts before a mistake there. A bracket that is
open counts if it is on an earlier line, `near` the place too or not. -/
def laterFault? (tokens : Array Token) (place : Nat) (near : Bool) : Option String :=
  let line := (tokens[place]?.map Token.line).getD 1
  (tokens.toList.drop (place + 1)).zipIdx.findSome? fun (t, distance) =>
    match t.kind with
    | .broken grave message =>
      if grave || (t.line < line && (near || 0 < distance)) then some message else none
    | _ => none

/-- Reads an expression, or says what is wrong. -/
def readTree (textFault : List Tree → Option String) (cs : List Char) : Except String Tree :=
  let source : Source := ⟨(tokens cs).toArray, textFault⟩
  let stop (s : Stop) (reach : Nat) : Except String Tree :=
    match s with
    | .atToken message => .error message
    | .atMistake message => .error ((laterFault? source.tokens reach false).getD message)
  match (Reading.whole source false).run {} with
  | (.ok (some (tree :: _, _)), _) => .ok tree
  | (.error s, m) => stop s m.reach
  | (.ok _, first) =>
    match (Reading.whole source true).run { reach := first.reach } with
    | (.error s, m) => stop s m.reach
    | (.ok _, m) =>
      if (source.tokens[first.reach]?.map Token.kind) == some .indent then .error "unexpected indent"
      else .error ((laterFault? source.tokens m.reach true).getD "invalid syntax")

end RequirePath.Action
