import RequirePath.Console.Action.Token

/-! Expressions as trees: tokens, and rules of the grammar with their parts. Most rules leave no trace where they
have one part only, so that a tree shows what kind of expression it is. -/

namespace RequirePath.Action

/-- The rules of the grammar of expressions. -/
inductive Rule
  | whole
  | bareTuple
  | expression
  | plainExpression
  | starExpressions
  | starExpression
  | starredSum
  | item
  | assignment
  | namedExpression
  | disjunction
  | conjunction
  | inversion
  | comparison
  | bitOr
  | bitXor
  | bitAnd
  | shift
  | sum
  | term
  | factor
  | power
  | awaited
  | primary
  | atom
  | texts
  | group
  | yielded
  | lambda
  | tuple
  | set
  | dict
  | dictPair
  | spread
  | pair
  | clause
  | setOf
  | generator
  | dictOf
  | call
  | arguments
  | given
  | starred
  | doubleStarred
  | named
  | targets
  | target
  | targetAtom
  | targetPrimary
  deriving DecidableEq, Repr

/-- A tree. -/
inductive Tree
  | leaf (t : Token)
  | node (r : Rule) (parts : List Tree)

namespace Tree

/-- The parts of a tree. -/
def parts : Tree → List Tree
  | .leaf _ => []
  | .node _ ps => ps

/-- A tree is a single word or sign. -/
def isWord (chars : String) : Tree → Bool
  | .leaf t => t.kind == .word && t.chars == chars.toList
  | .node _ _ => false

/-- The marks before the quote of a text, in lower case. -/
def marks (t : Token) : List Char :=
  (t.chars.takeWhile Char.isAlpha).map Char.toLower

/-- A text that holds expressions of its own. -/
def isForm (t : Token) : Bool :=
  t.kind == .text && (marks t).contains 'f'

/-- The name of the kind of an expression. -/
def kindName : Tree → String
  | .leaf t =>
    match t.kind with
    | .name => "name"
    | .word =>
      let chars := String.ofList t.chars
      if chars = "..." then "ellipsis" else chars
    | _ => if isForm t then "f-string expression" else "literal"
  | .node r parts =>
    match r with
    | .expression => "conditional expression"
    | .lambda => "lambda"
    | .comparison => "comparison"
    | .awaited => "await expression"
    | .primary =>
      match parts.getLast? with
      | some (.leaf _) => "attribute"
      | _ => "function call"
    | .texts =>
      let holdsForm := parts.any fun p =>
        match p with
        | .leaf t => isForm t
        | .node _ _ => false
      if holdsForm then "f-string expression" else "literal"
    | .yielded => "yield expression"
    | .tuple | .bareTuple => "tuple"
    | .set => "set display"
    | .dict => "dict literal"
    | .setOf => "set comprehension"
    | .generator => "generator expression"
    | .dictOf => "dict comprehension"
    | .assignment => "named expression"
    | .starred | .starredSum => "starred"
    | _ => "expression"

end Tree

end RequirePath.Action
