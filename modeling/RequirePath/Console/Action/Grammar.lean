import RequirePath.Console.Action.Tree

/-! The grammar of expressions, as phrases that are tried in order: of several that fit the first one counts.
Some phrases describe mistakes, and the first of them that fits says what is wrong. Most of them are tried only
once a text is known to be no expression; those in the pairs of a dictionary are tried at once. -/

namespace RequirePath.Action

/-- What a mistake is called, by the parts of its phrase and the number of brackets that are open after it;
`none` if it is none after all. -/
abbrev Naming := List Tree → Nat → Option String

/-- A phrase: a token with given characters or of a kind, one of some names, a rule, phrases one after another,
the first of several that fits, a phrase a number of times or more often, what comes next or does not come
next, a phrase whose parts do not count, one in which mistakes are not sought, one whose parts are checked,
mistakes, and mistakes that are tried even where others are not sought. -/
inductive Phrase
  | word (chars : String)
  | kind (k : Kind)
  | oneOf (names : List String)
  | rule (r : Rule)
  | seq (ps : List Phrase)
  | first (ps : List Phrase)
  | many (least : Nat) (p : Phrase)
  | ahead (p : Phrase)
  | notAhead (p : Phrase)
  | skip (p : Phrase)
  | calm (p : Phrase)
  | checked (p : Phrase) (fault : List Tree → Option String)
  | mistakes (cases : List (Phrase × Naming))
  | plainMistakes (cases : List (Phrase × Naming))

namespace Phrase

/-- A word or sign that leaves no part. -/
def mark (chars : String) : Phrase := .skip (.word chars)

/-- A phrase that may be missing. -/
def opt (p : Phrase) : Phrase := .first [p, .seq []]

/-- A phrase once or more often, with a sign between. -/
def separated (sign : String) (p : Phrase) : Phrase :=
  .seq [p, .many 0 (.seq [.mark sign, p])]

/-- A phrase, and signs with a phrase after each. -/
def chain (p : Phrase) (signs : List Phrase) : Phrase :=
  .seq [p, .many 0 (.seq [.first signs, p])]

/-- A mistake that always has the same name. -/
def mistake (name : String) (ps : List Phrase) : Phrase × Naming :=
  (.seq ps, fun _ _ => some name)

end Phrase

open Phrase

/-! ### Names of mistakes -/

/-- A comma may be missing between two expressions inside brackets, unless the first one asks for a call. -/
def missingComma : Naming := fun parts level =>
  let isOldCall : Bool := match parts with
    | .leaf t :: _ => t.kind == .name && (t.chars == "print".toList || t.chars == "exec".toList)
    | _ => false
  if isOldCall || level = 0 then none else some "invalid syntax. Perhaps you forgot a comma?"

/-- Two names ask for a call without brackets. -/
def missingCall : Naming := fun parts _ =>
  match parts with
  | .leaf t :: _ =>
    let name := String.ofList t.chars
    if name = "print" || name = "exec" then
      some s!"Missing parentheses in call to '{name}'. Did you mean {name}(...)?"
    else none
  | _ => none

/-- A mistake that is called by the kind of its first part. -/
def byKind (before after : String) : Naming := fun parts _ =>
  parts.head?.map fun t => before ++ t.kindName ++ after

/-- A generator among several arguments needs brackets of its own. -/
def bareGenerator : Naming := fun parts _ =>
  match parts with
  | args :: _ =>
    let count := (args.parts.filter fun p => !(p matches .node .named _ | .node .doubleStarred _)).length
    if count ≤ 1 then none else some "Generator expression must be parenthesized"
  | _ => none

/-- An argument without a name stands after one with a name. -/
def misplaced : Naming := fun parts _ =>
  match parts with
  | args :: _ =>
    if args.parts.any fun p => p matches .node .doubleStarred _ then
      some "positional argument follows keyword argument unpacking"
    else some "positional argument follows keyword argument"
  | _ => none

/-- The first part of an expression that cannot be assigned to. -/
def unassignable? : Nat → Tree → Option Tree
  | 0, _ => none
  | bound + 1, t =>
    match t with
    | .leaf token => if token.kind == .name then none else some t
    | .node r parts =>
      match r with
      | .tuple | .bareTuple | .starExpressions => parts.findSome? (unassignable? bound)
      | .starred | .starredSum => parts.head?.bind (unassignable? bound)
      | .comparison =>
        if parts[1]?.any (Tree.isWord "in") then parts.head?.bind (unassignable? bound) else none
      | .primary =>
        match parts.getLast? with
        | some (.leaf _) => none
        | _ => some t
      | _ => some t

/-- The number of nestings in which a part that cannot be assigned to is sought. -/
def nestingLimit : Nat := 1000

/-- What a loop assigns to must be something that can be assigned to. -/
def unassignable : Naming := fun parts _ =>
  (parts.findSome? (unassignable? nestingLimit)).map fun t => "cannot assign to " ++ t.kindName

/-- The name of a lone equals sign. -/
def loneEquals : String := "invalid syntax. Maybe you meant '==' or ':=' instead of '='?"

/-- The name of a generator that needs brackets of its own. -/
def generatorBrackets : String := "Generator expression must be parenthesized"

/-- The name of a list before a loop that needs brackets of its own. -/
def targetBrackets : String := "did you forget parentheses around the comprehension target?"

/-- The name of a key without a value. -/
def missingValue : String := "expression expected after dictionary key and ':'"

/-- The name of a value that is to be spread. -/
def starredValue : String := "cannot use a starred expression in a dictionary value"

/-! ### Lists of phrases -/

/-- A sign that shows that an equals sign is not the last one. -/
def moreEquals : Phrase := first [word "=", word ":="]

/-- The items of a tuple or a set. -/
def itemList : Phrase := seq [separated "," (rule .item), opt (mark ",")]

/-- The pairs of a dictionary. -/
def pairList : Phrase := seq [separated "," (rule .dictPair), opt (mark ",")]

/-- An expression that is not assigned to a name. -/
def unassigned : Phrase := first [rule .assignment, seq [rule .expression, notAhead (word ":=")]]

/-- The loops of a generator. -/
def loops : Phrase := many 1 (rule .clause)

/-- The start of a loop. -/
def loopStart : Phrase := seq [opt (word "async"), word "for"]

/-- Mistakes in a generator. -/
def badGenerator : Phrase :=
  mistakes
    [mistake "iterable unpacking cannot be used in comprehension"
        [first [mark "(", mark "\x7b"], rule .starred, loops],
      mistake targetBrackets [mark "\x7b", rule .item, mark ",", itemList, loops],
      mistake targetBrackets [mark "\x7b", rule .item, mark ",", loops]]

/-- Mistakes in a pair of a dictionary. -/
def badPair : Phrase :=
  plainMistakes
    [mistake "':' expected after dictionary key" [rule .expression, notAhead (word ":")],
      mistake starredValue [rule .expression, word ":", word "*", rule .bitOr],
      mistake missingValue [rule .expression, word ":", ahead (first [word "\x7d", word ","])]]

/-- Mistakes in the pairs of a dictionary. -/
def badPairs : Phrase :=
  first
    [seq [separated "," (rule .dictPair), mark ",", badPair],
      plainMistakes
        [mistake starredValue [rule .expression, word ":", word "*", rule .bitOr],
          mistake missingValue [rule .expression, word ":", ahead (first [word "\x7d", word ","])]]]

/-- Mistakes in an argument with a name. -/
def badNamed : Phrase :=
  mistakes
    [(seq [first [word "True", word "False", word "None"], word "="], byKind "cannot assign to " ""),
      mistake loneEquals [kind .name, word "=", rule .expression, loops],
      mistake "expression cannot contain assignment, perhaps you meant \"==\"?"
        [notAhead (seq [kind .name, word "="]), rule .expression, word "="]]

/-- An argument with a name, or arguments that are spread by place. -/
def keyed : Phrase := first [badNamed, rule .named, rule .starred]

/-- An argument with a name, or arguments that are spread by name. -/
def doubleKeyed : Phrase := first [badNamed, rule .named, rule .doubleStarred]

/-- The arguments with names. -/
def keyedList : Phrase :=
  first
    [seq [separated "," keyed, mark ",", separated "," doubleKeyed], separated "," keyed,
      separated "," doubleKeyed]

/-- Mistakes in arguments. -/
def badArguments : Phrase :=
  mistakes
    [mistake "iterable argument unpacking follows keyword argument unpacking"
        [rule .given, word ",", word "*"],
      mistake generatorBrackets
        [rule .expression, loops, word ",", opt (first [rule .given, seq [rule .expression, loops]])],
      mistake loneEquals [kind .name, word "=", rule .expression, loops],
      (seq [rule .given, loops], bareGenerator),
      mistake generatorBrackets [rule .given, word ",", rule .expression, loops],
      (seq [rule .given, mark ",", rule .given], misplaced)]

/-- A parameter of a function without a name. -/
def parameter : Phrase :=
  first
    [seq [word "**", kind .name], seq [word "*", opt (kind .name)], word "/",
      seq [kind .name, opt (seq [mark "=", rule .expression])]]

/-- A sign after which an expression goes on. -/
def goesOn : Phrase := first [word "(", word "."]

/-- What may follow an expression to make a longer one of it. -/
def trailer : Phrase := first [seq [mark ".", kind .name], rule .generator, rule .call]

/-- A choice between two expressions. -/
def choice : Phrase :=
  seq [rule .disjunction, word "if", rule .disjunction, word "else", rule .expression]

/-! ### Rules -/

/-- Signs of comparison. -/
def comparisons : List Phrase :=
  [word "==", word "!=", word "<=", word "<", word ">=", word ">", seq [word "not", word "in"], word "in",
    seq [word "is", word "not"], word "is"]

/-- The phrase of a rule, with a check of texts that stand next to each other. -/
def Rule.phrase (textFault : List Tree → Option String) : Rule → Phrase
  | .whole =>
    seq [first [rule .bareTuple, rule .expression], many 0 (skip (kind .lineEnd)), skip (kind .ending)]
  | .bareTuple =>
    seq [rule .expression,
      first [seq [many 1 (seq [mark ",", rule .expression]), opt (mark ",")], mark ","]]
  | .expression =>
    first
      [mistakes
          [(seq [notAhead (first [seq [kind .name, kind .text], oneOf ["_", "case", "match"]]),
              rule .disjunction, calm (rule .plainExpression)], missingComma),
            mistake "expected 'else' after 'if' expression"
              [rule .disjunction, word "if", rule .disjunction, notAhead (first [word "else", word ":"])]],
        mistakes [(seq [kind .name, notAhead (word "("), rule .starExpressions], missingCall)],
        choice, rule .disjunction, rule .lambda]
  | .plainExpression => first [choice, rule .disjunction, rule .lambda]
  | .starExpressions => seq [separated "," (rule .starExpression), opt (mark ",")]
  | .starExpression => first [rule .starredSum, rule .expression]
  | .starredSum => seq [mark "*", rule .bitOr]
  | .item => first [rule .starredSum, rule .namedExpression]
  | .assignment => seq [kind .name, mark ":=", rule .expression]
  | .namedExpression =>
    first
      [rule .assignment,
        mistakes
          [(seq [rule .expression, word ":=", rule .expression],
              byKind "cannot use assignment expressions with " ""),
            mistake loneEquals [kind .name, word "=", rule .bitOr, notAhead moreEquals],
            (seq [notAhead (first [rule .tuple, rule .generator, word "True", word "None", word "False"]),
                rule .bitOr, word "=", rule .bitOr, notAhead moreEquals],
              byKind "cannot assign to " " here. Maybe you meant '==' instead of '='?")],
        seq [rule .expression, notAhead (word ":=")]]
  | .disjunction => chain (rule .conjunction) [word "or"]
  | .conjunction => chain (rule .inversion) [word "and"]
  | .inversion => first [seq [word "not", rule .inversion], rule .comparison]
  | .comparison => chain (rule .bitOr) comparisons
  | .bitOr => chain (rule .bitXor) [word "|"]
  | .bitXor => chain (rule .bitAnd) [word "^"]
  | .bitAnd => chain (rule .shift) [word "&"]
  | .shift => chain (rule .sum) [word "<<", word ">>"]
  | .sum => chain (rule .term) [word "+", word "-"]
  | .term => chain (rule .factor) [word "*", word "/", word "//", word "%", word "@"]
  | .factor => first [seq [first [word "+", word "-", word "~"], rule .factor], rule .power]
  | .power => first [seq [rule .awaited, word "**", rule .factor], rule .awaited]
  | .awaited => first [seq [word "await", rule .primary], rule .primary]
  | .primary => seq [rule .atom, many 0 trailer]
  | .atom =>
    first
      [kind .name, word "True", word "False", word "None", seq [ahead (kind .text), rule .texts], kind .number,
        seq [ahead (word "("), first [rule .tuple, rule .group, rule .generator]],
        seq [ahead (word "\x7b"), first [rule .dict, rule .set, rule .dictOf, rule .setOf]], word "..."]
  | .texts => checked (many 1 (kind .text)) textFault
  | .group =>
    first
      [seq [mark "(", first [rule .yielded, rule .namedExpression], mark ")"],
        mistakes
          [mistake "cannot use starred expression here" [mark "(", rule .starred, mark ")"],
            mistake "cannot use double starred expression here"
              [mark "(", mark "**", rule .expression, mark ")"]]]
  | .yielded =>
    first [seq [word "yield", word "from", rule .expression], seq [word "yield", opt (rule .starExpressions)]]
  | .lambda =>
    seq [word "lambda", opt (seq [separated "," parameter, opt (mark ",")]), word ":", rule .expression]
  | .tuple => seq [mark "(", opt (seq [rule .item, mark ",", opt itemList]), mark ")"]
  | .set => seq [mark "\x7b", itemList, mark "\x7d"]
  | .dict =>
    first [seq [mark "\x7b", opt pairList, mark "\x7d"], seq [mark "\x7b", badPairs, mark "\x7d"]]
  | .dictPair => first [rule .spread, rule .pair]
  | .spread => seq [mark "**", rule .bitOr]
  | .pair => seq [rule .expression, mark ":", rule .expression]
  | .clause =>
    first
      [seq [loopStart, rule .targets, word "in", rule .disjunction,
          many 0 (seq [word "if", rule .disjunction])],
        seq [notAhead (seq [loopStart, rule .targets, word "in"]),
          mistakes [(seq [skip loopStart, rule .starExpressions], unassignable)]]]
  | .setOf => first [seq [mark "\x7b", rule .namedExpression, loops, mark "\x7d"], badGenerator]
  | .generator => first [seq [mark "(", unassigned, loops, mark ")"], badGenerator]
  | .dictOf =>
    first
      [seq [mark "\x7b", rule .pair, loops, mark "\x7d"],
        mistakes
          [mistake "dict unpacking cannot be used in dict comprehension"
            [mark "\x7b", mark "**", rule .bitOr, loops, mark "\x7d"]]]
  | .call => seq [mark "(", opt (rule .arguments), mark ")"]
  | .arguments => first [seq [rule .given, opt (mark ","), ahead (word ")")], badArguments]
  | .given =>
    first
      [seq [separated "," (first [rule .starred, seq [unassigned, notAhead (word "=")]]),
          opt (seq [mark ",", keyedList])],
        keyedList]
  | .starred =>
    first
      [seq [mark "*", rule .expression], checked (word "*") fun _ => some "Invalid star expression"]
  | .doubleStarred => seq [mark "**", rule .expression]
  | .named => seq [kind .name, mark "=", rule .expression]
  | .targets =>
    first
      [seq [rule .target, notAhead (word ",")],
        seq [separated "," (rule .target), opt (mark ",")]]
  | .target => first [seq [word "*", notAhead (word "*"), rule .target], rule .targetAtom]
  | .targetAtom =>
    first
      [seq [rule .targetPrimary, mark ".", kind .name, notAhead goesOn], kind .name,
        seq [mark "(", rule .targetAtom, mark ")"],
        seq [mark "(",
          opt (seq [rule .target, mark ",", opt (seq [separated "," (rule .target), opt (mark ",")])]),
          mark ")"]]
  | .targetPrimary => seq [rule .atom, ahead goesOn, many 0 (seq [trailer, ahead goesOn])]

/-- A rule whose phrase is read once at each place. -/
def Rule.isKept : Rule → Bool
  | .expression | .starExpression | .disjunction | .conjunction | .inversion | .bitOr | .bitXor | .bitAnd
  | .shift | .sum | .term | .factor | .awaited | .primary | .texts | .arguments | .target | .targetAtom
  | .targetPrimary => true
  | _ => false

/-- A rule that leaves a trace even where it has one part only. -/
def Rule.isShown : Rule → Bool
  | .bareTuple | .starredSum | .yielded | .tuple | .set | .dict | .spread | .setOf | .generator | .dictOf | .call
  | .given | .starred | .doubleStarred => true
  | _ => false

end RequirePath.Action
