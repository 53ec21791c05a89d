/-! Options and arguments of a command line. A long option has its value after an equals sign or in the next
word; short options can stand together behind one hyphen; two hyphens end the options. -/

namespace RequirePath.Command

/-- An option: its short and long spellings, the word for its value if it takes one, and its help. -/
structure OptionSpec where
  short : Option Char
  long : String
  value : Option String
  help : String

/-- What a command line gives: options with their values in order, and arguments. -/
structure Parsed where
  options : List (String × Option String) := []
  arguments : List String := []

namespace Parsed

/-- The value of an option: the last one given. -/
def value? (p : Parsed) (long : String) : Option String :=
  (p.options.reverse.find? fun o => o.1 == long).bind Prod.snd

/-- An option is given. -/
def has (p : Parsed) (long : String) : Bool :=
  p.options.any fun o => o.1 == long

end Parsed

/-- What one word gives: options, and perhaps one whose value is the next word. -/
structure Word where
  given : List (String × Option String)
  pending : Option String

/-- The name and the value of a word with an equals sign. -/
def splitValue (word : String) : String × Option String :=
  let cs := word.toList
  let name := cs.takeWhile (· != '=')
  match cs.drop name.length with
  | _ :: value => (String.ofList name, some (String.ofList value))
  | [] => (word, none)

/-- Reads short options that stand together. -/
def shortOptions (specs : List OptionSpec) : List Char → Option Word
  | [] => some ⟨[], none⟩
  | c :: rest =>
    match specs.find? fun s => s.short == some c with
    | none => none
    | some s =>
      if s.value.isSome then
        if rest.isEmpty then some ⟨[], some s.long⟩ else some ⟨[(s.long, some (String.ofList rest))], none⟩
      else (shortOptions specs rest).map fun w => { w with given := (s.long, none) :: w.given }

/-- Reads a word that starts with a hyphen; `none` if it is no option. -/
def option? (specs : List OptionSpec) (word : String) : Option Word :=
  let (name, value) := splitValue word
  match specs.find? fun s => s.long == name with
  | some s =>
    match s.value, value with
    | some _, some v => some ⟨[(s.long, some v)], none⟩
    | some _, none => some ⟨[], some s.long⟩
    | none, some _ => none
    | none, none => some ⟨[(s.long, none)], none⟩
  | none =>
    match word.toList with
    | '-' :: '-' :: _ => none
    | _ :: letters => shortOptions specs letters
    | [] => none

/-- A word that is an option: a hyphen with something after it. -/
def isOption (word : String) : Bool :=
  match word.toList with
  | '-' :: _ :: _ => true
  | _ => false

/-- Puts options in front. -/
def Parsed.withOptions (p : Parsed) (options : List (String × Option String)) : Parsed :=
  { p with options := options ++ p.options }

/-- Reads a command line; `none` if a word is no option or a value is missing. With `mixed` off, the first
argument ends the options. -/
def parse (specs : List OptionSpec) (mixed : Bool) : List String → Option Parsed
  | [] => some {}
  | word :: rest =>
    if word = "--" then some { arguments := rest }
    else if isOption word then
      match option? specs word with
      | none => none
      | some ⟨given, none⟩ => (parse specs mixed rest).map (·.withOptions given)
      | some ⟨given, some name⟩ =>
        match rest with
        | [] => none
        | value :: more => (parse specs mixed more).map (·.withOptions (given ++ [(name, some value)]))
    else if mixed then
      (parse specs mixed rest).map fun p => { p with arguments := word :: p.arguments }
    else some { arguments := word :: rest }

end RequirePath.Command
