import RequirePath.Console.Action.Arguments
import RequirePath.Console.Emoji
import RequirePath.Console.Style
import RequirePath.Console.Wrap
import RequirePath.Failure

/-! Markup of console output: tags between square brackets set the style of what follows and leave no text,
and names of emoji between colons stand for them. Backslashes before a tag make it text; `escape` does so for
every tag in a text, and `render` gives the text that a console shows, with the styles of its characters. -/

namespace RequirePath.Markup

/-- Characters that the text between the brackets of a tag starts with. -/
def startsTag (c : Char) : Bool :=
  ('a' ≤ c && c ≤ 'z') || c == '#' || c == '/' || c == '@'

/-- The text of a tag up to its closing bracket, if no opening one comes before it. -/
def tagBody : List Char → Option (List Char × List Char)
  | [] => none
  | c :: rest =>
    if c = ']' then some ([], rest)
    else if c = '[' then none
    else (tagBody rest).map fun r => (c :: r.1, r.2)

/-- The text between the brackets of a tag that comes next, and what follows it. -/
def tag? : List Char → Option (List Char × List Char)
  | '[' :: c :: rest => if startsTag c then (tagBody rest).map fun r => (c :: r.1, r.2) else none
  | _ => none

/-- A text and the tags in it, with the number of backslashes before each tag. -/
inductive Piece
  | text (cs : List Char)
  | tag (backslashes : Nat) (body : List Char)

/-- Cuts a text at its tags. -/
def pieces : Nat → List Char → List Piece
  | 0, _ => []
  | _, [] => []
  | bound + 1, c :: rest =>
    let slashes := (c :: rest).takeWhile (· == '\\')
    match tag? ((c :: rest).drop slashes.length) with
    | some (body, after) => .tag slashes.length body :: pieces bound after
    | none =>
      if slashes.isEmpty then .text [c] :: pieces bound rest
      else .text slashes :: pieces bound ((c :: rest).drop slashes.length)

/-- The pieces of a text. -/
def cut (cs : List Char) : List Piece :=
  pieces (cs.length + 1) cs

/-- A text with its tags escaped: twice the backslashes before each, and one more. A single backslash at the
end is doubled, for it could escape what follows. -/
def escape (cs : List Char) : List Char :=
  let body := (cut cs).flatMap fun p =>
    match p with
    | .text t => t
    | .tag n b => List.replicate (2 * n + 1) '\\' ++ '[' :: b ++ [']']
  match body.reverse with
  | '\\' :: '\\' :: _ => body
  | '\\' :: _ => body ++ ['\\']
  | _ => body

/-- A text with its tags escaped. -/
def escapeText (s : String) : String :=
  String.ofList (escape s.toList)

/-- A text outside of tags as it is shown: a backslash before an opening bracket is left out. -/
def unescape : List Char → List Char
  | '\\' :: '[' :: rest => '[' :: unescape rest
  | c :: rest => c :: unescape rest
  | [] => []

/-- Texts next to each other become one. -/
def joinTexts : List Piece → List Piece
  | .text a :: rest =>
    match joinTexts rest with
    | .text b :: more => .text (a ++ b) :: more
    | more => .text a :: more
  | p :: rest => p :: joinTexts rest
  | [] => []

/-! ### Tags -/

/-- A tag that is open: the normal form of its style, what follows an equals sign, and its number. -/
structure OpenTag where
  name : List Char
  parameters : Option (List Char)
  number : Nat

/-- A tag by the text between its brackets: its name, and what follows an equals sign. -/
def cutTag (body : List Char) : List Char × Option (List Char) :=
  match body.dropWhile (· != '=') with
  | _ :: parameters => (body.takeWhile (· != '='), some parameters)
  | [] => (body, none)

/-- The failure of a colour that lacks a number. -/
def missingNumber : Failure :=
  .badValue "invalid literal for int() with base 10: ''"

/-- The normal form of the name of a style. -/
def styleName (name : List Char) : Except Failure (List Char) :=
  (Style.normal name).mapError fun _ => missingNumber

/-- Takes the innermost tag of a name out of the tags that are open. -/
def take (name : List Char) : List OpenTag → Option (OpenTag × List OpenTag)
  | [] => none
  | t :: rest =>
    if t.name == name then some (t, rest) else (take name rest).map fun r => (r.1, t :: r.2)

/-- What closing a tag finds wrong: the action of a tag for actions must be one. -/
def OpenTag.check (t : OpenTag) : Except Failure Unit :=
  match t.name, t.parameters with
  | '@' :: _, some (c :: cs) =>
    match Action.fault? (c :: cs) with
    | some message => .error (.markup message)
    | none => .ok ()
  | _, _ => .ok ()

/-- The tags that stay open after a closing tag with a name, or with none, and the given text between its
brackets. -/
def close (place : Nat) (body name : List Char) (tags : List OpenTag) : Except Failure (List OpenTag) := do
  if name.isEmpty then
    match tags with
    | t :: outer => do
      t.check
      pure outer
    | [] => .error (.markup s!"closing tag '[/]' at position {place} has nothing to close")
  else
    match take (← styleName name) tags with
    | some (t, left) => do
      t.check
      pure left
    | none =>
      let shown := String.ofList body
      .error (.markup s!"closing tag '[{shown}]' at position {place} doesn't match any open tag")

/-! ### Rendering -/

/-- Characters that a console does not print. -/
def isDropped (c : Char) : Bool :=
  c == '\x07' || c == '\x08' || c == '\x0b' || c == '\x0c' || c == '\r'

/-- Text as it is shown inside the tags that are open. -/
def shownText (tags : List OpenTag) (cs : List Char) : Glyphs :=
  Glyphs.ofChars (tags.map OpenTag.number) ((Emoji.replace cs).filter fun c => !isDropped c)

/-- A style that tags ask for and that lacks a number, if there is one. A tag with parameters asks for the
style of its name and its parameters as words. -/
def lacksNumber (name : List Char) (parameters : Option (List Char)) : Bool :=
  match parameters.map fun words => Style.read (name ++ ' ' :: words) with
  | some (.error .missingNumber) => true
  | _ => false

/-- Shows pieces one after another, with the tags that are open, the innermost first; `position` is the
place of the next piece, and `number` that of the next tag. -/
def showPieces : Nat → Nat → List OpenTag → List Piece → Except Failure Glyphs
  | _, _, _, [] => .ok []
  | position, number, tags, .text t :: rest =>
    (showPieces (position + t.length) number tags rest).map (shownText tags (unescape t) ++ ·)
  | position, number, tags, .tag n body :: rest => do
    let after := position + n + body.length + 2
    let slashes := shownText tags (List.replicate (n / 2) '\\')
    if n % 2 = 1 then
      let more ← showPieces after number tags rest
      pure (slashes ++ shownText tags ('[' :: body ++ [']']) ++ more)
    else
      let (name, parameters) := cutTag body
      match name with
      | '/' :: closed =>
        let left ← close (position + n) body (Text.trim closed) tags
        let more ← showPieces after number left rest
        pure (slashes ++ more)
      | _ =>
        let tag : OpenTag := ⟨← styleName name, parameters, number⟩
        let more ← showPieces after (number + 1) (tag :: tags) rest
        if name.head? != some '@' && lacksNumber tag.name parameters then .error missingNumber
        else pure (slashes ++ more)

/-- The text that markup shows. -/
def render (cs : List Char) : Except Failure Glyphs :=
  if cs.contains '[' then showPieces 0 0 [] (joinTexts (cut cs)) else .ok (shownText [] cs)

/-- The text that a console prints for markup. -/
def print (markup : String) : Except Failure (List Char) :=
  (render markup.toList).map fun text =>
    ['\n'].intercalate ((Wrap.lines Wrap.consoleWidth .fold text).map Glyphs.chars)

end RequirePath.Markup
