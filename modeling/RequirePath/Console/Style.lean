import RequirePath.Text.Digits
import RequirePath.Text.Line
import RequirePath.Text.LowerCase
import RequirePath.Text.PlainNumber

/-! Styles of console output: attributes that are set or left out, colours and a link. A style is written in
words, and styles that say the same have one normal form, by which a closing tag finds its opening one. -/

namespace RequirePath

/-- What a style can set apart from colours. -/
inductive Attribute
  | bold
  | dim
  | italic
  | underline
  | blink
  | blink2
  | reverse
  | conceal
  | strike
  | underline2
  | frame
  | encircle
  | overline
  deriving DecidableEq, Repr

namespace Attribute

/-- The attributes with their names, in the order of a normal form. -/
def named : List (Attribute × String) :=
  [(bold, "bold"), (dim, "dim"), (italic, "italic"), (underline, "underline"), (blink, "blink"),
    (blink2, "blink2"), (reverse, "reverse"), (conceal, "conceal"), (strike, "strike"),
    (underline2, "underline2"), (frame, "frame"), (encircle, "encircle"), (overline, "overline")]

/-- The short names of attributes. -/
def shortNames : List (String × Attribute) :=
  [("b", bold), ("d", dim), ("i", italic), ("u", underline), ("r", reverse), ("c", conceal), ("s", strike),
    ("uu", underline2), ("o", overline)]

/-- The attribute of a name. -/
def ofWord? (word : String) : Option Attribute :=
  ((named.find? fun p => p.2 == word).map Prod.fst).or (shortNames.lookup word)

end Attribute

/-- A style. -/
structure Style where
  attributes : List (Attribute × Bool) := []
  color : Option String := none
  background : Option String := none
  link : Option String := none

namespace Style

/-- Why words are no style: they name nothing, or a colour lacks one of its three numbers. -/
inductive Fault
  | unknown
  | missingNumber
  deriving DecidableEq, Repr

/-! ### Colours -/

/-- The names of colours. -/
def colorNames : String := "
  black red green yellow blue magenta cyan white bright_black bright_red bright_green bright_yellow
  bright_blue bright_magenta bright_cyan bright_white grey0 gray0 navy_blue dark_blue blue3 blue1
  dark_green deep_sky_blue4 dodger_blue3 dodger_blue2 green4 spring_green4 turquoise4 deep_sky_blue3
  dodger_blue1 green3 spring_green3 dark_cyan light_sea_green deep_sky_blue2 deep_sky_blue1
  spring_green2 cyan3 dark_turquoise turquoise2 green1 spring_green1 medium_spring_green cyan2 cyan1
  dark_red deep_pink4 purple4 purple3 blue_violet orange4 grey37 gray37 medium_purple4 slate_blue3
  royal_blue1 chartreuse4 dark_sea_green4 pale_turquoise4 steel_blue steel_blue3 cornflower_blue
  chartreuse3 cadet_blue sky_blue3 steel_blue1 pale_green3 sea_green3 aquamarine3 medium_turquoise
  chartreuse2 sea_green2 sea_green1 aquamarine1 dark_slate_gray2 dark_magenta dark_violet purple
  light_pink4 plum4 medium_purple3 slate_blue1 yellow4 wheat4 grey53 gray53 light_slate_grey
  light_slate_gray medium_purple light_slate_blue dark_olive_green3 dark_sea_green light_sky_blue3
  sky_blue2 dark_sea_green3 dark_slate_gray3 sky_blue1 chartreuse1 light_green pale_green1
  dark_slate_gray1 red3 medium_violet_red magenta3 dark_orange3 indian_red hot_pink3 medium_orchid3
  medium_orchid medium_purple2 dark_goldenrod light_salmon3 rosy_brown grey63 gray63 medium_purple1
  gold3 dark_khaki navajo_white3 grey69 gray69 light_steel_blue3 light_steel_blue yellow3
  dark_sea_green2 light_cyan3 light_sky_blue1 green_yellow dark_olive_green2 dark_sea_green1
  pale_turquoise1 deep_pink3 magenta2 hot_pink2 orchid medium_orchid1 orange3 light_pink3 pink3
  plum3 violet light_goldenrod3 tan misty_rose3 thistle3 plum2 khaki3 light_goldenrod2 light_yellow3
  grey84 gray84 light_steel_blue1 yellow2 dark_olive_green1 honeydew2 light_cyan1 red1 deep_pink2
  deep_pink1 magenta1 orange_red1 indian_red1 hot_pink dark_orange salmon1 light_coral
  pale_violet_red1 orchid2 orchid1 orange1 sandy_brown light_salmon1 light_pink1 pink1 plum1 gold1
  navajo_white1 misty_rose1 thistle1 yellow1 light_goldenrod1 khaki1 wheat1 cornsilk1 grey100
  gray100 grey3 gray3 grey7 gray7 grey11 gray11 grey15 gray15 grey19 gray19 grey23 gray23 grey27
  gray27 grey30 gray30 grey35 gray35 grey39 gray39 grey42 gray42 grey46 gray46 grey50 gray50 grey54
  gray54 grey58 gray58 grey62 gray62 grey66 gray66 grey70 gray70 grey74 gray74 grey78 gray78 grey82
  gray82 grey85 gray85 grey89 gray89 grey93 gray93
"

/-- A word that names a colour. -/
def isColorName (word : String) : Bool :=
  word == "default" || (Text.words colorNames.toList).contains word.toList

/-- What stands between an opening text and a closing parenthesis. -/
def arguments? (opening : String) (cs : List Char) : Option (List Char) :=
  match cs.reverse with
  | ')' :: before =>
    let front := before.reverse
    if opening.toList.isPrefixOf front then some (front.drop opening.length) else none
  | _ => none

/-- The greatest number of a colour and of each of its parts. -/
def greatest : Nat := 255

/-- The number that decimal digits of any script write. -/
def numberOf (digits : List Char) : Nat :=
  Text.digitsValue (digits.map Text.plainNumberChar)

/-- Six digits of a colour in base sixteen, after their mark. -/
def isHexColor : List Char → Bool
  | '#' :: digits => digits.length == 6 && digits.all fun c => (Text.hexDigit? c).isSome
  | _ => false

/-- Checks the three numbers of a colour. -/
def checkParts (cs : List Char) : Except Fault Unit :=
  let parts := Text.splitAt ',' cs
  if cs.isEmpty || !(cs.all fun c => c == ',' || (Text.decimalDigit? c).isSome) then .error .unknown
  else if parts.length != 3 then .error .unknown
  else if parts.any List.isEmpty then .error .missingNumber
  else if parts.all fun p => numberOf p ≤ greatest then .ok ()
  else .error .unknown

/-- The colour that a word in any case names. -/
def colorOf (word : List Char) : Except Fault String :=
  let cs := Text.lower word
  let name := String.ofList cs
  if isColorName name || isHexColor cs then .ok name
  else
    match arguments? "color(" cs, arguments? "rgb(" cs with
    | some digits, _ =>
      if !digits.isEmpty && digits.length ≤ 3 && digits.all Char.isDigit && numberOf digits ≤ greatest then
        .ok name
      else .error .unknown
    | none, some parts => (checkParts parts).map fun _ => name
    | none, none => .error .unknown

/-! ### Words of a style -/

/-- Sets an attribute or leaves it out. -/
def set (s : Style) (a : Attribute) (on : Bool) : Style :=
  { s with attributes := (a, on) :: s.attributes }

/-- Reads the words of a style onto those before them; of two that set the same the later one counts. -/
def readFrom (s : Style) : List (List Char) → Except Fault Style
  | [] => .ok s
  | word :: rest =>
    let name := String.ofList (Text.lower word)
    if name = "on" then
      match rest with
      | color :: more => do
        let c ← colorOf color
        readFrom { s with background := some c } more
      | [] => .error .unknown
    else if name = "not" then
      match rest with
      | negated :: more =>
        match Attribute.ofWord? (String.ofList negated) with
        | some a => readFrom (s.set a false) more
        | none => .error .unknown
      | [] => .error .unknown
    else if name = "link" then
      match rest with
      | place :: more => readFrom { s with link := some (String.ofList place) } more
      | [] => .error .unknown
    else
      match Attribute.ofWord? name with
      | some a => readFrom (s.set a true) rest
      | none => do
        let c ← colorOf word
        readFrom { s with color := some c } rest

/-- Reads a style. -/
def read (cs : List Char) : Except Fault Style :=
  if Text.trim cs = "none".toList then .ok {} else readFrom {} (Text.words cs)

/-- The words of a style in their normal order. -/
def words (s : Style) : List String :=
  (Attribute.named.flatMap fun (a, name) =>
    match s.attributes.lookup a with
    | some true => [name]
    | some false => ["not", name]
    | none => []) ++
    s.color.toList ++ (s.background.toList.flatMap fun c => ["on", c]) ++
    s.link.toList.flatMap fun place => ["link", place]

/-- The normal form of a style. -/
def text (s : Style) : List Char :=
  if s.words.isEmpty then "none".toList else (String.intercalate " " s.words).toList

/-- The normal form of the name of a style; one that names no style is its own in lower case. -/
def normal (cs : List Char) : Except Fault (List Char) :=
  match read cs with
  | .ok s => .ok s.text
  | .error .unknown => .ok (Text.lower (Text.trim cs))
  | .error .missingNumber => .error .missingNumber

end Style

end RequirePath
