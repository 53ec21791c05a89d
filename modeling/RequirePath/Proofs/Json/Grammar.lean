import RequirePath.Json.Reader

/-! The grammar of JSON documents, apart from how they are read. Every rule gives the characters that spell a value.
The rules for integers and for brackets take bounds, one on the digits and one on the depth; a document without
bounds is one that some bounds admit. -/

namespace RequirePath.Json

/-- Blank characters only. -/
def Blank (cs : List Char) : Prop :=
  ∀ c ∈ cs, isBlank c = true

/-! ### Numbers -/

/-- One digit or more. -/
structure IsDigits (cs : List Char) : Prop where
  ne_nil : cs ≠ []
  digits : ∀ c ∈ cs, c.isDigit = true

/-- The digits of a whole number: a zero alone, or digits that do not start with one. -/
def IsWhole (cs : List Char) : Prop :=
  cs = ['0'] ∨ IsDigits cs ∧ cs.head? ≠ some '0'

/-- The digits after the point of a number; without them there is no point. -/
inductive IsFraction : List Char → List Char → Prop
  | absent : IsFraction [] []
  | point {ds : List Char} (hds : IsDigits ds) : IsFraction ds ('.' :: ds)

/-- The exponent of a number, zero if there is none. -/
inductive IsExponent : Int → List Char → Prop
  | absent : IsExponent 0 []
  | bare {e : Char} {ds : List Char} (he : e = 'e' ∨ e = 'E') (hds : IsDigits ds) :
      IsExponent (Text.digitsValue ds) (e :: ds)
  | plus {e : Char} {ds : List Char} (he : e = 'e' ∨ e = 'E') (hds : IsDigits ds) :
      IsExponent (Text.digitsValue ds) (e :: '+' :: ds)
  | minus {e : Char} {ds : List Char} (he : e = 'e' ∨ e = 'E') (hds : IsDigits ds) :
      IsExponent (-Text.digitsValue ds) (e :: '-' :: ds)

/-- A number after its sign: an integer has neither fraction nor exponent, and its digits are bounded. -/
inductive IsNumeral (digits : Nat) (negative : Bool) : Value → List Char → Prop
  | int {whole : List Char} (hwhole : IsWhole whole) (hdigits : whole.length ≤ digits) :
      IsNumeral digits negative
        (.int (if negative then -(Text.digitsValue whole : Int) else (Text.digitsValue whole : Int))) whole
  | float {whole frac exp fracDigits : List Char} {n : Int} (hwhole : IsWhole whole)
      (hfrac : IsFraction fracDigits frac) (hexp : IsExponent n exp) (hmore : frac ++ exp ≠ []) :
      IsNumeral digits negative
        (.float (Binary64.ofDecimal negative (Text.digitsValue (whole ++ fracDigits)) (n - fracDigits.length)))
        (whole ++ (frac ++ exp))

/-! ### Strings -/

/-- A four-digit escape of a second half comes next, and the string goes on after it. -/
def LowHalfNext (cs : List Char) : Prop :=
  ∃ a b c d e n rest, cs = '\\' :: 'u' :: a :: b :: c :: d :: e :: rest ∧ hexQuad? a b c d = some n ∧
    isLowHalf n = true

/-- The character that an escape stands for, the escape without its backslash, and what follows it. A first half
and a second half together stand for one character. -/
inductive IsEscape : Char → List Char → List Char → Prop
  | letter {c d : Char} {following : List Char} (h : simpleEscape? c = some d) : IsEscape d [c] following
  | unit {a b c d : Char} {n : Nat} {following : List Char} (h : hexQuad? a b c d = some n)
      (halone : isHighHalf n = true → ¬LowHalfNext following) :
      IsEscape (charOfUnit n) ['u', a, b, c, d] following
  | pair {a b c d a' b' c' d' : Char} {high low : Nat} {following : List Char} (h : hexQuad? a b c d = some high)
      (hhigh : isHighHalf high = true) (h' : hexQuad? a' b' c' d' = some low) (hlow : isLowHalf low = true) :
      IsEscape (charOfPair high low) ['u', a, b, c, d, '\\', 'u', a', b', c', d'] following

/-- The characters of a string, spelled after its opening quote up to its closing one. -/
inductive IsQuoted : List Char → List Char → Prop
  | close : IsQuoted [] ['\x22']
  | plain {c : Char} {chars cs : List Char} (hquote : c ≠ '\x22') (hslash : c ≠ '\\') (hcontrol : 0x20 ≤ c.toNat)
      (h : IsQuoted chars cs) : IsQuoted (c :: chars) (c :: cs)
  | escape {d : Char} {xs chars cs : List Char} (hd : IsEscape d xs cs) (h : IsQuoted chars cs) :
      IsQuoted (d :: chars) ('\\' :: (xs ++ cs))

/-! ### Values -/

/-- The constants. -/
inductive IsConstant : Value → List Char → Prop
  | null : IsConstant .null ['n', 'u', 'l', 'l']
  | true : IsConstant (.bool true) ['t', 'r', 'u', 'e']
  | false : IsConstant (.bool false) ['f', 'a', 'l', 's', 'e']
  | nan : IsConstant (.float .nan) ['N', 'a', 'N']
  | infinity : IsConstant (.float (.infinite false)) ['I', 'n', 'f', 'i', 'n', 'i', 't', 'y']
  | negativeInfinity : IsConstant (.float (.infinite true)) ['-', 'I', 'n', 'f', 'i', 'n', 'i', 't', 'y']

/-- What characters of a document may spell: a value, or the inside of an array or an object with its closing
bracket. -/
inductive Part
  | value (v : Value)
  | items (vs : List Value)
  | fields (fs : List (String × Value))

/-- The characters spell the part, in brackets of a bounded depth. The bracket that an inside closes counts. -/
inductive Spells (digits : Nat) : Nat → Part → List Char → Prop
  | constant {depth : Nat} {v : Value} {cs : List Char} (h : IsConstant v cs) : Spells digits depth (.value v) cs
  | positive {depth : Nat} {v : Value} {cs : List Char} (h : IsNumeral digits false v cs) :
      Spells digits depth (.value v) cs
  | negative {depth : Nat} {v : Value} {cs : List Char} (h : IsNumeral digits true v cs) :
      Spells digits depth (.value v) ('-' :: cs)
  | text {depth : Nat} {chars cs : List Char} (h : IsQuoted chars cs) :
      Spells digits depth (.value (.text (String.ofList chars))) ('\x22' :: cs)
  | emptyArray {depth : Nat} {b : List Char} (hb : Blank b) :
      Spells digits (depth + 1) (.value (.array [])) ('[' :: (b ++ [']']))
  | array {depth : Nat} {vs : List Value} {cs : List Char} (h : Spells digits depth (.items vs) cs) :
      Spells digits depth (.value (.array vs)) ('[' :: cs)
  | emptyObject {depth : Nat} {b : List Char} (hb : Blank b) :
      Spells digits (depth + 1) (.value (.object [])) ('\x7b' :: (b ++ ['\x7d']))
  | object {depth : Nat} {fs : List (String × Value)} {cs : List Char} (h : Spells digits depth (.fields fs) cs) :
      Spells digits depth (.value (.object (Fields.ofList fs))) ('\x7b' :: cs)
  | lastItem {depth : Nat} {v : Value} {b cs b' : List Char} (hb : Blank b) (h : Spells digits depth (.value v) cs)
      (hb' : Blank b') : Spells digits (depth + 1) (.items [v]) (b ++ (cs ++ (b' ++ [']'])))
  | item {depth : Nat} {v : Value} {vs : List Value} {b cs b' more : List Char} (hb : Blank b)
      (h : Spells digits depth (.value v) cs) (hb' : Blank b') (hmore : Spells digits (depth + 1) (.items vs) more) :
      Spells digits (depth + 1) (.items (v :: vs)) (b ++ (cs ++ (b' ++ ',' :: more)))
  | lastField {depth : Nat} {name : List Char} {v : Value} {b spelled b₁ b₂ cs b' : List Char} (hb : Blank b)
      (hname : IsQuoted name spelled) (hb₁ : Blank b₁) (hb₂ : Blank b₂) (h : Spells digits depth (.value v) cs)
      (hb' : Blank b') :
      Spells digits (depth + 1) (.fields [(String.ofList name, v)])
        (b ++ ('\x22' :: (spelled ++ (b₁ ++ ':' :: (b₂ ++ (cs ++ (b' ++ ['\x7d'])))))))
  | field {depth : Nat} {name : List Char} {v : Value} {fs : List (String × Value)}
      {b spelled b₁ b₂ cs b' more : List Char} (hb : Blank b) (hname : IsQuoted name spelled) (hb₁ : Blank b₁)
      (hb₂ : Blank b₂) (h : Spells digits depth (.value v) cs) (hb' : Blank b')
      (hmore : Spells digits (depth + 1) (.fields fs) more) :
      Spells digits (depth + 1) (.fields ((String.ofList name, v) :: fs))
        (b ++ ('\x22' :: (spelled ++ (b₁ ++ ':' :: (b₂ ++ (cs ++ (b' ++ ',' :: more)))))))

/-- The characters are a document: a value with nothing but blanks around it. -/
def IsDocument (digits depth : Nat) (v : Value) (cs : List Char) : Prop :=
  ∃ b spelled b', Blank b ∧ Spells digits depth (.value v) spelled ∧ Blank b' ∧ cs = b ++ (spelled ++ b')

/-- The characters are a document with an object of these fields, the first one first. -/
def IsObject (digits depth : Nat) (fs : List (String × Value)) (cs : List Char) : Prop :=
  ∃ b inside b', Blank b ∧ Spells digits depth (.fields fs) inside ∧ Blank b' ∧ cs = b ++ '\x7b' :: (inside ++ b')

theorem IsObject.isDocument {digits depth : Nat} {fs : List (String × Value)} {cs : List Char}
    (h : IsObject digits depth fs cs) : IsDocument digits depth (.object (Fields.ofList fs)) cs := by
  obtain ⟨b, inside, b', hb, hinside, hb', rfl⟩ := h
  exact ⟨b, '\x7b' :: inside, b', hb, .object hinside, hb', rfl⟩

/-- An object that is a document has no fields, or those that its characters give it. -/
theorem IsDocument.object_cases {digits depth : Nat} {fields : Fields} {cs : List Char}
    (h : IsDocument digits depth (.object fields) cs) :
    fields = [] ∨ ∃ fs, fields = Fields.ofList fs ∧ IsObject digits depth fs cs := by
  obtain ⟨b, spelled, b', hb, hspelled, hb', rfl⟩ := h
  cases hspelled with
  | constant h => cases h
  | positive h => cases h
  | negative h => cases h
  | emptyObject => exact Or.inl rfl
  | object h => exact Or.inr ⟨_, rfl, b, _, b', hb, h, hb', rfl⟩

/-! ### First characters -/

theorem LowHalfNext.append {cs : List Char} (h : LowHalfNext cs) (rest : List Char) : LowHalfNext (cs ++ rest) := by
  obtain ⟨a, b, c, d, e, n, more, rfl, hn, hlow⟩ := h
  exact ⟨a, b, c, d, e, n, more ++ rest, rfl, hn, hlow⟩

theorem IsDigits.cons {cs : List Char} (h : IsDigits cs) : ∃ c more, cs = c :: more ∧ c.isDigit = true := by
  obtain ⟨c, more, rfl⟩ := List.exists_cons_of_ne_nil h.ne_nil
  exact ⟨c, more, rfl, h.digits c List.mem_cons_self⟩

theorem IsWhole.isDigits {cs : List Char} (h : IsWhole cs) : IsDigits cs := by
  rcases h with rfl | ⟨hds, -⟩
  · exact ⟨by simp, by simp⟩
  · exact hds

/-- The first character of a number after its sign is a digit. -/
theorem IsNumeral.cons {digits : Nat} {negative : Bool} {v : Value} {cs : List Char}
    (h : IsNumeral digits negative v cs) : ∃ c more, cs = c :: more ∧ c.isDigit = true := by
  cases h with
  | int hwhole => exact hwhole.isDigits.cons
  | float hwhole =>
      obtain ⟨c, more, rfl, hc⟩ := hwhole.isDigits.cons
      exact ⟨c, _, rfl, hc⟩

/-- Characters that a value starts with. -/
def startsValue (c : Char) : Bool :=
  c.isDigit || c ∈ ['\x22', '[', '\x7b', '-', 'n', 't', 'f', 'N', 'I']

theorem Spells.value_cons {digits depth : Nat} {v : Value} {cs : List Char} (h : Spells digits depth (.value v) cs) :
    ∃ c more, cs = c :: more ∧ startsValue c = true := by
  cases h with
  | constant h => cases h <;> exact ⟨_, _, rfl, by decide⟩
  | positive h =>
      obtain ⟨c, more, rfl, hc⟩ := h.cons
      exact ⟨c, more, rfl, by simp [startsValue, hc]⟩
  | negative h => exact ⟨_, _, rfl, by decide⟩
  | text h => exact ⟨_, _, rfl, by decide⟩
  | emptyArray hb => exact ⟨_, _, rfl, by decide⟩
  | array h => exact ⟨_, _, rfl, by decide⟩
  | emptyObject hb => exact ⟨_, _, rfl, by decide⟩
  | object h => exact ⟨_, _, rfl, by decide⟩

theorem ne_of_holds {p : Char → Bool} {c d : Char} (hc : p c = true) (hd : p d = false) : c ≠ d := by
  rintro rfl
  rw [hc] at hd
  cases hd

theorem isBlank_of_startsValue {c : Char} (h : startsValue c = true) : isBlank c = false := by
  cases hblank : isBlank c with
  | false => rfl
  | true =>
      simp only [isBlank, Bool.or_eq_true, beq_iff_eq] at hblank
      rcases hblank with ((rfl | rfl) | rfl) | rfl
      · exact absurd h (by decide)
      · exact absurd h (by decide)
      · exact absurd h (by decide)
      · exact absurd h (by decide)

end RequirePath.Json
