/-! UTF-8 between characters and bytes. `encode` writes characters as bytes; `decode` reads bytes back and
stops at the first ill-formed sequence, telling where it is, how long it is and what is wrong with it;
`decodeLossy` shows each ill-formed sequence as one replacement character. An ill-formed sequence is the
longest start of a well-formed one, or one byte if there is none. -/

namespace RequirePath.Utf8

/-- The bytes of one character: one to four of them, by the size of its code point. -/
def encodeChar (c : Char) : List UInt8 :=
  let n := c.toNat
  if n < 0x80 then [n.toUInt8]
  else if n < 0x800 then [(0xC0 + n / 64).toUInt8, (0x80 + n % 64).toUInt8]
  else if n < 0x10000 then
    [(0xE0 + n / 4096).toUInt8, (0x80 + n / 64 % 64).toUInt8, (0x80 + n % 64).toUInt8]
  else
    [(0xF0 + n / 262144).toUInt8, (0x80 + n / 4096 % 64).toUInt8, (0x80 + n / 64 % 64).toUInt8,
      (0x80 + n % 64).toUInt8]

/-- The bytes of a text. -/
def encode (cs : List Char) : List UInt8 :=
  cs.flatMap encodeChar

/-- What is wrong with an ill-formed sequence. -/
inductive Reason
  | invalidStart
  | invalidContinuation
  | unexpectedEnd
  deriving DecidableEq, Repr

/-- The wording of a reason. -/
def Reason.message : Reason → String
  | .invalidStart => "invalid start byte"
  | .invalidContinuation => "invalid continuation byte"
  | .unexpectedEnd => "unexpected end of data"

/-- The first ill-formed sequence of a byte string: its offset, its first byte, the number of further bytes
that belong to it, and the reason. -/
structure Fault where
  position : Nat
  first : UInt8
  further : Nat
  reason : Reason
  deriving DecidableEq, Repr

/-- Bytes that may only continue a sequence. -/
def isContinuation (b : UInt8) : Bool :=
  0x80 ≤ b && b < 0xC0

/-- The second bytes that a first byte admits: shorter forms of the same code point, surrogates and code
points past the last plane are ruled out here. -/
def admitsSecond (first second : UInt8) : Bool :=
  isContinuation second &&
    !(first == 0xE0 && second < 0xA0) && !(first == 0xED && 0xA0 ≤ second) &&
    !(first == 0xF0 && second < 0x90) && !(first == 0xF4 && 0x90 ≤ second)

/-- The number of bytes that follow a first byte in a well-formed sequence, if it can start one. -/
def following? (first : UInt8) : Option Nat :=
  if first < 0x80 then some 0
  else if first < 0xC2 then none
  else if first < 0xE0 then some 1
  else if first < 0xF0 then some 2
  else if first < 0xF5 then some 3
  else none

/-- The six bits that a continuation byte carries. -/
def payload (b : UInt8) : Nat := b.toNat % 64

/-- The sequence at the front of a byte string: a character and how many bytes follow its first one, or
how many bytes belong to the ill-formed sequence besides its first one, and why it is ill-formed. -/
def sequence (first : UInt8) (rest : List UInt8) : (Char × Nat) ⊕ (Nat × Reason) :=
  match following? first with
  | none => .inr (0, .invalidStart)
  | some 0 => .inl (Char.ofNat first.toNat, 0)
  | some 1 =>
    match rest with
    | b :: _ =>
      if admitsSecond first b then .inl (Char.ofNat (first.toNat % 32 * 64 + payload b), 1)
      else .inr (0, .invalidContinuation)
    | [] => .inr (0, .unexpectedEnd)
  | some 2 =>
    match rest with
    | b :: c :: _ =>
      if !admitsSecond first b then .inr (0, .invalidContinuation)
      else if !isContinuation c then .inr (1, .invalidContinuation)
      else .inl (Char.ofNat (first.toNat % 16 * 4096 + payload b * 64 + payload c), 2)
    | [b] => if admitsSecond first b then .inr (1, .unexpectedEnd) else .inr (0, .invalidContinuation)
    | [] => .inr (0, .unexpectedEnd)
  | some _ =>
    match rest with
    | b :: c :: d :: _ =>
      if !admitsSecond first b then .inr (0, .invalidContinuation)
      else if !isContinuation c then .inr (1, .invalidContinuation)
      else if !isContinuation d then .inr (2, .invalidContinuation)
      else
        .inl (Char.ofNat (first.toNat % 8 * 262144 + payload b * 4096 + payload c * 64 + payload d), 3)
    | [b, c] =>
      if !admitsSecond first b then .inr (0, .invalidContinuation)
      else if !isContinuation c then .inr (1, .invalidContinuation)
      else .inr (2, .unexpectedEnd)
    | [b] => if admitsSecond first b then .inr (1, .unexpectedEnd) else .inr (0, .invalidContinuation)
    | [] => .inr (0, .unexpectedEnd)

/-- Reads characters; `skip` bytes at the front belong to a sequence that has been read. -/
def decodeFrom (position skip : Nat) : List UInt8 → Except Fault (List Char)
  | [] => .ok []
  | b :: rest =>
    match skip with
    | k + 1 => decodeFrom (position + 1) k rest
    | 0 =>
      match sequence b rest with
      | .inl (c, k) => (decodeFrom (position + 1) k rest).map (c :: ·)
      | .inr (further, reason) => .error ⟨position, b, further, reason⟩

/-- The characters of a byte string, or its first ill-formed sequence. -/
def decode (bytes : List UInt8) : Except Fault (List Char) :=
  decodeFrom 0 0 bytes

/-- The characters of a byte string that has any. -/
def decode? (bytes : List UInt8) : Option (List Char) :=
  (decode bytes).toOption

/-- The character that stands for an ill-formed sequence. -/
def replacement : Char := '\ufffd'

/-- Reads characters; `skip` bytes at the front belong to a sequence that has been read. -/
def decodeLossyFrom (skip : Nat) : List UInt8 → List Char
  | [] => []
  | b :: rest =>
    match skip with
    | k + 1 => decodeLossyFrom k rest
    | 0 =>
      match sequence b rest with
      | .inl (c, k) => c :: decodeLossyFrom k rest
      | .inr (k, _) => replacement :: decodeLossyFrom k rest

/-- The characters of a byte string, each ill-formed sequence shown as one replacement character. -/
def decodeLossy (bytes : List UInt8) : List Char :=
  decodeLossyFrom 0 bytes

/-- Two lowercase hexadecimal digits. -/
def hexByte (b : UInt8) : String :=
  let digits := Nat.toDigits 16 b.toNat
  String.ofList (if digits.length < 2 then '0' :: digits else digits)

/-- The wording of a fault: it names one bad byte by value, or several by their range of offsets. -/
def Fault.message (f : Fault) : String :=
  let place :=
    if f.further = 0 then s!"byte 0x{hexByte f.first} in position {f.position}"
    else s!"bytes in position {f.position}-{f.position + f.further}"
  "'utf-8' codec can't decode " ++ place ++ ": " ++ f.reason.message

end RequirePath.Utf8
