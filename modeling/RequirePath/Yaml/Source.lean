import RequirePath.Yaml.Text

/-! The characters of a document as they come from a file. They come batch by batch, and a byte string that
is no text, or a character that no document may hold, shows only when its batch comes. What stands before
that batch has been read by then, so a fault in it comes first. -/

namespace RequirePath.Yaml

/-- Characters that a document may hold. -/
def isAllowed (c : Char) : Bool :=
  let n := c.toNat
  n == 0x09 || n == 0x0A || n == 0x0D || (0x20 ≤ n && n ≤ 0x7E) || n == 0x85 ||
    (0xA0 ≤ n && n ≤ 0xD7FF) || (0xE000 ≤ n && n ≤ 0xFFFD) || 0x10000 ≤ n

/-- Characters that can be read, and the fault that comes after them, if one does. -/
structure Source where
  chars : List Char
  ending : Option Fault := none

namespace Source

/-- The number of bytes that are read from a file at once. -/
def pieceSize : Nat := 8192

/-- The number of characters that are asked for at once; the first batch is two times as long. -/
def batchSize : Nat := 4096

/-- The number of characters in the batches before the one that a character is in. -/
def batchStart (place : Nat) : Nat :=
  if place < 2 * batchSize then 0 else place / batchSize * batchSize

/-- Characters cut off before the batch that holds the first of a fault. -/
def cut (chars : List Char) (place : Nat) (fault : Fault) : Source :=
  ⟨chars.take (batchStart place), some fault⟩

/-- The characters of the pieces of a byte string, and its first fault, placed in its piece. The bytes of a
character that a piece cuts through stand before the next piece; without one they are cut off. -/
def decodePieces : Nat → List UInt8 → List UInt8 → List Char × Option Utf8.Fault
  | 0, _, _ => ([], none)
  | bound + 1, pending, bytes =>
    if bytes.isEmpty then
      match Utf8.decode pending with
      | .ok cs => (cs, none)
      | .error fault => ([], some fault)
    else
      let piece := pending ++ bytes.take pieceSize
      match Utf8.decode piece with
      | .ok cs =>
        let (more, fault) := decodePieces bound [] (bytes.drop pieceSize)
        (cs ++ more, fault)
      | .error fault =>
        match fault.reason with
        | .unexpectedEnd =>
          let whole := ((Utf8.decode (piece.take fault.position)).toOption).getD []
          let (more, fault) := decodePieces bound (piece.drop fault.position) (bytes.drop pieceSize)
          (whole ++ more, fault)
        | _ => ([], some fault)

/-- The number of characters that are there for a reader: a carriage return at the end waits for what
follows it. -/
def available (cs : List Char) : Nat :=
  let n := (Text.unifyNewlines cs).length
  if cs.getLast? == some '\r' then n - 1 else n

/-- Characters up to the batch with one that no document may hold. -/
def ofChars (cs : List Char) : Source :=
  if cs.all isAllowed then ⟨cs, none⟩ else cut cs (cs.takeWhile isAllowed).length .malformed

/-- The characters of the bytes of a file. -/
def ofBytes (bytes : List UInt8) : Source :=
  let (cs, fault) := decodePieces (bytes.length / pieceSize + 2) [] bytes
  let chars := Text.unifyNewlines cs
  match fault with
  | none => ofChars chars
  | some fault =>
    let read := cut chars (available cs) (.undecodable fault)
    if read.chars.all isAllowed then read else ofChars read.chars

end Source

end RequirePath.Yaml
