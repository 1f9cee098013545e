/-!
# UTF-8

Reading bytes as text. A malformed sequence is reported at its first byte, and its extent is the
longest proper start of a well-formed sequence, as the Unicode standard recommends; the lenient
reader puts one replacement character in its place.
-/

namespace SqlDesk.Text

/-- What is wrong with a byte sequence. -/
inductive Utf8Issue where
  | invalidStart
  | invalidContinuation
  | unexpectedEnd
deriving DecidableEq, Repr

/-- A malformed sequence: where it starts, how many bytes it spans and why it is refused. -/
structure Utf8Error where
  position : Nat
  length : Nat
  first : UInt8
  issue : Utf8Issue
deriving DecidableEq, Repr

/-- The outcome of reading one character: the character or the issue, and how many bytes it takes. -/
inductive Utf8Step where
  | char (c : Char) (size : Nat)
  | bad (issue : Utf8Issue) (size : Nat)

/-- The bytes allowed as the second byte of a sequence that starts with `b`. -/
def secondRange (b : Nat) : Nat × Nat :=
  if b == 0xE0 then (0xA0, 0xBF)
  else if b == 0xED then (0x80, 0x9F)
  else if b == 0xF0 then (0x90, 0xBF)
  else if b == 0xF4 then (0x80, 0x8F)
  else (0x80, 0xBF)

/-- How many bytes a sequence that starts with `b` has, 0 if none does. -/
def sequenceLength (b : Nat) : Nat :=
  if b < 0x80 then 1
  else if b < 0xC2 then 0
  else if b < 0xE0 then 2
  else if b < 0xF0 then 3
  else if b < 0xF5 then 4
  else 0

/-- Read the `want` continuation bytes after the first `got` bytes, which encode `acc`. -/
def continueChar (range : Nat × Nat) (acc got : Nat) : Nat → List UInt8 → Utf8Step
  | 0, _ => .char (Char.ofNat acc) got
  | _ + 1, [] => .bad .unexpectedEnd got
  | want + 1, b :: bs =>
    if range.1 ≤ b.toNat && b.toNat ≤ range.2 then
      continueChar (0x80, 0xBF) (acc * 64 + (b.toNat - 0x80)) (got + 1) want bs
    else .bad .invalidContinuation got

/-- Read one character from a non-empty byte sequence. -/
def readChar (b : UInt8) (bs : List UInt8) : Utf8Step :=
  match sequenceLength b.toNat with
  | 0 => .bad .invalidStart 1
  | 1 => .char (Char.ofNat b.toNat) 1
  | 2 => continueChar (secondRange b.toNat) (b.toNat - 0xC0) 1 1 bs
  | 3 => continueChar (secondRange b.toNat) (b.toNat - 0xE0) 1 2 bs
  | _ => continueChar (secondRange b.toNat) (b.toNat - 0xF0) 1 3 bs

/-- Read a byte sequence at offset `pos`, putting `patch` in place of a malformed part, or stopping
there if `patch` is `none`. -/
def decodeFrom (patch : Option Char) : Nat → Nat → List UInt8 → Except Utf8Error (List Char)
  | 0, _, _ => .ok []
  | _, _, [] => .ok []
  | fuel + 1, pos, b :: bs =>
    match readChar b bs with
    | .char c n => (c :: ·) <$> decodeFrom patch fuel (pos + n) (bs.drop (n - 1))
    | .bad issue n =>
      match patch with
      | none => .error ⟨pos, n, b, issue⟩
      | some c => (c :: ·) <$> decodeFrom patch fuel (pos + n) (bs.drop (n - 1))

/-- The text that the bytes encode, or the first malformed sequence. -/
def decode (bs : List UInt8) : Except Utf8Error String :=
  String.ofList <$> decodeFrom none bs.length 0 bs

/-- The text that the bytes encode, with U+FFFD for each malformed sequence. -/
def decodeLossy (bs : List UInt8) : String :=
  match decodeFrom (some '\uFFFD') bs.length 0 bs with
  | .ok cs => String.ofList cs
  | .error _ => ""

/-- The UTF-8 encoding of a text. -/
def encode (s : String) : List UInt8 := s.toUTF8.toList

def Utf8Issue.reason : Utf8Issue → String
  | .invalidStart => "invalid start byte"
  | .invalidContinuation => "invalid continuation byte"
  | .unexpectedEnd => "unexpected end of data"

end SqlDesk.Text
