/-!
# Statement digests

The MD5 digest, by which the statement log recognises a statement that was seen before. A message
is padded to blocks of sixteen words; each block runs sixty-four steps over four words of state.
-/

namespace SqlDesk.Digest

structure State where
  a : UInt32
  b : UInt32
  c : UInt32
  d : UInt32
deriving DecidableEq, Repr

/-- The state before the first block. -/
def State.start : State := ⟨0x67452301, 0xefcdab89, 0x98badcfe, 0x10325476⟩

/-- The additive constants: the integer parts of `2 ^ 32 · |sin i|` for `i` from 1 to 64. -/
def constants : List UInt32 :=
  [
   0xd76aa478, 0xe8c7b756, 0x242070db, 0xc1bdceee, 0xf57c0faf, 0x4787c62a, 0xa8304613,
   0xfd469501, 0x698098d8, 0x8b44f7af, 0xffff5bb1, 0x895cd7be, 0x6b901122, 0xfd987193,
   0xa679438e, 0x49b40821, 0xf61e2562, 0xc040b340, 0x265e5a51, 0xe9b6c7aa, 0xd62f105d,
   0x02441453, 0xd8a1e681, 0xe7d3fbc8, 0x21e1cde6, 0xc33707d6, 0xf4d50d87, 0x455a14ed,
   0xa9e3e905, 0xfcefa3f8, 0x676f02d9, 0x8d2a4c8a, 0xfffa3942, 0x8771f681, 0x6d9d6122,
   0xfde5380c, 0xa4beea44, 0x4bdecfa9, 0xf6bb4b60, 0xbebfbc70, 0x289b7ec6, 0xeaa127fa,
   0xd4ef3085, 0x04881d05, 0xd9d4d039, 0xe6db99e5, 0x1fa27cf8, 0xc4ac5665, 0xf4292244,
   0x432aff97, 0xab9423a7, 0xfc93a039, 0x655b59c3, 0x8f0ccc92, 0xffeff47d, 0x85845dd1,
   0x6fa87e4f, 0xfe2ce6e0, 0xa3014314, 0x4e0811a1, 0xf7537e82, 0xbd3af235, 0x2ad7d2bb,
   0xeb86d391]

/-- The rotation amounts of the four rounds. -/
def rotations : List (List UInt32) :=
  [[7, 12, 17, 22], [5, 9, 14, 20], [4, 11, 16, 23], [6, 10, 15, 21]]

/-- Rotate a word to the left by less than its width. -/
def rotate (x s : UInt32) : UInt32 := (x <<< s) ||| (x >>> (32 - s))

/-- The mixing function of step `i` and the index of the message word it takes. -/
def mix (i : Nat) (s : State) : UInt32 × Nat :=
  match i / 16 with
  | 0 => ((s.b &&& s.c) ||| (~~~s.b &&& s.d), i)
  | 1 => ((s.d &&& s.b) ||| (~~~s.d &&& s.c), (5 * i + 1) % 16)
  | 2 => (s.b ^^^ s.c ^^^ s.d, (3 * i + 5) % 16)
  | _ => (s.c ^^^ (s.b ||| ~~~s.d), (7 * i) % 16)

/-- One step on a block. -/
def step (block : Array UInt32) (s : State) (ik : Nat × UInt32) : State :=
  let (f, g) := mix ik.1 s
  let r := ((rotations.getD (ik.1 / 16) []).getD (ik.1 % 4) 0)
  let sum := s.a + f + ik.2 + block.getD g 0
  ⟨s.d, s.b + rotate sum r, s.b, s.c⟩

/-- The state after one block. -/
def absorb (s : State) (block : Array UInt32) : State :=
  let t := ((List.range 64).zip constants).foldl (step block) s
  ⟨s.a + t.a, s.b + t.b, s.c + t.c, s.d + t.d⟩

/-- The low eight bytes of a number, least significant first. -/
def littleEndian : Nat → Nat → List UInt8
  | 0, _ => []
  | n + 1, x => UInt8.ofNat x :: littleEndian n (x / 256)

/-- A message with a one bit, zeros and its length in bits behind it, in whole blocks. -/
def padded (bs : List UInt8) : List UInt8 :=
  let zeros := (119 - bs.length % 64) % 64
  bs ++ 0x80 :: List.replicate zeros 0 ++ littleEndian 8 (8 * bs.length)

/-- The words of a byte sequence, least significant byte first. -/
def words : List UInt8 → List UInt32
  | a :: b :: c :: d :: rest =>
    (a.toUInt32 ||| (b.toUInt32 <<< 8) ||| (c.toUInt32 <<< 16) ||| (d.toUInt32 <<< 24))
      :: words rest
  | _ => []

/-- The blocks of sixteen words, at most `fuel` of them. -/
def blocks : Nat → List UInt32 → List (Array UInt32)
  | 0, _ => []
  | _, [] => []
  | fuel + 1, ws => (ws.take 16).toArray :: blocks fuel (ws.drop 16)

/-- The digest of a message. -/
def md5 (bs : List UInt8) : List UInt8 :=
  let ws := words (padded bs)
  let s := (blocks ws.length ws).foldl absorb .start
  [s.a, s.b, s.c, s.d].flatMap fun w => littleEndian 4 w.toNat

def hexByte (b : UInt8) : List Char :=
  [Nat.digitChar (b.toNat / 16), Nat.digitChar (b.toNat % 16)]

/-- The digest of a text's UTF-8 form in hexadecimal. -/
def ofText (s : String) : String := String.ofList ((md5 s.toUTF8.toList).flatMap hexByte)

end SqlDesk.Digest
