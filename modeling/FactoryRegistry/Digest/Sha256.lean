import FactoryRegistry.Text.Digit

/-!
# SHA-256

The secure hash of 256 bits. A message is padded to whole blocks of sixty-four bytes
(`padded`); each block is expanded into a schedule of sixty-four words and folded into a chaining
value of eight words by sixty-four rounds.
-/

namespace FactoryRegistry.Digest

/-- The round constants: the first bits of the fractional parts of the cube roots of the first
sixty-four primes. -/
def roundConstants : List UInt32 := [
  0x428a2f98, 0x71374491, 0xb5c0fbcf, 0xe9b5dba5, 0x3956c25b, 0x59f111f1, 0x923f82a4, 0xab1c5ed5,
  0xd807aa98, 0x12835b01, 0x243185be, 0x550c7dc3, 0x72be5d74, 0x80deb1fe, 0x9bdc06a7, 0xc19bf174,
  0xe49b69c1, 0xefbe4786, 0x0fc19dc6, 0x240ca1cc, 0x2de92c6f, 0x4a7484aa, 0x5cb0a9dc, 0x76f988da,
  0x983e5152, 0xa831c66d, 0xb00327c8, 0xbf597fc7, 0xc6e00bf3, 0xd5a79147, 0x06ca6351, 0x14292967,
  0x27b70a85, 0x2e1b2138, 0x4d2c6dfc, 0x53380d13, 0x650a7354, 0x766a0abb, 0x81c2c92e, 0x92722c85,
  0xa2bfe8a1, 0xa81a664b, 0xc24b8b70, 0xc76c51a3, 0xd192e819, 0xd6990624, 0xf40e3585, 0x106aa070,
  0x19a4c116, 0x1e376c08, 0x2748774c, 0x34b0bcb5, 0x391c0cb3, 0x4ed8aa4a, 0x5b9cca4f, 0x682e6ff3,
  0x748f82ee, 0x78a5636f, 0x84c87814, 0x8cc70208, 0x90befffa, 0xa4506ceb, 0xbef9a3f7, 0xc67178f2]

/-- A chaining value: eight words. -/
structure Chain where
  /-- The first word. -/
  a : UInt32
  /-- The second word. -/
  b : UInt32
  /-- The third word. -/
  c : UInt32
  /-- The fourth word. -/
  d : UInt32
  /-- The fifth word. -/
  e : UInt32
  /-- The sixth word. -/
  f : UInt32
  /-- The seventh word. -/
  g : UInt32
  /-- The eighth word. -/
  h : UInt32
  deriving DecidableEq

/-- The initial chaining value. -/
def Chain.initial : Chain :=
  ⟨0x6a09e667, 0xbb67ae85, 0x3c6ef372, 0xa54ff53a, 0x510e527f, 0x9b05688c, 0x1f83d9ab, 0x5be0cd19⟩

/-- The words of a chaining value. -/
def Chain.words (s : Chain) : List UInt32 := [s.a, s.b, s.c, s.d, s.e, s.f, s.g, s.h]

/-- A word rotated to the right, by one to thirty-one places. -/
def rotateRight (x n : UInt32) : UInt32 := (x >>> n) ||| (x <<< (32 - n))

/-- One round with a schedule word and a round constant. -/
def Chain.round (s : Chain) (w k : UInt32) : Chain :=
  let s1 := rotateRight s.e 6 ^^^ rotateRight s.e 11 ^^^ rotateRight s.e 25
  let choice := (s.e &&& s.f) ^^^ (~~~ s.e &&& s.g)
  let t1 := s.h + s1 + choice + k + w
  let s0 := rotateRight s.a 2 ^^^ rotateRight s.a 13 ^^^ rotateRight s.a 22
  let majority := (s.a &&& s.b) ^^^ (s.a &&& s.c) ^^^ (s.b &&& s.c)
  ⟨t1 + (s0 + majority), s.a, s.b, s.c, s.d + t1, s.e, s.f, s.g⟩

/-- Wordwise sum of two chaining values. -/
def Chain.add (s t : Chain) : Chain :=
  ⟨s.a + t.a, s.b + t.b, s.c + t.c, s.d + t.d, s.e + t.e, s.f + t.f, s.g + t.g, s.h + t.h⟩

/-- The next schedule word from the words before it, the latest first. -/
def nextWord (ws : List UInt32) : UInt32 :=
  let w (i : Nat) := ws.getD (i - 1) 0
  let s0 := rotateRight (w 15) 7 ^^^ rotateRight (w 15) 18 ^^^ (w 15 >>> 3)
  let s1 := rotateRight (w 2) 17 ^^^ rotateRight (w 2) 19 ^^^ (w 2 >>> 10)
  w 16 + s0 + w 7 + s1

/-- Extends a schedule, the latest word first, by a number of words. -/
def extendSchedule : Nat → List UInt32 → List UInt32
  | 0, ws => ws
  | n + 1, ws => extendSchedule n (nextWord ws :: ws)

/-- The schedule of a block's sixteen words. -/
def schedule (block : List UInt32) : List UInt32 := (extendSchedule 48 block.reverse).reverse

/-- The chaining value after a block. -/
def compress (s : Chain) (block : List UInt32) : Chain :=
  s.add (((schedule block).zip roundConstants).foldl (fun s (w, k) => s.round w k) s)

/-- The bytes of a number, most significant first. -/
def bigEndian : (width : Nat) → Nat → List UInt8
  | 0, _ => []
  | width + 1, n => bigEndian width (n / 256) ++ [UInt8.ofNat (n % 256)]

/-- The message with a one bit, enough zeros and its length in bits, in whole blocks. -/
def padded (message : List UInt8) : List UInt8 :=
  let n := message.length
  message ++ 0x80 :: List.replicate ((119 - n % 64) % 64) 0 ++ bigEndian 8 (8 * n)

/-- The words of a byte sequence, most significant byte first. Fewer than four bytes at the end are
no word. -/
def toWords : List UInt8 → List UInt32
  | a :: b :: c :: d :: bs =>
    (a.toUInt32 <<< 24 ||| b.toUInt32 <<< 16 ||| c.toUInt32 <<< 8 ||| d.toUInt32) :: toWords bs
  | _ => []

/-- The chaining value after all whole blocks of sixteen words. -/
def compressAll (s : Chain) (ws : List UInt32) : Chain :=
  if ws.length < 16 then s else compressAll (compress s (ws.take 16)) (ws.drop 16)
termination_by ws.length
decreasing_by simp only [List.length_drop]; omega

/-- The hash of a message as hexadecimal text. -/
def sha256 (message : List UInt8) : String :=
  String.ofList ((compressAll Chain.initial (toWords (padded message))).words.flatMap
    fun w => Text.hex 8 w.toNat)

end FactoryRegistry.Digest
