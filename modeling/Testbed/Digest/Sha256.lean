/-!
# SHA-256

The hash of a sequence of bytes, as the standard FIPS 180-4 gives it.
-/
namespace Testbed.Sha256

/-- The first 32 bits of the fractional parts of the cube roots of the first 64 primes. -/
def roundConstants : List UInt32 := [
  0x428a2f98, 0x71374491, 0xb5c0fbcf, 0xe9b5dba5, 0x3956c25b, 0x59f111f1, 0x923f82a4, 0xab1c5ed5,
  0xd807aa98, 0x12835b01, 0x243185be, 0x550c7dc3, 0x72be5d74, 0x80deb1fe, 0x9bdc06a7, 0xc19bf174,
  0xe49b69c1, 0xefbe4786, 0x0fc19dc6, 0x240ca1cc, 0x2de92c6f, 0x4a7484aa, 0x5cb0a9dc, 0x76f988da,
  0x983e5152, 0xa831c66d, 0xb00327c8, 0xbf597fc7, 0xc6e00bf3, 0xd5a79147, 0x06ca6351, 0x14292967,
  0x27b70a85, 0x2e1b2138, 0x4d2c6dfc, 0x53380d13, 0x650a7354, 0x766a0abb, 0x81c2c92e, 0x92722c85,
  0xa2bfe8a1, 0xa81a664b, 0xc24b8b70, 0xc76c51a3, 0xd192e819, 0xd6990624, 0xf40e3585, 0x106aa070,
  0x19a4c116, 0x1e376c08, 0x2748774c, 0x34b0bcb5, 0x391c0cb3, 0x4ed8aa4a, 0x5b9cca4f, 0x682e6ff3,
  0x748f82ee, 0x78a5636f, 0x84c87814, 0x8cc70208, 0x90befffa, 0xa4506ceb, 0xbef9a3f7, 0xc67178f2]

/-- The eight words of a running hash. -/
structure State where
  a : UInt32
  b : UInt32
  c : UInt32
  d : UInt32
  e : UInt32
  f : UInt32
  g : UInt32
  h : UInt32

/-- The first 32 bits of the fractional parts of the square roots of the first eight primes. -/
def State.initial : State :=
  ⟨0x6a09e667, 0xbb67ae85, 0x3c6ef372, 0xa54ff53a, 0x510e527f, 0x9b05688c, 0x1f83d9ab, 0x5be0cd19⟩

def rotateRight (x n : UInt32) : UInt32 := (x >>> n) ||| (x <<< (32 - n))

/-- One round with its message word and constant. -/
def State.round (s : State) (word constant : UInt32) : State :=
  let upper := rotateRight s.e 6 ^^^ rotateRight s.e 11 ^^^ rotateRight s.e 25
  let chosen := (s.e &&& s.f) ^^^ ((s.e ^^^ 0xffffffff) &&& s.g)
  let first := s.h + upper + chosen + constant + word
  let lower := rotateRight s.a 2 ^^^ rotateRight s.a 13 ^^^ rotateRight s.a 22
  let majority := (s.a &&& s.b) ^^^ (s.a &&& s.c) ^^^ (s.b &&& s.c)
  ⟨first + (lower + majority), s.a, s.b, s.c, s.d + first, s.e, s.f, s.g⟩

def State.add (s t : State) : State :=
  ⟨s.a + t.a, s.b + t.b, s.c + t.c, s.d + t.d, s.e + t.e, s.f + t.f, s.g + t.g, s.h + t.h⟩

/-- The next word of a schedule whose words so far are given with the newest first. -/
def nextWord (newest : List UInt32) : UInt32 :=
  let word (back : Nat) := newest.getD (back - 1) 0
  let near := word 2
  let far := word 15
  let s1 := rotateRight near 17 ^^^ rotateRight near 19 ^^^ (near >>> 10)
  let s0 := rotateRight far 7 ^^^ rotateRight far 18 ^^^ (far >>> 3)
  word 16 + s0 + word 7 + s1

/-- Extend a block's words, newest first, by a number of scheduled words. -/
def extendSchedule : Nat → List UInt32 → List UInt32
  | 0, newest => newest
  | n + 1, newest => extendSchedule n (nextWord newest :: newest)

/-- Take a block of sixteen words into the hash. -/
def State.absorb (s : State) (block : List UInt32) : State :=
  let schedule := (extendSchedule 48 block.reverse).reverse
  let mixed := (schedule.zip roundConstants).foldl (fun t pair => t.round pair.1 pair.2) s
  s.add mixed

def bigEndian (n : Nat) : (count : Nat) → List UInt8
  | 0 => []
  | count + 1 => (n / Nat.pow 2 (8 * count)).toUInt8 :: bigEndian n count

/-- The message with a one bit, zeros and its length in bits, a multiple of 64 bytes. -/
def pad (message : List UInt8) : List UInt8 :=
  let zeros := (119 - message.length % 64) % 64
  message ++ 0x80 :: List.replicate zeros 0 ++ bigEndian (8 * message.length) 8

/-- Group bytes into words; what does not fill a word is dropped. -/
def words : List UInt8 → List UInt32
  | a :: b :: c :: d :: rest =>
    ((a.toUInt32 <<< 24) ||| (b.toUInt32 <<< 16) ||| (c.toUInt32 <<< 8) ||| d.toUInt32) :: words rest
  | _ => []

/-- Take words into the hash, sixteen at a time, for a number of blocks. -/
def absorbBlocks (s : State) : (blocks : Nat) → List UInt32 → State
  | 0, _ => s
  | blocks + 1, words => absorbBlocks (s.absorb (words.take 16)) blocks (words.drop 16)

/-- The 32 bytes of the hash of a message. -/
def hash (message : List UInt8) : List UInt8 :=
  let words := words (pad message)
  let s := absorbBlocks .initial (words.length / 16) words
  [s.a, s.b, s.c, s.d, s.e, s.f, s.g, s.h].flatMap (fun word => bigEndian word.toNat 4)

/-- A byte as two lower-case hexadecimal digits. -/
def hexByte (b : UInt8) : List Char :=
  let digits := Nat.toDigits 16 b.toNat
  List.replicate (2 - digits.length) '0' ++ digits

/-- The hash of a text's UTF-8 bytes in lower-case hexadecimal digits. -/
def hexDigest (text : String) : String :=
  String.ofList ((hash text.toUTF8.toList).flatMap hexByte)

end Testbed.Sha256
