/-!
# SHA-256

The hash function of FIPS 180-4 on lists of bytes. A message is padded to whole blocks of sixteen
words, and each block is mixed into a state of eight words.
-/

namespace OpenApiTools.Sha256

/-- The state between blocks. -/
structure State where
  a : UInt32
  b : UInt32
  c : UInt32
  d : UInt32
  e : UInt32
  f : UInt32
  g : UInt32
  h : UInt32

/-- The state before the first block: the fractional parts of the square roots of the first eight
primes. -/
def initialState : State where
  a := 0x6a09e667
  b := 0xbb67ae85
  c := 0x3c6ef372
  d := 0xa54ff53a
  e := 0x510e527f
  f := 0x9b05688c
  g := 0x1f83d9ab
  h := 0x5be0cd19

/-- The round constants: the fractional parts of the cube roots of the first sixty-four primes. -/
def roundConstants : List UInt32 :=
  [0x428a2f98, 0x71374491, 0xb5c0fbcf, 0xe9b5dba5, 0x3956c25b, 0x59f111f1, 0x923f82a4, 0xab1c5ed5,
   0xd807aa98, 0x12835b01, 0x243185be, 0x550c7dc3, 0x72be5d74, 0x80deb1fe, 0x9bdc06a7, 0xc19bf174,
   0xe49b69c1, 0xefbe4786, 0x0fc19dc6, 0x240ca1cc, 0x2de92c6f, 0x4a7484aa, 0x5cb0a9dc, 0x76f988da,
   0x983e5152, 0xa831c66d, 0xb00327c8, 0xbf597fc7, 0xc6e00bf3, 0xd5a79147, 0x06ca6351, 0x14292967,
   0x27b70a85, 0x2e1b2138, 0x4d2c6dfc, 0x53380d13, 0x650a7354, 0x766a0abb, 0x81c2c92e, 0x92722c85,
   0xa2bfe8a1, 0xa81a664b, 0xc24b8b70, 0xc76c51a3, 0xd192e819, 0xd6990624, 0xf40e3585, 0x106aa070,
   0x19a4c116, 0x1e376c08, 0x2748774c, 0x34b0bcb5, 0x391c0cb3, 0x4ed8aa4a, 0x5b9cca4f, 0x682e6ff3,
   0x748f82ee, 0x78a5636f, 0x84c87814, 0x8cc70208, 0x90befffa, 0xa4506ceb, 0xbef9a3f7, 0xc67178f2]

/-- Rotation to the right. -/
def rotate (x : UInt32) (count : UInt32) : UInt32 :=
  (x >>> count) ||| (x <<< (32 - count))

/-- The mixing function of the schedule for the word fifteen places back. -/
def smallSigma0 (x : UInt32) : UInt32 := rotate x 7 ^^^ rotate x 18 ^^^ (x >>> 3)

/-- The mixing function of the schedule for the word two places back. -/
def smallSigma1 (x : UInt32) : UInt32 := rotate x 17 ^^^ rotate x 19 ^^^ (x >>> 10)

/-- The mixing function of a round for the first half of the state. -/
def bigSigma0 (x : UInt32) : UInt32 := rotate x 2 ^^^ rotate x 13 ^^^ rotate x 22

/-- The mixing function of a round for the second half of the state. -/
def bigSigma1 (x : UInt32) : UInt32 := rotate x 6 ^^^ rotate x 11 ^^^ rotate x 25

/-- Takes each bit from `y` where `x` has a one, and from `z` elsewhere. -/
def choose (x y z : UInt32) : UInt32 := (x &&& y) ^^^ ((~~~x) &&& z)

/-- Takes each bit as most of the three words have it. -/
def majority (x y z : UInt32) : UInt32 := (x &&& y) ^^^ (x &&& z) ^^^ (y &&& z)

/-- Extends a schedule, which is in reverse, by a number of words. -/
def extendSchedule : Nat → List UInt32 → List UInt32
  | 0, schedule => schedule
  | count + 1, schedule =>
    let back (places : Nat) : UInt32 := schedule.getD (places - 1) 0
    extendSchedule count
      ((back 16 + smallSigma0 (back 15) + back 7 + smallSigma1 (back 2)) :: schedule)

/-- One round with its constant and word. -/
def round (s : State) (input : UInt32 × UInt32) : State :=
  let (constant, word) := input
  let first := s.h + bigSigma1 s.e + choose s.e s.f s.g + constant + word
  let second := bigSigma0 s.a + majority s.a s.b s.c
  { a := first + second, b := s.a, c := s.b, d := s.c
    e := s.d + first, f := s.e, g := s.f, h := s.g }

/-- Mixes a block into the state; the words of the block are in reverse. -/
def compress (s : State) (block : List UInt32) : State :=
  let schedule := (extendSchedule 48 block).reverse
  let t := (roundConstants.zip schedule).foldl round s
  { a := s.a + t.a, b := s.b + t.b, c := s.c + t.c, d := s.d + t.d
    e := s.e + t.e, f := s.f + t.f, g := s.g + t.g, h := s.h + t.h }

/-- The word of four bytes, the most significant first. -/
def wordOfBytes (first second third fourth : UInt8) : UInt32 :=
  (first.toUInt32 <<< 24) ||| (second.toUInt32 <<< 16) ||| (third.toUInt32 <<< 8) |||
    fourth.toUInt32

/-- Mixes bytes into a state; the words of the unfinished block are in reverse. -/
def absorb (s : State) (block : List UInt32) : List UInt8 → State
  | first :: second :: third :: fourth :: rest =>
    let extended := wordOfBytes first second third fourth :: block
    if extended.length == 16 then absorb (compress s extended) [] rest
    else absorb s extended rest
  | _ => s

/-- The bytes after a message: a one bit, zeros up to eight bytes short of a whole block, and the
length of the message in bits. -/
def padding (size : Nat) : List UInt8 :=
  let zeros := (119 - size % 64) % 64
  let lengthByte (place : Nat) : UInt8 := UInt8.ofNat (8 * size / Nat.pow 256 place)
  0x80 :: (List.replicate zeros 0 ++ [7, 6, 5, 4, 3, 2, 1, 0].map lengthByte)

/-- The words of a state in order. -/
def State.words (s : State) : Vector UInt32 8 :=
  #v[s.a, s.b, s.c, s.d, s.e, s.f, s.g, s.h]

/-- The hash of a message. -/
def hash (message : List UInt8) : Vector UInt8 32 :=
  let words := (absorb initialState [] (message ++ padding message.length)).words
  Vector.ofFn fun place =>
    (words.get ⟨place.val / 4, by omega⟩ >>> UInt32.ofNat (24 - 8 * (place.val % 4))).toUInt8

end OpenApiTools.Sha256
