/-
# SHA-256

The secure hash with a digest of 256 bits: the message is padded to a whole number of blocks of 64
bytes, and the blocks are folded into a state of eight words.
-/
namespace StoredFunctions.Sha256

/-! ## 1. Constants -/

/-- The words that start the state: fractions of the square roots of the first eight primes. -/
def initialState : List UInt32 :=
  [0x6a09e667, 0xbb67ae85, 0x3c6ef372, 0xa54ff53a, 0x510e527f, 0x9b05688c,
   0x1f83d9ab, 0x5be0cd19]

/-- One word for each round: fractions of the cube roots of the first sixty-four primes. -/
def roundConstants : List UInt32 :=
  [0x428a2f98, 0x71374491, 0xb5c0fbcf, 0xe9b5dba5, 0x3956c25b, 0x59f111f1,
   0x923f82a4, 0xab1c5ed5, 0xd807aa98, 0x12835b01, 0x243185be, 0x550c7dc3,
   0x72be5d74, 0x80deb1fe, 0x9bdc06a7, 0xc19bf174, 0xe49b69c1, 0xefbe4786,
   0x0fc19dc6, 0x240ca1cc, 0x2de92c6f, 0x4a7484aa, 0x5cb0a9dc, 0x76f988da,
   0x983e5152, 0xa831c66d, 0xb00327c8, 0xbf597fc7, 0xc6e00bf3, 0xd5a79147,
   0x06ca6351, 0x14292967, 0x27b70a85, 0x2e1b2138, 0x4d2c6dfc, 0x53380d13,
   0x650a7354, 0x766a0abb, 0x81c2c92e, 0x92722c85, 0xa2bfe8a1, 0xa81a664b,
   0xc24b8b70, 0xc76c51a3, 0xd192e819, 0xd6990624, 0xf40e3585, 0x106aa070,
   0x19a4c116, 0x1e376c08, 0x2748774c, 0x34b0bcb5, 0x391c0cb3, 0x4ed8aa4a,
   0x5b9cca4f, 0x682e6ff3, 0x748f82ee, 0x78a5636f, 0x84c87814, 0x8cc70208,
   0x90befffa, 0xa4506ceb, 0xbef9a3f7, 0xc67178f2]

/-! ## 2. Words -/

/-- The word rotated right by `n` bits. -/
def rotateRight (x : UInt32) (n : UInt32) : UInt32 := (x >>> n) ||| (x <<< (32 - n))

/-- The word of four bytes, the most significant first. -/
def wordOfBytes (a b c d : UInt8) : UInt32 :=
  (a.toUInt32 <<< 24) ||| (b.toUInt32 <<< 16) ||| (c.toUInt32 <<< 8) ||| d.toUInt32

/-- The bytes of a word, the most significant first. -/
def bytesOfWord (w : UInt32) : List UInt8 :=
  [(w >>> 24).toUInt8, (w >>> 16).toUInt8, (w >>> 8).toUInt8, w.toUInt8]

/-- The words of a list of bytes. -/
def wordsOfBytes : List UInt8 → List UInt32
  | a :: b :: c :: d :: more => wordOfBytes a b c d :: wordsOfBytes more
  | _ => []

/-! ## 3. Padding -/

/-- A number as eight bytes, the highest first. -/
def bytesOfNumber (n : Nat) : List UInt8 :=
  (List.range 8).map fun i => UInt8.ofNat (n >>> (8 * (7 - i)))

/-- The message followed by a one bit, zeros, and its length in bits. -/
def pad (message : List UInt8) : List UInt8 :=
  let zeros := (119 - message.length % 64) % 64
  message ++ 0x80 :: List.replicate zeros 0 ++ bytesOfNumber (8 * message.length)

/-- Splits words into blocks of sixteen. -/
def blocks : Nat → List UInt32 → List (List UInt32)
  | 0, _ => []
  | n + 1, words => words.take 16 :: blocks n (words.drop 16)

/-! ## 4. Compression -/

/-- The next word of a message schedule whose last sixteen words are given, oldest first. -/
def nextWord (window : List UInt32) : UInt32 :=
  let old := window.getD 1 0
  let new := window.getD 14 0
  let s0 := rotateRight old 7 ^^^ rotateRight old 18 ^^^ (old >>> 3)
  let s1 := rotateRight new 17 ^^^ rotateRight new 19 ^^^ (new >>> 10)
  window.getD 0 0 + s0 + window.getD 9 0 + s1

/-- The working variables. -/
structure Working where
  a : UInt32
  b : UInt32
  c : UInt32
  d : UInt32
  e : UInt32
  f : UInt32
  g : UInt32
  h : UInt32

/-- One round with a constant and a word of the schedule. -/
def Working.round (w : Working) (k word : UInt32) : Working :=
  let s1 := rotateRight w.e 6 ^^^ rotateRight w.e 11 ^^^ rotateRight w.e 25
  let choice := (w.e &&& w.f) ^^^ ((~~~w.e) &&& w.g)
  let t1 := w.h + s1 + choice + k + word
  let s0 := rotateRight w.a 2 ^^^ rotateRight w.a 13 ^^^ rotateRight w.a 22
  let majority := (w.a &&& w.b) ^^^ (w.a &&& w.c) ^^^ (w.b &&& w.c)
  ⟨t1 + (s0 + majority), w.a, w.b, w.c, w.d + t1, w.e, w.f, w.g⟩

/-- The rounds for the given constants.  The window holds the next sixteen words of the schedule. -/
def rounds : List UInt32 → List UInt32 → Working → Working
  | [], _, w => w
  | k :: more, window, w =>
    rounds more (window.drop 1 ++ [nextWord window]) (w.round k (window.getD 0 0))

/-- The working variables that a state starts with. -/
def Working.ofState (state : List UInt32) : Working :=
  ⟨state.getD 0 0, state.getD 1 0, state.getD 2 0, state.getD 3 0, state.getD 4 0,
    state.getD 5 0, state.getD 6 0, state.getD 7 0⟩

/-- The variables in order. -/
def Working.toList (w : Working) : List UInt32 := [w.a, w.b, w.c, w.d, w.e, w.f, w.g, w.h]

/-- The state after a block. -/
def compress (state block : List UInt32) : List UInt32 :=
  let w := rounds roundConstants block (Working.ofState state)
  List.zipWith (· + ·) state w.toList

/-! ## 5. The digest -/

/-- The digest of a message, 32 bytes. -/
def digest (message : List UInt8) : List UInt8 :=
  let words := wordsOfBytes (pad message)
  ((blocks (words.length / 16) words).foldl compress initialState).flatMap bytesOfWord

end StoredFunctions.Sha256
