/-!
Digests and fingerprints. SHA-256 pads a message to whole blocks of sixteen words and absorbs each
block into a state of eight words through a schedule of sixty-four rounds. A fingerprint shows the
bytes of a digest: two upper-case hexadecimal digits each, with colons between them.
-/

namespace DatagramTls.Digest

structure Sha256 where
  (a b c d e f g h : UInt32)
  deriving DecidableEq

namespace Sha256

def start : Sha256 :=
  ⟨0x6a09e667, 0xbb67ae85, 0x3c6ef372, 0xa54ff53a, 0x510e527f, 0x9b05688c, 0x1f83d9ab, 0x5be0cd19⟩

def roundConstants : List UInt32 :=
  [0x428a2f98, 0x71374491, 0xb5c0fbcf, 0xe9b5dba5, 0x3956c25b, 0x59f111f1, 0x923f82a4, 0xab1c5ed5,
    0xd807aa98, 0x12835b01, 0x243185be, 0x550c7dc3, 0x72be5d74, 0x80deb1fe, 0x9bdc06a7, 0xc19bf174,
    0xe49b69c1, 0xefbe4786, 0x0fc19dc6, 0x240ca1cc, 0x2de92c6f, 0x4a7484aa, 0x5cb0a9dc, 0x76f988da,
    0x983e5152, 0xa831c66d, 0xb00327c8, 0xbf597fc7, 0xc6e00bf3, 0xd5a79147, 0x06ca6351, 0x14292967,
    0x27b70a85, 0x2e1b2138, 0x4d2c6dfc, 0x53380d13, 0x650a7354, 0x766a0abb, 0x81c2c92e, 0x92722c85,
    0xa2bfe8a1, 0xa81a664b, 0xc24b8b70, 0xc76c51a3, 0xd192e819, 0xd6990624, 0xf40e3585, 0x106aa070,
    0x19a4c116, 0x1e376c08, 0x2748774c, 0x34b0bcb5, 0x391c0cb3, 0x4ed8aa4a, 0x5b9cca4f, 0x682e6ff3,
    0x748f82ee, 0x78a5636f, 0x84c87814, 0x8cc70208, 0x90befffa, 0xa4506ceb, 0xbef9a3f7, 0xc67178f2]

/-! Padding -/

def lengthBytes (bits : UInt64) : List UInt8 :=
  [56, 48, 40, 32, 24, 16, 8, 0].map fun (shift : UInt64) => (bits >>> shift).toUInt8

/-- The message, a one bit, as many zero bits as fill the block, and the length. -/
def pad (message : List UInt8) : List UInt8 :=
  message ++ 0x80 :: List.replicate ((119 - message.length % 64) % 64) 0 ++
    lengthBytes (UInt64.ofNat (8 * message.length))

def words : List UInt8 → List UInt32
  | first :: second :: third :: fourth :: rest =>
      (first.toUInt32 <<< 24 ||| second.toUInt32 <<< 16 ||| third.toUInt32 <<< 8 |||
        fourth.toUInt32) :: words rest
  | _ => []

/-! Rounds -/

def rotate (word count : UInt32) : UInt32 :=
  word >>> count ||| word <<< (32 - count)

def nextWord (window : List UInt32) : UInt32 :=
  let early := window.getD 1 0
  let late := window.getD 14 0
  (rotate late 17 ^^^ rotate late 19 ^^^ late >>> 10) + window.getD 9 0 +
    (rotate early 7 ^^^ rotate early 18 ^^^ early >>> 3) + window.getD 0 0

def schedule : Nat → List UInt32 → List UInt32
  | 0, _ => []
  | _ + 1, [] => []
  | more + 1, word :: rest => word :: schedule more (rest ++ [nextWord (word :: rest)])

def round (state : Sha256) (constant word : UInt32) : Sha256 :=
  let choice := state.e &&& state.f ^^^ ~~~state.e &&& state.g
  let majority := state.a &&& state.b ^^^ state.a &&& state.c ^^^ state.b &&& state.c
  let first := state.h + (rotate state.e 6 ^^^ rotate state.e 11 ^^^ rotate state.e 25) + choice +
    constant + word
  let second := (rotate state.a 2 ^^^ rotate state.a 13 ^^^ rotate state.a 22) + majority
  ⟨first + second, state.a, state.b, state.c, state.d + first, state.e, state.f, state.g⟩

def add (left right : Sha256) : Sha256 :=
  ⟨left.a + right.a, left.b + right.b, left.c + right.c, left.d + right.d, left.e + right.e,
    left.f + right.f, left.g + right.g, left.h + right.h⟩

def absorb (state : Sha256) (block : List UInt32) : Sha256 :=
  state.add ((roundConstants.zip (schedule 64 block)).foldl
    (fun state (constant, word) => state.round constant word) state)

def absorbBlocks : Nat → List UInt32 → Sha256 → Sha256
  | 0, _, state => state
  | more + 1, words, state => absorbBlocks more (words.drop 16) (state.absorb (words.take 16))

def bytes (state : Sha256) : List UInt8 :=
  [state.a, state.b, state.c, state.d, state.e, state.f, state.g, state.h].flatMap
    fun (word : UInt32) =>
      [(word >>> 24).toUInt8, (word >>> 16).toUInt8, (word >>> 8).toUInt8, word.toUInt8]

def digest (message : List UInt8) : List UInt8 :=
  let padded := words (pad message)
  (absorbBlocks (padded.length / 16) padded start).bytes

end Sha256

/-! Fingerprints -/

namespace Fingerprint

def hexDigit (value : Nat) : Char :=
  (Nat.digitChar value).toUpper

def pair (byte : UInt8) : List Char :=
  [hexDigit (byte.toNat / 16), hexDigit (byte.toNat % 16)]

def characters : List UInt8 → List Char
  | [] => []
  | [byte] => pair byte
  | byte :: rest => pair byte ++ ':' :: characters rest

def text (bytes : List UInt8) : String :=
  String.ofList (characters bytes)

/-! Reading a fingerprint back -/

def hexValue? (digit : Char) : Option Nat :=
  if '0' ≤ digit ∧ digit ≤ '9' then some (digit.toNat - '0'.toNat)
  else if 'A' ≤ digit ∧ digit ≤ 'F' then some (digit.toNat - 'A'.toNat + 10)
  else none

def byteOfPiece? : List Char → Option UInt8
  | [high, low] => do
      let high ← hexValue? high
      let low ← hexValue? low
      some (UInt8.ofNat (16 * high + low))
  | _ => none

/-- The bytes that a text stands for, one for each piece between the colons; the empty text stands
for no bytes. -/
def ofText? (written : String) : Option (List UInt8) :=
  match written.toList with
  | [] => some []
  | characters => (characters.splitOn ':').mapM byteOfPiece?

end Fingerprint

end DatagramTls.Digest
