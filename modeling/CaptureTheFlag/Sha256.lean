import CaptureTheFlag.Text.Blank
import CaptureTheFlag.Text.Hex
import CaptureTheFlag.Text.Utf8

/-!
# SHA-256

The digest of a list of octets.  A message is padded to whole blocks of 64 octets, each block is
spread over a schedule of 64 words, and 64 rounds mix the schedule into the eight words of the
state.  Additions are those of 32-bit words.

* `hexDigest`: the digest of a text's octets in UTF-8, written with small hexadecimal digits.
* `digest_length`, `hexDigest_length`: 32 octets, 64 digits.
-/

namespace CaptureTheFlag.Sha256

/-! ## Words -/

/-- The bits of a word moved to the right by `n` places, those that fall out coming in again. -/
def rotate (x : UInt32) (n : UInt32) : UInt32 := (x >>> n) ||| (x <<< (32 - n))

def smallSigma0 (x : UInt32) : UInt32 := rotate x 7 ^^^ rotate x 18 ^^^ (x >>> 3)

def smallSigma1 (x : UInt32) : UInt32 := rotate x 17 ^^^ rotate x 19 ^^^ (x >>> 10)

def bigSigma0 (x : UInt32) : UInt32 := rotate x 2 ^^^ rotate x 13 ^^^ rotate x 22

def bigSigma1 (x : UInt32) : UInt32 := rotate x 6 ^^^ rotate x 11 ^^^ rotate x 25

/-- Each bit from `y` where `x` has a one, from `z` where it has a zero. -/
def choose (x y z : UInt32) : UInt32 := (x &&& y) ^^^ ((~~~x) &&& z)

/-- Each bit as most of the three have it. -/
def majority (x y z : UInt32) : UInt32 := (x &&& y) ^^^ (x &&& z) ^^^ (y &&& z)

/-- The first 32 bits of the fractional parts of the cube roots of the first 64 primes. -/
def roundConstants : List UInt32 := [
  0x428a2f98, 0x71374491, 0xb5c0fbcf, 0xe9b5dba5, 0x3956c25b, 0x59f111f1, 0x923f82a4, 0xab1c5ed5,
  0xd807aa98, 0x12835b01, 0x243185be, 0x550c7dc3, 0x72be5d74, 0x80deb1fe, 0x9bdc06a7, 0xc19bf174,
  0xe49b69c1, 0xefbe4786, 0x0fc19dc6, 0x240ca1cc, 0x2de92c6f, 0x4a7484aa, 0x5cb0a9dc, 0x76f988da,
  0x983e5152, 0xa831c66d, 0xb00327c8, 0xbf597fc7, 0xc6e00bf3, 0xd5a79147, 0x06ca6351, 0x14292967,
  0x27b70a85, 0x2e1b2138, 0x4d2c6dfc, 0x53380d13, 0x650a7354, 0x766a0abb, 0x81c2c92e, 0x92722c85,
  0xa2bfe8a1, 0xa81a664b, 0xc24b8b70, 0xc76c51a3, 0xd192e819, 0xd6990624, 0xf40e3585, 0x106aa070,
  0x19a4c116, 0x1e376c08, 0x2748774c, 0x34b0bcb5, 0x391c0cb3, 0x4ed8aa4a, 0x5b9cca4f, 0x682e6ff3,
  0x748f82ee, 0x78a5636f, 0x84c87814, 0x8cc70208, 0x90befffa, 0xa4506ceb, 0xbef9a3f7, 0xc67178f2]

/-! ## The state -/

/-- The eight words that the rounds mix. -/
structure State where
  a : UInt32
  b : UInt32
  c : UInt32
  d : UInt32
  e : UInt32
  f : UInt32
  g : UInt32
  h : UInt32
  deriving DecidableEq, Repr

namespace State

/-- The first 32 bits of the fractional parts of the square roots of the first eight primes. -/
def start : State :=
  ⟨0x6a09e667, 0xbb67ae85, 0x3c6ef372, 0xa54ff53a, 0x510e527f, 0x9b05688c, 0x1f83d9ab, 0x5be0cd19⟩

/-- One round, with its constant and its word of the schedule. -/
def round (s : State) (k w : UInt32) : State :=
  let t₁ := s.h + bigSigma1 s.e + choose s.e s.f s.g + k + w
  let t₂ := bigSigma0 s.a + majority s.a s.b s.c
  ⟨t₁ + t₂, s.a, s.b, s.c, s.d + t₁, s.e, s.f, s.g⟩

/-- Word by word. -/
def add (s t : State) : State :=
  ⟨s.a + t.a, s.b + t.b, s.c + t.c, s.d + t.d, s.e + t.e, s.f + t.f, s.g + t.g, s.h + t.h⟩

/-- The rounds of one block. -/
def rounds (s : State) (schedule : List UInt32) : State :=
  (roundConstants.zip schedule).foldl (fun s kw => s.round kw.1 kw.2) s

def words (s : State) : List UInt32 := [s.a, s.b, s.c, s.d, s.e, s.f, s.g, s.h]

end State

/-! ## Blocks -/

/-- The next `n` words of a schedule, given its last sixteen, the last one first. -/
def extend : Nat → List UInt32 → List UInt32
  | 0, _ => []
  | n + 1, recent =>
    let back (i : Nat) := recent.getD (i - 1) 0
    let w := smallSigma1 (back 2) + back 7 + smallSigma0 (back 15) + back 16
    w :: extend n ((w :: recent).take 16)

/-- A block's sixteen words and the 48 that follow from them. -/
def schedule (block : List UInt32) : List UInt32 :=
  block ++ extend 48 block.reverse

/-- Words of four octets, the most significant first. -/
def wordsOfOctets : List UInt8 → List UInt32
  | a :: b :: c :: d :: r =>
    ((a.toUInt32 <<< 24) ||| (b.toUInt32 <<< 16) ||| (c.toUInt32 <<< 8) ||| d.toUInt32) ::
      wordsOfOctets r
  | _ => []

/-- The four octets of a word, the most significant first. -/
def octetsOfWord (w : UInt32) : List UInt8 :=
  [(w >>> 24).toUInt8, (w >>> 16).toUInt8, (w >>> 8).toUInt8, w.toUInt8]

/-- The message, one bit 1, as few zeros as make whole blocks, and the message's length in bits. -/
def pad (message : List UInt8) : List UInt8 :=
  let n := message.length
  let zeros := (119 - n % 64) % 64
  let bits := UInt64.ofNat (8 * n)
  message ++ (0x80 : UInt8) :: (List.replicate zeros (0 : UInt8) ++
    octetsOfWord (bits >>> 32).toUInt32 ++ octetsOfWord bits.toUInt32)

/-- The state after the blocks of 64 octets in a padded message, at most `n` of them. -/
def absorb : Nat → State → List UInt8 → State
  | 0, s, _ => s
  | n + 1, s, octets =>
    match octets with
    | [] => s
    | _ => absorb n (s.add (s.rounds (schedule (wordsOfOctets (octets.take 64))))) (octets.drop 64)

/-- The digest of a message. -/
def digest (message : List UInt8) : List UInt8 :=
  let octets := pad message
  (absorb octets.length .start octets).words.flatMap octetsOfWord

/-- The digest of a text, in hexadecimal. -/
def hexDigest (s : String) : String :=
  String.ofList (Text.Hex.encode (digest (Text.utf8 s)))

/-- The digest, written in hexadecimal with digits of either case and blanks around it, is that of
the text. -/
def verify (s written : String) : Bool :=
  Text.sameIgnoringAsciiCase (hexDigest s) (Text.trim written)

theorem digest_length (message : List UInt8) : (digest message).length = 32 := by
  simp [digest, State.words, octetsOfWord]

/-- A written digest has 64 digits. -/
theorem hexDigest_length (s : String) : (hexDigest s).length = 64 := by
  simp [hexDigest, Text.Hex.encode_length, digest_length]

end CaptureTheFlag.Sha256
