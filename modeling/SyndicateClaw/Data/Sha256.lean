import Mathlib.Algebra.Group.Nat.Defs
import Mathlib.Data.List.Basic

/-! `hashlib.sha256(text.encode("utf-8")).hexdigest()`, and the same of an HMAC. -/

namespace SyndicateClaw.Sha256

abbrev Word := BitVec 32

/-- The fractional parts of the cube roots of the first 64 primes. -/
def roundConstants : List Word :=
  [0x428a2f98, 0x71374491, 0xb5c0fbcf, 0xe9b5dba5, 0x3956c25b, 0x59f111f1, 0x923f82a4, 0xab1c5ed5,
   0xd807aa98, 0x12835b01, 0x243185be, 0x550c7dc3, 0x72be5d74, 0x80deb1fe, 0x9bdc06a7, 0xc19bf174,
   0xe49b69c1, 0xefbe4786, 0x0fc19dc6, 0x240ca1cc, 0x2de92c6f, 0x4a7484aa, 0x5cb0a9dc, 0x76f988da,
   0x983e5152, 0xa831c66d, 0xb00327c8, 0xbf597fc7, 0xc6e00bf3, 0xd5a79147, 0x06ca6351, 0x14292967,
   0x27b70a85, 0x2e1b2138, 0x4d2c6dfc, 0x53380d13, 0x650a7354, 0x766a0abb, 0x81c2c92e, 0x92722c85,
   0xa2bfe8a1, 0xa81a664b, 0xc24b8b70, 0xc76c51a3, 0xd192e819, 0xd6990624, 0xf40e3585, 0x106aa070,
   0x19a4c116, 0x1e376c08, 0x2748774c, 0x34b0bcb5, 0x391c0cb3, 0x4ed8aa4a, 0x5b9cca4f, 0x682e6ff3,
   0x748f82ee, 0x78a5636f, 0x84c87814, 0x8cc70208, 0x90befffa, 0xa4506ceb, 0xbef9a3f7, 0xc67178f2]

structure Working where
  a : Word
  b : Word
  c : Word
  d : Word
  e : Word
  f : Word
  g : Word
  h : Word

def Working.initial : Working :=
  { a := 0x6a09e667, b := 0xbb67ae85, c := 0x3c6ef372, d := 0xa54ff53a
    e := 0x510e527f, f := 0x9b05688c, g := 0x1f83d9ab, h := 0x5be0cd19 }

def Working.words (s : Working) : List Word := [s.a, s.b, s.c, s.d, s.e, s.f, s.g, s.h]

def Working.add (s t : Working) : Working :=
  { a := s.a + t.a, b := s.b + t.b, c := s.c + t.c, d := s.d + t.d
    e := s.e + t.e, f := s.f + t.f, g := s.g + t.g, h := s.h + t.h }

def Working.round (s : Working) (constant word : Word) : Working :=
  let sum1 := s.e.rotateRight 6 ^^^ s.e.rotateRight 11 ^^^ s.e.rotateRight 25
  let choice := (s.e &&& s.f) ^^^ (~~~ s.e &&& s.g)
  let first := s.h + sum1 + choice + constant + word
  let sum0 := s.a.rotateRight 2 ^^^ s.a.rotateRight 13 ^^^ s.a.rotateRight 22
  let majority := (s.a &&& s.b) ^^^ (s.a &&& s.c) ^^^ (s.b &&& s.c)
  { a := first + (sum0 + majority), b := s.a, c := s.b, d := s.c
    e := s.d + first, f := s.e, g := s.f, h := s.g }

/-- The message schedule of a block, in words, the last one first. -/
def extend : Nat → List Word → List Word
  | 0, schedule => schedule
  | n + 1, schedule =>
      let w := fun i => schedule.getD i 0
      let small0 := (w 14).rotateRight 7 ^^^ (w 14).rotateRight 18 ^^^ (w 14 >>> 3)
      let small1 := (w 1).rotateRight 17 ^^^ (w 1).rotateRight 19 ^^^ (w 1 >>> 10)
      extend n ((w 15 + small0 + w 6 + small1) :: schedule)

def compress (s : Working) (block : List Word) : Working :=
  let schedule := (extend 48 block.reverse).reverse
  s.add ((roundConstants.zip schedule).foldl (fun s step => s.round step.1 step.2) s)

def bigEndian (width n : Nat) : List Nat :=
  (List.range width).reverse.map fun i => n / 256 ^ i % 256

def pad (bytes : List Nat) : List Nat :=
  bytes ++ 128 :: List.replicate ((119 - bytes.length % 64) % 64) 0 ++
    bigEndian 8 (8 * bytes.length)

def wordsOf : List Nat → List Word
  | b0 :: b1 :: b2 :: b3 :: rest =>
      BitVec.ofNat 32 (16777216 * b0 + 65536 * b1 + 256 * b2 + b3) :: wordsOf rest
  | _ => []

def blocks : Nat → List Word → List (List Word)
  | 0, _ => []
  | n + 1, words => words.take 16 :: blocks n (words.drop 16)

def utf8 (c : Char) : List Nat :=
  let n := c.toNat
  if n < 0x80 then [n]
  else if n < 0x800 then [0xc0 + n / 64, 0x80 + n % 64]
  else if n < 0x10000 then [0xe0 + n / 4096, 0x80 + n / 64 % 64, 0x80 + n % 64]
  else [0xf0 + n / 262144, 0x80 + n / 4096 % 64, 0x80 + n / 64 % 64, 0x80 + n % 64]

def digest (bytes : List Nat) : List Nat :=
  let words := wordsOf (pad bytes)
  let last := (blocks (words.length / 16) words).foldl compress .initial
  last.words.flatMap fun word => bigEndian 4 word.toNat

def hexdigest (text : String) : String :=
  String.ofList ((digest (text.toList.flatMap utf8)).flatMap fun byte =>
    [Nat.digitChar (byte / 16), Nat.digitChar (byte % 16)])

example : hexdigest "abc" = "ba7816bf8f01cfea414140de5dae2223b00361a396177a9cb410ff61f20015ad" := by
  decide +kernel

/-- `hmac.new(key, text.encode("utf-8"), hashlib.sha256).hexdigest()` -/
def hmacHexdigest (key : List Nat) (text : String) : String :=
  let short := if 64 < key.length then digest key else key
  let padded := short ++ List.replicate (64 - short.length) 0
  let inner := digest (padded.map (· ^^^ 0x36) ++ text.toList.flatMap utf8)
  String.ofList ((digest (padded.map (· ^^^ 0x5c) ++ inner)).flatMap fun byte =>
    [Nat.digitChar (byte / 16), Nat.digitChar (byte % 16)])

example : hmacHexdigest (List.replicate 20 11) "Hi There" =
    "b0344c61d8db38535ca8afceaf0bf12b881dc200c9833da726e9376c2e32cff7" := by
  decide +kernel

theorem length_bigEndian (width n : Nat) : (bigEndian width n).length = width := by
  simp [bigEndian]

theorem length_digest (bytes : List Nat) : (digest bytes).length = 32 := by
  unfold digest Working.words
  simp [length_bigEndian]

theorem length_hexdigest (text : String) : (hexdigest text).length = 64 := by
  unfold hexdigest
  rw [String.length_ofList, List.length_flatMap]
  have two : (fun byte : Nat => [Nat.digitChar (byte / 16), Nat.digitChar (byte % 16)].length) =
      Function.const Nat 2 := rfl
  rw [two, List.map_const, length_digest]
  rfl

end SyndicateClaw.Sha256
