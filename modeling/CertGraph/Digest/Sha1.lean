import CertGraph.Digest.Blocks

/- The SHA-1 digest, by which key identifiers are made. -/
set_option autoImplicit false
set_option relaxedAutoImplicit false

namespace CertGraph.Digest.Sha1

/-- The five chained words. -/
structure Chain where
  a : UInt32
  b : UInt32
  c : UInt32
  d : UInt32
  e : UInt32

/-- The words before the first block. -/
def start : Chain :=
  ⟨0x67452301, 0xefcdab89, 0x98badcfe, 0x10325476, 0xc3d2e1f0⟩

private def nextWord (words : List UInt32) : UInt32 :=
  turnLeft (words.getD 2 0 ^^^ words.getD 7 0 ^^^ words.getD 13 0 ^^^ words.getD 15 0) 1

/-- The mixing function and the constant of a round. -/
private def mix (round : Nat) (x : Chain) : UInt32 × UInt32 :=
  if round < 20 then ((x.b &&& x.c) ||| (~~~x.b &&& x.d), 0x5a827999)
  else if round < 40 then (x.b ^^^ x.c ^^^ x.d, 0x6ed9eba1)
  else if round < 60 then ((x.b &&& x.c) ||| (x.b &&& x.d) ||| (x.c &&& x.d), 0x8f1bbcdc)
  else (x.b ^^^ x.c ^^^ x.d, 0xca62c1d6)

private def step (x : Chain) (entry : UInt32 × Nat) : Chain :=
  let (f, k) := mix entry.2 x
  ⟨turnLeft x.a 5 + f + x.e + k + entry.1, x.a, turnLeft x.b 30, x.c, x.d⟩

/-- The chained words after one more block. -/
def absorb (x : Chain) (block : List UInt32) : Chain :=
  let y := (schedule nextWord block 64).zipIdx.foldl step x
  ⟨x.a + y.a, x.b + y.b, x.c + y.c, x.d + y.d, x.e + y.e⟩

/-- The digest of a message, twenty octets. -/
def digest (message : Octets) : Octets :=
  let x := (blocks message).foldl absorb start
  [x.a, x.b, x.c, x.d, x.e].flatMap wordOctets

end CertGraph.Digest.Sha1
