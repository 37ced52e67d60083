import CertGraph.Digest.Blocks

/- The SHA-256 digest, over which certificates are signed, and the shorter SHA-224. -/
set_option autoImplicit false
set_option relaxedAutoImplicit false

namespace CertGraph.Digest.Sha256

/-- The eight chained words. -/
structure Chain where
  a : UInt32
  b : UInt32
  c : UInt32
  d : UInt32
  e : UInt32
  f : UInt32
  g : UInt32
  h : UInt32

/-- The words before the first block. -/
def start : Chain :=
  ⟨0x6a09e667, 0xbb67ae85, 0x3c6ef372, 0xa54ff53a,
   0x510e527f, 0x9b05688c, 0x1f83d9ab, 0x5be0cd19⟩

/-- The constants of the rounds. -/
def constants : List UInt32 :=
  [0x428a2f98, 0x71374491, 0xb5c0fbcf, 0xe9b5dba5, 0x3956c25b, 0x59f111f1,
   0x923f82a4, 0xab1c5ed5, 0xd807aa98, 0x12835b01, 0x243185be, 0x550c7dc3,
   0x72be5d74, 0x80deb1fe, 0x9bdc06a7, 0xc19bf174, 0xe49b69c1, 0xefbe4786,
   0x0fc19dc6, 0x240ca1cc, 0x2de92c6f, 0x4a7484aa, 0x5cb0a9dc, 0x76f988da,
   0x983e5152, 0xa831c66d, 0xb00327c8, 0xbf597fc7, 0xc6e00bf3, 0xd5a79147,
   0x06ca6351, 0x14292967, 0x27b70a85, 0x2e1b2138, 0x4d2c6dfc, 0x53380d13,
   0x650a7354, 0x766a0abb, 0x81c2c92e, 0x92722c85, 0xa2bfe8a1, 0xa81a664b,
   0xc24b8b70, 0xc76c51a3, 0xd192e819, 0xd6990624, 0xf40e3585, 0x106aa070,
   0x19a4c116, 0x1e376c08, 0x2748774c, 0x34b0bcb5, 0x391c0cb3, 0x4ed8aa4a,
   0x5b9cca4f, 0x682e6ff3, 0x748f82ee, 0x78a5636f, 0x84c87814, 0x8cc70208,
   0x90befffa, 0xa4506ceb, 0xbef9a3f7, 0xc67178f2]

private def nextWord (words : List UInt32) : UInt32 :=
  let early := words.getD 14 0
  let late := words.getD 1 0
  words.getD 15 0 + (turnRight early 7 ^^^ turnRight early 18 ^^^ (early >>> 3)) +
    words.getD 6 0 + (turnRight late 17 ^^^ turnRight late 19 ^^^ (late >>> 10))

private def step (x : Chain) (entry : UInt32 × UInt32) : Chain :=
  let choice := (x.e &&& x.f) ^^^ (~~~x.e &&& x.g)
  let majority := (x.a &&& x.b) ^^^ (x.a &&& x.c) ^^^ (x.b &&& x.c)
  let first := x.h + (turnRight x.e 6 ^^^ turnRight x.e 11 ^^^ turnRight x.e 25) + choice +
    entry.1 + entry.2
  let second := (turnRight x.a 2 ^^^ turnRight x.a 13 ^^^ turnRight x.a 22) + majority
  ⟨first + second, x.a, x.b, x.c, x.d + first, x.e, x.f, x.g⟩

/-- The chained words after one more block. -/
def absorb (x : Chain) (block : List UInt32) : Chain :=
  let y := (constants.zip (schedule nextWord block 48)).foldl step x
  ⟨x.a + y.a, x.b + y.b, x.c + y.c, x.d + y.d, x.e + y.e, x.f + y.f, x.g + y.g, x.h + y.h⟩

/-- The octets of chained words after a message. -/
def digestFrom (start : Chain) (message : Octets) : Octets :=
  let x := (blocks message).foldl absorb start
  [x.a, x.b, x.c, x.d, x.e, x.f, x.g, x.h].flatMap wordOctets

/-- The digest of a message, thirty-two octets. -/
def digest (message : Octets) : Octets :=
  digestFrom start message

theorem length_digest (message : Octets) : (digest message).length = 32 := by
  simp [digest, digestFrom, wordOctets, Octets.length_ofNatWidth]

end CertGraph.Digest.Sha256

namespace CertGraph.Digest.Sha224

/-- The words before the first block. -/
def start : Sha256.Chain :=
  ⟨0xc1059ed8, 0x367cd507, 0x3070dd17, 0xf70e5939,
   0xffc00b31, 0x68581511, 0x64f98fa7, 0xbefa4fa4⟩

/-- The digest of a message, twenty-eight octets. -/
def digest (message : Octets) : Octets :=
  (Sha256.digestFrom start message).take 28

end CertGraph.Digest.Sha224
