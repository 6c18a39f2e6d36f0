-- The 64-bit digest of a byte string, by the xxHash64 rules with seed
-- zero. Long strings run through four lanes, 32 bytes at a time; what is
-- left is absorbed in words, half words and bytes, and mixed at the end.

namespace NativeBridge.Digest

def prime1 : UInt64 := 0x9e3779b185ebca87
def prime2 : UInt64 := 0xc2b2ae3d27d4eb4f
def prime3 : UInt64 := 0x165667b19e3779f9
def prime4 : UInt64 := 0x85ebca77c2b2ae63
def prime5 : UInt64 := 0x27d4eb2f165667c5

def rotate (x : UInt64) (bits : UInt64) : UInt64 := (x <<< bits) ||| (x >>> (64 - bits))

/-- Bytes as a number, low byte first. -/
def littleEndian : List UInt8 → UInt64
  | [] => 0
  | b :: rest => b.toUInt64 ||| (littleEndian rest <<< 8)

/-! ## The lanes -/

structure Lanes where
  a : UInt64
  b : UInt64
  c : UInt64
  d : UInt64

def Lanes.initial : Lanes := ⟨prime1 + prime2, prime2, 0, 0 - prime1⟩

/-- One lane takes in one word. -/
def round (lane word : UInt64) : UInt64 := rotate (lane + word * prime2) 31 * prime1

/-- The four lanes take in 32 bytes. -/
def Lanes.stripe (l : Lanes) (bytes : List UInt8) : Lanes where
  a := round l.a (littleEndian (bytes.take 8))
  b := round l.b (littleEndian ((bytes.drop 8).take 8))
  c := round l.c (littleEndian ((bytes.drop 16).take 8))
  d := round l.d (littleEndian ((bytes.drop 24).take 8))

/-- The lanes take in a count of stripes. -/
def Lanes.stripes (l : Lanes) : Nat → List UInt8 → Lanes
  | 0, _ => l
  | n + 1, bytes => stripes (l.stripe bytes) n (bytes.drop 32)

def merge (h lane : UInt64) : UInt64 := (h ^^^ round 0 lane) * prime1 + prime4

/-- The four lanes in one word. -/
def Lanes.join (l : Lanes) : UInt64 :=
  let h := rotate l.a 1 + rotate l.b 7 + rotate l.c 12 + rotate l.d 18
  [l.a, l.b, l.c, l.d].foldl merge h

/-! ## The rest -/

/-- Takes in fewer than 32 bytes: words first, then at most one half
word, then bytes. -/
def absorb : List UInt8 → UInt64 → UInt64
  | b0 :: b1 :: b2 :: b3 :: b4 :: b5 :: b6 :: b7 :: rest, h =>
    let word := littleEndian [b0, b1, b2, b3, b4, b5, b6, b7]
    absorb rest (rotate (h ^^^ round 0 word) 27 * prime1 + prime4)
  | b0 :: b1 :: b2 :: b3 :: rest, h =>
    let half := littleEndian [b0, b1, b2, b3]
    absorb rest (rotate (h ^^^ half * prime1) 23 * prime2 + prime3)
  | b :: rest, h => absorb rest (rotate (h ^^^ b.toUInt64 * prime5) 11 * prime1)
  | [], h => h

/-- Spreads every bit over the whole word. -/
def avalanche (h : UInt64) : UInt64 :=
  let h := (h ^^^ (h >>> 33)) * prime2
  let h := (h ^^^ (h >>> 29)) * prime3
  h ^^^ (h >>> 32)

/-- The digest of a byte string. -/
def ofBytes (bytes : List UInt8) : UInt64 :=
  let count := bytes.length / 32
  let start := if count = 0 then prime5 else (Lanes.initial.stripes count bytes).join
  avalanche (absorb (bytes.drop (32 * count)) (start + UInt64.ofNat bytes.length))

end NativeBridge.Digest
