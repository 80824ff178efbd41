/-!
# Sign sketches

A sketch is one bit per random direction: whether a point lies strictly on the positive side. The
bits are packed into 32-bit words, bit `j` in word `j / 32`, and the bits of the last word beyond
the width are zero. So counting and comparing run word by word.
-/

namespace KMeansSeeding

/-- The number of set bits among the low `bits` bits of a word. -/
def onesBelow (word : UInt32) : (bits : Nat) → Nat
  | 0 => 0
  | bits + 1 => onesBelow word bits + (if word.toNat.testBit bits then 1 else 0)

/-- The number of set bits of a word. -/
def wordOnes (word : UInt32) : Nat :=
  onesBelow word 32

/-- The word whose bit `j` is the `j`-th sign; at most 32 signs are read. -/
def packWord (signs : List Bool) : UInt32 :=
  (signs.take 32).foldr (fun sign word => 2 * word + (if sign then 1 else 0)) 0

/-- Packs signs into `blocks` words of 32. -/
def packWords : (blocks : Nat) → List Bool → List UInt32
  | 0, _ => []
  | blocks + 1, signs => packWord signs :: packWords blocks (signs.drop 32)

/-- A row of sign bits in 32-bit words. -/
structure Sketch where
  width : Nat
  words : List UInt32
  deriving DecidableEq, Repr

namespace Sketch

/-- The sketch with the given leading signs. Signs beyond the width are dropped, missing ones are
off. -/
def ofSigns (width : Nat) (signs : List Bool) : Sketch :=
  ⟨width, packWords ((width + 31) / 32) (signs.take width)⟩

/-- The sketch of a point's projections: a bit is set where the projection is above zero. -/
def ofProjections {α : Type} [OfNat α 0] [LT α] [DecidableLT α] (width : Nat)
    (projections : List α) : Sketch :=
  ofSigns width (projections.map fun projection => decide ((0 : α) < projection))

/-- Bit `j`; bits beyond the width are off. -/
def bit (sketch : Sketch) (j : Nat) : Bool :=
  decide (j < sketch.width) &&
    match sketch.words[j / 32]? with
    | some word => word.toNat.testBit (j % 32)
    | none => false

/-- All bits in order. -/
def bits (sketch : Sketch) : List Bool :=
  (List.range sketch.width).map sketch.bit

/-- The number of set bits. It is a natural number and stands for one of 32 bits, which no width below
`2 ^ 32` lets overflow. -/
def ones (sketch : Sketch) : Nat :=
  (sketch.words.map wordOnes).foldr (· + ·) 0

/-- The number of bits in which two sketches of the same width differ, a natural number like `ones`. -/
def hamming (left right : Sketch) : Nat :=
  let differences := List.zipWith (fun a b => wordOnes (a ^^^ b)) left.words right.words
  differences.foldr (· + ·) 0

end Sketch

end KMeansSeeding
