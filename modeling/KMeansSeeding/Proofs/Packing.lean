import KMeansSeeding.Sketch
import Mathlib.Data.Nat.Bitwise

/-!
# Packed sketches

The words of a sketch are as many as its width asks for, so two sketches of one width are compared word
by word to the end. A word without set bits is zero, and words differ in no bit exactly if they are
equal; hence the Hamming distance is zero exactly between equal sketches.
-/

namespace KMeansSeeding

theorem onesBelow_eq_zero_iff {word : UInt32} {bits : ℕ} :
    onesBelow word bits = 0 ↔ ∀ j < bits, word.toNat.testBit j = false := by
  induction bits with
  | zero => simp [onesBelow]
  | succ bits ih =>
    rw [onesBelow, Nat.add_eq_zero_iff, ih]
    constructor
    · rintro ⟨below, last⟩ j inside
      rcases Nat.lt_succ_iff_lt_or_eq.mp inside with inside | rfl
      · exact below j inside
      · simpa using last
    · intro all
      refine ⟨fun j inside => all j (Nat.lt_succ_of_lt inside), ?_⟩
      rw [all bits (Nat.lt_succ_self bits), if_neg Bool.false_ne_true]

/-- A word has no set bit exactly if it is zero. -/
theorem wordOnes_eq_zero_iff {word : UInt32} : wordOnes word = 0 ↔ word = 0 := by
  rw [wordOnes, onesBelow_eq_zero_iff, ← UInt32.toNat_inj, UInt32.toNat_zero]
  constructor
  · intro clear
    refine Nat.eq_of_testBit_eq fun j => ?_
    rw [Nat.zero_testBit]
    rcases Nat.lt_or_ge j 32 with inside | outside
    · exact clear j inside
    · -- a word has no bits beyond the 32 that are counted
      exact Nat.testBit_lt_two_pow (word.toNat_lt.trans_le (Nat.pow_le_pow_right Nat.two_pos outside))
  · intro zero j _
    rw [zero, Nat.zero_testBit]

/-- Words of two lists of the same length differ in no bit exactly if the lists are equal. -/
theorem foldr_wordOnes_xor_eq_zero_iff {left right : List UInt32} (same : left.length = right.length) :
    (List.zipWith (fun a b => wordOnes (a ^^^ b)) left right).foldr (· + ·) 0 = 0 ↔ left = right := by
  induction left generalizing right with
  | nil =>
    obtain rfl := List.length_eq_zero_iff.mp same.symm
    simp
  | cons word left ih =>
    cases right with
    | nil => cases same
    | cons other right =>
      rw [List.zipWith_cons_cons, List.foldr_cons, Nat.add_eq_zero_iff, ih (Nat.succ.inj same),
        wordOnes_eq_zero_iff, UInt32.xor_eq_zero_iff, List.cons.injEq]

@[simp] theorem length_packWords (blocks : ℕ) (signs : List Bool) :
    (packWords blocks signs).length = blocks := by
  induction blocks generalizing signs with
  | zero => rfl
  | succ blocks ih => rw [packWords, List.length_cons, ih]

namespace Sketch

/-- There are as many words as the width asks for. -/
def Packed (sketch : Sketch) : Prop :=
  sketch.words.length = (sketch.width + 31) / 32

theorem packed_ofSigns (width : ℕ) (signs : List Bool) : (ofSigns width signs).Packed :=
  length_packWords _ _

/-- The Hamming distance of packed sketches of one width is zero exactly if they are equal. -/
theorem hamming_eq_zero_iff {left right : Sketch} (hleft : left.Packed) (hright : right.Packed)
    (width : left.width = right.width) : left.hamming right = 0 ↔ left = right := by
  have words : left.words.length = right.words.length := by rw [hleft, hright, width]
  rw [hamming, foldr_wordOnes_xor_eq_zero_iff words]
  obtain ⟨_, words⟩ := left
  obtain rfl := width
  exact ⟨fun same => congrArg _ same, congrArg Sketch.words⟩

end Sketch

end KMeansSeeding
