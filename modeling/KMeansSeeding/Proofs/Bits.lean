import KMeansSeeding.Proofs.Binary.Negation
import KMeansSeeding.Proofs.Packing

/-!
# Sketches bit by bit

Sketches are counted and compared word by word. `bitAt` reads one bit of a row of words, and counting
the ones of all words is counting the bits of the row (`foldr_wordOnes_eq_countP`). A sketch is trimmed
if it has no words to spare and all bits beyond its width are off, so nothing is counted that is not one
of its bits: `Sketch.ones` is the number of its set bits and `Sketch.hamming` the number of bits in
which two sketches differ. Every sketch that is made from signs is trimmed.
-/

namespace KMeansSeeding

/-! ## Counting below a bound -/

section Counting

variable {p : ℕ → Bool} {low high : ℕ}

/-- Nothing is counted beyond the last number that has the property. -/
theorem countP_range_eq (le : low ≤ high) (clear : ∀ j, low ≤ j → p j = false) :
    (List.range high).countP p = (List.range low).countP p := by
  obtain ⟨places, rfl⟩ := Nat.exists_eq_add_of_le le
  have beyond : ((List.range places).map (low + ·)).countP p = 0 := by
    refine List.countP_eq_zero.mpr fun j member => ?_
    obtain ⟨i, -, rfl⟩ := List.mem_map.mp member
    rw [clear _ (Nat.le_add_right low i)]
    exact Bool.false_ne_true
  rw [List.range_add, List.countP_append, beyond, Nat.add_zero]

theorem countP_range_le (p : ℕ → Bool) (high : ℕ) : (List.range high).countP p ≤ high :=
  List.countP_le_length.trans_eq List.length_range

/-- What has one of two properties is counted for one of them. -/
theorem countP_le_add {p q r : ℕ → Bool} (numbers : List ℕ)
    (either : ∀ j, p j = true → q j = true ∨ r j = true) :
    numbers.countP p ≤ numbers.countP q + numbers.countP r := by
  induction numbers with
  | nil => exact Nat.le_refl 0
  | cons j numbers ih =>
    rw [List.countP_cons, List.countP_cons, List.countP_cons]
    by_cases counted : p j = true
    · rcases either j counted with h | h
      · rw [if_pos counted, if_pos h]
        omega
      · rw [if_pos counted, if_pos h]
        omega
    · rw [if_neg counted]
      omega

end Counting

/-! ## Rows of words -/

/-- Bit `j` of a row of words, 32 to a word; beyond the last word all bits are off. -/
def bitAt (words : List UInt32) (j : ℕ) : Bool :=
  match words[j / 32]? with
  | some word => word.toNat.testBit (j % 32)
  | none => false

section Rows

variable {word : UInt32} {words left right : List UInt32} {j : ℕ}

theorem bitAt_cons_of_lt (inside : j < 32) : bitAt (word :: words) j = word.toNat.testBit j := by
  rw [bitAt, Nat.div_eq_of_lt inside, Nat.mod_eq_of_lt inside, List.getElem?_cons_zero]

theorem bitAt_cons_add (word : UInt32) (words : List UInt32) (j : ℕ) :
    bitAt (word :: words) (32 + j) = bitAt words j := by
  rw [bitAt, Nat.add_div_left j (by decide), Nat.add_mod_left, List.getElem?_cons_succ, bitAt]

theorem onesBelow_eq_countP (word : UInt32) (bits : ℕ) :
    onesBelow word bits = (List.range bits).countP word.toNat.testBit := by
  induction bits with
  | zero => rfl
  | succ bits ih =>
    rw [onesBelow, ih, List.range_succ, List.countP_append, List.countP_singleton]

/-- The ones of all words are the set bits of the row. -/
theorem foldr_wordOnes_eq_countP (words : List UInt32) :
    (words.map wordOnes).foldr (· + ·) 0 = (List.range (32 * words.length)).countP (bitAt words) := by
  induction words with
  | nil => rfl
  | cons word words ih =>
    have first : (List.range 32).countP word.toNat.testBit
        = (List.range 32).countP (bitAt (word :: words)) :=
      List.countP_congr fun j member => by rw [bitAt_cons_of_lt (List.mem_range.mp member)]
    have rest : (List.range (32 * words.length)).countP (bitAt words)
        = (List.range (32 * words.length)).countP (bitAt (word :: words) ∘ (32 + ·)) :=
      List.countP_congr fun j _ => by rw [Function.comp_apply, bitAt_cons_add]
    rw [List.map_cons, List.foldr_cons, ih, wordOnes, onesBelow_eq_countP, List.length_cons,
      Nat.mul_succ, Nat.add_comm (32 * words.length), List.range_add, List.countP_append,
      List.countP_map, first, rest]

/-- The exclusive or of two rows, word by word, is that of their bits. -/
theorem bitAt_zipWith_xor (same : left.length = right.length) (j : ℕ) :
    bitAt (List.zipWith (· ^^^ ·) left right) j = (bitAt left j != bitAt right j) := by
  simp only [bitAt, List.getElem?_zipWith]
  rcases Nat.lt_or_ge (j / 32) left.length with inside | outside
  · rw [List.getElem?_eq_getElem inside, List.getElem?_eq_getElem (same ▸ inside)]
    show (left[j / 32] ^^^ right[j / 32]).toNat.testBit (j % 32) = _
    rw [UInt32.toNat_xor, Nat.testBit_xor]
  · rw [List.getElem?_eq_none outside, List.getElem?_eq_none (same ▸ outside)]
    rfl

end Rows

/-! ## Packing signs -/

/-- At most 32 signs fit into a word. -/
private theorem toNat_foldr_signs {signs : List Bool} (short : signs.length ≤ 32) :
    (signs.foldr (fun sign word => 2 * word + (if sign then 1 else 0)) (0 : UInt32)).toNat
      = (BitVec.ofBoolListLE signs).toNat := by
  induction signs with
  | nil => rfl
  | cons sign signs ih =>
    have tail := ih (Nat.le_of_succ_le short)
    have bound := (BitVec.ofBoolListLE signs).isLt
    have room : 2 ^ (signs.length + 1) ≤ 2 ^ 32 := Nat.pow_le_pow_right Nat.two_pos short
    rw [← tail] at bound
    rw [List.foldr_cons, BitVec.ofBoolListLE, BitVec.toNat_concat, ← tail]
    generalize signs.foldr _ (0 : UInt32) = word at bound
    -- the word of the tail has a bit to spare, so doubling it loses nothing
    rw [Nat.pow_succ] at room
    cases sign
    · simp only [Bool.false_eq_true, if_false, UInt32.toNat_add, UInt32.toNat_mul, UInt32.reduceToNat,
        Bool.toNat_false]
      omega
    · simp only [if_true, UInt32.toNat_add, UInt32.toNat_mul, UInt32.reduceToNat, Bool.toNat_true]
      omega

theorem testBit_packWord (signs : List Bool) {j : ℕ} (inside : j < 32) :
    (packWord signs).toNat.testBit j = signs.getD j false := by
  rw [packWord, toNat_foldr_signs (List.length_take_le 32 signs), BitVec.testBit_toNat,
    BitVec.getLsbD_ofBoolListLE, List.getD_eq_getElem?_getD, List.getElem?_take_of_lt inside,
    List.getD_eq_getElem?_getD]

/-- The bits of a packed row are the signs, as far as there are words. -/
theorem bitAt_packWords (blocks : ℕ) (signs : List Bool) (j : ℕ) :
    bitAt (packWords blocks signs) j = (decide (j < 32 * blocks) && signs.getD j false) := by
  induction blocks generalizing signs j with
  | zero => rfl
  | succ blocks ih =>
    rw [packWords]
    rcases Nat.lt_or_ge j 32 with inside | outside
    · rw [bitAt_cons_of_lt inside, testBit_packWord signs inside,
        decide_eq_true (by omega : j < 32 * (blocks + 1)), Bool.true_and]
    · obtain ⟨i, rfl⟩ := Nat.exists_eq_add_of_le outside
      have same : i < 32 * blocks ↔ 32 + i < 32 * (blocks + 1) := by omega
      rw [bitAt_cons_add, ih, decide_eq_decide.mpr same, List.getD_eq_getElem?_getD,
        List.getElem?_drop, List.getD_eq_getElem?_getD]

namespace Sketch

/-! ## Trimmed sketches -/

/-- There are as many words as the width asks for, and all bits beyond the width are off. -/
structure Trimmed (sketch : Sketch) : Prop where
  packed : sketch.Packed
  clear : ∀ j, sketch.width ≤ j → bitAt sketch.words j = false

theorem bit_eq (sketch : Sketch) (j : ℕ) :
    sketch.bit j = (decide (j < sketch.width) && bitAt sketch.words j) := rfl

theorem trimmed_ofSigns (width : ℕ) (signs : List Bool) : (ofSigns width signs).Trimmed := by
  refine ⟨packed_ofSigns width signs, fun j outside => ?_⟩
  have none : (signs.take width)[j]? = none :=
    List.getElem?_eq_none ((List.length_take_le width signs).trans outside)
  rw [ofSigns, bitAt_packWords, List.getD_eq_getElem?_getD, none, Option.getD_none, Bool.and_false]

theorem bit_ofSigns (width : ℕ) (signs : List Bool) (j : ℕ) :
    (ofSigns width signs).bit j = (decide (j < width) && signs.getD j false) := by
  rw [bit_eq, ofSigns, bitAt_packWords]
  by_cases inside : j < width
  · rw [decide_eq_true inside, decide_eq_true (by omega : j < 32 * ((width + 31) / 32)),
      List.getD_eq_getElem?_getD, List.getElem?_take_of_lt inside, List.getD_eq_getElem?_getD]
    rfl
  · rw [decide_eq_false inside, Bool.false_and, Bool.false_and]

/-- A bit is set exactly if its projection is there and above zero. -/
theorem bit_ofProjections {α : Type} [OfNat α 0] [LT α] [DecidableLT α] {width : ℕ}
    {projections : List α} {j : ℕ} :
    (ofProjections width projections).bit j = true ↔
      j < width ∧ ∃ projection, projections[j]? = some projection ∧ 0 < projection := by
  rw [ofProjections, bit_ofSigns, Bool.and_eq_true, decide_eq_true_iff, List.getD_eq_getElem?_getD,
    List.getElem?_map]
  cases projections[j]? <;> simp

namespace Trimmed

variable {sketch left right : Sketch}

theorem bitAt_eq (h : sketch.Trimmed) (j : ℕ) : bitAt sketch.words j = sketch.bit j := by
  rw [bit_eq]
  rcases Nat.lt_or_ge j sketch.width with inside | outside
  · rw [decide_eq_true inside, Bool.true_and]
  · rw [h.clear j outside, Bool.and_false]

theorem width_le (h : sketch.Trimmed) : sketch.width ≤ 32 * sketch.words.length := by
  rw [h.packed]
  omega

/-- The ones of the words are the set bits. -/
theorem ones_eq (h : sketch.Trimmed) : sketch.ones = (List.range sketch.width).countP sketch.bit := by
  rw [ones, foldr_wordOnes_eq_countP, countP_range_eq h.width_le h.clear]
  exact List.countP_congr fun j _ => by rw [h.bitAt_eq]

/-- The ones of the differing words are the bits in which two sketches differ. -/
theorem hamming_eq (hleft : left.Trimmed) (hright : right.Trimmed) (width : left.width = right.width) :
    left.hamming right
      = (List.range left.width).countP fun j => left.bit j != right.bit j := by
  have same : left.words.length = right.words.length := by rw [hleft.packed, hright.packed, width]
  have words : List.zipWith (fun a b => wordOnes (a ^^^ b)) left.words right.words
      = (List.zipWith (· ^^^ ·) left.words right.words).map wordOnes := by
    rw [List.map_zipWith]
  have length : (List.zipWith (· ^^^ ·) left.words right.words).length = left.words.length := by
    rw [List.length_zipWith, same, Nat.min_self]
  rw [hamming, words, foldr_wordOnes_eq_countP, length, countP_range_eq hleft.width_le]
  · refine List.countP_congr fun j _ => ?_
    rw [bitAt_zipWith_xor same, hleft.bitAt_eq, hright.bitAt_eq]
  · intro j outside
    rw [bitAt_zipWith_xor same, hleft.clear j outside, hright.clear j (width ▸ outside)]
    rfl

theorem hamming_comm (hleft : left.Trimmed) (hright : right.Trimmed)
    (width : left.width = right.width) : left.hamming right = right.hamming left := by
  rw [hleft.hamming_eq hright width, hright.hamming_eq hleft width.symm, width]
  exact List.countP_congr fun j _ => by rw [bne_comm]

theorem hamming_le (hleft : left.Trimmed) (hright : right.Trimmed) (width : left.width = right.width) :
    left.hamming right ≤ left.width :=
  (hleft.hamming_eq hright width).trans_le (countP_range_le _ _)

/-- Where two sketches differ, one of them differs from a third. -/
theorem hamming_triangle {middle : Sketch} (hleft : left.Trimmed) (hmiddle : middle.Trimmed)
    (hright : right.Trimmed) (width : left.width = middle.width) (width' : middle.width = right.width) :
    left.hamming right ≤ left.hamming middle + middle.hamming right := by
  rw [hleft.hamming_eq hright (width.trans width'), hleft.hamming_eq hmiddle width,
    hmiddle.hamming_eq hright width', ← width]
  refine countP_le_add _ fun j differ => ?_
  rw [bne_iff_ne] at differ
  rw [bne_iff_ne, bne_iff_ne]
  by_contra! same
  exact differ (same.1.trans same.2)

end Trimmed

/-! ## Sketches of projections -/

/-- A sketch of some width has the bits of the projections that are there and above zero, and no
others: none for zeros, negative projections and what is not a number, and none beyond the width.
Its words count exactly these bits, and the words of two sketches the bits in which they differ; so the
Hamming distance is a metric on sketches of one width, and no count exceeds the width. -/
theorem ofProjections_bitwise (width : ℕ) :
    (∀ projections : List Float32,
      (ofProjections width projections).width = width ∧
      (∀ j, (ofProjections width projections).bit j = true ↔
        j < width ∧ ∃ projection, projections[j]? = some projection ∧ 0 < projection) ∧
      (∀ j projection, projections[j]? = some projection → Signless projection ∨ projection < 0 →
        (ofProjections width projections).bit j = false) ∧
      (ofProjections width projections).ones
        = (List.range width).countP (ofProjections width projections).bit ∧
      (ofProjections width projections).ones ≤ width) ∧
    (∀ left right : List Float32,
      (ofProjections width left).hamming (ofProjections width right)
        = (List.range width).countP (fun j =>
          (ofProjections width left).bit j != (ofProjections width right).bit j) ∧
      (ofProjections width left).hamming (ofProjections width right)
        = (ofProjections width right).hamming (ofProjections width left) ∧
      (ofProjections width left).hamming (ofProjections width right) ≤ width ∧
      ((ofProjections width left).hamming (ofProjections width right) = 0 ↔
        ofProjections width left = ofProjections width right)) ∧
    ∀ left middle right : List Float32,
      (ofProjections width left).hamming (ofProjections width right)
        ≤ (ofProjections width left).hamming (ofProjections width middle)
          + (ofProjections width middle).hamming (ofProjections width right) := by
  have trimmed (projections : List Float32) : (ofProjections width projections).Trimmed :=
    trimmed_ofSigns _ _
  refine ⟨fun projections => ⟨rfl, fun j => bit_ofProjections, fun j projection found side => ?_,
      (trimmed projections).ones_eq, ?_⟩,
    fun left right => ⟨(trimmed left).hamming_eq (trimmed right) rfl,
      (trimmed left).hamming_comm (trimmed right) rfl, (trimmed left).hamming_le (trimmed right) rfl,
      hamming_eq_zero_iff (trimmed left).packed (trimmed right).packed rfl⟩,
    fun left middle right =>
      (trimmed left).hamming_triangle (trimmed middle) (trimmed right) rfl rfl⟩
  · have below : ¬ 0 < projection := side.elim not_zero_lt_of_signless not_zero_lt_of_lt_zero
    rw [← Bool.not_eq_true, bit_ofProjections]
    rintro ⟨-, other, found', above⟩
    rw [found] at found'
    exact below (Option.some.inj found' ▸ above)
  · exact (trimmed projections).ones_eq.trans_le (countP_range_le _ _)

/-- The last of 33 bits is in a second word, a projection behind it is dropped, and what is not a number
sets no bit. -/
theorem ofProjections_bitwise_two_words :
    (ofProjections 33 (List.replicate 32 (0 : Float32) ++ [1, 2])).hamming
        (ofProjections 33 ([1, 0 / 0, -1] : List Float32)) = 2 ∧
      (ofProjections 33 (List.replicate 32 (0 : Float32) ++ [1, 2])).bit 33 = false ∧
      (ofProjections 33 ([1, 0 / 0, -1] : List Float32)).bit 1 = false := by
  obtain ⟨bits, distances, -⟩ := ofProjections_bitwise 33
  refine ⟨?_, ?_, (bits _).2.2.1 1 _ rfl (.inl (by decide))⟩
  · rw [(distances _ _).1]
    decide +kernel
  · rw [← Bool.not_eq_true, (bits _).2.1]
    exact fun inside => absurd inside.1 (by decide)

end Sketch

end KMeansSeeding
