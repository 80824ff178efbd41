import KMeansSeeding.Point
import KMeansSeeding.Proofs.Bits
import KMeansSeeding.Proofs.Sketching

/-!
# Directions as tiles of the weights

Weights are drawn one after another, and a draw depends on nothing but the keystream before it. So more
weights of the same seed begin with fewer (`Normal.variates_prefix`). The directions of a full projection
are its weights, cut into stretches of one dimension (`Projection.flatten_stretches`); hence a wider
projection of the same seed has the directions of a narrower one and goes on behind them. Its sketches
begin with the narrower ones, and each further bit adds at most one to a Hamming distance.
-/

namespace KMeansSeeding

/-! ## Draws -/

namespace Normal

/-- One draw, then the others. All that is said of a draw is that it depends on the keystream. -/
theorem drawOnto_succ (count : ℕ) (stream : Keystream) (drawn : Array Float32) :
    drawOnto (count + 1) stream drawn
      = drawOnto count (draw stream).2 (drawn.push (draw stream).1) := by
  rw [drawOnto]

/-- Drawing more goes on with the keystream where drawing stopped. -/
theorem exists_drawOnto_add (count : ℕ) (stream : Keystream) :
    ∃ later, ∀ more drawn,
      drawOnto (count + more) stream drawn = drawOnto more later (drawOnto count stream drawn) := by
  induction count generalizing stream with
  | zero => exact ⟨stream, fun more drawn => by rw [Nat.zero_add, drawOnto]⟩
  | succ count ih =>
    obtain ⟨later, goesOn⟩ := ih (draw stream).2
    refine ⟨later, fun more drawn => ?_⟩
    rw [Nat.succ_add, drawOnto_succ, drawOnto_succ, goesOn]

theorem prefix_drawOnto (count : ℕ) (stream : Keystream) (drawn : Array Float32) :
    drawn.toList <+: (drawOnto count stream drawn).toList := by
  induction count generalizing stream drawn with
  | zero => exact List.prefix_refl _
  | succ count ih =>
    have one : drawn.toList <+: (drawn.push (draw stream).1).toList := by
      rw [Array.toList_push]
      exact List.prefix_append _ _
    rw [drawOnto_succ]
    exact one.trans (ih _ _)

/-- More variates of a seed begin with fewer. -/
theorem variates_prefix (seed : UInt64) {few many : ℕ} (le : few ≤ many) :
    (variates seed few).toList <+: (variates seed many).toList := by
  obtain ⟨more, rfl⟩ := Nat.exists_eq_add_of_le le
  obtain ⟨later, goesOn⟩ := exists_drawOnto_add few (Keystream.ofSeed seed)
  rw [variates, variates, goesOn]
  exact prefix_drawOnto more later _

end Normal

namespace Projection

variable {κ : Type}

/-! ## Tiles -/

/-- The directions of all bits, one after another, are the weights. -/
structure Tiled (projection : Projection κ) : Prop where
  size : projection.weights.size = projection.dimension * projection.bits
  tiles : ∃ directions, (List.range projection.bits).mapM projection.direction = .ok directions ∧
    (∀ direction ∈ directions, direction.length = projection.dimension) ∧
    directions.flatten = projection.weights.toList

section Tiles

variable {projection narrow wide : Projection κ} {bit : ℕ}

theorem stretch_eq (projection : Projection κ) (bit : ℕ) :
    projection.stretch bit
      = (projection.weights.toList.drop (bit * projection.dimension)).take projection.dimension := by
  rw [stretch, Array.toList_extract, List.extract_eq_take_drop, Nat.add_sub_cancel_left]

/-- The first stretches in a row are the first weights. -/
theorem flatten_stretches (projection : Projection κ) (count : ℕ) :
    ((List.range count).map projection.stretch).flatten
      = projection.weights.toList.take (count * projection.dimension) := by
  induction count with
  | zero => simp
  | succ count ih =>
    rw [List.range_succ, List.map_append, List.flatten_append, ih, List.map_singleton,
      List.flatten_singleton, stretch_eq, Nat.succ_mul, List.take_add]

theorem tiled_of_full (full : projection.Full) : projection.Tiled := by
  refine ⟨full, (List.range projection.bits).map projection.stretch, ?_, ?_, ?_⟩
  · exact mapM_eq_ok_map fun bit inside => direction_eq_ok full (List.mem_range.mp inside)
  · intro direction member
    obtain ⟨bit, inside, rfl⟩ := List.mem_map.mp member
    exact length_stretch full (List.mem_range.mp inside)
  · rw [flatten_stretches]
    refine List.take_of_length_le ?_
    rw [Array.length_toList, full, Nat.mul_comm]

/-- Where the weights of a projection begin with those of another one, it has the directions of that
one. -/
theorem stretch_of_prefix (full : narrow.Full) (dimension : narrow.dimension = wide.dimension)
    (first : narrow.weights.toList <+: wide.weights.toList) (inside : bit < narrow.bits) :
    wide.stretch bit = narrow.stretch bit := by
  obtain ⟨others, weights⟩ := first
  have stop := full.stretch_le inside
  rw [← Array.length_toList] at stop
  rw [stretch_eq, stretch_eq, ← weights, ← dimension, List.drop_append_of_le_length (by omega),
    List.take_append_of_le_length]
  rw [List.length_drop]
  omega

end Tiles

/-! ## Bits -/

variable [Add κ] [Mul κ] [OfNat κ 0] [LT κ] [DecidableLT κ]

/-- A sketch of a point has one bit per direction: whether the projection onto it is above zero. -/
structure Signs (projection : Projection κ) (point : List κ) (sketch : Sketch) : Prop where
  sketch_eq : projection.sketch point = .ok sketch
  width_eq : sketch.width = projection.bits
  bit_iff : ∀ bit < projection.bits, ∃ direction value, projection.direction bit = .ok direction ∧
    narrowDot point direction = .ok value ∧ (sketch.bit bit = true ↔ 0 < value)

section Signed

variable {projection : Projection κ} {point : List κ} {bit : ℕ}

theorem trimmed_sketchOf (projection : Projection κ) (point : List κ) :
    (projection.sketchOf point).Trimmed :=
  Sketch.trimmed_ofSigns _ _

theorem bit_sketchOf :
    (projection.sketchOf point).bit bit = true ↔
      bit < projection.bits ∧ 0 < projection.along point bit := by
  have sketched : projection.sketchOf point = .ofProjections projection.bits
      ((List.range projection.bits).map (projection.along point)) := rfl
  rw [sketched, Sketch.bit_ofProjections, and_congr_right_iff]
  intro inside
  rw [List.getElem?_map, List.getElem?_range inside]
  simp

theorem signs_sketchOf (full : projection.Full) (fits : point.length = projection.dimension) :
    projection.Signs point (projection.sketchOf point) := by
  refine ⟨sketch_eq_ok full fits, rfl, fun bit inside => ?_⟩
  refine ⟨_, _, direction_eq_ok full inside, narrowDot_eq_ok full fits inside, ?_⟩
  rw [bit_sketchOf, and_iff_right inside]

end Signed

/-! ## Widening -/

section Widened

variable {narrow wide : Projection κ} {bit : ℕ}

/-- Sketches of one point agree in the bits of which the directions agree. -/
theorem bit_sketchOf_congr (point : List κ) (few : bit < narrow.bits) (many : bit < wide.bits)
    (same : wide.stretch bit = narrow.stretch bit) :
    (wide.sketchOf point).bit bit = (narrow.sketchOf point).bit bit := by
  rw [Bool.eq_iff_iff, bit_sketchOf, bit_sketchOf, and_iff_right few, and_iff_right many, along,
    along, same]

variable (wider : narrow.bits ≤ wide.bits)
  (same : ∀ bit < narrow.bits, wide.stretch bit = narrow.stretch bit)

include wider same

/-- The sketches of a wider projection begin with those of the narrower one. -/
theorem bits_sketchOf (point : List κ) :
    (narrow.sketchOf point).bits = (wide.sketchOf point).bits.take narrow.bits := by
  rw [Sketch.bits, Sketch.bits, width_sketchOf, width_sketchOf, ← List.map_take, List.take_range,
    Nat.min_eq_left wider]
  refine List.map_congr_left fun bit inside => ?_
  rw [List.mem_range] at inside
  exact (bit_sketchOf_congr point inside (inside.trans_le wider) (same bit inside)).symm

/-- Beyond the bits of the narrower projection, each bit adds at most one to a Hamming distance. -/
theorem hamming_sketchOf_bounds (point other : List κ) :
    (narrow.sketchOf point).hamming (narrow.sketchOf other)
        ≤ (wide.sketchOf point).hamming (wide.sketchOf other) ∧
      (wide.sketchOf point).hamming (wide.sketchOf other)
        ≤ (narrow.sketchOf point).hamming (narrow.sketchOf other) + (wide.bits - narrow.bits) := by
  have common : (List.range narrow.bits).countP
        (fun j => (narrow.sketchOf point).bit j != (narrow.sketchOf other).bit j)
      = (List.range narrow.bits).countP
        (fun j => (wide.sketchOf point).bit j != (wide.sketchOf other).bit j) := by
    refine List.countP_congr fun bit inside => ?_
    rw [List.mem_range] at inside
    have agree (point : List κ) :=
      bit_sketchOf_congr point inside (inside.trans_le wider) (same bit inside)
    rw [agree, agree]
  obtain ⟨more, sum⟩ := Nat.exists_eq_add_of_le wider
  rw [(narrow.trimmed_sketchOf point).hamming_eq (narrow.trimmed_sketchOf other) rfl,
    (wide.trimmed_sketchOf point).hamming_eq (wide.trimmed_sketchOf other) rfl, width_sketchOf,
    width_sketchOf, common, sum, List.range_add, List.countP_append, List.countP_map,
    Nat.add_sub_cancel_left]
  have rest := countP_range_le
    ((fun j => (wide.sketchOf point).bit j != (wide.sketchOf other).bit j) ∘ (narrow.bits + ·)) more
  exact ⟨Nat.le_add_right _ _, Nat.add_le_add_left rest _⟩

end Widened

/-! ## Projections of one seed -/

/-- The directions of a seed tile its weights, whatever their number, and more bits only go on with the
weights behind those of fewer bits. So the sketch with fewer bits is the beginning of that with more, each
bit tells whether the product of the point with the direction of the bit is above zero, and every further
bit adds at most one to the Hamming distance of two points. -/
theorem generate_widened (dimension : ℕ) (seed : UInt64) {bits more : ℕ} (wider : bits ≤ more) :
    (generate dimension bits seed).Tiled ∧ (generate dimension more seed).Tiled ∧
    (generate dimension bits seed).weights.toList <+: (generate dimension more seed).weights.toList ∧
    ∀ point other : Point, point.length = dimension → other.length = dimension →
      ∃ few many few' many',
        (generate dimension bits seed).Signs point few ∧
        (generate dimension more seed).Signs point many ∧
        (generate dimension bits seed).Signs other few' ∧
        (generate dimension more seed).Signs other many' ∧
        few.bits = many.bits.take bits ∧
        few.hamming few' ≤ many.hamming many' ∧
        many.hamming many' ≤ few.hamming few' + (more - bits) := by
  have full (count : ℕ) : (generate dimension count seed).Full := full_generate dimension count seed
  have first : (generate dimension bits seed).weights.toList
      <+: (generate dimension more seed).weights.toList :=
    Normal.variates_prefix seed (Nat.mul_le_mul_left dimension wider)
  refine ⟨tiled_of_full (full bits), tiled_of_full (full more), first, ?_⟩
  intro point other fits fits'
  have wider : (generate dimension bits seed).bits ≤ (generate dimension more seed).bits := wider
  have same : ∀ bit < (generate dimension bits seed).bits,
      (generate dimension more seed).stretch bit = (generate dimension bits seed).stretch bit :=
    fun bit inside => stretch_of_prefix (full bits) rfl first inside
  obtain ⟨lower, upper⟩ := hamming_sketchOf_bounds wider same point other
  exact ⟨_, _, _, _, signs_sketchOf (full bits) fits, signs_sketchOf (full more) fits,
    signs_sketchOf (full bits) fits', signs_sketchOf (full more) fits',
    bits_sketchOf wider same point, lower, upper⟩

/-- Three directions of two components go on into forty, and the sketches into a second word. -/
theorem generate_widened_two_words :
    (generate 2 3 7).weights.size = 6 ∧
    (generate 2 3 7).weights.toList <+: (generate 2 40 7).weights.toList ∧
    ∃ few many, (generate 2 3 7).sketch ([1, -2] : Point) = .ok few ∧
      (generate 2 40 7).sketch ([1, -2] : Point) = .ok many ∧ few.bits = many.bits.take 3 := by
  obtain ⟨tiled, -, first, sketches⟩ := generate_widened 2 7 (show 3 ≤ 40 by decide)
  obtain ⟨few, many, -, -, hfew, hmany, -, -, bits, -⟩ := sketches [1, -2] [0, 0] rfl rfl
  exact ⟨tiled.size, first, few, many, hfew.sketch_eq, hmany.sketch_eq, bits⟩

end Projection

end KMeansSeeding
