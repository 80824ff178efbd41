/-!
# The random keystream

A `Keystream` is an endless sequence of 64-bit words that depends on a 64-bit seed alone. Words come
in blocks of eight from the ChaCha permutation with twelve rounds; block `n` depends on the key and
on `n` only, so the state is the number of the next block and what is left of the current one.
-/

namespace KMeansSeeding

/-- Four 32-bit words, handled side by side. -/
structure Quad where
  w : UInt32
  x : UInt32
  y : UInt32
  z : UInt32
  deriving DecidableEq, Repr

namespace Quad

/-- Applies an operation word by word. -/
@[inline] def zip (op : UInt32 → UInt32 → UInt32) (p q : Quad) : Quad :=
  ⟨op p.w q.w, op p.x q.x, op p.y q.y, op p.z q.z⟩

instance : Add Quad := ⟨zip (· + ·)⟩

/-- The left rotation of one word by `places` bits, for `0 < places < 32`. -/
@[inline] def rotateWord (places : UInt32) (word : UInt32) : UInt32 :=
  (word <<< places) ||| (word >>> (32 - places))

/-- The exclusive or of two quads, each word rotated left by `places` bits. -/
@[inline] def mix (places : UInt32) (p q : Quad) : Quad :=
  zip (fun a b => rotateWord places (a ^^^ b)) p q

/-- Moves the words one place to the left, the first one to the end. -/
@[inline] def turn (p : Quad) : Quad :=
  ⟨p.x, p.y, p.z, p.w⟩

end Quad

/-- The sixteen words of a block as four rows. -/
structure Block where
  a : Quad
  b : Quad
  c : Quad
  d : Quad
  deriving DecidableEq, Repr

namespace Block

/-- Four quarter rounds, one down each column. -/
def columns (block : Block) : Block :=
  let a := block.a + block.b
  let d := Quad.mix 16 block.d a
  let c := block.c + d
  let b := Quad.mix 12 block.b c
  let a := a + b
  let d := Quad.mix 8 d a
  let c := c + d
  let b := Quad.mix 7 b c
  ⟨a, b, c, d⟩

/-- Turns the rows so that the diagonals become columns. -/
def slant (block : Block) : Block :=
  ⟨block.a, block.b.turn, block.c.turn.turn, block.d.turn.turn.turn⟩

/-- Undoes `slant`. -/
def straighten (block : Block) : Block :=
  ⟨block.a, block.b.turn.turn.turn, block.c.turn.turn, block.d.turn⟩

/-- A column round followed by a diagonal round. -/
def doubleRound (block : Block) : Block :=
  block.columns.slant.columns.straighten

/-- Applies `count` double rounds. -/
def doubleRounds : (count : Nat) → Block → Block
  | 0, block => block
  | count + 1, block => doubleRounds count block.doubleRound

/-- Twelve rounds, added to the words they started from. -/
def scramble (block : Block) : Block :=
  let mixed := doubleRounds 6 block
  ⟨mixed.a + block.a, mixed.b + block.b, mixed.c + block.c, mixed.d + block.d⟩

end Block

/-- Joins two words, the low one first. -/
def joinWords (low high : UInt32) : UInt64 :=
  low.toUInt64 ||| (high.toUInt64 <<< 32)

/-- An endless sequence of 64-bit words. -/
structure Keystream where
  /-- The two key rows of every block. -/
  key : Quad × Quad
  /-- The number of the next block. -/
  counter : UInt64
  /-- The unread words of the current block. -/
  pending : List UInt64
  deriving Repr

namespace Keystream

/-- One step of the generator that spreads a seed over the key words. -/
def spread (state : UInt64) : UInt64 :=
  state * 6364136223846793005 + 11634580027462260723

/-- The key word of a spreading state: its well-mixed high bits, rotated by the top five bits. -/
def keyWord (state : UInt64) : UInt32 :=
  let mixed := (((state >>> 18) ^^^ state) >>> 27).toUInt32
  let places := (state >>> 59).toUInt32
  (mixed >>> places) ||| (mixed <<< ((32 - places) % 32))

/-- Four key words in a row, and the spreading state after them. -/
def keyRow (state : UInt64) : Quad × UInt64 :=
  let s₁ := spread state
  let s₂ := spread s₁
  let s₃ := spread s₂
  let s₄ := spread s₃
  (⟨keyWord s₁, keyWord s₂, keyWord s₃, keyWord s₄⟩, s₄)

/-- The keystream of a seed, from its start. -/
def ofSeed (seed : UInt64) : Keystream :=
  let (first, state) := keyRow seed
  let (second, _) := keyRow state
  ⟨(first, second), 0, []⟩

/-- The block that the counter stands at. -/
def block (stream : Keystream) : Block :=
  Block.scramble
    { a := ⟨0x61707865, 0x3320646e, 0x79622d32, 0x6b206574⟩
      b := stream.key.1
      c := stream.key.2
      d := ⟨stream.counter.toUInt32, (stream.counter >>> 32).toUInt32, 0, 0⟩ }

/-- The next word of the sequence, and the sequence after it. -/
def next (stream : Keystream) : UInt64 × Keystream :=
  match stream.pending with
  | word :: rest => (word, { stream with pending := rest })
  | [] =>
    let ⟨a, b, c, d⟩ := stream.block
    (joinWords a.w a.x,
      { stream with
        counter := stream.counter + 1
        pending :=
          [joinWords a.y a.z, joinWords b.w b.x, joinWords b.y b.z, joinWords c.w c.x,
            joinWords c.y c.z, joinWords d.w d.x, joinWords d.y d.z] })

end Keystream

end KMeansSeeding
