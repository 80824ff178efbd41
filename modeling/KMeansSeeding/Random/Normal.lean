import KMeansSeeding.Binary.Precision
import KMeansSeeding.Random.Keystream
import KMeansSeeding.Random.Layers

/-!
# Normal variates

`draw` takes one standard normal variate from a keystream by rejection from the layers of the
density. A word picks a layer and a point of it; almost always the point lies under the curve for
sure, else a second word decides. The base layer hands over to the tail beyond `tailStart`.
-/

namespace KMeansSeeding.Normal

/-- The right ends of the layers. -/
def edges : Vector Float 257 :=
  edgeBits.map Float.ofBits

/-- The values of the curve at the right ends of the layers. -/
def heights : Vector Float 257 :=
  heightBits.map Float.ofBits

/-- Where the tail of the base layer starts. -/
def tailStart : Float :=
  3.654152885361008796

/-- How often a draw may be rejected. The algorithm has no such bound; one is there for the recursions below
to be structural. One rejection has a chance below one in fifty, so no seed is known to come near it, and
what they give without an attempt left stands for nothing. -/
def attempts : Nat :=
  1000

/-- A uniform variate in `[-1, 1)` from the upper 52 bits of a word. -/
def symmetric (word : UInt64) : Float :=
  Float.ofBits ((word >>> 12) ||| 0x4000000000000000) - 3.0

/-- A uniform variate in `[0, 1)` from the upper 53 bits of a word. -/
def uniform (word : UInt64) : Float :=
  (word >>> 11).toFloat * Float.ofBits 0x3ca0000000000000

/-- A uniform variate in `(0, 1)` from the upper 52 bits of a word. -/
def openUniform (word : UInt64) : Float :=
  Float.ofBits ((word >>> 12) ||| 0x3ff0000000000000) - Float.ofBits 0x3fefffffffffffff

/-- Rejection from an exponential in the tail: `a` is minus the distance from `tailStart`. Without an
attempt left the last `a` is given, which is no variate. -/
def tailLoop : (attempts : Nat) → (a y : Float) → Keystream → Float × Keystream
  | 0, a, _, stream => (a, stream)
  | attempts + 1, a, y, stream =>
    if -2.0 * y < a * a then
      let (p, stream) := stream.next
      let (q, stream) := stream.next
      tailLoop attempts (Float.log (openUniform p) / tailStart) (Float.log (openUniform q)) stream
    else (a, stream)

/-- A variate from the tail on the side of `side`. -/
def tail (side : Float) (stream : Keystream) : Float × Keystream :=
  let (a, stream) := tailLoop attempts 1.0 0.0 stream
  (if side < 0.0 then a - tailStart else tailStart - a, stream)

/-- Draws until a point is accepted. Without an attempt left zero is given, which is no variate. -/
def drawLoop : (attempts : Nat) → Keystream → Float × Keystream
  | 0, stream => (0.0, stream)
  | attempts + 1, stream =>
    let (word, stream) := stream.next
    let layer := word.toNat % 256
    have bound : layer < 256 := Nat.mod_lt _ (by decide)
    let side := symmetric word
    let x := side * edges[layer]
    if x.abs < edges[layer + 1] then (x, stream)
    else if layer = 0 then tail side stream
    else
      let (second, stream) := stream.next
      let low := heights[layer + 1]
      if low + (heights[layer] - low) * uniform second < Float.exp (-x * x / 2.0) then (x, stream)
      else drawLoop attempts stream

/-- One standard normal variate, and the keystream after it. -/
def draw (stream : Keystream) : Float32 × Keystream :=
  let (x, stream) := drawLoop attempts stream
  (narrowDouble x, stream)

/-- The next `count` variates in order, after those collected in `drawn`. -/
def drawOnto : (count : Nat) → Keystream → (drawn : Array Float32) → Array Float32
  | 0, _, drawn => drawn
  | count + 1, stream, drawn =>
    let (x, stream) := draw stream
    drawOnto count stream (drawn.push x)

/-- The first `count` variates of a seed. -/
def variates (seed : UInt64) (count : Nat) : Array Float32 :=
  drawOnto count (Keystream.ofSeed seed) #[]

end KMeansSeeding.Normal
