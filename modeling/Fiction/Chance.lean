import Fiction.Operator.Integer

/-!
# Fiction.Chance

Random numbers that a seed determines.

* `Chance` is the state of a xoshiro256** generator; `Chance.ofSeed` fills it from a SplitMix64
  sequence.
* `Chance.below64` and `Chance.below32` draw a number below a bound without bias: the product of a
  random word with the bound is drawn again while its low half is beyond the last full zone.
* `Chance.between` draws an integer from a range and `Chance.choice` a position in a list.
-/

namespace Fiction

/-- The state of the generator. -/
structure Chance where
  s0 : UInt64
  s1 : UInt64
  s2 : UInt64
  s3 : UInt64
deriving Repr, DecidableEq, Inhabited

namespace Chance

/-- The output for a state of the sequence that seeds the generator. -/
def mix (x : UInt64) : UInt64 :=
  let z := (x ^^^ (x >>> 30)) * 0xBF58476D1CE4E5B9
  let z := (z ^^^ (z >>> 27)) * 0x94D049BB133111EB
  z ^^^ (z >>> 31)

/-- The step of the sequence that seeds the generator. -/
def gamma : UInt64 := 0x9E3779B97F4A7C15

/-- The generator for a seed. -/
def ofSeed (seed : UInt64) : Chance :=
  ⟨mix (seed + gamma), mix (seed + 2 * gamma), mix (seed + 3 * gamma), mix (seed + 4 * gamma)⟩

/-- Rotates a word to the left. -/
def rotate (x : UInt64) (n : UInt64) : UInt64 :=
  (x <<< n) ||| (x >>> (64 - n))

/-- A random word and the next state. -/
def next (c : Chance) : UInt64 × Chance :=
  let result := rotate (c.s1 * 5) 7 * 9
  let t := c.s1 <<< 17
  let s2 := c.s2 ^^^ c.s0
  let s3 := c.s3 ^^^ c.s1
  let s1 := c.s1 ^^^ s2
  let s0 := c.s0 ^^^ s3
  (result, ⟨s0, s1, s2 ^^^ t, rotate s3 45⟩)

/-- The upper half of a random word. -/
def next32 (c : Chance) : Nat × Chance :=
  let (word, c) := c.next
  (word.toNat / UInt32.size, c)

/-- The last product in `width` bits that keeps all results equally likely: the greatest multiple of
the bound by a power of two, less one. -/
def zone (width bound : Nat) : Nat :=
  bound * Nat.pow 2 (width - 1 - bound.log2) - 1

/-- The number of draws after which a result is given up. -/
def patience : Nat := UInt64.size

/-- A number below a bound from words of `width` bits. -/
def below (width bound : Nat) (draw : Chance → Nat × Chance) : Nat → Chance → Nat × Chance
  | 0, c => (0, c)
  | n + 1, c =>
      let (word, c) := draw c
      let product := word * bound
      if product % Nat.pow 2 width ≤ zone width bound then (product / Nat.pow 2 width, c)
      else below width bound draw n c

/-- A number below a positive bound of 64 bits. -/
def below64 (bound : Nat) (c : Chance) : Nat × Chance :=
  below 64 bound (fun c => (c.next.1.toNat, c.next.2)) patience c

/-- A number below a positive bound of 32 bits. -/
def below32 (bound : Nat) (c : Chance) : Nat × Chance :=
  below 32 bound next32 patience c

/-- An integer from a range that includes both ends. -/
def between (low high : Int64) (c : Chance) : Int64 × Chance :=
  let count := (high.toInt - low.toInt + 1).toNat % UInt64.size
  if count = 0 then
    let (word, c) := c.next
    (word.toInt64, c)
  else
    let (n, c) := c.below64 count
    (Int64.ofInt (low.toInt + n), c)

/-- A position in a list of a positive length. -/
def choice (length : Nat) (c : Chance) : Nat × Chance :=
  c.below32 length

end Chance

end Fiction
