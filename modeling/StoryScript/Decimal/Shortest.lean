/-!
# Shortest decimals

The decimal with the fewest digits that still reads back as a given 64-bit float, and of those the
one nearest to it. A float stands for all reals that round to it; on the grid of decimals with a
given number of digits only the two neighbours of the float can lie in that interval, so the first
grid of which one does has the answer.

## Main definitions

* `Binary` — a positive float as `mantissa * 2 ^ exponent`; `Binary.ofFloat`.
* `Decimal` — `digits * 10 ^ exponent`; `shortest`.
-/

namespace StoryScript

/-- The number `digits * 10 ^ exponent`. -/
structure Decimal where
  digits : Nat
  exponent : Int
deriving Repr, DecidableEq

namespace Decimal

/-- The number `mantissa * 2 ^ exponent`. -/
structure Binary where
  mantissa : Nat
  exponent : Int
deriving Repr, DecidableEq

namespace Binary

/-- The leading bit of the mantissa of a float, which is not stored unless the float is tiny. -/
def hiddenBit : Nat := 0x10000000000000

def ofFloat (x : Float) : Binary :=
  let bits : Nat := x.toBits.toNat
  let e : Nat := bits / hiddenBit % 2048
  let f : Nat := bits % hiddenBit
  if e = 0 then ⟨f, -1074⟩ else ⟨f + hiddenBit, e - 1075⟩

/-- The numbers that round to `b` reach from the first to the second result, in quarters of the
last binary place. Below a power of two the neighbour is only half as far away. -/
def quarters (b : Binary) : Nat × Nat :=
  (if b.mantissa = hiddenBit ∧ -1074 < b.exponent then 4 * b.mantissa - 1
    else 4 * b.mantissa - 2, 4 * b.mantissa + 2)

end Binary

/-- `base ^ k`, which is 1 for negative `k`. -/
def power (base : Nat) (k : Int) : Nat :=
  base.pow k.toNat

/-- Compares `a * 10 ^ k` with `c` quarters of the last place of `b`. -/
def compareQuarters (b : Binary) (k : Int) (a c : Nat) : Ordering :=
  let u := b.exponent - 2
  compare (a * power 10 k * power 2 (-u)) (c * power 2 u * power 10 (-k))

/-- Whether `a * 10 ^ k` rounds to `b`; the ends of the interval do so when the mantissa is even. -/
def roundsTo (b : Binary) (k : Int) (a : Nat) : Bool :=
  let low := compareQuarters b k a b.quarters.1
  let high := compareQuarters b k a b.quarters.2
  if b.mantissa % 2 = 0 then low != .lt && high != .gt else low == .gt && high == .lt

/-- The number of digits in front of the decimal point; negative for the zeros behind it. -/
def magnitude (b : Binary) : Int :=
  let scaled := b.mantissa * power 10 400 * power 2 b.exponent / power 2 (-b.exponent)
  (Nat.toDigits 10 scaled).length - 400

/-- The largest `a` with `a * 10 ^ k` not above `b`. -/
def gridBelow (b : Binary) (k : Int) : Nat :=
  b.mantissa * power 2 b.exponent * power 10 (-k) / (power 2 (-b.exponent) * power 10 k)

/-- The point nearest to `b` among those of its two neighbours on the grid of `10 ^ k` that round
to it. -/
def onGrid? (b : Binary) (k : Int) : Option Nat :=
  let below := gridBelow b k
  match roundsTo b k below, roundsTo b k (below + 1) with
  | true, false => some below
  | false, true => some (below + 1)
  | false, false => none
  | true, true =>
    match compareQuarters b k (2 * below + 1) (8 * b.mantissa) with
    | .gt => some below
    | .lt => some (below + 1)
    | .eq => some (below + below % 2)

/-- Moves the zeros at the end of the digits into the exponent. -/
def normalize (d : Decimal) : Decimal :=
  go d.digits d
where
  go : Nat → Decimal → Decimal
    | 0, d => d
    | fuel + 1, d =>
      if d.digits ≠ 0 ∧ d.digits % 10 = 0 then go fuel ⟨d.digits / 10, d.exponent + 1⟩ else d

/-- The shortest decimal that reads back as `b`. Seventeen digits are enough for any float. -/
def shortest (b : Binary) : Decimal :=
  if b.mantissa = 0 then ⟨0, 0⟩
  else
    let grids := (List.range 17).map fun n => magnitude b - (n + 1 : Nat)
    let hit := grids.findSome? fun k => (onGrid? b k).map fun a => (⟨a, k⟩ : Decimal)
    (hit.getD ⟨gridBelow b (magnitude b - 17), magnitude b - 17⟩).normalize

/-- The shortest decimal for the magnitude of a finite float. -/
def ofFloat (x : Float) : Decimal :=
  shortest (.ofFloat x)

/-- The float nearest to a decimal. Beyond the range of floats that is an infinity, or zero. -/
def toFloat (d : Decimal) : Float :=
  let size := d.exponent + (Nat.toDigits 10 d.digits).length
  if d.digits = 0 ∨ size < -400 then 0
  else if 400 < size then 1 / 0
  else Float.ofScientific d.digits (d.exponent < 0) d.exponent.natAbs

end Decimal

end StoryScript
