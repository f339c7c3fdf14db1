/-!
# Shortest decimals of binary floating-point numbers

A finite number is `mant * 2 ^ exp`. Every real closer to it than to its neighbours reads back as the number, and
so do the two ends of that interval when the mantissa is even. Of the decimals in the interval we take one with
the fewest digits; of those the nearest, and the upper one of two equally near.

The search goes through the grids `10 ^ k`, from the coarsest one downwards. On each grid only the two neighbours
of the number can be the answer, so the first grid with a hit has the fewest digits.
-/

namespace Dalvik.Decimal

/-- Widths of the fields of a binary floating-point format. -/
structure BinaryFormat where
  fractionBits : Nat
  exponentBits : Nat

/-- The 32-bit format. -/
def single : BinaryFormat := ⟨23, 8⟩

/-- The 64-bit format. -/
def double : BinaryFormat := ⟨52, 11⟩

/-- A positive number `value / den` together with the distances, over the same denominator, to the two ends of the
interval of reals that read back as it. -/
structure Interval where
  value : Nat
  below : Nat
  above : Nat
  den : Nat
  /-- Whether the ends belong to the interval. -/
  closed : Bool

/-- What the bits of a floating-point number stand for. -/
inductive Decoded where
  | nan
  | infinite
  | zero
  | finite (interval : Interval)

/-- `num / den`, with both of them multiplied by `2 ^ e`. -/
private def scaled (value below above : Nat) (e : Int) (closed : Bool) : Interval :=
  if e ≥ 0 then
    let f := Nat.pow 2 e.toNat
    ⟨value * f, below * f, above * f, 1, closed⟩
  else ⟨value, below, above, Nat.pow 2 (-e).toNat, closed⟩

/-- Decodes the bits below the sign bit. The number after a power of two is twice as far as the one before it,
except at the bottom of the exponent range. -/
def BinaryFormat.decode (f : BinaryFormat) (bits : Nat) : Decoded :=
  let fraction := bits % Nat.pow 2 f.fractionBits
  let exponent := bits / Nat.pow 2 f.fractionBits % Nat.pow 2 f.exponentBits
  let top := Nat.pow 2 f.exponentBits - 1
  let bias : Int := Nat.pow 2 (f.exponentBits - 1) - 1 + f.fractionBits
  if exponent = top then if fraction = 0 then .infinite else .nan
  else if exponent = 0 then
    if fraction = 0 then .zero
    else .finite (scaled (2 * fraction) 1 1 (1 - bias - 1) (fraction % 2 = 0))
  else
    let mant := Nat.pow 2 f.fractionBits + fraction
    let e : Int := exponent - bias
    if fraction = 0 ∧ 1 < exponent then .finite (scaled (4 * mant) 1 2 (e - 2) (mant % 2 = 0))
    else .finite (scaled (2 * mant) 1 1 (e - 1) (mant % 2 = 0))

def BinaryFormat.isNegative (f : BinaryFormat) (bits : Nat) : Bool :=
  bits / Nat.pow 2 (f.fractionBits + f.exponentBits) % 2 = 1

/-- A positive decimal: `digits * 10 ^ exponent`. -/
structure Expansion where
  digits : Nat
  exponent : Int

/-- The answer on the grid `10 ^ k`, if one of the two neighbours of the number lies in the interval. -/
def Interval.onGrid (i : Interval) (k : Int) : Option Expansion :=
  let up := Nat.pow 10 (-k).toNat
  let value := i.value * up
  let unit := i.den * Nat.pow 10 k.toNat
  let floor := value / unit
  let rest := value % unit
  let inside (distance room : Nat) : Bool := distance < room || (i.closed && distance = room)
  let low := inside rest (i.below * up)
  let high := inside (unit - rest) (i.above * up)
  if high && (!low || unit ≤ 2 * rest) then some ⟨floor + 1, k⟩
  else if low then some ⟨floor, k⟩
  else none

/-- The first hit on the grids `10 ^ k`, `10 ^ (k - 1)`, … -/
def Interval.search (i : Interval) : Nat → Int → Expansion
  | 0, k => ⟨i.value * Nat.pow 10 (-k).toNat / (i.den * Nat.pow 10 k.toNat), k⟩
  | n + 1, k => (i.onGrid k).getD (i.search n (k - 1))

/-- A power of ten above the number: its digits before the point, or minus the zeros after it. -/
def Interval.magnitude (i : Interval) : Int :=
  if i.den ≤ i.value then (Nat.toDigits 10 (i.value / i.den)).length
  else 1 - (Nat.toDigits 10 (i.den / i.value)).length

/-- Both formats read back after at most seventeen digits. -/
def Interval.shortest (i : Interval) : Expansion := i.search 20 i.magnitude

/-- Positional text, never with an exponent, and with a point only before a fraction. -/
def Expansion.text (d : Expansion) : String :=
  let ds := Nat.toDigits 10 d.digits
  if d.exponent ≥ 0 then String.ofList (ds ++ List.replicate d.exponent.toNat '0')
  else
    let places := (-d.exponent).toNat
    let padded := List.replicate (places + 1 - ds.length) '0' ++ ds
    let whole := padded.length - places
    String.ofList (padded.take whole ++ '.' :: padded.drop whole)

/-- Text of the floating-point number with the given bits; a zero keeps its sign. -/
def BinaryFormat.text (f : BinaryFormat) (bits : Nat) : String :=
  let sign := if f.isNegative bits then "-" else ""
  match f.decode bits with
  | .nan => "NaN"
  | .infinite => sign ++ "inf"
  | .zero => sign ++ "0"
  | .finite i => sign ++ i.shortest.text

end Dalvik.Decimal
