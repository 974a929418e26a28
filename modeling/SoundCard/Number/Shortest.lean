import SoundCard.Number.Binary64
/-! The shortest decimal text of a binary64 value: the fewest significant digits that read back
as it, the nearest of those, written positionally or with an exponent. -/
namespace SoundCard.Number

namespace Binary64

def ratioOf (n : Nat) (s t : Int) : Nat × Nat :=
  (n * Nat.pow 10 s.toNat * Nat.pow 2 t.toNat, Nat.pow 10 (-s).toNat * Nat.pow 2 (-t).toNat)

/-- Compares `a * 10 ^ s` with `b * 2 ^ t`. -/
def compareScaled (a : Nat) (s : Int) (b : Nat) (t : Int) : Ordering :=
  let (n₁, d₁) := ratioOf a s 0
  let (n₂, d₂) := ratioOf b 0 t
  compare (n₁ * d₂) (n₂ * d₁)

/-- The exponent `k` with `10 ^ k ≤ b * 2 ^ t < 10 ^ (k + 1)`, for positive `b`. -/
def decimalMagnitude (b : Nat) (t : Int) : Int :=
  let k := (binaryMagnitude b 1 + t) * 78913 / 262144
  if compareScaled 1 (k + 1) b t != .gt then k + 1 else k

/-- Drops the trailing zeros of `d * 10 ^ s`, raising `s` for each. -/
def stripZeros (d : Nat) (s : Int) : Nat × Int :=
  if d = 0 then (d, s)
  else if d % 10 = 0 then stripZeros (d / 10) (s + 1)
  else (d, s)
termination_by d
decreasing_by omega

/-- The rounding interval of a positive value, in units of `2 ^ (exponent - 2)`, and whether
its ends read back as the value. -/
structure Interval where
  value : Nat
  low : Nat
  high : Nat
  unit : Int
  closed : Bool

/-- The rounding interval of `x`, read as positive. -/
def interval (x : Binary64) : Interval :=
  let m := x.significand
  let below := if m = Nat.pow 2 (precision - 1) ∧ x.exponent > minExponent then 1 else 2
  { value := 4 * m, low := 4 * m - below, high := 4 * m + 2, unit := x.exponent - 2,
    closed := m % 2 == 0 }

/-- Whether `d * 10 ^ s` lies in the interval. -/
def Interval.contains (i : Interval) (d : Nat) (s : Int) : Bool :=
  let lo := compareScaled d s i.low i.unit
  let hi := compareScaled d s i.high i.unit
  if i.closed then lo != .lt && hi != .gt else lo == .gt && hi == .lt

/-- The grid point of `n` significant digits chosen for the value, if one lies in its
interval. -/
def Interval.pick? (i : Interval) (k : Int) (n : Nat) : Option (Nat × Int) :=
  let s := k - n + 1
  let (num, den) := ratioOf i.value (-s) i.unit
  let lo := num / den
  let inLo := i.contains lo s
  let inHi := i.contains (lo + 1) s
  if inLo && inHi then
    match compareScaled (2 * lo + 1) s (2 * i.value) i.unit with
    | .gt => some (lo, s)
    | .lt => some (lo + 1, s)
    | .eq => some (if lo % 2 == 0 then lo else lo + 1, s)
  else if inLo then some (lo, s)
  else if inHi then some (lo + 1, s)
  else none

/-- The shortest digits `d` and exponent `s` with `d * 10 ^ s` reading back as the positive
value `x`; `d` has no trailing zero. Seventeen digits always suffice. -/
def shortestDigits (x : Binary64) : Nat × Int :=
  let i := x.interval
  let k := decimalMagnitude i.value i.unit
  let found := (List.range 17).findSome? fun n => i.pick? k (n + 1)
  let (d, s) := found.getD (let (num, den) := ratioOf i.value (16 - k) i.unit; (num / den, k - 16))
  stripZeros d s

def zeros (n : Nat) : String := String.ofList (List.replicate n '0')

/-- The text of digits `ds` read as `0.ds * 10 ^ point`. -/
def layout (ds : String) (point : Int) : String :=
  let n := ds.length
  if -5 < point ∧ point ≤ 16 then
    if n ≤ point then ds ++ zeros (point.toNat - n) ++ ".0"
    else if 0 < point then
      String.ofList (ds.toList.take point.toNat) ++ "." ++ String.ofList (ds.toList.drop point.toNat)
    else "0." ++ zeros (-point).toNat ++ ds
  else
    let rest := ds.toList.drop 1
    let mant := String.ofList (ds.toList.take 1) ++ (if rest.isEmpty then "" else "." ++ String.ofList rest)
    let e := point - 1
    mant ++ "e" ++ (if e < 0 then "-" else "+") ++ toString e.natAbs

/-- The shortest text of the value. -/
def text (x : Binary64) : String :=
  let sign := if x.negative then "-" else ""
  if x.isZero then sign ++ "0.0"
  else
    let (d, s) := x.shortestDigits
    let ds := toString d
    sign ++ layout ds (s + ds.length)

end Binary64

end SoundCard.Number
