/-! Binary64 values, the rounding of exact ratios to them, and the two-step decimal reading of
the JSON reader. -/
namespace SoundCard.Number

/-- A finite binary64 value `(-1) ^ negative * significand * 2 ^ exponent`, in the one form
rounding gives it. -/
structure Binary64 where
  negative : Bool
  significand : Nat
  exponent : Int
  deriving DecidableEq, Repr, Inhabited

namespace Binary64

/-- The exponent of the least significand step, shared by zero and the subnormals. -/
def minExponent : Int := -1074

/-- The largest exponent of a finite value's significand step. -/
def maxExponent : Int := 971

def precision : Nat := 53

def zero (negative : Bool) : Binary64 := ⟨negative, 0, minExponent⟩

def isZero (x : Binary64) : Bool := x.significand == 0

def negate (x : Binary64) : Binary64 := { x with negative := !x.negative }

def scaled (n : Nat) (e : Int) : Nat × Nat :=
  if 0 ≤ e then (n * Nat.pow 2 e.toNat, 1) else (n, Nat.pow 2 (-e).toNat)

/-- The integer nearest to `n / d`; a tie goes to the even one. -/
def roundHalfEven (n d : Nat) : Nat :=
  let q := n / d
  let r := n % d
  if 2 * r < d then q
  else if 2 * r > d then q + 1
  else if q % 2 == 0 then q else q + 1

def ratioAtLeast (n d : Nat) (c : Int) : Bool :=
  if 0 ≤ c then d * Nat.pow 2 c.toNat ≤ n else d ≤ n * Nat.pow 2 (-c).toNat

/-- The exponent `b` with `2 ^ b ≤ n / d < 2 ^ (b + 1)`, for positive `n` and `d`. -/
def binaryMagnitude (n d : Nat) : Int :=
  let c : Int := (Nat.log2 n : Int) - (Nat.log2 d : Int)
  if ratioAtLeast n d c then c else c - 1

/-- The value nearest to `n / d * 2 ^ e` with the given sign, or `none` when it rounds past
the largest finite value. A value below half the least subnormal rounds to zero. -/
def ofRatio (negative : Bool) (n d : Nat) (e : Int) : Option Binary64 :=
  if n = 0 ∨ d = 0 then some (zero negative)
  else
    let q := max (binaryMagnitude n d + e - (precision - 1 : Nat)) minExponent
    let (num, den) :=
      if 0 ≤ e - q then (n * Nat.pow 2 (e - q).toNat, d) else (n, d * Nat.pow 2 (q - e).toNat)
    let m := roundHalfEven num den
    let (m, q) := if m = Nat.pow 2 precision then (Nat.pow 2 (precision - 1), q + 1) else (m, q)
    if q > maxExponent then none else some ⟨negative, m, q⟩

def ofNat (n : Nat) : Binary64 := (ofRatio false n 1 0).getD (zero false)

/-- The rounded product; `none` past the largest finite value. -/
def mul (x y : Binary64) : Option Binary64 :=
  ofRatio (x.negative != y.negative) (x.significand * y.significand) 1 (x.exponent + y.exponent)

def div (x y : Binary64) : Binary64 :=
  (ofRatio (x.negative != y.negative) x.significand y.significand (x.exponent - y.exponent)).getD
    (zero (x.negative != y.negative))

def pow10 (k : Nat) : Binary64 := (ofRatio false (Nat.pow 10 k) 1 0).getD (zero false)

/-- The largest power of ten the reader scales by in one step. -/
def maxPow10 : Nat := 308

/-- Divides by `10 ^ k`: in one step when `k ≤ 308`, else by `1e308` until the rest is in
range or the value is zero. -/
def divPow10 (f : Binary64) (k : Nat) : Binary64 :=
  if k ≤ maxPow10 then f.div (pow10 k)
  else if f.isZero then f
  else divPow10 (f.div (pow10 maxPow10)) (k - maxPow10)
termination_by k
decreasing_by simp only [maxPow10] at *; omega

/-- The reader's value of `±significand * 10 ^ exponent`, or `none` out of range: the
significand rounded, then scaled by the rounded power of ten. -/
def ofDecimal (negative : Bool) (significand : Nat) (exponent : Int) : Option Binary64 :=
  let f := ofNat significand
  let scaled :=
    if 0 ≤ exponent then
      if exponent.toNat ≤ maxPow10 then f.mul (pow10 exponent.toNat)
      else if f.isZero then some f else none
    else some (divPow10 f (-exponent).toNat)
  scaled.map fun f => if negative then f.negate else f

end Binary64

end SoundCard.Number
