/-! Intervals of the hardware-parameter record: a range `[min, max]` of 32-bit values with
flags for open ends, integrality and emptiness. Clamping only ever narrows. -/
namespace SoundCard.Hw

/-- A range of values with its flag word. -/
structure Interval where
  min : UInt32
  max : UInt32
  flags : UInt32
  deriving DecidableEq, Repr, Inhabited

namespace Interval

def openMin : UInt32 := 1
def openMax : UInt32 := 2
def integer : UInt32 := 4
def emptyFlag : UInt32 := 8

def full : Interval := ⟨0, 0xFFFFFFFF, 0⟩

def zero : Interval := ⟨0, 0, 0⟩

def isInteger (i : Interval) : Bool := i.flags &&& integer != 0

def isEmpty (i : Interval) : Bool := i.flags &&& emptyFlag != 0 || i.min > i.max

/-- Pins the interval to one integer value, closing both ends. -/
def setInteger (i : Interval) (v : UInt32) : Interval :=
  ⟨v, v, (i.flags ||| integer) &&& ~~~(openMin ||| openMax)⟩

/-- Narrows to `[lo, hi]`: an end that moves is closed, and crossing ends mark the
interval empty. -/
def clampTo (i : Interval) (lo hi : UInt32) : Interval :=
  let i := if lo > i.min then { i with min := lo, flags := i.flags &&& ~~~openMin } else i
  let i := if hi < i.max then { i with max := hi, flags := i.flags &&& ~~~openMax } else i
  if i.min > i.max then { i with flags := i.flags ||| emptyFlag } else i

def single? (i : Interval) : Option UInt32 :=
  if !i.isEmpty && i.min == i.max then some i.min else none

def triple (i : Interval) : List Nat := [i.min.toNat, i.max.toNat, i.flags.toNat]

end Interval

end SoundCard.Hw
