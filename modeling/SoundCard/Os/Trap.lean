import SoundCard.Os.Errno
import SoundCard.Text.Quote
/-! Computations that stop the program: checked 64-bit arithmetic, slices and allocations out of
range, and refused environment changes. -/
namespace SoundCard.Os

/-- Why the program stopped. -/
inductive Trap where
  | addOverflow
  | subOverflow
  | mulOverflow
  /-- A slice from `start` to `stop` with `start > stop`. -/
  | sliceOrder (start stop : Nat)
  /-- A slice ending at `stop` of data `len` bytes long, with `stop > len`. -/
  | sliceEnd (stop len : Nat)
  /-- A buffer of more bytes than a signed word counts. -/
  | capacityOverflow
  /-- Setting the environment variable `name` to `value` failed with `cause`. -/
  | setEnv (name value : String) (cause : IoError)
  deriving DecidableEq, Repr, Inhabited

/-- The message the program stops with. -/
def Trap.message : Trap → String
  | .addOverflow => "attempt to add with overflow"
  | .subOverflow => "attempt to subtract with overflow"
  | .mulOverflow => "attempt to multiply with overflow"
  | .sliceOrder a b => s!"slice index starts at {a} but ends at {b}"
  | .sliceEnd e n => s!"range end index {e} out of range for slice of length {n}"
  | .capacityOverflow => "capacity overflow"
  | .setEnv name value cause =>
    "failed to set environment variable " ++ "\x60" ++ Text.quote name ++ "\x60 to \x60" ++
      Text.quote value ++ "\x60: " ++ cause.message

abbrev Trapping := Except Trap

def wordRange : Nat := 18446744073709551616

/-- The number of values of the non-negative half of a signed 64-bit word. -/
def halfWordRange : Int := 9223372036854775808

def halt {α : Type} (t : Trap) : Trapping α := .error t

def addWord (a b : Nat) : Trapping Nat :=
  if a + b < wordRange then pure (a + b) else halt .addOverflow

def mulWord (a b : Nat) : Trapping Nat :=
  if a * b < wordRange then pure (a * b) else halt .mulOverflow

/-- The difference of two signed words, which must fit a signed word. -/
def subSigned (a b : Int) : Trapping Int :=
  if -halfWordRange ≤ a - b ∧ a - b < halfWordRange then pure (a - b) else halt .subOverflow

def addU64 (a b : UInt64) : Trapping UInt64 := do
  return UInt64.ofNat (← addWord a.toNat b.toNat)

/-- The sum of two 32-bit words, which must fit a 32-bit word. -/
def addU32 (a b : UInt32) : Trapping UInt32 :=
  if a.toNat + b.toNat < 4294967296 then pure (a + b) else halt .addOverflow

def mulU64 (a b : UInt64) : Trapping UInt64 := do
  return UInt64.ofNat (← mulWord a.toNat b.toNat)

/-- Asks for a buffer of `count` items of `size` bytes each. The bytes are counted by a
signed word, so the buffer holds fewer than `halfWordRange` of them. -/
def reserve (count size : Nat) : Trapping Unit :=
  if (count * size : Int) < halfWordRange then pure () else halt .capacityOverflow

/-- Sets an environment variable: a value holding a NUL byte cannot reach the system. -/
def setVariable (name value : String) : Trapping Unit :=
  if value.contains '\x00' then halt (.setEnv name value .nulInPath) else pure ()

/-- Checks the bounds of the slice from `start` to `stop` of data `len` long: the order
first, then the end. -/
def checkSlice (start stop len : Nat) : Trapping Unit :=
  if start > stop then halt (.sliceOrder start stop)
  else if stop > len then halt (.sliceEnd stop len)
  else pure ()

end SoundCard.Os
