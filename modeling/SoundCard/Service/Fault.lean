import SoundCard.Wire.Value
import SoundCard.Os.Errno
import SoundCard.Os.Trap
/-! Requests that cannot be carried out as asked, and the field readers, which take a missing or
`null` field as absent. -/
namespace SoundCard.Service

open SoundCard.Wire SoundCard.Os

/-- Why a request, or one step of it, was refused before reaching the library, or why
the whole program stopped. -/
inductive Fault where
  | badInput (message : String)
  | typed (message : String)
  | noHandle
  | system (e : IoError)
  /-- The program stopped; this ends the whole request, not only a step of it. -/
  | trap (t : Trap)
  deriving DecidableEq, Repr, Inhabited

def ioErrorValue (e : IoError) : Value :=
  .obj [("error", .str "io"), ("message", .str e.message), ("errno", .opt .int e.code?)]

/-- The answer object of a fault. -/
def Fault.toValue : Fault → Value
  | .badInput m => .obj [("error", .str "bad_input"), ("message", .str m)]
  | .typed m => .obj [("error", .str "serde"), ("message", .str m)]
  | .noHandle => .obj [("error", .str "no_handle")]
  | .system e => ioErrorValue e
  | .trap t => .obj [("error", .str "panic"), ("message", .str t.message)]

/-- Whether a fault ends the whole request rather than one step of it. -/
def Fault.isTrap : Fault → Bool
  | .trap _ => true
  | _ => false

def systemFault {α : Type} : Except IoError α → Except Fault α
  | .ok a => .ok a
  | .error e => .error (.system e)

abbrev Checked := Except Fault

/-- A computation that may stop the program, as one that may be refused. -/
def trapped {α : Type} : Trapping α → Checked α
  | .ok a => .ok a
  | .error t => .error (.trap t)

def bad {α : Type} (m : String) : Checked α := .error (.badInput m)

private def fieldMsg (key what : String) : String := s!"field '{key}' must be {what}"

private def fitMsg (key type : String) : String := s!"field '{key}' must fit {type}"

/-- An optional natural-number field. -/
def optNat (v : Value) (key : String) : Checked (Option Nat) :=
  match v.given? key with
  | none => pure none
  | some (.int i) => if i ≥ 0 then pure (some i.toNat) else bad (fieldMsg key "a non-negative integer")
  | some _ => bad (fieldMsg key "a non-negative integer")

def natOr (v : Value) (key : String) (d : Nat) : Checked Nat := do
  return (← optNat v key).getD d

/-- A required natural-number field. -/
def natReq (v : Value) (key : String) : Checked Nat := do
  match ← optNat v key with
  | some n => pure n
  | none => bad (fieldMsg key "a non-negative integer")

/-- An optional field holding an unsigned number below `2 ^ bits`. -/
def optWord (v : Value) (key : String) (bits : Nat) : Checked (Option Nat) := do
  match ← optNat v key with
  | some n => if n < Nat.pow 2 bits then pure (some n) else bad (fitMsg key s!"u{bits}")
  | none => pure none

def u32Or (v : Value) (key : String) (d : Nat) : Checked Nat := do
  return (← optWord v key 32).getD d

/-- A required 32-bit unsigned field. -/
def u32Req (v : Value) (key : String) : Checked Nat := do
  match ← optWord v key 32 with
  | some n => pure n
  | none => bad (fieldMsg key "a non-negative integer")

def u64Or (v : Value) (key : String) (d : Nat) : Checked Nat := do
  return (← optWord v key 64).getD d

/-- A required 64-bit unsigned field. -/
def u64Req (v : Value) (key : String) : Checked Nat := do
  match ← optWord v key 64 with
  | some n => pure n
  | none => bad (fieldMsg key "a non-negative integer")

def isI64 (i : Int) : Bool := -9223372036854775808 ≤ i && i < 9223372036854775808

/-- An optional signed 64-bit field. -/
def optI64 (v : Value) (key : String) : Checked (Option Int) :=
  match v.given? key with
  | none => pure none
  | some (.int i) => if isI64 i then pure (some i) else bad (fieldMsg key "an i64 integer")
  | some _ => bad (fieldMsg key "an i64 integer")

def i64Or (v : Value) (key : String) (d : Int) : Checked Int := do
  return (← optI64 v key).getD d

/-- A required signed 64-bit field. -/
def i64Req (v : Value) (key : String) : Checked Int := do
  match ← optI64 v key with
  | some i => pure i
  | none => bad (fieldMsg key "an i64 integer")

/-- An optional signed 32-bit field. -/
def optI32 (v : Value) (key : String) : Checked (Option Int) := do
  match ← optI64 v key with
  | some i =>
    if -2147483648 ≤ i && i < 2147483648 then pure (some i) else bad (fitMsg key "i32")
  | none => pure none

def i32Or (v : Value) (key : String) (d : Int) : Checked Int := do
  return (← optI32 v key).getD d

/-- A required signed 32-bit field. -/
def i32Req (v : Value) (key : String) : Checked Int := do
  match ← optI32 v key with
  | some i => pure i
  | none => bad (fieldMsg key "an i64 integer")

/-- A boolean field with a default. -/
def boolOr (v : Value) (key : String) (d : Bool) : Checked Bool :=
  match v.given? key with
  | none => pure d
  | some (.bool b) => pure b
  | some _ => bad (fieldMsg key "a boolean")

/-- An optional text field. -/
def optStr (v : Value) (key : String) : Checked (Option String) :=
  match v.given? key with
  | none => pure none
  | some (.str s) => pure (some s)
  | some _ => bad (fieldMsg key "a string")

def strOr (v : Value) (key : String) (d : String) : Checked String := do
  return (← optStr v key).getD d

/-- A required text field. -/
def strReq (v : Value) (key : String) : Checked String := do
  match ← optStr v key with
  | some s => pure s
  | none => bad (fieldMsg key "a string")

/-- A field that is a text or `null`. -/
def strOrNull (v : Value) (key : String) : Checked (Option String) :=
  match v.given? key with
  | none => pure none
  | some (.str s) => pure (some s)
  | some _ => bad (fieldMsg key "a string or null")

/-- Reads a list of bytes. -/
def bytesOf? : Value → Option (List UInt8)
  | .arr items => items.mapM fun
    | .int i => if 0 ≤ i ∧ i < 256 then some (UInt8.ofNat i.toNat) else none
    | _ => none
  | _ => none

/-- An optional byte field, refused with `message` when it is not a byte. -/
def optByte (v : Value) (key message : String) : Checked (Option UInt8) :=
  match v.given? key with
  | none => pure none
  | some (.int i) => if 0 ≤ i ∧ i < 256 then pure (some (UInt8.ofNat i.toNat)) else bad message
  | some _ => bad message

/-- An optional byte-list field. -/
def optBytes (v : Value) (key : String) : Checked (Option (List UInt8)) :=
  match v.given? key with
  | none => pure none
  | some x => match bytesOf? x with
    | some bs => pure (some bs)
    | none => bad (fieldMsg key "a list of bytes")

def bytesOr (v : Value) (key : String) (d : List UInt8) : Checked (List UInt8) := do
  return (← optBytes v key).getD d

/-- A required byte-list field. -/
def bytesReq (v : Value) (key : String) : Checked (List UInt8) := do
  match ← optBytes v key with
  | some bs => pure bs
  | none => bad (fieldMsg key "a list of bytes")

/-- A list field; anything but a list reads as the empty list. -/
def listOr (v : Value) (key : String) : List Value :=
  match v.field? key with
  | some (.arr xs) => xs
  | _ => []

def readOp (v : Value) : Checked String := strReq v "op"

end SoundCard.Service
