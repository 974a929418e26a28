import SoundCard.Number.Binary64
/-! JSON values: integers while they fit 64 bits and carry no fraction or exponent, binary64
values otherwise. -/
namespace SoundCard.Wire

open SoundCard.Number

/-- A JSON value. The reader gives objects their fields in key order, one field a key. -/
inductive Value where
  | null
  | bool (b : Bool)
  | int (i : Int)
  | float (x : Binary64)
  | str (s : String)
  | arr (items : List Value)
  | obj (fields : List (String × Value))
  deriving Inhabited

namespace Value

/-- The field of an object under `key`; `none` for a missing field and for a non-object. -/
def field? : Value → String → Option Value
  | .obj fields, key => (fields.find? (·.1 == key)).map (·.2)
  | _, _ => none

/-- A field that is present and not `null`: the service reads a `null` field as missing. -/
def given? (v : Value) (key : String) : Option Value :=
  match v.field? key with
  | some .null => none
  | other => other

def record (fields : List (String × Value)) : Value := .obj fields

def nat (n : Nat) : Value := .int n

def opt {α : Type} (f : α → Value) : Option α → Value
  | some a => f a
  | none => .null

def list {α : Type} (f : α → Value) (xs : List α) : Value := .arr (xs.map f)

def bytes (bs : List UInt8) : Value := .arr (bs.map fun b => .int b.toNat)

end Value

end SoundCard.Wire
