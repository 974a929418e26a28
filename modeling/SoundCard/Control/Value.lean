import SoundCard.Control.Mixer
/-! Reading and writing one element's values: every operation checks its arguments against the
cached info record before it sends anything, then reads, changes and writes back the record. -/
namespace SoundCard.Control

open SoundCard.Os

abbrev ControlM (σ : Type) := OnCardM σ Entry

def tlvHeaderBytes : Nat := 8

namespace Entry

variable {σ : Type} (D : ControlDevice σ)

def current : ControlM σ Entry := do return (← get).subject

def readRecord : ControlM σ ElemValue := do
  let c ← current
  OnCardM.ask s!"cannot read control '{c.name}'" (D.elemRead (ElemValue.forNumid c.numid))

def writeRecord (v : ElemValue) : ControlM σ Unit := do
  let c ← current
  discard <| OnCardM.ask s!"cannot write control '{c.name}'" (D.elemWrite v)

/-- The error for an access the element's type does not support. -/
def unsupported (c : Entry) (what : String) : MixerError :=
  .invalid s!"{what} not supported on {c.elemType.text} control '{c.name}'"

def valueLimit (c : Entry) : Nat := min c.numValues c.elemType.capacity

/-- Fails unless `index` names one of the element's values. -/
def checkIndex (c : Entry) (index : Nat) : Except MixerError Unit :=
  let limit := c.valueLimit
  if index ≥ limit then
    .error (.invalid s!"value index {index} out of range for '{c.name}' ({limit} values)")
  else .ok ()

/-- Fails unless between 1 and `limit` values are asked for. -/
def checkCount (c : Entry) (count limit : Nat) : Except MixerError Unit :=
  if count = 0 ∨ count > limit then
    .error (.invalid s!"{count} values requested from '{c.name}', expected 1..={limit}")
  else .ok ()

/-- Fails unless `value` lies in the element's integer range. -/
def checkRange (c : Entry) (value : Int) : Except MixerError Unit :=
  let lo := c.info.integerMin
  let hi := c.info.integerMax
  if value < lo ∨ value > hi then
    .error (.invalid s!"{value} outside {lo}..={hi} for '{c.name}'")
  else .ok ()

def hasValues (c : Entry) : Bool := c.elemType != .iec958 && c.elemType != .unknown

/-- Whether the element's values are integers read as an array. -/
def hasIntegers (c : Entry) : Bool :=
  c.elemType == .bool || c.elemType == .int || c.elemType == .int64

/-- Value `index` of the element; a boolean reads as 0 or 1. -/
def getValue (index : Nat) : ControlM σ Int := do
  let c ← current
  unless c.hasValues do throw (c.unsupported "value access")
  OnCardM.check (c.checkIndex index)
  let v ← readRecord D
  match c.elemType with
  | .bool => return if v.integer index ≠ 0 then 1 else 0
  | .int | .int64 => return v.integer index
  | .enum => return (v.enumItem index).toNat
  | .byte => return (v.bytes.getD index 0).toNat
  | .iec958 | .unknown => throw (c.unsupported "value access")

/-- Sets value `index`, after checking it fits the element's type. -/
def setValue (index : Nat) (value : Int) : ControlM σ Unit := do
  let c ← current
  unless c.hasValues do throw (c.unsupported "value access")
  OnCardM.check (c.checkIndex index)
  match c.elemType with
  | .int | .int64 => OnCardM.check (c.checkRange value)
  | .enum =>
    if value < 0 ∨ value ≥ c.info.enumItems.toNat then
      throw (.invalid
        s!"item {value} out of range for '{c.name}' ({c.info.enumItems.toNat} items)")
  | .byte =>
    if value < 0 ∨ value > 255 then
      throw (.invalid s!"{value} is not a byte value for '{c.name}'")
  | _ => pure ()
  let v ← readRecord D
  let v ← match c.elemType with
    | .bool => pure (v.setInteger index (if value ≠ 0 then 1 else 0))
    | .int | .int64 => pure (v.setInteger index value)
    | .enum => pure (v.setEnumItem index (UInt32.ofNat value.toNat))
    | .byte => pure { v with area := v.area.set index (UInt8.ofNat value.toNat) }
    | .iec958 | .unknown => throw (c.unsupported "value access")
  writeRecord D v

/-- The first `count` values of a boolean or integer element, as stored. -/
def getArray (count : Nat) : ControlM σ (List Int) := do
  let c ← current
  unless c.hasIntegers do throw (c.unsupported "integer array access")
  OnCardM.check (c.checkCount count c.valueLimit)
  let v ← readRecord D
  return (List.range count).map v.integer

/-- Overwrites the first values of a boolean or integer element; integers are checked
against the range before anything is sent. -/
def setArray (values : List Int) : ControlM σ Unit := do
  let c ← current
  unless c.hasIntegers do throw (c.unsupported "integer array access")
  OnCardM.check (c.checkCount values.length c.valueLimit)
  if c.elemType != .bool then
    values.forM fun x => OnCardM.check (c.checkRange x)
  let v ← readRecord D
  writeRecord D (values.zipIdx.foldl (fun v (x, k) => v.setInteger k x) v)

/-- The longest byte transfer the element takes: room for the TLV header on top of the
value count when it is read through TLV, else at most one record's bytes. -/
def maxBytes (c : Entry) : Nat :=
  if c.tlvReadWrite then c.numValues + tlvHeaderBytes else min c.numValues maxByteValues

/-- Reads `len` bytes from a byte element, through TLV when the element says so. -/
def getBytes (len : Nat) : ControlM σ (List UInt8) := do
  let c ← current
  unless c.elemType = .byte do throw (c.unsupported "byte access")
  OnCardM.check (c.checkCount len c.maxBytes)
  if c.tlvReadWrite then
    OnCardM.ask s!"cannot read TLV of '{c.name}'" (D.tlvRead c.numid (List.replicate len 0))
  else
    return (← readRecord D).bytes.take len

/-- Writes bytes to a byte element, through TLV when the element says so. -/
def setBytes (data : List UInt8) : ControlM σ Unit := do
  let c ← current
  unless c.elemType = .byte do throw (c.unsupported "byte access")
  OnCardM.check (c.checkCount data.length c.maxBytes)
  if c.tlvReadWrite then
    OnCardM.ask s!"cannot write TLV of '{c.name}'" (D.tlvWrite c.numid data)
  else
    writeRecord D ((← readRecord D).setBytes data)

def wrap32 (x : Int) : Int := Int.bmod x 4294967296

def wrap64 (x : Int) : Int := Int.bmod x 18446744073709551616

/-- Value `index` as a whole percentage of the integer range, rounded toward zero. -/
def getPercent (index : Nat) : ControlM σ Int := do
  let c ← current
  unless c.elemType.isInteger do throw (c.unsupported "percent access")
  let lo := c.info.integerMin
  let range := c.info.integerMax - lo
  let value ← getValue D index
  if range = 0 then return 0
  return wrap32 (Int.tdiv ((value - lo) * 100) range)

/-- Sets value `index` to a whole percentage of the integer range, rounded toward the
range's start. -/
def setPercent (index : Nat) (percent : Int) : ControlM σ Unit := do
  let c ← current
  unless c.elemType.isInteger do throw (c.unsupported "percent access")
  unless 0 ≤ percent ∧ percent ≤ 100 do throw (.invalid s!"percent {percent} outside 0..=100")
  let lo := c.info.integerMin
  let range := c.info.integerMax - lo
  setValue D index (wrap64 (lo + Int.tdiv (range * percent) 100))

/-- Fetches the names of an enumeration's items, once; a failure keeps none of them. -/
def fillItemNames : ControlM σ Unit := do
  let c ← current
  if c.enumNames.isSome then return
  let names ← (List.range c.info.enumItems.toNat).mapM fun item =>
    (·.enumName) <$> OnCardM.ask s!"cannot get item {item} of '{c.name}'"
      (D.elemInfo ((ElemInfo.forNumid c.numid).setEnumItem (UInt32.ofNat item)))
  modify fun s => { s with subject := { s.subject with enumNames := some names } }

/-- The name of enumeration item `item`. -/
def itemName (item : Nat) : ControlM σ String := do
  let c ← current
  unless c.elemType = .enum do throw (c.unsupported "enumerated item names")
  if item ≥ c.info.enumItems.toNat then
    throw (.invalid s!"item {item} out of range for '{c.name}'")
  fillItemNames D
  match (← current).enumNames.bind (·[item]?) with
  | some n => return n
  | none => throw (.invalid s!"item {item} has no name")

/-- Selects the item called `item` on the element's first value. -/
def selectItem (item : String) : ControlM σ Unit := do
  let c ← current
  unless c.elemType = .enum do throw (c.unsupported "enumerated item names")
  fillItemNames D
  match (← current).enumNames.bind (·.idxOf? item) with
  | none => throw (.invalid s!"'{item}' is not an item of '{c.name}'")
  | some pos =>
    let v ← readRecord D
    writeRecord D (v.setEnumItem 0 (UInt32.ofNat pos))

/-- Reads the element's info record again; item names are fetched again on next use. -/
def update : ControlM σ Unit := do
  let c ← current
  let info ← OnCardM.ask s!"cannot update '{c.name}'" (D.elemInfo (ElemInfo.forNumid c.numid))
  modify fun s => { s with subject := Entry.ofInfo info }

end Entry

end SoundCard.Control
