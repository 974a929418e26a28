import SoundCard.Control.Device
/-! A virtual sound card for the control registry: a list of elements, steerable failures, and
counts of the requests it serves. -/
namespace SoundCard.Virtual

open SoundCard.Control SoundCard.Os

/-- An element of the virtual card. -/
structure VirtualControl where
  name : String := ""
  index : UInt32 := 0
  /-- The element type's kernel code. -/
  type : Int := 2
  count : UInt32 := 0
  access : UInt32 := Access.readWrite
  min : Int := 0
  max : Int := 0
  items : List String := []
  values : List Int := []
  bytes : List UInt8 := []
  tlv : List UInt8 := []
  deriving DecidableEq, Repr, Inhabited

namespace VirtualControl

def integer (name : String) (min max : Int) (values : List Int) : VirtualControl :=
  { name := name, min := min, max := max, values := values,
    count := UInt32.ofNat values.length }

def integer64 (name : String) (min max : Int) (values : List Int) : VirtualControl :=
  { integer name min max values with type := 6 }

def boolean (name : String) (values : List Int) : VirtualControl :=
  { integer name 0 1 values with type := 1 }

def enumerated (name : String) (items : List String) (selected : Int) : VirtualControl :=
  { name := name, type := 3, items := items, values := [selected], count := 1 }

def byteArray (name : String) (bytes : List UInt8) : VirtualControl :=
  { name := name, type := 4, bytes := bytes, count := UInt32.ofNat bytes.length }

/-- A byte element of `count` bytes whose data is read through TLV. -/
def tlvBytes (name : String) (count : UInt32) : VirtualControl :=
  { name := name, type := 4, count := count,
    access := Access.readWrite ||| Access.tlvReadWrite }

end VirtualControl

/-- The elements of a typical card: volumes, a switch, a capture source, coefficients
read through TLV, raw bytes and a 64-bit counter. -/
def typicalControls : List VirtualControl :=
  [ VirtualControl.integer "Master Playback Volume" 0 31 [10, 20],
    VirtualControl.boolean "Master Playback Switch" [1, 0],
    VirtualControl.enumerated "Capture Source" ["Mic", "Line", "CD"] 0,
    VirtualControl.integer "PCM Playback Volume" (-50) 50 [0],
    { VirtualControl.integer "PCM Playback Volume" (-50) 50 [0] with index := 1 },
    VirtualControl.tlvBytes "DSP Coefficients" 16,
    VirtualControl.byteArray "Raw Bytes" [1, 2, 3, 4],
    VirtualControl.integer64 "Sample Counter" 0 9223372036854775807 [1099511627776] ]

/-- The requests a virtual card counts. -/
inductive CardCall where
  | cardInfo | elemCount | elemIds | elemInfo | elemRead | elemWrite | tlvRead | tlvWrite
  | subscribe | waitEvent | readEvent
  deriving DecidableEq, Repr

def CardCall.all : List CardCall :=
  [.cardInfo, .elemCount, .elemIds, .elemInfo, .elemRead, .elemWrite, .tlvRead, .tlvWrite,
   .subscribe, .waitEvent, .readEvent]

/-- The identity a virtual card reports. -/
structure CardIdentity where
  card : Int := 0
  id : String := "Mock"
  driver : String := "mock-drv"
  name : String := "Mock Card"
  longName : String := "Mock Card at mem 0x0"
  mixerName : String := "Mock Codec"
  deriving DecidableEq, Repr

/-- The state of a virtual card. -/
structure VirtualCard where
  controls : List VirtualControl := typicalControls
  identity : CardIdentity := {}
  failures : CardCall → Option Int := fun _ => none
  /-- The numeric id whose info request fails with `EIO`. -/
  failingInfo : Option UInt32 := none
  /-- The element count reported instead of the list's length. -/
  countOverride : Option UInt32 := none
  calls : CardCall → Nat := fun _ => 0
  /-- The offset and space of the last listing. -/
  lastList : Option (UInt32 × UInt32) := none
  subscribed : Bool := false
  events : List Event := []

namespace VirtualCard

def control? (v : VirtualCard) (numid : UInt32) : Option VirtualControl :=
  if numid = 0 then none else v.controls[numid.toNat - 1]?

/-- The id of the element with a numeric id; a bare numeric id when there is none. -/
def idOf (v : VirtualCard) (numid : UInt32) : ElemId :=
  match v.control? numid with
  | some c => ElemId.named numid c.name c.index
  | none => { numid := numid }

def bump (v : VirtualCard) (t : CardCall) : VirtualCard :=
  { v with calls := fun u => if u = t then v.calls u + 1 else v.calls u }

def setControl (v : VirtualCard) (numid : UInt32) (c : VirtualControl) : VirtualCard :=
  { v with controls := v.controls.set (numid.toNat - 1) c }

end VirtualCard

abbrev CardReq := CardM VirtualCard

namespace CardReq

/-- What every request does first: count, and fail when told to. -/
def enter (t : CardCall) : CardReq Unit := do
  modify (·.bump t)
  match (← get).failures t with
  | some n => throw (.os n)
  | none => pure ()

/-- The element with a numeric id, or `ENOENT`. -/
def control (numid : UInt32) : CardReq VirtualControl := do
  match (← get).control? numid with
  | some c => pure c
  | none => throw (.os Errno.noEntry)

/-- The card's identity, each text cut to its field. -/
def cardInfo : CardReq CardInfo := do
  enter .cardInfo
  let i := (← get).identity
  return { card := i.card, id := fixedText i.id 16, driver := fixedText i.driver 16,
           name := fixedText i.name 32, longName := fixedText i.longName 80,
           mixerName := fixedText i.mixerName 80 }

/-- The reported element count. -/
def elemCount : CardReq UInt32 := do
  enter .elemCount
  let v ← get
  return v.countOverride.getD (UInt32.ofNat v.controls.length)

/-- The ids of the elements from list position `offset`, at most `space` of them. -/
def elemIds (offset space : UInt32) : CardReq (List ElemId) := do
  enter .elemIds
  modify fun v => { v with lastList := some (offset, space) }
  let v ← get
  let stop := min (offset.toNat + space.toNat) v.controls.length
  return (List.range (stop - offset.toNat)).map fun k =>
    v.idOf (UInt32.ofNat (offset.toNat + k + 1))

/-- Fills an info record: id, type, access and count, then the range of a boolean or
integer element, or the item count and the selected item's name of an enumeration. -/
def elemInfo (info : ElemInfo) : CardReq ElemInfo := do
  enter .elemInfo
  let v ← get
  let numid := info.id.numid
  if v.failingInfo = some numid then throw (.os Errno.inputOutput)
  let c ← control numid
  let item := info.enumItem
  let info := { info with id := v.idOf numid, type := c.type, access := c.access,
                          count := c.count }
  match ElemType.ofRaw c.type with
  | .int | .int64 | .bool => return info.setIntegerRange c.min c.max 1
  | .enum =>
    let info := info.setEnumItems (UInt32.ofNat c.items.length)
    match c.items[item.toNat]? with
    | some n => return info.setEnumName n
    | none => throw (.os Errno.invalid)
  | _ => return info

def itemWord (x : Int) : UInt32 := UInt32.ofNat (ofSigned 32 x)

/-- Fills a value record from the stored values: up to 128 integers, 256 items or 512
bytes. -/
def elemRead (value : ElemValue) : CardReq ElemValue := do
  enter .elemRead
  let c ← control value.id.numid
  match ElemType.ofRaw c.type with
  | .int | .bool | .int64 =>
    return (c.values.take 128).zipIdx.foldl (fun v (x, k) => v.setInteger k x) value
  | .enum =>
    return (c.values.take 256).zipIdx.foldl (fun v (x, k) => v.setEnumItem k (itemWord x)) value
  | .byte => return value.setBytes c.bytes
  | _ => throw (.os Errno.invalid)

/-- Stores the values of a value record, as many as the element holds within the same
limits as a read, then queues a value event when notifications are on. -/
def elemWrite (value : ElemValue) : CardReq ElemValue := do
  enter .elemWrite
  let numid := value.id.numid
  let c ← control numid
  let c ← match ElemType.ofRaw c.type with
    | .int | .bool | .int64 =>
      pure { c with values := c.values.mapIdx fun k x => if k < 128 then value.integer k else x }
    | .enum =>
      pure { c with values := c.values.mapIdx fun k x =>
        if k < 256 then (value.enumItem k).toNat else x }
    | .byte =>
      let len := min c.bytes.length maxByteValues
      pure { c with bytes := value.bytes.take len ++ c.bytes.drop len }
    | _ => throw (.os Errno.invalid)
  modify fun v => v.setControl numid c
  let v ← get
  if v.subscribed then
    let e : Event := { type := 0, mask := 1, id := v.idOf numid }
    set { v with events := v.events ++ [e] }
  return value

/-- Reads the stored TLV data into a zeroed buffer of the given length. -/
def tlvRead (numid : UInt32) (buf : List UInt8) : CardReq (List UInt8) := do
  enter .tlvRead
  let c ← control numid
  let data := c.tlv.take buf.length
  return data ++ List.replicate (buf.length - data.length) 0

/-- Replaces the stored TLV data. -/
def tlvWrite (numid : UInt32) (data : List UInt8) : CardReq Unit := do
  enter .tlvWrite
  let c ← control numid
  modify fun v => v.setControl numid { c with tlv := data }

def subscribe (enable : Bool) : CardReq Unit := do
  enter .subscribe
  modify fun v => { v with subscribed := enable }

def waitEvent (_timeout : Int) : CardReq Bool := do
  enter .waitEvent
  return !(← get).events.isEmpty

/-- Takes the first queued event. -/
def readEvent : CardReq (Option Event) := do
  enter .readEvent
  match (← get).events with
  | [] => return none
  | e :: rest =>
    modify fun v => { v with events := rest }
    return some e

end CardReq

/-- The virtual card as a control device. -/
def VirtualCard.device : ControlDevice VirtualCard where
  cardInfo := CardReq.cardInfo
  elemCount := CardReq.elemCount
  elemIds := CardReq.elemIds
  elemInfo := CardReq.elemInfo
  elemRead := CardReq.elemRead
  elemWrite := CardReq.elemWrite
  tlvRead := CardReq.tlvRead
  tlvWrite := CardReq.tlvWrite
  subscribe := CardReq.subscribe
  waitEvent := CardReq.waitEvent
  readEvent := CardReq.readEvent
  queued := fun v => v.events.length

end SoundCard.Virtual
