import SoundCard.Control.Bytes
/-! The id, info and value records of a card's elements, with their type-dependent areas read
as integers, enumeration items or bytes. -/
namespace SoundCard.Control

def nameWidth : Nat := 44

def itemNameWidth : Nat := 64

def mixerInterface : Int := 2

/-- An element id. -/
structure ElemId where
  numid : UInt32 := 0
  iface : Int := 0
  device : UInt32 := 0
  subdevice : UInt32 := 0
  /-- The name field, `nameWidth` bytes. -/
  name : List UInt8 := List.replicate nameWidth 0
  index : UInt32 := 0
  deriving DecidableEq, Repr, Inhabited

namespace ElemId

/-- The id of a mixer element with a name, cut to fit its field. -/
def named (numid : UInt32) (name : String) (index : UInt32) : ElemId :=
  { numid := numid, iface := mixerInterface, name := fixedText name nameWidth, index := index }

def nameText (id : ElemId) : String := Text.cstrFixed id.name

end ElemId

/-- The type of an element. -/
inductive ElemType where
  | bool | int | enum | byte | iec958 | int64 | unknown
  deriving DecidableEq, Repr, Inhabited

namespace ElemType

/-- The type with a kernel code: 1 to 6; anything else is unknown. -/
def ofRaw (n : Int) : ElemType :=
  match n with
  | 1 => .bool | 2 => .int | 3 => .enum | 4 => .byte | 5 => .iec958 | 6 => .int64
  | _ => .unknown

def text : ElemType → String
  | .bool => "BOOL" | .int => "INT" | .enum => "ENUM" | .byte => "BYTE"
  | .iec958 => "IEC958" | .int64 => "INT64" | .unknown => "Unknown"

def debugName : ElemType → String
  | .bool => "Bool" | .int => "Int" | .enum => "Enum" | .byte => "Byte"
  | .iec958 => "Iec958" | .int64 => "Int64" | .unknown => "Unknown"

/-- How many values of the type one value record holds. -/
def capacity : ElemType → Nat
  | .bool | .int => 128
  | .int64 => 64
  | .enum => 128
  | .byte => 512
  | .iec958 | .unknown => 0

def isInteger : ElemType → Bool
  | .int | .int64 => true
  | _ => false

end ElemType

-- Access bits of an element.
namespace Access

def readWrite : UInt32 := 3
def tlvReadWrite : UInt32 := 0x30

end Access

def infoAreaBytes : Nat := 128

def valueAreaBytes : Nat := 1024

def maxByteValues : Nat := 512

/-- An element's info record. -/
structure ElemInfo where
  id : ElemId := {}
  type : Int := 0
  access : UInt32 := 0
  count : UInt32 := 0
  /-- The type-dependent area, `infoAreaBytes` bytes. -/
  area : List UInt8 := List.replicate infoAreaBytes 0
  deriving DecidableEq, Repr, Inhabited

namespace ElemInfo

def forNumid (numid : UInt32) : ElemInfo := { id := { numid := numid } }

def integerMin (i : ElemInfo) : Int := readI64 i.area 0
def integerMax (i : ElemInfo) : Int := readI64 i.area 8
def integerStep (i : ElemInfo) : Int := readI64 i.area 16

def setIntegerRange (i : ElemInfo) (min max step : Int) : ElemInfo :=
  { i with area := writeI64 (writeI64 (writeI64 i.area 0 min) 8 max) 16 step }

def enumItems (i : ElemInfo) : UInt32 := readU32 i.area 0
def enumItem (i : ElemInfo) : UInt32 := readU32 i.area 4

def setEnumItems (i : ElemInfo) (n : UInt32) : ElemInfo := { i with area := writeU32 i.area 0 n }
/-- Selects the item whose name the next info request fills in. -/
def setEnumItem (i : ElemInfo) (n : UInt32) : ElemInfo := { i with area := writeU32 i.area 4 n }

def enumName (i : ElemInfo) : String := Text.cstrFixed (getField i.area 8 itemNameWidth)

def setEnumName (i : ElemInfo) (name : String) : ElemInfo :=
  { i with area := putField i.area 8 itemNameWidth (fixedText name itemNameWidth) }

def firstWord (i : ElemInfo) : Nat := readLE i.area 0 8

def elemType (i : ElemInfo) : ElemType := ElemType.ofRaw i.type

end ElemInfo

/-- An element's value record. -/
structure ElemValue where
  id : ElemId := {}
  /-- The value area, `valueAreaBytes` bytes. -/
  area : List UInt8 := List.replicate valueAreaBytes 0
  deriving DecidableEq, Repr, Inhabited

namespace ElemValue

def forNumid (numid : UInt32) : ElemValue := { id := { numid := numid } }

def integer (v : ElemValue) (k : Nat) : Int := readI64 v.area (8 * k)
def setInteger (v : ElemValue) (k : Nat) (x : Int) : ElemValue :=
  { v with area := writeI64 v.area (8 * k) x }

def enumItem (v : ElemValue) (k : Nat) : UInt32 := readU32 v.area (4 * k)
def setEnumItem (v : ElemValue) (k : Nat) (x : UInt32) : ElemValue :=
  { v with area := writeU32 v.area (4 * k) x }

def bytes (v : ElemValue) : List UInt8 := v.area.take maxByteValues
def setBytes (v : ElemValue) (data : List UInt8) : ElemValue :=
  let data := data.take maxByteValues
  { v with area := data ++ v.area.drop data.length }

end ElemValue

/-- A card's identity: its number and NUL-padded texts of fixed widths. -/
structure CardInfo where
  card : Int := 0
  id : List UInt8 := List.replicate 16 0
  driver : List UInt8 := List.replicate 16 0
  name : List UInt8 := List.replicate 32 0
  longName : List UInt8 := List.replicate 80 0
  mixerName : List UInt8 := List.replicate 80 0
  deriving DecidableEq, Repr, Inhabited

/-- A change notification as the card queues it: a type (0 for an element), a mask of
what changed, and the element. -/
structure Event where
  type : Int := 0
  mask : UInt32 := 0
  id : ElemId := {}
  deriving DecidableEq, Repr, Inhabited

/-- The kinds of change an event mask can name, with their bits. -/
def eventMaskNames : List (String × UInt32) :=
  [("VALUE", 1), ("INFO", 2), ("ADD", 4), ("TLV", 8)]

def removedMask : UInt32 := 0xFFFFFFFF

/-- A decoded element event. A removed element has an empty mask; otherwise bits without
a name are dropped. -/
structure ElemEvent where
  numid : UInt32
  name : String
  index : UInt32
  mask : UInt32
  removed : Bool
  deriving DecidableEq, Repr

namespace ElemEvent

/-- Decodes a queued event. -/
def ofEvent (e : Event) : ElemEvent :=
  let removed := e.mask == removedMask
  { numid := e.id.numid, name := e.id.nameText, index := e.id.index,
    mask := if removed then 0 else e.mask &&& 15, removed := removed }

def ctlId (e : ElemEvent) : Nat := e.numid.toNat - 1

def maskNames (e : ElemEvent) : List String :=
  (eventMaskNames.filter fun (_, b) => e.mask &&& b != 0).map (·.1)

end ElemEvent

end SoundCard.Control
