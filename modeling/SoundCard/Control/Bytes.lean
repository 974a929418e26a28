import SoundCard.Text.Utf8
/-! Byte areas of the control records: little-endian numbers at byte offsets and NUL-padded
text fields; a byte outside the area reads as 0 and a write outside it is dropped. -/
namespace SoundCard.Control

/-- The unsigned little-endian number in `n` bytes of `area` from byte `off`. -/
def readLE (area : List UInt8) (off n : Nat) : Nat :=
  (List.range n).foldr (fun i acc => (area.getD (off + i) 0).toNat + 256 * acc) 0

/-- Stores the low `n` bytes of `v` little-endian in `area` from byte `off`. -/
def writeLE (area : List UInt8) (off n v : Nat) : List UInt8 :=
  (List.range n).foldl (fun a i => a.set (off + i) (UInt8.ofNat (v / Nat.pow 256 i))) area

def toSigned (bits x : Nat) : Int :=
  if x < Nat.pow 2 (bits - 1) then x else (x : Int) - (Nat.pow 2 bits : Nat)

def ofSigned (bits : Nat) (x : Int) : Nat := (x % (Nat.pow 2 bits : Nat)).toNat

def readI64 (area : List UInt8) (off : Nat) : Int := toSigned 64 (readLE area off 8)

def writeI64 (area : List UInt8) (off : Nat) (x : Int) : List UInt8 :=
  writeLE area off 8 (ofSigned 64 x)

def readU32 (area : List UInt8) (off : Nat) : UInt32 := UInt32.ofNat (readLE area off 4)

def writeU32 (area : List UInt8) (off : Nat) (x : UInt32) : List UInt8 :=
  writeLE area off 4 x.toNat

/-- A text in a NUL-padded field of `width` bytes: at most `width - 1` bytes of it, which
may cut a character, then zeros. -/
def fixedText (s : String) (width : Nat) : List UInt8 :=
  let bs := (Text.utf8 s).take (width - 1)
  bs ++ List.replicate (width - bs.length) 0

/-- Replaces `n` bytes of `area` from `off` by `field`, padded with zeros. -/
def putField (area : List UInt8) (off n : Nat) (field : List UInt8) : List UInt8 :=
  area.take off ++ (field.take n ++ List.replicate (n - field.length) 0) ++ area.drop (off + n)

def getField (area : List UInt8) (off n : Nat) : List UInt8 := (area.drop off).take n

end SoundCard.Control
