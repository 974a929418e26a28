import SoundCard.Device.Directory
import SoundCard.Pcm.Device
import SoundCard.Control.Device
/-! A regular file or character device of the sound directory opened as a stream or control
device: every device request is `ENOTTY`, reads and maps go to the file. -/
namespace SoundCard.Device

open SoundCard.Os SoundCard.Pcm SoundCard.Control

/-- An opened file: its path, what it reads from and the read position. -/
structure FileNode where
  path : String
  contents : Contents
  pos : Nat := 0
  /-- The descriptor number it is opened as. -/
  fd : Int := 3
  deriving DecidableEq, Repr, Inhabited

/-- What the host allows a mapping: its page size, address space, largest file and the pages
it can promise at once. -/
structure MapHost where
  pageSize : Nat
  addressSpace : Nat
  maxFileSize : Nat
  promisablePages : Nat
  pageSize_pos : 0 < pageSize

/-- The furthest byte a mapping of a file may reach: the largest file size for a regular
file, and the whole 64-bit range for a device. -/
def Contents.mapLimit (host : MapHost) : Contents → Nat
  | .bytes _ => host.maxFileSize
  | .device _ => 18446744073709551615

/-- Whether mapping the file charges its pages to the system's memory when it is made:
only the zero device, whose shared mappings are fresh shared memory. -/
def Contents.charged : Contents → Bool
  | .bytes _ => false
  | .device k => k = .zero

/-- Whether a file can be mapped at all: the null and full devices cannot. -/
def Contents.mappable : Contents → Bool
  | .bytes _ => true
  | .device k => k = .zero

/-- Maps `len` bytes from `offset`, failing in this order with `EINVAL`, `ENOMEM` (address
space), `EOVERFLOW`, `ENODEV` and `ENOMEM` (memory the host cannot promise). -/
def mapFile (host : MapHost) (c : Contents) (offset : UInt64) (len : Nat) (_writable : Bool) :
    Except IoError Region :=
  let page := host.pageSize
  let span := (len + page - 1) / page * page
  if len = 0 ∨ offset.toNat % page ≠ 0 then .error (.os Errno.invalid)
  else if span > host.addressSpace then .error (.os Errno.noMemory)
  else if offset.toNat / page > (c.mapLimit host - span) / page then
    .error (.os Errno.overflow)
  else if !c.mappable then .error (.os Errno.noDevice)
  else if c.charged ∧ span / page > host.promisablePages then .error (.os Errno.noMemory)
  else .ok (.kernel len)

namespace FileNode

def notDevice : IoError := .os Errno.notTty

/-- Reads up to `n` bytes from the read position: a regular file's next bytes, nothing
from the null device, and `n` zeros from the others. -/
def read (f : FileNode) (n : Nat) : List UInt8 × FileNode :=
  match f.contents with
  | .bytes data =>
    let got := (data.drop f.pos).take n
    (got, { f with pos := f.pos + got.length })
  | .device .null => ([], f)
  | .device _ => (List.replicate n 0, f)

/-- How many whole records of `size` bytes are left to read; a device of endless zeros
always has one more. -/
def recordsLeft (f : FileNode) (size : Nat) : Nat :=
  match f.contents with
  | .bytes data => (data.length - f.pos) / size
  | .device .null => 0
  | .device _ => 1

def refuse {m : Type → Type} {α : Type} [MonadExceptOf IoError m] : m α :=
  throwThe IoError notDevice

/-- A regular file opened as a stream device, mapped as the host allows. -/
def pcmDevice (host : MapHost) : PcmDevice FileNode where
  info := refuse
  refine := fun _ => refuse
  install := fun _ => refuse
  software := fun _ => refuse
  syncPtr := fun _ => refuse
  prepare := refuse
  start := refuse
  stop := refuse
  drain := refuse
  writei := fun _ _ => refuse
  readi := fun _ _ => refuse
  delay := refuse
  setTstampType := fun _ => refuse
  link := fun _ => refuse
  unlink := refuse
  map := fun off len w => do
    match mapFile host (← get).contents off len w with
    | .ok r => pure r
    | .error e => throw e
  wait := fun _ => pure true
  descriptor := fun f => some f.fd
  status := fun _ => {}
  control := fun _ => {}
  setControl := fun _ f => f

def eventBytes : Nat := 72

/-- Decodes an event record: type and mask, then the element id with its name field. -/
def decodeEvent (bs : List UInt8) : Event :=
  { type := toSigned 32 (readLE bs 0 4), mask := UInt32.ofNat (readLE bs 4 4),
    id := { numid := UInt32.ofNat (readLE bs 8 4), iface := toSigned 32 (readLE bs 12 4),
            device := UInt32.ofNat (readLE bs 16 4),
            subdevice := UInt32.ofNat (readLE bs 20 4), name := getField bs 24 nameWidth,
            index := UInt32.ofNat (readLE bs 68 4) } }

/-- Reads the next event record; a short read, at the end of the file, is no event. -/
def readEvent : CardM FileNode (Option Event) := do
  let (bs, f) := (← get).read eventBytes
  set f
  return if bs.length < eventBytes then none else some (decodeEvent bs)

/-- A regular file opened as a control device. -/
def controlDevice : ControlDevice FileNode where
  cardInfo := refuse
  elemCount := refuse
  elemIds := fun _ _ => refuse
  elemInfo := fun _ => refuse
  elemRead := fun _ => refuse
  elemWrite := fun _ => refuse
  tlvRead := fun _ _ => refuse
  tlvWrite := fun _ _ => refuse
  subscribe := fun _ => refuse
  waitEvent := fun _ => pure true
  readEvent := readEvent
  queued := fun f => f.recordsLeft eventBytes

end FileNode

def Directory.openFile (d : Directory) (name : String) : Except IoError FileNode :=
  (d.openNode name).map fun c => { path := d.nodePath name, contents := c }

end SoundCard.Device
