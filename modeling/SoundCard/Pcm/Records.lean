import SoundCard.Os.Errno
import SoundCard.Os.Trap
/-! The records a stream exchanges with its device: its info, the software parameters, the
status and control records, and the memory regions it hands out. -/
namespace SoundCard.Pcm

/-- A point in time as seconds and nanoseconds, both signed. -/
structure Timespec where
  sec : Int := 0
  nsec : Int := 0
  deriving DecidableEq, Repr, Inhabited

def Timespec.isZero (t : Timespec) : Bool := t.sec == 0 && t.nsec == 0

/-- What a device reports about itself; `stream` is 1 for capture and 0 for playback. -/
structure PcmInfo where
  card : Int := 0
  device : UInt32 := 0
  subdevice : UInt32 := 0
  stream : Int := 0
  deriving DecidableEq, Repr, Inhabited

/-- The software parameters of a stream: when to start, stop and wake up, and where the
pointers wrap. -/
structure SwParams where
  tstampMode : Int := 0
  periodStep : UInt32 := 0
  availMin : UInt64 := 0
  xferAlign : UInt64 := 0
  startThreshold : UInt64 := 0
  stopThreshold : UInt64 := 0
  silenceThreshold : UInt64 := 0
  silenceSize : UInt64 := 0
  boundary : UInt64 := 0
  deriving DecidableEq, Repr, Inhabited

/-- The status record: the device state (a raw code), the hardware pointer and the time
of its last update. -/
structure StatusRecord where
  state : Int := 0
  hwPtr : UInt64 := 0
  tstamp : Timespec := {}
  deriving DecidableEq, Repr, Inhabited

/-- The control record: the application pointer and the wake-up threshold. -/
structure ControlRecord where
  applPtr : UInt64 := 0
  availMin : UInt64 := 0
  deriving DecidableEq, Repr, Inhabited

/-- The record exchanged by a pointer synchronisation: which way each field travels, and
both records. -/
structure SyncRecord where
  flags : UInt32 := 0
  status : StatusRecord := {}
  control : ControlRecord := {}
  deriving DecidableEq, Repr, Inhabited

namespace SyncFlag

/-- Ask the device to bring its hardware pointer up to date first. -/
def hwsync : UInt32 := 1
/-- Take the application pointer from the device instead of giving it. -/
def appl : UInt32 := 2
/-- Take the wake-up threshold from the device instead of giving it. -/
def availMin : UInt32 := 4

end SyncFlag

namespace MapOffset

def data : UInt64 := 0
def status : UInt64 := 0x80000000
def control : UInt64 := 0x81000000

end MapOffset

def statusBytes : Nat := 56

def controlBytes : Nat := 16

/-- The size of one memory page, the length asked for a status or control mapping. -/
def pageSize : Nat := 4096

def monotonicClock : Int := 1

/-- Memory shared between a stream and its device. -/
inductive Region where
  /-- Memory the program holds itself; the bytes are its contents. -/
  | heap (bytes : ByteArray)
  /-- A kernel mapping of `len` bytes, whose contents lie outside the model. -/
  | kernel (len : Nat)
  deriving Inhabited

namespace Region

def zeroed (n : Nat) : Region := .heap (ByteArray.mk (Array.replicate n 0))

/-- Zeroed memory of `n` bytes, held as whole 64-bit words, at least one. -/
def heapOf (n : Nat) : Os.Trapping Region := do
  Os.reserve (max 1 ((n + 7) / 8)) 8
  pure (zeroed n)

def len : Region → Nat
  | .heap b => b.size
  | .kernel n => n

def isKernel : Region → Bool
  | .heap _ => false
  | .kernel _ => true

/-- Whether a second handle onto the same memory can be made: only for heap memory. -/
def aliasable : Region → Bool
  | .heap _ => true
  | .kernel _ => false

/-- Whether the region is long enough to hold a record of `n` bytes. -/
def holds (r : Region) (n : Nat) : Bool := n ≤ r.len

def debugText (r : Region) : String :=
  s!"SharedRegion \x7b len: {r.len}, kernel: {r.isKernel} \x7d"

end Region

end SoundCard.Pcm
