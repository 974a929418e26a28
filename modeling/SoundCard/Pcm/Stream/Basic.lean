import SoundCard.Pcm.Ring
import SoundCard.Pcm.Config
import SoundCard.Pcm.Flags
import SoundCard.Pcm.Error
import SoundCard.Pcm.State
/-! A stream handle and the device behind it; a handle that is not ready answers every operation
with `notReady` and the text of what went wrong. -/
namespace SoundCard.Pcm

open SoundCard.Os SoundCard.Hw

/-- A stream handle over a device with state `σ`. -/
structure PcmStream (σ : Type) where
  /-- The state of the device behind the handle. -/
  driver : σ
  /-- Whether the handle holds its device. -/
  attached : Bool
  ring : Option Ring := none
  /-- The mapped data area, for a stream opened with `mmap`. -/
  data : Option Region := none
  flags : OpenFlags
  config : StreamConfig
  /-- The text of the last failure, capped; empty when there was none. -/
  error : String := ""
  /-- Why the stream did not open. -/
  openError : Option StreamError := none
  prepared : Bool := false
  running : Bool := false
  /-- The xruns counted, in a 32-bit word. -/
  underruns : UInt32 := 0
  bufferSize : UInt64 := 0
  boundary : UInt64 := 0
  card : UInt32 := 0
  device : UInt32 := 0
  subdevice : UInt32 := 0

/-- An operation on a stream: it changes the handle and its device, answers a value or an error
that keeps the changes before it, and stops the program on an overflow. -/
abbrev StreamM (σ : Type) := ExceptT StreamError (StateT (PcmStream σ) Trapping)

namespace PcmStream

variable {σ : Type}

/-- Whether the handle can work: it holds its device and has a pointer ring. -/
def isReady (s : PcmStream σ) : Bool := s.attached && s.ring.isSome

def isCapture (s : PcmStream σ) : Bool := s.flags.capture

def direction (s : PcmStream σ) : Direction := Direction.ofFlags s.flags

def frameBytes (s : PcmStream σ) : Nat := s.config.frameBytes

def framesToBytes (s : PcmStream σ) (frames : Nat) : Trapping Nat := mulWord frames s.frameBytes

/-- Whole frames in `bytes` bytes; 0 when a frame has no bytes. -/
def bytesToFrames (s : PcmStream σ) (bytes : Nat) : Nat :=
  if s.frameBytes = 0 then 0 else bytes / s.frameBytes

def usesMappedStatus (s : PcmStream σ) : Bool := s.ring.any Ring.isMapped

def descriptor (D : PcmDevice σ) (s : PcmStream σ) : Option Int :=
  if s.attached then D.descriptor s.driver else none

/-- A handle that did not open: it keeps the requested flags and configuration, stores
the capped text of the error and holds no device. -/
def notReadyOf (driver : σ) (flags : OpenFlags) (config : StreamConfig) (e : StreamError) :
    PcmStream σ :=
  { driver := driver, attached := false, flags := flags, config := config,
    error := e.stored, openError := some e }

/-- Fails with `e`, keeping its capped text as the stream's error. -/
def fail {α : Type} (e : StreamError) : StreamM σ α := do
  modify fun s => { s with error := e.stored }
  throw e

/-- Fails because the handle is not ready, with its stored text; nothing is stored. -/
def refuse {α : Type} : StreamM σ α := do
  throw (.notReady (← get).error)

/-- The pointer ring of a ready handle. -/
def parts : StreamM σ Ring := do
  let s ← get
  match s.attached, s.ring with
  | true, some r => pure r
  | _, _ => refuse

/-- Sends a request to the device and answers its outcome; a device that stops the
program stops it here too. -/
def ask {α : Type} (m : DeviceM σ α) : StreamM σ (Except IoError α) := do
  let s ← get
  let (r, d) ← monadLift ((ExceptT.run m).run s.driver : Trapping (Except IoError α × σ))
  set { s with driver := d }
  pure r

/-- Synchronises the ring with the device and keeps the updated ring. -/
def syncRing (D : PcmDevice σ) (flags : UInt32) : StreamM σ (Except IoError Unit) := do
  let r ← parts
  match ← ask (r.sync D flags) with
  | .ok r' =>
    modify fun s => { s with ring := some r' }
    pure (.ok ())
  | .error e => pure (.error e)

def readRing {α : Type} (f : σ → Ring → α) : StreamM σ α := do
  let r ← parts
  pure (f (← get).driver r)

end PcmStream

end SoundCard.Pcm
