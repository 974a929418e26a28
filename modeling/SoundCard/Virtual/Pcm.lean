import SoundCard.Pcm.Device
import SoundCard.Pcm.State
import SoundCard.Hw.Constraints
/-! A virtual stream device: it answers from a set of constraints, moves its pointers as a device
would, can be steered, and stops the program when its pointer arithmetic overflows. -/
namespace SoundCard.Virtual

open SoundCard.Pcm SoundCard.Hw SoundCard.Os

/-- The requests a virtual device counts. -/
inductive Tally where
  | info | refine | install | software | syncPtr | prepare | start | stop | drain
  | writei | readi | delay | tstampType | unlink | map | wait
  deriving DecidableEq, Repr

def Tally.all : List Tally :=
  [.info, .refine, .install, .software, .syncPtr, .prepare, .start, .stop, .drain,
   .writei, .readi, .delay, .tstampType, .unlink, .map, .wait]

/-- The places where a virtual device can be told to fail. -/
inductive FailPoint where
  | info | refine | install | software | syncPtr | syncHw | prepare | start | stop | drain
  | writei | readi | delay | tstampType | unlink | wait | mapStatus | mapControl | mapData
  | link
  deriving DecidableEq, Repr

/-- A record the device has mapped: the length of the region and the record it holds. -/
structure Page (α : Type) where
  len : Nat
  record : α
  deriving DecidableEq, Repr

/-- The record a page holds, when the page is long enough for a record of `n` bytes. -/
def Page.fits? {α : Type} (n : Nat) : Option (Page α) → Option α
  | some p => if n ≤ p.len then some p.record else none
  | none => none

/-- The constraints of the virtual device when none are given. -/
def defaultConstraints : Constraints :=
  { access := 9, format := 1028, bitWidth := ⟨16, 32⟩, channels := ⟨1, 8⟩,
    rate := ⟨8000, 192000⟩, periods := ⟨2, 16⟩, periodBytes := ⟨256, 1048576⟩ }

/-- The state of a virtual stream device. -/
structure VirtualPcm where
  constraints : Constraints := defaultConstraints
  /-- Whether the device captures. -/
  capture : Bool := false
  /-- The card, device and subdevice it reports. -/
  card : Int := 0
  device : UInt32 := 0
  subdevice : UInt32 := 0
  /-- Whether it maps its status and control records. -/
  mappableStatus : Bool := false
  /-- Whether it maps its data area. -/
  mappableData : Bool := true
  /-- The most frames one transfer request moves. -/
  maxChunk : Option Nat := none
  /-- How many of the next transfers report an xrun. -/
  pendingXruns : Nat := 0
  /-- Whether transfers ask to be retried later. -/
  wouldBlock : Bool := false
  /-- Whether transfers move nothing. -/
  zeroTransfer : Bool := false
  /-- Whether waits can succeed at all. -/
  waitResult : Bool := true
  /-- How many waits it grants before it times out, timing out also while idle; with `none`
  every wait reports progress. -/
  waitPatience : Option Nat := none
  /-- The byte captured samples carry. -/
  captureFill : UInt8 := 0x5a
  /-- A boundary that replaces the one the stream asks for. -/
  boundaryOverride : Option UInt64 := none
  /-- The time of the last pointer update. -/
  tstamp : Timespec := {}
  /-- The time a running device reports after moving its pointer. -/
  runTstamp : Timespec := { sec := 1, nsec := 500 }
  /-- The error number each failing place answers. -/
  failures : FailPoint → Option Int := fun _ => none
  state : PcmState := .opened
  running : Bool := false
  hwPtr : UInt64 := 0
  applPtr : UInt64 := 0
  availMin : UInt64 := 0
  /-- The descriptor number it reports. -/
  fd : Option Int := none
  /-- Lengths that replace the asked ones for the status, control and data mappings. -/
  statusLen : Option Nat := none
  controlLen : Option Nat := none
  dataLen : Option Nat := none
  /-- Whether the device offers no linking, no mapping and no descriptor. -/
  bare : Bool := false
  bufferSize : UInt64 := 0
  frameBytes : Nat := 0
  /-- The last software parameters installed. -/
  sw : Option SwParams := none
  /-- Frames moved by transfer requests. -/
  transferred : UInt64 := 0
  /-- How many of each request it served. -/
  calls : Tally → Nat := fun _ => 0
  /-- The descriptor it is linked to. -/
  linked : Option Int := none
  tstampType : Option Int := none
  lastWaitTimeout : Option Int := none
  statusPage : Option (Page StatusRecord) := none
  controlPage : Option (Page ControlRecord) := none

namespace VirtualPcm

/-- Takes the pointers back from a mapped control record. -/
def pull (v : VirtualPcm) : VirtualPcm :=
  match Page.fits? controlBytes v.controlPage with
  | some c => { v with applPtr := c.applPtr, availMin := c.availMin }
  | none => v

def statusRecord (v : VirtualPcm) : StatusRecord :=
  { state := v.state.toRaw, hwPtr := v.hwPtr, tstamp := v.tstamp }

/-- Writes the mapped records that are long enough for their contents. -/
def push (v : VirtualPcm) : VirtualPcm :=
  let v := match v.statusPage with
    | some p => if statusBytes ≤ p.len then
        { v with statusPage := some { p with record := v.statusRecord } } else v
    | none => v
  match v.controlPage with
  | some p => if controlBytes ≤ p.len then
      { v with controlPage := some { p with record := ⟨v.applPtr, v.availMin⟩ } } else v
  | none => v

/-- A running device moves its hardware pointer: playback catches up with the application
pointer, capture fills a whole buffer ahead of it. -/
def advance (v : VirtualPcm) : VirtualPcm :=
  if v.running then
    { v with hwPtr := if v.capture then v.applPtr + v.bufferSize else v.applPtr,
             tstamp := v.runTstamp }
  else v

def beginRunning (v : VirtualPcm) : VirtualPcm :=
  advance { v with running := true, state := .running }

/-- The fill level at which playback starts by itself. -/
def startThreshold (v : VirtualPcm) : UInt64 :=
  match v.sw with
  | some sw => sw.startThreshold
  | none => v.bufferSize

/-- Whether a wait times out for want of patience: after the granted number of waits, or
while the device is not running. -/
def givesUp (v : VirtualPcm) : Bool :=
  match v.waitPatience with
  | some k => decide (v.calls .wait > k) || !v.running
  | none => false

def bump (v : VirtualPcm) (t : Tally) : VirtualPcm :=
  { v with calls := fun u => if u = t then v.calls u + 1 else v.calls u }

/-- The frames between the application and the hardware pointer, both read as signed
64-bit values; the difference must fit one too. -/
def delayFrames (v : VirtualPcm) : Trapping Int :=
  subSigned v.applPtr.toInt64.toInt v.hwPtr.toInt64.toInt

/-- The length a mapping at `offset` gets: the one the device was told to use for that
record or area, or else the asked one. -/
def mapLength (v : VirtualPcm) (offset : UInt64) (len : Nat) : Nat :=
  if offset = MapOffset.status then v.statusLen.getD len
  else if offset = MapOffset.control then v.controlLen.getD len
  else if offset = MapOffset.data then v.dataLen.getD len
  else len

/-- The region a mapping hands out: `len` zeroed bytes, or `len` bytes of the capture
byte for the data area of a capture device. -/
def regionFor (v : VirtualPcm) (offset : UInt64) (len : Nat) : Trapping Region := do
  let r ← Region.heapOf len
  if offset = MapOffset.data ∧ v.capture then
    pure (.heap (ByteArray.mk (Array.replicate len v.captureFill)))
  else pure r

end VirtualPcm

abbrev VirtualM := DeviceM VirtualPcm

namespace VirtualM

/-- Fails when the device was told to fail at `f`. -/
def check (f : FailPoint) : VirtualM Unit := do
  match (← get).failures f with
  | some n => throw (.os n)
  | none => pure ()

/-- What every counted request does first: take the pointers back, count, and fail when
told to. -/
def enter (t : Tally) (f : FailPoint) : VirtualM Unit := do
  modify fun v => v.pull.bump t
  check f

/-- Reports an xrun: one pending xrun is used up and the device stops. -/
def xrun {α : Type} : VirtualM α := do
  modify fun v => { v with pendingXruns := v.pendingXruns - 1, running := false,
                           state := .xrun }
  throw (.os Errno.brokenPipe)

def errno {α : Type} (n : Int) : VirtualM α := throw (.os n)

/-- What the device is. -/
def info : VirtualM PcmInfo := do
  enter .info .info
  let v ← get
  pure { card := v.card, device := v.device, subdevice := v.subdevice,
         stream := if v.capture then 1 else 0 }

/-- Refines a record by the constraints. -/
def refine (p : HwParams) : VirtualM HwParams := do
  enter .refine .refine
  let a := (← get).constraints.refine p
  if a.admitted then pure a.params else errno Errno.invalid

/-- Chooses and installs one configuration: the buffer and frame sizes are taken from it
and the device is set up. -/
def install (p : HwParams) : VirtualM HwParams := do
  enter .install .install
  let a := (← get).constraints.choose p
  if !a.admitted then errno Errno.invalid
  modify fun v => { v with bufferSize := (a.params.min .bufferSize).toUInt64,
                           frameBytes := (a.params.min .frameBits).toNat / 8,
                           state := .setup }
  pure a.params

/-- Installs software parameters, with the boundary replaced when told to. -/
def software (sw : SwParams) : VirtualM SwParams := do
  enter .software .software
  let v ← get
  let sw := match v.boundaryOverride with
    | some b => { sw with boundary := b }
    | none => sw
  set { v with sw := some sw, availMin := sw.availMin }
  pure sw

/-- Exchanges pointers; with `hwsync` the device first moves its pointer, or reports a broken
pipe after an xrun. -/
def syncPtr (r : SyncRecord) : VirtualM SyncRecord := do
  enter .syncPtr .syncPtr
  if r.flags &&& SyncFlag.hwsync ≠ 0 then
    check .syncHw
    if (← get).state = .xrun then errno Errno.brokenPipe
    modify VirtualPcm.advance
  let v ← get
  let appl := if r.flags &&& SyncFlag.appl ≠ 0 then v.applPtr else r.control.applPtr
  let availMin := if r.flags &&& SyncFlag.availMin ≠ 0 then v.availMin else r.control.availMin
  set { v with applPtr := appl, availMin := availMin }
  pure { r with status := v.statusRecord, control := ⟨appl, availMin⟩ }

/-- Prepares: pointers and time back to zero, not running. -/
def prepare : VirtualM Unit := do
  enter .prepare .prepare
  modify fun v => VirtualPcm.push { v with state := .prepared, running := false, hwPtr := 0,
                                           applPtr := 0, tstamp := {} }

/-- Starts a prepared device. -/
def start : VirtualM Unit := do
  enter .start .start
  if (← get).state ≠ .prepared then errno Errno.badState
  modify fun v => v.beginRunning.push

def stop : VirtualM Unit := do
  enter .stop .stop
  modify fun v => VirtualPcm.push { v with running := false, state := .setup }

/-- Stops after playing what is queued: the hardware pointer reaches the application
pointer. -/
def drain : VirtualM Unit := do
  enter .drain .drain
  modify fun v => VirtualPcm.push { v with running := false, hwPtr := v.applPtr,
                                           state := .setup }

/-- The checks every transfer makes first: a pending xrun, a state that cannot transfer,
a device that would block. -/
def transferGate (ok : PcmState → Bool) : VirtualM Unit := do
  let v ← get
  if v.pendingXruns > 0 then xrun
  if !ok v.state then errno Errno.badState
  if v.wouldBlock then errno Errno.again

/-- Takes frames for playback: at most the free space and the chunk limit; playback starts
by itself once the start threshold is queued. -/
def writei (_data : ByteArray) (frames : Nat) : VirtualM Nat := do
  enter .writei .writei
  transferGate fun s => s = .prepared || s = .running
  if (← get).zeroTransfer then return 0
  modify VirtualPcm.advance
  let v ← get
  let space : Int := (v.hwPtr.toNat : Int) + v.bufferSize.toNat - v.applPtr.toNat
  let n := min (min frames space.toNat) (v.maxChunk.getD frames)
  if n = 0 then errno Errno.again
  let v := { v with applPtr := ← monadLift (addU64 v.applPtr (UInt64.ofNat n)),
                    transferred := ← monadLift (addU64 v.transferred (UInt64.ofNat n)) }
  let queued := if v.applPtr ≥ v.hwPtr then v.applPtr - v.hwPtr else 0
  let v := if !v.running && queued ≥ v.startThreshold then v.beginRunning else v
  set v.push
  pure n

/-- Captures frames into the buffer: at most the chunk limit, each byte the capture
byte. The bytes of the frames taken must lie within the buffer. -/
def readi (data : ByteArray) (frames : Nat) : VirtualM (Nat × ByteArray) := do
  enter .readi .readi
  transferGate fun s => s = .running
  if (← get).zeroTransfer then return (0, data)
  modify VirtualPcm.advance
  let v ← get
  let n := min frames (v.maxChunk.getD frames)
  let bytes ← monadLift (mulWord n v.frameBytes)
  monadLift (checkSlice 0 bytes data.size)
  let fill := ByteArray.mk (Array.replicate bytes v.captureFill)
  let data := fill.copySlice 0 data 0 fill.size
  set (VirtualPcm.push { v with applPtr := ← monadLift (addU64 v.applPtr (UInt64.ofNat n)),
                                transferred := ← monadLift (addU64 v.transferred (UInt64.ofNat n)) })
  pure (n, data)

def delay : VirtualM Int := do
  enter .delay .delay
  monadLift (← get).delayFrames

def setTstampType (t : Int) : VirtualM Unit := do
  enter .tstampType .tstampType
  modify fun v => { v with tstampType := some t }

/-- Records a link; linking is not counted. -/
def link (fd : Int) : VirtualM Unit := do
  if (← get).bare then throw (.unsupported .linking)
  modify VirtualPcm.pull
  check .link
  modify fun v => { v with linked := some fd }

/-- Forgets a link. -/
def unlink : VirtualM Unit := do
  if (← get).bare then throw (.unsupported .linking)
  enter .unlink .unlink
  modify fun v => { v with linked := none }

/-- Maps a record or the data area, making the region first with the length the device was
told to use. -/
def map (offset : UInt64) (len : Nat) (_writable : Bool) : VirtualM Region := do
  if (← get).bare then throw (.unsupported .mapping)
  modify fun v => v.pull.bump .map
  let v ← get
  let r ← monadLift (v.regionFor offset (v.mapLength offset len))
  if offset = MapOffset.status ∧ v.mappableStatus then
    check .mapStatus
    set (VirtualPcm.push { v with statusPage := some ⟨r.len, {}⟩ })
    pure r
  else if offset = MapOffset.control ∧ v.mappableStatus then
    check .mapControl
    set (VirtualPcm.push { v with controlPage := some ⟨r.len, {}⟩ })
    pure r
  else if offset = MapOffset.data ∧ v.mappableData then
    check .mapData
    set v.push
    pure r
  else errno Errno.noDeviceOrAddress

/-- Waits for progress: an xrun is an input/output error, a device that may not succeed or gives
up times out, and otherwise it moves. -/
def wait (timeout : Int) : VirtualM Bool := do
  modify fun v => { v.pull.bump .wait with lastWaitTimeout := some timeout }
  check .wait
  let v ← get
  if v.state = .xrun then errno Errno.inputOutput
  if !v.waitResult || v.givesUp then return false
  set v.advance.push
  pure true

end VirtualM

/-- The virtual device as a stream device. -/
def VirtualPcm.driver : PcmDevice VirtualPcm where
  info := VirtualM.info
  refine := VirtualM.refine
  install := VirtualM.install
  software := VirtualM.software
  syncPtr := VirtualM.syncPtr
  prepare := VirtualM.prepare
  start := VirtualM.start
  stop := VirtualM.stop
  drain := VirtualM.drain
  writei := VirtualM.writei
  readi := VirtualM.readi
  delay := VirtualM.delay
  setTstampType := VirtualM.setTstampType
  link := VirtualM.link
  unlink := VirtualM.unlink
  map := VirtualM.map
  wait := VirtualM.wait
  descriptor := fun v => if v.bare then none else v.fd
  status := fun v => ((v.statusPage.map Page.record).getD {})
  control := fun v => ((v.controlPage.map Page.record).getD {})
  setControl := fun c v => match v.controlPage with
    | some p => { v with controlPage := some { p with record := c } }
    | none => v

end SoundCard.Virtual
