import SoundCard.Pcm.Stream.Basic
import SoundCard.Pcm.Pointer
/-! The control operations of a stream: prepare, start, stop, drain, the pointer queries,
waiting and linking. -/
namespace SoundCard.Pcm

open SoundCard.Os

namespace PcmStream

variable {σ : Type} (D : PcmDevice σ)

/-- Prepares the stream and takes the reset application pointer back from the device. -/
def prepare : StreamM σ Unit := do
  let _ ← parts
  match ← ask D.prepare with
  | .error e => fail (.driver "cannot prepare channel" e)
  | .ok () =>
    match ← syncRing D (SyncFlag.appl ||| SyncFlag.availMin) with
    | .error e => fail (.driver "cannot sync stream pointers" e)
    | .ok () => modify fun s => { s with prepared := true, running := false }

/-- Starts the stream, preparing it first when needed. -/
def start : StreamM σ Unit := do
  if !(← get).isReady then refuse
  if !(← get).prepared then prepare D
  let _ ← parts
  match ← ask D.start with
  | .ok () => modify fun s => { s with running := true }
  | .error e => fail (.driver "cannot start channel" e)

/-- Stops at once, dropping queued frames. -/
def stop : StreamM σ Unit := do
  let _ ← parts
  match ← ask D.stop with
  | .ok () => modify fun s => { s with prepared := false, running := false }
  | .error e => fail (.driver "cannot stop channel" e)

/-- Stops after the queued frames have played. -/
def drain : StreamM σ Unit := do
  let _ ← parts
  match ← ask D.drain with
  | .ok () => modify fun s => { s with prepared := false, running := false }
  | .error e => fail (.driver "cannot drain channel" e)

/-- Frames that can be written (playback) or read (capture) now, from the unwrapped
pointers; inconsistent pointers are a pointer fault. -/
def available : StreamM σ UInt64 := do
  let _ ← parts
  if let .error e ← syncRing D (SyncFlag.appl ||| SyncFlag.hwsync) then
    fail (.driver "cannot sync stream pointers" e)
  let s ← get
  let hw ← readRing (Ring.hwPtr D)
  let appl ← readRing (Ring.applPtr D)
  match rawAvail (!s.isCapture) hw.toNat appl.toNat s.bufferSize.toNat with
  | some a => pure (UInt64.ofNat a)
  | none => fail (.pointerFault hw appl)

/-- What `htimestamp` reports: available frames and the time of the last pointer update,
with negative seconds raised to 0 and nanoseconds clamped to a second. -/
structure Stamped where
  avail : UInt64
  sec : Nat
  nsec : Nat
  deriving DecidableEq, Repr

/-- Available frames with the time of the last pointer update; no time yet is an error. -/
def htimestamp : StreamM σ Stamped := do
  let avail ← available D
  let ts ← readRing (Ring.tstamp D)
  if ts.isZero then fail .noTimestamp
  pure { avail := avail, sec := ts.sec.toNat,
         nsec := (max 0 (min ts.nsec 999999999)).toNat }

/-- Frames between the application and the hardware pointer, as the device counts. -/
def delay : StreamM σ Int := do
  let _ ← parts
  match ← ask D.delay with
  | .ok n => pure n
  | .error e => fail (.driver "cannot get delay" e)

/-- The device state, after taking the pointers from the device. -/
def state : StreamM σ PcmState := do
  let _ ← parts
  if let .error e ← syncRing D SyncFlag.appl then
    fail (.driver "cannot sync stream pointers" e)
  return PcmState.ofRaw (← readRing (Ring.state D))

/-- Waits for progress; `false` on a timeout. An input/output error is explained by the
device state: an xrun, a suspended or a disconnected stream, or a poll error. -/
def wait (timeout : Int) : StreamM σ Bool := do
  let _ ← parts
  match ← ask (D.wait timeout) with
  | .ok ready => pure ready
  | .error e =>
    if e.is Errno.inputOutput then
      let err : StreamError := match ← state D with
        | .xrun => .xrun "wait"
        | .suspended => .driver "stream suspended" (.os Errno.streamsPipe)
        | .disconnected => .driver "stream disconnected" (.os Errno.noDevice)
        | _ => .driver "poll error" e
      fail err
    else fail (.driver "cannot wait for stream" e)

/-- Links the stream to a peer with the given descriptor; a peer without one is refused. -/
def link (peer : Option Int) : StreamM σ Unit := do
  match peer with
  | none => fail (.invalidArgument "peer stream has no descriptor")
  | some fd =>
    let _ ← parts
    match ← ask (D.link fd) with
    | .ok () => pure ()
    | .error e => fail (.driver "cannot link channel" e)

/-- Undoes a link. -/
def unlink : StreamM σ Unit := do
  let _ ← parts
  match ← ask D.unlink with
  | .ok () => pure ()
  | .error e => fail (.driver "cannot unlink channel" e)

end PcmStream

end SoundCard.Pcm
