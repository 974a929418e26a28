import SoundCard.Pcm.Stream.Control
import SoundCard.Pcm.Area
/-! The mapped data path: a run of the data area is taken (`mmapBegin`), filled or emptied, and
handed back (`mmapCommit`). -/
namespace SoundCard.Pcm

open SoundCard.Os

/-- A contiguous run of the data area, in frames. -/
structure MmapRun where
  offset : Nat
  frames : Nat
  deriving DecidableEq, Repr

namespace PcmStream

variable {σ : Type} (D : PcmDevice σ)

/-- Free frames for the mapped path, from the pointers taken modulo the boundary; a
broken pipe while synchronising is an xrun. -/
def availUpdate : StreamM σ UInt64 := do
  let _ ← parts
  match ← syncRing D (SyncFlag.appl ||| SyncFlag.hwsync) with
  | .ok () =>
    let s ← get
    let hw ← readRing (Ring.hwPtr D)
    let appl ← readRing (Ring.applPtr D)
    monadLift (wrappedAvail (!s.isCapture) hw appl s.bufferSize s.boundary)
  | .error e =>
    if e.is Errno.brokenPipe then fail (.xrun "pointer sync")
    else fail (.driver "cannot sync stream pointers" e)

/-- The next contiguous run of the data area, at most `frames` long, from the application
pointer to the end of the buffer or of the free space. -/
def mmapBegin (frames : Nat) : StreamM σ MmapRun := do
  if (← get).data.isNone then
    fail (.invalidArgument "stream was not opened with MMAP")
  let avail ← availUpdate D
  let bs := max (← get).bufferSize 1
  let appl ← readRing (Ring.applPtr D)
  let offset := appl % bs
  let contiguous := bs - offset
  pure { offset := offset.toNat, frames := min (min frames avail.toNat) contiguous.toNat }

/-- Hands a run back to the device: at most the free frames may be committed, and the
application pointer plus the run must fit a word before it wraps at the boundary. -/
def mmapCommit (run : MmapRun) : StreamM σ Unit := do
  let avail ← availUpdate D
  if run.frames > avail.toNat then
    fail (.invalidArgument s!"cannot commit {run.frames} frames with {avail.toNat} available")
  let boundary := max (← get).boundary 1
  let r ← parts
  let appl := (← monadLift (addU64 (r.applPtr D (← get).driver) (UInt64.ofNat run.frames))) %
    boundary
  modify fun s =>
    let (r', d) := r.setApplPtr D appl s.driver
    { s with ring := some r', driver := d }
  if let .error e ← syncRing D 0 then fail (.driver "cannot commit frames" e)

/-- How long the mapped path waits: ten times the buffer's duration in milliseconds, clamped to
100 and 2^31 - 1; both products must fit a word. -/
def mmapWaitTimeout (s : PcmStream σ) : Trapping Int := do
  let rate := max s.config.rate.toNat 1
  let bufferMs := (← mulWord s.bufferSize.toNat 1000) / rate
  return min (max (← mulWord bufferMs 10) 100) 2147483647

/-- Counts an xrun: the stream is neither prepared nor running afterwards. A count past
32 bits stops the program. -/
def noteXrun : StreamM σ Unit := do
  let s ← get
  let n ← monadLift (addU32 s.underruns 1)
  set { s with underruns := n, running := false, prepared := false }

/-- Recovers from an xrun during a transfer: it is counted, and it ends the transfer when
the stream may not restart or already retried since the last frames moved. -/
def recoverXrun (context : String) (retried : Bool) : StreamM σ Unit := do
  noteXrun
  if (← get).flags.noRestart || retried then fail (.xrun context)

/-- Waits for the device on the mapped path. A non-blocking stream does not wait; a
timeout is an error; an xrun is recovered. Answers whether a retry was spent. -/
def mmapWait (done : Nat) (retried : Bool) : StreamM σ Bool := do
  if (← get).flags.nonBlock then fail (.wouldBlock done)
  let timeout ← monadLift (mmapWaitTimeout (← get))
  match ← tryCatch (Except.ok <$> wait D timeout) (fun e => pure (Except.error e)) with
  | .ok true => pure retried
  | .ok false => fail (.driver "timed out waiting for stream" (.os Errno.timedOut))
  | .error (.xrun _) => do recoverXrun "mmap wait" retried; pure true
  | .error e => throw e

/-- Copies bytes into the mapped data area at a byte offset. -/
def areaPut (offset : Nat) (src : ByteArray) : StreamM σ Unit :=
  modify fun s => match s.data with
    | some (.heap area) => { s with data := some (.heap (areaWrite area offset src).1) }
    | _ => s

/-- Copies bytes out of the mapped data area at a byte offset into a buffer. -/
def areaGet (s : PcmStream σ) (offset : Nat) (dst : ByteArray) : ByteArray :=
  match s.data with
  | some (.heap area) => (areaRead area offset dst).1
  | _ => dst

end PcmStream

end SoundCard.Pcm
