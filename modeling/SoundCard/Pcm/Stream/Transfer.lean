import SoundCard.Pcm.Stream.Mapped
/-! Moving frames: the plain and mapped transfer loops, which recover an xrun once and end early
on a stream that would block. -/
namespace SoundCard.Pcm

open SoundCard.Os

namespace PcmStream

variable {σ : Type} (D : PcmDevice σ)

/-- Checks a transfer: the stream is ready, goes the asked way, and the buffer holds the
frames, whose size in bytes must fit a word. -/
def checkTransfer (capture : Bool) (len frames : Nat) : StreamM σ Unit := do
  let s ← get
  if !s.isReady then refuse
  if capture != s.isCapture then
    let what := if capture then "read from a playback" else "write to a capture"
    fail (.invalidArgument s!"cannot {what} stream")
  if len < (← monadLift (s.framesToBytes frames)) then
    fail (.invalidArgument s!"buffer of {len} bytes holds fewer than {frames} frames")

/-- The playback loop through the device's write request, from frame `done` on. -/
def writeFrom (data : ByteArray) (frames done : Nat) (retried : Bool) : StreamM σ Nat :=
  if _hd : done < frames then do
    let s ← get
    if !s.running && !s.prepared then prepare D
    let _ ← parts
    let fb := (← get).frameBytes
    match ← ask (D.writei (data.extract (done * fb) (frames * fb)) (frames - done)) with
    | .ok 0 => fail (.driver "cannot write stream data" (.os Errno.inputOutput))
    | .ok (n + 1) => do
      modify fun s => { s with running := true }
      writeFrom data frames (done + min (n + 1) (frames - done)) false
    | .error e =>
      if e.is Errno.brokenPipe then do
        noteXrun
        if _hr : retried then fail (.xrun "write")
        else if (← get).flags.noRestart then fail (.xrun "write")
        else writeFrom data frames done true
      else if e.isWouldBlock then fail (.wouldBlock done)
      else fail (.driver "cannot write stream data" e)
  else pure done
termination_by 2 * (frames - done) + (if retried then 0 else 1)
decreasing_by
  all_goals cases retried <;> simp_all <;> omega

/-- The capture loop through the device's read request, from frame `done` on; answers
the buffer and the frames read. -/
def readFrom (data : ByteArray) (frames done : Nat) (retried : Bool) :
    StreamM σ (ByteArray × Nat) :=
  if _hd : done < frames then do
    if !(← get).running then start D
    let _ ← parts
    let fb := (← get).frameBytes
    let slice := data.extract (done * fb) (frames * fb)
    match ← ask (D.readi slice (frames - done)) with
    | .ok (0, _) => fail (.driver "cannot read stream data" (.os Errno.inputOutput))
    | .ok (n + 1, filled) => do
      let data := filled.copySlice 0 data (done * fb) (min filled.size slice.size)
      readFrom data frames (done + min (n + 1) (frames - done)) false
    | .error e =>
      if e.is Errno.brokenPipe then do
        noteXrun
        if _hr : retried then fail (.xrun "read")
        else if (← get).flags.noRestart then fail (.xrun "read")
        else readFrom data frames done true
      else if e.isWouldBlock then fail (.wouldBlock done)
      else fail (.driver "cannot read stream data" e)
  else pure (data, done)
termination_by 2 * (frames - done) + (if retried then 0 else 1)
decreasing_by
  all_goals cases retried <;> simp_all <;> omega

/-- The rounds a mapped transfer of `frames` frames may take before it gives up as timed out. -/
def mmapRounds (frames : Nat) : Nat := 4 * frames + 4096

def stalled : StreamError := .driver "timed out waiting for stream" (.os Errno.timedOut)

/-- Runs `m`, answering its error as a value instead of failing. -/
def attempt {α : Type} (m : StreamM σ α) : StreamM σ (Except StreamError α) :=
  tryCatch (Except.ok <$> m) (fun e => pure (.error e))

/-- The mapped playback loop, from frame `done` on, with `rounds` rounds left. -/
def mmapWriteFrom (data : ByteArray) (frames : Nat) (startAt : UInt64) :
    Nat → Nat → Bool → StreamM σ Nat
  | 0, _, _ => fail stalled
  | rounds + 1, done, retried =>
    if done < frames then do
      let s ← get
      if !s.running && !s.prepared then prepare D
      match ← attempt (availUpdate D) with
      | .error (.xrun _) =>
        recoverXrun "mmap write" retried
        mmapWriteFrom data frames startAt rounds done true
      | .error e => throw e
      | .ok avail =>
        let s ← get
        if !s.running && s.bufferSize - min avail s.bufferSize ≥ startAt then start D
        if avail = 0 then
          if !(← get).running then start D
          let retried ← mmapWait D done retried
          mmapWriteFrom data frames startAt rounds done retried
        else
          let run ← mmapBegin D (frames - done)
          let fb := (← get).frameBytes
          areaPut (run.offset * fb) (data.extract (done * fb) ((done + run.frames) * fb))
          mmapCommit D run
          mmapWriteFrom data frames startAt rounds (done + run.frames) false
    else pure done

/-- The mapped capture loop, from frame `done` on, with `rounds` rounds left; answers the
buffer and the frames read. -/
def mmapReadFrom (frames : Nat) :
    Nat → ByteArray → Nat → Bool → StreamM σ (ByteArray × Nat)
  | 0, _, _, _ => fail stalled
  | rounds + 1, data, done, retried =>
    if done < frames then do
      if !(← get).running then start D
      match ← attempt (availUpdate D) with
      | .error (.xrun _) =>
        recoverXrun "mmap read" retried
        mmapReadFrom frames rounds data done true
      | .error e => throw e
      | .ok avail =>
        if avail = 0 then
          let retried ← mmapWait D done retried
          mmapReadFrom frames rounds data done retried
        else
          let run ← mmapBegin D (frames - done)
          let s ← get
          let fb := s.frameBytes
          let got := s.areaGet (run.offset * fb)
            (data.extract (done * fb) ((done + run.frames) * fb))
          let data := got.copySlice 0 data (done * fb) got.size
          mmapCommit D run
          mmapReadFrom frames rounds data (done + run.frames) false
    else pure (data, done)

/-- Writes frames through the mapped data area, starting playback once the start
threshold is queued. -/
def mmapWrite (data : ByteArray) (frames : Nat) : StreamM σ Nat := do
  checkTransfer false data.size frames
  let s ← get
  let startAt := min (UInt64.ofNat s.config.effectiveStartThreshold) s.bufferSize
  let done ← mmapWriteFrom D data frames startAt (mmapRounds frames) 0 false
  if !(← get).running then
    let avail ← availUpdate D
    let bs := (← get).bufferSize
    if bs - min avail bs ≥ startAt then start D
  pure done

/-- Reads frames through the mapped data area, starting capture first. -/
def mmapRead (data : ByteArray) (frames : Nat) : StreamM σ (ByteArray × Nat) := do
  checkTransfer true data.size frames
  mmapReadFrom D frames (mmapRounds frames) data 0 false

/-- Writes `frames` interleaved frames; answers the frames written, which is all of them
unless the call fails. -/
def writei (data : ByteArray) (frames : Nat) : StreamM σ Nat := do
  checkTransfer false data.size frames
  if (← get).flags.mmap then mmapWrite D data frames
  else writeFrom D data frames 0 false

/-- Reads `frames` interleaved frames into the buffer; answers the buffer and the frames
read. -/
def readi (data : ByteArray) (frames : Nat) : StreamM σ (ByteArray × Nat) := do
  checkTransfer true data.size frames
  if (← get).flags.mmap then mmapRead D data frames
  else readFrom D data frames 0 false

/-- Refuses a byte count that is not a whole number of frames. -/
def checkWhole (len : Nat) : StreamM σ Nat := do
  let fb := (← get).frameBytes
  if fb = 0 ∨ len % fb ≠ 0 then
    fail (.invalidArgument s!"{len} bytes is not a whole number of frames")
  pure fb

/-- Writes a whole number of frames given as bytes; answers the bytes written. -/
def write (data : ByteArray) : StreamM σ Nat := do
  let fb ← checkWhole data.size
  let n ← writei D data (data.size / fb)
  pure (n * fb)

/-- Reads a whole number of frames into the buffer; answers the buffer and the bytes
read. -/
def read (data : ByteArray) : StreamM σ (ByteArray × Nat) := do
  let fb ← checkWhole data.size
  let (data, n) ← readi D data (data.size / fb)
  pure (data, n * fb)

end PcmStream

end SoundCard.Pcm
