import SoundCard.Proofs.StreamRun
/-! A device that keeps a log of the transfer requests it serves, answering as the device it
wraps. -/
namespace SoundCard.Pcm

open SoundCard.Os

/-- One transfer request as the device saw it: the slice it was handed, the frames asked
for, the frames it reported or its error, and the slice as the request left it. -/
structure Transfer where
  handed : ByteArray
  asked : Nat
  answer : Except IoError Nat
  left : ByteArray

namespace Transfer

/-- The frames the stream counts from the answer: those reported, at most those asked. -/
def moved (t : Transfer) : Nat :=
  match t.answer with
  | .ok n => min n t.asked
  | .error _ => 0

/-- Whether the request reported an xrun. -/
def isXrun (t : Transfer) : Bool :=
  match t.answer with
  | .ok _ => false
  | .error e => e.is Errno.brokenPipe

/-- The bytes of the frames moved, taken from the slice as the request left it. -/
def bytes (fb : Nat) (t : Transfer) : ByteArray := t.left.extract 0 (t.moved * fb)

end Transfer

/-- The frames a log of requests moved. -/
def framesMoved (L : List Transfer) : Nat := (L.map Transfer.moved).sum

/-- The bytes a log of requests moved, in the order of the log. -/
def bytesMoved (fb : Nat) : List Transfer → ByteArray
  | [] => .empty
  | t :: L => t.bytes fb ++ bytesMoved fb L

/-- The xruns a log of requests reported. -/
def xruns (L : List Transfer) : Nat := L.countP Transfer.isXrun

/-- Whether two xruns follow one another in the log with no request between them; `prev`
says whether the request before the log reported one. -/
def xrunRepeats : Bool → List Transfer → Bool
  | _, [] => false
  | prev, t :: L => (prev && t.isXrun) || xrunRepeats t.isXrun L

@[simp] theorem framesMoved_nil : framesMoved [] = 0 := rfl

@[simp] theorem framesMoved_cons (t : Transfer) (L : List Transfer) :
    framesMoved (t :: L) = t.moved + framesMoved L := by
  simp [framesMoved]

@[simp] theorem bytesMoved_nil (fb : Nat) : bytesMoved fb [] = .empty := rfl

@[simp] theorem bytesMoved_cons (fb : Nat) (t : Transfer) (L : List Transfer) :
    bytesMoved fb (t :: L) = t.bytes fb ++ bytesMoved fb L := rfl

@[simp] theorem xruns_nil : xruns [] = 0 := rfl

@[simp] theorem xruns_cons (t : Transfer) (L : List Transfer) :
    xruns (t :: L) = (if t.isXrun then 1 else 0) + xruns L := by
  by_cases h : t.isXrun <;> simp [xruns, h, Nat.add_comm]

variable {σ α : Type}

/-- A request of the wrapped device, run on the device part of a logged state. -/
def onDevice (m : DeviceM σ α) : DeviceM (σ × List Transfer) α :=
  ExceptT.mk fun p => (fun od => (od.1, (od.2, p.2))) <$> (ExceptT.run m).run p.1

/-- A transfer request of the wrapped device that logs the entry its outcome makes. -/
def recorded (m : DeviceM σ α) (entry : Except IoError α → Transfer) :
    DeviceM (σ × List Transfer) α :=
  ExceptT.mk fun p => (fun od => (od.1, (od.2, p.2 ++ [entry od.1]))) <$> (ExceptT.run m).run p.1

/-- What a read request leaves in the slice it was handed: the bytes it gave back written
over the start of the slice. -/
def readLeft (handed : ByteArray) : Except IoError (Nat × ByteArray) → ByteArray
  | .ok (_, filled) => filled.copySlice 0 handed 0 (min filled.size handed.size)
  | .error _ => handed

/-- The device `D` with a log of its transfer requests. -/
def PcmDevice.recording (D : PcmDevice σ) : PcmDevice (σ × List Transfer) where
  info := onDevice D.info
  refine p := onDevice (D.refine p)
  install p := onDevice (D.install p)
  software p := onDevice (D.software p)
  syncPtr q := onDevice (D.syncPtr q)
  prepare := onDevice D.prepare
  start := onDevice D.start
  stop := onDevice D.stop
  drain := onDevice D.drain
  writei b k := recorded (D.writei b k) fun o => ⟨b, k, o, b⟩
  readi b k := recorded (D.readi b k) fun o => ⟨b, k, o.map Prod.fst, readLeft b o⟩
  delay := onDevice D.delay
  setTstampType t := onDevice (D.setTstampType t)
  link fd := onDevice (D.link fd)
  unlink := onDevice D.unlink
  map off len w := onDevice (D.map off len w)
  wait t := onDevice (D.wait t)
  descriptor p := D.descriptor p.1
  status p := D.status p.1
  control p := D.control p.1
  setControl c p := (D.setControl c p.1, p.2)

section Lemmas

variable {D : PcmDevice σ} {b : ByteArray} {k : Nat}

theorem recording_writei :
    D.recording.writei b k = recorded (D.writei b k) (fun o => ⟨b, k, o, b⟩) := by
  simp only [PcmDevice.recording]

theorem recording_readi :
    D.recording.readi b k = recorded (D.readi b k) (fun o => ⟨b, k, o.map Prod.fst, readLeft b o⟩) := by
  simp only [PcmDevice.recording]

variable {m : DeviceM σ α} {p p' : σ × List Transfer} {o : Except IoError α}

theorem returns_onDevice : Returns (onDevice m) p o p' ↔ Returns m p.1 o p'.1 ∧ p'.2 = p.2 := by
  show (fun od => (od.1, (od.2, p.2))) <$> (ExceptT.run m).run p.1 = .ok (o, p') ↔ _
  unfold Returns
  obtain ⟨d', L'⟩ := p'
  rcases (ExceptT.run m).run p.1 with t | ⟨o', d⟩
  · simp [Functor.map, Except.map]
  · simp only [Functor.map, Except.map, Except.ok.injEq, Prod.mk.injEq]
    exact ⟨fun ⟨h1, h2, h3⟩ => ⟨⟨h1, h2⟩, h3.symm⟩, fun ⟨⟨h1, h2⟩, h3⟩ => ⟨h1, h2, h3.symm⟩⟩

theorem returns_recorded {entry : Except IoError α → Transfer} :
    Returns (recorded m entry) p o p' ↔ Returns m p.1 o p'.1 ∧ p'.2 = p.2 ++ [entry o] := by
  show (fun od => (od.1, (od.2, p.2 ++ [entry od.1]))) <$> (ExceptT.run m).run p.1 =
    .ok (o, p') ↔ _
  unfold Returns
  obtain ⟨d', L'⟩ := p'
  rcases (ExceptT.run m).run p.1 with t | ⟨o', d⟩
  · simp [Functor.map, Except.map]
  · simp only [Functor.map, Except.map, Except.ok.injEq, Prod.mk.injEq]
    constructor
    · rintro ⟨rfl, rfl, rfl⟩
      exact ⟨⟨rfl, rfl⟩, rfl⟩
    · rintro ⟨⟨rfl, rfl⟩, rfl⟩
      exact ⟨rfl, rfl, rfl⟩

theorem leaves_onDevice : PcmStream.Leaves Prod.snd (onDevice m) :=
  fun _ _ _ h => (returns_onDevice.1 h).2

end Lemmas

end SoundCard.Pcm
