import SoundCard.Proofs.TransferCall
import SoundCard.Virtual.Pcm
/-! Xruns during transfers: counted once from transfer requests, uncounted from the mapped path's
pointer update. -/
namespace SoundCard.Pcm

open SoundCard.Os

namespace PcmStream

variable {σ : Type} {D : PcmDevice σ} {s : PcmStream σ}

theorem returns_parts_of_ready {g : Ring} (ha : s.attached = true) (hg : s.ring = some g) :
    Returns parts s (.ok g) s := by
  unfold parts
  refine returns_bind.2 (.inr ⟨s, s, returns_get.2 ⟨rfl, rfl⟩, ?_⟩)
  rw [ha, hg]
  exact returns_pure.2 ⟨rfl, rfl⟩

theorem checkTransfer_passes {capture : Bool} {len frames : Nat} (hready : s.isReady = true)
    (hdir : s.isCapture = capture) (hlen : frames * s.frameBytes ≤ len)
    (hw : frames * s.frameBytes < wordRange) :
    Returns (checkTransfer capture len frames) s (.ok ()) s := by
  unfold checkTransfer
  refine returns_bind.2 (.inr ⟨s, s, returns_get.2 ⟨rfl, rfl⟩, ?_⟩)
  dsimp only
  rw [if_neg (by simp [hready]), if_neg (by simp [hdir])]
  refine returns_bind.2 (.inr ⟨_, s, returns_lift.2 ⟨_, framesToBytes_eq_ok.2 ⟨hw, rfl⟩, rfl, rfl⟩, ?_⟩)
  rw [if_neg (by omega)]
  exact returns_pure.2 ⟨rfl, rfl⟩

/-- The handle after the pointer update met a broken pipe: the device moved on to `d` and
the failure is stored; nothing else changed, the xrun count included. -/
abbrev afterPipe (s : PcmStream σ) (d : σ) : PcmStream σ :=
  { s with driver := d, error := (StreamError.xrun "pointer sync").stored }

section BrokenPipe

/- A synced ring whose device answers the pointer update's record with a broken pipe. -/
variable {q : SyncRecord} {d : σ} (ha : s.attached = true) (hq : s.ring = some (.synced q))
  (hpipe : Returns (D.syncPtr { q with flags := SyncFlag.appl ||| SyncFlag.hwsync }) s.driver
    (.error (.os Errno.brokenPipe)) d)
include ha hq hpipe

theorem syncRing_of_pipe :
    Returns (syncRing D (SyncFlag.appl ||| SyncFlag.hwsync)) s (.ok (.error (.os Errno.brokenPipe)))
      { s with driver := d } := by
  unfold syncRing
  refine returns_bind.2 (.inr ⟨_, s, returns_parts_of_ready ha hq, ?_⟩)
  refine returns_bind.2 (.inr ⟨.error (.os Errno.brokenPipe), { s with driver := d },
    returns_ask.2 ⟨_, d, returns_bind.2 (.inl ⟨_, rfl, hpipe⟩), rfl, rfl⟩, ?_⟩)
  exact returns_pure.2 ⟨rfl, rfl⟩

theorem availUpdate_of_pipe :
    Returns (availUpdate D) s (.error (.xrun "pointer sync")) (afterPipe s d) := by
  unfold availUpdate
  refine returns_bind.2 (.inr ⟨_, s, returns_parts_of_ready ha hq, ?_⟩)
  refine returns_bind.2 (.inr ⟨_, _, syncRing_of_pipe ha hq hpipe, ?_⟩)
  dsimp only
  rw [if_pos (show (IoError.os Errno.brokenPipe).is Errno.brokenPipe = true from rfl)]
  exact returns_fail.2 ⟨rfl, rfl⟩

theorem mmapBegin_of_pipe (hdata : s.data.isSome = true) (k : Nat) :
    Returns (mmapBegin D k) s (.error (.xrun "pointer sync")) (afterPipe s d) := by
  unfold mmapBegin
  refine returns_bind.2 (.inr ⟨s, s, returns_get.2 ⟨rfl, rfl⟩, ?_⟩)
  dsimp only
  rw [if_neg (by cases h : s.data <;> simp_all)]
  exact returns_bind.2 (.inl ⟨_, rfl, availUpdate_of_pipe ha hq hpipe⟩)

theorem mmapCommit_of_pipe (run : MmapRun) :
    Returns (mmapCommit D run) s (.error (.xrun "pointer sync")) (afterPipe s d) := by
  unfold mmapCommit
  exact returns_bind.2 (.inl ⟨_, rfl, availUpdate_of_pipe ha hq hpipe⟩)

/-- A mapped write with nothing to write, on a playback stream that is not running, ends in
its closing check of the pointers, and so with the xrun as the update met it. -/
theorem mmapWrite_of_pipe (hplay : s.isCapture = false) (hidle : s.running = false)
    (data : ByteArray) :
    Returns (mmapWrite D data 0) s (.error (.xrun "pointer sync")) (afterPipe s d) := by
  unfold mmapWrite
  have hready : s.isReady = true := by simp [isReady, ha, hq]
  refine returns_bind.2 (.inr ⟨(), s, checkTransfer_passes hready hplay (by simp)
    (by simp [wordRange]), ?_⟩)
  refine returns_bind.2 (.inr ⟨s, s, returns_get.2 ⟨rfl, rfl⟩, ?_⟩)
  have hloop : Returns (mmapWriteFrom D data 0
      (min (UInt64.ofNat s.config.effectiveStartThreshold) s.bufferSize) (mmapRounds 0) 0 false)
      s (.ok 0) s := by
    rw [show mmapRounds 0 = 4095 + 1 from rfl, mmapWriteFrom, if_neg (Nat.lt_irrefl 0)]
    exact returns_pure.2 ⟨rfl, rfl⟩
  refine returns_bind.2 (.inr ⟨0, s, hloop, ?_⟩)
  refine returns_bind.2 (.inr ⟨s, s, returns_get.2 ⟨rfl, rfl⟩, ?_⟩)
  dsimp only
  rw [if_pos (by simp [hidle])]
  exact returns_bind.2 (.inl ⟨_, rfl, availUpdate_of_pipe ha hq hpipe⟩)

end BrokenPipe

/-- An xrun a plain transfer request reports is counted once and fails the call as the retry rule
says; one the mapped pointer update meets fails the call uncounted. -/
theorem xruns_counted_from_transfers_only (D : PcmDevice σ) (data : ByteArray) (n : Nat) :
    (∀ (s s' : PcmStream (σ × List Transfer)) r, s.flags.mmap = false →
      Returns (writei D.recording data n) s r s' →
      ∃ L, s'.driver.2 = s.driver.2 ++ L ∧ s'.underruns.toNat = s.underruns.toNat + xruns L ∧
        ((∃ c, r = .error (.xrun c)) ↔
          (s.flags.noRestart = true ∧ 0 < xruns L) ∨ xrunRepeats false L = true) ∧
        ∀ c, r = .error (.xrun c) → s'.running = false ∧ s'.prepared = false) ∧
    (∀ (s s' : PcmStream (σ × List Transfer)) r, s.flags.mmap = false →
      Returns (readi D.recording data n) s r s' →
      ∃ L, s'.driver.2 = s.driver.2 ++ L ∧ s'.underruns.toNat = s.underruns.toNat + xruns L ∧
        ((∃ c, r = .error (.xrun c)) ↔
          (s.flags.noRestart = true ∧ 0 < xruns L) ∨ xrunRepeats false L = true) ∧
        ∀ c, r = .error (.xrun c) → s'.running = false ∧ s'.prepared = false) ∧
    (∀ (s : PcmStream σ) q d, s.attached = true → s.ring = some (.synced q) →
      Returns (D.syncPtr { q with flags := SyncFlag.appl ||| SyncFlag.hwsync }) s.driver
        (.error (.os Errno.brokenPipe)) d →
      (s.data.isSome = true →
        ∀ k, Returns (mmapBegin D k) s (.error (.xrun "pointer sync")) (afterPipe s d)) ∧
      (∀ run, Returns (mmapCommit D run) s (.error (.xrun "pointer sync")) (afterPipe s d)) ∧
      (s.isCapture = false → s.running = false →
        Returns (mmapWrite D data 0) s (.error (.xrun "pointer sync")) (afterPipe s d))) := by
  refine ⟨fun s s' r hm h => ?_, fun s s' r hm h => ?_, fun s q d ha hq hpipe =>
    ⟨fun hdata k => mmapBegin_of_pipe ha hq hpipe hdata k, mmapCommit_of_pipe ha hq hpipe,
      fun hplay hidle => mmapWrite_of_pipe ha hq hpipe hplay hidle data⟩⟩
  · obtain ⟨L, hacc, -⟩ := writei_accounts hm h
    exact ⟨L, hacc.log, hacc.underruns, by simpa using hacc.xrun, hacc.cleared⟩
  · obtain ⟨L, hacc, -⟩ := readi_accounts hm h
    exact ⟨L, hacc.log, hacc.underruns, by simpa using hacc.xrun, hacc.cleared⟩

/-- A mapped write of no frames over a virtual device left in an xrun fails with it, uncounted. -/
theorem virtual_xrun_escapes_mapped_write :
    let s : PcmStream Virtual.VirtualPcm :=
      { driver := { state := .xrun }, attached := true, ring := some (.synced {}),
        data := some (.heap .empty), flags := { mmap := true }, config := {} }
    ∃ d, Returns (mmapWrite Virtual.VirtualPcm.driver ByteArray.empty 0) s
      (.error (.xrun "pointer sync")) (afterPipe s d) := by
  intro s
  exact ⟨_, ((xruns_counted_from_transfers_only Virtual.VirtualPcm.driver ByteArray.empty 0).2.2
    s {} _ rfl rfl rfl).2.2 rfl rfl⟩

end PcmStream

end SoundCard.Pcm
