import SoundCard.Proofs.TransferStates
import SoundCard.Proofs.MappedRounds
/-! The virtual device under the mapped transfer loops: each request it answers, written out as
the device it leaves. -/
namespace SoundCard.Virtual

open SoundCard.Pcm SoundCard.Os PcmStream

namespace VirtualPcm

variable {v w : VirtualPcm}

@[simp] theorem calls_pull : v.pull.calls = v.calls := by
  unfold pull
  split <;> rfl

@[simp] theorem calls_advance : v.advance.calls = v.calls := by
  unfold advance
  split <;> rfl

@[simp] theorem calls_push : v.push.calls = v.calls := by
  unfold push
  dsimp only
  split <;> (try split_ifs) <;> (split <;> (try split_ifs) <;> rfl)

theorem pull_fields (v : VirtualPcm) : ∃ a m, v.pull = { v with applPtr := a, availMin := m } := by
  unfold pull
  split
  · exact ⟨_, _, rfl⟩
  · exact ⟨v.applPtr, v.availMin, rfl⟩

theorem calls_bump (t u : Tally) :
    (v.bump t).calls u = if u = t then v.calls u + 1 else v.calls u := rfl

/-- Whether the device holds status and control records long enough for what it publishes. -/
def recordsMapped (v : VirtualPcm) : Bool :=
  (Page.fits? statusBytes v.statusPage).isSome && v.controlMapped

/-- What the mapped path never changes of the device: its direction, its buffer and whether its
records are mapped. -/
def shape (v : VirtualPcm) : Bool × UInt64 × Bool := (v.capture, v.bufferSize, v.recordsMapped)

theorem push_statusPage : v.push.statusPage = v.statusPage.map fun p =>
    if statusBytes ≤ p.len then { p with record := v.statusRecord } else p := by
  unfold push
  split <;> (try split_ifs) <;> dsimp only <;> split <;> (try split_ifs) <;> simp_all

theorem statusFits_push :
    (Page.fits? statusBytes v.push.statusPage).isSome = (Page.fits? statusBytes v.statusPage).isSome := by
  rw [push_statusPage]
  rcases v.statusPage with _ | p
  · rfl
  · by_cases hp : statusBytes ≤ p.len <;> simp [Page.fits?, hp]

@[simp] theorem shape_push : v.push.shape = v.shape := by
  have hc : v.push.capture = v.capture := by
    unfold push
    dsimp only
    split <;> (try split_ifs) <;> (split <;> (try split_ifs) <;> rfl)
  have hb : v.push.bufferSize = v.bufferSize := congrArg (·.2.2.1) (kept_push (v := v))
  simp only [shape, recordsMapped, hc, hb, statusFits_push, controlMapped_push]

@[simp] theorem shape_pull : v.pull.shape = v.shape := by
  unfold pull
  split <;> rfl

@[simp] theorem shape_bump (t : Tally) : (v.bump t).shape = v.shape := rfl

@[simp] theorem capture_pull : v.pull.capture = v.capture := congrArg Prod.fst shape_pull

@[simp] theorem bufferSize_pull : v.pull.bufferSize = v.bufferSize :=
  congrArg (·.2.1) shape_pull

@[simp] theorem shape_advance : v.advance.shape = v.shape := by
  unfold advance
  split <;> rfl

@[simp] theorem shape_beginRunning : v.beginRunning.shape = v.shape := shape_advance

@[simp] theorem capture_bump (t : Tally) : (v.bump t).capture = v.capture := rfl

@[simp] theorem bufferSize_bump (t : Tally) : (v.bump t).bufferSize = v.bufferSize := rfl

@[simp] theorem capture_push : v.push.capture = v.capture := congrArg Prod.fst shape_push

@[simp] theorem capture_advance : v.advance.capture = v.capture := congrArg Prod.fst shape_advance

@[simp] theorem shape_setControl (c : ControlRecord) : (driver.setControl c v).shape = v.shape := by
  simp only [driver]
  split
  · next p hp =>
    by_cases hl : controlBytes ≤ p.len <;> simp [shape, recordsMapped, controlMapped, Page.fits?, hp, hl]
  · rfl

/-- A device that moved while running and published its records. -/
def Caught (d : VirtualPcm) : Prop := ∃ u : VirtualPcm, u.running = true ∧ d = u.advance.push

theorem hwPtr_advance (h : v.running = true) :
    v.advance.hwPtr = if v.capture then v.applPtr + v.bufferSize else v.applPtr := by
  unfold advance
  rw [if_pos h]

theorem records_push (h : v.recordsMapped = true) :
    driver.status v.push = v.statusRecord ∧ driver.control v.push = ⟨v.applPtr, v.availMin⟩ := by
  simp only [recordsMapped, Bool.and_eq_true, controlMapped_iff] at h
  obtain ⟨hs, p, hp, hl⟩ := h
  obtain ⟨q, hq, hql⟩ : ∃ q, v.statusPage = some q ∧ statusBytes ≤ q.len := by
    rcases hq : v.statusPage with _ | q
    · simp [hq, Page.fits?] at hs
    · by_cases hl : statusBytes ≤ q.len
      · exact ⟨q, rfl, hl⟩
      · simp [hq, Page.fits?, hl] at hs
  simp [driver, push_statusPage, push_controlPage, hp, hl, hq, hql]


/-- Every application pointer the device keeps, its own and that of its control record, lies
below 2^63. -/
def PointersBelow (v : VirtualPcm) : Prop :=
  v.applPtr.toNat < 2 ^ 63 ∧ ∀ p, v.controlPage = some p → p.record.applPtr.toNat < 2 ^ 63

@[simp] theorem running_pull : v.pull.running = v.running := by
  unfold VirtualPcm.pull
  split <;> rfl

@[simp] theorem running_advance : v.advance.running = v.running := by
  unfold VirtualPcm.advance
  split <;> rfl

@[simp] theorem running_bump (t : Tally) : (v.bump t).running = v.running := rfl

@[simp] theorem running_push : v.push.running = v.running := by
  unfold push
  dsimp only
  split <;> (try split_ifs) <;> (split <;> (try split_ifs) <;> rfl)

theorem Caught.running {d : VirtualPcm} (h : d.Caught) : d.running = true := by
  obtain ⟨u, hu, rfl⟩ := h
  simpa using hu

namespace PointersBelow

theorem pull (h : v.PointersBelow) : v.pull.PointersBelow := by
  unfold VirtualPcm.pull
  split
  · next c hc =>
    refine ⟨?_, h.2⟩
    unfold Page.fits? at hc
    split at hc
    · next p hp =>
      split at hc
      · cases hc
        exact h.2 p hp
      · cases hc
    · cases hc
  · exact h

theorem pull_applPtr (h : v.PointersBelow) : v.pull.applPtr.toNat < 2 ^ 63 := h.pull.1

theorem bump (h : v.PointersBelow) (t : Tally) : (v.bump t).PointersBelow := h

theorem advance (h : v.PointersBelow) : v.advance.PointersBelow := by
  unfold VirtualPcm.advance
  split
  · exact h
  · exact h

theorem push (h : v.PointersBelow) : v.push.PointersBelow := by
  refine ⟨by rw [applPtr_push]; exact h.1, fun p hp => ?_⟩
  rw [push_controlPage] at hp
  rcases hc : v.controlPage with _ | p₀
  · rw [hc] at hp
    cases hp
  rw [hc] at hp
  simp only [Option.map_some, Option.some.injEq] at hp
  subst hp
  split
  · exact h.1
  · exact h.2 p₀ hc

end PointersBelow

/-- The device answers every request of the mapped path: it is told to fail nowhere, is not in
an xrun, and its application pointers lie below 2^63. -/
structure Serves (v : VirtualPcm) : Prop where
  unfailing : v.Unfailing
  calm : v.state ≠ .xrun
  pointers : v.PointersBelow

namespace Serves

theorem pull_bump (hv : v.Serves) (t : Tally) : (v.pull.bump t).Serves :=
  ⟨hv.unfailing.of_failures (by simp [bump]), by simpa [bump] using hv.calm,
    hv.pointers.pull.bump t⟩

theorem push (hv : v.Serves) : v.push.Serves :=
  ⟨hv.unfailing.of_failures (by simp), by simpa using hv.calm, hv.pointers.push⟩

theorem advance (hv : v.Serves) : v.advance.Serves := by
  unfold VirtualPcm.advance
  split
  · exact ⟨hv.unfailing, hv.calm, hv.pointers⟩
  · exact hv

end Serves

/-- The device after it prepared: stopped, prepared, pointers at zero, records published. -/
abbrev prepared (v : VirtualPcm) : VirtualPcm :=
  VirtualPcm.push { v.pull.bump .prepare with
    state := .prepared, running := false, hwPtr := 0, applPtr := 0, tstamp := {} }

theorem Serves.prepared (hv : v.Serves) : v.prepared.Serves := by
  have hb := hv.pull_bump .prepare
  refine Serves.push ⟨hb.unfailing, by simp, by simp, ?_⟩
  exact hb.pointers.2

theorem Serves.started (hv : v.Serves) : (v.pull.bump .start).beginRunning.push.Serves := by
  have hb := hv.pull_bump .start
  have hr : ({ v.pull.bump .start with running := true, state := .running } : VirtualPcm).Serves :=
    ⟨hb.unfailing, by simp, hb.pointers⟩
  exact hr.advance.push

end VirtualPcm

namespace VirtualM

variable {β : Type} {v v' : VirtualPcm}

/-- The synchronisation of the pointer update: the device moves its hardware pointer, hands
over the application pointer `pull` takes and keeps the stream's wake-up threshold. -/
theorem syncPtr_fetch_ok {q q' : SyncRecord} (h : Returns (syncPtr q) v (.ok q') v')
    (hf : q.flags = SyncFlag.appl ||| SyncFlag.hwsync) :
    q' = { q with status := (v.pull.bump .syncPtr).advance.statusRecord,
                  control := ⟨v.pull.applPtr, q.control.availMin⟩ } ∧
      v' = { (v.pull.bump .syncPtr).advance with availMin := q.control.availMin } := by
  unfold syncPtr at h
  have h := returns_enter_bind h
  rw [if_pos (by rw [hf]; decide)] at h
  rcases returns_check_bind h with ⟨n, -, hr, -⟩ | h
  · cases hr
  rw [returns_get_bind] at h
  dsimp only at h
  split at h
  · rcases returns_bind.1 h with ⟨e, he, -⟩ | ⟨a, w, hx, -⟩
    · cases he
    cases (returns_throw.1 hx).1
  rw [returns_modify_bind, returns_get_bind, returns_set_bind] at h
  obtain ⟨hq, rfl⟩ := returns_pure.1 h
  cases hq
  rw [if_pos (by rw [hf]; decide), if_neg (by rw [hf]; decide)]
  simp

/-- A second pointer update right after a first finds the pointer the first handed over, so
the device moves its hardware pointer to the same place and answers the same record. -/
theorem syncPtr_fetch_again {q q₁ q₂ : SyncRecord} {v₁ v₂ : VirtualPcm}
    (h₁ : Returns (syncPtr q) v (.ok q₁) v₁)
    (h₂ : Returns (syncPtr { q₁ with flags := q.flags }) v₁ (.ok q₂) v₂)
    (hf : q.flags = SyncFlag.appl ||| SyncFlag.hwsync) : q₂ = q₁ := by
  obtain ⟨rfl, rfl⟩ := syncPtr_fetch_ok h₁ hf
  obtain ⟨rfl, -⟩ := syncPtr_fetch_ok h₂ hf
  have happl : ({ (v.pull.bump .syncPtr).advance with availMin := q.control.availMin } :
      VirtualPcm).pull.applPtr = v.pull.applPtr :=
    VirtualPcm.pull_applPtr_of (by simp) (by simp)
  obtain ⟨a, m, hp⟩ := VirtualPcm.pull_fields
    ({ (v.pull.bump .syncPtr).advance with availMin := q.control.availMin } : VirtualPcm)
  rw [hp] at happl ⊢
  dsimp only at happl
  subst happl
  unfold VirtualPcm.advance
  by_cases hr : v.running <;> simp [hr, VirtualPcm.bump, VirtualPcm.statusRecord]

theorem returns_check_bind_iff (hv : v.Unfailing) {f : FailPoint} {k : Unit → VirtualM β}
    {r : Except IoError β} : Returns (check f >>= k) v r v' ↔ Returns (k ()) v r v' := by
  unfold check
  rw [bind_assoc, returns_get_bind, hv f]
  simp

theorem returns_enter_bind_iff (hv : v.Unfailing) {t : Tally} {f : FailPoint}
    {k : Unit → VirtualM β} {r : Except IoError β} :
    Returns (enter t f >>= k) v r v' ↔ Returns (k ()) (v.pull.bump t) r v' := by
  unfold enter
  rw [bind_assoc, returns_modify_bind]
  exact returns_check_bind_iff (hv.of_failures (by simp))

/-- The device as a synchronisation leaves it: counted, moved when asked to, with the
pointers the flags give it. -/
def synced (v : VirtualPcm) (q : SyncRecord) : VirtualPcm :=
  let w := if q.flags &&& SyncFlag.hwsync ≠ 0 then (v.pull.bump .syncPtr).advance
    else v.pull.bump .syncPtr
  { w with applPtr := if q.flags &&& SyncFlag.appl ≠ 0 then w.applPtr else q.control.applPtr,
           availMin := if q.flags &&& SyncFlag.availMin ≠ 0 then w.availMin
             else q.control.availMin }

/-- The record a synchronisation answers: the device's status, and the pointers it leaves. -/
def syncedRecord (v : VirtualPcm) (q : SyncRecord) : SyncRecord :=
  { q with status := (synced v q).statusRecord,
           control := ⟨(synced v q).applPtr, (synced v q).availMin⟩ }

theorem syncPtr_returns (hv : v.Unfailing) (hx : v.state ≠ .xrun) (q : SyncRecord) :
    Returns (syncPtr q) v (.ok (syncedRecord v q)) (synced v q) := by
  unfold syncPtr
  rw [returns_enter_bind_iff hv]
  dsimp only
  split
  · next hf =>
    rw [returns_check_bind_iff (hv.of_failures (by simp)), returns_get_bind,
      if_neg (by simpa using hx), returns_modify_bind, returns_get_bind,
      returns_set_bind, returns_pure]
    simp [syncedRecord, synced, hf, VirtualPcm.statusRecord]
  · next hf =>
    rw [returns_get_bind, returns_set_bind, returns_pure]
    simp [syncedRecord, synced, hf, VirtualPcm.statusRecord]

@[simp] theorem failures_synced (q : SyncRecord) : (synced v q).failures = v.failures := by
  unfold synced
  split <;> simp

@[simp] theorem state_synced (q : SyncRecord) : (synced v q).state = v.state := by
  unfold synced
  split <;> simp

@[simp] theorem shape_synced (q : SyncRecord) : (synced v q).shape = v.shape := by
  unfold synced
  split
  · exact (VirtualPcm.shape_advance.trans (VirtualPcm.shape_bump .syncPtr)).trans
      VirtualPcm.shape_pull
  · exact (VirtualPcm.shape_bump .syncPtr).trans VirtualPcm.shape_pull

@[simp] theorem calls_synced (q : SyncRecord) : (synced v q).calls .wait = v.calls .wait := by
  unfold synced
  split <;> simp [VirtualPcm.calls_bump]

theorem prepare_returns (hv : v.Unfailing) : Returns prepare v (.ok ()) v.prepared := by
  unfold prepare
  rw [returns_enter_bind_iff hv, returns_modify]
  exact ⟨rfl, rfl⟩

theorem start_returns (hv : v.Unfailing) (hp : v.state = .prepared) :
    Returns start v (.ok ()) (v.pull.bump .start).beginRunning.push := by
  unfold start
  rw [returns_enter_bind_iff hv, returns_get_bind, if_neg (by simpa using hp), returns_modify]
  exact ⟨rfl, rfl⟩

theorem start_refuses (hv : v.Unfailing) (hp : v.state ≠ .prepared) :
    Returns start v (.error (.os Errno.badState)) (v.pull.bump .start) := by
  unfold start
  rw [returns_enter_bind_iff hv, returns_get_bind, if_pos (by simpa using hp)]
  exact returns_throw_bind.2 ⟨rfl, rfl⟩

/-- Whether a wait finds the device able to move: allowed to succeed, and not out of
patience. -/
def grants (v : VirtualPcm) : Bool := v.waitResult && !v.givesUp

/-- The device as a wait finds it: the wait counted and its timeout kept. -/
def waitFrom (v : VirtualPcm) (t : Int) : VirtualPcm :=
  { v.pull.bump .wait with lastWaitTimeout := some t }

@[simp] theorem shape_waitFrom (t : Int) : (waitFrom v t).shape = v.shape := VirtualPcm.shape_pull

@[simp] theorem running_waitFrom (t : Int) : (waitFrom v t).running = v.running :=
  VirtualPcm.running_pull

/-- The device after a wait: moved when the wait was granted. -/
def waited (v : VirtualPcm) (t : Int) : VirtualPcm :=
  if grants (waitFrom v t) then (waitFrom v t).advance.push else waitFrom v t

theorem wait_returns (hv : v.Unfailing) (hx : v.state ≠ .xrun) (t : Int) :
    Returns (wait t) v (.ok (grants (waitFrom v t))) (waited v t) := by
  unfold wait waited
  rw [returns_modify_bind]
  change Returns _ (waitFrom v t) _ _
  rw [returns_check_bind_iff (hv.of_failures (by simp [waitFrom])), returns_get_bind,
    if_neg (by simpa [waitFrom] using hx)]
  have hc : (!(waitFrom v t).waitResult || (waitFrom v t).givesUp) = !grants (waitFrom v t) := by
    simp [grants]
  rw [hc]
  cases grants (waitFrom v t)
  · exact returns_pure.2 ⟨rfl, rfl⟩
  · exact returns_set_bind.2 (returns_pure.2 ⟨rfl, rfl⟩)

theorem waited_of_grants (h : grants (waitFrom v t) = true) :
    waited v t = (waitFrom v t).advance.push :=
  if_pos h

section Synced

variable {q : SyncRecord}

@[simp] theorem controlPage_synced : (synced v q).controlPage = v.controlPage := by
  unfold synced
  split <;> simp

@[simp] theorem running_synced : (synced v q).running = v.running := by
  unfold synced
  split <;> simp

theorem applPtr_synced :
    (synced v q).applPtr =
      if q.flags &&& SyncFlag.appl ≠ 0 then v.pull.applPtr else q.control.applPtr := by
  unfold synced
  split <;> simp

theorem pointersBelow_synced (hv : v.PointersBelow) (hq : q.control.applPtr.toNat < 2 ^ 63) :
    (synced v q).PointersBelow := by
  refine ⟨?_, fun p hp => hv.2 p (by rwa [controlPage_synced] at hp)⟩
  rw [applPtr_synced]
  split
  · exact hv.pull_applPtr
  · exact hq

end Synced

end VirtualM

theorem VirtualPcm.Serves.waited {v : VirtualPcm} (hv : v.Serves) (t : Int) :
    (VirtualM.waited v t).Serves := by
  have hb := hv.pull_bump .wait
  have hw : (VirtualM.waitFrom v t).Serves := ⟨hb.unfailing, hb.calm, hb.pointers⟩
  unfold VirtualM.waited
  split
  · exact hw.advance.push
  · exact hw

end SoundCard.Virtual
