import Mathlib
import SoundCard.Proofs.Negotiation
import SoundCard.Proofs.VirtualPointer
/-! Opening a stream over a virtual device that is not steered (`Plain`), where every request
answers. -/
namespace SoundCard.Virtual

open SoundCard.Pcm SoundCard.Hw SoundCard.Os

/-- How a virtual device is steered: the parts of it that opening a stream reads. -/
structure Steering where
  failures : FailPoint → Option Int
  bare : Bool
  boundaryOverride : Option UInt64
  mappableData : Bool
  statusLen : Option Nat
  controlLen : Option Nat
  dataLen : Option Nat

/-- No steering at all. -/
def Steering.none : Steering := ⟨fun _ => .none, false, .none, true, .none, .none, .none⟩

namespace VirtualPcm

variable {v w : VirtualPcm}

def steering (v : VirtualPcm) : Steering :=
  ⟨v.failures, v.bare, v.boundaryOverride, v.mappableData, v.statusLen, v.controlLen,
    v.dataLen⟩

/-- A device that is not steered: no request fails, linking and mapping are offered, the
asked boundary is kept, the data area maps, and every mapping gets the asked length. -/
def Plain (v : VirtualPcm) : Prop := v.steering = Steering.none

/-- What opening a stream reads of the device besides the pointers: its steering, the
constraints it answers from, and the buffer and frame sizes it installed. -/
def kept (v : VirtualPcm) : Steering × Constraints × UInt64 × Nat :=
  (v.steering, v.constraints, v.bufferSize, v.frameBytes)

@[simp] theorem kept_bump (t : Tally) : (v.bump t).kept = v.kept := rfl

@[simp] theorem kept_pull : v.pull.kept = v.kept := by
  unfold pull
  split <;> rfl

@[simp] theorem kept_push : v.push.kept = v.kept := by
  unfold push
  dsimp only
  split <;> (try split_ifs) <;> (split <;> (try split_ifs) <;> rfl)

theorem Plain.of_steering (hv : v.Plain) (h : w.steering = v.steering) : w.Plain :=
  h.trans hv

theorem Plain.of_kept (hv : v.Plain) (h : w.kept = v.kept) : w.Plain :=
  hv.of_steering (congrArg Prod.fst h)

theorem Plain.failures (hv : v.Plain) (f : FailPoint) : v.failures f = none :=
  congrFun (congrArg Steering.failures hv) f

theorem Plain.bare (hv : v.Plain) : v.bare = false := congrArg Steering.bare hv

theorem Plain.boundaryOverride (hv : v.Plain) : v.boundaryOverride = none :=
  congrArg Steering.boundaryOverride hv

theorem Plain.mappableData (hv : v.Plain) : v.mappableData = true :=
  congrArg Steering.mappableData hv

theorem Plain.statusLen (hv : v.Plain) : v.statusLen = none := congrArg Steering.statusLen hv

theorem Plain.controlLen (hv : v.Plain) : v.controlLen = none := congrArg Steering.controlLen hv

theorem Plain.dataLen (hv : v.Plain) : v.dataLen = none := congrArg Steering.dataLen hv

@[simp] theorem kept_pointers (a m : UInt64) :
    ({ v with applPtr := a, availMin := m } : VirtualPcm).kept = v.kept := rfl

@[simp] theorem kept_pages (sp : Option (Page StatusRecord)) (cp : Option (Page ControlRecord)) :
    ({ v with statusPage := sp, controlPage := cp } : VirtualPcm).kept = v.kept := rfl

theorem kept_setControl (c : ControlRecord) : (VirtualPcm.driver.setControl c v).kept = v.kept := by
  simp only [VirtualPcm.driver]
  split <;> rfl

theorem Plain.mapLength (hv : v.Plain) (off : UInt64) (len : Nat) : v.mapLength off len = len := by
  unfold VirtualPcm.mapLength
  simp [hv.statusLen, hv.controlLen, hv.dataLen]

theorem regionFor_of_lt (off : UInt64) {len : Nat} (h : len + 7 < 2 ^ 63) :
    ∃ g, v.regionFor off len = .ok g := by
  unfold regionFor
  rw [Region.heapOf_of_lt h]
  dsimp only [bind, Except.bind]
  split <;> exact ⟨_, rfl⟩

theorem regionFor_of_le (off : UInt64) {len : Nat} (h : 2 ^ 63 ≤ len + 7) :
    v.regionFor off len = .error .capacityOverflow := by
  unfold regionFor
  rw [Region.heapOf_of_le h]
  rfl

@[simp] theorem kept_install (b : UInt64) (n : Nat) (st : PcmState) :
    ({ v with bufferSize := b, frameBytes := n, state := st } : VirtualPcm).kept =
      (v.steering, v.constraints, b, n) := rfl

@[simp] theorem kept_software (sw : Option SwParams) (m : UInt64) :
    ({ v with sw := sw, availMin := m } : VirtualPcm).kept = v.kept := rfl

@[simp] theorem kept_tstampType (t : Option Int) :
    ({ v with tstampType := t } : VirtualPcm).kept = v.kept := rfl

@[simp] theorem steering_pull : v.pull.steering = v.steering :=
  congrArg Prod.fst (kept_pull (v := v))

@[simp] theorem steering_bump (t : Tally) : (v.bump t).steering = v.steering := rfl

@[simp] theorem constraints_pull : v.pull.constraints = v.constraints :=
  congrArg (·.2.1) (kept_pull (v := v))

@[simp] theorem constraints_bump (t : Tally) : (v.bump t).constraints = v.constraints := rfl

end VirtualPcm

namespace VirtualM

variable {β : Type} {v v' : VirtualPcm}

theorem plain_pull_bump (hv : v.Plain) (t : Tally) : (v.pull.bump t).Plain :=
  hv.of_kept (by simp)

theorem returns_check_bind_of_plain (hv : v.Plain) {f : FailPoint} {k : Unit → VirtualM β}
    {r : Except IoError β} (hk : Returns (k ()) v r v') : Returns (check f >>= k) v r v' := by
  unfold check
  rw [bind_assoc, returns_get_bind, hv.failures f]
  simpa using hk

theorem returns_enter_bind_of_plain (hv : v.Plain) {t : Tally} {f : FailPoint}
    {k : Unit → VirtualM β} {r : Except IoError β} (hk : Returns (k ()) (v.pull.bump t) r v') :
    Returns (enter t f >>= k) v r v' := by
  unfold enter
  rw [bind_assoc, returns_modify_bind]
  exact returns_check_bind_of_plain (plain_pull_bump hv t) hk

theorem returns_info (hv : v.Plain) : ∃ i, Returns info v (.ok i) (v.pull.bump .info) := by
  unfold info
  exact ⟨_, returns_enter_bind_of_plain hv (returns_get_bind.2 (returns_pure.2 ⟨rfl, rfl⟩))⟩

theorem returns_install_chosen (hv : v.Plain) {p q : HwParams}
    (hq : v.constraints.choose p = ⟨q, true⟩) :
    ∃ v', Returns (install p) v (.ok q) v' ∧
      v'.kept = (v.steering, v.constraints, (q.min .bufferSize).toUInt64,
        (q.min .frameBits).toNat / 8) := by
  unfold install
  exact ⟨_, returns_enter_bind_of_plain hv (by
    rw [returns_get_bind, VirtualPcm.constraints_bump, VirtualPcm.constraints_pull]
    dsimp only
    rw [hq, if_neg (by simp), returns_modify_bind, returns_pure]
    exact ⟨rfl, rfl⟩), by
    rw [VirtualPcm.kept_install]
    simp only [VirtualPcm.steering_bump, VirtualPcm.steering_pull, VirtualPcm.constraints_bump,
      VirtualPcm.constraints_pull]⟩

theorem returns_install_refused (hv : v.Plain) {p : HwParams}
    (ha : (v.constraints.choose p).admitted = false) :
    Returns (install p) v (.error (.os Errno.invalid)) (v.pull.bump .install) := by
  unfold install
  refine returns_enter_bind_of_plain hv ?_
  rw [returns_get_bind, VirtualPcm.constraints_bump, VirtualPcm.constraints_pull]
  dsimp only
  rw [ha, if_pos (by decide)]
  exact returns_bind.2 (.inl ⟨_, rfl, returns_throw.2 ⟨rfl, rfl⟩⟩)

theorem returns_refine (hv : v.Plain) (p : HwParams) :
    ∃ o, Returns (refine p) v o (v.pull.bump .refine) := by
  unfold refine
  by_cases ha : (v.constraints.refine p).admitted = true
  · exact ⟨_, returns_enter_bind_of_plain hv (by
      rw [returns_get_bind, VirtualPcm.constraints_bump, VirtualPcm.constraints_pull]
      dsimp only
      rw [if_pos ha]
      exact returns_pure.2 ⟨rfl, rfl⟩)⟩
  · exact ⟨_, returns_enter_bind_of_plain hv (by
      rw [returns_get_bind, VirtualPcm.constraints_bump, VirtualPcm.constraints_pull]
      dsimp only
      rw [if_neg ha]
      exact returns_throw.2 ⟨rfl, rfl⟩)⟩

theorem returns_software (hv : v.Plain) (sw : SwParams) :
    ∃ v', Returns (software sw) v (.ok sw) v' ∧ v'.kept = v.kept := by
  unfold software
  exact ⟨_, returns_enter_bind_of_plain hv (by
    rw [returns_get_bind]
    dsimp only
    rw [returns_set_bind, returns_pure]
    exact ⟨by rw [(plain_pull_bump hv .software).boundaryOverride], rfl⟩), by
    rw [VirtualPcm.kept_software, VirtualPcm.kept_bump, VirtualPcm.kept_pull]⟩

theorem returns_setTstampType (hv : v.Plain) (t : Int) :
    ∃ v', Returns (setTstampType t) v (.ok ()) v' ∧ v'.kept = v.kept :=
  ⟨_, returns_enter_bind_of_plain hv (returns_modify.2 ⟨rfl, rfl⟩), by
    rw [VirtualPcm.kept_tstampType, VirtualPcm.kept_bump, VirtualPcm.kept_pull]⟩

theorem returns_syncPtr (hv : v.Plain) {q : SyncRecord} (hq : q.flags &&& SyncFlag.hwsync = 0) :
    ∃ q' v', Returns (syncPtr q) v (.ok q') v' ∧ v'.kept = v.kept := by
  unfold syncPtr
  exact ⟨_, _, returns_enter_bind_of_plain hv (by
    dsimp only
    rw [if_neg (not_not.2 hq), returns_get_bind, returns_set_bind, returns_pure]
    exact ⟨rfl, rfl⟩), by rw [VirtualPcm.kept_pointers, VirtualPcm.kept_bump, VirtualPcm.kept_pull]⟩

/-- A mapping that fits memory answers on a device that is not steered, and one of the data
area succeeds. -/
theorem returns_map_of_lt (hv : v.Plain) (off : UInt64) {len : Nat} (w : Bool)
    (hlen : len + 7 < 2 ^ 63) :
    ∃ o v', Returns (map off len w) v o v' ∧ v'.kept = v.kept ∧
      (off = MapOffset.data → ∃ g, o = .ok g) := by
  have hp := plain_pull_bump hv .map
  obtain ⟨g, hg⟩ := (v.pull.bump .map).regionFor_of_lt off hlen
  unfold map
  simp only [returns_get_bind, hv.bare, Bool.false_eq_true, ↓reduceIte, returns_modify_bind,
    hp.mapLength, returns_bind_of_returns (returns_lift.2 ⟨g, hg, rfl, rfl⟩)]
  split_ifs with hs hc hd
  any_goals exact ⟨_, _,
    returns_check_bind_of_plain hp (returns_set_bind.2 (returns_pure.2 ⟨rfl, rfl⟩)),
    by simp only [VirtualPcm.kept_push, VirtualPcm.kept_pages, VirtualPcm.kept_bump,
      VirtualPcm.kept_pull], fun _ => ⟨g, rfl⟩⟩
  exact ⟨_, _, returns_throw.2 ⟨rfl, rfl⟩,
    by simp only [VirtualPcm.kept_bump, VirtualPcm.kept_pull],
    fun h => absurd ⟨h, hp.mappableData⟩ hd⟩

theorem run_map_of_le (hv : v.Plain) (off : UInt64) {len : Nat} (w : Bool)
    (hlen : 2 ^ 63 ≤ len + 7) :
    (ExceptT.run (map off len w)).run v = .error .capacityOverflow := by
  unfold map
  rw [run_bind_of_returns (returns_get.2 ⟨rfl, rfl⟩)]
  dsimp only
  rw [hv.bare, if_neg Bool.false_ne_true, run_bind_of_returns (returns_modify.2 ⟨rfl, rfl⟩),
    run_bind_of_returns (returns_get.2 ⟨rfl, rfl⟩), (plain_pull_bump hv .map).mapLength,
    VirtualPcm.regionFor_of_le _ hlen]
  exact run_lift_error_bind

/-- Mapping the status and control records answers, in one way or the other. -/
theorem returns_mapPages (hv : v.Plain) :
    ∃ o v', Returns (Ring.mapPages VirtualPcm.driver) v o v' ∧ v'.kept = v.kept := by
  have hpage : pageSize + 7 < 2 ^ 63 := by decide
  obtain ⟨o₁, v₁, h₁, k₁, -⟩ := returns_map_of_lt hv MapOffset.status false hpage
  unfold Ring.mapPages
  rcases o₁ with e | g₁
  · exact ⟨_, _, returns_bind.2 (.inl ⟨e, rfl, h₁⟩), k₁⟩
  obtain ⟨o₂, v₂, h₂, k₂, -⟩ := returns_map_of_lt (hv.of_kept k₁) MapOffset.control true hpage
  rcases o₂ with e | g₂
  · exact ⟨_, _, (returns_bind_of_returns h₁).2 (returns_bind.2 (.inl ⟨e, rfl, h₂⟩)), k₂.trans k₁⟩
  by_cases hfit : (g₁.holds statusBytes && g₂.holds controlBytes) = true
  · exact ⟨_, v₂, (returns_bind_of_returns h₁).2 ((returns_bind_of_returns h₂).2 (by
      rw [if_pos hfit]
      exact returns_pure.2 ⟨rfl, rfl⟩)), k₂.trans k₁⟩
  · exact ⟨_, v₂, (returns_bind_of_returns h₁).2 ((returns_bind_of_returns h₂).2 (by
      rw [if_neg hfit]
      exact returns_throw.2 ⟨rfl, rfl⟩)), k₂.trans k₁⟩

/-- Setting up the ring answers: the mapped records when they map, a synchronised copy
otherwise. -/
theorem returns_establish (hv : v.Plain) (syncOnly : Bool) (availMin : UInt64) :
    ∃ g v', Returns (Ring.establish VirtualPcm.driver syncOnly availMin) v (.ok g) v' ∧
      v'.kept = v.kept := by
  have hsync : ∀ v₁ : VirtualPcm, v₁.kept = v.kept → ∃ g v', Returns
      (Ring.sync VirtualPcm.driver 0 (.synced { control := { availMin := availMin } })) v₁
      (.ok g) v' ∧ v'.kept = v.kept := by
    intro v₁ k₁
    obtain ⟨q, v₂, h₂, k₂⟩ := returns_syncPtr (hv.of_kept k₁)
      (q := { control := { availMin := availMin }, flags := 0 }) (by simp)
    exact ⟨_, v₂, (returns_bind_of_returns h₂).2 (returns_pure.2 ⟨rfl, rfl⟩), k₂.trans k₁⟩
  unfold Ring.establish
  cases syncOnly
  · simp only [Bool.false_eq_true, ↓reduceIte]
    obtain ⟨b, v₁, h₁, k₁⟩ : ∃ b v₁, Returns (tryCatch (Ring.mapPages VirtualPcm.driver >>=
        fun _ => pure true) fun _ => pure false : VirtualM Bool) v (.ok b) v₁ ∧
        v₁.kept = v.kept := by
      obtain ⟨o, v₁, h, k⟩ := returns_mapPages hv
      rcases o with e | ⟨⟩
      · exact ⟨false, v₁, returns_tryCatch.2 (.inr ⟨e, v₁, returns_bind.2 (.inl ⟨e, rfl, h⟩),
          returns_pure.2 ⟨rfl, rfl⟩⟩), k⟩
      · exact ⟨true, v₁, returns_tryCatch.2 (.inl ⟨true, rfl,
          (returns_bind_of_returns h).2 (returns_pure.2 ⟨rfl, rfl⟩)⟩), k⟩
    cases b
    · obtain ⟨g, v', h', k'⟩ := hsync v₁ k₁
      exact ⟨g, v', (returns_bind_of_returns h₁).2 h', k'⟩
    · exact ⟨_, _, (returns_bind_of_returns h₁).2 returns_modifyGet,
        (VirtualPcm.kept_setControl _).trans k₁⟩
  · simp only [↓reduceIte, pure_bind, Bool.false_eq_true]
    exact hsync v rfl

end VirtualM

/-! ## Negotiating with a device that is not steered -/

section Negotiation

open VirtualM

variable {v : VirtualPcm} (syncOnly : Bool) {f : OpenFlags} {r : StreamConfig} {q : HwParams}

/-- A valid request whose choice is admitted negotiates up to its tail. -/
theorem negotiate_reaches_tail (hv : v.Plain) (hr : r.problem? = none)
    (hq : v.constraints.choose (HwParams.ofConfig r f) = ⟨q, true⟩) :
    ∃ info sw ring v',
      (ExceptT.run (negotiate VirtualPcm.driver syncOnly f r)).run v =
        (ExceptT.run (negotiateTail VirtualPcm.driver f info (r.settle q)
          (computeBoundary (r.settle q).bufferSize) sw ring)).run v' ∧
      sw.boundary = UInt64.ofNat (computeBoundary (r.settle q).bufferSize) ∧
      v'.kept = (v.steering, v.constraints, (q.min .bufferSize).toUInt64,
        (q.min .frameBits).toNat / 8) := by
  obtain ⟨ps, hs⟩ : ∃ ps, q.Settles r ps := by
    have := Hw.Constraints.choose_ofConfig_settles
      (show (v.constraints.choose (HwParams.ofConfig r f)).admitted = true by rw [hq])
    rw [hq] at this
    exact ⟨_, this⟩
  have hbs : (r.settle q).bufferSize < 2 ^ 63 := by
    rw [hs.settle]
    exact StreamConfig.bufferSize_lt_of_valid hr _
  obtain ⟨info, hi⟩ := returns_info hv
  have k₁ : (v.pull.bump .info).kept = v.kept := by
    rw [VirtualPcm.kept_bump, VirtualPcm.kept_pull]
  have hc₁ : (v.pull.bump .info).constraints = v.constraints := by
    rw [VirtualPcm.constraints_bump, VirtualPcm.constraints_pull]
  obtain ⟨v₂, hins, k₂⟩ := returns_install_chosen (hv.of_kept k₁) (hc₁ ▸ hq)
  have hp₂ : v₂.Plain := (hv.of_kept k₁).of_steering (congrArg Prod.fst k₂)
  obtain ⟨v₃, hsw, k₃⟩ := returns_software hp₂
    ((r.settle q).softwareParams (computeBoundary (r.settle q).bufferSize))
  obtain ⟨ring, v₄, hring, k₄⟩ := returns_establish (hp₂.of_kept k₃) syncOnly
    ((r.settle q).softwareParams (computeBoundary (r.settle q).bufferSize)).availMin
  refine ⟨info, _, ring, v₄, run_negotiate hr hi hins (boundaryOf_of_lt hbs) hsw hring, rfl, ?_⟩
  rw [k₄, k₃, k₂, hc₁, VirtualPcm.steering_bump, VirtualPcm.steering_pull]

/-- A valid request whose choice is admitted negotiates when the data area of an mmap stream fits
memory, and the device keeps the choice's buffer and frame sizes. -/
theorem returns_negotiate_chosen (hv : v.Plain) (hr : r.problem? = none)
    (hq : v.constraints.choose (HwParams.ofConfig r f) = ⟨q, true⟩)
    (hfit : f.mmap = true → (r.settle q).bufferSize * (r.settle q).frameBytes + 7 < 2 ^ 63) :
    ∃ n v', Returns (negotiate VirtualPcm.driver syncOnly f r) v (.ok n) v' ∧
      n.config = r.settle q ∧ n.bufferSize = UInt64.ofNat (r.settle q).bufferSize ∧
      n.boundary = UInt64.ofNat (computeBoundary (r.settle q).bufferSize) ∧
      v'.kept = (v.steering, v.constraints, (q.min .bufferSize).toUInt64,
        (q.min .frameBits).toNat / 8) := by
  obtain ⟨info, sw, ring, v₄, hrun, hb, k₄⟩ :=
    negotiate_reaches_tail syncOnly hv hr hq
  have hp₄ : v₄.Plain := hv.of_steering (congrArg Prod.fst k₄)
  obtain ⟨data, v₅, hd, k₅⟩ : ∃ data v₅, ((f.mmap = true ∧ ∃ len g, data = some g ∧
      mulWord (r.settle q).bufferSize (r.settle q).frameBytes = .ok len ∧
      Returns (VirtualPcm.driver.map MapOffset.data len true) v₄ (.ok g) v₅) ∨
      (f.mmap = false ∧ data = none ∧ v₅ = v₄)) ∧ v₅.kept = v₄.kept := by
    cases hmm : f.mmap
    · exact ⟨none, v₄, .inr ⟨rfl, rfl, rfl⟩, rfl⟩
    · have hlen := hfit hmm
      obtain ⟨o, v₅, h₅, k₅, hok⟩ := returns_map_of_lt hp₄ MapOffset.data true hlen
      obtain ⟨g, rfl⟩ := hok rfl
      exact ⟨some g, v₅, .inl ⟨rfl, _, g, rfl, mulWord_of_lt (by omega), h₅⟩, k₅⟩
  obtain ⟨v₆, hm, k₆⟩ : ∃ v₆, ((f.monotonic = true ∧
      Returns (VirtualPcm.driver.setTstampType monotonicClock) v₅ (.ok ()) v₆) ∨
      (f.monotonic = false ∧ v₆ = v₅)) ∧ v₆.kept = v₅.kept := by
    cases f.monotonic
    · exact ⟨v₅, .inr ⟨rfl, rfl⟩, rfl⟩
    · obtain ⟨v₆, h₆, k₆⟩ := returns_setTstampType (hp₄.of_kept k₅) monotonicClock
      exact ⟨v₆, .inl ⟨rfl, h₆⟩, k₆⟩
  have htail : Returns (negotiateTail VirtualPcm.driver f info (r.settle q)
      (computeBoundary (r.settle q).bufferSize) sw ring) v₄ _ v₆ := returns_negotiateTail hd hm
  have hret := hrun.trans htail
  refine ⟨_, v₆, hret, rfl, rfl, ?_, by rw [k₆, k₅, k₄]⟩
  simp only [hb, ite_self]

theorem run_negotiate_of_le (hv : v.Plain) (hr : r.problem? = none)
    (hq : v.constraints.choose (HwParams.ofConfig r f) = ⟨q, true⟩) (hmm : f.mmap = true)
    (hbig : 2 ^ 63 ≤ (r.settle q).bufferSize * (r.settle q).frameBytes + 7) :
    ∃ t, (ExceptT.run (negotiate VirtualPcm.driver syncOnly f r)).run v = .error t := by
  obtain ⟨info, sw, ring, v₄, hrun, -, k₄⟩ := negotiate_reaches_tail syncOnly hv hr hq
  rw [hrun]
  by_cases hw : (r.settle q).bufferSize * (r.settle q).frameBytes < 2 ^ 64
  · exact ⟨_, run_negotiateTail_trap hmm (.inr ⟨_, mulWord_of_lt hw,
      run_map_of_le (hv.of_steering (congrArg Prod.fst k₄)) _ true hbig⟩)⟩
  · exact ⟨_, run_negotiateTail_trap hmm (.inl (mulWord_of_le (by omega)))⟩

theorem returns_negotiate_unsettled (hv : v.Plain)
    (h : r.problem? ≠ none ∨ (v.constraints.choose (HwParams.ofConfig r f)).admitted = false) :
    ∃ e v', Returns (negotiate VirtualPcm.driver syncOnly f r) v (.error e) v' := by
  cases hr : r.problem? with
  | some p => exact ⟨_, _, returns_negotiate_invalid hr⟩
  | none =>
    have ha := h.resolve_left (by simp [hr])
    obtain ⟨info, hi⟩ := returns_info hv
    have hp₁ := plain_pull_bump hv .info
    have hins := returns_install_refused hp₁ (p := HwParams.ofConfig r f) (by
      rw [VirtualPcm.constraints_bump, VirtualPcm.constraints_pull]
      exact ha)
    obtain ⟨o, hl⟩ := returns_refine (plain_pull_bump hp₁ .install) HwParams.any
    exact ⟨_, _, returns_negotiate_refused hr hi hins hl⟩

end Negotiation

/-- Opening a stream over a device that is not steered: not ready when the request fails, else
ready with the least period size refined, its buffer and boundary, and the device's 32-bit products. -/
theorem open_settles_device_choice (v : VirtualPcm) (hv : v.Plain) (syncOnly : Bool)
    (f : OpenFlags) (r : StreamConfig) :
    let choice := v.constraints.choose (HwParams.ofConfig r f)
    let ps := (v.constraints.refine (HwParams.ofConfig r f)).params.min .periodSize
    let cfg : StreamConfig := { r with periodSize := ps }
    ((r.problem? ≠ none ∨ choice.admitted = false) →
      ∃ s, PcmStream.openWith VirtualPcm.driver syncOnly v f r = .ok s ∧ s.isReady = false ∧
        s.config = r) ∧
    (r.problem? = none → choice.admitted = true →
      choice.params.single? .periodSize = some ps ∧ r.periodSize ≤ ps ∧
      (f.mmap = true → 2 ^ 63 ≤ cfg.bufferSize * cfg.frameBytes + 7 →
        ∃ t, PcmStream.openWith VirtualPcm.driver syncOnly v f r = .error t) ∧
      ((f.mmap = true → cfg.bufferSize * cfg.frameBytes + 7 < 2 ^ 63) →
        ∃ s, PcmStream.openWith VirtualPcm.driver syncOnly v f r = .ok s ∧ s.isReady = true ∧
          s.config = cfg ∧ s.bufferSize.toNat = ps.toNat * r.periodCount.toNat ∧
          0 < s.bufferSize.toNat ∧ s.boundary.toNat = computeBoundary s.bufferSize.toNat ∧
          0 < s.boundary.toNat ∧ s.bufferSize.toNat ∣ s.boundary.toNat ∧
          s.driver.bufferSize.toNat = min s.bufferSize.toNat 4294967295 ∧
          s.driver.frameBytes = min (8 * s.frameBytes) 4294967295 / 8)) := by
  intro choice ps cfg
  refine ⟨fun h => ?_, fun hr ha => ?_⟩
  · obtain ⟨e, v', hneg⟩ := returns_negotiate_unsettled syncOnly hv h
    exact ⟨_, PcmStream.openWith_of_returns_error hneg, rfl, rfl⟩
  have hq : v.constraints.choose (HwParams.ofConfig r f) = ⟨choice.params, true⟩ :=
    Applied.eq_mk rfl ha
  have hs : choice.params.Settles r ps := Constraints.choose_ofConfig_settles ha
  have hcfg : r.settle choice.params = cfg := hs.settle
  refine ⟨hs.periodSize, hs.periodSize_ge, fun hmm hbig => ?_, fun hfit => ?_⟩
  · obtain ⟨t, ht⟩ := run_negotiate_of_le syncOnly hv hr hq hmm (by rwa [hcfg])
    exact ⟨t, PcmStream.openWith_of_trap ht⟩
  obtain ⟨n, v', hneg, hconf, hbuf, hbound, hkept⟩ :=
    returns_negotiate_chosen syncOnly hv hr hq (by rwa [hcfg])
  rw [hcfg] at hconf hbuf hbound
  have hbs : cfg.bufferSize < 2 ^ 63 := StreamConfig.bufferSize_lt_of_valid hr ps
  have hbuf' : n.bufferSize.toNat = cfg.bufferSize := by
    rw [hbuf, UInt64.toNat_ofNat']
    omega
  have hpos : 0 < cfg.bufferSize := by
    obtain ⟨-, -, -, hpc, -⟩ := (StreamConfig.problem?_eq_none_iff r).1 hr
    exact Nat.mul_pos (toNat_pos_of_ne_zero hs.periodSize_ne) (toNat_pos_of_ne_zero hpc)
  obtain ⟨hdvd, hle, -⟩ := computeBoundary_spec hpos
  refine ⟨_, PcmStream.openWith_of_returns_ok hneg, rfl, hconf, hbuf', hbuf' ▸ hpos,
    ?_, ?_, ?_, ?_, ?_⟩
  · rw [hbound, hbuf', ofNat_computeBoundary hbs]
  · rw [hbound, ofNat_computeBoundary hbs]
    omega
  · rw [hbound, hbuf', ofNat_computeBoundary hbs]
    exact hdvd
  · have hdb : v'.bufferSize = (choice.params.min .bufferSize).toUInt64 := congrArg (·.2.2.1) hkept
    show v'.bufferSize.toNat = min n.bufferSize.toNat _
    rw [hdb, hbuf', UInt32.toNat_toUInt64]
    exact hs.bufferSize_toNat
  · have hdf : v'.frameBytes = (choice.params.min .frameBits).toNat / 8 :=
      congrArg (·.2.2.2) hkept
    show v'.frameBytes = min (8 * n.config.frameBytes) _ / 8
    rw [hdf, hs.frameBits_toNat, hconf]
    rfl

/-- The default stream opens ready on the default device, with four periods of 1024 frames. -/
theorem default_stream_opens_ready :
    ({} : VirtualPcm).Plain ∧ ∃ s, PcmStream.openWith VirtualPcm.driver false {} {} {} = .ok s ∧
      s.isReady = true ∧ s.bufferSize.toNat = 4096 := by
  obtain ⟨s, hs, hready, -, hbuf, -⟩ :=
    ((open_settles_device_choice {} rfl false {} {}).2 (by decide) (by decide)).2.2.2
      (fun h => absurd h (by decide))
  exact ⟨rfl, s, hs, hready, by rw [hbuf]; decide⟩

/-- A device whose periods hold 2 GiB to 4 GiB, with the default ranges otherwise. -/
def hugePeriodDevice : VirtualPcm :=
  { constraints := { defaultConstraints with periodBytes := ⟨2147483648, 4294967295⟩ } }

/-- Sixteen periods of 2^29 frames: the stream's buffer holds 2^33 frames, the device's 2^32 - 1. -/
theorem huge_periods_outgrow_device_buffer :
    ∃ s, PcmStream.openWith VirtualPcm.driver false hugePeriodDevice {} { periodCount := 16 } =
        .ok s ∧
      s.isReady = true ∧ s.bufferSize.toNat = 8589934592 ∧
        s.driver.bufferSize.toNat = 4294967295 := by
  have hq : hugePeriodDevice.constraints.choose (HwParams.ofConfig { periodCount := 16 } {}) =
      ⟨(hugePeriodDevice.constraints.choose (HwParams.ofConfig { periodCount := 16 } {})).params,
        true⟩ := by
    decide
  obtain ⟨n, v', hneg, -, hbuf, -, hkept⟩ := returns_negotiate_chosen false
    (v := hugePeriodDevice) rfl (by decide) hq (fun h => absurd h (by decide))
  refine ⟨_, PcmStream.openWith_of_returns_ok hneg, rfl, ?_, ?_⟩
  · show n.bufferSize.toNat = _
    rw [hbuf]
    decide
  · show v'.bufferSize.toNat = _
    rw [show v'.bufferSize = _ from congrArg (·.2.2.1) hkept]
    decide

end SoundCard.Virtual
