import SoundCard.Proofs.MappedTransfer
import SoundCard.Virtual.Pcm
/-! Where the virtual device keeps the application pointer: where the ring looks exactly when the
ring is mapped if and only if the control record is long enough. -/
namespace SoundCard.Virtual

open SoundCard.Pcm SoundCard.Os

namespace VirtualPcm

variable {v w : VirtualPcm}

/-- Whether the device holds a control record long enough for the pointers. -/
def controlMapped (v : VirtualPcm) : Bool := (Page.fits? controlBytes v.controlPage).isSome

@[simp] theorem applPtr_bump (t : Tally) : (v.bump t).applPtr = v.applPtr := rfl

@[simp] theorem controlPage_bump (t : Tally) : (v.bump t).controlPage = v.controlPage := rfl

@[simp] theorem applPtr_advance : v.advance.applPtr = v.applPtr := by
  unfold advance
  split <;> rfl

@[simp] theorem controlPage_advance : v.advance.controlPage = v.controlPage := by
  unfold advance
  split <;> rfl

@[simp] theorem controlPage_pull : v.pull.controlPage = v.controlPage := by
  unfold pull
  split <;> rfl

@[simp] theorem applPtr_push : v.push.applPtr = v.applPtr := by
  unfold push
  dsimp only
  split <;> (try split_ifs) <;> (split <;> (try split_ifs) <;> rfl)

theorem pull_applPtr :
    v.pull.applPtr = ((Page.fits? controlBytes v.controlPage).map (·.applPtr)).getD v.applPtr := by
  unfold pull
  split <;> next h => simp [h]

theorem push_controlPage : v.push.controlPage = v.controlPage.map fun p =>
    if controlBytes ≤ p.len then { p with record := ⟨v.applPtr, v.availMin⟩ } else p := by
  unfold push
  split <;> (try split_ifs) <;> dsimp only <;> split <;> (try split_ifs) <;> simp_all

theorem fits_push : Page.fits? controlBytes v.push.controlPage =
    (Page.fits? controlBytes v.controlPage).map fun _ => ⟨v.applPtr, v.availMin⟩ := by
  rw [push_controlPage]
  rcases v.controlPage with _ | p
  · rfl
  · by_cases hp : controlBytes ≤ p.len <;> simp [Page.fits?, hp]

@[simp] theorem controlMapped_push : v.push.controlMapped = v.controlMapped := by
  unfold controlMapped
  rw [fits_push, Option.isSome_map]

theorem push_pull_applPtr : v.push.pull.applPtr = v.applPtr := by
  rw [pull_applPtr, fits_push, applPtr_push]
  cases Page.fits? controlBytes v.controlPage <;> rfl

theorem pull_applPtr_of (hc : w.controlPage = v.controlPage)
    (ha : w.applPtr = v.pull.applPtr) : w.pull.applPtr = v.pull.applPtr := by
  rw [pull_applPtr (v := w), hc, ha, pull_applPtr (v := v)]
  cases Page.fits? controlBytes v.controlPage <;> rfl

theorem pull_applPtr_of_mapped {p : Page ControlRecord} (hp : v.controlPage = some p)
    (hl : controlBytes ≤ p.len) : v.pull.applPtr = p.record.applPtr := by
  rw [pull_applPtr, hp]
  simp [Page.fits?, hl]

theorem controlMapped_iff :
    v.controlMapped = true ↔ ∃ p, v.controlPage = some p ∧ controlBytes ≤ p.len := by
  unfold controlMapped
  rcases v.controlPage with _ | p
  · simp [Page.fits?]
  · by_cases hl : controlBytes ≤ p.len <;> simp [Page.fits?, hl]

theorem pull_applPtr_of_unmapped (h : v.controlMapped = false) : v.pull.applPtr = v.applPtr := by
  unfold controlMapped at h
  rw [pull_applPtr]
  cases hf : Page.fits? controlBytes v.controlPage with
  | none => rfl
  | some c =>
    rw [hf] at h
    cases h

theorem setControl_of_page {p : Page ControlRecord} (c : ControlRecord)
    (hp : v.controlPage = some p) :
    driver.setControl c v = { v with controlPage := some { p with record := c } } := by
  simp only [driver, hp]

@[simp] theorem applPtr_beginRunning : v.beginRunning.applPtr = v.applPtr := by
  unfold beginRunning
  rw [applPtr_advance]

@[simp] theorem controlPage_beginRunning : v.beginRunning.controlPage = v.controlPage := by
  unfold beginRunning
  rw [controlPage_advance]

end VirtualPcm

namespace VirtualM

variable {β : Type} {v v' : VirtualPcm}

theorem returns_check_bind {f : FailPoint} {k : Unit → VirtualM β} {r : Except IoError β}
    (h : Returns (check f >>= k) v r v') :
    (∃ n, v.failures f = some n ∧ r = .error (.os n) ∧ v' = v) ∨ Returns (k ()) v r v' := by
  unfold check at h
  rw [bind_assoc, returns_get_bind] at h
  split at h
  · next n hn =>
    rw [returns_throw_bind] at h
    exact .inl ⟨n, hn, h⟩
  · rw [pure_bind] at h
    exact .inr h

theorem returns_enter_bind {t : Tally} {f : FailPoint} {k : Unit → VirtualM β} {a : β}
    (h : Returns (enter t f >>= k) v (.ok a) v') : Returns (k ()) ((v.pull.bump t)) (.ok a) v' := by
  unfold enter at h
  rw [bind_assoc, returns_modify_bind] at h
  rcases returns_check_bind h with ⟨n, -, hr, -⟩ | h
  · cases hr
  · exact h

/-- A synchronisation: with the pointer flag the stream gets the pointer `pull` took, and
otherwise the device takes the stream's; the control record stays. -/
theorem syncPtr_appl {q q' : SyncRecord} (h : Returns (syncPtr q) v (.ok q') v') :
    q'.control.applPtr =
        (if q.flags &&& SyncFlag.appl ≠ 0 then v.pull.applPtr else q.control.applPtr) ∧
      v'.applPtr = (if q.flags &&& SyncFlag.appl ≠ 0 then v.pull.applPtr else q.control.applPtr) ∧
      v'.controlPage = v.controlPage := by
  unfold syncPtr at h
  have h := returns_enter_bind h
  dsimp only at h
  split at h
  rcases returns_check_bind h with ⟨n, -, hr, -⟩ | h
  · cases hr
  rw [returns_get_bind] at h
  split at h
  · rcases returns_bind.1 h with ⟨e, he, -⟩ | ⟨a, w, hx, -⟩
    · cases he
    cases (returns_throw.1 hx).1
  rw [returns_modify_bind] at h
  all_goals
    rw [returns_get_bind, returns_set_bind] at h
    obtain ⟨hq, rfl⟩ := returns_pure.1 h
    cases hq
    simp

theorem prepare_appl (h : Returns prepare v (.ok ()) v') :
    v'.pull.applPtr = 0 ∧ v'.controlMapped = v.controlMapped := by
  unfold prepare at h
  obtain ⟨-, rfl⟩ := returns_modify.1 (returns_enter_bind h)
  exact ⟨VirtualPcm.push_pull_applPtr, by
    rw [VirtualPcm.controlMapped_push]
    simp [VirtualPcm.controlMapped]⟩

theorem start_appl (h : Returns start v (.ok ()) v') :
    v'.pull.applPtr = v.pull.applPtr ∧ v'.controlMapped = v.controlMapped := by
  unfold start at h
  have h := returns_enter_bind h
  rw [returns_get_bind] at h
  rcases returns_bind.1 (returns_join.1 h) with ⟨e, he, -⟩ | ⟨u, w, hc, h⟩
  · cases he
  split at hc
  · cases (returns_throw.1 hc).1
  obtain ⟨-, rfl⟩ := returns_pure.1 hc
  obtain ⟨-, rfl⟩ := returns_modify.1 h
  refine ⟨by rw [VirtualPcm.push_pull_applPtr, VirtualPcm.applPtr_beginRunning,
    VirtualPcm.applPtr_bump], ?_⟩
  rw [VirtualPcm.controlMapped_push]
  simp [VirtualPcm.controlMapped]

theorem wait_appl {t : Int} {b : Bool} (h : Returns (wait t) v (.ok b) v') :
    v'.pull.applPtr = v.pull.applPtr ∧ v'.controlMapped = v.controlMapped := by
  unfold wait at h
  rw [returns_modify_bind] at h
  rcases returns_check_bind h with ⟨n, -, hr, -⟩ | h
  · cases hr
  rw [returns_get_bind] at h
  rcases returns_bind.1 (returns_join.1 h) with ⟨e, he, -⟩ | ⟨u, w, hx, h⟩
  · cases he
  split at hx
  · cases (returns_throw.1 hx).1
  obtain ⟨-, rfl⟩ := returns_pure.1 hx
  split at h
  · obtain ⟨-, rfl⟩ := returns_pure.1 h
    exact ⟨VirtualPcm.pull_applPtr_of (by simp) rfl, by simp [VirtualPcm.controlMapped]⟩
  · rw [returns_set_bind] at h
    obtain ⟨-, rfl⟩ := returns_pure.1 h
    refine ⟨by rw [VirtualPcm.push_pull_applPtr, VirtualPcm.applPtr_advance]; rfl, ?_⟩
    rw [VirtualPcm.controlMapped_push]
    simp [VirtualPcm.controlMapped]

end VirtualM

open VirtualPcm in
/-- The virtual device keeps the pointer where a ring of kind `mapped` looks, when its control
record is long enough exactly if the ring is mapped. -/
def applHome (mapped : Bool) : ApplHome VirtualPcm.driver mapped where
  home v := v.controlMapped = mapped
  appl v := v.pull.applPtr
  fetch {_ _ d d'} hd hf h := by
    obtain ⟨hq, ha, hc⟩ := VirtualM.syncPtr_appl h
    rw [if_pos hf] at hq ha
    exact ⟨hq, pull_applPtr_of hc ha, by rw [← hd]; unfold controlMapped; rw [hc]⟩
  push {_ _ d d'} hm hd hf h := by
    obtain ⟨-, ha, hc⟩ := VirtualM.syncPtr_appl h
    rw [if_neg (by simpa using hf)] at ha
    have hd' : d'.controlMapped = mapped := by unfold controlMapped; rw [hc]; exact hd
    exact ⟨by rw [pull_applPtr_of_unmapped (hd'.trans hm), ha], hd'⟩
  control {d} hm hd := by
    obtain ⟨p, hp, hl⟩ := controlMapped_iff.1 (hd.trans hm)
    show ((d.controlPage.map Page.record).getD {}).applPtr = d.pull.applPtr
    rw [pull_applPtr_of_mapped hp hl, hp]
    rfl
  setControl {d} c hm hd := by
    obtain ⟨p, hp, hl⟩ := controlMapped_iff.1 (hd.trans hm)
    rw [setControl_of_page c hp]
    exact ⟨pull_applPtr_of_mapped (p := { p with record := c }) rfl hl, (controlMapped_iff.2 ⟨{ p with record := c }, rfl, hl⟩).trans hm.symm⟩
  prepare hd h := by
    obtain ⟨ha, hc⟩ := VirtualM.prepare_appl h
    exact ⟨ha, hc.trans hd⟩
  start hd h := by
    obtain ⟨ha, hc⟩ := VirtualM.start_appl h
    exact ⟨ha, hc.trans hd⟩
  wait hd h := by
    obtain ⟨ha, hc⟩ := VirtualM.wait_appl h
    exact ⟨ha, hc.trans hd⟩

open PcmStream in
/-- Over the virtual device keeping the pointer where the ring looks, a mapped write copies frame
`i` into slot `(A0 + i) % bs` and a mapped read fills it from there. -/
theorem mapped_transfers_place_frames {g : Ring} {area : ByteArray} (s : PcmStream VirtualPcm)
    (ha : s.attached = true) (hg : s.ring = some g) (hhome : s.driver.controlMapped = g.isMapped)
    (hd : s.data = some (.heap area)) (harea : area.size = s.bufferSize.toNat * s.frameBytes)
    (hB : 0 < s.boundary.toNat) (hdvd : s.bufferSize.toNat ∣ s.boundary.toNat) :
    let A0 := (applHome g.isMapped).origin s
    let fb := s.frameBytes
    let bs := s.bufferSize.toNat
    (∀ data n k s', Returns (mmapWrite VirtualPcm.driver data n) s (.ok k) s' →
      s'.underruns = s.underruns →
      k = n ∧ s'.data = some (.heap (placeFrames fb bs A0 data area n)) ∧
      (∀ j < area.size,
        (∀ i, IsGreatest {i | i < n ∧ (A0 + i) % bs = j / fb} i →
          (placeFrames fb bs A0 data area n)[j]! = data[i * fb + j % fb]!) ∧
        ((∀ i < n, (A0 + i) % bs ≠ j / fb) →
          (placeFrames fb bs A0 data area n)[j]! = area[j]!)) ∧
      (0 < n → s'.driver.pull.applPtr.toNat = (A0 + n) % s.boundary.toNat) ∧
      (n = 0 → s'.driver.pull.applPtr = s.driver.pull.applPtr ∨
        s.running = false ∧ s.prepared = false ∧ s'.driver.pull.applPtr = 0)) ∧
    (∀ data n r s', Returns (mmapRead VirtualPcm.driver data n) s (.ok r) s' →
      s'.underruns = s.underruns →
      r.2 = n ∧ s'.data = s.data ∧
      (∀ j < data.size,
        r.1[j]! = if j < n * fb then area[(A0 + j / fb) % bs * fb + j % fb]! else data[j]!) ∧
      (0 < n → s'.driver.pull.applPtr.toNat = (A0 + n) % s.boundary.toNat)) ∧
    (∀ t k run t', Homed (applHome g.isMapped) t →
      Returns (mmapBegin VirtualPcm.driver k) t (.ok run) t' →
      run.offset = t.driver.pull.applPtr.toNat % max t.bufferSize.toNat 1 ∧
      run.offset + run.frames ≤ max t.bufferSize.toNat 1 ∧ run.frames ≤ k ∧
      ∃ a t₁, Returns (availUpdate VirtualPcm.driver) t (.ok a) t₁ ∧ run.frames ≤ a.toNat) := by
  intro A0 fb bs
  have hs : Homed (applHome g.isMapped) s := ⟨ha, ⟨g, hg, rfl⟩, hhome⟩
  refine ⟨fun data n k s' h hu => ?_, fun data n r s' h hu => ?_, fun t k run t' ht h => ?_⟩
  · obtain ⟨hk, hlen, hd', happl, happl₀⟩ := mmapWrite_places hs hd harea hB hdvd h hu
    refine ⟨hk, hd', fun j hj => ?_, happl, happl₀⟩
    have hfb : 0 < s.frameBytes := Nat.pos_of_ne_zero fun h0 => by
      rw [h0, Nat.mul_zero] at harea
      omega
    exact placeFrames_slot hfb (Nat.pos_of_dvd_of_pos hdvd hB) harea.ge hlen hj
  · obtain ⟨hr, hlen, hd', happl, -⟩ := mmapRead_gathers hs hd harea hB hdvd h hu
    refine ⟨by rw [hr], hd', fun j hj => ?_, happl⟩
    rw [hr]
    exact getElem!_gatherFrames (Nat.pos_of_dvd_of_pos hdvd hB) harea.ge hlen hj
  · obtain ⟨-, -, -, hoff, hfit, hk, hfree⟩ := mmapBegin_ok ht h
    exact ⟨hoff, hfit, hk, hfree⟩

/-- A stream whose ring is kept in step by synchronisation, over a device without a control
record, satisfies the conditions above: its mapped writes place their frames. -/
theorem synced_write_places_frames :
    let s : PcmStream VirtualPcm :=
      { driver := {}, attached := true, ring := some (.synced {}),
        data := some (.heap (ByteArray.mk (Array.replicate 8 0))), flags := { mmap := true },
        config := {}, bufferSize := 2, boundary := 4 }
    s.driver.controlMapped = false ∧
      ∀ data n k s', Returns (PcmStream.mmapWrite VirtualPcm.driver data n) s (.ok k) s' →
        s'.underruns = s.underruns →
        k = n ∧ s'.data = some (.heap (placeFrames 4 2 0 data (ByteArray.mk (Array.replicate 8 0)) n)) :=
  ⟨rfl, fun data n k s' h hu =>
    let hw := (mapped_transfers_place_frames _ rfl rfl rfl rfl (by decide) (by decide)
      (by decide)).1 data n k s' h hu
    ⟨hw.1, hw.2.1⟩⟩

/-- A prepared stream with a synchronised ring over a device whose control record is long
enough for the pointers. -/
def lossyStream : PcmStream VirtualPcm :=
  { driver := { controlPage := some ⟨controlBytes, {}⟩, state := .prepared },
    attached := true, ring := some (.synced {}),
    data := some (.heap (ByteArray.mk (Array.replicate 8 0))), flags := { mmap := true },
    config := {}, prepared := true, bufferSize := 2, boundary := 4 }

/-- Writing one frame to `lossyStream` returns with no xrun, but the device's pointer stays 0. -/
theorem synced_write_loses_pointer :
    ∃ s', Returns (PcmStream.mmapWrite VirtualPcm.driver (ByteArray.mk #[1, 2, 3, 4]) 1)
        lossyStream (.ok 1) s' ∧ s'.underruns = lossyStream.underruns ∧
      s'.driver.pull.applPtr.toNat ≠
        ((applHome false).origin lossyStream + 1) % lossyStream.boundary.toNat := by
  obtain ⟨k, s', h, hp⟩ := returns_of_outcome
    (m := PcmStream.mmapWrite VirtualPcm.driver (ByteArray.mk #[1, 2, 3, 4]) 1) (s := lossyStream)
    (p := fun k s' =>
      k == 1 && s'.underruns == 0 && s'.driver.pull.applPtr == 0) (by decide +kernel)
  simp only [Bool.and_eq_true, beq_iff_eq] at hp
  obtain ⟨⟨rfl, hu⟩, happl⟩ := hp
  refine ⟨s', h, hu, ?_⟩
  rw [happl]
  decide

end SoundCard.Virtual
