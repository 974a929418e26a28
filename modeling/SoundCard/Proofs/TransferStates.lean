import Mathlib
import SoundCard.Proofs.FlagSoundness
import SoundCard.Proofs.StreamOpening
/-! The state the transfers find: every operation, renegotiation and queued xrun keeps a stream's
flags sound over an unfailing device. -/
namespace SoundCard.Virtual

open SoundCard.Pcm SoundCard.Os SoundCard.Hw PcmStream

/-! ## The mapped path -/

section Mapped

variable {σ α : Type} {fl : OpenFlags} {s : PcmStream VirtualPcm}

/-- The handle's two flags, as an operation that neither prepares, starts nor stops the
handle keeps them. -/
def FlagsKept (s s' : PcmStream σ) : Prop := s'.prepared = s.prepared ∧ s'.running = s.running

instance : Std.Refl (FlagsKept (σ := σ)) := ⟨fun _ => ⟨rfl, rfl⟩⟩

instance : IsTrans (PcmStream σ) FlagsKept :=
  ⟨fun _ _ _ h₁ h₂ => ⟨h₂.1.trans h₁.1, h₂.2.trans h₁.2⟩⟩

theorem flagsKept_parts : Moves FlagsKept (parts : StreamM σ Ring) := by
  intro s r s' h
  rw [(returns_parts h).1]
  exact ⟨rfl, rfl⟩

theorem flagsKept_fail (e : StreamError) : Moves FlagsKept (fail e : StreamM σ α) := by
  intro s r s' h
  rw [(returns_fail.1 h).2]
  exact ⟨rfl, rfl⟩

theorem flagsKept_readRing (f : σ → Ring → α) : Moves FlagsKept (readRing f) := by
  unfold readRing
  refine moves_bind flagsKept_parts fun _ => moves_get_bind fun s r s' h => ?_
  rw [(returns_pure.1 h).2]
  exact ⟨rfl, rfl⟩

theorem flagsKept_syncRing (D : PcmDevice σ) (flags : UInt32) :
    Moves FlagsKept (syncRing D flags) := by
  unfold syncRing
  refine moves_bind flagsKept_parts fun _ => moves_bind (fun s r s' h => ?_) fun o => ?_
  · obtain ⟨o, d, -, -, rfl⟩ := returns_ask.1 h
    exact ⟨rfl, rfl⟩
  · rcases o with e | g
    · exact moves_pure _
    · exact moves_bind (moves_modify fun _ => ⟨rfl, rfl⟩) fun _ => moves_pure _

theorem flagsKept_availUpdate (D : PcmDevice σ) : Moves FlagsKept (availUpdate D) := by
  unfold availUpdate
  refine moves_bind flagsKept_parts fun _ => moves_bind (flagsKept_syncRing D _) fun o => ?_
  rcases o with e | ⟨⟩
  · exact moves_ite (flagsKept_fail _) (flagsKept_fail _)
  · exact moves_get_bind fun s => moves_bind (flagsKept_readRing _) (fun _ =>
      moves_bind (flagsKept_readRing _) fun _ => moves_lift _) s

theorem keeps_availUpdate : Keeps fl (availUpdate VirtualPcm.driver) := by
  unfold availUpdate
  refine keeps_bind keeps_parts fun _ => keeps_syncRing_bind fun o ho => ?_
  rcases o with e | ⟨⟩
  · exact keeps_ite (keeps_fail fun _ h => by cases h)
      (keeps_fail (driver_ne_refusal (ne_refusal_of_error ho) _))
  · exact keeps_bind keeps_get fun _ => keeps_bind (keeps_readRing _) fun _ =>
      keeps_bind (keeps_readRing _) fun _ => keeps_lift

theorem keeps_mmapBegin (k : Nat) : Keeps fl (mmapBegin VirtualPcm.driver k) := by
  unfold mmapBegin
  refine keeps_bind keeps_get fun _ => ?_
  dsimp only
  refine keeps_ite (keeps_bind (keeps_fail fun _ h => by cases h) fun _ => ?_) ?_
  all_goals exact keeps_bind keeps_availUpdate fun _ => keeps_bind keeps_get fun _ =>
    keeps_bind (keeps_readRing _) fun _ => keeps_pure _

theorem setApplPtr_frame (g : Ring) (v : UInt64) (d : VirtualPcm) :
    (g.setApplPtr VirtualPcm.driver v d).2.state = d.state ∧
      (g.setApplPtr VirtualPcm.driver v d).2.failures = d.failures := by
  cases g with
  | mapped =>
    simp only [Ring.setApplPtr, Ring.modifyControl, VirtualPcm.driver]
    split <;> exact ⟨rfl, rfl⟩
  | synced q => exact ⟨rfl, rfl⟩

theorem keeps_mmapCommit (run : MmapRun) : Keeps fl (mmapCommit VirtualPcm.driver run) := by
  unfold mmapCommit
  refine keeps_bind keeps_availUpdate fun _ => ?_
  dsimp only
  refine keeps_ite (keeps_bind (keeps_fail fun _ h => by cases h) fun _ => ?_) ?_
  all_goals
    refine keeps_bind keeps_get fun _ => keeps_bind keeps_parts fun g =>
      keeps_bind keeps_get fun _ => keeps_bind keeps_lift fun _ => keeps_bind ?_ fun _ =>
      keeps_syncRing_bind fun o ho => ?_
    · refine keeps_modify fun s hs hu => ?_
      obtain ⟨hst, hfa⟩ := setApplPtr_frame g _ s.driver
      exact ⟨hs.congr rfl rfl rfl hst, hu.of_failures hfa, rfl⟩
    · rcases o with e | ⟨⟩
      · exact keeps_fail (driver_ne_refusal (ne_refusal_of_error ho) _)
      · exact keeps_pure _

theorem keepsFrom_noteXrun (hu : s.driver.Unfailing) :
    KeepsFrom (noteXrun : StreamM VirtualPcm Unit) s := by
  intro r s' h
  obtain ⟨rfl, -, rfl⟩ := returns_noteXrun h
  exact ⟨SoundFlags.of_stopped rfl rfl, hu, rfl, accepted_ok _⟩

theorem keeps_recoverXrun (c : String) (retried : Bool) :
    Keeps fl (recoverXrun c retried : StreamM VirtualPcm Unit) := by
  intro s hfl _ hu
  unfold recoverXrun
  exact keepsFrom_bind_keeps (keepsFrom_noteXrun hu) hfl fun _ =>
    keeps_bind keeps_get fun _ => keeps_ite (keeps_fail fun _ h => by cases h) (keeps_pure _)

theorem keeps_mmapWait (done : Nat) (retried : Bool) :
    Keeps fl (mmapWait VirtualPcm.driver done retried) := by
  unfold mmapWait
  refine keeps_bind keeps_get fun _ => ?_
  dsimp only
  refine keeps_ite (keeps_bind (keeps_fail fun _ h => by cases h) fun _ => ?_) ?_
  all_goals
    refine keeps_bind keeps_get fun _ => keeps_bind keeps_lift fun _ =>
      keeps_attempt_bind (keeps_wait _) fun o ho => ?_
    split
    · exact keeps_pure _
    · exact keeps_fail (driver_ne_refusal (by decide) _)
    · exact keeps_bind (keeps_recoverXrun _ _) fun _ => keeps_pure _
    · exact keeps_throw fun ctx h => ho ctx (by rw [h])

theorem keeps_areaPut (offset : Nat) (src : ByteArray) :
    Keeps fl (areaPut offset src : StreamM VirtualPcm Unit) := by
  refine keeps_modify_of fun s => ?_
  split <;> exact ⟨rfl, rfl, rfl, rfl⟩

end Mapped

/-! ## Transfers -/

section Transfers

variable {α : Type} {fl : OpenFlags} {s : PcmStream VirtualPcm}

theorem keepsFrom_get_bind {f : PcmStream VirtualPcm → StreamM VirtualPcm α}
    (hf : KeepsFrom (f s) s) : KeepsFrom (get >>= f) s :=
  fun r s' h => hf r s' (returns_get_bind.1 h)

theorem keeps_checkTransfer (capture : Bool) (len frames : Nat) :
    Keeps fl (checkTransfer capture len frames : StreamM VirtualPcm Unit) := by
  unfold checkTransfer
  refine keeps_bind keeps_get fun _ => ?_
  dsimp only
  exact keeps_join keeps_refuse fun _ => keeps_join (keeps_fail fun _ h => by cases h) fun _ =>
    keeps_bind keeps_lift fun _ => keeps_ite (keeps_fail fun _ h => by cases h) (keeps_pure _)

/-- The plain playback loop finds a prepared or running device at each write request and keeps
the flags sound. -/
theorem keeps_writeFrom (hc : fl.capture = false) (hm : fl.mmap = false) (data : ByteArray)
    (n done : Nat) (retried : Bool) :
    Keeps fl (writeFrom VirtualPcm.driver data n done retried) := by
  induction done, retried using writeFrom.induct n with
  | case2 done retried hd =>
    rw [writeFrom, dif_neg hd]
    exact keeps_pure _
  | case1 done retried hd ihok ihxrun =>
    rw [writeFrom, dif_pos hd]
    refine keeps_get_bind fun s hfl hs hu => ?_
    dsimp only
    refine keepsFrom_join_prepare hs hu fun s₁ hf₁ hs₁ hu₁ hp₁ => ?_
    have hfl₁ : s₁.flags = fl := hf₁.trans hfl
    refine keepsFrom_bind (keeps_parts s₁ hfl₁ hs₁ hu₁) fun _ s₂ h₂ => ?_
    obtain ⟨hs₂, -⟩ := returns_parts h₂
    subst s₂
    refine keepsFrom_get_bind (keepsFrom_ask_bind fun o d hd => ?_)
    obtain ⟨hfa, ho, hst⟩ := VirtualM.writei_spec
      (b := data.extract (done * s₁.frameBytes) (n * s₁.frameBytes)) hu₁
      (hs₁.ready_state (.inr hp₁)) hd
    have hu₂ : d.Unfailing := hu₁.of_failures hfa
    rcases o with e | _ | k
    · dsimp only
      split
      · exact keepsFrom_bind_keeps (keepsFrom_noteXrun hu₂) hfl₁ fun _ =>
          keeps_dite (fun _ => keeps_fail fun _ h => by cases h) fun hr =>
            keeps_bind keeps_get fun _ => keeps_ite (keeps_fail fun _ h => by cases h) (ihxrun hr)
      · next hpipe =>
        have hst' : d.state = s₁.driver.state := by
          rcases hst with h | h | ⟨-, _, h⟩
          · cases h
            exact absurd rfl (ne_os_of_is (by simpa using hpipe))
          · exact h
          · cases h
        refine keeps_ite ?_ ?_ _ hfl₁ (hs₁.of_driver hst') hu₂
        · exact keeps_fail fun _ h => by cases h
        · exact keeps_fail (driver_ne_refusal (ne_refusal_of_error ho) _)
    · have hst' : d.state = s₁.driver.state := by
        rcases hst with h | h | ⟨-, _, h⟩
        · cases h
        · exact h
        · cases h
      exact keeps_fail (driver_ne_refusal (by decide) _) _ hfl₁ (hs₁.of_driver hst') hu₂
    · have hst' : d.state = .prepared ∨ d.state = .running := by
        rcases hst with h | h | ⟨h, -⟩
        · cases h
        · rw [h]
          exact hs₁.ready_state (.inr hp₁)
        · exact .inr h
      refine keepsFrom_bind_keeps (keepsFrom_modify ?_ hu₂ rfl) hfl₁ fun _ => ihok k
      exact SoundFlags.of_playing hp₁ rfl hst' (hfl₁ ▸ hc) (hfl₁ ▸ hm)

/-- The plain capture loop: the handle is started when it does not run, so each read
request finds a running device, which a frame read leaves running. -/
theorem keeps_readFrom (hc : fl.capture = true) (data : ByteArray) (n done : Nat)
    (retried : Bool) : Keeps fl (readFrom VirtualPcm.driver data n done retried) := by
  induction data, done, retried using @readFrom.induct VirtualPcm n with
  | case2 data done retried hd =>
    rw [readFrom, dif_neg hd]
    exact keeps_pure _
  | case1 data done retried hd ihok ihxrun =>
    rw [readFrom, dif_pos hd]
    refine keeps_get_bind fun s hfl hs hu => ?_
    dsimp only
    refine keepsFrom_join_start hs hu (fun h => by simpa using h) fun s₁ hf₁ hs₁ hu₁ hr₁ => ?_
    have hfl₁ : s₁.flags = fl := hf₁.trans hfl
    have hrun : s₁.running = true := by
      rcases hr₁ with h | ⟨h, rfl⟩
      · exact h
      · simpa using h
    have hdev : s₁.driver.state = .running :=
      hs₁.started hrun (.inl (by rw [isCapture, hfl₁, hc]))
    refine keepsFrom_bind (keeps_parts s₁ hfl₁ hs₁ hu₁) fun _ s₂ h₂ => ?_
    obtain ⟨hs₂, -⟩ := returns_parts h₂
    subst s₂
    refine keepsFrom_get_bind (keepsFrom_ask_bind fun o d hd => ?_)
    obtain ⟨hfa, ho, hst⟩ := VirtualM.readi_spec hu₁ hdev hd
    have hu₂ : d.Unfailing := hu₁.of_failures hfa
    rcases o with e | ⟨_ | k, filled⟩
    · dsimp only
      split
      · exact keepsFrom_bind_keeps (keepsFrom_noteXrun hu₂) hfl₁ fun _ =>
          keeps_dite (fun _ => keeps_fail fun _ h => by cases h) fun hr =>
            keeps_bind keeps_get fun _ => keeps_ite (keeps_fail fun _ h => by cases h) (ihxrun hr)
      · next hpipe =>
        have hst' : d.state = s₁.driver.state := by
          rcases hst with h | h
          · cases h
            exact absurd rfl (ne_os_of_is (by simpa using hpipe))
          · exact h
        refine keeps_ite ?_ ?_ _ hfl₁ (hs₁.of_driver hst') hu₂
        · exact keeps_fail fun _ h => by cases h
        · exact keeps_fail (driver_ne_refusal (ne_refusal_of_error ho) _)
    · have hst' : d.state = s₁.driver.state := by
        rcases hst with h | h
        · cases h
        · exact h
      exact keeps_fail (driver_ne_refusal (by decide) _) _ hfl₁ (hs₁.of_driver hst') hu₂
    · have hst' : d.state = s₁.driver.state := by
        rcases hst with h | h
        · cases h
        · exact h
      exact ihok _ k filled _ hfl₁ (hs₁.of_driver hst') hu₂

/-- The mapped playback loop: it prepares a handle that is neither prepared nor running and
starts only a handle that does not run. -/
theorem keeps_mmapWriteFrom (data : ByteArray) (frames : Nat) (startAt : UInt64) :
    ∀ rounds done retried,
      Keeps fl (mmapWriteFrom VirtualPcm.driver data frames startAt rounds done retried)
  | 0, _, _ => by
    rw [mmapWriteFrom]
    exact keeps_fail (driver_ne_refusal (by decide) _)
  | rounds + 1, done, retried => by
    have ih := keeps_mmapWriteFrom data frames startAt rounds
    rw [mmapWriteFrom]
    refine keeps_ite ?_ (keeps_pure _)
    refine keeps_get_bind fun s hfl hs hu =>
      keepsFrom_join_prepare hs hu fun s₁ hf₁ hs₁ hu₁ _ => ?_
    refine keeps_attempt_bind keeps_availUpdate (fun o ho => ?_) s₁ (hf₁.trans hfl) hs₁ hu₁
    split
    · exact keeps_bind (keeps_recoverXrun _ _) fun _ => ih _ _
    · exact keeps_throw fun ctx h => ho ctx (by rw [h])
    refine keeps_get_bind fun s hfl hs hu => keepsFrom_join_start hs hu
      (fun h => by rw [Bool.and_eq_true] at h; simpa using h.1) fun s₁ hf₁ hs₁ hu₁ _ => ?_
    refine keeps_ite (keeps_get_bind fun s hfl hs hu => keepsFrom_join_start hs hu
      (fun h => by simpa using h) fun s₁ hf₁ hs₁ hu₁ _ =>
        keeps_bind (keeps_mmapWait _ _) (fun _ => ih _ _) s₁ (hf₁.trans hfl) hs₁ hu₁)
      ?_ s₁ (hf₁.trans hfl) hs₁ hu₁
    exact keeps_bind (keeps_mmapBegin _) fun _ => keeps_bind keeps_get fun _ =>
      keeps_bind (keeps_areaPut _ _) fun _ => keeps_bind (keeps_mmapCommit _) fun _ => ih _ _

/-- The mapped capture loop: it starts only a handle that does not run. -/
theorem keeps_mmapReadFrom (frames : Nat) :
    ∀ rounds data done retried,
      Keeps fl (mmapReadFrom VirtualPcm.driver frames rounds data done retried)
  | 0, _, _, _ => by
    rw [mmapReadFrom]
    exact keeps_fail (driver_ne_refusal (by decide) _)
  | rounds + 1, data, done, retried => by
    have ih := keeps_mmapReadFrom frames rounds
    rw [mmapReadFrom]
    refine keeps_ite ?_ (keeps_pure _)
    refine keeps_get_bind fun s hfl hs hu => keepsFrom_join_start hs hu
      (fun h => by simpa using h) fun s₁ hf₁ hs₁ hu₁ _ => ?_
    refine keeps_attempt_bind keeps_availUpdate (fun o ho => ?_) s₁ (hf₁.trans hfl) hs₁ hu₁
    split
    · exact keeps_bind (keeps_recoverXrun _ _) fun _ => ih _ _ _
    · exact keeps_throw fun ctx h => ho ctx (by rw [h])
    refine keeps_ite (keeps_bind (keeps_mmapWait _ _) fun _ => ih _ _ _) ?_
    exact keeps_bind (keeps_mmapBegin _) fun _ => keeps_bind keeps_get fun _ =>
      keeps_bind (keeps_mmapCommit _) fun _ => ih _ _ _

/-- A mapped write; the start after the loop is made only on a handle that does not run,
which taking the free frames does not change. -/
theorem keeps_mmapWrite (data : ByteArray) (frames : Nat) :
    Keeps fl (mmapWrite VirtualPcm.driver data frames) := by
  unfold mmapWrite
  refine keeps_bind (keeps_checkTransfer _ _ _) fun _ => keeps_bind keeps_get fun _ =>
    keeps_bind (keeps_mmapWriteFrom _ _ _ _ _ _) fun _ => keeps_get_bind fun s hfl hs hu => ?_
  split
  · next hr =>
    refine keepsFrom_bind (keeps_availUpdate s hfl hs hu) fun _ s₁ h₁ => ?_
    obtain ⟨hs₁, hu₁, hf₁, -⟩ := keeps_availUpdate s hfl hs hu _ _ h₁
    have hr₁ : s₁.running = false :=
      (flagsKept_availUpdate _ s _ s₁ h₁).2.trans (by simpa using hr)
    refine keepsFrom_get_bind ?_
    dsimp only
    split
    · exact keepsFrom_bind_keeps (keepsFrom_start hs₁ hu₁ hr₁) rfl fun _ => keeps_pure _
    · exact keeps_pure _ s₁ rfl hs₁ hu₁
  · exact keeps_pure _ s hfl hs hu

theorem keeps_mmapRead (data : ByteArray) (frames : Nat) :
    Keeps fl (mmapRead VirtualPcm.driver data frames) :=
  keeps_bind (keeps_checkTransfer _ _ _) fun _ => keeps_mmapReadFrom _ _ _ _ _

theorem keeps_writei (data : ByteArray) (frames : Nat) :
    Keeps fl (writei VirtualPcm.driver data frames) := by
  intro s hfl hs hu
  unfold writei
  refine keepsFrom_bind (keeps_checkTransfer _ _ _ s hfl hs hu) fun _ s₁ h₁ => ?_
  obtain ⟨hs₁, -, hcap, -⟩ := checkTransfer_ok h₁
  subst s₁
  refine keepsFrom_get_bind ?_
  split
  · exact keeps_mmapWrite _ _ s hfl hs hu
  · next hm => exact keeps_writeFrom hcap (by simpa using hm) _ _ _ _ s rfl hs hu

theorem keeps_readi (data : ByteArray) (frames : Nat) :
    Keeps fl (readi VirtualPcm.driver data frames) := by
  intro s hfl hs hu
  unfold readi
  refine keepsFrom_bind (keeps_checkTransfer _ _ _ s hfl hs hu) fun _ s₁ h₁ => ?_
  obtain ⟨hs₁, -, hcap, -⟩ := checkTransfer_ok h₁
  subst s₁
  refine keepsFrom_get_bind ?_
  split
  · exact keeps_mmapRead _ _ s hfl hs hu
  · exact keeps_readFrom hcap _ _ _ _ s rfl hs hu

theorem keeps_checkWhole (len : Nat) : Keeps fl (checkWhole len : StreamM VirtualPcm Nat) :=
  keeps_bind keeps_get fun _ => keeps_join (keeps_fail fun _ h => by cases h) fun _ => keeps_pure _

theorem keeps_write (data : ByteArray) : Keeps fl (write VirtualPcm.driver data) :=
  keeps_bind (keeps_checkWhole _) fun _ => keeps_bind (keeps_writei _ _) fun _ => keeps_pure _

theorem keeps_read (data : ByteArray) : Keeps fl (read VirtualPcm.driver data) :=
  keeps_bind (keeps_checkWhole _) fun _ => keeps_bind (keeps_readi _ _) fun _ =>
    keeps_pure _

end Transfers

/-! ## Runs of operations, renegotiations and xruns -/

/-- What steering the device with nothing but a count of xruns does: take the pointers back,
set the count, and publish the records. The next that many transfers report an xrun. -/
def VirtualPcm.queueXruns (n : Nat) (v : VirtualPcm) : VirtualPcm :=
  ({ v.pull with pendingXruns := n } : VirtualPcm).push

/-- What can happen to a stream over the virtual device: one of its operations, a
renegotiation, or xruns queued on the device. -/
inductive StreamEvent where
  | op (o : StreamOp)
  | reconfigure (syncOnly : Bool) (config : StreamConfig)
  | queueXruns (n : Nat)

/-- An event, run on the handle. -/
def StreamEvent.run : StreamEvent → StreamM VirtualPcm Unit
  | .op o => o.run VirtualPcm.driver
  | .reconfigure syncOnly config => setConfig VirtualPcm.driver syncOnly config
  | .queueXruns n => modify fun s => { s with driver := s.driver.queueXruns n }

/-- A run of events, each from the handle the one before left, whether it failed or not;
an event that stops the program stops the run. -/
def runEvents : List StreamEvent → PcmStream VirtualPcm → Trapping (PcmStream VirtualPcm)
  | [], s => pure s
  | ev :: evs, s => do
    let (_, s₁) ← (ExceptT.run ev.run).run s
    runEvents evs s₁

section Runs

variable {s s' : PcmStream VirtualPcm}

theorem upholds_run (o : StreamOp) : Upholds (o.run VirtualPcm.driver) := by
  cases o with
  | prepare => exact Keeps.upholds fun _ => keeps_prepare
  | start => exact upholds_start
  | stop => exact Keeps.upholds fun _ => keeps_stop
  | drain => exact Keeps.upholds fun _ => keeps_drain
  | available => exact Keeps.upholds fun _ => keeps_discard keeps_available
  | htimestamp => exact Keeps.upholds fun _ => keeps_discard keeps_htimestamp
  | delay => exact Keeps.upholds fun _ => keeps_discard keeps_delay
  | state => exact Keeps.upholds fun _ => keeps_discard keeps_state
  | wait t => exact Keeps.upholds fun _ => keeps_discard (keeps_wait t)
  | link peer => exact Keeps.upholds fun _ => keeps_link peer
  | unlink => exact Keeps.upholds fun _ => keeps_unlink
  | writei data frames => exact Keeps.upholds fun _ => keeps_discard (keeps_writei data frames)
  | readi data frames => exact Keeps.upholds fun _ => keeps_discard (keeps_readi data frames)
  | write data => exact Keeps.upholds fun _ => keeps_discard (keeps_write data)
  | read data => exact Keeps.upholds fun _ => keeps_discard (keeps_read data)
  | availUpdate => exact Keeps.upholds fun _ => keeps_discard keeps_availUpdate
  | mmapBegin k => exact Keeps.upholds fun _ => keeps_discard (keeps_mmapBegin k)
  | mmapCommit run => exact Keeps.upholds fun _ => keeps_mmapCommit run
  | mmapWrite data frames =>
    exact Keeps.upholds fun _ => keeps_discard (keeps_mmapWrite data frames)
  | mmapRead data frames => exact Keeps.upholds fun _ => keeps_discard (keeps_mmapRead data frames)

/-- Renegotiating refuses a running handle and leaves any other neither prepared nor
running, over a device whose failures negotiation does not change. -/
theorem upholds_setConfig (syncOnly : Bool) (config : StreamConfig) :
    Upholds (setConfig VirtualPcm.driver syncOnly config) := by
  intro s hs hu r s' h
  unfold setConfig at h
  rw [returns_get_bind] at h
  dsimp only at h
  split at h
  · rcases returns_bind.1 h with ⟨e, rfl, h₁⟩ | ⟨_, _, h₁, -⟩
    · obtain ⟨-, rfl⟩ := returns_fail.1 h₁
      exact ⟨hs.congr rfl rfl rfl rfl, hu, rfl⟩
    · cases (returns_fail.1 h₁).1
  next hr =>
  split at h
  · rcases returns_bind.1 h with ⟨e, rfl, h₁⟩ | ⟨_, _, h₁, -⟩
    · obtain ⟨-, rfl⟩ := returns_refuse.1 h₁
      exact ⟨hs, hu, rfl⟩
    · cases (returns_refuse.1 h₁).1
  rcases returns_bind.1 h with ⟨e, rfl, h₁⟩ | ⟨⟨o, d⟩, s₁, h₁, h₂⟩
  · obtain ⟨a, -, he, -⟩ := returns_lift.1 h₁
    cases he
  obtain ⟨_, hneg, hpair, hs₁⟩ := returns_lift.1 h₁
  cases hpair
  subst s₁
  have hfa : d.failures = s.driver.failures :=
    negotiate_sameFailures syncOnly s.flags config _ _ _ hneg
  have hr' : s.running = false := by simpa using hr
  rw [returns_set_bind] at h₂
  rcases o with e | n
  · obtain ⟨-, rfl⟩ := returns_fail.1 h₂
    exact ⟨.of_stopped rfl hr', hu.of_failures hfa, rfl⟩
  · obtain ⟨-, rfl⟩ := returns_modify.1 h₂
    exact ⟨.of_stopped rfl hr', hu.of_failures hfa, rfl⟩

theorem upholds_queueXruns (n : Nat) :
    Upholds (modify fun s => { s with driver := s.driver.queueXruns n } :
      StreamM VirtualPcm Unit) := by
  intro s hs hu r s' h
  obtain ⟨-, rfl⟩ := returns_modify.1 h
  exact ⟨hs.of_driver (by simp [VirtualPcm.queueXruns]),
    hu.of_failures (by simp [VirtualPcm.queueXruns]), rfl⟩

theorem upholds_event : ∀ ev : StreamEvent, Upholds ev.run
  | .op o => upholds_run o
  | .reconfigure syncOnly config => upholds_setConfig syncOnly config
  | .queueXruns n => upholds_queueXruns n

theorem runEvents_sound :
    ∀ (evs : List StreamEvent) (s s' : PcmStream VirtualPcm), SoundFlags s → s.driver.Unfailing →
      runEvents evs s = .ok s' → SoundFlags s' ∧ s'.driver.Unfailing
  | [], s, s', hs, hu, h => by
    cases h
    exact ⟨hs, hu⟩
  | ev :: evs, s, s', hs, hu, h => by
    rw [runEvents] at h
    rcases hrun : (ExceptT.run ev.run).run s with t | ⟨r, s₁⟩
    · rw [hrun] at h
      cases h
    rw [hrun] at h
    obtain ⟨hs₁, hu₁, -⟩ := upholds_event ev s hs hu r s₁ hrun
    exact runEvents_sound evs s₁ s' hs₁ hu₁ h

/-- A stream opened over an unfailing device is neither prepared nor running, and its
device is still unfailing. -/
theorem openWith_sound {syncOnly : Bool} {d : VirtualPcm} {flags : OpenFlags}
    {config : StreamConfig} (hd : d.Unfailing)
    (h : PcmStream.openWith VirtualPcm.driver syncOnly d flags config = .ok s) :
    SoundFlags s ∧ s.driver.Unfailing := by
  unfold PcmStream.openWith at h
  rcases hneg : (ExceptT.run (negotiate VirtualPcm.driver syncOnly flags config)).run d with
    t | ⟨o, d'⟩
  · rw [hneg] at h
    cases h
  rw [hneg] at h
  have hfa : d'.failures = d.failures := negotiate_sameFailures syncOnly flags config _ _ _ hneg
  rcases o with e | n
  · cases h
    exact ⟨.of_stopped rfl rfl, hd.of_failures hfa⟩
  · cases h
    exact ⟨.of_stopped rfl rfl, hd.of_failures hfa⟩

end Runs

/-- From its opening over an unfailing device, through any events, a stream's flags stay sound,
so no transfer is refused for the state of the device. -/
theorem transfers_meet_no_state_refusal (syncOnly : Bool) (d : VirtualPcm) (hd : d.Unfailing)
    (flags : OpenFlags) (config : StreamConfig) (evs : List StreamEvent)
    (s₀ s : PcmStream VirtualPcm)
    (hopen : PcmStream.openWith VirtualPcm.driver syncOnly d flags config = .ok s₀)
    (hrun : runEvents evs s₀ = .ok s) :
    SoundFlags s ∧ s.driver.Unfailing ∧
      (∀ data n r s', Returns (writei VirtualPcm.driver data n) s r s' → Accepted r) ∧
      (∀ data n r s', Returns (readi VirtualPcm.driver data n) s r s' → Accepted r) ∧
      (∀ data n r s', Returns (mmapWrite VirtualPcm.driver data n) s r s' → Accepted r) ∧
      (∀ data n r s', Returns (mmapRead VirtualPcm.driver data n) s r s' → Accepted r) := by
  obtain ⟨hs₀, hu₀⟩ := openWith_sound hd hopen
  obtain ⟨hs, hu⟩ := runEvents_sound evs s₀ s hs₀ hu₀ hrun
  exact ⟨hs, hu, fun data n r s' h => (keeps_writei data n s rfl hs hu r s' h).2.2.2,
    fun data n r s' h => (keeps_readi data n s rfl hs hu r s' h).2.2.2,
    fun data n r s' h => (keeps_mmapWrite data n s rfl hs hu r s' h).2.2.2,
    fun data n r s' h => (keeps_mmapRead data n s rfl hs hu r s' h).2.2.2⟩

/-- The default stream, opened on the default device, with an xrun queued: its flags are
sound and its next write is not refused for the state. -/
theorem default_stream_sound_after_xrun :
    ∃ s₀ s, PcmStream.openWith VirtualPcm.driver false {} {} {} = .ok s₀ ∧
      runEvents [.queueXruns 1] s₀ = .ok s ∧ SoundFlags s ∧
      ∀ data n r s', Returns (writei VirtualPcm.driver data n) s r s' → Accepted r := by
  have hq : ({} : VirtualPcm).constraints.choose (HwParams.ofConfig {} {}) =
      ⟨(({} : VirtualPcm).constraints.choose (HwParams.ofConfig {} {})).params, true⟩ := by
    decide
  obtain ⟨n, v', hneg, -⟩ := returns_negotiate_chosen false (v := {}) rfl (by decide) hq
    (fun h => absurd h (by decide))
  have hopen := PcmStream.openWith_of_returns_ok hneg
  obtain ⟨hs, -, hw, -⟩ :=
    transfers_meet_no_state_refusal false {} (fun _ => rfl) {} {} [.queueXruns 1] _ _ hopen rfl
  exact ⟨_, _, hopen, rfl, hs, hw⟩

end SoundCard.Virtual
