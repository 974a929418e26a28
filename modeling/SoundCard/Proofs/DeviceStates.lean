import Mathlib
import SoundCard.Proofs.VirtualPointer
import SoundCard.Pcm.Stream.Open
/-! The state of an unfailing virtual device under the requests of a stream: what each request
does to it, and that none made while the stream runs refuses it for the state. -/
namespace SoundCard.Virtual

open SoundCard.Pcm SoundCard.Os

namespace VirtualPcm

variable {v w : VirtualPcm}

/-- A device told to fail at no point. -/
def Unfailing (v : VirtualPcm) : Prop := ∀ f, v.failures f = none

theorem Unfailing.of_failures (hv : v.Unfailing) (h : w.failures = v.failures) : w.Unfailing :=
  fun f => h ▸ hv f

@[simp] theorem state_bump (t : Tally) : (v.bump t).state = v.state := rfl

@[simp] theorem failures_bump (t : Tally) : (v.bump t).failures = v.failures := rfl

@[simp] theorem state_pull : v.pull.state = v.state := by
  unfold pull
  split <;> rfl

@[simp] theorem failures_pull : v.pull.failures = v.failures := by
  unfold pull
  split <;> rfl

@[simp] theorem state_push : v.push.state = v.state := by
  unfold push
  dsimp only
  split <;> (try split_ifs) <;> (split <;> (try split_ifs) <;> rfl)

@[simp] theorem failures_push : v.push.failures = v.failures := by
  unfold push
  dsimp only
  split <;> (try split_ifs) <;> (split <;> (try split_ifs) <;> rfl)

@[simp] theorem state_advance : v.advance.state = v.state := by
  unfold advance
  split <;> rfl

@[simp] theorem failures_advance : v.advance.failures = v.failures := by
  unfold advance
  split <;> rfl

@[simp] theorem state_beginRunning : v.beginRunning.state = .running := by
  simp [beginRunning]

@[simp] theorem failures_beginRunning : v.beginRunning.failures = v.failures := by
  simp [beginRunning]

end VirtualPcm

namespace VirtualM

variable {β : Type} {v v' : VirtualPcm}

theorem returns_check_bind_of_unfailing (hv : v.Unfailing) {f : FailPoint}
    {k : Unit → VirtualM β} {r : Except IoError β} (h : Returns (check f >>= k) v r v') :
    Returns (k ()) v r v' := by
  rcases returns_check_bind h with ⟨n, hn, -, -⟩ | h
  · rw [hv f] at hn
    cases hn
  · exact h

theorem returns_enter_bind_of_unfailing (hv : v.Unfailing) {t : Tally} {f : FailPoint}
    {k : Unit → VirtualM β} {r : Except IoError β} (h : Returns (enter t f >>= k) v r v') :
    Returns (k ()) (v.pull.bump t) r v' := by
  unfold enter at h
  rw [bind_assoc, returns_modify_bind] at h
  exact returns_check_bind_of_unfailing (hv.of_failures (by simp)) h

/-- A request that leaves an unfailing device in the state it was in, told to fail nowhere,
and never refuses for the state. -/
def Polite (m : VirtualM β) : Prop :=
  ∀ v o v', v.Unfailing → Returns m v o v' →
    v'.state = v.state ∧ v'.failures = v.failures ∧ o ≠ .error (.os Errno.badState)

theorem polite_syncPtr (q : SyncRecord) : Polite (syncPtr q) := by
  intro v o v' hv h
  unfold syncPtr at h
  have h := returns_enter_bind_of_unfailing hv h
  dsimp only at h
  split at h
  · have h := returns_check_bind_of_unfailing (hv.of_failures (by simp)) h
    rw [returns_get_bind] at h
    split at h
    · rcases returns_bind.1 h with ⟨e, rfl, hx⟩ | ⟨a, w, hx, -⟩
      · obtain ⟨⟨⟩, rfl⟩ := returns_throw.1 hx
        exact ⟨by simp, by simp, by simp [Errno.brokenPipe, Errno.badState]⟩
      · cases (returns_throw.1 hx).1
    rw [returns_modify_bind, returns_get_bind, returns_set_bind] at h
    obtain ⟨rfl, rfl⟩ := returns_pure.1 h
    exact ⟨by simp, by simp, fun h => by cases h⟩
  · rw [returns_get_bind, returns_set_bind] at h
    obtain ⟨rfl, rfl⟩ := returns_pure.1 h
    exact ⟨by simp, by simp, fun h => by cases h⟩

theorem syncPtr_ok {q : SyncRecord} {o : Except IoError SyncRecord} (hv : v.Unfailing)
    (hq : q.flags &&& SyncFlag.hwsync = 0) (h : Returns (syncPtr q) v o v') :
    ∃ q', o = .ok q' := by
  unfold syncPtr at h
  have h := returns_enter_bind_of_unfailing hv h
  dsimp only at h
  rw [if_neg (by simp [hq])] at h
  rw [returns_get_bind, returns_set_bind] at h
  exact ⟨_, (returns_pure.1 h).1⟩

theorem polite_wait (t : Int) : Polite (wait t) := by
  intro v o v' hv h
  unfold wait at h
  rw [returns_modify_bind] at h
  have h := returns_check_bind_of_unfailing (hv.of_failures (by simp)) h
  rw [returns_get_bind] at h
  rcases returns_bind.1 (returns_join.1 h) with ⟨e, rfl, hx⟩ | ⟨u, w, hx, h⟩
  · split at hx
    · obtain ⟨⟨⟩, rfl⟩ := returns_throw.1 hx
      exact ⟨by simp, by simp, by simp [Errno.inputOutput, Errno.badState]⟩
    · cases (returns_pure.1 hx).1
  split at hx
  · cases (returns_throw.1 hx).1
  obtain ⟨-, rfl⟩ := returns_pure.1 hx
  split at h
  · obtain ⟨rfl, rfl⟩ := returns_pure.1 h
    exact ⟨by simp, by simp, fun h => by cases h⟩
  · rw [returns_set_bind] at h
    obtain ⟨rfl, rfl⟩ := returns_pure.1 h
    exact ⟨by simp, by simp, fun h => by cases h⟩

theorem polite_delay : Polite delay := by
  intro v o v' hv h
  unfold delay at h
  have h := returns_enter_bind_of_unfailing hv h
  rw [returns_get_bind] at h
  obtain ⟨a, -, rfl, rfl⟩ := returns_lift.1 h
  exact ⟨by simp, by simp, fun h => by cases h⟩

theorem polite_link (fd : Int) : Polite (link fd) := by
  intro v o v' hv h
  unfold link at h
  rw [returns_get_bind] at h
  dsimp only at h
  split at h
  · obtain ⟨rfl, rfl⟩ := returns_throw_bind.1 h
    exact ⟨rfl, rfl, fun h => by cases h⟩
  rw [returns_modify_bind] at h
  have h := returns_check_bind_of_unfailing (hv.of_failures (by simp)) h
  obtain ⟨rfl, rfl⟩ := returns_modify.1 h
  exact ⟨by simp, by simp, fun h => by cases h⟩

theorem polite_unlink : Polite unlink := by
  intro v o v' hv h
  unfold unlink at h
  rw [returns_get_bind] at h
  dsimp only at h
  split at h
  · obtain ⟨rfl, rfl⟩ := returns_throw_bind.1 h
    exact ⟨rfl, rfl, fun h => by cases h⟩
  have h := returns_enter_bind_of_unfailing hv h
  obtain ⟨rfl, rfl⟩ := returns_modify.1 h
  exact ⟨by simp, by simp, fun h => by cases h⟩

theorem prepare_spec {o : Except IoError Unit} (hv : v.Unfailing) (h : Returns prepare v o v') :
    o = .ok () ∧ v'.state = .prepared ∧ v'.failures = v.failures := by
  unfold prepare at h
  obtain ⟨rfl, rfl⟩ := returns_modify.1 (returns_enter_bind_of_unfailing hv h)
  exact ⟨rfl, by simp, by simp⟩

theorem start_spec {o : Except IoError Unit} (hv : v.Unfailing) (h : Returns start v o v') :
    v'.failures = v.failures ∧ (v.state = .prepared → o = .ok () ∧ v'.state = .running) ∧
      (v.state ≠ .prepared → o = .error (.os Errno.badState) ∧ v'.state = v.state) := by
  unfold start at h
  have h := returns_enter_bind_of_unfailing hv h
  rw [returns_get_bind] at h
  by_cases hp : v.state = .prepared
  · rw [if_neg (by simp [hp])] at h
    obtain ⟨rfl, rfl⟩ := returns_modify.1 h
    exact ⟨by simp, fun _ => ⟨rfl, by simp⟩, fun h' => absurd hp h'⟩
  · rw [if_pos (by simpa using hp)] at h
    obtain ⟨rfl, rfl⟩ := returns_throw_bind.1 h
    exact ⟨by simp, fun h' => absurd h' hp, fun _ => ⟨rfl, by simp⟩⟩

theorem stop_spec {o : Except IoError Unit} (hv : v.Unfailing) (h : Returns stop v o v') :
    o = .ok () ∧ v'.state = .setup ∧ v'.failures = v.failures := by
  unfold stop at h
  obtain ⟨rfl, rfl⟩ := returns_modify.1 (returns_enter_bind_of_unfailing hv h)
  exact ⟨rfl, by simp, by simp⟩

theorem drain_spec {o : Except IoError Unit} (hv : v.Unfailing) (h : Returns drain v o v') :
    o = .ok () ∧ v'.state = .setup ∧ v'.failures = v.failures := by
  unfold drain at h
  obtain ⟨rfl, rfl⟩ := returns_modify.1 (returns_enter_bind_of_unfailing hv h)
  exact ⟨rfl, by simp, by simp⟩

/-- The gate of a transfer on a state it serves: an xrun is reported, a device that would
block says so, or the transfer goes on from where it was. -/
theorem transferGate_returns {ok : PcmState → Bool} {r : Except IoError Unit}
    (hok : ok v.state = true) (h : Returns (transferGate ok) v r v') :
    (r = .error (.os Errno.brokenPipe) ∧ v'.failures = v.failures) ∨
      (r = .error (.os Errno.again) ∧ v' = v) ∨ (r = .ok () ∧ v' = v) := by
  unfold transferGate at h
  rw [returns_get_bind] at h
  dsimp only at h
  split at h
  · unfold xrun at h
    rw [bind_assoc, returns_modify_bind, returns_throw_bind] at h
    obtain ⟨rfl, rfl⟩ := h
    exact .inl ⟨rfl, rfl⟩
  rw [if_neg (by simp [hok])] at h
  split at h
  · exact .inr (.inl (returns_throw.1 h))
  · exact .inr (.inr (returns_pure.1 h))

theorem returns_publish_started {c : Prop} [Decidable c] {w u : VirtualPcm} {n : Nat}
    {o : Except IoError Nat}
    (h : Returns (set (if c then w.beginRunning else w).push >>= fun _ => pure n : VirtualM Nat)
      u o v') :
    o = .ok n ∧ v'.failures = w.failures ∧ (v'.state = .running ∨ v'.state = w.state) := by
  rw [returns_set_bind] at h
  obtain ⟨rfl, rfl⟩ := returns_pure.1 h
  refine ⟨rfl, by split <;> simp, ?_⟩
  split
  · exact .inl (by simp)
  · exact .inr (by simp)

/-- A playback transfer on an unfailing prepared or running device reports an xrun, leaves the
state, or starts the device; it never refuses for the state. -/
theorem writei_spec {b : ByteArray} {k : Nat} {o : Except IoError Nat} (hv : v.Unfailing)
    (hs : v.state = .prepared ∨ v.state = .running) (h : Returns (writei b k) v o v') :
    v'.failures = v.failures ∧ o ≠ .error (.os Errno.badState) ∧
      (o = .error (.os Errno.brokenPipe) ∨ v'.state = v.state ∨
        v'.state = .running ∧ ∃ n, o = .ok (n + 1)) := by
  unfold writei at h
  have h := returns_enter_bind_of_unfailing hv h
  have hok :
      (fun s => s = PcmState.prepared || s = .running) (v.pull.bump .writei).state = true := by
    rcases hs with hs | hs <;> simp [hs]
  rcases returns_bind.1 h with ⟨e, rfl, hg⟩ | ⟨u, w, hg, h⟩
  · rcases transferGate_returns hok hg with ⟨⟨⟩, hf⟩ | ⟨⟨⟩, rfl⟩ | ⟨⟨⟩, -⟩
    · exact ⟨by simpa using hf, by simp [Errno.brokenPipe, Errno.badState], .inl rfl⟩
    · exact ⟨by simp, by simp [Errno.again, Errno.badState], .inr (.inl (by simp))⟩
  obtain ⟨-, rfl⟩ : u = () ∧ w = v.pull.bump .writei := by
    rcases transferGate_returns hok hg with ⟨⟨⟩, -⟩ | ⟨⟨⟩, -⟩ | ⟨-, rfl⟩
    exact ⟨rfl, rfl⟩
  rw [returns_get_bind] at h
  split at h
  · obtain ⟨rfl, rfl⟩ := returns_pure.1 h
    exact ⟨by simp, (fun h => by cases h), .inr (.inl (by simp))⟩
  rw [returns_modify_bind, returns_get_bind] at h
  dsimp only at h
  split at h
  · unfold errno at h
    obtain ⟨rfl, rfl⟩ := returns_throw_bind.1 h
    exact ⟨by simp, by simp [Errno.again, Errno.badState], .inr (.inl (by simp))⟩
  next hn =>
  rcases returns_bind.1 h with ⟨e, rfl, hx⟩ | ⟨a, w₁, hx, h⟩
  · obtain ⟨_, -, ⟨⟩, -⟩ := returns_lift.1 hx
  obtain ⟨_, -, ⟨⟩, rfl⟩ := returns_lift.1 hx
  rcases returns_bind.1 h with ⟨e, rfl, hx⟩ | ⟨a', w₂, hx, h⟩
  · obtain ⟨_, -, ⟨⟩, -⟩ := returns_lift.1 hx
  obtain ⟨_, -, ⟨⟩, rfl⟩ := returns_lift.1 hx
  obtain ⟨rfl, hf, hst⟩ := returns_publish_started h
  refine ⟨by simpa using hf, by simp, .inr ?_⟩
  rcases hst with hst | hst
  · exact .inr ⟨hst, _, congrArg Except.ok (Nat.succ_pred_eq_of_ne_zero hn).symm⟩
  · exact .inl (by simpa using hst)

/-- A capture transfer on an unfailing running device reports an xrun or leaves the state as
it was; it never refuses for the state. -/
theorem readi_spec {b : ByteArray} {k : Nat} {o : Except IoError (Nat × ByteArray)}
    (hv : v.Unfailing) (hs : v.state = .running) (h : Returns (readi b k) v o v') :
    v'.failures = v.failures ∧ o ≠ .error (.os Errno.badState) ∧
      (o = .error (.os Errno.brokenPipe) ∨ v'.state = v.state) := by
  unfold readi at h
  have h := returns_enter_bind_of_unfailing hv h
  have hok : (fun s => decide (s = PcmState.running)) (v.pull.bump .readi).state = true := by
    simp [hs]
  rcases returns_bind.1 h with ⟨e, rfl, hg⟩ | ⟨u, w, hg, h⟩
  · rcases transferGate_returns hok hg with ⟨⟨⟩, hf⟩ | ⟨⟨⟩, rfl⟩ | ⟨⟨⟩, -⟩
    · exact ⟨by simpa using hf, by simp [Errno.brokenPipe, Errno.badState], .inl rfl⟩
    · exact ⟨by simp, by simp [Errno.again, Errno.badState], .inr (by simp)⟩
  obtain ⟨-, rfl⟩ : u = () ∧ w = v.pull.bump .readi := by
    rcases transferGate_returns hok hg with ⟨⟨⟩, -⟩ | ⟨⟨⟩, -⟩ | ⟨-, rfl⟩
    exact ⟨rfl, rfl⟩
  rw [returns_get_bind] at h
  split at h
  · obtain ⟨rfl, rfl⟩ := returns_pure.1 h
    exact ⟨by simp, (fun h => by cases h), .inr (by simp)⟩
  rw [returns_modify_bind, returns_get_bind] at h
  dsimp only at h
  rcases returns_bind.1 h with ⟨e, rfl, hx⟩ | ⟨a₁, w₁, hx, h⟩
  · obtain ⟨_, -, ⟨⟩, -⟩ := returns_lift.1 hx
  obtain ⟨_, -, ⟨⟩, rfl⟩ := returns_lift.1 hx
  rcases returns_bind.1 h with ⟨e, rfl, hx⟩ | ⟨a₂, w₂, hx, h⟩
  · obtain ⟨_, -, ⟨⟩, -⟩ := returns_lift.1 hx
  obtain ⟨_, -, ⟨⟩, rfl⟩ := returns_lift.1 hx
  rcases returns_bind.1 h with ⟨e, rfl, hx⟩ | ⟨a₃, w₃, hx, h⟩
  · obtain ⟨_, -, ⟨⟩, -⟩ := returns_lift.1 hx
  obtain ⟨_, -, ⟨⟩, rfl⟩ := returns_lift.1 hx
  rcases returns_bind.1 h with ⟨e, rfl, hx⟩ | ⟨a₄, w₄, hx, h⟩
  · obtain ⟨_, -, ⟨⟩, -⟩ := returns_lift.1 hx
  obtain ⟨_, -, ⟨⟩, rfl⟩ := returns_lift.1 hx
  rw [returns_set_bind] at h
  obtain ⟨rfl, rfl⟩ := returns_pure.1 h
  exact ⟨by simp, (fun h => by cases h), .inr (by simp)⟩

end VirtualM

/-! ## Where the device is told to fail -/

/-- The device is told to fail where it was. -/
def SameFailures (v v' : VirtualPcm) : Prop := v'.failures = v.failures

instance : Std.Refl SameFailures := ⟨fun _ => rfl⟩

instance : IsTrans VirtualPcm SameFailures := ⟨fun _ _ _ h₁ h₂ => h₂.trans h₁⟩

namespace VirtualM

theorem moves_get_answer {β : Type} {f : VirtualPcm → VirtualM β}
    (hf : ∀ v r v', Returns (f v) v r v' → v' = v) : Moves SameFailures (get >>= f) :=
  moves_get_bind fun v r v' h => (hf v r v' h).symm ▸ refl_of SameFailures v

theorem moves_check (f : FailPoint) : Moves SameFailures (check f) := by
  unfold check
  refine moves_get_answer fun v r v' h => ?_
  split at h
  · exact (returns_throw.1 h).2
  · exact (returns_pure.1 h).2

theorem moves_enter (t : Tally) (f : FailPoint) : Moves SameFailures (enter t f) :=
  moves_bind (moves_modify fun _ => by simp [SameFailures]) fun _ => moves_check f

theorem moves_info : Moves SameFailures info :=
  moves_bind (moves_enter _ _) fun _ => moves_get_answer fun _ _ _ h => (returns_pure.1 h).2

theorem moves_refine (p : Hw.HwParams) : Moves SameFailures (refine p) := by
  refine moves_bind (moves_enter _ _) fun _ => moves_get_answer fun v r v' h => ?_
  dsimp only at h
  split at h
  · exact (returns_pure.1 h).2
  · exact (returns_throw.1 h).2

theorem moves_install (p : Hw.HwParams) : Moves SameFailures (install p) := by
  refine moves_bind (moves_enter _ _) fun _ => moves_get_bind fun v r v' h => ?_
  dsimp only at h
  split at h
  · exact (returns_throw_bind.1 h).2 ▸ refl_of SameFailures v
  rw [returns_modify_bind] at h
  exact (returns_pure.1 h).2 ▸ rfl

theorem moves_software (sw : SwParams) : Moves SameFailures (software sw) := by
  refine moves_bind (moves_enter _ _) fun _ => moves_get_bind fun v r v' h => ?_
  dsimp only at h
  rw [returns_set_bind] at h
  exact (returns_pure.1 h).2 ▸ rfl

theorem moves_syncPtr (q : SyncRecord) : Moves SameFailures (syncPtr q) := by
  intro v r v' h
  unfold syncPtr at h
  rcases returns_bind.1 h with ⟨e, -, he⟩ | ⟨u, w, he, h⟩
  · exact moves_enter _ _ v _ v' he
  refine trans_of SameFailures (moves_enter _ _ v _ w he) ?_
  dsimp only at h
  split at h
  · rcases returns_bind.1 h with ⟨e, -, hc⟩ | ⟨u', w', hc, h⟩
    · exact moves_check _ w _ v' hc
    refine trans_of SameFailures (moves_check _ w _ w' hc) ?_
    rw [returns_get_bind] at h
    split at h
    · unfold errno at h
      exact (returns_throw_bind.1 h).2 ▸ refl_of SameFailures w'
    · rw [returns_modify_bind, returns_get_bind, returns_set_bind] at h
      obtain ⟨-, rfl⟩ := returns_pure.1 h
      simp [SameFailures]
  · rw [returns_get_bind, returns_set_bind] at h
    obtain ⟨-, rfl⟩ := returns_pure.1 h
    rfl

theorem moves_setTstampType (t : Int) : Moves SameFailures (setTstampType t) :=
  moves_bind (moves_enter _ _) fun _ => moves_modify fun _ => rfl

theorem moves_map (offset : UInt64) (len : Nat) (w : Bool) :
    Moves SameFailures (map offset len w) := by
  intro v r v' h
  unfold map at h
  rw [returns_get_bind] at h
  dsimp only at h
  split at h
  · exact (returns_throw_bind.1 h).2 ▸ refl_of SameFailures v
  rw [returns_modify_bind, returns_get_bind] at h
  rcases returns_bind.1 h with ⟨e, -, hx⟩ | ⟨g, w₁, hx, h⟩
  · obtain ⟨_, -, ⟨⟩, -⟩ := returns_lift.1 hx
  obtain ⟨_, -, -, rfl⟩ := returns_lift.1 hx
  have hpub : ∀ (f : FailPoint) (t : VirtualPcm), t.failures = v.failures →
      Returns (check f >>= fun _ => set t >>= fun _ => pure g) (v.pull.bump .map) r v' →
      SameFailures v v' := by
    intro f t ht hc
    rcases returns_bind.1 hc with ⟨e, -, hc⟩ | ⟨u, w₂, -, h₂⟩
    · exact (moves_check f _ _ _ hc).trans (by simp)
    rw [returns_set_bind] at h₂
    obtain ⟨-, rfl⟩ := returns_pure.1 h₂
    exact ht
  split at h
  · exact hpub _ _ (by simp) h
  split at h
  · exact hpub _ _ (by simp) h
  split at h
  · exact hpub _ _ (by simp) h
  · unfold errno at h
    exact (returns_throw.1 h).2 ▸ by simp [SameFailures]

end VirtualM

end SoundCard.Virtual

/-! ## Negotiation keeps where the device is told to fail -/

namespace SoundCard.Pcm

open SoundCard.Os

variable {σ α β : Type} {R : σ → σ → Prop}

theorem moves_fmap {ε : Type} {x : ExceptT ε (StateT σ Trapping) α} {f : α → β}
    (hx : Moves R x) : Moves R (f <$> x) := by
  intro d r d' h
  rcases returns_map.1 h with ⟨e, -, h⟩ | ⟨a, -, h⟩
  · exact hx d _ d' h
  · exact hx d _ d' h

namespace SetupM

theorem moves_request {m : DeviceM σ α} (hm : Moves R m) (ctx : String) :
    Moves R (request ctx m) := by
  intro d r d' h
  unfold Returns at h
  simp only [request, ExceptT.adapt, ExceptT.run_mk, StateT.run_map] at h
  rcases hrun : StateT.run m d with t | ⟨o, d₁⟩ <;> rw [hrun] at h
  · cases h
  · cases h
    exact hm d o d₁ hrun

theorem moves_attempt {m : DeviceM σ α} (hm : Moves R m) : Moves R (attempt m) := by
  intro d r d' h
  unfold Returns at h
  simp only [attempt, ExceptT.lift, ExceptT.run_mk, StateT.run_map] at h
  rcases hrun : (ExceptT.run m).run d with t | ⟨o, d₁⟩ <;> rw [hrun] at h
  · cases h
  · cases h
    exact hm d o d₁ hrun

end SetupM

theorem moves_throw_bind [Std.Refl R] {ε : Type} {e : ε} {f : α → ExceptT ε (StateT σ Trapping) β} :
    Moves R (throw e >>= f) := by
  intro d r d' h
  exact (returns_throw_bind.1 h).2 ▸ refl_of R d

variable [Std.Refl R] [IsTrans σ R] {D : PcmDevice σ}

/-- Setting up the ring moves the device only through its mappings, one synchronisation of a
fresh record and one write of the wake-up threshold into the mapped control record. -/
theorem Ring.moves_establish (hs : ∀ a, Moves R (D.syncPtr { control := { availMin := a } }))
    (hm : ∀ o l w, Moves R (D.map o l w))
    (hc : ∀ a d, R d (D.setControl { applPtr := (D.control d).applPtr, availMin := a } d))
    (syncOnly : Bool) (availMin : UInt64) : Moves R (Ring.establish D syncOnly availMin) := by
  unfold Ring.establish Ring.mapPages Ring.setAvailMin Ring.modifyControl Ring.sync
  dsimp only
  have hjp : ∀ b : Bool, Moves R (if b = true then
      modifyGet fun d => (Ring.mapped,
        D.setControl { applPtr := (D.control d).applPtr, availMin := availMin } d)
      else D.syncPtr { control := { availMin := availMin } } >>= fun q =>
        pure (Ring.synced q)) := by
    intro b
    refine moves_ite ?_ (moves_bind (hs _) fun _ => moves_pure _)
    intro d r d' h
    have hrun : Returns (modifyGet fun d => (Ring.mapped,
        D.setControl { applPtr := (D.control d).applPtr, availMin := availMin } d) :
          DeviceM σ Ring) d
        (.ok .mapped) (D.setControl { applPtr := (D.control d).applPtr, availMin := availMin } d) :=
      rfl
    unfold Returns at h hrun
    rw [hrun] at h
    cases h
    exact hc _ d
  refine moves_ite (moves_bind (moves_pure _) hjp)
    (moves_bind (moves_tryCatch ?_ fun _ => moves_pure _) hjp)
  exact moves_bind (moves_bind (hm _ _ _) fun _ => moves_bind (hm _ _ _) fun _ =>
    moves_ite (moves_pure _) (moves_throw _)) fun _ => moves_pure _

/-- Negotiation moves the device only through its requests. -/
theorem moves_negotiate (hi : Moves R D.info) (hin : ∀ p, Moves R (D.install p))
    (hr : ∀ p, Moves R (D.refine p)) (hsw : ∀ sw, Moves R (D.software sw))
    (hs : ∀ a, Moves R (D.syncPtr { control := { availMin := a } }))
    (hm : ∀ o l w, Moves R (D.map o l w))
    (hc : ∀ a d, R d (D.setControl { applPtr := (D.control d).applPtr, availMin := a } d))
    (ht : ∀ t, Moves R (D.setTstampType t))
    (syncOnly : Bool) (flags : OpenFlags) (req : StreamConfig) :
    Moves R (negotiate D syncOnly flags req) := by
  unfold negotiate
  dsimp only
  split
  · exact moves_throw_bind
  refine moves_bind (SetupM.moves_request hi _) fun info =>
    moves_bind (SetupM.moves_attempt (hin _)) fun o => ?_
  split
  · refine moves_bind (moves_pure _) fun params => moves_bind (moves_lift _) fun computed =>
      moves_bind (SetupM.moves_request (hsw _) _) fun sw =>
      moves_bind (SetupM.moves_request (Ring.moves_establish hs hm hc _ _) _) fun ring => ?_
    refine moves_ite (moves_bind (moves_lift _) fun len =>
      moves_bind (moves_fmap (SetupM.moves_request (hm _ _ _) _)) fun data => ?_)
      (moves_bind (moves_pure _) fun data => ?_)
    all_goals
      exact moves_ite (moves_bind (SetupM.moves_request (ht _) _) fun _ => moves_pure _)
        (moves_pure _)
  · exact moves_bind (SetupM.moves_attempt (hr _)) fun _ => moves_throw_bind

end SoundCard.Pcm

namespace SoundCard.Virtual

open SoundCard.Pcm

theorem negotiate_sameFailures (syncOnly : Bool) (flags : OpenFlags) (req : StreamConfig) :
    Moves SameFailures (negotiate VirtualPcm.driver syncOnly flags req) :=
  moves_negotiate VirtualM.moves_info VirtualM.moves_install VirtualM.moves_refine
    VirtualM.moves_software (fun _ => VirtualM.moves_syncPtr _) VirtualM.moves_map
    (fun _ v => by simp only [VirtualPcm.driver]; split <;> rfl) VirtualM.moves_setTstampType
    syncOnly flags req

end SoundCard.Virtual
