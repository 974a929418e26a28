import SoundCard.Proofs.MappedEnding
import SoundCard.Proofs.StreamOpening
/-! A virtual device that serves the mapped path (`Faithful`) stays so under every request, and
a negotiation on it settles the ring, the buffers and the records. -/
namespace SoundCard.Virtual

open SoundCard.Pcm SoundCard.Os

namespace VirtualPcm

variable {α : Type} {v w : VirtualPcm} {f : VirtualPcm → α}

@[simp] theorem steering_push : v.push.steering = v.steering :=
  congrArg Prod.fst (kept_push (v := v))

@[simp] theorem steering_advance : v.advance.steering = v.steering := by
  unfold advance
  split <;> rfl

@[simp] theorem bufferSize_push : v.push.bufferSize = v.bufferSize := congrArg (·.2.1) shape_push

@[simp] theorem statusPage_bump (t : Tally) : (v.bump t).statusPage = v.statusPage := rfl

@[simp] theorem statusPage_pull : v.pull.statusPage = v.statusPage := by
  unfold pull
  split <;> rfl

theorem statusLen_push : v.push.statusPage.map Page.len = v.statusPage.map Page.len := by
  rw [push_statusPage, Option.map_map]
  congr 1
  funext p
  simp only [Function.comp_apply]
  split <;> rfl

theorem controlLen_push : v.push.controlPage.map Page.len = v.controlPage.map Page.len := by
  rw [push_controlPage, Option.map_map]
  congr 1
  funext p
  simp only [Function.comp_apply]
  split <;> rfl

theorem recordsMapped_of_lens {a b : Nat} (hs : v.statusPage.map Page.len = some a)
    (ha : statusBytes ≤ a) (hc : v.controlPage.map Page.len = some b) (hb : controlBytes ≤ b) :
    v.recordsMapped = true := by
  obtain ⟨p, hp, rfl⟩ := Option.map_eq_some_iff.1 hs
  obtain ⟨q, hq, rfl⟩ := Option.map_eq_some_iff.1 hc
  simp [recordsMapped, controlMapped, Page.fits?, hp, hq, ha, hb]

/-- What the device's direction and buffer are. -/
def geometry (v : VirtualPcm) : Bool × UInt64 := (v.capture, v.bufferSize)

/-- A device that serves the mapped path, installs the boundary it is asked for, and runs
whenever it is in the running state. -/
structure Faithful (v : VirtualPcm) : Prop where
  serves : v.Serves
  ownBoundary : v.boundaryOverride = none
  live : v.state = .running → v.running = true

theorem Faithful.of_steering (hv : v.Faithful) (hs : w.steering = v.steering)
    (hx : w.state ≠ .xrun) (hp : w.PointersBelow) (hl : w.state = .running → w.running = true) :
    w.Faithful :=
  ⟨⟨hv.serves.unfailing.of_failures (congrArg Steering.failures hs), hx, hp⟩,
    (congrArg Steering.boundaryOverride hs).trans hv.ownBoundary, hl⟩

theorem Faithful.live_of (hv : v.Faithful) (hs : w.state = v.state) (hr : w.running = v.running) :
    w.state = .running → w.running = true :=
  fun h => hr ▸ hv.live (hs ▸ h)

theorem Faithful.pull_bump (hv : v.Faithful) (t : Tally) : (v.pull.bump t).Faithful :=
  hv.of_steering (by simp) (hv.serves.pull_bump t).calm (hv.serves.pull_bump t).pointers
    (hv.live_of (by simp) (by simp))

theorem Faithful.push (hv : v.Faithful) : v.push.Faithful :=
  hv.of_steering (by simp) hv.serves.push.calm hv.serves.push.pointers
    (hv.live_of (by simp) (by simp))

/-- What a request may do to a faithful device: leave it faithful, with the same `f`. -/
def KeepsFaith (f : VirtualPcm → α) (v w : VirtualPcm) : Prop :=
  v.Faithful → w.Faithful ∧ f w = f v

instance : Std.Refl (KeepsFaith f) := ⟨fun _ h => ⟨h, rfl⟩⟩

instance : IsTrans VirtualPcm (KeepsFaith f) :=
  ⟨fun _ _ _ h₁ h₂ hv => ⟨(h₂ (h₁ hv).1).1, (h₂ (h₁ hv).1).2.trans (h₁ hv).2⟩⟩

theorem KeepsFaith.comp {β : Type} (g : α → β) (h : KeepsFaith f v w) : KeepsFaith (g ∘ f) v w :=
  fun hv => ⟨(h hv).1, congrArg g (h hv).2⟩

theorem KeepsFaith.toGeometry (h : KeepsFaith shape v w) : KeepsFaith geometry v w :=
  h.comp fun x : Bool × UInt64 × Bool => (x.1, x.2.1)

theorem keepsFaith_pull_bump (t : Tally) (hf : f (v.pull.bump t) = f v) :
    KeepsFaith f v (v.pull.bump t) :=
  fun hv => ⟨hv.pull_bump t, hf⟩

end VirtualPcm

namespace VirtualM

open VirtualPcm

variable {α β : Type} {v v' : VirtualPcm} {f : VirtualPcm → α}

theorem moves_comp {γ : Type} {m : VirtualM β} (g : α → γ) (hm : Moves (KeepsFaith f) m) :
    Moves (KeepsFaith (g ∘ f)) m :=
  fun v r v' h => (hm v r v' h).comp g

theorem moves_geometry {m : VirtualM β} (hm : Moves (KeepsFaith shape) m) :
    Moves (KeepsFaith geometry) m :=
  fun v r v' h => (hm v r v' h).toGeometry

theorem keepsFaith_enter_bind {t : Tally} {fp : FailPoint} {k : Unit → VirtualM β}
    (hpb : f (v.pull.bump t) = f v)
    (hk : ∀ r v', Returns (k ()) (v.pull.bump t) r v' → KeepsFaith f (v.pull.bump t) v')
    {r : Except IoError β} (h : Returns (enter t fp >>= k) v r v') : KeepsFaith f v v' :=
  fun hv => trans_of (KeepsFaith f) (keepsFaith_pull_bump t hpb)
    (hk r v' ((returns_enter_bind_iff hv.serves.unfailing).1 h)) hv

theorem keepsFaith_enter_modify {t : Tally} {fp : FailPoint} {g : VirtualPcm → VirtualPcm}
    (hpb : ∀ v, f (v.pull.bump t) = f v) (hg : ∀ w, KeepsFaith f w (g w)) :
    Moves (KeepsFaith f) (enter t fp >>= fun _ => modify g) := by
  intro v r v' h
  refine keepsFaith_enter_bind (hpb v) (fun r v' h => ?_) h
  rw [(returns_modify.1 h).2]
  exact hg _

/-! ## Requests that keep the device's shape -/

theorem keepsFaith_info : Moves (KeepsFaith shape) info := by
  intro v r v' h
  refine keepsFaith_enter_bind (by simp) (fun r v' h => ?_) h
  exact (returns_pure.1 h).2 ▸ refl_of (KeepsFaith shape) _

theorem keepsFaith_refine (p : Hw.HwParams) : Moves (KeepsFaith shape) (refine p) := by
  intro v r v' h
  refine keepsFaith_enter_bind (by simp) (fun r v' h => ?_) h
  rw [returns_get_bind] at h
  dsimp only at h
  split at h
  · exact (returns_pure.1 h).2 ▸ refl_of (KeepsFaith shape) _
  · exact (returns_throw.1 h).2 ▸ refl_of (KeepsFaith shape) _

theorem keepsFaith_software (sw : SwParams) : Moves (KeepsFaith shape) (software sw) := by
  intro v r v' h
  refine keepsFaith_enter_bind (by simp) (fun r v' h => ?_) h
  rw [returns_get_bind, returns_set_bind] at h
  rw [(returns_pure.1 h).2]
  exact fun hw => ⟨hw.of_steering rfl hw.serves.calm hw.serves.pointers hw.live, rfl⟩

theorem software_answers {sw sw' : SwParams} (hv : v.Faithful)
    (h : Returns (software sw) v (.ok sw') v') : sw' = sw := by
  unfold software at h
  rw [returns_enter_bind_iff hv.serves.unfailing, returns_get_bind, returns_set_bind,
    (hv.pull_bump .software).ownBoundary] at h
  exact Except.ok.inj (returns_pure.1 h).1

@[simp] theorem steering_synced {q : SyncRecord} : (synced v q).steering = v.steering := by
  unfold synced
  split
  · exact steering_advance.trans ((steering_bump .syncPtr).trans steering_pull)
  · exact (steering_bump .syncPtr).trans steering_pull

theorem synced_faithful {q : SyncRecord} (hv : v.Faithful)
    (hq : q.control.applPtr.toNat < 2 ^ 63) : (synced v q).Faithful :=
  hv.of_steering steering_synced (by simpa using hv.serves.calm)
    (pointersBelow_synced hv.serves.pointers hq) (hv.live_of (by simp) (by simp))

theorem keepsFaith_syncPtr {q : SyncRecord} (hq : q.control.applPtr.toNat < 2 ^ 63) :
    Moves (KeepsFaith shape) (syncPtr q) := by
  intro v r v' h hv
  obtain ⟨-, rfl⟩ := (syncPtr_returns hv.serves.unfailing hv.serves.calm q).determ h
  exact ⟨synced_faithful hv hq, shape_synced q⟩

theorem keepsFaith_prepare : Moves (KeepsFaith shape) prepare := by
  intro v r v' h hv
  obtain ⟨-, rfl⟩ := (prepare_returns hv.serves.unfailing).determ h
  exact ⟨hv.of_steering (steering_push.trans ((steering_bump .prepare).trans steering_pull))
    hv.serves.prepared.calm hv.serves.prepared.pointers (fun h => by simp at h),
    shape_push.trans shape_pull⟩

theorem keepsFaith_start : Moves (KeepsFaith shape) start := by
  intro v r v' h hv
  by_cases hp : v.state = .prepared
  · obtain ⟨-, rfl⟩ := (start_returns hv.serves.unfailing hp).determ h
    exact ⟨(hv.pull_bump .start).of_steering (steering_push.trans steering_advance)
      hv.serves.started.calm hv.serves.started.pointers (fun _ => by simp [beginRunning]),
      shape_push.trans (shape_beginRunning.trans shape_pull)⟩
  · obtain ⟨-, rfl⟩ := (start_refuses hv.serves.unfailing hp).determ h
    exact keepsFaith_pull_bump .start (by simp) hv

theorem keepsFaith_stop : Moves (KeepsFaith shape) stop :=
  keepsFaith_enter_modify (fun _ => by simp) fun _ hw =>
    ⟨Faithful.push (hw.of_steering rfl (by simp) hw.serves.pointers fun h => by cases h),
      shape_push⟩

theorem keepsFaith_drain : Moves (KeepsFaith shape) drain :=
  keepsFaith_enter_modify (fun _ => by simp) fun _ hw =>
    ⟨Faithful.push (hw.of_steering rfl (by simp) hw.serves.pointers fun h => by cases h),
      shape_push⟩

theorem keepsFaith_delay : Moves (KeepsFaith shape) delay := by
  intro v r v' h
  refine keepsFaith_enter_bind (by simp) (fun r v' h => ?_) h
  rw [returns_get_bind] at h
  obtain ⟨-, -, -, rfl⟩ := returns_lift.1 h
  exact refl_of (KeepsFaith shape) _

theorem keepsFaith_setTstampType (t : Int) : Moves (KeepsFaith shape) (setTstampType t) :=
  keepsFaith_enter_modify (fun _ => by simp) fun _ hw =>
    ⟨hw.of_steering rfl hw.serves.calm hw.serves.pointers hw.live, rfl⟩

theorem keepsFaith_link (fd : Int) : Moves (KeepsFaith shape) (link fd) := by
  intro v r v' h hv
  unfold link at h
  rw [returns_get_bind] at h
  dsimp only at h
  split at h
  · obtain ⟨-, rfl⟩ := returns_throw_bind.1 h
    exact ⟨hv, rfl⟩
  have hw : v.pull.Faithful :=
    hv.of_steering (by simp) (by simpa using hv.serves.calm) hv.serves.pointers.pull
      (hv.live_of (by simp) (by simp))
  rw [returns_modify_bind, returns_check_bind_iff hw.serves.unfailing] at h
  rw [(returns_modify.1 h).2]
  exact ⟨hw.of_steering rfl hw.serves.calm hw.serves.pointers hw.live, shape_pull⟩

theorem keepsFaith_unlink : Moves (KeepsFaith shape) unlink := by
  intro v r v' h hv
  unfold unlink at h
  rw [returns_get_bind] at h
  dsimp only at h
  split at h
  · obtain ⟨-, rfl⟩ := returns_throw_bind.1 h
    exact ⟨hv, rfl⟩
  refine keepsFaith_enter_modify (fun _ => by simp) (fun _ hw => ?_) v r v' h hv
  exact ⟨hw.of_steering rfl hw.serves.calm hw.serves.pointers hw.live, rfl⟩

theorem keepsFaith_wait (t : Int) : Moves (KeepsFaith shape) (wait t) := by
  intro v r v' h hv
  obtain ⟨-, rfl⟩ := (wait_returns hv.serves.unfailing hv.serves.calm t).determ h
  have hs : (waitFrom v t).steering = v.steering := (steering_bump .wait).trans steering_pull
  have hx : (waitFrom v t).state = v.state := (state_bump .wait).trans state_pull
  have hw : (waited v t).steering = v.steering ∧ (waited v t).state = v.state ∧
      (waited v t).running = v.running ∧ (waited v t).shape = v.shape := by
    unfold waited
    split
    · exact ⟨steering_push.trans (steering_advance.trans hs),
        state_push.trans (state_advance.trans hx), by simp, by simp⟩
    · exact ⟨hs, hx, by simp, by simp⟩
  exact ⟨hv.of_steering hw.1 (hv.serves.waited t).calm (hv.serves.waited t).pointers
    (hv.live_of hw.2.1 hw.2.2.1), hw.2.2.2⟩

theorem keepsFaith_setControl (a : UInt64) (v : VirtualPcm) :
    KeepsFaith shape v (VirtualPcm.driver.setControl
      { applPtr := (VirtualPcm.driver.control v).applPtr, availMin := a } v) := by
  intro hv
  refine ⟨?_, shape_setControl _⟩
  simp only [VirtualPcm.driver]
  split
  · next p hp =>
    refine hv.of_steering rfl hv.serves.calm ⟨hv.serves.pointers.1, fun p' hp' => ?_⟩ hv.live
    obtain rfl := Option.some.inj hp'
    simpa [hp] using hv.serves.pointers.2 p hp
  · exact hv

/-! ## Requests that set the device up -/

theorem keepsFaith_install (p : Hw.HwParams) : Moves (KeepsFaith capture) (install p) := by
  intro v r v' h
  refine keepsFaith_enter_bind (by simp) (fun r v' h => ?_) h
  rw [returns_get_bind] at h
  dsimp only at h
  split at h
  · exact (returns_throw_bind.1 h).2 ▸ refl_of (KeepsFaith capture) _
  rw [returns_modify_bind] at h
  rw [(returns_pure.1 h).2]
  exact fun hw =>
    ⟨hw.of_steering rfl (fun h => by cases h) hw.serves.pointers (fun h => by cases h), rfl⟩

theorem install_chosen {p q : Hw.HwParams} (hv : v.Unfailing) (h : Returns (install p) v (.ok q) v') :
    (v.constraints.choose p).admitted = true ∧ q = (v.constraints.choose p).params ∧
      v'.bufferSize = (q.min .bufferSize).toUInt64 := by
  unfold install at h
  rw [returns_enter_bind_iff hv, returns_get_bind] at h
  simp only [constraints_bump, constraints_pull] at h
  split at h
  · cases (returns_throw_bind.1 h).1
  next ha =>
  rw [returns_modify_bind] at h
  obtain ⟨hq, rfl⟩ := returns_pure.1 h
  cases hq
  exact ⟨by simpa using ha, rfl, rfl⟩

/-- The devices a mapping leaves on a device told to fail nowhere: the device, or the counted
one, on a refusal; else the counted device with the mapped record's page, published. -/
theorem map_cases {off : UInt64} {len : Nat} {w : Bool} {o : Except IoError Region}
    (hu : (v.pull.bump .map).Unfailing) (h : Returns (map off len w) v o v') :
    (∀ r, o ≠ .ok r) ∧ (v' = v ∨ v' = v.pull.bump .map) ∨
    ∃ r, o = .ok r ∧
      (off = MapOffset.status ∧ v' = push { v.pull.bump .map with statusPage := some ⟨r.len, {}⟩ } ∨
      off = MapOffset.control ∧ v' = push { v.pull.bump .map with controlPage := some ⟨r.len, {}⟩ } ∨
      off = MapOffset.data ∧ v' = (v.pull.bump .map).push) := by
  unfold map at h
  rw [returns_get_bind] at h
  dsimp only at h
  split at h
  · obtain ⟨ho, rfl⟩ := returns_throw_bind.1 h
    exact .inl ⟨fun r hr => (by rw [ho] at hr; cases hr), .inl rfl⟩
  rw [returns_modify_bind, returns_get_bind] at h
  rcases returns_bind.1 h with ⟨e, -, hx⟩ | ⟨g, w₁, hx, h⟩
  · obtain ⟨_, -, ⟨⟩, -⟩ := returns_lift.1 hx
  obtain ⟨_, -, -, rfl⟩ := returns_lift.1 hx
  split at h
  · next hs =>
    rw [returns_check_bind_iff hu, returns_set_bind] at h
    obtain ⟨rfl, rfl⟩ := returns_pure.1 h
    exact .inr ⟨g, rfl, .inl ⟨hs.1, rfl⟩⟩
  split at h
  · next hc =>
    rw [returns_check_bind_iff hu, returns_set_bind] at h
    obtain ⟨rfl, rfl⟩ := returns_pure.1 h
    exact .inr ⟨g, rfl, .inr (.inl ⟨hc.1, rfl⟩)⟩
  split at h
  · next hd =>
    rw [returns_check_bind_iff hu, returns_set_bind] at h
    obtain ⟨rfl, rfl⟩ := returns_pure.1 h
    exact .inr ⟨g, rfl, .inr (.inr ⟨hd.1, rfl⟩)⟩
  · obtain ⟨ho, rfl⟩ := returns_throw.1 h
    exact .inl ⟨fun r hr => (by rw [ho] at hr; cases hr), .inr rfl⟩

/-- A mapping publishes a fresh record, whose pointer is the device's own or zero, and keeps
the device's direction and buffer. -/
theorem keepsFaith_map (offset : UInt64) (len : Nat) (w : Bool) :
    Moves (KeepsFaith geometry) (map offset len w) := by
  intro v r v' h hv
  have hw := hv.pull_bump .map
  have hpage : ∀ (t : VirtualPcm), t.steering = (v.pull.bump .map).steering →
      t.state = (v.pull.bump .map).state → t.running = (v.pull.bump .map).running →
      t.applPtr = (v.pull.bump .map).applPtr →
      (∀ p, t.controlPage = some p → p.record = {} ∨ p.record.applPtr.toNat < 2 ^ 63) →
      t.push.Faithful := by
    intro t hs hx hr ha hc
    refine (hw.of_steering hs (hx ▸ hw.serves.calm) ⟨ha ▸ hw.serves.pointers.1, fun p hp => ?_⟩
      (hw.live_of hx hr)).push
    rcases hc p hp with hr | hr
    · rw [hr]
      decide
    · exact hr
  rcases map_cases hw.serves.unfailing h with
    ⟨-, rfl | rfl⟩ | ⟨g, -, ⟨-, rfl⟩ | ⟨-, rfl⟩ | ⟨-, rfl⟩⟩
  · exact ⟨hv, rfl⟩
  · exact ⟨hw, by simp [geometry]⟩
  · exact ⟨hpage _ rfl rfl rfl rfl fun p hp => .inr (hw.serves.pointers.2 p hp), by simp [geometry]⟩
  · refine ⟨hpage _ rfl rfl rfl rfl fun p hp => .inl ?_, by simp [geometry]⟩
    obtain rfl := Option.some.inj hp
    rfl
  · exact ⟨hw.push, by simp [geometry]⟩

/-- The data area maps without touching the records. -/
theorem keepsFaith_mapData (len : Nat) (w : Bool) :
    Moves (KeepsFaith shape) (map MapOffset.data len w) := by
  intro v r v' h hv
  have hw := hv.pull_bump .map
  rcases map_cases hw.serves.unfailing h with
    ⟨-, rfl | rfl⟩ | ⟨g, -, ⟨hs, -⟩ | ⟨hc, -⟩ | ⟨-, rfl⟩⟩
  · exact ⟨hv, rfl⟩
  · exact ⟨hw, by simp⟩
  · exact absurd hs (by decide)
  · exact absurd hc (by decide)
  · exact ⟨hw.push, by simp⟩

/-- A mapping of a record that answers publishes a page of the length of its region and leaves
the other record's page as long as it was. -/
theorem map_page_lens {off : UInt64} {len : Nat} {w : Bool} {r : Region} (hv : v.Faithful)
    (h : Returns (map off len w) v (.ok r) v') :
    (off = MapOffset.status → v'.statusPage.map Page.len = some r.len ∧
      v'.controlPage.map Page.len = v.controlPage.map Page.len) ∧
    (off = MapOffset.control → v'.controlPage.map Page.len = some r.len ∧
      v'.statusPage.map Page.len = v.statusPage.map Page.len) := by
  rcases map_cases (hv.pull_bump .map).serves.unfailing h with
    ⟨hne, -⟩ | ⟨g, hg, ⟨rfl, rfl⟩ | ⟨rfl, rfl⟩ | ⟨rfl, -⟩⟩
  · exact absurd rfl (hne r)
  · cases hg
    refine ⟨fun _ => ⟨?_, ?_⟩, fun hc => absurd hc (by decide)⟩
    · rw [statusLen_push]
      rfl
    · rw [controlLen_push]
      simp
  · cases hg
    refine ⟨fun hs => absurd hs (by decide), fun _ => ⟨?_, ?_⟩⟩
    · rw [controlLen_push]
      rfl
    · rw [statusLen_push]
      simp
  · exact ⟨fun hs => absurd hs (by decide), fun hc => absurd hc (by decide)⟩

end VirtualM

open VirtualPcm VirtualM

theorem keepsFaith_negotiate (syncOnly : Bool) (flags : OpenFlags) (req : StreamConfig) :
    Moves (KeepsFaith capture) (negotiate VirtualPcm.driver syncOnly flags req) :=
  moves_negotiate (R := KeepsFaith capture) (D := VirtualPcm.driver)
    (moves_comp Prod.fst keepsFaith_info) keepsFaith_install
    (fun p => moves_comp Prod.fst (keepsFaith_refine p))
    (fun sw => moves_comp Prod.fst (keepsFaith_software sw))
    (fun _ => moves_comp Prod.fst (keepsFaith_syncPtr (by simp)))
    (fun o l w => moves_comp Prod.fst (keepsFaith_map o l w))
    (fun a d => (keepsFaith_setControl a d).comp Prod.fst)
    (fun t => moves_comp Prod.fst (keepsFaith_setTstampType t)) syncOnly flags req

/-- Whatever the device, the ring it sets up keeps no pointer beyond 2^63: a kept copy starts
from a fresh record and takes no pointer from the device. -/
theorem establish_below {syncOnly : Bool} {a : UInt64} {g : Ring} {v v' : VirtualPcm}
    (h : Returns (Ring.establish VirtualPcm.driver syncOnly a) v (.ok g) v') : ringBelow g := by
  unfold Ring.establish at h
  dsimp only at h
  split at h
  all_goals
    rcases returns_bind.1 h with ⟨e, he, -⟩ | ⟨b, v₁, -, h⟩
    · cases he
    split at h
    · obtain ⟨hg, -⟩ := returns_modifyGet.determ h
      cases hg
      trivial
    · unfold Ring.sync at h
      rcases returns_bind.1 h with ⟨e, he, -⟩ | ⟨q, v₂, hq, h⟩
      · cases he
      obtain ⟨hg, -⟩ := returns_pure.1 h
      cases hg
      show q.control.applPtr.toNat < 2 ^ 63
      rw [(syncPtr_appl hq).1]
      simp

theorem keepsFaith_negotiateTail (flags : OpenFlags) (info : PcmInfo) (config : StreamConfig)
    (computed : Nat) (sw : SwParams) (ring : Ring) :
    Moves (KeepsFaith shape) (negotiateTail VirtualPcm.driver flags info config computed sw ring) := by
  unfold negotiateTail
  dsimp only
  split
  · exact moves_bind (moves_lift _) fun len => moves_bind
      (moves_fmap (SetupM.moves_request (keepsFaith_mapData len true) _)) fun _ =>
        moves_join (SetupM.moves_request (keepsFaith_setTstampType _) _) fun _ => moves_pure _
  · exact moves_bind (moves_pure _) fun _ =>
      moves_join (SetupM.moves_request (keepsFaith_setTstampType _) _) fun _ => moves_pure _

/-- Mapping both records maps them long enough for their contents. -/
theorem mapPages_records {v v' : VirtualPcm} (hv : v.Faithful)
    (h : Returns (Ring.mapPages VirtualPcm.driver) v (.ok ()) v') : v'.recordsMapped = true := by
  unfold Ring.mapPages at h
  rcases returns_bind.1 h with ⟨e, he, -⟩ | ⟨rs, v₁, h₁, h⟩
  · cases he
  rcases returns_bind.1 h with ⟨e, he, -⟩ | ⟨rc, v₂, h₂, h⟩
  · cases he
  have h₁' : Returns (map MapOffset.status pageSize false) v (.ok rs) v₁ := h₁
  have h₂' : Returns (map MapOffset.control pageSize true) v₁ (.ok rc) v₂ := h₂
  have hv₁ : v₁.Faithful := (keepsFaith_map _ _ _ v _ v₁ h₁' hv).1
  obtain ⟨hs₁, -⟩ := (map_page_lens hv h₁').1 rfl
  obtain ⟨hc₂, hs₂⟩ := (map_page_lens hv₁ h₂').2 rfl
  by_cases hh : (rs.holds statusBytes && rc.holds controlBytes) = true
  · rw [if_pos hh] at h
    obtain ⟨-, rfl⟩ := returns_pure.1 h
    simp only [Bool.and_eq_true, Region.holds, decide_eq_true_eq] at hh
    exact recordsMapped_of_lens (hs₂.trans hs₁) hh.1 hc₂ hh.2
  · rw [if_neg hh] at h
    cases (returns_throw.1 h).1

/-- A ring set up mapped reads records long enough for their contents. -/
theorem establish_records {syncOnly : Bool} {a : UInt64} {v v' : VirtualPcm} (hv : v.Faithful)
    (h : Returns (Ring.establish VirtualPcm.driver syncOnly a) v (.ok .mapped) v') :
    v'.recordsMapped = true := by
  have hsync : ∀ {w w' : VirtualPcm},
      ¬Returns (Ring.sync VirtualPcm.driver 0 (.synced { control := { availMin := a } })) w
        (.ok .mapped) w' := by
    intro w w' hs
    unfold Ring.sync at hs
    rcases returns_bind.1 hs with ⟨e, he, -⟩ | ⟨q, w₂, -, hs⟩
    · cases he
    cases (returns_pure.1 hs).1
  unfold Ring.establish at h
  dsimp only at h
  split at h
  · rcases returns_bind.1 h with ⟨e, he, -⟩ | ⟨b, v₁, hb, h⟩
    · cases he
    obtain ⟨hb, -⟩ := returns_pure.1 hb
    cases hb
    exact absurd h hsync
  rcases returns_bind.1 h with ⟨e, he, -⟩ | ⟨b, v₁, hb, h⟩
  · cases he
  cases b
  · exact absurd h hsync
  obtain ⟨-, rfl⟩ := returns_modifyGet.determ h
  rcases returns_tryCatch.1 hb with ⟨u, hu, hb⟩ | ⟨e, v₂, -, hb⟩
  · rcases returns_bind.1 hb with ⟨e, he, -⟩ | ⟨⟨⟩, v₂, hp, hb⟩
    · cases he
    obtain ⟨-, rfl⟩ := returns_pure.1 hb
    exact (congrArg (·.2.2) (shape_setControl _)).trans (mapPages_records hv hp)
  · cases (returns_pure.1 hb).1

/-- What a successful negotiation settles about the ring, the buffers, the boundary and the
records. -/
structure Settled (n : Negotiated) (v : VirtualPcm) : Prop where
  below : ringBelow n.ring
  wraps : n.bufferSize.toNat ≤ n.boundary.toNat
  boundary : n.boundary.toNat < 2 ^ 63
  computed : n.boundary.toNat = computeBoundary n.bufferSize.toNat
  sized : 0 < v.bufferSize.toNat ∧ v.bufferSize.toNat ≤ n.bufferSize.toNat
  records : n.ring = .mapped → v.recordsMapped = true

/-- Negotiating with a faithful device leaves it faithful and facing the same way, and a
negotiation that succeeds settles the ring, the buffer and the boundary. -/
theorem negotiate_faithful {syncOnly : Bool} {flags : OpenFlags} {req : StreamConfig}
    {v v' : VirtualPcm} {o : Except StreamError Negotiated} (hv : v.Faithful)
    (h : Returns (negotiate VirtualPcm.driver syncOnly flags req) v o v') :
    v'.Faithful ∧ v'.capture = v.capture ∧ ∀ n, o = .ok n → Settled n v' := by
  obtain ⟨hv', hc⟩ := keepsFaith_negotiate syncOnly flags req v o v' h hv
  refine ⟨hv', hc, ?_⟩
  rintro n rfl
  obtain ⟨hr, info, params, computed, sw, ring, v₁, v₂, v₃, v₄, hi, hp, hb, hs, he, ht⟩ :=
    returns_negotiate_ok h
  obtain ⟨hring, hbs, hB⟩ := negotiateTail_answers ht
  have hv₁ : v₁.Faithful := (keepsFaith_info v _ v₁ hi hv).1
  have hv₂ : v₂.Faithful := (keepsFaith_install _ v₁ _ v₂ hp hv₁).1
  obtain rfl := software_answers hv₂ hs
  obtain ⟨hlt, rfl⟩ := lt_of_boundaryOf_ok hb
  obtain ⟨hle, hB'⟩ := computeBoundary_within hlt
  have hsize : n.bufferSize.toNat = (req.settle params).bufferSize := by
    rw [hbs]
    exact UInt64.toNat_ofNat_of_lt' (by unfold UInt64.size; omega)
  have hbound : n.boundary.toNat = computeBoundary (req.settle params).bufferSize := by
    rw [hB]
    split <;> exact UInt64.toNat_ofNat_of_lt' (by unfold UInt64.size; omega)
  obtain ⟨ha, rfl, hd₂⟩ := install_chosen hv₁.serves.unfailing hp
  obtain ⟨ps, hset⟩ : ∃ ps, (v₁.constraints.choose (Hw.HwParams.ofConfig req flags)).params.Settles
      req ps := ⟨_, Hw.Constraints.choose_ofConfig_settles ha⟩
  have hv₃ := keepsFaith_software _ v₂ _ v₃ hs hv₂
  have hv₄ := Ring.moves_establish (R := KeepsFaith geometry) (D := VirtualPcm.driver)
    (fun _ => moves_geometry (keepsFaith_syncPtr (by simp))) keepsFaith_map
    (fun a d => (keepsFaith_setControl a d).toGeometry) syncOnly _ v₃ _ v₄ he hv₃.1
  have hv' := keepsFaith_negotiateTail flags info _ _ _ _ v₄ _ v' ht hv₄.1
  have hdev : v'.bufferSize.toNat = min (ps.toNat * req.periodCount.toNat) 4294967295 := by
    have hb' : v'.bufferSize = v₂.bufferSize :=
      (congrArg (·.2.1) hv'.2).trans ((congrArg Prod.snd hv₄.2).trans (congrArg (·.2.1) hv₃.2))
    rw [hb', hd₂, UInt32.toNat_toUInt64, hset.bufferSize_toNat]
  have hframes : (req.settle (v₁.constraints.choose (Hw.HwParams.ofConfig req flags)).params).bufferSize
      = ps.toNat * req.periodCount.toNat := by
    rw [hset.settle]
    rfl
  have hps := toNat_pos_of_ne_zero hset.periodSize_ne
  have hpc := toNat_pos_of_ne_zero ((StreamConfig.problem?_eq_none_iff req).1 hr).2.2.2.1
  refine ⟨hring ▸ establish_below he, by rw [hsize, hbound]; exact hle, by rw [hbound]; exact hB',
    by rw [hbound, hsize], ⟨?_, ?_⟩, fun hm => ?_⟩
  · rw [hdev]
    have := Nat.mul_pos hps hpc
    omega
  · rw [hdev, hsize, hframes]
    exact min_le_left _ _
  · obtain rfl : ring = .mapped := hring.symm.trans hm
    exact (congrArg (·.2.2) hv'.2).trans (establish_records hv₃.1 he)

end SoundCard.Virtual
