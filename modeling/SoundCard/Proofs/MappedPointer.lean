import SoundCard.Proofs.FramePlacement
import SoundCard.Proofs.StreamRun
/-! The application pointer on the mapped path, over a device that keeps it where the ring looks
(`ApplHome`). -/
namespace SoundCard.Pcm

open SoundCard.Os

variable {σ : Type}

/-- How a device keeps the application pointer where a mapped or synchronised ring looks for it;
only the stream moves it. -/
structure ApplHome (D : PcmDevice σ) (mapped : Bool) where
  home : σ → Prop
  appl : σ → UInt64
  fetch {q q' : SyncRecord} {d d' : σ} : home d → q.flags &&& SyncFlag.appl ≠ 0 →
    Returns (D.syncPtr q) d (.ok q') d' → q'.control.applPtr = appl d ∧ appl d' = appl d ∧ home d'
  push {q q' : SyncRecord} {d d' : σ} : mapped = false → home d →
    q.flags &&& SyncFlag.appl = 0 → Returns (D.syncPtr q) d (.ok q') d' →
    appl d' = q.control.applPtr ∧ home d'
  control {d : σ} : mapped = true → home d → (D.control d).applPtr = appl d
  setControl {d : σ} (c : ControlRecord) : mapped = true → home d →
    appl (D.setControl c d) = c.applPtr ∧ home (D.setControl c d)
  prepare {d d' : σ} : home d → Returns D.prepare d (.ok ()) d' → appl d' = 0 ∧ home d'
  start {d d' : σ} : home d → Returns D.start d (.ok ()) d' → appl d' = appl d ∧ home d'
  wait {t : Int} {b : Bool} {d d' : σ} : home d → Returns (D.wait t) d (.ok b) d' →
    appl d' = appl d ∧ home d'

namespace ApplHome

variable {D : PcmDevice σ} {mapped : Bool} (H : ApplHome D mapped)

/-- A synchronisation that asks for the pointer leaves the ring looking at it. -/
theorem sync_fetch {g g' : Ring} {flags : UInt32} {d d' : σ} (hd : H.home d)
    (hg : g.isMapped = mapped) (hf : flags &&& SyncFlag.appl ≠ 0)
    (h : Returns (g.sync D flags) d (.ok g') d') :
    g'.isMapped = mapped ∧ H.home d' ∧ H.appl d' = H.appl d ∧ g'.applPtr D d' = H.appl d := by
  cases g with
  | mapped =>
    obtain ⟨h₁, rfl⟩ := returns_pure.1 h
    cases h₁
    exact ⟨hg, hd, rfl, H.control hg.symm hd⟩
  | synced q =>
    rcases returns_bind.1 h with ⟨e, he, -⟩ | ⟨q', d₁, h₁, h₂⟩
    · cases he
    obtain ⟨h₂, rfl⟩ := returns_pure.1 h₂
    cases h₂
    obtain ⟨hq, happl, hhome⟩ := H.fetch hd hf h₁
    exact ⟨hg, hhome, happl, hq⟩

theorem sync_push {g g' : Ring} {d d' : σ} (hd : H.home d) (hg : g.isMapped = mapped)
    (h : Returns (g.sync D 0) d (.ok g') d') :
    g'.isMapped = mapped ∧ H.home d' ∧ H.appl d' = g.applPtr D d := by
  cases g with
  | mapped =>
    obtain ⟨h₁, rfl⟩ := returns_pure.1 h
    cases h₁
    exact ⟨hg, hd, (H.control hg.symm hd).symm⟩
  | synced q =>
    rcases returns_bind.1 h with ⟨e, he, -⟩ | ⟨q', d₁, h₁, h₂⟩
    · cases he
    obtain ⟨h₂, rfl⟩ := returns_pure.1 h₂
    cases h₂
    obtain ⟨happl, hhome⟩ := H.push hg.symm hd (show (0 : UInt32) &&& SyncFlag.appl = 0 by decide) h₁
    exact ⟨hg, hhome, happl⟩

theorem set_then_push {g g' : Ring} {v : UInt64} {d d' : σ} (hd : H.home d)
    (hg : g.isMapped = mapped)
    (h : Returns ((g.setApplPtr D v d).1.sync D 0) (g.setApplPtr D v d).2 (.ok g') d') :
    g'.isMapped = mapped ∧ H.home d' ∧ H.appl d' = v := by
  cases g with
  | mapped =>
    obtain ⟨hset, hhome⟩ := H.setControl { D.control d with applPtr := v } hg.symm hd
    obtain ⟨hk, hd', happl⟩ := H.sync_push hhome hg h
    exact ⟨hk, hd', happl.trans ((H.control hg.symm hhome).trans hset)⟩
  | synced q =>
    obtain ⟨hk, hd', happl⟩ := H.sync_push (g := .synced { q with control := { q.control with
      applPtr := v } }) hd hg h
    exact ⟨hk, hd', happl⟩

end ApplHome

theorem toNat_of_addU64 {a b c : UInt64} (h : addU64 a b = .ok c) :
    c.toNat = a.toNat + b.toNat := by
  unfold addU64 addWord at h
  split at h
  · next hlt =>
    cases h
    exact UInt64.toNat_ofNat_of_lt' hlt
  · cases h

namespace PcmStream

variable {D : PcmDevice σ} {mapped : Bool} (H : ApplHome D mapped)

/-- The handle is ready, its ring is of the kind `H` is for, and the device keeps the
application pointer where that ring looks. -/
structure Homed (s : PcmStream σ) : Prop where
  attached : s.attached = true
  ring : ∃ g, s.ring = some g ∧ g.isMapped = mapped
  home : H.home s.driver

variable {H} {s s' : PcmStream σ}

theorem returns_readRing_bind {β γ : Type} {g : Ring} {f : σ → Ring → β}
    {k : β → StreamM σ γ} {r : Except StreamError γ} (ha : s.attached = true)
    (hg : s.ring = some g) :
    Returns (readRing f >>= k) s r s' ↔ Returns (k (f s.driver g)) s r s' := by
  unfold readRing
  rw [bind_assoc, returns_parts_bind ha hg, bind_assoc, returns_get_bind, pure_bind]

theorem returns_fail_bind {β γ : Type} {e : StreamError} {k : β → StreamM σ γ}
    {r : Except StreamError γ} :
    Returns (fail e >>= k) s r s' ↔ r = .error e ∧ s' = { s with error := e.stored } := by
  unfold fail
  rw [bind_assoc, returns_modify_bind, returns_throw_bind]

/-- A synchronisation that asks for the application pointer: only the device and the ring
change, and the ring then shows the pointer the device keeps. -/
theorem syncRing_fetch {flags : UInt32} (hs : Homed H s) (hf : flags &&& SyncFlag.appl ≠ 0)
    (h : Returns (syncRing D flags) s (.ok (.ok ())) s') :
    Homed H s' ∧ H.appl s'.driver = H.appl s.driver ∧
      (∃ g, s'.ring = some g ∧ g.applPtr D s'.driver = H.appl s'.driver) ∧
      s' = { s with driver := s'.driver, ring := s'.ring } := by
  obtain ⟨g, hg, hk⟩ := hs.ring
  unfold syncRing at h
  rw [returns_parts_bind hs.attached hg, returns_ask_bind] at h
  obtain ⟨o, d, hsync, h⟩ := h
  rcases o with e | g'
  · cases (returns_pure.1 h).1
  · dsimp only at h
    rw [returns_modify_bind] at h
    obtain ⟨-, rfl⟩ := returns_pure.1 h
    obtain ⟨hk', hd, happl, hview⟩ := H.sync_fetch hs.home hk hf hsync
    exact ⟨⟨hs.attached, ⟨g', rfl, hk'⟩, hd⟩, happl, ⟨g', rfl, hview.trans happl.symm⟩, rfl⟩

/-- The pointer update of the mapped path: only the device and the ring change, and the
ring then shows the pointer the device keeps. -/
theorem availUpdate_ok {a : UInt64} (hs : Homed H s) (h : Returns (availUpdate D) s (.ok a) s') :
    Homed H s' ∧ H.appl s'.driver = H.appl s.driver ∧
      (∃ g, s'.ring = some g ∧ g.applPtr D s'.driver = H.appl s'.driver) ∧
      s' = { s with driver := s'.driver, ring := s'.ring } := by
  obtain ⟨g, hg, -⟩ := hs.ring
  unfold availUpdate at h
  rw [returns_parts_bind hs.attached hg] at h
  rcases returns_bind.1 h with ⟨e, he, -⟩ | ⟨o, s₁, hsync, h⟩
  · cases he
  rcases o with e | ⟨⟩
  · dsimp only at h
    split at h <;> cases (returns_fail.1 h).1
  · obtain ⟨hs₁, happl, ⟨g₁, hg₁, hview⟩, hframe⟩ := syncRing_fetch hs (by decide) hsync
    dsimp only at h
    rw [returns_get_bind, returns_readRing_bind hs₁.attached hg₁,
      returns_readRing_bind hs₁.attached hg₁] at h
    obtain ⟨-, -, -, rfl⟩ := returns_lift.1 h
    exact ⟨hs₁, happl, ⟨g₁, hg₁, hview⟩, hframe⟩

/-- Taking a run: it starts at the application pointer modulo the buffer, stops at the end of
the buffer, and is no longer than asked nor than the free frames the pointer update found. -/
theorem mmapBegin_ok {k : Nat} {run : MmapRun} (hs : Homed H s)
    (h : Returns (mmapBegin D k) s (.ok run) s') :
    Homed H s' ∧ H.appl s'.driver = H.appl s.driver ∧
      s' = { s with driver := s'.driver, ring := s'.ring } ∧
      run.offset = (H.appl s.driver).toNat % max s.bufferSize.toNat 1 ∧
      run.offset + run.frames ≤ max s.bufferSize.toNat 1 ∧ run.frames ≤ k ∧
      ∃ a s₁, Returns (availUpdate D) s (.ok a) s₁ ∧ run.frames ≤ a.toNat := by
  unfold mmapBegin at h
  rw [returns_get_bind] at h
  split at h
  · cases (returns_fail_bind.1 h).1
  rcases returns_bind.1 h with ⟨e, he, -⟩ | ⟨a, s₁, hav, h⟩
  · cases he
  obtain ⟨hs₁, happl, ⟨g₁, hg₁, hview⟩, hframe⟩ := availUpdate_ok hs hav
  rw [returns_get_bind, returns_readRing_bind hs₁.attached hg₁] at h
  obtain ⟨hrun, hs'⟩ := returns_pure.1 h
  cases hrun
  rw [hs']
  have hbs : s₁.bufferSize = s.bufferSize := by rw [hframe]
  have hb : (max s.bufferSize 1).toNat = max s.bufferSize.toNat 1 := by
    rw [UInt64.toNat_max]
    rfl
  have hmod : (H.appl s.driver % max s.bufferSize 1).toNat =
      (H.appl s.driver).toNat % max s.bufferSize.toNat 1 := by
    rw [UInt64.toNat_mod, hb]
  have hlt := Nat.mod_lt (H.appl s.driver).toNat (show 0 < max s.bufferSize.toNat 1 by omega)
  have hsub : (max s.bufferSize 1 - H.appl s.driver % max s.bufferSize 1).toNat =
      max s.bufferSize.toNat 1 - (H.appl s.driver).toNat % max s.bufferSize.toNat 1 := by
    rw [UInt64.toNat_sub_of_le _ _ (UInt64.le_iff_toNat_le.2 (by rw [hmod, hb]; omega)), hmod,
      hb]
  dsimp only
  rw [hview, happl, hbs, hmod, hsub]
  exact ⟨hs₁, rfl, hframe, rfl, by omega, by omega, a, s₁, hav, by omega⟩

/-- Handing a run back moves the application pointer the device keeps by the run, modulo the
boundary; only the device and the ring change. -/
theorem mmapCommit_ok {run : MmapRun} (hs : Homed H s) (hk : run.frames < UInt64.size)
    (h : Returns (mmapCommit D run) s (.ok ()) s') :
    Homed H s' ∧
      (H.appl s'.driver).toNat = ((H.appl s.driver).toNat + run.frames) % max s.boundary.toNat 1 ∧
      s' = { s with driver := s'.driver, ring := s'.ring } := by
  unfold mmapCommit at h
  rcases returns_bind.1 h with ⟨e, he, -⟩ | ⟨a, s₁, hav, h⟩
  · cases he
  obtain ⟨hs₁, happl, ⟨g₁, hg₁, hview⟩, hframe⟩ := availUpdate_ok hs hav
  obtain ⟨g₀, hg₀, hk₁⟩ := hs₁.ring
  rw [hg₀] at hg₁
  cases hg₁
  split at h
  · cases (returns_fail_bind.1 h).1
  rw [returns_get_bind, returns_parts_bind hs₁.attached hg₀, returns_get_bind] at h
  rcases returns_bind.1 h with ⟨e, he, -⟩ | ⟨x, s₂, hlift, h⟩
  · cases he
  obtain ⟨x', hx, hxx, rfl⟩ := returns_lift.1 hlift
  cases hxx
  rw [returns_modify_bind] at h
  rcases hset : Ring.setApplPtr D (x % max s₂.boundary 1) g₁ s₂.driver with ⟨r', d₁⟩
  rw [hset] at h
  dsimp only at h
  rcases returns_bind.1 h with ⟨e, he, -⟩ | ⟨o, s₃, hsync, h⟩
  · cases he
  unfold syncRing at hsync
  rw [returns_parts_bind (g := r')
    (show ({ s₂ with driver := d₁, ring := some r' } : PcmStream σ).attached = true from
      hs₁.attached) rfl, returns_ask_bind] at hsync
  obtain ⟨o', d', hdev, hsync⟩ := hsync
  rcases o' with e | g''
  · obtain ⟨ho, rfl⟩ := returns_pure.1 hsync
    cases ho
    cases (returns_fail.1 h).1
  dsimp only at hsync
  rw [returns_modify_bind] at hsync
  obtain ⟨ho, rfl⟩ := returns_pure.1 hsync
  cases ho
  obtain ⟨-, rfl⟩ := returns_pure.1 h
  obtain ⟨hk₂, hd', happl'⟩ := H.set_then_push (g := g₁) (v := x % max s₂.boundary 1)
    (d := s₂.driver) hs₁.home hk₁ (by rw [hset]; exact hdev)
  have hx' := toNat_of_addU64 hx
  rw [hview, happl, UInt64.toNat_ofNat_of_lt' hk] at hx'
  have hb : s₂.boundary = s.boundary := by rw [hframe]
  refine ⟨⟨hs₁.attached, ⟨g'', rfl, hk₂⟩, hd'⟩, ?_, ?_⟩
  · show (H.appl d').toNat = _
    rw [happl', UInt64.toNat_mod, UInt64.toNat_max, hx', hb]
    rfl
  · rw [hframe]

/-- Preparing resets the application pointer and leaves the stream prepared and not
running; only the device, the ring and those flags change. -/
theorem prepare_ok (hs : Homed H s) (h : Returns (prepare D) s (.ok ()) s') :
    Homed H s' ∧ H.appl s'.driver = 0 ∧
      s' = { s with driver := s'.driver, ring := s'.ring, prepared := true, running := false } := by
  obtain ⟨g, hg, hk⟩ := hs.ring
  unfold prepare at h
  rw [returns_parts_bind hs.attached hg, returns_ask_bind] at h
  obtain ⟨o, d, hprep, h⟩ := h
  rcases o with e | ⟨⟩ <;> dsimp only at h
  · cases (returns_fail.1 h).1
  obtain ⟨happl, hd⟩ := H.prepare hs.home hprep
  rcases returns_bind.1 h with ⟨e, he, -⟩ | ⟨o, s₁, hsync, h⟩
  · cases he
  rcases o with e | ⟨⟩ <;> dsimp only at h
  · cases (returns_fail.1 h).1
  obtain ⟨hs₁, happl₁, -, hframe⟩ :=
    syncRing_fetch (s := { s with driver := d }) ⟨hs.attached, ⟨g, hg, hk⟩, hd⟩ (by decide) hsync
  obtain ⟨-, rfl⟩ := returns_modify.1 h
  refine ⟨⟨hs₁.attached, hs₁.ring, hs₁.home⟩, happl₁.trans happl, ?_⟩
  rw [hframe]

/-- Starting leaves the stream prepared and running. It prepares first when the stream was
not prepared, which resets the application pointer; otherwise the pointer stays. -/
theorem start_ok (hs : Homed H s) (h : Returns (start D) s (.ok ()) s') :
    Homed H s' ∧ H.appl s'.driver = (if s.prepared then H.appl s.driver else 0) ∧
      s' = { s with driver := s'.driver, ring := s'.ring, prepared := true, running := true } := by
  have hready : s.isReady = true := by
    obtain ⟨g, hg, -⟩ := hs.ring
    simp [isReady, hs.attached, hg]
  unfold start at h
  rw [returns_get_bind, if_neg (by simp [hready])] at h
  dsimp only at h
  rw [returns_get_bind] at h
  rcases returns_bind.1 (returns_join.1 h) with ⟨e, he, -⟩ | ⟨u, t, hpre, h⟩
  · cases he
  have hprep : Homed H t ∧ H.appl t.driver = (if s.prepared then H.appl s.driver else 0) ∧
      t = { s with
        driver := t.driver, ring := t.ring, prepared := t.prepared, running := t.running } ∧
      t.prepared = true := by
    split at hpre
    · next hp =>
      obtain ⟨ht, happl, hframe⟩ := prepare_ok hs hpre
      refine ⟨ht, by rw [if_neg (by simpa using hp), happl], by rw [hframe], by rw [hframe]⟩
    · next hp =>
      obtain ⟨-, hts⟩ := returns_pure.1 hpre
      have hsp : s.prepared = true := by simpa using hp
      rw [hts]
      exact ⟨hs, by rw [if_pos hsp], rfl, hsp⟩
  obtain ⟨ht, happl_t, hframe_t, hprep_t⟩ := hprep
  obtain ⟨g, hg, hk⟩ := ht.ring
  rw [returns_parts_bind ht.attached hg, returns_ask_bind] at h
  obtain ⟨o, d, hdev, h⟩ := h
  rcases o with e | ⟨⟩ <;> dsimp only at h
  · cases (returns_fail.1 h).1
  obtain ⟨happl, hd⟩ := H.start ht.home hdev
  obtain ⟨-, rfl⟩ := returns_modify.1 h
  refine ⟨⟨ht.attached, ⟨g, hg, hk⟩, hd⟩, happl.trans happl_t, ?_⟩
  rw [hframe_t, hprep_t]

theorem wait_ok {t : Int} {b : Bool} (hs : Homed H s) (h : Returns (wait D t) s (.ok b) s') :
    Homed H s' ∧ H.appl s'.driver = H.appl s.driver ∧ s' = { s with driver := s'.driver } := by
  obtain ⟨g, hg, hk⟩ := hs.ring
  unfold wait at h
  rw [returns_parts_bind hs.attached hg, returns_ask_bind] at h
  obtain ⟨o, d, hdev, h⟩ := h
  rcases o with e | b'
  · exact (yields_ite (P := fun _ => False) (yields_bind (yields_true _) fun _ _ => yields_fail _)
      (yields_fail _) _ _ _ h).elim
  · obtain ⟨-, rfl⟩ := returns_pure.1 h
    obtain ⟨happl, hd⟩ := H.wait hs.home hdev
    exact ⟨⟨hs.attached, ⟨g, hg, hk⟩, hd⟩, happl, rfl⟩

section Counts

/-! None of the steps of the mapped loops forgets an xrun. -/

theorem counts_get : Counts (get : StreamM σ (PcmStream σ)) := by
  intro s r s' h
  rw [(returns_get.1 h).2]

theorem counts_parts : Counts (parts : StreamM σ Ring) := by
  intro s r s' h
  rw [(returns_parts h).1]

theorem counts_lift {α : Type} {t : Trapping α} : Counts (monadLift t : StreamM σ α) := by
  intro s r s' h
  obtain ⟨_, -, -, rfl⟩ := returns_lift.1 h
  exact le_rfl

theorem counts_attempt {α : Type} {m : StreamM σ α} (hm : Counts m) : Counts (attempt m) := by
  intro s r s' h
  obtain ⟨o, -, h⟩ := returns_attempt.1 h
  exact hm s o s' h

theorem counts_readRing {α : Type} (f : σ → Ring → α) : Counts (readRing f) := by
  unfold readRing
  exact counts_bind counts_parts fun _ => counts_bind counts_get fun _ => counts_pure _

variable (D : PcmDevice σ)

theorem counts_syncRing (flags : UInt32) : Counts (syncRing D flags) :=
  (calm_syncRing (fun _ => leaves_unit _) flags).counts

theorem counts_prepare : Counts (prepare D) :=
  (calm_prepare (leaves_unit _) fun _ => leaves_unit _).counts

theorem counts_start : Counts (start D) :=
  (calm_start (leaves_unit _) (fun _ => leaves_unit _) (leaves_unit _)).counts

theorem counts_availUpdate : Counts (availUpdate D) := by
  unfold availUpdate
  refine counts_bind counts_parts fun _ => counts_bind (counts_syncRing D _) fun o => ?_
  rcases o with e | ⟨⟩
  · exact counts_ite (counts_fail _) (counts_fail _)
  · exact counts_bind counts_get fun _ => counts_bind (counts_readRing _) fun _ =>
      counts_bind (counts_readRing _) fun _ => counts_lift

theorem counts_mmapBegin (k : Nat) : Counts (mmapBegin D k) := by
  unfold mmapBegin
  refine counts_bind counts_get fun _ => ?_
  dsimp only
  refine counts_ite (counts_bind (counts_fail _) fun _ => ?_) ?_
  all_goals exact counts_bind (counts_availUpdate D) fun _ => counts_bind counts_get fun _ =>
    counts_bind (counts_readRing _) fun _ => counts_pure _

theorem counts_mmapCommit (run : MmapRun) : Counts (mmapCommit D run) := by
  unfold mmapCommit
  refine counts_bind (counts_availUpdate D) fun _ => ?_
  dsimp only
  refine counts_ite (counts_bind (counts_fail _) fun _ => ?_) ?_
  all_goals
    refine counts_bind counts_get fun _ => counts_bind counts_parts fun _ =>
      counts_bind counts_get fun _ => counts_bind counts_lift fun _ =>
      counts_bind (counts_modify fun _ => le_rfl) fun _ =>
      counts_bind (counts_syncRing D _) fun o => ?_
    rcases o with e | ⟨⟩
    · exact counts_fail _
    · exact counts_pure _

theorem counts_areaPut (offset : Nat) (src : ByteArray) :
    Counts (areaPut offset src : StreamM σ Unit) := by
  refine counts_modify fun s => ?_
  split <;> exact le_rfl

theorem counts_state : Counts (state D) := by
  unfold state
  refine counts_bind counts_parts fun _ => counts_bind (counts_syncRing D _) fun o => ?_
  rcases o with e | ⟨⟩
  · exact counts_bind (counts_fail _) fun _ => counts_bind (counts_readRing _) fun _ => counts_pure _
  · exact counts_bind (counts_readRing _) fun _ => counts_pure _

theorem counts_wait (t : Int) : Counts (wait D t) := by
  unfold wait
  refine counts_bind counts_parts fun _ => counts_bind (counts_ask _) fun o => ?_
  rcases o with e | b
  · exact counts_ite (counts_bind (counts_state D) fun _ => counts_fail _) (counts_fail _)
  · exact counts_pure _

theorem counts_recoverXrun (c : String) (retried : Bool) : Counts (recoverXrun c retried : StreamM σ Unit) := by
  unfold recoverXrun
  refine counts_bind counts_noteXrun fun _ => counts_bind counts_get fun _ => ?_
  exact counts_ite (counts_fail _) (counts_pure _)

theorem counts_mmapWait (done : Nat) (retried : Bool) : Counts (mmapWait D done retried) := by
  unfold mmapWait
  refine counts_bind counts_get fun _ => ?_
  dsimp only
  refine counts_ite (counts_bind (counts_fail _) fun _ => ?_) ?_
  all_goals
    refine counts_bind counts_get fun _ => counts_bind counts_lift fun _ =>
      counts_bind (counts_attempt (counts_wait D _)) fun o => ?_
    split
    · exact counts_pure _
    · exact counts_fail _
    · exact counts_bind (counts_recoverXrun _ _) fun _ => counts_pure _
    · exact counts_throw _

theorem counts_mmapWriteFrom (data : ByteArray) (frames : Nat) (startAt : UInt64) :
    ∀ rounds done retried, Counts (mmapWriteFrom D data frames startAt rounds done retried)
  | 0, _, _ => by
    rw [mmapWriteFrom]
    exact counts_fail _
  | rounds + 1, done, retried => by
    have ih := counts_mmapWriteFrom data frames startAt rounds
    rw [mmapWriteFrom]
    refine counts_ite ?_ (counts_pure _)
    refine counts_bind counts_get fun _ => counts_join (counts_prepare D) fun _ => ?_
    refine counts_bind (counts_attempt (counts_availUpdate D)) fun o => ?_
    split
    · exact counts_bind (counts_recoverXrun _ _) fun _ => ih _ _
    · exact counts_throw _
    refine counts_bind counts_get fun _ => counts_join (counts_start D) fun _ => ?_
    refine counts_ite (counts_bind counts_get fun _ => counts_join (counts_start D) fun _ =>
      counts_bind (counts_mmapWait D _ _) fun _ => ih _ _) ?_
    exact counts_bind (counts_mmapBegin D _) fun _ => counts_bind counts_get fun _ =>
      counts_bind (counts_areaPut _ _) fun _ => counts_bind (counts_mmapCommit D _) fun _ => ih _ _

theorem counts_mmapReadFrom (frames : Nat) :
    ∀ rounds data done retried, Counts (mmapReadFrom D frames rounds data done retried)
  | 0, _, _, _ => by
    rw [mmapReadFrom]
    exact counts_fail _
  | rounds + 1, data, done, retried => by
    have ih := counts_mmapReadFrom frames rounds
    rw [mmapReadFrom]
    refine counts_ite ?_ (counts_pure _)
    refine counts_bind counts_get fun _ => counts_join (counts_start D) fun _ => ?_
    refine counts_bind (counts_attempt (counts_availUpdate D)) fun o => ?_
    split
    · exact counts_bind (counts_recoverXrun _ _) fun _ => ih _ _ _
    · exact counts_throw _
    refine counts_ite (counts_bind (counts_mmapWait D _ _) fun _ => ih _ _ _) ?_
    exact counts_bind (counts_mmapBegin D _) fun _ => counts_bind counts_get fun _ =>
      counts_bind (counts_mmapCommit D _) fun _ => ih _ _ _

end Counts

theorem recoverXrun_counted {c : String} {retried : Bool}
    (h : Returns (recoverXrun c retried) s (.ok ()) s') :
    s'.underruns.toNat = s.underruns.toNat + 1 := by
  unfold recoverXrun at h
  rcases returns_bind.1 h with ⟨e, he, -⟩ | ⟨u, s₁, hn, h⟩
  · cases he
  obtain ⟨-, hroom, rfl⟩ := returns_noteXrun hn
  rw [returns_get_bind] at h
  split at h
  · cases (returns_fail.1 h).1
  · rw [(returns_pure.1 h).2]
    exact toNat_add_one_of_lt hroom

/-- A wait of the mapped path that counts no xrun waited for the device and changed only the
device, which keeps the pointer. -/
theorem mmapWait_ok {done : Nat} {retried b : Bool} (hs : Homed H s)
    (h : Returns (mmapWait D done retried) s (.ok b) s') (hu : s'.underruns = s.underruns) :
    Homed H s' ∧ H.appl s'.driver = H.appl s.driver ∧ s' = { s with driver := s'.driver } := by
  unfold mmapWait at h
  rw [returns_get_bind] at h
  split at h
  · cases (returns_fail_bind.1 h).1
  rw [returns_get_bind] at h
  rcases returns_bind.1 h with ⟨e, he, -⟩ | ⟨t, s₁, hlift, h₁⟩
  · cases he
  obtain ⟨-, -, -, hs₁⟩ := returns_lift.1 hlift
  rw [hs₁] at h₁
  rcases returns_bind.1 h₁ with ⟨e, he, -⟩ | ⟨o, s₂, hatt, h⟩
  · cases he
  have hcount := counts_attempt (counts_wait D t) s _ s₂ hatt
  obtain ⟨o', ho, hw⟩ := returns_attempt.1 hatt
  cases ho
  split at h
  · obtain ⟨-, rfl⟩ := returns_pure.1 h
    exact wait_ok hs hw
  · cases (returns_fail.1 h).1
  · rcases returns_bind.1 h with ⟨e, he, -⟩ | ⟨u, s₃, hrec, h⟩
    · cases he
    obtain ⟨-, rfl⟩ := returns_pure.1 h
    have := recoverXrun_counted hrec
    rw [hu] at this
    omega
  · cases (returns_throw.1 h).1

theorem areaGet_heap {off : Nat} {dst area : ByteArray} (hd : s.data = some (.heap area)) :
    s.areaGet off dst = (areaRead area off dst).1 := by
  unfold areaGet
  rw [hd]

theorem areaPut_heap {off : Nat} {src area : ByteArray} {r : Except StreamError Unit}
    (hd : s.data = some (.heap area)) (h : Returns (areaPut off src) s r s') :
    r = .ok () ∧ s' = { s with data := some (.heap (areaWrite area off src).1) } := by
  unfold areaPut at h
  obtain ⟨rfl, rfl⟩ := returns_modify.1 h
  rw [hd]
  exact ⟨rfl, rfl⟩

end PcmStream

end SoundCard.Pcm
