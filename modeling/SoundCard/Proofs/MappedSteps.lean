import SoundCard.Proofs.MappedProgress
/-! The operations of the mapped path run forward (`Runs`) on a handle that is `MapReady`. -/
namespace SoundCard.Pcm

open SoundCard.Os

/-! ## Runs that return -/

section Runs

variable {ε S α β : Type} {m x : ExceptT ε (StateT S Trapping) α}
  {f : α → ExceptT ε (StateT S Trapping) β} {s s₁ s₂ : S} {r₁ r₂ : Except ε α}
  {Q Q' : Except ε α → S → Prop}

/-- `m` returns from `s` without stopping the program, and its outcome and the state it leaves
pass `Q`. -/
def Runs (m : ExceptT ε (StateT S Trapping) α) (s : S) (Q : Except ε α → S → Prop) : Prop :=
  ∃ r s', Returns m s r s' ∧ Q r s'

theorem Returns.determ (h₁ : Returns m s r₁ s₁) (h₂ : Returns m s r₂ s₂) : r₁ = r₂ ∧ s₁ = s₂ := by
  unfold Returns at h₁ h₂
  rw [h₁] at h₂
  cases h₂
  exact ⟨rfl, rfl⟩

theorem Runs.post (h : Runs m s Q) (h' : Returns m s r₁ s₁) : Q r₁ s₁ := by
  obtain ⟨r, s', hr, hq⟩ := h
  obtain ⟨rfl, rfl⟩ := hr.determ h'
  exact hq

theorem Runs.mono (h : Runs m s Q) (hq : ∀ r s', Q r s' → Q' r s') : Runs m s Q' := by
  obtain ⟨r, s', hr, h⟩ := h
  exact ⟨r, s', hr, hq r s' h⟩

theorem runs_of_returns (h : Returns m s r₁ s₁) (hq : Q r₁ s₁) : Runs m s Q :=
  ⟨r₁, s₁, h, hq⟩

theorem runs_bind {Q : Except ε β → S → Prop}
    (hx : Runs x s fun r s₁ => match r with
      | .ok a => Runs (f a) s₁ Q
      | .error e => Q (.error e) s₁) :
    Runs (x >>= f) s Q := by
  obtain ⟨r, s₁, h₁, h⟩ := hx
  rcases r with e | a
  · exact ⟨_, _, returns_bind.2 (.inl ⟨e, rfl, h₁⟩), h⟩
  · obtain ⟨r, s', h₂, hq⟩ := h
    exact ⟨r, s', returns_bind.2 (.inr ⟨a, s₁, h₁, h₂⟩), hq⟩

theorem runs_bind_of_returns {Q : Except ε β → S → Prop} {a : α} (hx : Returns x s (.ok a) s₁)
    (hf : Runs (f a) s₁ Q) : Runs (x >>= f) s Q :=
  runs_bind ⟨_, _, hx, hf⟩

theorem runs_get_bind {f : S → ExceptT ε (StateT S Trapping) β} {Q : Except ε β → S → Prop} :
    Runs (get >>= f) s Q ↔ Runs (f s) s Q :=
  Iff.rfl

theorem runs_modify_bind {g : S → S} {f : PUnit → ExceptT ε (StateT S Trapping) β}
    {Q : Except ε β → S → Prop} : Runs (modify g >>= f) s Q ↔ Runs (f ()) (g s) Q :=
  Iff.rfl

theorem runs_join {c : Prop} [Decidable c] {y : ExceptT ε (StateT S Trapping) Unit}
    {k : Unit → ExceptT ε (StateT S Trapping) β} {Q : Except ε β → S → Prop}
    (h : Runs ((if c then y else pure ()) >>= k) s Q) : Runs (if c then y >>= k else k ()) s Q := by
  obtain ⟨r, s', hr, hq⟩ := h
  exact ⟨r, s', returns_join.2 hr, hq⟩

end Runs

namespace PcmStream

variable {σ α β : Type} {s : PcmStream σ} {Q : Except StreamError β → PcmStream σ → Prop}

theorem runs_parts_bind {g : Ring} {f : Ring → StreamM σ β} (ha : s.attached = true)
    (hg : s.ring = some g) : Runs (parts >>= f) s Q ↔ Runs (f g) s Q := by
  simp only [Runs, returns_parts_bind ha hg]

theorem runs_readRing_bind {g : Ring} {f : σ → Ring → α} {k : α → StreamM σ β}
    (ha : s.attached = true) (hg : s.ring = some g) :
    Runs (readRing f >>= k) s Q ↔ Runs (k (f s.driver g)) s Q := by
  simp only [Runs, returns_readRing_bind ha hg]

theorem runs_ask_bind {m : DeviceM σ α} {f : Except IoError α → StreamM σ β} {o : Except IoError α}
    {d : σ} (hm : Returns m s.driver o d) (hf : Runs (f o) { s with driver := d } Q) :
    Runs (ask m >>= f) s Q := by
  obtain ⟨r, s', h, hq⟩ := hf
  exact ⟨r, s', returns_ask_bind.2 ⟨o, d, hm, h⟩, hq⟩

end PcmStream

end SoundCard.Pcm

namespace SoundCard.Virtual

open SoundCard.Pcm SoundCard.Os PcmStream VirtualM


/-- A ring whose own copy of the application pointer, when it keeps one, lies below 2^63. -/
def ringBelow : Ring → Prop
  | .mapped => True
  | .synced q => q.control.applPtr.toNat < 2 ^ 63

/-- What synchronising a ring under `flags` does to it and to the virtual device: a mapped ring
asks nothing, a kept copy goes to the device with the flags and comes back answered. -/
def syncedRing (flags : UInt32) : Ring → VirtualPcm → Ring × VirtualPcm
  | .mapped, d => (.mapped, d)
  | .synced q, d =>
    (.synced (syncedRecord d { q with flags := flags }), synced d { q with flags := flags })

/-- The handle after its ring was synchronised under `flags`. -/
def afterSync (flags : UInt32) (s : PcmStream VirtualPcm) (g : Ring) : PcmStream VirtualPcm :=
  { s with driver := (syncedRing flags g s.driver).2, ring := some (syncedRing flags g s.driver).1 }

/-- The flags of the mapped path's pointer update: take the application pointer, move the
hardware one. -/
abbrev fetchFlags : UInt32 := SyncFlag.appl ||| SyncFlag.hwsync

section SyncedRing

variable {d : VirtualPcm} {g : Ring} {flags : UInt32}

theorem syncedRing_serves (hd : d.Serves) (hg : ringBelow g) (flags : UInt32) :
    (syncedRing flags g d).2.Serves ∧ ringBelow (syncedRing flags g d).1 := by
  cases g with
  | mapped => exact ⟨hd, trivial⟩
  | synced q =>
    have hp := pointersBelow_synced (q := { q with flags := flags }) hd.pointers hg
    simp only [syncedRing]
    exact ⟨⟨hd.unfailing.of_failures (by simp), by simpa using hd.calm, hp⟩, hp.1⟩

@[simp] theorem calls_syncedRing : (syncedRing flags g d).2.calls .wait = d.calls .wait := by
  cases g <;> simp [syncedRing]

theorem syncedRing_again (hd : d.Serves) (g : Ring) :
    (syncedRing fetchFlags (syncedRing fetchFlags g d).1 (syncedRing fetchFlags g d).2).1 =
      (syncedRing fetchFlags g d).1 := by
  cases g with
  | mapped => rfl
  | synced q =>
    have h₁ := syncPtr_returns hd.unfailing hd.calm { q with flags := fetchFlags }
    have h₂ := syncPtr_returns (v := synced d { q with flags := fetchFlags })
      (hd.unfailing.of_failures (by simp)) (by simpa using hd.calm)
      { syncedRecord d { q with flags := fetchFlags } with flags := fetchFlags }
    simp only [syncedRing]
    rw [syncPtr_fetch_again h₁ h₂ rfl]

end SyncedRing

variable {s : PcmStream VirtualPcm} {g : Ring}

theorem syncRing_returns (ha : s.attached = true) (hg : s.ring = some g) (hd : s.driver.Serves)
    (flags : UInt32) :
    Returns (syncRing VirtualPcm.driver flags) s (.ok (.ok ())) (afterSync flags s g) := by
  unfold syncRing
  rw [returns_parts_bind ha hg, returns_ask_bind]
  cases g with
  | mapped =>
    exact ⟨.ok .mapped, s.driver, returns_pure.2 ⟨rfl, rfl⟩,
      returns_modify_bind.2 (returns_pure.2 ⟨rfl, rfl⟩)⟩
  | synced q =>
    refine ⟨.ok (.synced (syncedRecord s.driver { q with flags := flags })),
      synced s.driver { q with flags := flags }, ?_,
      returns_modify_bind.2 (returns_pure.2 ⟨rfl, rfl⟩)⟩
    exact (returns_bind_of_returns (syncPtr_returns hd.unfailing hd.calm _)).2
      (returns_pure.2 ⟨rfl, rfl⟩)

/-- The free frames the mapped path's pointer update reads, from the pointers the ring shows
once synchronised. -/
def fetchedAvail (s : PcmStream VirtualPcm) (g : Ring) : Trapping UInt64 :=
  wrappedAvail (!s.isCapture)
    ((syncedRing fetchFlags g s.driver).1.hwPtr VirtualPcm.driver (syncedRing fetchFlags g s.driver).2)
    ((syncedRing fetchFlags g s.driver).1.applPtr VirtualPcm.driver
      (syncedRing fetchFlags g s.driver).2) s.bufferSize s.boundary

theorem availUpdate_returns (ha : s.attached = true) (hg : s.ring = some g) (hd : s.driver.Serves)
    {a : UInt64} (hw : fetchedAvail s g = .ok a) :
    Returns (availUpdate VirtualPcm.driver) s (.ok a) (afterSync fetchFlags s g) := by
  unfold availUpdate
  rw [returns_parts_bind ha hg, returns_bind_of_returns (syncRing_returns ha hg hd _)]
  dsimp only
  have ha' : (afterSync fetchFlags s g).attached = true := ha
  rw [returns_get_bind, returns_readRing_bind ha' rfl, returns_readRing_bind ha' rfl]
  exact returns_lift.2 ⟨a, hw, rfl, rfl⟩

theorem fetchedAvail_again (hd : s.driver.Serves) :
    fetchedAvail (afterSync fetchFlags s g) (syncedRing fetchFlags g s.driver).1 =
      fetchedAvail s g := by
  unfold fetchedAvail
  have hr := syncedRing_again hd g
  cases g with
  | mapped => rfl
  | synced q =>
    simp only [afterSync] at hr ⊢
    rw [hr]
    rfl

/-- The free frames a pointer update finds once the device caught up: the stream's buffer for
playback, the device's own buffer for capture. -/
def fullAvail (s : PcmStream VirtualPcm) : UInt64 :=
  if s.isCapture then s.driver.bufferSize else s.bufferSize

section Caught

variable {a : UInt64} (hc : s.driver.capture = s.isCapture)
  (hk : s.driver.bufferSize.toNat < s.boundary.toNat) (hbs : s.bufferSize.toNat < s.boundary.toNat)
  (hB : s.boundary.toNat < 2 ^ 63)
include hc hk hbs hB

theorem fetchedAvail_of_caught (ha : a.toNat < 2 ^ 63)
    (h : fetchedAvail s g = wrappedAvail (!s.isCapture)
      (if s.driver.capture then a + s.driver.bufferSize else a) a s.bufferSize s.boundary) :
    fetchedAvail s g = .ok (fullAvail s) := by
  rw [h, hc, fullAvail]
  cases s.isCapture
  · exact wrappedAvail_caught true ha hk hbs hB
  · exact wrappedAvail_caught false ha hk hbs hB

theorem fetchedAvail_synced (hd : s.driver.Serves) (hr : s.driver.running = true) (q : SyncRecord) :
    fetchedAvail s (.synced q) = .ok (fullAvail s) := by
  have hflags : fetchFlags &&& SyncFlag.hwsync ≠ 0 ∧ fetchFlags &&& SyncFlag.appl ≠ 0 := by
    decide
  refine fetchedAvail_of_caught hc hk hbs hB hd.pointers.pull_applPtr ?_
  have hrun : (s.driver.pull.bump .syncPtr).running = true := by simpa using hr
  have hcap : (s.driver.pull.bump .syncPtr).capture = s.driver.capture := VirtualPcm.capture_pull
  have hbuf : (s.driver.pull.bump .syncPtr).bufferSize = s.driver.bufferSize :=
    VirtualPcm.bufferSize_pull
  simp only [fetchedAvail, syncedRing, Ring.hwPtr, Ring.applPtr, Ring.statusOf, Ring.controlOf,
    syncedRecord, synced, hflags, if_true, ne_eq, not_false_eq_true, VirtualPcm.statusRecord,
    VirtualPcm.hwPtr_advance hrun, VirtualPcm.applPtr_advance, hcap, hbuf]
  simp

/-- A mapped ring reads the records a caught-up device published, when they are long enough. -/
theorem fetchedAvail_mapped (hd : s.driver.Serves) (hcaught : s.driver.Caught)
    (hrec : s.driver.recordsMapped = true) :
    fetchedAvail s .mapped = .ok (fullAvail s) := by
  obtain ⟨u, hu, hdu⟩ := hcaught
  have hsh : s.driver.shape = u.shape := by rw [hdu, VirtualPcm.shape_push, VirtualPcm.shape_advance]
  have hrec' : u.advance.recordsMapped = true := by
    change u.advance.shape.2.2 = true
    rw [← VirtualPcm.shape_push, ← hdu]
    exact hrec
  have happl : s.driver.applPtr = u.applPtr := by
    rw [hdu, VirtualPcm.applPtr_push, VirtualPcm.applPtr_advance]
  refine fetchedAvail_of_caught hc hk hbs hB hd.pointers.1 ?_
  obtain ⟨hst, hct⟩ := VirtualPcm.records_push hrec'
  have hcap : s.driver.capture = u.capture := congrArg Prod.fst hsh
  have hbuf : s.driver.bufferSize = u.bufferSize := congrArg (·.2.1) hsh
  simp only [fetchedAvail, syncedRing, Ring.hwPtr, Ring.applPtr, Ring.statusOf, Ring.controlOf]
  rw [hdu, hst, hct, ← hdu, happl, hcap, hbuf]
  simp [VirtualPcm.statusRecord, VirtualPcm.hwPtr_advance hu]

end Caught

/-- A ready handle whose device serves the mapped path, with the buffer within a boundary below
2^63 and a computable wait timeout. -/
structure MapReady (s : PcmStream VirtualPcm) : Prop where
  attached : s.attached = true
  ring : ∃ g, s.ring = some g ∧ ringBelow g
  serves : s.driver.Serves
  wraps : s.bufferSize.toNat ≤ s.boundary.toNat
  boundary : s.boundary.toNat < 2 ^ 63
  timed : ∃ t, s.mmapWaitTimeout = .ok t

namespace MapReady

variable {s' : PcmStream VirtualPcm}

theorem congr (hs : MapReady s) (ha : s'.attached = s.attached) (hb : s'.bufferSize = s.bufferSize)
    (hB : s'.boundary = s.boundary) (hc : s'.config = s.config)
    (hg : ∃ g, s'.ring = some g ∧ ringBelow g) (hd : s'.driver.Serves) : MapReady s' := by
  obtain ⟨t, ht⟩ := hs.timed
  refine ⟨ha.trans hs.attached, hg, hd, hb ▸ hB ▸ hs.wraps, hB ▸ hs.boundary, t, ?_⟩
  unfold mmapWaitTimeout
  rw [hb, hc]
  exact ht

theorem afterSync (hs : MapReady s) (hg : s.ring = some g) (flags : UInt32) :
    MapReady (afterSync flags s g) := by
  obtain ⟨g₀, hg₀, hb⟩ := hs.ring
  cases hg.symm.trans hg₀
  obtain ⟨hd, hr⟩ := syncedRing_serves hs.serves hb flags
  exact hs.congr rfl rfl rfl rfl ⟨_, rfl, hr⟩ hd

end MapReady

/-- Between two handles the mapped path moved only the device's pointers and state, the ring's
pointers, the data area and the run flags. -/
structure Framed (s s' : PcmStream VirtualPcm) : Prop where
  flags : s'.flags = s.flags
  bufferSize : s'.bufferSize = s.bufferSize
  boundary : s'.boundary = s.boundary
  shape : s'.driver.shape = s.driver.shape
  mapped : s'.ring = some .mapped → s.ring = some .mapped

namespace Framed

variable {s₁ s₂ : PcmStream VirtualPcm}

theorem trans (h₁ : Framed s s₁) (h₂ : Framed s₁ s₂) : Framed s s₂ :=
  ⟨h₂.flags.trans h₁.flags, h₂.bufferSize.trans h₁.bufferSize, h₂.boundary.trans h₁.boundary,
    h₂.shape.trans h₁.shape, h₁.mapped ∘ h₂.mapped⟩

theorem withDriver {d : VirtualPcm} (h : d.shape = s.driver.shape) :
    Framed s { s with driver := d } :=
  ⟨rfl, rfl, rfl, h, id⟩

end Framed

@[simp] theorem shape_syncedRing {d : VirtualPcm} {fl : UInt32} :
    (syncedRing fl g d).2.shape = d.shape := by
  cases g <;> simp [syncedRing]

@[simp] theorem running_syncedRing {d : VirtualPcm} {fl : UInt32} :
    (syncedRing fl g d).2.running = d.running := by
  cases g <;> simp [syncedRing]

theorem framed_afterSync (hg : s.ring = some g) (fl : UInt32) : Framed s (afterSync fl s g) := by
  refine ⟨rfl, rfl, rfl, shape_syncedRing, fun h => ?_⟩
  cases g with
  | mapped => exact hg
  | synced q => cases h

/-- The free frames a pointer update reads on a ready handle: below 2^63, and computed without
overflow. -/
theorem fetchedAvail_ok (hs : MapReady s) (g : Ring) :
    ∃ a, fetchedAvail s g = .ok a ∧ a.toNat < 2 ^ 63 := by
  unfold fetchedAvail
  by_cases hB : s.boundary = 0
  · refine ⟨0, ?_, by decide⟩
    rw [hB]
    unfold wrappedAvail
    rfl
  · have hB' : 0 < s.boundary.toNat := by
      rcases Nat.eq_zero_or_pos s.boundary.toNat with h | h
      · exact absurd (UInt64.toNat_inj.1 (h.trans UInt64.toNat_zero.symm)) hB
      · exact h
    rw [wrappedAvail_eq _ _ _ _ _ hB' hs.wraps hs.boundary]
    refine ⟨_, rfl, ?_⟩
    generalize ((syncedRing fetchFlags g s.driver).1.hwPtr VirtualPcm.driver
      (syncedRing fetchFlags g s.driver).2).toNat % s.boundary.toNat +
      (if (!s.isCapture) = true then s.bufferSize.toNat else 0) + s.boundary.toNat -
      ((syncedRing fetchFlags g s.driver).1.applPtr VirtualPcm.driver
        (syncedRing fetchFlags g s.driver).2).toNat % s.boundary.toNat = x
    have hlt := Nat.mod_lt x hB'
    have hw := hs.boundary
    rw [UInt64.toNat_ofNat_of_lt' (by unfold UInt64.size; omega)]
    omega

theorem availUpdate_ready (hs : MapReady s) (hg : s.ring = some g) :
    ∃ a, a.toNat < 2 ^ 63 ∧ fetchedAvail s g = .ok a ∧
      Returns (availUpdate VirtualPcm.driver) s (.ok a) (afterSync fetchFlags s g) := by
  obtain ⟨a, ha, hlt⟩ := fetchedAvail_ok hs g
  exact ⟨a, hlt, ha, availUpdate_returns hs.attached hg hs.serves ha⟩

/-- Preparing a ready handle prepares its device and takes the pointers back. -/
theorem prepare_ready (hs : MapReady s) :
    ∃ s', Returns (prepare VirtualPcm.driver) s (.ok ()) s' ∧ MapReady s' ∧
      s'.prepared = true ∧ s'.running = false ∧ Framed s s' := by
  obtain ⟨g, hg, hb⟩ := hs.ring
  have hd₁ := hs.serves.prepared
  have hs₁ : MapReady { s with driver := s.driver.prepared } :=
    hs.congr rfl rfl rfl rfl ⟨g, hg, hb⟩ hd₁
  have hs₂ := hs₁.afterSync hg (SyncFlag.appl ||| SyncFlag.availMin)
  refine ⟨{ afterSync (SyncFlag.appl ||| SyncFlag.availMin) { s with driver := s.driver.prepared } g
    with prepared := true, running := false }, ?_, ?_, rfl, rfl, ?_⟩
  · unfold PcmStream.prepare
    rw [returns_parts_bind hs.attached hg, returns_ask_bind]
    refine ⟨.ok (), s.driver.prepared, prepare_returns hs.serves.unfailing, ?_⟩
    dsimp only
    rw [returns_bind_of_returns (syncRing_returns (s := { s with driver := s.driver.prepared })
      hs.attached hg hd₁ _)]
    exact returns_modify.2 ⟨rfl, rfl⟩
  · exact hs₂.congr rfl rfl rfl rfl hs₂.ring hs₂.serves
  · have hp : s.driver.prepared.shape = s.driver.shape :=
      VirtualPcm.shape_push.trans ((VirtualPcm.shape_bump .prepare).trans VirtualPcm.shape_pull)
    exact ((Framed.withDriver hp).trans
      (framed_afterSync (s := { s with driver := s.driver.prepared }) hg _)).trans
      ⟨rfl, rfl, rfl, rfl, id⟩

/-- What a start leaves: a ready handle, running over a device that caught up if the start
succeeded. -/
def Started (s : PcmStream VirtualPcm) (r : Except StreamError Unit) (s' : PcmStream VirtualPcm) :
    Prop :=
  MapReady s' ∧ Framed s s' ∧ (r = .ok () → s'.running = true ∧ s'.driver.Caught)

/-- Starting a ready, prepared handle: the device starts when prepared and refuses otherwise. -/
theorem start_prepared_ready (hs : MapReady s) (hp : s.prepared = true) :
    Runs (start VirtualPcm.driver) s (Started s) := by
  obtain ⟨g, hg, hb⟩ := hs.ring
  have hready : s.isReady = true := isReady_iff.2 ⟨hs.attached, g, hg⟩
  unfold PcmStream.start
  rw [runs_get_bind]
  dsimp only
  rw [if_neg (by simp [hready]), runs_get_bind, if_neg (by simp [hp]), runs_parts_bind hs.attached hg]
  by_cases hst : s.driver.state = .prepared
  · refine runs_ask_bind (start_returns hs.serves.unfailing hst) (runs_of_returns
      (returns_modify.2 ⟨rfl, rfl⟩) ⟨?_, ?_, fun _ => ⟨rfl, _, rfl, rfl⟩⟩)
    · exact hs.congr rfl rfl rfl rfl ⟨g, hg, hb⟩ hs.serves.started
    · exact ⟨rfl, rfl, rfl, VirtualPcm.shape_push.trans (VirtualPcm.shape_beginRunning.trans
        ((VirtualPcm.shape_bump .start).trans VirtualPcm.shape_pull)), id⟩
  · refine runs_ask_bind (start_refuses hs.serves.unfailing hst) (runs_of_returns
      (returns_fail.2 ⟨rfl, rfl⟩) ⟨?_, ?_, fun h => by cases h⟩)
    · exact hs.congr rfl rfl rfl rfl ⟨g, hg, hb⟩ (hs.serves.pull_bump .start)
    · exact ⟨rfl, rfl, rfl, (VirtualPcm.shape_bump .start).trans VirtualPcm.shape_pull, id⟩

theorem start_of_unprepared {D : PcmDevice VirtualPcm} {s₁ s' : PcmStream VirtualPcm}
    {r : Except StreamError Unit} (hready : s.isReady = true) (hp : s.prepared = false)
    (h₁ : Returns (prepare D) s (.ok ()) s₁) :
    Returns (start D) s r s' ↔ Returns (start D) s₁ r s' := by
  have hready₁ := (stores_prepare D s hready _ _ h₁).1
  unfold PcmStream.start
  rw [returns_get_bind, returns_get_bind]
  dsimp only
  rw [if_neg (by simp [hready]), if_neg (by simp [hready₁]), returns_get_bind, returns_get_bind,
    if_pos (by simp [hp]), if_neg (by simp [(prepare_flags h₁).1]), returns_bind_of_returns h₁]

theorem start_ready (hs : MapReady s) : Runs (start VirtualPcm.driver) s (Started s) := by
  cases hp : s.prepared
  · obtain ⟨g, hg, -⟩ := hs.ring
    obtain ⟨s₁, h₁, hs₁, hp₁, -, hf₁⟩ := prepare_ready hs
    obtain ⟨r, s', h, hr, hf, hrun⟩ := start_prepared_ready hs₁ hp₁
    exact ⟨r, s', (start_of_unprepared (isReady_iff.2 ⟨hs.attached, g, hg⟩) hp h₁).2 h, hr,
      hf₁.trans hf, hrun⟩
  · exact start_prepared_ready hs hp

theorem wait_ready (hs : MapReady s) (t : Int) :
    Returns (PcmStream.wait VirtualPcm.driver t) s (.ok (grants (waitFrom s.driver t)))
      { s with driver := waited s.driver t } := by
  obtain ⟨g, hg, -⟩ := hs.ring
  unfold PcmStream.wait
  rw [returns_parts_bind hs.attached hg, returns_ask_bind]
  exact ⟨_, _, wait_returns hs.serves.unfailing hs.serves.calm t, returns_pure.2 ⟨rfl, rfl⟩⟩

/-- What the mapped path's wait leaves when it goes on: the retry flag it was given and a
ready handle whose device moved. -/
def Waited (s : PcmStream VirtualPcm) (retried : Bool) (r : Except StreamError Bool)
    (s' : PcmStream VirtualPcm) : Prop :=
  ∀ b, r = .ok b → b = retried ∧ MapReady s' ∧
    ∃ t, s' = { s with driver := (waitFrom s.driver t).advance.push }

/-- The mapped path's wait on a ready handle returns: a non-blocking stream fails at once, a
blocking one waits once and fails unless the device granted the wait. -/
theorem mmapWait_ready (hs : MapReady s) (done : Nat) (retried : Bool) :
    Runs (mmapWait VirtualPcm.driver done retried) s (Waited s retried) := by
  unfold PcmStream.mmapWait
  rw [runs_get_bind]
  dsimp only
  split
  · exact runs_of_returns (returns_fail_bind.2 ⟨rfl, rfl⟩) fun b hb => by cases hb
  rw [runs_get_bind]
  obtain ⟨t, ht⟩ := hs.timed
  refine runs_bind_of_returns (returns_lift.2 ⟨t, ht, rfl, rfl⟩) ?_
  have hw : Returns (attempt (PcmStream.wait VirtualPcm.driver t)) s
      (.ok (.ok (grants (waitFrom s.driver t)))) { s with driver := waited s.driver t } :=
    returns_attempt.2 ⟨_, rfl, wait_ready hs t⟩
  refine runs_bind_of_returns hw ?_
  cases hg : grants (waitFrom s.driver t)
  · exact runs_of_returns (returns_fail.2 ⟨rfl, rfl⟩) fun b hb => by cases hb
  · obtain ⟨g, hg', hb⟩ := hs.ring
    refine runs_of_returns (returns_pure.2 ⟨rfl, rfl⟩) fun b hb' => ?_
    cases hb'
    refine ⟨rfl, hs.congr rfl rfl rfl rfl ⟨g, hg', hb⟩ (hs.serves.waited t), t, ?_⟩
    rw [waited_of_grants hg]

/-- What a run handed out by the mapped path is on a ready handle: the pointer update's state,
no more frames than asked, and a frame when one was asked and one is free. -/
theorem mmapBegin_ready (hs : MapReady s) (hg : s.ring = some g) {a : UInt64}
    (ha : fetchedAvail s g = .ok a) (k : Nat) :
    Runs (mmapBegin VirtualPcm.driver k) s fun r s' => ∀ run, r = .ok run →
      s' = afterSync fetchFlags s g ∧ run.frames ≤ k ∧ (0 < k → a ≠ 0 → 0 < run.frames) := by
  unfold PcmStream.mmapBegin
  rw [runs_get_bind]
  dsimp only
  split
  · exact runs_of_returns (returns_fail_bind.2 ⟨rfl, rfl⟩) fun run h => by cases h
  refine runs_bind_of_returns (availUpdate_returns hs.attached hg hs.serves ha) ?_
  have ha' : (afterSync fetchFlags s g).attached = true := hs.attached
  rw [runs_get_bind, runs_readRing_bind ha' rfl]
  refine runs_of_returns (returns_pure.2 ⟨rfl, rfl⟩) fun run hrun => ?_
  cases hrun
  have hc := toNat_contiguous_pos ((syncedRing fetchFlags g s.driver).1.applPtr VirtualPcm.driver
    (afterSync fetchFlags s g).driver) (afterSync fetchFlags s g).bufferSize
  refine ⟨rfl, by dsimp only; omega, fun hk ha₀ => ?_⟩
  have ha₁ : 0 < a.toNat := by simpa [Nat.pos_iff_ne_zero, ← UInt64.toNat_inj] using ha₀
  dsimp only
  omega

theorem areaPut_ready (off : Nat) (src : ByteArray) :
    ∃ s', Returns (areaPut off src : StreamM VirtualPcm Unit) s (.ok ()) s' ∧
      s' = { s with data := s'.data } := by
  refine ⟨_, returns_modify.2 ⟨rfl, rfl⟩, ?_⟩
  split <;> rfl

theorem applPtr_below {d : VirtualPcm} (hd : d.PointersBelow) (hg : ringBelow g) :
    (g.applPtr VirtualPcm.driver d).toNat < 2 ^ 63 := by
  cases g with
  | mapped =>
    show (((d.controlPage.map Page.record).getD {}).applPtr).toNat < 2 ^ 63
    rcases hc : d.controlPage with _ | p
    · simp
    · simpa using hd.2 p hc
  | synced q => exact hg

theorem setApplPtr_serves {d : VirtualPcm} {v : UInt64} (hd : d.Serves) (hg : ringBelow g)
    (hv : v.toNat < 2 ^ 63) :
    (g.setApplPtr VirtualPcm.driver v d).2.Serves ∧ ringBelow (g.setApplPtr VirtualPcm.driver v d).1 ∧
      (g.setApplPtr VirtualPcm.driver v d).2.running = d.running := by
  cases g with
  | synced q => exact ⟨hd, hv, rfl⟩
  | mapped =>
    simp only [Ring.setApplPtr, Ring.modifyControl, VirtualPcm.driver]
    split
    · exact ⟨⟨hd.unfailing, hd.calm, hd.pointers.1, fun p hp => by cases hp; exact hv⟩, trivial, rfl⟩
    · exact ⟨hd, trivial, rfl⟩

theorem setApplPtr_framed {d : VirtualPcm} {v : UInt64} :
    (g.setApplPtr VirtualPcm.driver v d).2.shape = d.shape ∧
      ((g.setApplPtr VirtualPcm.driver v d).1 = .mapped → g = .mapped) := by
  cases g with
  | synced q => exact ⟨rfl, fun h => by cases h⟩
  | mapped => exact ⟨VirtualPcm.shape_setControl _, fun _ => rfl⟩

/-- What a commit leaves when it succeeds: a ready handle and a device, each still running or
not as before. -/
def Committed (s : PcmStream VirtualPcm) (r : Except StreamError Unit) (s' : PcmStream VirtualPcm) :
    Prop :=
  r = .ok () → MapReady s' ∧ s'.running = s.running ∧ s'.driver.running = s.driver.running ∧
    Framed s s'

/-- Handing a run back on a ready handle returns: the pointer plus the run fits a word, since
both lie below 2^63, and the pointer it sets is below the boundary. -/
theorem mmapCommit_ready (hs : MapReady s) (run : MmapRun) :
    Runs (mmapCommit VirtualPcm.driver run) s (Committed s) := by
  obtain ⟨g, hg, hb⟩ := hs.ring
  obtain ⟨a, hlt, -, hav⟩ := availUpdate_ready hs hg
  unfold PcmStream.mmapCommit
  refine runs_bind_of_returns hav ?_
  dsimp only
  split
  · exact runs_of_returns (returns_fail_bind.2 ⟨rfl, rfl⟩) fun h => by cases h
  next hle =>
  have hs₁ := hs.afterSync hg fetchFlags
  obtain ⟨hd₁, hb₁⟩ := syncedRing_serves hs.serves hb fetchFlags
  set s₁ := afterSync fetchFlags s g
  set g₁ := (syncedRing fetchFlags g s.driver).1
  rw [runs_get_bind, runs_parts_bind hs₁.attached (rfl : s₁.ring = some g₁), runs_get_bind]
  have happl : (g₁.applPtr VirtualPcm.driver s₁.driver).toNat < 2 ^ 63 :=
    applPtr_below hd₁.pointers hb₁
  have hfr : (UInt64.ofNat run.frames).toNat = run.frames :=
    UInt64.toNat_ofNat_of_lt' (by unfold UInt64.size; omega)
  have hadd : addU64 (g₁.applPtr VirtualPcm.driver s₁.driver) (UInt64.ofNat run.frames) =
      .ok (UInt64.ofNat ((g₁.applPtr VirtualPcm.driver s₁.driver).toNat + run.frames)) := by
    have hsum : (g₁.applPtr VirtualPcm.driver s₁.driver).toNat + (UInt64.ofNat run.frames).toNat <
        wordRange := by
      rw [hfr]
      unfold wordRange
      omega
    unfold addU64 addWord
    rw [if_pos hsum, hfr]
    rfl
  refine runs_bind_of_returns (returns_lift.2 ⟨_, hadd, rfl, rfl⟩) ?_
  rw [runs_modify_bind]
  set appl := UInt64.ofNat ((g₁.applPtr VirtualPcm.driver s₁.driver).toNat + run.frames) %
    max s₁.boundary 1
  have happl' : appl.toNat < 2 ^ 63 := by
    have hB := hs.boundary
    have hpos : 0 < (max s₁.boundary 1).toNat := by rw [UInt64.toNat_max]; simp
    have hmod := Nat.mod_lt (UInt64.ofNat ((g₁.applPtr VirtualPcm.driver s₁.driver).toNat +
      run.frames)).toNat hpos
    rw [UInt64.toNat_mod]
    rw [UInt64.toNat_max] at hmod ⊢
    simp only [UInt64.toNat_one] at hmod ⊢
    have : s₁.boundary.toNat = s.boundary.toNat := rfl
    omega
  obtain ⟨hd₂, hb₂, hr₂⟩ := setApplPtr_serves (v := appl) hd₁ hb₁ happl'
  obtain ⟨hsh₂, hm₂⟩ := setApplPtr_framed (g := g₁) (v := appl) (d := s₁.driver)
  set s₂ : PcmStream VirtualPcm := { s₁ with
      ring := some (g₁.setApplPtr VirtualPcm.driver appl s₁.driver).1,
      driver := (g₁.setApplPtr VirtualPcm.driver appl s₁.driver).2 }
  have hs₂ : MapReady s₂ := hs₁.congr rfl rfl rfl rfl ⟨_, rfl, hb₂⟩ hd₂
  have hf₂ : Framed s₁ s₂ := ⟨rfl, rfl, rfl, hsh₂, fun h => by
    show some g₁ = some .mapped
    rw [hm₂ (Option.some.inj h)]⟩
  refine runs_bind_of_returns (syncRing_returns hs₂.attached rfl hs₂.serves 0) ?_
  refine runs_of_returns (returns_pure.2 ⟨rfl, rfl⟩) fun _ => ⟨hs₂.afterSync rfl 0, rfl, ?_,
    ((framed_afterSync hg fetchFlags).trans hf₂).trans (framed_afterSync rfl 0)⟩
  simp only [afterSync, running_syncedRing]
  exact hr₂.trans running_syncedRing

end SoundCard.Virtual
