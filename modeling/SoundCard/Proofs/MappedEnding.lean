import SoundCard.Proofs.MappedSteps
/-! The mapped transfer loops end when the buffers leave room below the boundary: every round
that goes on lowers `roundBound`. -/
namespace SoundCard.Virtual

open SoundCard.Pcm SoundCard.Os PcmStream VirtualM

variable {s s' : PcmStream VirtualPcm} {g : Ring}

/-- A ready handle over a device that runs when the stream does, facing its way, with room below
the boundary and records long enough for a mapped ring. -/
structure Flows (s : PcmStream VirtualPcm) : Prop where
  ready : MapReady s
  runs : s.running = true → s.driver.running = true
  direction : s.driver.capture = s.isCapture
  inside : s.bufferSize.toNat < s.boundary.toNat
  sized : 0 < s.driver.bufferSize.toNat ∧ s.driver.bufferSize.toNat ≤ s.bufferSize.toNat
  records : s.ring = some .mapped → s.driver.recordsMapped = true

namespace Flows

theorem of_framed (hs : Flows s) (hr : MapReady s') (hf : Framed s s')
    (hrun : s'.running = true → s'.driver.running = true) : Flows s' := by
  have hcap : s'.driver.capture = s.driver.capture := congrArg Prod.fst hf.shape
  have hbuf : s'.driver.bufferSize = s.driver.bufferSize := congrArg (·.2.1) hf.shape
  have hrec : s'.driver.recordsMapped = s.driver.recordsMapped := congrArg (·.2.2) hf.shape
  refine ⟨hr, hrun, ?_, ?_, ?_, fun h => ?_⟩
  · rw [hcap, hs.direction, isCapture, isCapture, hf.flags]
  · rw [hf.bufferSize, hf.boundary]
    exact hs.inside
  · rw [hbuf, hf.bufferSize]
    exact hs.sized
  · rw [hrec]
    exact hs.records (hf.mapped h)

theorem of_data (hs : Flows s) (h : s' = { s with data := s'.data }) : Flows s' := by
  rw [h]
  exact hs.of_framed (hs.ready.congr rfl rfl rfl rfl hs.ready.ring hs.ready.serves)
    ⟨rfl, rfl, rfl, rfl, id⟩ hs.runs

theorem afterSync (hs : Flows s) (hg : s.ring = some g) : Flows (afterSync fetchFlags s g) :=
  hs.of_framed (hs.ready.afterSync hg fetchFlags) (framed_afterSync hg fetchFlags) fun h => by
    simp only [Virtual.afterSync, running_syncedRing]
    exact hs.runs h

theorem fullAvail_pos (hs : Flows s) : 0 < (fullAvail s).toNat := by
  obtain ⟨hpos, hle⟩ := hs.sized
  unfold fullAvail
  split <;> omega

theorem fullAvail_ne (hs : Flows s) : fullAvail s ≠ 0 := fun h => by
  have hpos := hs.fullAvail_pos
  rw [h, UInt64.toNat_zero] at hpos
  exact Nat.lt_irrefl 0 hpos

theorem fetchedAvail_full (hs : Flows s) (hr : s.driver.running = true)
    (hc : s.ring = some .mapped → s.driver.Caught) (hg : s.ring = some g) :
    fetchedAvail s g = .ok (fullAvail s) := by
  have hk : s.driver.bufferSize.toNat < s.boundary.toNat := Nat.lt_of_le_of_lt hs.sized.2 hs.inside
  cases g with
  | mapped =>
    exact fetchedAvail_mapped hs.direction hk hs.inside hs.ready.boundary hs.ready.serves (hc hg)
      (hs.records hg)
  | synced q =>
    exact fetchedAvail_synced hs.direction hk hs.inside hs.ready.boundary hs.ready.serves hr q

end Flows

/-! ## The measure of the mapped loops -/

/-- Whether a pointer update on the ring finds a frame free. -/
def findsFree (s : PcmStream VirtualPcm) (g : Ring) : Bool :=
  match fetchedAvail s g with
  | .ok a => a != 0
  | .error _ => false

/-- Whether the stream runs and its next pointer update finds a frame free. -/
def flowing (s : PcmStream VirtualPcm) : Bool := s.running && s.ring.any (findsFree s)

/-- What bounds the rounds a mapped loop still takes from `done` frames of `frames`: twice the
frames left, and one more unless the stream is flowing. -/
def roundBound (frames done : Nat) (s : PcmStream VirtualPcm) : Nat :=
  2 * (frames - done) + if flowing s then 0 else 1

theorem flowing_of_caught (hs : Flows s) (hr : s.running = true)
    (hc : s.ring = some .mapped → s.driver.Caught) : flowing s = true := by
  obtain ⟨g, hg, -⟩ := hs.ready.ring
  simp [flowing, findsFree, hr, hg, hs.fetchedAvail_full (hs.runs hr) hc hg, hs.fullAvail_ne]

theorem flowing_eq_false (h : s.running = true → ∃ g, s.ring = some g ∧ fetchedAvail s g = .ok 0) :
    flowing s = false := by
  cases hr : s.running
  · simp [flowing, hr]
  · obtain ⟨g, hg, ha⟩ := h hr
    simp [flowing, findsFree, hg, ha]

section RoundBound

variable {frames done done' : Nat}

theorem roundBound_wait (h : flowing s = false) (h' : flowing s' = true) :
    roundBound frames done s' < roundBound frames done s := by
  simp [roundBound, h, h']

theorem roundBound_copy (hd : done < frames) (hd' : done < done') :
    roundBound frames done' s' < roundBound frames done s := by
  unfold roundBound
  split <;> split <;> omega

theorem roundBound_zero_lt (frames : Nat) (s : PcmStream VirtualPcm) :
    roundBound frames 0 s < 2 * frames + 2 := by
  unfold roundBound
  split <;> omega

end RoundBound

/-! ## Rounds -/

theorem prepareJoin_flows (hs : Flows s) :
    Runs (if (!s.running && !s.prepared) = true then prepare VirtualPcm.driver else pure ()) s
      fun r s₁ => r = .ok () ∧ Flows s₁ ∧ (s.running = true → s₁ = s) := by
  split
  · next hc =>
    obtain ⟨s₁, h₁, hr₁, -, hrun₁, hf₁⟩ := prepare_ready hs.ready
    have hr : s.running = false := by
      simp only [Bool.and_eq_true, Bool.not_eq_true'] at hc
      exact hc.1
    exact runs_of_returns h₁ ⟨rfl, hs.of_framed hr₁ hf₁ fun h => absurd (hrun₁ ▸ h) (by simp),
      fun h => absurd (hr ▸ h) (by simp)⟩
  · exact runs_of_returns (returns_pure.2 ⟨rfl, rfl⟩) ⟨rfl, hs, fun _ => rfl⟩

theorem startJoin_flows {c : Prop} [Decidable c] (hs : Flows s) :
    Runs (if c then start VirtualPcm.driver else pure ()) s fun r s₁ => r = .ok () →
      Flows s₁ ∧ (c → s₁.running = true ∧ s₁.driver.Caught) ∧ (¬c → s₁ = s) := by
  split
  · next h =>
    refine (start_ready hs.ready).mono fun r s₁ ⟨hr₁, hf₁, hrun⟩ hr => ?_
    obtain ⟨hrun₁, hcaught⟩ := hrun hr
    exact ⟨hs.of_framed hr₁ hf₁ fun _ => hcaught.running, fun _ => ⟨hrun₁, hcaught⟩,
      fun hn => absurd h hn⟩
  · next h => exact runs_of_returns (returns_pure.2 ⟨rfl, rfl⟩) fun _ =>
      ⟨hs, fun h' => absurd h' h, fun _ => rfl⟩

theorem mmapWait_flows (hs : Flows s) (hr : s.running = true) (done : Nat) (retried : Bool) :
    Runs (mmapWait VirtualPcm.driver done retried) s fun r s' => ∀ b, r = .ok b →
      b = retried ∧ Flows s' ∧ flowing s' = true := by
  refine (mmapWait_ready hs.ready done retried).mono fun r s' hw b hb => ?_
  obtain ⟨rfl, hr', t, rfl⟩ := hw b hb
  have hd := hs.runs hr
  have hf : Flows { s with driver := (waitFrom s.driver t).advance.push } :=
    hs.of_framed hr' (Framed.withDriver (by simp)) fun _ => by simpa using hd
  exact ⟨rfl, hf, flowing_of_caught hf hr fun _ => ⟨waitFrom s.driver t, by simpa using hd, rfl⟩⟩

/-- What a round of a mapped loop leaves when it returns a value: a flowing handle, and a
lower measure when the loop goes on. -/
def GoesOn {δ γ : Type} (frames done : Nat) (s : PcmStream VirtualPcm) (next : γ → Nat)
    (r : Except StreamError (δ ⊕ γ)) (s' : PcmStream VirtualPcm) : Prop :=
  ∀ x, r = .ok x → Flows s' ∧
    ∀ p, x = .inr p → roundBound frames (next p) s' < roundBound frames done s

/-- A round of the mapped playback loop returns, and lowers the measure when it goes on. -/
theorem writeRound_flows (hs : Flows s) (data : ByteArray) (frames : Nat) (startAt : UInt64)
    (done : Nat) (retried : Bool) :
    Runs (writeRound VirtualPcm.driver data frames startAt done retried) s
      (GoesOn (δ := Nat) frames done s Prod.fst) := by
  unfold writeRound
  split
  swap
  · exact runs_of_returns (returns_pure.2 ⟨rfl, rfl⟩) fun x hx => ⟨hs, fun p hp => by
      cases hx
      cases hp⟩
  next hd =>
  rw [runs_get_bind]
  dsimp only
  refine runs_join (runs_bind ((prepareJoin_flows hs).mono fun r s₁ h₁ => ?_))
  obtain ⟨rfl, hs₁, hsame₁⟩ := h₁
  obtain ⟨g₁, hg₁, -⟩ := hs₁.ready.ring
  obtain ⟨a, -, ha, hav⟩ := availUpdate_ready hs₁.ready hg₁
  refine runs_bind_of_returns (returns_attempt.2 ⟨_, rfl, hav⟩) ?_
  have hs₂ := hs₁.afterSync hg₁
  set s₂ := afterSync fetchFlags s₁ g₁
  dsimp only
  rw [runs_get_bind]
  refine runs_join (runs_bind ((startJoin_flows hs₂).mono fun r s₃ h₃ => ?_))
  rcases r with e | ⟨⟩
  · exact fun p hp => by cases hp
  obtain ⟨hs₃, hstart, hsame⟩ := h₃ rfl
  dsimp only
  split
  · next ha₀ =>
    rw [runs_get_bind]
    refine runs_join (runs_bind ((startJoin_flows hs₃).mono fun r s₄ h₄ => ?_))
    rcases r with e | ⟨⟩
    · exact fun p hp => by cases hp
    obtain ⟨hs₄, hstart₄, hsame₄⟩ := h₄ rfl
    have hr₄ : s₄.running = true := by
      by_cases hc : (!s₃.running) = true
      · exact (hstart₄ hc).1
      · rw [hsame₄ hc]
        simpa using hc
    refine runs_bind ((mmapWait_flows hs₄ hr₄ done retried).mono fun r s₅ h₅ => ?_)
    rcases r with e | b
    · exact fun p hp => by cases hp
    obtain ⟨rfl, hs₅, hflow⟩ := h₅ b rfl
    refine runs_of_returns (returns_pure.2 ⟨rfl, rfl⟩) fun x hx => ⟨hs₅, fun p hp => ?_⟩
    cases hx
    cases hp
    refine roundBound_wait (flowing_eq_false fun hr => ?_) hflow
    have he := hsame₁ hr
    rw [he] at hg₁ ha
    exact ⟨g₁, hg₁, ha₀ ▸ ha⟩
  · next ha₀ =>
    obtain ⟨g₃, hg₃, -⟩ := hs₃.ready.ring
    obtain ⟨a₃, -, ha₃, -⟩ := availUpdate_ready hs₃.ready hg₃
    have ha₃₀ : a₃ ≠ 0 := by
      by_cases hc : (!s₂.running && decide (s₂.bufferSize - a ⊓ s₂.bufferSize ≥ startAt)) = true
      · obtain ⟨-, hcaught⟩ := hstart hc
        rw [hs₃.fetchedAvail_full hcaught.running (fun _ => hcaught) hg₃] at ha₃
        cases ha₃
        exact hs₃.fullAvail_ne
      · obtain rfl := hsame hc
        cases hg₃
        have hagain := fetchedAvail_again (s := s₁) (g := g₁) hs₁.ready.serves
        rw [ha₃, ha] at hagain
        cases hagain
        exact ha₀
    refine runs_bind ((mmapBegin_ready hs₃.ready hg₃ ha₃ (frames - done)).mono fun r s₄ h₄ => ?_)
    rcases r with e | run
    · exact fun p hp => by cases hp
    obtain ⟨rfl, -, hpos⟩ := h₄ run rfl
    have hrun := hpos (by omega) ha₃₀
    dsimp only
    rw [runs_get_bind]
    obtain ⟨s₅, h₅, hs₅eq⟩ := areaPut_ready (s := afterSync fetchFlags s₃ g₃)
      (run.offset * (afterSync fetchFlags s₃ g₃).frameBytes)
      (data.extract (done * (afterSync fetchFlags s₃ g₃).frameBytes)
        ((done + run.frames) * (afterSync fetchFlags s₃ g₃).frameBytes))
    have hs₅ : Flows s₅ := (hs₃.afterSync hg₃).of_data hs₅eq
    refine runs_bind_of_returns h₅
      (runs_bind ((mmapCommit_ready hs₅.ready run).mono fun r s₆ h₆ => ?_))
    rcases r with e | ⟨⟩
    · exact fun p hp => by cases hp
    obtain ⟨hr₆, hrun₆, hdrun₆, hf₆⟩ := h₆ rfl
    have hs₆ := hs₅.of_framed hr₆ hf₆ fun h => hdrun₆ ▸ hs₅.runs (hrun₆ ▸ h)
    refine runs_of_returns (returns_pure.2 ⟨rfl, rfl⟩) fun x hx => ⟨hs₆, fun p hp => ?_⟩
    cases hx
    cases hp
    exact roundBound_copy hd (by omega)

/-- A round of the mapped capture loop returns, and lowers the measure when it goes on. -/
theorem readRound_flows (hs : Flows s) (frames : Nat) (data : ByteArray) (done : Nat)
    (retried : Bool) :
    Runs (readRound VirtualPcm.driver frames data done retried) s
      (GoesOn (δ := ByteArray × Nat) frames done s fun p => p.2.1) := by
  unfold readRound
  split
  swap
  · exact runs_of_returns (returns_pure.2 ⟨rfl, rfl⟩) fun x hx => ⟨hs, fun p hp => by
      cases hx
      cases hp⟩
  next hd =>
  rw [runs_get_bind]
  refine runs_join (runs_bind ((startJoin_flows hs).mono fun r s₁ h₁ => ?_))
  rcases r with e | ⟨⟩
  · exact fun p hp => by cases hp
  obtain ⟨hs₁, hstart, hsame⟩ := h₁ rfl
  have hr₁ : s₁.running = true := by
    by_cases hc : (!s.running) = true
    · exact (hstart hc).1
    · rw [hsame hc]
      simpa using hc
  obtain ⟨g₁, hg₁, -⟩ := hs₁.ready.ring
  obtain ⟨a, -, ha, hav⟩ := availUpdate_ready hs₁.ready hg₁
  refine runs_bind_of_returns (returns_attempt.2 ⟨_, rfl, hav⟩) ?_
  have hs₂ := hs₁.afterSync hg₁
  set s₂ := afterSync fetchFlags s₁ g₁
  dsimp only
  split
  · next ha₀ =>
    refine runs_bind ((mmapWait_flows hs₂ hr₁ done retried).mono fun r s₃ h₃ => ?_)
    rcases r with e | b
    · exact fun p hp => by cases hp
    obtain ⟨rfl, hs₃, hflow⟩ := h₃ b rfl
    refine runs_of_returns (returns_pure.2 ⟨rfl, rfl⟩) fun x hx => ⟨hs₃, fun p hp => ?_⟩
    cases hx
    cases hp
    refine roundBound_wait (flowing_eq_false fun hr => ?_) hflow
    have he := hsame (by simp [hr])
    rw [he] at hg₁ ha
    exact ⟨g₁, hg₁, ha₀ ▸ ha⟩
  · next ha₀ =>
    have ha₂ : fetchedAvail s₂ (syncedRing fetchFlags g₁ s₁.driver).1 = .ok a :=
      (fetchedAvail_again hs₁.ready.serves).trans ha
    refine runs_bind ((mmapBegin_ready hs₂.ready rfl ha₂ (frames - done)).mono
      fun r s₃ h₃ => ?_)
    rcases r with e | run
    · exact fun p hp => by cases hp
    obtain ⟨rfl, -, hpos⟩ := h₃ run rfl
    have hs₃ := hs₂.afterSync rfl
    have hrun := hpos (by omega) ha₀
    dsimp only
    rw [runs_get_bind]
    refine runs_bind ((mmapCommit_ready hs₃.ready run).mono fun r s₄ h₄ => ?_)
    rcases r with e | ⟨⟩
    · exact fun p hp => by cases hp
    obtain ⟨hr₄, hrun₄, hdrun₄, hf₄⟩ := h₄ rfl
    have hs₄ := hs₃.of_framed hr₄ hf₄ fun h => hdrun₄ ▸ hs₃.runs (hrun₄ ▸ h)
    refine runs_of_returns (returns_pure.2 ⟨rfl, rfl⟩) fun x hx => ⟨hs₄, fun p hp => ?_⟩
    cases hx
    cases hp
    exact roundBound_copy hd (by dsimp only; omega)

/-! ## The mapped loops -/

/-- The mapped playback loop on a flowing handle returns, whatever rounds it is given. -/
theorem mmapWriteFrom_flows (data : ByteArray) (frames : Nat) (startAt : UInt64) :
    ∀ rounds done retried s, Flows s →
      Runs (mmapWriteFrom VirtualPcm.driver data frames startAt rounds done retried) s
        fun r s' => ∀ k, r = .ok k → Flows s'
  | 0, _, _, s, _ => by
    rw [mmapWriteFrom]
    exact runs_of_returns (returns_fail.2 ⟨rfl, rfl⟩) fun k hk => by cases hk
  | rounds + 1, done, retried, s, hs => by
    rw [mmapWriteFrom_succ]
    refine runs_bind ((writeRound_flows hs data frames startAt done retried).mono
      fun r s₁ h => ?_)
    rcases r with e | x
    · exact fun k hk => by cases hk
    obtain ⟨hs₁, -⟩ := h x rfl
    cases x with
    | inl k => exact runs_of_returns (returns_pure.2 ⟨rfl, rfl⟩) fun _ _ => hs₁
    | inr p => exact mmapWriteFrom_flows data frames startAt rounds p.1 p.2 s₁ hs₁

/-- The mapped capture loop on a flowing handle returns, whatever rounds it is given. -/
theorem mmapReadFrom_flows (frames : Nat) :
    ∀ rounds data done retried s, Flows s →
      Runs (mmapReadFrom VirtualPcm.driver frames rounds data done retried) s
        fun r s' => ∀ k, r = .ok k → Flows s'
  | 0, _, _, _, s, _ => by
    rw [mmapReadFrom]
    exact runs_of_returns (returns_fail.2 ⟨rfl, rfl⟩) fun k hk => by cases hk
  | rounds + 1, data, done, retried, s, hs => by
    rw [mmapReadFrom_succ]
    refine runs_bind ((readRound_flows hs frames data done retried).mono fun r s₁ h => ?_)
    rcases r with e | x
    · exact fun k hk => by cases hk
    obtain ⟨hs₁, -⟩ := h x rfl
    cases x with
    | inl k => exact runs_of_returns (returns_pure.2 ⟨rfl, rfl⟩) fun _ _ => hs₁
    | inr p => exact mmapReadFrom_flows frames rounds p.1 p.2.1 p.2.2 s₁ hs₁

/-- From a flowing handle the mapped playback loop runs alike with any number of rounds from
`2 * frames + 2` on: the bound on the rounds never decides how it ends. -/
theorem mmapWriteFrom_rounds_enough (hs : Flows s) (data : ByteArray) (frames : Nat)
    (startAt : UInt64) {r : Nat} (hr : 2 * frames + 2 ≤ r) :
    (ExceptT.run (mmapWriteFrom VirtualPcm.driver data frames startAt r 0 false)).run s =
      (ExceptT.run (mmapWriteFrom VirtualPcm.driver data frames startAt (mmapRounds frames) 0
        false)).run s := by
  have hround : ∀ done retried s done' retried' s', Flows s →
      Returns (writeRound VirtualPcm.driver data frames startAt done retried) s
        (.ok (.inr (done', retried'))) s' →
      Flows s' ∧ roundBound frames done' s' < roundBound frames done s := by
    intro done retried s done' retried' s' hs h
    obtain ⟨hs', hlt⟩ := (writeRound_flows hs data frames startAt done retried).post h _ rfl
    exact ⟨hs', hlt _ rfl⟩
  have hadd : ∀ k, (ExceptT.run (mmapWriteFrom VirtualPcm.driver data frames startAt
      (2 * frames + 2 + k) 0 false)).run s = (ExceptT.run (mmapWriteFrom VirtualPcm.driver data
        frames startAt (2 * frames + 2) 0 false)).run s :=
    mmapWriteFrom_rounds_add VirtualPcm.driver hround hs (roundBound_zero_lt frames s)
  have h₁ := hadd (r - (2 * frames + 2))
  have h₂ := hadd (mmapRounds frames - (2 * frames + 2))
  rw [Nat.add_sub_cancel' hr] at h₁
  rw [Nat.add_sub_cancel' (by unfold mmapRounds; omega)] at h₂
  rw [h₁, h₂]

/-- From a flowing handle the mapped capture loop runs alike with any number of rounds from
`2 * frames + 2` on. -/
theorem mmapReadFrom_rounds_enough (hs : Flows s) (frames : Nat) (data : ByteArray) {r : Nat}
    (hr : 2 * frames + 2 ≤ r) :
    (ExceptT.run (mmapReadFrom VirtualPcm.driver frames r data 0 false)).run s =
      (ExceptT.run (mmapReadFrom VirtualPcm.driver frames (mmapRounds frames) data 0 false)).run s := by
  have hround : ∀ data done retried s data' done' retried' s', Flows s →
      Returns (readRound VirtualPcm.driver frames data done retried) s
        (.ok (.inr (data', done', retried'))) s' →
      Flows s' ∧ roundBound frames done' s' < roundBound frames done s := by
    intro data done retried s data' done' retried' s' hs h
    obtain ⟨hs', hlt⟩ := (readRound_flows hs frames data done retried).post h _ rfl
    exact ⟨hs', hlt _ rfl⟩
  have hadd : ∀ k, (ExceptT.run (mmapReadFrom VirtualPcm.driver frames (2 * frames + 2 + k) data 0
      false)).run s = (ExceptT.run (mmapReadFrom VirtualPcm.driver frames (2 * frames + 2) data 0
        false)).run s :=
    mmapReadFrom_rounds_add VirtualPcm.driver hround hs (roundBound_zero_lt frames s)
  have h₁ := hadd (r - (2 * frames + 2))
  have h₂ := hadd (mmapRounds frames - (2 * frames + 2))
  rw [Nat.add_sub_cancel' hr] at h₁
  rw [Nat.add_sub_cancel' (by unfold mmapRounds; omega)] at h₂
  rw [h₁, h₂]

/-! ## Mapped transfers -/

/-- A mapped write on a flowing handle returns, for any frame count whose bytes fit a word. -/
theorem mmapWrite_flows (hs : Flows s) (data : ByteArray) (n : Nat)
    (hw : n * s.frameBytes < wordRange) :
    Runs (mmapWrite VirtualPcm.driver data n) s fun _ _ => True := by
  have hc : ∃ r s₁, Returns (checkTransfer false data.size n) s r s₁ := checkTransfer_returns hw
  obtain ⟨r, s₁, hc⟩ := hc
  unfold PcmStream.mmapWrite
  refine runs_bind ⟨r, s₁, hc, ?_⟩
  rcases r with e | ⟨⟩
  · trivial
  rw [(checkTransfer_ok hc).1]
  dsimp only
  rw [runs_get_bind]
  refine runs_bind ((mmapWriteFrom_flows data n _ _ 0 false s hs).mono fun r s₂ h₂ => ?_)
  rcases r with e | k
  · trivial
  have hs₂ := h₂ k rfl
  dsimp only
  rw [runs_get_bind]
  split
  · obtain ⟨g₂, hg₂, -⟩ := hs₂.ready.ring
    obtain ⟨a, -, -, hav⟩ := availUpdate_ready hs₂.ready hg₂
    refine runs_bind_of_returns hav ?_
    rw [runs_get_bind]
    refine runs_join (runs_bind ((startJoin_flows (hs₂.afterSync hg₂)).mono fun r s₃ _ => ?_))
    rcases r with e | ⟨⟩
    · trivial
    · exact runs_of_returns (returns_pure.2 ⟨rfl, rfl⟩) trivial
  · exact runs_of_returns (returns_pure.2 ⟨rfl, rfl⟩) trivial

theorem mmapRead_flows (hs : Flows s) (data : ByteArray) (n : Nat)
    (hw : n * s.frameBytes < wordRange) :
    Runs (mmapRead VirtualPcm.driver data n) s fun _ _ => True := by
  have hc : ∃ r s₁, Returns (checkTransfer true data.size n) s r s₁ := checkTransfer_returns hw
  obtain ⟨r, s₁, hc⟩ := hc
  unfold PcmStream.mmapRead
  refine runs_bind ⟨r, s₁, hc, ?_⟩
  rcases r with e | ⟨⟩
  · trivial
  rw [(checkTransfer_ok hc).1]
  exact (mmapReadFrom_flows n _ data 0 false s hs).mono fun _ _ _ => trivial

end SoundCard.Virtual
