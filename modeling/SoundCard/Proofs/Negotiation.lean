import Mathlib
import SoundCard.Proofs.ParamChoice
import SoundCard.Proofs.StreamRun
import SoundCard.Proofs.PointerWrap
/-! How opening a stream runs, read off the answers of its device: when each step answers, the run
is the run of `negotiateTail` from the state the ring left. -/
namespace SoundCard.Pcm

open SoundCard.Os SoundCard.Hw

variable {ε S σ α β : Type}

section Runs

variable {s s₁ s' : S} {x : ExceptT ε (StateT S Trapping) α}
  {f : α → ExceptT ε (StateT S Trapping) β}

theorem run_bind_of_returns {a : α} (hx : Returns x s (.ok a) s₁) :
    (ExceptT.run (x >>= f)).run s = (ExceptT.run (f a)).run s₁ := by
  simp only [ExceptT.run_bind, StateT.run_bind]
  rw [show StateT.run (ExceptT.run x) s = _ from hx]
  rfl

theorem returns_bind_of_returns {a : α} {r : Except ε β} (hx : Returns x s (.ok a) s₁) :
    Returns (x >>= f) s r s' ↔ Returns (f a) s₁ r s' := by
  unfold Returns
  rw [run_bind_of_returns hx]

theorem returns_modifyGet {g : S → α × S} :
    Returns (modifyGet g : ExceptT ε (StateT S Trapping) α) s (.ok (g s).1) (g s).2 :=
  rfl

theorem run_lift_error_bind {t : Trap} :
    (ExceptT.run (monadLift (Except.error t : Trapping α) >>= f)).run s = .error t :=
  rfl

end Runs

namespace SetupM

variable {d d' : σ} {m : DeviceM σ α}

theorem returns_request {ctx : String} {o : Except IoError α} (h : Returns m d o d') :
    Returns (request ctx m) d (o.mapError (StreamError.driver ctx)) d' := by
  unfold Returns at h ⊢
  simp only [request, ExceptT.adapt, ExceptT.run_mk, StateT.run_map]
  rw [show StateT.run m d = _ from h]
  rfl

theorem returns_attempt {o : Except IoError α} (h : Returns m d o d') :
    Returns (attempt m) d (.ok o) d' := by
  unfold Returns at h ⊢
  simp only [attempt, ExceptT.lift, ExceptT.run_mk, StateT.run_map]
  rw [h]
  rfl

theorem returns_request_ok {ctx : String} {a : α} (h : Returns (request ctx m) d (.ok a) d') :
    Returns m d (.ok a) d' := by
  unfold Returns at h ⊢
  simp only [request, ExceptT.adapt, ExceptT.run_mk, StateT.run_map] at h
  rcases hrun : StateT.run m d with t | ⟨_ | a', d₁⟩ <;> rw [hrun] at h
  · cases h
  · cases h
  · cases h
    exact hrun

theorem returns_of_attempt {o : Except IoError α} (h : Returns (attempt m) d (.ok o) d') :
    Returns m d o d' := by
  unfold Returns at h ⊢
  simp only [attempt, ExceptT.lift, ExceptT.run_mk, StateT.run_map] at h
  rcases hrun : (ExceptT.run m).run d with t | ⟨o', d₁⟩ <;> rw [hrun] at h
  · cases h
  · cases h
    rfl

end SetupM

/-- What negotiation does once the ring is set up: it maps the data area of an mmap
stream, picks the monotonic clock when asked, and answers the record it settled. -/
def negotiateTail (D : PcmDevice σ) (flags : OpenFlags) (info : PcmInfo) (config : StreamConfig)
    (computed : Nat) (sw : SwParams) (ring : Ring) : SetupM σ Negotiated := do
  let data ← if flags.mmap then do
      let len ← monadLift (mulWord config.bufferSize config.frameBytes)
      some <$> SetupM.request "cannot map data buffer" (D.map MapOffset.data len true)
    else pure none
  if flags.monotonic then
    SetupM.request "cannot set timestamp type" (D.setTstampType monotonicClock)
  pure { config := config, bufferSize := UInt64.ofNat config.bufferSize,
         boundary := if sw.boundary ≠ 0 then sw.boundary else UInt64.ofNat computed,
         card := UInt32.ofNat info.card.toNat, device := info.device,
         subdevice := info.subdevice, ring := ring, data := data }

section Negotiate

variable {D : PcmDevice σ} {syncOnly : Bool} {flags : OpenFlags} {req : StreamConfig}
  {d₀ d₁ d₂ d₃ d₄ : σ}

/-- A negotiation whose requests answer up to the ring goes on as its tail, from the state
the ring left. -/
theorem run_negotiate {info : PcmInfo} {params : HwParams} {computed : Nat} {sw : SwParams}
    {ring : Ring} (hr : req.problem? = none) (hi : Returns D.info d₀ (.ok info) d₁)
    (hp : Returns (D.install (HwParams.ofConfig req flags)) d₁ (.ok params) d₂)
    (hb : boundaryOf (req.settle params).bufferSize = .ok computed)
    (hs : Returns (D.software ((req.settle params).softwareParams computed)) d₂ (.ok sw) d₃)
    (he : Returns (Ring.establish D syncOnly sw.availMin) d₃ (.ok ring) d₄) :
    (ExceptT.run (negotiate D syncOnly flags req)).run d₀ =
      (ExceptT.run (negotiateTail D flags info (req.settle params) computed sw ring)).run d₄ := by
  unfold negotiate
  simp only [hr]
  rw [run_bind_of_returns (SetupM.returns_request hi),
    run_bind_of_returns (SetupM.returns_attempt hp)]
  dsimp only
  rw [pure_bind, run_bind_of_returns (returns_lift.2 ⟨_, hb, rfl, rfl⟩),
    run_bind_of_returns (SetupM.returns_request hs),
    run_bind_of_returns (SetupM.returns_request he)]
  rfl

theorem returns_negotiate_invalid {p : ConfigProblem} (hr : req.problem? = some p) :
    Returns (negotiate D syncOnly flags req) d₀ (.error (.invalidArgument p.text)) d₀ := by
  unfold negotiate
  simp only [hr]
  exact returns_throw_bind.2 ⟨rfl, rfl⟩

theorem returns_negotiate_refused {info : PcmInfo} {cause : IoError} {o : Except IoError HwParams}
    (hr : req.problem? = none) (hi : Returns D.info d₀ (.ok info) d₁)
    (hp : Returns (D.install (HwParams.ofConfig req flags)) d₁ (.error cause) d₂)
    (hl : Returns (D.refine HwParams.any) d₂ o d₃) :
    Returns (negotiate D syncOnly flags req) d₀
      (.error (.config "cannot set hw params" cause o.toOption)) d₃ := by
  unfold negotiate
  simp only [hr]
  rw [returns_bind_of_returns (SetupM.returns_request hi),
    returns_bind_of_returns (SetupM.returns_attempt hp)]
  dsimp only
  rw [returns_bind_of_returns (SetupM.returns_attempt hl)]
  cases o <;> exact returns_throw_bind.2 ⟨rfl, rfl⟩

variable {info : PcmInfo} {config : StreamConfig} {computed : Nat} {sw : SwParams} {ring : Ring}

/-- The tail answers the record it settled once the data area of an mmap stream is mapped
and the clock is set when asked. -/
theorem returns_negotiateTail {data : Option Region} {d₅ d₆ : σ}
    (hd : (flags.mmap = true ∧ ∃ len g, data = some g ∧
        mulWord config.bufferSize config.frameBytes = .ok len ∧
        Returns (D.map MapOffset.data len true) d₄ (.ok g) d₅) ∨
      (flags.mmap = false ∧ data = none ∧ d₅ = d₄))
    (hm : (flags.monotonic = true ∧ Returns (D.setTstampType monotonicClock) d₅ (.ok ()) d₆) ∨
      (flags.monotonic = false ∧ d₆ = d₅)) :
    Returns (negotiateTail D flags info config computed sw ring) d₄
      (.ok { config := config, bufferSize := UInt64.ofNat config.bufferSize,
             boundary := if sw.boundary ≠ 0 then sw.boundary else UInt64.ofNat computed,
             card := UInt32.ofNat info.card.toNat, device := info.device,
             subdevice := info.subdevice, ring := ring, data := data }) d₆ := by
  have hclock : ∀ n : Negotiated, Returns (if flags.monotonic = true then
      SetupM.request "cannot set timestamp type" (D.setTstampType monotonicClock) >>=
        fun _ => pure n
      else pure n) d₅ (.ok n) d₆ := by
    intro n
    rcases hm with ⟨hmo, hset⟩ | ⟨hmo, rfl⟩
    · rw [if_pos hmo, returns_bind_of_returns (SetupM.returns_request hset)]
      exact returns_pure.2 ⟨rfl, rfl⟩
    · rw [if_neg (by simp [hmo])]
      exact returns_pure.2 ⟨rfl, rfl⟩
  unfold negotiateTail
  dsimp only
  rcases hd with ⟨hmm, len, g, rfl, hlen, hmap⟩ | ⟨hmm, rfl, rfl⟩
  · rw [if_pos hmm, returns_bind_of_returns (returns_lift.2 ⟨_, hlen, rfl, rfl⟩),
      returns_bind_of_returns (returns_map.2 (.inr ⟨g, rfl, SetupM.returns_request hmap⟩))]
    exact hclock _
  · rw [if_neg (by simp [hmm]), pure_bind]
    exact hclock _

/-- An mmap stream whose data area does not fit stops the program. -/
theorem run_negotiateTail_trap {t : Trap} (hmm : flags.mmap = true)
    (ht : mulWord config.bufferSize config.frameBytes = .error t ∨
      ∃ len, mulWord config.bufferSize config.frameBytes = .ok len ∧
        (ExceptT.run (D.map MapOffset.data len true)).run d₄ = .error t) :
    (ExceptT.run (negotiateTail D flags info config computed sw ring)).run d₄ = .error t := by
  unfold negotiateTail
  dsimp only
  rw [if_pos hmm]
  rcases ht with ht | ⟨len, hlen, hmap⟩
  · rw [ht]
    exact run_lift_error_bind
  · rw [run_bind_of_returns (returns_lift.2 ⟨_, hlen, rfl, rfl⟩)]
    simp only [SetupM.request, ExceptT.adapt, ExceptT.run_bind, ExceptT.run_map, ExceptT.run_mk,
      StateT.run_bind, StateT.run_map]
    rw [show StateT.run (D.map MapOffset.data len true) d₄ = _ from hmap]
    rfl

theorem eq_of_returns_join_pure {ε S β : Type} {c : Prop} [Decidable c]
    {m : ExceptT ε (StateT S Trapping) β} {x y : α} {s s' : S}
    (h : Returns (if c then m >>= fun _ => pure x else pure x) s (.ok y) s') : y = x := by
  split at h
  · rcases returns_bind.1 h with ⟨e, he, -⟩ | ⟨u, s₁, -, h⟩
    · cases he
    exact Except.ok.inj (returns_pure.1 h).1
  · exact Except.ok.inj (returns_pure.1 h).1

/-- The record the tail answers carries the ring, the buffer size and the boundary it was
given, whatever data area it mapped. -/
theorem negotiateTail_answers {n : Negotiated} {d d' : σ}
    (h : Returns (negotiateTail D flags info config computed sw ring) d (.ok n) d') :
    n.ring = ring ∧ n.bufferSize = UInt64.ofNat config.bufferSize ∧
      n.boundary = if sw.boundary ≠ 0 then sw.boundary else UInt64.ofNat computed := by
  unfold negotiateTail at h
  dsimp only at h
  split at h
  · rcases returns_bind.1 h with ⟨e, he, -⟩ | ⟨len, d₁, -, h⟩
    · cases he
    rcases returns_bind.1 h with ⟨e, he, -⟩ | ⟨data, d₂, -, h⟩
    · cases he
    obtain rfl := eq_of_returns_join_pure h
    exact ⟨rfl, rfl, rfl⟩
  · rw [pure_bind] at h
    obtain rfl := eq_of_returns_join_pure h
    exact ⟨rfl, rfl, rfl⟩

/-- A negotiation that answers validated its request and went through every step, each
answering. -/
theorem returns_negotiate_ok {n : Negotiated} {d' : σ}
    (h : Returns (negotiate D syncOnly flags req) d₀ (.ok n) d') :
    req.problem? = none ∧ ∃ info params computed sw ring d₁ d₂ d₃ d₄,
      Returns D.info d₀ (.ok info) d₁ ∧
      Returns (D.install (HwParams.ofConfig req flags)) d₁ (.ok params) d₂ ∧
      boundaryOf (req.settle params).bufferSize = .ok computed ∧
      Returns (D.software ((req.settle params).softwareParams computed)) d₂ (.ok sw) d₃ ∧
      Returns (Ring.establish D syncOnly sw.availMin) d₃ (.ok ring) d₄ ∧
      Returns (negotiateTail D flags info (req.settle params) computed sw ring) d₄ (.ok n) d' := by
  unfold negotiate at h
  dsimp only at h
  split at h
  · cases (returns_throw_bind.1 h).1
  next hr =>
  rcases returns_bind.1 h with ⟨e, he, -⟩ | ⟨info, d₁, hi, h⟩
  · cases he
  rcases returns_bind.1 h with ⟨e, he, -⟩ | ⟨o, d₂, hp, h⟩
  · cases he
  rcases o with cause | params
  · dsimp only at h
    rcases returns_bind.1 h with ⟨e, he, -⟩ | ⟨o, d₃, -, h⟩
    · cases he
    cases (returns_throw_bind.1 h).1
  dsimp only at h
  rw [pure_bind] at h
  rcases returns_bind.1 h with ⟨e, he, -⟩ | ⟨computed, d₂', hb, h⟩
  · cases he
  obtain ⟨_, hb, hc, hd⟩ := returns_lift.1 hb
  cases hc
  rcases returns_bind.1 h with ⟨e, he, -⟩ | ⟨sw, d₃, hs, h⟩
  · cases he
  rcases returns_bind.1 h with ⟨e, he, -⟩ | ⟨ring, d₄, he, h⟩
  · cases he
  exact ⟨Option.eq_none_iff_forall_ne_some.2 hr, info, params, computed, sw, ring, d₁, d₂, d₃, d₄,
    SetupM.returns_request_ok hi, SetupM.returns_of_attempt hp, hb, hd ▸ SetupM.returns_request_ok hs,
    SetupM.returns_request_ok he, h⟩

end Negotiate

/-! ## What validation and the word-sized steps allow -/

theorem SampleFormat.physicalBits_eq (f : SampleFormat) :
    f.physicalBits = 8 * f.bytesPerSample := by
  cases f <;> rfl

theorem toNat_pos_of_ne_zero {x : UInt32} (h : x ≠ 0) : 0 < x.toNat := by
  rw [Nat.pos_iff_ne_zero, Ne, ← UInt32.toNat_zero, UInt32.toNat_inj]
  exact h

namespace StreamConfig

theorem problem?_eq_none_iff (r : StreamConfig) :
    r.problem? = none ↔ r.channels ≠ 0 ∧ r.rate ≠ 0 ∧ r.periodSize ≠ 0 ∧ r.periodCount ≠ 0 ∧
      r.bufferSize ≤ maxBufferFrames := by
  unfold problem?
  split_ifs <;> simp_all
  tauto

theorem bufferSize_lt_of_valid {r : StreamConfig} (hr : r.problem? = none) (ps : UInt32) :
    ({ r with periodSize := ps } : StreamConfig).bufferSize < 2 ^ 63 := by
  obtain ⟨-, -, hps, -, hbuf⟩ := (problem?_eq_none_iff r).1 hr
  have hcount : r.periodCount.toNat ≤ maxBufferFrames :=
    le_trans (Nat.le_mul_of_pos_left _ (toNat_pos_of_ne_zero hps)) hbuf
  have hps32 : ps.toNat < 2 ^ 32 := ps.toNat_lt
  unfold bufferSize maxBufferFrames at *
  calc ps.toNat * r.periodCount.toNat ≤ (2 ^ 32 - 1) * 2147483647 :=
        Nat.mul_le_mul (by omega) hcount
    _ < 2 ^ 63 := by norm_num

end StreamConfig

theorem computeBoundary_lt {bs : Nat} (h : bs < 2 ^ 63) : computeBoundary bs < 2 ^ 64 := by
  rcases Nat.eq_zero_or_pos bs with rfl | hbs
  · simp [computeBoundary]
  · have := (computeBoundary_spec hbs).2.2.1
    unfold boundaryLimit at this
    omega

theorem lt_of_boundaryOf_ok {bs c : Nat} (h : boundaryOf bs = .ok c) :
    bs < 2 ^ 63 ∧ c = computeBoundary bs := by
  unfold boundaryOf wordRange at h
  split at h
  · cases h
  · next hc =>
    cases h
    exact ⟨by omega, rfl⟩

theorem computeBoundary_within {bs : Nat} (h : bs < 2 ^ 63) :
    bs ≤ computeBoundary bs ∧ computeBoundary bs < 2 ^ 63 := by
  rcases Nat.eq_zero_or_pos bs with rfl | hbs
  · simp [computeBoundary]
  · obtain ⟨-, hle, hcase, -⟩ := computeBoundary_spec hbs
    unfold boundaryLimit at hcase
    exact ⟨hle, by omega⟩

theorem mulWord_of_lt {a b : Nat} (h : a * b < 2 ^ 64) : mulWord a b = .ok (a * b) := by
  unfold mulWord wordRange
  rw [if_pos (by omega)]
  rfl

theorem mulWord_of_le {a b : Nat} (h : 2 ^ 64 ≤ a * b) : mulWord a b = .error .mulOverflow := by
  unfold mulWord wordRange
  rw [if_neg (by omega)]
  rfl

theorem ofNat_computeBoundary {bs : Nat} (h : bs < 2 ^ 63) :
    (UInt64.ofNat (computeBoundary bs)).toNat = computeBoundary bs := by
  have := computeBoundary_lt h
  simp only [UInt64.toNat_ofNat']
  omega

theorem Region.heapOf_of_lt {n : Nat} (h : n + 7 < 2 ^ 63) :
    Region.heapOf n = .ok (Region.zeroed n) := by
  unfold Region.heapOf reserve halfWordRange
  rw [if_pos (by omega)]
  rfl

theorem Region.heapOf_of_le {n : Nat} (h : 2 ^ 63 ≤ n + 7) :
    Region.heapOf n = .error .capacityOverflow := by
  unfold Region.heapOf reserve halfWordRange
  rw [if_neg (by omega)]
  rfl

namespace PcmStream

variable {D : PcmDevice σ} {syncOnly : Bool} {driver d : σ} {flags : OpenFlags}
  {config : StreamConfig}

theorem openWith_of_returns_ok {n : Negotiated}
    (h : Returns (negotiate D syncOnly flags config) driver (.ok n) d) :
    openWith D syncOnly driver flags config =
      .ok { driver := d, attached := true, ring := some n.ring, data := n.data, flags := flags,
            config := n.config, bufferSize := n.bufferSize, boundary := n.boundary,
            card := n.card, device := n.device, subdevice := n.subdevice } := by
  unfold openWith
  rw [show (ExceptT.run (negotiate D syncOnly flags config)).run driver = _ from h]
  rfl

theorem openWith_of_returns_error {e : StreamError}
    (h : Returns (negotiate D syncOnly flags config) driver (.error e) d) :
    openWith D syncOnly driver flags config = .ok (notReadyOf d flags config e) := by
  unfold openWith
  rw [show (ExceptT.run (negotiate D syncOnly flags config)).run driver = _ from h]
  rfl

theorem openWith_of_trap {t : Trap}
    (h : (ExceptT.run (negotiate D syncOnly flags config)).run driver = .error t) :
    openWith D syncOnly driver flags config = .error t := by
  unfold openWith
  rw [h]
  rfl

end PcmStream

end SoundCard.Pcm

namespace SoundCard.Hw

open SoundCard.Pcm

theorem HwParams.Settles.bufferSize_toNat {p : HwParams} {r : StreamConfig} {ps : UInt32}
    (h : p.Settles r ps) :
    (p.min .bufferSize).toNat = Min.min (ps.toNat * r.periodCount.toNat) 4294967295 := by
  rw [h.bufferSize, satMul32_toNat]

theorem HwParams.Settles.frameBits_toNat {p : HwParams} {r : StreamConfig} {ps : UInt32}
    (h : p.Settles r ps) : (p.min .frameBits).toNat = Min.min (8 * r.frameBytes) 4294967295 := by
  have hpb : r.format.physicalBits < 2 ^ 32 := by
    cases r.format <;> decide
  rw [h.frameBits, satMul32_toNat, UInt32.toNat_ofNat_of_lt' hpb, SampleFormat.physicalBits_eq,
    StreamConfig.frameBytes, Nat.mul_assoc]

end SoundCard.Hw
