import Mathlib
import SoundCard.Proofs.ParamRecord
/-! Refining a request, parameter by parameter: the request narrowed to what the device allows
(`Constraints.narrowed`). -/
namespace SoundCard.Hw

namespace Constraints

/-- The mask a device allows for a mask parameter; every bit for the others. -/
def maskBound (c : Constraints) : Param → Mask
  | .access => Mask.ofBits64 c.access.toNat
  | .format => Mask.ofBits64 c.format.toNat
  | .subformat => Mask.ofBits64 (Nat.pow 2 subformatStd)
  | _ => Mask.full

/-- The range a device allows for a ranged parameter. -/
def rangeBound (c : Constraints) : Param → Option Range
  | .sampleBits => some c.bitWidth
  | .channels => some c.channels
  | .rate => some c.rate
  | .periods => some c.periods
  | .periodBytes => some c.periodBytes
  | _ => none

/-- The period sizes whose bytes lie in the allowed byte range, at `fb / 8` bytes a frame. -/
def framesRange (c : Constraints) (fb : UInt32) : Range :=
  ⟨UInt32.ofNat ((c.periodBytes.min.toNat + (fb / 8).toNat - 1) / (fb / 8).toNat),
    c.periodBytes.max / (fb / 8)⟩

/-- What refining does to the interval of `q`, given the frame width the request pins. -/
def narrowInterval (c : Constraints) (frameBits : Option UInt32) (q : Param) (i : Interval) :
    Interval :=
  match c.rangeBound q with
  | some r => i.clampTo r.min r.max
  | none =>
    match q, frameBits with
    | .periodSize, some fb =>
      if fb ≥ 8 then i.clampTo (c.framesRange fb).min (c.framesRange fb).max else i
    | _, _ => i

/-- The request `p` narrowed to what the device allows, every parameter at once. -/
def narrowed (c : Constraints) (p : HwParams) : HwParams :=
  p.update (fun q m => m.inter (c.maskBound q)) (c.narrowInterval (p.single? .frameBits))

variable (c : Constraints) (p : HwParams)

@[simp] theorem mask_narrowed (q : Param) :
    (c.narrowed p).mask q = (p.mask q).map (·.inter (c.maskBound q)) :=
  HwParams.mask_update _ _ p q

@[simp] theorem interval_narrowed (q : Param) :
    (c.narrowed p).interval q = (p.interval q).map (c.narrowInterval (p.single? .frameBits) q) :=
  HwParams.interval_update _ _ p q

theorem reshapes_narrowed : (c.narrowed p).Reshapes p := HwParams.reshapes_update _ _ p

/-! ## The three stages of refining -/

variable {c p}

theorem narrowMasks_cons {q : Param} {mq : Mask} (hq : p.mask q = some mq) (m : Mask)
    (rest : List (Nat × Mask)) :
    narrowMasks ((q.index, m) :: rest) p =
      if (mq.inter m).isEmpty then ⟨p.modifyMask q.index (·.inter m), false⟩
      else narrowMasks rest (p.modifyMask q.index (·.inter m)) := by
  have h : (p.modifyMask q.index (·.inter m)).mask? q.index = some (mq.inter m) := by
    change (p.modifyMask q.index (·.inter m)).mask q = _
    simp [hq]
  simp only [narrowMasks, h]

/-- Cutting the masks admits exactly when no cut mask is empty, and then leaves the cut
masks and nothing else changed. -/
theorem narrowMasks_allowed :
    let r := narrowMasks c.allowedMasks p
    (r.admitted = true ↔ ∀ q m, (c.narrowed p).mask q = some m → m.isEmpty = false) ∧
      (r.admitted = true → (∀ q, r.params.mask q = (c.narrowed p).mask q) ∧
        (∀ q, r.params.interval q = p.interval q) ∧ r.params.Reshapes p) := by
  obtain ⟨ma, ha⟩ : ∃ m, p.mask .access = some m := ⟨_, rfl⟩
  obtain ⟨mf, hf⟩ : ∃ m, p.mask .format = some m := ⟨_, rfl⟩
  obtain ⟨ms, hs⟩ : ∃ m, p.mask .subformat = some m := ⟨_, rfl⟩
  have hcond : (∀ q m, (c.narrowed p).mask q = some m → m.isEmpty = false) ↔
      (ma.inter (c.maskBound .access)).isEmpty = false ∧
        (mf.inter (c.maskBound .format)).isEmpty = false ∧
        (ms.inter (c.maskBound .subformat)).isEmpty = false := by
    constructor
    · intro h
      exact ⟨h .access _ (by simp [ha]), h .format _ (by simp [hf]), h .subformat _ (by simp [hs])⟩
    · rintro ⟨h1, h2, h3⟩ q m hm
      rw [mask_narrowed] at hm
      rcases Param.mask_cases q with rfl | rfl | rfl | hq
      · simp only [ha, Option.map_some, Option.some.injEq] at hm
        exact hm ▸ h1
      · simp only [hf, Option.map_some, Option.some.injEq] at hm
        exact hm ▸ h2
      · simp only [hs, Option.map_some, Option.some.injEq] at hm
        exact hm ▸ h3
      · simp [HwParams.mask_of_not_isMask p hq] at hm
  have hlist : c.allowedMasks = [(Param.access.index, c.maskBound .access),
      (Param.format.index, c.maskBound .format), (Param.subformat.index, c.maskBound .subformat)] :=
    rfl
  let p₁ := p.modifyMask Param.access.index (·.inter (c.maskBound .access))
  let p₂ := p₁.modifyMask Param.format.index (·.inter (c.maskBound .format))
  let p₃ := p₂.modifyMask Param.subformat.index (·.inter (c.maskBound .subformat))
  have hf₁ : p₁.mask .format = some mf := by simp [p₁, hf]
  have hs₂ : p₂.mask .subformat = some ms := by simp [p₂, p₁, hs]
  dsimp only
  rw [hlist, narrowMasks_cons ha, narrowMasks_cons hf₁, narrowMasks_cons hs₂, hcond]
  split_ifs with h1 h2 h3
  · simp [h1]
  · simp [h2]
  · simp [h3]
  · rw [show narrowMasks [] p₃ = ⟨p₃, true⟩ from rfl]
    simp only [Bool.not_eq_true] at h1 h2 h3
    refine ⟨iff_of_true rfl ⟨h1, h2, h3⟩, fun _ => ⟨fun q => ?_, fun q => by simp [p₃, p₂, p₁], ?_⟩⟩
    · rcases Param.mask_cases q with rfl | rfl | rfl | hq
      · simp [p₃, p₂, p₁, ha]
      · simp [p₃, p₂, p₁, hf]
      · simp [p₃, p₂, p₁, hs]
      · rw [HwParams.mask_of_not_isMask _ hq, mask_narrowed, HwParams.mask_of_not_isMask _ hq]
        rfl
    · show p₃.Reshapes p
      exact (HwParams.reshapes_modifyMask _ _).trans
        ((HwParams.reshapes_modifyMask _ _).trans (HwParams.reshapes_modifyMask _ _))

theorem clampRanges (r : HwParams) :
    let s := c.allowedRanges.foldl
      (fun p (q, rg) => p.modifyInterval q.index (·.clampTo rg.min rg.max)) r
    (∀ q, s.interval q = (r.interval q).map fun i =>
      match c.rangeBound q with
      | some rg => i.clampTo rg.min rg.max
      | none => i) ∧ (∀ q, s.mask q = r.mask q) ∧ s.Reshapes r := by
  simp only [allowedRanges, List.foldl_cons, List.foldl_nil]
  refine ⟨fun q => ?_, fun q => by simp, ?_⟩
  · cases q <;> simp [rangeBound]
  · repeat first
      | exact HwParams.Reshapes.refl _
      | refine (HwParams.reshapes_modifyInterval _ _).trans ?_

/-- Clamping the period size to the whole frames of the allowed byte range, once the frame
width is pinned to at least a byte. -/
theorem clampPeriodSize_spec (r : HwParams) :
    (∀ q, (c.clampPeriodSize r).interval q =
      (r.interval q).map fun i =>
        match q, r.single? .frameBits with
        | .periodSize, some fb =>
          if fb ≥ 8 then i.clampTo (c.framesRange fb).min (c.framesRange fb).max else i
        | _, _ => i) ∧
      (∀ q, (c.clampPeriodSize r).mask q = r.mask q) ∧ (c.clampPeriodSize r).Reshapes r := by
  unfold clampPeriodSize
  rcases hfb : r.single? .frameBits with _ | fb
  · refine ⟨fun q => ?_, fun q => rfl, HwParams.Reshapes.refl _⟩
    cases q <;> simp
  · by_cases h8 : 8 ≤ fb
    · simp only [ge_iff_le, h8, if_true]
      refine ⟨fun q => ?_, fun q => by simp, HwParams.reshapes_modifyInterval _ _⟩
      cases q <;> simp [framesRange, h8]
    · simp only [ge_iff_le, h8, if_false]
      refine ⟨fun q => ?_, by simp, HwParams.Reshapes.refl _⟩
      cases q <;> simp [h8]

/-- Once the masks are cut, the clamps that follow leave exactly the narrowed record. -/
theorem stages_narrowed (hm : (narrowMasks c.allowedMasks p).admitted = true) :
    let r := c.clampPeriodSize (c.allowedRanges.foldl
      (fun p (q, rg) => p.modifyInterval q.index (·.clampTo rg.min rg.max))
      (narrowMasks c.allowedMasks p).params)
    (∀ q, r.mask q = (c.narrowed p).mask q) ∧ (∀ q, r.interval q = (c.narrowed p).interval q) ∧
      r.Reshapes p := by
  obtain ⟨hmask, hint, hre⟩ := (narrowMasks_allowed (c := c) (p := p)).2 hm
  generalize (narrowMasks c.allowedMasks p).params = r₁ at hmask hint hre
  obtain ⟨hint₂, hmask₂, hre₂⟩ := clampRanges (c := c) r₁
  generalize c.allowedRanges.foldl _ r₁ = r₂ at hint₂ hmask₂ hre₂
  obtain ⟨hint₃, hmask₃, hre₃⟩ := clampPeriodSize_spec (c := c) r₂
  have hfb : r₂.single? .frameBits = p.single? .frameBits := by
    simp [HwParams.single?, hint₂, hint, rangeBound]
  refine ⟨fun q => by rw [hmask₃, hmask₂, hmask], fun q => ?_, hre₃.trans (hre₂.trans hre)⟩
  rw [hint₃, hint₂, hint, hfb, interval_narrowed]
  rcases p.interval q with _ | i
  · rfl
  · cases q <;> simp [narrowInterval, rangeBound]

/-- Refining admits exactly when the narrowed record admits something, and then answers
that record with no parameter left to refine. -/
theorem refine_spec :
    ((c.refine p).admitted = true ↔ (c.narrowed p).isEmpty = false) ∧
      ((c.refine p).admitted = true → (c.refine p).params = { c.narrowed p with rmask := 0 }) := by
  have hmasks := (narrowMasks_allowed (c := c) (p := p)).1
  unfold refine
  dsimp only
  cases hm : (narrowMasks c.allowedMasks p).admitted
  · simp only [Bool.not_false, if_true, hm, Bool.false_eq_true, false_iff, false_implies,
      and_true]
    rw [HwParams.isEmpty_eq_false_iff]
    exact fun h => Bool.false_ne_true (hm ▸ hmasks.2 h.1)
  · obtain ⟨hmask, hint, hre⟩ := stages_narrowed hm
    have hok : ∀ q m, (c.narrowed p).mask q = some m → m.isEmpty = false := hmasks.1 hm
    simp only [Bool.not_true, Bool.false_eq_true, if_false]
    generalize c.clampPeriodSize _ = r at hmask hint hre
    have hints : r.intervals.toList.any (·.isEmpty) = false ↔
        ∀ q i, (c.narrowed p).interval q = some i → i.isEmpty = false := by
      rw [HwParams.intervals_any_isEmpty_eq_false]
      simp only [hint]
    split
    · rename_i he
      simp only [Bool.false_eq_true, false_iff, false_implies, and_true]
      rw [HwParams.isEmpty_eq_false_iff]
      rintro ⟨-, hi⟩
      rw [hints.2 hi] at he
      cases he
    · rename_i he
      have hne : (c.narrowed p).isEmpty = false :=
        HwParams.isEmpty_eq_false_iff.2 ⟨hok, hints.1 (by simpa using he)⟩
      refine ⟨iff_of_true rfl hne, fun _ => ?_⟩
      exact (hre.rmask 0).ext ((reshapes_narrowed c p).rmask 0)
        (fun q => (HwParams.mask_rmask _ _).trans ((hmask q).trans (HwParams.mask_rmask _ _).symm))
        (fun q => (HwParams.interval_rmask _ _).trans
          ((hint q).trans (HwParams.interval_rmask _ _).symm))

/-! ## Narrowing never widens, and narrows once for all -/

variable (c p)

theorem narrowInterval_id_or_clampTo (fb : Option UInt32) (q : Param) :
    (∀ i, c.narrowInterval fb q i = i) ∨
      ∃ lo hi, ∀ i, c.narrowInterval fb q i = i.clampTo lo hi := by
  unfold narrowInterval
  split
  · exact Or.inr ⟨_, _, fun i => rfl⟩
  · split
    · split
      · exact Or.inr ⟨_, _, fun i => rfl⟩
      · exact Or.inl fun i => rfl
    · exact Or.inl fun i => rfl

theorem narrowInterval_narrows (fb : Option UInt32) (q : Param) (i : Interval) :
    (c.narrowInterval fb q i).Narrows i := by
  rcases narrowInterval_id_or_clampTo c fb q with h | ⟨lo, hi, h⟩
  · rw [h]
    exact Interval.narrows_refl i
  · rw [h]
    exact Interval.clampTo_narrows i lo hi

theorem narrowInterval_narrowInterval (fb : Option UInt32) (q : Param) (i : Interval) :
    c.narrowInterval fb q (c.narrowInterval fb q i) = c.narrowInterval fb q i := by
  rcases narrowInterval_id_or_clampTo c fb q with h | ⟨lo, hi, h⟩
  · rw [h, h]
  · rw [h, h, Interval.clampTo_clampTo]

theorem narrowed_narrowerThan : (c.narrowed p).NarrowerThan p := by
  refine ⟨fun q m m' hm hm' b hb => ?_, fun q i j hi hj => ?_⟩
  · rw [mask_narrowed, hm, Option.map_some, Option.some.injEq] at hm'
    exact Mask.test_of_test_inter (hm' ▸ hb)
  · rw [interval_narrowed, hi, Option.map_some, Option.some.injEq] at hj
    exact hj ▸ narrowInterval_narrows c _ q i

theorem single?_narrowed_frameBits : (c.narrowed p).single? .frameBits = p.single? .frameBits := by
  simp only [HwParams.single?, interval_narrowed]
  rcases p.interval .frameBits with _ | i
  · rfl
  · simp [narrowInterval, rangeBound]

theorem narrowed_narrowed : c.narrowed (c.narrowed p) = c.narrowed p := by
  have hm : ∀ q, (c.narrowed (c.narrowed p)).mask q = (c.narrowed p).mask q := by
    intro q
    simp only [mask_narrowed, Option.map_map]
    rcases p.mask q with _ | m
    · rfl
    · simp [Mask.inter_inter_self]
  have hi : ∀ q, (c.narrowed (c.narrowed p)).interval q = (c.narrowed p).interval q := by
    intro q
    simp only [interval_narrowed, single?_narrowed_frameBits, Option.map_map]
    rcases p.interval q with _ | i
    · rfl
    · simp [narrowInterval_narrowInterval]
  exact ((reshapes_narrowed c _).trans (reshapes_narrowed c p)).ext (reshapes_narrowed c p) hm hi

theorem narrowed_rmask_of_fixed {n : HwParams} (hn : c.narrowed n = n) (x : UInt32) :
    c.narrowed { n with rmask := x } = { n with rmask := x } := by
  refine (reshapes_narrowed c _).ext (HwParams.Reshapes.refl _) (fun q => ?_) (fun q => ?_)
  · calc (c.narrowed { n with rmask := x }).mask q
        = (n.mask q).map (·.inter (c.maskBound q)) := by rw [mask_narrowed, HwParams.mask_rmask]
      _ = (c.narrowed n).mask q := (mask_narrowed c n q).symm
      _ = n.mask q := congrArg (·.mask q) hn
  · calc (c.narrowed { n with rmask := x }).interval q
        = (c.narrowed n).interval q := (interval_narrowed c _ q).trans (interval_narrowed c n q).symm
      _ = n.interval q := congrArg (·.interval q) hn

variable {c p}

/-- A refined record is a fixed point of refining. -/
theorem refine_refine (h : (c.refine p).admitted = true) :
    c.refine (c.refine p).params = ⟨(c.refine p).params, true⟩ := by
  obtain ⟨hiff, hparams⟩ := refine_spec (c := c) (p := p)
  have hne := hiff.1 h
  have hfix := narrowed_narrowed c p
  rw [hparams h]
  generalize c.narrowed p = n at hne hfix ⊢
  have hnr := narrowed_rmask_of_fixed c hfix 0
  obtain ⟨hiff', hparams'⟩ := refine_spec (c := c) (p := { n with rmask := 0 })
  have hadm : (c.refine { n with rmask := 0 }).admitted = true := by
    rw [hiff', hnr]
    exact hne
  have hpar := hparams' hadm
  rw [hnr] at hpar
  calc c.refine { n with rmask := 0 }
      = ⟨(c.refine { n with rmask := 0 }).params, (c.refine { n with rmask := 0 }).admitted⟩ := rfl
    _ = ⟨{ n with rmask := 0 }, true⟩ := by rw [hpar, hadm]

/-- Refining admits exactly when narrowing leaves nothing empty, and then answers the narrowed
record, which is no wider than the request and which refining again leaves as it is. -/
theorem refine_returns_narrowed (c : Constraints) (p : HwParams) :
    ((c.refine p).admitted = true ↔
        (∀ q m, (c.narrowed p).mask q = some m → m.isEmpty = false) ∧
          ∀ q i, (c.narrowed p).interval q = some i → i.isEmpty = false) ∧
      ((c.refine p).admitted = true →
        (c.refine p).params = { c.narrowed p with rmask := 0 } ∧
          (c.refine p).params.NarrowerThan p ∧
          c.refine (c.refine p).params = ⟨(c.refine p).params, true⟩) := by
  obtain ⟨hiff, hparams⟩ := refine_spec (c := c) (p := p)
  rw [← HwParams.isEmpty_eq_false_iff]
  refine ⟨hiff, fun h => ⟨hparams h, ?_, refine_refine h⟩⟩
  rw [hparams h]
  exact (narrowed_narrowerThan c p).rmask 0

end Constraints

end SoundCard.Hw
