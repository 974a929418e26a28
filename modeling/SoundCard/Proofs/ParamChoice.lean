import Mathlib
import SoundCard.Proofs.ChoicePoint
import SoundCard.Pcm.Stream.Open
/-! What a device's choice of hardware parameters keeps of a request (`Asks`) and what it settles
(`Settles`). -/
namespace SoundCard.Hw

open SoundCard.Pcm

namespace Interval

theorem le_min_clampTo (i : Interval) (lo hi : UInt32) : i.min ≤ (i.clampTo lo hi).min := by
  unfold clampTo
  dsimp only
  split_ifs with h₁ h₂ h₃ <;> simp only [UInt32.le_iff_toNat_le, UInt32.lt_iff_toNat_lt] at * <;>
    omega

theorem clampTo_eq_of_pinned {i : Interval} {lo hi : UInt32} (hp : i.min = i.max)
    (h : (i.clampTo lo hi).isEmpty = false) : i.clampTo lo hi = i := by
  unfold clampTo at h ⊢
  dsimp only at h ⊢
  split_ifs at h ⊢ with h₁ h₂ h₃ <;> simp_all [isEmpty, UInt32.lt_iff_toNat_lt]; omega

end Interval

namespace HwParams

variable (p : HwParams)

/-- The interval of `q` runs from `v` to `v`. -/
def Pins (q : Param) (v : UInt32) : Prop := ∃ i, p.interval q = some i ∧ i.min = v ∧ i.max = v

variable {p}

theorem Pins.min {q : Param} {v : UInt32} (h : p.Pins q v) : p.min q = v := by
  obtain ⟨i, hi, hmin, -⟩ := h
  simp [HwParams.min, hi, hmin]

theorem Pins.of_interval_eq {p' : HwParams} {q : Param} {v : UInt32} (h : p.Pins q v)
    (he : p'.interval q = p.interval q) : p'.Pins q v := by
  obtain ⟨i, hi, hmin, hmax⟩ := h
  exact ⟨i, he.trans hi, hmin, hmax⟩

theorem Pins.of_clampTo {p' : HwParams} {q : Param} {v : UInt32} (h : p.Pins q v) (lo hi : UInt32)
    (he : p'.interval q = (p.interval q).map (·.clampTo lo hi))
    (hne : ∀ i, p'.interval q = some i → i.isEmpty = false) : p'.Pins q v := by
  obtain ⟨i, hi, hmin, hmax⟩ := h
  rw [hi, Option.map_some] at he
  have hkeep := Interval.clampTo_eq_of_pinned (hmin.trans hmax.symm) (hne _ he)
  exact ⟨i, he.trans (congrArg some hkeep), hmin, hmax⟩

/-- What a request for the configuration `r` pins: its sample bits, frame bits, channels,
rate and period count; and a least period size no smaller than the asked one. -/
structure Asks (p : HwParams) (r : StreamConfig) : Prop where
  sampleBits : p.Pins .sampleBits (UInt32.ofNat r.format.physicalBits)
  frameBits : p.Pins .frameBits (satMul32 (UInt32.ofNat r.format.physicalBits) r.channels)
  channels : p.Pins .channels r.channels
  rate : p.Pins .rate r.rate
  periods : p.Pins .periods r.periodCount
  periodSize : r.periodSize ≤ p.min .periodSize

theorem asks_ofConfig (r : StreamConfig) (fs : OpenFlags) : (ofConfig r fs).Asks r := by
  by_cases hn : fs.noIrq = true <;> constructor <;>
    simp +decide [HwParams.ofConfig, hn, HwParams.Pins, HwParams.setInt, HwParams.setMin,
      HwParams.setMaskBit, HwParams.min, HwParams.interval_any, Interval.setInteger]

/-- What a chosen record settles for `r`, with `ps` the period size it pinned; both products stop
at the largest 32-bit value. -/
structure Settles (p : HwParams) (r : StreamConfig) (ps : UInt32) : Prop where
  periodSize : p.single? .periodSize = some ps
  periodSize_ge : r.periodSize ≤ ps
  periodSize_ne : ps ≠ 0
  periods : p.single? .periods = some r.periodCount
  rate : p.single? .rate = some r.rate
  bufferSize : p.min .bufferSize = satMul32 ps r.periodCount
  frameBits : p.min .frameBits = satMul32 (UInt32.ofNat r.format.physicalBits) r.channels

end HwParams

namespace Constraints

variable {c : Constraints}

theorem interval_refine {p : HwParams} (ha : (c.refine p).admitted = true) (x : Param) :
    (c.refine p).params.interval x =
      (p.interval x).map (c.narrowInterval (p.single? .frameBits) x) := by
  rw [(refine_spec (c := c) (p := p)).2 ha, HwParams.interval_rmask, interval_narrowed]

theorem interval_refine_of_rangeBound {p : HwParams} (ha : (c.refine p).admitted = true)
    {x : Param} {rg : Range} (hx : c.rangeBound x = some rg) :
    (c.refine p).params.interval x = (p.interval x).map (·.clampTo rg.min rg.max) := by
  rw [interval_refine ha]
  congr 1
  funext i
  exact narrowInterval_of_rangeBound c hx _ i

theorem interval_refine_frameBits {p : HwParams} (ha : (c.refine p).admitted = true) :
    (c.refine p).params.interval .frameBits = p.interval .frameBits := by
  rw [interval_refine ha]
  rcases p.interval .frameBits with _ | i
  · rfl
  · simp [narrowInterval, rangeBound]

theorem min_le_min_refine_periodSize {p : HwParams} (ha : (c.refine p).admitted = true) :
    p.min .periodSize ≤ (c.refine p).params.min .periodSize := by
  rw [HwParams.min, HwParams.min, interval_refine ha]
  rcases p.interval .periodSize with _ | i
  · exact UInt32.le_refl _
  rcases narrowInterval_id_or_clampTo c (p.single? .frameBits) .periodSize with h | ⟨lo, hi, h⟩
  · simp [h]
  · simpa [h] using Interval.le_min_clampTo i lo hi

theorem asks_refine {p : HwParams} {r : StreamConfig} (h : HwParams.Asks p r)
    (ha : (c.refine p).admitted = true) : HwParams.Asks (c.refine p).params r := by
  have hc := consistent_of_isEmpty (refined_fixed ha).2.1
  exact ⟨h.sampleBits.of_clampTo _ _ (interval_refine_of_rangeBound ha rfl) (hc _),
    h.frameBits.of_interval_eq (interval_refine_frameBits ha),
    h.channels.of_clampTo _ _ (interval_refine_of_rangeBound ha rfl) (hc _),
    h.rate.of_clampTo _ _ (interval_refine_of_rangeBound ha rfl) (hc _),
    h.periods.of_clampTo _ _ (interval_refine_of_rangeBound ha rfl) (hc _),
    UInt32.le_trans h.periodSize (min_le_min_refine_periodSize ha)⟩

theorem choose_settles {p : HwParams} {r : StreamConfig} (h : p.Asks r)
    (ha : (c.choose p).admitted = true) :
    (c.choose p).params.Settles r ((c.refine p).params.min .periodSize) := by
  obtain ⟨hr, hq, hz⟩ := choose_eq_chosen ha
  have hc := consistent_of_isEmpty (refined_fixed hr).2.1
  have hask := asks_refine h hr
  rw [hq]
  simp only [min_keepLowestBits] at hz
  refine ⟨single?_chosen_keepLowestBits hc rfl, hask.periodSize, fun h0 => hz (.inr (.inl h0)),
    ?_, ?_, ?_, ?_⟩
  · rw [single?_chosen_keepLowestBits hc rfl, hask.periods.min]
  · rw [single?_chosen_keepLowestBits hc rfl, hask.rate.min]
  · rw [min_chosen_keepLowestBits rfl, hask.periods.min]
  · rw [min_chosen_keepLowestBits rfl, hask.sampleBits.min, hask.channels.min]

end Constraints

theorem HwParams.Settles.settle {p : HwParams} {r : StreamConfig} {ps : UInt32}
    (h : p.Settles r ps) : r.settle p = { r with periodSize := ps } := by
  unfold StreamConfig.settle
  simp only [h.periodSize, h.periods, h.rate, Option.getD_some]
  by_cases he : ps = r.periodSize
  · subst he
    simp
  · simp [h.periodSize_ne, he]

theorem Constraints.choose_ofConfig_settles {c : Constraints} {r : StreamConfig} {fs : OpenFlags}
    (ha : (c.choose (HwParams.ofConfig r fs)).admitted = true) :
    (c.choose (HwParams.ofConfig r fs)).params.Settles r
      ((c.refine (HwParams.ofConfig r fs)).params.min .periodSize) :=
  Constraints.choose_settles (HwParams.asks_ofConfig r fs) ha

end SoundCard.Hw
