import Mathlib
import SoundCard.Proofs.CardRequests
import SoundCard.Control.Value
import SoundCard.Proofs.ByteArea
/-! Percentages of an integer element's range, both ways rounded down, within the words they are
stored in. -/
namespace SoundCard.Control

/-- The value a whole percentage `p` stands for in `[lo, hi]`: `lo` plus `p` hundredths of
the range, rounded down. -/
def percentValue (lo hi p : Int) : Int := lo + (hi - lo) * p / 100

/-- The whole percentage a value stands for in `[lo, hi]`, rounded down; 0 for a range of
one value. -/
def valuePercent (lo hi v : Int) : Int := if hi = lo then 0 else (v - lo) * 100 / (hi - lo)

/-! ## The two maps -/

section Arithmetic

variable {lo hi : Int}

theorem percentValue_mem (hle : lo ≤ hi) {p : Int} (hp₀ : 0 ≤ p) (hp : p ≤ 100) :
    lo ≤ percentValue lo hi p ∧ percentValue lo hi p ≤ hi := by
  have hR : 0 ≤ hi - lo := by omega
  have h₀ : 0 ≤ (hi - lo) * p / 100 := Int.ediv_nonneg (Int.mul_nonneg hR hp₀) (by decide)
  have h₁ : (hi - lo) * p / 100 ≤ hi - lo :=
    calc (hi - lo) * p / 100
        ≤ (hi - lo) * 100 / 100 := Int.ediv_le_ediv (by decide) (Int.mul_le_mul_of_nonneg_left hp hR)
      _ = hi - lo := Int.mul_ediv_cancel _ (by decide)
  unfold percentValue
  omega

theorem percentValue_mono (hle : lo ≤ hi) : Monotone (percentValue lo hi) := by
  intro p q hpq
  have h := Int.ediv_le_ediv (by decide : (0 : Int) < 100)
    (Int.mul_le_mul_of_nonneg_left hpq (by omega : 0 ≤ hi - lo))
  unfold percentValue
  omega

theorem valuePercent_mem (hle : lo ≤ hi) {v : Int} (hv₀ : lo ≤ v) (hv : v ≤ hi) :
    0 ≤ valuePercent lo hi v ∧ valuePercent lo hi v ≤ 100 := by
  unfold valuePercent
  split
  · decide
  · have hR : 0 < hi - lo := by omega
    refine ⟨Int.ediv_nonneg (by omega) hR.le, ?_⟩
    calc (v - lo) * 100 / (hi - lo)
        ≤ (hi - lo) * 100 / (hi - lo) := Int.ediv_le_ediv hR (by omega)
      _ = 100 := Int.mul_ediv_cancel_left _ hR.ne'

theorem valuePercent_mono (hle : lo ≤ hi) : Monotone (valuePercent lo hi) := by
  intro v w hvw
  unfold valuePercent
  split
  · exact le_rfl
  · exact Int.ediv_le_ediv (by omega) (by omega)

theorem percentValue_valuePercent_le (hle : lo ≤ hi) {v : Int} (hv₀ : lo ≤ v) :
    percentValue lo hi (valuePercent lo hi v) ≤ v := by
  unfold percentValue valuePercent
  split
  · simp only [Int.mul_zero, Int.zero_ediv, Int.add_zero]
    exact hv₀
  · have hR : 0 < hi - lo := by omega
    have hq := Int.ediv_mul_le ((v - lo) * 100) hR.ne'
    have h : (hi - lo) * ((v - lo) * 100 / (hi - lo)) / 100 ≤ v - lo :=
      calc (hi - lo) * ((v - lo) * 100 / (hi - lo)) / 100
          ≤ (v - lo) * 100 / 100 := Int.ediv_le_ediv (by decide) (by rw [Int.mul_comm]; exact hq)
        _ = v - lo := Int.mul_ediv_cancel _ (by decide)
    omega

/-- Over a range of more than one value, a percentage comes back from the value it stands
for rounded down, and unchanged exactly when its share of the range is a whole number. -/
theorem valuePercent_percentValue_of_lt (hlt : lo < hi) (p : Int) :
    valuePercent lo hi (percentValue lo hi p) ≤ p ∧
      (valuePercent lo hi (percentValue lo hi p) = p ↔ 100 ∣ (hi - lo) * p) := by
  have hR : 0 < hi - lo := by omega
  have hoff : percentValue lo hi p - lo = (hi - lo) * p / 100 := by
    unfold percentValue
    omega
  have hback : valuePercent lo hi (percentValue lo hi p) = (hi - lo) * p / 100 * 100 / (hi - lo) := by
    rw [valuePercent, if_neg (by omega), hoff]
  have hdown := Int.ediv_mul_le ((hi - lo) * p) (by decide : (100 : Int) ≠ 0)
  have hle : (hi - lo) * p / 100 * 100 / (hi - lo) ≤ p :=
    calc (hi - lo) * p / 100 * 100 / (hi - lo)
        ≤ (hi - lo) * p / (hi - lo) := Int.ediv_le_ediv hR hdown
      _ = p := Int.mul_ediv_cancel_left _ hR.ne'
  rw [hback]
  refine ⟨hle, ⟨fun heq => ?_, fun ⟨k, hk⟩ => ?_⟩⟩
  · have hge : p * (hi - lo) ≤ (hi - lo) * p / 100 * 100 :=
      (Int.le_ediv_iff_mul_le hR).1 heq.ge
    exact ⟨(hi - lo) * p / 100, by rw [Int.mul_comm p] at hge; omega⟩
  · rw [hk, Int.mul_ediv_cancel_left _ (by decide), Int.mul_comm, ← hk,
      Int.mul_ediv_cancel_left _ hR.ne']

theorem valuePercent_percentValue (hle : lo ≤ hi) {p : Int} (hp₀ : 0 ≤ p) :
    valuePercent lo hi (percentValue lo hi p) ≤ p ∧
      (valuePercent lo hi (percentValue lo hi p) = p ↔
        p = 0 ∨ (lo < hi ∧ 100 ∣ (hi - lo) * p)) := by
  rcases hle.lt_or_eq with hlt | heq
  · obtain ⟨hle', hiff⟩ := valuePercent_percentValue_of_lt hlt p
    refine ⟨hle', hiff.trans ⟨fun h => .inr ⟨hlt, h⟩, ?_⟩⟩
    rintro (rfl | ⟨-, h⟩)
    · rw [Int.mul_zero]
      exact dvd_zero _
    · exact h
  · subst heq
    simp only [valuePercent, if_true, lt_irrefl, false_and, or_false]
    exact ⟨hp₀, eq_comm⟩

end Arithmetic

/-! ## Setting and reading percentages -/

namespace Entry

variable {σ : Type} (D : ControlDevice σ) {c : Entry}

theorem checkRange_of_mem {v : Int} (hv₀ : c.info.integerMin ≤ v) (hv : v ≤ c.info.integerMax) :
    c.checkRange v = .ok () := by
  rw [checkRange, if_neg (by omega)]

/-- Setting a percentage of an integer element's range sets the value it stands for, with
no word cut short on the way. -/
theorem setPercent_exec (hint : c.elemType.isInteger = true)
    (hle : c.info.integerMin ≤ c.info.integerMax) (i : Nat) {p : Int} (hp₀ : 0 ≤ p)
    (hp : p ≤ 100) (card : σ) :
    (setPercent D i p).exec card c =
      (setValue D i (percentValue c.info.integerMin c.info.integerMax p)).exec card c := by
  have hmem := percentValue_mem hle hp₀ hp
  have hlo : -9223372036854775808 ≤ c.info.integerMin ∧ c.info.integerMin < 9223372036854775808 :=
    readI64_bounds c.info.area 0
  have hhi : -9223372036854775808 ≤ c.info.integerMax ∧ c.info.integerMax < 9223372036854775808 :=
    readI64_bounds c.info.area 8
  have hword : wrap64 (c.info.integerMin +
      Int.tdiv ((c.info.integerMax - c.info.integerMin) * p) 100) =
      percentValue c.info.integerMin c.info.integerMax p := by
    rw [Int.tdiv_eq_ediv_of_nonneg (Int.mul_nonneg (by omega) hp₀)]
    change wrap64 (percentValue _ _ p) = _
    exact wrap64_of_bounds (by omega) (by omega)
  unfold OnCardM.exec
  simp only [setPercent, current, bind_assoc, run_bind, run_get, pure_bind, hint]
  simp [hp₀, hp, hword]

/-- Reading a percentage of an integer element whose value lies in its range answers the
value's percentage, with no word cut short on the way. -/
theorem getPercent_exec (hint : c.elemType.isInteger = true)
    (hle : c.info.integerMin ≤ c.info.integerMax) (i : Nat) (card : σ) {v : Int}
    {s' : OnCard σ Entry} (hv : (getValue D i).exec card c = (.ok v, s'))
    (hv₀ : c.info.integerMin ≤ v) (hv₁ : v ≤ c.info.integerMax) :
    (getPercent D i).exec card c =
      (.ok (valuePercent c.info.integerMin c.info.integerMax v), s') := by
  have hmem := valuePercent_mem hle hv₀ hv₁
  unfold OnCardM.exec at hv ⊢
  simp only [getPercent, current, bind_assoc, run_bind, run_get, pure_bind, hint, if_true]
  rw [hv]
  dsimp only
  unfold valuePercent at hmem ⊢
  by_cases h : c.info.integerMax = c.info.integerMin
  · rw [if_pos (by omega), if_pos h]
    rfl
  · rw [if_neg (by omega), if_neg h] at *
    rw [Int.tdiv_eq_ediv_of_nonneg (Int.mul_nonneg (by omega) (by decide)),
      wrap32_of_bounds (by omega) (by omega)]
    rfl

end Entry

variable {σ : Type}

/-- Setting a percentage in `[0, 100]` writes the value it stands for, which passes the range
check, and reading back answers the rounded-down percentage; both maps are monotone. -/
theorem percentages_round_down (D : ControlDevice σ) {c : Entry}
    (hint : c.elemType.isInteger = true) (hle : c.info.integerMin ≤ c.info.integerMax) :
    let lo := c.info.integerMin
    let hi := c.info.integerMax
    (∀ (i : Nat) (p : Int) (card : σ), 0 ≤ p → p ≤ 100 →
        (Entry.setPercent D i p).exec card c =
          (Entry.setValue D i (percentValue lo hi p)).exec card c ∧
        lo ≤ percentValue lo hi p ∧ percentValue lo hi p ≤ hi ∧
        c.checkRange (percentValue lo hi p) = .ok ()) ∧
    (∀ (i : Nat) (card : σ) (v : Int) (s' : OnCard σ Entry),
        (Entry.getValue D i).exec card c = (.ok v, s') → lo ≤ v → v ≤ hi →
        (Entry.getPercent D i).exec card c = (.ok (valuePercent lo hi v), s') ∧
        0 ≤ valuePercent lo hi v ∧ valuePercent lo hi v ≤ 100) ∧
    Monotone (percentValue lo hi) ∧ Monotone (valuePercent lo hi) ∧
    (∀ v, lo ≤ v → v ≤ hi → percentValue lo hi (valuePercent lo hi v) ≤ v) ∧
    (∀ p, 0 ≤ p → p ≤ 100 → valuePercent lo hi (percentValue lo hi p) ≤ p ∧
      (valuePercent lo hi (percentValue lo hi p) = p ↔
        p = 0 ∨ (lo < hi ∧ 100 ∣ (hi - lo) * p))) := by
  intro lo hi
  refine ⟨fun i p card hp₀ hp => ?_, fun i card v s' hv hv₀ hv₁ => ?_,
    percentValue_mono hle, valuePercent_mono hle,
    fun v hv₀ _ => percentValue_valuePercent_le hle hv₀,
    fun p hp₀ _ => valuePercent_percentValue hle hp₀⟩
  · obtain ⟨hmem₀, hmem₁⟩ := percentValue_mem hle hp₀ hp
    exact ⟨Entry.setPercent_exec D hint hle i hp₀ hp card, hmem₀, hmem₁,
      Entry.checkRange_of_mem hmem₀ hmem₁⟩
  · exact ⟨Entry.getPercent_exec D hint hle i card hv hv₀ hv₁, valuePercent_mem hle hv₀ hv₁⟩

/-- The info record of a volume from 0 to 31. -/
private def volumeInfo : ElemInfo := { ElemInfo.forNumid 1 with type := 2 }.setIntegerRange 0 31 1

/-- Half the range of a volume from 0 to 31 is set as the value half of it stands for. -/
theorem half_volume_sets_its_value :
    (Entry.ofInfo volumeInfo).elemType.isInteger = true ∧
      (Entry.ofInfo volumeInfo).info.integerMin ≤ (Entry.ofInfo volumeInfo).info.integerMax ∧
      (Entry.setPercent Virtual.VirtualCard.device 0 50).exec {} (Entry.ofInfo volumeInfo) =
        (Entry.setValue Virtual.VirtualCard.device 0
          (percentValue (Entry.ofInfo volumeInfo).info.integerMin
            (Entry.ofInfo volumeInfo).info.integerMax 50)).exec {} (Entry.ofInfo volumeInfo) :=
  ⟨by decide, by decide,
    ((percentages_round_down Virtual.VirtualCard.device (by decide) (by decide)).1 0 50 {}
      (by decide) (by decide)).1⟩

end SoundCard.Control
