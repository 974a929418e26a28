import Mathlib
import SoundCard.Proofs.ParamRecord
/-! Narrowing one parameter record by another: narrowing by their meet, in either order, and by
the record that admits everything. -/
namespace SoundCard.Hw

namespace Interval

/-! ## Flag words -/

theorem or_and_distrib (a b m : UInt32) : (a ||| b) &&& m = (a &&& m) ||| (b &&& m) := by
  apply UInt32.toBitVec_inj.1
  simp [BitVec.and_or_distrib_right]

theorem and_or_distrib (x a b : UInt32) : x &&& (a ||| b) = (x &&& a) ||| (x &&& b) := by
  apply UInt32.toBitVec_inj.1
  simp [BitVec.and_or_distrib_left]

theorem and_or_absorb (x m : UInt32) : (x &&& m) ||| m = m := by
  apply UInt32.toBitVec_inj.1
  ext k hk
  simp

/-- The bits of a flag word above the four flags. -/
def upperBits : UInt32 := ~~~15

theorem flags_ext {x y : UInt32} (h1 : x &&& openMin = y &&& openMin)
    (h2 : x &&& openMax = y &&& openMax) (h4 : x &&& integer = y &&& integer)
    (h8 : x &&& emptyFlag = y &&& emptyFlag) (hr : x &&& upperBits = y &&& upperBits) :
    x = y := by
  have hsplit : ∀ z : UInt32, z = (z &&& openMin) ||| (z &&& openMax) ||| (z &&& integer) |||
      (z &&& emptyFlag) ||| (z &&& upperBits) := by
    intro z
    rw [← and_or_distrib, ← and_or_distrib, ← and_or_distrib, ← and_or_distrib,
      show (openMin ||| openMax ||| integer ||| emptyFlag ||| upperBits : UInt32) = -1 by decide,
      UInt32.and_neg_one]
  calc x = (x &&& openMin) ||| (x &&& openMax) ||| (x &&& integer) ||| (x &&& emptyFlag) |||
        (x &&& upperBits) := hsplit x
    _ = y := by rw [h1, h2, h4, h8, hr, ← hsplit y]

theorem eq_of_parts {i j : Interval} (hmin : i.min = j.min) (hmax : i.max = j.max)
    (hflags : i.flags = j.flags) : i = j := by
  cases i
  cases j
  simp_all

/-! ## One narrowing -/

section Clear

variable (p q : Prop) [Decidable p] [Decidable q]

private theorem cleared_openMin :
    (if p then ~~~openMin else ~~~0) &&& (if q then ~~~openMax else ~~~0) &&& openMin =
      if p then 0 else openMin := by
  split_ifs <;> decide

private theorem cleared_openMax :
    (if p then ~~~openMin else ~~~0) &&& (if q then ~~~openMax else ~~~0) &&& openMax =
      if q then 0 else openMax := by
  split_ifs <;> decide

private theorem cleared_keep {m : UInt32} (hm : m = integer ∨ m = emptyFlag ∨ m = upperBits) :
    (if p then ~~~openMin else ~~~0) &&& (if q then ~~~openMax else ~~~0) &&& m = m := by
  rcases hm with rfl | rfl | rfl <;> split_ifs <;> decide

end Clear

variable (i o : Interval)

theorem narrowBy_flags :
    (i.narrowBy o).flags = (i.clampTo o.min o.max).flags ||| (o.flags &&& integer) := rfl

theorem and_and_and (x a b m : UInt32) : x &&& a &&& b &&& m = x &&& (a &&& b &&& m) := by
  simp only [UInt32.and_assoc]

@[simp] theorem toNat_sup (a b : UInt32) : (a ⊔ b).toNat = Max.max a.toNat b.toNat := by
  rw [UInt32.max_def]
  split_ifs with h <;> rw [UInt32.le_iff_toNat_le] at h <;> omega

@[simp] theorem toNat_inf (a b : UInt32) : (a ⊓ b).toNat = Min.min a.toNat b.toNat := by
  rw [UInt32.min_def]
  split_ifs with h <;> rw [UInt32.le_iff_toNat_le] at h <;> omega

theorem narrowBy_min' : (i.narrowBy o).min = if o.min > i.min then o.min else i.min :=
  clampTo_min i o.min o.max

@[simp] theorem narrowBy_min : (i.narrowBy o).min = i.min ⊔ o.min := by
  rw [narrowBy_min', UInt32.max_def]
  split_ifs with h1 h2 h2
  · rfl
  · exact absurd (UInt32.le_of_lt h1) h2
  · exact UInt32.le_antisymm h2 (UInt32.not_lt.1 h1)
  · rfl

@[simp] theorem narrowBy_max : (i.narrowBy o).max = i.max ⊓ o.max := by
  change (i.clampTo o.min o.max).max = _
  rw [clampTo_max, UInt32.min_def]
  split_ifs with h1 h2 h2
  · exact absurd h2 (UInt32.not_le.2 h1)
  · rfl
  · rfl
  · exact absurd (UInt32.not_lt.1 h1) h2

theorem narrowBy_openMin :
    (i.narrowBy o).flags &&& openMin = if (i.narrowBy o).min = i.min then i.flags &&& openMin else 0 := by
  rw [narrowBy_flags, or_and_distrib, clampTo_flags_and rfl, cleared_openMin,
    UInt32.and_assoc, show (integer &&& openMin : UInt32) = 0 by decide, UInt32.and_zero,
    UInt32.or_zero, narrowBy_min']
  split_ifs with h1 h2 h2
  · exact absurd h2.symm (UInt32.ne_of_lt h1)
  · simp
  · simp
  · exact absurd rfl h2

theorem narrowBy_openMax :
    (i.narrowBy o).flags &&& openMax = if (i.narrowBy o).max = i.max then i.flags &&& openMax else 0 := by
  rw [narrowBy_flags, or_and_distrib, clampTo_flags_and rfl, cleared_openMax,
    UInt32.and_assoc, show (integer &&& openMax : UInt32) = 0 by decide, UInt32.and_zero,
    UInt32.or_zero]
  change _ = if (i.clampTo o.min o.max).max = i.max then _ else _
  rw [clampTo_max]
  split_ifs with h1 h2 h2
  · exact absurd h2 (UInt32.ne_of_lt h1)
  · simp
  · simp
  · exact absurd rfl h2

theorem narrowBy_integer :
    (i.narrowBy o).flags &&& integer = (i.flags ||| o.flags) &&& integer := by
  rw [narrowBy_flags, or_and_distrib, clampTo_flags_and rfl, cleared_keep _ _ (.inl rfl),
    UInt32.and_assoc, UInt32.and_self, or_and_distrib]

theorem narrowBy_upperBits : (i.narrowBy o).flags &&& upperBits = i.flags &&& upperBits := by
  rw [narrowBy_flags, or_and_distrib, clampTo_flags_and (by decide),
    cleared_keep _ _ (.inr (.inr rfl)), UInt32.and_assoc,
    show (integer &&& upperBits : UInt32) = 0 by decide, UInt32.and_zero, UInt32.or_zero]

theorem markCrossed_emptyFlag (j : Interval) :
    j.markCrossed.flags &&& emptyFlag = if j.max < j.min then emptyFlag else j.flags &&& emptyFlag := by
  unfold markCrossed
  split_ifs
  · rw [or_and_distrib, UInt32.and_self]
    exact and_or_absorb _ _
  · rfl

theorem clampTo_emptyFlag (lo hi : UInt32) :
    (i.clampTo lo hi).flags &&& emptyFlag =
      if (i.clampTo lo hi).max < (i.clampTo lo hi).min then emptyFlag else i.flags &&& emptyFlag := by
  rw [clampTo_eq, markCrossed_emptyFlag, min_markCrossed, max_markCrossed, and_and_and,
    cleared_keep _ _ (.inr (.inl rfl))]

theorem narrowBy_emptyFlag :
    (i.narrowBy o).flags &&& emptyFlag =
      if (i.narrowBy o).max < (i.narrowBy o).min then emptyFlag else i.flags &&& emptyFlag := by
  rw [narrowBy_flags, or_and_distrib, UInt32.and_assoc o.flags,
    show (integer &&& emptyFlag : UInt32) = 0 by decide, UInt32.and_zero, UInt32.or_zero,
    clampTo_emptyFlag]
  rfl

/-! ## Two narrowings -/

/-- The bounds of two narrowings at once: the larger lower end, the smaller upper end, and
either record's integer flag. -/
def meet (b c : Interval) : Interval := ⟨b.min ⊔ c.min, b.max ⊓ c.max, b.flags ||| c.flags⟩

theorem meet_comm (b c : Interval) : b.meet c = c.meet b := by
  refine eq_of_parts ?_ ?_ (UInt32.or_comm _ _) <;> apply UInt32.toNat_inj.1 <;>
    simp only [meet, toNat_sup, toNat_inf] <;> omega

theorem meet_self (b : Interval) : b.meet b = b := by
  refine eq_of_parts ?_ ?_ UInt32.or_self <;> apply UInt32.toNat_inj.1 <;>
    simp only [meet, toNat_sup, toNat_inf] <;> omega

/-- Narrowing by `b` and then by `c` is narrowing by their meet. -/
theorem narrowBy_narrowBy (b c : Interval) :
    (i.narrowBy b).narrowBy c = i.narrowBy (b.meet c) := by
  have hmin : ((i.narrowBy b).narrowBy c).min = (i.narrowBy (b.meet c)).min := by
    apply UInt32.toNat_inj.1
    simp only [narrowBy_min, meet, toNat_sup]
    omega
  have hmax : ((i.narrowBy b).narrowBy c).max = (i.narrowBy (b.meet c)).max := by
    apply UInt32.toNat_inj.1
    simp only [narrowBy_max, meet, toNat_inf]
    omega
  have hlo : i.min.toNat ≤ (i.narrowBy b).min.toNat ∧
      (i.narrowBy b).min.toNat ≤ ((i.narrowBy b).narrowBy c).min.toNat := by
    simp only [narrowBy_min, toNat_sup]
    omega
  have hhi : (i.narrowBy b).max.toNat ≤ i.max.toNat ∧
      ((i.narrowBy b).narrowBy c).max.toNat ≤ (i.narrowBy b).max.toNat := by
    simp only [narrowBy_max, toNat_inf]
    omega
  refine eq_of_parts hmin hmax (flags_ext ?_ ?_ ?_ ?_ ?_)
  · rw [narrowBy_openMin, narrowBy_openMin, narrowBy_openMin, ← hmin]
    by_cases h₂ : (i.narrowBy b).min = i.min
    · rw [if_pos h₂, h₂]
    · have h₁ : ((i.narrowBy b).narrowBy c).min ≠ i.min := fun h => h₂ (UInt32.toNat_inj.1 (by
        have := congrArg UInt32.toNat h
        omega))
      rw [if_neg h₂, if_neg h₁, ite_self]
  · rw [narrowBy_openMax, narrowBy_openMax, narrowBy_openMax, ← hmax]
    by_cases h₂ : (i.narrowBy b).max = i.max
    · rw [if_pos h₂, h₂]
    · have h₁ : ((i.narrowBy b).narrowBy c).max ≠ i.max := fun h => h₂ (UInt32.toNat_inj.1 (by
        have := congrArg UInt32.toNat h
        omega))
      rw [if_neg h₂, if_neg h₁, ite_self]
  · simp only [narrowBy_integer, meet, or_and_distrib, UInt32.or_assoc]
  · rw [narrowBy_emptyFlag, narrowBy_emptyFlag, narrowBy_emptyFlag, ← hmin, ← hmax]
    by_cases h₂ : (i.narrowBy b).max < (i.narrowBy b).min
    · have h₁ : ((i.narrowBy b).narrowBy c).max < ((i.narrowBy b).narrowBy c).min := by
        rw [UInt32.lt_iff_toNat_lt] at h₂ ⊢
        omega
      rw [if_pos h₁, if_pos h₁]
    · rw [if_neg h₂]
  · rw [narrowBy_upperBits, narrowBy_upperBits, narrowBy_upperBits]

/-! ## Narrowing by everything -/

theorem narrowBy_full : i.narrowBy full = i.markCrossed := by
  have hlo : ¬(full.min > i.min) := UInt32.not_lt.2 UInt32.zero_le
  have hhi : ¬(full.max < i.max) := UInt32.not_lt.2 (UInt32.le_iff_toNat_le.2 (by
    have := i.max.toNat_lt
    simp only [full, UInt32.reduceToNat]
    omega))
  have hflags : i.flags &&& ~~~0 &&& ~~~0 = i.flags := by
    rw [UInt32.and_assoc, show (~~~0 &&& ~~~0 : UInt32) = -1 from rfl, UInt32.and_neg_one]
  unfold narrowBy
  rw [clampTo_eq]
  simp only [hlo, hhi, if_false, hflags, show full.flags &&& integer = 0 from rfl, UInt32.or_zero]

theorem or_eq_self_iff (x m : UInt32) : x ||| m = x ↔ x &&& m = m := by
  constructor
  · intro h
    rw [← h, or_and_distrib, UInt32.and_self]
    exact and_or_absorb _ _
  · intro h
    apply UInt32.toBitVec_inj.1
    have hb := congrArg UInt32.toBitVec h
    simp only [UInt32.toBitVec_and, UInt32.toBitVec_or] at hb ⊢
    ext k hk
    have := congrArg (·[k]) hb
    simp only [BitVec.getElem_and, BitVec.getElem_or] at this ⊢
    cases hx : x.toBitVec[k] <;> cases hm : m.toBitVec[k] <;> simp_all

theorem markCrossed_eq_self_iff (j : Interval) :
    j.markCrossed = j ↔ (j.max < j.min → j.flags &&& emptyFlag = emptyFlag) := by
  unfold markCrossed
  split_ifs with h
  · have : ({ j with flags := j.flags ||| emptyFlag } : Interval) = j ↔
        j.flags ||| emptyFlag = j.flags := by
      cases j
      simp
    rw [this, or_eq_self_iff]
    exact ⟨fun h' _ => h', fun h' => h' h⟩
  · exact ⟨fun _ h' => absurd h' h, fun _ => rfl⟩

end Interval

namespace Mask

theorem inter_right_comm (m a b : Mask) : (m.inter a).inter b = (m.inter b).inter a := by
  simp only [inter, BitVec.and_assoc, BitVec.and_comm a.bits]

theorem inter_full (m : Mask) : m.inter full = m := by
  simp only [inter, full, BitVec.and_allOnes]

end Mask

namespace HwParams

variable {a b : HwParams} {q : Param}

theorem mask_narrowTo {m m' : Mask} (ha : a.mask q = some m) (hb : b.mask q = some m') :
    (a.narrowTo b).mask q = some (m.inter m') := by
  rw [mask_eq] at ha hb ⊢
  split at ha
  · rename_i h
    rw [dif_pos h] at hb ⊢
    simp only [Option.some.injEq] at ha hb
    simp [narrowTo, ha, hb]
  · cases ha

theorem interval_narrowTo {i j : Interval} (ha : a.interval q = some i)
    (hb : b.interval q = some j) : (a.narrowTo b).interval q = some (i.narrowBy j) := by
  rw [interval_eq] at ha hb ⊢
  split at ha
  · rename_i h
    rw [dif_pos h] at hb ⊢
    simp only [Option.some.injEq] at ha hb
    simp [narrowTo, ha, hb]
  · cases ha

theorem reshapes_narrowTo (a b : HwParams) : (a.narrowTo b).Reshapes a := rfl

variable (a b c : HwParams)

theorem narrowTo_comm : (a.narrowTo b).narrowTo c = (a.narrowTo c).narrowTo b := by
  simp only [narrowTo]
  congr 1
  · ext k hk
    simp [Mask.inter_right_comm]
  · ext k hk
    simp [Interval.narrowBy_narrowBy, Interval.meet_comm]

theorem narrowTo_narrowTo_self : (a.narrowTo b).narrowTo b = a.narrowTo b := by
  simp only [narrowTo]
  congr 1
  · ext k hk
    simp [Mask.inter_inter_self]
  · ext k hk
    simp [Interval.narrowBy_narrowBy, Interval.meet_self]

theorem narrowTo_any : a.narrowTo any = { a with intervals := a.intervals.map .markCrossed } := by
  simp only [narrowTo]
  congr 1
  · ext k hk
    simp [any, Mask.inter_full]
  · ext k hk
    simp [any, Interval.narrowBy_full]

theorem narrowTo_any_eq_self_iff : a.narrowTo any = a ↔
    ∀ q i, a.interval q = some i → i.max < i.min →
      i.flags &&& Interval.emptyFlag = Interval.emptyFlag := by
  have hrec : ({ a with intervals := a.intervals.map .markCrossed } : HwParams) = a ↔
      a.intervals.map Interval.markCrossed = a.intervals := by
    cases a
    simp
  rw [narrowTo_any, hrec, ← Vector.toList_inj, Vector.toList_map]
  conv_lhs => rhs; rw [← List.map_id a.intervals.toList]
  rw [List.map_inj_left]
  simp only [mem_intervals_toList, id, Interval.markCrossed_eq_self_iff]
  exact ⟨fun h q i hi => h i ⟨q, hi⟩, fun h i ⟨q, hi⟩ => h q i hi⟩

end HwParams

open HwParams SoundCard.Hw.Interval in
/-- Narrowing keeps the common mask bits and clamps each interval to the other's ends; by two
records it gives one result in either order, and by `any` it only marks crossed intervals empty. -/
theorem narrowTo_meets_in_any_order (a b c : HwParams) :
    (a.narrowTo b).Reshapes a ∧
    (∀ q m m', a.mask q = some m → b.mask q = some m' →
      (a.narrowTo b).mask q = some (m.inter m')) ∧
    (∀ q i j, a.interval q = some i → b.interval q = some j →
      ∃ k, (a.narrowTo b).interval q = some k ∧ k.min = i.min ⊔ j.min ∧ k.max = i.max ⊓ j.max ∧
        k.flags &&& openMin = (if k.min = i.min then i.flags &&& openMin else 0) ∧
        k.flags &&& openMax = (if k.max = i.max then i.flags &&& openMax else 0) ∧
        k.flags &&& emptyFlag = (if k.max < k.min then emptyFlag else i.flags &&& emptyFlag) ∧
        k.flags &&& integer = (i.flags ||| j.flags) &&& integer ∧
        k.flags &&& upperBits = i.flags &&& upperBits) ∧
    (a.narrowTo b).narrowTo c = (a.narrowTo c).narrowTo b ∧
    (a.narrowTo b).narrowTo b = a.narrowTo b ∧
    a.narrowTo any = { a with intervals := a.intervals.map markCrossed } ∧
    (a.narrowTo any = a ↔
      ∀ q i, a.interval q = some i → i.max < i.min → i.flags &&& emptyFlag = emptyFlag) := by
  refine ⟨reshapes_narrowTo a b, fun q m m' => mask_narrowTo, ?_, narrowTo_comm a b c,
    narrowTo_narrowTo_self a b, narrowTo_any a, narrowTo_any_eq_self_iff a⟩
  intro q i j hi hj
  exact ⟨i.narrowBy j, interval_narrowTo hi hj, narrowBy_min i j, narrowBy_max i j,
    narrowBy_openMin i j, narrowBy_openMax i j, narrowBy_emptyFlag i j, narrowBy_integer i j,
    narrowBy_upperBits i j⟩

/-- A rate range whose ends were set crossed, with no empty flag: narrowing it by the record
that admits everything marks it empty, so the record changes. -/
theorem narrowing_by_any_marks_crossed_rate :
    ((HwParams.any.setMin .rate 10).setMax .rate 5).narrowTo HwParams.any ≠
      (HwParams.any.setMin .rate 10).setMax .rate 5 := by
  intro h
  have hrate : ((HwParams.any.setMin .rate 10).setMax .rate 5).interval .rate = some ⟨10, 5, 0⟩ :=
    by decide
  have := congrArg (·.interval .rate) h
  simp only [HwParams.interval_narrowTo hrate (by decide : HwParams.any.interval .rate = some .full),
    hrate, Option.some.injEq] at this
  revert this
  decide

end SoundCard.Hw
