import Mathlib
import SoundCard.Hw.Constraints
/-! The hardware-parameter record seen through its parameters, and clamping an interval. -/
namespace SoundCard.Hw

namespace Interval

/-- Marks an interval empty when its ends cross. -/
def markCrossed (j : Interval) : Interval :=
  if j.min > j.max then { j with flags := j.flags ||| emptyFlag } else j

theorem clampTo_eq (i : Interval) (lo hi : UInt32) :
    i.clampTo lo hi =
      markCrossed ⟨if lo > i.min then lo else i.min, if hi < i.max then hi else i.max,
        i.flags &&& (if lo > i.min then ~~~openMin else ~~~0) &&&
          (if hi < i.max then ~~~openMax else ~~~0)⟩ := by
  by_cases h1 : lo > i.min <;> by_cases h2 : hi < i.max <;> simp [clampTo, markCrossed, h1, h2]

@[simp] theorem min_markCrossed (j : Interval) : j.markCrossed.min = j.min := by
  unfold markCrossed
  split <;> rfl

@[simp] theorem max_markCrossed (j : Interval) : j.markCrossed.max = j.max := by
  unfold markCrossed
  split <;> rfl

theorem markCrossed_flags_and {m : UInt32} (hm : emptyFlag &&& m = 0) (j : Interval) :
    j.markCrossed.flags &&& m = j.flags &&& m := by
  unfold markCrossed
  split
  · apply UInt32.toBitVec_inj.1
    have hb : emptyFlag.toBitVec &&& m.toBitVec = 0 := by
      rw [← UInt32.toBitVec_and, hm]
      rfl
    simp only [UInt32.toBitVec_and, UInt32.toBitVec_or, BitVec.and_or_distrib_right, hb]
    simp
  · rfl

theorem markCrossed_markCrossed (j : Interval) : j.markCrossed.markCrossed = j.markCrossed := by
  unfold markCrossed
  split
  · simp only [UInt32.or_assoc, UInt32.or_self]
  · simp

theorem markCrossed_of_le {j : Interval} (h : j.min ≤ j.max) : j.markCrossed = j := by
  unfold markCrossed
  rw [if_neg (UInt32.not_lt.2 h)]

theorem clampTo_min (i : Interval) (lo hi : UInt32) :
    (i.clampTo lo hi).min = if lo > i.min then lo else i.min := by
  simp [clampTo_eq]

theorem clampTo_max (i : Interval) (lo hi : UInt32) :
    (i.clampTo lo hi).max = if hi < i.max then hi else i.max := by
  simp [clampTo_eq]

theorem clampTo_flags_and {m : UInt32} (hm : emptyFlag &&& m = 0) (i : Interval)
    (lo hi : UInt32) :
    (i.clampTo lo hi).flags &&& m =
      i.flags &&& ((if lo > i.min then ~~~openMin else ~~~0) &&&
        (if hi < i.max then ~~~openMax else ~~~0) &&& m) := by
  rw [clampTo_eq, markCrossed_flags_and hm]
  simp only [UInt32.and_assoc]

/-- `j` is `i` refined: its ends lie inside `i`'s, its integer flag is `i`'s, and an end's
open bit is `i`'s where that end stayed and clear where it moved. -/
def Narrows (j i : Interval) : Prop :=
  i.min ≤ j.min ∧ j.max ≤ i.max ∧ j.flags &&& integer = i.flags &&& integer ∧
    j.flags &&& openMin = i.flags &&& (if j.min = i.min then openMin else 0) ∧
    j.flags &&& openMax = i.flags &&& (if j.max = i.max then openMax else 0)

theorem clampTo_narrows (i : Interval) (lo hi : UInt32) : (i.clampTo lo hi).Narrows i := by
  refine ⟨?_, ?_, ?_, ?_, ?_⟩
  · rw [clampTo_min]
    split <;> simp only [UInt32.lt_iff_toNat_lt, UInt32.le_iff_toNat_le] at * <;> omega
  · rw [clampTo_max]
    split <;> simp only [UInt32.lt_iff_toNat_lt, UInt32.le_iff_toNat_le] at * <;> omega
  · rw [clampTo_flags_and rfl]
    congr 1
    split_ifs <;> decide
  · rw [clampTo_flags_and rfl, clampTo_min]
    by_cases h1 : lo > i.min
    · have hne : lo ≠ i.min := by
        rintro rfl
        exact UInt32.lt_irrefl _ h1
      simp only [h1, hne, if_true, if_false]
      congr 1
      split <;> decide
    · simp only [h1, if_true, if_false]
      congr 1
      split <;> decide
  · rw [clampTo_flags_and rfl, clampTo_max]
    by_cases h2 : hi < i.max
    · have hne : hi ≠ i.max := by
        rintro rfl
        exact UInt32.lt_irrefl _ h2
      simp only [h2, hne, if_true, if_false]
      congr 1
      split <;> decide
    · simp only [h2, if_true, if_false]
      congr 1
      split <;> decide

theorem narrows_refl (i : Interval) : i.Narrows i := by
  refine ⟨UInt32.le_refl _, UInt32.le_refl _, rfl, ?_, ?_⟩ <;> simp

theorem clampTo_of_within {i : Interval} {lo hi : UInt32} (hlo : lo ≤ i.min) (hhi : i.max ≤ hi)
    (h : i.min ≤ i.max) : i.clampTo lo hi = i := by
  have hf : i.flags &&& ~~~0 &&& ~~~0 = i.flags := by
    rw [UInt32.and_assoc, show (~~~0 &&& ~~~0 : UInt32) = -1 from rfl, UInt32.and_neg_one]
  rw [clampTo_eq]
  simp only [UInt32.not_lt.2 hlo, UInt32.not_lt.2 hhi, if_false, hf]
  exact markCrossed_of_le h

theorem clampTo_clampTo (i : Interval) (lo hi : UInt32) :
    (i.clampTo lo hi).clampTo lo hi = i.clampTo lo hi := by
  have hlo : lo ≤ (i.clampTo lo hi).min := by
    rw [clampTo_min]
    split <;> simp only [UInt32.lt_iff_toNat_lt, UInt32.le_iff_toNat_le] at * <;> omega
  have hhi : (i.clampTo lo hi).max ≤ hi := by
    rw [clampTo_max]
    split <;> simp only [UInt32.lt_iff_toNat_lt, UInt32.le_iff_toNat_le] at * <;> omega
  have hf : (i.clampTo lo hi).flags &&& ~~~0 &&& ~~~0 = (i.clampTo lo hi).flags := by
    rw [UInt32.and_assoc, show (~~~0 &&& ~~~0 : UInt32) = -1 from rfl, UInt32.and_neg_one]
  conv_lhs => rw [clampTo_eq]
  simp only [UInt32.not_lt.2 hlo, UInt32.not_lt.2 hhi, if_false, hf]
  show (i.clampTo lo hi).markCrossed = i.clampTo lo hi
  rw [clampTo_eq, markCrossed_markCrossed]

theorem isEmpty_markCrossed (j : Interval) :
    j.markCrossed.isEmpty = (j.flags &&& emptyFlag != 0 || j.min > j.max) := by
  unfold markCrossed isEmpty
  split <;> simp_all

theorem isEmpty_clampTo (i : Interval) (lo hi : UInt32) :
    (i.clampTo lo hi).isEmpty = (i.flags &&& emptyFlag != 0 ||
      (if lo > i.min then lo else i.min) > (if hi < i.max then hi else i.max)) := by
  have hkeep : i.flags &&& (if lo > i.min then ~~~openMin else ~~~0) &&&
      (if hi < i.max then ~~~openMax else ~~~0) &&& emptyFlag = i.flags &&& emptyFlag := by
    simp only [UInt32.and_assoc]
    congr 1
    split_ifs <;> decide
  rw [clampTo_eq, isEmpty_markCrossed]
  dsimp only
  rw [hkeep]

theorem setInteger_emptyFlag (i : Interval) (v : UInt32) :
    (i.setInteger v).flags &&& emptyFlag = i.flags &&& emptyFlag := by
  have hm : ~~~(openMin ||| openMax) &&& emptyFlag = emptyFlag := by decide
  have hi : integer &&& emptyFlag = 0 := by decide
  change (i.flags ||| integer) &&& ~~~(openMin ||| openMax) &&& emptyFlag = _
  rw [UInt32.and_assoc, hm]
  apply UInt32.toBitVec_inj.1
  simp only [UInt32.toBitVec_and, UInt32.toBitVec_or, BitVec.and_or_distrib_right]
  rw [← UInt32.toBitVec_and integer, hi]
  simp

theorem isEmpty_setInteger {i : Interval} (h : i.isEmpty = false) (v : UInt32) :
    (i.setInteger v).isEmpty = false := by
  simp only [isEmpty, Bool.or_eq_false_iff, bne_eq_false_iff_eq] at h ⊢
  refine ⟨(setInteger_emptyFlag i v).trans h.1, ?_⟩
  simp [setInteger]

theorem single?_setInteger {i : Interval} (h : i.isEmpty = false) (v : UInt32) :
    (i.setInteger v).single? = some v := by
  have he := isEmpty_setInteger h v
  simp only [setInteger] at he
  simp [single?, setInteger, he]

end Interval

namespace Mask

theorem test_inter (m a : Mask) (b : Nat) : (m.inter a).test b = (m.test b && a.test b) := by
  unfold test inter
  by_cases hb : b < width <;> simp [hb, BitVec.getLsbD_and]

theorem test_of_test_inter {m a : Mask} {b : Nat} (h : (m.inter a).test b = true) :
    m.test b = true := by
  rw [test_inter, Bool.and_eq_true] at h
  exact h.1

theorem inter_inter_self (m a : Mask) : (m.inter a).inter a = m.inter a := by
  simp [inter, BitVec.and_assoc]

theorem test_setOnly {b : Nat} (hb : b < width) (m : Mask) (c : Nat) :
    (m.setOnly b).test c = (c == b) := by
  unfold setOnly test
  rw [if_pos hb]
  have hb' : b < 256 := hb
  by_cases hc : c = b
  · subst hc
    simp [hb, hb']
  · simp [BitVec.getLsbD_twoPow, hc, Ne.symm hc]

theorem members_setOnly {b : Nat} (hb : b < width) (m : Mask) : (m.setOnly b).members = [b] := by
  have ht : (m.setOnly b).test = (· == b) := funext (test_setOnly hb m)
  rw [members, ht, List.filter_beq, List.count_eq_one_of_mem List.nodup_range (List.mem_range.2 hb)]
  rfl

theorem first?_eq_some_iff {m : Mask} {b : Nat} :
    m.first? = some b ↔ b < width ∧ m.test b = true ∧ ∀ c < b, m.test c = false := by
  unfold first?
  rw [List.find?_range_eq_some, List.mem_range]
  constructor
  · rintro ⟨ht, hb, hlow⟩
    exact ⟨hb, ht, fun c hc => by simpa using hlow c hc⟩
  · rintro ⟨hb, ht, hlow⟩
    exact ⟨ht, hb, fun c hc => by simp [hlow c hc]⟩

end Mask

namespace Param

theorem ofIndex?_index (q : Param) : ofIndex? q.index = some q := by
  cases q <;> rfl

theorem index_injective : Function.Injective index := fun q q' h =>
  Option.some.inj ((ofIndex?_index q).symm.trans (h ▸ ofIndex?_index q'))

theorem exists_mask_slot (k : Fin 3) : ∃ q : Param, q.index = k := by
  fin_cases k
  exacts [⟨.access, rfl⟩, ⟨.format, rfl⟩, ⟨.subformat, rfl⟩]

theorem exists_interval_slot (k : Fin 12) : ∃ q : Param, q.index = k + 8 := by
  fin_cases k
  exacts [⟨.sampleBits, rfl⟩, ⟨.frameBits, rfl⟩, ⟨.channels, rfl⟩, ⟨.rate, rfl⟩,
    ⟨.periodTime, rfl⟩, ⟨.periodSize, rfl⟩, ⟨.periodBytes, rfl⟩, ⟨.periods, rfl⟩,
    ⟨.bufferTime, rfl⟩, ⟨.bufferSize, rfl⟩, ⟨.bufferBytes, rfl⟩, ⟨.tickTime, rfl⟩]

theorem mask_cases (q : Param) :
    q = .access ∨ q = .format ∨ q = .subformat ∨ q.isMask = false := by
  cases q <;> simp [isMask, index]

theorem nodup_all : all.Nodup := by decide

theorem mem_all (q : Param) : q ∈ all := by
  cases q <;> decide

end Param

namespace HwParams

variable (p : HwParams)

theorem mask_eq (q : Param) :
    p.mask q = if h : q.index < 3 then some p.masks[q.index] else none := rfl

theorem interval_eq (q : Param) :
    p.interval q = if h : 8 ≤ q.index ∧ q.index < 20 then
      some p.intervals[q.index - 8] else none := rfl

@[simp] theorem interval_access : p.interval .access = none := rfl
@[simp] theorem interval_format : p.interval .format = none := rfl
@[simp] theorem interval_subformat : p.interval .subformat = none := rfl

theorem mask_of_not_isMask {q : Param} (hq : q.isMask = false) : p.mask q = none := by
  rw [mask_eq, dif_neg]
  simp only [Param.isMask, decide_eq_false_iff_not] at hq
  omega

@[simp] theorem mask_modifyMask (q q' : Param) (f : Mask → Mask) :
    (p.modifyMask q.index f).mask q' = if q = q' then (p.mask q').map f else p.mask q' := by
  unfold mask mask? modifyMask
  by_cases hq : q.index < 3
  · rw [dif_pos hq]
    by_cases hq' : q'.index < 3
    · simp only [dif_pos hq', Vector.get_eq_getElem, Vector.getElem_set]
      by_cases h : q = q'
      · subst h
        simp
      · have : q.index ≠ q'.index := fun he => h (Param.index_injective he)
        simp [h, this]
    · simp [hq']
  · rw [dif_neg hq]
    by_cases h : q = q'
    · subst h
      simp [hq]
    · simp [h]

@[simp] theorem interval_modifyInterval (q q' : Param) (f : Interval → Interval) :
    (p.modifyInterval q.index f).interval q' =
      if q = q' then (p.interval q').map f else p.interval q' := by
  unfold interval interval? modifyInterval
  by_cases hq : 8 ≤ q.index ∧ q.index < 20
  · rw [dif_pos hq]
    by_cases hq' : 8 ≤ q'.index ∧ q'.index < 20
    · simp only [dif_pos hq', Vector.get_eq_getElem, Vector.getElem_set]
      by_cases h : q = q'
      · subst h
        simp
      · have : q.index - 8 ≠ q'.index - 8 := fun he => h (Param.index_injective (by omega))
        simp [h, this]
    · simp [hq']
  · rw [dif_neg hq]
    by_cases h : q = q'
    · subst h
      simp [hq]
    · simp [h]

@[simp] theorem mask_modifyInterval (idx : Nat) (f : Interval → Interval) (q : Param) :
    (p.modifyInterval idx f).mask q = p.mask q := by
  unfold modifyInterval
  split <;> rfl

@[simp] theorem interval_modifyMask (idx : Nat) (f : Mask → Mask) (q : Param) :
    (p.modifyMask idx f).interval q = p.interval q := by
  unfold modifyMask
  split <;> rfl

variable {p}

theorem mem_masks_toList {m : Mask} : m ∈ p.masks.toList ↔ ∃ q, p.mask q = some m := by
  rw [Vector.mem_toList_iff, Vector.mem_iff_getElem]
  constructor
  · rintro ⟨k, hk, rfl⟩
    obtain ⟨q, hq⟩ := Param.exists_mask_slot ⟨k, hk⟩
    exact ⟨q, by simp [mask_eq, hq, hk]⟩
  · rintro ⟨q, hq⟩
    rw [mask_eq] at hq
    split at hq
    · exact ⟨q.index, by assumption, by simpa using hq⟩
    · cases hq

theorem mem_intervals_toList {i : Interval} :
    i ∈ p.intervals.toList ↔ ∃ q, p.interval q = some i := by
  rw [Vector.mem_toList_iff, Vector.mem_iff_getElem]
  constructor
  · rintro ⟨k, hk, rfl⟩
    obtain ⟨q, hq⟩ := Param.exists_interval_slot ⟨k, hk⟩
    refine ⟨q, ?_⟩
    simp only [interval_eq, hq]
    rw [dif_pos (by simp; omega)]
    simp
  · rintro ⟨q, hq⟩
    rw [interval_eq] at hq
    split at hq
    · exact ⟨q.index - 8, by omega, by simpa using hq⟩
    · cases hq

theorem intervals_any_isEmpty_eq_false :
    p.intervals.toList.any (·.isEmpty) = false ↔
      ∀ q i, p.interval q = some i → i.isEmpty = false := by
  simp only [List.any_eq_false, mem_intervals_toList, Bool.not_eq_true]
  exact ⟨fun h q i hi => h i ⟨q, hi⟩, fun h i ⟨q, hi⟩ => h q i hi⟩

theorem isEmpty_eq_false_iff : p.isEmpty = false ↔
    (∀ q m, p.mask q = some m → m.isEmpty = false) ∧
      (∀ q i, p.interval q = some i → i.isEmpty = false) := by
  rw [isEmpty, Bool.or_eq_false_iff, intervals_any_isEmpty_eq_false]
  simp only [List.any_eq_false, mem_masks_toList, Bool.not_eq_true]
  exact and_congr_left' ⟨fun h q m hm => h m ⟨q, hm⟩, fun h m ⟨q, hm⟩ => h q m hm⟩

/-- `r` is `p` narrowed: each mask of `r` keeps only bits of `p`'s, and each interval of `r`
narrows `p`'s. -/
def NarrowerThan (r p : HwParams) : Prop :=
  (∀ q m m', p.mask q = some m → r.mask q = some m' → ∀ b, m'.test b = true → m.test b = true) ∧
    ∀ q i j, p.interval q = some i → r.interval q = some j → j.Narrows i

/-- `r` differs from `p` at most in its masks and intervals. -/
def Reshapes (r p : HwParams) : Prop := r = { p with masks := r.masks, intervals := r.intervals }

theorem Reshapes.refl (p : HwParams) : p.Reshapes p := rfl

theorem Reshapes.trans {r s : HwParams} (hs : s.Reshapes r) (hr : r.Reshapes p) :
    s.Reshapes p := by
  unfold Reshapes at *
  rw [hs, hr]

theorem reshapes_modifyMask (idx : Nat) (f : Mask → Mask) : (p.modifyMask idx f).Reshapes p := by
  unfold Reshapes modifyMask
  split <;> rfl

theorem reshapes_modifyInterval (idx : Nat) (f : Interval → Interval) :
    (p.modifyInterval idx f).Reshapes p := by
  unfold Reshapes modifyInterval
  split <;> rfl

theorem Reshapes.rmask {r : HwParams} (h : r.Reshapes p) (x : UInt32) :
    ({ r with rmask := x } : HwParams).Reshapes { p with rmask := x } := by
  unfold Reshapes at *
  cases r
  cases p
  simp only [HwParams.mk.injEq] at h ⊢
  simp [h]

@[simp] theorem mask_rmask (x : UInt32) (q : Param) :
    ({ p with rmask := x } : HwParams).mask q = p.mask q := rfl

@[simp] theorem interval_rmask (x : UInt32) (q : Param) :
    ({ p with rmask := x } : HwParams).interval q = p.interval q := rfl

theorem NarrowerThan.rmask {r : HwParams} (h : r.NarrowerThan p) (x : UInt32) :
    ({ r with rmask := x } : HwParams).NarrowerThan p :=
  ⟨fun q m m' hm hm' => h.1 q m m' hm hm', fun q i j hi hj => h.2 q i j hi hj⟩

/-- Two reshapings of one record with the same masks and intervals are equal. -/
theorem Reshapes.ext {r r' : HwParams} (h : r.Reshapes p) (h' : r'.Reshapes p)
    (hm : ∀ q, r.mask q = r'.mask q) (hi : ∀ q, r.interval q = r'.interval q) : r = r' := by
  have hmasks : r.masks = r'.masks := by
    apply Vector.ext
    intro k hk
    obtain ⟨q, hq⟩ := Param.exists_mask_slot ⟨k, hk⟩
    have := hm q
    simp only [mask_eq, hq, dif_pos hk, Option.some.injEq] at this
    exact this
  have hints : r.intervals = r'.intervals := by
    apply Vector.ext
    intro k hk
    obtain ⟨q, hq⟩ := Param.exists_interval_slot ⟨k, hk⟩
    have := hi q
    simp only [interval_eq, hq] at this
    rw [dif_pos (by simp; omega), dif_pos (by simp; omega), Option.some.injEq] at this
    simpa using this
  rw [h, h', hmasks, hints]

/-- Applies `g q` to the mask and `f q` to the interval of every parameter `q`. -/
def update (p : HwParams) (g : Param → Mask → Mask) (f : Param → Interval → Interval) :
    HwParams :=
  Param.all.foldl (fun r q => (r.modifyMask q.index (g q)).modifyInterval q.index (f q)) p

section Update

variable (g : Param → Mask → Mask) (f : Param → Interval → Interval)

/-- Running the update over a list of distinct parameters changes exactly theirs. -/
private theorem foldl_update (l : List Param) (hl : l.Nodup) (p : HwParams) (q : Param) :
    let r := l.foldl (fun r q => (r.modifyMask q.index (g q)).modifyInterval q.index (f q)) p
    r.mask q = (if q ∈ l then (p.mask q).map (g q) else p.mask q) ∧
      r.interval q = (if q ∈ l then (p.interval q).map (f q) else p.interval q) ∧
      r.Reshapes p := by
  induction l generalizing p with
  | nil => simp [Reshapes.refl]
  | cons a l ih =>
    obtain ⟨hal, hl⟩ := List.nodup_cons.1 hl
    obtain ⟨hm, hi, hr⟩ := ih hl ((p.modifyMask a.index (g a)).modifyInterval a.index (f a))
    simp only [List.foldl_cons]
    refine ⟨?_, ?_, hr.trans ((reshapes_modifyInterval _ _).trans (reshapes_modifyMask _ _))⟩
    · rw [hm]
      by_cases hq : q ∈ l
      · have : a ≠ q := fun h => hal (h ▸ hq)
        simp [hq, this]
      · by_cases ha : a = q <;> simp [hq, ha, Ne.symm]
    · rw [hi]
      by_cases hq : q ∈ l
      · have : a ≠ q := fun h => hal (h ▸ hq)
        simp [hq, this]
      · by_cases ha : a = q <;> simp [hq, ha, Ne.symm]

@[simp] theorem mask_update (p : HwParams) (q : Param) :
    (p.update g f).mask q = (p.mask q).map (g q) := by
  simpa [update, Param.mem_all] using (foldl_update g f Param.all Param.nodup_all p q).1

@[simp] theorem interval_update (p : HwParams) (q : Param) :
    (p.update g f).interval q = (p.interval q).map (f q) := by
  simpa [update, Param.mem_all] using (foldl_update g f Param.all Param.nodup_all p q).2.1

theorem reshapes_update (p : HwParams) : (p.update g f).Reshapes p :=
  (foldl_update g f Param.all Param.nodup_all p .access).2.2

end Update

/-! ## Pinning an interval parameter -/

variable {p : HwParams}

theorem exists_interval {q : Param} (hq : q.isMask = false) : ∃ i, p.interval q = some i := by
  have h : 8 ≤ q.index ∧ q.index < 20 := by
    cases q <;> simp_all [Param.isMask, Param.index]
  exact ⟨_, dif_pos h⟩

theorem interval_any (q : Param) : any.interval q = if q.isMask then none else some .full := by
  cases q <;> rfl

@[simp] theorem mask_mk (a c d e f g h : UInt32) (q : Param) :
    (HwParams.mk a p.masks p.intervals c d e f g h).mask q = p.mask q := rfl

@[simp] theorem interval_mk (a c d e f g h : UInt32) (q : Param) :
    (HwParams.mk a p.masks p.intervals c d e f g h).interval q = p.interval q := rfl

@[simp] theorem min_mk (a c d e f g h : UInt32) (q : Param) :
    (HwParams.mk a p.masks p.intervals c d e f g h).min q = p.min q := rfl

theorem min_setInt_of_ne {q q' : Param} (hq : q' ≠ q) (w : UInt32) :
    (p.setInt q' w).min q = p.min q := by
  simp [HwParams.min, HwParams.setInt, hq]

/-- No interval of the record is empty. -/
def Consistent (p : HwParams) : Prop := ∀ q i, p.interval q = some i → i.isEmpty = false

@[simp] theorem Consistent.setInt (h : p.Consistent) (q : Param) (v : UInt32) :
    (p.setInt q v).Consistent := by
  intro q' i hi
  by_cases hq : q = q'
  · subst hq
    simp only [HwParams.setInt, interval_modifyInterval, if_true, Option.map_eq_some_iff] at hi
    obtain ⟨j, hj, rfl⟩ := hi
    exact Interval.isEmpty_setInteger (h _ _ hj) v
  · simp only [HwParams.setInt, interval_modifyInterval, hq, if_false] at hi
    exact h _ _ hi

@[simp] theorem single?_mk (a c d e f g h : UInt32) (q : Param) :
    (HwParams.mk a p.masks p.intervals c d e f g h).single? q = p.single? q := rfl

end HwParams

end SoundCard.Hw
