import Mathlib
import SoundCard.Proofs.Refinement
/-! Choosing one point of the supported space, which need not lie in that space once its products
saturate at 32 bits. -/
namespace SoundCard.Hw

/-! ## Saturating products and truncated times -/

theorem satMul32_toNat (a b : UInt32) :
    (satMul32 a b).toNat = min (a.toNat * b.toNat) 4294967295 := by
  unfold satMul32
  split
  · rw [Nat.min_eq_right (by omega)]
    rfl
  · rw [UInt32.toNat_mul, Nat.mod_eq_of_lt (by omega), Nat.min_eq_left (by omega)]

namespace Interval

theorem setInteger_setInteger (i : Interval) (v w : UInt32) :
    (i.setInteger v).setInteger w = i.setInteger w := by
  simp only [setInteger, Interval.mk.injEq, true_and]
  have hIM : integer &&& ~~~(openMin ||| openMax) = integer := by decide
  apply UInt32.toBitVec_inj.1
  have hIM' := congrArg UInt32.toBitVec hIM
  simp only [UInt32.toBitVec_and, UInt32.toBitVec_or] at hIM' ⊢
  generalize i.flags.toBitVec = F
  generalize integer.toBitVec = I at hIM' ⊢
  generalize (~~~(openMin ||| openMax)).toBitVec = M at hIM' ⊢
  rw [BitVec.and_or_distrib_right, BitVec.and_assoc, BitVec.and_self, hIM',
    BitVec.and_or_distrib_right, hIM', BitVec.or_assoc, BitVec.or_self]

theorem le_of_clampTo_eq {i : Interval} {lo hi : UInt32} (h : i.clampTo lo hi = i) :
    lo ≤ i.min ∧ i.max ≤ hi := by
  have hmin := congrArg Interval.min h
  have hmax := congrArg Interval.max h
  rw [clampTo_min] at hmin
  rw [clampTo_max] at hmax
  constructor
  · by_cases hl : lo > i.min
    · rw [if_pos hl] at hmin
      exact hmin ▸ UInt32.le_refl _
    · exact UInt32.not_lt.1 hl
  · by_cases hh : hi < i.max
    · rw [if_pos hh] at hmax
      exact hmax ▸ UInt32.le_refl _
    · exact UInt32.not_lt.1 hh

theorem clampTo_setInteger (i : Interval) {v lo hi : UInt32} (hlo : lo ≤ v) (hhi : v ≤ hi) :
    (i.setInteger v).clampTo lo hi = i.setInteger v :=
  clampTo_of_within hlo hhi (UInt32.le_refl v)

theorem isEmpty_clampTo_setInteger {i : Interval} (h : i.isEmpty = false) (v lo hi : UInt32) :
    ((i.setInteger v).clampTo lo hi).isEmpty = false ↔ lo ≤ v ∧ v ≤ hi := by
  have hflag : (i.setInteger v).flags &&& emptyFlag = 0 := by
    rw [setInteger_emptyFlag]
    simp only [isEmpty, Bool.or_eq_false_iff, bne_eq_false_iff_eq] at h
    exact h.1
  have hmin : (i.setInteger v).min = v := rfl
  have hmax : (i.setInteger v).max = v := rfl
  rw [isEmpty_clampTo, hflag, hmin, hmax]
  simp only [bne_self_eq_false, Bool.false_or, decide_eq_false_iff_not]
  split_ifs with hl hh hh <;> simp only [UInt32.lt_iff_toNat_lt, UInt32.le_iff_toNat_le] at * <;>
    omega

end Interval

namespace Mask

/-- The mask cut down to its lowest bit; an empty mask stays. -/
def lowest (m : Mask) : Mask :=
  match m.first? with
  | some b => m.setOnly b
  | none => m

theorem lowest_of_first? {m : Mask} {b : Nat} (h : m.first? = some b) : m.lowest = m.setOnly b := by
  unfold lowest
  rw [h]

theorem setOnly_setOnly (m : Mask) (b : Nat) : (m.setOnly b).setOnly b = m.setOnly b := by
  by_cases hb : b < width <;> simp [setOnly, hb]

theorem first?_setOnly {b : Nat} (hb : b < width) (m : Mask) : (m.setOnly b).first? = some b := by
  rw [first?_eq_some_iff, test_setOnly hb]
  exact ⟨hb, by simp,
    fun c hc => (test_setOnly hb m c).trans (beq_false_of_ne (Nat.ne_of_lt hc))⟩

theorem lowest_lowest (m : Mask) : m.lowest.lowest = m.lowest := by
  rcases h : m.first? with _ | b
  · have hm : m.lowest = m := by
      unfold lowest
      rw [h]
    rw [hm, hm]
  · have hb := (first?_eq_some_iff.1 h).1
    rw [lowest_of_first? h, lowest_of_first? (first?_setOnly hb m), setOnly_setOnly]

/-- A bit of `a` set alone stays when cut down to `a`. -/
theorem setOnly_inter {a : Mask} {b : Nat} (hb : a.test b = true) (m : Mask) :
    (m.setOnly b).inter a = m.setOnly b := by
  have hw : b < width := by
    unfold test at hb
    simp only [Bool.and_eq_true, decide_eq_true_eq] at hb
    exact hb.1
  have hbit : a.bits.getLsbD b = true := by
    unfold test at hb
    simp only [Bool.and_eq_true] at hb
    exact hb.2
  unfold setOnly inter
  rw [if_pos hw]
  congr 1
  apply BitVec.eq_of_getLsbD_eq
  intro i hi
  rw [BitVec.getLsbD_and, BitVec.getLsbD_twoPow]
  by_cases h : b = i
  · subst h
    simp [hbit, hi]
  · simp [h]

theorem lowest_inter (m a : Mask) : (m.inter a).lowest.inter a = (m.inter a).lowest := by
  rcases h : (m.inter a).first? with _ | b
  · simp only [lowest, h]
    exact inter_inter_self m a
  · rw [lowest_of_first? h]
    obtain ⟨-, hb, -⟩ := first?_eq_some_iff.1 h
    rw [test_inter, Bool.and_eq_true] at hb
    exact setOnly_inter hb.2 _

theorem isEmpty_setOnly {b : Nat} (hb : b < width) (m : Mask) :
    (m.setOnly b).isEmpty = false := by
  unfold isEmpty setOnly
  rw [if_pos hb]
  have hb' : b < 256 := hb
  simp only [beq_eq_false_iff_ne, ne_eq]
  intro h0
  have := congrArg (·.getLsbD b) h0
  simp [hb'] at this

theorem exists_first? {m : Mask} (h : m.isEmpty = false) : ∃ b, m.first? = some b := by
  rcases hf : m.first? with _ | b
  · exfalso
    rw [first?, List.find?_eq_none] at hf
    have hzero : m.bits = 0 := by
      apply BitVec.eq_of_getLsbD_eq
      intro i hi
      have := hf i (List.mem_range.2 hi)
      simp only [test, Bool.and_eq_true, decide_eq_true_eq, not_and, Bool.not_eq_true] at this
      simpa using this hi
    simp [isEmpty, hzero] at h
  · exact ⟨b, rfl⟩

theorem isEmpty_lowest {m : Mask} (h : m.isEmpty = false) : m.lowest.isEmpty = false := by
  rcases hb : m.first? with _ | b
  · unfold lowest
    rw [hb]
    exact h
  · rw [lowest_of_first? hb]
    exact isEmpty_setOnly (first?_eq_some_iff.1 hb).1 m

end Mask

namespace HwParams

variable {p r r' : HwParams}

theorem Reshapes.flags (h : r.Reshapes p) : r.flags = p.flags := by
  unfold Reshapes at h
  rw [h]

theorem Reshapes.rmask_eq (h : r.Reshapes p) : r.rmask = p.rmask := by
  unfold Reshapes at h
  rw [h]

theorem Reshapes.info (h : r.Reshapes p) : r.info = p.info := by
  unfold Reshapes at h
  rw [h]

theorem ext_params (hm : ∀ q, r.mask q = r'.mask q) (hi : ∀ q, r.interval q = r'.interval q)
    (hflags : r.flags = r'.flags) (hrmask : r.rmask = r'.rmask) (hcmask : r.cmask = r'.cmask)
    (hinfo : r.info = r'.info) (hmsbits : r.msbits = r'.msbits) (hnum : r.rateNum = r'.rateNum)
    (hden : r.rateDen = r'.rateDen) : r = r' := by
  have hwords : r' = { r with masks := r'.masks, intervals := r'.intervals } := by
    cases r
    cases r'
    simp_all
  exact (Reshapes.refl r).ext hwords hm hi

variable (p)

@[simp] theorem mask_setInt (q q' : Param) (v : UInt32) : (p.setInt q v).mask q' = p.mask q' :=
  mask_modifyInterval p _ _ q'

theorem interval_setInt (q q' : Param) (v : UInt32) :
    (p.setInt q v).interval q' =
      if q = q' then (p.interval q').map (·.setInteger v) else p.interval q' :=
  interval_modifyInterval p q q' _

theorem rmask_update_of_eq {x : UInt32} (h : p.rmask = x) :
    ({ p with rmask := x } : HwParams) = p := by
  subst h
  rfl

theorem isEmpty_rmask (x : UInt32) : ({ p with rmask := x } : HwParams).isEmpty = p.isEmpty :=
  rfl

theorem Reshapes.setInt {r s : HwParams} (h : r.Reshapes s) (q : Param) (v : UInt32) :
    (r.setInt q v).Reshapes s :=
  (reshapes_modifyInterval (p := r) _ _).trans h

end HwParams

theorem Applied.eq_mk {a : Applied} {q : HwParams} {b : Bool} (hp : a.params = q)
    (ha : a.admitted = b) : a = ⟨q, b⟩ := by
  cases a
  cases hp
  cases ha
  rfl

namespace Constraints

/-! ## Keeping the lowest mask bits -/

variable (p : HwParams)

theorem mask_keepLowestBit (q q' : Param) :
    (keepLowestBit p q).mask q' = if q = q' then (p.mask q').map Mask.lowest else p.mask q' := by
  unfold keepLowestBit
  split
  · rename_i m hm
    split
    · rename_i b hb
      by_cases h : q = q'
      · subst h
        simp [HwParams.setMaskBit, hm, Mask.lowest_of_first? hb]
      · simp [HwParams.setMaskBit, h]
    · rename_i hb
      by_cases h : q = q'
      · subst h
        simp [hm, Mask.lowest, hb]
      · simp [h]
  · rename_i hm
    by_cases h : q = q'
    · subst h
      simp [hm]
    · simp [h]

theorem interval_keepLowestBit (q q' : Param) :
    (keepLowestBit p q).interval q' = p.interval q' := by
  unfold keepLowestBit
  split
  · split
    · exact HwParams.interval_modifyMask _ _ _ _
    · rfl
  · rfl

theorem reshapes_keepLowestBit (q : Param) : (keepLowestBit p q).Reshapes p := by
  unfold keepLowestBit
  split
  · split
    · exact HwParams.reshapes_modifyMask _ _
    · exact HwParams.Reshapes.refl _
  · exact HwParams.Reshapes.refl _

@[simp] theorem mask_keepLowestBits (q : Param) :
    (keepLowestBits p).mask q = (p.mask q).map Mask.lowest := by
  unfold keepLowestBits
  simp only [List.foldl_cons, List.foldl_nil, mask_keepLowestBit]
  rcases Param.mask_cases q with rfl | rfl | rfl | hq
  · simp
  · simp
  · simp
  · have hne : ∀ q', q'.isMask = true → q' ≠ q := fun q' h' he => by simp_all
    simp [hne .access rfl, hne .format rfl, hne .subformat rfl,
      HwParams.mask_of_not_isMask p hq]

@[simp] theorem interval_keepLowestBits (q : Param) :
    (keepLowestBits p).interval q = p.interval q := by
  simp [keepLowestBits, interval_keepLowestBit]

theorem reshapes_keepLowestBits : (keepLowestBits p).Reshapes p := by
  unfold keepLowestBits
  simp only [List.foldl_cons, List.foldl_nil]
  exact (reshapes_keepLowestBit _ _).trans
    ((reshapes_keepLowestBit _ _).trans (reshapes_keepLowestBit _ _))

/-! ## Pinning the least values -/

/-- The value choosing pins an interval parameter of `p` to; the masks and the tick time have
none. -/
def chosenValue : Param → Option UInt32
  | .sampleBits => some (p.min .sampleBits)
  | .channels => some (p.min .channels)
  | .rate => some (p.min .rate)
  | .periods => some (p.min .periods)
  | .periodSize => some (p.min .periodSize)
  | .frameBits => some (satMul32 (p.min .sampleBits) (p.min .channels))
  | .periodBytes =>
    some (satMul32 (p.min .periodSize) (satMul32 (p.min .sampleBits) (p.min .channels)) / 8)
  | .bufferSize => some (satMul32 (p.min .periodSize) (p.min .periods))
  | .bufferBytes =>
    some (satMul32 (satMul32 (p.min .periodSize) (p.min .periods))
      (satMul32 (p.min .sampleBits) (p.min .channels)) / 8)
  | .periodTime => some (micros (p.min .periodSize) (p.min .rate))
  | .bufferTime => some (micros (satMul32 (p.min .periodSize) (p.min .periods)) (p.min .rate))
  | _ => none

/-- Pins an interval to a value, when there is one. -/
def pinTo : Option UInt32 → Interval → Interval
  | some v, i => i.setInteger v
  | none, i => i

@[simp] theorem pinTo_some (v : UInt32) : pinTo (some v) = (·.setInteger v) := rfl

@[simp] theorem pinTo_none : pinTo none = id := rfl

/-- A record with its rate fraction and significant bits set and no parameter marked as
changed. -/
def withWords (r : HwParams) (num den bits : UInt32) : HwParams :=
  { r with rateNum := num, rateDen := den, msbits := bits, cmask := 0 }

section Words

variable (r : HwParams) (num den bits : UInt32)

@[simp] theorem mask_withWords (q : Param) : (withWords r num den bits).mask q = r.mask q := rfl
@[simp] theorem interval_withWords (q : Param) :
    (withWords r num den bits).interval q = r.interval q := rfl
@[simp] theorem flags_withWords : (withWords r num den bits).flags = r.flags := rfl
@[simp] theorem rmask_withWords : (withWords r num den bits).rmask = r.rmask := rfl
@[simp] theorem info_withWords : (withWords r num den bits).info = r.info := rfl
@[simp] theorem cmask_withWords : (withWords r num den bits).cmask = 0 := rfl
@[simp] theorem msbits_withWords : (withWords r num den bits).msbits = bits := rfl
@[simp] theorem rateNum_withWords : (withWords r num den bits).rateNum = num := rfl
@[simp] theorem rateDen_withWords : (withWords r num den bits).rateDen = den := rfl

end Words

/-- The record choosing makes of `p` when its least rate, period size and period count are not
0. -/
def chosen : HwParams :=
  withWords (p.update (fun _ m => m) (fun q => pinTo (chosenValue p q))) (p.min .rate) 1
    (p.min .sampleBits)

-- The lemmas about `chosen` rewrite with its equation rather than unfold it or simplify
-- with it: the kernel would otherwise compare the chosen record with the update it is
-- built from, field by field.
@[simp] theorem mask_chosen (q : Param) : (chosen p).mask q = p.mask q := by
  rw [chosen, mask_withWords, HwParams.mask_update, Option.map_id']

@[simp] theorem interval_chosen (q : Param) :
    (chosen p).interval q = (p.interval q).map (pinTo (chosenValue p q)) := by
  rw [chosen, interval_withWords, HwParams.interval_update]

@[simp] theorem flags_chosen : (chosen p).flags = p.flags := by
  rw [chosen, flags_withWords]
  exact (HwParams.reshapes_update _ _ p).flags

@[simp] theorem rmask_chosen : (chosen p).rmask = p.rmask := by
  rw [chosen, rmask_withWords]
  exact (HwParams.reshapes_update _ _ p).rmask_eq

@[simp] theorem info_chosen : (chosen p).info = p.info := by
  rw [chosen, info_withWords]
  exact (HwParams.reshapes_update _ _ p).info

@[simp] theorem cmask_chosen : (chosen p).cmask = 0 := by rw [chosen, cmask_withWords]

@[simp] theorem msbits_chosen : (chosen p).msbits = p.min .sampleBits := by
  rw [chosen, msbits_withWords]

@[simp] theorem rateNum_chosen : (chosen p).rateNum = p.min .rate := by
  rw [chosen, rateNum_withWords]

@[simp] theorem rateDen_chosen : (chosen p).rateDen = 1 := by rw [chosen, rateDen_withWords]

theorem pinLeast_of_ne (h : ¬(p.min .rate = 0 ∨ p.min .periodSize = 0 ∨ p.min .periods = 0)) :
    pinLeast p = ⟨chosen p, true⟩ := by
  unfold pinLeast pick
  simp (disch := decide) only [HwParams.min_setInt_of_ne]
  rw [if_neg h]
  show (⟨withWords _ (p.min .rate) 1 (p.min .sampleBits), true⟩ : Applied) = _
  rw [chosen]
  congr 2
  refine HwParams.Reshapes.ext ?_ (HwParams.reshapes_update _ _ p) (fun q => ?_) (fun q => ?_)
  · repeat apply HwParams.Reshapes.setInt
    exact HwParams.Reshapes.refl p
  · simp only [HwParams.mask_setInt, HwParams.mask_update, Option.map_id']
  · rw [HwParams.interval_update]
    cases q <;> simp [HwParams.interval_setInt, chosenValue]

theorem pinLeast_admitted {p : HwParams} (h : (pinLeast p).admitted = true) :
    ¬(p.min .rate = 0 ∨ p.min .periodSize = 0 ∨ p.min .periods = 0) := by
  unfold pinLeast pick at h
  simp (disch := decide) only [HwParams.min_setInt_of_ne] at h
  split_ifs at h with hz
  exact hz

/-! ## Choosing in stages -/

section Stages

variable {c : Constraints} {p : HwParams}

theorem refine_admitted_of_choose (h : (c.choose p).admitted = true) :
    (c.refine p).admitted = true := by
  by_contra hr
  simp only [Bool.not_eq_true] at hr
  simp [choose, hr] at h

theorem choose_of_admitted (h : (c.refine p).admitted = true) :
    c.choose p = pinLeast (keepLowestBits (c.refine p).params) := by
  simp [choose, h]

end Stages

@[simp] theorem min_keepLowestBits (x : Param) : (keepLowestBits p).min x = p.min x := by
  simp [HwParams.min]

theorem chosenValue_keepLowestBits : chosenValue (keepLowestBits p) = chosenValue p := by
  funext x
  cases x <;> simp [chosenValue]

theorem consistent_keepLowestBits (h : p.Consistent) : (keepLowestBits p).Consistent :=
  fun x i hi => h x i (by rwa [interval_keepLowestBits] at hi)

theorem keepLowestBits_of_lowest {p : HwParams} (h : ∀ x m, p.mask x = some m → m.lowest = m) :
    keepLowestBits p = p := by
  refine (reshapes_keepLowestBits p).ext (HwParams.Reshapes.refl p) (fun x => ?_)
    (interval_keepLowestBits p)
  rw [mask_keepLowestBits]
  rcases hm : p.mask x with _ | m
  · rfl
  · rw [Option.map_some, h x m hm]

/-! ## The chosen record, chosen again -/

variable {p}

theorem isMask_of_chosenValue {x : Param} {v : UInt32} (h : chosenValue p x = some v) :
    x.isMask = false := by
  cases x <;> simp [chosenValue] at h <;> rfl

theorem min_chosen {x : Param} {v : UInt32} (h : chosenValue p x = some v) :
    (chosen p).min x = v := by
  obtain ⟨i, hi⟩ := HwParams.exists_interval (p := p) (isMask_of_chosenValue h)
  simp [HwParams.min, hi, h, Interval.setInteger]

theorem single?_chosen (hc : p.Consistent) {x : Param} {v : UInt32}
    (h : chosenValue p x = some v) : (chosen p).single? x = some v := by
  obtain ⟨i, hi⟩ := HwParams.exists_interval (p := p) (isMask_of_chosenValue h)
  simp [HwParams.single?, hi, h, Interval.single?_setInteger (hc x i hi)]

theorem consistent_chosen (hc : p.Consistent) : (chosen p).Consistent := by
  intro x i hi
  rw [interval_chosen, Option.map_eq_some_iff] at hi
  obtain ⟨j, hj, rfl⟩ := hi
  rcases chosenValue p x with _ | v
  · exact hc x j hj
  · exact Interval.isEmpty_setInteger (hc x j hj) v

theorem chosenValue_chosen : chosenValue (chosen p) = chosenValue p := by
  have hsb := min_chosen (p := p) (x := .sampleBits) rfl
  have hch := min_chosen (p := p) (x := .channels) rfl
  have hrt := min_chosen (p := p) (x := .rate) rfl
  have hpr := min_chosen (p := p) (x := .periods) rfl
  have hps := min_chosen (p := p) (x := .periodSize) rfl
  funext x
  cases x <;> simp only [chosenValue, hsb, hch, hrt, hpr, hps]

theorem chosen_chosen : chosen (chosen p) = chosen p := by
  refine HwParams.ext_params (fun x => by simp) (fun x => ?_) ?_ ?_ ?_ ?_ ?_ ?_ ?_
  · rw [interval_chosen, chosenValue_chosen, interval_chosen, Option.map_map]
    congr 1
    funext i
    rcases chosenValue p x with _ | v
    · rfl
    · exact Interval.setInteger_setInteger i v v
  all_goals simp only [flags_chosen, rmask_chosen, cmask_chosen, info_chosen, msbits_chosen,
    rateNum_chosen, rateDen_chosen, min_chosen (p := p) (x := .sampleBits) rfl,
    min_chosen (p := p) (x := .rate) rfl]

theorem pinLeast_chosen
    (hz : ¬(p.min .rate = 0 ∨ p.min .periodSize = 0 ∨ p.min .periods = 0)) :
    pinLeast (chosen p) = ⟨chosen p, true⟩ := by
  have hz' : ¬((chosen p).min .rate = 0 ∨ (chosen p).min .periodSize = 0 ∨
      (chosen p).min .periods = 0) := by
    rwa [min_chosen (x := .rate) rfl, min_chosen (x := .periodSize) rfl,
      min_chosen (x := .periods) rfl]
  rw [pinLeast_of_ne _ hz', chosen_chosen]

/-! ## Refining the chosen record -/

theorem narrowInterval_of_rangeBound (c : Constraints) {x : Param} {rg : Range}
    (hx : c.rangeBound x = some rg) (fb : Option UInt32) (i : Interval) :
    c.narrowInterval fb x i = i.clampTo rg.min rg.max := by
  simp [narrowInterval, hx]

theorem narrowInterval_periodSize (c : Constraints) (fb : UInt32) (i : Interval) :
    c.narrowInterval (some fb) .periodSize i =
      if 8 ≤ fb then i.clampTo (c.framesRange fb).min (c.framesRange fb).max else i := by
  simp [narrowInterval, rangeBound]

/-- The chosen period fits the device: its bytes lie in the device's range and, for frames
of at least a byte, its size in the range of frames those bytes allow. -/
def PeriodFits (c : Constraints) (q : HwParams) : Prop :=
  c.periodBytes.min ≤ q.min .periodBytes ∧ q.min .periodBytes ≤ c.periodBytes.max ∧
    (8 ≤ q.min .frameBits → (c.framesRange (q.min .frameBits)).min ≤ q.min .periodSize ∧
      q.min .periodSize ≤ (c.framesRange (q.min .frameBits)).max)

instance (c : Constraints) (q : HwParams) : Decidable (c.PeriodFits q) :=
  inferInstanceAs (Decidable (_ ∧ _ ∧ (_ → _)))

section Narrowed

variable {c : Constraints} {r : HwParams}

/-- A parameter a narrowed record holds within the device's range stays there when pinned to
its least value. -/
theorem narrowInterval_pinned_min (hfix : c.narrowed r = r) (hc : r.Consistent) {x : Param}
    {rg : Range} (hx : c.rangeBound x = some rg) (fb : Option UInt32) :
    ((r.interval x).map (·.setInteger (r.min x))).map (c.narrowInterval fb x) =
      (r.interval x).map (·.setInteger (r.min x)) := by
  have hix := congrArg (·.interval x) hfix
  simp only [interval_narrowed] at hix
  rcases hri : r.interval x with _ | ri
  · rfl
  rw [hri, Option.map_some, Option.some.injEq, narrowInterval_of_rangeBound c hx] at hix
  obtain ⟨hlo, hhi⟩ := Interval.le_of_clampTo_eq hix
  have hle : ri.min ≤ ri.max := by
    have := hc x ri hri
    simp only [Interval.isEmpty, Bool.or_eq_false_iff, decide_eq_false_iff_not] at this
    exact UInt32.not_lt.1 this.2
  have hmin : r.min x = ri.min := by simp [HwParams.min, hri]
  simp only [Option.map_some, hmin, narrowInterval_of_rangeBound c hx]
  rw [Interval.clampTo_setInteger ri hlo (UInt32.le_trans hle hhi)]

theorem mask_narrowed_chosen (hfix : c.narrowed r = r) (x : Param) :
    (c.narrowed (chosen (keepLowestBits r))).mask x = (chosen (keepLowestBits r)).mask x := by
  have hx := congrArg (·.mask x) hfix
  simp only [mask_narrowed] at hx
  rewrite [mask_narrowed, mask_chosen, mask_keepLowestBits]
  rcases hm : r.mask x with _ | m
  · rfl
  rewrite [hm, Option.map_some, Option.some.injEq] at hx
  rewrite [Option.map_some, Option.map_some, ← hx, Mask.lowest_inter]
  rfl

theorem min_chosen_keepLowestBits {x : Param} {v : UInt32} (h : chosenValue r x = some v) :
    (chosen (keepLowestBits r)).min x = v :=
  min_chosen (by rw [chosenValue_keepLowestBits]; exact h)

theorem single?_chosen_frameBits (hc : r.Consistent) :
    (chosen (keepLowestBits r)).single? .frameBits =
      some (satMul32 (r.min .sampleBits) (r.min .channels)) :=
  single?_chosen (consistent_keepLowestBits _ hc) (by simp [chosenValue])

/-- Refining the chosen record leaves it as it is when its period fits. -/
theorem narrowed_chosen_of_fits (hfix : c.narrowed r = r) (hc : r.Consistent)
    (hfits : c.PeriodFits (chosen (keepLowestBits r))) :
    c.narrowed (chosen (keepLowestBits r)) = chosen (keepLowestBits r) := by
  obtain ⟨hpb₁, hpb₂, hps⟩ := hfits
  rw [min_chosen_keepLowestBits (x := .periodBytes) rfl] at hpb₁ hpb₂
  rw [min_chosen_keepLowestBits (x := .frameBits) rfl,
    min_chosen_keepLowestBits (x := .periodSize) rfl] at hps
  refine (reshapes_narrowed c _).ext (HwParams.Reshapes.refl _) (mask_narrowed_chosen hfix)
    (fun x => ?_)
  rewrite [interval_narrowed, single?_chosen_frameBits hc, interval_chosen,
    interval_keepLowestBits, chosenValue_keepLowestBits]
  cases x
  case sampleBits => exact narrowInterval_pinned_min hfix hc rfl _
  case channels => exact narrowInterval_pinned_min hfix hc rfl _
  case rate => exact narrowInterval_pinned_min hfix hc rfl _
  case periods => exact narrowInterval_pinned_min hfix hc rfl _
  case periodBytes =>
    rcases r.interval .periodBytes with _ | ri
    · rfl
    · simp only [chosenValue, Option.map_some, pinTo_some,
        narrowInterval_of_rangeBound c (x := .periodBytes) rfl]
      rw [Interval.clampTo_setInteger ri (by simpa using hpb₁) (by simpa using hpb₂)]
  case periodSize =>
    rcases r.interval .periodSize with _ | ri
    · rfl
    · simp only [chosenValue, Option.map_some, pinTo_some, narrowInterval_periodSize]
      split_ifs with h8
      · obtain ⟨hlo, hhi⟩ := hps (by simpa using h8)
        rw [Interval.clampTo_setInteger ri (by simpa using hlo) (by simpa using hhi)]
      · rfl
  all_goals simp [Function.comp_def, narrowInterval, rangeBound]

/-- A chosen record that refining leaves without an empty parameter has a period that fits. -/
theorem fits_of_narrowed_chosen (hc : r.Consistent)
    (h : (c.narrowed (chosen (keepLowestBits r))).isEmpty = false) :
    c.PeriodFits (chosen (keepLowestBits r)) := by
  have hni := (HwParams.isEmpty_eq_false_iff.1 h).2
  obtain ⟨ri, hri⟩ := HwParams.exists_interval (p := r) (q := .periodBytes) rfl
  obtain ⟨rj, hrj⟩ := HwParams.exists_interval (p := r) (q := .periodSize) rfl
  unfold PeriodFits
  rw [min_chosen_keepLowestBits (x := .periodBytes) rfl,
    min_chosen_keepLowestBits (x := .frameBits) rfl,
    min_chosen_keepLowestBits (x := .periodSize) rfl]
  have hpb := hni .periodBytes
  simp only [interval_narrowed, interval_chosen, interval_keepLowestBits, hri,
    chosenValue, min_keepLowestBits, Option.map_some, pinTo_some,
    narrowInterval_of_rangeBound c (x := .periodBytes) rfl, Option.some.injEq,
    forall_eq'] at hpb
  obtain ⟨hpb₁, hpb₂⟩ := (Interval.isEmpty_clampTo_setInteger (hc _ _ hri) _ _ _).1 hpb
  refine ⟨hpb₁, hpb₂, fun h8 => ?_⟩
  have hps := hni .periodSize
  simp only [interval_narrowed, single?_chosen_frameBits hc, interval_chosen,
    interval_keepLowestBits, hrj, chosenValue, min_keepLowestBits,
    Option.map_some, pinTo_some, narrowInterval_periodSize, if_pos h8, Option.some.injEq,
    forall_eq'] at hps
  exact (Interval.isEmpty_clampTo_setInteger (hc _ _ hrj) _ _ _).1 hps

end Narrowed

/-! ## Choosing, refining the choice, and choosing again -/

section Choose

variable {c : Constraints} {p r : HwParams}

theorem refined_fixed (h : (c.refine p).admitted = true) :
    c.narrowed (c.refine p).params = (c.refine p).params ∧
      (c.refine p).params.isEmpty = false ∧ (c.refine p).params.rmask = 0 := by
  obtain ⟨hiff, hparams⟩ := refine_spec (c := c) (p := p)
  rw [hparams h]
  exact ⟨narrowed_rmask_of_fixed c (narrowed_narrowed c p) 0,
    (HwParams.isEmpty_rmask _ 0).trans (hiff.1 h), rfl⟩

theorem consistent_of_isEmpty (h : r.isEmpty = false) : r.Consistent :=
  (HwParams.isEmpty_eq_false_iff.1 h).2

theorem choose_eq_chosen (h : (c.choose p).admitted = true) :
    (c.refine p).admitted = true ∧
      c.choose p = ⟨chosen (keepLowestBits (c.refine p).params), true⟩ ∧
      ¬((keepLowestBits (c.refine p).params).min .rate = 0 ∨
        (keepLowestBits (c.refine p).params).min .periodSize = 0 ∨
        (keepLowestBits (c.refine p).params).min .periods = 0) := by
  have hr := refine_admitted_of_choose h
  rw [choose_of_admitted hr] at h ⊢
  have hz := pinLeast_admitted h
  exact ⟨hr, pinLeast_of_ne _ hz, hz⟩

theorem mask_chosen_lowest (hne : r.isEmpty = false) {x : Param} {m : Mask}
    (hm : r.mask x = some m) :
    ∃ b, m.first? = some b ∧ (chosen (keepLowestBits r)).mask x = some (m.setOnly b) ∧
      (m.setOnly b).members = [b] := by
  obtain ⟨b, hb⟩ := Mask.exists_first? ((HwParams.isEmpty_eq_false_iff.1 hne).1 x m hm)
  refine ⟨b, hb, ?_, Mask.members_setOnly (Mask.first?_eq_some_iff.1 hb).1 m⟩
  rw [mask_chosen, mask_keepLowestBits, hm, Option.map_some, Mask.lowest_of_first? hb]

theorem single?_chosen_keepLowestBits (hc : r.Consistent) {x : Param} {v : UInt32}
    (h : chosenValue r x = some v) : (chosen (keepLowestBits r)).single? x = some v :=
  single?_chosen (consistent_keepLowestBits _ hc) (by rw [chosenValue_keepLowestBits]; exact h)

/-- The least sample bits, channels, rate, period count and period size lie in the refined
intervals, and the chosen record is pinned to them. -/
theorem least_chosen (hc : r.Consistent) {x : Param}
    (hx : x ∈ [Param.sampleBits, .channels, .rate, .periods, .periodSize]) :
    ∃ i, r.interval x = some i ∧ (chosen (keepLowestBits r)).single? x = some i.min ∧
      i.min ≤ i.max := by
  have hmask : x.isMask = false := by
    simp only [List.mem_cons, List.not_mem_nil, or_false] at hx
    rcases hx with rfl | rfl | rfl | rfl | rfl <;> rfl
  obtain ⟨i, hi⟩ := HwParams.exists_interval (p := r) hmask
  have hv : chosenValue r x = some i.min := by
    simp only [List.mem_cons, List.not_mem_nil, or_false] at hx
    rcases hx with rfl | rfl | rfl | rfl | rfl <;> simp [chosenValue, HwParams.min, hi]
  have hle : i.min ≤ i.max := by
    have := hc x i hi
    simp only [Interval.isEmpty, Bool.or_eq_false_iff, decide_eq_false_iff_not] at this
    exact UInt32.not_lt.1 this.2
  exact ⟨i, hi, single?_chosen_keepLowestBits hc hv, hle⟩

theorem isEmpty_chosen (hne : r.isEmpty = false) :
    (chosen (keepLowestBits r)).isEmpty = false := by
  have hr := HwParams.isEmpty_eq_false_iff.1 hne
  refine HwParams.isEmpty_eq_false_iff.2 ⟨fun x m hm => ?_, consistent_chosen
    (consistent_keepLowestBits _ hr.2)⟩
  rw [mask_chosen, mask_keepLowestBits, Option.map_eq_some_iff] at hm
  obtain ⟨m', hm', rfl⟩ := hm
  exact Mask.isEmpty_lowest (hr.1 x m' hm')

/-- Refining a refined record's choice admits it exactly when its period fits, and then
answers it unchanged. -/
theorem refine_chosen (hfix : c.narrowed r = r) (hne : r.isEmpty = false) (hr0 : r.rmask = 0) :
    ((c.refine (chosen (keepLowestBits r))).admitted = true ↔
        c.PeriodFits (chosen (keepLowestBits r))) ∧
      (c.PeriodFits (chosen (keepLowestBits r)) →
        c.refine (chosen (keepLowestBits r)) = ⟨chosen (keepLowestBits r), true⟩) := by
  have hc := consistent_of_isEmpty hne
  obtain ⟨hiff, hparams⟩ := refine_spec (c := c) (p := chosen (keepLowestBits r))
  have hadm : c.PeriodFits (chosen (keepLowestBits r)) →
      (c.refine (chosen (keepLowestBits r))).admitted = true := fun hfits => by
    rw [hiff, narrowed_chosen_of_fits hfix hc hfits]
    exact isEmpty_chosen hne
  refine ⟨⟨fun h => fits_of_narrowed_chosen hc (hiff.1 h), hadm⟩, fun hfits => ?_⟩
  have hq0 : (chosen (keepLowestBits r)).rmask = 0 := by
    rw [rmask_chosen, (reshapes_keepLowestBits r).rmask_eq, hr0]
  have hpar := hparams (hadm hfits)
  rw [narrowed_chosen_of_fits hfix hc hfits, HwParams.rmask_update_of_eq _ hq0] at hpar
  exact Applied.eq_mk hpar (hadm hfits)

theorem choose_chosen
    (hr : c.refine (chosen (keepLowestBits r)) = ⟨chosen (keepLowestBits r), true⟩)
    (hz : ¬((keepLowestBits r).min .rate = 0 ∨ (keepLowestBits r).min .periodSize = 0 ∨
      (keepLowestBits r).min .periods = 0)) :
    c.choose (chosen (keepLowestBits r)) = ⟨chosen (keepLowestBits r), true⟩ := by
  have hlow : ∀ x m, (chosen (keepLowestBits r)).mask x = some m → m.lowest = m := by
    intro x m hm
    rw [mask_chosen, mask_keepLowestBits, Option.map_eq_some_iff] at hm
    obtain ⟨m', -, rfl⟩ := hm
    exact Mask.lowest_lowest m'
  rw [choose_of_admitted (by rw [hr]), hr, keepLowestBits_of_lowest hlow, pinLeast_chosen hz]

end Choose

/-- Choosing pins the lowest mask bits and least intervals of the refined request and what follows
from them; refining or choosing the choice again admits it exactly when its period fits. -/
theorem choose_pins_one_point (c : Constraints) (p q : HwParams)
    (h : c.choose p = ⟨q, true⟩) :
    (c.refine p).admitted = true ∧
      (∀ x m, (c.refine p).params.mask x = some m →
        ∃ b, m.first? = some b ∧ q.mask x = some (m.setOnly b) ∧
          (m.setOnly b).members = [b]) ∧
      (∀ x ∈ [Param.sampleBits, .channels, .rate, .periods, .periodSize], ∃ i,
        (c.refine p).params.interval x = some i ∧ q.single? x = some i.min ∧
          i.min ≤ i.max) ∧
      (∀ x v, chosenValue (c.refine p).params x = some v → q.single? x = some v) ∧
      ((c.refine q).admitted = true ↔ c.PeriodFits q) ∧
      ((c.choose q).admitted = true ↔ c.PeriodFits q) ∧
      (c.PeriodFits q → c.refine q = ⟨q, true⟩ ∧ c.choose q = ⟨q, true⟩) := by
  have hadm : (c.choose p).admitted = true := by rw [h]
  obtain ⟨hr, hq, hz⟩ := choose_eq_chosen hadm
  obtain ⟨hfix, hne, hr0⟩ := refined_fixed hr
  rw [h, Applied.mk.injEq] at hq
  obtain ⟨rfl, -⟩ := hq
  have hc := consistent_of_isEmpty hne
  obtain ⟨hrefine, hback⟩ := refine_chosen hfix hne hr0
  have hchoose : (c.choose (chosen (keepLowestBits (c.refine p).params))).admitted = true ↔
      c.PeriodFits (chosen (keepLowestBits (c.refine p).params)) :=
    ⟨fun hc' => hrefine.1 (refine_admitted_of_choose hc'),
      fun hfits => by rw [choose_chosen (hback hfits) hz]⟩
  exact ⟨hr, fun x m hm => mask_chosen_lowest hne hm, fun x hx => least_chosen hc hx,
    fun x v hv => single?_chosen_keepLowestBits hc hv, hrefine, hchoose,
    fun hfits => ⟨hback hfits, choose_chosen (hback hfits) hz⟩⟩

/-- A device with interleaved read/write access, 16- and 32-bit little-endian samples, 1 to
8 channels, 8 to 192 kHz and 2 to 16 periods of 1 KiB to 64 KiB. -/
def interleavedDevice : Constraints :=
  { access := 8, format := 1028, bitWidth := ⟨16, 32⟩, channels := ⟨1, 8⟩,
    rate := ⟨8000, 192000⟩, periods := ⟨2, 16⟩, periodBytes := ⟨1024, 65536⟩ }

/-- The default stream's request, with two periods of 1024 frames. -/
def twoPeriodRequest : HwParams := HwParams.ofConfig { periodCount := 2 } {}

/-- Choosing once for the two-period request settles it: choosing from the choice gives it
back. -/
theorem two_period_request_chosen_again :
    interleavedDevice.choose twoPeriodRequest =
        ⟨(interleavedDevice.choose twoPeriodRequest).params, true⟩ ∧
      interleavedDevice.choose (interleavedDevice.choose twoPeriodRequest).params =
        ⟨(interleavedDevice.choose twoPeriodRequest).params, true⟩ :=
  have h : interleavedDevice.choose twoPeriodRequest =
      ⟨(interleavedDevice.choose twoPeriodRequest).params, true⟩ := by
    decide
  ⟨h, ((choose_pins_one_point _ _ _ h).2.2.2.2.2.2 (by decide)).2⟩

/-- A request for periods of at least 2^31 frames, before the frame width is known. -/
def hugePeriodRequest : HwParams := HwParams.any.setMin .periodSize 2147483648

/-- A 16-bit mono period of 2^32 bytes saturates its period bytes far above the refined range,
so refining or choosing the choice again refuses it. -/
theorem huge_period_choice_refused_again :
    (interleavedDevice.choose hugePeriodRequest).admitted = true ∧
      (interleavedDevice.refine hugePeriodRequest).params.max .periodBytes = 65536 ∧
      (interleavedDevice.choose hugePeriodRequest).params.single? .periodBytes =
        some 536870911 ∧
      (interleavedDevice.refine (interleavedDevice.choose hugePeriodRequest).params).admitted =
        false ∧
      (interleavedDevice.choose (interleavedDevice.choose hugePeriodRequest).params).admitted =
        false := by
  decide

end Constraints

end SoundCard.Hw
