import Mathlib
import SoundCard.Pcm.Pointer
/-! Free space read from wrapped pointers: the true free space modulo the boundary, which is the
free space itself whenever it is below the boundary. -/
namespace SoundCard.Pcm

open SoundCard.Os

/-! ## The boundary -/

theorem growBoundary_spec (bs b : Nat) (hb : 0 < b) (hdvd : bs ∣ b) (hle : bs ≤ b) :
    bs ∣ growBoundary bs b hb ∧ b ≤ growBoundary bs b hb ∧
      (growBoundary bs b hb = b ∨ growBoundary bs b hb + bs ≤ boundaryLimit) ∧
      boundaryLimit - bs < 2 * growBoundary bs b hb := by
  fun_induction growBoundary bs b hb with
  | case1 b hb hgrow ih =>
    obtain ⟨hdvd', hle', hroom, hstop⟩ := ih (Dvd.dvd.mul_left hdvd 2) (by omega)
    refine ⟨hdvd', by omega, Or.inr ?_, hstop⟩
    rcases hroom with h | h
    · unfold boundaryLimit at *
      omega
    · exact h
  | case2 b hb hstop => exact ⟨hdvd, le_rfl, Or.inl rfl, by omega⟩

theorem computeBoundary_spec {bs : Nat} (hbs : 0 < bs) :
    bs ∣ computeBoundary bs ∧ bs ≤ computeBoundary bs ∧
      (computeBoundary bs = bs ∨ computeBoundary bs + bs ≤ boundaryLimit) ∧
      boundaryLimit - bs < 2 * computeBoundary bs := by
  unfold computeBoundary
  rw [dif_neg (by omega)]
  exact growBoundary_spec bs bs _ dvd_rfl le_rfl

theorem computeBoundary_le {bs : Nat} (hbs : 0 < bs) (hmax : bs ≤ boundaryLimit) :
    computeBoundary bs ≤ boundaryLimit := by
  rcases (computeBoundary_spec hbs).2.2.1 with h | h <;> omega

private theorem eq_of_dvd_of_lt_two_mul {bs B : Nat} (hdvd : bs ∣ B) (hle : bs ≤ B)
    (hlt : B < 2 * bs) : B = bs := by
  obtain ⟨k, rfl⟩ := hdvd
  have hk2 : k < 2 := by
    by_contra hk2
    have : bs * 2 ≤ bs * k := Nat.mul_le_mul_left bs (by omega)
    omega
  interval_cases k <;> omega

theorem two_mul_le_computeBoundary_iff {bs : Nat} (hbs : 0 < bs) :
    2 * bs ≤ computeBoundary bs ↔ 3 * bs ≤ boundaryLimit := by
  obtain ⟨hdvd, hle, hroom, hstop⟩ := computeBoundary_spec hbs
  constructor
  · intro h2
    rcases hroom with h | h <;> omega
  · intro h3
    by_contra hlt
    have := eq_of_dvd_of_lt_two_mul hdvd hle (by omega)
    omega

theorem computeBoundary_eq_self {bs : Nat} (hbs : 0 < bs) (hbig : boundaryLimit < 3 * bs) :
    computeBoundary bs = bs := by
  obtain ⟨hdvd, hle, -, -⟩ := computeBoundary_spec hbs
  have hlt : ¬2 * bs ≤ computeBoundary bs := fun h =>
    absurd ((two_mul_le_computeBoundary_iff hbs).1 h) (by omega)
  exact eq_of_dvd_of_lt_two_mul hdvd hle (by omega)

/-- Doubling from `b` reaches `b * 2 ^ k`, where each of the `k` doublings stayed within the
limit less one buffer and one more would not. -/
theorem growBoundary_eq_mul_pow (bs b : Nat) (hb : 0 < b) :
    ∃ k, growBoundary bs b hb = b * 2 ^ k ∧
      (∀ i, 0 < i → i ≤ k → b * 2 ^ i ≤ boundaryLimit - bs) ∧
      boundaryLimit - bs < b * 2 ^ (k + 1) := by
  fun_induction growBoundary bs b hb with
  | case1 b hb hgrow ih =>
    obtain ⟨k, heq, hfit, hnext⟩ := ih
    have hshift : ∀ i, b * 2 ^ (i + 1) = 2 * b * 2 ^ i := fun i => by ring
    refine ⟨k + 1, by rw [heq, hshift], fun i hi hik => ?_, by rwa [hshift]⟩
    match i, hi with
    | 1, _ => rwa [hshift 0, pow_zero, Nat.mul_one]
    | j + 2, _ =>
      rw [hshift (j + 1)]
      exact hfit (j + 1) (by omega) (by omega)
  | case2 b hb hstop =>
    refine ⟨0, by rw [pow_zero, Nat.mul_one], fun i hi hik => by omega, ?_⟩
    rw [zero_add, pow_one]
    omega

theorem boundaryOf_of_lt {bs : Nat} (h : bs < 2 ^ 63) :
    boundaryOf bs = .ok (computeBoundary bs) := by
  unfold boundaryOf wordRange
  rw [if_neg (by omega)]
  rfl

/-- Below 2^63 frames the boundary is computed without stopping the program: 0 for no buffer,
else the buffer doubled as often as one more buffer still fits below the limit. -/
theorem boundary_largest_doubling {bs : Nat} (hword : bs < 2 ^ 63) :
    boundaryOf bs = .ok (computeBoundary bs) ∧ (bs = 0 → computeBoundary bs = 0) ∧
      (0 < bs → ∃ k, computeBoundary bs = bs * 2 ^ k ∧
        (k = 0 ∨ bs * 2 ^ k ≤ boundaryLimit - bs) ∧
        (∀ j, (j = 0 ∨ bs * 2 ^ j ≤ boundaryLimit - bs) → j ≤ k) ∧
        bs ∣ computeBoundary bs ∧ computeBoundary bs / bs = 2 ^ k ∧
        boundaryLimit - bs < 2 * computeBoundary bs ∧
        (bs ≤ boundaryLimit → computeBoundary bs ≤ boundaryLimit) ∧
        (2 * bs ≤ computeBoundary bs ↔ 3 * bs ≤ boundaryLimit)) := by
  refine ⟨boundaryOf_of_lt hword, fun h => by rw [h]; rfl, fun hbs => ?_⟩
  obtain ⟨hdvd, -, -, hstop⟩ := computeBoundary_spec hbs
  obtain ⟨k, heq, hfit, hnext⟩ := growBoundary_eq_mul_pow bs bs hbs
  have hB : computeBoundary bs = bs * 2 ^ k := by
    rw [computeBoundary, dif_neg (by omega), heq]
  have hmax : ∀ j, (j = 0 ∨ bs * 2 ^ j ≤ boundaryLimit - bs) → j ≤ k := by
    rintro j (rfl | hj)
    · exact Nat.zero_le k
    · by_contra hlt
      have hpow : bs * 2 ^ (k + 1) ≤ bs * 2 ^ j :=
        Nat.mul_le_mul_left bs (Nat.pow_le_pow_right (by norm_num) (by omega))
      omega
  refine ⟨k, hB, ?_, hmax, hdvd, ?_, hstop, computeBoundary_le hbs,
    two_mul_le_computeBoundary_iff hbs⟩
  · rcases Nat.eq_zero_or_pos k with hk | hk
    · exact .inl hk
    · exact .inr (hfit k hk le_rfl)
  · rw [hB, Nat.mul_div_cancel_left _ hbs]

/-- The boundary of a buffer of 3072 frames is a power-of-two multiple of it, at most the limit,
with twice it above the limit less one buffer. -/
theorem boundary_of_3072_frames :
    boundaryOf 3072 = .ok (computeBoundary 3072) ∧ 3072 ∣ computeBoundary 3072 ∧
      (∃ k, computeBoundary 3072 / 3072 = 2 ^ k) ∧
      boundaryLimit - 3072 < 2 * computeBoundary 3072 ∧ computeBoundary 3072 ≤ boundaryLimit := by
  obtain ⟨hok, -, hpos⟩ := @boundary_largest_doubling 3072 (by norm_num)
  obtain ⟨k, -, -, -, hdvd, hdiv, hstop, hle, -⟩ := hpos (by norm_num)
  exact ⟨hok, hdvd, ⟨k, hdiv⟩, hstop, hle (by unfold boundaryLimit; norm_num)⟩

/-! ## Free space from wrapped pointers -/

private theorem mod_of_lt_two_mul {y B : Nat} (h : y < 2 * B) :
    y % B = if B ≤ y then y - B else y := by
  split
  · rw [Nat.mod_eq_sub_mod ‹_›, Nat.mod_eq_of_lt (by omega)]
  · exact Nat.mod_eq_of_lt (by omega)

/-- With a boundary of at least one buffer and far from the top of a word, the wrapped free space
is the difference of the residues modulo the boundary. -/
theorem wrappedAvail_eq (playback : Bool) (h a bs B : UInt64) (hB : 0 < B.toNat)
    (hbs : bs.toNat ≤ B.toNat) (hword : B.toNat < 2 ^ 63) :
    wrappedAvail playback h a bs B =
      .ok (UInt64.ofNat ((h.toNat % B.toNat + (if playback then bs.toNat else 0) + B.toNat -
        a.toNat % B.toNat) % B.toNat)) := by
  have hB0 : B ≠ 0 := by
    rintro rfl
    simp at hB
  have hhw : (h % B).toNat < B.toNat := by
    rw [UInt64.toNat_mod]
    exact Nat.mod_lt _ hB
  have happl : (a % B).toNat < B.toNat := by
    rw [UInt64.toNat_mod]
    exact Nat.mod_lt _ hB
  rw [← UInt64.toNat_mod, ← UInt64.toNat_mod]
  unfold wrappedAvail addU64 addWord
  simp only [hB0, if_false]
  generalize h % B = hw at hhw ⊢
  generalize a % B = appl at happl ⊢
  have hsize : ∀ n, n < 2 ^ 64 → (UInt64.ofNat n).toNat = n := fun n hn =>
    UInt64.toNat_ofNat_of_lt' (by unfold UInt64.size; omega)
  cases playback
  · have hsum : hw.toNat + B.toNat < wordRange := by
      unfold wordRange
      omega
    simp only [Bool.false_eq_true, if_false, if_pos hsum, Nat.add_zero, pure_bind]
    by_cases hc : appl ≤ hw
    · have hle := UInt64.le_iff_toNat_le.1 hc
      have hmod : (hw.toNat + B.toNat - appl.toNat) % B.toNat = hw.toNat - appl.toNat := by
        rw [mod_of_lt_two_mul (by omega), if_pos (by omega)]
        omega
      rw [if_pos hc, hmod]
      refine congrArg Except.ok (UInt64.toNat_inj.1 ?_)
      rw [UInt64.toNat_sub_of_le _ _ hc, hsize _ (by omega)]
    · have hlt : hw.toNat < appl.toNat := by
        rw [UInt64.le_iff_toNat_le] at hc
        omega
      have hmod : (hw.toNat + B.toNat - appl.toNat) % B.toNat = hw.toNat + B.toNat - appl.toNat :=
        Nat.mod_eq_of_lt (by omega)
      rw [if_neg hc, hmod]
      refine congrArg Except.ok (UInt64.toNat_inj.1 ?_)
      rw [UInt64.toNat_sub_of_le _ _ (UInt64.le_iff_toNat_le.2 (by rw [hsize _ (by omega)]; omega)),
        hsize _ (by omega), hsize _ (by omega)]
  · have hsum : hw.toNat + bs.toNat < wordRange := by
      unfold wordRange
      omega
    have hs := hsize (hw.toNat + bs.toNat) (by omega)
    have hs2 : hw.toNat + bs.toNat < 2 * B.toNat := by omega
    simp only [if_true, if_pos hsum, pure_bind]
    generalize hw.toNat + bs.toNat = s at hs hsum hs2 ⊢
    by_cases hc : s < appl.toNat
    · have hlt : UInt64.ofNat s < appl := UInt64.lt_iff_toNat_lt.2 (by rw [hs]; exact hc)
      have hsB : s + B.toNat < wordRange := by
        unfold wordRange
        omega
      have hsub := UInt64.toNat_sub_of_le (UInt64.ofNat (s + B.toNat)) appl
        (UInt64.le_iff_toNat_le.2 (by rw [hsize _ (by omega)]; omega))
      rw [hsize _ (by omega)] at hsub
      have hnot : ¬B ≤ UInt64.ofNat (s + B.toNat) - appl := by
        rw [UInt64.le_iff_toNat_le, hsub]
        omega
      rw [if_pos hlt, UInt64.toNat_ofNat_of_lt' (by unfold UInt64.size; omega), if_pos hsB]
      simp only [pure_bind, ge_iff_le, if_neg hnot]
      refine congrArg Except.ok (UInt64.toNat_inj.1 ?_)
      rw [hsub, Nat.mod_eq_of_lt (by omega : s + B.toNat - appl.toNat < B.toNat),
        hsize _ (by omega)]
    · have hge : appl ≤ UInt64.ofNat s := UInt64.le_iff_toNat_le.2 (by rw [hs]; omega)
      have hsub := UInt64.toNat_sub_of_le _ _ hge
      rw [hs] at hsub
      have hmod : (s + B.toNat - appl.toNat) % B.toNat =
          if B.toNat ≤ s - appl.toNat then s - appl.toNat - B.toNat else s - appl.toNat := by
        rw [show s + B.toNat - appl.toNat = s - appl.toNat + B.toNat by omega, Nat.add_mod_right,
          mod_of_lt_two_mul (by omega)]
      rw [if_neg (fun h => hc (by rw [UInt64.lt_iff_toNat_lt, hs] at h; exact h)), hmod]
      refine congrArg Except.ok (UInt64.toNat_inj.1 ?_)
      by_cases hb : B.toNat ≤ s - appl.toNat
      · have hB' : B ≤ UInt64.ofNat s - appl := by
          rw [UInt64.le_iff_toNat_le, hsub]
          exact hb
        rw [if_pos hB', if_pos hb, UInt64.toNat_sub_of_le _ _ hB', hsub, hsize _ (by omega)]
      · have hB' : ¬B ≤ UInt64.ofNat s - appl := by
          rw [UInt64.le_iff_toNat_le, hsub]
          exact hb
        rw [if_neg hB', if_neg hb, hsub, hsize _ (by omega)]

theorem mod_residue_difference {B H A e : Nat} (hA : A ≤ H + e) :
    (H % B + e + B - A % B) % B = (H + e - A) % B := by
  have hAB : A % B ≤ H % B + e + B := by
    rcases Nat.eq_zero_or_pos B with rfl | hB
    · simpa using hA
    · have := Nat.mod_lt A hB
      omega
  have hsum : H % B + e + B - A % B + A ≡ H + e - A + A [MOD B] :=
    calc H % B + e + B - A % B + A
        ≡ H % B + e + B - A % B + A % B [MOD B] := Nat.ModEq.add_left _ (Nat.mod_modEq A B).symm
      _ = H % B + e + B := by omega
      _ ≡ H + e + 0 [MOD B] :=
          ((Nat.mod_modEq H B).add_right e).add (Nat.modEq_zero_iff_dvd.2 dvd_rfl)
      _ = H + e - A + A := by omega
  exact Nat.ModEq.add_right_cancel' A hsum

/-- Pointers that caught up, the hardware one at the application one for playback and a whole
device buffer `k` ahead for capture, leave the whole buffer free. -/
theorem wrappedAvail_caught (playback : Bool) {a k bs B : UInt64} (ha : a.toNat < 2 ^ 63)
    (hk : k.toNat < B.toNat) (hbs : bs.toNat < B.toNat) (hB : B.toNat < 2 ^ 63) :
    wrappedAvail playback (if playback then a else a + k) a bs B =
      .ok (if playback then bs else k) := by
  rw [wrappedAvail_eq _ _ _ _ _ (by omega) (by omega) hB]
  cases playback
  · have hsum : (a + k).toNat = a.toNat + k.toNat := by
      rw [UInt64.toNat_add, Nat.mod_eq_of_lt (by omega)]
    have h := mod_residue_difference (B := B.toNat) (H := (a + k).toNat) (A := a.toNat) (e := 0)
      (by omega)
    simp only [Bool.false_eq_true, if_false] at h ⊢
    rw [h, hsum, Nat.add_zero, Nat.add_sub_cancel_left, Nat.mod_eq_of_lt hk, UInt64.ofNat_toNat]
  · have h := mod_residue_difference (B := B.toNat) (H := a.toNat) (A := a.toNat) (e := bs.toNat)
      (by omega)
    simp only [if_true] at h ⊢
    rw [h, Nat.add_sub_cancel_left, Nat.mod_eq_of_lt hbs, UInt64.ofNat_toNat]

/-- For consistent pointers the wrapped count is the true free space modulo the boundary, and the
true free space exactly when that is below the boundary. -/
theorem wrappedAvail_of_consistent (playback : Bool) {bs H A : Nat} (h a : UInt64)
    (hbs : 0 < bs ∧ bs ≤ 2147483647)
    (hcons : if playback then H ≤ A ∧ A ≤ H + bs else A ≤ H ∧ H ≤ A + bs)
    (hh : h.toNat % computeBoundary bs = H % computeBoundary bs)
    (ha : a.toNat % computeBoundary bs = A % computeBoundary bs) :
    rawAvail playback H A bs = some (if playback then H + bs - A else H - A) ∧
      wrappedAvail playback h a (UInt64.ofNat bs) (UInt64.ofNat (computeBoundary bs)) =
        .ok (UInt64.ofNat ((if playback then H + bs - A else H - A) % computeBoundary bs)) ∧
      ((if playback then H + bs - A else H - A) % computeBoundary bs =
          (if playback then H + bs - A else H - A) ↔
        3 * bs ≤ boundaryLimit ∨ (if playback then H + bs - A else H - A) < bs) := by
  obtain ⟨hpos, hmax⟩ := hbs
  obtain ⟨-, hle, -, -⟩ := computeBoundary_spec hpos
  have hBle := computeBoundary_le hpos hmax
  unfold boundaryLimit at hBle
  have hBnat : (UInt64.ofNat (computeBoundary bs)).toNat = computeBoundary bs :=
    UInt64.toNat_ofNat_of_lt' (by unfold UInt64.size; omega)
  have hbsnat : (UInt64.ofNat bs).toNat = bs :=
    UInt64.toNat_ofNat_of_lt' (by unfold UInt64.size; omega)
  have hfree : (if playback then H + bs - A else H - A) =
      H + (if playback then bs else 0) - A := by
    cases playback <;> simp
  have hA : A ≤ H + (if playback then bs else 0) := by
    cases playback <;> simp at hcons ⊢ <;> omega
  have hn : H + (if playback then bs else 0) - A ≤ bs := by
    cases playback <;> simp at hcons ⊢ <;> omega
  rw [hfree]
  refine ⟨?_, ?_, ?_⟩
  · unfold rawAvail
    cases playback <;> simp at hcons ⊢ <;> omega
  · rw [wrappedAvail_eq _ _ _ _ _ (by omega) (by omega) (by omega), hBnat, hbsnat, hh, ha,
      mod_residue_difference hA]
  · rw [Nat.mod_eq_iff_lt (by omega)]
    constructor
    · intro hlt
      by_cases h3 : 3 * bs ≤ boundaryLimit
      · exact Or.inl h3
      · rw [computeBoundary_eq_self hpos (by omega)] at hlt
        exact Or.inr hlt
    · rintro (h3 | hlt)
      · have := (two_mul_le_computeBoundary_iff hpos).2 h3
        omega
      · omega

/-- At the least buffer size whose boundary is the buffer itself, a playback stream with its
whole buffer free reads a whole buffer unwrapped and nothing wrapped. -/
theorem wrapped_count_loses_free_buffer :
    rawAvail true 0 0 715827883 = some 715827883 ∧
      wrappedAvail true 0 0 715827883 715827883 = .ok 0 := by
  have hB : computeBoundary 715827883 = 715827883 :=
    computeBoundary_eq_self (by decide) (by unfold boundaryLimit; decide)
  obtain ⟨hraw, hwrapped, -⟩ :=
    @wrappedAvail_of_consistent true 715827883 0 0 0 0 ⟨by decide, by decide⟩ (by decide) rfl rfl
  rw [hB] at hwrapped
  exact ⟨hraw, hwrapped⟩

end SoundCard.Pcm
