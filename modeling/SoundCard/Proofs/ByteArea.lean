import Mathlib
import SoundCard.Control.Value
/-! Numbers and texts in the byte areas of the control records: a store reads back within the
area and leaves every byte outside its own. -/
namespace SoundCard.Control

theorem getD_set (l : List UInt8) (i j : Nat) (a d : UInt8) :
    (l.set i a).getD j d = if i = j ∧ i < l.length then a else l.getD j d := by
  simp only [List.getD_eq_getElem?_getD, List.getElem?_set]
  split_ifs <;> first | omega | simp_all

/-! ## Reading -/

theorem readLE_zero (area : List UInt8) (off : Nat) : readLE area off 0 = 0 := rfl

theorem readLE_succ (area : List UInt8) (off n : Nat) :
    readLE area off (n + 1) = (area.getD off 0).toNat + 256 * readLE area (off + 1) n := by
  unfold readLE
  rw [List.range_succ_eq_map, List.foldr_cons, List.foldr_map, Nat.add_zero]
  congr 2
  congr 1
  funext i acc
  rw [Nat.succ_eq_add_one, Nat.add_comm i 1, ← Nat.add_assoc]

theorem readLE_lt (area : List UInt8) (off n : Nat) : readLE area off n < 256 ^ n := by
  unfold readLE
  suffices h : ∀ l : List Nat,
      l.foldr (fun i acc => (area.getD (off + i) 0).toNat + 256 * acc) 0 < 256 ^ l.length by
    simpa using h (List.range n)
  intro l
  induction l with
  | nil => simp
  | cons i l ih =>
    have hb := (area.getD (off + i) 0).toNat_lt
    rw [List.foldr_cons, List.length_cons, pow_succ]
    generalize 256 ^ l.length = X at ih
    omega

theorem readLE_congr {a b : List UInt8} {off n : Nat}
    (h : ∀ i < n, a.getD (off + i) 0 = b.getD (off + i) 0) : readLE a off n = readLE b off n := by
  induction n generalizing off with
  | zero => rfl
  | succ n ih =>
    have h₀ : a.getD off 0 = b.getD off 0 := h 0 (Nat.succ_pos n)
    have hrest : readLE a (off + 1) n = readLE b (off + 1) n := by
      apply ih
      intro i hi
      rw [Nat.add_assoc, Nat.add_comm 1 i]
      exact h (i + 1) (by omega)
    rw [readLE_succ, readLE_succ, h₀, hrest]

theorem readLE_of_digits {area : List UInt8} {off n v : Nat}
    (h : ∀ i < n, area.getD (off + i) 0 = UInt8.ofNat (v / 256 ^ i)) :
    readLE area off n = v % 256 ^ n := by
  induction n generalizing off v with
  | zero => rw [readLE_zero, pow_zero, Nat.mod_one]
  | succ n ih =>
    have h₀ : (area.getD off 0).toNat = v % 256 := by
      simpa using congrArg UInt8.toNat (h 0 (Nat.succ_pos n))
    have hrest : readLE area (off + 1) n = v / 256 % 256 ^ n := by
      apply ih
      intro i hi
      rw [Nat.add_assoc, Nat.add_comm 1 i, Nat.div_div_eq_div_mul, ← pow_succ']
      exact h (i + 1) (by omega)
    rw [readLE_succ, h₀, hrest, pow_succ', Nat.mod_mul]

/-! ## Writing -/

theorem writeLE_succ (area : List UInt8) (off n v : Nat) :
    writeLE area off (n + 1) v = (writeLE area off n v).set (off + n) (UInt8.ofNat (v / 256 ^ n)) := by
  unfold writeLE
  rw [List.range_succ, List.foldl_append, List.foldl_cons, List.foldl_nil]
  rfl

@[simp] theorem length_writeLE (area : List UInt8) (off n v : Nat) :
    (writeLE area off n v).length = area.length := by
  induction n with
  | zero => rfl
  | succ n ih => rw [writeLE_succ, List.length_set, ih]

/-- A store changes the bytes it covers inside the area, to the digits of the number, and
no other byte. -/
theorem getD_writeLE (area : List UInt8) (off n v p : Nat) :
    (writeLE area off n v).getD p 0 =
      if off ≤ p ∧ p < off + n ∧ p < area.length then UInt8.ofNat (v / 256 ^ (p - off))
      else area.getD p 0 := by
  induction n with
  | zero =>
    rw [if_neg (by omega)]
    rfl
  | succ n ih =>
    rw [writeLE_succ, getD_set, length_writeLE, ih]
    by_cases hp : off + n = p
    · subst hp
      by_cases hlt : off + n < area.length
      · rw [if_pos ⟨rfl, hlt⟩, if_pos (by omega), Nat.add_sub_cancel_left]
      · rw [if_neg (by omega), if_neg (by omega), if_neg (by omega)]
    · rw [if_neg (by omega)]
      split_ifs <;> first | rfl | omega

theorem readLE_writeLE {area : List UInt8} {off n : Nat} (h : off + n ≤ area.length) (v : Nat) :
    readLE (writeLE area off n v) off n = v % 256 ^ n := by
  apply readLE_of_digits
  intro i hi
  rw [getD_writeLE, if_pos (by omega), Nat.add_sub_cancel_left]

theorem readLE_writeLE_of_disjoint {area : List UInt8} {off n off' n' : Nat}
    (h : off' + n' ≤ off ∨ off + n ≤ off') (v : Nat) :
    readLE (writeLE area off n v) off' n' = readLE area off' n' := by
  apply readLE_congr
  intro i hi
  rw [getD_writeLE, if_neg (by omega)]

/-! ## Words -/

theorem readI64_bounds (area : List UInt8) (off : Nat) :
    -9223372036854775808 ≤ readI64 area off ∧ readI64 area off < 9223372036854775808 := by
  have h : readLE area off 8 < 18446744073709551616 := readLE_lt area off 8
  have h63 : Nat.pow 2 (64 - 1) = 9223372036854775808 := rfl
  have h64 : Nat.pow 2 64 = 18446744073709551616 := rfl
  unfold readI64 toSigned
  rw [h63, h64]
  split <;> omega

namespace Entry

theorem wrap64_of_bounds {x : Int} (h₁ : -9223372036854775808 ≤ x)
    (h₂ : x < 9223372036854775808) : wrap64 x = x := by
  rw [wrap64, Int.bmod_def]
  simp only [Nat.cast_ofNat]
  split <;> omega

theorem wrap32_of_bounds {x : Int} (h₁ : -2147483648 ≤ x) (h₂ : x < 2147483648) :
    wrap32 x = x := by
  rw [wrap32, Int.bmod_def]
  simp only [Nat.cast_ofNat]
  split <;> omega

end Entry

theorem toSigned_ofSigned (x : Int) : toSigned 64 (ofSigned 64 x) = Entry.wrap64 x := by
  have h63 : Nat.pow 2 (64 - 1) = 9223372036854775808 := rfl
  have h64 : Nat.pow 2 64 = 18446744073709551616 := rfl
  unfold toSigned ofSigned Entry.wrap64
  rw [h63, h64, Int.bmod_def]
  simp only [Nat.cast_ofNat]
  split <;> split <;> omega

theorem ofSigned_lt (x : Int) : ofSigned 64 x < 18446744073709551616 := by
  have h64 : Nat.pow 2 64 = 18446744073709551616 := rfl
  unfold ofSigned
  rw [h64]
  omega

theorem readI64_writeI64 {area : List UInt8} {off : Nat} (h : off + 8 ≤ area.length) (x : Int) :
    readI64 (writeI64 area off x) off = Entry.wrap64 x := by
  have hlt : ofSigned 64 x < 256 ^ 8 := ofSigned_lt x
  unfold readI64 writeI64
  rw [readLE_writeLE h, Nat.mod_eq_of_lt hlt, toSigned_ofSigned]

theorem readU32_writeU32 {area : List UInt8} {off : Nat} (h : off + 4 ≤ area.length)
    (x : UInt32) : readU32 (writeU32 area off x) off = x := by
  have hlt : x.toNat < 256 ^ 4 := x.toNat_lt
  unfold readU32 writeU32
  rw [readLE_writeLE h, Nat.mod_eq_of_lt hlt]
  exact UInt32.ofNat_toNat

/-! ## Rows of slots -/

theorem slot_end_le {w j k : Nat} (h : j < k) : w * j + w ≤ w * k := by
  have hle := Nat.mul_le_mul_left w (Nat.succ_le_of_lt h)
  rwa [Nat.mul_succ] at hle

/-- Storing the items of `l` in consecutive slots of `w` bytes from slot `n`: each slot of the
row reads its item, and every other slot what it held. -/
theorem readLE_foldl_writeLE (w : Nat) (g : Int → Nat) (l : List Int) :
    ∀ (n : Nat) (area : List UInt8), w * (n + l.length) ≤ area.length → ∀ k,
      readLE ((l.zipIdx n).foldl (fun a p => writeLE a (w * p.2) w (g p.1)) area) (w * k) w =
        if n ≤ k ∧ k < n + l.length then g (l.getD (k - n) 0) % 256 ^ w
        else readLE area (w * k) w := by
  induction l with
  | nil =>
    intro n area _ k
    rw [if_neg (by simp)]
    rfl
  | cons x l ih =>
    intro n area hlen k
    have hrow : n + 1 + l.length = n + (x :: l).length := by
      rw [List.length_cons]
      omega
    have hlen' : w * (n + 1 + l.length) ≤ (writeLE area (w * n) w (g x)).length := by
      rwa [length_writeLE, hrow]
    have hslot : w * n + w ≤ area.length :=
      le_trans (slot_end_le (Nat.lt_succ_self n))
        (le_trans (Nat.mul_le_mul_left w (by simp)) hlen)
    rw [List.zipIdx_cons, List.foldl_cons, ih (n + 1) _ hlen' k]
    rcases Nat.lt_trichotomy k n with hk | rfl | hk
    · rw [if_neg (by omega), if_neg (by omega),
        readLE_writeLE_of_disjoint (Or.inl (slot_end_le hk))]
    · rw [if_neg (by omega), if_pos (by simp), Nat.sub_self, readLE_writeLE hslot]
      rfl
    · have hidx : k - n = k - (n + 1) + 1 := by omega
      rw [readLE_writeLE_of_disjoint (Or.inr (slot_end_le hk)), hidx, List.getD_cons_succ]
      simp only [List.length_cons]
      split_ifs <;> first | rfl | omega

/-! ## Text fields -/

@[simp] theorem length_fixedText (s : String) (width : Nat) (h : 0 < width) :
    (fixedText s width).length = width := by
  simp only [fixedText, List.length_append, List.length_take, List.length_replicate]
  omega

theorem getField_putField {area : List UInt8} {off n : Nat} (h : off ≤ area.length)
    {field : List UInt8} (hf : field.length = n) :
    getField (putField area off n field) off n = field := by
  have hpre : (area.take off).length = off := by simp [h]
  have hfield : field.take n ++ List.replicate (n - field.length) 0 = field := by
    rw [List.take_of_length_le (by omega), hf, Nat.sub_self, List.replicate_zero,
      List.append_nil]
  rw [getField, putField, hfield, List.append_assoc, List.drop_left' hpre, List.take_left' hf]

end SoundCard.Control
