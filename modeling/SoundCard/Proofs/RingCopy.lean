import Mathlib
import SoundCard.Proofs.FramePlacement
/-! Copies through the data area at any offset: at most two pieces, no byte covered twice. -/
namespace SoundCard.Pcm

theorem ring_piece {T s m j : Nat} (hs : s < T) (hm : m ≤ T) (hj : j < m) :
    (j < min (T - s) m ∧ (s + j) % T = s + j) ∨
      (T - s ≤ j ∧ (s + j) % T = j - (T - s)) := by
  by_cases hlt : s + j < T
  · exact .inl ⟨by omega, Nat.mod_eq_of_lt hlt⟩
  · refine .inr ⟨by omega, ?_⟩
    rw [Nat.mod_eq_sub_mod (by omega), Nat.mod_eq_of_lt (by omega)]
    omega

/-! ## Writing -/

section Write

variable {area src : ByteArray} {o p j : Nat}

theorem areaWrite_count : (areaWrite area o src).2 = min src.size area.size := by
  unfold areaWrite
  dsimp only
  split
  · next hempty => omega
  · rfl

private theorem size_firstPiece (src : ByteArray) {s : Nat} (hs : s < area.size) :
    (src.copySlice 0 area s (min (area.size - s) (min src.size area.size))).size = area.size :=
  size_copySlice_of_le (by omega) (by omega)

theorem size_areaWrite : (areaWrite area o src).1.size = area.size := by
  unfold areaWrite
  dsimp only
  split
  · rfl
  · next hsome =>
    have hs := Nat.mod_lt o (show 0 < area.size by omega)
    rw [size_copySlice_of_le (by rw [size_firstPiece src hs]; omega) (by omega),
      size_firstPiece src hs]

/-- Byte `p` of the area after a write: the second piece covers the bytes from 0 up, the first
those from the start byte up to the end of the area, and the other bytes keep their value. -/
theorem getElem!_areaWrite (hp : p < area.size) :
    (areaWrite area o src).1[p]! =
      if p < min src.size area.size - (area.size - o % area.size) then
        src[area.size - o % area.size + p]!
      else if o % area.size ≤ p ∧ p < o % area.size + min src.size area.size then
        src[p - o % area.size]!
      else area[p]! := by
  unfold areaWrite
  dsimp only
  split
  · next hempty => rw [if_neg (by omega), if_neg (by omega)]
  · next hsome =>
    have hs := Nat.mod_lt o (show 0 < area.size by omega)
    have hfirst := size_firstPiece src hs
    generalize o % area.size = s at hs hfirst ⊢
    rw [getElem!_copySlice (by rw [hfirst]; omega) (by omega) (by rw [hfirst]; exact hp),
      getElem!_copySlice (by omega) (by omega) hp]
    split_ifs <;> first | omega | (congr 1 <;> omega)

theorem areaWrite_places (hj : j < min src.size area.size) :
    (areaWrite area o src).1[(o + j) % area.size]! = src[j]! := by
  have hT : 0 < area.size := by omega
  rw [getElem!_areaWrite (Nat.mod_lt _ hT), ← Nat.mod_add_mod o area.size j]
  have hs := Nat.mod_lt o hT
  generalize o % area.size = s at hs ⊢
  rcases ring_piece hs (Nat.min_le_right _ _) hj with ⟨hfirst, hpos⟩ | ⟨hsecond, hpos⟩
  · rw [hpos, if_neg (by omega), if_pos (by omega)]
    congr 1
    omega
  · rw [hpos, if_pos (by omega)]
    congr 1
    omega

/-- A byte that no byte of the source lands on keeps its value. -/
theorem areaWrite_keeps (hp : p < area.size)
    (hout : ∀ j < min src.size area.size, (o + j) % area.size ≠ p) :
    (areaWrite area o src).1[p]! = area[p]! := by
  have hs := Nat.mod_lt o (show 0 < area.size by omega)
  rw [getElem!_areaWrite hp]
  split_ifs with hsecond hfirst
  · refine absurd ?_ (hout (area.size - o % area.size + p) (by omega))
    rw [← Nat.mod_add_mod,
      show o % area.size + (area.size - o % area.size + p) = p + area.size by omega,
      Nat.add_mod_right, Nat.mod_eq_of_lt hp]
  · refine absurd ?_ (hout (p - o % area.size) (by omega))
    rw [← Nat.mod_add_mod, show o % area.size + (p - o % area.size) = p by omega,
      Nat.mod_eq_of_lt hp]
  · rfl

end Write

/-! ## Reading -/

section Read

variable {area dst : ByteArray} {o j : Nat}

theorem areaRead_count : (areaRead area o dst).2 = min dst.size area.size := by
  unfold areaRead
  dsimp only
  split
  · next hempty => omega
  · rfl

private theorem size_firstReadPiece (dst : ByteArray) {s : Nat} (hs : s < area.size) :
    (area.copySlice s dst 0 (min (area.size - s) (min dst.size area.size))).size = dst.size :=
  size_copySlice_of_le (by omega) (by omega)

theorem size_areaRead : (areaRead area o dst).1.size = dst.size := by
  unfold areaRead
  dsimp only
  split
  · rfl
  · next hsome =>
    have hs := Nat.mod_lt o (show 0 < area.size by omega)
    rw [size_copySlice_of_le (by rw [size_firstReadPiece dst hs]; omega) (by omega),
      size_firstReadPiece dst hs]

/-- Byte `j` of the buffer after a read: the first piece fills it from the start byte up to the
end of the area, the second from byte 0 on, and the bytes past the copy keep their value. -/
theorem getElem!_areaRead (hj : j < dst.size) :
    (areaRead area o dst).1[j]! =
      if j < min (area.size - o % area.size) (min dst.size area.size) then
        area[o % area.size + j]!
      else if j < min dst.size area.size then area[j - (area.size - o % area.size)]!
      else dst[j]! := by
  unfold areaRead
  dsimp only
  split
  · next hempty => rw [if_neg (by omega), if_neg (by omega)]
  · next hsome =>
    have hs := Nat.mod_lt o (show 0 < area.size by omega)
    have hfirst := size_firstReadPiece dst hs
    generalize o % area.size = s at hs hfirst ⊢
    rw [getElem!_copySlice (by rw [hfirst]; omega) (by omega) (by rw [hfirst]; exact hj),
      getElem!_copySlice (by omega) (by omega) hj]
    split_ifs <;> first | omega | (congr 1 <;> omega)

theorem areaRead_takes (hj : j < min dst.size area.size) :
    (areaRead area o dst).1[j]! = area[(o + j) % area.size]! := by
  have hT : 0 < area.size := by omega
  rw [getElem!_areaRead (by omega), ← Nat.mod_add_mod o area.size j]
  have hs := Nat.mod_lt o hT
  generalize o % area.size = s at hs ⊢
  rcases ring_piece hs (Nat.min_le_right _ _) hj with ⟨hfirst, hpos⟩ | ⟨hsecond, hpos⟩
  · rw [hpos, if_pos hfirst]
  · rw [hpos, if_neg (by omega), if_pos hj]

theorem areaRead_keeps (hj : j < dst.size) (hm : min dst.size area.size ≤ j) :
    (areaRead area o dst).1[j]! = dst[j]! := by
  rw [getElem!_areaRead hj, if_neg (by omega), if_neg (by omega)]

end Read

theorem areaRead_areaWrite {area src dst : ByteArray} {o : Nat} (hfit : src.size ≤ area.size)
    (hdst : dst.size = src.size) : (areaRead (areaWrite area o src).1 o dst).1 = src := by
  apply ext_getElem! (by rw [size_areaRead, hdst])
  intro j hj
  rw [size_areaRead] at hj
  have hm : j < min dst.size (areaWrite area o src).1.size := by
    rw [size_areaWrite]
    omega
  rw [areaRead_takes hm, size_areaWrite, areaWrite_places (by omega)]

/-- A copy moves byte `j` to or from byte `(o + j) % size` of the area and touches nothing else;
reading back a write that fitted gives the written bytes. -/
theorem area_copies_wrap (area src dst : ByteArray) (o : Nat) :
    (areaWrite area o src).2 = min src.size area.size ∧
      (areaWrite area o src).1.size = area.size ∧
      (∀ j < min src.size area.size, (areaWrite area o src).1[(o + j) % area.size]! = src[j]!) ∧
      (∀ p < area.size, (∀ j < min src.size area.size, (o + j) % area.size ≠ p) →
        (areaWrite area o src).1[p]! = area[p]!) ∧
      (areaRead area o dst).2 = min dst.size area.size ∧
      (areaRead area o dst).1.size = dst.size ∧
      (∀ j < min dst.size area.size, (areaRead area o dst).1[j]! = area[(o + j) % area.size]!) ∧
      (∀ j < dst.size, min dst.size area.size ≤ j → (areaRead area o dst).1[j]! = dst[j]!) ∧
      (src.size ≤ area.size → dst.size = src.size →
        (areaRead (areaWrite area o src).1 o dst).1 = src) :=
  ⟨areaWrite_count, size_areaWrite, fun _ hj => areaWrite_places hj,
    fun _ hp hout => areaWrite_keeps hp hout, areaRead_count, size_areaRead,
    fun _ hj => areaRead_takes hj, fun _ hj hm => areaRead_keeps hj hm,
    fun hfit hdst => areaRead_areaWrite hfit hdst⟩

example :
    (areaWrite ⟨Array.replicate 8 0⟩ 6 ⟨#[1, 2, 3, 4]⟩).1 = ⟨#[3, 4, 0, 0, 0, 0, 1, 2]⟩ := by
  decide

/-- Four bytes written at byte 6 of an area of 8, wrapping past its end, read back at byte 6. -/
theorem wrapped_write_reads_back :
    (areaRead (areaWrite ⟨Array.replicate 8 0⟩ 6 ⟨#[1, 2, 3, 4]⟩).1 6 ⟨#[0, 0, 0, 0]⟩).1 =
      ⟨#[1, 2, 3, 4]⟩ :=
  (area_copies_wrap _ _ ⟨#[0, 0, 0, 0]⟩ 6).2.2.2.2.2.2.2.2 (by decide) rfl

end SoundCard.Pcm
