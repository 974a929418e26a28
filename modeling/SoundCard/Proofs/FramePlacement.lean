import Mathlib
import SoundCard.Pcm.Area
/-! Where frames land in the data area: frame `i` of a transfer from slot `start` goes to slot
`(start + i) % bs`, and a run copy is the same as copying its frames one by one. -/
namespace SoundCard.Pcm

section Bytes

variable {src dest : ByteArray} {so d len j : Nat}

theorem ext_getElem! {a b : ByteArray} (h : a.size = b.size)
    (hj : ∀ j < a.size, a[j]! = b[j]!) : a = b :=
  ByteArray.ext_getElem h fun j h₁ h₂ => by
    rw [← getElem!_pos a j h₁, ← getElem!_pos b j h₂]
    exact hj j h₁

theorem size_copySlice_of_le (hd : d + len ≤ dest.size) (hs : so + len ≤ src.size) :
    (src.copySlice so dest d len).size = dest.size := by
  rw [ByteArray.copySlice_eq_append]
  simp only [ByteArray.size_append, ByteArray.size_extract, ByteArray.size_data]
  omega

/-- A copy of `len` bytes that fits both arrays replaces exactly the bytes it covers. -/
theorem getElem!_copySlice (hd : d + len ≤ dest.size) (hs : so + len ≤ src.size)
    (hj : j < dest.size) :
    (src.copySlice so dest d len)[j]! =
      if d ≤ j ∧ j < d + len then src[so + (j - d)]! else dest[j]! := by
  rw [getElem!_pos _ j (by rw [size_copySlice_of_le hd hs]; exact hj)]
  simp only [ByteArray.copySlice_eq_append]
  split
  · next hin =>
    rw [ByteArray.getElem_append_left (by simp; omega),
      ByteArray.getElem_append_right (by simp; omega), ByteArray.getElem_extract,
      getElem!_pos src _ (by omega)]
    congr 1
    simp only [ByteArray.size_extract]
    omega
  · next hout =>
    rw [getElem!_pos dest j hj]
    by_cases hlt : j < d
    · rw [ByteArray.getElem_append_left (by simp; omega),
        ByteArray.getElem_append_left (by simp; omega), ByteArray.getElem_extract]
      simp
    · rw [ByteArray.getElem_append_right (by simp; omega), ByteArray.getElem_extract]
      congr 1
      simp only [ByteArray.size_append, ByteArray.size_extract, ByteArray.size_data]
      omega

theorem copySlice_zero (hd : d ≤ dest.size) (hs : so ≤ src.size) :
    src.copySlice so dest d 0 = dest :=
  ext_getElem! (size_copySlice_of_le hd hs) fun j hj => by
    rw [getElem!_copySlice hd hs (by rwa [size_copySlice_of_le hd hs] at hj), if_neg (by omega)]

theorem getElem!_extract {a : ByteArray} {b e i : Nat} (hi : b + i < e) (he : e ≤ a.size) :
    (a.extract b e)[i]! = a[b + i]! := by
  rw [getElem!_pos _ i (by simp; omega), ByteArray.getElem_extract, getElem!_pos a _ (by omega)]

end Bytes

theorem areaWrite_within {area src : ByteArray} {off : Nat} (hfit : off + src.size ≤ area.size) :
    (areaWrite area off src).1 = src.copySlice 0 area off src.size := by
  unfold areaWrite
  dsimp only
  split
  · next hempty =>
    have : src.size = 0 := by omega
    rw [this, copySlice_zero (by omega) (by omega)]
  · next hsome =>
    have hoff : off % area.size = off := Nat.mod_eq_of_lt (by omega)
    simp only [hoff, Nat.min_eq_left (show src.size ≤ area.size by omega),
      Nat.min_eq_right (show src.size ≤ area.size - off by omega), Nat.sub_self]
    exact copySlice_zero (by rw [size_copySlice_of_le (by omega) (by omega)]; omega) le_rfl

theorem areaRead_within {area dst : ByteArray} {off : Nat} (hfit : off + dst.size ≤ area.size) :
    (areaRead area off dst).1 = area.copySlice off dst 0 dst.size := by
  unfold areaRead
  dsimp only
  split
  · next hempty =>
    have : dst.size = 0 := by omega
    rw [this, copySlice_zero (by omega) (by omega)]
  · next hsome =>
    have hoff : off % area.size = off := Nat.mod_eq_of_lt (by omega)
    simp only [hoff, Nat.min_eq_left (show dst.size ≤ area.size by omega),
      Nat.min_eq_right (show dst.size ≤ area.size - off by omega), Nat.sub_self]
    exact copySlice_zero (by rw [size_copySlice_of_le (by omega) (by omega)]) (by omega)



section Slots

variable {fb bs j : Nat}

theorem mul_le_iff_le_div (hfb : 0 < fb) {a : Nat} : a * fb ≤ j ↔ a ≤ j / fb :=
  (Nat.le_div_iff_mul_le hfb).symm

theorem lt_mul_iff_div_lt (hfb : 0 < fb) {a : Nat} : j < a * fb ↔ j / fb < a :=
  (Nat.div_lt_iff_lt_mul hfb).symm

theorem add_mod_of_run (a k : Nat) (ho : a % bs + k < bs) : (a + k) % bs = a % bs + k := by
  rw [← Nat.mod_add_mod, Nat.mod_eq_of_lt ho]

end Slots

/-- The last of the frames `0, …, n - 1` that lands in slot `slot`, when frame `i` goes to
slot `(start + i) % bs`. -/
def lastFrameIn (bs start slot : Nat) : Nat → Option Nat
  | 0 => none
  | i + 1 => if (start + i) % bs = slot then some i else lastFrameIn bs start slot i

section LastFrame

variable {bs start slot n i : Nat}

theorem lastFrameIn_eq_none_iff :
    lastFrameIn bs start slot n = none ↔ ∀ k < n, (start + k) % bs ≠ slot := by
  induction n with
  | zero => simp [lastFrameIn]
  | succ n ih =>
    rw [lastFrameIn]
    split
    · next h => simp only [reduceCtorEq, false_iff, not_forall, not_not]; exact ⟨n, by omega, h⟩
    · next h =>
      rw [ih]
      constructor
      · intro hk k hk'
        rcases Nat.lt_succ_iff_lt_or_eq.1 hk' with hk' | rfl
        · exact hk k hk'
        · exact h
      · exact fun hk k hk' => hk k (by omega)

theorem lastFrameIn_eq_some_iff :
    lastFrameIn bs start slot n = some i ↔ IsGreatest {k | k < n ∧ (start + k) % bs = slot} i := by
  induction n with
  | zero => simp [lastFrameIn, IsGreatest]
  | succ n ih =>
    rw [lastFrameIn]
    split
    · next h =>
      simp only [Option.some.injEq]
      constructor
      · rintro rfl
        exact ⟨⟨by omega, h⟩, fun k hk => by
          have h1 : k < n + 1 := hk.1
          omega⟩
      · intro hg
        have hle := hg.2 (show n ∈ {k | k < n + 1 ∧ (start + k) % bs = slot} from ⟨by omega, h⟩)
        have := hg.1.1
        omega
    · next h =>
      rw [ih]
      constructor
      · intro hg
        refine ⟨⟨by have := hg.1.1; omega, hg.1.2⟩, fun k hk => ?_⟩
        rcases Nat.lt_succ_iff_lt_or_eq.1 hk.1 with hk' | rfl
        · exact hg.2 ⟨hk', hk.2⟩
        · exact absurd hk.2 h
      · intro hg
        refine ⟨⟨?_, hg.1.2⟩, fun k hk => hg.2 ⟨by have := hk.1; omega, hk.2⟩⟩
        rcases Nat.lt_succ_iff_lt_or_eq.1 hg.1.1 with hk' | heq
        · exact hk'
        · exact absurd (heq ▸ hg.1.2) h

/-- A run of `k` frames from frame `done` on that does not pass the end of the ring is the last
to reach each slot it covers, and leaves the other slots as they were. -/
theorem lastFrameIn_run {done k : Nat} (hrun : (start + done) % bs + k ≤ bs) :
    lastFrameIn bs start slot (done + k) =
      if (start + done) % bs ≤ slot ∧ slot < (start + done) % bs + k then
        some (done + (slot - (start + done) % bs))
      else lastFrameIn bs start slot done := by
  induction k with
  | zero => simp
  | succ k ih =>
    rw [← Nat.add_assoc, lastFrameIn, ih (by omega), ← Nat.add_assoc,
      add_mod_of_run (start + done) k (by omega)]
    by_cases hs : (start + done) % bs + k = slot
    · rw [if_pos hs, if_pos (by omega)]
      congr 1
      omega
    · rw [if_neg hs]
      split_ifs <;> first | rfl | omega

end LastFrame

/-- The area after frames `0, …, n - 1` of `data`, `fb` bytes each, were copied one by one
into slots `start, start + 1, …` of a ring of `bs` slots. -/
def placeFrames (fb bs start : Nat) (data area : ByteArray) : Nat → ByteArray
  | 0 => area
  | i + 1 =>
    data.copySlice (i * fb) (placeFrames fb bs start data area i) ((start + i) % bs * fb) fb

section Place

variable {fb bs start n j : Nat} {data area : ByteArray}

theorem slot_succ_mul_le (hbs : 0 < bs) (a : Nat) : (a % bs) * fb + fb ≤ bs * fb := by
  have := Nat.mul_le_mul_right fb (Nat.mod_lt a hbs)
  rw [Nat.succ_mul] at this
  exact this

theorem size_placeFrames (hbs : 0 < bs) (harea : bs * fb ≤ area.size)
    (hdata : n * fb ≤ data.size) : (placeFrames fb bs start data area n).size = area.size := by
  induction n with
  | zero => rfl
  | succ n ih =>
    rw [Nat.succ_mul] at hdata
    have ih := ih (by omega)
    have : (start + n) % bs * fb + fb ≤ bs * fb := slot_succ_mul_le hbs (start + n)
    rw [placeFrames, size_copySlice_of_le (by omega) (by omega), ih]

/-- After the copies, a byte holds the byte of the last frame that went to its slot, or what
the area held when no frame did. -/
theorem getElem!_placeFrames (hfb : 0 < fb) (hbs : 0 < bs) (harea : bs * fb ≤ area.size)
    (hdata : n * fb ≤ data.size) (hj : j < area.size) :
    (placeFrames fb bs start data area n)[j]! =
      (lastFrameIn bs start (j / fb) n).elim area[j]! fun i => data[i * fb + j % fb]! := by
  induction n with
  | zero => rfl
  | succ n ih =>
    rw [Nat.succ_mul] at hdata
    have hsize : (placeFrames fb bs start data area n).size = area.size :=
      size_placeFrames hbs harea (show n * fb ≤ data.size by omega)
    have : (start + n) % bs * fb + fb ≤ bs * fb := slot_succ_mul_le hbs (start + n)
    have hdiv := Nat.div_add_mod' j fb
    rw [placeFrames, getElem!_copySlice (by omega) (by omega) (by omega), lastFrameIn,
      ih (by omega)]
    have hiff : ((start + n) % bs * fb ≤ j ∧ j < (start + n) % bs * fb + fb) ↔
        (start + n) % bs = j / fb := by
      rw [← Nat.succ_mul, mul_le_iff_le_div hfb, lt_mul_iff_div_lt hfb]
      omega
    by_cases hs : (start + n) % bs = j / fb
    · rw [if_pos (hiff.2 hs), if_pos hs, Option.elim_some, hs]
      congr 1
      omega
    · rw [if_neg (fun h => hs (hiff.1 h)), if_neg hs]

/-- Copying a run of `k` frames from frame `done` on in one piece, to the slot where frame
`done` goes and without passing the end of the ring, is copying them one by one. -/
theorem areaWrite_placeFrames {done k : Nat} (hbs : 0 < bs)
    (harea : area.size = bs * fb) (hrun : (start + done) % bs + k ≤ bs)
    (hdata : (done + k) * fb ≤ data.size) :
    (areaWrite (placeFrames fb bs start data area done) ((start + done) % bs * fb)
      (data.extract (done * fb) ((done + k) * fb))).1 =
      placeFrames fb bs start data area (done + k) := by
  have hdone : done * fb ≤ data.size := le_trans (Nat.mul_le_mul_right _ (by omega)) hdata
  have hsize : (placeFrames fb bs start data area done).size = area.size :=
    size_placeFrames hbs (le_of_eq harea.symm) hdone
  have hsrc : (data.extract (done * fb) ((done + k) * fb)).size = k * fb := by
    rw [ByteArray.size_extract, Nat.min_eq_left hdata, Nat.add_mul]
    omega
  have hfit : (start + done) % bs * fb + k * fb ≤ area.size := by
    rw [harea, ← Nat.add_mul]
    exact Nat.mul_le_mul_right _ hrun
  have hcopy : ((data.extract (done * fb) ((done + k) * fb)).copySlice 0
      (placeFrames fb bs start data area done) ((start + done) % bs * fb) (k * fb)).size =
      (placeFrames fb bs start data area done).size :=
    size_copySlice_of_le (by rw [hsize]; exact hfit) (by rw [hsrc]; omega)
  rw [areaWrite_within (by rw [hsrc, hsize]; exact hfit), hsrc]
  refine ext_getElem! (by rw [hcopy, hsize, size_placeFrames hbs harea.ge hdata]) fun j hj => ?_
  rw [hcopy, hsize] at hj
  have hfb : 0 < fb := Nat.pos_of_ne_zero fun h => by rw [h, Nat.mul_zero] at harea; omega
  rw [getElem!_copySlice (by rw [hsize]; exact hfit) (by omega) (by rw [hsize]; exact hj),
    getElem!_placeFrames hfb hbs harea.ge hdata hj, lastFrameIn_run hrun]
  have hdiv := Nat.div_add_mod' j fb
  by_cases hin : (start + done) % bs ≤ j / fb ∧ j / fb < (start + done) % bs + k
  · have hlo := Nat.mul_le_mul_right fb hin.1
    have hhi := Nat.mul_le_mul_right fb (show j / fb + 1 ≤ (start + done) % bs + k by omega)
    have hsub := Nat.sub_mul (j / fb) ((start + done) % bs) fb
    have hmod := Nat.mod_lt j hfb
    rw [Nat.add_mul, Nat.one_mul] at hhi
    rw [Nat.add_mul] at hhi
    rw [if_pos ⟨by omega, by omega⟩, if_pos hin, Option.elim_some,
      getElem!_extract (by rw [Nat.add_mul]; omega) hdata]
    congr 1
    rw [Nat.add_mul]
    omega
  · rw [if_neg (fun h => hin ⟨(mul_le_iff_le_div hfb).1 h.1,
      (lt_mul_iff_div_lt hfb).1 (by rw [Nat.add_mul]; exact h.2)⟩), if_neg hin,
      getElem!_placeFrames hfb hbs harea.ge hdone hj]

theorem placeFrames_slot (hfb : 0 < fb) (hbs : 0 < bs) (harea : bs * fb ≤ area.size)
    (hdata : n * fb ≤ data.size) (hj : j < area.size) :
    (∀ i, IsGreatest {k | k < n ∧ (start + k) % bs = j / fb} i →
      (placeFrames fb bs start data area n)[j]! = data[i * fb + j % fb]!) ∧
    ((∀ k < n, (start + k) % bs ≠ j / fb) →
      (placeFrames fb bs start data area n)[j]! = area[j]!) := by
  rw [getElem!_placeFrames hfb hbs harea hdata hj]
  refine ⟨fun i hi => ?_, fun hk => ?_⟩
  · rw [lastFrameIn_eq_some_iff.2 hi, Option.elim_some]
  · rw [lastFrameIn_eq_none_iff.2 hk, Option.elim_none]

end Place

/-- The buffer after frames `0, …, n - 1` were copied one by one out of slots `start,
start + 1, …` of the area into their places in `data`. -/
def gatherFrames (fb bs start : Nat) (area data : ByteArray) : Nat → ByteArray
  | 0 => data
  | i + 1 =>
    area.copySlice ((start + i) % bs * fb) (gatherFrames fb bs start area data i) (i * fb) fb

section Gather

variable {fb bs start n j : Nat} {data area : ByteArray}

theorem size_gatherFrames (hbs : 0 < bs) (harea : bs * fb ≤ area.size)
    (hdata : n * fb ≤ data.size) : (gatherFrames fb bs start area data n).size = data.size := by
  induction n with
  | zero => rfl
  | succ n ih =>
    rw [Nat.succ_mul] at hdata
    have ih := ih (by omega)
    have : (start + n) % bs * fb + fb ≤ bs * fb := slot_succ_mul_le hbs (start + n)
    rw [gatherFrames, size_copySlice_of_le (by omega) (by omega), ih]

/-- After the copies, each byte of the first `n` frames holds the byte of its frame's slot;
the rest of the buffer is as it was. -/
theorem getElem!_gatherFrames (hbs : 0 < bs) (harea : bs * fb ≤ area.size)
    (hdata : n * fb ≤ data.size) (hj : j < data.size) :
    (gatherFrames fb bs start area data n)[j]! =
      if j < n * fb then area[(start + j / fb) % bs * fb + j % fb]! else data[j]! := by
  induction n with
  | zero => simp [gatherFrames]
  | succ n ih =>
    rw [Nat.succ_mul] at hdata
    have hsize : (gatherFrames fb bs start area data n).size = data.size :=
      size_gatherFrames hbs harea (show n * fb ≤ data.size by omega)
    have : (start + n) % bs * fb + fb ≤ bs * fb := slot_succ_mul_le hbs (start + n)
    have hdiv := Nat.div_add_mod' j fb
    rw [gatherFrames, getElem!_copySlice (by omega) (by omega) (by omega), ih (by omega)]
    by_cases hin : n * fb ≤ j ∧ j < n * fb + fb
    · have hfb : 0 < fb := by omega
      have hn : j / fb = n := by
        rw [← Nat.succ_mul, mul_le_iff_le_div hfb, lt_mul_iff_div_lt hfb] at hin
        omega
      rw [if_pos hin, if_pos (by rw [Nat.succ_mul]; exact hin.2), hn]
      congr 1
      rw [← hn]
      omega
    · rw [if_neg hin]
      split_ifs <;> first | rfl | (rw [Nat.succ_mul] at *; omega)

/-- Reading a run of `k` frames from frame `done` on in one piece, from the slot where frame
`done` lies and without passing the end of the ring, is reading them one by one. -/
theorem areaRead_gatherFrames {done k : Nat} (hbs : 0 < bs)
    (harea : area.size = bs * fb) (hrun : (start + done) % bs + k ≤ bs)
    (hdata : (done + k) * fb ≤ data.size) :
    let cur := gatherFrames fb bs start area data done
    let got := (areaRead area ((start + done) % bs * fb)
      (cur.extract (done * fb) ((done + k) * fb))).1
    got.copySlice 0 cur (done * fb) got.size = gatherFrames fb bs start area data (done + k) := by
  intro cur got
  have hdone : done * fb ≤ data.size := le_trans (Nat.mul_le_mul_right _ (by omega)) hdata
  have hsize : cur.size = data.size := size_gatherFrames hbs harea.ge hdone
  have hdst : (cur.extract (done * fb) ((done + k) * fb)).size = k * fb := by
    rw [ByteArray.size_extract, hsize, Nat.min_eq_left hdata, Nat.add_mul]
    omega
  have hfit : (start + done) % bs * fb + k * fb ≤ area.size := by
    rw [harea, ← Nat.add_mul]
    exact Nat.mul_le_mul_right _ hrun
  have hgot : got = area.copySlice ((start + done) % bs * fb)
      (cur.extract (done * fb) ((done + k) * fb)) 0 (k * fb) := by
    rw [← hdst]
    exact areaRead_within (by rw [hdst]; exact hfit)
  have hgsize : got.size = k * fb := by
    rw [hgot, size_copySlice_of_le (by rw [hdst]; omega) hfit, hdst]
  have hcopy : (got.copySlice 0 cur (done * fb) got.size).size = cur.size :=
    size_copySlice_of_le (by rw [hgsize, hsize, ← Nat.add_mul]; exact hdata) (by omega)
  refine ext_getElem! (by rw [hcopy, hsize, size_gatherFrames hbs harea.ge hdata]) fun j hj => ?_
  rw [hcopy, hsize] at hj
  rw [getElem!_copySlice (by rw [hgsize, hsize, ← Nat.add_mul]; exact hdata) (by omega)
      (by rw [hsize]; exact hj),
    getElem!_gatherFrames hbs harea.ge hdata hj, hgsize]
  have hdiv := Nat.div_add_mod' j fb
  by_cases hin : done * fb ≤ j ∧ j < done * fb + k * fb
  · have hfb : 0 < fb := Nat.pos_of_ne_zero fun h => by simp [h] at hin
    have ht : done ≤ j / fb ∧ j / fb < done + k := by
      rw [← mul_le_iff_le_div hfb, ← lt_mul_iff_div_lt hfb, Nat.add_mul]
      exact hin
    have hslot : (start + j / fb) % bs = (start + done) % bs + (j / fb - done) := by
      rw [show start + j / fb = start + done + (j / fb - done) by omega]
      exact add_mod_of_run _ _ (by omega)
    have hsub := Nat.sub_mul (j / fb) done fb
    have hlo := Nat.mul_le_mul_right fb ht.1
    rw [if_pos hin, if_pos (by rw [Nat.add_mul]; exact hin.2), hgot,
      getElem!_copySlice (by rw [hdst]; omega) hfit (by rw [hdst]; omega), if_pos (by omega),
      hslot, Nat.add_mul]
    congr 1
    omega
  · rw [if_neg hin, getElem!_gatherFrames hbs harea.ge hdone (by rw [hsize] at *; omega)]
    split_ifs <;> first | rfl | (rw [Nat.add_mul] at *; omega)

end Gather

end SoundCard.Pcm
