import SoundCard.Proofs.ValueAccess
/-! Where the value operations of an element touch its value record: only inside the value area,
whatever the card reported. -/
namespace SoundCard.Control

namespace Entry

variable {σ α : Type} {c : Entry}

/-- `m` fails with `e` on the entry `c` over any card, and leaves the card and the entry
as they were. -/
def Refuses (m : ControlM σ α) (c : Entry) (e : MixerError) : Prop :=
  ∀ card, m.exec card c = (.error e, ⟨card, c⟩)

/-- The operation refuses the entry before it sends anything: over every device and every
card it fails with one invalid-argument error and changes nothing. -/
def RefusedUpfront (op : ControlDevice σ → ControlM σ α) (c : Entry) : Prop :=
  ∃ msg, ∀ D, Refuses (op D) c (.invalidArgument msg)

/-- Slot `k` of a value record read as type `t` lies inside the value area. -/
def SlotInArea : ElemType → Nat → Prop
  | .bool, k | .int, k => k < 128 ∧ 8 * k + 8 ≤ valueAreaBytes
  | .int64, k => k < 64 ∧ 8 * k + 8 ≤ valueAreaBytes
  | .enum, k => k < 128 ∧ 4 * k + 4 ≤ valueAreaBytes
  | .byte, k => k < maxByteValues
  | .iec958, _ | .unknown, _ => False

theorem slotInArea_of_lt_capacity {t : ElemType} {k : Nat} (h : k < t.capacity) :
    SlotInArea t k := by
  cases t <;> simp only [ElemType.capacity] at h <;>
    simp only [SlotInArea, valueAreaBytes, maxByteValues] <;> omega

theorem slotInArea_of_lt_valueLimit {k : Nat} (h : k < c.valueLimit) :
    SlotInArea c.elemType k :=
  slotInArea_of_lt_capacity (Virtual.valueLimit_lt_capacity h)

theorem valueLimit_eq_zero (h : c.hasValues = false) : c.valueLimit = 0 := by
  have hcap : c.elemType.capacity = 0 := by
    cases hte : c.elemType <;> simp_all [hasValues, ElemType.capacity]
  simp [valueLimit, hcap]

theorem checkIndex_invalid {i : Nat} (h : c.valueLimit ≤ i) :
    ∃ msg, c.checkIndex i = .error (.invalidArgument msg) := by
  simp only [checkIndex]
  rw [if_pos h]
  exact ⟨_, rfl⟩

theorem checkCount_invalid {n limit : Nat} (h : ¬(0 < n ∧ n ≤ limit)) :
    ∃ msg, c.checkCount n limit = .error (.invalidArgument msg) := by
  simp only [checkCount]
  rw [if_pos (by omega)]
  exact ⟨_, rfl⟩

/-- A value operation whose type or arguments fail its opening checks is refused up front. -/
theorem RefusedUpfront.of_guarded {op : ControlDevice σ → ControlM σ α}
    (g : Entry → Prop) [DecidablePred g] (w : String) (chk : Entry → Except MixerError Unit)
    (hop : ∀ D, ∃ rest : Entry → ControlM σ α, op D = do
      let c ← current
      unless g c do throw (c.unsupported w)
      OnCardM.check (chk c)
      rest c)
    (h : ¬g c ∨ ∃ msg, chk c = .error (.invalidArgument msg)) : RefusedUpfront op c := by
  by_cases hg : g c
  · obtain ⟨msg, hchk⟩ := h.resolve_left (not_not.mpr hg)
    refine ⟨msg, fun D card => ?_⟩
    obtain ⟨rest, hrest⟩ := hop D
    simp only [hrest, OnCardM.exec, current, bind_assoc, run_bind, run_get, pure_bind]
    rw [if_pos hg, hchk]
    rfl
  · obtain ⟨msg, hmsg⟩ : ∃ msg, c.unsupported w = .invalidArgument msg := ⟨_, rfl⟩
    refine ⟨msg, fun D card => ?_⟩
    obtain ⟨rest, hrest⟩ := hop D
    simp only [hrest, OnCardM.exec, current, bind_assoc, run_bind, run_get, pure_bind]
    rw [if_neg hg, hmsg]
    rfl

theorem getValue_refused {i : Nat} (h : c.valueLimit ≤ i) :
    RefusedUpfront (σ := σ) (getValue · i) c :=
  .of_guarded (fun c => c.hasValues = true) "value access" (·.checkIndex i)
    (fun _ => ⟨_, rfl⟩) (.inr (checkIndex_invalid h))

theorem setValue_refused_upfront {i : Nat} {x : Int} (h : c.valueLimit ≤ i) :
    RefusedUpfront (σ := σ) (setValue · i x) c :=
  .of_guarded (fun c => c.hasValues = true) "value access" (·.checkIndex i)
    (fun _ => ⟨_, rfl⟩) (.inr (checkIndex_invalid h))

theorem getArray_refused {n : Nat}
    (h : c.hasIntegers = false ∨ ¬(0 < n ∧ n ≤ c.valueLimit)) :
    RefusedUpfront (σ := σ) (getArray · n) c :=
  .of_guarded (fun c => c.hasIntegers = true) "integer array access"
    (fun c => c.checkCount n c.valueLimit) (fun _ => ⟨_, rfl⟩)
    (h.imp (by simp) checkCount_invalid)

theorem setArray_refused_upfront {xs : List Int}
    (h : c.hasIntegers = false ∨ ¬(0 < xs.length ∧ xs.length ≤ c.valueLimit)) :
    RefusedUpfront (σ := σ) (setArray · xs) c :=
  .of_guarded (fun c => c.hasIntegers = true) "integer array access"
    (fun c => c.checkCount xs.length c.valueLimit) (fun _ => ⟨_, rfl⟩)
    (h.imp (by simp) checkCount_invalid)

theorem getBytes_refused {n : Nat} (h : c.elemType ≠ .byte ∨ ¬(0 < n ∧ n ≤ c.maxBytes)) :
    RefusedUpfront (σ := σ) (getBytes · n) c :=
  .of_guarded (fun c => c.elemType = .byte) "byte access"
    (fun c => c.checkCount n c.maxBytes) (fun _ => ⟨_, rfl⟩) (h.imp id checkCount_invalid)

theorem setBytes_refused {data : List UInt8}
    (h : c.elemType ≠ .byte ∨ ¬(0 < data.length ∧ data.length ≤ c.maxBytes)) :
    RefusedUpfront (σ := σ) (setBytes · data) c :=
  .of_guarded (fun c => c.elemType = .byte) "byte access"
    (fun c => c.checkCount data.length c.maxBytes) (fun _ => ⟨_, rfl⟩)
    (h.imp id checkCount_invalid)

theorem maxBytes_le (h : c.tlvReadWrite = false) : c.maxBytes ≤ maxByteValues := by
  simp [maxBytes, h]

theorem hasValues_eq_false_iff :
    c.hasValues = false ↔ c.elemType = .iec958 ∨ c.elemType = .unknown := by
  cases hte : c.elemType <;> simp [hasValues, hte]

/-! Each operation either is refused up front or touches only slots inside the area. -/

theorem getValue_refused_or_in_area (i : Nat) :
    RefusedUpfront (σ := σ) (getValue · i) c ∨ SlotInArea c.elemType i := by
  by_cases hi : i < c.valueLimit
  · exact .inr (slotInArea_of_lt_valueLimit hi)
  · exact .inl (getValue_refused (Nat.le_of_not_lt hi))

theorem setValue_refused_or_in_area (i : Nat) (x : Int) :
    RefusedUpfront (σ := σ) (setValue · i x) c ∨ SlotInArea c.elemType i := by
  by_cases hi : i < c.valueLimit
  · exact .inr (slotInArea_of_lt_valueLimit hi)
  · exact .inl (setValue_refused_upfront (Nat.le_of_not_lt hi))

theorem getArray_refused_or_in_area (n : Nat) :
    RefusedUpfront (σ := σ) (getArray · n) c ∨ ∀ k < n, SlotInArea c.elemType k := by
  by_cases hn : 0 < n ∧ n ≤ c.valueLimit
  · exact .inr fun k hk => slotInArea_of_lt_valueLimit (by omega)
  · exact .inl (getArray_refused (.inr hn))

theorem setArray_refused_or_in_area (xs : List Int) :
    RefusedUpfront (σ := σ) (setArray · xs) c ∨
      ∀ k < xs.length, SlotInArea c.elemType k := by
  by_cases hn : 0 < xs.length ∧ xs.length ≤ c.valueLimit
  · exact .inr fun k hk => slotInArea_of_lt_valueLimit (by omega)
  · exact .inl (setArray_refused_upfront (.inr hn))

theorem getBytes_refused_or_in_area (n : Nat) :
    RefusedUpfront (σ := σ) (getBytes · n) c ∨ c.tlvReadWrite = true ∨
      n ≤ maxByteValues := by
  by_cases hn : 0 < n ∧ n ≤ c.maxBytes
  · cases htlv : c.tlvReadWrite
    · exact .inr (.inr (hn.2.trans (maxBytes_le htlv)))
    · exact .inr (.inl rfl)
  · exact .inl (getBytes_refused (.inr hn))

theorem setBytes_refused_or_in_area (data : List UInt8) :
    RefusedUpfront (σ := σ) (setBytes · data) c ∨ c.tlvReadWrite = true ∨
      data.length ≤ maxByteValues := by
  by_cases hn : 0 < data.length ∧ data.length ≤ c.maxBytes
  · cases htlv : c.tlvReadWrite
    · exact .inr (.inr (hn.2.trans (maxBytes_le htlv)))
    · exact .inr (.inl rfl)
  · exact .inl (setBytes_refused (.inr hn))

theorem refused_without_values (h : c.hasValues = false) :
    (∀ i, RefusedUpfront (σ := σ) (getValue · i) c) ∧
    (∀ i x, RefusedUpfront (σ := σ) (setValue · i x) c) ∧
    (∀ n, RefusedUpfront (σ := σ) (getArray · n) c) ∧
    (∀ xs, RefusedUpfront (σ := σ) (setArray · xs) c) ∧
    (∀ n, RefusedUpfront (σ := σ) (getBytes · n) c) ∧
    (∀ data, RefusedUpfront (σ := σ) (setBytes · data) c) := by
  have hlim : c.valueLimit = 0 := valueLimit_eq_zero h
  have hte := hasValues_eq_false_iff.mp h
  have hint : c.hasIntegers = false := by
    rcases hte with hte | hte <;> simp [hasIntegers, hte]
  have hbyte : c.elemType ≠ .byte := by rcases hte with hte | hte <;> simp [hte]
  refine ⟨fun i => getValue_refused (by omega), fun i x => setValue_refused_upfront (by omega),
    fun n => getArray_refused (.inl hint), fun xs => setArray_refused_upfront (.inl hint),
    fun n => getBytes_refused (.inl hbyte), fun data => setBytes_refused (.inl hbyte)⟩

/-- Each value operation is refused up front or touches only slots inside the record's value
area, whatever info record the card reported. -/
theorem value_access_stays_in_area (c : Entry) :
    (∀ i, RefusedUpfront (σ := σ) (getValue · i) c ∨ SlotInArea c.elemType i) ∧
    (∀ i x, RefusedUpfront (σ := σ) (setValue · i x) c ∨ SlotInArea c.elemType i) ∧
    (∀ n, RefusedUpfront (σ := σ) (getArray · n) c ∨ ∀ k < n, SlotInArea c.elemType k) ∧
    (∀ xs, RefusedUpfront (σ := σ) (setArray · xs) c ∨
      ∀ k < xs.length, SlotInArea c.elemType k) ∧
    (∀ n, RefusedUpfront (σ := σ) (getBytes · n) c ∨ c.tlvReadWrite = true ∨
      n ≤ maxByteValues) ∧
    (∀ data, RefusedUpfront (σ := σ) (setBytes · data) c ∨ c.tlvReadWrite = true ∨
      data.length ≤ maxByteValues) ∧
    (c.elemType = .iec958 ∨ c.elemType = .unknown →
      (∀ i, RefusedUpfront (σ := σ) (getValue · i) c) ∧
      (∀ i x, RefusedUpfront (σ := σ) (setValue · i x) c) ∧
      (∀ n, RefusedUpfront (σ := σ) (getArray · n) c) ∧
      (∀ xs, RefusedUpfront (σ := σ) (setArray · xs) c) ∧
      (∀ n, RefusedUpfront (σ := σ) (getBytes · n) c) ∧
      (∀ data, RefusedUpfront (σ := σ) (setBytes · data) c)) :=
  ⟨getValue_refused_or_in_area, setValue_refused_or_in_area, getArray_refused_or_in_area,
    setArray_refused_or_in_area, getBytes_refused_or_in_area, setBytes_refused_or_in_area,
    fun h => refused_without_values (hasValues_eq_false_iff.mpr h)⟩

end Entry

end SoundCard.Control
