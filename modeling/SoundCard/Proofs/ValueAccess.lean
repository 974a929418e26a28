import Mathlib
import SoundCard.Proofs.ByteArea
import SoundCard.Proofs.RegistryScan
import SoundCard.Proofs.PercentScale
/-! Single values and arrays of an element of the virtual card: checked before anything is sent,
then read, changed in one slot and written back. -/
namespace SoundCard.Control

theorem readLE_replicate_zero (m off n : Nat) : readLE (List.replicate m 0) off n = 0 := by
  induction n generalizing off with
  | zero => rfl
  | succ n ih =>
    have hz : (List.replicate m (0 : UInt8)).getD off 0 = 0 := by
      simp only [List.getD_eq_getElem?_getD, List.getElem?_replicate]
      split <;> rfl
    rw [readLE_succ, hz, ih]
    rfl

namespace ElemValue

@[simp] theorem length_area_setInteger (v : ElemValue) (k : Nat) (x : Int) :
    (v.setInteger k x).area.length = v.area.length :=
  length_writeLE _ _ _ _

@[simp] theorem length_area_setEnumItem (v : ElemValue) (k : Nat) (x : UInt32) :
    (v.setEnumItem k x).area.length = v.area.length :=
  length_writeLE _ _ _ _

theorem integer_setInteger_self {v : ElemValue} {k : Nat} (h : 8 * k + 8 ≤ v.area.length)
    (x : Int) : (v.setInteger k x).integer k = Entry.wrap64 x :=
  readI64_writeI64 h x

theorem integer_setInteger_of_ne (v : ElemValue) {j k : Nat} (hne : j ≠ k) (x : Int) :
    (v.setInteger k x).integer j = v.integer j := by
  unfold integer setInteger writeI64 readI64
  rcases Nat.lt_or_gt_of_ne hne with hlt | hlt
  · rw [readLE_writeLE_of_disjoint (Or.inl (slot_end_le hlt))]
  · rw [readLE_writeLE_of_disjoint (Or.inr (slot_end_le hlt))]

theorem enumItem_setEnumItem_self {v : ElemValue} {k : Nat} (h : 4 * k + 4 ≤ v.area.length)
    (x : UInt32) : (v.setEnumItem k x).enumItem k = x :=
  readU32_writeU32 h x

theorem enumItem_setEnumItem_of_ne (v : ElemValue) {j k : Nat} (hne : j ≠ k) (x : UInt32) :
    (v.setEnumItem k x).enumItem j = v.enumItem j := by
  unfold enumItem setEnumItem writeU32 readU32
  rcases Nat.lt_or_gt_of_ne hne with hlt | hlt
  · rw [readLE_writeLE_of_disjoint (Or.inl (slot_end_le hlt))]
  · rw [readLE_writeLE_of_disjoint (Or.inr (slot_end_le hlt))]

theorem area_foldl_setInteger (l : List (Int × Nat)) (init : ElemValue) :
    (l.foldl (fun v (x, k) => v.setInteger k x) init).area =
      l.foldl (fun a p => writeLE a (8 * p.2) 8 (ofSigned 64 p.1)) init.area := by
  induction l generalizing init with
  | nil => rfl
  | cons p l ih => exact ih _

theorem area_foldl_setEnumItem (f : Int → UInt32) (l : List (Int × Nat)) (init : ElemValue) :
    (l.foldl (fun v (x, k) => v.setEnumItem k (f x)) init).area =
      l.foldl (fun a p => writeLE a (4 * p.2) 4 (f p.1).toNat) init.area := by
  induction l generalizing init with
  | nil => rfl
  | cons p l ih => exact ih _

theorem length_area_foldl_setInteger (l : List (Int × Nat)) (init : ElemValue) :
    (l.foldl (fun v (x, k) => v.setInteger k x) init).area.length = init.area.length := by
  induction l generalizing init with
  | nil => rfl
  | cons p l ih =>
    obtain ⟨x, k⟩ := p
    rw [List.foldl_cons, ih]
    exact length_area_setInteger init k x

theorem id_foldl_setInteger (l : List (Int × Nat)) (init : ElemValue) :
    (l.foldl (fun v (x, k) => v.setInteger k x) init).id = init.id := by
  induction l generalizing init with
  | nil => rfl
  | cons p l ih => exact ih _

theorem length_area_foldl_setEnumItem (f : Int → UInt32) (l : List (Int × Nat)) (init : ElemValue) :
    (l.foldl (fun v (x, k) => v.setEnumItem k (f x)) init).area.length = init.area.length := by
  induction l generalizing init with
  | nil => rfl
  | cons p l ih =>
    obtain ⟨x, k⟩ := p
    rw [List.foldl_cons, ih]
    exact length_area_setEnumItem init k (f x)

theorem id_foldl_setEnumItem (f : Int → UInt32) (l : List (Int × Nat)) (init : ElemValue) :
    (l.foldl (fun v (x, k) => v.setEnumItem k (f x)) init).id = init.id := by
  induction l generalizing init with
  | nil => rfl
  | cons p l ih => exact ih _

/-- Writing back a byte record read from `bs` with byte `i` changed changes byte `i` of
`bs`, when it has one, and no other. -/
theorem bytes_write_set (numid : UInt32) (bs : List UInt8) {i : Nat} (hi : i < maxByteValues)
    (b : UInt8) :
    ({ (forNumid numid).setBytes bs with
        area := ((forNumid numid).setBytes bs).area.set i b } : ElemValue).bytes.take
        (min bs.length maxByteValues) ++ bs.drop (min bs.length maxByteValues) = bs.set i b := by
  have hhead : ({ (forNumid numid).setBytes bs with
        area := ((forNumid numid).setBytes bs).area.set i b } : ElemValue).bytes.take
        (min bs.length maxByteValues) = (bs.take maxByteValues).set i b := by
    have hB : (bs.take maxByteValues).length = min bs.length maxByteValues := by
      rw [List.length_take, Nat.min_comm]
    simp only [bytes, setBytes, List.take_take, List.take_set]
    rw [Nat.min_eq_left (Nat.min_le_right _ _), ← hB, List.take_left' rfl]
  rw [hhead]
  by_cases hlen : bs.length ≤ maxByteValues
  · rw [List.take_of_length_le hlen, Nat.min_eq_left hlen, List.drop_length, List.append_nil]
  · have hB : i < (bs.take maxByteValues).length := by
      rw [List.length_take]
      omega
    rw [Nat.min_eq_right (by omega), ← List.set_append_left _ _ hB, List.take_append_drop]

theorem integer_foldl_setInteger (l : List Int) {init : ElemValue}
    (h : 8 * l.length ≤ init.area.length) (k : Nat) :
    (l.zipIdx.foldl (fun v (x, k) => v.setInteger k x) init).integer k =
      if k < l.length then Entry.wrap64 (l.getD k 0) else init.integer k := by
  have hrow := readLE_foldl_writeLE 8 (ofSigned 64) l 0 init.area (by simpa using h) k
  simp only [Nat.zero_le, true_and, Nat.zero_add, Nat.sub_zero] at hrow
  have hlt : ∀ x, ofSigned 64 x < 256 ^ 8 := ofSigned_lt
  unfold integer readI64
  rw [area_foldl_setInteger, hrow]
  split
  · rw [Nat.mod_eq_of_lt (hlt _), toSigned_ofSigned]
  · rfl

theorem enumItem_foldl_setEnumItem (f : Int → UInt32) (l : List Int) {init : ElemValue}
    (h : 4 * l.length ≤ init.area.length) (k : Nat) :
    (l.zipIdx.foldl (fun v (x, k) => v.setEnumItem k (f x)) init).enumItem k =
      if k < l.length then f (l.getD k 0) else init.enumItem k := by
  have hrow := readLE_foldl_writeLE 4 (fun x => (f x).toNat) l 0 init.area (by simpa using h) k
  simp only [Nat.zero_le, true_and, Nat.zero_add, Nat.sub_zero] at hrow
  unfold enumItem readU32
  rw [area_foldl_setEnumItem, hrow]
  split
  · have hlt : (f (l.getD k 0)).toNat < 256 ^ 4 := (f _).toNat_lt
    rw [Nat.mod_eq_of_lt hlt]
    exact UInt32.ofNat_toNat
  · rfl

@[simp] theorem area_forNumid (numid : UInt32) :
    (forNumid numid).area = List.replicate valueAreaBytes 0 := rfl

@[simp] theorem integer_forNumid (numid : UInt32) (k : Nat) : (forNumid numid).integer k = 0 := by
  unfold integer readI64 toSigned
  rw [area_forNumid, readLE_replicate_zero]
  rfl

@[simp] theorem enumItem_forNumid (numid : UInt32) (k : Nat) :
    (forNumid numid).enumItem k = 0 := by
  unfold enumItem readU32
  rw [area_forNumid, readLE_replicate_zero]
  rfl

end ElemValue

end SoundCard.Control

namespace SoundCard.Virtual

open SoundCard.Control

namespace VirtualControl

/-- The element with value `i` set to `x` as type `t` keeps it; a slot past what it holds keeps
nothing. -/
def storeValue (c : VirtualControl) (t : ElemType) (i : Nat) (x : Int) : VirtualControl :=
  match t with
  | .bool => { c with values := c.values.set i (if x ≠ 0 then 1 else 0) }
  | .byte => { c with bytes := c.bytes.set i (UInt8.ofNat x.toNat) }
  | _ => { c with values := c.values.set i x }

/-- The element with its first values replaced by `xs`, each as a 64-bit word. -/
def storeArray (c : VirtualControl) (xs : List Int) : VirtualControl :=
  { c with values := c.values.mapIdx fun k y =>
      if k < xs.length then Entry.wrap64 (xs.getD k 0) else y }

/-- Value `i` of the element as an element of type `t` answers it; 0 past what it holds. -/
def valueAt (c : VirtualControl) (t : ElemType) (i : Nat) : Int :=
  match t with
  | .bool => if c.values.getD i 0 ≠ 0 then 1 else 0
  | .byte => (c.bytes.getD i 0).toNat
  | _ => c.values.getD i 0

/-- How many values of type `t` the element stores: its bytes for a byte element, its
values otherwise. -/
def slots (c : VirtualControl) (t : ElemType) : Nat :=
  if t = .byte then c.bytes.length else c.values.length

/-- The value an element of type `t` answers once set to `x`: 0 or 1 for a boolean, the low
byte for a byte element, `x` otherwise. -/
def storedAs (t : ElemType) (x : Int) : Int :=
  match t with
  | .bool => if x ≠ 0 then 1 else 0
  | .byte => (UInt8.ofNat x.toNat).toNat
  | _ => x

/-- The stored values fit the words a value record carries them in: item numbers in 32
bits, other values in signed 64 bits. -/
def Fits (c : VirtualControl) : Prop :=
  ∀ x ∈ c.values, if ElemType.ofRaw c.type = .enum then 0 ≤ x ∧ x < 4294967296
    else -9223372036854775808 ≤ x ∧ x < 9223372036854775808

end VirtualControl

namespace VirtualCard

/-- The card after a value write replaced element `numid` by `c`, with a value event
queued when notifications are on. -/
def afterWrite (v : VirtualCard) (numid : UInt32) (c : VirtualControl) : VirtualCard :=
  let w := v.setControl numid c
  if w.subscribed then { w with events := w.events ++ [{ type := 0, mask := 1, id := w.idOf numid }] }
  else w

end VirtualCard

namespace CardReq

variable {v : VirtualCard} {ctl : VirtualControl}

theorem run_elemRead_integers {value : ElemValue} (hf : v.failures .elemRead = none)
    (hc : v.control? value.id.numid = some ctl)
    (ht : ElemType.ofRaw ctl.type = .int ∨ ElemType.ofRaw ctl.type = .bool ∨
      ElemType.ofRaw ctl.type = .int64) :
    (ExceptT.run (elemRead value)).run v =
      (.ok ((ctl.values.take 128).zipIdx.foldl (fun v (x, k) => v.setInteger k x) value),
        v.bump .elemRead) := by
  unfold elemRead
  rw [run_enter_bind, hf]
  dsimp only
  rw [run_control_bind, VirtualCard.control?_bump, hc]
  dsimp only
  rcases ht with ht | ht | ht <;> simp only [ht] <;> rfl

theorem run_elemRead_enum {value : ElemValue} (hf : v.failures .elemRead = none)
    (hc : v.control? value.id.numid = some ctl) (ht : ElemType.ofRaw ctl.type = .enum) :
    (ExceptT.run (elemRead value)).run v =
      (.ok ((ctl.values.take 256).zipIdx.foldl
          (fun v (x, k) => v.setEnumItem k (itemWord x)) value), v.bump .elemRead) := by
  unfold elemRead
  rw [run_enter_bind, hf]
  dsimp only
  rw [run_control_bind, VirtualCard.control?_bump, hc]
  dsimp only
  simp only [ht]
  rfl

theorem run_elemRead_bytes {value : ElemValue} (hf : v.failures .elemRead = none)
    (hc : v.control? value.id.numid = some ctl) (ht : ElemType.ofRaw ctl.type = .byte) :
    (ExceptT.run (elemRead value)).run v = (.ok (value.setBytes ctl.bytes), v.bump .elemRead) := by
  unfold elemRead
  rw [run_enter_bind, hf]
  dsimp only
  rw [run_control_bind, VirtualCard.control?_bump, hc]
  dsimp only
  simp only [ht]
  rfl

theorem run_store_bind (numid : UInt32) (c' : VirtualControl) (value : ElemValue) (w : VirtualCard) :
    (ExceptT.run (do
      modify fun v : VirtualCard => v.setControl numid c'
      let v ← get
      if v.subscribed = true then
        set { v with events := v.events ++ [({ type := 0, mask := 1, id := v.idOf numid } : Event)] }
      return value : CardReq ElemValue)).run w = (.ok value, w.afterWrite numid c') := by
  simp only [run_bind, run_modify, run_get, VirtualCard.afterWrite]
  split <;> rfl

theorem run_elemWrite_integers (value : ElemValue) (hf : v.failures .elemWrite = none)
    (hc : v.control? value.id.numid = some ctl)
    (ht : ElemType.ofRaw ctl.type = .int ∨ ElemType.ofRaw ctl.type = .bool ∨
      ElemType.ofRaw ctl.type = .int64) :
    (ExceptT.run (elemWrite value)).run v =
      (.ok value, (v.bump .elemWrite).afterWrite value.id.numid
        { ctl with values := ctl.values.mapIdx fun k x => if k < 128 then value.integer k else x }) := by
  unfold elemWrite
  rw [run_enter_bind, hf]
  dsimp only
  rw [run_control_bind, VirtualCard.control?_bump, hc]
  dsimp only
  rcases ht with ht | ht | ht <;> simp only [ht, run_bind, run_pure] <;> exact run_store_bind _ _ _ _

theorem run_elemWrite_enum (value : ElemValue) (hf : v.failures .elemWrite = none)
    (hc : v.control? value.id.numid = some ctl) (ht : ElemType.ofRaw ctl.type = .enum) :
    (ExceptT.run (elemWrite value)).run v =
      (.ok value, (v.bump .elemWrite).afterWrite value.id.numid
        { ctl with values := ctl.values.mapIdx fun k x =>
            if k < 256 then ((value.enumItem k).toNat : Int) else x }) := by
  unfold elemWrite
  rw [run_enter_bind, hf]
  dsimp only
  rw [run_control_bind, VirtualCard.control?_bump, hc]
  dsimp only
  simp only [ht, run_bind, run_pure]
  exact run_store_bind _ _ _ _

theorem run_elemWrite_bytes (value : ElemValue) (hf : v.failures .elemWrite = none)
    (hc : v.control? value.id.numid = some ctl) (ht : ElemType.ofRaw ctl.type = .byte) :
    (ExceptT.run (elemWrite value)).run v =
      (.ok value, (v.bump .elemWrite).afterWrite value.id.numid
        { ctl with bytes := value.bytes.take (min ctl.bytes.length maxByteValues) ++
            ctl.bytes.drop (min ctl.bytes.length maxByteValues) }) := by
  unfold elemWrite
  rw [run_enter_bind, hf]
  dsimp only
  rw [run_control_bind, VirtualCard.control?_bump, hc]
  dsimp only
  simp only [ht, run_bind, run_pure]
  exact run_store_bind _ _ _ _

end CardReq

end SoundCard.Virtual

namespace SoundCard.Control

section Runs

variable {σ : Type} (D : ControlDevice σ) {c : Entry} {card card' : σ}

theorem run_check_ok_bind {β γ : Type} (b : β) (f : β → ControlM σ γ) (s : OnCard σ Entry) :
    (ExceptT.run (OnCardM.check (.ok b) >>= f)).run s = (ExceptT.run (f b)).run s := rfl

theorem run_check_error_bind {β γ : Type} (e : MixerError) (f : β → ControlM σ γ)
    (s : OnCard σ Entry) : (ExceptT.run (OnCardM.check (.error e) >>= f)).run s = (.error e, s) :=
  rfl

theorem run_discard_ok {ε S β : Type} {x : ExceptT ε (StateM S) β} {s s' : S} {b : β}
    (h : (ExceptT.run x).run s = (.ok b, s')) : (ExceptT.run (discard x)).run s = (.ok (), s') := by
  rw [Functor.discard, map_const, Function.comp_apply, ← bind_pure_comp, run_bind, h]
  rfl

theorem run_readRecord {r : ElemValue}
    (h : (ExceptT.run (D.elemRead (ElemValue.forNumid c.numid))).run card = (.ok r, card')) :
    (ExceptT.run (Entry.readRecord D)).run ⟨card, c⟩ = (.ok r, ⟨card', c⟩) := by
  unfold Entry.readRecord Entry.current
  simp only [bind_assoc, run_bind, run_get, pure_bind]
  rw [run_ask, h]

theorem run_writeRecord {r r' : ElemValue}
    (h : (ExceptT.run (D.elemWrite r)).run card = (.ok r', card')) :
    (ExceptT.run (Entry.writeRecord D r)).run ⟨card, c⟩ = (.ok (), ⟨card', c⟩) := by
  unfold Entry.writeRecord Entry.current
  simp only [bind_assoc, run_bind, run_get, pure_bind]
  apply run_discard_ok
  rw [run_ask, h]

end Runs

end SoundCard.Control

namespace SoundCard.Virtual

open SoundCard.Control

theorem getD_mem {l : List Int} {k : Nat} (h : k < l.length) : l.getD k 0 ∈ l := by
  rw [List.getD_eq_getElem l 0 h]
  exact List.getElem_mem h

theorem mapIdx_congr_getD {l : List Int} {f g : Nat → Int → Int}
    (h : ∀ k < l.length, f k (l.getD k 0) = g k (l.getD k 0)) : l.mapIdx f = l.mapIdx g := by
  apply List.ext_getElem (by simp)
  intro k h₁ h₂
  have hk : k < l.length := by simpa using h₁
  have hfg := h k hk
  rw [List.getD_eq_getElem l 0 hk] at hfg
  rw [List.getElem_mapIdx, List.getElem_mapIdx, hfg]

theorem mapIdx_eq_set {l : List Int} {f : Nat → Int → Int} {i : Nat} {a : Int}
    (h : ∀ k < l.length, f k (l.getD k 0) = if k = i then a else l.getD k 0) :
    l.mapIdx f = l.set i a := by
  apply List.ext_getElem (by simp)
  intro k h₁ h₂
  have hk : k < l.length := by simpa using h₁
  have hf := h k hk
  rw [List.getD_eq_getElem l 0 hk] at hf
  rw [List.getElem_mapIdx, List.getElem_set, hf]
  split_ifs <;> first | rfl | omega

theorem itemWord_toNat {x : Int} (h₀ : 0 ≤ x) (h₁ : x < 4294967296) :
    ((CardReq.itemWord x).toNat : Int) = x := by
  have h32 : Nat.pow 2 32 = 4294967296 := rfl
  have hsize : UInt32.size = 4294967296 := rfl
  unfold CardReq.itemWord ofSigned
  rw [h32, UInt32.toNat_ofNat_of_lt' (by rw [hsize]; omega)]
  omega

namespace VirtualControl

variable {ctl : VirtualControl}

/-- Slot `k` of the integer record the card reads holds the `k`-th stored value, or 0
past them, when the stored values fit 64 bits. -/
theorem integer_record
    (hfits : ∀ x ∈ ctl.values, -9223372036854775808 ≤ x ∧ x < 9223372036854775808)
    (numid : UInt32) {k : Nat} (hk : k < 128) :
    ((ctl.values.take 128).zipIdx.foldl (fun v (x, k) => v.setInteger k x)
      (ElemValue.forNumid numid)).integer k = ctl.values.getD k 0 := by
  have hlen : 8 * (ctl.values.take 128).length ≤ (ElemValue.forNumid numid).area.length := by
    simp only [List.length_take, ElemValue.area_forNumid, List.length_replicate, valueAreaBytes]
    omega
  rw [ElemValue.integer_foldl_setInteger _ hlen]
  split
  · rename_i hin
    have hk' : k < ctl.values.length := by simp at hin; omega
    have hget : (ctl.values.take 128).getD k 0 = ctl.values.getD k 0 := by
      simp [List.getD_eq_getElem?_getD, hk]
    obtain ⟨h₁, h₂⟩ := hfits _ (getD_mem hk')
    rw [hget, Entry.wrap64_of_bounds h₁ h₂]
  · rename_i hout
    have hk' : ctl.values.length ≤ k := by simp at hout; omega
    rw [ElemValue.integer_forNumid, List.getD_eq_default _ _ hk']

/-- Slot `k` of the item record the card reads holds the `k`-th stored item, or 0 past
them, when the stored items fit 32 bits. -/
theorem enumItem_record (hfits : ∀ x ∈ ctl.values, 0 ≤ x ∧ x < 4294967296)
    (numid : UInt32) {k : Nat} (hk : k < 256) :
    ((((ctl.values.take 256).zipIdx.foldl
      (fun v (x, k) => v.setEnumItem k (CardReq.itemWord x))
      (ElemValue.forNumid numid)).enumItem k).toNat : Int) = ctl.values.getD k 0 := by
  have hlen : 4 * (ctl.values.take 256).length ≤ (ElemValue.forNumid numid).area.length := by
    simp only [List.length_take, ElemValue.area_forNumid, List.length_replicate, valueAreaBytes]
    omega
  rw [ElemValue.enumItem_foldl_setEnumItem _ _ hlen]
  split
  · rename_i hin
    have hk' : k < ctl.values.length := by simp at hin; omega
    have hget : (ctl.values.take 256).getD k 0 = ctl.values.getD k 0 := by
      simp [List.getD_eq_getElem?_getD, hk]
    obtain ⟨h₁, h₂⟩ := hfits _ (getD_mem hk')
    rw [hget, itemWord_toNat h₁ h₂]
  · rename_i hout
    have hk' : ctl.values.length ≤ k := by simp at hout; omega
    rw [ElemValue.enumItem_forNumid, List.getD_eq_default _ _ hk']
    rfl

theorem bytes_record (numid : UInt32) {k : Nat} (hk : k < maxByteValues) :
    ((ElemValue.forNumid numid).setBytes ctl.bytes).bytes.getD k 0 = ctl.bytes.getD k 0 := by
  simp only [ElemValue.setBytes, ElemValue.bytes, ElemValue.area_forNumid]
  simp only [List.getD_eq_getElem?_getD, List.getElem?_take, List.getElem?_append,
    List.getElem?_drop, List.getElem?_replicate, List.length_take, hk, if_true]
  unfold maxByteValues valueAreaBytes at *
  split_ifs <;> simp_all

end VirtualControl

end SoundCard.Virtual

namespace SoundCard.Virtual

open SoundCard.Control

section ReadModifyWrite

variable {v : VirtualCard} {c : Entry} {ctl : VirtualControl}

/-- Reading an integer element's record and writing it back with slot `i` changed to `x`,
a 64-bit number, stores `x` in place of the `i`-th value and keeps the others. -/
theorem rmw_integers (hr : v.failures .elemRead = none) (hw : v.failures .elemWrite = none)
    (hc : v.control? c.numid = some ctl)
    (ht : ElemType.ofRaw ctl.type = .int ∨ ElemType.ofRaw ctl.type = .bool ∨
      ElemType.ofRaw ctl.type = .int64)
    (hfits : ∀ x ∈ ctl.values, -9223372036854775808 ≤ x ∧ x < 9223372036854775808)
    {i : Nat} (hi : i < 128) {x : Int} (hx₀ : -9223372036854775808 ≤ x)
    (hx₁ : x < 9223372036854775808) :
    (ExceptT.run (Entry.readRecord VirtualCard.device >>= fun r =>
      Entry.writeRecord VirtualCard.device (r.setInteger i x))).run ⟨v, c⟩ =
      (.ok (), ⟨((v.bump .elemRead).bump .elemWrite).afterWrite c.numid
        { ctl with values := ctl.values.set i x }, c⟩) := by
  let r := (ctl.values.take 128).zipIdx.foldl (fun v (x, k) => v.setInteger k x)
    (ElemValue.forNumid c.numid)
  have hlen : r.area.length = valueAreaBytes :=
    (ElemValue.length_area_foldl_setInteger _ _).trans (by simp)
  have hid : (r.setInteger i x).id.numid = c.numid := by
    change r.id.numid = c.numid
    rw [ElemValue.id_foldl_setInteger]
    rfl
  have hread : (ExceptT.run (VirtualCard.device.elemRead (ElemValue.forNumid c.numid))).run v =
      (.ok r, v.bump .elemRead) := CardReq.run_elemRead_integers hr hc ht
  have hwrite := CardReq.run_elemWrite_integers (v := v.bump .elemRead) (r.setInteger i x)
    (by simpa using hw) (by rw [hid, VirtualCard.control?_bump]; exact hc) ht
  have hvalues : ctl.values.mapIdx (fun k y => if k < 128 then (r.setInteger i x).integer k else y) =
      ctl.values.set i x := by
    apply mapIdx_eq_set
    intro k hk
    by_cases hki : k = i
    · subst hki
      rw [if_pos hi, ElemValue.integer_setInteger_self (by rw [hlen]; unfold valueAreaBytes; omega),
        Entry.wrap64_of_bounds hx₀ hx₁, if_pos rfl]
    · rw [ElemValue.integer_setInteger_of_ne _ hki, if_neg hki]
      split
      · exact VirtualControl.integer_record hfits c.numid ‹_›
      · rfl
  rw [run_bind, run_readRecord _ hread]
  dsimp only
  rw [run_writeRecord _ hwrite, hid, hvalues]

/-- Reading an enumeration's record and writing it back with slot `i` changed to item `x`
stores `x` in place of the `i`-th item and keeps the others. -/
theorem rmw_enum (hr : v.failures .elemRead = none) (hw : v.failures .elemWrite = none)
    (hc : v.control? c.numid = some ctl) (ht : ElemType.ofRaw ctl.type = .enum)
    (hfits : ∀ x ∈ ctl.values, 0 ≤ x ∧ x < 4294967296) {i : Nat} (hi : i < 128) {x : Int}
    (hx₀ : 0 ≤ x) (hx₁ : x < 4294967296) :
    (ExceptT.run (Entry.readRecord VirtualCard.device >>= fun r =>
      Entry.writeRecord VirtualCard.device (r.setEnumItem i (UInt32.ofNat x.toNat)))).run ⟨v, c⟩ =
      (.ok (), ⟨((v.bump .elemRead).bump .elemWrite).afterWrite c.numid
        { ctl with values := ctl.values.set i x }, c⟩) := by
  let r := (ctl.values.take 256).zipIdx.foldl
    (fun v (x, k) => v.setEnumItem k (CardReq.itemWord x)) (ElemValue.forNumid c.numid)
  have hlen : r.area.length = valueAreaBytes :=
    (ElemValue.length_area_foldl_setEnumItem _ _ _).trans (by simp)
  have hid : (r.setEnumItem i (UInt32.ofNat x.toNat)).id.numid = c.numid := by
    change r.id.numid = c.numid
    rw [ElemValue.id_foldl_setEnumItem]
    rfl
  have hread : (ExceptT.run (VirtualCard.device.elemRead (ElemValue.forNumid c.numid))).run v =
      (.ok r, v.bump .elemRead) := CardReq.run_elemRead_enum hr hc ht
  have hwrite := CardReq.run_elemWrite_enum (v := v.bump .elemRead)
    (r.setEnumItem i (UInt32.ofNat x.toNat))
    (by simpa using hw) (by rw [hid, VirtualCard.control?_bump]; exact hc) ht
  have hword : ((UInt32.ofNat x.toNat).toNat : Int) = x := by
    have hsize : UInt32.size = 4294967296 := rfl
    rw [UInt32.toNat_ofNat_of_lt' (by rw [hsize]; omega)]
    omega
  have hvalues : ctl.values.mapIdx (fun k y =>
      if k < 256 then (((r.setEnumItem i (UInt32.ofNat x.toNat)).enumItem k).toNat : Int) else y) =
      ctl.values.set i x := by
    apply mapIdx_eq_set
    intro k hk
    by_cases hki : k = i
    · subst hki
      rw [if_pos (by omega),
        ElemValue.enumItem_setEnumItem_self (by rw [hlen]; unfold valueAreaBytes; omega), hword,
        if_pos rfl]
    · rw [ElemValue.enumItem_setEnumItem_of_ne _ hki, if_neg hki]
      split
      · exact VirtualControl.enumItem_record hfits c.numid ‹_›
      · rfl
  rw [run_bind, run_readRecord _ hread]
  dsimp only
  rw [run_writeRecord _ hwrite, hid, hvalues]

/-- Reading a byte element's record and writing it back with byte `i` changed changes byte
`i` of the stored bytes, when there is one, and keeps the others. -/
theorem rmw_bytes (hr : v.failures .elemRead = none) (hw : v.failures .elemWrite = none)
    (hc : v.control? c.numid = some ctl) (ht : ElemType.ofRaw ctl.type = .byte) {i : Nat}
    (hi : i < maxByteValues) (b : UInt8) :
    (ExceptT.run (Entry.readRecord VirtualCard.device >>= fun r =>
      Entry.writeRecord VirtualCard.device { r with area := r.area.set i b })).run ⟨v, c⟩ =
      (.ok (), ⟨((v.bump .elemRead).bump .elemWrite).afterWrite c.numid
        { ctl with bytes := ctl.bytes.set i b }, c⟩) := by
  have hread : (ExceptT.run (VirtualCard.device.elemRead (ElemValue.forNumid c.numid))).run v =
      (.ok ((ElemValue.forNumid c.numid).setBytes ctl.bytes), v.bump .elemRead) :=
    CardReq.run_elemRead_bytes hr hc ht
  have hwrite := CardReq.run_elemWrite_bytes (v := v.bump .elemRead)
    ({ (ElemValue.forNumid c.numid).setBytes ctl.bytes with
      area := ((ElemValue.forNumid c.numid).setBytes ctl.bytes).area.set i b })
    (by simpa using hw) (by rw [VirtualCard.control?_bump]; exact hc) ht
  rw [run_bind, run_readRecord _ hread]
  dsimp only
  rw [run_writeRecord _ hwrite, ElemValue.bytes_write_set c.numid ctl.bytes hi b]
  rfl

end ReadModifyWrite

end SoundCard.Virtual

namespace SoundCard.Control.Entry

/-- Whether value `index` of the element may be set to `x`. -/
def Admits (c : Entry) (index : Nat) (x : Int) : Prop :=
  index < c.valueLimit ∧
    match c.elemType with
    | .bool => True
    | .int | .int64 => c.info.integerMin ≤ x ∧ x ≤ c.info.integerMax
    | .enum => 0 ≤ x ∧ x < c.info.enumItems.toNat
    | .byte => 0 ≤ x ∧ x ≤ 255
    | .iec958 | .unknown => False

variable {c : Entry}

theorem hasValues_of_admits {i : Nat} {x : Int} (h : c.Admits i x) : c.hasValues = true := by
  obtain ⟨-, htype⟩ := h
  cases hte : c.elemType <;> simp only [hte] at htype <;> simp [hasValues, hte]

theorem checkIndex_of_lt {i : Nat} (h : i < c.valueLimit) : c.checkIndex i = .ok () := by
  simp only [checkIndex]
  rw [if_neg (by omega)]

theorem checkIndex_of_le {i : Nat} (h : c.valueLimit ≤ i) : ∃ e, c.checkIndex i = .error e := by
  simp only [checkIndex]
  rw [if_pos h]
  exact ⟨_, rfl⟩

theorem checkRange_of_not_mem {x : Int} (h : ¬(c.info.integerMin ≤ x ∧ x ≤ c.info.integerMax)) :
    ∃ e, c.checkRange x = .error e := by
  simp only [checkRange]
  rw [if_pos (by omega)]
  exact ⟨_, rfl⟩

/-- A refused value is refused before anything is sent, so the card and the entry are as
they were; this holds over any card. -/
theorem setValue_refused {σ : Type} (D : ControlDevice σ) (card : σ) {i : Nat} {x : Int}
    (h : ¬c.Admits i x) : ∃ e, (setValue D i x).exec card c = (.error e, ⟨card, c⟩) := by
  unfold OnCardM.exec setValue
  simp only [current, bind_assoc, run_bind, run_get, pure_bind]
  by_cases hhas : c.hasValues = true
  swap
  · rw [if_neg hhas, run_bind, run_throw]
    exact ⟨_, rfl⟩
  rw [if_pos hhas]
  by_cases hi : i < c.valueLimit
  swap
  · obtain ⟨e, he⟩ := checkIndex_of_le (Nat.le_of_not_lt hi)
    rw [he, run_check_error_bind]
    exact ⟨e, rfl⟩
  rw [checkIndex_of_lt hi, run_check_ok_bind]
  cases hte : c.elemType with
  | bool => exact absurd ⟨hi, by rw [hte]; trivial⟩ h
  | int | int64 =>
    have hr : ¬(c.info.integerMin ≤ x ∧ x ≤ c.info.integerMax) :=
      fun hr => h ⟨hi, by rw [hte]; exact hr⟩
    obtain ⟨e, he⟩ := checkRange_of_not_mem hr
    simp only [he, run_check_error_bind]
    exact ⟨e, rfl⟩
  | enum =>
    have hr : ¬(0 ≤ x ∧ x < c.info.enumItems.toNat) := fun hr => h ⟨hi, by rw [hte]; exact hr⟩
    simp only
    rw [if_pos (by omega), run_bind, run_throw]
    exact ⟨_, rfl⟩
  | byte =>
    have hr : ¬(0 ≤ x ∧ x ≤ 255) := fun hr => h ⟨hi, by rw [hte]; exact hr⟩
    simp only
    rw [if_pos (by omega), run_bind, run_throw]
    exact ⟨_, rfl⟩
  | iec958 | unknown => simp [hasValues, hte] at hhas

end SoundCard.Control.Entry

namespace SoundCard.Virtual

open SoundCard.Control

section Values

variable {v : VirtualCard} {c : Entry} {ctl : VirtualControl}

theorem valueLimit_lt_capacity {i : Nat} (hi : i < c.valueLimit) : i < c.elemType.capacity :=
  lt_of_lt_of_le hi (Nat.min_le_right _ _)

theorem fits_int64 (hfits : ctl.Fits) (ht : ElemType.ofRaw ctl.type ≠ .enum) :
    ∀ x ∈ ctl.values, -9223372036854775808 ≤ x ∧ x < 9223372036854775808 := by
  intro x hx
  have h := hfits x hx
  rwa [if_neg ht] at h

theorem fits_enum (hfits : ctl.Fits) (ht : ElemType.ofRaw ctl.type = .enum) :
    ∀ x ∈ ctl.values, 0 ≤ x ∧ x < 4294967296 := by
  intro x hx
  have h := hfits x hx
  rwa [if_pos ht] at h

/-- An admitted value is set on the virtual card by one read and one write, which store it
the way the element's type keeps it, in its slot only. -/
theorem setValue_exec (hr : v.failures .elemRead = none) (hw : v.failures .elemWrite = none)
    (hc : v.control? c.numid = some ctl) (ht : ElemType.ofRaw ctl.type = c.elemType)
    (hfits : ctl.Fits) {i : Nat} {x : Int} (h : c.Admits i x) :
    (Entry.setValue VirtualCard.device i x).exec v c =
      (.ok (), ⟨((v.bump .elemRead).bump .elemWrite).afterWrite c.numid
        (ctl.storeValue c.elemType i x), c⟩) := by
  obtain ⟨hi, htype⟩ := h
  have hcap := valueLimit_lt_capacity hi
  have hlo : -9223372036854775808 ≤ c.info.integerMin ∧ c.info.integerMin < 9223372036854775808 :=
    readI64_bounds c.info.area 0
  have hhi : -9223372036854775808 ≤ c.info.integerMax ∧ c.info.integerMax < 9223372036854775808 :=
    readI64_bounds c.info.area 8
  unfold OnCardM.exec Entry.setValue
  simp only [Entry.current, bind_assoc, run_bind, run_get, pure_bind]
  cases hte : c.elemType with
  | iec958 | unknown => rw [hte] at htype; exact htype.elim
  | bool =>
    rw [if_pos (by simp [Entry.hasValues, hte]), Entry.checkIndex_of_lt hi, run_check_ok_bind]
    rw [hte] at hcap ht
    have hb : -9223372036854775808 ≤ (if x ≠ 0 then 1 else 0 : Int) ∧
        (if x ≠ 0 then 1 else 0 : Int) < 9223372036854775808 := by split <;> omega
    exact rmw_integers hr hw hc (Or.inr (Or.inl ht)) (fits_int64 hfits (by rw [ht]; decide))
      hcap hb.1 hb.2
  | int =>
    rw [hte] at htype hcap ht
    rw [if_pos (by simp [Entry.hasValues, hte]), Entry.checkIndex_of_lt hi, run_check_ok_bind,
      Entry.checkRange_of_mem htype.1 htype.2, run_check_ok_bind]
    exact rmw_integers hr hw hc (Or.inl ht) (fits_int64 hfits (by rw [ht]; decide)) hcap
      (by omega) (by omega)
  | int64 =>
    rw [hte] at htype hcap ht
    have hcap' : i < 128 := lt_trans hcap (by decide)
    rw [if_pos (by simp [Entry.hasValues, hte]), Entry.checkIndex_of_lt hi, run_check_ok_bind,
      Entry.checkRange_of_mem htype.1 htype.2, run_check_ok_bind]
    exact rmw_integers hr hw hc (Or.inr (Or.inr ht)) (fits_int64 hfits (by rw [ht]; decide))
      hcap' (by omega) (by omega)
  | enum =>
    rw [hte] at htype hcap ht
    have hitems := c.info.enumItems.toNat_lt
    rw [if_pos (by simp [Entry.hasValues, hte]), Entry.checkIndex_of_lt hi, run_check_ok_bind]
    simp only
    rw [if_neg (by omega)]
    exact rmw_enum hr hw hc ht (fits_enum hfits ht) hcap htype.1 (by omega)
  | byte =>
    rw [hte] at htype hcap ht
    rw [if_pos (by simp [Entry.hasValues, hte]), Entry.checkIndex_of_lt hi, run_check_ok_bind]
    simp only
    rw [if_neg (by omega)]
    exact rmw_bytes hr hw hc ht hcap _

/-- A value of the virtual card is read by one read, and answers what the element holds in
its slot. -/
theorem getValue_exec (hr : v.failures .elemRead = none) (hc : v.control? c.numid = some ctl)
    (ht : ElemType.ofRaw ctl.type = c.elemType) (hfits : ctl.Fits) {i : Nat}
    (hi : i < c.valueLimit) (hhas : c.hasValues = true) :
    (Entry.getValue VirtualCard.device i).exec v c =
      (.ok (ctl.valueAt c.elemType i), ⟨v.bump .elemRead, c⟩) := by
  have hcap := valueLimit_lt_capacity hi
  unfold OnCardM.exec Entry.getValue
  simp only [Entry.current, bind_assoc, run_bind, run_get, pure_bind]
  rw [if_pos hhas, Entry.checkIndex_of_lt hi, run_check_ok_bind]
  cases hte : c.elemType with
  | iec958 | unknown => simp [Entry.hasValues, hte] at hhas
  | bool | int =>
    rw [hte] at hcap ht
    rw [run_bind, run_readRecord _ (CardReq.run_elemRead_integers hr hc (by simp [ht]))]
    simp only [run_pure, VirtualControl.valueAt]
    rw [VirtualControl.integer_record (fits_int64 hfits (by rw [ht]; decide)) _ hcap]
  | int64 =>
    rw [hte] at hcap ht
    rw [run_bind, run_readRecord _ (CardReq.run_elemRead_integers hr hc (by simp [ht]))]
    simp only [run_pure, VirtualControl.valueAt]
    rw [VirtualControl.integer_record (fits_int64 hfits (by rw [ht]; decide)) _
      (lt_trans hcap (by decide))]
  | enum =>
    rw [hte] at hcap ht
    rw [run_bind, run_readRecord _ (CardReq.run_elemRead_enum hr hc ht)]
    simp only [run_pure, VirtualControl.valueAt]
    rw [VirtualControl.enumItem_record (fits_enum hfits ht) _ (lt_trans hcap (by decide))]
  | byte =>
    rw [hte] at hcap ht
    rw [run_bind, run_readRecord _ (CardReq.run_elemRead_bytes hr hc ht)]
    simp only [run_pure, VirtualControl.valueAt]
    rw [VirtualControl.bytes_record _ hcap]

end Values

end SoundCard.Virtual

namespace SoundCard.Control.Entry

/-- Whether the first values of the element may be overwritten by `xs`. -/
def AdmitsArray (c : Entry) (xs : List Int) : Prop :=
  c.hasIntegers = true ∧ 0 < xs.length ∧ xs.length ≤ c.valueLimit ∧
    (c.elemType ≠ .bool → ∀ x ∈ xs, c.info.integerMin ≤ x ∧ x ≤ c.info.integerMax)

variable {σ : Type} {c : Entry}

theorem run_forM_checkRange_ok {xs : List Int} (h : ∀ x ∈ xs, c.info.integerMin ≤ x ∧ x ≤ c.info.integerMax)
    (s : OnCard σ Entry) :
    (ExceptT.run (xs.forM fun x => (OnCardM.check (c.checkRange x) : ControlM σ Unit))).run s =
      (.ok (), s) := by
  induction xs with
  | nil => rfl
  | cons x xs ih =>
    have hx := h x (List.mem_cons_self)
    rw [List.forM, checkRange_of_mem hx.1 hx.2, run_check_ok_bind]
    exact ih fun y hy => h y (List.mem_cons_of_mem x hy)

theorem run_forM_checkRange_error {xs : List Int}
    (h : ¬∀ x ∈ xs, c.info.integerMin ≤ x ∧ x ≤ c.info.integerMax) (s : OnCard σ Entry) :
    ∃ e, (ExceptT.run (xs.forM fun x => (OnCardM.check (c.checkRange x) : ControlM σ Unit))).run s =
      (.error e, s) := by
  induction xs with
  | nil => exact absurd (fun x hx => absurd hx List.not_mem_nil) h
  | cons x xs ih =>
    rw [List.forM]
    by_cases hx : c.info.integerMin ≤ x ∧ x ≤ c.info.integerMax
    · rw [checkRange_of_mem hx.1 hx.2, run_check_ok_bind]
      exact ih fun hall => h fun y hy => (List.mem_cons.1 hy).elim (fun hxy => hxy ▸ hx) (hall y)
    · obtain ⟨e, he⟩ := checkRange_of_not_mem hx
      rw [he, run_check_error_bind]
      exact ⟨e, rfl⟩

theorem checkCount_of_mem {n limit : Nat} (h : 0 < n ∧ n ≤ limit) :
    c.checkCount n limit = .ok () := by
  simp only [checkCount]
  rw [if_neg (by omega)]

theorem checkCount_of_not_mem {n limit : Nat} (h : ¬(0 < n ∧ n ≤ limit)) :
    ∃ e, c.checkCount n limit = .error e := by
  simp only [checkCount]
  rw [if_pos (by omega)]
  exact ⟨_, rfl⟩

/-- Values refused for an array write are refused before anything is sent, over any card. -/
theorem setArray_refused (D : ControlDevice σ) (card : σ) {xs : List Int}
    (h : ¬c.AdmitsArray xs) : ∃ e, (setArray D xs).exec card c = (.error e, ⟨card, c⟩) := by
  unfold OnCardM.exec setArray
  simp only [current, bind_assoc, run_bind, run_get, pure_bind]
  by_cases hint : c.hasIntegers = true
  swap
  · rw [if_neg hint, run_bind, run_throw]
    exact ⟨_, rfl⟩
  rw [if_pos hint]
  by_cases hcount : 0 < xs.length ∧ xs.length ≤ c.valueLimit
  swap
  · obtain ⟨e, he⟩ := checkCount_of_not_mem hcount
    rw [he, run_check_error_bind]
    exact ⟨e, rfl⟩
  rw [checkCount_of_mem hcount, run_check_ok_bind]
  have hrange : c.elemType ≠ .bool ∧ ¬∀ x ∈ xs, c.info.integerMin ≤ x ∧ x ≤ c.info.integerMax := by
    by_cases hb : c.elemType = .bool
    · exact absurd ⟨hint, hcount.1, hcount.2, fun hnb => absurd hb hnb⟩ h
    · exact ⟨hb, fun hall => h ⟨hint, hcount.1, hcount.2, fun _ => hall⟩⟩
  rw [if_pos (bne_iff_ne.2 hrange.1), run_bind]
  obtain ⟨e, he⟩ := run_forM_checkRange_error hrange.2 ⟨card, c⟩
  rw [he]
  exact ⟨e, rfl⟩

end SoundCard.Control.Entry

namespace SoundCard.Virtual

open SoundCard.Control

section Arrays

variable {v : VirtualCard} {c : Entry} {ctl : VirtualControl}

/-- Writing back an integer element's record with its first slots changed to `xs` stores `xs`
as 64-bit words and keeps the rest. -/
theorem rmw_array (hr : v.failures .elemRead = none) (hw : v.failures .elemWrite = none)
    (hc : v.control? c.numid = some ctl)
    (ht : ElemType.ofRaw ctl.type = .int ∨ ElemType.ofRaw ctl.type = .bool ∨
      ElemType.ofRaw ctl.type = .int64)
    (hfits : ∀ x ∈ ctl.values, -9223372036854775808 ≤ x ∧ x < 9223372036854775808)
    {xs : List Int} (hlen : xs.length ≤ 128) :
    (ExceptT.run (Entry.readRecord VirtualCard.device >>= fun r =>
      Entry.writeRecord VirtualCard.device (xs.zipIdx.foldl (fun v (x, k) => v.setInteger k x) r))).run
        ⟨v, c⟩ =
      (.ok (), ⟨((v.bump .elemRead).bump .elemWrite).afterWrite c.numid (ctl.storeArray xs), c⟩) := by
  let r := (ctl.values.take 128).zipIdx.foldl (fun v (x, k) => v.setInteger k x)
    (ElemValue.forNumid c.numid)
  let r' := xs.zipIdx.foldl (fun v (x, k) => v.setInteger k x) r
  have hlenr : r.area.length = valueAreaBytes :=
    (ElemValue.length_area_foldl_setInteger _ _).trans (by simp)
  have hid : r'.id.numid = c.numid := by
    rw [ElemValue.id_foldl_setInteger, ElemValue.id_foldl_setInteger]
    rfl
  have hread : (ExceptT.run (VirtualCard.device.elemRead (ElemValue.forNumid c.numid))).run v =
      (.ok r, v.bump .elemRead) := CardReq.run_elemRead_integers hr hc ht
  have hwrite := CardReq.run_elemWrite_integers (v := v.bump .elemRead) r'
    (by simpa using hw) (by rw [hid, VirtualCard.control?_bump]; exact hc) ht
  have hvalues : ctl.values.mapIdx (fun k y => if k < 128 then r'.integer k else y) =
      ctl.values.mapIdx (fun k y => if k < xs.length then Entry.wrap64 (xs.getD k 0) else y) := by
    apply mapIdx_congr_getD
    intro k hk
    rw [ElemValue.integer_foldl_setInteger xs (by rw [hlenr]; unfold valueAreaBytes; omega)]
    by_cases hk128 : k < 128
    · rw [if_pos hk128]
      split
      · rfl
      · exact VirtualControl.integer_record hfits c.numid hk128
    · rw [if_neg hk128, if_neg (by omega)]
  rw [run_bind, run_readRecord _ hread]
  dsimp only
  rw [run_writeRecord _ hwrite, hid, hvalues]
  rfl

/-- Admitted values are written over the first values of the virtual card's element by one
read and one write. -/
theorem setArray_exec (hr : v.failures .elemRead = none) (hw : v.failures .elemWrite = none)
    (hc : v.control? c.numid = some ctl) (ht : ElemType.ofRaw ctl.type = c.elemType)
    (hfits : ctl.Fits) {xs : List Int} (h : c.AdmitsArray xs) :
    (Entry.setArray VirtualCard.device xs).exec v c =
      (.ok (), ⟨((v.bump .elemRead).bump .elemWrite).afterWrite c.numid (ctl.storeArray xs), c⟩) := by
  obtain ⟨hint, hpos, hle, hrange⟩ := h
  have htype : ElemType.ofRaw ctl.type = .int ∨ ElemType.ofRaw ctl.type = .bool ∨
      ElemType.ofRaw ctl.type = .int64 := by
    rw [ht]
    simp only [Entry.hasIntegers, Bool.or_eq_true, beq_iff_eq] at hint
    tauto
  have hcap : xs.length ≤ 128 := by
    have hlim : c.elemType.capacity ≤ 128 := by
      rw [← ht]
      rcases htype with h' | h' | h' <;> rw [h'] <;> decide
    exact le_trans hle (le_trans (Nat.min_le_right _ _) hlim)
  have hf := fits_int64 hfits (by rcases htype with h' | h' | h' <;> rw [h'] <;> decide)
  unfold OnCardM.exec Entry.setArray
  simp only [Entry.current, bind_assoc, run_bind, run_get, pure_bind]
  rw [if_pos hint, Entry.checkCount_of_mem ⟨hpos, hle⟩, run_check_ok_bind]
  by_cases hb : c.elemType = .bool
  · rw [if_neg (by simp [hb])]
    exact rmw_array hr hw hc htype hf hcap
  · rw [if_pos (bne_iff_ne.2 hb), run_bind, Entry.run_forM_checkRange_ok (hrange hb)]
    exact rmw_array hr hw hc htype hf hcap

end Arrays

end SoundCard.Virtual

namespace SoundCard.Virtual

open SoundCard.Control

namespace VirtualControl

variable {ctl : VirtualControl}

@[simp] theorem type_storeValue (t : ElemType) (i : Nat) (x : Int) :
    (ctl.storeValue t i x).type = ctl.type := by
  cases t <;> rfl

theorem valueAt_storeValue_of_ne (t : ElemType) {i j : Nat} (hji : j ≠ i) (x : Int) :
    (ctl.storeValue t i x).valueAt t j = ctl.valueAt t j := by
  have hset : ∀ {α : Type} (l : List α) (a d : α), (l.set i a).getD j d = l.getD j d := by
    intro α l a d
    simp only [List.getD_eq_getElem?_getD, List.getElem?_set, Ne.symm hji, if_false]
  cases t <;> simp only [storeValue, valueAt, hset]

/-- A value set in a slot the element stores is answered as its type keeps it. -/
theorem valueAt_storeValue_self (t : ElemType) {i : Nat} (hi : i < ctl.slots t) (x : Int) :
    (ctl.storeValue t i x).valueAt t i = storedAs t x := by
  cases t with
  | byte =>
    have hi' : i < ctl.bytes.length := by simpa [slots] using hi
    simp only [storeValue, valueAt, storedAs, List.getD_eq_getElem?_getD,
      List.getElem?_set_self hi', Option.getD_some]
  | bool =>
    have hi' : i < ctl.values.length := by simpa [slots] using hi
    simp only [storeValue, valueAt, storedAs, List.getD_eq_getElem?_getD,
      List.getElem?_set_self hi', Option.getD_some]
    split <;> simp_all
  | int | enum | iec958 | int64 | unknown =>
    have hi' : i < ctl.values.length := by simpa [slots] using hi
    simp only [storeValue, valueAt, storedAs, List.getD_eq_getElem?_getD,
      List.getElem?_set_self hi', Option.getD_some]

theorem storeValue_of_le (t : ElemType) {i : Nat} (hi : ctl.slots t ≤ i) (x : Int) :
    ctl.storeValue t i x = ctl := by
  cases t <;> simp only [slots, reduceCtorEq, if_false, if_true] at hi <;>
    simp [storeValue, List.set_eq_of_length_le hi]

end VirtualControl

namespace VirtualCard

variable {w : VirtualCard}

@[simp] theorem failures_afterWrite (numid : UInt32) (c' : VirtualControl) :
    (w.afterWrite numid c').failures = w.failures := by
  unfold afterWrite
  dsimp only
  split <;> rfl

theorem control?_setControl (c' : VirtualControl) {numid : UInt32} {c : VirtualControl}
    (hc : w.control? numid = some c) : (w.setControl numid c').control? numid = some c' := by
  unfold control? at hc ⊢
  split at hc
  · cases hc
  · rename_i hne
    rw [if_neg hne]
    have hlt := (List.getElem?_eq_some_iff.1 hc).1
    simp [setControl, List.getElem?_set_self hlt]

theorem control?_afterWrite (c' : VirtualControl) {numid : UInt32} {c : VirtualControl}
    (hc : w.control? numid = some c) :
    (w.afterWrite numid c').control? numid = some c' := by
  have hset := control?_setControl c' hc
  unfold afterWrite
  dsimp only
  split
  · exact hset
  · exact hset

end VirtualCard

end SoundCard.Virtual

namespace SoundCard.Virtual

open SoundCard.Control

namespace VirtualControl

variable {ctl : VirtualControl} {c : Entry}

/-- An admitted value fits the word the element's type keeps it in, so setting it keeps the
stored values fitting. -/
theorem fits_storeValue (hfits : ctl.Fits) (ht : ElemType.ofRaw ctl.type = c.elemType)
    {i : Nat} {x : Int} (h : c.Admits i x) : (ctl.storeValue c.elemType i x).Fits := by
  obtain ⟨-, htype⟩ := h
  have hlo : -9223372036854775808 ≤ c.info.integerMin ∧ c.info.integerMin < 9223372036854775808 :=
    readI64_bounds c.info.area 0
  have hhi : -9223372036854775808 ≤ c.info.integerMax ∧ c.info.integerMax < 9223372036854775808 :=
    readI64_bounds c.info.area 8
  have hitems := c.info.enumItems.toNat_lt
  have hnew : ∀ {x' y : Int}, y ∈ ctl.values.set i x' → y ∈ ctl.values ∨ y = x' :=
    fun hy => List.mem_or_eq_of_mem_set hy
  intro y hy
  rw [type_storeValue, ht]
  have hold := hfits
  unfold Fits at hold
  rw [ht] at hold
  cases hte : c.elemType with
  | iec958 | unknown => rw [hte] at htype; exact htype.elim
  | byte =>
    rw [hte] at hold
    exact hold y (by simpa [storeValue, hte] using hy)
  | bool =>
    rw [hte] at hold
    rcases hnew (by simpa [storeValue, hte] using hy) with hy | rfl
    · exact hold y hy
    · simp only [reduceCtorEq, if_false]
      split <;> omega
  | int | int64 =>
    rw [hte] at hold htype
    rcases hnew (by simpa [storeValue, hte] using hy) with hy | rfl
    · exact hold y hy
    · simp only [reduceCtorEq, if_false]
      omega
  | enum =>
    rw [hte] at hold htype
    rcases hnew (by simpa [storeValue, hte] using hy) with hy | rfl
    · exact hold y hy
    · simp only [if_true]
      omega

end VirtualControl

end SoundCard.Virtual

namespace SoundCard.Virtual

open SoundCard.Control

/-- The master volume of the typical card, as an entry reads it: values from 0 to 31, two
of them. -/
def masterVolume : Entry :=
  Entry.ofInfo ({ ElemInfo.forNumid 1 with type := 2, count := 2 }.setIntegerRange 0 31 1)

/-- The capture source of the typical card, as an entry that has fetched no names: an
enumeration of three items. -/
def captureSource : Entry :=
  Entry.ofInfo ({ ElemInfo.forNumid 3 with type := 3, count := 1 }.setEnumItems 3)

/-- The coefficients of the typical card, as an entry reads them: sixteen bytes read through
TLV. -/
def dspCoefficients : Entry :=
  Entry.ofInfo { ElemInfo.forNumid 6 with
    type := 4, count := 16, access := Access.readWrite ||| Access.tlvReadWrite }

end SoundCard.Virtual
