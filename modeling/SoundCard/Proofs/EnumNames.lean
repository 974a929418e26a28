import Mathlib
import SoundCard.Proofs.ValueAccess
/-! The item names of an enumeration, fetched once on first use and dropped by a refresh; a
failed fetch keeps none. -/
namespace SoundCard.Control

/-- An item name as it reads back from the info record that carries it: at most 63 bytes,
cut at the first NUL and decoded lossily. -/
def itemText (name : String) : String := Text.cstrFixed (fixedText name itemNameWidth)

/-- The text of an item name is its first 63 bytes up to a NUL, decoded lossily. -/
theorem itemText_eq (name : String) :
    itemText name = Text.ofBytesLossy (((Text.utf8 name).take 63).takeWhile (· != 0)) := by
  unfold itemText Text.cstrFixed fixedText itemNameWidth
  have hpad : (List.replicate (64 - ((Text.utf8 name).take (64 - 1)).length) (0 : UInt8)).takeWhile
      (· != 0) = [] := by
    have hpos : 0 < 64 - ((Text.utf8 name).take (64 - 1)).length := by
      rw [List.length_take]
      omega
    obtain ⟨m, hm⟩ := Nat.exists_eq_succ_of_ne_zero (Nat.pos_iff_ne_zero.1 hpos)
    rw [hm, List.replicate_succ, List.takeWhile_cons]
    rfl
  rw [List.takeWhile_append, hpad, List.append_nil]
  split
  · rename_i hfull
    exact congrArg Text.ofBytesLossy ((List.takeWhile_prefix _).eq_of_length hfull).symm
  · rfl

theorem getD_putField_of_lt {area : List UInt8} {off n p : Nat} (field : List UInt8)
    (h : p < off) (hoff : off ≤ area.length) : (putField area off n field).getD p 0 = area.getD p 0 := by
  have htake : (area.take off).getD p 0 = area.getD p 0 := by
    simp only [List.getD_eq_getElem?_getD, List.getElem?_take, h, if_true]
  unfold putField
  rw [List.append_assoc, List.getD_append _ _ 0 p (by simp; omega), htake]

namespace ElemInfo

theorem enumName_setEnumName {i : ElemInfo} (h : 8 ≤ i.area.length) (name : String) :
    (i.setEnumName name).enumName = itemText name := by
  unfold enumName setEnumName itemText
  rw [getField_putField h (length_fixedText _ _ (by decide))]

@[simp] theorem length_area_setEnumItem (i : ElemInfo) (n : UInt32) :
    (i.setEnumItem n).area.length = i.area.length :=
  length_writeLE _ _ _ _

@[simp] theorem length_area_setEnumItems (i : ElemInfo) (n : UInt32) :
    (i.setEnumItems n).area.length = i.area.length :=
  length_writeLE _ _ _ _

@[simp] theorem area_forNumid (numid : UInt32) :
    (forNumid numid).area = List.replicate infoAreaBytes 0 := rfl

theorem enumItem_setEnumItem_forNumid (numid : UInt32) (n : UInt32) :
    ((forNumid numid).setEnumItem n).enumItem = n := by
  unfold enumItem setEnumItem
  exact readU32_writeU32 (by simp [infoAreaBytes]) n

theorem enumItems_setEnumName {i : ElemInfo} (h : 8 ≤ i.area.length) (name : String) :
    (i.setEnumName name).enumItems = i.enumItems := by
  unfold enumItems setEnumName readU32
  congr 1
  apply readLE_congr
  intro k hk
  exact getD_putField_of_lt _ (by omega) h

theorem enumItems_setEnumItems {i : ElemInfo} (h : 4 ≤ i.area.length) (n : UInt32) :
    (i.setEnumItems n).enumItems = n := by
  unfold enumItems setEnumItems
  exact readU32_writeU32 h n

end ElemInfo

section Traversal

variable {ε S α β : Type}

theorem run_map (g : α → β) (x : ExceptT ε (StateM S) α) (s : S) :
    (ExceptT.run (g <$> x)).run s = match (ExceptT.run x).run s with
      | (.ok a, s') => (.ok (g a), s')
      | (.error e, s') => (.error e, s') := by
  rw [← bind_pure_comp, run_bind]
  rcases (ExceptT.run x).run s with ⟨_ | a, s'⟩ <;> rfl

theorem run_mapM_ok {f : α → ExceptT ε (StateM S) β} {g : α → β} {step : S → S}
    {P : S → Prop} (hstep : ∀ s, P s → P (step s)) :
    ∀ (l : List α), (∀ x ∈ l, ∀ s, P s → (ExceptT.run (f x)).run s = (.ok (g x), step s)) →
      ∀ s, P s → (ExceptT.run (l.mapM f)).run s = (.ok (l.map g), step^[l.length] s) := by
  intro l
  induction l with
  | nil => intro _ s _; rfl
  | cons x l ih =>
    intro h s hs
    rw [List.mapM_cons, run_bind, h x List.mem_cons_self s hs]
    dsimp only
    rw [run_bind, ih (fun y hy => h y (List.mem_cons_of_mem x hy)) (step s) (hstep s hs)]
    rfl

theorem map_range_getD (g : α → β) {l : List α} {k : Nat} (hk : k ≤ l.length) (d : α) :
    (List.range k).map (fun j => g (l.getD j d)) = (l.take k).map g := by
  apply List.ext_getElem (by simp; omega)
  intro j h₁ h₂
  simp only [List.getElem_map, List.getElem_range, List.getElem_take]
  rw [List.getD_eq_getElem]

end Traversal

section Lookups

/-! Naming and selecting items, given what filling the names did: both check the element
is an enumeration, fill the names, and then read them. -/

variable {σ : Type} (D : ControlDevice σ) {card : σ} {c : Entry}

theorem itemName_past (hcT : c.elemType = .enum) {j : Nat} (hj : c.info.enumItems.toNat ≤ j) :
    ∃ e, (Entry.itemName D j).exec card c = (.error e, ⟨card, c⟩) := by
  unfold OnCardM.exec Entry.itemName
  simp only [Entry.current, bind_assoc, run_bind, run_get, pure_bind, hcT, if_true, ge_iff_le,
    hj, run_throw]
  exact ⟨_, rfl⟩

theorem itemName_of_fill_error (hcT : c.elemType = .enum) {j : Nat}
    (hj : j < c.info.enumItems.toNat) {e : MixerError} {s : OnCard σ Entry}
    (hfill : (Entry.fillItemNames D).exec card c = (.error e, s)) :
    (Entry.itemName D j).exec card c = (.error e, s) := by
  unfold OnCardM.exec at hfill ⊢
  unfold Entry.itemName
  simp only [Entry.current, bind_assoc, run_bind, run_get, pure_bind, hcT, if_true, ge_iff_le,
    Nat.not_le.2 hj, if_false]
  rw [hfill]

theorem itemName_of_fill_ok (hcT : c.elemType = .enum) {j : Nat}
    (hj : j < c.info.enumItems.toNat) {s : OnCard σ Entry}
    (hfill : (Entry.fillItemNames D).exec card c = (.ok (), s)) {n : String}
    (hn : s.subject.enumNames.bind (·[j]?) = some n) :
    (Entry.itemName D j).exec card c = (.ok n, s) := by
  unfold OnCardM.exec at hfill ⊢
  unfold Entry.itemName
  simp only [Entry.current, bind_assoc, run_bind, run_get, pure_bind, hcT, if_true, ge_iff_le,
    Nat.not_le.2 hj, if_false]
  rw [hfill]
  simp only [hn, run_pure]

theorem selectItem_of_fill_error (hcT : c.elemType = .enum) (name : String) {e : MixerError}
    {s : OnCard σ Entry} (hfill : (Entry.fillItemNames D).exec card c = (.error e, s)) :
    (Entry.selectItem D name).exec card c = (.error e, s) := by
  unfold OnCardM.exec at hfill ⊢
  unfold Entry.selectItem
  simp only [Entry.current, bind_assoc, run_bind, run_get, pure_bind, hcT, if_true]
  rw [hfill]

theorem selectItem_of_fill_absent (hcT : c.elemType = .enum) {name : String} {s : OnCard σ Entry}
    (hfill : (Entry.fillItemNames D).exec card c = (.ok (), s))
    (hnone : s.subject.enumNames.bind (·.idxOf? name) = none) :
    ∃ e, (Entry.selectItem D name).exec card c = (.error e, s) := by
  unfold OnCardM.exec at hfill ⊢
  unfold Entry.selectItem
  simp only [Entry.current, bind_assoc, run_bind, run_get, pure_bind, hcT, if_true]
  rw [hfill]
  simp only [hnone, run_throw]
  exact ⟨_, rfl⟩

theorem selectItem_of_fill_found (hcT : c.elemType = .enum) {name : String} {s : OnCard σ Entry}
    (hfill : (Entry.fillItemNames D).exec card c = (.ok (), s)) {pos : Nat}
    (hpos : s.subject.enumNames.bind (·.idxOf? name) = some pos) :
    (Entry.selectItem D name).exec card c = (ExceptT.run (Entry.readRecord D >>= fun r =>
      Entry.writeRecord D (r.setEnumItem 0 (UInt32.ofNat pos)))).run s := by
  unfold OnCardM.exec at hfill ⊢
  unfold Entry.selectItem
  simp only [Entry.current, bind_assoc, run_bind, run_get, pure_bind, hcT, if_true]
  rw [hfill]
  simp only [hpos]
  rw [run_bind]

end Lookups

end SoundCard.Control

namespace SoundCard.Virtual

open SoundCard.Control

namespace VirtualCard

/-- The card answers info requests about element `numid`: they are not set to fail. -/
def ServesInfo (v : VirtualCard) (numid : UInt32) : Prop :=
  v.failures .elemInfo = none ∧ v.failingInfo ≠ some numid

instance (v : VirtualCard) (numid : UInt32) : Decidable (v.ServesInfo numid) :=
  inferInstanceAs (Decidable (_ ∧ _))

/-- The card with `n` more requests of kind `t` counted. -/
def bumps (v : VirtualCard) (t : CardCall) (n : Nat) : VirtualCard :=
  { v with calls := fun u => if u = t then v.calls u + n else v.calls u }

variable {v : VirtualCard} {t : CardCall}

@[simp] theorem bumps_zero : v.bumps t 0 = v := by
  unfold bumps
  congr
  funext u
  split <;> rfl

theorem bumps_bump (n : Nat) : (v.bumps t n).bump t = v.bumps t (n + 1) := by
  unfold bumps bump
  congr 1
  funext u
  by_cases hu : u = t
  · simp [hu]
    omega
  · simp [hu]

@[simp] theorem calls_bumps_self (n : Nat) : (v.bumps t n).calls t = v.calls t + n := by
  simp [bumps]

@[simp] theorem failures_bumps (n : Nat) : (v.bumps t n).failures = v.failures := rfl

@[simp] theorem failingInfo_bumps (n : Nat) : (v.bumps t n).failingInfo = v.failingInfo := rfl

@[simp] theorem failingInfo_bump : (v.bump t).failingInfo = v.failingInfo := rfl

@[simp] theorem control?_bumps (n : Nat) (numid : UInt32) :
    (v.bumps t n).control? numid = v.control? numid := rfl

@[simp] theorem servesInfo_bumps (n : Nat) (numid : UInt32) :
    (v.bumps t n).ServesInfo numid ↔ v.ServesInfo numid := Iff.rfl

@[simp] theorem servesInfo_bump (numid : UInt32) :
    (v.bump t).ServesInfo numid ↔ v.ServesInfo numid := Iff.rfl

theorem iterate_bump {α : Type} (a : α) (n : Nat) :
    (fun s : OnCard VirtualCard α => ({ s with card := s.card.bump t } : OnCard VirtualCard α))^[n]
      ⟨v, a⟩ = ⟨v.bumps t n, a⟩ := by
  induction n with
  | zero => simp
  | succ n ih => rw [Function.iterate_succ_apply', ih, bumps_bump]

end VirtualCard

namespace CardReq

variable {v : VirtualCard} {ctl : VirtualControl}

theorem run_control (n : UInt32) (v : VirtualCard) :
    (ExceptT.run (control n)).run v = match v.control? n with
      | some c => (.ok c, v)
      | none => (.error (.os Os.Errno.noEntry), v) := by
  unfold control
  simp only [run_bind, run_get]
  rcases v.control? n with _ | c <;> rfl

theorem run_elemInfo_enum (info : ElemInfo) (hs : v.ServesInfo info.id.numid)
    (hc : v.control? info.id.numid = some ctl)
    (ht : ElemType.ofRaw ctl.type = .enum) :
    (ExceptT.run (elemInfo info)).run v =
      (match ctl.items[info.enumItem.toNat]? with
        | some n => .ok (({ info with
              id := v.idOf info.id.numid, type := ctl.type, access := ctl.access,
              count := ctl.count }.setEnumItems (UInt32.ofNat ctl.items.length)).setEnumName n)
        | none => .error (.os Os.Errno.invalid), v.bump .elemInfo) := by
  obtain ⟨hf, hfi⟩ := hs
  unfold elemInfo
  rw [run_enter_bind, hf]
  simp only [run_bind, run_get, VirtualCard.failingInfo_bump, hfi, if_false, run_control,
    VirtualCard.control?_bump, hc, ht, VirtualCard.idOf_bump]
  rcases ctl.items[info.enumItem.toNat]? with _ | n <;> rfl

theorem run_elemInfo_refused (info : ElemInfo) (h : ¬v.ServesInfo info.id.numid) :
    ∃ e, (ExceptT.run (elemInfo info)).run v = (.error e, v.bump .elemInfo) := by
  unfold elemInfo
  rw [run_enter_bind]
  rcases hf : v.failures .elemInfo with _ | n
  · have hfi : v.failingInfo = some info.id.numid := by
      by_contra hne
      exact h ⟨hf, hne⟩
    simp only [run_bind, run_get, VirtualCard.failingInfo_bump, hfi, if_true, run_throw]
    exact ⟨_, rfl⟩
  · exact ⟨_, rfl⟩

end CardReq

section Fetch

variable {v : VirtualCard} {c : Entry} {ctl : VirtualControl}

/-- Asking for item `j` of an enumeration the card serves answers the item's name as its
record carries it, and counts one info request. -/
theorem run_fetchItem {α : Type} (context : String) {numid : UInt32} (hs : v.ServesInfo numid)
    (hc : v.control? numid = some ctl) (ht : ElemType.ofRaw ctl.type = .enum) {j : Nat}
    (hj : j < ctl.items.length) (hj32 : j < 4294967296) (a : α) :
    (ExceptT.run ((·.enumName) <$> OnCardM.ask context (VirtualCard.device.elemInfo
        ((ElemInfo.forNumid numid).setEnumItem (UInt32.ofNat j))))).run ⟨v, a⟩ =
      (.ok (itemText ctl.items[j]), ⟨v.bump .elemInfo, a⟩) := by
  have hsize : UInt32.size = 4294967296 := rfl
  have hitem : ((ElemInfo.forNumid numid).setEnumItem (UInt32.ofNat j)).enumItem.toNat = j := by
    rw [ElemInfo.enumItem_setEnumItem_forNumid, UInt32.toNat_ofNat_of_lt' (by rw [hsize]; exact hj32)]
  have hinfo : (ExceptT.run (VirtualCard.device.elemInfo
      ((ElemInfo.forNumid numid).setEnumItem (UInt32.ofNat j)))).run v = _ :=
    CardReq.run_elemInfo_enum _ hs hc ht
  rw [hitem, List.getElem?_eq_getElem hj] at hinfo
  rw [run_map, run_ask, hinfo]
  dsimp only
  rw [ElemInfo.enumName_setEnumName (by simp [infoAreaBytes])]

theorem fill_cached {σ : Type} (D : ControlDevice σ) (card : σ) {ns : List String}
    (hcache : c.enumNames = some ns) :
    (Entry.fillItemNames D).exec card c = (.ok (), ⟨card, c⟩) := by
  unfold OnCardM.exec Entry.fillItemNames
  simp only [Entry.current, bind_assoc, run_bind, run_get, pure_bind, hcache, Option.isSome_some]
  rfl

/-- Without kept names, and with the card serving the element's info requests, filling
asks for every item once, in order, and keeps their names. -/
theorem fill_fetch (hcache : c.enumNames = none)
    (hs : v.ServesInfo c.numid ∨ c.info.enumItems.toNat = 0)
    (hc : v.control? c.numid = some ctl) (ht : ElemType.ofRaw ctl.type = .enum)
    (hk : c.info.enumItems.toNat ≤ ctl.items.length) :
    (Entry.fillItemNames VirtualCard.device).exec v c =
      (.ok (), ⟨v.bumps .elemInfo c.info.enumItems.toNat,
        { c with enumNames := some ((ctl.items.take c.info.enumItems.toNat).map itemText) }⟩) := by
  unfold OnCardM.exec Entry.fillItemNames
  simp only [Entry.current, bind_assoc, run_bind, run_get, pure_bind, hcache, Option.isSome_none,
    Bool.false_eq_true, if_false]
  have hstep : ∀ s : OnCard VirtualCard Entry, (∃ n, s = ⟨v.bumps .elemInfo n, c⟩) →
      ∃ n, { s with card := s.card.bump .elemInfo } = ⟨v.bumps .elemInfo n, c⟩ := by
    rintro s ⟨n, rfl⟩
    exact ⟨n + 1, by rw [← VirtualCard.bumps_bump]⟩
  rw [run_mapM_ok (g := fun j => itemText (ctl.items.getD j "")) hstep _ ?_ _ ⟨0, by simp⟩]
  · simp only [List.length_range, VirtualCard.iterate_bump, run_modify]
    rw [map_range_getD _ hk]
  · rintro j hj s ⟨n, rfl⟩
    have hjk : j < c.info.enumItems.toNat := List.mem_range.1 hj
    have hserv : (v.bumps .elemInfo n).ServesInfo c.numid := hs.resolve_right (by omega)
    rw [run_fetchItem _ hserv (by rw [VirtualCard.control?_bumps]; exact hc) ht (by omega)
      (by have := c.info.enumItems.toNat_lt; omega), List.getD_eq_getElem]

/-- Without kept names, a card that refuses the element's info requests fails the first
one: one request is counted and nothing is kept, so the next access asks again. -/
theorem fill_refused (hcache : c.enumNames = none) (hs : ¬v.ServesInfo c.numid)
    (hk : 0 < c.info.enumItems.toNat) :
    ∃ e, (Entry.fillItemNames VirtualCard.device).exec v c = (.error e, ⟨v.bump .elemInfo, c⟩) := by
  unfold OnCardM.exec Entry.fillItemNames
  simp only [Entry.current, bind_assoc, run_bind, run_get, pure_bind, hcache, Option.isSome_none,
    Bool.false_eq_true, if_false]
  obtain ⟨e, he⟩ := CardReq.run_elemInfo_refused
    ((ElemInfo.forNumid c.numid).setEnumItem (UInt32.ofNat 0)) hs
  have hfirst : (ExceptT.run ((·.enumName) <$> OnCardM.ask s!"cannot get item {0} of '{c.name}'"
      (VirtualCard.device.elemInfo ((ElemInfo.forNumid c.numid).setEnumItem (UInt32.ofNat 0))))).run
        ⟨v, c⟩ = (.error (.driver s!"cannot get item {0} of '{c.name}'" e), ⟨v.bump .elemInfo, c⟩) := by
    rw [run_map, run_ask]
    erw [he]
  obtain ⟨m, hm⟩ := Nat.exists_eq_succ_of_ne_zero (Nat.pos_iff_ne_zero.1 hk)
  simp only [hm, List.range_succ_eq_map, List.mapM_cons]
  rw [run_bind, hfirst]
  exact ⟨_, rfl⟩

theorem enumItem_forNumid (numid : UInt32) : (ElemInfo.forNumid numid).enumItem = 0 := by
  unfold ElemInfo.enumItem readU32
  rw [ElemInfo.area_forNumid, readLE_replicate_zero]
  rfl

/-- Refreshing an enumeration the card serves reads its record once and keeps no names. -/
theorem update_exec (hs : v.ServesInfo c.numid) (hc : v.control? c.numid = some ctl)
    (ht : ElemType.ofRaw ctl.type = .enum) (hne : ctl.items ≠ []) :
    ∃ c', (Entry.update VirtualCard.device).exec v c = (.ok (), ⟨v.bump .elemInfo, c'⟩) ∧
      c'.numid = c.numid ∧ c'.elemType = .enum ∧
      c'.info.enumItems = UInt32.ofNat ctl.items.length ∧ c'.enumNames = none := by
  obtain ⟨n, rest, hitems⟩ := List.exists_cons_of_ne_nil hne
  have hinfo : (ExceptT.run (VirtualCard.device.elemInfo (ElemInfo.forNumid c.numid))).run v = _ :=
    CardReq.run_elemInfo_enum (ElemInfo.forNumid c.numid) hs hc ht
  rw [enumItem_forNumid, hitems] at hinfo
  unfold OnCardM.exec Entry.update
  simp only [Entry.current, bind_assoc, run_bind, run_get, pure_bind]
  rw [run_ask, hinfo]
  refine ⟨_, rfl, VirtualCard.idOf_numid _, ht, ?_, rfl⟩
  dsimp only [Entry.ofInfo]
  rw [ElemInfo.enumItems_setEnumName (by simp [infoAreaBytes]),
    ElemInfo.enumItems_setEnumItems (by simp [infoAreaBytes]), hitems]

/-- A refresh the card does not answer fails after one counted request, and keeps the
entry as it was. -/
theorem update_refused (hc : v.control? c.numid = some ctl) (ht : ElemType.ofRaw ctl.type = .enum)
    (h : ¬(v.ServesInfo c.numid ∧ ctl.items ≠ [])) :
    ∃ e, (Entry.update VirtualCard.device).exec v c = (.error e, ⟨v.bump .elemInfo, c⟩) := by
  have hinfo : ∃ e, (ExceptT.run (VirtualCard.device.elemInfo (ElemInfo.forNumid c.numid))).run v =
      (.error e, v.bump .elemInfo) := by
    by_cases hs : v.ServesInfo c.numid
    · have hnil : ctl.items = [] := by
        by_contra hne
        exact h ⟨hs, hne⟩
      have hrun := CardReq.run_elemInfo_enum (ElemInfo.forNumid c.numid) hs hc ht
      rw [hnil] at hrun
      exact ⟨_, hrun⟩
    · exact CardReq.run_elemInfo_refused _ hs
  obtain ⟨e, he⟩ := hinfo
  unfold OnCardM.exec Entry.update
  simp only [Entry.current, bind_assoc, run_bind, run_get, pure_bind]
  rw [run_ask, he]
  exact ⟨_, rfl⟩

theorem selectItem_found (hcT : c.elemType = .enum) {v' : VirtualCard} {c' : Entry}
    (hfill : (Entry.fillItemNames VirtualCard.device).exec v c = (.ok (), ⟨v', c'⟩))
    (hnum : c'.numid = c.numid) (hr : v'.failures .elemRead = none)
    (hw : v'.failures .elemWrite = none) (hc : v'.control? c.numid = some ctl)
    (ht : ElemType.ofRaw ctl.type = .enum) (hfits : ctl.Fits) {name : String} {pos : Nat}
    (hpos : c'.enumNames.bind (·.idxOf? name) = some pos) (hpos32 : pos < 4294967296) :
    (Entry.selectItem VirtualCard.device name).exec v c =
      (.ok (), ⟨((v'.bump .elemRead).bump .elemWrite).afterWrite c.numid
        { ctl with values := ctl.values.set 0 pos }, c'⟩) := by
  rw [selectItem_of_fill_found _ hcT hfill hpos]
  have hrmw := rmw_enum (c := c') hr hw (by rw [hnum]; exact hc) ht (fits_enum hfits ht)
    (i := 0) (by decide) (x := pos) (by omega) (by omega)
  rw [Int.toNat_natCast, hnum] at hrmw
  exact hrmw

end Fetch

end SoundCard.Virtual
