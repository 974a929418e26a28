import Mathlib
import SoundCard.Virtual.Card
/-! Requests to a virtual card, run: each keeps the name, index and type of every element
(`Shape`), and only a write changes an element's values. -/
namespace SoundCard.Control

section Run

variable {ε S β γ : Type}

theorem run_bind (x : ExceptT ε (StateM S) β) (f : β → ExceptT ε (StateM S) γ) (s : S) :
    (ExceptT.run (x >>= f)).run s = match (ExceptT.run x).run s with
      | (.ok b, s₁) => (ExceptT.run (f b)).run s₁
      | (.error e, s₁) => (.error e, s₁) := by
  simp only [ExceptT.run_bind, StateT.run_bind]
  rcases (ExceptT.run x).run s with ⟨_ | b, s₁⟩ <;> rfl

@[simp] theorem run_pure (b : β) (s : S) :
    (ExceptT.run (pure b : ExceptT ε (StateM S) β)).run s = (.ok b, s) := rfl

@[simp] theorem run_get (s : S) : (ExceptT.run (get : ExceptT ε (StateM S) S)).run s = (.ok s, s) :=
  rfl

@[simp] theorem run_set (t s : S) :
    (ExceptT.run (set t : ExceptT ε (StateM S) PUnit)).run s = (.ok (), t) := rfl

@[simp] theorem run_modify (f : S → S) (s : S) :
    (ExceptT.run (modify f : ExceptT ε (StateM S) PUnit)).run s = (.ok (), f s) := rfl

@[simp] theorem run_throw (e : ε) (s : S) :
    (ExceptT.run (throw e : ExceptT ε (StateM S) β)).run s = (.error e, s) := rfl

theorem run_discard (x : ExceptT ε (StateM S) β) (s : S) :
    ((ExceptT.run (discard x)).run s).2 = ((ExceptT.run x).run s).2 := by
  rw [Functor.discard, map_const, Function.comp_apply, ← bind_pure_comp, run_bind]
  rcases (ExceptT.run x).run s with ⟨_ | b, s₁⟩ <;> rfl

/-- Every run of `m` from a state satisfying `P` ends in one satisfying `P`, whatever it
answers. -/
def Keeps (P : S → Prop) (m : ExceptT ε (StateM S) β) : Prop :=
  ∀ s, P s → P ((ExceptT.run m).run s).2

variable {P : S → Prop}

theorem Keeps.pure (b : β) : Keeps P (pure b : ExceptT ε (StateM S) β) := fun _ hs => hs

theorem Keeps.get : Keeps P (get : ExceptT ε (StateM S) S) := fun _ hs => hs

theorem Keeps.throw (e : ε) : Keeps P (throw e : ExceptT ε (StateM S) β) := fun _ hs => hs

theorem Keeps.modify {f : S → S} (h : ∀ s, P s → P (f s)) :
    Keeps P (modify f : ExceptT ε (StateM S) PUnit) := h

theorem Keeps.bind {x : ExceptT ε (StateM S) β} {f : β → ExceptT ε (StateM S) γ}
    (hx : Keeps P x) (hf : ∀ b, Keeps P (f b)) : Keeps P (x >>= f) := by
  intro s hs
  rw [run_bind]
  have h₁ := hx s hs
  rcases hrun : (ExceptT.run x).run s with ⟨_ | b, s₁⟩
  · rw [hrun] at h₁
    exact h₁
  · rw [hrun] at h₁
    exact hf b s₁ h₁

theorem Keeps.map {x : ExceptT ε (StateM S) β} (g : β → γ) (hx : Keeps P x) :
    Keeps P (g <$> x) := by
  rw [← bind_pure_comp]
  exact hx.bind fun _ => Keeps.pure _

theorem Keeps.ite {c : Prop} [Decidable c] {x y : ExceptT ε (StateM S) β} (hx : Keeps P x)
    (hy : Keeps P y) : Keeps P (if c then x else y) := by
  split
  · exact hx
  · exact hy

theorem Keeps.join {c : Prop} [Decidable c] {x : ExceptT ε (StateM S) PUnit}
    {k : PUnit → ExceptT ε (StateM S) β} (hx : Keeps P x) (hk : ∀ u, Keeps P (k u)) :
    Keeps P (if c then x >>= k else k ()) :=
  Keeps.ite (hx.bind hk) (hk ())

theorem Keeps.joinUnless {c : Prop} [Decidable c] {x : ExceptT ε (StateM S) PUnit}
    {k : PUnit → ExceptT ε (StateM S) β} (hx : Keeps P x) (hk : ∀ u, Keeps P (k u)) :
    Keeps P (if c then k () else x >>= k) :=
  Keeps.ite (hk ()) (hx.bind hk)

theorem Keeps.discard {x : ExceptT ε (StateM S) β} (hx : Keeps P x) : Keeps P (discard x) := by
  rw [Functor.discard, map_const]
  exact hx.map _

theorem Keeps.forM {α : Type} {f : α → ExceptT ε (StateM S) PUnit} :
    ∀ {l : List α}, (∀ a ∈ l, Keeps P (f a)) → Keeps P (l.forM f)
  | [], _ => Keeps.pure _
  | a :: _, h =>
    (h a List.mem_cons_self).bind fun _ => Keeps.forM fun b hb => h b (List.mem_cons_of_mem a hb)

theorem Keeps.mapM {α : Type} {f : α → ExceptT ε (StateM S) β} :
    ∀ {l : List α}, (∀ a ∈ l, Keeps P (f a)) → Keeps P (l.mapM f)
  | [], _ => Keeps.pure _
  | a :: l, h => by
    rw [List.mapM_cons]
    exact (h a List.mem_cons_self).bind fun _ =>
      (Keeps.mapM fun b hb => h b (List.mem_cons_of_mem a hb)).bind fun _ => Keeps.pure _

end Run

end SoundCard.Control

namespace SoundCard.Virtual

open SoundCard.Control

/-- What a registry records of an element: its name, index and type. -/
structure Shape where
  name : String
  index : UInt32
  type : Int
  deriving DecidableEq, Repr

/-- The shape of an element. -/
def VirtualControl.shape (c : VirtualControl) : Shape := ⟨c.name, c.index, c.type⟩

namespace VirtualCard

/-- The shapes of the card's elements, in list order. -/
def shapes (v : VirtualCard) : List Shape := v.controls.map VirtualControl.shape

variable {v : VirtualCard}

@[simp] theorem bump_controls (t : CardCall) : (v.bump t).controls = v.controls := rfl

@[simp] theorem bump_failures (t : CardCall) : (v.bump t).failures = v.failures := rfl

@[simp] theorem shapes_bump (t : CardCall) : (v.bump t).shapes = v.shapes := rfl

@[simp] theorem bump_calls_self (t : CardCall) : (v.bump t).calls t = v.calls t + 1 := by
  simp [bump]

theorem bump_calls_of_ne {t u : CardCall} (h : u ≠ t) : (v.bump t).calls u = v.calls u := by
  simp [bump, h]

@[simp] theorem control?_bump (t : CardCall) (n : UInt32) : (v.bump t).control? n = v.control? n :=
  rfl

@[simp] theorem idOf_bump (t : CardCall) (n : UInt32) : (v.bump t).idOf n = v.idOf n := rfl

@[simp] theorem idOf_numid (n : UInt32) : (v.idOf n).numid = n := by
  unfold idOf
  split <;> rfl

theorem idOf_of_control {n : UInt32} {c : VirtualControl}
    (hc : v.control? n = some c) : v.idOf n = ElemId.named n c.name c.index := by
  unfold idOf
  rw [hc]

theorem control?_succ {n : Nat} (hn : n + 1 < 2 ^ 32) :
    v.control? (UInt32.ofNat (n + 1)) = v.controls[n]? := by
  have hv : (UInt32.ofNat (n + 1)).toNat = n + 1 := UInt32.toNat_ofNat_of_lt' hn
  unfold control?
  rw [if_neg (fun h => by rw [h] at hv; simp at hv), hv]
  rfl

/-- What no request changes: the shapes of the elements and the count override. -/
def layout (v : VirtualCard) : List Shape × Option UInt32 := (v.shapes, v.countOverride)

@[simp] theorem layout_bump (t : CardCall) : (v.bump t).layout = v.layout := rfl

theorem shapes_setControl {n : UInt32} {c c' : VirtualControl} (hc : v.control? n = some c)
    (hs : c'.shape = c.shape) : (v.setControl n c').shapes = v.shapes := by
  unfold control? at hc
  split at hc
  · cases hc
  · simp only [shapes, setControl, List.map_set]
    ext1 j
    rw [List.getElem?_set]
    split
    · rename_i hj
      subst hj
      obtain ⟨hlt, hget⟩ := List.getElem?_eq_some_iff.1 hc
      simp [hs, hlt, hget]
    · rfl

theorem layout_setControl {n : UInt32} {c c' : VirtualControl} (hc : v.control? n = some c)
    (hs : c'.shape = c.shape) : (v.setControl n c').layout = v.layout :=
  Prod.ext (shapes_setControl hc hs) rfl

/-- The element count the card reports. -/
def count (v : VirtualCard) : UInt32 := v.countOverride.getD (UInt32.ofNat v.controls.length)

/-- The card reports the length of its list as its count, and numbers every element within
32 bits. -/
structure ReportsLength (v : VirtualCard) : Prop where
  countOverride_eq : v.countOverride = none
  length_lt : v.controls.length < 2 ^ 32

theorem ReportsLength.count_toNat (h : v.ReportsLength) : v.count.toNat = v.controls.length := by
  rw [count, h.countOverride_eq, Option.getD_none]
  exact UInt32.toNat_ofNat_of_lt' h.length_lt

theorem length_eq_of_layout {w : VirtualCard} (h : w.layout = v.layout) :
    w.controls.length = v.controls.length := by
  have hs := congrArg (fun x => x.1.length) h
  simpa [layout, shapes] using hs

theorem ReportsLength.of_layout {w : VirtualCard} (h : v.ReportsLength) (hl : w.layout = v.layout) :
    w.ReportsLength where
  countOverride_eq := (congrArg Prod.snd hl).trans h.countOverride_eq
  length_lt := (length_eq_of_layout hl).trans_lt h.length_lt

/-- The ids the card lists from position `cached` up to the count it reports. -/
def idsFrom (v : VirtualCard) (cached : Nat) : List ElemId :=
  (List.range (min v.count.toNat v.controls.length - cached)).map fun k =>
    v.idOf (UInt32.ofNat (cached + k + 1))

/-- The card after a scan's count and listing requests, the listing taken from `cached`. -/
def listedFrom (v : VirtualCard) (cached : Nat) : VirtualCard :=
  { (v.bump .elemCount).bump .elemIds with
    lastList := some (UInt32.ofNat cached, UInt32.ofNat (v.count.toNat - cached)) }

theorem length_idsFrom (cached : Nat) :
    (v.idsFrom cached).length = min v.count.toNat v.controls.length - cached := by
  simp [idsFrom]

theorem numids_idsFrom (cached : Nat) :
    (v.idsFrom cached).map (fun id => id.numid.toNat) =
      List.range' (cached + 1) (v.idsFrom cached).length := by
  have hsmall : v.count.toNat < 2 ^ 32 := v.count.toNat_lt
  rw [length_idsFrom, List.range'_eq_map_range]
  simp only [idsFrom, List.map_map]
  refine List.map_congr_left fun k hk => ?_
  rw [List.mem_range] at hk
  simp only [Function.comp_apply, idOf_numid]
  rw [UInt32.toNat_ofNat_of_lt' (show cached + k + 1 < 2 ^ 32 by omega)]
  omega

end VirtualCard

namespace CardReq

variable {β : Type}

theorem run_enter_bind (t : CardCall) (f : Unit → CardReq β) (v : VirtualCard) :
    (ExceptT.run (enter t >>= f)).run v = match v.failures t with
      | some n => (.error (.os n), v.bump t)
      | none => (ExceptT.run (f ())).run (v.bump t) := by
  unfold enter
  simp only [bind_assoc, run_bind, run_modify, run_get, VirtualCard.bump_failures]
  rcases v.failures t with _ | n <;> rfl

theorem run_control_bind (n : UInt32) (f : VirtualControl → CardReq β) (v : VirtualCard) :
    (ExceptT.run (control n >>= f)).run v = match v.control? n with
      | some c => (ExceptT.run (f c)).run v
      | none => (.error (.os Os.Errno.noEntry), v) := by
  unfold control
  simp only [run_bind, run_get]
  rcases v.control? n with _ | c <;> rfl

/-- The request keeps the card's layout, whatever it answers. -/
def KeepsLayout (r : CardReq β) : Prop := ∀ ℓ, Keeps (fun v : VirtualCard => v.layout = ℓ) r

theorem KeepsLayout.bind {γ : Type} {x : CardReq β} {f : β → CardReq γ} (hx : KeepsLayout x)
    (hf : ∀ b, KeepsLayout (f b)) : KeepsLayout (x >>= f) :=
  fun ℓ => (hx ℓ).bind fun b => hf b ℓ

theorem KeepsLayout.pure (b : β) : KeepsLayout (pure b : CardReq β) := fun _ => Keeps.pure b

theorem KeepsLayout.get : KeepsLayout (get : CardReq VirtualCard) := fun _ => Keeps.get

theorem KeepsLayout.throw (e : Os.IoError) : KeepsLayout (throw e : CardReq β) :=
  fun _ => Keeps.throw e

theorem KeepsLayout.modify {f : VirtualCard → VirtualCard} (h : ∀ v, (f v).layout = v.layout) :
    KeepsLayout (modify f : CardReq PUnit) :=
  fun _ => Keeps.modify fun v hv => (h v).trans hv

theorem keepsLayout_enter (t : CardCall) : KeepsLayout (enter t) := by
  unfold enter
  refine (KeepsLayout.modify fun v => VirtualCard.layout_bump t).bind fun _ =>
    KeepsLayout.get.bind fun v => ?_
  split
  · exact KeepsLayout.throw _
  · exact KeepsLayout.pure _

theorem keepsLayout_control (numid : UInt32) : KeepsLayout (control numid) := by
  unfold control
  refine KeepsLayout.get.bind fun v => ?_
  split
  · exact KeepsLayout.pure _
  · exact KeepsLayout.throw _

theorem keepsLayout_cardInfo : KeepsLayout cardInfo := by
  unfold cardInfo
  exact (keepsLayout_enter _).bind fun _ => KeepsLayout.get.bind fun _ => KeepsLayout.pure _

theorem keepsLayout_elemCount : KeepsLayout elemCount := by
  unfold elemCount
  exact (keepsLayout_enter _).bind fun _ => KeepsLayout.get.bind fun _ => KeepsLayout.pure _

theorem keepsLayout_elemIds (offset space : UInt32) : KeepsLayout (elemIds offset space) := by
  unfold elemIds
  refine (keepsLayout_enter _).bind fun _ => (KeepsLayout.modify fun _ => ?_).bind fun _ =>
    KeepsLayout.get.bind fun _ => KeepsLayout.pure _
  rfl

theorem keepsLayout_elemInfo (info : ElemInfo) : KeepsLayout (elemInfo info) := by
  unfold elemInfo
  refine (keepsLayout_enter _).bind fun _ => KeepsLayout.get.bind fun v => ?_
  dsimp only
  split
  · rw [ExceptT.bind_throw]
    exact KeepsLayout.throw _
  · refine (keepsLayout_control _).bind fun c => ?_
    split
    case h_4 =>
      split
      · exact KeepsLayout.pure _
      · exact KeepsLayout.throw _
    all_goals exact KeepsLayout.pure _

theorem keepsLayout_elemRead (value : ElemValue) : KeepsLayout (elemRead value) := by
  unfold elemRead
  refine (keepsLayout_enter _).bind fun _ => (keepsLayout_control _).bind fun c => ?_
  split
  case h_6 => exact KeepsLayout.throw _
  all_goals exact KeepsLayout.pure _

theorem keepsLayout_tlvRead (numid : UInt32) (buf : List UInt8) :
    KeepsLayout (tlvRead numid buf) := by
  unfold tlvRead
  exact (keepsLayout_enter _).bind fun _ => (keepsLayout_control _).bind fun _ =>
    KeepsLayout.pure _

/-- A write replaces the element by one with other values only, then may queue an event. -/
theorem keepsLayout_elemWrite (value : ElemValue) : KeepsLayout (elemWrite value) := by
  intro ℓ v hv
  unfold elemWrite
  rw [run_enter_bind]
  split
  · simpa using hv
  · rw [run_control_bind]
    split
    · rename_i c hc
      rw [← hv, ← VirtualCard.layout_bump (v := v) CardCall.elemWrite]
      split
      case h_6 => rfl
      all_goals
        simp only [pure_bind, run_bind, run_modify, run_get]
        split <;> exact VirtualCard.layout_setControl hc rfl
    · simpa using hv

theorem keepsLayout_tlvWrite (numid : UInt32) (data : List UInt8) :
    KeepsLayout (tlvWrite numid data) := by
  intro ℓ v hv
  unfold tlvWrite
  rw [run_enter_bind]
  split
  · simpa using hv
  · rw [run_control_bind]
    split
    · rename_i c hc
      rw [← hv, ← VirtualCard.layout_bump (v := v) CardCall.tlvWrite]
      exact VirtualCard.layout_setControl hc rfl
    · simpa using hv

theorem keepsLayout_device_tlvRead (numid : UInt32) (buf : List UInt8) :
    KeepsLayout (VirtualCard.device.tlvRead numid buf) := keepsLayout_tlvRead numid buf

theorem keepsLayout_device_tlvWrite (numid : UInt32) (data : List UInt8) :
    KeepsLayout (VirtualCard.device.tlvWrite numid data) := keepsLayout_tlvWrite numid data

theorem keepsLayout_subscribe (enable : Bool) : KeepsLayout (subscribe enable) := by
  unfold subscribe
  refine (keepsLayout_enter _).bind fun _ => KeepsLayout.modify fun _ => ?_
  rfl

theorem keepsLayout_waitEvent (timeout : Int) : KeepsLayout (waitEvent timeout) := by
  unfold waitEvent
  exact (keepsLayout_enter _).bind fun _ => KeepsLayout.get.bind fun _ => KeepsLayout.pure _

theorem keepsLayout_readEvent : KeepsLayout readEvent := by
  unfold readEvent
  refine (keepsLayout_enter _).bind fun _ => KeepsLayout.get.bind fun v => ?_
  split
  · exact KeepsLayout.pure _
  · refine (KeepsLayout.modify fun _ => ?_).bind fun _ => KeepsLayout.pure _
    rfl

theorem run_elemCount (v : VirtualCard) : (ExceptT.run elemCount).run v =
    match v.failures .elemCount with
    | some n => (.error (.os n), v.bump .elemCount)
    | none => (.ok v.count, v.bump .elemCount) := by
  unfold elemCount
  rw [run_enter_bind]
  rcases v.failures .elemCount with _ | n <;> rfl

theorem run_elemIds (offset space : UInt32) (v : VirtualCard) :
    (ExceptT.run (elemIds offset space)).run v =
    match v.failures .elemIds with
    | some n => (.error (.os n), v.bump .elemIds)
    | none => (.ok ((List.range (min (offset.toNat + space.toNat) v.controls.length -
          offset.toNat)).map fun k => v.idOf (UInt32.ofNat (offset.toNat + k + 1))),
        { v.bump .elemIds with lastList := some (offset, space) }) := by
  unfold elemIds
  rw [run_enter_bind]
  rcases v.failures .elemIds with _ | n <;> rfl

theorem elemInfo_card (info : ElemInfo) (v : VirtualCard) :
    ((ExceptT.run (elemInfo info)).run v).2 = v.bump .elemInfo := by
  unfold elemInfo
  rw [run_enter_bind]
  split
  · rfl
  · simp only [run_bind, run_get]
    split
    · rfl
    · rw [run_control_bind]
      split
      · split
        case h_4 => split <;> rfl
        all_goals rfl
      · rfl

theorem elemInfo_ok {info info' : ElemInfo} {v v' : VirtualCard}
    (h : (ExceptT.run (elemInfo info)).run v = (.ok info', v')) :
    ∃ c, v.control? info.id.numid = some c ∧
      info'.id = ElemId.named info.id.numid c.name c.index ∧ info'.type = c.type := by
  unfold elemInfo at h
  rw [run_enter_bind] at h
  split at h
  · cases h
  · simp only [run_bind, run_get] at h
    split at h
    · cases h
    · rw [run_control_bind] at h
      split at h
      · rename_i c hc
        refine ⟨c, by simpa using hc, ?_⟩
        have hid := VirtualCard.idOf_of_control hc
        split at h
        case h_4 =>
          split at h
          · rw [run_pure] at h
            cases h
            exact ⟨hid, rfl⟩
          · cases h
        all_goals
          rw [run_pure] at h
          cases h
          exact ⟨hid, rfl⟩
      · cases h
end CardReq

end SoundCard.Virtual
