import Mathlib
import SoundCard.Proofs.EnumNames
/-! Calls on one enumeration entry in any order, while the card may change: the kept names stay
the element's first items and the info requests are counted exactly. -/
namespace SoundCard.Virtual

open SoundCard.Control

/-- One event in the life of an enumeration entry: a call on the entry, or a change the
card makes between calls. -/
inductive ItemCall
  /-- The name of item `j`. -/
  | name (j : Nat)
  /-- Selecting the item called `s` as the first value. -/
  | select (s : String)
  /-- Reading value `i`. -/
  | read (i : Nat)
  /-- Reading the entry's info record again. -/
  | refresh
  /-- The card appends items to the element's list. -/
  | grow (more : List String)
  /-- The card sets what its info requests fail with, and the element whose info requests
  fail with `EIO`. -/
  | setInfoFailure (failure : Option Int) (failingInfo : Option UInt32)

namespace VirtualCard

/-- The card with items appended to element `numid`'s list. -/
def growItems (v : VirtualCard) (numid : UInt32) (more : List String) : VirtualCard :=
  match v.control? numid with
  | some c => v.setControl numid { c with items := c.items ++ more }
  | none => v

/-- The card with its info requests set to fail with `failure`, and those about element
`failingInfo` with `EIO`. -/
def setInfoFailure (v : VirtualCard) (failure : Option Int) (failingInfo : Option UInt32) :
    VirtualCard :=
  { v with failures := fun t => if t = .elemInfo then failure else v.failures t,
           failingInfo := failingInfo }

end VirtualCard

/-- The names an entry keeps of an element: its first items, as many as the entry's item
count, each as its info record carries it. -/
def keptNames (c : Entry) (ctl : VirtualControl) : List String :=
  (ctl.items.take c.info.enumItems.toNat).map itemText

/-- The info requests that filling the names sends: none when names are kept, one per
item when the card answers them, and only the first, refused, otherwise. -/
def fillRequests (v : VirtualCard) (c : Entry) : Nat :=
  if c.enumNames.isSome then 0
  else if v.ServesInfo c.numid then c.info.enumItems.toNat
  else min 1 c.info.enumItems.toNat

namespace ItemCall

/-- The card and the entry after one event; a call that fails leaves what it did before it
failed. -/
def step : ItemCall → OnCard VirtualCard Entry → OnCard VirtualCard Entry
  | .name j, s => ((Entry.itemName VirtualCard.device j).exec s.card s.subject).2
  | .select n, s => ((Entry.selectItem VirtualCard.device n).exec s.card s.subject).2
  | .read i, s => ((Entry.getValue VirtualCard.device i).exec s.card s.subject).2
  | .refresh, s => ((Entry.update VirtualCard.device).exec s.card s.subject).2
  | .grow more, s => ⟨s.card.growItems s.subject.numid more, s.subject⟩
  | .setInfoFailure f n, s => ⟨s.card.setInfoFailure f n, s.subject⟩

/-- The info requests one event sends: a name within the item count and a selection fill
the names, a refresh reads one record, nothing else asks. -/
def infoRequests (s : OnCard VirtualCard Entry) : ItemCall → Nat
  | .name j => if j < s.subject.info.enumItems.toNat then fillRequests s.card s.subject else 0
  | .select _ => fillRequests s.card s.subject
  | .refresh => 1
  | _ => 0

end ItemCall

/-- The card and the entry after a sequence of events. -/
def runCalls : List ItemCall → OnCard VirtualCard Entry → OnCard VirtualCard Entry
  | [], s => s
  | call :: calls, s => runCalls calls (call.step s)

/-- The info requests a sequence of events sends, each counted from the state it meets. -/
def runInfoRequests : List ItemCall → OnCard VirtualCard Entry → Nat
  | [], _ => 0
  | call :: calls, s => call.infoRequests s + runInfoRequests calls (call.step s)

/-- What holds of an enumeration entry and its element along every sequence of calls. -/
structure Tracks (v : VirtualCard) (c : Entry) (ctl : VirtualControl) : Prop where
  enum : c.elemType = .enum
  control : v.control? c.numid = some ctl
  type : ElemType.ofRaw ctl.type = .enum
  fits : ctl.Fits
  reads : v.failures .elemRead = none
  writes : v.failures .elemWrite = none
  count : c.info.enumItems.toNat ≤ ctl.items.length
  names : ∀ ns, c.enumNames = some ns → ns = keptNames c ctl

/-- The entry with the element's names kept. -/
def keepNames (c : Entry) (ctl : VirtualControl) : Entry :=
  { c with enumNames := some (keptNames c ctl) }

section Steps

variable {v : VirtualCard} {c : Entry} {ctl : VirtualControl}

theorem VirtualCard.bumps_one (t : CardCall) : v.bumps t 1 = v.bump t := by
  rw [← VirtualCard.bumps_bump, VirtualCard.bumps_zero]

@[simp] theorem VirtualCard.calls_afterWrite (numid : UInt32) (c' : VirtualControl) :
    (v.afterWrite numid c').calls = v.calls := by
  unfold VirtualCard.afterWrite
  dsimp only
  split <;> rfl

theorem VirtualCard.growItems_of_control {numid : UInt32} (hc : v.control? numid = some ctl)
    (more : List String) :
    v.growItems numid more = v.setControl numid { ctl with items := ctl.items ++ more } := by
  simp [VirtualCard.growItems, hc]

theorem getValue_past {σ : Type} (D : ControlDevice σ) (card : σ) (hhas : c.hasValues = true)
    {i : Nat} (hi : ¬i < c.valueLimit) :
    ∃ e, (Entry.getValue D i).exec card c = (.error e, ⟨card, c⟩) := by
  unfold OnCardM.exec Entry.getValue
  simp only [Entry.current, bind_assoc, run_bind, run_get, pure_bind, hhas, if_true]
  obtain ⟨e, he⟩ := Entry.checkIndex_of_le (Nat.le_of_not_lt hi)
  rw [he]
  exact ⟨e, rfl⟩

theorem length_keptNames (h : c.info.enumItems.toNat ≤ ctl.items.length) :
    (keptNames c ctl).length = c.info.enumItems.toNat := by
  simp [keptNames, h]

theorem getElem?_keptNames {j : Nat} (hj : j < c.info.enumItems.toNat)
    (h : c.info.enumItems.toNat ≤ ctl.items.length) :
    (keptNames c ctl)[j]? = some (itemText (ctl.items.getD j "")) := by
  simp only [keptNames, List.getElem?_map, List.getElem?_take, hj, if_true,
    List.getElem?_eq_getElem (Nat.lt_of_lt_of_le hj h), Option.map_some]
  rw [List.getD_eq_getElem]

namespace Tracks

theorem bumps (h : Tracks v c ctl) (t : CardCall) (n : Nat) : Tracks (v.bumps t n) c ctl where
  enum := h.enum
  control := h.control
  type := h.type
  fits := h.fits
  reads := h.reads
  writes := h.writes
  count := h.count
  names := h.names

theorem bump (h : Tracks v c ctl) (t : CardCall) : Tracks (v.bump t) c ctl := by
  rw [← VirtualCard.bumps_one]
  exact h.bumps t 1

theorem keep (h : Tracks v c ctl) : Tracks v (keepNames c ctl) ctl where
  enum := h.enum
  control := h.control
  type := h.type
  fits := h.fits
  reads := h.reads
  writes := h.writes
  count := h.count
  names := fun _ hns => (Option.some_injective _ hns).symm

/-- Filling the names from a tracked state: either they are kept, or the card refused the
first request and nothing is kept; in both cases `fillRequests` info requests are counted. -/
theorem fill (h : Tracks v c ctl) :
    (Entry.fillItemNames VirtualCard.device).exec v c =
        (.ok (), ⟨v.bumps .elemInfo (fillRequests v c), keepNames c ctl⟩) ∨
      c.enumNames = none ∧ ¬v.ServesInfo c.numid ∧
        ∃ e, (Entry.fillItemNames VirtualCard.device).exec v c =
          (.error e, ⟨v.bumps .elemInfo (fillRequests v c), c⟩) := by
  cases hcache : c.enumNames with
  | some ns =>
    have hkeep : keepNames c ctl = c := by
      unfold keepNames
      rw [← h.names ns hcache, ← hcache]
    have hreq : fillRequests v c = 0 := by simp [fillRequests, hcache]
    left
    rw [fill_cached _ _ hcache, hreq, VirtualCard.bumps_zero, hkeep]
  | none =>
    by_cases hs : v.ServesInfo c.numid ∨ c.info.enumItems.toNat = 0
    · have hreq : fillRequests v c = c.info.enumItems.toNat := by
        unfold fillRequests
        rw [hcache]
        rcases hs with hs | hk
        · simp [hs]
        · simp [hk]
      left
      rw [fill_fetch hcache hs h.control h.type h.count, hreq]
      rfl
    · have hk : 0 < c.info.enumItems.toNat := by omega
      have hserves : ¬v.ServesInfo c.numid := fun hs' => hs (Or.inl hs')
      have hreq : fillRequests v c = 1 := by simp [fillRequests, hcache, hserves]; omega
      right
      obtain ⟨e, he⟩ := fill_refused hcache hserves hk
      exact ⟨rfl, hserves, e, by rw [he, hreq, VirtualCard.bumps_one]⟩

/-- Value writes and reads keep a tracked state tracked; a selection stores an item
position in the first value. -/
theorem written (h : Tracks v c ctl) {pos : Nat} (hpos : pos < 4294967296) :
    Tracks (((v.bump .elemRead).bump .elemWrite).afterWrite c.numid
      { ctl with values := ctl.values.set 0 pos }) c { ctl with values := ctl.values.set 0 pos } where
  enum := h.enum
  control := VirtualCard.control?_afterWrite _ (by simpa using h.control)
  type := h.type
  fits := by
    intro x hx
    rw [if_pos h.type]
    rcases List.mem_or_eq_of_mem_set hx with hx | rfl
    · exact fits_enum h.fits h.type x hx
    · omega
  reads := by simp [h.reads]
  writes := by simp [h.writes]
  count := h.count
  names := h.names

theorem grown (h : Tracks v c ctl) (more : List String) :
    Tracks (v.setControl c.numid { ctl with items := ctl.items ++ more }) c
      { ctl with items := ctl.items ++ more } where
  enum := h.enum
  control := VirtualCard.control?_setControl _ h.control
  type := h.type
  fits := h.fits
  reads := h.reads
  writes := h.writes
  count := h.count.trans (by simp)
  names := fun ns hns => by
    rw [h.names ns hns]
    simp [keptNames, List.take_append_of_le_length h.count]

theorem setInfoFailure (h : Tracks v c ctl) (failure : Option Int) (numid : Option UInt32) :
    Tracks (v.setInfoFailure failure numid) c ctl where
  enum := h.enum
  control := h.control
  type := h.type
  fits := h.fits
  reads := by simp [VirtualCard.setInfoFailure, h.reads]
  writes := by simp [VirtualCard.setInfoFailure, h.writes]
  count := h.count
  names := h.names

/-- A refreshed entry of the same element, with the card's item count and no names kept,
is tracked. -/
theorem refreshed (h : Tracks v c ctl) {c' : Entry} (hnum : c'.numid = c.numid)
    (henum : c'.elemType = .enum) (hitems : c'.info.enumItems = UInt32.ofNat ctl.items.length)
    (hnames : c'.enumNames = none) : Tracks v c' ctl where
  enum := henum
  control := by rw [hnum]; exact h.control
  type := h.type
  fits := h.fits
  reads := h.reads
  writes := h.writes
  count := by
    rw [hitems, UInt32.toNat_ofNat']
    exact Nat.mod_le _ _
  names := by
    rw [hnames]
    intro _ hns
    cases hns

end Tracks

/-- One event from a state leads to a tracked state, with the event's info requests
counted. -/
def ItemCall.Advances (call : ItemCall) (s : OnCard VirtualCard Entry) : Prop :=
  ∃ ctl', Tracks (call.step s).card (call.step s).subject ctl' ∧
    (call.step s).card.calls .elemInfo = s.card.calls .elemInfo + call.infoRequests s

namespace Tracks

theorem advances_name (h : Tracks v c ctl) (j : Nat) : (ItemCall.name j).Advances ⟨v, c⟩ := by
  unfold ItemCall.Advances
  by_cases hj : j < c.info.enumItems.toNat
  · have hreq : (ItemCall.name j).infoRequests ⟨v, c⟩ = fillRequests v c := if_pos hj
    rcases h.fill with hfill | ⟨-, -, e, hfill⟩
    · have hn : (keepNames c ctl).enumNames.bind (·[j]?) = some (itemText (ctl.items.getD j "")) :=
        getElem?_keptNames hj h.count
      simp only [ItemCall.step, itemName_of_fill_ok _ h.enum hj hfill hn, hreq]
      exact ⟨ctl, (h.bumps _ _).keep, VirtualCard.calls_bumps_self _⟩
    · simp only [ItemCall.step, itemName_of_fill_error _ h.enum hj hfill, hreq]
      exact ⟨ctl, h.bumps _ _, VirtualCard.calls_bumps_self _⟩
  · have he : ∃ e, (Entry.itemName VirtualCard.device j).exec v c = (.error e, ⟨v, c⟩) :=
      itemName_past _ h.enum (Nat.le_of_not_lt hj)
    obtain ⟨e, he⟩ := he
    simp only [ItemCall.step, he]
    exact ⟨ctl, h, by simp [ItemCall.infoRequests, hj]⟩

theorem advances_select (h : Tracks v c ctl) (n : String) :
    (ItemCall.select n).Advances ⟨v, c⟩ := by
  unfold ItemCall.Advances
  have hreq : (ItemCall.select n).infoRequests ⟨v, c⟩ = fillRequests v c := rfl
  rcases h.fill with hfill | ⟨-, -, e, hfill⟩
  · cases hpos : (keptNames c ctl).idxOf? n with
    | none =>
      obtain ⟨e, he⟩ := selectItem_of_fill_absent _ h.enum hfill hpos
      simp only [ItemCall.step, he, hreq]
      exact ⟨ctl, (h.bumps _ _).keep, VirtualCard.calls_bumps_self _⟩
    | some pos =>
      have hlt : pos < c.info.enumItems.toNat := by
        obtain ⟨hpos', -⟩ := List.idxOf?_eq_some_iff.1 hpos
        rwa [length_keptNames h.count] at hpos'
      have h32 := c.info.enumItems.toNat_lt
      have hsel := selectItem_found h.enum hfill rfl h.reads h.writes h.control h.type h.fits hpos
        (by omega)
      simp only [ItemCall.step, hsel, hreq]
      refine ⟨_, ((h.bumps _ _).keep).written (by omega), ?_⟩
      simp [VirtualCard.bump_calls_of_ne]
  · simp only [ItemCall.step, selectItem_of_fill_error _ h.enum n hfill, hreq]
    exact ⟨ctl, h.bumps _ _, VirtualCard.calls_bumps_self _⟩

theorem advances_read (h : Tracks v c ctl) (i : Nat) : (ItemCall.read i).Advances ⟨v, c⟩ := by
  unfold ItemCall.Advances
  have hhas : c.hasValues = true := by simp [Entry.hasValues, h.enum]
  by_cases hi : i < c.valueLimit
  · simp only [ItemCall.step,
      getValue_exec h.reads h.control (h.type.trans h.enum.symm) h.fits hi hhas]
    exact ⟨ctl, h.bump _, by simp [ItemCall.infoRequests, VirtualCard.bump_calls_of_ne]⟩
  · have he : ∃ e, (Entry.getValue VirtualCard.device i).exec v c = (.error e, ⟨v, c⟩) :=
      getValue_past _ _ hhas hi
    obtain ⟨e, he⟩ := he
    simp only [ItemCall.step, he]
    exact ⟨ctl, h, rfl⟩

theorem advances_refresh (h : Tracks v c ctl) : ItemCall.refresh.Advances ⟨v, c⟩ := by
  unfold ItemCall.Advances
  by_cases hs : v.ServesInfo c.numid ∧ ctl.items ≠ []
  · obtain ⟨c', hup, hnum, henum, hitems, hnames⟩ := update_exec hs.1 h.control h.type hs.2
    simp only [ItemCall.step, hup]
    exact ⟨ctl, (h.bump _).refreshed hnum henum hitems hnames, by simp [ItemCall.infoRequests]⟩
  · obtain ⟨e, he⟩ := update_refused h.control h.type hs
    simp only [ItemCall.step, he]
    exact ⟨ctl, h.bump _, by simp [ItemCall.infoRequests]⟩

theorem advances_grow (h : Tracks v c ctl) (more : List String) :
    (ItemCall.grow more).Advances ⟨v, c⟩ := by
  unfold ItemCall.Advances
  simp only [ItemCall.step, VirtualCard.growItems_of_control h.control]
  exact ⟨_, h.grown more, rfl⟩

theorem advances_setInfoFailure (h : Tracks v c ctl) (failure : Option Int)
    (numid : Option UInt32) : (ItemCall.setInfoFailure failure numid).Advances ⟨v, c⟩ :=
  ⟨ctl, h.setInfoFailure failure numid, rfl⟩

end Tracks

theorem ItemCall.advances {s : OnCard VirtualCard Entry} (h : Tracks s.card s.subject ctl) :
    ∀ call : ItemCall, call.Advances s := by
  obtain ⟨v, c⟩ := s
  intro call
  cases call with
  | name j => exact h.advances_name j
  | select n => exact h.advances_select n
  | read i => exact h.advances_read i
  | refresh => exact h.advances_refresh
  | grow more => exact h.advances_grow more
  | setInfoFailure failure numid => exact h.advances_setInfoFailure failure numid

theorem runCalls_tracks : ∀ (calls : List ItemCall) (s : OnCard VirtualCard Entry)
    (ctl : VirtualControl), Tracks s.card s.subject ctl →
    ∃ ctl', Tracks (runCalls calls s).card (runCalls calls s).subject ctl' ∧
      (runCalls calls s).card.calls .elemInfo = s.card.calls .elemInfo + runInfoRequests calls s := by
  intro calls
  induction calls with
  | nil => exact fun s ctl h => ⟨ctl, h, rfl⟩
  | cons call calls ih =>
    intro s ctl h
    obtain ⟨ctl₁, h₁, hcount₁⟩ := ItemCall.advances h call
    obtain ⟨ctl₂, h₂, hcount₂⟩ := ih (call.step s) ctl₁ h₁
    refine ⟨ctl₂, h₂, ?_⟩
    simp only [runCalls, runInfoRequests] at hcount₂ ⊢
    rw [hcount₂, hcount₁, Nat.add_assoc]

end Steps

/-- How the calls on an enumeration answer from a state with element `ctl`. -/
structure ItemAnswers (v : VirtualCard) (c : Entry) (ctl : VirtualControl) : Prop where
  name : ∀ j, j < c.info.enumItems.toNat → (c.enumNames.isSome ∨ v.ServesInfo c.numid) →
    (Entry.itemName VirtualCard.device j).exec v c =
      (.ok (Text.ofBytesLossy (((Text.utf8 (ctl.items.getD j "")).take 63).takeWhile (· != 0))),
        ⟨v.bumps .elemInfo (fillRequests v c), keepNames c ctl⟩)
  name_past : ∀ j, c.info.enumItems.toNat ≤ j →
    ∃ e, (Entry.itemName VirtualCard.device j).exec v c = (.error e, ⟨v, c⟩)
  name_refused : c.enumNames = none → ¬v.ServesInfo c.numid → ∀ j, j < c.info.enumItems.toNat →
    ∃ e, (Entry.itemName VirtualCard.device j).exec v c = (.error e, ⟨v.bump .elemInfo, c⟩)
  select : ∀ s pos, (c.enumNames.isSome ∨ v.ServesInfo c.numid) →
    (∃ h : pos < (keptNames c ctl).length, (keptNames c ctl)[pos] = s ∧
      ∀ i (hi : i < pos), (keptNames c ctl)[i] ≠ s) →
    (Entry.selectItem VirtualCard.device s).exec v c =
      (.ok (), ⟨(((v.bumps .elemInfo (fillRequests v c)).bump .elemRead).bump .elemWrite).afterWrite
        c.numid { ctl with values := ctl.values.set 0 pos }, keepNames c ctl⟩)
  select_absent : ∀ s, (c.enumNames.isSome ∨ v.ServesInfo c.numid) → s ∉ keptNames c ctl →
    ∃ e, (Entry.selectItem VirtualCard.device s).exec v c =
      (.error e, ⟨v.bumps .elemInfo (fillRequests v c), keepNames c ctl⟩)
  select_refused : c.enumNames = none → ¬v.ServesInfo c.numid → 0 < c.info.enumItems.toNat →
    ∀ s, ∃ e, (Entry.selectItem VirtualCard.device s).exec v c = (.error e, ⟨v.bump .elemInfo, c⟩)
  refresh : v.ServesInfo c.numid → ctl.items ≠ [] →
    ∃ c', (Entry.update VirtualCard.device).exec v c = (.ok (), ⟨v.bump .elemInfo, c'⟩) ∧
      c'.numid = c.numid ∧ c'.info.enumItems = UInt32.ofNat ctl.items.length ∧ c'.enumNames = none

namespace Tracks

variable {v : VirtualCard} {c : Entry} {ctl : VirtualControl}

theorem fill_ok (h : Tracks v c ctl) (hfs : c.enumNames.isSome ∨ v.ServesInfo c.numid) :
    (Entry.fillItemNames VirtualCard.device).exec v c =
      (.ok (), ⟨v.bumps .elemInfo (fillRequests v c), keepNames c ctl⟩) := by
  rcases h.fill with hfill | ⟨hnone, hserves, -⟩
  · exact hfill
  · rw [hnone] at hfs
    simp [hserves] at hfs

theorem answers (h : Tracks v c ctl) : ItemAnswers v c ctl where
  name j hj hfs := by
    rw [itemName_of_fill_ok _ h.enum hj (h.fill_ok hfs) (getElem?_keptNames hj h.count),
      itemText_eq]
  name_past j hj := itemName_past _ h.enum hj
  name_refused hnone hserves j hj := by
    obtain ⟨e, hfill⟩ := fill_refused hnone hserves (by omega)
    exact ⟨e, itemName_of_fill_error _ h.enum hj hfill⟩
  select s pos hfs hpos := by
    have hpos' : (keptNames c ctl).idxOf? s = some pos := List.idxOf?_eq_some_iff.2 hpos
    obtain ⟨hlt, -⟩ := hpos
    rw [length_keptNames h.count] at hlt
    have h32 := c.info.enumItems.toNat_lt
    exact selectItem_found h.enum (h.fill_ok hfs) rfl h.reads h.writes h.control h.type h.fits
      hpos' (by omega)
  select_absent s hfs habs :=
    selectItem_of_fill_absent _ h.enum (h.fill_ok hfs) (List.idxOf?_eq_none_iff.2 habs)
  select_refused hnone hserves hk s := by
    obtain ⟨e, hfill⟩ := fill_refused hnone hserves hk
    exact ⟨e, selectItem_of_fill_error _ h.enum s hfill⟩
  refresh hs hne := by
    obtain ⟨c', hup, hnum, -, hitems, hnames⟩ := update_exec hs h.control h.type hne
    exact ⟨c', hup, hnum, hitems, hnames⟩

end Tracks

/-- The capture source's element on the typical card. -/
def captureControl : VirtualControl :=
  VirtualControl.enumerated "Capture Source" ["Mic", "Line", "CD"] 0

theorem captureSource_tracks : Tracks {} captureSource captureControl where
  enum := by decide
  control := by decide
  type := by decide
  fits := by
    unfold VirtualControl.Fits
    decide
  reads := rfl
  writes := rfl
  count := by
    have hitems : captureSource.info.enumItems = 3 :=
      ElemInfo.enumItems_setEnumItems (by simp [infoAreaBytes]) 3
    rw [hitems]
    decide
  names := fun _ hns => by cases hns

end SoundCard.Virtual
