import Mathlib
import SoundCard.Proofs.RegistryScan
import SoundCard.Control.Value
/-! A registry stays the card's element list up to its length, whatever is done to it and to the
card. -/
namespace SoundCard.Control

open SoundCard.Virtual

/-- The operations on one registry entry. -/
inductive EntryOp where
  | getValue (index : Nat)
  | setValue (index : Nat) (value : Int)
  | getArray (count : Nat)
  | setArray (values : List Int)
  | getBytes (len : Nat)
  | setBytes (data : List UInt8)
  | getPercent (index : Nat)
  | setPercent (index : Nat) (percent : Int)
  | itemName (item : Nat)
  | selectItem (item : String)
  | update
  deriving DecidableEq, Repr

/-- Runs an entry operation, dropping what it answers. -/
def EntryOp.run {σ : Type} (D : ControlDevice σ) : EntryOp → ControlM σ Unit
  | .getValue index => discard (Entry.getValue D index)
  | .setValue index value => Entry.setValue D index value
  | .getArray count => discard (Entry.getArray D count)
  | .setArray values => Entry.setArray D values
  | .getBytes len => discard (Entry.getBytes D len)
  | .setBytes data => Entry.setBytes D data
  | .getPercent index => discard (Entry.getPercent D index)
  | .setPercent index percent => Entry.setPercent D index percent
  | .itemName item => discard (Entry.itemName D item)
  | .selectItem item => Entry.selectItem D item
  | .update => Entry.update D

/-- The entry reads the element at position `p`, of shape `sh`, of a card with layout `ℓ`. -/
def EntryAt (ℓ : List Shape × Option UInt32) (p : Nat) (sh : Shape)
    (s : OnCard VirtualCard Entry) : Prop :=
  s.card.layout = ℓ ∧ s.subject.Reads p sh

variable {ℓ : List Shape × Option UInt32} {p : Nat} {sh : Shape}

theorem keeps_ask_layout {α β : Type} {Q : α → Prop} {context : String} {r : CardReq β}
    (hr : CardReq.KeepsLayout r) :
    Keeps (fun s : OnCard VirtualCard α => s.card.layout = ℓ ∧ Q s.subject) (OnCardM.ask context r) :=
  Keeps.ask fun s ⟨hl, hq⟩ => ⟨hr ℓ s.card hl, hq⟩

theorem keepsAt_ask {β : Type} {context : String} {r : CardReq β} (hr : CardReq.KeepsLayout r) :
    Keeps (EntryAt ℓ p sh) (OnCardM.ask context r) :=
  keeps_ask_layout (Q := fun e : Entry => e.Reads p sh) hr

theorem keepsAt_current : Keeps (EntryAt ℓ p sh) (Entry.current : ControlM VirtualCard Entry) :=
  Keeps.get.bind fun _ => Keeps.pure _

theorem keepsAt_readRecord : Keeps (EntryAt ℓ p sh) (Entry.readRecord VirtualCard.device) :=
  keepsAt_current.bind fun _ => keepsAt_ask (CardReq.keepsLayout_elemRead _)

theorem keepsAt_writeRecord (value : ElemValue) :
    Keeps (EntryAt ℓ p sh) (Entry.writeRecord VirtualCard.device value) :=
  keepsAt_current.bind fun _ => (keepsAt_ask (CardReq.keepsLayout_elemWrite _)).map _

theorem keepsAt_fillItemNames : Keeps (EntryAt ℓ p sh) (Entry.fillItemNames VirtualCard.device) := by
  unfold Entry.fillItemNames
  refine keepsAt_current.bind fun c => ?_
  dsimp only
  split
  · exact Keeps.pure _
  · refine (Keeps.mapM fun _ _ => (keepsAt_ask (CardReq.keepsLayout_elemInfo _)).map _).bind
      fun _ => Keeps.modify fun s hs => hs

/-- Reading the info record again reads the same element. -/
theorem keepsAt_update (hsh : ℓ.1[p]? = some sh) (hsmall : ℓ.1.length < 2 ^ 32) :
    Keeps (EntryAt ℓ p sh) (Entry.update VirtualCard.device) := by
  intro s ⟨hl, he⟩
  unfold Entry.update
  simp only [Entry.current, bind_assoc, run_bind, run_get, run_pure, run_ask, VirtualCard.device]
  have hcard := CardReq.elemInfo_card (ElemInfo.forNumid s.subject.numid) s.card
  rcases hr : (ExceptT.run (CardReq.elemInfo (ElemInfo.forNumid s.subject.numid))).run s.card
    with ⟨_ | info, c⟩
  all_goals
    rw [hr] at hcard
    cases hcard
  · exact ⟨hl, he⟩
  · obtain ⟨cc, hcc, hinfo, htype⟩ := CardReq.elemInfo_ok hr
    have hnumid : s.subject.numid = UInt32.ofNat (p + 1) := by
      rw [Entry.numid, he.1]
      rfl
    have hp : p < ℓ.1.length := (List.getElem?_eq_some_iff.1 hsh).1
    have hpos : s.card.controls[p]? = some cc := by
      rw [← VirtualCard.control?_succ (show p + 1 < 2 ^ 32 by omega), ← hnumid]
      exact hcc
    have hshape : cc.shape = sh := by
      have : s.card.shapes[p]? = some cc.shape := by simp [VirtualCard.shapes, hpos]
      rw [show s.card.shapes = ℓ.1 from congrArg Prod.fst hl, hsh] at this
      exact (Option.some.inj this).symm
    subst hshape
    refine ⟨hl, Entry.reads_ofInfo ?_ htype⟩
    rw [hinfo, ← hnumid]
    rfl

theorem keepsAt_getValue (index : Nat) :
    Keeps (EntryAt ℓ p sh) (Entry.getValue VirtualCard.device index) := by
  unfold Entry.getValue
  refine keepsAt_current.bind fun c => Keeps.joinUnless (Keeps.throw _) fun _ =>
    (Keeps.check _).bind fun _ => keepsAt_readRecord.bind fun v => ?_
  split
  all_goals first | exact Keeps.pure _ | exact Keeps.throw _

theorem keepsAt_setValue (index : Nat) (value : Int) :
    Keeps (EntryAt ℓ p sh) (Entry.setValue VirtualCard.device index value) := by
  unfold Entry.setValue
  refine keepsAt_current.bind fun c => Keeps.joinUnless (Keeps.throw _) fun _ =>
    (Keeps.check _).bind fun _ => ?_
  extract_lets write change
  have hchange : ∀ u, Keeps (EntryAt ℓ p sh) (change u) := fun _ =>
    keepsAt_readRecord.bind fun v => by
      split
      all_goals first
        | exact (Keeps.pure _).bind fun _ => keepsAt_writeRecord _
        | exact (Keeps.throw _).bind fun _ => keepsAt_writeRecord _
  split
  · exact (Keeps.check _).bind hchange
  · exact (Keeps.check _).bind hchange
  · exact Keeps.join (Keeps.throw _) hchange
  · exact Keeps.join (Keeps.throw _) hchange
  · exact hchange ()

theorem keepsAt_getArray (count : Nat) :
    Keeps (EntryAt ℓ p sh) (Entry.getArray VirtualCard.device count) := by
  unfold Entry.getArray
  exact keepsAt_current.bind fun c => Keeps.joinUnless (Keeps.throw _) fun _ =>
    (Keeps.check _).bind fun _ => keepsAt_readRecord.bind fun _ => Keeps.pure _

theorem keepsAt_setArray (values : List Int) :
    Keeps (EntryAt ℓ p sh) (Entry.setArray VirtualCard.device values) := by
  unfold Entry.setArray
  exact keepsAt_current.bind fun c => Keeps.joinUnless (Keeps.throw _) fun _ =>
    (Keeps.check _).bind fun _ => Keeps.join (Keeps.forM fun _ _ => Keeps.check _) fun _ =>
      keepsAt_readRecord.bind fun _ => keepsAt_writeRecord _

theorem keepsAt_getBytes (len : Nat) :
    Keeps (EntryAt ℓ p sh) (Entry.getBytes VirtualCard.device len) := by
  unfold Entry.getBytes
  exact keepsAt_current.bind fun c => Keeps.joinUnless (Keeps.throw _) fun _ =>
    (Keeps.check _).bind fun _ => Keeps.ite (keepsAt_ask (CardReq.keepsLayout_device_tlvRead _ _))
      (keepsAt_readRecord.bind fun _ => Keeps.pure _)

theorem keepsAt_setBytes (data : List UInt8) :
    Keeps (EntryAt ℓ p sh) (Entry.setBytes VirtualCard.device data) := by
  unfold Entry.setBytes
  exact keepsAt_current.bind fun c => Keeps.joinUnless (Keeps.throw _) fun _ =>
    (Keeps.check _).bind fun _ => Keeps.ite (keepsAt_ask (CardReq.keepsLayout_device_tlvWrite _ _))
      (keepsAt_readRecord.bind fun _ => keepsAt_writeRecord _)

theorem keepsAt_getPercent (index : Nat) :
    Keeps (EntryAt ℓ p sh) (Entry.getPercent VirtualCard.device index) := by
  unfold Entry.getPercent
  exact keepsAt_current.bind fun c => Keeps.joinUnless (Keeps.throw _) fun _ =>
    (keepsAt_getValue index).bind fun _ => Keeps.ite (Keeps.pure _) (Keeps.pure _)

theorem keepsAt_setPercent (index : Nat) (percent : Int) :
    Keeps (EntryAt ℓ p sh) (Entry.setPercent VirtualCard.device index percent) := by
  unfold Entry.setPercent
  exact keepsAt_current.bind fun c => Keeps.joinUnless (Keeps.throw _) fun _ =>
    Keeps.joinUnless (Keeps.throw _) fun _ => keepsAt_setValue _ _

theorem keepsAt_itemName (item : Nat) :
    Keeps (EntryAt ℓ p sh) (Entry.itemName VirtualCard.device item) := by
  unfold Entry.itemName
  refine keepsAt_current.bind fun c => Keeps.joinUnless (Keeps.throw _) fun _ =>
    Keeps.join (Keeps.throw _) fun _ => keepsAt_fillItemNames.bind fun _ =>
      keepsAt_current.bind fun c' => ?_
  split
  · exact Keeps.pure _
  · exact Keeps.throw _

theorem keepsAt_selectItem (item : String) :
    Keeps (EntryAt ℓ p sh) (Entry.selectItem VirtualCard.device item) := by
  unfold Entry.selectItem
  refine keepsAt_current.bind fun c => Keeps.joinUnless (Keeps.throw _) fun _ =>
    keepsAt_fillItemNames.bind fun _ => keepsAt_current.bind fun c' => ?_
  split
  · exact Keeps.throw _
  · exact keepsAt_readRecord.bind fun _ => keepsAt_writeRecord _

theorem EntryOp.keepsAt (op : EntryOp) (hsh : ℓ.1[p]? = some sh) (hsmall : ℓ.1.length < 2 ^ 32) :
    Keeps (EntryAt ℓ p sh) (op.run VirtualCard.device) := by
  cases op with
  | getValue index => exact (keepsAt_getValue index).discard
  | setValue index value => exact keepsAt_setValue index value
  | getArray count => exact (keepsAt_getArray count).discard
  | setArray values => exact keepsAt_setArray values
  | getBytes len => exact (keepsAt_getBytes len).discard
  | setBytes data => exact keepsAt_setBytes data
  | getPercent index => exact (keepsAt_getPercent index).discard
  | setPercent index percent => exact keepsAt_setPercent index percent
  | itemName item => exact (keepsAt_itemName item).discard
  | selectItem item => exact keepsAt_selectItem item
  | update => exact keepsAt_update hsh hsmall

/-- The operations on a registry as a whole. -/
inductive RegistryOp where
  | scan
  | subscribe (enable : Bool)
  | waitEvent (timeout : Int)
  | readEvent
  deriving DecidableEq, Repr

/-- Runs a registry operation, dropping what it answers. -/
def RegistryOp.run {σ : Type} (D : ControlDevice σ) : RegistryOp → MixerM σ Unit
  | .scan => discard (Mixer.scan D)
  | .subscribe enable => Mixer.subscribe D enable
  | .waitEvent timeout => discard (Mixer.waitEvent D timeout)
  | .readEvent => discard (Mixer.readEvent D)

section Events

variable {m : Mixer}

theorem keeps_readEventWithin (fuel : Nat) :
    Keeps (fun s : OnCard VirtualCard Mixer => s.card.layout = ℓ ∧ s.subject = m)
      (Mixer.readEventWithin VirtualCard.device fuel) := by
  induction fuel with
  | zero => exact Keeps.pure _
  | succ fuel ih =>
    unfold Mixer.readEventWithin
    refine (keeps_ask_layout (Q := (· = m)) (r := VirtualCard.device.readEvent)
      CardReq.keepsLayout_readEvent).bind fun e => ?_
    split
    · exact Keeps.pure _
    · exact Keeps.ite (Keeps.pure _) ih

/-- The registry operations other than a scan change neither the registry nor the card's
layout. -/
theorem keeps_event_ops (op : RegistryOp) (hop : op ≠ .scan) :
    Keeps (fun s : OnCard VirtualCard Mixer => s.card.layout = ℓ ∧ s.subject = m)
      (op.run VirtualCard.device) := by
  cases op
  case scan => exact absurd rfl hop
  case subscribe enable =>
    unfold RegistryOp.run Mixer.subscribe
    exact keeps_ask_layout (Q := (· = m)) (r := VirtualCard.device.subscribe enable)
      (CardReq.keepsLayout_subscribe enable)
  case waitEvent timeout =>
    unfold RegistryOp.run Mixer.waitEvent
    exact (keeps_ask_layout (Q := (· = m)) (r := VirtualCard.device.waitEvent timeout)
      (CardReq.keepsLayout_waitEvent timeout)).discard
  case readEvent =>
    unfold RegistryOp.run Mixer.readEvent
    refine Keeps.discard (Keeps.get.bind fun s => ?_)
    exact keeps_readEventWithin _

end Events

/-- What holds of a registry and its card along every run: the card reports its length,
and the registry mirrors the card. -/
structure Tracks (v : VirtualCard) (m : Mixer) : Prop where
  reports : v.ReportsLength
  mirrors : Mirrors v.shapes m.controls

namespace Tracks

variable {v : VirtualCard} {m : Mixer}

theorem of_layout (h : Tracks v m) {w : VirtualCard} (hl : w.layout = v.layout) : Tracks w m where
  reports := h.reports.of_layout hl
  mirrors := by
    rw [show w.shapes = v.shapes from congrArg Prod.fst hl]
    exact h.mirrors

theorem registry (h : Tracks v m) (op : RegistryOp) :
    Tracks ((op.run VirtualCard.device).exec v m).2.card
      ((op.run VirtualCard.device).exec v m).2.subject := by
  by_cases hop : op = .scan
  · subst hop
    have hrun := scan_cases v m
    simp only [RegistryOp.run, OnCardM.exec, run_discard]
    exact ⟨h.reports.of_layout hrun.frame.1, hrun.mirrors h.reports h.mirrors⟩
  · obtain ⟨hl, hm⟩ := keeps_event_ops op hop { card := v, subject := m } ⟨rfl, rfl⟩
    unfold OnCardM.exec
    rw [hm]
    exact h.of_layout hl

theorem entry (h : Tracks v m) (op : EntryOp) {p : Nat} {e : Entry}
    (hp : m.controls[p]? = some e) :
    Tracks ((op.run VirtualCard.device).exec v e).2.card
      { m with controls := m.controls.set p ((op.run VirtualCard.device).exec v e).2.subject } := by
  unfold OnCardM.exec
  obtain ⟨sh, hsh, he⟩ := h.mirrors p e hp
  have hsmall : v.shapes.length < 2 ^ 32 := by
    simpa [VirtualCard.shapes] using h.reports.length_lt
  obtain ⟨hl, he'⟩ := op.keepsAt (ℓ := v.layout) hsh hsmall { card := v, subject := e } ⟨rfl, he⟩
  refine ⟨h.reports.of_layout hl, ?_⟩
  rw [show VirtualCard.shapes _ = v.shapes from congrArg Prod.fst hl]
  refine h.mirrors.set hp fun sh' hsh' => ?_
  rw [hsh] at hsh'
  cases hsh'
  exact he'

theorem append (h : Tracks v m) (c : VirtualControl) (hsmall : v.controls.length + 1 < 2 ^ 32) :
    Tracks { v with controls := v.controls ++ [c] } m where
  reports := ⟨h.reports.countOverride_eq, by simpa using hsmall⟩
  mirrors := by
    have hs : VirtualCard.shapes { v with controls := v.controls ++ [c] } = v.shapes ++ [c.shape] := by
      simp [VirtualCard.shapes]
    rw [hs]
    exact h.mirrors.append_shapes _

end Tracks

/-- The registries and cards reachable from an empty registry by its operations and by changes
to the card. -/
inductive Reachable : VirtualCard → Mixer → Prop
  | start {v : VirtualCard} (info : CardInfo) : v.ReportsLength → Reachable v { cardInfo := info }
  | registry {v : VirtualCard} {m : Mixer} (op : RegistryOp) : Reachable v m →
      Reachable ((op.run VirtualCard.device).exec v m).2.card
        ((op.run VirtualCard.device).exec v m).2.subject
  | entry {v : VirtualCard} {m : Mixer} {p : Nat} {e : Entry} (op : EntryOp) : Reachable v m →
      m.controls[p]? = some e →
      Reachable ((op.run VirtualCard.device).exec v e).2.card
        { m with controls := m.controls.set p ((op.run VirtualCard.device).exec v e).2.subject }
  | append {v : VirtualCard} {m : Mixer} (c : VirtualControl) : Reachable v m →
      v.controls.length + 1 < 2 ^ 32 → Reachable { v with controls := v.controls ++ [c] } m
  | failInfo {v : VirtualCard} {m : Mixer} (numid : Option UInt32) : Reachable v m →
      Reachable { v with failingInfo := numid } m
  | fail {v : VirtualCard} {m : Mixer} (t : CardCall) (code : Option Int) : Reachable v m →
      Reachable { v with failures := fun u => if u = t then code else v.failures u } m
  | queue {v : VirtualCard} {m : Mixer} (e : Event) : Reachable v m →
      Reachable { v with events := v.events ++ [e] } m

theorem Reachable.tracks {v : VirtualCard} {m : Mixer} (h : Reachable v m) : Tracks v m := by
  induction h with
  | start _ hv => exact ⟨hv, Mirrors.nil⟩
  | registry op _ ih => exact ih.registry op
  | entry op _ hp ih => exact ih.entry op hp
  | append c _ hsmall ih => exact ih.append c hsmall
  | failInfo _ _ ih => exact ih.of_layout rfl
  | fail _ _ _ ih => exact ih.of_layout rfl
  | queue _ _ ih => exact ih.of_layout rfl

/-- Opening a registry on a card that reports its length reaches a tracked state: the
registry is what a scan from no entries left, on the card after its identity was read. -/
theorem Reachable.opened {v v' : VirtualCard} {m : Mixer} (hv : v.ReportsLength)
    (h : Mixer.openWith VirtualCard.device v = (.ok m, v')) : Reachable v' m := by
  unfold Mixer.openWith at h
  have hl := CardReq.keepsLayout_cardInfo v.layout v rfl
  rcases hinfo : (ExceptT.run (VirtualCard.device.cardInfo)).run v with ⟨_ | info, c⟩
  · rw [hinfo] at h
    cases h
  · rw [hinfo] at h
    change ((ExceptT.run CardReq.cardInfo).run v) = _ at hinfo
    rw [hinfo] at hl
    have hstart : Reachable c { cardInfo := info } := .start info (hv.of_layout hl)
    have hscan := Reachable.registry .scan hstart
    simp only [RegistryOp.run, OnCardM.exec, run_discard] at hscan
    dsimp only at h
    split at h
    · rename_i hok
      cases h
      unfold OnCardM.exec at hok
      rw [hok] at hscan
      exact hscan
    · cases h

/-- A registry is its card's element list up to its own length, and a scan from it asks only
beyond that list, appends in the card's order, and reports no removal. -/
structure CardPrefix (v : VirtualCard) (m : Mixer) : Prop where
  /-- The card reports its length as its count. -/
  count_eq : v.count.toNat = v.controls.length
  /-- The registry holds no more entries than the card reports. -/
  numControls_le : m.numControls ≤ v.count.toNat
  /-- Entry `i` has numeric id `i + 1`, so its id finds it again, and it was read from the
  card's element `i`. -/
  entry : ∀ i e, m.controls[i]? = some e →
    e.numid.toNat = i + 1 ∧ m.controls[e.ctlId]? = some e ∧
      ∃ c, v.controls[i]? = some c ∧ e.Reads i c.shape
  /-- A scan told the count the registry already has asks nothing else and changes nothing. -/
  scan_unchanged : v.failures .elemCount = none → v.count.toNat = m.numControls →
    (Mixer.scan VirtualCard.device).exec v m = (.ok 0, { card := v.bump .elemCount, subject := m })
  /-- A scan only appends, whatever it answers. -/
  scan_appends : ∃ new, ((Mixer.scan VirtualCard.device).exec v m).2.subject =
    { m with controls := m.controls ++ new }
  /-- A scan that answers `k` has appended `k` entries, and holds as many as the card
  reports. -/
  scan_ok : ∀ k, ((Mixer.scan VirtualCard.device).exec v m).1 = .ok k →
    ((Mixer.scan VirtualCard.device).exec v m).2.subject.numControls = m.numControls + k ∧
      ((Mixer.scan VirtualCard.device).exec v m).2.subject.numControls = v.count.toNat
  /-- The only listing a scan asks for starts at the registry's length. -/
  scan_lists : ((Mixer.scan VirtualCard.device).exec v m).2.card.lastList = v.lastList ∨
    ((Mixer.scan VirtualCard.device).exec v m).2.card.lastList =
      some (UInt32.ofNat m.numControls, UInt32.ofNat (v.count.toNat - m.numControls))
  /-- A scan never reports removed elements. -/
  scan_not_removed : ∀ cached reported,
    ((Mixer.scan VirtualCard.device).exec v m).1 ≠ .error (.controlsRemoved cached reported)

/-- A registry that tracks its card is a prefix of it. -/
theorem Tracks.cardPrefix {v : VirtualCard} {m : Mixer} (h : Tracks v m) : CardPrefix v m := by
  have hcount := h.reports.count_toNat
  have hsmall := h.reports.length_lt
  have hlen := h.mirrors.length_le
  simp only [VirtualCard.shapes, List.length_map] at hlen
  have hrun := scan_cases v m
  refine ⟨hcount, by rw [hcount]; exact hlen, fun i e he => ?_, scan_unchanged, hrun.frame.2,
    fun k hk => ?_, ?_, fun cached reported hr => ?_⟩
  · obtain ⟨sh, hsh, hr⟩ := h.mirrors i e he
    have hi := (List.getElem?_eq_some_iff.1 he).1
    have hctl := h.mirrors.ctlId_eq (by simpa [VirtualCard.shapes] using hsmall) he
    obtain ⟨c, hc, rfl⟩ := List.getElem?_map.symm.trans hsh |> Option.map_eq_some_iff.1
    refine ⟨?_, by rw [hctl]; exact he, c, hc, hr⟩
    rw [Entry.numid, hr.1, ElemId.named, UInt32.toNat_ofNat_of_lt' (show i + 1 < 2 ^ 32 by omega)]
  · obtain ⟨h₁, h₂⟩ := hrun.length_of_ok h.reports hk
    exact ⟨h₁, h₂.trans hcount.symm⟩
  · rcases hrun.listing with hl | ⟨-, hl⟩
    · exact Or.inl hl
    · exact Or.inr hl
  · have := (hrun.of_removed hr).2.1
    omega

/-- Every reachable registry is a prefix of its card, and a scan fails with `controlsRemoved`
exactly when the card reports fewer elements than the registry holds. -/
theorem registry_is_card_prefix :
    (∀ {v : VirtualCard} {m : Mixer}, Reachable v m → CardPrefix v m) ∧
    ∀ (v : VirtualCard) (m : Mixer),
      ((∃ cached reported, ((Mixer.scan VirtualCard.device).exec v m).1 =
          .error (.controlsRemoved cached reported)) ↔
        v.failures .elemCount = none ∧ v.count.toNat < m.numControls) ∧
      ∀ cached reported, ((Mixer.scan VirtualCard.device).exec v m).1 =
          .error (.controlsRemoved cached reported) →
        ((Mixer.scan VirtualCard.device).exec v m).2.subject = m :=
  ⟨fun h => h.tracks.cardPrefix, fun v m =>
    ⟨(scan_cases v m).removed_iff, fun _ _ hr => ((scan_cases v m).of_removed hr).2.2⟩⟩

/-- The typical card, scanned into an empty registry, is a prefix of itself. -/
theorem scanned_typical_card_prefix :
    CardPrefix ((RegistryOp.scan.run VirtualCard.device).exec {} { cardInfo := {} }).2.card
      ((RegistryOp.scan.run VirtualCard.device).exec {} { cardInfo := {} }).2.subject :=
  registry_is_card_prefix.1 (.registry .scan (.start {} ⟨rfl, by decide⟩))

end SoundCard.Control
