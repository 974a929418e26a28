import Mathlib
import SoundCard.Proofs.CardRequests
import SoundCard.Control.Mixer
/-! A registry against the card it reads (`Mirrors`), and how a scan keeps it so. -/
namespace SoundCard.Control

open SoundCard.Virtual

section Ask

variable {σ α β : Type}

theorem run_ask (context : String) (m : CardM σ β) (s : OnCard σ α) :
    (ExceptT.run (OnCardM.ask context m)).run s = match (ExceptT.run m).run s.card with
      | (.ok b, c) => (.ok b, { s with card := c })
      | (.error e, c) => (.error (.driver context e), { s with card := c }) := by
  unfold OnCardM.ask
  simp only [run_bind, run_get]
  rcases (ExceptT.run m).run s.card with ⟨_ | b, c⟩ <;> rfl

theorem Keeps.ask {P : OnCard σ α → Prop} {context : String} {m : CardM σ β}
    (h : ∀ s, P s → P { s with card := ((ExceptT.run m).run s.card).2 }) :
    Keeps P (OnCardM.ask context m) := by
  intro s hs
  have hc := h s hs
  rw [run_ask]
  rcases hm : (ExceptT.run m).run s.card with ⟨_ | b, c⟩ <;> rw [hm] at hc <;> exact hc

theorem Keeps.check {P : OnCard σ α → Prop} (e : Except MixerError β) :
    Keeps P (OnCardM.check e : OnCardM σ α β) := by
  cases e
  · exact Keeps.throw _
  · exact Keeps.pure _

end Ask

/-- Entry `e` was read from the element at position `p`, of shape `sh`. -/
def Entry.Reads (e : Entry) (p : Nat) (sh : Shape) : Prop :=
  e.info.id = ElemId.named (UInt32.ofNat (p + 1)) sh.name sh.index ∧ e.info.type = sh.type ∧
    e.name = e.info.id.nameText

theorem Entry.reads_ofInfo {info : ElemInfo} {p : Nat} {c : VirtualControl}
    (hid : info.id = ElemId.named (UInt32.ofNat (p + 1)) c.name c.index)
    (htype : info.type = c.type) : (Entry.ofInfo info).Reads p c.shape :=
  ⟨hid, htype, rfl⟩

/-- The entries are the first elements of a card whose elements have shapes `L`, in order:
entry `i` was read from the element at position `i`. -/
def Mirrors (L : List Shape) (es : List Entry) : Prop :=
  ∀ i (e : Entry), es[i]? = some e → ∃ sh, L[i]? = some sh ∧ e.Reads i sh

namespace Mirrors

variable {L : List Shape} {es : List Entry}

theorem nil : Mirrors L [] := by
  intro i e h
  simp at h

theorem length_le (h : Mirrors L es) : es.length ≤ L.length := by
  unfold Mirrors at h
  rcases Nat.eq_zero_or_pos es.length with h0 | hpos
  · omega
  · obtain ⟨sh, hsh, -⟩ := h (es.length - 1) _ (List.getElem?_eq_getElem (by omega))
    have := (List.getElem?_eq_some_iff.1 hsh).1
    omega

theorem push {e : Entry} {sh : Shape} (h : Mirrors L es) (hsh : L[es.length]? = some sh)
    (he : e.Reads es.length sh) : Mirrors L (es ++ [e]) := by
  unfold Mirrors at h ⊢
  intro i e' hi
  rcases lt_or_ge i es.length with hlt | hge
  · rw [List.getElem?_append_left hlt] at hi
    exact h i e' hi
  · rw [List.getElem?_append_right hge, List.getElem?_singleton] at hi
    split at hi
    · rename_i hi0
      cases hi
      obtain rfl : i = es.length := by omega
      exact ⟨sh, hsh, he⟩
    · cases hi

theorem append_shapes (h : Mirrors L es) (L' : List Shape) : Mirrors (L ++ L') es := by
  unfold Mirrors at h ⊢
  intro i e hi
  obtain ⟨sh, hsh, he⟩ := h i e hi
  refine ⟨sh, ?_, he⟩
  rw [List.getElem?_append_left (List.getElem?_eq_some_iff.1 hsh).1]
  exact hsh

theorem set {p : Nat} {e e' : Entry} (h : Mirrors L es) (hp : es[p]? = some e)
    (he : ∀ sh, L[p]? = some sh → e'.Reads p sh) : Mirrors L (es.set p e') := by
  unfold Mirrors at h ⊢
  intro i e'' hi
  rw [List.getElem?_set] at hi
  split at hi
  · rename_i hip
    subst hip
    split at hi
    · cases hi
      obtain ⟨sh, hsh, -⟩ := h _ e hp
      exact ⟨sh, hsh, he sh hsh⟩
    · cases hi
  · exact h i e'' hi

theorem ctlId_eq (h : Mirrors L es) (hL : L.length < 2 ^ 32) {i : Nat} {e : Entry}
    (he : es[i]? = some e) : e.ctlId = i := by
  unfold Mirrors at h
  obtain ⟨sh, hsh, hr⟩ := h i e he
  have hi := (List.getElem?_eq_some_iff.1 hsh).1
  have hid : e.info.id.numid = UInt32.ofNat (i + 1) := by rw [hr.1]; rfl
  rw [Entry.ctlId, hid, UInt32.toNat_ofNat_of_lt' (show i + 1 < 2 ^ 32 by omega)]
  rfl

end Mirrors

/-- `f` is a round of a scan's loop on the virtual card: it asks for the info record of an
id, failing as the request fails, and appends the entry read. -/
def Fetches (f : ElemId → MixerM VirtualCard PUnit) : Prop :=
  ∀ id s, ∃ context, (ExceptT.run (f id)).run s =
    match (ExceptT.run (CardReq.elemInfo (ElemInfo.forNumid id.numid))).run s.card with
    | (.ok info, c) => (.ok (), { card := c, subject := s.subject.push (Entry.ofInfo info) })
    | (.error e, c) => (.error (.driver context e), { card := c, subject := s.subject })

section Loop

variable {f : ElemId → MixerM VirtualCard PUnit} (hf : Fetches f)
include hf

theorem fetches_cons_ok {a : ElemId} {l : List ElemId} {s : OnCard VirtualCard Mixer}
    {info : ElemInfo} {c : VirtualCard}
    (hr : (ExceptT.run (CardReq.elemInfo (ElemInfo.forNumid a.numid))).run s.card = (.ok info, c)) :
    (ExceptT.run ((a :: l).forM f)).run s =
      (ExceptT.run (l.forM f)).run { card := c, subject := s.subject.push (Entry.ofInfo info) } := by
  obtain ⟨context, h⟩ := hf a s
  rw [hr] at h
  show (ExceptT.run (f a >>= fun _ => l.forM f)).run s = _
  rw [run_bind, h]

theorem fetches_cons_error {a : ElemId} {l : List ElemId} {s : OnCard VirtualCard Mixer}
    {e : Os.IoError} {c : VirtualCard}
    (hr : (ExceptT.run (CardReq.elemInfo (ElemInfo.forNumid a.numid))).run s.card = (.error e, c)) :
    ∃ context, (ExceptT.run ((a :: l).forM f)).run s =
      (.error (.driver context e), { card := c, subject := s.subject }) := by
  obtain ⟨context, h⟩ := hf a s
  rw [hr] at h
  refine ⟨context, ?_⟩
  show (ExceptT.run (f a >>= fun _ => l.forM f)).run s = _
  rw [run_bind, h]

/-- The loop keeps the card's layout and its last listing, and only appends entries. -/
theorem fetches_frame (l : List ElemId) (ℓ : List Shape × Option UInt32)
    (x : Option (UInt32 × UInt32)) (m : Mixer) :
    Keeps (fun s : OnCard VirtualCard Mixer => s.card.layout = ℓ ∧ s.card.lastList = x ∧
      ∃ new, s.subject = { m with controls := m.controls ++ new }) (l.forM f) := by
  refine Keeps.forM fun a _ s ⟨hl, hx, new, hs⟩ => ?_
  obtain ⟨context, h⟩ := hf a s
  have hc := CardReq.elemInfo_card (ElemInfo.forNumid a.numid) s.card
  rw [h]
  rcases hr : (ExceptT.run (CardReq.elemInfo (ElemInfo.forNumid a.numid))).run s.card
    with ⟨_ | info, c⟩
  all_goals
    rw [hr] at hc
    cases hc
  · exact ⟨hl, hx, new, hs⟩
  · refine ⟨hl, hx, new ++ [Entry.ofInfo info], ?_⟩
    rw [hs]
    simp [Mixer.push]

theorem fetches_length_of_ok : ∀ (l : List ElemId) (s : OnCard VirtualCard Mixer),
    ((ExceptT.run (l.forM f)).run s).1 = .ok () →
    ((ExceptT.run (l.forM f)).run s).2.subject.controls.length =
      s.subject.controls.length + l.length
  | [], _, _ => rfl
  | a :: l, s, hok => by
    rcases hr : (ExceptT.run (CardReq.elemInfo (ElemInfo.forNumid a.numid))).run s.card
      with ⟨e | info, c⟩
    · obtain ⟨context, h⟩ := fetches_cons_error hf (l := l) hr
      rw [h] at hok
      cases hok
    · rw [fetches_cons_ok hf hr] at hok ⊢
      rw [fetches_length_of_ok l _ hok]
      simp [Mixer.push]
      omega

theorem fetches_error : ∀ (l : List ElemId) (s : OnCard VirtualCard Mixer) (e : MixerError),
    ((ExceptT.run (l.forM f)).run s).1 = .error e → ∃ context cause, e = .driver context cause
  | [], _, _, h => by cases h
  | a :: l, s, e, he => by
    rcases hr : (ExceptT.run (CardReq.elemInfo (ElemInfo.forNumid a.numid))).run s.card
      with ⟨cause | info, c⟩
    · obtain ⟨context, h⟩ := fetches_cons_error hf (l := l) hr
      rw [h] at he
      cases he
      exact ⟨context, cause, rfl⟩
    · rw [fetches_cons_ok hf hr] at he
      exact fetches_error l _ e he

/-- Fetching the ids numbered from the registry's length on, within the card, keeps the
registry a mirror of the card: each entry appended is the card's next element. -/
theorem fetches_mirrors : ∀ (l : List ElemId) (s : OnCard VirtualCard Mixer),
    l.map (fun id => id.numid.toNat) = List.range' (s.subject.controls.length + 1) l.length →
    s.subject.controls.length + l.length ≤ s.card.controls.length →
    s.card.controls.length < 2 ^ 32 →
    Mirrors s.card.shapes s.subject.controls →
    Mirrors ((ExceptT.run (l.forM f)).run s).2.card.shapes
      ((ExceptT.run (l.forM f)).run s).2.subject.controls
  | [], _, _, _, _, hm => hm
  | a :: l, s, hnum, hfit, hsmall, hm => by
    simp only [List.map_cons, List.length_cons, List.range'_succ, List.cons.injEq] at hnum
    simp only [List.length_cons] at hfit
    obtain ⟨ha, hnum⟩ := hnum
    have hcard := CardReq.elemInfo_card (ElemInfo.forNumid a.numid) s.card
    rcases hr : (ExceptT.run (CardReq.elemInfo (ElemInfo.forNumid a.numid))).run s.card
      with ⟨cause | info, c⟩
    all_goals
      rw [hr] at hcard
      cases hcard
    · obtain ⟨context, h⟩ := fetches_cons_error hf (l := l) hr
      rw [h]
      exact hm
    · rw [fetches_cons_ok hf hr]
      have hid : a.numid = UInt32.ofNat (s.subject.controls.length + 1) := by
        rw [← ha, UInt32.ofNat_toNat]
      obtain ⟨cc, hcc, hinfo, htype⟩ := CardReq.elemInfo_ok hr
      have hpos : s.card.controls[s.subject.controls.length]? = some cc := by
        rw [← VirtualCard.control?_succ (n := s.subject.controls.length) (by omega), ← hid]
        exact hcc
      have hsh : s.card.shapes[s.subject.controls.length]? = some cc.shape := by
        simp [VirtualCard.shapes, hpos]
      refine fetches_mirrors l _ ?_ ?_ hsmall (hm.push hsh ?_)
      · simpa [Mixer.push] using hnum
      · simp only [Mixer.push, List.length_append, List.length_singleton]
        omega
      · exact Entry.reads_ofInfo (by rw [hinfo, ← hid]; rfl) htype

end Loop

theorem fetches_fetch : Fetches (Mixer.fetch VirtualCard.device) := by
  intro id s
  unfold Mixer.fetch
  simp only [run_bind, run_ask, VirtualCard.device]
  rcases (ExceptT.run (CardReq.elemInfo (ElemInfo.forNumid id.numid))).run s.card
    with ⟨_ | info, c⟩
  · exact ⟨_, rfl⟩
  · exact ⟨"", rfl⟩

section Scan

variable {v : VirtualCard} {m : Mixer}

theorem scan_count_failed {n : Int} (hcount : v.failures .elemCount = some n) :
    (Mixer.scan VirtualCard.device).exec v m =
      (.error (.driver "cannot count controls" (.os n)), { card := v.bump .elemCount, subject := m }) := by
  unfold Mixer.scan OnCardM.exec
  simp only [run_bind, run_get, run_ask, VirtualCard.device, CardReq.run_elemCount, hcount]

theorem scan_unchanged (hcount : v.failures .elemCount = none)
    (heq : v.count.toNat = m.controls.length) :
    (Mixer.scan VirtualCard.device).exec v m = (.ok 0, { card := v.bump .elemCount, subject := m }) := by
  unfold Mixer.scan OnCardM.exec
  simp only [run_bind, run_get, run_ask, VirtualCard.device, CardReq.run_elemCount, hcount]
  rw [if_pos heq]
  rfl

theorem scan_removed (hcount : v.failures .elemCount = none)
    (hlt : v.count.toNat < m.controls.length) :
    (Mixer.scan VirtualCard.device).exec v m =
      (.error (.controlsRemoved m.controls.length v.count.toNat),
        { card := v.bump .elemCount, subject := m }) := by
  unfold Mixer.scan OnCardM.exec
  simp only [run_bind, run_get, run_ask, VirtualCard.device, CardReq.run_elemCount, hcount]
  rw [if_neg (by omega), if_pos hlt]
  rfl

theorem scan_list_failed {n : Int} (hcount : v.failures .elemCount = none)
    (hlt : m.controls.length < v.count.toNat) (hids : v.failures .elemIds = some n) :
    (Mixer.scan VirtualCard.device).exec v m =
      (.error (.driver "cannot list controls" (.os n)),
        { card := (v.bump .elemCount).bump .elemIds, subject := m }) := by
  unfold Mixer.scan OnCardM.exec
  simp only [run_bind, run_get, run_ask, VirtualCard.device, CardReq.run_elemCount, hcount]
  rw [if_neg (by omega), if_neg (by omega)]
  simp only [run_bind, run_ask, CardReq.run_elemIds, VirtualCard.bump_failures, hids]

theorem scan_fetch (hcount : v.failures .elemCount = none)
    (hlt : m.controls.length < v.count.toNat) (hids : v.failures .elemIds = none) :
    (Mixer.scan VirtualCard.device).exec v m =
      (ExceptT.run (do
          (v.idsFrom m.controls.length).forM (Mixer.fetch VirtualCard.device)
          return min v.count.toNat v.controls.length - m.controls.length)).run
        { card := v.listedFrom m.controls.length, subject := m } := by
  have hsmall : v.count.toNat < 2 ^ 32 := v.count.toNat_lt
  have hoff : (UInt32.ofNat m.controls.length).toNat = m.controls.length :=
    UInt32.toNat_ofNat_of_lt' (show _ < 2 ^ 32 by omega)
  have hspace : (UInt32.ofNat (v.count.toNat - m.controls.length)).toNat =
      v.count.toNat - m.controls.length := UInt32.toNat_ofNat_of_lt' (show _ < 2 ^ 32 by omega)
  unfold Mixer.scan OnCardM.exec
  simp only [run_bind, run_get, run_ask, VirtualCard.device, CardReq.run_elemCount, hcount]
  rw [if_neg (by omega), if_neg (by omega)]
  simp only [run_bind, run_ask, CardReq.run_elemIds, VirtualCard.bump_failures, hids, run_pure,
    hoff, hspace, Nat.add_sub_cancel' hlt.le, VirtualCard.bump_controls, VirtualCard.idOf_bump,
    List.length_map, List.length_range, VirtualCard.idsFrom, VirtualCard.listedFrom]

/-- The ways a scan on the virtual card goes, with what it answers and the state it leaves. -/
inductive ScanRun (v : VirtualCard) (m : Mixer) :
    Except MixerError Nat → OnCard VirtualCard Mixer → Prop
  /-- The count request fails. -/
  | countFailed {n : Int} : v.failures .elemCount = some n →
      ScanRun v m (.error (.driver "cannot count controls" (.os n)))
        { card := v.bump .elemCount, subject := m }
  /-- The card reports as many elements as the registry holds: nothing else is asked. -/
  | unchanged : v.failures .elemCount = none → v.count.toNat = m.controls.length →
      ScanRun v m (.ok 0) { card := v.bump .elemCount, subject := m }
  /-- The card reports fewer elements than the registry holds. -/
  | removed : v.failures .elemCount = none → v.count.toNat < m.controls.length →
      ScanRun v m (.error (.controlsRemoved m.controls.length v.count.toNat))
        { card := v.bump .elemCount, subject := m }
  /-- The listing request fails. -/
  | listFailed {n : Int} : v.failures .elemCount = none → m.controls.length < v.count.toNat →
      v.failures .elemIds = some n →
      ScanRun v m (.error (.driver "cannot list controls" (.os n)))
        { card := (v.bump .elemCount).bump .elemIds, subject := m }
  /-- The ids listed from the registry's length on are fetched one by one. -/
  | fetched {r : Except MixerError PUnit} {o : OnCard VirtualCard Mixer} :
      v.failures .elemCount = none → m.controls.length < v.count.toNat →
      v.failures .elemIds = none →
      (ExceptT.run ((v.idsFrom m.controls.length).forM (Mixer.fetch VirtualCard.device))).run
        { card := v.listedFrom m.controls.length, subject := m } = (r, o) →
      ScanRun v m (r.map fun _ => (v.idsFrom m.controls.length).length) o

/-- Every scan on the virtual card goes one of the ways `ScanRun` lists. -/
theorem scan_cases (v : VirtualCard) (m : Mixer) :
    ScanRun v m ((Mixer.scan VirtualCard.device).exec v m).1
      ((Mixer.scan VirtualCard.device).exec v m).2 := by
  rcases hcount : v.failures .elemCount with _ | n
  · rcases lt_trichotomy v.count.toNat m.controls.length with hlt | heq | hgt
    · rw [scan_removed hcount hlt]
      exact .removed hcount hlt
    · rw [scan_unchanged hcount heq]
      exact .unchanged hcount heq
    · rcases hids : v.failures .elemIds with _ | n
      · have hrun := fun r o => ScanRun.fetched (r := r) (o := o) hcount hgt hids
        rw [VirtualCard.length_idsFrom] at hrun
        rw [scan_fetch hcount hgt hids, run_bind]
        rcases hr : (ExceptT.run ((v.idsFrom m.controls.length).forM
            (Mixer.fetch VirtualCard.device))).run
            { card := v.listedFrom m.controls.length, subject := m } with ⟨_ | _, o⟩
        · exact hrun _ _ hr
        · exact hrun _ _ hr
      · rw [scan_list_failed hcount hgt hids]
        exact .listFailed hcount hgt hids
  · rw [scan_count_failed hcount]
    exact .countFailed hcount

namespace ScanRun

variable {r : Except MixerError Nat} {o : OnCard VirtualCard Mixer}

theorem frame (h : ScanRun v m r o) :
    o.card.layout = v.layout ∧ ∃ new, o.subject = { m with controls := m.controls ++ new } := by
  cases h
  case fetched hr =>
    have hk := fetches_frame fetches_fetch (v.idsFrom m.controls.length) v.layout
      (v.listedFrom m.controls.length).lastList m
      { card := v.listedFrom m.controls.length, subject := m } ⟨rfl, rfl, [], by simp⟩
    rw [hr] at hk
    exact ⟨hk.1, hk.2.2⟩
  all_goals exact ⟨rfl, [], by simp⟩

/-- On a card that reports its length, a scan keeps a registry that mirrors the card a
mirror, whatever it answers: a failed fetch keeps every entry fetched before it. -/
theorem mirrors (h : ScanRun v m r o) (hv : v.ReportsLength) (hm : Mirrors v.shapes m.controls) :
    Mirrors o.card.shapes o.subject.controls := by
  cases h
  case fetched r _ _ _ hr =>
    have hlen := hm.length_le
    simp only [VirtualCard.shapes, List.length_map] at hlen
    have hfit : m.controls.length + (v.idsFrom m.controls.length).length ≤
        (v.listedFrom m.controls.length).controls.length := by
      have hl : (v.listedFrom m.controls.length).controls = v.controls := rfl
      rw [VirtualCard.length_idsFrom, hl]
      omega
    have := fetches_mirrors fetches_fetch (v.idsFrom m.controls.length)
      { card := v.listedFrom m.controls.length, subject := m }
      (VirtualCard.numids_idsFrom _) hfit hv.length_lt hm
    rw [hr] at this
    exact this
  all_goals exact hm

/-- On a card that reports its length, a scan that answers `k` has appended `k` entries and
holds as many as the card. -/
theorem length_of_ok {k : Nat} (h : ScanRun v m r o) (hv : v.ReportsLength) (hk : r = .ok k) :
    o.subject.controls.length = m.controls.length + k ∧
      o.subject.controls.length = v.controls.length := by
  have hcount := hv.count_toNat
  cases h
  case unchanged heq =>
    cases hk
    exact ⟨rfl, show m.controls.length = v.controls.length by omega⟩
  case fetched r _ hlt _ hr =>
    rcases r with _ | _
    · cases hk
    · cases hk
      have := fetches_length_of_ok fetches_fetch (v.idsFrom m.controls.length)
        { card := v.listedFrom m.controls.length, subject := m }
      rw [hr] at this
      have hlen := this rfl
      dsimp only at hlen
      rw [VirtualCard.length_idsFrom] at hlen ⊢
      constructor <;> omega
  all_goals cases hk

/-- A scan that fails with `controlsRemoved` was told fewer elements than the registry
holds, and leaves the registry as it was. -/
theorem of_removed {cached reported : Nat} (h : ScanRun v m r o)
    (hr : r = .error (.controlsRemoved cached reported)) :
    v.failures .elemCount = none ∧ v.count.toNat < m.controls.length ∧ o.subject = m := by
  cases h
  case removed hcount hlt => exact ⟨hcount, hlt, rfl⟩
  case fetched r _ _ _ hrun =>
    rcases r with e | _
    · cases hr
      have := fetches_error fetches_fetch (v.idsFrom m.controls.length)
        { card := v.listedFrom m.controls.length, subject := m } (.controlsRemoved cached reported)
      rw [hrun] at this
      obtain ⟨_, _, hd⟩ := this rfl
      cases hd
    · cases hr
  all_goals cases hr

theorem removed_iff (h : ScanRun v m r o) :
    (∃ cached reported, r = .error (.controlsRemoved cached reported)) ↔
      v.failures .elemCount = none ∧ v.count.toNat < m.controls.length := by
  refine ⟨fun ⟨_, _, hr⟩ => ⟨(h.of_removed hr).1, (h.of_removed hr).2.1⟩,
    fun ⟨hcount, hlt⟩ => ?_⟩
  cases h
  case removed => exact ⟨_, _, rfl⟩
  case countFailed hfail => simp [hfail] at hcount
  all_goals
    exfalso
    omega

theorem listing (h : ScanRun v m r o) :
    o.card.lastList = v.lastList ∨
      m.controls.length < v.count.toNat ∧ o.card.lastList =
        some (UInt32.ofNat m.controls.length, UInt32.ofNat (v.count.toNat - m.controls.length)) := by
  cases h
  case fetched r _ hlt _ hr =>
    have hk := fetches_frame fetches_fetch (v.idsFrom m.controls.length) v.layout
      (v.listedFrom m.controls.length).lastList m
      { card := v.listedFrom m.controls.length, subject := m } ⟨rfl, rfl, [], by simp⟩
    rw [hr] at hk
    exact Or.inr ⟨hlt, hk.2.1⟩
  all_goals exact Or.inl rfl

end ScanRun

end Scan

end SoundCard.Control
