import Mathlib
import SoundCard.Proofs.RegistryScan
import SoundCard.Proofs.ByteArea
import SoundCard.Device.FileNode
/-! Reading element events from a card that queues event records (`EventQueue`), such as a
regular file read as a control device. -/
namespace SoundCard.Control

section Queue

variable {σ : Type}

/-- A view `q` of a card's states, where `P` holds, as a queue of events that each read
answers and drops. -/
structure EventQueue (D : ControlDevice σ) (P : σ → Prop) (q : σ → List Event) : Prop where
  read : ∀ c, P c → ∃ c', (D.readEvent.run).run c = (.ok (q c).head?, c') ∧ P c' ∧
    q c' = (q c).tail
  queued : ∀ c, P c → D.queued c = (q c).length

/-- The element events of a queue, decoded, in order. -/
def elemEvents (l : List Event) : List ElemEvent :=
  l.filterMap fun e => if e.type = 0 then some (ElemEvent.ofEvent e) else none

/-- What is left of a queue once its first element event is read: all after it, or
nothing when it has none. -/
def afterElemEvent : List Event → List Event
  | [] => []
  | e :: l => if e.type = 0 then l else afterElemEvent l

@[simp] theorem elemEvents_nil : elemEvents [] = [] := rfl

theorem elemEvents_cons (e : Event) (l : List Event) :
    elemEvents (e :: l) =
      if e.type = 0 then ElemEvent.ofEvent e :: elemEvents l else elemEvents l := by
  by_cases he : e.type = 0 <;> simp [elemEvents, he]

theorem elemEvents_afterElemEvent (l : List Event) :
    elemEvents (afterElemEvent l) = (elemEvents l).tail := by
  induction l with
  | nil => rfl
  | cons e l ih =>
    by_cases he : e.type = 0
    · simp [afterElemEvent, elemEvents_cons, he]
    · simp [afterElemEvent, elemEvents_cons, he, ih]

/-- `n` successive reads of the next element event, with their answers in order. -/
def Mixer.readEvents (D : ControlDevice σ) : Nat → MixerM σ (List (Option ElemEvent))
  | 0 => pure []
  | n + 1 => do
    let e ← Mixer.readEvent D
    let es ← Mixer.readEvents D n
    pure (e :: es)

theorem range_map_getElem?_succ (l : List ElemEvent) (n : Nat) :
    (List.range (n + 1)).map (fun i => l[i]?) =
      l.head? :: (List.range n).map (fun i => l.tail[i]?) := by
  rw [List.range_succ_eq_map, List.map_cons, List.map_map]
  congr 1
  · exact List.head?_eq_getElem?.symm
  · apply List.map_congr_left
    intro i _
    simp

variable {D : ControlDevice σ} {P : σ → Prop} {q : σ → List Event}

theorem EventQueue.ask_read (h : EventQueue D P q) {c : σ} (hc : P c) {α : Type}
    (context : String) (a : α) :
    ∃ c', (ExceptT.run (OnCardM.ask context D.readEvent)).run ⟨c, a⟩ =
      (.ok (q c).head?, ⟨c', a⟩) ∧ P c' ∧ q c' = (q c).tail := by
  obtain ⟨c', hr, hP, hq⟩ := h.read c hc
  refine ⟨c', ?_, hP, hq⟩
  rw [run_ask, hr]

/-- Reading within `fuel` records, more than are queued, answers the first element event and
consumes the queue through it. -/
theorem EventQueue.readEventWithin (h : EventQueue D P q) (m : Mixer) :
    ∀ (l : List Event) (c : σ) (fuel : Nat), P c → q c = l → l.length < fuel →
      ∃ c', (Mixer.readEventWithin D fuel).exec c m = (.ok (elemEvents l).head?, ⟨c', m⟩) ∧
        P c' ∧ q c' = afterElemEvent l := by
  intro l
  induction l with
  | nil =>
    rintro c (_ | fuel) hc hl hf
    · simp at hf
    obtain ⟨c', hr, hP, hq⟩ := h.ask_read hc "cannot read event" m
    rw [hl] at hr hq
    refine ⟨c', ?_, hP, hq⟩
    simp only [OnCardM.exec, Mixer.readEventWithin, run_bind, hr]
    rfl
  | cons e l ih =>
    rintro c (_ | fuel) hc hl hf
    · simp at hf
    obtain ⟨c', hr, hP, hq⟩ := h.ask_read hc "cannot read event" m
    rw [hl] at hr hq
    simp only [List.head?_cons, List.tail_cons] at hr hq
    by_cases he : e.type = 0
    · refine ⟨c', ?_, hP, by simp [afterElemEvent, he, hq]⟩
      simp only [OnCardM.exec, Mixer.readEventWithin, run_bind, hr, he, if_true,
        elemEvents_cons]
      rfl
    · have hf' : l.length < fuel := by simp at hf; omega
      obtain ⟨c'', hrun, hP', hq'⟩ := ih c' fuel hP hq hf'
      refine ⟨c'', ?_, hP', by simp [afterElemEvent, he, hq']⟩
      simp only [OnCardM.exec, Mixer.readEventWithin, run_bind, hr, he, if_false,
        elemEvents_cons] at hrun ⊢
      exact hrun

theorem EventQueue.readEvent (h : EventQueue D P q) {c : σ} (hc : P c) (m : Mixer) :
    ∃ c', (Mixer.readEvent D).exec c m = (.ok (elemEvents (q c)).head?, ⟨c', m⟩) ∧
      P c' ∧ q c' = afterElemEvent (q c) := by
  have hrun := h.readEventWithin m (q c) c ((q c).length + 1) hc rfl (Nat.lt_succ_self _)
  simp only [OnCardM.exec, Mixer.readEvent, run_bind, run_get, h.queued c hc] at hrun ⊢
  exact hrun

/-- Successive reads answer the element events in order, then nothing. -/
theorem EventQueue.readEvents (h : EventQueue D P q) (m : Mixer) (n : Nat) :
    ∀ c, P c → ∃ c', P c' ∧ (Mixer.readEvents D n).exec c m =
      (.ok ((List.range n).map fun i => (elemEvents (q c))[i]?), ⟨c', m⟩) := by
  induction n with
  | zero => exact fun c hc => ⟨c, hc, rfl⟩
  | succ n ih =>
    intro c hc
    obtain ⟨c₁, h₁, hP₁, hq₁⟩ := h.readEvent hc m
    obtain ⟨c₂, hP₂, h₂⟩ := ih c₁ hP₁
    have hrest : elemEvents (q c₁) = (elemEvents (q c)).tail := by
      rw [hq₁, elemEvents_afterElemEvent]
    refine ⟨c₂, hP₂, ?_⟩
    simp only [OnCardM.exec, Mixer.readEvents, run_bind] at h₁ h₂ ⊢
    rw [h₁]
    dsimp only
    rw [h₂, range_map_getElem?_succ, ← hrest]
    rfl

end Queue

end SoundCard.Control

namespace SoundCard.Device.FileNode

open SoundCard.Control

/-- The complete records of `size` bytes at the start of `bs`, in order; a shorter tail is
left out. -/
def completeRecords (size : Nat) (bs : List UInt8) : List (List UInt8) :=
  if 0 < size ∧ size ≤ bs.length then bs.take size :: completeRecords size (bs.drop size)
  else []
termination_by bs.length
decreasing_by simp only [List.length_drop]; omega

theorem completeRecords_of_le {size : Nat} {bs : List UInt8} (hs : 0 < size)
    (h : size ≤ bs.length) :
    completeRecords size bs = bs.take size :: completeRecords size (bs.drop size) := by
  rw [completeRecords, if_pos ⟨hs, h⟩]

theorem completeRecords_of_lt {size : Nat} {bs : List UInt8} (h : bs.length < size) :
    completeRecords size bs = [] := by
  rw [completeRecords, if_neg (by omega)]

theorem length_completeRecords {size : Nat} (hs : 0 < size) (bs : List UInt8) :
    (completeRecords size bs).length = bs.length / size := by
  fun_induction completeRecords size bs with
  | case1 bs h ih =>
    rw [List.length_cons, ih, List.length_drop, Nat.div_eq_sub_div h.1 h.2]
  | case2 bs h =>
    rw [List.length_nil, Nat.div_eq_of_lt (by omega)]

/-- The events still to read from a regular file: its complete records from the read
position on, decoded. -/
def queuedEvents (f : FileNode) : List Event :=
  match f.contents with
  | .bytes data => (completeRecords eventBytes (data.drop f.pos)).map decodeEvent
  | .device _ => []

/-- The file is a regular one, of the bytes `data`. -/
def Regular (f : FileNode) : Prop := ∃ data, f.contents = .bytes data

theorem queuedEvents_of_bytes {f : FileNode} {data : List UInt8}
    (hf : f.contents = .bytes data) (pos : Nat) :
    queuedEvents { f with pos := pos } =
      (completeRecords eventBytes (data.drop pos)).map decodeEvent := by
  simp [queuedEvents, hf]

theorem queuedEvents_eq {f : FileNode} {data : List UInt8} (hf : f.contents = .bytes data) :
    queuedEvents f = (completeRecords eventBytes (data.drop f.pos)).map decodeEvent := by
  simp [queuedEvents, hf]

theorem readEvent_run {f : FileNode} {data : List UInt8} (hf : f.contents = .bytes data) :
    (controlDevice.readEvent.run).run f =
      (.ok (if ((data.drop f.pos).take eventBytes).length < eventBytes then none
        else some (decodeEvent ((data.drop f.pos).take eventBytes))),
       { f with pos := f.pos + ((data.drop f.pos).take eventBytes).length }) := by
  simp only [controlDevice, readEvent, read, hf, bind_pure_comp, run_bind, run_get]
  rfl

/-- A regular file is a queue of its complete records: a read takes the next 72 bytes, and a
shorter read at the end is no event and leaves no record behind. -/
theorem eventQueue_controlDevice : EventQueue controlDevice Regular queuedEvents where
  read := by
    rintro f ⟨data, hf⟩
    by_cases hlen : eventBytes ≤ (data.drop f.pos).length
    · have htake : ((data.drop f.pos).take eventBytes).length = eventBytes := by
        rw [List.length_take]
        omega
      have hrecs : completeRecords eventBytes (data.drop f.pos) =
          (data.drop f.pos).take eventBytes ::
            completeRecords eventBytes (data.drop (f.pos + eventBytes)) := by
        rw [completeRecords_of_le (by decide) hlen, List.drop_drop]
      refine ⟨{ f with pos := f.pos + eventBytes }, ?_, ⟨data, hf⟩, ?_⟩
      · rw [readEvent_run hf, htake, if_neg (Nat.lt_irrefl _), queuedEvents_eq hf, hrecs]
        rfl
      · rw [queuedEvents_of_bytes hf, queuedEvents_eq hf, hrecs]
        rfl
    · have hshort : ((data.drop f.pos).take eventBytes).length = (data.drop f.pos).length := by
        rw [List.length_take]
        omega
      have hnone : completeRecords eventBytes (data.drop f.pos) = [] :=
        completeRecords_of_lt (by omega)
      refine ⟨{ f with pos := f.pos + (data.drop f.pos).length }, ?_, ⟨data, hf⟩, ?_⟩
      · rw [readEvent_run hf, hshort, if_pos (by omega), queuedEvents_eq hf, hnone]
        rfl
      · rw [queuedEvents_of_bytes hf, queuedEvents_eq hf, hnone, completeRecords_of_lt]
        · rfl
        · simp only [List.length_drop] at hlen ⊢
          omega
  queued := by
    rintro f ⟨data, hf⟩
    simp [controlDevice, recordsLeft, queuedEvents, hf,
      length_completeRecords (show 0 < eventBytes by decide)]

theorem decodeEvent_type_eq_zero (bs : List UInt8) :
    (decodeEvent bs).type = 0 ↔ readLE bs 0 4 = 0 := by
  have hlt : readLE bs 0 4 < 4294967296 := readLE_lt bs 0 4
  have h31 : Nat.pow 2 (32 - 1) = 2147483648 := rfl
  have h32 : Nat.pow 2 32 = 4294967296 := rfl
  simp only [decodeEvent, toSigned, h31, h32]
  split <;> omega

theorem ofNat_beq_removedMask {x : Nat} (hx : x < 4294967296) :
    (UInt32.ofNat x == removedMask) = decide (x = 4294967295) := by
  have hnat : (UInt32.ofNat x).toNat = x := by
    exact UInt32.toNat_ofNat_of_lt' hx
  by_cases h : x = 4294967295
  · subst h
    rfl
  · have hne : UInt32.ofNat x ≠ removedMask := by
      intro he
      apply h
      rw [← hnat, he]
      rfl
    simp [hne, h]

theorem ofEvent_decodeEvent (bs : List UInt8) :
    ElemEvent.ofEvent (decodeEvent bs) =
      { numid := UInt32.ofNat (readLE bs 8 4), name := Text.cstrFixed (getField bs 24 44),
        index := UInt32.ofNat (readLE bs 68 4),
        mask := if readLE bs 4 4 = 4294967295 then 0 else UInt32.ofNat (readLE bs 4 4) &&& 15,
        removed := decide (readLE bs 4 4 = 4294967295) } := by
  have hremoved := ofNat_beq_removedMask (readLE_lt bs 4 4)
  simp only [ElemEvent.ofEvent, decodeEvent, ElemId.nameText, nameWidth, hremoved]
  by_cases h : readLE bs 4 4 = 4294967295 <;> simp [h]

/-- Successive reads of element events answer them in queue order, then nothing; a regular file
read as a control device queues its complete 72-byte records. -/
theorem element_events_read_in_order :
    (∀ {σ : Type} (D : ControlDevice σ) (P : σ → Prop) (q : σ → List Event),
      EventQueue D P q → ∀ c, P c → ∀ (m : Mixer),
        (∃ c', (Mixer.readEvent D).exec c m = (.ok (elemEvents (q c)).head?, ⟨c', m⟩) ∧
          P c' ∧ q c' = afterElemEvent (q c)) ∧
        ∀ n, ∃ c', P c' ∧ (Mixer.readEvents D n).exec c m =
          (.ok ((List.range n).map fun i => (elemEvents (q c))[i]?), ⟨c', m⟩)) ∧
    (∀ (f : FileNode) (data : List UInt8) (m : Mixer) (n : Nat), f.contents = .bytes data →
      ∃ f', (Mixer.readEvents controlDevice n).exec f m =
        (.ok ((List.range n).map fun i =>
          (elemEvents ((completeRecords eventBytes (data.drop f.pos)).map decodeEvent))[i]?),
         ⟨f', m⟩)) ∧
    (∀ (f : FileNode) (data : List UInt8) (m : Mixer) (n : Nat), f.contents = .bytes data →
      data.length < f.pos + eventBytes →
      ∃ f', (Mixer.readEvents controlDevice n).exec f m = (.ok (List.replicate n none), ⟨f', m⟩)) ∧
    (∀ bs, (decodeEvent bs).type = 0 ↔ readLE bs 0 4 = 0) ∧
    (∀ bs, ElemEvent.ofEvent (decodeEvent bs) =
      { numid := UInt32.ofNat (readLE bs 8 4), name := Text.cstrFixed (getField bs 24 44),
        index := UInt32.ofNat (readLE bs 68 4),
        mask := if readLE bs 4 4 = 4294967295 then 0 else UInt32.ofNat (readLE bs 4 4) &&& 15,
        removed := decide (readLE bs 4 4 = 4294967295) }) := by
  have hfile : ∀ (f : FileNode) (data : List UInt8) (m : Mixer) (n : Nat),
      f.contents = .bytes data → ∃ f', (Mixer.readEvents controlDevice n).exec f m =
        (.ok ((List.range n).map fun i =>
          (elemEvents ((completeRecords eventBytes (data.drop f.pos)).map decodeEvent))[i]?),
         ⟨f', m⟩) := by
    intro f data m n hf
    obtain ⟨f', -, hrun⟩ := eventQueue_controlDevice.readEvents m n f ⟨data, hf⟩
    rw [← queuedEvents_eq hf]
    exact ⟨f', hrun⟩
  refine ⟨fun D P q h c hc m => ⟨h.readEvent hc m, fun n => h.readEvents m n c hc⟩, hfile,
    ?_, decodeEvent_type_eq_zero, ofEvent_decodeEvent⟩
  intro f data m n hf hshort
  obtain ⟨f', hrun⟩ := hfile f data m n hf
  have hleft : (data.drop f.pos).length < eventBytes := by
    have hsize : 0 < eventBytes := by decide
    rw [List.length_drop]
    omega
  refine ⟨f', ?_⟩
  rw [hrun, completeRecords_of_lt hleft]
  simp

end SoundCard.Device.FileNode
