import SoundCard.Proofs.MappedPointer
import SoundCard.Virtual.Pcm
/-! What a failing operation leaves in its handle: its own capped text, or, on a handle that is
not ready, the text the handle keeps. -/
namespace SoundCard.Pcm

open SoundCard.Os

/-- The operations of a stream that can fail, with their arguments; renegotiation apart. -/
inductive StreamOp where
  | prepare
  | start
  | stop
  | drain
  | available
  | htimestamp
  | delay
  | state
  | wait (timeout : Int)
  /-- Linking to a peer, given the peer's descriptor if it has one. -/
  | link (peer : Option Int)
  | unlink
  | writei (data : ByteArray) (frames : Nat)
  | readi (data : ByteArray) (frames : Nat)
  | write (data : ByteArray)
  | read (data : ByteArray)
  | availUpdate
  | mmapBegin (frames : Nat)
  | mmapCommit (run : MmapRun)
  | mmapWrite (data : ByteArray) (frames : Nat)
  | mmapRead (data : ByteArray) (frames : Nat)

namespace StreamOp

variable {σ : Type}

/-- Runs an operation, keeping only whether it failed and the handle it leaves. -/
def run (D : PcmDevice σ) : StreamOp → StreamM σ Unit
  | .prepare => PcmStream.prepare D
  | .start => PcmStream.start D
  | .stop => PcmStream.stop D
  | .drain => PcmStream.drain D
  | .available => discard (PcmStream.available D)
  | .htimestamp => discard (PcmStream.htimestamp D)
  | .delay => discard (PcmStream.delay D)
  | .state => discard (PcmStream.state D)
  | .wait timeout => discard (PcmStream.wait D timeout)
  | .link peer => PcmStream.link D peer
  | .unlink => PcmStream.unlink D
  | .writei data frames => discard (PcmStream.writei D data frames)
  | .readi data frames => discard (PcmStream.readi D data frames)
  | .write data => discard (PcmStream.write D data)
  | .read data => discard (PcmStream.read D data)
  | .availUpdate => discard (PcmStream.availUpdate D)
  | .mmapBegin frames => discard (PcmStream.mmapBegin D frames)
  | .mmapCommit run => PcmStream.mmapCommit D run
  | .mmapWrite data frames => discard (PcmStream.mmapWrite D data frames)
  | .mmapRead data frames => discard (PcmStream.mmapRead D data frames)

/-- The failure an operation meets on handle `s` before it looks at the handle's readiness. -/
def precheck (s : PcmStream σ) : StreamOp → Option StreamError
  | .link none => some (.invalidArgument "peer stream has no descriptor")
  | .write data | .read data =>
    if s.frameBytes = 0 ∨ data.size % s.frameBytes ≠ 0 then
      some (.invalidArgument s!"{data.size} bytes is not a whole number of frames")
    else none
  | .mmapBegin _ =>
    if s.data.isNone then some (.invalidArgument "stream was not opened with MMAP") else none
  | _ => none

end StreamOp

namespace PcmStream

variable {σ α β : Type} {s s' : PcmStream σ}

theorem isReady_iff : s.isReady = true ↔ s.attached = true ∧ ∃ g, s.ring = some g := by
  simp [isReady, Option.isSome_iff_exists]

theorem returns_discard {m : StreamM σ α} {r : Except StreamError PUnit} :
    Returns (discard m) s r s' ↔
      (∃ e, r = .error e ∧ Returns m s (.error e) s') ∨
        r = .ok () ∧ ∃ a, Returns m s (.ok a) s' := by
  rw [Functor.discard, map_const, Function.comp_apply, returns_map]
  constructor
  · rintro (h | ⟨a, rfl, h⟩)
    · exact .inl h
    · exact .inr ⟨rfl, a, h⟩
  · rintro (h | ⟨rfl, a, h⟩)
    · exact .inl h
    · exact .inr ⟨a, rfl, h⟩

theorem returns_parts_of_isReady {r : Except StreamError Ring} (hs : s.isReady = true)
    (h : Returns parts s r s') : s' = s ∧ ∃ g, r = .ok g := by
  obtain ⟨ha, g, hg⟩ := isReady_iff.1 hs
  rw [← bind_pure parts, returns_parts_bind ha hg, returns_pure] at h
  exact ⟨h.2, g, h.1⟩

theorem isReady_setRing (hs : s.isReady = true) (g : Ring) :
    { s with ring := some g }.isReady = true :=
  isReady_iff.2 ⟨(isReady_iff.1 hs).1, g, rfl⟩

/-! ## A ready handle stores every failure -/

/-- Every run of `m` from `s` leaves a ready handle, and a failure leaves its own text as
the handle's error. -/
def StoresFrom (m : StreamM σ α) (s : PcmStream σ) : Prop :=
  ∀ r s', Returns m s r s' → s'.isReady = true ∧ ∀ e, r = .error e → s'.error = e.stored

/-- From every ready handle, `m` stores the failure it ends with. -/
def Stores (m : StreamM σ α) : Prop := ∀ s : PcmStream σ, s.isReady = true → StoresFrom m s

section Stores

theorem stores_pure (a : α) : Stores (pure a : StreamM σ α) := by
  intro s hs r s' h
  obtain ⟨rfl, rfl⟩ := returns_pure.1 h
  exact ⟨hs, fun e he => by cases he⟩

theorem stores_bind {x : StreamM σ α} {f : α → StreamM σ β} (hx : Stores x)
    (hf : ∀ a, Stores (f a)) : Stores (x >>= f) := by
  intro s hs r s' h
  rcases returns_bind.1 h with ⟨e, rfl, h₁⟩ | ⟨a, s₁, h₁, h₂⟩
  · obtain ⟨hs', he⟩ := hx s hs _ s' h₁
    exact ⟨hs', fun e' h' => he e' (by cases h'; rfl)⟩
  · exact hf a s₁ (hx s hs _ s₁ h₁).1 r s' h₂

theorem stores_ite {c : Prop} [Decidable c] {x y : StreamM σ α} (hx : Stores x)
    (hy : Stores y) : Stores (if c then x else y) := by
  split
  · exact hx
  · exact hy

theorem stores_dite {c : Prop} [Decidable c] {x : c → StreamM σ α} {y : ¬c → StreamM σ α}
    (hx : ∀ h, Stores (x h)) (hy : ∀ h, Stores (y h)) : Stores (dite c x y) := by
  split
  · exact hx _
  · exact hy _

theorem stores_join {c : Prop} [Decidable c] {x : StreamM σ Unit} {k : Unit → StreamM σ α}
    (hx : Stores x) (hk : ∀ u, Stores (k u)) : Stores (if c then x >>= k else k ()) :=
  stores_ite (stores_bind hx hk) (hk ())

theorem stores_get : Stores (get : StreamM σ (PcmStream σ)) := by
  intro s hs r s' h
  obtain ⟨rfl, rfl⟩ := returns_get.1 h
  exact ⟨hs, fun e he => by cases he⟩

theorem stores_get_bind {f : PcmStream σ → StreamM σ β}
    (hf : ∀ s, s.isReady = true → StoresFrom (f s) s) : Stores (get >>= f) :=
  fun s hs r s' h => hf s hs r s' (returns_get_bind.1 h)

theorem stores_modify {f : PcmStream σ → PcmStream σ}
    (hf : ∀ s, s.isReady = true → (f s).isReady = true) :
    Stores (modify f : StreamM σ Unit) := by
  intro s hs r s' h
  obtain ⟨rfl, rfl⟩ := returns_modify.1 h
  exact ⟨hf s hs, fun e he => by cases he⟩

theorem stores_fail (e : StreamError) : Stores (fail e : StreamM σ α) := by
  intro s hs r s' h
  obtain ⟨rfl, rfl⟩ := returns_fail.1 h
  exact ⟨hs, fun e' he => by cases he; rfl⟩

theorem stores_lift {t : Trapping α} : Stores (monadLift t : StreamM σ α) := by
  intro s hs r s' h
  obtain ⟨a, -, rfl, rfl⟩ := returns_lift.1 h
  exact ⟨hs, fun e he => by cases he⟩

theorem stores_ask (m : DeviceM σ α) : Stores (ask m) := by
  intro s hs r s' h
  obtain ⟨o, d, -, rfl, rfl⟩ := returns_ask.1 h
  exact ⟨hs, fun e he => by cases he⟩

theorem stores_parts : Stores (parts : StreamM σ Ring) := by
  intro s hs r s' h
  obtain ⟨rfl, g, rfl⟩ := returns_parts_of_isReady hs h
  exact ⟨hs, fun e he => by cases he⟩

theorem stores_discard {m : StreamM σ α} (hm : Stores m) : Stores (discard m) := by
  intro s hs r s' h
  rcases returns_discard.1 h with ⟨e, rfl, h₁⟩ | ⟨rfl, a, h₁⟩
  · obtain ⟨hs', he⟩ := hm s hs _ s' h₁
    exact ⟨hs', fun e' h' => he e' (by cases h'; rfl)⟩
  · exact ⟨(hm s hs _ s' h₁).1, fun e he => by cases he⟩

theorem storesFrom_throw {e : StreamError} (hs : s.isReady = true) (he : s.error = e.stored) :
    StoresFrom (throw e : StreamM σ α) s := by
  intro r s' h
  obtain ⟨rfl, rfl⟩ := returns_throw.1 h
  exact ⟨hs, fun e' h' => by cases h'; exact he⟩

theorem stores_attempt_bind {m : StreamM σ α} {k : Except StreamError α → StreamM σ β}
    (hm : Stores m)
    (hk : ∀ o s, s.isReady = true → (∀ e, o = .error e → s.error = e.stored) →
      StoresFrom (k o) s) :
    Stores (attempt m >>= k) := by
  intro s hs r s' h
  rcases returns_bind.1 h with ⟨e, rfl, h₁⟩ | ⟨o, s₁, h₁, h₂⟩
  · obtain ⟨o, ho, -⟩ := returns_attempt.1 h₁
    cases ho
  · obtain ⟨o', ho, h₁⟩ := returns_attempt.1 h₁
    cases ho
    obtain ⟨hs₁, he⟩ := hm s hs _ s₁ h₁
    exact hk _ s₁ hs₁ he r s' h₂

variable (D : PcmDevice σ)

theorem stores_syncRing (flags : UInt32) : Stores (syncRing D flags) := by
  unfold syncRing
  refine stores_bind stores_parts fun _ => stores_bind (stores_ask _) fun o => ?_
  rcases o with e | g
  · exact stores_pure _
  · exact stores_bind (stores_modify fun _ hs => isReady_setRing hs g) fun _ =>
      stores_pure _

theorem stores_readRing (f : σ → Ring → α) : Stores (readRing f) := by
  unfold readRing
  exact stores_bind stores_parts fun _ => stores_bind stores_get fun _ => stores_pure _

theorem stores_prepare : Stores (prepare D) := by
  unfold prepare
  refine stores_bind stores_parts fun _ => stores_bind (stores_ask _) fun o => ?_
  rcases o with e | ⟨⟩
  · exact stores_fail _
  · refine stores_bind (stores_syncRing D _) fun o => ?_
    rcases o with e | ⟨⟩
    · exact stores_fail _
    · exact stores_modify fun _ hs => hs

theorem stores_start : Stores (start D) := by
  unfold start
  refine stores_get_bind fun s hs => ?_
  simp only [hs, Bool.not_true, Bool.false_eq_true, if_false]
  refine stores_bind stores_get (fun _ => stores_join (stores_prepare D) fun _ => ?_) s hs
  refine stores_bind stores_parts fun _ => stores_bind (stores_ask _) fun o => ?_
  rcases o with e | ⟨⟩
  · exact stores_fail _
  · exact stores_modify fun _ hs => hs

theorem stores_stop : Stores (stop D) := by
  unfold stop
  refine stores_bind stores_parts fun _ => stores_bind (stores_ask _) fun o => ?_
  rcases o with e | ⟨⟩
  · exact stores_fail _
  · exact stores_modify fun _ hs => hs

theorem stores_drain : Stores (drain D) := by
  unfold drain
  refine stores_bind stores_parts fun _ => stores_bind (stores_ask _) fun o => ?_
  rcases o with e | ⟨⟩
  · exact stores_fail _
  · exact stores_modify fun _ hs => hs

theorem stores_available : Stores (available D) := by
  unfold available
  refine stores_bind stores_parts fun _ => stores_bind (stores_syncRing D _) fun o => ?_
  rcases o with e | ⟨⟩
  on_goal 1 => refine stores_bind (stores_fail _) fun _ => ?_
  all_goals
    refine stores_bind stores_get fun _ => stores_bind (stores_readRing _) fun _ =>
      stores_bind (stores_readRing _) fun _ => ?_
    split
    · exact stores_pure _
    · exact stores_fail _

theorem stores_htimestamp : Stores (htimestamp D) := by
  unfold htimestamp
  exact stores_bind (stores_available D) fun _ => stores_bind (stores_readRing _) fun _ =>
    stores_join (stores_fail _) fun _ => stores_pure _

theorem stores_delay : Stores (delay D) := by
  unfold delay
  refine stores_bind stores_parts fun _ => stores_bind (stores_ask _) fun o => ?_
  rcases o with e | n
  · exact stores_fail _
  · exact stores_pure _

theorem stores_state : Stores (state D) := by
  unfold state
  refine stores_bind stores_parts fun _ => stores_bind (stores_syncRing D _) fun o => ?_
  rcases o with e | ⟨⟩
  · exact stores_bind (stores_fail _) fun _ => stores_bind (stores_readRing _) fun _ =>
      stores_pure _
  · exact stores_bind (stores_readRing _) fun _ => stores_pure _

theorem stores_wait (t : Int) : Stores (wait D t) := by
  unfold wait
  refine stores_bind stores_parts fun _ => stores_bind (stores_ask _) fun o => ?_
  rcases o with e | b
  · exact stores_ite (stores_bind (stores_state D) fun _ => stores_fail _) (stores_fail _)
  · exact stores_pure _

theorem stores_link (peer : Option Int) : Stores (link D peer) := by
  unfold link
  rcases peer with _ | fd
  · exact stores_fail _
  · refine stores_bind stores_parts fun _ => stores_bind (stores_ask _) fun o => ?_
    rcases o with e | ⟨⟩
    · exact stores_fail _
    · exact stores_pure _

theorem stores_unlink : Stores (unlink D) := by
  unfold unlink
  refine stores_bind stores_parts fun _ => stores_bind (stores_ask _) fun o => ?_
  rcases o with e | ⟨⟩
  · exact stores_fail _
  · exact stores_pure _

theorem stores_availUpdate : Stores (availUpdate D) := by
  unfold availUpdate
  refine stores_bind stores_parts fun _ => stores_bind (stores_syncRing D _) fun o => ?_
  rcases o with e | ⟨⟩
  · exact stores_ite (stores_fail _) (stores_fail _)
  · exact stores_bind stores_get fun _ => stores_bind (stores_readRing _) fun _ =>
      stores_bind (stores_readRing _) fun _ => stores_lift

theorem stores_mmapBegin (k : Nat) : Stores (mmapBegin D k) := by
  unfold mmapBegin
  refine stores_bind stores_get fun _ => ?_
  dsimp only
  refine stores_ite (stores_bind (stores_fail _) fun _ => ?_) ?_
  all_goals exact stores_bind (stores_availUpdate D) fun _ => stores_bind stores_get fun _ =>
    stores_bind (stores_readRing _) fun _ => stores_pure _

theorem stores_mmapCommit (run : MmapRun) : Stores (mmapCommit D run) := by
  unfold mmapCommit
  refine stores_bind (stores_availUpdate D) fun _ => ?_
  dsimp only
  refine stores_ite (stores_bind (stores_fail _) fun _ => ?_) ?_
  all_goals
    refine stores_bind stores_get fun _ => stores_bind stores_parts fun _ =>
      stores_bind stores_get fun _ => stores_bind stores_lift fun _ =>
      stores_bind (stores_modify fun _ hs => isReady_setRing hs _) fun _ =>
      stores_bind (stores_syncRing D _) fun o => ?_
    rcases o with e | ⟨⟩
    · exact stores_fail _
    · exact stores_pure _

theorem stores_noteXrun : Stores (noteXrun : StreamM σ Unit) := by
  intro s hs r s' h
  obtain ⟨rfl, -, rfl⟩ := returns_noteXrun h
  exact ⟨hs, fun e he => by cases he⟩

theorem stores_recoverXrun (c : String) (retried : Bool) :
    Stores (recoverXrun c retried : StreamM σ Unit) := by
  unfold recoverXrun
  exact stores_bind stores_noteXrun fun _ => stores_bind stores_get fun _ =>
    stores_ite (stores_fail _) (stores_pure _)

theorem stores_mmapWait (done : Nat) (retried : Bool) : Stores (mmapWait D done retried) := by
  unfold mmapWait
  refine stores_bind stores_get fun _ => ?_
  dsimp only
  refine stores_ite (stores_bind (stores_fail _) fun _ => ?_) ?_
  all_goals
    refine stores_bind stores_get fun _ => stores_bind stores_lift fun _ =>
      stores_attempt_bind (stores_wait D _) fun o s hs he => ?_
    split
    · exact stores_pure _ s hs
    · exact stores_fail _ s hs
    · exact stores_bind (stores_recoverXrun _ _) (fun _ => stores_pure _) s hs
    · exact storesFrom_throw hs (he _ rfl)

theorem stores_areaPut (offset : Nat) (src : ByteArray) :
    Stores (areaPut offset src : StreamM σ Unit) := by
  refine stores_modify fun s hs => ?_
  split
  · exact hs
  · exact hs

theorem stores_checkTransfer (capture : Bool) (len frames : Nat) :
    Stores (checkTransfer capture len frames : StreamM σ Unit) := by
  unfold checkTransfer
  refine stores_get_bind fun s hs => ?_
  rw [if_neg (by simp [hs])]
  exact stores_join (stores_fail _) (fun _ => stores_bind stores_lift fun _ =>
    stores_ite (stores_fail _) (stores_pure _)) s hs

theorem stores_writeFrom (data : ByteArray) (n done : Nat) (retried : Bool) :
    Stores (writeFrom D data n done retried) := by
  induction done, retried using writeFrom.induct n with
  | case2 done retried hd =>
    rw [writeFrom, dif_neg hd]
    exact stores_pure _
  | case1 done retried hd ihok ihxrun =>
    rw [writeFrom, dif_pos hd]
    refine stores_bind stores_get fun _ => ?_
    dsimp only
    refine stores_join (stores_prepare D) fun _ => stores_bind stores_parts fun _ =>
      stores_bind stores_get fun _ => stores_bind (stores_ask _) fun o => ?_
    rcases o with e | _ | m
    · exact stores_ite (stores_bind stores_noteXrun fun _ =>
        stores_dite (fun _ => stores_fail _) fun hr => stores_bind stores_get fun _ =>
          stores_ite (stores_fail _) (ihxrun hr)) (stores_ite (stores_fail _) (stores_fail _))
    · exact stores_fail _
    · exact stores_bind (stores_modify fun _ hs => hs) fun _ => ihok m

theorem stores_readFrom (data : ByteArray) (n done : Nat) (retried : Bool) :
    Stores (readFrom D data n done retried) := by
  induction data, done, retried using @readFrom.induct σ n with
  | case2 data done retried hd =>
    rw [readFrom, dif_neg hd]
    exact stores_pure _
  | case1 data done retried hd ihok ihxrun =>
    rw [readFrom, dif_pos hd]
    refine stores_bind stores_get fun _ => ?_
    dsimp only
    refine stores_join (stores_start D) fun _ => stores_bind stores_parts fun _ =>
      stores_bind stores_get fun x => stores_bind (stores_ask _) fun o => ?_
    rcases o with e | ⟨_ | m, filled⟩
    · exact stores_ite (stores_bind stores_noteXrun fun _ =>
        stores_dite (fun _ => stores_fail _) fun hr => stores_bind stores_get fun _ =>
          stores_ite (stores_fail _) (ihxrun hr)) (stores_ite (stores_fail _) (stores_fail _))
    · exact stores_fail _
    · exact ihok x m filled

theorem stores_mmapWriteFrom (data : ByteArray) (frames : Nat) (startAt : UInt64) :
    ∀ rounds done retried, Stores (mmapWriteFrom D data frames startAt rounds done retried)
  | 0, _, _ => by
    rw [mmapWriteFrom]
    exact stores_fail _
  | rounds + 1, done, retried => by
    have ih := stores_mmapWriteFrom data frames startAt rounds
    rw [mmapWriteFrom]
    refine stores_ite ?_ (stores_pure _)
    refine stores_bind stores_get fun _ => stores_join (stores_prepare D) fun _ => ?_
    refine stores_attempt_bind (stores_availUpdate D) fun o s hs he => ?_
    split
    · exact stores_bind (stores_recoverXrun _ _) (fun _ => ih _ _) s hs
    · exact storesFrom_throw hs (he _ rfl)
    refine stores_bind stores_get (fun _ => stores_join (stores_start D) fun _ => ?_) s hs
    refine stores_ite (stores_bind stores_get fun _ => stores_join (stores_start D) fun _ =>
      stores_bind (stores_mmapWait D _ _) fun _ => ih _ _) ?_
    exact stores_bind (stores_mmapBegin D _) fun _ => stores_bind stores_get fun _ =>
      stores_bind (stores_areaPut _ _) fun _ => stores_bind (stores_mmapCommit D _) fun _ => ih _ _

theorem stores_mmapReadFrom (frames : Nat) :
    ∀ rounds data done retried, Stores (mmapReadFrom D frames rounds data done retried)
  | 0, _, _, _ => by
    rw [mmapReadFrom]
    exact stores_fail _
  | rounds + 1, data, done, retried => by
    have ih := stores_mmapReadFrom frames rounds
    rw [mmapReadFrom]
    refine stores_ite ?_ (stores_pure _)
    refine stores_bind stores_get fun _ => stores_join (stores_start D) fun _ => ?_
    refine stores_attempt_bind (stores_availUpdate D) fun o s hs he => ?_
    split
    · exact stores_bind (stores_recoverXrun _ _) (fun _ => ih _ _ _) s hs
    · exact storesFrom_throw hs (he _ rfl)
    refine stores_ite (stores_bind (stores_mmapWait D _ _) fun _ => ih _ _ _) ?_ s hs
    exact stores_bind (stores_mmapBegin D _) fun _ => stores_bind stores_get fun _ =>
      stores_bind (stores_mmapCommit D _) fun _ => ih _ _ _

theorem stores_mmapWrite (data : ByteArray) (frames : Nat) :
    Stores (mmapWrite D data frames) := by
  unfold mmapWrite
  refine stores_bind (stores_checkTransfer _ _ _) fun _ => stores_bind stores_get fun _ =>
    stores_bind (stores_mmapWriteFrom D _ _ _ _ _ _) fun _ => stores_bind stores_get fun _ => ?_
  exact stores_ite (stores_bind (stores_availUpdate D) fun _ => stores_bind stores_get fun _ =>
    stores_ite (stores_bind (stores_start D) fun _ => stores_pure _) (stores_pure _))
    (stores_pure _)

theorem stores_mmapRead (data : ByteArray) (frames : Nat) : Stores (mmapRead D data frames) :=
  stores_bind (stores_checkTransfer _ _ _) fun _ => stores_mmapReadFrom D _ _ _ _ _

theorem stores_writei (data : ByteArray) (frames : Nat) : Stores (writei D data frames) :=
  stores_bind (stores_checkTransfer _ _ _) fun _ => stores_bind stores_get fun _ =>
    stores_ite (stores_mmapWrite D _ _) (stores_writeFrom D _ _ _ _)

theorem stores_readi (data : ByteArray) (frames : Nat) : Stores (readi D data frames) :=
  stores_bind (stores_checkTransfer _ _ _) fun _ => stores_bind stores_get fun _ =>
    stores_ite (stores_mmapRead D _ _) (stores_readFrom D _ _ _ _)

theorem stores_checkWhole (len : Nat) : Stores (checkWhole len : StreamM σ Nat) :=
  stores_bind stores_get fun _ => stores_join (stores_fail _) fun _ => stores_pure _

theorem stores_write (data : ByteArray) : Stores (write D data) :=
  stores_bind (stores_checkWhole _) fun _ => stores_bind (stores_writei D _ _) fun _ =>
    stores_pure _

theorem stores_read (data : ByteArray) : Stores (read D data) :=
  stores_bind (stores_checkWhole _) fun _ => stores_bind (stores_readi D _ _) fun ⟨_, _⟩ =>
    stores_pure _

theorem stores_run (op : StreamOp) : Stores (op.run D) := by
  cases op with
  | prepare => exact stores_prepare D
  | start => exact stores_start D
  | stop => exact stores_stop D
  | drain => exact stores_drain D
  | available => exact stores_discard (stores_available D)
  | htimestamp => exact stores_discard (stores_htimestamp D)
  | delay => exact stores_discard (stores_delay D)
  | state => exact stores_discard (stores_state D)
  | wait t => exact stores_discard (stores_wait D t)
  | link peer => exact stores_link D peer
  | unlink => exact stores_unlink D
  | writei data frames => exact stores_discard (stores_writei D data frames)
  | readi data frames => exact stores_discard (stores_readi D data frames)
  | write data => exact stores_discard (stores_write D data)
  | read data => exact stores_discard (stores_read D data)
  | availUpdate => exact stores_discard (stores_availUpdate D)
  | mmapBegin k => exact stores_discard (stores_mmapBegin D k)
  | mmapCommit run => exact stores_mmapCommit D run
  | mmapWrite data frames => exact stores_discard (stores_mmapWrite D data frames)
  | mmapRead data frames => exact stores_discard (stores_mmapRead D data frames)

end Stores

/-! ## A handle that is not ready refuses, once the arguments pass -/

/-- `m` fails on `s` as on a handle that is not ready: with `notReady` and the text the
handle keeps, leaving the handle as it was. -/
def Refuses (m : StreamM σ α) (s : PcmStream σ) : Prop :=
  Returns m s (.error (.notReady s.error)) s

section Refuses

theorem refuses_refuse : Refuses (refuse : StreamM σ α) s :=
  returns_refuse.2 ⟨rfl, rfl⟩

theorem Refuses.bind {x : StreamM σ α} {f : α → StreamM σ β} (h : Refuses x s) :
    Refuses (x >>= f) s :=
  returns_bind.2 (.inl ⟨_, rfl, h⟩)

theorem Refuses.discard {m : StreamM σ α} (h : Refuses m s) : Refuses (discard m) s :=
  returns_discard.2 (.inl ⟨_, rfl, h⟩)

theorem returns_checkWhole_of_precheck_none {data : ByteArray}
    (hp : (StreamOp.write data).precheck s = none) :
    Returns (checkWhole data.size : StreamM σ Nat) s (.ok s.frameBytes) s := by
  have hc : ¬(s.frameBytes = 0 ∨ data.size % s.frameBytes ≠ 0) := by
    intro hc
    simp only [StreamOp.precheck, if_pos hc, reduceCtorEq] at hp
  unfold checkWhole
  rw [returns_get_bind]
  dsimp only
  rw [if_neg hc]
  exact returns_pure.2 ⟨rfl, rfl⟩

theorem returns_checkWhole_of_precheck_some {data : ByteArray} {e : StreamError}
    (hp : (StreamOp.write data).precheck s = some e) :
    Returns (checkWhole data.size : StreamM σ Nat) s (.error e) { s with error := e.stored } := by
  have hc : s.frameBytes = 0 ∨ data.size % s.frameBytes ≠ 0 := by
    by_contra hc
    simp only [StreamOp.precheck, if_neg hc, reduceCtorEq] at hp
  simp only [StreamOp.precheck, if_pos hc, Option.some.injEq] at hp
  subst hp
  unfold checkWhole
  rw [returns_get_bind]
  dsimp only
  rw [if_pos hc]
  exact returns_fail_bind.2 ⟨rfl, rfl⟩

variable (D : PcmDevice σ)

/-- Every operation that meets a precheck fails with it before it looks at the handle, and
stores it. -/
theorem run_of_precheck {op : StreamOp} {e : StreamError} (hp : op.precheck s = some e) :
    Returns (op.run D) s (.error e) { s with error := e.stored } := by
  cases op
  case link peer =>
    rcases peer with _ | fd
    · cases hp
      exact returns_fail.2 ⟨rfl, rfl⟩
    · cases hp
  case write data =>
    exact returns_discard.2 (.inl ⟨e, rfl,
      returns_bind.2 (.inl ⟨e, rfl, returns_checkWhole_of_precheck_some hp⟩)⟩)
  case read data =>
    exact returns_discard.2 (.inl ⟨e, rfl,
      returns_bind.2 (.inl ⟨e, rfl, returns_checkWhole_of_precheck_some
        (show (StreamOp.write data).precheck s = some e from hp)⟩)⟩)
  case mmapBegin k =>
    have hd : s.data.isNone = true := by
      by_contra hd
      simp only [StreamOp.precheck, if_neg hd, reduceCtorEq] at hp
    simp only [StreamOp.precheck, if_pos hd, Option.some.injEq] at hp
    subst hp
    refine returns_discard.2 (.inl ⟨_, rfl, ?_⟩)
    unfold mmapBegin
    rw [returns_get_bind]
    dsimp only
    rw [if_pos hd]
    exact returns_fail_bind.2 ⟨rfl, rfl⟩
  all_goals cases hp

variable (hs : s.isReady = false)
include hs

theorem refuses_parts : Refuses (parts : StreamM σ Ring) s := by
  unfold Refuses parts
  rw [returns_get_bind]
  split
  · simp_all [isReady]
  · exact refuses_refuse

theorem refuses_start : Refuses (start D) s := by
  unfold Refuses start
  rw [returns_get_bind]
  dsimp only
  rw [if_pos (by simp [hs])]
  exact refuses_refuse.bind

theorem refuses_checkTransfer (capture : Bool) (len frames : Nat) :
    Refuses (checkTransfer capture len frames : StreamM σ Unit) s := by
  unfold Refuses checkTransfer
  rw [returns_get_bind]
  dsimp only
  rw [if_pos (by simp [hs])]
  exact refuses_refuse.bind

theorem refuses_availUpdate : Refuses (availUpdate D) s :=
  (refuses_parts hs).bind

theorem refuses_writei (data : ByteArray) (frames : Nat) : Refuses (writei D data frames) s :=
  (refuses_checkTransfer hs _ _ _).bind

theorem refuses_readi (data : ByteArray) (frames : Nat) : Refuses (readi D data frames) s :=
  (refuses_checkTransfer hs _ _ _).bind

/-- An operation with nothing to precheck refuses a handle that is not ready. -/
theorem refuses_run {op : StreamOp} (hp : op.precheck s = none) : Refuses (op.run D) s := by
  cases op
  case start => exact refuses_start D hs
  case prepare | stop | drain | unlink => exact (refuses_parts hs).bind
  case available | delay | state | wait | availUpdate => exact (refuses_parts hs).bind.discard
  case htimestamp => exact (refuses_parts hs).bind.bind.discard
  case mmapCommit => exact (refuses_availUpdate D hs).bind
  case writei | mmapWrite => exact (refuses_checkTransfer hs _ _ _).bind.discard
  case readi | mmapRead => exact (refuses_checkTransfer hs _ _ _).bind.discard
  case link peer =>
    rcases peer with _ | fd
    · cases hp
    · exact (refuses_parts hs).bind
  case write data =>
    exact returns_discard.2 (.inl ⟨_, rfl, returns_bind.2 (.inr ⟨_, s,
      returns_checkWhole_of_precheck_none hp, (refuses_writei D hs _ _).bind⟩)⟩)
  case read data =>
    exact returns_discard.2 (.inl ⟨_, rfl, returns_bind.2 (.inr ⟨_, s,
      returns_checkWhole_of_precheck_none (show (StreamOp.write data).precheck s = none from hp),
      (refuses_readi D hs _ _).bind⟩)⟩)
  case mmapBegin k =>
    have hd : ¬s.data.isNone = true := by
      intro hd
      simp only [StreamOp.precheck, if_pos hd, reduceCtorEq] at hp
    refine Refuses.discard ?_
    unfold Refuses mmapBegin
    rw [returns_get_bind]
    dsimp only
    rw [if_neg hd]
    exact (refuses_availUpdate D hs).bind

end Refuses

/-- A failure on a ready handle leaves its own capped text; on a handle that is not ready the
operation fails with its precheck or with `notReady` and leaves the handle. -/
theorem failures_store_their_text (D : PcmDevice σ) (op : StreamOp) (s : PcmStream σ) :
    (s.isReady = false →
      Returns (op.run D) s (.error ((op.precheck s).getD (.notReady s.error)))
        ((op.precheck s).elim s fun e => { s with error := e.stored })) ∧
    (s.isReady = true → ∀ r s', Returns (op.run D) s r s' →
      s'.isReady = true ∧ ∀ e, r = .error e → s'.error = Text.cap e.message errorMax) := by
  refine ⟨fun hs => ?_, stores_run D op s⟩
  cases hp : op.precheck s with
  | none => exact refuses_run D hs hp
  | some e => exact run_of_precheck D hp

/-- A stream whose open failed for want of channels refuses a mapped run as an invalid argument,
and the refusal replaces its text. -/
theorem unopened_stream_refuses_mapped_run :
    let s := notReadyOf ({} : Virtual.VirtualPcm) { mmap := true } { channels := 0 }
      (.invalidArgument "channels must be non-zero")
    s.isReady = false ∧
      Returns ((StreamOp.mmapBegin 4).run Virtual.VirtualPcm.driver) s
        (.error (.invalidArgument "stream was not opened with MMAP"))
        { s with
          error := (StreamError.invalidArgument "stream was not opened with MMAP").stored } :=
  ⟨rfl, (failures_store_their_text Virtual.VirtualPcm.driver (.mmapBegin 4) _).1 rfl⟩

end PcmStream

end SoundCard.Pcm
