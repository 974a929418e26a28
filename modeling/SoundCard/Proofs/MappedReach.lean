import SoundCard.Proofs.FaithfulDevice
import SoundCard.Proofs.TransferSizes
import SoundCard.Proofs.TransferStates
/-! The handles a mapped stream reaches over a faithful device stay `Mappable`, and once ready
with room below the boundary every mapped transfer ends. -/
namespace SoundCard.Virtual

open SoundCard.Pcm SoundCard.Os PcmStream VirtualPcm VirtualM

/-- A ring a handle may run on: it keeps no pointer beyond 2^63, the device's buffer holds at
least a frame and at most the stream's, and a mapped ring reads records long enough for them. -/
structure Fits (s : PcmStream VirtualPcm) (g : Ring) : Prop where
  below : ringBelow g
  sized : 0 < s.driver.bufferSize.toNat ∧ s.driver.bufferSize.toNat ≤ s.bufferSize.toNat
  records : g = .mapped → s.driver.recordsMapped = true

/-- A handle whose device is faithful and faces the stream's way, whose ring fits it, and whose
buffer fits the boundary computed for it, below 2^63. -/
structure Mappable (s : PcmStream VirtualPcm) : Prop where
  faithful : s.driver.Faithful
  direction : s.driver.capture = s.isCapture
  ring : ∀ g, s.ring = some g → Fits s g
  wraps : s.bufferSize.toNat ≤ s.boundary.toNat
  boundary : s.boundary.toNat < 2 ^ 63
  computed : s.boundary.toNat = computeBoundary s.bufferSize.toNat

theorem Fits.of_shape {s s' : PcmStream VirtualPcm} {g g' : Ring} (h : Fits s g)
    (hd : s'.driver.shape = s.driver.shape) (hb : s'.bufferSize = s.bufferSize)
    (hg : ringBelow g') (hm : g' = .mapped → g = .mapped) : Fits s' g' := by
  have hbuf : s'.driver.bufferSize = s.driver.bufferSize := congrArg (·.2.1) hd
  refine ⟨hg, by rw [hbuf, hb]; exact h.sized, fun h' => ?_⟩
  exact (congrArg (·.2.2) hd).trans (h.records (hm h'))

namespace Mappable

variable {s s' : PcmStream VirtualPcm}

theorem of_shape (hs : Mappable s) (hd : s'.driver.Faithful) (hsh : s'.driver.shape = s.driver.shape)
    (hf : s'.flags = s.flags) (hb : s'.bufferSize = s.bufferSize) (hB : s'.boundary = s.boundary)
    (hg : ∀ g', s'.ring = some g' → ringBelow g' ∧ ∃ g, s.ring = some g ∧ (g' = .mapped → g = .mapped)) :
    Mappable s' := by
  refine ⟨hd, ?_, fun g' hg' => ?_, hb ▸ hB ▸ hs.wraps, hB ▸ hs.boundary, hb ▸ hB ▸ hs.computed⟩
  · rw [show s'.driver.capture = s.driver.capture from congrArg Prod.fst hsh, hs.direction,
      isCapture, isCapture, hf]
  · obtain ⟨hbelow, g, hg₀, hm⟩ := hg g' hg'
    exact (hs.ring g hg₀).of_shape hsh hb hbelow hm

theorem congr (hs : Mappable s) (hf : s'.flags = s.flags) (hd : s'.driver = s.driver)
    (hg : s'.ring = s.ring) (hb : s'.bufferSize = s.bufferSize) (hB : s'.boundary = s.boundary) :
    Mappable s' :=
  hs.of_shape (hd ▸ hs.faithful) (by rw [hd]) hf hb hB fun g' hg' =>
    ⟨(hs.ring g' (hg ▸ hg')).below, g', hg ▸ hg', id⟩

theorem withDriver (hs : Mappable s) {d : VirtualPcm} (hd : KeepsFaith shape s.driver d) :
    Mappable { s with driver := d } :=
  hs.of_shape (hd hs.faithful).1 (hd hs.faithful).2 rfl rfl rfl fun g' hg' =>
    ⟨(hs.ring g' hg').below, g', hg', id⟩

theorem afterSync (hs : Mappable s) {g : Ring} (hg : s.ring = some g) (flags : UInt32) :
    Mappable (Virtual.afterSync flags s g) := by
  have hb := (hs.ring g hg).below
  have hd : (Virtual.afterSync flags s g).driver.Faithful := by
    cases g with
    | mapped => exact hs.faithful
    | synced q => exact synced_faithful hs.faithful hb
  refine hs.of_shape hd shape_syncedRing rfl rfl rfl fun g' hg' => ?_
  cases hg'
  refine ⟨(syncedRing_serves hs.faithful.serves hb flags).2, g, hg, fun h => ?_⟩
  cases g with
  | mapped => rfl
  | synced q => cases h

theorem mapReady (hs : Mappable s) (hready : s.isReady = true)
    (ht : ∃ t, s.mmapWaitTimeout = .ok t) : MapReady s := by
  obtain ⟨ha, g, hg⟩ := isReady_iff.1 hready
  exact ⟨ha, ⟨g, hg, (hs.ring g hg).below⟩, hs.faithful.serves, hs.wraps, hs.boundary, ht⟩

theorem flows (hs : Mappable s) (hready : s.isReady = true) (ht : ∃ t, s.mmapWaitTimeout = .ok t)
    (hsound : SoundFlags s) (hm : s.flags.mmap = true)
    (hroom : 3 * s.bufferSize.toNat ≤ boundaryLimit) : Flows s := by
  obtain ⟨-, g, hg⟩ := isReady_iff.1 hready
  have hfit := hs.ring g hg
  have hpos : 0 < s.bufferSize.toNat := Nat.lt_of_lt_of_le hfit.sized.1 hfit.sized.2
  have hinside : s.bufferSize.toNat < s.boundary.toNat := by
    have h2 := (two_mul_le_computeBoundary_iff hpos).2 hroom
    rw [hs.computed]
    omega
  refine ⟨hs.mapReady hready ht, fun hr => hs.faithful.live (hsound.started hr (.inr hm)),
    hs.direction, hinside, hfit.sized, fun h => hfit.records ?_⟩
  exact Option.some_injective _ (hg.symm.trans h)

end Mappable

/-- What an operation does to a handle opened for the mapped path: it keeps its flags and keeps
it mappable. -/
def MapKept (s s' : PcmStream VirtualPcm) : Prop :=
  s.flags.mmap = true → Mappable s → s'.flags = s.flags ∧ Mappable s'

instance : Std.Refl MapKept := ⟨fun _ _ hs => ⟨rfl, hs⟩⟩

instance : IsTrans (PcmStream VirtualPcm) MapKept :=
  ⟨fun _ _ _ h₁ h₂ hm hs =>
    have h₁' := h₁ hm hs
    have h₂' := h₂ (h₁'.1 ▸ hm) h₁'.2
    ⟨h₂'.1.trans h₁'.1, h₂'.2⟩⟩

section Steps

variable {α β : Type} {s s' : PcmStream VirtualPcm}

theorem mapKept_of_frame (hf : s'.flags = s.flags) (hd : s'.driver = s.driver)
    (hg : s'.ring = s.ring) (hb : s'.bufferSize = s.bufferSize) (hB : s'.boundary = s.boundary) :
    MapKept s s' :=
  fun _ hs => ⟨hf, hs.congr hf hd hg hb hB⟩

theorem mapKept_fail (e : StreamError) : Moves MapKept (fail e : StreamM VirtualPcm α) := by
  intro s r s' h
  rw [(returns_fail.1 h).2]
  exact mapKept_of_frame rfl rfl rfl rfl rfl

theorem mapKept_refuse : Moves MapKept (refuse : StreamM VirtualPcm α) := by
  intro s r s' h
  rw [(returns_refuse.1 h).2]
  exact refl_of MapKept s

theorem mapKept_parts : Moves MapKept (parts : StreamM VirtualPcm Ring) := by
  intro s r s' h
  rw [(returns_parts h).1]
  exact refl_of MapKept s

theorem mapKept_readRing (f : VirtualPcm → Ring → α) : Moves MapKept (readRing f) := by
  unfold readRing
  refine moves_bind mapKept_parts fun _ => moves_get_bind fun s r s' h => ?_
  rw [(returns_pure.1 h).2]
  exact refl_of MapKept s

theorem mapKept_ask {m : VirtualM α} (hm : Moves (KeepsFaith shape) m) :
    Moves MapKept (ask m) := by
  intro s r s' h _ hs
  obtain ⟨o, d, hd, -, rfl⟩ := returns_ask.1 h
  exact ⟨rfl, hs.withDriver (hm _ _ _ hd)⟩

theorem mapKept_syncRing (flags : UInt32) :
    Moves MapKept (syncRing VirtualPcm.driver flags) := by
  intro s r s' h _ hs
  by_cases hready : s.attached = true ∧ ∃ g, s.ring = some g
  · obtain ⟨ha, g, hg⟩ := hready
    obtain ⟨-, rfl⟩ := (syncRing_returns ha hg hs.faithful.serves flags).determ h
    exact ⟨rfl, hs.afterSync hg flags⟩
  · unfold syncRing at h
    rcases returns_bind.1 h with ⟨e, -, h₁⟩ | ⟨g, s₁, h₁, -⟩
    · rw [(returns_parts h₁).1]
      exact ⟨rfl, hs⟩
    · obtain ⟨rfl, ⟨ha, g', hg, -⟩ | hr⟩ := returns_parts h₁
      · exact absurd ⟨ha, g', hg⟩ hready
      · cases hr

theorem mapKept_discard {m : StreamM VirtualPcm α} (hm : Moves MapKept m) :
    Moves MapKept (discard m) := by
  intro s r s' h
  rcases returns_discard.1 h with ⟨e, -, h⟩ | ⟨-, a, h⟩
  · exact hm s _ s' h
  · exact hm s _ s' h

theorem mapKept_attempt {m : StreamM VirtualPcm α} (hm : Moves MapKept m) :
    Moves MapKept (attempt m) :=
  moves_tryCatch (moves_fmap hm) fun _ => moves_pure _

end Steps

/-! ## Control operations and queries -/

section Control

theorem mapKept_prepare : Moves MapKept (PcmStream.prepare VirtualPcm.driver) := by
  unfold PcmStream.prepare
  refine moves_bind mapKept_parts fun _ => moves_bind (mapKept_ask keepsFaith_prepare) fun o => ?_
  rcases o with e | ⟨⟩
  · exact mapKept_fail _
  refine moves_bind (mapKept_syncRing _) fun o => ?_
  rcases o with e | ⟨⟩
  · exact mapKept_fail _
  · exact moves_modify fun _ => mapKept_of_frame rfl rfl rfl rfl rfl

theorem mapKept_start : Moves MapKept (PcmStream.start VirtualPcm.driver) := by
  unfold PcmStream.start
  refine moves_get_bind fun s => moves_join mapKept_refuse (fun _ => ?_) s
  refine moves_get_bind fun s => moves_join mapKept_prepare (fun _ => ?_) s
  refine moves_bind mapKept_parts fun _ => moves_bind (mapKept_ask keepsFaith_start) fun o => ?_
  rcases o with e | ⟨⟩
  · exact mapKept_fail _
  · exact moves_modify fun _ => mapKept_of_frame rfl rfl rfl rfl rfl

theorem mapKept_stop : Moves MapKept (PcmStream.stop VirtualPcm.driver) := by
  unfold PcmStream.stop
  refine moves_bind mapKept_parts fun _ => moves_bind (mapKept_ask keepsFaith_stop) fun o => ?_
  rcases o with e | ⟨⟩
  · exact mapKept_fail _
  · exact moves_modify fun _ => mapKept_of_frame rfl rfl rfl rfl rfl

theorem mapKept_drain : Moves MapKept (PcmStream.drain VirtualPcm.driver) := by
  unfold PcmStream.drain
  refine moves_bind mapKept_parts fun _ => moves_bind (mapKept_ask keepsFaith_drain) fun o => ?_
  rcases o with e | ⟨⟩
  · exact mapKept_fail _
  · exact moves_modify fun _ => mapKept_of_frame rfl rfl rfl rfl rfl

theorem mapKept_available : Moves MapKept (available VirtualPcm.driver) := by
  unfold available
  refine moves_bind mapKept_parts fun _ => moves_bind (mapKept_syncRing _) fun o => ?_
  rcases o with e | ⟨⟩
  on_goal 1 => refine moves_bind (mapKept_fail _) fun _ => ?_
  all_goals
    refine moves_get_bind fun s => moves_bind (mapKept_readRing _) (fun _ =>
      moves_bind (mapKept_readRing _) fun _ => ?_) s
    split
    · exact moves_pure _
    · exact mapKept_fail _

theorem mapKept_htimestamp : Moves MapKept (htimestamp VirtualPcm.driver) :=
  moves_bind mapKept_available fun _ => moves_bind (mapKept_readRing _) fun _ =>
    moves_join (mapKept_fail _) fun _ => moves_pure _

theorem mapKept_delay : Moves MapKept (PcmStream.delay VirtualPcm.driver) := by
  unfold PcmStream.delay
  refine moves_bind mapKept_parts fun _ => moves_bind (mapKept_ask keepsFaith_delay) fun o => ?_
  rcases o with e | n
  · exact mapKept_fail _
  · exact moves_pure _

theorem mapKept_state : Moves MapKept (PcmStream.state VirtualPcm.driver) := by
  unfold PcmStream.state
  refine moves_bind mapKept_parts fun _ => moves_bind (mapKept_syncRing _) fun o => ?_
  rcases o with e | ⟨⟩
  · exact moves_bind (mapKept_fail _) fun _ => moves_bind (mapKept_readRing _) fun _ => moves_pure _
  · exact moves_bind (mapKept_readRing _) fun _ => moves_pure _

theorem mapKept_wait (t : Int) : Moves MapKept (PcmStream.wait VirtualPcm.driver t) := by
  unfold PcmStream.wait
  refine moves_bind mapKept_parts fun _ => moves_bind (mapKept_ask (keepsFaith_wait t)) fun o => ?_
  rcases o with e | b
  · exact moves_ite (moves_bind mapKept_state fun _ => mapKept_fail _) (mapKept_fail _)
  · exact moves_pure _

theorem mapKept_link (peer : Option Int) : Moves MapKept (PcmStream.link VirtualPcm.driver peer) := by
  unfold PcmStream.link
  rcases peer with _ | fd
  · exact mapKept_fail _
  refine moves_bind mapKept_parts fun _ => moves_bind (mapKept_ask (keepsFaith_link fd)) fun o => ?_
  rcases o with e | ⟨⟩
  · exact mapKept_fail _
  · exact moves_pure _

theorem mapKept_unlink : Moves MapKept (PcmStream.unlink VirtualPcm.driver) := by
  unfold PcmStream.unlink
  refine moves_bind mapKept_parts fun _ => moves_bind (mapKept_ask keepsFaith_unlink) fun o => ?_
  rcases o with e | ⟨⟩
  · exact mapKept_fail _
  · exact moves_pure _

end Control

/-! ## The mapped path -/

section Mapped

theorem VirtualPcm.Faithful.setApplPtr {d : VirtualPcm} {g : Ring} {v : UInt64} (hd : d.Faithful)
    (hg : ringBelow g) (hv : v.toNat < 2 ^ 63) :
    (g.setApplPtr VirtualPcm.driver v d).2.Faithful ∧
      ringBelow (g.setApplPtr VirtualPcm.driver v d).1 := by
  obtain ⟨hs, hb, hr⟩ := setApplPtr_serves hd.serves hg hv
  have hst : (g.setApplPtr VirtualPcm.driver v d).2.state = d.state ∧
      (g.setApplPtr VirtualPcm.driver v d).2.boundaryOverride = d.boundaryOverride := by
    cases g with
    | synced q => exact ⟨rfl, rfl⟩
    | mapped =>
      simp only [Ring.setApplPtr, Ring.modifyControl, VirtualPcm.driver]
      split <;> exact ⟨rfl, rfl⟩
  exact ⟨⟨hs, hst.2.trans hd.ownBoundary, hd.live_of hst.1 hr⟩, hb⟩

theorem toNat_mod_max_lt {a B : UInt64} (hB : B.toNat < 2 ^ 63) : (a % max B 1).toNat < 2 ^ 63 := by
  have hpos : 0 < (max B 1).toNat := by rw [UInt64.toNat_max]; simp
  have hmod := Nat.mod_lt a.toNat hpos
  rw [UInt64.toNat_mod]
  rw [UInt64.toNat_max] at hmod ⊢
  simp only [UInt64.toNat_one] at hmod ⊢
  omega

theorem mapKept_availUpdate : Moves MapKept (availUpdate VirtualPcm.driver) := by
  unfold availUpdate
  refine moves_bind mapKept_parts fun _ => moves_bind (mapKept_syncRing _) fun o => ?_
  rcases o with e | ⟨⟩
  · exact moves_ite (mapKept_fail _) (mapKept_fail _)
  · exact moves_get_bind fun s => moves_bind (mapKept_readRing _) (fun _ =>
      moves_bind (mapKept_readRing _) fun _ => moves_lift _) s

theorem mapKept_mmapBegin (k : Nat) : Moves MapKept (mmapBegin VirtualPcm.driver k) := by
  unfold mmapBegin
  refine moves_get_bind fun s => moves_join (mapKept_fail _) (fun _ => ?_) s
  exact moves_bind mapKept_availUpdate fun _ => moves_get_bind fun s =>
    moves_bind (mapKept_readRing _) (fun _ => moves_pure _) s

/-- Handing a run back: the pointer it sets is taken modulo a boundary below 2^63, so the ring
and the device keep their pointers below 2^63. -/
theorem mapKept_mmapCommit (run : MmapRun) : Moves MapKept (mmapCommit VirtualPcm.driver run) := by
  unfold mmapCommit
  refine moves_bind mapKept_availUpdate fun _ => ?_
  dsimp only
  refine moves_join (mapKept_fail _) fun _ => moves_get_bind fun s r s' h => ?_
  rcases returns_bind.1 h with ⟨e, -, h₁⟩ | ⟨g, s₁, h₁, h⟩
  · rw [(returns_parts h₁).1]
    exact refl_of MapKept s
  obtain ⟨rfl, ⟨-, g', hg, hr⟩ | hr⟩ := returns_parts h₁
  swap
  · cases hr
  cases hr
  rw [returns_get_bind] at h
  rcases returns_bind.1 h with ⟨e, -, h₁⟩ | ⟨a, s₂, h₁, h⟩
  · obtain ⟨_, -, he, -⟩ := returns_lift.1 h₁
    cases he
  obtain ⟨_, -, -, rfl⟩ := returns_lift.1 h₁
  rw [returns_modify_bind] at h
  refine trans_of MapKept ?_ (moves_bind (mapKept_syncRing _) (fun o => ?_) _ _ _ h)
  swap
  · rcases o with e | ⟨⟩
    · exact mapKept_fail _
    · exact moves_pure _
  refine fun _ hs => ⟨rfl, ?_⟩
  obtain ⟨hd, hb⟩ := hs.faithful.setApplPtr (hs.ring _ hg).below (toNat_mod_max_lt hs.boundary)
  exact hs.of_shape hd setApplPtr_framed.1 rfl rfl rfl fun g₂ hg₂ => by
    cases hg₂
    exact ⟨hb, _, hg, setApplPtr_framed.2⟩

theorem mapKept_recoverXrun (c : String) (retried : Bool) :
    Moves MapKept (recoverXrun c retried : StreamM VirtualPcm Unit) := by
  unfold recoverXrun
  refine moves_bind (fun s r s' h => ?_) fun _ =>
    moves_get_bind fun s => moves_join (mapKept_fail _) (fun _ => moves_pure _) s
  obtain ⟨-, -, rfl⟩ := returns_noteXrun h
  exact mapKept_of_frame rfl rfl rfl rfl rfl

theorem mapKept_mmapWait (done : Nat) (retried : Bool) :
    Moves MapKept (mmapWait VirtualPcm.driver done retried) := by
  unfold mmapWait
  refine moves_get_bind fun s => moves_join (mapKept_fail _) (fun _ => ?_) s
  refine moves_get_bind fun s => moves_bind (moves_lift _) (fun _ =>
    moves_bind (mapKept_attempt (mapKept_wait _)) fun o => ?_) s
  split
  · exact moves_pure _
  · exact mapKept_fail _
  · exact moves_bind (mapKept_recoverXrun _ _) fun _ => moves_pure _
  · exact moves_throw _

theorem mapKept_areaPut (offset : Nat) (src : ByteArray) :
    Moves MapKept (areaPut offset src : StreamM VirtualPcm Unit) := by
  refine moves_modify fun s => ?_
  split <;> exact mapKept_of_frame rfl rfl rfl rfl rfl

/-- The mapped playback loop, round after round. -/
theorem mapKept_mmapWriteFrom (data : ByteArray) (frames : Nat) (startAt : UInt64) :
    ∀ rounds done retried,
      Moves MapKept (mmapWriteFrom VirtualPcm.driver data frames startAt rounds done retried)
  | 0, _, _ => by
    rw [mmapWriteFrom]
    exact mapKept_fail _
  | rounds + 1, done, retried => by
    have ih := mapKept_mmapWriteFrom data frames startAt rounds
    rw [mmapWriteFrom]
    refine moves_ite ?_ (moves_pure _)
    refine moves_get_bind fun s => moves_join mapKept_prepare (fun _ => ?_) s
    refine moves_bind (mapKept_attempt mapKept_availUpdate) fun o => ?_
    split
    · exact moves_bind (mapKept_recoverXrun _ _) fun _ => ih _ _
    · exact moves_throw _
    refine moves_get_bind fun s => moves_join mapKept_start (fun _ => ?_) s
    refine moves_ite (moves_get_bind fun s => moves_join mapKept_start
      (fun _ => moves_bind (mapKept_mmapWait _ _) fun _ => ih _ _) s) ?_
    exact moves_bind (mapKept_mmapBegin _) fun _ => moves_get_bind fun s =>
      moves_bind (mapKept_areaPut _ _) (fun _ => moves_bind (mapKept_mmapCommit _) fun _ => ih _ _) s

/-- The mapped capture loop, round after round. -/
theorem mapKept_mmapReadFrom (frames : Nat) :
    ∀ rounds data done retried,
      Moves MapKept (mmapReadFrom VirtualPcm.driver frames rounds data done retried)
  | 0, _, _, _ => by
    rw [mmapReadFrom]
    exact mapKept_fail _
  | rounds + 1, data, done, retried => by
    have ih := mapKept_mmapReadFrom frames rounds
    rw [mmapReadFrom]
    refine moves_ite ?_ (moves_pure _)
    refine moves_get_bind fun s => moves_join mapKept_start (fun _ => ?_) s
    refine moves_bind (mapKept_attempt mapKept_availUpdate) fun o => ?_
    split
    · exact moves_bind (mapKept_recoverXrun _ _) fun _ => ih _ _ _
    · exact moves_throw _
    refine moves_ite (moves_bind (mapKept_mmapWait _ _) fun _ => ih _ _ _) ?_
    exact moves_bind (mapKept_mmapBegin _) fun _ => moves_get_bind fun s =>
      moves_bind (mapKept_mmapCommit _) (fun _ => ih _ _ _) s

end Mapped

/-! ## Transfers -/

section Transfers

theorem mapKept_checkTransfer (capture : Bool) (len frames : Nat) :
    Moves MapKept (checkTransfer capture len frames : StreamM VirtualPcm Unit) := by
  unfold checkTransfer
  refine moves_get_bind fun s => ?_
  dsimp only
  exact moves_join mapKept_refuse (fun _ => moves_join (mapKept_fail _) fun _ =>
    moves_bind (moves_lift _) fun _ => moves_ite (mapKept_fail _) (moves_pure _)) s

theorem mapKept_mmapWrite (data : ByteArray) (frames : Nat) :
    Moves MapKept (mmapWrite VirtualPcm.driver data frames) := by
  unfold mmapWrite
  refine moves_bind (mapKept_checkTransfer _ _ _) fun _ => moves_get_bind fun s =>
    moves_bind (mapKept_mmapWriteFrom _ _ _ _ _ _) (fun _ => ?_) s
  refine moves_get_bind fun s => ?_
  dsimp only
  refine moves_ite (moves_bind mapKept_availUpdate fun _ => moves_get_bind fun s => ?_)
    (moves_pure _) s
  exact moves_ite (moves_bind mapKept_start fun _ => moves_pure _) (moves_pure _) s

theorem mapKept_mmapRead (data : ByteArray) (frames : Nat) :
    Moves MapKept (mmapRead VirtualPcm.driver data frames) :=
  moves_bind (mapKept_checkTransfer _ _ _) fun _ => mapKept_mmapReadFrom _ _ _ _ _

theorem mapKept_writei (data : ByteArray) (frames : Nat) :
    Moves MapKept (PcmStream.writei VirtualPcm.driver data frames) := by
  unfold PcmStream.writei
  refine moves_bind (mapKept_checkTransfer _ _ _) fun _ => moves_get_bind fun s r s' h => ?_
  split at h
  · exact mapKept_mmapWrite _ _ s r s' h
  · next hm => exact fun hm' => absurd hm' hm

theorem mapKept_readi (data : ByteArray) (frames : Nat) :
    Moves MapKept (PcmStream.readi VirtualPcm.driver data frames) := by
  unfold PcmStream.readi
  refine moves_bind (mapKept_checkTransfer _ _ _) fun _ => moves_get_bind fun s r s' h => ?_
  split at h
  · exact mapKept_mmapRead _ _ s r s' h
  · next hm => exact fun hm' => absurd hm' hm

theorem mapKept_checkWhole (len : Nat) : Moves MapKept (checkWhole len : StreamM VirtualPcm Nat) :=
  moves_get_bind fun s => moves_join (mapKept_fail _) (fun _ => moves_pure _) s

theorem mapKept_write (data : ByteArray) : Moves MapKept (PcmStream.write VirtualPcm.driver data) :=
  moves_bind (mapKept_checkWhole _) fun _ => moves_bind (mapKept_writei _ _) fun _ => moves_pure _

theorem mapKept_read (data : ByteArray) : Moves MapKept (PcmStream.read VirtualPcm.driver data) :=
  moves_bind (mapKept_checkWhole _) fun _ => moves_bind (mapKept_readi _ _) fun _ => moves_pure _

end Transfers

/-! ## Runs of operations, renegotiations and xruns -/

section Runs

variable {s s' : PcmStream VirtualPcm}

theorem mapKept_run (o : StreamOp) : Moves MapKept (o.run VirtualPcm.driver) := by
  cases o with
  | prepare => exact mapKept_prepare
  | start => exact mapKept_start
  | stop => exact mapKept_stop
  | drain => exact mapKept_drain
  | available => exact mapKept_discard mapKept_available
  | htimestamp => exact mapKept_discard mapKept_htimestamp
  | delay => exact mapKept_discard mapKept_delay
  | state => exact mapKept_discard mapKept_state
  | wait t => exact mapKept_discard (mapKept_wait t)
  | link peer => exact mapKept_link peer
  | unlink => exact mapKept_unlink
  | writei data frames => exact mapKept_discard (mapKept_writei data frames)
  | readi data frames => exact mapKept_discard (mapKept_readi data frames)
  | write data => exact mapKept_discard (mapKept_write data)
  | read data => exact mapKept_discard (mapKept_read data)
  | availUpdate => exact mapKept_discard mapKept_availUpdate
  | mmapBegin k => exact mapKept_discard (mapKept_mmapBegin k)
  | mmapCommit run => exact mapKept_mmapCommit run
  | mmapWrite data frames => exact mapKept_discard (mapKept_mmapWrite data frames)
  | mmapRead data frames => exact mapKept_discard (mapKept_mmapRead data frames)

/-- Renegotiating gives the ring up before the device is negotiated again, and takes over the
ring and buffer geometry a successful negotiation settles. -/
theorem mapKept_setConfig (syncOnly : Bool) (config : StreamConfig) :
    Moves MapKept (setConfig VirtualPcm.driver syncOnly config) := by
  intro s r s' h _ hs
  unfold setConfig at h
  rw [returns_get_bind] at h
  dsimp only at h
  split at h
  · rcases returns_bind.1 h with ⟨e, -, h₁⟩ | ⟨_, _, h₁, -⟩
    · rw [(returns_fail.1 h₁).2]
      exact ⟨rfl, hs.congr rfl rfl rfl rfl rfl⟩
    · cases (returns_fail.1 h₁).1
  split at h
  · rcases returns_bind.1 h with ⟨e, -, h₁⟩ | ⟨_, _, h₁, -⟩
    · rw [(returns_refuse.1 h₁).2]
      exact ⟨rfl, hs⟩
    · cases (returns_refuse.1 h₁).1
  rcases returns_bind.1 h with ⟨e, -, h₁⟩ | ⟨⟨o, d⟩, s₁, h₁, h₂⟩
  · obtain ⟨a, -, he, -⟩ := returns_lift.1 h₁
    cases he
  obtain ⟨_, hneg, hpair, rfl⟩ := returns_lift.1 h₁
  cases hpair
  obtain ⟨hd, hcap, hn⟩ := negotiate_faithful hs.faithful hneg
  have hdir := hcap.trans hs.direction
  rw [returns_set_bind] at h₂
  rcases o with e | n
  · rw [(returns_fail.1 h₂).2]
    exact ⟨rfl, hd, hdir, fun g hg => by simp at hg, hs.wraps, hs.boundary, hs.computed⟩
  · rw [(returns_modify.1 h₂).2]
    obtain ⟨hg, hw, hb, hc, hsz, hrec⟩ := hn n rfl
    exact ⟨rfl, hd, hdir, fun g hg' => by cases hg'; exact ⟨hg, hsz, hrec⟩, hw, hb, hc⟩

theorem keepsFaith_queueXruns (n : Nat) (v : VirtualPcm) : KeepsFaith shape v (v.queueXruns n) := by
  intro hv
  have hp : v.pull.Faithful :=
    hv.of_steering (by simp) (by simpa using hv.serves.calm) hv.serves.pointers.pull
      (hv.live_of (by simp) (by simp))
  have hq : ({ v.pull with pendingXruns := n } : VirtualPcm).Faithful :=
    hp.of_steering rfl hp.serves.calm hp.serves.pointers (hp.live_of rfl rfl)
  exact ⟨hq.push, shape_push.trans shape_pull⟩

theorem mapKept_queueXruns (n : Nat) :
    Moves MapKept (modify fun s => { s with driver := s.driver.queueXruns n } :
      StreamM VirtualPcm Unit) :=
  moves_modify fun s _ hs => ⟨rfl, hs.withDriver (keepsFaith_queueXruns n s.driver)⟩

theorem mapKept_event : ∀ ev : StreamEvent, Moves MapKept ev.run
  | .op o => mapKept_run o
  | .reconfigure syncOnly config => mapKept_setConfig syncOnly config
  | .queueXruns n => mapKept_queueXruns n

theorem runEvents_mappable :
    ∀ (evs : List StreamEvent) (s s' : PcmStream VirtualPcm), s.flags.mmap = true → Mappable s →
      runEvents evs s = .ok s' → s'.flags = s.flags ∧ Mappable s'
  | [], s, s', _, hs, h => by
    cases h
    exact ⟨rfl, hs⟩
  | ev :: evs, s, s', hm, hs, h => by
    rw [runEvents] at h
    rcases hrun : (ExceptT.run ev.run).run s with t | ⟨r, s₁⟩
    · rw [hrun] at h
      cases h
    rw [hrun] at h
    obtain ⟨hf₁, hs₁⟩ := mapKept_event ev s r s₁ hrun hm hs
    obtain ⟨hf, hs'⟩ := runEvents_mappable evs s₁ s' (hf₁ ▸ hm) hs₁ h
    exact ⟨hf.trans hf₁, hs'⟩

/-- A stream opened over a faithful device facing its way is mappable, ready or not. -/
theorem openWith_mappable {syncOnly : Bool} {d : VirtualPcm} {flags : OpenFlags}
    {config : StreamConfig} (hd : d.Faithful) (hdir : d.capture = flags.capture)
    (h : PcmStream.openWith VirtualPcm.driver syncOnly d flags config = .ok s) :
    s.flags = flags ∧ Mappable s := by
  unfold PcmStream.openWith at h
  rcases hneg : (ExceptT.run (negotiate VirtualPcm.driver syncOnly flags config)).run d with
    t | ⟨o, d'⟩
  · rw [hneg] at h
    cases h
  rw [hneg] at h
  obtain ⟨hd', hcap, hn⟩ := negotiate_faithful hd hneg
  rcases o with e | n
  · cases h
    exact ⟨rfl, hd', hcap.trans hdir, fun g hg => by simp [notReadyOf] at hg, le_refl _,
      by simp [notReadyOf], by simp [notReadyOf, computeBoundary]⟩
  · cases h
    obtain ⟨hg, hw, hb, hc, hsz, hrec⟩ := hn n rfl
    exact ⟨rfl, hd', hcap.trans hdir, fun g hg' => by cases hg'; exact ⟨hg, hsz, hrec⟩, hw, hb, hc⟩

end Runs

/-! ## Mapped transfers end -/

section Ending

variable {α : Type} {s : PcmStream VirtualPcm} {m : StreamM VirtualPcm α}
  {Q : Except StreamError α → PcmStream VirtualPcm → Prop}

theorem runs_yields_ok {P : α → Prop} (h : Runs m s Q) (hy : Yields P m) :
    Runs m s fun r _ => ∀ a, r = .ok a → P a := by
  obtain ⟨r, s', hr, -⟩ := h
  exact ⟨r, s', hr, fun a ha => hy s a s' (ha ▸ hr)⟩

/-- Over a faithful device, a mapped stream run through any events, once ready with three buffers
below the boundary limit, ends every mapped transfer with its frames, within `2 * n + 2` rounds. -/
theorem mapped_transfers_terminate (syncOnly : Bool) (d : VirtualPcm) (hd : d.Faithful)
    (flags : OpenFlags) (hdir : d.capture = flags.capture) (hm : flags.mmap = true)
    (config : StreamConfig) (evs : List StreamEvent) (s₀ s : PcmStream VirtualPcm)
    (hopen : PcmStream.openWith VirtualPcm.driver syncOnly d flags config = .ok s₀)
    (hrun : runEvents evs s₀ = .ok s) (hready : s.isReady = true)
    (hwait : s.bufferSize.toNat * 1000 < wordRange ∧
      s.bufferSize.toNat * 1000 / max s.config.rate.toNat 1 * 10 < wordRange)
    (hroom : 3 * s.bufferSize.toNat ≤ boundaryLimit) (data : ByteArray) (n : Nat) (hn : n * s.frameBytes < wordRange) :
    Runs (mmapWrite VirtualPcm.driver data n) s (fun r _ => ∀ k, r = .ok k → k = n) ∧
    Runs (mmapRead VirtualPcm.driver data n) s (fun r _ => ∀ p, r = .ok p → p.2 = n) ∧
    (∀ startAt rounds, 2 * n + 2 ≤ rounds →
      (ExceptT.run (mmapWriteFrom VirtualPcm.driver data n startAt rounds 0 false)).run s =
        (ExceptT.run (mmapWriteFrom VirtualPcm.driver data n startAt (mmapRounds n) 0
          false)).run s) ∧
    (∀ rounds, 2 * n + 2 ≤ rounds →
      (ExceptT.run (mmapReadFrom VirtualPcm.driver n rounds data 0 false)).run s =
        (ExceptT.run (mmapReadFrom VirtualPcm.driver n (mmapRounds n) data 0 false)).run s) := by
  obtain ⟨hf₀, hs₀⟩ := openWith_mappable hd hdir hopen
  obtain ⟨hf, hs⟩ := runEvents_mappable evs s₀ s (hf₀ ▸ hm) hs₀ hrun
  obtain ⟨hsound₀, hu₀⟩ := openWith_sound hd.serves.unfailing hopen
  obtain ⟨hsound, -⟩ := runEvents_sound evs s₀ s hsound₀ hu₀ hrun
  have htimed : ∃ t, s.mmapWaitTimeout = .ok t := by
    rw [mmapWaitTimeout_eq, if_pos hwait]
    exact ⟨_, rfl⟩
  have hflows : Flows s := hs.flows hready htimed hsound (by rw [hf, hf₀]; exact hm) hroom
  exact ⟨runs_yields_ok (mmapWrite_flows hflows data n hn) (yields_mmapWrite _ data n),
    runs_yields_ok (mmapRead_flows hflows data n hn) (yields_mmapRead _ data n),
    fun startAt _ hr => mmapWriteFrom_rounds_enough hflows data n startAt hr,
    fun _ hr => mmapReadFrom_rounds_enough hflows n data hr⟩

/-- The default stream opened for the mapped path, after an xrun queued on its device: a mapped
write and a mapped read of 16 frames both return. -/
theorem default_mapped_transfers_terminate :
    ∃ s₀ s, PcmStream.openWith VirtualPcm.driver false {} { mmap := true } {} = .ok s₀ ∧
      runEvents [.queueXruns 1] s₀ = .ok s ∧
      Runs (mmapWrite VirtualPcm.driver (ByteArray.mk (Array.replicate 64 0)) 16) s
        (fun r _ => ∀ k, r = .ok k → k = 16) ∧
      Runs (mmapRead VirtualPcm.driver (ByteArray.mk (Array.replicate 64 0)) 16) s
        (fun r _ => ∀ p, r = .ok p → p.2 = 16) ∧
      (∀ startAt rounds, 2 * 16 + 2 ≤ rounds →
        (ExceptT.run (mmapWriteFrom VirtualPcm.driver (ByteArray.mk (Array.replicate 64 0)) 16
          startAt rounds 0 false)).run s =
          (ExceptT.run (mmapWriteFrom VirtualPcm.driver (ByteArray.mk (Array.replicate 64 0)) 16
            startAt (mmapRounds 16) 0 false)).run s) ∧
      (∀ rounds, 2 * 16 + 2 ≤ rounds →
        (ExceptT.run (mmapReadFrom VirtualPcm.driver 16 rounds
          (ByteArray.mk (Array.replicate 64 0)) 0 false)).run s =
          (ExceptT.run (mmapReadFrom VirtualPcm.driver 16 (mmapRounds 16)
            (ByteArray.mk (Array.replicate 64 0)) 0 false)).run s) := by
  have hq : ({} : VirtualPcm).constraints.choose (Hw.HwParams.ofConfig {} { mmap := true }) =
      ⟨(({} : VirtualPcm).constraints.choose (Hw.HwParams.ofConfig {} { mmap := true })).params,
        true⟩ := by
    decide
  obtain ⟨n, v', hneg, hconf, hbuf, -, -⟩ := returns_negotiate_chosen false (v := {}) rfl
    (by decide) hq (fun _ => by decide)
  have hopen := PcmStream.openWith_of_returns_ok hneg
  have hd : ({} : VirtualPcm).Faithful := ⟨⟨fun _ => rfl, by decide, by decide, fun p hp => by
    cases hp⟩, rfl, fun h => by cases h⟩
  refine ⟨_, _, hopen, rfl, mapped_transfers_terminate false {} hd { mmap := true } rfl rfl {}
    [.queueXruns 1] _ _ hopen rfl rfl ?_ ?_ _ 16 ?_⟩
  · show n.bufferSize.toNat * 1000 < wordRange ∧
      n.bufferSize.toNat * 1000 / max n.config.rate.toNat 1 * 10 < wordRange
    rw [hbuf, hconf]
    decide
  · show 3 * n.bufferSize.toNat ≤ boundaryLimit
    rw [hbuf]
    decide
  · show 16 * n.config.frameBytes < wordRange
    rw [hconf]
    decide

end Ending

end SoundCard.Virtual
