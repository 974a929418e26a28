import SoundCard.Proofs.Recording
/-! The interleaved transfer loops over any device: they return whenever the device answers and
account for every request they make (`Accounts`). -/
namespace SoundCard.Pcm

open SoundCard.Os

theorem Transfer.moved_of_isXrun {t : Transfer} (h : t.isXrun = true) : t.moved = 0 := by
  unfold Transfer.isXrun at h
  unfold Transfer.moved
  split <;> simp_all

namespace PcmStream

variable {σ α : Type}

section AnyDevice

variable {D : PcmDevice σ}

/-- The playback loop from frame `done` returns, if at all, with every frame due written. -/
theorem yields_writeFrom (data : ByteArray) (n done : Nat) (retried : Bool) (hle : done ≤ n) :
    Yields (· = n) (writeFrom D data n done retried) := by
  induction done, retried using writeFrom.induct n with
  | case2 done retried hd =>
    rw [writeFrom, dif_neg hd]
    exact yields_pure (by omega)
  | case1 done retried hd ihok ihxrun =>
    rw [writeFrom, dif_pos hd]
    refine yields_bind (yields_true _) fun _ _ => ?_
    dsimp only
    refine yields_join fun _ => yields_bind (yields_true _) fun _ _ =>
      yields_bind (yields_true _) fun _ _ => yields_bind (yields_true _) fun o _ => ?_
    rcases o with e | _ | m
    · refine yields_ite (yields_bind (yields_true _) fun _ _ =>
        yields_dite (fun _ => yields_fail _) fun hr => yields_bind (yields_true _) fun _ _ =>
          yields_ite (yields_fail _) (ihxrun hr hle)) (yields_ite (yields_fail _) (yields_fail _))
    · exact yields_fail _
    · exact yields_bind (yields_true _) fun _ _ => ihok m (by omega)

/-- The capture loop from frame `done` returns, if at all, with every frame due read. -/
theorem yields_readFrom (data : ByteArray) (n done : Nat) (retried : Bool) (hle : done ≤ n) :
    Yields (·.2 = n) (readFrom D data n done retried) := by
  induction data, done, retried using @readFrom.induct σ n with
  | case2 data done retried hd =>
    rw [readFrom, dif_neg hd]
    exact yields_pure (by dsimp only; omega)
  | case1 data done retried hd ihok ihxrun =>
    rw [readFrom, dif_pos hd]
    refine yields_bind (yields_true _) fun _ _ => ?_
    dsimp only
    refine yields_join fun _ => yields_bind (yields_true _) fun _ _ =>
      yields_bind (yields_true _) fun x _ => yields_bind (yields_true _) fun o _ => ?_
    rcases o with e | ⟨_ | m, filled⟩
    · refine yields_ite (yields_bind (yields_true _) fun _ _ =>
        yields_dite (fun _ => yields_fail _) fun hr => yields_bind (yields_true _) fun _ _ =>
          yields_ite (yields_fail _) (ihxrun hr hle)) (yields_ite (yields_fail _) (yields_fail _))
    · exact yields_fail _
    · exact ihok x m filled (by omega)

variable (hp : Answers D.prepare) (hs : ∀ q, Answers (D.syncPtr q))
include hp hs

/-- The playback loop returns whenever the device answers and the xrun count has room for one
more per frame due and one more. -/
theorem finishes_writeFrom (hw : ∀ b k, Answers (D.writei b k)) (data : ByteArray)
    (n done : Nat) (retried : Bool) :
    FinishesWithin (n - done + (if retried then 0 else 1)) (writeFrom D data n done retried) := by
  induction done, retried using writeFrom.induct n with
  | case2 done retried hd =>
    rw [writeFrom, dif_neg hd]
    exact finishesWithin_pure _
  | case1 done retried hd ihok ihxrun =>
    rw [writeFrom, dif_pos hd]
    refine finishesWithin_calm_bind finishes_get calm_get fun _ => ?_
    dsimp only
    refine finishesWithin_calm_join (finishes_prepare hp hs)
      (calm_prepare (leaves_unit _) fun _ => leaves_unit _) fun _ => ?_
    refine finishesWithin_calm_bind finishes_parts calm_parts fun _ =>
      finishesWithin_calm_bind finishes_get calm_get fun _ =>
        finishesWithin_calm_bind (finishes_ask (hw _ _)) (calm_ask (leaves_unit _)) fun o => ?_
    rcases o with e | _ | m
    · refine finishesWithin_ite ?_ (finishesWithin_ite (finishesWithin_fail _) (finishesWithin_fail _))
      cases retried with
      | true =>
        refine finishesWithin_noteXrun_bind (k := 0) (by omega) fun _ => ?_
        rw [dif_pos rfl]
        exact finishesWithin_fail _
      | false =>
        refine finishesWithin_noteXrun_bind (k := n - done) (by simp) fun _ => ?_
        rw [dif_neg (by simp)]
        exact finishesWithin_calm_bind finishes_get calm_get fun _ =>
          finishesWithin_ite (finishesWithin_fail _) (ihxrun (by simp))
    · exact finishesWithin_fail _
    · exact finishesWithin_calm_bind (finishes_modify _)
        (calm_modify fun _ => ⟨rfl, rfl, rfl, rfl, rfl, rfl, rfl, rfl⟩)
        fun _ => (ihok m).mono (by split <;> omega)

/-- The capture loop returns whenever the device answers and the count of xruns has room. -/
theorem finishes_readFrom (ht : Answers D.start) (hr : ∀ b k, Answers (D.readi b k))
    (data : ByteArray) (n done : Nat) (retried : Bool) :
    FinishesWithin (n - done + (if retried then 0 else 1)) (readFrom D data n done retried) := by
  induction data, done, retried using @readFrom.induct σ n with
  | case2 data done retried hd =>
    rw [readFrom, dif_neg hd]
    exact finishesWithin_pure _
  | case1 data done retried hd ihok ihxrun =>
    rw [readFrom, dif_pos hd]
    refine finishesWithin_calm_bind finishes_get calm_get fun _ => ?_
    dsimp only
    refine finishesWithin_calm_join (finishes_start hp hs ht)
      (calm_start (leaves_unit _) (fun _ => leaves_unit _) (leaves_unit _)) fun _ => ?_
    refine finishesWithin_calm_bind finishes_parts calm_parts fun _ =>
      finishesWithin_calm_bind finishes_get calm_get fun x =>
        finishesWithin_calm_bind (finishes_ask (hr _ _)) (calm_ask (leaves_unit _)) fun o => ?_
    rcases o with e | ⟨_ | m, filled⟩
    · refine finishesWithin_ite ?_ (finishesWithin_ite (finishesWithin_fail _) (finishesWithin_fail _))
      cases retried with
      | true =>
        refine finishesWithin_noteXrun_bind (k := 0) (by omega) fun _ => ?_
        rw [dif_pos rfl]
        exact finishesWithin_fail _
      | false =>
        refine finishesWithin_noteXrun_bind (k := n - done) (by simp) fun _ => ?_
        rw [dif_neg (by simp)]
        exact finishesWithin_calm_bind finishes_get calm_get fun _ =>
          finishesWithin_ite (finishesWithin_fail _) (ihxrun (by simp))
    · exact finishesWithin_fail _
    · exact (ihok x m filled).mono (by split <;> omega)

end AnyDevice

/-- What a transfer loop from frame `done` of `n` accounts for when it returns having added `L`
to the device's log. -/
structure Accounts (n done : Nat) (retried : Bool) (s s' : PcmStream (σ × List Transfer))
    (r : Except StreamError α) (L : List Transfer) : Prop where
  log : s'.driver.2 = s.driver.2 ++ L
  config : s'.config = s.config
  calls : L.length ≤ 2 * (n - done) + (if retried then 0 else 1)
  wouldBlock : ∀ k, r = .error (.wouldBlock k) → k = done + framesMoved L
  underruns : s'.underruns.toNat = s.underruns.toNat + xruns L
  xrun : (∃ c, r = .error (.xrun c)) ↔
    (s.flags.noRestart = true ∧ 0 < xruns L) ∨ xrunRepeats retried L = true
  cleared : ∀ c, r = .error (.xrun c) → s'.running = false ∧ s'.prepared = false

namespace Accounts

variable {n done : Nat} {retried : Bool} {s s₁ s' : PcmStream (σ × List Transfer)}
  {r : Except StreamError α}

theorem finish {a : α} (h : s' = s) : Accounts n done retried s s' (.ok a) [] := by
  subst h
  refine ⟨(List.append_nil _).symm, rfl, Nat.zero_le _, by simp, rfl, ?_, by simp⟩
  simp [xrunRepeats]

theorem quiet {e : StreamError} (he : e.interrupts = false) (hs : Steady Prod.snd s s') :
    Accounts n done retried s s' (.error e : Except StreamError α) [] := by
  refine ⟨by rw [hs.seen, List.append_nil], hs.config, Nat.zero_le _, ?_, by
    rw [hs.underruns]; rfl, ?_, ?_⟩
  · rintro k ⟨⟩
    cases he
  · simp only [Except.error.injEq, xruns_nil, Nat.lt_irrefl, and_false, xrunRepeats,
      Bool.false_eq_true, or_self, iff_false, not_exists]
    rintro c rfl
    cases he
  · rintro c ⟨⟩
    cases he

/-- A loop whose request did not report an xrun and which then fails otherwise than by an
xrun; a would-block counts only the frames moved before that request. -/
theorem stop {t : Transfer} {e : StreamError} (hd : done < n)
    (hlog : s'.driver.2 = s.driver.2 ++ [t]) (hc : s'.config = s.config)
    (hu : s'.underruns = s.underruns) (ht : t.isXrun = false) (he : e.isXrun = false)
    (hw : ∀ k, e = .wouldBlock k → k = done ∧ t.moved = 0) :
    Accounts n done retried s s' (.error e : Except StreamError α) [t] := by
  refine ⟨hlog, hc, by simp; omega, ?_, by simp [hu, ht], ?_, ?_⟩
  · rintro k ⟨⟩
    obtain ⟨rfl, h0⟩ := hw k rfl
    simp [h0]
  · simp only [Except.error.injEq, xruns_cons, ht, xruns_nil, xrunRepeats, Bool.and_false,
      Bool.or_false, Bool.false_eq_true, or_false]
    constructor
    · rintro ⟨c, rfl⟩
      cases he
    · simp
  · rintro c ⟨⟩
    cases he

theorem xrunEnd {t : Transfer} {c : String} (hd : done < n)
    (hlog : s'.driver.2 = s.driver.2 ++ [t]) (hc : s'.config = s.config)
    (hu : s'.underruns.toNat = s.underruns.toNat + 1) (ht : t.isXrun = true)
    (hend : retried = true ∨ s.flags.noRestart = true)
    (hcl : s'.running = false ∧ s'.prepared = false) :
    Accounts n done retried s s' (.error (.xrun c) : Except StreamError α) [t] := by
  refine ⟨hlog, hc, by simp; omega, ?_, by simp [hu, ht], ?_, fun _ _ => hcl⟩
  · rintro k ⟨⟩
  · refine ⟨fun _ => ?_, fun _ => ⟨c, rfl⟩⟩
    rcases hend with rfl | hn
    · simp [xrunRepeats, ht]
    · simp [hn, ht]

/-- A loop whose request moved frames, or reported (`x`) an xrun it recovers from, and which
goes on from the frames moved so far. -/
theorem cons {t : Transfer} {L : List Transfer} {done' : Nat} {x : Bool}
    (ih : Accounts n done' x s₁ s' r L) (hd : done < n)
    (hlog : s₁.driver.2 = s.driver.2 ++ [t]) (hx : t.isXrun = x) (hc : s₁.config = s.config)
    (hf : s₁.flags = s.flags) (hu : s₁.underruns.toNat = s.underruns.toNat + (if x then 1 else 0))
    (hdone : done' = done + t.moved) (hle : done' ≤ n) (hmoves : x = true ∨ 0 < t.moved)
    (hgo : x = true → retried = false ∧ s.flags.noRestart = false) :
    Accounts n done retried s s' r (t :: L) := by
  subst hx
  refine ⟨by rw [ih.log, hlog, List.append_assoc, List.singleton_append], ih.config.trans hc,
    ?_, fun k hk => by rw [ih.wouldBlock k hk, hdone, framesMoved_cons, Nat.add_assoc],
    by rw [ih.underruns, hu, xruns_cons, Nat.add_assoc], ?_, ih.cleared⟩
  · have := ih.calls
    cases hx : t.isXrun
    · have : 0 < t.moved := hmoves.resolve_left (by simp [hx])
      simp only [hx, Bool.false_eq_true, ite_false] at *
      split <;> simp <;> omega
    · obtain ⟨rfl, -⟩ := hgo hx
      have h0 := Transfer.moved_of_isXrun hx
      simp only [hx, ite_true, Bool.false_eq_true, ite_false] at *
      simp; omega
  · rw [ih.xrun, hf]
    cases hx : t.isXrun
    · simp [xrunRepeats, hx]
    · obtain ⟨rfl, hn⟩ := hgo hx
      simp [xrunRepeats, hx, hn]

end Accounts

theorem returns_ask_recorded {β : Type} {m : DeviceM σ β} {entry : Except IoError β → Transfer}
    {s s' : PcmStream (σ × List Transfer)} {r : Except StreamError (Except IoError β)} :
    Returns (ask (recorded m entry)) s r s' ↔ ∃ o d, Returns m s.driver.1 o d ∧ r = .ok o ∧
      s' = { s with driver := (d, s.driver.2 ++ [entry o]) } := by
  rw [returns_ask]
  constructor
  · rintro ⟨o, ⟨d, L⟩, h, rfl, rfl⟩
    obtain ⟨h₁, rfl⟩ := returns_recorded.1 h
    exact ⟨o, d, h₁, rfl, rfl⟩
  · rintro ⟨o, d, h, rfl, rfl⟩
    exact ⟨o, (d, s.driver.2 ++ [entry o]), returns_recorded.2 ⟨h, rfl⟩, rfl, rfl⟩

theorem Transfer.bytes_of_left {t : Transfer} {data : ByteArray} {fb n done : Nat}
    (ht : t.left = data.extract (done * fb) (n * fb)) (hm : done + t.moved ≤ n) :
    t.bytes fb = data.extract (done * fb) ((done + t.moved) * fb) := by
  unfold Transfer.bytes
  rw [ht, ByteArray.extract_extract, Nat.add_zero, Nat.add_mul,
    Nat.min_eq_left (by rw [← Nat.add_mul]; exact Nat.mul_le_mul_right fb hm)]

theorem extract_frames_append (data : ByteArray) {fb a b c : Nat} (hab : a ≤ b) (hbc : b ≤ c) :
    data.extract (a * fb) (b * fb) ++ data.extract (b * fb) (c * fb) =
      data.extract (a * fb) (c * fb) := by
  rw [ByteArray.extract_append_extract, Nat.min_eq_left (Nat.mul_le_mul_right fb hab),
    Nat.max_eq_right (Nat.mul_le_mul_right fb hbc)]

theorem bytesMoved_cons_of_left {t : Transfer} {L : List Transfer} {data : ByteArray}
    {fb n done : Nat} (ht : t.left = data.extract (done * fb) (n * fb)) (hm : done + t.moved ≤ n)
    (hL : bytesMoved fb L = data.extract ((done + t.moved) * fb) (n * fb)) :
    bytesMoved fb (t :: L) = data.extract (done * fb) (n * fb) := by
  rw [bytesMoved_cons, Transfer.bytes_of_left ht hm, hL,
    extract_frames_append data (Nat.le_add_right _ _) hm]

section Capture

variable (filled data : ByteArray) {p e : Nat}

theorem size_copySlice_window (hpe : p ≤ e) (he : e ≤ data.size) :
    (filled.copySlice 0 data p (min filled.size (data.extract p e).size)).size = data.size := by
  rw [ByteArray.copySlice_eq_append]
  simp only [ByteArray.size_append, ByteArray.size_extract, ByteArray.size_data]
  omega

theorem extract_zero_copySlice_window (hpe : p ≤ e) (he : e ≤ data.size) :
    (filled.copySlice 0 data p (min filled.size (data.extract p e).size)).extract 0 p =
      data.extract 0 p := by
  ext1
  have hp : min p data.size = p := by omega
  simp [ByteArray.copySlice, hp]

theorem copySlice_window (k : Nat) (hpe : p ≤ e) (he : e ≤ data.size) :
    (filled.copySlice 0 data p (min filled.size (data.extract p e).size)).extract p e =
      readLeft (data.extract p e) (.ok (k, filled)) := by
  ext1
  have hp : min p data.size = p := by omega
  have he' : min e data.size = e := by omega
  simp [readLeft, ByteArray.copySlice, hp, he', Nat.add_sub_cancel' hpe, Nat.min_eq_right hpe]

theorem extract_after_read {t : Transfer} {data' : ByteArray} {fb n done : Nat}
    (ht : t.left = data'.extract (done * fb) (n * fb)) (hm : done + t.moved ≤ n)
    (hpre : data'.extract 0 (done * fb) = data.extract 0 (done * fb)) :
    data'.extract 0 ((done + t.moved) * fb) = data.extract 0 (done * fb) ++ t.bytes fb := by
  rw [Transfer.bytes_of_left ht hm, ← hpre,
    ByteArray.extract_eq_extract_append_extract (done * fb) (Nat.zero_le _)
      (Nat.mul_le_mul_right fb (Nat.le_add_right _ _))]

theorem read_cons {t : Transfer} {L : List Transfer} {data' res : ByteArray} {fb n done : Nat}
    (ht : t.left = data'.extract (done * fb) (n * fb)) (hm : done + t.moved ≤ n)
    (hpre : data'.extract 0 (done * fb) = data.extract 0 (done * fb))
    (hres : res.extract 0 (n * fb) = data'.extract 0 ((done + t.moved) * fb) ++ bytesMoved fb L) :
    res.extract 0 (n * fb) = data.extract 0 (done * fb) ++ bytesMoved fb (t :: L) := by
  rw [hres, extract_after_read data ht hm hpre, bytesMoved_cons, ByteArray.append_assoc]

end Capture

variable {D : PcmDevice σ}

theorem leaves_recording_prepare : Leaves Prod.snd D.recording.prepare := leaves_onDevice

theorem leaves_recording_syncPtr (q : SyncRecord) : Leaves Prod.snd (D.recording.syncPtr q) :=
  leaves_onDevice

theorem leaves_recording_start : Leaves Prod.snd D.recording.start := leaves_onDevice

section Ask

variable {b : ByteArray} {k : Nat} {s s' : PcmStream (σ × List Transfer)}

theorem returns_ask_writei {r : Except StreamError (Except IoError Nat)} :
    Returns (ask (D.recording.writei b k)) s r s' ↔ ∃ o d, Returns (D.writei b k) s.driver.1 o d ∧
      r = .ok o ∧ s' = { s with driver := (d, s.driver.2 ++ [⟨b, k, o, b⟩]) } := by
  rw [recording_writei]
  exact returns_ask_recorded

theorem returns_ask_readi {r : Except StreamError (Except IoError (Nat × ByteArray))} :
    Returns (ask (D.recording.readi b k)) s r s' ↔ ∃ o d, Returns (D.readi b k) s.driver.1 o d ∧
      r = .ok o ∧ s' = { s with driver := (d, s.driver.2 ++ [⟨b, k, o.map Prod.fst, readLeft b o⟩]) } := by
  rw [recording_readi]
  exact returns_ask_recorded

end Ask

/-- The playback loop from frame `done` accounts for every request it makes; when it
returns, the device accepted the caller's frames from `done` to `n`, in order. -/
theorem writeFrom_accounts (data : ByteArray) (n done : Nat) (retried : Bool)
    {s s' : PcmStream (σ × List Transfer)} {r : Except StreamError Nat} (hle : done ≤ n)
    (h : Returns (writeFrom D.recording data n done retried) s r s') :
    ∃ L, Accounts n done retried s s' r L ∧ ∀ k, r = .ok k →
      bytesMoved s.frameBytes L = data.extract (done * s.frameBytes) (n * s.frameBytes) := by
  induction done, retried using writeFrom.induct n generalizing s with
  | case2 done retried hd =>
    rw [writeFrom, dif_neg hd] at h
    obtain ⟨rfl, rfl⟩ := returns_pure.1 h
    refine ⟨[], Accounts.finish rfl, fun k hk => ?_⟩
    have : done = n := by omega
    subst this
    simp
  | case1 done retried hd ihok ihxrun =>
    rw [writeFrom, dif_pos hd] at h
    obtain ⟨e, -, hg⟩ | ⟨a, s₀, hg, h⟩ := returns_bind.1 h
    · cases (returns_get.1 hg).1
    obtain ⟨⟨⟩, rfl⟩ := returns_get.1 hg
    obtain ⟨e, rfl, he, hs₁⟩ | ⟨s₁, hs₁, h⟩ :=
      (calm_prepare leaves_recording_prepare leaves_recording_syncPtr).join_cases h
    · exact ⟨[], Accounts.quiet he hs₁, by simp⟩
    obtain ⟨e, rfl, he, hs₂⟩ | ⟨-, s₂, hs₂, h⟩ := calm_parts.bind_cases h
    · exact ⟨[], Accounts.quiet he (hs₁.trans hs₂), by simp⟩
    have hs₂ := hs₁.trans hs₂
    obtain ⟨e, -, hg⟩ | ⟨a, s₂', hg, h⟩ := returns_bind.1 h
    · cases (returns_get.1 hg).1
    obtain ⟨⟨⟩, rfl⟩ := returns_get.1 hg
    obtain ⟨e, -, hq⟩ | ⟨o, s₃, hq, h⟩ := returns_bind.1 h
    · obtain ⟨_, _, -, ⟨⟩, -⟩ := returns_ask_writei.1 hq
    obtain ⟨o, d, -, ⟨⟩, rfl⟩ := returns_ask_writei.1 hq
    have hfb := hs₂.frameBytes
    have hlog (L : List Transfer) : s₂'.driver.2 ++ L = s₀.driver.2 ++ L := by rw [hs₂.seen]
    rcases o with e | _ | m <;> dsimp only at h
    · split at h
      next hpipe =>
        obtain ⟨e', -, hx⟩ | ⟨_, s₄, hx, h⟩ := returns_bind.1 h
        · cases (returns_noteXrun hx).1
        obtain ⟨-, hroom, rfl⟩ := returns_noteXrun hx
        have hu : (s₂'.underruns + 1).toNat = s₀.underruns.toNat + 1 := by
          rw [toNat_add_one_of_lt hroom, hs₂.underruns]
        split at h
        next hr =>
          obtain ⟨rfl, rfl⟩ := returns_fail.1 h
          exact ⟨_, Accounts.xrunEnd hd (hlog _) hs₂.config hu hpipe
            (Or.inl hr) ⟨rfl, rfl⟩, by simp⟩
        next hr =>
        obtain ⟨e', -, hg⟩ | ⟨a, s₅, hg, h⟩ := returns_bind.1 h
        · cases (returns_get.1 hg).1
        obtain ⟨⟨⟩, rfl⟩ := returns_get.1 hg
        split at h
        next hn =>
          obtain ⟨rfl, rfl⟩ := returns_fail.1 h
          exact ⟨_, Accounts.xrunEnd hd (hlog _) hs₂.config hu hpipe
            (Or.inr (by rwa [← hs₂.flags])) ⟨rfl, rfl⟩, by simp⟩
        next hn =>
        obtain ⟨L, hacc, hok⟩ := ihxrun hr hle h
        refine ⟨_ :: L, Accounts.cons hacc hd (hlog _) hpipe hs₂.config hs₂.flags
          hu (Nat.add_zero done).symm hle (Or.inl rfl)
          (fun _ => ⟨eq_false_of_ne_true hr, by rw [← hs₂.flags]; exact eq_false_of_ne_true hn⟩),
          fun k hk => ?_⟩
        rw [← hfb]
        exact bytesMoved_cons_of_left rfl (by simpa [Transfer.moved]) (hok k hk)
      next hpipe =>
      split at h
      next hblock =>
        obtain ⟨rfl, rfl⟩ := returns_fail.1 h
        exact ⟨_, Accounts.stop hd (hlog _) hs₂.config hs₂.underruns
          (by simpa [Transfer.isXrun] using hpipe) rfl (fun k hk => ⟨by cases hk; rfl, rfl⟩),
          by simp⟩
      next hblock =>
        obtain ⟨rfl, rfl⟩ := returns_fail.1 h
        exact ⟨_, Accounts.stop hd (hlog _) hs₂.config hs₂.underruns
          (by simpa [Transfer.isXrun] using hpipe) rfl (fun k hk => by cases hk), by simp⟩
    · obtain ⟨rfl, rfl⟩ := returns_fail.1 h
      exact ⟨_, Accounts.stop hd (hlog _) hs₂.config hs₂.underruns rfl rfl (fun k hk => by cases hk),
        by simp⟩
    · obtain ⟨e', -, hx⟩ | ⟨_, s₄, hx, h⟩ := returns_bind.1 h
      · cases (returns_modify.1 hx).1
      obtain ⟨-, rfl⟩ := returns_modify.1 hx
      have hmv : done + min (m + 1) (n - done) ≤ n := by omega
      obtain ⟨L, hacc, hok⟩ := ihok m hmv h
      refine ⟨_ :: L, Accounts.cons hacc hd (hlog _) rfl hs₂.config hs₂.flags
        (by rw [hs₂.underruns]; rfl) rfl hmv (Or.inr (by simpa [Transfer.moved] using hd))
        (fun hx => by cases hx), fun k hk => ?_⟩
      rw [← hfb]
      exact bytesMoved_cons_of_left rfl hmv (hok k hk)

theorem readFrom_accounts (data : ByteArray) (n done : Nat) (retried : Bool)
    {s s' : PcmStream (σ × List Transfer)} {r : Except StreamError (ByteArray × Nat)}
    (hle : done ≤ n) (hsize : n * s.frameBytes ≤ data.size)
    (h : Returns (readFrom D.recording data n done retried) s r s') :
    ∃ L, Accounts n done retried s s' r L ∧ ∀ res, r = .ok res →
      res.1.size = data.size ∧ res.1.extract 0 (n * s.frameBytes) =
        data.extract 0 (done * s.frameBytes) ++ bytesMoved s.frameBytes L := by
  induction data, done, retried using @readFrom.induct (σ × List Transfer) n generalizing s with
  | case2 data done retried hd =>
    rw [readFrom, dif_neg hd] at h
    obtain ⟨rfl, rfl⟩ := returns_pure.1 h
    refine ⟨[], Accounts.finish rfl, fun res hres => ?_⟩
    cases hres
    have : done = n := by omega
    subst this
    simp
  | case1 data done retried hd ihok ihxrun =>
    rw [readFrom, dif_pos hd] at h
    obtain ⟨e, -, hg⟩ | ⟨a, s₀, hg, h⟩ := returns_bind.1 h
    · cases (returns_get.1 hg).1
    obtain ⟨⟨⟩, rfl⟩ := returns_get.1 hg
    obtain ⟨e, rfl, he, hs₁⟩ | ⟨s₁, hs₁, h⟩ := (calm_start leaves_recording_prepare
      leaves_recording_syncPtr leaves_recording_start).join_cases h
    · exact ⟨[], Accounts.quiet he hs₁, by simp⟩
    obtain ⟨e, rfl, he, hs₂⟩ | ⟨-, s₂, hs₂, h⟩ := calm_parts.bind_cases h
    · exact ⟨[], Accounts.quiet he (hs₁.trans hs₂), by simp⟩
    have hs₂ := hs₁.trans hs₂
    obtain ⟨e, -, hg⟩ | ⟨a, s₂', hg, h⟩ := returns_bind.1 h
    · cases (returns_get.1 hg).1
    obtain ⟨⟨⟩, rfl⟩ := returns_get.1 hg
    obtain ⟨e, -, hq⟩ | ⟨o, s₃, hq, h⟩ := returns_bind.1 h
    · obtain ⟨_, _, -, ⟨⟩, -⟩ := returns_ask_readi.1 hq
    obtain ⟨o, d, -, ⟨⟩, rfl⟩ := returns_ask_readi.1 hq
    have hfb := hs₂.frameBytes
    have hlog (L : List Transfer) : s₂'.driver.2 ++ L = s₀.driver.2 ++ L := by rw [hs₂.seen]
    have hpe : done * s₂'.frameBytes ≤ n * s₂'.frameBytes := Nat.mul_le_mul_right _ hle
    have he : n * s₂'.frameBytes ≤ data.size := hfb ▸ hsize
    rcases o with e | ⟨_ | m, filled⟩ <;> dsimp only at h
    · split at h
      next hpipe =>
        obtain ⟨e', -, hx⟩ | ⟨_, s₄, hx, h⟩ := returns_bind.1 h
        · cases (returns_noteXrun hx).1
        obtain ⟨-, hroom, rfl⟩ := returns_noteXrun hx
        have hu : (s₂'.underruns + 1).toNat = s₀.underruns.toNat + 1 := by
          rw [toNat_add_one_of_lt hroom, hs₂.underruns]
        split at h
        next hr =>
          obtain ⟨rfl, rfl⟩ := returns_fail.1 h
          exact ⟨_, Accounts.xrunEnd hd (hlog _) hs₂.config hu hpipe
            (Or.inl hr) ⟨rfl, rfl⟩, by simp⟩
        next hr =>
        obtain ⟨e', -, hg⟩ | ⟨a, s₅, hg, h⟩ := returns_bind.1 h
        · cases (returns_get.1 hg).1
        obtain ⟨⟨⟩, rfl⟩ := returns_get.1 hg
        split at h
        next hn =>
          obtain ⟨rfl, rfl⟩ := returns_fail.1 h
          exact ⟨_, Accounts.xrunEnd hd (hlog _) hs₂.config hu hpipe
            (Or.inr (by rwa [← hs₂.flags])) ⟨rfl, rfl⟩, by simp⟩
        next hn =>
        obtain ⟨L, hacc, hok⟩ := ihxrun hr hle (by exact he) h
        refine ⟨_ :: L, Accounts.cons hacc hd (hlog _) hpipe hs₂.config hs₂.flags
          hu (Nat.add_zero done).symm hle (Or.inl rfl)
          (fun _ => ⟨eq_false_of_ne_true hr, by rw [← hs₂.flags]; exact eq_false_of_ne_true hn⟩),
          fun res hres => ?_⟩
        obtain ⟨h₁, h₂⟩ := hok res hres
        rw [← hfb]
        exact ⟨h₁, read_cons data rfl (by simpa [Transfer.moved, Except.map]) rfl h₂⟩
      next hpipe =>
      split at h
      next hblock =>
        obtain ⟨rfl, rfl⟩ := returns_fail.1 h
        exact ⟨_, Accounts.stop hd (hlog _) hs₂.config hs₂.underruns
          (by simpa [Transfer.isXrun, Except.map] using hpipe) rfl (fun k hk => ⟨by cases hk; rfl, rfl⟩),
          by simp⟩
      next hblock =>
        obtain ⟨rfl, rfl⟩ := returns_fail.1 h
        exact ⟨_, Accounts.stop hd (hlog _) hs₂.config hs₂.underruns
          (by simpa [Transfer.isXrun, Except.map] using hpipe) rfl (fun k hk => by cases hk), by simp⟩
    · obtain ⟨rfl, rfl⟩ := returns_fail.1 h
      exact ⟨_, Accounts.stop hd (hlog _) hs₂.config hs₂.underruns rfl rfl (fun k hk => by cases hk),
        by simp⟩
    · have hmv : done + min (m + 1) (n - done) ≤ n := by omega
      obtain ⟨L, hacc, hok⟩ := ihok s₂' m filled hmv
        (by rw [size_copySlice_window filled data hpe he]; exact he) h
      refine ⟨_ :: L, Accounts.cons hacc hd (hlog _) rfl hs₂.config hs₂.flags
        (by rw [hs₂.underruns]; rfl) rfl hmv (Or.inr (by simpa [Transfer.moved, Except.map] using hd))
        (fun hx => by cases hx), fun res hres => ?_⟩
      obtain ⟨h₁, h₂⟩ := hok res hres
      rw [← hfb]
      exact ⟨h₁.trans (size_copySlice_window filled data hpe he),
        read_cons data (copySlice_window filled data (m + 1) hpe he).symm hmv
          (extract_zero_copySlice_window filled data hpe he) h₂⟩

end PcmStream

end SoundCard.Pcm
