import SoundCard.Proofs.PlainTransfer
/-! Whole transfer calls on a stream that does not map its data area. -/
namespace SoundCard.Pcm

open SoundCard.Os

namespace PcmStream

variable {σ γ : Type} {s s' : PcmStream σ} {capture : Bool} {len frames : Nat}

theorem framesToBytes_eq_ok {x : Nat} :
    s.framesToBytes frames = .ok x ↔ frames * s.frameBytes < wordRange ∧ x = frames * s.frameBytes := by
  unfold framesToBytes mulWord
  split
  next hw =>
    constructor
    · rintro ⟨⟩
      exact ⟨hw, rfl⟩
    · rintro ⟨-, rfl⟩
      rfl
  next hw =>
    constructor
    · rintro ⟨⟩
    · rintro ⟨h, -⟩
      exact absurd h hw

theorem calm_checkTransfer {seen : σ → γ} :
    Calm seen (checkTransfer capture len frames : StreamM σ Unit) := by
  unfold checkTransfer
  refine calm_bind calm_get fun _ => ?_
  dsimp only
  refine calm_join calm_refuse fun _ => calm_join (calm_fail rfl) fun _ => ?_
  exact calm_bind calm_lift fun _ => calm_ite (calm_fail rfl) (calm_pure _)

/-- A transfer's check passes only on a ready handle going the asked way whose buffer holds
the frames, and then changes nothing. -/
theorem checkTransfer_ok {u : Unit} (h : Returns (checkTransfer capture len frames) s (.ok u) s') :
    s' = s ∧ s.isReady = true ∧ s.isCapture = capture ∧ frames * s.frameBytes ≤ len := by
  unfold checkTransfer at h
  obtain ⟨e, ⟨⟩, -⟩ | ⟨a, s₀, hg, h⟩ := returns_bind.1 h
  obtain ⟨⟨⟩, rfl⟩ := returns_get.1 hg
  dsimp only at h
  split at h
  next =>
    obtain ⟨e, ⟨⟩, -⟩ | ⟨a, s₁, hr, -⟩ := returns_bind.1 h
    cases (returns_refuse.1 hr).1
  next hready =>
  split at h
  next =>
    obtain ⟨e, ⟨⟩, -⟩ | ⟨a, s₁, hr, -⟩ := returns_bind.1 h
    cases (returns_fail.1 hr).1
  next hdir =>
  obtain ⟨e, ⟨⟩, -⟩ | ⟨x, s₁, hx, hc⟩ := returns_bind.1 h
  obtain ⟨y, hmul, hxy, rfl⟩ := returns_lift.1 hx
  cases hxy
  split at hc
  next => cases (returns_fail.1 hc).1
  next hlen =>
  obtain ⟨-, rfl⟩ := returns_pure.1 hc
  obtain ⟨-, rfl⟩ := framesToBytes_eq_ok.1 hmul
  simp only [bne_iff_ne, ne_eq, Decidable.not_not] at hdir
  exact ⟨rfl, by simpa using hready, hdir.symm, by omega⟩

theorem checkTransfer_returns (hw : frames * s.frameBytes < wordRange) :
    ∃ r s', Returns (checkTransfer capture len frames) s r s' := by
  unfold checkTransfer
  refine exists_returns_bind (finishes_get s) fun a s₁ hg => ?_
  obtain ⟨⟨⟩, rfl⟩ := returns_get.1 hg
  dsimp only
  exact finishes_join finishes_refuse (fun _ => finishes_join (finishes_fail _) fun _ =>
    finishes_bind (finishes_lift (framesToBytes_eq_ok.2 ⟨hw, rfl⟩)) fun _ =>
      finishes_ite (finishes_fail _) (finishes_pure _)) _

variable {D : PcmDevice σ} {data : ByteArray} {n : Nat}

theorem writei_plain (seen : σ → γ) {r : Except StreamError Nat} (hm : s.flags.mmap = false)
    (h : Returns (writei D data n) s r s') :
    (∃ e, r = .error e ∧ e.interrupts = false ∧ Steady seen s s') ∨
      (n * s.frameBytes ≤ data.size ∧ Returns (writeFrom D data n 0 false) s r s') := by
  unfold writei at h
  obtain ⟨e, rfl, hc⟩ | ⟨u, s₁, hc, hrest⟩ := returns_bind.1 h
  · obtain ⟨hs, he⟩ := calm_checkTransfer s _ s' hc
    exact .inl ⟨e, rfl, he e rfl, hs⟩
  obtain ⟨rfl, -, -, hsize⟩ := checkTransfer_ok hc
  obtain ⟨e, -, hg⟩ | ⟨a, s₂, hg, hloop⟩ := returns_bind.1 hrest
  · cases (returns_get.1 hg).1
  obtain ⟨⟨⟩, rfl⟩ := returns_get.1 hg
  rw [if_neg (by simp [hm])] at hloop
  exact .inr ⟨hsize, hloop⟩

theorem readi_plain (seen : σ → γ) {r : Except StreamError (ByteArray × Nat)}
    (hm : s.flags.mmap = false) (h : Returns (readi D data n) s r s') :
    (∃ e, r = .error e ∧ e.interrupts = false ∧ Steady seen s s') ∨
      (n * s.frameBytes ≤ data.size ∧ Returns (readFrom D data n 0 false) s r s') := by
  unfold readi at h
  obtain ⟨e, rfl, hc⟩ | ⟨u, s₁, hc, hrest⟩ := returns_bind.1 h
  · obtain ⟨hs, he⟩ := calm_checkTransfer s _ s' hc
    exact .inl ⟨e, rfl, he e rfl, hs⟩
  obtain ⟨rfl, -, -, hsize⟩ := checkTransfer_ok hc
  obtain ⟨e, -, hg⟩ | ⟨a, s₂, hg, hloop⟩ := returns_bind.1 hrest
  · cases (returns_get.1 hg).1
  obtain ⟨⟨⟩, rfl⟩ := returns_get.1 hg
  rw [if_neg (by simp [hm])] at hloop
  exact .inr ⟨hsize, hloop⟩

theorem writei_eq_frames {k : Nat} (hm : s.flags.mmap = false)
    (h : Returns (writei D data n) s (.ok k) s') : k = n := by
  rcases writei_plain id hm h with ⟨e, ⟨⟩, -⟩ | ⟨-, hloop⟩
  exact yields_writeFrom data n 0 false (Nat.zero_le n) s k s' hloop

theorem readi_eq_frames {res : ByteArray × Nat} (hm : s.flags.mmap = false)
    (h : Returns (readi D data n) s (.ok res) s') : res.2 = n := by
  rcases readi_plain id hm h with ⟨e, ⟨⟩, -⟩ | ⟨-, hloop⟩
  exact yields_readFrom data n 0 false (Nat.zero_le n) s res s' hloop

section Answering

variable (hp : Answers D.prepare) (hs : ∀ q, Answers (D.syncPtr q))
include hp hs

theorem writei_returns (hw : ∀ b k, Answers (D.writei b k)) (hm : s.flags.mmap = false)
    (hsize : n * s.frameBytes ≤ data.size) (hword : data.size < wordRange)
    (hroom : s.underruns.toNat + (n + 1) < 4294967296) :
    ∃ r s', Returns (writei D data n) s r s' := by
  unfold writei
  refine exists_returns_bind (checkTransfer_returns (by omega)) fun u s₁ hc => ?_
  obtain ⟨rfl, -⟩ := checkTransfer_ok hc
  refine exists_returns_bind (finishes_get _) fun a s₂ hg => ?_
  obtain ⟨⟨⟩, rfl⟩ := returns_get.1 hg
  rw [if_neg (by simp [hm])]
  obtain ⟨r, s', hr, -⟩ := finishes_writeFrom hp hs hw data n 0 false s₂ (by simpa using hroom)
  exact ⟨r, s', hr⟩

theorem readi_returns (ht : Answers D.start) (hr : ∀ b k, Answers (D.readi b k))
    (hm : s.flags.mmap = false) (hsize : n * s.frameBytes ≤ data.size)
    (hword : data.size < wordRange) (hroom : s.underruns.toNat + (n + 1) < 4294967296) :
    ∃ r s', Returns (readi D data n) s r s' := by
  unfold readi
  refine exists_returns_bind (checkTransfer_returns (by omega)) fun u s₁ hc => ?_
  obtain ⟨rfl, -⟩ := checkTransfer_ok hc
  refine exists_returns_bind (finishes_get _) fun a s₂ hg => ?_
  obtain ⟨⟨⟩, rfl⟩ := returns_get.1 hg
  rw [if_neg (by simp [hm])]
  obtain ⟨r, s', hr, -⟩ := finishes_readFrom hp hs ht hr data n 0 false s₂ (by simpa using hroom)
  exact ⟨r, s', hr⟩

end Answering

theorem checkWhole_ok {fb : Nat} (h : Returns (checkWhole len) s (.ok fb) s') :
    s' = s ∧ fb = s.frameBytes ∧ 0 < fb ∧ len % fb = 0 := by
  unfold checkWhole at h
  obtain ⟨e, ⟨⟩, -⟩ | ⟨a, s₀, hg, hrest⟩ := returns_bind.1 h
  obtain ⟨⟨⟩, rfl⟩ := returns_get.1 hg
  dsimp only at hrest
  split at hrest
  next =>
    obtain ⟨e, ⟨⟩, -⟩ | ⟨u, s₁, hr, -⟩ := returns_bind.1 hrest
    cases (returns_fail.1 hr).1
  next hwhole =>
  obtain ⟨⟨⟩, rfl⟩ := returns_pure.1 hrest
  exact ⟨rfl, rfl, by omega, by omega⟩

theorem write_eq_size {k : Nat} (hm : s.flags.mmap = false)
    (h : Returns (write D data) s (.ok k) s') : k = data.size := by
  unfold write at h
  obtain ⟨e, ⟨⟩, -⟩ | ⟨fb, s₁, hc, hrest⟩ := returns_bind.1 h
  obtain ⟨rfl, rfl, hpos, hwhole⟩ := checkWhole_ok hc
  obtain ⟨e, ⟨⟩, -⟩ | ⟨m, s₂, hw, hend⟩ := returns_bind.1 hrest
  obtain ⟨⟨⟩, -⟩ := returns_pure.1 hend
  rw [writei_eq_frames hm hw]
  exact Nat.div_mul_cancel (Nat.dvd_of_mod_eq_zero hwhole)

theorem read_eq_size {res : ByteArray × Nat} (hm : s.flags.mmap = false)
    (h : Returns (read D data) s (.ok res) s') : res.2 = data.size := by
  unfold read at h
  obtain ⟨e, ⟨⟩, -⟩ | ⟨fb, s₁, hc, hrest⟩ := returns_bind.1 h
  obtain ⟨rfl, rfl, hpos, hwhole⟩ := checkWhole_ok hc
  obtain ⟨e, ⟨⟩, -⟩ | ⟨⟨buf, m⟩, s₂, hr, hend⟩ := returns_bind.1 hrest
  obtain ⟨⟨⟩, -⟩ := returns_pure.1 hend
  have hm' : m = _ := readi_eq_frames hm hr
  rw [hm']
  exact Nat.div_mul_cancel (Nat.dvd_of_mod_eq_zero hwhole)

section Logged

variable {s s' : PcmStream (σ × List Transfer)}

theorem writei_accounts {r : Except StreamError Nat} (hm : s.flags.mmap = false)
    (h : Returns (writei D.recording data n) s r s') :
    ∃ L, Accounts n 0 false s s' r L ∧
      ∀ k, r = .ok k → bytesMoved s.frameBytes L = data.extract 0 (n * s.frameBytes) := by
  rcases writei_plain Prod.snd hm h with ⟨e, rfl, he, hs⟩ | ⟨-, hloop⟩
  · exact ⟨[], Accounts.quiet he hs, by simp⟩
  obtain ⟨L, hacc, hok⟩ := writeFrom_accounts data n 0 false (Nat.zero_le n) hloop
  exact ⟨L, hacc, fun k hk => by simpa using hok k hk⟩

theorem readi_accounts {r : Except StreamError (ByteArray × Nat)} (hm : s.flags.mmap = false)
    (h : Returns (readi D.recording data n) s r s') :
    ∃ L, Accounts n 0 false s s' r L ∧ ∀ res, r = .ok res →
      res.1.size = data.size ∧ res.1.extract 0 (n * s.frameBytes) = bytesMoved s.frameBytes L := by
  rcases readi_plain Prod.snd hm h with ⟨e, rfl, he, hs⟩ | ⟨hsize, hloop⟩
  · exact ⟨[], Accounts.quiet he hs, by simp⟩
  obtain ⟨L, hacc, hok⟩ := readFrom_accounts data n 0 false (Nat.zero_le n) hsize hloop
  exact ⟨L, hacc, fun res hres => by simpa using hok res hres⟩

end Logged

/-- Plain transfers of `n` frames make at most `2 * n + 1` requests, hand over or fill the
caller's frames in order, each once, and return while the xrun count has room for `n + 1`. -/
theorem plain_transfers_move_each_frame_once (D : PcmDevice σ) (data : ByteArray) (n : Nat) :
    (∀ (s s' : PcmStream (σ × List Transfer)) r, s.flags.mmap = false →
      Returns (writei D.recording data n) s r s' →
      ∃ L, s'.driver.2 = s.driver.2 ++ L ∧ L.length ≤ 2 * n + 1 ∧
        (∀ k, r = .ok k → bytesMoved s.frameBytes L = data.extract 0 (n * s.frameBytes)) ∧
        ∀ k, r = .error (.wouldBlock k) → k = framesMoved L) ∧
    (∀ (s s' : PcmStream (σ × List Transfer)) r, s.flags.mmap = false →
      Returns (readi D.recording data n) s r s' →
      ∃ L, s'.driver.2 = s.driver.2 ++ L ∧ L.length ≤ 2 * n + 1 ∧
        (∀ res, r = .ok res → res.1.extract 0 (n * s.frameBytes) = bytesMoved s.frameBytes L) ∧
        ∀ k, r = .error (.wouldBlock k) → k = framesMoved L) ∧
    (∀ (s s' : PcmStream σ) k, s.flags.mmap = false → Returns (writei D data n) s (.ok k) s' →
      k = n) ∧
    (∀ (s s' : PcmStream σ) res, s.flags.mmap = false →
      Returns (readi D data n) s (.ok res) s' → res.2 = n) ∧
    (∀ (s s' : PcmStream σ) k, s.flags.mmap = false → Returns (write D data) s (.ok k) s' →
      k = data.size) ∧
    (∀ (s s' : PcmStream σ) res, s.flags.mmap = false → Returns (read D data) s (.ok res) s' →
      res.2 = data.size) ∧
    (Answers D.prepare → (∀ q, Answers (D.syncPtr q)) → Answers D.start →
      (∀ b k, Answers (D.writei b k)) → (∀ b k, Answers (D.readi b k)) →
      ∀ s : PcmStream σ, s.flags.mmap = false → n * s.frameBytes ≤ data.size →
        data.size < wordRange → s.underruns.toNat + (n + 1) < 4294967296 →
        (∃ r s', Returns (writei D data n) s r s') ∧ ∃ r s', Returns (readi D data n) s r s') := by
  refine ⟨fun s s' r hm h => ?_, fun s s' r hm h => ?_, fun _ _ _ hm h => writei_eq_frames hm h,
    fun _ _ _ hm h => readi_eq_frames hm h, fun _ _ _ hm h => write_eq_size hm h,
    fun _ _ _ hm h => read_eq_size hm h, fun hp hs ht hw hr s hm hsize hword hroom =>
      ⟨writei_returns hp hs hw hm hsize hword hroom, readi_returns hp hs ht hr hm hsize hword hroom⟩⟩
  · obtain ⟨L, hacc, hok⟩ := writei_accounts hm h
    exact ⟨L, hacc.log, by simpa using hacc.calls, hok,
      fun k hk => by simpa using hacc.wouldBlock k hk⟩
  · obtain ⟨L, hacc, hok⟩ := readi_accounts hm h
    exact ⟨L, hacc.log, by simpa using hacc.calls, fun res hres => (hok res hres).2,
      fun k hk => by simpa using hacc.wouldBlock k hk⟩

/-- A device that takes every frame offered and reports every frame asked, giving back the
buffer it was handed; it maps nothing and keeps no state. -/
def PcmDevice.sink : PcmDevice Unit where
  info := pure {}
  refine p := pure p
  install p := pure p
  software p := pure p
  syncPtr q := pure q
  prepare := pure ()
  start := pure ()
  stop := pure ()
  drain := pure ()
  writei _ k := pure k
  readi b k := pure (k, b)
  delay := pure 0
  setTstampType _ := pure ()
  link _ := pure ()
  unlink := pure ()
  map _ _ _ := throw (.os Errno.noDevice)
  wait _ := pure true
  descriptor _ := none
  status _ := {}
  control _ := {}
  setControl _ d := d

/-- Two frames of the default stereo 16-bit configuration, written and read through the
sink from a fresh handle: both calls return. -/
theorem sink_transfers_return :
    (∃ r s', Returns (writei PcmDevice.sink (ByteArray.mk (Array.replicate 8 0)) 2)
      { driver := (), attached := true, flags := {}, config := {} } r s') ∧
    ∃ r s', Returns (readi PcmDevice.sink (ByteArray.mk (Array.replicate 8 0)) 2)
      { driver := (), attached := true, flags := {}, config := {} } r s' :=
  (plain_transfers_move_each_frame_once PcmDevice.sink _ 2).2.2.2.2.2.2
    (fun _ => ⟨_, _, rfl⟩) (fun _ _ => ⟨_, _, rfl⟩) (fun _ => ⟨_, _, rfl⟩)
    (fun _ _ _ => ⟨_, _, rfl⟩) (fun _ _ _ => ⟨_, _, rfl⟩) _ rfl (by decide) (by decide)
    (by decide)

end PcmStream

end SoundCard.Pcm
