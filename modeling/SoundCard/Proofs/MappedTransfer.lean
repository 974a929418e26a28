import SoundCard.Proofs.MappedPointer
import SoundCard.Proofs.TransferCall
/-! Mapped transfers over a device that keeps the application pointer: the copies land frame by
frame in slots `(A0 + i) % bs`. -/
namespace SoundCard.Pcm

open SoundCard.Os

variable {σ : Type}

variable {D : PcmDevice σ} {mapped : Bool}

/-- Where the frames of a mapped transfer on `s` begin: the pointer the device keeps, unless
the stream must be prepared first, which puts it at 0. -/
def ApplHome.origin (H : ApplHome D mapped) (s : PcmStream σ) : Nat :=
  if s.running || s.prepared then (H.appl s.driver).toNat else 0

namespace PcmStream

/-- Since a mapped transfer began at `s₀`, only the device, the ring, the data area and the
run flags of the handle moved, and the device keeps the pointer where the ring looks. -/
structure Tracks (H : ApplHome D mapped) (s₀ s : PcmStream σ) : Prop where
  homed : Homed H s
  frame : s = { s₀ with
    driver := s.driver, ring := s.ring, data := s.data, prepared := s.prepared,
    running := s.running }

/-- The stream is prepared or running, and the pointer is `done` frames past `A0` modulo the
boundary, and below the boundary once the pointer was handed back. -/
structure Live (H : ApplHome D mapped) (s₀ : PcmStream σ) (A0 done : Nat) (s : PcmStream σ) :
    Prop where
  started : s.running = true ∨ s.prepared = true
  appl_mod : (H.appl s.driver).toNat % s₀.boundary.toNat = (A0 + done) % s₀.boundary.toNat
  appl_lt : 0 < done → (H.appl s.driver).toNat < s₀.boundary.toNat

/-- Before the first round of a transfer on a stream that is neither prepared nor running:
the round prepares it, which puts the pointer at `A0 = 0`. -/
structure Fresh (A0 done : Nat) (s : PcmStream σ) : Prop where
  idle : s.running = false
  unprepared : s.prepared = false
  none_done : done = 0
  origin : A0 = 0

variable {H : ApplHome D mapped} {s₀ s s' : PcmStream σ} {A0 done : Nat}

namespace Tracks

theorem moved (ht : Tracks H s₀ s) (hs' : Homed H s')
    (hf : s' = { s with
      driver := s'.driver, ring := s'.ring, data := s'.data, prepared := s'.prepared,
      running := s'.running }) : Tracks H s₀ s' :=
  ⟨hs', by rw [hf, ht.frame]⟩

theorem bufferSize (ht : Tracks H s₀ s) : s.bufferSize = s₀.bufferSize := by
  rw [ht.frame]

theorem boundary (ht : Tracks H s₀ s) : s.boundary = s₀.boundary := by
  rw [ht.frame]

theorem frameBytes (ht : Tracks H s₀ s) : s.frameBytes = s₀.frameBytes := by
  rw [ht.frame]
  rfl

theorem underruns (ht : Tracks H s₀ s) : s.underruns.toNat = s₀.underruns.toNat := by
  rw [ht.frame]

end Tracks

theorem live_of_running (hp : Live H s₀ A0 done s ∨ Fresh A0 done s) (hr : s.running = true) :
    Live H s₀ A0 done s := by
  rcases hp with hl | hf
  · exact hl
  · rw [hf.idle] at hr
    cases hr

theorem Live.keep (hl : Live H s₀ A0 done s) (happl : H.appl s'.driver = H.appl s.driver)
    (hst : s'.running = true ∨ s'.prepared = true) : Live H s₀ A0 done s' :=
  ⟨hst, by rw [happl]; exact hl.appl_mod, by rw [happl]; exact hl.appl_lt⟩

/-! One lemma per step of a round: each keeps the handle tracked and, from its first step on,
live; only copying moves the data area, and only handing a run back moves the pointer. -/

theorem prepare_live (ht : Tracks H s₀ s) (hf : Fresh A0 done s)
    (h : Returns (prepare D) s (.ok ()) s') :
    Tracks H s₀ s' ∧ Live H s₀ A0 done s' ∧ s'.data = s.data := by
  obtain ⟨hs', happl, hframe⟩ := prepare_ok ht.homed h
  refine ⟨ht.moved hs' (by rw [hframe]), ⟨.inr (by rw [hframe]), ?_, ?_⟩, by rw [hframe]⟩
  · rw [happl, hf.origin, hf.none_done]
    rfl
  · intro hpos
    have := hf.none_done
    omega

theorem start_live (ht : Tracks H s₀ s) (hp : Live H s₀ A0 done s ∨ Fresh A0 done s)
    (hr : s.running = false) (h : Returns (start D) s (.ok ()) s') :
    Tracks H s₀ s' ∧ Live H s₀ A0 done s' ∧ s'.data = s.data := by
  obtain ⟨hs', happl, hframe⟩ := start_ok ht.homed h
  refine ⟨ht.moved hs' (by rw [hframe]), ?_, by rw [hframe]⟩
  rcases hp with hl | hf
  · have hprep : s.prepared = true := hl.started.resolve_left (by rw [hr]; decide)
    rw [if_pos hprep] at happl
    exact hl.keep happl (.inl (by rw [hframe]))
  · rw [if_neg (by rw [hf.unprepared]; decide)] at happl
    refine ⟨.inl (by rw [hframe]), ?_, ?_⟩
    · rw [happl, hf.origin, hf.none_done]
      rfl
    · intro hpos
      have := hf.none_done
      omega

theorem startWhen_live {c : Prop} [Decidable c] (ht : Tracks H s₀ s)
    (hp : Live H s₀ A0 done s ∨ Fresh A0 done s) (hc : c → s.running = false)
    (hl : ¬c → Live H s₀ A0 done s)
    (h : Returns (if c then start D else pure ()) s (.ok ()) s') :
    Tracks H s₀ s' ∧ Live H s₀ A0 done s' ∧ s'.data = s.data := by
  split at h
  · next hc' => exact start_live ht hp (hc hc') h
  · next hc' =>
    obtain ⟨-, rfl⟩ := returns_pure.1 h
    exact ⟨ht, hl hc', rfl⟩

/-- The start of a playback round prepares a stream that is neither prepared nor running. -/
theorem prelude_live (ht : Tracks H s₀ s) (hp : Live H s₀ A0 done s ∨ Fresh A0 done s)
    (h : Returns (if (!s.running && !s.prepared) = true then prepare D else pure ()) s (.ok ())
      s') :
    Tracks H s₀ s' ∧ Live H s₀ A0 done s' ∧ s'.data = s.data := by
  split at h
  · next hc =>
    rcases hp with hl | hf
    · rcases hl.started with hr | hr <;> simp [hr] at hc
    · exact prepare_live ht hf h
  · next hc =>
    obtain ⟨-, rfl⟩ := returns_pure.1 h
    rcases hp with hl | hf
    · exact ⟨ht, hl, rfl⟩
    · rw [hf.idle, hf.unprepared] at hc
      exact absurd rfl hc

theorem Tracks.put {r : Region} (ht : Tracks H s₀ s) (hs' : s' = { s with data := some r }) :
    Tracks H s₀ s' :=
  ⟨by rw [hs']; exact ⟨ht.homed.attached, ht.homed.ring, ht.homed.home⟩, by rw [hs', ht.frame]⟩

theorem availUpdate_live {a : UInt64} (ht : Tracks H s₀ s) (hl : Live H s₀ A0 done s)
    (h : Returns (availUpdate D) s (.ok a) s') :
    Tracks H s₀ s' ∧ Live H s₀ A0 done s' ∧ s'.data = s.data := by
  obtain ⟨hs', happl, -, hframe⟩ := availUpdate_ok ht.homed h
  exact ⟨ht.moved hs' (by rw [hframe]), hl.keep happl (by rw [hframe]; exact hl.started),
    by rw [hframe]⟩

theorem mmapWait_live {retried b : Bool} (ht : Tracks H s₀ s) (hl : Live H s₀ A0 done s)
    (h : Returns (mmapWait D done retried) s (.ok b) s') (hu : s'.underruns = s.underruns) :
    Tracks H s₀ s' ∧ Live H s₀ A0 done s' ∧ s'.data = s.data := by
  obtain ⟨hs', happl, hframe⟩ := mmapWait_ok ht.homed h hu
  exact ⟨ht.moved hs' (by rw [hframe]), hl.keep happl (by rw [hframe]; exact hl.started),
    by rw [hframe]⟩

section Runs

-- The buffer, in frames, divides the boundary, which is positive.
variable (hB : 0 < s₀.boundary.toNat) (hdvd : s₀.bufferSize.toNat ∣ s₀.boundary.toNat)
include hB hdvd

theorem mmapBegin_live {k : Nat} {run : MmapRun} (ht : Tracks H s₀ s)
    (hl : Live H s₀ A0 done s) (h : Returns (mmapBegin D k) s (.ok run) s') :
    Tracks H s₀ s' ∧ Live H s₀ A0 done s' ∧ s'.data = s.data ∧
      run.offset = (A0 + done) % s₀.bufferSize.toNat ∧
      run.offset + run.frames ≤ s₀.bufferSize.toNat ∧ run.frames ≤ k := by
  obtain ⟨hs', happl, hframe, hoff, hfit, hk, -⟩ := mmapBegin_ok ht.homed h
  rw [ht.bufferSize, Nat.max_eq_left (Nat.pos_of_dvd_of_pos hdvd hB)] at hoff hfit
  refine ⟨ht.moved hs' (by rw [hframe]), hl.keep happl (by rw [hframe]; exact hl.started),
    by rw [hframe], ?_, hfit, hk⟩
  rw [hoff, ← Nat.mod_mod_of_dvd _ hdvd, hl.appl_mod, Nat.mod_mod_of_dvd _ hdvd]

omit hdvd in
theorem mmapCommit_live {run : MmapRun} (ht : Tracks H s₀ s) (hl : Live H s₀ A0 done s)
    (hrun : run.frames ≤ s₀.bufferSize.toNat) (h : Returns (mmapCommit D run) s (.ok ()) s') :
    Tracks H s₀ s' ∧ Live H s₀ A0 (done + run.frames) s' ∧ s'.data = s.data := by
  obtain ⟨hs', happl, hframe⟩ :=
    mmapCommit_ok ht.homed (lt_of_le_of_lt hrun (UInt64.toNat_lt _)) h
  rw [ht.boundary, Nat.max_eq_left hB] at happl
  refine ⟨ht.moved hs' (by rw [hframe]), ⟨by rw [hframe]; exact hl.started, ?_, fun _ => ?_⟩,
    by rw [hframe]⟩
  · rw [happl, Nat.mod_mod, Nat.add_mod (H.appl s.driver).toNat, hl.appl_mod,
      ← Nat.add_mod, Nat.add_assoc]
  · rw [happl]
    exact Nat.mod_lt _ hB

/-- The mapped playback loop, counting no xrun, copies frame `i` into slot `(A0 + i) % bs` and
leaves the pointer `frames` frames past `A0`. -/
theorem mmapWriteFrom_places {data area : ByteArray} {frames : Nat} {startAt : UInt64}
    (harea : area.size = s₀.bufferSize.toNat * s₀.frameBytes)
    (hdata : frames * s₀.frameBytes ≤ data.size) :
    ∀ rounds done retried s s' k, done ≤ frames → Tracks H s₀ s →
      (Live H s₀ A0 done s ∨ Fresh A0 done s) →
      s.data = some (.heap (placeFrames s₀.frameBytes s₀.bufferSize.toNat A0 data area done)) →
      Returns (mmapWriteFrom D data frames startAt rounds done retried) s (.ok k) s' →
      s'.underruns.toNat = s.underruns.toNat →
      k = frames ∧ Tracks H s₀ s' ∧ (Live H s₀ A0 frames s' ∨ Fresh A0 frames s') ∧
        s'.data = some (.heap (placeFrames s₀.frameBytes s₀.bufferSize.toNat A0 data area frames)) := by
  have hbs : 0 < s₀.bufferSize.toNat := Nat.pos_of_dvd_of_pos hdvd hB
  intro rounds
  induction rounds with
  | zero =>
    intro done retried s s' k _ _ _ _ h _
    rw [mmapWriteFrom] at h
    cases (returns_fail.1 h).1
  | succ rounds ih =>
    intro done retried s s' k hle ht hp hd h hu
    rw [mmapWriteFrom] at h
    split at h
    swap
    · obtain ⟨hk, rfl⟩ := returns_pure.1 h
      cases hk
      obtain rfl : done = frames := by omega
      exact ⟨rfl, ht, hp, hd⟩
    rw [returns_get_bind] at h
    rcases returns_bind.1 (returns_join.1 h) with ⟨e, he, -⟩ | ⟨u, s₁, hpre, h⟩
    · cases he
    obtain ⟨ht₁, hl₁, hd₁⟩ := prelude_live ht hp hpre
    rcases returns_bind.1 h with ⟨e, he, -⟩ | ⟨o, s₂, hatt, h⟩
    · cases he
    obtain ⟨o', ho, hav⟩ := returns_attempt.1 hatt
    cases ho
    split at h
    · rcases returns_bind.1 h with ⟨e, he, -⟩ | ⟨u, s₃, hrec, h⟩
      · cases he
      have h₁₂ := counts_availUpdate D s₁ _ s₂ hav
      have h₂₃ := recoverXrun_counted hrec
      have h₃ := counts_mmapWriteFrom D data frames startAt rounds done true s₃ _ s' h
      have := ht.underruns
      have := ht₁.underruns
      omega
    · cases (returns_throw.1 h).1
    obtain ⟨ht₂, hl₂, hd₂⟩ := availUpdate_live ht₁ hl₁ hav
    rw [returns_get_bind] at h
    rcases returns_bind.1 (returns_join.1 h) with ⟨e, he, -⟩ | ⟨u, s₃, hst, h⟩
    · cases he
    obtain ⟨ht₃, hl₃, hd₃⟩ :=
      startWhen_live ht₂ (.inl hl₂) (fun hb => by simp at hb; exact hb.1) (fun _ => hl₂) hst
    split at h
    · rw [returns_get_bind] at h
      rcases returns_bind.1 (returns_join.1 h) with ⟨e, he, -⟩ | ⟨u, s₄, hst', h⟩
      · cases he
      obtain ⟨ht₄, hl₄, hd₄⟩ :=
        startWhen_live ht₃ (.inl hl₃) (fun hb => by simpa using hb) (fun _ => hl₃) hst'
      rcases returns_bind.1 h with ⟨e, he, -⟩ | ⟨r', s₅, hw, h⟩
      · cases he
      have h₄₅ := counts_mmapWait D done retried s₄ _ s₅ hw
      have h₅ := counts_mmapWriteFrom D data frames startAt rounds done r' s₅ _ s' h
      have := ht.underruns
      have := ht₄.underruns
      obtain ⟨ht₅, hl₅, hd₅⟩ := mmapWait_live ht₄ hl₄ hw (UInt32.toNat_inj.1 (by omega))
      exact ih done r' s₅ s' k hle ht₅ (.inl hl₅) (by rw [hd₅, hd₄, hd₃, hd₂, hd₁, hd]) h
        (by omega)
    · rcases returns_bind.1 h with ⟨e, he, -⟩ | ⟨run, s₄, hbeg, h⟩
      · cases he
      obtain ⟨ht₄, hl₄, hd₄, hoff, hfit, hk⟩ := mmapBegin_live hB hdvd ht₃ hl₃ hbeg
      rw [returns_get_bind] at h
      rcases returns_bind.1 h with ⟨e, he, -⟩ | ⟨u, s₅, hput, h⟩
      · cases he
      obtain ⟨-, hs₅⟩ := areaPut_heap (by rw [hd₄, hd₃, hd₂, hd₁, hd]) hput
      rcases returns_bind.1 h with ⟨e, he, -⟩ | ⟨u, s₆, hcom, h⟩
      · cases he
      have ht₅ := ht₄.put hs₅
      have hl₅ : Live H s₀ A0 done s₅ :=
        hl₄.keep (by rw [hs₅]) (by rw [hs₅]; exact hl₄.started)
      obtain ⟨ht₆, hl₆, hd₆⟩ := mmapCommit_live hB ht₅ hl₅ (by omega) hcom
      have hrun : (A0 + done) % s₀.bufferSize.toNat + run.frames ≤ s₀.bufferSize.toNat := by
        rw [← hoff]
        exact hfit
      have hplace := areaWrite_placeFrames hbs harea hrun
        (le_trans (Nat.mul_le_mul_right s₀.frameBytes (show done + run.frames ≤ frames by omega))
          hdata)
      rw [← hoff] at hplace
      have := ht.underruns
      have := ht₆.underruns
      exact ih (done + run.frames) false s₆ s' k (by omega) ht₆ (.inl hl₆)
        (by rw [hd₆, hs₅, ht₄.frameBytes, hplace]) h (by omega)

/-- The mapped capture loop, counting no xrun, fills frame `i` from slot `(A0 + i) % bs` and
leaves the pointer `frames` frames past `A0`. -/
theorem mmapReadFrom_gathers {data area : ByteArray} {frames : Nat}
    (hd₀ : s₀.data = some (.heap area))
    (harea : area.size = s₀.bufferSize.toNat * s₀.frameBytes)
    (hdata : frames * s₀.frameBytes ≤ data.size) :
    ∀ rounds done retried s s' r, done ≤ frames → Tracks H s₀ s →
      (Live H s₀ A0 done s ∨ Fresh A0 done s) → s.data = s₀.data →
      Returns (mmapReadFrom D frames rounds
        (gatherFrames s₀.frameBytes s₀.bufferSize.toNat A0 area data done) done retried) s
        (.ok r) s' →
      s'.underruns.toNat = s.underruns.toNat →
      r = (gatherFrames s₀.frameBytes s₀.bufferSize.toNat A0 area data frames, frames) ∧
        Tracks H s₀ s' ∧ (Live H s₀ A0 frames s' ∨ Fresh A0 frames s') ∧ s'.data = s₀.data := by
  have hbs : 0 < s₀.bufferSize.toNat := Nat.pos_of_dvd_of_pos hdvd hB
  intro rounds
  induction rounds with
  | zero =>
    intro done retried s s' r _ _ _ _ h _
    rw [mmapReadFrom] at h
    cases (returns_fail.1 h).1
  | succ rounds ih =>
    intro done retried s s' r hle ht hp hd h hu
    rw [mmapReadFrom] at h
    split at h
    swap
    · obtain ⟨hr, rfl⟩ := returns_pure.1 h
      cases hr
      obtain rfl : done = frames := by omega
      exact ⟨rfl, ht, hp, hd⟩
    rw [returns_get_bind] at h
    rcases returns_bind.1 (returns_join.1 h) with ⟨e, he, -⟩ | ⟨u, s₁, hst, h⟩
    · cases he
    obtain ⟨ht₁, hl₁, hd₁⟩ := startWhen_live ht hp (fun hc => by simpa using hc)
      (fun hc => live_of_running hp (by simpa using hc)) hst
    rcases returns_bind.1 h with ⟨e, he, -⟩ | ⟨o, s₂, hatt, h⟩
    · cases he
    obtain ⟨o', ho, hav⟩ := returns_attempt.1 hatt
    cases ho
    split at h
    · rcases returns_bind.1 h with ⟨e, he, -⟩ | ⟨u, s₃, hrec, h⟩
      · cases he
      have h₁₂ := counts_availUpdate D s₁ _ s₂ hav
      have h₂₃ := recoverXrun_counted hrec
      have h₃ := counts_mmapReadFrom D frames rounds _ done true s₃ _ s' h
      have := ht.underruns
      have := ht₁.underruns
      omega
    · cases (returns_throw.1 h).1
    obtain ⟨ht₂, hl₂, hd₂⟩ := availUpdate_live ht₁ hl₁ hav
    split at h
    · rcases returns_bind.1 h with ⟨e, he, -⟩ | ⟨r', s₃, hw, h⟩
      · cases he
      have h₂₃ := counts_mmapWait D done retried s₂ _ s₃ hw
      have h₃ := counts_mmapReadFrom D frames rounds _ done r' s₃ _ s' h
      have := ht.underruns
      have := ht₂.underruns
      obtain ⟨ht₃, hl₃, hd₃⟩ := mmapWait_live ht₂ hl₂ hw (UInt32.toNat_inj.1 (by omega))
      exact ih done r' s₃ s' r hle ht₃ (.inl hl₃) (by rw [hd₃, hd₂, hd₁, hd]) h (by omega)
    · rcases returns_bind.1 h with ⟨e, he, -⟩ | ⟨run, s₃, hbeg, h⟩
      · cases he
      obtain ⟨ht₃, hl₃, hd₃, hoff, hfit, hk⟩ := mmapBegin_live hB hdvd ht₂ hl₂ hbeg
      rw [returns_get_bind] at h
      dsimp only at h
      rcases returns_bind.1 h with ⟨e, he, -⟩ | ⟨u, s₄, hcom, h⟩
      · cases he
      obtain ⟨ht₄, hl₄, hd₄⟩ := mmapCommit_live hB ht₃ hl₃ (by omega) hcom
      have hrun : (A0 + done) % s₀.bufferSize.toNat + run.frames ≤ s₀.bufferSize.toNat := by
        rw [← hoff]
        exact hfit
      have hgather := areaRead_gatherFrames hbs harea hrun
        (le_trans (Nat.mul_le_mul_right s₀.frameBytes (show done + run.frames ≤ frames by omega))
          hdata)
      dsimp only at hgather
      rw [areaGet_heap (by rw [hd₃, hd₂, hd₁, hd, hd₀]), ht₃.frameBytes, hoff, hgather] at h
      have := ht.underruns
      have := ht₄.underruns
      exact ih (done + run.frames) false s₄ s' r (by omega) ht₄ (.inl hl₄)
        (by rw [hd₄, hd₃, hd₂, hd₁, hd]) h (by omega)

end Runs

theorem tracks_origin (hs : Homed H s) :
    Tracks H s s ∧ (Live H s (H.origin s) 0 s ∨ Fresh (H.origin s) 0 s) := by
  refine ⟨⟨hs, rfl⟩, ?_⟩
  unfold ApplHome.origin
  cases hr : s.running <;> cases hp : s.prepared
  · exact .inr ⟨hr, hp, rfl, rfl⟩
  all_goals exact .inl ⟨by simp [hr, hp], by simp, fun h => absurd h (Nat.lt_irrefl 0)⟩

/-- The closing check of a mapped write starts a stream that is not running once enough is
queued. It keeps the pointer, unless starting has to prepare the stream first. -/
theorem closing_ok {startAt : UInt64} {d k : Nat} (ht : Tracks H s₀ s)
    (h : Returns (do
      if !s.running then
        let avail ← availUpdate D
        let bs := (← get).bufferSize
        if bs - min avail bs ≥ startAt then start D
      pure d) s (.ok k) s') :
    k = d ∧ Tracks H s₀ s' ∧ s'.data = s.data ∧ (H.appl s'.driver = H.appl s.driver ∨
      s.running = false ∧ s.prepared = false ∧ H.appl s'.driver = 0) := by
  dsimp only at h
  split at h
  swap
  · obtain ⟨hk, rfl⟩ := returns_pure.1 h
    cases hk
    exact ⟨rfl, ht, rfl, .inl rfl⟩
  next hr =>
  rcases returns_bind.1 h with ⟨e, he, -⟩ | ⟨a, s₁, hav, h⟩
  · cases he
  obtain ⟨hs₁, happl₁, -, hframe₁⟩ := availUpdate_ok ht.homed hav
  have ht₁ : Tracks H s₀ s₁ := ht.moved hs₁ (by rw [hframe₁])
  rw [returns_get_bind] at h
  split at h
  · rcases returns_bind.1 h with ⟨e, he, -⟩ | ⟨u, s₂, hst, h⟩
    · cases he
    obtain ⟨hk, rfl⟩ := returns_pure.1 h
    cases hk
    obtain ⟨hs', happl, hframe⟩ := start_ok hs₁ hst
    refine ⟨rfl, ht₁.moved hs' (by rw [hframe]), by rw [hframe, hframe₁], ?_⟩
    have hp : s₁.prepared = s.prepared := by rw [hframe₁]
    rw [hp, happl₁] at happl
    cases hq : s.prepared
    · exact .inr ⟨by simpa using hr, rfl, by rw [happl, hq]; rfl⟩
    · exact .inl (by rw [happl, hq]; rfl)
  · obtain ⟨hk, rfl⟩ := returns_pure.1 h
    cases hk
    exact ⟨rfl, ht₁, by rw [hframe₁], .inl happl₁⟩

theorem counts_closing {b : Bool} {startAt : UInt64} {d : Nat} :
    Counts (do
      if b then
        let avail ← availUpdate D
        let bs := (← get).bufferSize
        if bs - min avail bs ≥ startAt then start D
      pure d) :=
  counts_ite (counts_bind (counts_availUpdate D) fun _ => counts_bind counts_get fun _ =>
    counts_join (counts_start D) fun _ => counts_pure _) (counts_pure _)

section Transfers

variable {data area : ByteArray} {n : Nat} (hs : Homed H s) (hd : s.data = some (.heap area))
  (harea : area.size = s.bufferSize.toNat * s.frameBytes) (hB : 0 < s.boundary.toNat)
  (hdvd : s.bufferSize.toNat ∣ s.boundary.toNat)
include hs hd harea hB hdvd

/-- A mapped write counting no xrun, with a boundary that is a multiple of the buffer, writes frame
`i` into slot `(A0 + i) % bs` and moves the pointer `n` frames. -/
theorem mmapWrite_places {k : Nat} (h : Returns (mmapWrite D data n) s (.ok k) s')
    (hu : s'.underruns = s.underruns) :
    k = n ∧ n * s.frameBytes ≤ data.size ∧
      s'.data = some (.heap (placeFrames s.frameBytes s.bufferSize.toNat (H.origin s) data area n)) ∧
      (0 < n → (H.appl s'.driver).toNat = (H.origin s + n) % s.boundary.toNat) ∧
      (n = 0 → H.appl s'.driver = H.appl s.driver ∨
        s.running = false ∧ s.prepared = false ∧ H.appl s'.driver = 0) := by
  unfold mmapWrite at h
  rcases returns_bind.1 h with ⟨e, he, -⟩ | ⟨u, s₁, hc, h⟩
  · cases he
  obtain ⟨hs₁, -, -, hlen⟩ := checkTransfer_ok hc
  rw [hs₁, returns_get_bind] at h
  rcases returns_bind.1 h with ⟨e, he, -⟩ | ⟨k', s₂, hloop, hcl⟩
  · cases he
  rw [returns_get_bind] at hcl
  obtain ⟨ht, hp⟩ := tracks_origin hs
  have h₁₂ := counts_mmapWriteFrom D data n _ _ 0 false s _ s₂ hloop
  have h₂₃ := counts_closing s₂ _ s' hcl
  have hu' := congrArg UInt32.toNat hu
  obtain ⟨hk', ht₂, hp₂, hd₂⟩ := mmapWriteFrom_places hB hdvd harea hlen _ 0 false s s₂ k'
    (Nat.zero_le _) ht hp (by rw [hd]; rfl) hloop (by omega)
  obtain ⟨hk, -, hd₃, happl⟩ := closing_ok ht₂ hcl
  refine ⟨hk.trans hk', hlen, by rw [hd₃, hd₂], fun hn => ?_, fun hn => ?_⟩
  · have hl := hp₂.resolve_right fun hf => by have := hf.none_done; omega
    have happl₂ : H.appl s'.driver = H.appl s₂.driver :=
      happl.resolve_right fun ⟨hr, hq, _⟩ => by rcases hl.started with h | h <;> simp_all
    rw [happl₂, ← Nat.mod_eq_of_lt (hl.appl_lt hn), hl.appl_mod]
  · subst hn
    rw [show mmapRounds 0 = 4095 + 1 from rfl, mmapWriteFrom, if_neg (Nat.lt_irrefl 0)] at hloop
    obtain ⟨-, rfl⟩ := returns_pure.1 hloop
    exact happl

/-- A mapped read counting no xrun, with a boundary that is a multiple of the buffer, reads frame
`i` from slot `(A0 + i) % bs` and moves the pointer `n` frames. -/
theorem mmapRead_gathers {r : ByteArray × Nat} (h : Returns (mmapRead D data n) s (.ok r) s')
    (hu : s'.underruns = s.underruns) :
    r = (gatherFrames s.frameBytes s.bufferSize.toNat (H.origin s) area data n, n) ∧
      n * s.frameBytes ≤ data.size ∧ s'.data = s.data ∧
      (0 < n → (H.appl s'.driver).toNat = (H.origin s + n) % s.boundary.toNat) ∧
      (n = 0 → s' = s) := by
  unfold mmapRead at h
  rcases returns_bind.1 h with ⟨e, he, -⟩ | ⟨u, s₁, hc, hloop⟩
  · cases he
  obtain ⟨hs₁, -, -, hlen⟩ := checkTransfer_ok hc
  rw [hs₁] at hloop
  obtain ⟨ht, hp⟩ := tracks_origin hs
  obtain ⟨hr, -, hp', hd'⟩ := mmapReadFrom_gathers hB hdvd hd harea hlen _ 0 false s s' r
    (Nat.zero_le _) ht hp rfl hloop (congrArg UInt32.toNat hu)
  refine ⟨hr, hlen, hd', fun hn => ?_, fun hn => ?_⟩
  · have hl := hp'.resolve_right fun hf => by have := hf.none_done; omega
    rw [← Nat.mod_eq_of_lt (hl.appl_lt hn), hl.appl_mod]
  · subst hn
    rw [show mmapRounds 0 = 4095 + 1 from rfl, mmapReadFrom, if_neg (Nat.lt_irrefl 0)] at hloop
    exact (returns_pure.1 hloop).2

end Transfers

end PcmStream

end SoundCard.Pcm
