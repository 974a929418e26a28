import SoundCard.Proofs.StreamRun
/-! The mapped transfer loops round by round, for every device: a measure that every round lowers
bounds the rounds, and a transfer that returns moved every frame. -/
namespace SoundCard.Pcm

open SoundCard.Os

namespace PcmStream

variable {σ : Type} (D : PcmDevice σ)

/-- One round of the mapped playback loop: it ends with the frames written, or goes on
from the frames written so far and whether an xrun was retried since frames last moved. -/
def writeRound (data : ByteArray) (frames : Nat) (startAt : UInt64) (done : Nat)
    (retried : Bool) : StreamM σ (Nat ⊕ (Nat × Bool)) :=
  if done < frames then do
    let s ← get
    if !s.running && !s.prepared then prepare D
    match ← attempt (availUpdate D) with
    | .error (.xrun _) =>
      recoverXrun "mmap write" retried
      pure (.inr (done, true))
    | .error e => throw e
    | .ok avail =>
      let s ← get
      if !s.running && s.bufferSize - min avail s.bufferSize ≥ startAt then start D
      if avail = 0 then
        if !(← get).running then start D
        let retried ← mmapWait D done retried
        pure (.inr (done, retried))
      else
        let run ← mmapBegin D (frames - done)
        let fb := (← get).frameBytes
        areaPut (run.offset * fb) (data.extract (done * fb) ((done + run.frames) * fb))
        mmapCommit D run
        pure (.inr (done + run.frames, false))
  else pure (.inl done)

/-- One round of the mapped capture loop, carrying the buffer read into. -/
def readRound (frames : Nat) (data : ByteArray) (done : Nat) (retried : Bool) :
    StreamM σ ((ByteArray × Nat) ⊕ (ByteArray × Nat × Bool)) :=
  if done < frames then do
    if !(← get).running then start D
    match ← attempt (availUpdate D) with
    | .error (.xrun _) =>
      recoverXrun "mmap read" retried
      pure (.inr (data, done, true))
    | .error e => throw e
    | .ok avail =>
      if avail = 0 then
        let retried ← mmapWait D done retried
        pure (.inr (data, done, retried))
      else
        let run ← mmapBegin D (frames - done)
        let s ← get
        let fb := s.frameBytes
        let got := s.areaGet (run.offset * fb)
          (data.extract (done * fb) ((done + run.frames) * fb))
        let data := got.copySlice 0 data (done * fb) got.size
        mmapCommit D run
        pure (.inr (data, done + run.frames, false))
  else pure (.inl (data, done))

theorem ite_bind {α β : Type} {c : Prop} [Decidable c] (x y : StreamM σ α)
    (f : α → StreamM σ β) : (if c then x else y) >>= f = if c then x >>= f else y >>= f :=
  apply_ite (· >>= f) c x y

theorem mmapWriteFrom_succ (data : ByteArray) (frames : Nat) (startAt : UInt64)
    (rounds done : Nat) (retried : Bool) :
    mmapWriteFrom D data frames startAt (rounds + 1) done retried =
      writeRound D data frames startAt done retried >>= fun o =>
        o.elim pure fun p => mmapWriteFrom D data frames startAt rounds p.1 p.2 := by
  rw [mmapWriteFrom.eq_2, writeRound]
  split
  · simp only [bind_assoc, ite_bind]
    congr 1
    funext s
    split
    · congr 1
      funext u
      congr 1
      funext o
      rcases o with e | avail
      · cases e <;> simp only [bind_assoc, pure_bind, Sum.elim_inr, ExceptT.bind_throw]
      · simp only [bind_assoc, ite_bind, pure_bind, Sum.elim_inr]
    · congr 1
      funext o
      rcases o with e | avail
      · cases e <;> simp only [bind_assoc, pure_bind, Sum.elim_inr, ExceptT.bind_throw]
      · simp only [bind_assoc, ite_bind, pure_bind, Sum.elim_inr]
  · rw [pure_bind]
    rfl

theorem mmapReadFrom_succ (frames rounds : Nat) (data : ByteArray) (done : Nat)
    (retried : Bool) :
    mmapReadFrom D frames (rounds + 1) data done retried =
      readRound D frames data done retried >>= fun o =>
        o.elim pure fun p => mmapReadFrom D frames rounds p.1 p.2.1 p.2.2 := by
  rw [mmapReadFrom.eq_2, readRound]
  split
  · simp only [bind_assoc, ite_bind]
    congr 1
    funext s
    split
    · congr 1
      funext u
      congr 1
      funext o
      rcases o with e | avail
      · cases e <;> simp only [bind_assoc, pure_bind, Sum.elim_inr, ExceptT.bind_throw]
      · simp only [bind_assoc, ite_bind, pure_bind, Sum.elim_inr]
    · congr 1
      funext o
      rcases o with e | avail
      · cases e <;> simp only [bind_assoc, pure_bind, Sum.elim_inr, ExceptT.bind_throw]
      · simp only [bind_assoc, ite_bind, pure_bind, Sum.elim_inr]
  · rw [pure_bind]
    rfl

/-! ## What the loops return -/

section Returned

theorem toNat_contiguous_pos (appl bs : UInt64) : 0 < (max bs 1 - appl % max bs 1).toNat := by
  have hb : 0 < (max bs 1).toNat := by
    rw [UInt64.toNat_max]
    simp
  have hlt : (appl % max bs 1).toNat < (max bs 1).toNat := by
    rw [UInt64.toNat_mod]
    exact Nat.mod_lt _ hb
  rw [UInt64.toNat_sub_of_le _ _ (UInt64.le_iff_toNat_le.2 hlt.le)]
  omega

variable {s s' : PcmStream σ}

/-- A run taken is no longer than asked, and holds a frame when a frame was asked for and the
pointer update it makes finds one free. -/
theorem mmapBegin_frames {k : Nat} {run : MmapRun} (h : Returns (mmapBegin D k) s (.ok run) s') :
    run.frames ≤ k ∧
      ∃ a s₁, Returns (availUpdate D) s (.ok a) s₁ ∧ (0 < k → a ≠ 0 → 0 < run.frames) := by
  unfold mmapBegin at h
  rw [returns_get_bind] at h
  dsimp only at h
  split at h
  · rcases returns_bind.1 h with ⟨e, he, -⟩ | ⟨u, s₀, hc, -⟩
    · cases he
    · cases (returns_fail.1 hc).1
  rcases returns_bind.1 h with ⟨e, he, -⟩ | ⟨a, s₁, hav, h⟩
  · cases he
  rw [returns_get_bind] at h
  unfold readRing at h
  rw [bind_assoc] at h
  rcases returns_bind.1 h with ⟨e, he, -⟩ | ⟨g, s₂, -, h⟩
  · cases he
  rw [bind_assoc, returns_get_bind, pure_bind] at h
  obtain ⟨hrun, -⟩ := returns_pure.1 h
  cases hrun
  refine ⟨by dsimp only; omega, a, s₁, hav, fun hk ha => ?_⟩
  have hc := toNat_contiguous_pos (g.applPtr D s₂.driver) s₁.bufferSize
  have ha' : 0 < a.toNat := by simpa [Nat.pos_iff_ne_zero, ← UInt64.toNat_inj] using ha
  dsimp only
  omega

theorem yields_mmapBegin (k : Nat) : Yields (·.frames ≤ k) (mmapBegin D k) :=
  fun _ _ _ h => (mmapBegin_frames D h).1

theorem yields_throw {α : Type} {P : α → Prop} (e : StreamError) :
    Yields P (throw e : StreamM σ α) := by
  intro s a s' h
  cases (returns_throw.1 h).1

/-- A playback round from at most `frames` frames done ends with all of them, or goes on with
at most that many. -/
theorem yields_writeRound {data : ByteArray} {frames done : Nat} {startAt : UInt64}
    {retried : Bool} (hd : done ≤ frames) :
    Yields (fun o => o.elim (· = frames) (·.1 ≤ frames))
      (writeRound D data frames startAt done retried) := by
  unfold writeRound
  split
  swap
  · exact yields_pure (show done = frames by omega)
  refine yields_bind (yields_true _) fun _ _ => yields_join fun _ =>
    yields_bind (yields_true _) fun o _ => ?_
  split
  · exact yields_bind (yields_true _) fun _ _ => yields_pure hd
  · exact yields_throw _
  refine yields_bind (yields_true _) fun _ _ => yields_join fun _ => yields_ite ?_ ?_
  · exact yields_bind (yields_true _) fun _ _ => yields_join fun _ =>
      yields_bind (yields_true _) fun _ _ => yields_pure hd
  · exact yields_bind (yields_mmapBegin D _) fun run hrun => yields_bind (yields_true _) fun _ _ =>
      yields_bind (yields_true _) fun _ _ => yields_bind (yields_true _) fun _ _ =>
        yields_pure (show done + run.frames ≤ frames by omega)

/-- A capture round from at most `frames` frames done ends with all of them, or goes on with
at most that many. -/
theorem yields_readRound {frames done : Nat} {data : ByteArray} {retried : Bool}
    (hd : done ≤ frames) :
    Yields (fun o => o.elim (·.2 = frames) (·.2.1 ≤ frames))
      (readRound D frames data done retried) := by
  unfold readRound
  split
  swap
  · exact yields_pure (show done = frames by omega)
  refine yields_bind (yields_true _) fun _ _ => yields_join fun _ =>
    yields_bind (yields_true _) fun o _ => ?_
  split
  · exact yields_bind (yields_true _) fun _ _ => yields_pure hd
  · exact yields_throw _
  refine yields_ite ?_ ?_
  · exact yields_bind (yields_true _) fun _ _ => yields_pure hd
  · exact yields_bind (yields_mmapBegin D _) fun run hrun => yields_bind (yields_true _) fun _ _ =>
      yields_bind (yields_true _) fun _ _ => yields_pure (show done + run.frames ≤ frames by omega)

theorem yields_mmapWriteFrom (data : ByteArray) (frames : Nat) (startAt : UInt64) :
    ∀ rounds done retried, done ≤ frames →
      Yields (· = frames) (mmapWriteFrom D data frames startAt rounds done retried)
  | 0, _, _, _ => by
    rw [mmapWriteFrom]
    exact yields_fail _
  | rounds + 1, done, retried, hd => by
    rw [mmapWriteFrom_succ]
    refine yields_bind (yields_writeRound D hd) fun o ho => ?_
    cases o with
    | inl k => exact yields_pure ho
    | inr p => exact yields_mmapWriteFrom data frames startAt rounds p.1 p.2 ho

theorem yields_mmapReadFrom (frames : Nat) :
    ∀ rounds data done retried, done ≤ frames →
      Yields (·.2 = frames) (mmapReadFrom D frames rounds data done retried)
  | 0, _, _, _, _ => by
    rw [mmapReadFrom]
    exact yields_fail _
  | rounds + 1, data, done, retried, hd => by
    rw [mmapReadFrom_succ]
    refine yields_bind (yields_readRound D hd) fun o ho => ?_
    cases o with
    | inl r => exact yields_pure ho
    | inr p => exact yields_mmapReadFrom frames rounds p.1 p.2.1 p.2.2 ho

theorem yields_mmapWrite (data : ByteArray) (n : Nat) : Yields (· = n) (mmapWrite D data n) := by
  unfold mmapWrite
  refine yields_bind (yields_true _) fun _ _ => yields_bind (yields_true _) fun _ _ =>
    yields_bind (yields_mmapWriteFrom D data n _ _ 0 false (Nat.zero_le n)) fun k hk => ?_
  refine yields_bind (yields_true _) fun _ _ => yields_ite ?_ (yields_pure hk)
  exact yields_bind (yields_true _) fun _ _ => yields_bind (yields_true _) fun _ _ =>
    yields_join fun _ => yields_pure hk

theorem yields_mmapRead (data : ByteArray) (n : Nat) : Yields (·.2 = n) (mmapRead D data n) :=
  yields_bind (yields_true _) fun _ _ =>
    yields_mmapReadFrom D n (mmapRounds n) data 0 false (Nat.zero_le n)

end Returned

/-! ## Enough rounds -/

section Enough

variable {α β : Type} (round : α → StreamM σ (β ⊕ α)) (loop : Nat → α → StreamM σ β)
  {I : PcmStream σ → Prop} {μ : α → PcmStream σ → Nat}

/-- A loop whose rounds lower `μ` from states passing `I` runs alike with one round more, given
more rounds than the measure. -/
theorem run_rounds_succ
    (hloop : ∀ r a, loop (r + 1) a = round a >>= fun o => o.elim pure (loop r))
    (hround : ∀ a s a' s', I s → Returns (round a) s (.ok (.inr a')) s' → I s' ∧ μ a' s' < μ a s) :
    ∀ r a s, I s → μ a s < r →
      (ExceptT.run (loop (r + 1) a)).run s = (ExceptT.run (loop r a)).run s := by
  intro r
  induction r with
  | zero => intro a s _ h; exact absurd h (Nat.not_lt_zero _)
  | succ r ih =>
    intro a s hs hμ
    rw [hloop, hloop]
    refine run_bind_congr fun o s₁ h => ?_
    cases o with
    | inl b => rfl
    | inr a' =>
      obtain ⟨hs₁, hlt⟩ := hround a s a' s₁ hs h
      exact ih a' s₁ hs₁ (by omega)

theorem run_rounds_add
    (hloop : ∀ r a, loop (r + 1) a = round a >>= fun o => o.elim pure (loop r))
    (hround : ∀ a s a' s', I s → Returns (round a) s (.ok (.inr a')) s' → I s' ∧ μ a' s' < μ a s)
    {r : Nat} {a : α} {s : PcmStream σ} (hs : I s) (hμ : μ a s < r) (k : Nat) :
    (ExceptT.run (loop (r + k) a)).run s = (ExceptT.run (loop r a)).run s := by
  induction k with
  | zero => rfl
  | succ k ih =>
    rw [← Nat.add_assoc, run_rounds_succ round loop hloop hround _ a s hs (by omega), ih]

end Enough

variable {I : PcmStream σ → Prop} {μ : Nat → PcmStream σ → Nat}

theorem mmapWriteFrom_rounds_add {data : ByteArray} {frames : Nat} {startAt : UInt64}
    (hround : ∀ done retried s done' retried' s', I s →
      Returns (writeRound D data frames startAt done retried) s (.ok (.inr (done', retried'))) s' →
        I s' ∧ μ done' s' < μ done s)
    {r done : Nat} {retried : Bool} {s : PcmStream σ} (hs : I s) (hμ : μ done s < r) (k : Nat) :
    (ExceptT.run (mmapWriteFrom D data frames startAt (r + k) done retried)).run s =
      (ExceptT.run (mmapWriteFrom D data frames startAt r done retried)).run s :=
  run_rounds_add (fun p : Nat × Bool => writeRound D data frames startAt p.1 p.2)
    (fun r p => mmapWriteFrom D data frames startAt r p.1 p.2)
    (fun r p => mmapWriteFrom_succ D data frames startAt r p.1 p.2)
    (fun p s p' s' hs h => hround p.1 p.2 s p'.1 p'.2 s' hs h) (a := (done, retried)) hs hμ k

theorem mmapReadFrom_rounds_add {frames : Nat}
    (hround : ∀ data done retried s data' done' retried' s', I s →
      Returns (readRound D frames data done retried) s (.ok (.inr (data', done', retried'))) s' →
        I s' ∧ μ done' s' < μ done s)
    {r done : Nat} {data : ByteArray} {retried : Bool} {s : PcmStream σ} (hs : I s)
    (hμ : μ done s < r) (k : Nat) :
    (ExceptT.run (mmapReadFrom D frames (r + k) data done retried)).run s =
      (ExceptT.run (mmapReadFrom D frames r data done retried)).run s :=
  run_rounds_add (fun p : ByteArray × Nat × Bool => readRound D frames p.1 p.2.1 p.2.2)
    (fun r p => mmapReadFrom D frames r p.1 p.2.1 p.2.2)
    (fun r p => mmapReadFrom_succ D frames r p.1 p.2.1 p.2.2)
    (fun p s p' s' hs h => hround p.1 p.2.1 p.2.2 s p'.1 p'.2.1 p'.2.2 s' hs h)
    (a := (data, done, retried)) (μ := fun p => μ p.2.1) hs hμ k

end PcmStream

end SoundCard.Pcm
