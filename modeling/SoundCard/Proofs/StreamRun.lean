import Mathlib
import SoundCard.Pcm.Stream.Transfer
/-! Stream operations read through their returns (`Returns`), with `Calm`, `Finishes` and
`Yields` operations. -/
namespace SoundCard.Pcm

open SoundCard.Os

/-- An error a transfer loop treats apart from the others: an xrun or a would-block. -/
def StreamError.interrupts : StreamError → Bool
  | .xrun _ | .wouldBlock _ => true
  | _ => false

variable {ε S σ α β γ : Type}

/-- `m` run from the state `s` returns `r` and leaves the state `s'`, without stopping the
program. Stream operations and device requests are both read this way. -/
def Returns (m : ExceptT ε (StateT S Trapping) α) (s : S) (r : Except ε α) (s' : S) : Prop :=
  (ExceptT.run m).run s = .ok (r, s')

section Returns

variable {s s' : S}

theorem returns_pure {a : α} {r : Except ε α} :
    Returns (pure a : ExceptT ε (StateT S Trapping) α) s r s' ↔ r = .ok a ∧ s' = s := by
  change Except.ok _ = _ ↔ _
  simp only [Except.ok.injEq, Prod.mk.injEq]
  exact ⟨fun ⟨h1, h2⟩ => ⟨h1.symm, h2.symm⟩, fun ⟨h1, h2⟩ => ⟨h1.symm, h2.symm⟩⟩

theorem returns_bind {x : ExceptT ε (StateT S Trapping) α}
    {f : α → ExceptT ε (StateT S Trapping) β} {r : Except ε β} :
    Returns (x >>= f) s r s' ↔ (∃ e, r = .error e ∧ Returns x s (.error e) s') ∨
      ∃ a s₁, Returns x s (.ok a) s₁ ∧ Returns (f a) s₁ r s' := by
  unfold Returns
  simp only [ExceptT.run_bind, StateT.run_bind]
  rcases h : (ExceptT.run x).run s with t | ⟨_ | a, s₁⟩
  · simp [bind, Except.bind]
  · simp only [bind, Except.bind]
    change Except.ok _ = _ ↔ _
    simp only [Except.ok.injEq, Prod.mk.injEq, reduceCtorEq, false_and, exists_false,
      or_false]
    exact ⟨fun ⟨h1, h2⟩ => ⟨_, h1.symm, rfl, h2⟩, fun ⟨_, h1, h2, h3⟩ => by
      cases h2; exact ⟨h1.symm, h3⟩⟩
  · simp [bind, Except.bind]

theorem returns_get {r : Except ε S} :
    Returns (get : ExceptT ε (StateT S Trapping) S) s r s' ↔ r = .ok s ∧ s' = s := by
  change Except.ok _ = _ ↔ _
  simp only [Except.ok.injEq, Prod.mk.injEq]
  exact ⟨fun ⟨h1, h2⟩ => ⟨h1.symm, h2.symm⟩, fun ⟨h1, h2⟩ => ⟨h1.symm, h2.symm⟩⟩

theorem returns_modify {f : S → S} {r : Except ε Unit} :
    Returns (modify f : ExceptT ε (StateT S Trapping) Unit) s r s' ↔ r = .ok () ∧ s' = f s := by
  change Except.ok _ = _ ↔ _
  simp only [Except.ok.injEq, Prod.mk.injEq]
  exact ⟨fun ⟨h1, h2⟩ => ⟨h1.symm, h2.symm⟩, fun ⟨h1, h2⟩ => ⟨h1.symm, h2.symm⟩⟩

theorem returns_throw {e : ε} {r : Except ε α} :
    Returns (throw e : ExceptT ε (StateT S Trapping) α) s r s' ↔ r = .error e ∧ s' = s := by
  change Except.ok _ = _ ↔ _
  simp only [Except.ok.injEq, Prod.mk.injEq]
  exact ⟨fun ⟨h1, h2⟩ => ⟨h1.symm, h2.symm⟩, fun ⟨h1, h2⟩ => ⟨h1.symm, h2.symm⟩⟩

theorem returns_lift {t : Trapping α} {r : Except ε α} :
    Returns (monadLift t : ExceptT ε (StateT S Trapping) α) s r s' ↔ ∃ a, t = .ok a ∧ r = .ok a ∧ s' = s := by
  unfold Returns
  rcases t with t | a
  · simp [monadLift, MonadLift.monadLift, ExceptT.lift, ExceptT.run, ExceptT.mk, bind,
      Except.bind]
  · simp only [monadLift, MonadLift.monadLift, ExceptT.lift, ExceptT.run, ExceptT.mk,
      StateT.run, Functor.map]
    change Except.ok _ = _ ↔ _
    simp only [Except.ok.injEq, Prod.mk.injEq]
    exact ⟨fun ⟨h1, h2⟩ => ⟨a, rfl, h1.symm, h2.symm⟩, fun ⟨_, h1, h2, h3⟩ => by
      cases h1; exact ⟨h2.symm, h3.symm⟩⟩

theorem returns_map {x : ExceptT ε (StateT S Trapping) α} {f : α → β} {r : Except ε β} :
    Returns (f <$> x) s r s' ↔ (∃ e, r = .error e ∧ Returns x s (.error e) s') ∨
      ∃ a, r = .ok (f a) ∧ Returns x s (.ok a) s' := by
  rw [← bind_pure_comp, returns_bind]
  simp only [returns_pure]
  constructor
  · rintro (h | ⟨a, s₁, hx, rfl, rfl⟩)
    · exact .inl h
    · exact .inr ⟨a, rfl, hx⟩
  · rintro (h | ⟨a, rfl, hx⟩)
    · exact .inl h
    · exact .inr ⟨a, s', hx, rfl, rfl⟩

theorem returns_set {t : S} {r : Except ε PUnit} :
    Returns (set t : ExceptT ε (StateT S Trapping) PUnit) s r s' ↔ r = .ok () ∧ s' = t := by
  change Except.ok _ = _ ↔ _
  simp only [Except.ok.injEq, Prod.mk.injEq]
  exact ⟨fun ⟨h1, h2⟩ => ⟨h1.symm, h2.symm⟩, fun ⟨h1, h2⟩ => ⟨h1.symm, h2.symm⟩⟩

/-- A handled run: `x` returns a value, or it fails and the handler returns from where it
left the state. -/
theorem returns_tryCatch {x : ExceptT ε (StateT S Trapping) α}
    {h : ε → ExceptT ε (StateT S Trapping) α} {r : Except ε α} :
    Returns (tryCatch x h) s r s' ↔ (∃ a, r = .ok a ∧ Returns x s (.ok a) s') ∨
      ∃ e s₁, Returns x s (.error e) s₁ ∧ Returns (h e) s₁ r s' := by
  unfold Returns
  have hrun : (ExceptT.run (tryCatch x h)).run s = ((ExceptT.run x).run s).bind fun p =>
      match p with
      | (.ok a, s₁) => .ok (.ok a, s₁)
      | (.error e, s₁) => (ExceptT.run (h e)).run s₁ := by
    change (ExceptT.tryCatch x h).run.run s = _
    simp only [ExceptT.tryCatch, ExceptT.run_mk, StateT.run_bind]
    rw [show StateT.run x s = (ExceptT.run x).run s from rfl]
    rcases (ExceptT.run x).run s with t | ⟨_ | a, s₁⟩ <;> rfl
  rw [hrun]
  rcases (ExceptT.run x).run s with t | ⟨e | a, s₁⟩
  · simp [Except.bind]
  · simp [Except.bind]
  · simp only [Except.bind, Except.ok.injEq, Prod.mk.injEq, reduceCtorEq, false_and,
      exists_false, or_false]
    exact ⟨fun ⟨h1, h2⟩ => ⟨a, h1.symm, rfl, h2⟩, fun ⟨_, h1, h2, h3⟩ => ⟨by rw [h1, h2], h3⟩⟩

/-! Runs that only read or write the state go forward: the rest of the run starts from the
state they leave. -/

theorem returns_get_bind {f : S → ExceptT ε (StateT S Trapping) β} {r : Except ε β} :
    Returns (get >>= f) s r s' ↔ Returns (f s) s r s' :=
  Iff.rfl

theorem returns_modify_bind {g : S → S} {f : PUnit → ExceptT ε (StateT S Trapping) β}
    {r : Except ε β} : Returns (modify g >>= f) s r s' ↔ Returns (f ()) (g s) r s' :=
  Iff.rfl

theorem returns_set_bind {t : S} {f : PUnit → ExceptT ε (StateT S Trapping) β}
    {r : Except ε β} : Returns (set t >>= f) s r s' ↔ Returns (f ()) t r s' :=
  Iff.rfl

theorem returns_throw_bind {e : ε} {f : α → ExceptT ε (StateT S Trapping) β} {r : Except ε β} :
    Returns (throw e >>= f) s r s' ↔ r = .error e ∧ s' = s :=
  returns_throw

theorem returns_join {c : Prop} [Decidable c] {x : ExceptT ε (StateT S Trapping) Unit}
    {k : Unit → ExceptT ε (StateT S Trapping) β} {r : Except ε β} :
    Returns (if c then x >>= k else k ()) s r s' ↔
      Returns ((if c then x else pure ()) >>= k) s r s' := by
  split
  · rfl
  · rw [pure_bind]

theorem returns_of_outcome {m : ExceptT ε (StateT S Trapping) α} {p : α → S → Bool}
    (h : (match (ExceptT.run m).run s with
      | .ok (.ok a, s') => p a s'
      | _ => false) = true) :
    ∃ a s', Returns m s (.ok a) s' ∧ p a s' = true := by
  rcases hr : (ExceptT.run m).run s with t | ⟨_ | a, s'⟩ <;> rw [hr] at h
  · cases h
  · cases h
  · exact ⟨a, s', hr, h⟩

theorem run_bind_congr {x : ExceptT ε (StateT S Trapping) α}
    {f g : α → ExceptT ε (StateT S Trapping) β}
    (h : ∀ a s₁, Returns x s (.ok a) s₁ → (ExceptT.run (f a)).run s₁ = (ExceptT.run (g a)).run s₁) :
    (ExceptT.run (x >>= f)).run s = (ExceptT.run (x >>= g)).run s := by
  simp only [ExceptT.run_bind, StateT.run_bind]
  rcases hx : (ExceptT.run x).run s with t | ⟨_ | a, s₁⟩
  · rfl
  · rfl
  · exact h a s₁ hx

end Returns

/-- Every return of `m` leaves a state that `R` relates to the one it started from. -/
def Moves (R : S → S → Prop) (m : ExceptT ε (StateT S Trapping) α) : Prop :=
  ∀ s r s', Returns m s r s' → R s s'

section Moves

variable {R : S → S → Prop}

theorem moves_pure [Std.Refl R] (a : α) : Moves R (pure a : ExceptT ε (StateT S Trapping) α) := by
  intro s r s' h
  rw [(returns_pure.1 h).2]
  exact Std.Refl.refl s

theorem moves_bind [IsTrans S R] {x : ExceptT ε (StateT S Trapping) α}
    {f : α → ExceptT ε (StateT S Trapping) β} (hx : Moves R x) (hf : ∀ a, Moves R (f a)) :
    Moves R (x >>= f) := by
  intro s r s' h
  rcases returns_bind.1 h with ⟨e, -, h₁⟩ | ⟨a, s₁, h₁, h₂⟩
  · exact hx s _ s' h₁
  · exact trans_of R (hx s _ s₁ h₁) (hf a s₁ r s' h₂)

theorem moves_ite {c : Prop} [Decidable c] {x y : ExceptT ε (StateT S Trapping) α}
    (hx : Moves R x) (hy : Moves R y) : Moves R (if c then x else y) := by
  split
  · exact hx
  · exact hy

theorem moves_join [IsTrans S R] {c : Prop} [Decidable c] {x : ExceptT ε (StateT S Trapping) Unit}
    {k : Unit → ExceptT ε (StateT S Trapping) α} (hx : Moves R x) (hk : ∀ u, Moves R (k u)) :
    Moves R (if c then x >>= k else k ()) :=
  moves_ite (moves_bind hx hk) (hk ())

theorem moves_get_bind {f : S → ExceptT ε (StateT S Trapping) β}
    (hf : ∀ s r s', Returns (f s) s r s' → R s s') : Moves R (get >>= f) :=
  fun s r s' h => hf s r s' (returns_get_bind.1 h)

theorem moves_modify {f : S → S} (hf : ∀ s, R s (f s)) :
    Moves R (modify f : ExceptT ε (StateT S Trapping) Unit) := by
  intro s r s' h
  rw [(returns_modify.1 h).2]
  exact hf s

theorem moves_throw [Std.Refl R] (e : ε) : Moves R (throw e : ExceptT ε (StateT S Trapping) α) := by
  intro s r s' h
  rw [(returns_throw.1 h).2]
  exact Std.Refl.refl s

theorem moves_tryCatch [IsTrans S R] {x : ExceptT ε (StateT S Trapping) α}
    {h : ε → ExceptT ε (StateT S Trapping) α} (hx : Moves R x) (hh : ∀ e, Moves R (h e)) :
    Moves R (tryCatch x h) := by
  intro s r s' hr
  rcases returns_tryCatch.1 hr with ⟨a, -, h₁⟩ | ⟨e, s₁, h₁, h₂⟩
  · exact hx s _ s' h₁
  · exact trans_of R (hx s _ s₁ h₁) (hh e s₁ r s' h₂)

theorem moves_lift [Std.Refl R] (t : Trapping α) :
    Moves R (monadLift t : ExceptT ε (StateT S Trapping) α) := by
  intro s r s' h
  obtain ⟨a, -, -, rfl⟩ := returns_lift.1 h
  exact Std.Refl.refl _

end Moves

namespace PcmStream

section Returns

variable {s s' : PcmStream σ}

theorem returns_ask {m : DeviceM σ α} {r : Except StreamError (Except IoError α)} :
    Returns (ask m) s r s' ↔ ∃ o d, (ExceptT.run m).run s.driver = .ok (o, d) ∧
      r = .ok o ∧ s' = { s with driver := d } := by
  unfold ask
  simp [returns_bind, returns_get, returns_lift, returns_set, returns_map]

theorem returns_fail {e : StreamError} {r : Except StreamError α} :
    Returns (fail e) s r s' ↔ r = .error e ∧ s' = { s with error := e.stored } := by
  unfold fail
  simp [returns_bind, returns_modify, returns_throw]

theorem returns_refuse {r : Except StreamError α} :
    Returns refuse s r s' ↔ r = .error (.notReady s.error) ∧ s' = s := by
  unfold refuse
  simp [returns_bind, returns_get, returns_throw, and_comm]

theorem returns_parts {r : Except StreamError Ring} (h : Returns parts s r s') :
    s' = s ∧ ((s.attached = true ∧ ∃ g, s.ring = some g ∧ r = .ok g) ∨
      r = .error (.notReady s.error)) := by
  unfold parts at h
  simp only [returns_bind, returns_get, reduceCtorEq, false_and, and_false, exists_false,
    false_or, Except.ok.injEq] at h
  obtain ⟨_, _, ⟨rfl, rfl⟩, h⟩ := h
  split at h
  · rename_i g hat hring
    obtain ⟨rfl, rfl⟩ := returns_pure.1 h
    exact ⟨rfl, .inl ⟨hat, g, hring, rfl⟩⟩
  · obtain ⟨rfl, rfl⟩ := returns_refuse.1 h
    exact ⟨rfl, .inr rfl⟩

theorem returns_parts_bind {g : Ring} {f : Ring → StreamM σ β} {r : Except StreamError β}
    (ha : s.attached = true) (hg : s.ring = some g) :
    Returns (parts >>= f) s r s' ↔ Returns (f g) s r s' := by
  unfold parts
  rw [bind_assoc, returns_get_bind]
  simp only [ha, hg, pure_bind]

theorem returns_ask_bind {m : DeviceM σ α} {f : Except IoError α → StreamM σ β}
    {r : Except StreamError β} :
    Returns (ask m >>= f) s r s' ↔
      ∃ o d, Returns m s.driver o d ∧ Returns (f o) { s with driver := d } r s' := by
  rw [returns_bind]
  simp only [returns_ask, Except.ok.injEq]
  constructor
  · rintro (⟨e, rfl, o, d, -, he, -⟩ | ⟨a, s₁, ⟨o, d, hm, rfl, rfl⟩, h⟩)
    · cases he
    · exact ⟨a, d, hm, h⟩
  · rintro ⟨o, d, hm, h⟩
    exact .inr ⟨o, _, ⟨o, d, hm, rfl, rfl⟩, h⟩

/-- Running `m` and keeping its failure as a value: the handle moves as `m` moves it. -/
theorem returns_attempt {m : StreamM σ α} {r : Except StreamError (Except StreamError α)} :
    Returns (attempt m) s r s' ↔ ∃ o, r = .ok o ∧ Returns m s o s' := by
  unfold attempt
  rw [returns_tryCatch]
  simp only [returns_map, returns_pure]
  constructor
  · rintro (⟨a, rfl, ⟨e, he, -⟩ | ⟨a', he, h⟩⟩ | ⟨e, s₁, ⟨e', he, h⟩ | ⟨a, he, -⟩, rfl, rfl⟩)
    · cases he
    · cases he
      exact ⟨_, rfl, h⟩
    · cases he
      exact ⟨_, rfl, h⟩
    · cases he
  · rintro ⟨o, rfl, h⟩
    rcases o with e | a
    · exact .inr ⟨e, s', .inl ⟨e, rfl, h⟩, rfl, rfl⟩
    · exact .inl ⟨.ok a, rfl, .inr ⟨a, rfl, h⟩⟩

theorem toNat_add_one_of_lt {u : UInt32} (h : u.toNat + 1 < 4294967296) :
    (u + 1).toNat = u.toNat + 1 := by
  rw [UInt32.toNat_add, UInt32.toNat_one, Nat.mod_eq_of_lt (by simpa using h)]

/-- Counting an xrun needs room below 2^32 in the count; it adds one and leaves the stream
neither prepared nor running. -/
theorem returns_noteXrun {r : Except StreamError Unit} (h : Returns noteXrun s r s') :
    r = .ok () ∧ s.underruns.toNat + 1 < 4294967296 ∧
      s' = { s with underruns := s.underruns + 1, running := false, prepared := false } := by
  unfold noteXrun at h
  rw [returns_get_bind] at h
  rcases returns_bind.1 h with ⟨e, -, h₁⟩ | ⟨n, s₁, h₁, h₂⟩
  · obtain ⟨_, -, he, -⟩ := returns_lift.1 h₁
    cases he
  obtain ⟨n', hn, hr, rfl⟩ := returns_lift.1 h₁
  cases hr
  unfold addU32 at hn
  split at hn
  · next hroom =>
    injection hn with hn
    subst hn
    obtain ⟨rfl, rfl⟩ := returns_set.1 h₂
    exact ⟨rfl, by simpa using hroom, rfl⟩
  · cases hn

theorem noteXrun_returns (h : s.underruns.toNat + 1 < 4294967296) :
    Returns noteXrun s (.ok ())
      { s with underruns := s.underruns + 1, running := false, prepared := false } := by
  unfold noteXrun
  rw [returns_get_bind]
  have hadd : addU32 s.underruns 1 = .ok (s.underruns + 1) := by
    rw [addU32, if_pos (by simpa using h)]
    rfl
  exact returns_bind.2 (.inr ⟨_, s, returns_lift.2 ⟨_, hadd, rfl, rfl⟩, returns_set.2 ⟨rfl, rfl⟩⟩)

end Returns

/-- What a handle keeps while only its device is driven; `seen` is what a caller watches of the
device. -/
structure Steady (seen : σ → γ) (s s' : PcmStream σ) : Prop where
  config : s'.config = s.config
  flags : s'.flags = s.flags
  attached : s'.attached = s.attached
  data : s'.data = s.data
  bufferSize : s'.bufferSize = s.bufferSize
  boundary : s'.boundary = s.boundary
  underruns : s'.underruns = s.underruns
  seen : seen s'.driver = seen s.driver

theorem Steady.refl (seen : σ → γ) (s : PcmStream σ) : Steady seen s s :=
  ⟨rfl, rfl, rfl, rfl, rfl, rfl, rfl, rfl⟩

theorem Steady.trans {seen : σ → γ} {s₁ s₂ s₃ : PcmStream σ} (h₁ : Steady seen s₁ s₂)
    (h₂ : Steady seen s₂ s₃) : Steady seen s₁ s₃ :=
  ⟨h₂.config.trans h₁.config, h₂.flags.trans h₁.flags, h₂.attached.trans h₁.attached,
    h₂.data.trans h₁.data, h₂.bufferSize.trans h₁.bufferSize, h₂.boundary.trans h₁.boundary,
    h₂.underruns.trans h₁.underruns, h₂.seen.trans h₁.seen⟩

theorem Steady.frameBytes {seen : σ → γ} {s s' : PcmStream σ} (h : Steady seen s s') :
    s'.frameBytes = s.frameBytes := by
  rw [PcmStream.frameBytes, h.config, PcmStream.frameBytes]

/-- Every answer of the device request `m` leaves what `seen` shows of the device. -/
def Leaves (seen : σ → γ) (m : DeviceM σ α) : Prop :=
  ∀ d o d', Returns m d o d' → seen d' = seen d

/-- Every return of `m` keeps the handle steady, and a failure of `m` is neither an xrun
nor a would-block. -/
def Calm (seen : σ → γ) (m : StreamM σ α) : Prop :=
  ∀ s r s', Returns m s r s' → Steady seen s s' ∧ ∀ e, r = .error e → e.interrupts = false

section Calm

variable {seen : σ → γ}

theorem calm_pure (a : α) : Calm seen (pure a : StreamM σ α) := by
  intro s r s' h
  obtain ⟨rfl, rfl⟩ := returns_pure.1 h
  exact ⟨Steady.refl _ _, by simp⟩

theorem calm_bind {x : StreamM σ α} {f : α → StreamM σ β} (hx : Calm seen x)
    (hf : ∀ a, Calm seen (f a)) : Calm seen (x >>= f) := by
  intro s r s' h
  rcases returns_bind.1 h with ⟨e, rfl, h₁⟩ | ⟨a, s₁, h₁, h₂⟩
  · obtain ⟨hs, he⟩ := hx s _ s' h₁
    exact ⟨hs, fun e' h' => by cases h'; exact he e rfl⟩
  · obtain ⟨hs₁, -⟩ := hx s _ s₁ h₁
    obtain ⟨hs₂, he⟩ := hf a s₁ r s' h₂
    exact ⟨hs₁.trans hs₂, he⟩

theorem calm_ite {c : Prop} [Decidable c] {x y : StreamM σ α} (hx : Calm seen x)
    (hy : Calm seen y) : Calm seen (if c then x else y) := by
  split
  · exact hx
  · exact hy

theorem calm_join {c : Prop} [Decidable c] {x : StreamM σ Unit} {k : Unit → StreamM σ α}
    (hx : Calm seen x) (hk : ∀ u, Calm seen (k u)) :
    Calm seen (if c then x >>= k else k ()) :=
  calm_ite (calm_bind hx hk) (hk ())

theorem Calm.bind_cases {x : StreamM σ α} {f : α → StreamM σ β} {s s' : PcmStream σ}
    {r : Except StreamError β} (hx : Calm seen x) (h : Returns (x >>= f) s r s') :
    (∃ e, r = .error e ∧ e.interrupts = false ∧ Steady seen s s') ∨
      ∃ a s₁, Steady seen s s₁ ∧ Returns (f a) s₁ r s' := by
  rcases returns_bind.1 h with ⟨e, rfl, h₁⟩ | ⟨a, s₁, h₁, h₂⟩
  · obtain ⟨hs, he⟩ := hx s _ s' h₁
    exact .inl ⟨e, rfl, he e rfl, hs⟩
  · exact .inr ⟨a, s₁, (hx s _ s₁ h₁).1, h₂⟩

theorem Calm.join_cases {c : Prop} [Decidable c] {x : StreamM σ Unit}
    {k : Unit → StreamM σ α} {s s' : PcmStream σ} {r : Except StreamError α}
    (hx : Calm seen x) (h : Returns (if c then x >>= k else k ()) s r s') :
    (∃ e, r = .error e ∧ e.interrupts = false ∧ Steady seen s s') ∨
      ∃ s₁, Steady seen s s₁ ∧ Returns (k ()) s₁ r s' := by
  split at h
  · rcases hx.bind_cases h with he | ⟨_, s₁, hs, h⟩
    · exact .inl he
    · exact .inr ⟨s₁, hs, h⟩
  · exact .inr ⟨s, Steady.refl _ _, h⟩

theorem calm_get : Calm seen (get : StreamM σ (PcmStream σ)) := by
  intro s r s' h
  obtain ⟨rfl, rfl⟩ := returns_get.1 h
  exact ⟨Steady.refl _ _, by simp⟩

theorem calm_modify {f : PcmStream σ → PcmStream σ} (hf : ∀ s, Steady seen s (f s)) :
    Calm seen (modify f : StreamM σ Unit) := by
  intro s r s' h
  obtain ⟨rfl, rfl⟩ := returns_modify.1 h
  exact ⟨hf s, by simp⟩

theorem calm_fail {e : StreamError} (he : e.interrupts = false) :
    Calm seen (fail e : StreamM σ α) := by
  intro s r s' h
  obtain ⟨rfl, rfl⟩ := returns_fail.1 h
  exact ⟨⟨rfl, rfl, rfl, rfl, rfl, rfl, rfl, rfl⟩, fun e' h' => by cases h'; exact he⟩

theorem calm_refuse : Calm seen (refuse : StreamM σ α) := by
  intro s r s' h
  obtain ⟨rfl, rfl⟩ := returns_refuse.1 h
  exact ⟨Steady.refl _ _, fun e h' => by cases h'; rfl⟩

theorem calm_parts : Calm seen (parts : StreamM σ Ring) := by
  intro s r s' h
  obtain ⟨rfl, (⟨-, -, -, rfl⟩ | rfl)⟩ := returns_parts h
  · exact ⟨Steady.refl _ _, by simp⟩
  · exact ⟨Steady.refl _ _, fun e h' => by cases h'; rfl⟩

theorem calm_lift {t : Trapping α} : Calm seen (monadLift t : StreamM σ α) := by
  intro s r s' h
  obtain ⟨a, -, rfl, rfl⟩ := returns_lift.1 h
  exact ⟨Steady.refl _ _, by simp⟩

theorem calm_ask {m : DeviceM σ α} (hm : Leaves seen m) : Calm seen (ask m) := by
  intro s r s' h
  obtain ⟨o, d, hrun, rfl, rfl⟩ := returns_ask.1 h
  exact ⟨⟨rfl, rfl, rfl, rfl, rfl, rfl, rfl, hm _ _ _ hrun⟩, by simp⟩

theorem leaves_sync {D : PcmDevice σ} (hs : ∀ q, Leaves seen (D.syncPtr q)) (flags : UInt32)
    (g : Ring) : Leaves seen (g.sync D flags) := by
  intro d o d' h
  cases g with
  | mapped => exact (returns_pure.1 h).2 ▸ rfl
  | synced q =>
    rcases returns_bind.1 h with ⟨e, -, h⟩ | ⟨q', d₁, h₁, h₂⟩
    · exact hs _ _ _ _ h
    · exact (returns_pure.1 h₂).2 ▸ hs _ _ _ _ h₁

theorem calm_syncRing {D : PcmDevice σ} (hs : ∀ q, Leaves seen (D.syncPtr q))
    (flags : UInt32) : Calm seen (syncRing D flags) := by
  unfold syncRing
  refine calm_bind calm_parts fun g => calm_bind (calm_ask (leaves_sync hs flags g)) fun o => ?_
  rcases o with e | g'
  · exact calm_pure _
  · exact calm_bind (calm_modify fun _ => ⟨rfl, rfl, rfl, rfl, rfl, rfl, rfl, rfl⟩) fun _ =>
      calm_pure _

theorem calm_prepare {D : PcmDevice σ} (hp : Leaves seen D.prepare)
    (hs : ∀ q, Leaves seen (D.syncPtr q)) : Calm seen (prepare D) := by
  unfold prepare
  refine calm_bind calm_parts fun _ => calm_bind (calm_ask hp) fun o => ?_
  rcases o with e | ⟨⟩
  · exact calm_fail rfl
  · refine calm_bind (calm_syncRing hs _) fun o => ?_
    rcases o with e | ⟨⟩
    · exact calm_fail rfl
    · exact calm_modify fun _ => ⟨rfl, rfl, rfl, rfl, rfl, rfl, rfl, rfl⟩

theorem calm_start {D : PcmDevice σ} (hp : Leaves seen D.prepare)
    (hs : ∀ q, Leaves seen (D.syncPtr q)) (ht : Leaves seen D.start) : Calm seen (start D) := by
  unfold start
  refine calm_bind calm_get fun _ => ?_
  dsimp only
  refine calm_join calm_refuse fun _ => calm_bind calm_get fun _ => ?_
  refine calm_join (calm_prepare hp hs) fun _ => ?_
  refine calm_bind calm_parts fun _ => calm_bind (calm_ask ht) fun o => ?_
  rcases o with e | ⟨⟩
  · exact calm_fail rfl
  · exact calm_modify fun _ => ⟨rfl, rfl, rfl, rfl, rfl, rfl, rfl, rfl⟩

end Calm

/-- The device request `m` answers from every state of the device. -/
def Answers (m : DeviceM σ α) : Prop := ∀ d, ∃ o d', Returns m d o d'

/-- `m` returns from every handle, without stopping the program. -/
def Finishes (m : StreamM σ α) : Prop := ∀ s, ∃ r s', Returns m s r s'

section Finishes

theorem finishes_pure (a : α) : Finishes (pure a : StreamM σ α) :=
  fun _ => ⟨_, _, returns_pure.2 ⟨rfl, rfl⟩⟩

theorem exists_returns_bind {x : StreamM σ α} {f : α → StreamM σ β} {s : PcmStream σ}
    (hx : ∃ r s₁, Returns x s r s₁) (hf : ∀ a s₁, Returns x s (.ok a) s₁ → ∃ r s', Returns (f a) s₁ r s') :
    ∃ r s', Returns (x >>= f) s r s' := by
  obtain ⟨r, s₁, h₁⟩ := hx
  rcases r with e | a
  · exact ⟨_, _, returns_bind.2 (.inl ⟨e, rfl, h₁⟩)⟩
  · obtain ⟨r, s', h₂⟩ := hf a s₁ h₁
    exact ⟨r, s', returns_bind.2 (.inr ⟨a, s₁, h₁, h₂⟩)⟩

theorem finishes_bind {x : StreamM σ α} {f : α → StreamM σ β} (hx : Finishes x)
    (hf : ∀ a, Finishes (f a)) : Finishes (x >>= f) :=
  fun s => exists_returns_bind (hx s) fun a s₁ _ => hf a s₁

theorem finishes_ite {c : Prop} [Decidable c] {x y : StreamM σ α} (hx : Finishes x)
    (hy : Finishes y) : Finishes (if c then x else y) := by
  split
  · exact hx
  · exact hy

theorem finishes_join {c : Prop} [Decidable c] {x : StreamM σ Unit} {k : Unit → StreamM σ α}
    (hx : Finishes x) (hk : ∀ u, Finishes (k u)) : Finishes (if c then x >>= k else k ()) :=
  finishes_ite (finishes_bind hx hk) (hk ())

theorem finishes_get : Finishes (get : StreamM σ (PcmStream σ)) :=
  fun _ => ⟨_, _, returns_get.2 ⟨rfl, rfl⟩⟩

theorem finishes_modify (f : PcmStream σ → PcmStream σ) : Finishes (modify f : StreamM σ Unit) :=
  fun _ => ⟨_, _, returns_modify.2 ⟨rfl, rfl⟩⟩

theorem finishes_fail (e : StreamError) : Finishes (fail e : StreamM σ α) :=
  fun _ => ⟨_, _, returns_fail.2 ⟨rfl, rfl⟩⟩

theorem finishes_refuse : Finishes (refuse : StreamM σ α) :=
  fun _ => ⟨_, _, returns_refuse.2 ⟨rfl, rfl⟩⟩

theorem finishes_lift {t : Trapping α} {a : α} (ht : t = .ok a) :
    Finishes (monadLift t : StreamM σ α) :=
  fun _ => ⟨_, _, returns_lift.2 ⟨a, ht, rfl, rfl⟩⟩

theorem finishes_parts : Finishes (parts : StreamM σ Ring) := by
  unfold parts
  refine finishes_bind finishes_get fun s => ?_
  split
  · exact finishes_pure _
  · exact finishes_refuse

theorem finishes_ask {m : DeviceM σ α} (hm : Answers m) : Finishes (ask m) := by
  intro s
  obtain ⟨o, d, h⟩ := hm s.driver
  exact ⟨_, _, returns_ask.2 ⟨o, d, h, rfl, rfl⟩⟩

variable {D : PcmDevice σ}

theorem answers_sync (hs : ∀ q, Answers (D.syncPtr q)) (flags : UInt32) (g : Ring) :
    Answers (g.sync D flags) := by
  intro d
  cases g with
  | mapped => exact ⟨_, _, returns_pure.2 ⟨rfl, rfl⟩⟩
  | synced q =>
    obtain ⟨o, d₁, h₁⟩ := hs _ d
    rcases o with e | q'
    · exact ⟨_, _, returns_bind.2 (.inl ⟨e, rfl, h₁⟩)⟩
    · exact ⟨_, _, returns_bind.2 (.inr ⟨q', d₁, h₁, returns_pure.2 ⟨rfl, rfl⟩⟩)⟩

theorem finishes_syncRing (hs : ∀ q, Answers (D.syncPtr q)) (flags : UInt32) :
    Finishes (syncRing D flags) := by
  unfold syncRing
  refine finishes_bind finishes_parts fun g =>
    finishes_bind (finishes_ask (answers_sync hs flags g)) fun o => ?_
  rcases o with e | g'
  · exact finishes_pure _
  · exact finishes_bind (finishes_modify _) fun _ => finishes_pure _

theorem finishes_prepare (hp : Answers D.prepare) (hs : ∀ q, Answers (D.syncPtr q)) :
    Finishes (prepare D) := by
  unfold prepare
  refine finishes_bind finishes_parts fun _ => finishes_bind (finishes_ask hp) fun o => ?_
  rcases o with e | ⟨⟩
  · exact finishes_fail _
  · refine finishes_bind (finishes_syncRing hs _) fun o => ?_
    rcases o with e | ⟨⟩
    · exact finishes_fail _
    · exact finishes_modify _

theorem finishes_start (hp : Answers D.prepare) (hs : ∀ q, Answers (D.syncPtr q))
    (ht : Answers D.start) : Finishes (start D) := by
  unfold start
  refine finishes_bind finishes_get fun _ => ?_
  dsimp only
  refine finishes_join finishes_refuse fun _ => finishes_bind finishes_get fun _ => ?_
  refine finishes_join (finishes_prepare hp hs) fun _ => ?_
  refine finishes_bind finishes_parts fun _ => finishes_bind (finishes_ask ht) fun o => ?_
  rcases o with e | ⟨⟩
  · exact finishes_fail _
  · exact finishes_modify _

end Finishes

/-- `m` returns from every handle whose count of xruns has room below 2^32 for `k` more, and
counts at most `k` of them. -/
def FinishesWithin (k : Nat) (m : StreamM σ α) : Prop :=
  ∀ s : PcmStream σ, s.underruns.toNat + k < 4294967296 →
    ∃ r s', Returns m s r s' ∧ s'.underruns.toNat ≤ s.underruns.toNat + k

section FinishesWithin

variable {k k' : Nat}

theorem FinishesWithin.mono {m : StreamM σ α} (hk : k ≤ k') (h : FinishesWithin k m) :
    FinishesWithin k' m := by
  intro s hs
  obtain ⟨r, s', hr, hu⟩ := h s (by omega)
  exact ⟨r, s', hr, by omega⟩

theorem finishesWithin_pure (a : α) : FinishesWithin k (pure a : StreamM σ α) :=
  fun _ _ => ⟨_, _, returns_pure.2 ⟨rfl, rfl⟩, Nat.le_add_right _ _⟩

theorem finishesWithin_fail (e : StreamError) : FinishesWithin k (fail e : StreamM σ α) :=
  fun _ _ => ⟨_, _, returns_fail.2 ⟨rfl, rfl⟩, Nat.le_add_right _ _⟩

theorem finishesWithin_calm_bind {x : StreamM σ α} {f : α → StreamM σ β} (hx : Finishes x)
    (hc : Calm (fun _ : σ => ()) x) (hf : ∀ a, FinishesWithin k (f a)) :
    FinishesWithin k (x >>= f) := by
  intro s hs
  obtain ⟨r, s₁, h₁⟩ := hx s
  have hu : s₁.underruns = s.underruns := (hc s r s₁ h₁).1.underruns
  rcases r with e | a
  · exact ⟨_, _, returns_bind.2 (.inl ⟨e, rfl, h₁⟩), by rw [hu]; omega⟩
  · obtain ⟨r, s', h₂, hu'⟩ := hf a s₁ (by rw [hu]; exact hs)
    exact ⟨r, s', returns_bind.2 (.inr ⟨a, s₁, h₁, h₂⟩), by rw [← hu]; exact hu'⟩

theorem finishesWithin_noteXrun_bind {f : Unit → StreamM σ β} (hk : k + 1 ≤ k')
    (hf : ∀ u, FinishesWithin k (f u)) : FinishesWithin k' (noteXrun >>= f) := by
  intro s hs
  have hroom : s.underruns.toNat + 1 < 4294967296 := by omega
  have hu := toNat_add_one_of_lt hroom
  obtain ⟨r, s', h₂, hu'⟩ :=
    hf () { s with underruns := s.underruns + 1, running := false, prepared := false }
      (by dsimp only; omega)
  refine ⟨r, s', returns_bind.2 (.inr ⟨(), _, noteXrun_returns hroom, h₂⟩), ?_⟩
  dsimp only at hu'
  omega

theorem finishesWithin_ite {c : Prop} [Decidable c] {x y : StreamM σ α}
    (hx : FinishesWithin k x) (hy : FinishesWithin k y) :
    FinishesWithin k (if c then x else y) := by
  split
  · exact hx
  · exact hy

theorem finishesWithin_calm_join {c : Prop} [Decidable c] {x : StreamM σ Unit}
    {f : Unit → StreamM σ α} (hx : Finishes x) (hc : Calm (fun _ : σ => ()) x)
    (hf : ∀ u, FinishesWithin k (f u)) : FinishesWithin k (if c then x >>= f else f ()) :=
  finishesWithin_ite (finishesWithin_calm_bind hx hc hf) (hf ())

end FinishesWithin

/-- Every value `m` returns satisfies `P`. -/
def Yields (P : α → Prop) (m : StreamM σ α) : Prop := ∀ s a s', Returns m s (.ok a) s' → P a

section Yields

variable {P : β → Prop}

theorem yields_pure {a : β} (ha : P a) : Yields P (pure a : StreamM σ β) := by
  intro s b s' h
  obtain ⟨⟨⟩, -⟩ := returns_pure.1 h
  exact ha

theorem yields_bind {Q : α → Prop} {x : StreamM σ α} {f : α → StreamM σ β} (hx : Yields Q x)
    (hf : ∀ a, Q a → Yields P (f a)) : Yields P (x >>= f) := by
  intro s b s' h
  obtain ⟨e, ⟨⟩, -⟩ | ⟨a, s₁, h₁, h₂⟩ := returns_bind.1 h
  exact hf a (hx s a s₁ h₁) s₁ b s' h₂

theorem yields_true (x : StreamM σ α) : Yields (fun _ => True) x := fun _ _ _ _ => trivial

theorem yields_ite {c : Prop} [Decidable c] {x y : StreamM σ β} (hx : Yields P x)
    (hy : Yields P y) : Yields P (if c then x else y) := by
  split
  · exact hx
  · exact hy

theorem yields_dite {c : Prop} [Decidable c] {x : c → StreamM σ β} {y : ¬c → StreamM σ β}
    (hx : ∀ h, Yields P (x h)) (hy : ∀ h, Yields P (y h)) : Yields P (dite c x y) := by
  split
  · exact hx _
  · exact hy _

theorem yields_join {c : Prop} [Decidable c] {x : StreamM σ Unit} {k : Unit → StreamM σ β}
    (hk : ∀ u, Yields P (k u)) : Yields P (if c then x >>= k else k ()) :=
  yields_ite (yields_bind (yields_true x) fun u _ => hk u) (hk ())

theorem yields_fail (e : StreamError) : Yields P (fail e : StreamM σ β) := by
  intro s b s' h
  cases (returns_fail.1 h).1

end Yields

/-- `m` never lowers the count of xruns, whatever it returns. -/
def Counts (m : StreamM σ α) : Prop :=
  ∀ s r s', Returns m s r s' → s.underruns.toNat ≤ s'.underruns.toNat

section Counts

theorem Calm.counts {seen : σ → γ} {m : StreamM σ α} (h : Calm seen m) : Counts m :=
  fun s r s' hr => (congrArg UInt32.toNat (h s r s' hr).1.underruns).ge

theorem counts_pure (a : α) : Counts (pure a : StreamM σ α) := by
  intro s r s' h
  rw [(returns_pure.1 h).2]

theorem counts_bind {x : StreamM σ α} {f : α → StreamM σ β} (hx : Counts x)
    (hf : ∀ a, Counts (f a)) : Counts (x >>= f) := by
  intro s r s' h
  rcases returns_bind.1 h with ⟨e, -, h₁⟩ | ⟨a, s₁, h₁, h₂⟩
  · exact hx s _ s' h₁
  · exact (hx s _ s₁ h₁).trans (hf a s₁ r s' h₂)

theorem counts_ite {c : Prop} [Decidable c] {x y : StreamM σ α} (hx : Counts x)
    (hy : Counts y) : Counts (if c then x else y) := by
  split
  · exact hx
  · exact hy

theorem counts_join {c : Prop} [Decidable c] {x : StreamM σ Unit} {k : Unit → StreamM σ α}
    (hx : Counts x) (hk : ∀ u, Counts (k u)) : Counts (if c then x >>= k else k ()) :=
  counts_ite (counts_bind hx hk) (hk ())

theorem counts_modify {f : PcmStream σ → PcmStream σ}
    (hf : ∀ s, s.underruns.toNat ≤ (f s).underruns.toNat) : Counts (modify f : StreamM σ Unit) := by
  intro s r s' h
  rw [(returns_modify.1 h).2]
  exact hf s

theorem counts_fail (e : StreamError) : Counts (fail e : StreamM σ α) := by
  intro s r s' h
  rw [(returns_fail.1 h).2]

theorem counts_throw (e : StreamError) : Counts (throw e : StreamM σ α) := by
  intro s r s' h
  rw [(returns_throw.1 h).2]

theorem counts_noteXrun : Counts (noteXrun : StreamM σ Unit) := by
  intro s r s' h
  obtain ⟨-, hroom, rfl⟩ := returns_noteXrun h
  rw [toNat_add_one_of_lt hroom]
  exact Nat.le_succ _

theorem counts_ask (m : DeviceM σ α) : Counts (ask m) := by
  intro s r s' h
  obtain ⟨o, d, -, -, rfl⟩ := returns_ask.1 h
  exact le_rfl

theorem leaves_unit (m : DeviceM σ α) : Leaves (fun _ => ()) m :=
  fun _ _ _ _ => rfl

end Counts

end PcmStream

end SoundCard.Pcm
