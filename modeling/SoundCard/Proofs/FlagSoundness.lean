import Mathlib
import SoundCard.Proofs.DeviceStates
import SoundCard.Proofs.StoredError
/-! The flags of a stream as a sound picture of its virtual device (`SoundFlags`), carried
through runs by `Keeps`. -/
namespace SoundCard.Virtual

open SoundCard.Pcm SoundCard.Os PcmStream

/-- The handle's flags are a sound picture of the virtual device behind it. -/
structure SoundFlags (s : PcmStream VirtualPcm) : Prop where
  prepared_of_running : s.running = true → s.prepared = true
  idle : s.prepared = true → s.running = false → s.driver.state = .prepared
  live : s.running = true → s.driver.state = .prepared ∨ s.driver.state = .running
  started : s.running = true → s.isCapture = true ∨ s.flags.mmap = true →
    s.driver.state = .running

namespace SoundFlags

variable {s s' : PcmStream VirtualPcm}

theorem of_stopped (hp : s.prepared = false) (hr : s.running = false) : SoundFlags s :=
  ⟨by simp [hr], by simp [hp], by simp [hr], by simp [hr]⟩

theorem congr (hs : SoundFlags s) (hp : s'.prepared = s.prepared) (hr : s'.running = s.running)
    (hf : s'.flags = s.flags) (hst : s'.driver.state = s.driver.state) : SoundFlags s' := by
  have hc : s'.isCapture = s.isCapture := by unfold isCapture; rw [hf]
  refine ⟨fun h => ?_, fun h₁ h₂ => ?_, fun h => ?_, fun h₁ h₂ => ?_⟩
  · rw [hp]; exact hs.prepared_of_running (hr ▸ h)
  · rw [hst]; exact hs.idle (hp ▸ h₁) (hr ▸ h₂)
  · rw [hst]; exact hs.live (hr ▸ h)
  · rw [hst]; exact hs.started (hr ▸ h₁) (by rwa [hc, hf] at h₂)

theorem of_idle (hr : s.running = false) (hst : s.driver.state = .prepared) : SoundFlags s :=
  ⟨by simp [hr], fun _ _ => hst, by simp [hr], by simp [hr]⟩

theorem of_started (hp : s.prepared = true) (hr : s.running = true)
    (hst : s.driver.state = .running) : SoundFlags s :=
  ⟨fun _ => hp, by simp [hr], fun _ => .inr hst, fun _ _ => hst⟩

theorem of_playing (hp : s.prepared = true) (hr : s.running = true)
    (hst : s.driver.state = .prepared ∨ s.driver.state = .running) (hc : s.isCapture = false)
    (hm : s.flags.mmap = false) : SoundFlags s :=
  ⟨fun _ => hp, by simp [hr], fun _ => hst, fun _ h => by simp [hc, hm] at h⟩

theorem of_driver (hs : SoundFlags s) {d : VirtualPcm} (hst : d.state = s.driver.state) :
    SoundFlags { s with driver := d } :=
  hs.congr rfl rfl rfl hst

theorem ready_state (hs : SoundFlags s) (h : s.running = true ∨ s.prepared = true) :
    s.driver.state = .prepared ∨ s.driver.state = .running := by
  cases hr : s.running
  · rw [hr] at h
    exact .inl (hs.idle (by simpa using h) hr)
  · exact hs.live hr

end SoundFlags

/-- A result that is not the device's refusal of a request for the state it is in. -/
def Accepted {α : Type} (r : Except StreamError α) : Prop :=
  ∀ ctx, r ≠ .error (.driver ctx (.os Errno.badState))

theorem accepted_ok {α : Type} (a : α) : Accepted (.ok a : Except StreamError α) :=
  fun _ h => by cases h

/-- Every return of `m` from `s` keeps the flags sound, the device unfailing and the mode,
and is not a refusal for the state. -/
def KeepsFrom {α : Type} (m : StreamM VirtualPcm α) (s : PcmStream VirtualPcm) : Prop :=
  ∀ r s', Returns m s r s' →
    SoundFlags s' ∧ s'.driver.Unfailing ∧ s'.flags = s.flags ∧ Accepted r

/-- `m` keeps sound flags over an unfailing device from every handle opened with the flags
`fl`. -/
def Keeps {α : Type} (fl : OpenFlags) (m : StreamM VirtualPcm α) : Prop :=
  ∀ s, s.flags = fl → SoundFlags s → s.driver.Unfailing → KeepsFrom m s

/-- `m` keeps sound flags over an unfailing device from every handle, whatever it answers. -/
def Upholds {α : Type} (m : StreamM VirtualPcm α) : Prop :=
  ∀ s, SoundFlags s → s.driver.Unfailing → ∀ r s', Returns m s r s' →
    SoundFlags s' ∧ s'.driver.Unfailing ∧ s'.flags = s.flags

theorem Keeps.upholds {α : Type} {m : StreamM VirtualPcm α} (hm : ∀ fl, Keeps fl m) :
    Upholds m := by
  intro s hs hu r s' h
  obtain ⟨hs', hu', hf', -⟩ := hm s.flags s rfl hs hu r s' h
  exact ⟨hs', hu', hf'⟩

section Keeps

variable {α β : Type} {fl : OpenFlags} {s : PcmStream VirtualPcm}

/-! ### From one handle -/

theorem keepsFrom_bind {x : StreamM VirtualPcm α} {f : α → StreamM VirtualPcm β}
    (hx : KeepsFrom x s) (hf : ∀ a s₁, Returns x s (.ok a) s₁ → KeepsFrom (f a) s₁) :
    KeepsFrom (x >>= f) s := by
  intro r s' h
  rcases returns_bind.1 h with ⟨e, rfl, h₁⟩ | ⟨a, s₁, h₁, h₂⟩
  · obtain ⟨hs, hu, hf', he⟩ := hx _ s' h₁
    exact ⟨hs, hu, hf', fun ctx h' => he ctx (by cases h'; rfl)⟩
  · obtain ⟨-, -, hf₁, -⟩ := hx _ s₁ h₁
    obtain ⟨hs, hu, hf₂, he⟩ := hf a s₁ h₁ r s' h₂
    exact ⟨hs, hu, hf₂.trans hf₁, he⟩

theorem keepsFrom_bind_keeps {x : StreamM VirtualPcm α} {f : α → StreamM VirtualPcm β}
    (hx : KeepsFrom x s) (hfl : s.flags = fl) (hf : ∀ a, Keeps fl (f a)) :
    KeepsFrom (x >>= f) s := by
  refine keepsFrom_bind hx fun a s₁ h₁ => ?_
  obtain ⟨hs₁, hu₁, hf₁, -⟩ := hx _ s₁ h₁
  exact hf a s₁ (hf₁.trans hfl) hs₁ hu₁

theorem keepsFrom_modify {f : PcmStream VirtualPcm → PcmStream VirtualPcm}
    (hs : SoundFlags (f s)) (hu : (f s).driver.Unfailing) (hfl : (f s).flags = s.flags) :
    KeepsFrom (modify f : StreamM VirtualPcm Unit) s := by
  intro r s' h
  obtain ⟨rfl, rfl⟩ := returns_modify.1 h
  exact ⟨hs, hu, hfl, accepted_ok _⟩

theorem keepsFrom_stopped {f : PcmStream VirtualPcm → PcmStream VirtualPcm}
    (hf : ∀ s, (f s).prepared = false ∧ (f s).running = false ∧ (f s).flags = s.flags ∧
      (f s).driver = s.driver) (hu : s.driver.Unfailing) :
    KeepsFrom (modify f : StreamM VirtualPcm Unit) s := by
  obtain ⟨hp, hr, hfl, hd⟩ := hf s
  exact keepsFrom_modify (SoundFlags.of_stopped hp hr) (by rw [hd]; exact hu) hfl

theorem keepsFrom_ask_bind {m : VirtualM α} {f : Except IoError α → StreamM VirtualPcm β}
    (hf : ∀ o d, Returns m s.driver o d → KeepsFrom (f o) { s with driver := d }) :
    KeepsFrom (ask m >>= f) s := by
  intro r s' h
  obtain ⟨o, d, hd, h⟩ := returns_ask_bind.1 h
  exact hf o d hd r s' h

/-! ### From every handle -/

theorem keeps_bind {x : StreamM VirtualPcm α} {f : α → StreamM VirtualPcm β} (hx : Keeps fl x)
    (hf : ∀ a, Keeps fl (f a)) : Keeps fl (x >>= f) :=
  fun s hfl hs hu => keepsFrom_bind_keeps (hx s hfl hs hu) hfl hf

theorem keeps_pure (a : α) : Keeps fl (pure a : StreamM VirtualPcm α) := by
  intro s _ hs hu r s' h
  obtain ⟨rfl, rfl⟩ := returns_pure.1 h
  exact ⟨hs, hu, rfl, accepted_ok a⟩

theorem keeps_ite {c : Prop} [Decidable c] {x y : StreamM VirtualPcm α} (hx : Keeps fl x)
    (hy : Keeps fl y) : Keeps fl (if c then x else y) := by
  split
  · exact hx
  · exact hy

theorem keeps_dite {c : Prop} [Decidable c] {x : c → StreamM VirtualPcm α}
    {y : ¬c → StreamM VirtualPcm α} (hx : ∀ h, Keeps fl (x h)) (hy : ∀ h, Keeps fl (y h)) :
    Keeps fl (dite c x y) := by
  split
  · exact hx _
  · exact hy _

theorem keeps_join {c : Prop} [Decidable c] {x : StreamM VirtualPcm Unit}
    {k : Unit → StreamM VirtualPcm α} (hx : Keeps fl x) (hk : ∀ u, Keeps fl (k u)) :
    Keeps fl (if c then x >>= k else k ()) :=
  keeps_ite (keeps_bind hx hk) (hk ())

theorem keeps_get_bind {f : PcmStream VirtualPcm → StreamM VirtualPcm β}
    (hf : ∀ s, s.flags = fl → SoundFlags s → s.driver.Unfailing → KeepsFrom (f s) s) :
    Keeps fl (get >>= f) :=
  fun s hfl hs hu r s' h => hf s hfl hs hu r s' (returns_get_bind.1 h)

theorem keeps_get : Keeps fl (get : StreamM VirtualPcm (PcmStream VirtualPcm)) := by
  rw [← bind_pure get]
  exact keeps_get_bind fun s hfl hs hu => keeps_pure s s hfl hs hu

theorem keeps_modify {f : PcmStream VirtualPcm → PcmStream VirtualPcm}
    (hf : ∀ s, SoundFlags s → s.driver.Unfailing →
      SoundFlags (f s) ∧ (f s).driver.Unfailing ∧ (f s).flags = s.flags) :
    Keeps fl (modify f : StreamM VirtualPcm Unit) := by
  intro s _ hs hu
  obtain ⟨hs', hu', hfl'⟩ := hf s hs hu
  exact keepsFrom_modify hs' hu' hfl'

theorem keeps_modify_of {f : PcmStream VirtualPcm → PcmStream VirtualPcm}
    (hf : ∀ s, (f s).prepared = s.prepared ∧ (f s).running = s.running ∧
      (f s).flags = s.flags ∧ (f s).driver = s.driver) :
    Keeps fl (modify f : StreamM VirtualPcm Unit) := by
  refine keeps_modify fun s hs hu => ?_
  obtain ⟨hp, hr, hfl, hd⟩ := hf s
  exact ⟨hs.congr hp hr hfl (by rw [hd]), by rw [hd]; exact hu, hfl⟩

theorem keeps_fail {e : StreamError} (he : ∀ ctx, e ≠ .driver ctx (.os Errno.badState)) :
    Keeps fl (fail e : StreamM VirtualPcm α) := by
  intro s _ hs hu r s' h
  obtain ⟨rfl, rfl⟩ := returns_fail.1 h
  exact ⟨hs.congr rfl rfl rfl rfl, hu, rfl, fun ctx h' => he ctx (by cases h'; rfl)⟩

theorem keeps_throw {e : StreamError} (he : ∀ ctx, e ≠ .driver ctx (.os Errno.badState)) :
    Keeps fl (throw e : StreamM VirtualPcm α) := by
  intro s _ hs hu r s' h
  obtain ⟨rfl, rfl⟩ := returns_throw.1 h
  exact ⟨hs, hu, rfl, fun ctx h' => he ctx (by cases h'; rfl)⟩

theorem keeps_refuse : Keeps fl (refuse : StreamM VirtualPcm α) := by
  intro s _ hs hu r s' h
  obtain ⟨rfl, rfl⟩ := returns_refuse.1 h
  exact ⟨hs, hu, rfl, fun ctx h' => by cases h'⟩

theorem keeps_parts : Keeps fl (parts : StreamM VirtualPcm Ring) := by
  intro s _ hs hu r s' h
  obtain ⟨rfl, (⟨-, g, -, rfl⟩ | rfl)⟩ := returns_parts h
  · exact ⟨hs, hu, rfl, accepted_ok g⟩
  · exact ⟨hs, hu, rfl, fun ctx h' => by cases h'⟩

theorem keeps_lift {t : Trapping α} : Keeps fl (monadLift t : StreamM VirtualPcm α) := by
  intro s _ hs hu r s' h
  obtain ⟨a, -, rfl, rfl⟩ := returns_lift.1 h
  exact ⟨hs, hu, rfl, accepted_ok a⟩

theorem keeps_ask_bind {m : VirtualM α} {f : Except IoError α → StreamM VirtualPcm β}
    (hm : VirtualM.Polite m) (hf : ∀ o, o ≠ .error (.os Errno.badState) → Keeps fl (f o)) :
    Keeps fl (ask m >>= f) := by
  intro s hfl hs hu
  refine keepsFrom_ask_bind fun o d hd => ?_
  obtain ⟨hst, hfa, ho⟩ := hm _ o d hu hd
  exact hf o ho _ hfl (hs.of_driver hst) (hu.of_failures hfa)

theorem keeps_attempt_bind {m : StreamM VirtualPcm α}
    {k : Except StreamError α → StreamM VirtualPcm β}
    (hm : Keeps fl m) (hk : ∀ o, Accepted o → Keeps fl (k o)) : Keeps fl (attempt m >>= k) := by
  intro s hfl hs hu r s' h
  rcases returns_bind.1 h with ⟨e, rfl, h₁⟩ | ⟨o', s₁, h₁, h₂⟩
  · obtain ⟨o, ho, -⟩ := returns_attempt.1 h₁
    cases ho
  · obtain ⟨o, ho, h₁⟩ := returns_attempt.1 h₁
    cases ho
    obtain ⟨hs₁, hu₁, hf₁, he₁⟩ := hm s hfl hs hu _ s₁ h₁
    obtain ⟨hs', hu', hf', he'⟩ := hk _ he₁ s₁ (hf₁.trans hfl) hs₁ hu₁ r s' h₂
    exact ⟨hs', hu', hf'.trans hf₁, he'⟩

theorem keeps_discard {m : StreamM VirtualPcm α} (hm : Keeps fl m) : Keeps fl (discard m) := by
  intro s hfl hs hu r s' h
  rcases returns_discard.1 h with ⟨e, rfl, h₁⟩ | ⟨rfl, a, h₁⟩
  · obtain ⟨hs', hu', hf', he⟩ := hm s hfl hs hu _ s' h₁
    exact ⟨hs', hu', hf', fun ctx h' => he ctx (by cases h'; rfl)⟩
  · obtain ⟨hs', hu', hf', -⟩ := hm s hfl hs hu _ s' h₁
    exact ⟨hs', hu', hf', accepted_ok _⟩

end Keeps

/-! ## Synchronisation, preparation, starting and stopping -/

section Requests

variable {α β : Type} {fl : OpenFlags} {s s' : PcmStream VirtualPcm}

theorem driver_ne_refusal {e : IoError} (he : e ≠ .os Errno.badState) (ctx : String) :
    ∀ ctx', StreamError.driver ctx e ≠ .driver ctx' (.os Errno.badState) :=
  fun _ h => he (by cases h; rfl)

theorem ne_refusal_of_error {e : IoError}
    (ho : (.error e : Except IoError α) ≠ .error (.os Errno.badState)) :
    e ≠ .os Errno.badState :=
  fun h => ho (by rw [h])

theorem ne_os_of_is {e : IoError} {n : Int} (h : e.is n = false) : e ≠ .os n := by
  rintro rfl
  simp [IoError.is, IoError.code?] at h

theorem polite_sync (flags : UInt32) (g : Ring) :
    VirtualM.Polite (g.sync VirtualPcm.driver flags) := by
  intro v o v' hv h
  cases g with
  | mapped =>
    obtain ⟨rfl, rfl⟩ := returns_pure.1 h
    exact ⟨rfl, rfl, fun h => by cases h⟩
  | synced q =>
    dsimp only [Ring.sync] at h
    rcases returns_bind.1 h with ⟨e, rfl, h₁⟩ | ⟨q', w, h₁, h₂⟩
    · obtain ⟨hst, hf, hne⟩ := VirtualM.polite_syncPtr _ v _ v' hv h₁
      exact ⟨hst, hf, fun he => hne (by cases he; rfl)⟩
    · obtain ⟨rfl, rfl⟩ := returns_pure.1 h₂
      obtain ⟨hst, hf, -⟩ := VirtualM.polite_syncPtr _ v _ _ hv h₁
      exact ⟨hst, hf, fun h => by cases h⟩

/-- Synchronising the ring leaves the flags, the mode and the device's state and failures as
they were, and answers no refusal for the state, as a failure or as the device's outcome. -/
theorem syncRing_frame {flags : UInt32} {r : Except StreamError (Except IoError Unit)}
    (hu : s.driver.Unfailing) (h : Returns (syncRing VirtualPcm.driver flags) s r s') :
    s'.prepared = s.prepared ∧ s'.running = s.running ∧ s'.flags = s.flags ∧
      s'.driver.state = s.driver.state ∧ s'.driver.failures = s.driver.failures ∧
      Accepted r ∧ r ≠ .ok (.error (.os Errno.badState)) := by
  unfold syncRing at h
  rcases returns_bind.1 h with ⟨e, rfl, hp⟩ | ⟨g, s₁, hp, h₁⟩
  · obtain ⟨rfl, ⟨-, g, -, hg⟩ | he⟩ := returns_parts hp
    · cases hg
    · cases he
      exact ⟨rfl, rfl, rfl, rfl, rfl, fun ctx h' => (by cases h'), fun h => by cases h⟩
  obtain ⟨rfl, -⟩ := returns_parts hp
  obtain ⟨o, d, hd, h₂⟩ := returns_ask_bind.1 h₁
  obtain ⟨hst, hfa, ho⟩ := polite_sync flags g _ o d hu hd
  rcases o with e | g'
  · obtain ⟨rfl, rfl⟩ := returns_pure.1 h₂
    exact ⟨rfl, rfl, rfl, hst, hfa, accepted_ok _, fun h' => ho (by cases h'; rfl)⟩
  · rw [returns_modify_bind, returns_pure] at h₂
    obtain ⟨rfl, rfl⟩ := h₂
    exact ⟨rfl, rfl, rfl, hst, hfa, accepted_ok _, fun h => by cases h⟩

theorem keeps_syncRing_bind {flags : UInt32} {f : Except IoError Unit → StreamM VirtualPcm β}
    (hf : ∀ o, o ≠ .error (.os Errno.badState) → Keeps fl (f o)) :
    Keeps fl (syncRing VirtualPcm.driver flags >>= f) := by
  intro s hfl hs hu r s' h
  rcases returns_bind.1 h with ⟨e, rfl, h₁⟩ | ⟨o, s₁, h₁, h₂⟩
  · obtain ⟨hp, hr, hfl', hst, hfa, he, -⟩ := syncRing_frame hu h₁
    exact ⟨hs.congr hp hr hfl' hst, hu.of_failures hfa, hfl',
      fun ctx h' => he ctx (by cases h'; rfl)⟩
  · obtain ⟨hp, hr, hfl', hst, hfa, -, ho⟩ := syncRing_frame hu h₁
    obtain ⟨hs', hu', hf', he⟩ := hf o (fun h' => ho (by rw [h'])) s₁ (hfl'.trans hfl)
      (hs.congr hp hr hfl' hst) (hu.of_failures hfa) r s' h₂
    exact ⟨hs', hu', hf'.trans hfl', he⟩

/-- A synchronisation that does not ask the device to move its pointer succeeds on a ready
handle over an unfailing device. -/
theorem syncRing_ok {flags : UInt32} {r : Except StreamError (Except IoError Unit)}
    (hu : s.driver.Unfailing) (hready : s.isReady = true) (hq : flags &&& SyncFlag.hwsync = 0)
    (h : Returns (syncRing VirtualPcm.driver flags) s r s') : r = .ok (.ok ()) := by
  obtain ⟨ha, g, hg⟩ := isReady_iff.1 hready
  unfold syncRing at h
  rw [returns_parts_bind ha hg, returns_ask_bind] at h
  obtain ⟨o, d, hd, h⟩ := h
  obtain ⟨g', rfl⟩ : ∃ g', o = .ok g' := by
    cases g with
    | mapped => exact ⟨_, (returns_pure.1 hd).1⟩
    | synced q =>
      dsimp only [Ring.sync] at hd
      rcases returns_bind.1 hd with ⟨e, rfl, hd₁⟩ | ⟨q', w, -, hd₁⟩
      · obtain ⟨q', hq'⟩ := VirtualM.syncPtr_ok (q := { q with flags := flags }) hu hq hd₁
        cases hq'
      · exact ⟨_, (returns_pure.1 hd₁).1⟩
  rw [returns_modify_bind] at h
  exact (returns_pure.1 h).1

theorem prepare_flags {D : PcmDevice VirtualPcm} (h : Returns (prepare D) s (.ok ()) s') :
    s'.prepared = true ∧ s'.running = false := by
  unfold prepare at h
  rcases returns_bind.1 h with ⟨e, he, -⟩ | ⟨g, s₁, -, h⟩
  · cases he
  obtain ⟨o, d, -, h⟩ := returns_ask_bind.1 h
  rcases o with e | ⟨⟩
  · cases (returns_fail.1 h).1
  rcases returns_bind.1 h with ⟨e, he, -⟩ | ⟨o, s₂, -, h⟩
  · cases he
  rcases o with e | ⟨⟩
  · cases (returns_fail.1 h).1
  obtain ⟨-, rfl⟩ := returns_modify.1 h
  exact ⟨rfl, rfl⟩

/-- Preparing an unfailing device always succeeds once the handle is ready: the device is
prepared and the pointers taken back, and the handle is prepared and idle. -/
theorem keeps_prepare : Keeps fl (prepare VirtualPcm.driver) := by
  intro s hfl hs hu
  unfold prepare
  refine keepsFrom_bind (keeps_parts s hfl hs hu) fun g s₁ hp => ?_
  obtain ⟨rfl, ⟨ha, g', hg, -⟩ | hr⟩ := returns_parts hp
  swap
  · cases hr
  intro r s' h
  obtain ⟨o, d, hd, h⟩ := returns_ask_bind.1 h
  obtain ⟨rfl, hst, hfl⟩ := VirtualM.prepare_spec hu hd
  have hu₁ : d.Unfailing := hu.of_failures hfl
  have hready : ({ s₁ with driver := d } : PcmStream VirtualPcm).isReady = true :=
    isReady_iff.2 ⟨ha, g', hg⟩
  dsimp only at h
  rcases returns_bind.1 h with ⟨e, rfl, hsync⟩ | ⟨o', s₂, hsync, h⟩
  · cases syncRing_ok hu₁ hready (by decide) hsync
  cases syncRing_ok hu₁ hready (by decide) hsync
  obtain ⟨-, -, hfl₂, hst₂, hfa₂, -⟩ := syncRing_frame hu₁ hsync
  obtain ⟨rfl, rfl⟩ := returns_modify.1 h
  exact ⟨SoundFlags.of_idle rfl (hst₂.trans hst), hu₁.of_failures hfa₂, hfl₂, accepted_ok _⟩

theorem returns_start_of_unready {D : PcmDevice VirtualPcm} {r : Except StreamError Unit}
    (hready : s.isReady = false) (h : Returns (start D) s r s') :
    r = .error (.notReady s.error) ∧ s' = s := by
  unfold start at h
  rw [returns_get_bind] at h
  dsimp only at h
  rw [if_pos (by simp [hready])] at h
  rcases returns_bind.1 h with ⟨e, rfl, h₁⟩ | ⟨u, s₁, h₁, -⟩
  · obtain ⟨he, rfl⟩ := returns_refuse.1 h₁
    exact ⟨he ▸ rfl, rfl⟩
  · cases (returns_refuse.1 h₁).1

/-- Starting a ready handle that is not prepared prepares it first, and then starts it as
the prepared handle it has become. -/
theorem returns_start_of_unprepared {D : PcmDevice VirtualPcm} {r : Except StreamError Unit}
    (hready : s.isReady = true) (hp : s.prepared = false) (h : Returns (start D) s r s') :
    (∃ e, r = .error e ∧ Returns (prepare D) s (.error e) s') ∨
      ∃ s₁, Returns (prepare D) s (.ok ()) s₁ ∧ Returns (start D) s₁ r s' := by
  unfold start at h
  rw [returns_get_bind] at h
  dsimp only at h
  rw [if_neg (by simp [hready]), returns_get_bind, if_pos (by simp [hp])] at h
  rcases returns_bind.1 h with ⟨e, rfl, h₁⟩ | ⟨u, s₁, h₁, h₂⟩
  · exact .inl ⟨e, rfl, h₁⟩
  refine .inr ⟨s₁, h₁, ?_⟩
  have hready₁ := (stores_prepare D s hready _ _ h₁).1
  unfold start
  rw [returns_get_bind]
  dsimp only
  rw [if_neg (by simp [hready₁]), returns_get_bind, if_neg (by simp [(prepare_flags h₁).1])]
  exact h₂

/-- Starting a ready, prepared handle asks the device to start: the handle runs when the
device starts, and keeps the device's failure otherwise. -/
theorem returns_start_of_prepared {D : PcmDevice VirtualPcm} {r : Except StreamError Unit}
    (hready : s.isReady = true) (hp : s.prepared = true) (h : Returns (start D) s r s') :
    ∃ o d, Returns D.start s.driver o d ∧
      (o = .ok () → r = .ok () ∧ s' = { s with driver := d, running := true }) ∧
      (∀ e, o = .error e → r = .error (.driver "cannot start channel" e) ∧
        s' = { s with
          driver := d, error := (StreamError.driver "cannot start channel" e).stored }) := by
  obtain ⟨ha, g, hg⟩ := isReady_iff.1 hready
  unfold start at h
  rw [returns_get_bind] at h
  dsimp only at h
  rw [if_neg (by simp [hready]), returns_get_bind, if_neg (by simp [hp]), returns_parts_bind ha hg,
    returns_ask_bind] at h
  obtain ⟨o, d, hd, h⟩ := h
  refine ⟨o, d, hd, fun ho => ?_, fun e he => ?_⟩
  · subst ho
    obtain ⟨rfl, rfl⟩ := returns_modify.1 h
    exact ⟨rfl, rfl⟩
  · subst he
    exact returns_fail.1 h

/-- A start that succeeds leaves the handle running. -/
theorem running_of_start {D : PcmDevice VirtualPcm} (h : Returns (start D) s (.ok ()) s') :
    s'.running = true := by
  cases hready : s.isReady
  · cases (returns_start_of_unready hready h).1
  cases hp : s.prepared
  · rcases returns_start_of_unprepared hready hp h with ⟨e, he, -⟩ | ⟨s₁, h₁, h₂⟩
    · cases he
    obtain ⟨o, d, -, hok, herr⟩ :=
      returns_start_of_prepared (stores_prepare D s hready _ _ h₁).1 (prepare_flags h₁).1 h₂
    rcases o with e | ⟨⟩
    · cases (herr e rfl).1
    · rw [(hok rfl).2]
  · obtain ⟨o, d, -, hok, herr⟩ := returns_start_of_prepared hready hp h
    rcases o with e | ⟨⟩
    · cases (herr e rfl).1
    · rw [(hok rfl).2]

theorem start_request_keeps {r : Except StreamError Unit} (hs : SoundFlags s)
    (hu : s.driver.Unfailing) (hready : s.isReady = true) (hp : s.prepared = true)
    (h : Returns (start VirtualPcm.driver) s r s') :
    SoundFlags s' ∧ s'.driver.Unfailing ∧ s'.flags = s.flags ∧
      (s.driver.state = .prepared → Accepted r) := by
  obtain ⟨o, d, hd, hok, herr⟩ := returns_start_of_prepared hready hp h
  obtain ⟨hfa, hprep, hnot⟩ := VirtualM.start_spec hu hd
  by_cases hst : s.driver.state = .prepared
  · obtain ⟨rfl, hst'⟩ := hprep hst
    obtain ⟨rfl, rfl⟩ := hok rfl
    exact ⟨SoundFlags.of_started hp rfl hst', hu.of_failures hfa, rfl, fun _ => accepted_ok _⟩
  · obtain ⟨rfl, hst'⟩ := hnot hst
    obtain ⟨rfl, rfl⟩ := herr _ rfl
    exact ⟨hs.congr rfl rfl rfl hst', hu.of_failures hfa, rfl, fun h' => absurd h' hst⟩

/-- Starting keeps sound flags sound, whatever the device answers, and a handle that does
not run is started without a refusal for the state. -/
theorem start_keeps {r : Except StreamError Unit} (hs : SoundFlags s) (hu : s.driver.Unfailing)
    (h : Returns (start VirtualPcm.driver) s r s') :
    SoundFlags s' ∧ s'.driver.Unfailing ∧ s'.flags = s.flags ∧
      (s.running = false → Accepted r) := by
  cases hready : s.isReady
  · obtain ⟨rfl, rfl⟩ := returns_start_of_unready hready h
    exact ⟨hs, hu, rfl, fun _ ctx h' => by cases h'⟩
  cases hp : s.prepared
  · rcases returns_start_of_unprepared hready hp h with ⟨e, rfl, h₁⟩ | ⟨s₁, h₁, h₂⟩
    · obtain ⟨hs', hu', hf', he⟩ := keeps_prepare s rfl hs hu _ _ h₁
      exact ⟨hs', hu', hf', fun _ => he⟩
    obtain ⟨hs₁, hu₁, hf₁, -⟩ := keeps_prepare s rfl hs hu _ _ h₁
    obtain ⟨hp₁, hr₁⟩ := prepare_flags h₁
    obtain ⟨hs', hu', hf', he⟩ :=
      start_request_keeps hs₁ hu₁ (stores_prepare _ s hready _ _ h₁).1 hp₁ h₂
    exact ⟨hs', hu', hf'.trans hf₁, fun _ => he (hs₁.idle hp₁ hr₁)⟩
  · obtain ⟨hs', hu', hf', he⟩ := start_request_keeps hs hu hready hp h
    exact ⟨hs', hu', hf', fun hr => he (hs.idle hp hr)⟩

theorem upholds_start : Upholds (start VirtualPcm.driver) := by
  intro s hs hu r s' h
  obtain ⟨hs', hu', hf', -⟩ := start_keeps hs hu h
  exact ⟨hs', hu', hf'⟩

theorem keepsFrom_start (hs : SoundFlags s) (hu : s.driver.Unfailing) (hr : s.running = false) :
    KeepsFrom (start VirtualPcm.driver) s := by
  intro r s' h
  obtain ⟨hs', hu', hf', he⟩ := start_keeps hs hu h
  exact ⟨hs', hu', hf', he hr⟩

theorem keepsFrom_join_start {c : Prop} [Decidable c] {k : Unit → StreamM VirtualPcm α}
    (hs : SoundFlags s) (hu : s.driver.Unfailing) (hc : c → s.running = false)
    (hk : ∀ s₁, s₁.flags = s.flags → SoundFlags s₁ → s₁.driver.Unfailing →
      s₁.running = true ∨ (¬c ∧ s₁ = s) → KeepsFrom (k ()) s₁) :
    KeepsFrom (if c then start VirtualPcm.driver >>= k else k ()) s := by
  split
  · next h =>
    refine keepsFrom_bind (keepsFrom_start hs hu (hc h)) fun _ s₁ h₁ => ?_
    obtain ⟨hs₁, hu₁, hf₁, -⟩ := keepsFrom_start hs hu (hc h) _ _ h₁
    exact hk s₁ hf₁ hs₁ hu₁ (.inl (running_of_start h₁))
  · next h => exact hk s rfl hs hu (.inr ⟨h, rfl⟩)

/-- A preparation that the code makes only on a handle that neither runs nor is prepared,
before the rest of a block; the rest goes on from a prepared handle. -/
theorem keepsFrom_join_prepare {k : Unit → StreamM VirtualPcm α} (hs : SoundFlags s)
    (hu : s.driver.Unfailing)
    (hk : ∀ s₁, s₁.flags = s.flags → SoundFlags s₁ → s₁.driver.Unfailing →
      s₁.prepared = true → KeepsFrom (k ()) s₁) :
    KeepsFrom (if (!s.running && !s.prepared) = true then prepare VirtualPcm.driver >>= k
      else k ()) s := by
  split
  · refine keepsFrom_bind (keeps_prepare s rfl hs hu) fun _ s₁ h₁ => ?_
    obtain ⟨hs₁, hu₁, hf₁, -⟩ := keeps_prepare s rfl hs hu _ _ h₁
    exact hk s₁ hf₁ hs₁ hu₁ (prepare_flags h₁).1
  · next h =>
    have hp : s.prepared = true := by
      cases hr : s.running
      · simpa [hr] using h
      · exact hs.prepared_of_running hr
    exact hk s rfl hs hu hp

theorem keeps_halt {m : VirtualM Unit} {k : Except IoError Unit → StreamM VirtualPcm Unit}
    (hm : ∀ v o v', v.Unfailing → Returns m v o v' → o = .ok () ∧ v'.failures = v.failures)
    (hk : ∀ s, s.driver.Unfailing → KeepsFrom (k (.ok ())) s) :
    Keeps fl (parts >>= fun _ => ask m >>= k) := by
  intro s hfl hs hu
  refine keepsFrom_bind (keeps_parts s hfl hs hu) fun _ s₁ hp => ?_
  obtain ⟨rfl, -⟩ := returns_parts hp
  refine keepsFrom_ask_bind fun o d hd => ?_
  obtain ⟨rfl, hfa⟩ := hm _ o d hu hd
  exact hk _ (hu.of_failures hfa)

theorem keeps_stop : Keeps fl (stop VirtualPcm.driver) := by
  unfold stop
  refine keeps_halt (fun v o v' hv h => ?_) fun s hu =>
    keepsFrom_stopped (fun _ => ⟨rfl, rfl, rfl, rfl⟩) hu
  obtain ⟨ho, -, hfa⟩ := VirtualM.stop_spec hv h
  exact ⟨ho, hfa⟩

theorem keeps_drain : Keeps fl (drain VirtualPcm.driver) := by
  unfold drain
  refine keeps_halt (fun v o v' hv h => ?_) fun s hu =>
    keepsFrom_stopped (fun _ => ⟨rfl, rfl, rfl, rfl⟩) hu
  obtain ⟨ho, -, hfa⟩ := VirtualM.drain_spec hv h
  exact ⟨ho, hfa⟩

end Requests

/-! ## Queries -/

section Queries

variable {α : Type} {fl : OpenFlags}

theorem keeps_readRing (f : VirtualPcm → Ring → α) : Keeps fl (readRing f) := by
  unfold readRing
  exact keeps_bind keeps_parts fun _ => keeps_bind keeps_get fun _ => keeps_pure _

theorem keeps_available : Keeps fl (available VirtualPcm.driver) := by
  unfold available
  refine keeps_bind keeps_parts fun _ => keeps_syncRing_bind fun o ho => ?_
  rcases o with e | ⟨⟩
  on_goal 1 =>
    refine keeps_bind (keeps_fail (driver_ne_refusal (ne_refusal_of_error ho) _)) fun _ => ?_
  all_goals
    refine keeps_bind keeps_get fun _ => keeps_bind (keeps_readRing _) fun _ =>
      keeps_bind (keeps_readRing _) fun _ => ?_
    split
    · exact keeps_pure _
    · exact keeps_fail fun _ h => by cases h

theorem keeps_htimestamp : Keeps fl (htimestamp VirtualPcm.driver) := by
  unfold htimestamp
  exact keeps_bind keeps_available fun _ => keeps_bind (keeps_readRing _) fun _ =>
    keeps_join (keeps_fail fun _ h => by cases h) fun _ => keeps_pure _

theorem keeps_delay : Keeps fl (delay VirtualPcm.driver) := by
  unfold delay
  refine keeps_bind keeps_parts fun _ => keeps_ask_bind VirtualM.polite_delay fun o ho => ?_
  rcases o with e | n
  · exact keeps_fail (driver_ne_refusal (ne_refusal_of_error ho) _)
  · exact keeps_pure _

theorem keeps_state : Keeps fl (state VirtualPcm.driver) := by
  unfold state
  refine keeps_bind keeps_parts fun _ => keeps_syncRing_bind fun o ho => ?_
  rcases o with e | ⟨⟩
  · exact keeps_bind (keeps_fail (driver_ne_refusal (ne_refusal_of_error ho) _)) fun _ =>
      keeps_bind (keeps_readRing _) fun _ => keeps_pure _
  · exact keeps_bind (keeps_readRing _) fun _ => keeps_pure _

theorem keeps_wait (t : Int) : Keeps fl (wait VirtualPcm.driver t) := by
  unfold wait
  refine keeps_bind keeps_parts fun _ => keeps_ask_bind (VirtualM.polite_wait t) fun o ho => ?_
  rcases o with e | b
  · refine keeps_ite (keeps_bind keeps_state fun st => keeps_fail fun ctx => ?_)
      (keeps_fail (driver_ne_refusal (ne_refusal_of_error ho) _))
    split
    · exact fun h => by cases h
    · exact driver_ne_refusal (by decide) _ ctx
    · exact driver_ne_refusal (by decide) _ ctx
    · exact driver_ne_refusal (ne_refusal_of_error ho) _ ctx
  · exact keeps_pure _

theorem keeps_link (peer : Option Int) : Keeps fl (link VirtualPcm.driver peer) := by
  unfold link
  rcases peer with _ | fd
  · exact keeps_fail fun _ h => by cases h
  · refine keeps_bind keeps_parts fun _ => keeps_ask_bind (VirtualM.polite_link fd) fun o ho => ?_
    rcases o with e | ⟨⟩
    · exact keeps_fail (driver_ne_refusal (ne_refusal_of_error ho) _)
    · exact keeps_pure _

theorem keeps_unlink : Keeps fl (unlink VirtualPcm.driver) := by
  unfold unlink
  refine keeps_bind keeps_parts fun _ => keeps_ask_bind VirtualM.polite_unlink fun o ho => ?_
  rcases o with e | ⟨⟩
  · exact keeps_fail (driver_ne_refusal (ne_refusal_of_error ho) _)
  · exact keeps_pure _

end Queries

end SoundCard.Virtual
