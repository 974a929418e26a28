import Mathlib
import SoundCard.Proofs.TransferCall
/-! Sizes in bytes and milliseconds that a stream computes in words, and where they overflow. -/
namespace SoundCard.Pcm

open SoundCard.Os

namespace PcmStream

variable {σ : Type} {s : PcmStream σ} {capture : Bool} {len frames : Nat}

theorem checkTransfer_stops (hready : s.isReady = true) (hdir : s.isCapture = capture)
    (hover : wordRange ≤ frames * s.frameBytes) {r : Except StreamError Unit} {s' : PcmStream σ} :
    ¬Returns (checkTransfer capture len frames) s r s' := by
  intro h
  unfold checkTransfer at h
  obtain ⟨e, -, hg⟩ | ⟨a, s₀, hg, h⟩ := returns_bind.1 h
  · cases (returns_get.1 hg).1
  obtain ⟨⟨⟩, rfl⟩ := returns_get.1 hg
  simp only [hready, hdir, Bool.not_true, Bool.false_eq_true, if_false, bne_self_eq_false] at h
  obtain ⟨e, -, hx⟩ | ⟨x, s₁, hx, -⟩ := returns_bind.1 h
  all_goals
    obtain ⟨y, hmul, -, -⟩ := returns_lift.1 hx
    have := (framesToBytes_eq_ok.1 hmul).1
    omega

/-- The check returns exactly when it does not reach a size in bytes that overflows: the
handle is not ready, goes the other way, or the frames' bytes fit a word. -/
theorem checkTransfer_returns_iff :
    (∃ r s', Returns (checkTransfer capture len frames) s r s') ↔
      ¬(s.isReady = true ∧ s.isCapture = capture ∧ wordRange ≤ frames * s.frameBytes) := by
  constructor
  · rintro ⟨r, s', h⟩ ⟨hready, hdir, hover⟩
    exact checkTransfer_stops hready hdir hover h
  · intro hno
    by_cases hready : s.isReady = true
    · by_cases hdir : s.isCapture = capture
      · have hfit : ¬wordRange ≤ frames * s.frameBytes := fun h => hno ⟨hready, hdir, h⟩
        exact checkTransfer_returns (by omega)
      · unfold checkTransfer
        refine exists_returns_bind (finishes_get s) fun a s₁ hg => ?_
        obtain ⟨⟨⟩, rfl⟩ := returns_get.1 hg
        rw [if_neg (by simp [hready]), if_pos (bne_iff_ne.2 fun h => hdir h.symm)]
        exact exists_returns_bind (finishes_fail _ _) fun a s₂ hf => by cases (returns_fail.1 hf).1
    · unfold checkTransfer
      refine exists_returns_bind (finishes_get s) fun a s₁ hg => ?_
      obtain ⟨⟨⟩, rfl⟩ := returns_get.1 hg
      rw [if_pos (by simpa using hready)]
      exact exists_returns_bind (finishes_refuse _) fun a s₂ hf => by cases (returns_refuse.1 hf).1

/-- The mapped path's wait: ten times the buffer's length in milliseconds, clamped to
`[100, 2^31 - 1]`, when both products fit a word; the program stops otherwise. -/
theorem mmapWaitTimeout_eq :
    s.mmapWaitTimeout =
      if s.bufferSize.toNat * 1000 < wordRange ∧
          s.bufferSize.toNat * 1000 / max s.config.rate.toNat 1 * 10 < wordRange then
        .ok (min (max (s.bufferSize.toNat * 1000 / max s.config.rate.toNat 1 * 10 : Nat) 100)
          2147483647)
      else .error .mulOverflow := by
  unfold mmapWaitTimeout
  simp only [mulWord]
  by_cases h₁ : s.bufferSize.toNat * 1000 < wordRange
  · by_cases h₂ : s.bufferSize.toNat * 1000 / max s.config.rate.toNat 1 * 10 < wordRange
    · simp only [h₁, h₂, if_true, and_self, pure_bind]
      rfl
    · simp [h₁, h₂, halt]
  · simp only [h₁, if_false, false_and, halt]
    rfl

theorem mmapWaitTimeout_bounds {t : Int} (h : s.mmapWaitTimeout = .ok t) :
    100 ≤ t ∧ t ≤ 2147483647 := by
  rw [mmapWaitTimeout_eq] at h
  split at h
  · cases h
    omega
  · cases h

end PcmStream

variable {σ : Type}

/-- A transfer's check admits a call only when its bytes fit a word and the buffer; the mapped
wait lies in `[100, 2^31 - 1]` ms and stops the program exactly when a product overflows. -/
theorem transfer_sizes_fit_words (s : PcmStream σ) (capture : Bool) (len frames : Nat) :
    (∀ u s', Returns (PcmStream.checkTransfer capture len frames) s (.ok u) s' →
        frames * s.frameBytes < wordRange ∧ frames * s.frameBytes ≤ len) ∧
    ((∃ r s', Returns (PcmStream.checkTransfer capture len frames) s r s') ↔
        ¬(s.isReady = true ∧ s.isCapture = capture ∧ wordRange ≤ frames * s.frameBytes)) ∧
    (s.mmapWaitTimeout = .error .mulOverflow ↔
        wordRange ≤ s.bufferSize.toNat * 1000 ∨
          wordRange ≤ s.bufferSize.toNat * 1000 / max s.config.rate.toNat 1 * 10) ∧
    ∀ t, s.mmapWaitTimeout = .ok t → 100 ≤ t ∧ t ≤ 2147483647 := by
  refine ⟨fun u s' h => ?_, PcmStream.checkTransfer_returns_iff, ?_,
    fun t ht => PcmStream.mmapWaitTimeout_bounds ht⟩
  · obtain ⟨-, hready, hdir, hlen⟩ := PcmStream.checkTransfer_ok h
    have hfit : ¬wordRange ≤ frames * s.frameBytes := fun hover =>
      PcmStream.checkTransfer_returns_iff.1 ⟨_, _, h⟩ ⟨hready, hdir, hover⟩
    exact ⟨by omega, hlen⟩
  · rw [PcmStream.mmapWaitTimeout_eq]
    split
    · rename_i hfit
      simp only [reduceCtorEq, false_iff, not_or, not_le]
      exact hfit
    · rename_i hover
      simp only [true_iff]
      omega

end SoundCard.Pcm
