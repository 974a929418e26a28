import Mathlib
import SoundCard.Pcm.Error
import SoundCard.Control.Error
/-! Texts capped to a byte budget: the longest prefix that fits and ends on a character
boundary. -/
namespace SoundCard.Text

open String (utf8Len utf8Len_le_of_prefix)

section Fitting

variable {cs p : List Char} {budget : Nat}

theorem takeFitting_starts_list (cs : List Char) (budget : Nat) : takeFitting cs budget <+: cs := by
  fun_induction takeFitting cs budget with
  | case1 => exact List.nil_prefix
  | case2 c cs budget hfit ih => exact List.prefix_cons_inj c |>.2 ih
  | case3 c cs budget hfit => exact List.nil_prefix

theorem utf8Len_takeFitting_le (cs : List Char) (budget : Nat) :
    utf8Len (takeFitting cs budget) ≤ budget := by
  fun_induction takeFitting cs budget with
  | case1 => exact Nat.zero_le _
  | case2 c cs budget hfit ih =>
    rw [String.utf8Len_cons]
    omega
  | case3 c cs budget hfit => exact Nat.zero_le _

/-- Every prefix whose bytes fit the budget is a prefix of the kept characters. -/
theorem prefix_takeFitting (hp : p <+: cs) (hfit : utf8Len p ≤ budget) :
    p <+: takeFitting cs budget := by
  fun_induction takeFitting cs budget generalizing p with
  | case1 => exact hp
  | case2 c cs budget hc ih =>
    cases p with
    | nil => exact List.nil_prefix
    | cons d p =>
      obtain ⟨rfl, hp'⟩ := List.cons_prefix_cons.1 hp
      rw [String.utf8Len_cons] at hfit
      exact List.prefix_cons_inj d |>.2 (ih hp' (by omega))
  | case3 c cs budget hc =>
    cases p with
    | nil => exact List.nil_prefix
    | cons d p =>
      obtain ⟨rfl, -⟩ := List.cons_prefix_cons.1 hp
      rw [String.utf8Len_cons] at hfit
      omega

theorem takeFitting_of_le (h : utf8Len cs ≤ budget) : takeFitting cs budget = cs :=
  (takeFitting_starts_list cs budget).eq_of_length
    (le_antisymm (takeFitting_starts_list cs budget).length_le
      (prefix_takeFitting (List.prefix_refl cs) h).length_le)

theorem budget_le_utf8Len_takeFitting (h : budget < utf8Len cs) :
    budget ≤ utf8Len (takeFitting cs budget) + 3 := by
  fun_induction takeFitting cs budget with
  | case1 => exact absurd h (by simp)
  | case2 c cs budget hc ih =>
    rw [String.utf8Len_cons] at h ⊢
    have := ih (by omega)
    omega
  | case3 c cs budget hc =>
    have := c.utf8Size_le_four
    omega

end Fitting

/-! ## Capped texts -/

section Cap

variable {text : String} {max n : Nat}

@[simp] theorem toList_cap : (cap text max).toList = takeFitting text.toList max :=
  String.toList_ofList

theorem utf8ByteSize_cap :
    (cap text max).utf8ByteSize = utf8Len (takeFitting text.toList max) := by
  rw [← String.utf8Len_toList, toList_cap]

theorem isValid_iff_prefix :
    (⟨n⟩ : String.Pos.Raw).IsValid text ↔ ∃ p, p <+: text.toList ∧ n = utf8Len p := by
  rw [String.Pos.Raw.isValid_iff_exists_take_toList]
  constructor
  · rintro ⟨i, hi⟩
    refine ⟨text.toList.take i, List.take_prefix i _, ?_⟩
    rwa [← String.utf8ByteSize_ofList]
  · rintro ⟨p, hp, rfl⟩
    refine ⟨p.length, ?_⟩
    rw [String.utf8ByteSize_ofList, ← List.prefix_iff_eq_take.1 hp]

theorem cap_starts_text : (cap text max).toList <+: text.toList := by
  rw [toList_cap]
  exact takeFitting_starts_list _ _

theorem cap_isValid : (⟨(cap text max).utf8ByteSize⟩ : String.Pos.Raw).IsValid text :=
  isValid_iff_prefix.2 ⟨_, cap_starts_text, by rw [← String.utf8Len_toList]⟩

theorem utf8ByteSize_cap_le : (cap text max).utf8ByteSize ≤ max := by
  rw [utf8ByteSize_cap]
  exact utf8Len_takeFitting_le _ _

theorem le_utf8ByteSize_cap (hn : n ≤ max) (hvalid : (⟨n⟩ : String.Pos.Raw).IsValid text) :
    n ≤ (cap text max).utf8ByteSize := by
  obtain ⟨p, hp, rfl⟩ := isValid_iff_prefix.1 hvalid
  rw [utf8ByteSize_cap]
  exact utf8Len_le_of_prefix (prefix_takeFitting hp hn)

theorem cap_of_le (h : text.utf8ByteSize ≤ max) : cap text max = text := by
  rw [cap, takeFitting_of_le (by rwa [String.utf8Len_toList]), String.ofList_toList]

end Cap

/-- Capping keeps the longest prefix that fits the budget on a character boundary; stream error
texts and mixer argument errors are such caps, 128 bytes at most. -/
theorem cap_longest_boundary_prefix (text : String) (max : Nat) :
    (cap text max).toList <+: text.toList ∧
      (⟨(cap text max).utf8ByteSize⟩ : String.Pos.Raw).IsValid text ∧
      (cap text max).utf8ByteSize ≤ max ∧
      (∀ n ≤ max, (⟨n⟩ : String.Pos.Raw).IsValid text → n ≤ (cap text max).utf8ByteSize) ∧
      (text.utf8ByteSize ≤ max → cap text max = text) ∧
      (max < text.utf8ByteSize → max - 3 ≤ (cap text max).utf8ByteSize) ∧
      (∀ e : Pcm.StreamError,
        e.stored.toList <+: e.message.toList ∧ e.stored.utf8ByteSize ≤ Pcm.errorMax) ∧
      (∀ s : String, ∃ t, Control.MixerError.invalid s = .invalidArgument t ∧
        t.toList <+: s.toList ∧ t.utf8ByteSize ≤ Pcm.errorMax) := by
  refine ⟨cap_starts_text, cap_isValid, utf8ByteSize_cap_le, fun n hn hvalid =>
    le_utf8ByteSize_cap hn hvalid, cap_of_le, fun h => ?_,
    fun e => ⟨cap_starts_text, utf8ByteSize_cap_le⟩,
    fun s => ⟨cap s 128, rfl, cap_starts_text, utf8ByteSize_cap_le⟩⟩
  have hlong : max < utf8Len text.toList := by rwa [String.utf8Len_toList]
  have := budget_le_utf8Len_takeFitting hlong
  rw [utf8ByteSize_cap]
  omega

example : cap "aaé" 3 = "aa" := by decide

end SoundCard.Text
