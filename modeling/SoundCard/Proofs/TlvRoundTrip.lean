import Mathlib
import SoundCard.Control.Tlv
/-! TLV buffers carry a payload unchanged. -/
namespace SoundCard.Control

/-- A payload of fewer than `2 ^ 32` bytes survives a round trip through a transfer buffer. -/
theorem tlvPayload_tlvFill (numid : UInt32) (p : List UInt8) (hp : p.length < 2 ^ 32) :
    (tlvBuffer numid p.length).length = 2 + (p.length + 3) / 4 ∧
    (tlvBuffer numid p.length).take 2 = [numid, UInt32.ofNat p.length] ∧
    tlvPayload (tlvFill (tlvBuffer numid p.length) p) = p ∧
    ∀ buf : List UInt32, tlvPayload buf = ((buf.drop 2).flatMap wordBytes).take
      (min (buf[1]?.getD 0).toNat (4 * (buf.length - 2))) := by
  refine ⟨by simp [tlvBuffer]; omega, by simp [tlvBuffer], ?_, ?_⟩
  · obtain ⟨z, hz⟩ := flatMap_padWord_chunks4 p
    rw [tlvFill_tlvBuffer]
    simp only [tlvPayload, List.getElem?_cons_succ, List.getElem?_cons_zero, Option.getD_some,
      List.drop_succ_cons, List.drop_zero]
    rw [flatMap_wordBytes_map_bytesWord _ fun c hc => length_le_of_mem_chunks4 hc, hz]
    exact List.take_left' (UInt32.toNat_ofNat_of_lt hp).symm
  · intro buf
    have hlen := length_flatMap_wordBytes (buf.drop 2)
    rw [List.length_drop] at hlen
    simp only [tlvPayload]
    rcases Nat.le_total (buf[1]?.getD 0).toNat (4 * (buf.length - 2)) with h | h
    · rw [Nat.min_eq_left h]
    · rw [Nat.min_eq_right h, List.take_of_length_le (by omega),
        List.take_of_length_le (by omega)]

/-- The six-byte payload of a fresh buffer for element 5 comes back unchanged. -/
theorem tlvPayload_tlvFill_six :
    [1, 2, 3, 4, 5, 6].length < 2 ^ 32 ∧
    ((tlvBuffer 5 [1, 2, 3, 4, 5, 6].length).length = 2 + ([1, 2, 3, 4, 5, 6].length + 3) / 4 ∧
    (tlvBuffer 5 [1, 2, 3, 4, 5, 6].length).take 2 = [5, UInt32.ofNat [1, 2, 3, 4, 5, 6].length] ∧
    tlvPayload (tlvFill (tlvBuffer 5 [1, 2, 3, 4, 5, 6].length) [1, 2, 3, 4, 5, 6]) =
      [1, 2, 3, 4, 5, 6] ∧
    ∀ buf : List UInt32, tlvPayload buf = ((buf.drop 2).flatMap wordBytes).take
      (min (buf[1]?.getD 0).toNat (4 * (buf.length - 2)))) :=
  ⟨by decide, tlvPayload_tlvFill 5 [1, 2, 3, 4, 5, 6] (by decide)⟩

end SoundCard.Control
