import SoundCard.Os.Trap
/-! Stream pointers: frame counts that wrap at the boundary, and the free space read from them
in checked 64-bit arithmetic. -/
namespace SoundCard.Pcm

open SoundCard.Os

/-- The largest positive 32-bit signed value, the ceiling for boundaries. -/
def boundaryLimit : Nat := 2147483647

/-- Doubles `b` while twice it stays within the limit less one buffer. -/
def growBoundary (bs b : Nat) (hb : 0 < b) : Nat :=
  if 2 * b ≤ boundaryLimit - bs then growBoundary bs (2 * b) (by omega) else b
termination_by 4294967296 - b
decreasing_by
  have : 2 * b ≤ 2147483647 := by
    rename_i h
    exact Nat.le_trans h (by unfold boundaryLimit; omega)
  omega

/-- The wrap point of the pointers for a buffer of `bs` frames; 0 for no buffer. -/
def computeBoundary (bs : Nat) : Nat :=
  if h : bs = 0 then 0 else growBoundary bs bs (by omega)

/-- The wrap point as 64-bit arithmetic finds it: doubling the buffer does not fit a word from
2^63 frames on. -/
def boundaryOf (bs : Nat) : Trapping Nat :=
  if bs ≠ 0 ∧ 2 * bs ≥ wordRange then halt .mulOverflow else pure (computeBoundary bs)

/-- Free frames from unwrapped pointers, or `none` when the pointers are inconsistent
(the result would be negative or beyond 64 bits). -/
def rawAvail (playback : Bool) (hw appl bs : Nat) : Option Nat :=
  let avail : Int := if playback then (hw : Int) + bs - appl else (hw : Int) - appl
  if 0 ≤ avail ∧ avail < 18446744073709551616 then some avail.toNat else none

/-- Free frames from pointers taken modulo the boundary, in checked 64-bit arithmetic; 0 when
the boundary is 0. -/
def wrappedAvail (playback : Bool) (hwPtr applPtr bs boundary : UInt64) : Trapping UInt64 := do
  if boundary = 0 then return 0
  let hw := hwPtr % boundary
  let appl := applPtr % boundary
  if playback then
    let avail ← addU64 hw bs
    let avail ← if avail < appl then addU64 avail boundary else pure avail
    let avail := avail - appl
    return if avail ≥ boundary then avail - boundary else avail
  else if hw ≥ appl then return hw - appl
  else return (← addU64 hw boundary) - appl

end SoundCard.Pcm
