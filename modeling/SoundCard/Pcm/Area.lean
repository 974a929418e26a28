/-! Copies between a buffer and the mapped data area, a ring of bytes that a copy enters at its
offset modulo the length and wraps around. -/
namespace SoundCard.Pcm

/-- Writes `src` into `area` from byte `offset`, wrapping at the end; answers the new area and
the bytes copied, `min src.size area.size`. -/
def areaWrite (area : ByteArray) (offset : Nat) (src : ByteArray) : ByteArray × Nat :=
  let total := area.size
  if total = 0 ∨ src.size = 0 then (area, 0)
  else
    let start := offset % total
    let length := min src.size total
    let first := min (total - start) length
    let area := src.copySlice 0 area start first
    let area := src.copySlice first area 0 (length - first)
    (area, length)

/-- Reads `area` from byte `offset` into `dst`, wrapping at the end; answers the new buffer and
the bytes copied, `min dst.size area.size`. -/
def areaRead (area : ByteArray) (offset : Nat) (dst : ByteArray) : ByteArray × Nat :=
  let total := area.size
  if total = 0 ∨ dst.size = 0 then (dst, 0)
  else
    let start := offset % total
    let length := min dst.size total
    let first := min (total - start) length
    let dst := area.copySlice start dst 0 first
    let dst := area.copySlice 0 dst first (length - first)
    (dst, length)

end SoundCard.Pcm
