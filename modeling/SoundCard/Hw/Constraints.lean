import SoundCard.Hw.Params
/-! What a device supports: refining narrows a request to it, and choosing refines and then
pins every parameter to one point. -/
namespace SoundCard.Hw

/-- A closed range of 32-bit values. -/
structure Range where
  min : UInt32
  max : UInt32
  deriving DecidableEq, Repr, Inhabited

/-- The capabilities of a device. `access` and `format` are bit sets of access modes and
format codes. -/
structure Constraints where
  access : UInt64
  format : UInt64
  bitWidth : Range
  channels : Range
  rate : Range
  periods : Range
  periodBytes : Range
  deriving DecidableEq, Repr, Inhabited

/-- A parameter record after the constraints, and whether every parameter kept a value. -/
structure Applied where
  params : HwParams
  admitted : Bool
  deriving DecidableEq, Repr

namespace Constraints

/-- The masks a device allows, by kernel index. -/
def allowedMasks (c : Constraints) : List (Nat × Mask) :=
  [(Param.access.index, Mask.ofBits64 c.access.toNat),
   (Param.format.index, Mask.ofBits64 c.format.toNat),
   (Param.subformat.index, Mask.ofBits64 (Nat.pow 2 subformatStd))]

def allowedRanges (c : Constraints) : List (Param × Range) :=
  [(.sampleBits, c.bitWidth), (.channels, c.channels), (.rate, c.rate),
   (.periods, c.periods), (.periodBytes, c.periodBytes)]

/-- Intersects the masks in order, stopping at the first that becomes empty. -/
def narrowMasks : List (Nat × Mask) → HwParams → Applied
  | [], p => ⟨p, true⟩
  | (idx, m) :: rest, p =>
    let p := p.modifyMask idx (·.inter m)
    match p.mask? idx with
    | some m' => if m'.isEmpty then ⟨p, false⟩ else narrowMasks rest p
    | none => narrowMasks rest p

/-- Clamps the period size so that one period's bytes lie in the allowed byte range,
when the frame size is pinned to at least one byte. -/
def clampPeriodSize (c : Constraints) (p : HwParams) : HwParams :=
  match p.single? .frameBits with
  | some fb =>
    if fb ≥ 8 then
      let frameBytes := fb / 8
      let lo := (c.periodBytes.min.toNat + frameBytes.toNat - 1) / frameBytes.toNat
      let hi := c.periodBytes.max / frameBytes
      p.modifyInterval Param.periodSize.index (·.clampTo (UInt32.ofNat lo) hi)
    else p
  | none => p

/-- Narrows a request to the supported space. -/
def refine (c : Constraints) (p : HwParams) : Applied :=
  let r := narrowMasks c.allowedMasks p
  if !r.admitted then r
  else
    let p := c.allowedRanges.foldl
      (fun p (q, rg) => p.modifyInterval q.index (·.clampTo rg.min rg.max)) r.params
    let p := c.clampPeriodSize p
    if p.intervals.toList.any (·.isEmpty) then ⟨p, false⟩
    else ⟨{ p with rmask := 0 }, true⟩

def pick (p : HwParams) (q : Param) : HwParams × UInt32 :=
  let v := p.min q
  (p.setInt q v, v)

/-- A time in microseconds for a number of frames, truncated to 32 bits. -/
def micros (frames rate : UInt32) : UInt32 :=
  UInt32.ofNat (frames.toNat * 1000000 / rate.toNat)

/-- Keeps only the lowest bit of the mask of `q`. -/
def keepLowestBit (p : HwParams) (q : Param) : HwParams :=
  match p.mask q with
  | some m => match m.first? with
    | some b => p.setMaskBit q b
    | none => p
  | none => p

def keepLowestBits (p : HwParams) : HwParams :=
  [Param.access, Param.format, Param.subformat].foldl keepLowestBit p

/-- Pins the least sample bits, channels, rate, period count and period size, and the
sizes and times that follow from them; refuses a rate, period size or period count of 0. -/
def pinLeast (p : HwParams) : Applied :=
  let (p, sampleBits) := pick p .sampleBits
  let (p, channels) := pick p .channels
  let (p, rate) := pick p .rate
  let (p, periods) := pick p .periods
  let (p, periodSize) := pick p .periodSize
  if rate = 0 ∨ periodSize = 0 ∨ periods = 0 then ⟨p, false⟩
  else
    let frameBits := satMul32 sampleBits channels
    let bufferSize := satMul32 periodSize periods
    let p := p
      |>.setInt .frameBits frameBits
      |>.setInt .periodBytes (satMul32 periodSize frameBits / 8)
      |>.setInt .bufferSize bufferSize
      |>.setInt .bufferBytes (satMul32 bufferSize frameBits / 8)
      |>.setInt .periodTime (micros periodSize rate)
      |>.setInt .bufferTime (micros bufferSize rate)
    ⟨{ p with rateNum := rate, rateDen := 1, msbits := sampleBits, cmask := 0 }, true⟩

/-- Refines, then pins every parameter to one point of the supported space. -/
def choose (c : Constraints) (p : HwParams) : Applied :=
  let r := c.refine p
  if !r.admitted then r else pinLeast (keepLowestBits r.params)

end Constraints

end SoundCard.Hw
