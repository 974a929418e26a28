import SoundCard.Hw.Mask
import SoundCard.Hw.Interval
import SoundCard.Pcm.Config
import SoundCard.Pcm.Flags
/-! The hardware-parameter record: three masks, twelve intervals and a few words, named by
their kernel index. -/
namespace SoundCard.Hw

open SoundCard.Pcm

/-- A hardware parameter. -/
inductive Param where
  | access | format | subformat
  | sampleBits | frameBits | channels | rate | periodTime | periodSize | periodBytes
  | periods | bufferTime | bufferSize | bufferBytes | tickTime
  deriving DecidableEq, Repr, Inhabited

namespace Param

def all : List Param :=
  [.access, .format, .subformat, .sampleBits, .frameBits, .channels, .rate, .periodTime,
   .periodSize, .periodBytes, .periods, .bufferTime, .bufferSize, .bufferBytes, .tickTime]

/-- The kernel index. -/
def index : Param → Nat
  | .access => 0 | .format => 1 | .subformat => 2
  | .sampleBits => 8 | .frameBits => 9 | .channels => 10 | .rate => 11
  | .periodTime => 12 | .periodSize => 13 | .periodBytes => 14 | .periods => 15
  | .bufferTime => 16 | .bufferSize => 17 | .bufferBytes => 18 | .tickTime => 19

def ofIndex? (n : Nat) : Option Param := all.find? (·.index == n)

def isMask (p : Param) : Bool := p.index ≤ 2

/-- The human-readable name. -/
def name : Param → String
  | .access => "Access" | .format => "Format" | .subformat => "Subformat"
  | .sampleBits => "Sample bits" | .frameBits => "Frame bits" | .channels => "Channels"
  | .rate => "Rate" | .periodTime => "Period time" | .periodSize => "Period size"
  | .periodBytes => "Period bytes" | .periods => "Period count"
  | .bufferTime => "Buffer time" | .bufferSize => "Buffer size"
  | .bufferBytes => "Buffer bytes" | .tickTime => "Tick time"

/-- The identifier a structure dump shows. -/
def debugName : Param → String
  | .access => "Access" | .format => "Format" | .subformat => "Subformat"
  | .sampleBits => "SampleBits" | .frameBits => "FrameBits" | .channels => "Channels"
  | .rate => "Rate" | .periodTime => "PeriodTime" | .periodSize => "PeriodSize"
  | .periodBytes => "PeriodBytes" | .periods => "Periods" | .bufferTime => "BufferTime"
  | .bufferSize => "BufferSize" | .bufferBytes => "BufferBytes" | .tickTime => "TickTime"

end Param

-- Access modes, as mask bits.
namespace Access
def mmapInterleaved : Nat := 0
def rwInterleaved : Nat := 3
/-- The name of an access bit. -/
def name? : Nat → Option String
  | 0 => some "MMAP_INTERLEAVED"
  | 1 => some "MMAP_NONINTERLEAVED"
  | 2 => some "MMAP_COMPLEX"
  | 3 => some "RW_INTERLEAVED"
  | 4 => some "RW_NONINTERLEAVED"
  | _ => none
end Access

def subformatStd : Nat := 0

def noPeriodWakeup : UInt32 := 4

/-- The hardware-parameter record. -/
structure HwParams where
  flags : UInt32
  masks : Vector Mask 3
  intervals : Vector Interval 12
  rmask : UInt32
  cmask : UInt32
  info : UInt32
  msbits : UInt32
  rateNum : UInt32
  rateDen : UInt32
  deriving DecidableEq, Repr, Inhabited

def satMul32 (a b : UInt32) : UInt32 :=
  if a.toNat * b.toNat ≥ 4294967296 then 0xFFFFFFFF else a * b

/-- Narrows one interval by another: clamps to its ends and takes its integer flag. -/
def Interval.narrowBy (i o : Interval) : Interval :=
  let j := i.clampTo o.min o.max
  { j with flags := j.flags ||| (o.flags &&& Interval.integer) }

namespace HwParams

def zeroed : HwParams :=
  ⟨0, Vector.replicate 3 Mask.empty, Vector.replicate 12 Interval.zero, 0, 0, 0, 0, 0, 0⟩

/-- The record that admits everything: full masks and intervals, every parameter asked
to be refined. -/
def any : HwParams :=
  { zeroed with masks := Vector.replicate 3 Mask.full,
                intervals := Vector.replicate 12 Interval.full,
                rmask := 0xFFFFFFFF, info := 0xFFFFFFFF }

def mask? (p : HwParams) (idx : Nat) : Option Mask :=
  if h : idx < 3 then some (p.masks.get ⟨idx, h⟩) else none

def interval? (p : HwParams) (idx : Nat) : Option Interval :=
  if h : 8 ≤ idx ∧ idx < 20 then some (p.intervals.get ⟨idx - 8, by omega⟩) else none

/-- Changes the mask at a kernel index; other indices leave the record alone. -/
def modifyMask (p : HwParams) (idx : Nat) (f : Mask → Mask) : HwParams :=
  if h : idx < 3 then { p with masks := p.masks.set idx (f (p.masks.get ⟨idx, h⟩)) } else p

/-- Changes the interval at a kernel index; other indices leave the record alone. -/
def modifyInterval (p : HwParams) (idx : Nat) (f : Interval → Interval) : HwParams :=
  if h : 8 ≤ idx ∧ idx < 20 then
    { p with intervals := p.intervals.set (idx - 8) (f (p.intervals.get ⟨idx - 8, by omega⟩)) }
  else p

def mask (p : HwParams) (q : Param) : Option Mask := p.mask? q.index

def interval (p : HwParams) (q : Param) : Option Interval := p.interval? q.index

def setMaskBit (p : HwParams) (q : Param) (bit : Nat) : HwParams :=
  p.modifyMask q.index (·.setOnly bit)

def setMin (p : HwParams) (q : Param) (v : UInt32) : HwParams :=
  p.modifyInterval q.index fun i => { i with min := v }

def setMax (p : HwParams) (q : Param) (v : UInt32) : HwParams :=
  p.modifyInterval q.index fun i => { i with max := v }

def setInt (p : HwParams) (q : Param) (v : UInt32) : HwParams :=
  p.modifyInterval q.index (·.setInteger v)

def min (p : HwParams) (q : Param) : UInt32 := ((p.interval q).map (·.min)).getD 0

def max (p : HwParams) (q : Param) : UInt32 := ((p.interval q).map (·.max)).getD 0

def single? (p : HwParams) (q : Param) : Option UInt32 := (p.interval q).bind (·.single?)

def isEmpty (p : HwParams) : Bool :=
  p.masks.toList.any (·.isEmpty) || p.intervals.toList.any (·.isEmpty)

/-- The request for a configuration: its access mode, format, least period size, and pinned
sample bits, frame bits, channels, period count and rate. -/
def ofConfig (c : StreamConfig) (fs : OpenFlags) : HwParams :=
  let access := if fs.mmap then Access.mmapInterleaved else Access.rwInterleaved
  let bits : UInt32 := UInt32.ofNat c.format.physicalBits
  let p := any
    |>.setMaskBit .access access
    |>.setMaskBit .format c.format.code
    |>.setMaskBit .subformat subformatStd
    |>.setMin .periodSize c.periodSize
    |>.setInt .sampleBits bits
    |>.setInt .frameBits (satMul32 bits c.channels)
    |>.setInt .channels c.channels
    |>.setInt .periods c.periodCount
    |>.setInt .rate c.rate
  if fs.noIrq then { p with flags := p.flags ||| noPeriodWakeup } else p

/-- Narrows every mask and interval by those of `o`; the other words stay. -/
def narrowTo (p o : HwParams) : HwParams :=
  { p with masks := Vector.zipWith Mask.inter p.masks o.masks,
           intervals := Vector.zipWith Interval.narrowBy p.intervals o.intervals }

/-- The formats the format mask admits, in code order. -/
def formats (p : HwParams) : List SampleFormat :=
  match p.mask .format with
  | some m => m.members.filterMap SampleFormat.ofCode?
  | none => []

/-- Whether the format mask admits a format. -/
def supportsFormat (p : HwParams) (f : SampleFormat) : Bool :=
  match p.mask .format with
  | some m => m.test f.code
  | none => false

/-- The name of a mask bit of a parameter. -/
def bitName? (q : Param) (bit : Nat) : Option String :=
  match q with
  | .access => Access.name? bit
  | .format => (SampleFormat.ofCode? bit).map SampleFormat.name
  | _ => if bit = subformatStd then some "STD" else none

def padLeft (s : String) (n : Nat) : String :=
  String.ofList (List.replicate (n - s.length) ' ') ++ s

/-- One line of the summary: a mask lists its named bits, an interval its ends. -/
def line (p : HwParams) (q : Param) : String :=
  match p.mask q with
  | some m =>
    padLeft q.name 12 ++ ":" ++
      String.join ((m.members.filterMap (bitName? q)).map (" " ++ ·)) ++ "\n"
  | none =>
    match p.interval q with
    | some i => padLeft q.name 12 ++ ":\tmin=" ++ toString i.min.toNat ++ "\t\tmax=" ++
        toString i.max.toNat ++ "\n"
    | none => ""

def summary (p : HwParams) : String := String.join (Param.all.map p.line)

end HwParams

end SoundCard.Hw
