import SoundCard.Pcm.Format
/-! The stream configuration an application asks for: channels, rate, period geometry,
sample format and the software thresholds. A zero threshold means "the whole buffer". -/
namespace SoundCard.Pcm

/-- A requested stream configuration. -/
structure StreamConfig where
  channels : UInt32 := 2
  rate : UInt32 := 48000
  periodSize : UInt32 := 1024
  periodCount : UInt32 := 4
  format : SampleFormat := .s16le
  startThreshold : UInt64 := 0
  stopThreshold : UInt64 := 0
  silenceThreshold : UInt64 := 0
  silenceSize : UInt64 := 0
  availMin : UInt64 := 0
  deriving DecidableEq, Repr, Inhabited

/-- Why a configuration is refused before any device is asked. -/
inductive ConfigProblem where
  | noChannels
  | noRate
  | noBuffer (periodSize periodCount : Nat)
  | bufferTooLarge (frames : Nat)
  deriving DecidableEq, Repr

/-- The text of a configuration problem. -/
def ConfigProblem.text : ConfigProblem → String
  | .noChannels => "channels must be non-zero"
  | .noRate => "rate must be non-zero"
  | .noBuffer ps pc => s!"period_size {ps} x period_count {pc} leaves no buffer"
  | .bufferTooLarge n => s!"buffer of {n} frames is too large"

/-- The largest buffer a stream may have, in frames: the largest positive 32-bit signed
value. -/
def maxBufferFrames : Nat := 2147483647

namespace StreamConfig

def bufferSize (c : StreamConfig) : Nat := c.periodSize.toNat * c.periodCount.toNat

def frameBytes (c : StreamConfig) : Nat := c.format.bytesPerSample * c.channels.toNat

def effectiveStartThreshold (c : StreamConfig) : Nat :=
  if c.startThreshold = 0 then c.bufferSize else c.startThreshold.toNat

def effectiveStopThreshold (c : StreamConfig) : Nat :=
  if c.stopThreshold = 0 then c.bufferSize else c.stopThreshold.toNat

def effectiveAvailMin (c : StreamConfig) : Nat := max c.availMin.toNat 1

/-- The first problem of a configuration, checked in a fixed order. -/
def problem? (c : StreamConfig) : Option ConfigProblem :=
  if c.channels = 0 then some .noChannels
  else if c.rate = 0 then some .noRate
  else if c.periodSize = 0 ∨ c.periodCount = 0 then
    some (.noBuffer c.periodSize.toNat c.periodCount.toNat)
  else if c.bufferSize > maxBufferFrames then some (.bufferTooLarge c.bufferSize)
  else none

end StreamConfig

end SoundCard.Pcm
