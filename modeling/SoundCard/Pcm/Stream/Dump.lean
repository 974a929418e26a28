import SoundCard.Pcm.Stream.Basic
import SoundCard.Text.Quote
/-! The structure dumps of a configuration and of a stream handle: the type name, then the
fields in declaration order as `name: value`, between braces. -/
namespace SoundCard.Pcm

/-- The dump of a configuration. -/
def StreamConfig.debugText (c : StreamConfig) : String :=
  Text.dumpFields "StreamConfig"
    [("channels", toString c.channels.toNat), ("rate", toString c.rate.toNat),
     ("period_size", toString c.periodSize.toNat),
     ("period_count", toString c.periodCount.toNat), ("format", c.format.debugName),
     ("start_threshold", toString c.startThreshold.toNat),
     ("stop_threshold", toString c.stopThreshold.toNat),
     ("silence_threshold", toString c.silenceThreshold.toNat),
     ("silence_size", toString c.silenceSize.toNat), ("avail_min", toString c.availMin.toNat)]

/-- The dump of a stream handle: where it is, how it was opened and configured, its flags
and the quoted text of its last failure. -/
def PcmStream.debugText {σ : Type} (s : PcmStream σ) : String :=
  Text.dumpFields "Pcm"
    [("card", toString s.card.toNat), ("device", toString s.device.toNat),
     ("flags", s.flags.debugText), ("config", s.config.debugText),
     ("ready", toString s.isReady), ("prepared", toString s.prepared),
     ("running", toString s.running), ("underruns", toString s.underruns),
     ("error", Text.quote s.error)]

end SoundCard.Pcm
