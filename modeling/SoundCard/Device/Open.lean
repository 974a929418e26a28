import SoundCard.Device.FileNode
import SoundCard.Pcm.Stream.Open
import SoundCard.Control.Mixer
/-! Opening devices by card and device number: the node is looked up in the sound
directory by its conventional name and opened as a file device. -/
namespace SoundCard.Device

open SoundCard.Os SoundCard.Pcm SoundCard.Hw SoundCard.Control

/-- Opens the stream node of a card's device, in the direction the flags give. -/
def openPcm (host : MapHost) (dir : Directory) (card device : UInt32) (flags : OpenFlags)
    (config : StreamConfig) : Trapping (PcmStream FileNode) :=
  let name := pcmNodeName card.toNat device.toNat (Direction.ofFlags flags)
  PcmStream.openAt (FileNode.pcmDevice host) false (dir.nodePath name) (dir.openFile name) card
    device flags config

/-- Opens a stream by its `hw:<card>[,<device>]` name. -/
def openPcmByName (host : MapHost) (dir : Directory) (name : String) (flags : OpenFlags)
    (config : StreamConfig) : Trapping (PcmStream FileNode) :=
  match parseHwName? name with
  | some (c, d) => openPcm host dir (UInt32.ofNat c) (UInt32.ofNat d) flags config
  | none => pure (PcmStream.notReadyOf default flags config
      (.invalidArgument s!"invalid pcm name '{name}'"))

/-- Everything a card's device can do in one direction, or nothing when its node cannot
be opened or refuses the query. -/
def deviceParams (host : MapHost) (dir : Directory) (card device : Nat) (d : Direction) :
    Trapping (Option HwParams) :=
  match dir.openFile (pcmNodeName card device d) with
  | .error _ => pure none
  | .ok f => do
    match ← (((FileNode.pcmDevice host).capabilities).run).run f with
    | (.ok p, _) => pure (some p)
    | (.error _, _) => pure none

def openMixer (dir : Directory) (card : Nat) : Except MixerError Mixer :=
  let name := controlNodeName card
  (Mixer.openAt FileNode.controlDevice (dir.nodePath name) (dir.openFile name)).1

end SoundCard.Device
