/-! The states a stream's device reports, by their kernel codes 0 to 8. -/
namespace SoundCard.Pcm

/-- A device state. A code outside 0..8 is kept as it is. -/
inductive PcmState where
  | opened | setup | prepared | running | xrun | draining | paused | suspended
  | disconnected
  | unknown (code : Int)
  deriving DecidableEq, Repr, Inhabited

namespace PcmState

/-- The state with a kernel code. -/
def ofRaw (n : Int) : PcmState :=
  match n with
  | 0 => .opened | 1 => .setup | 2 => .prepared | 3 => .running | 4 => .xrun
  | 5 => .draining | 6 => .paused | 7 => .suspended | 8 => .disconnected
  | n => .unknown n

/-- The kernel code. -/
def toRaw : PcmState → Int
  | .opened => 0 | .setup => 1 | .prepared => 2 | .running => 3 | .xrun => 4
  | .draining => 5 | .paused => 6 | .suspended => 7 | .disconnected => 8
  | .unknown n => n

/-- The state's name; an unknown code reads `Unknown(n)`. -/
def name : PcmState → String
  | .opened => "Open" | .setup => "Setup" | .prepared => "Prepared" | .running => "Running"
  | .xrun => "Xrun" | .draining => "Draining" | .paused => "Paused"
  | .suspended => "Suspended" | .disconnected => "Disconnected"
  | .unknown n => s!"Unknown({n})"

/-- The state with a name, as written by `name` for the nine known states. -/
def ofName? (s : String) : Option PcmState :=
  [PcmState.opened, .setup, .prepared, .running, .xrun, .draining, .paused, .suspended,
   .disconnected].find? (·.name == s)

end PcmState

end SoundCard.Pcm
