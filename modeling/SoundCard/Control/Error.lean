import SoundCard.Os.Errno
import SoundCard.Text.Utf8
/-! Errors of the control registry, each a cause with one text and one error number. -/
namespace SoundCard.Control

open SoundCard.Os

/-- Why a registry operation failed. -/
inductive MixerError where
  /-- The card's control node could not be opened. -/
  | openFailed (path : String) (cause : IoError)
  /-- A request to the card failed while doing what `context` says. -/
  | driver (context : String) (cause : IoError)
  /-- The card reports fewer elements than the registry holds. -/
  | controlsRemoved (cached reported : Nat)
  | invalidArgument (what : String)
  deriving DecidableEq, Repr

namespace MixerError

/-- An invalid-argument error whose text is capped to 128 bytes. -/
def invalid (text : String) : MixerError := .invalidArgument (Text.cap text 128)

/-- The text of the error. -/
def message : MixerError → String
  | .openFailed p e => s!"cannot open mixer '{p}': {e.message}"
  | .driver ctx e => s!"{ctx}: {e.message}"
  | .controlsRemoved c r => s!"driver removed controls: {c} cached, {r} reported"
  | .invalidArgument s => s!"invalid argument: {s}"

/-- The error number. -/
def errno? : MixerError → Option Int
  | .openFailed _ e => e.code?
  | .driver _ e => e.code?
  | .controlsRemoved .. => some Errno.inputOutput
  | .invalidArgument _ => some Errno.invalid

/-- The name of the error's kind. -/
def kind : MixerError → String
  | .openFailed .. => "Open"
  | .driver .. => "Driver"
  | .controlsRemoved .. => "ControlsRemoved"
  | .invalidArgument _ => "InvalidArgument"

end MixerError

end SoundCard.Control
