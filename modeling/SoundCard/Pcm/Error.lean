import SoundCard.Os.Errno
import SoundCard.Hw.Params
import SoundCard.Text.Utf8
/-! Errors of the stream layer. Each is a cause with one text and one error number; a
stream keeps the text of its last failure, capped to `errorMax` bytes. -/
namespace SoundCard.Pcm

open SoundCard.Os SoundCard.Hw

/-- Why a stream operation failed. -/
inductive StreamError where
  /-- A device call failed while doing what `context` says. -/
  | driver (context : String) (cause : IoError)
  /-- The device refused the hardware configuration; `limits` is what it would accept. -/
  | config (context : String) (cause : IoError) (limits : Option HwParams)
  | invalidArgument (what : String)
  /-- The stream never opened, or lost its configuration; `what` is the stored text. -/
  | notReady (what : String)
  /-- An overrun or underrun that was not recovered. -/
  | xrun (context : String)
  | pointerFault (hwPtr applPtr : UInt64)
  | noTimestamp
  | wouldBlock (transferred : Nat)
  deriving DecidableEq, Repr, Inhabited

def errorMax : Nat := 128

namespace StreamError

/-- The text of the error. -/
def message : StreamError → String
  | .driver ctx e => s!"{ctx}: {e.message}"
  | .config ctx e _ => s!"{ctx}: {e.message}"
  | .invalidArgument s => s!"invalid argument: {s}"
  | .notReady s => s!"pcm not ready: {s}"
  | .xrun ctx => s!"{ctx}: broken pipe"
  | .pointerFault h a => s!"hw pointer fault: hw_ptr {h.toNat} appl_ptr {a.toNat}"
  | .noTimestamp => "no timestamp available yet"
  | .wouldBlock n => s!"operation would block after {n} frames"

/-- The error number the error reports. -/
def errno? : StreamError → Option Int
  | .driver _ e => e.code?
  | .config _ e _ => e.code?
  | .xrun _ => some Errno.brokenPipe
  | .wouldBlock _ => some Errno.again
  | .invalidArgument _ => some Errno.invalid
  | .notReady _ => some Errno.badState
  | .pointerFault _ _ => some Errno.fault
  | .noTimestamp => some Errno.noData

def limits? : StreamError → Option HwParams
  | .config _ _ l => l
  | _ => none

def stored (e : StreamError) : String := Text.cap e.message errorMax

/-- The name of the error's kind. -/
def kind : StreamError → String
  | .driver .. => "Driver"
  | .config .. => "Config"
  | .invalidArgument _ => "InvalidArgument"
  | .notReady _ => "NotReady"
  | .xrun _ => "Xrun"
  | .pointerFault .. => "PointerFault"
  | .noTimestamp => "NoTimestamp"
  | .wouldBlock _ => "WouldBlock"

def isXrun : StreamError → Bool
  | .xrun _ => true
  | _ => false

end StreamError

end SoundCard.Pcm
