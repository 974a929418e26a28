/-! Open flags and stream direction. A flag set is read from a 32-bit word by keeping the
known bits only; it is written as the names of its flags in a fixed order. -/
namespace SoundCard.Pcm

/-- One open flag. -/
inductive Flag where
  | capture
  | mmap
  | noIrq
  | noRestart
  | monotonic
  | nonBlock
  deriving DecidableEq, Repr

namespace Flag

def all : List Flag := [.capture, .mmap, .noIrq, .noRestart, .monotonic, .nonBlock]

/-- The flag's bit in the open word. -/
def bit : Flag → Nat
  | .capture => 0x10000000
  | .mmap => 0x1
  | .noIrq => 0x2
  | .noRestart => 0x4
  | .monotonic => 0x8
  | .nonBlock => 0x10

/-- The flag's name. -/
def name : Flag → String
  | .capture => "IN"
  | .mmap => "MMAP"
  | .noIrq => "NOIRQ"
  | .noRestart => "NORESTART"
  | .monotonic => "MONOTONIC"
  | .nonBlock => "NONBLOCK"

def ofName? (s : String) : Option Flag := all.find? (·.name == s)

end Flag

/-- The flags a stream is opened with. -/
structure OpenFlags where
  capture : Bool := false
  mmap : Bool := false
  noIrq : Bool := false
  noRestart : Bool := false
  monotonic : Bool := false
  nonBlock : Bool := false
  deriving DecidableEq, Repr, Inhabited

namespace OpenFlags

/-- Whether a flag is set. -/
def has (fs : OpenFlags) : Flag → Bool
  | .capture => fs.capture
  | .mmap => fs.mmap
  | .noIrq => fs.noIrq
  | .noRestart => fs.noRestart
  | .monotonic => fs.monotonic
  | .nonBlock => fs.nonBlock

/-- The set with one more flag. -/
def insert (fs : OpenFlags) : Flag → OpenFlags
  | .capture => { fs with capture := true }
  | .mmap => { fs with mmap := true }
  | .noIrq => { fs with noIrq := true }
  | .noRestart => { fs with noRestart := true }
  | .monotonic => { fs with monotonic := true }
  | .nonBlock => { fs with nonBlock := true }

def ofList (xs : List Flag) : OpenFlags := xs.foldl insert {}

/-- The flags whose bits are set in `w`; unknown bits are dropped. -/
def ofBits (w : Nat) : OpenFlags := ofList (Flag.all.filter fun f => w &&& f.bit != 0)

def toList (fs : OpenFlags) : List Flag := Flag.all.filter fs.has

def bits (fs : OpenFlags) : Nat := fs.toList.foldl (fun acc f => acc ||| f.bit) 0

def names (fs : OpenFlags) : List String := fs.toList.map Flag.name

/-- The dump form: `PcmFlags(0x0)` when empty, else the names joined by `" | "`. -/
def debugText (fs : OpenFlags) : String :=
  match fs.names with
  | [] => "PcmFlags(0x0)"
  | ns => "PcmFlags(" ++ " | ".intercalate ns ++ ")"

end OpenFlags

/-- Which way samples flow. -/
inductive Direction where
  | playback
  | capture
  deriving DecidableEq, Repr, Inhabited

namespace Direction

def ofFlags (fs : OpenFlags) : Direction := if fs.capture then .capture else .playback

def suffix : Direction → Char
  | .playback => 'p'
  | .capture => 'c'

def name : Direction → String
  | .playback => "playback"
  | .capture => "capture"

/-- The direction with a name. -/
def ofName? : String → Option Direction
  | "playback" => some .playback
  | "capture" => some .capture
  | _ => none

end Direction

end SoundCard.Pcm
