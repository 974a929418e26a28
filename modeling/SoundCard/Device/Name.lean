import SoundCard.Pcm.Flags
import SoundCard.Text.Blank
import SoundCard.Os.Trap
/-! Device names: the nodes `pcmC<card>D<device><p|c>` and `controlC<card>` and the names
`hw:<card>[,<device>]`, numbers being unsigned 32-bit decimals. -/
namespace SoundCard.Device

open SoundCard.Pcm SoundCard.Os

def defaultSndDir : String := "/dev/snd"

/-- The environment variable that configures the sound directory. -/
def sndDirVariable : String := "PCMIO_SND_DIR"

/-- Puts a sound directory setting into the environment: a text is set and no text unsets
the variable. A text holding a NUL byte cannot be set and stops the program. -/
def applySndDirSetting : Option String → Trapping Unit
  | some s => setVariable sndDirVariable s
  | none => pure ()

/-- The sound directory named by a setting: unset or empty means the default. -/
def sndDirFrom : Option String → String
  | some s => if s.isEmpty then defaultSndDir else s
  | none => defaultSndDir

/-- A path inside a directory; a name starting with a slash is a whole path already and
stands for itself. -/
def joinPath (dir name : String) : String :=
  if name.startsWith "/" then name
  else if dir.isEmpty || dir.endsWith "/" then dir ++ name else dir ++ "/" ++ name

/-- Reads an unsigned 32-bit decimal: an optional `+` and at least one digit. -/
def parseU32? (s : String) : Option Nat :=
  let ds := match s.toList with
    | '+' :: rest => rest
    | cs => cs
  if ds.isEmpty || !ds.all Char.isDigit then none
  else
    let n := ds.foldl (fun acc c => acc * 10 + (c.toNat - '0'.toNat)) 0
    if n < 4294967296 then some n else none

def pcmNodeName (card device : Nat) (d : Direction) : String :=
  s!"pcmC{card}D{device}" ++ d.suffix.toString

def controlNodeName (card : Nat) : String := s!"controlC{card}"

/-- Splits at the first occurrence of a character. -/
def splitOnce (s : String) (c : Char) : Option (String × String) :=
  let cs := s.toList
  match cs.idxOf? c with
  | some i => some (String.ofList (cs.take i), String.ofList (cs.drop (i + 1)))
  | none => none

/-- Reads a stream node name into card, device and direction. -/
def parseNodeName? (name : String) : Option (Nat × Nat × Direction) := do
  let rest ← (name.dropPrefix? "pcmC").map (·.toString)
  let (card, rest) ← splitOnce rest 'D'
  let d ← match rest.toList.getLast? with
    | some 'p' => some Direction.playback
    | some 'c' => some Direction.capture
    | _ => none
  let device := String.ofList rest.toList.dropLast
  let c ← parseU32? card
  let v ← parseU32? device
  pure (c, v, d)

/-- Reads a `hw:<card>[,<device>]` name; blanks around the name and its parts are
ignored and a missing device is 0. -/
def parseHwName? (name : String) : Option (Nat × Nat) := do
  let rest ← ((Text.trimBlank name).dropPrefix? "hw:").map (·.toString)
  let (card, device) := (splitOnce rest ',').getD (rest, "0")
  let c ← parseU32? (Text.trimBlank card)
  let v ← parseU32? (Text.trimBlank device)
  pure (c, v)

end SoundCard.Device
