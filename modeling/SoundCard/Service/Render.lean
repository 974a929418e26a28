import SoundCard.Service.Fault
import SoundCard.Pcm.Error
import SoundCard.Pcm.Format
/-! Answer objects for the library's values: sample formats, parameter records, device
errors and stream errors. -/
namespace SoundCard.Service

open SoundCard.Wire SoundCard.Pcm SoundCard.Hw SoundCard.Os

/-- A sample format with its code, widths and names. -/
def formatValue (f : SampleFormat) : Value :=
  .obj [("name", .str f.name), ("display", .str f.name), ("code", .nat f.code),
        ("physical_bits", .nat f.physicalBits), ("bytes_per_sample", .nat f.bytesPerSample),
        ("serde", .str f.name)]

/-- A parameter record: its masks as words and its intervals as triples. -/
def paramsValue (p : HwParams) : Value :=
  .obj [("flags", .nat p.flags.toNat),
        ("masks", .list (fun m : Mask => .list Value.nat m.words) p.masks.toList),
        ("intervals", .list (fun i : Interval => .list Value.nat i.triple) p.intervals.toList),
        ("rmask", .nat p.rmask.toNat), ("cmask", .nat p.cmask.toNat),
        ("info", .nat p.info.toNat), ("msbits", .nat p.msbits.toNat),
        ("rate_num", .nat p.rateNum.toNat), ("rate_den", .nat p.rateDen.toNat)]

/-- A stream error with its kind, text and number, and the fields of its kind. -/
def streamErrorValue (e : StreamError) : Value :=
  let base := [("error", .str e.kind), ("message", .str e.message), ("errno", .opt .int e.errno?)]
  match e with
  | .config _ _ l => .obj (base ++ [("limits", .opt paramsValue l)])
  | .wouldBlock n => .obj (base ++ [("transferred", .nat n)])
  | .pointerFault h a => .obj (base ++ [("hw_ptr", .nat h.toNat), ("appl_ptr", .nat a.toNat)])
  | _ => .obj base

def streamResult {α : Type} (f : α → Value) : Except StreamError α → Value
  | .ok a => f a
  | .error e => streamErrorValue e

def ioResult {α : Type} (f : α → Value) : Except IoError α → Value
  | .ok a => f a
  | .error e => ioErrorValue e

def okText : Value := .str "ok"

end SoundCard.Service
