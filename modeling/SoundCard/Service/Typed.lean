import SoundCard.Service.Fault
import SoundCard.Pcm.Config
import SoundCard.Hw.Constraints
import SoundCard.Text.Quote
import SoundCard.Number.Shortest
/-! Typed reading of configuration documents, from an object in key order or an array in
declaration order. -/
namespace SoundCard.Service

open SoundCard.Wire SoundCard.Pcm SoundCard.Hw SoundCard.Number

/-- How a refusal describes a value that has the wrong kind. -/
def describe : Value → String
  | .null => "null"
  | .bool b => s!"boolean `{b}`"
  | .int i => s!"integer `{i}`"
  | .float x => s!"floating point `{x.text}`"
  | .str s => "string " ++ Text.quote s
  | .arr _ => "sequence"
  | .obj _ => "map"

def wrongType {α : Type} (v : Value) (expected : String) : Checked α :=
  .error (.typed s!"invalid type: {describe v}, expected {expected}")

/-- Reads an unsigned number below `2 ^ bits`. -/
def readWord (bits : Nat) (v : Value) : Checked Nat :=
  match v with
  | .int i =>
    if 0 ≤ i ∧ i < ((Nat.pow 2 bits : Nat) : Int) then pure i.toNat
    else .error (.typed s!"invalid value: integer `{i}`, expected u{bits}")
  | v => wrongType v s!"u{bits}"

def formatNamesText : String :=
  ", ".intercalate (SampleFormat.all.map fun f => "`" ++ f.name ++ "`")

/-- Reads a format: its name, or an object with its name as the single key and `null`. -/
def readFormat (v : Value) : Checked SampleFormat :=
  let byName (s : String) : Checked SampleFormat :=
    match SampleFormat.ofName? s with
    | some f => pure f
    | none => .error (.typed s!"unknown variant `{s}`, expected one of {formatNamesText}")
  match v with
  | .str s => byName s
  | .obj [(k, x)] => do
    let f ← byName k
    match x with
    | .null => pure f
    | x => wrongType x "unit"
  | .obj _ => .error (.typed "invalid value: map, expected map with a single key")
  | v => wrongType v "string or map"

def sortedFields (fs : List (String × Value)) : List (String × Value) :=
  fs.mergeSort fun a b => decide (a.1 ≤ b.1)

def tooLong {α : Type} (n : Nat) : Checked α :=
  .error (.typed s!"invalid length {n}, expected fewer elements in array")

/-- Stores one field of a stream configuration. -/
def setConfigField (c : StreamConfig) : String × Value → Checked StreamConfig
  | ("channels", v) => return { c with channels := UInt32.ofNat (← readWord 32 v) }
  | ("rate", v) => return { c with rate := UInt32.ofNat (← readWord 32 v) }
  | ("period_size", v) => return { c with periodSize := UInt32.ofNat (← readWord 32 v) }
  | ("period_count", v) => return { c with periodCount := UInt32.ofNat (← readWord 32 v) }
  | ("format", v) => return { c with format := ← readFormat v }
  | ("start_threshold", v) => return { c with startThreshold := UInt64.ofNat (← readWord 64 v) }
  | ("stop_threshold", v) => return { c with stopThreshold := UInt64.ofNat (← readWord 64 v) }
  | ("silence_threshold", v) =>
    return { c with silenceThreshold := UInt64.ofNat (← readWord 64 v) }
  | ("silence_size", v) => return { c with silenceSize := UInt64.ofNat (← readWord 64 v) }
  | ("avail_min", v) => return { c with availMin := UInt64.ofNat (← readWord 64 v) }
  | _ => pure c

/-- The field names of a stream configuration, in declaration order. -/
def configFieldNames : List String :=
  ["channels", "rate", "period_size", "period_count", "format", "start_threshold",
   "stop_threshold", "silence_threshold", "silence_size", "avail_min"]

/-- Reads a stream configuration; every field is optional. -/
def readConfig (v : Value) : Checked StreamConfig :=
  match v with
  | .obj fs => (sortedFields fs).foldlM setConfigField {}
  | .arr xs =>
    if xs.length > configFieldNames.length then do
      let _ ← (configFieldNames.zip xs).foldlM setConfigField {}
      tooLong xs.length
    else (configFieldNames.zip xs).foldlM setConfigField {}
  | v => wrongType v "struct StreamConfig"

/-- Reads a record with required fields, reporting missing ones in declaration order. -/
def readRecord {α : Type} (what : String) (names : List String) (read : String → Value → Checked α)
    (v : Value) : Checked (List α) :=
  match v with
  | .obj fs => do
    let found ← (sortedFields fs).foldlM (fun acc (k, x) =>
      if names.contains k && !(acc.any (·.1 == k)) then do
        let a ← read k x
        pure (acc ++ [(k, a)])
      else pure acc) []
    names.mapM fun k => match found.find? (·.1 == k) with
      | some (_, a) => pure a
      | none => .error (.typed s!"missing field `{k}`")
  | .arr xs => do
    let got ← (names.zip xs).mapM fun (k, x) => read k x
    if xs.length < names.length then
      .error (.typed s!"invalid length {xs.length}, expected {what} with {names.length} elements")
    else if xs.length > names.length then tooLong xs.length
    else pure got
  | v => wrongType v what

/-- Reads a range `{min, max}` or `[min, max]`. -/
def readRange (v : Value) : Checked Range := do
  match ← readRecord "struct Range" ["min", "max"] (fun _ x => readWord 32 x) v with
  | [lo, hi] => pure ⟨UInt32.ofNat lo, UInt32.ofNat hi⟩
  | _ => .error (.typed "invalid length 0, expected struct Range with 2 elements")

/-- One piece of a constraints record. -/
inductive ConstraintPiece where
  | bits (n : Nat)
  | range (r : Range)

/-- Reads device constraints; every field is required. -/
def readConstraints (v : Value) : Checked Constraints := do
  let names := ["access", "format", "bit_width", "channels", "rate", "periods", "period_bytes"]
  let read (k : String) (x : Value) : Checked ConstraintPiece :=
    if k == "access" || k == "format" then return .bits (← readWord 64 x)
    else return .range (← readRange x)
  let pieces ← readRecord "struct HwConstraints" names read v
  match pieces with
  | [.bits a, .bits f, .range bw, .range ch, .range rt, .range pe, .range pb] =>
    pure ⟨UInt64.ofNat a, UInt64.ofNat f, bw, ch, rt, pe, pb⟩
  | _ => .error (.typed "invalid length 0, expected struct HwConstraints with 7 elements")

/-- A stream configuration as an object. -/
def configValue (c : StreamConfig) : Value :=
  .obj [("channels", .nat c.channels.toNat), ("rate", .nat c.rate.toNat),
        ("period_size", .nat c.periodSize.toNat), ("period_count", .nat c.periodCount.toNat),
        ("format", .str c.format.name), ("start_threshold", .nat c.startThreshold.toNat),
        ("stop_threshold", .nat c.stopThreshold.toNat),
        ("silence_threshold", .nat c.silenceThreshold.toNat),
        ("silence_size", .nat c.silenceSize.toNat), ("avail_min", .nat c.availMin.toNat)]

/-- A stream configuration as compact text, fields in declaration order. -/
def configText (c : StreamConfig) : String :=
  "\x7b" ++ ",".intercalate [
    s!"\"channels\":{c.channels.toNat}", s!"\"rate\":{c.rate.toNat}",
    s!"\"period_size\":{c.periodSize.toNat}", s!"\"period_count\":{c.periodCount.toNat}",
    "\"format\":\"" ++ c.format.name ++ "\"",
    s!"\"start_threshold\":{c.startThreshold.toNat}",
    s!"\"stop_threshold\":{c.stopThreshold.toNat}",
    s!"\"silence_threshold\":{c.silenceThreshold.toNat}",
    s!"\"silence_size\":{c.silenceSize.toNat}", s!"\"avail_min\":{c.availMin.toNat}"] ++ "\x7d"

end SoundCard.Service
