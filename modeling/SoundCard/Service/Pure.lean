import SoundCard.Service.Render
import SoundCard.Service.Typed
import SoundCard.Pcm.Flags
import SoundCard.Pcm.State
import SoundCard.Pcm.Pointer
import SoundCard.Device.Name
/-! Requests on plain values: formats, names and paths, flags, pointer arithmetic,
configurations and parameter indices. -/
namespace SoundCard.Service

open SoundCard.Wire SoundCard.Pcm SoundCard.Hw SoundCard.Device

/-- Reads the `flags` field: a list of flag names or a 32-bit word. -/
def readFlags (v : Value) : Checked OpenFlags :=
  match v.given? "flags" with
  | none => pure {}
  | some (.arr names) => do
    let fs ← names.mapM fun
      | .str s => match Flag.ofName? s with
        | some f => pure f
        | none => bad s!"unknown flag '{s}'"
      | _ => bad "flag names must be strings"
    pure (OpenFlags.ofList fs)
  | some (.int i) =>
    if 0 ≤ i ∧ i < 4294967296 then pure (OpenFlags.ofBits i.toNat)
    else bad "flags must be a list of names or a u32"
  | some _ => bad "flags must be a list of names or a u32"

/-- Reads a required `direction` field. -/
def readDirection (v : Value) (key : String) : Checked Direction := do
  let s ← strReq v key
  match Direction.ofName? s with
  | some d => pure d
  | none => bad s!"unknown direction '{s}'"

/-- Reads the `config` field; missing or `null` is the default configuration. -/
def readConfigField (v : Value) : Checked StreamConfig :=
  match v.given? "config" with
  | none => pure {}
  | some c => readConfig c

def invalidValue (s : String) : Value := streamErrorValue (.invalidArgument s)

def okValue (v : Value) : Value := .obj [("ok", v)]

/-- The description of one configuration. -/
def configReport (c : StreamConfig) : Value :=
  .obj [("config", configValue c), ("text", .str (configText c)),
        ("buffer_size", .nat c.bufferSize), ("frame_bytes", .nat c.frameBytes),
        ("start_threshold", .nat c.effectiveStartThreshold),
        ("stop_threshold", .nat c.effectiveStopThreshold),
        ("avail_min", .nat c.effectiveAvailMin),
        ("validate", match c.problem? with
          | none => okText
          | some p => invalidValue p.text)]

def paramReport (q : Param) : Value :=
  .obj [("name", .str q.name), ("index", .nat q.index), ("is_mask", .bool q.isMask),
        ("debug", .str q.debugName)]

/-- Answers a request on plain values; `none` when the operation is not one of them. -/
def answerPure (op : String) (v : Value) : Option (Checked Value) :=
  match op with
  | "format_parse" => some do
    let s ← strReq v "s"
    pure <| match SampleFormat.parse? s with
      | some f => okValue (formatValue f)
      | none => invalidValue s!"unknown sample format '{s}'"
  | "format_code" => some do
    let c ← u32Req v "code"
    pure (okValue (.opt formatValue (SampleFormat.ofCode? c)))
  | "formats" => some (pure (okValue (.list formatValue SampleFormat.all)))
  | "flag_value" => some do
    let s ← strOrNull v "value"
    let on := match s with
      | some s => ["1", "true", "yes", "on"].contains (Text.asciiLower (Text.trimBlank s))
      | none => false
    pure (okValue (.bool on))
  | "snd_dir_from" => some do
    let s ← strOrNull v "value"
    pure (okValue (.str (sndDirFrom s)))
  | "cap" => some do
    let t ← strReq v "text"
    let m ← natReq v "max"
    pure (okValue (.str (Text.cap t m)))
  | "parse_name" => some do
    let s ← strReq v "name"
    pure <| match parseHwName? s with
      | some (c, d) => okValue (.obj [("card", .nat c), ("device", .nat d)])
      | none => invalidValue s!"invalid pcm name '{s}'"
  | "parse_node_name" => some do
    let s ← strReq v "name"
    pure <| okValue <| .opt (fun (c, d, dir) =>
      .obj [("card", .nat c), ("device", .nat d), ("direction", .str dir.name)])
      (parseNodeName? s)
  | "pcm_node_name" => some do
    let c ← u32Req v "card"
    let d ← u32Req v "device"
    let dir ← readDirection v "direction"
    pure (okValue (.str (pcmNodeName c d dir)))
  | "pcm_path" => some do
    let dirSetting ← strOrNull v "snd_dir"
    trapped (applySndDirSetting dirSetting)
    let c ← u32Req v "card"
    let d ← u32Req v "device"
    let dir ← readDirection v "direction"
    pure (okValue (.str (joinPath (sndDirFrom dirSetting) (pcmNodeName c d dir))))
  | "control_path" => some do
    let dirSetting ← strOrNull v "snd_dir"
    trapped (applySndDirSetting dirSetting)
    let c ← u32Req v "card"
    pure (okValue (.str (joinPath (sndDirFrom dirSetting) (controlNodeName c))))
  | "direction" => some do
    let fs ← readFlags v
    let d := Direction.ofFlags fs
    pure (okValue (.obj [("direction", .str d.name), ("suffix", .str d.suffix.toString)]))
  | "flags" => some do
    let fs ← readFlags v
    pure (okValue (.obj [("bits", .nat fs.bits), ("names", .list .str fs.names)]))
  | "boundary" => some do
    let bs ← u64Req v "buffer_size"
    pure (okValue (.nat (← trapped (boundaryOf bs))))
  | "raw_avail" => some do
    let pb ← boolOr v "playback" true
    let hw ← u64Req v "hw_ptr"
    let appl ← u64Req v "appl_ptr"
    let bs ← u64Req v "buffer_size"
    pure (okValue (.opt Value.nat (rawAvail pb hw appl bs)))
  | "wrapped_avail" => some do
    let pb ← boolOr v "playback" true
    let hw ← u64Req v "hw_ptr"
    let appl ← u64Req v "appl_ptr"
    let bs ← u64Req v "buffer_size"
    let b ← u64Req v "boundary"
    let avail ← trapped (wrappedAvail pb (UInt64.ofNat hw) (UInt64.ofNat appl)
      (UInt64.ofNat bs) (UInt64.ofNat b))
    pure (okValue (.nat avail.toNat))
  | "pcm_state" => some do
    let r ← i32Req v "raw"
    pure (okValue (.obj [("state", .str (PcmState.ofRaw r).name), ("raw", .int r)]))
  | "config" => some do
    let c ← readConfigField v
    pure (okValue (configReport c))
  | "param" => some do
    let i ← u32Req v "index"
    pure <| match Param.ofIndex? i with
      | some q => okValue (paramReport q)
      | none => invalidValue s!"unknown hw parameter index {i}"
  | "cstr_fixed" => some do
    let bs ← bytesOr v "bytes" []
    pure (okValue (.str (Text.cstrFixed bs)))
  | _ => none

end SoundCard.Service
