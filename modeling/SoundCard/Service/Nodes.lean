import SoundCard.Service.Stream
import SoundCard.Service.Mixer
import SoundCard.Device.Open
/-! Requests on a sound directory of plain files: opening streams and registries, querying
parameters, listing nodes, and single requests to an opened node. -/
namespace SoundCard.Service

open SoundCard.Wire SoundCard.Pcm SoundCard.Hw SoundCard.Control SoundCard.Device
open SoundCard.Os

/-- The host the recorded answers come from: 4 KiB pages, the address space left below a
position-independent program image, and 32939528 KiB of memory with no swap. -/
def answerHost : MapHost where
  pageSize := 4096
  addressSpace := (140737488355328 - 4096) / 3 * 2 / 4096 * 4096 - 65536
  maxFileSize := 9223372036854775807
  promisablePages := 8234882
  pageSize_pos := by decide

/-- Makes the directory of a request, or none when `missing`; a name the system refuses
refuses the request. -/
def readDirectory (v : Value) : Checked Directory := do
  if ← boolOr v "missing" false then return Directory.absent
  let d ← (listOr v "nodes").foldlM (fun (d : Directory) n => match n with
    | .str name => systemFault (d.addNode name)
    | _ => bad "node names must be strings") Directory.fresh
  (listOr v "dirs").foldlM (fun (d : Directory) x => match x with
    | .str name => systemFault (d.addDirs name)
    | _ => bad "dir names must be strings") d

def onFile {α : Type} (m : CardM FileNode α) (f : FileNode) : Except IoError α × FileNode :=
  (m.run).run f

/-- Runs a stream request on an opened file; a request that stops the program ends the
request. -/
def onStreamFile {α : Type} (m : DeviceM FileNode α) (f : FileNode) :
    Checked (Except IoError α × FileNode) :=
  trapped ((m.run).run f)

/-- The byte count of a transfer call: the size of the frames at four bytes each, which
must fit a word, is worked out first, and the `bytes` field, when given, replaces it. -/
def callBytes (c : Value) (frames : Nat) : Checked Nat := do
  let whole ← trapped (mulWord frames 4)
  let given ← optNat c "bytes"
  pure (given.getD whole)

def pcmInfoValue (i : PcmInfo) : Value :=
  .obj [("card", .int i.card), ("device", .nat i.device.toNat),
        ("subdevice", .nat i.subdevice.toNat), ("stream", .int i.stream)]

/-- One request to a node opened as a stream device. -/
def pcmCall (f : FileNode) (c : Value) : Checked (Value × FileNode) := do
  let D := FileNode.pcmDevice answerHost
  let run {α : Type} (m : DeviceM FileNode α) (g : α → Value) :
      Checked (Value × FileNode) := do
    let (r, f') ← onStreamFile m f
    pure (ioResult g r, f')
  let done : Unit → Value := fun _ => okText
  match ← readOp c with
  | "info" => run D.info pcmInfoValue
  | "hw_refine" => run (D.refine HwParams.any) paramsValue
  | "hw_params" => run (D.install HwParams.any) paramsValue
  | "sw_params" => run (D.software {}) (fun _ => okText)
  | "sync_ptr" => run (D.syncPtr {}) (fun _ => okText)
  | "prepare" => run D.prepare done
  | "start" => run D.start done
  | "stop" => run D.stop done
  | "drain" => run D.drain done
  | "writei" => do
    let frames ← natReq c "frames"
    let bytes ← callBytes c frames
    run (D.writei (← zeroBytes bytes) frames) Value.nat
  | "readi" => do
    let frames ← natReq c "frames"
    let bytes ← callBytes c frames
    run (D.readi (← zeroBytes bytes) frames) (fun r => .nat r.1)
  | "delay" => run D.delay Value.int
  | "ttstamp" => do
    let t ← i32Or c "type" 1
    run (D.setTstampType t) done
  | "link_self" => run (D.link f.fd) done
  | "unlink" => run D.unlink done
  | "map" => do
    let offset ← u64Or c "offset" 0
    let len ← natReq c "len"
    let writable ← boolOr c "writable" true
    run (D.map (UInt64.ofNat offset) len writable) (fun r => .obj (regionFields r))
  | "wait" => do
    let t ← i32Or c "timeout" 0
    run (D.wait t) Value.bool
  | "path" => pure (.str f.path, f)
  | "has_fd" => pure (.bool (D.descriptor f).isSome, f)
  | op => bad s!"unknown hw_pcm call '{op}'"

/-- The answer object of an event as a control device reports it. -/
def rawEventValue (e : Event) : Value :=
  match elemEventValue (ElemEvent.ofEvent e) with
  | .obj fs => .obj (fs ++ [("type", .int e.type)])
  | v => v

/-- One request to a node opened as a control device. -/
def controlCall (f : FileNode) (c : Value) : Checked (Value × FileNode) := do
  let D := FileNode.controlDevice
  let run {α : Type} (m : CardM FileNode α) (g : α → Value) :
      Checked (Value × FileNode) :=
    let (r, f') := onFile m f
    pure (ioResult g r, f')
  match ← readOp c with
  | "card_info" => run D.cardInfo (fun i => .obj [("card", .int i.card)])
  | "elem_count" => run D.elemCount (fun n => .nat n.toNat)
  | "elem_ids" => do
    let offset ← u32Or c "offset" 0
    let space ← u32Or c "space" 0
    run (D.elemIds (UInt32.ofNat offset) (UInt32.ofNat space)) (fun ids => .nat ids.length)
  | "elem_info" => do
    let numid ← u32Or c "numid" 1
    run (D.elemInfo (ElemInfo.forNumid (UInt32.ofNat numid))) (fun _ => okText)
  | "elem_read" => do
    let numid ← u32Or c "numid" 1
    run (D.elemRead (ElemValue.forNumid (UInt32.ofNat numid))) (fun _ => okText)
  | "elem_write" => do
    let numid ← u32Or c "numid" 1
    run (D.elemWrite (ElemValue.forNumid (UInt32.ofNat numid))) (fun _ => okText)
  | "tlv_read" => do
    let len ← natOr c "len" 8
    trapped (reserve len 1)
    let numid ← u32Or c "numid" 0
    run (D.tlvRead (UInt32.ofNat numid) (List.replicate len 0)) Value.bytes
  | "tlv_write" => do
    let numid ← u32Or c "numid" 0
    let data ← bytesOr c "data" []
    run (D.tlvWrite (UInt32.ofNat numid) data) (fun _ => okText)
  | "subscribe" => do
    let enable ← boolOr c "enable" true
    run (D.subscribe enable) (fun _ => okText)
  | "wait_event" => do
    let t ← i32Or c "timeout" 0
    run (D.waitEvent t) Value.bool
  | "read_event" => run D.readEvent (.opt rawEventValue)
  | "path" => pure (.str f.path, f)
  | op => bad s!"unknown hw_control call '{op}'"

/-- Runs the calls on an opened file in order; a refused call leaves the file as it was. -/
def runCalls (call : FileNode → Value → Checked (Value × FileNode)) :
    FileNode → List Value → Checked (List Value)
  | _, [] => pure []
  | f, c :: rest =>
    match call f c with
    | .ok (r, f') => do return r :: (← runCalls call f' rest)
    | .error fault =>
      if fault.isTrap then .error fault
      else do return fault.toValue :: (← runCalls call f rest)

/-- Opens a node as a file device and runs its calls in order. -/
def answerCalls (v : Value) (withFlags : Bool)
    (call : FileNode → Value → Checked (Value × FileNode)) : Checked Value := do
  let dir ← readDirectory v
  let content ← match v.given? "content" with
    | none => pure none
    | some c => match bytesOf? c with
      | some content => pure (some content)
      | none => bad "field 'c' must be a list of bytes"
  let node ← strReq v "node"
  let dir ← match content with
    | none => pure dir
    | some content => systemFault (dir.write node content)
  if withFlags then
    let _ ← readFlags v
  let calls := listOr v "calls"
  match dir.openFile node with
  | .error e => pure (okValue (.obj [("open", ioErrorValue e)]))
  | .ok f => pure (okValue (.obj [("open", okText), ("results", .arr (← runCalls call f calls))]))

def pcmNodeValue (n : PcmNode) : Value :=
  .obj [("card", .nat n.card), ("device", .nat n.device), ("direction", .str n.direction.name),
        ("path", .str n.path)]

/-- Answers a request on the sound directory; `none` when the operation is not one of
them. -/
def answerNodes (op : String) (v : Value) : Option (Checked Value) :=
  match op with
  | "open_node" => some do
    let dir ← readDirectory v
    let card ← u32Req v "card"
    let device ← u32Req v "device"
    let flags ← readFlags v
    let config ← readConfigField v
    let s ← trapped (openPcm answerHost dir (UInt32.ofNat card) (UInt32.ofNat device) flags config)
    return okValue (streamSummary (FileNode.pcmDevice answerHost) s)
  | "open_by_name" => some do
    let dir ← readDirectory v
    let name ← strReq v "name"
    let flags ← readFlags v
    let config ← readConfigField v
    let s ← trapped (openPcmByName answerHost dir name flags config)
    return okValue (streamSummary (FileNode.pcmDevice answerHost) s)
  | "get_params" => some do
    let dir ← readDirectory v
    let card ← u32Req v "card"
    let device ← u32Req v "device"
    let d ← readDirection v "direction"
    return okValue (.opt paramsValue (← trapped (deviceParams answerHost dir card device d)))
  | "mixer_open" => some do
    let dir ← readDirectory v
    let card ← u32Req v "card"
    return match openMixer dir card with
      | .ok m => okValue (.obj [("name", .str m.name), ("num_ctls", .nat m.numControls)])
      | .error e => mixerErrorValue e
  | "hw_pcm" => some (answerCalls v true pcmCall)
  | "hw_control" => some (answerCalls v false controlCall)
  | "map_file" => some do
    let dir ← readDirectory v
    let node ← strReq v "node"
    let f ← systemFault (dir.openFile node)
    let offset ← u64Or v "offset" 0
    let len ← u64Req v "len"
    let writable ← boolOr v "writable" true
    return okValue (ioResult (fun r => .obj (regionFields r))
      (mapFile answerHost f.contents (UInt64.ofNat offset) len writable))
  | "list_nodes" => some do
    let dir ← readDirectory v
    return match dir.pcmNodes with
      | .error e => ioErrorValue e
      | .ok ns => okValue (.list pcmNodeValue ns)
  | _ => none

end SoundCard.Service
