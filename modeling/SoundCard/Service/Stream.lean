import SoundCard.Service.Virtual
import SoundCard.Service.Script
import SoundCard.Pcm.Stream.Open
import SoundCard.Pcm.Stream.Transfer
import SoundCard.Pcm.Stream.Dump
/-! Step scripts over a stream opened on a virtual device. Each step runs one stream
operation and answers its result, the handle's flags and a snapshot of the device. -/
namespace SoundCard.Service

open SoundCard.Wire SoundCard.Pcm SoundCard.Hw SoundCard.Virtual SoundCard.Os

abbrev VirtualStream := PcmStream VirtualPcm

def vd : PcmDevice VirtualPcm := VirtualPcm.driver

/-- Runs a stream operation on a handle; an operation that stops the program ends the
request. -/
def runOn {α : Type} (m : StreamM VirtualPcm α) (s : VirtualStream) :
    Checked (Except StreamError α × VirtualStream) :=
  trapped ((ExceptT.run m).run s)

/-- Lower-case hexadecimal text of bytes, two digits each. -/
def hexText (bs : List UInt8) : String :=
  String.join (bs.map fun b =>
    let h := Text.hexDigits b.toNat
    if h.length < 2 then "0" ++ h else h)

/-- The report of a stream handle. -/
def streamSummary {σ : Type} (D : PcmDevice σ) (s : PcmStream σ) : Value :=
  .obj [("ready", .bool s.isReady), ("error", .str s.error),
        ("open_error", .opt streamErrorValue s.openError),
        ("config", configValue s.config), ("flags", .list .str s.flags.names),
        ("direction", .str s.direction.name), ("channels", .nat s.config.channels.toNat),
        ("rate", .nat s.config.rate.toNat), ("format", .str s.config.format.name),
        ("buffer_size", .nat s.bufferSize.toNat), ("boundary", .nat s.boundary.toNat),
        ("card", .nat s.card.toNat), ("device", .nat s.device.toNat),
        ("subdevice", .nat s.subdevice.toNat), ("mapped", .bool s.usesMappedStatus),
        ("frame_bytes", .nat s.frameBytes), ("has_fd", .bool (s.descriptor D).isSome),
        ("running", .bool s.running), ("prepared", .bool s.prepared),
        ("underruns", .nat s.underruns.toNat)]

/-- The handle's flags as a step shows them. -/
def streamFlags (s : VirtualStream) : Value :=
  .obj [("ready", .bool s.isReady), ("running", .bool s.running),
        ("prepared", .bool s.prepared), ("underruns", .nat s.underruns.toNat),
        ("error", .str s.error)]

/-- What a capture step answers: the count, the first 32 bytes in hexadecimal and the sum
of all bytes. -/
def capturedValue (data : ByteArray) (n : Nat) : Value :=
  .obj [("frames", .nat n), ("head", .str (hexText (data.toList.take 32))),
        ("sum", .nat (data.toList.foldl (fun acc b => acc + b.toNat) 0))]

/-- The test pattern of `len` bytes: byte `i` is `(seed + i) % 251`, where each sum must
fit a word. The buffer is asked for before any byte is computed. -/
def pattern (seed len : Nat) : Checked ByteArray := do
  trapped (reserve len 1)
  if 0 < len ∧ seed + (len - 1) ≥ wordRange then .error (.trap .addOverflow)
  else pure (ByteArray.mk (Array.ofFn (n := len) fun i => UInt8.ofNat ((seed + i.val) % 251)))

def zeroBytes (len : Nat) : Checked ByteArray := do
  trapped (reserve len 1)
  pure (ByteArray.mk (Array.replicate len 0))

/-- The settings of one stream script that hold for all its steps. -/
structure StreamScript where
  syncOnly : Bool
  config : StreamConfig

/-- Runs an operation and answers its result with `f`. -/
def perform {α : Type} (s : VirtualStream) (m : StreamM VirtualPcm α) (f : α → Value) :
    Checked (Value × VirtualStream) := do
  let (r, s) ← runOn m s
  pure (streamResult f r, s)

/-- The area of a mapped stream from a byte offset, `len` bytes long or up to the end, or
`null` without one; an offset at or past the end shows no bytes. -/
def areaValue (s : VirtualStream) (offset len : Nat) : Value :=
  match s.data with
  | none => .null
  | some r =>
    let bytes := match r with
      | .heap b => b.toList
      | .kernel _ => []
    let stop := min (offset + len) r.len
    .obj [("len", .nat r.len), ("bytes", .str (hexText ((bytes.take stop).drop offset)))]

/-- The byte count of a transfer step: the size of the frames in bytes, which must fit a
word, is worked out first, and the `bytes` field, when given, replaces it. -/
def transferBytes (s : VirtualStream) (st : Value) (frames : Nat) : Checked Nat := do
  let whole ← trapped (s.framesToBytes frames)
  let given ← optNat st "bytes"
  pure (given.getD whole)

/-- One step of a stream script. -/
def streamStep (sc : StreamScript) (s : VirtualStream) (st : Value) :
    Checked (Value × VirtualStream) := do
  let D := vd
  let unit : Unit → Value := fun _ => okText
  let op ← readOp st
  match op with
  | "prepare" => perform s (PcmStream.prepare D) unit
  | "start" => perform s (PcmStream.start D) unit
  | "stop" => perform s (PcmStream.stop D) unit
  | "drain" => perform s (PcmStream.drain D) unit
  | "unlink" => perform s (PcmStream.unlink D) unit
  | "link" => perform s (PcmStream.link D none) unit
  | "available" => perform s (PcmStream.available D) fun n => .nat n.toNat
  | "avail_update" => perform s (PcmStream.availUpdate D) fun n => .nat n.toNat
  | "delay" => perform s (PcmStream.delay D) .int
  | "state" => perform s (PcmStream.state D) fun st => .str st.name
  | "htimestamp" => perform s (PcmStream.htimestamp D) (fun t =>
      .obj [("avail", .nat t.avail.toNat), ("sec", .nat t.sec), ("nsec", .nat t.nsec)])
  | "wait" => do
    let t ← i32Or st "timeout" 0
    perform s (PcmStream.wait D t) .bool
  | "writei" | "mmap_write" => do
    let frames ← natReq st "frames"
    let bytes ← transferBytes s st frames
    let seed ← natOr st "seed" 0
    let data ← pattern seed bytes
    let m := if op == "writei" then PcmStream.writei D data frames
      else PcmStream.mmapWrite D data frames
    perform s m Value.nat
  | "write" => do
    let bytes ← natReq st "bytes"
    let seed ← natOr st "seed" 0
    perform s (PcmStream.write D (← pattern seed bytes)) Value.nat
  | "readi" | "mmap_read" => do
    let frames ← natReq st "frames"
    let bytes ← transferBytes s st frames
    let data ← zeroBytes bytes
    let m := if op == "readi" then PcmStream.readi D data frames
      else PcmStream.mmapRead D data frames
    perform s m fun (d, n) => capturedValue d n
  | "read" => do
    let bytes ← natReq st "bytes"
    perform s (PcmStream.read D (← zeroBytes bytes)) fun (d, n) => capturedValue d n
  | "link_peer" => do
    let fd ← nullable (.obj [("fd", (st.field? "peer_fd").getD .null)]) "fd" none i32Req
    let peerDevice : VirtualPcm := { fd := fd, waitPatience := some 1000 }
    let peer ← trapped (PcmStream.openWith D sc.syncOnly peerDevice {} {})
    let (r, s) ← runOn (PcmStream.link D (peer.descriptor D)) s
    pure (.obj [("link", streamResult unit r), ("linked", .opt .int s.driver.linked)], s)
  | "debug" => pure (.str s.debugText, s)
  | "open_error_limits" =>
    pure (.obj [("has_error", .bool s.openError.isSome),
                ("limits", .opt paramsValue (s.openError.bind StreamError.limits?))], s)
  | "mmap_begin" => do
    let frames ← natReq st "frames"
    perform s (PcmStream.mmapBegin D frames) (fun r =>
      .obj [("offset", .nat r.offset), ("frames", .nat r.frames)])
  | "mmap_commit" => do
    let offset ← natReq st "offset"
    let frames ← natReq st "frames"
    perform s (PcmStream.mmapCommit D { offset := offset, frames := frames }) unit
  | "mmap_area" => do
    let offset ← natOr st "offset" 0
    let len ← natOr st "len" 32
    pure (areaValue s offset len, s)
  | "set_config" => do
    let c ← readConfigField st
    let (r, s) ← runOn (PcmStream.setConfig D sc.syncOnly c) s
    pure (streamResult (fun _ => streamSummary D s) r, s)
  | "summary" => pure (streamSummary D s, s)
  | "frames_to_bytes" => do
    let n ← natReq st "frames"
    pure (.nat (← trapped (s.framesToBytes n)), s)
  | "bytes_to_frames" => do
    let n ← natReq st "bytes"
    pure (.nat (s.bytesToFrames n), s)
  | "mock" =>
    match steerVirtual st s.driver with
    | (d, none) => pure (okText, { s with driver := d })
    | (d, some f) => pure (f.toValue, { s with driver := d })
  | "mock_details" => pure (virtualDetails s.driver, s)
  | "reopen" => do
    let flags ← match st.given? "flags" with
      | none => pure s.flags
      | some _ => readFlags st
    let config ← match st.given? "config" with
      | none => pure sc.config
      | some _ => readConfigField st
    let d ← trapped (PcmStream.release D s)
    let s ← trapped (PcmStream.openWith D sc.syncOnly d flags config)
    pure (streamSummary D s, s)
  | "close" => do
    let d ← trapped (PcmStream.release D s)
    pure (okText, PcmStream.notReadyOf d {} {} (.invalidArgument "invalid pcm name 'closed'"))
  | op => bad s!"unknown stream step '{op}'"

/-- The stream script request. -/
def answerStream (v : Value) : Checked Value := do
  let flags ← readFlags v
  let config ← readConfigField v
  let device ← createVirtual ((v.given? "mock").getD (.obj [])) flags
  let syncOnly ← boolOr v "force_sync_ptr" false
  let device ← markBare ((v.given? "mock").getD (.obj [])) device
  let steps := listOr v "steps"
  let sc : StreamScript := { syncOnly := syncOnly, config := config }
  let s0 ← trapped (PcmStream.openWith vd syncOnly device flags config)
  let opened := Value.obj [("pcm", streamSummary vd s0), ("mock", virtualSnapshot s0.driver)]
  let view (s : VirtualStream) : List (String × Value) :=
    [("pcm", streamFlags s), ("mock", virtualSnapshot s.driver)]
  let (outs, s) ← runScript (streamStep sc) view s0 steps
  pure (okValue (.obj [("open", opened), ("steps", .arr outs),
    ("final_mock", virtualSnapshot (← trapped (PcmStream.release vd s)))]))

end SoundCard.Service
