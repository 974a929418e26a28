import SoundCard.Service.Pure
import SoundCard.Virtual.Pcm
/-! Steering a virtual stream device from a request, and the snapshots of it that answers carry. -/
namespace SoundCard.Service

open SoundCard.Wire SoundCard.Pcm SoundCard.Hw SoundCard.Virtual

/-- The wire name of a counted request. -/
def tallyKey : Tally → String
  | .info => "info" | .refine => "hw_refine" | .install => "hw_params"
  | .software => "sw_params" | .syncPtr => "sync_ptr" | .prepare => "prepare"
  | .start => "start" | .stop => "stop" | .drain => "drain" | .writei => "writei"
  | .readi => "readi" | .delay => "delay" | .tstampType => "ttstamp" | .unlink => "unlink"
  | .map => "map" | .wait => "wait"

/-- The failure place with a wire name. -/
def failPointOfKey? : String → Option FailPoint
  | "info" => some .info | "hw_refine" => some .refine | "hw_params" => some .install
  | "sw_params" => some .software | "sync_ptr" => some .syncPtr
  | "sync_hwsync" => some .syncHw | "prepare" => some .prepare | "start" => some .start
  | "stop" => some .stop | "drain" => some .drain | "writei" => some .writei
  | "readi" => some .readi | "delay" => some .delay | "ttstamp" => some .tstampType
  | "unlink" => some .unlink | "wait" => some .wait | "map_status" => some .mapStatus
  | "map_control" => some .mapControl | "map_data" => some .mapData | "link" => some .link
  | _ => none

/-- Reads a setting that may be unset: absent leaves `old`, `null` unsets it, anything
else is read by `read`. -/
def nullable {α : Type} (v : Value) (key : String) (old : Option α)
    (read : Value → String → Checked α) : Checked (Option α) :=
  match v.field? key with
  | none => pure old
  | some .null => pure none
  | some _ => do return some (← read v key)

/-- Reads a present setting with `read`; absent leaves `old`. -/
def present {α : Type} (v : Value) (key : String) (old : α)
    (read : Value → String → Checked α) : Checked α :=
  match v.given? key with
  | none => pure old
  | some _ => read v key

/-- Reads a time given as `[sec, nsec]`; any other shape than a list leaves `old`, and a
list needs two 64-bit integers first. -/
def readTimespec (v : Value) (key : String) (old : Timespec) : Checked Timespec :=
  match v.given? key with
  | some (.arr (.int s :: .int n :: _)) =>
    if isI64 s && isI64 n then pure { sec := s, nsec := n } else bad "tstamp [sec, nsec]"
  | some (.arr _) => bad "tstamp [sec, nsec]"
  | _ => pure old

/-- Reads a device state: a state name or a raw 32-bit code. -/
def readState (v : Value) (key : String) : Checked PcmState :=
  match v.given? key with
  | some (.str s) => match PcmState.ofName? s with
    | some st => pure st
    | none => bad s!"unknown state '{s}'"
  | some (.int i) =>
    if -2147483648 ≤ i && i < 2147483648 then pure (PcmState.ofRaw i) else bad "bad state"
  | _ => bad "bad state"

/-- The failure a setting asks for: a signed 32-bit number makes the place fail with it,
`null` clears the place; `none` for any other value. -/
def failCode? : Value → Option (Option Int)
  | .null => some none
  | .int i => if -2147483648 ≤ i && i < 2147483648 then some (some i) else none
  | _ => none

/-- Applies the failure settings in key order; the first value that is not a code stops the
rest. -/
def readFailures {κ : Type} [DecidableEq κ] (keyOf? : String → Option κ) (v : Value)
    (old : κ → Option Int) : Except (Fault × (κ → Option Int)) (κ → Option Int) :=
  match v.given? "fail" with
  | some (.obj fields) => fields.foldlM (fun (fs : κ → Option Int) (k, x) =>
      match failCode? x with
      | none => .error (.badInput "fail codes are errno integers", fs)
      | some code => match keyOf? k with
        | none => .ok fs
        | some p => .ok fun q => if q = p then code else fs q) old
  | _ => .ok old

/-- One setting of a virtual device: it changes the device, or stops the settings with
a refusal; the settings before it stay. -/
abbrev Setting (σ : Type) := σ → Except (Fault × σ) σ

/-- A setting read by a refusable reader. -/
def setting {σ : Type} (f : σ → Checked σ) : Setting σ := fun d =>
  match f d with
  | .ok d' => .ok d'
  | .error e => .error (e, d)

/-- Applies settings in order; a refusal carries the device as the settings before it
left it. -/
def applyAll {σ : Type} (d : σ) (settings : List (Setting σ)) : Except (Fault × σ) σ :=
  settings.foldlM (fun d f => f d) d

/-- Applies settings in order and reports the first refusal beside the device. -/
def settleAll {σ : Type} (d : σ) (settings : List (Setting σ)) : σ × Option Fault :=
  match applyAll d settings with
  | .ok d => (d, none)
  | .error (e, d) => (d, some e)

/-- A mapping length as set: a non-negative integer, or unset for anything else. -/
def mapLength : Value → Option Nat
  | .int i => if 0 ≤ i then some i.toNat else none
  | _ => none

/-- The mapping lengths after a `map_len` object: each of the three keys it holds sets or
unsets its length, and the keys it lacks keep theirs. -/
def readMapLengths (ml : Value) (d : VirtualPcm) : VirtualPcm :=
  let len (k : String) (old : Option Nat) : Option Nat := (ml.field? k).elim old mapLength
  { d with statusLen := len "status" d.statusLen, controlLen := len "control" d.controlLen,
           dataLen := len "data" d.dataLen }

/-- The capture byte: a number that must fit a byte. -/
def readCaptureFill (m : Value) (old : UInt8) : Checked UInt8 := do
  match ← optNat m "capture_fill" with
  | none => pure old
  | some n => if n < 256 then pure (UInt8.ofNat n) else bad "capture_fill must be a byte"

/-- The settings that may change at any time, in the order they are read. -/
def settingsOf (m : Value) : List (Setting VirtualPcm) :=
  [setting fun d => do return { d with state := ← present m "state" d.state readState },
   setting fun d => do return { d with hwPtr := UInt64.ofNat (← present m "hw_ptr" d.hwPtr.toNat u64Req) },
   setting fun d => do
     return { d with applPtr := UInt64.ofNat (← present m "appl_ptr" d.applPtr.toNat u64Req) },
   setting fun d => do return { d with running := ← boolOr m "running" d.running },
   setting fun d => do
     return { d with pendingXruns := ← present m "pending_xruns" d.pendingXruns u32Req },
   setting fun d => do return { d with maxChunk := ← nullable m "max_chunk" d.maxChunk natReq },
   setting fun d => do return { d with wouldBlock := ← boolOr m "would_block" d.wouldBlock },
   setting fun d => do return { d with zeroTransfer := ← boolOr m "zero_transfer" d.zeroTransfer },
   setting fun d => do return { d with mappableStatus := ← boolOr m "mappable_status" d.mappableStatus },
   setting fun d => do return { d with mappableData := ← boolOr m "mappable_data" d.mappableData },
   setting fun d => do return { d with waitResult := ← boolOr m "wait_result" d.waitResult },
   setting fun d => do return { d with captureFill := ← readCaptureFill m d.captureFill },
   setting fun d => do return { d with fd := ← nullable m "fd" d.fd i32Req },
   fun d => match m.given? "map_len" with
     | some (.obj ml) => .ok (readMapLengths (.obj ml) d)
     | _ => .ok d,
   setting fun d => do
     let b ← nullable m "boundary" (d.boundaryOverride.map UInt64.toNat) u64Req
     return { d with boundaryOverride := b.map UInt64.ofNat },
   setting fun d => do return { d with tstamp := ← readTimespec m "tstamp" d.tstamp },
   setting fun d => do return { d with runTstamp := ← readTimespec m "run_tstamp" d.runTstamp },
   fun d => match readFailures failPointOfKey? m d.failures with
     | .ok fs => .ok { d with failures := fs }
     | .error (e, fs) => .error (e, { d with failures := fs })]

/-- Applies the settings that may change at any time; a refusal keeps the settings read
before it. -/
def applySettings (m : Value) (d : VirtualPcm) : VirtualPcm × Option Fault :=
  settleAll d (settingsOf m)

/-- Builds a virtual device from its settings; it captures when asked, or else when the
stream is opened for capture, and gives up after a thousand waits. -/
def createVirtual (m : Value) (flags : OpenFlags) : Checked VirtualPcm := do
  let constraints ← match m.given? "constraints" with
    | none => pure defaultConstraints
    | some c => readConstraints c
  let capture ← boolOr m "capture" flags.capture
  let d : VirtualPcm :=
    { constraints := constraints, capture := capture, waitPatience := some 1000 }
  let d ← match m.given? "info" with
    | none => pure d
    | some i => do
      pure { d with card := ← i32Or i "card" 0,
                    device := UInt32.ofNat (← u32Or i "device" 0),
                    subdevice := UInt32.ofNat (← u32Or i "subdevice" 0) }
  match applySettings m d with
  | (d, none) => pure d
  | (_, some e) => .error e

/-- Marks the device bare when its settings ask, after the request's own switches. -/
def markBare (m : Value) (d : VirtualPcm) : Checked VirtualPcm := do
  return { d with bare := ← boolOr m "bare" false }

/-- The settings step: take the pointers back, apply the settings, publish the records.
A refused setting stops the step before the records are published. -/
def steerVirtual (m : Value) (d : VirtualPcm) : VirtualPcm × Option Fault :=
  match applySettings m d.pull with
  | (d, none) => (d.push, none)
  | (d, some e) => (d, some e)

/-- The snapshot of a virtual device, after it takes the pointers back. -/
def virtualSnapshot (d : VirtualPcm) : Value :=
  let d := d.pull
  .obj [("state", .str d.state.name), ("running", .bool d.running),
        ("hw_ptr", .nat d.hwPtr.toNat), ("appl_ptr", .nat d.applPtr.toNat),
        ("avail_min", .nat d.availMin.toNat), ("transferred", .nat d.transferred.toNat),
        ("calls", .obj (Tally.all.map fun t => (tallyKey t, .nat (d.calls t))))]

/-- Software parameters as an object. -/
def swParamsValue (sw : SwParams) : Value :=
  .obj [("tstamp_mode", .int sw.tstampMode), ("period_step", .nat sw.periodStep.toNat),
        ("avail_min", .nat sw.availMin.toNat), ("xfer_align", .nat sw.xferAlign.toNat),
        ("start_threshold", .nat sw.startThreshold.toNat),
        ("stop_threshold", .nat sw.stopThreshold.toNat),
        ("silence_threshold", .nat sw.silenceThreshold.toNat),
        ("silence_size", .nat sw.silenceSize.toNat), ("boundary", .nat sw.boundary.toNat)]

/-- What the virtual device keeps about its configuration. -/
def virtualDetails (d : VirtualPcm) : Value :=
  .obj [("buffer_size", .nat d.bufferSize.toNat), ("frame_bytes", .nat d.frameBytes),
        ("tstamp_type", .opt .int d.tstampType),
        ("last_wait_timeout", .opt .int d.lastWaitTimeout),
        ("sw", .opt swParamsValue d.sw)]

end SoundCard.Service
