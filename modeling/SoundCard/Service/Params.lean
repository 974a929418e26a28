import SoundCard.Service.Pure
import SoundCard.Service.Script
/-! Step scripts over masks, intervals and parameter records: each step acts on the value
and answers a result together with the value afterwards. -/
namespace SoundCard.Service

open SoundCard.Wire SoundCard.Pcm SoundCard.Hw SoundCard.Os

/-- Reads a mask: `"full"`, `"empty"` or eight 32-bit words. -/
def readMask (v : Value) : Checked Mask :=
  match v with
  | .str "full" => pure Mask.full
  | .str "empty" => pure Mask.empty
  | .arr ws =>
    if ws.length != 8 then bad "mask must be \"full\", \"empty\" or 8 u32 words"
    else do
      let ns ← ws.mapM fun
        | .int i => if 0 ≤ i ∧ i < 4294967296 then pure i.toNat else bad "mask words must be u32"
        | _ => bad "mask words must be u32"
      pure (Mask.ofWords ns)
  | _ => bad "mask must be \"full\", \"empty\" or 8 u32 words"

def maskValue (m : Mask) : Value := .list Value.nat m.words

/-- One step on a mask: the result and the mask afterwards. -/
def maskStep (m : Mask) (s : Value) : Checked (Value × Mask) := do
  match ← readOp s with
  | "set" => do return (.null, m.set (← u32Req s "bit"))
  | "set_only" => do return (.null, m.setOnly (← u32Req s "bit"))
  | "test" => do return (.bool (m.test (← u32Req s "bit")), m)
  | "intersect" => do
    match s.given? "with" with
    | some w => return (.null, m.inter (← readMask w))
    | none => bad "missing 'with'"
  | "first" => pure (.opt Value.nat m.first?, m)
  | "iter" => pure (.list Value.nat m.members, m)
  | "is_empty" => pure (.bool m.isEmpty, m)
  | op => bad s!"unknown mask step '{op}'"

/-- The mask script request. -/
def answerMask (v : Value) : Checked Value := do
  let m0 ← match v.given? "init" with
    | none => pure Mask.empty
    | some i => readMask i
  let steps := listOr v "steps"
  pure (okValue (.arr (← runSteps maskStep (fun m => [("mask", maskValue m)]) m0 steps)))

/-- One step on an interval. -/
def intervalStep (i : Interval) (s : Value) : Checked (Value × Interval) := do
  match ← readOp s with
  | "clamp" => do
    let lo ← u32Req s "min"
    let hi ← u32Req s "max"
    return (.null, i.clampTo (UInt32.ofNat lo) (UInt32.ofNat hi))
  | "set_integer" => do return (.null, i.setInteger (UInt32.ofNat (← u32Req s "value")))
  | "single" => pure (.opt (fun x : UInt32 => .nat x.toNat) i.single?, i)
  | "is_empty" => pure (.bool i.isEmpty, i)
  | "is_integer" => pure (.bool i.isInteger, i)
  | op => bad s!"unknown interval step '{op}'"

/-- The interval script request. -/
def answerInterval (v : Value) : Checked Value := do
  let i0 ← match v.given? "init" with
    | none => pure Interval.full
    | some x => do
      let lo ← u32Or x "min" 0
      let hi ← u32Or x "max" 0xFFFFFFFF
      let fl ← u32Or x "flags" 0
      pure (⟨UInt32.ofNat lo, UInt32.ofNat hi, UInt32.ofNat fl⟩ : Interval)
  let steps := listOr v "steps"
  pure (okValue (.arr (← runSteps intervalStep
    (fun i => [("interval", .list Value.nat i.triple)]) i0 steps)))

/-- Reads an interval triple of a raw record. -/
def readTriple : Value → Checked Interval
  | .arr [.int a, .int b, .int c] =>
    if [a, b, c].all fun x => 0 ≤ x ∧ x < 4294967296 then
      pure ⟨UInt32.ofNat a.toNat, UInt32.ofNat b.toNat, UInt32.ofNat c.toNat⟩
    else bad "intervals are [min, max, flags] u32 triples"
  | _ => bad "intervals are [min, max, flags] u32 triples"

/-- Reads a raw parameter record in the order of its fields, each optional and zero when
absent. -/
def readRawParams (v : Value) : Checked HwParams := do
  let w (k : String) : Checked UInt32 := do return UInt32.ofNat (← u32Or v k 0)
  let flags ← w "flags"
  let masks ← match v.field? "masks" with
    | some (.arr ms) => (ms.take 3).mapM readMask
    | _ => pure []
  let intervals ← match v.field? "intervals" with
    | some (.arr is) => (is.take 12).mapM readTriple
    | _ => pure []
  pure { flags := flags,
         masks := Vector.ofFn fun i => (masks[i.val]?).getD Mask.empty,
         intervals := Vector.ofFn fun i => (intervals[i.val]?).getD Interval.zero,
         rmask := ← w "rmask", cmask := ← w "cmask", info := ← w "info",
         msbits := ← w "msbits", rateNum := ← w "rate_num", rateDen := ← w "rate_den" }

/-- Reads the `param` field as a parameter; an unknown index is an invalid argument. -/
def readParam (s : Value) : Checked (Except StreamError Param) := do
  let i ← u32Req s "param"
  pure <| match Param.ofIndex? i with
    | some q => .ok q
    | none => .error (.invalidArgument s!"unknown hw parameter index {i}")

/-- A setting step on a record, used for both the record and a narrowing partner; `none`
when the step is not a setting. The parameter is looked up before the value is read. -/
def setStep (p : HwParams) (s : Value) (op : String) :
    Checked (Option (Except StreamError HwParams)) := do
  match op with
  | "set_mask_bit" => do
    match ← readParam s with
    | .error e => pure (some (.error e))
    | .ok q => return some (.ok (p.setMaskBit q (← u32Req s "bit")))
  | "set_min" | "set_max" | "set_int" => do
    match ← readParam s with
    | .error e => pure (some (.error e))
    | .ok q =>
      let x := UInt32.ofNat (← u32Req s "value")
      return some (.ok (if op == "set_min" then p.setMin q x
        else if op == "set_max" then p.setMax q x else p.setInt q x))
  | _ => pure none

/-- Builds a narrowing partner from `any` by setting steps; the first refusal stops it. -/
def narrowingPartner (steps : List Value) : Checked (Except StreamError HwParams) :=
  steps.foldlM (fun o st => do
    match o with
    | .error e => pure (.error e)
    | .ok o =>
      let op ← readOp st
      match ← setStep o st op with
      | some r => pure r
      | none => bad s!"unknown narrow_to step '{op}'") (.ok HwParams.any)

/-- Applies constraints to a record by refining or choosing. -/
def constrainStep (p : HwParams) (s : Value) (choose : Bool) : Checked (Value × HwParams) := do
  match s.given? "constraints" with
  | none => bad "missing constraints"
  | some c =>
    let c ← readConstraints c
    let r := if choose then c.choose p else c.refine p
    pure (if r.admitted then okText else ioErrorValue (.os Errno.invalid), r.params)

/-- A query on an interval parameter. -/
def paramQuery (s : Value) (f : Param → Value) : Checked Value := do
  pure <| match ← readParam s with
    | .ok q => f q
    | .error e => streamErrorValue e

/-- One step on a parameter record, or on no record at all. -/
def paramsStep (p? : Option HwParams) (s : Value) : Checked (Value × Option HwParams) := do
  let op ← readOp s
  match op with
  | "get_min" => return (← paramQuery s fun q => .nat ((p?.map (fun p : HwParams => p.min q)).getD 0).toNat, p?)
  | "get_max" => return (← paramQuery s fun q => .nat ((p?.map (fun p : HwParams => p.max q)).getD 0).toNat, p?)
  | "get_mask" => return (← paramQuery s fun q => .opt maskValue (p?.bind (fun p : HwParams => p.mask q)), p?)
  | _ =>
  match p? with
  | none => bad "no parameter set"
  | some p =>
  match ← setStep p s op with
  | some (.ok p') => pure (.null, some p')
  | some (.error e) => pure (streamErrorValue e, p?)
  | none =>
  match op with
  | "min" => return (← paramQuery s fun q => .nat (p.min q).toNat, p?)
  | "max" => return (← paramQuery s fun q => .nat (p.max q).toNat, p?)
  | "single" => return (← paramQuery s fun q => .opt (fun x : UInt32 => .nat x.toNat) (p.single? q), p?)
  | "mask" => return (← paramQuery s fun q => .opt maskValue (p.mask q), p?)
  | "interval" => return (← paramQuery s fun q => .opt (fun i : Interval => .list Value.nat i.triple) (p.interval q), p?)
  | "raw_mask" => do
    let i ← u32Req s "index"
    return (.opt maskValue (p.mask? i), p?)
  | "raw_interval" => do
    let i ← u32Req s "index"
    return (.opt (fun i : Interval => .list Value.nat i.triple) (p.interval? i), p?)
  | "is_empty" => pure (.bool p.isEmpty, p?)
  | "formats" => pure (.list (fun f : SampleFormat => .str f.name) p.formats, p?)
  | "supports_format" => do
    let s ← strReq s "format"
    pure <| match SampleFormat.parse? s with
      | some f => (.bool (p.supportsFormat f), p?)
      | none => (invalidValue s!"unknown sample format '{s}'", p?)
  | "display" => pure (.str p.summary, p?)
  | "narrow_to" => do
    let other := (s.given? "other").getD (.obj [])
    match ← narrowingPartner (listOr other "steps") with
    | .ok o => pure (.null, some (p.narrowTo o))
    | .error e => pure (streamErrorValue e, p?)
  | "refine" => do
    let (r, p') ← constrainStep p s false
    pure (r, some p')
  | "choose" => do
    let (r, p') ← constrainStep p s true
    pure (r, some p')
  | op => bad s!"unknown params step '{op}'"

/-- The parameter-record script request. -/
def answerParams (v : Value) : Checked Value := do
  let p0 ← match v.given? "init" with
    | none | some (.str "any") | some (.str "default") => pure (some HwParams.any)
    | some (.str "null") => pure none
    | some (.obj fs) => match (Value.obj fs).field? "raw" with
      | some r => do pure (some (← readRawParams r))
      | none => do
        let x := Value.obj fs
        let c ← readConfigField x
        let flags ← readFlags x
        pure (some (HwParams.ofConfig c flags))
    | some _ => bad "init must be \"any\", \"default\", \"null\" or \x7bconfig, flags\x7d"
  let steps := listOr v "steps"
  let dump (p? : Option HwParams) : Value := .opt paramsValue p?
  pure (okValue (.obj [("init", dump p0),
    ("steps", .arr (← runSteps paramsStep (fun p => [("params", dump p)]) p0 steps))]))

end SoundCard.Service
