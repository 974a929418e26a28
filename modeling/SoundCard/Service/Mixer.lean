import SoundCard.Service.Records
import SoundCard.Service.Virtual
import SoundCard.Control.Value
import SoundCard.Control.Dump
import SoundCard.Virtual.Card
import SoundCard.Service.Script
/-! Step scripts over control registries opened on one virtual card, each step answering its
result and a snapshot of the card. -/
namespace SoundCard.Service

open SoundCard.Wire SoundCard.Control SoundCard.Virtual

def vc : ControlDevice VirtualCard := VirtualCard.device

/-- A script's state: the card and the registries opened on it. -/
structure MixerSession where
  card : VirtualCard
  handles : List (Option Mixer)

/-- The key a request is counted and failed under. -/
def cardCallKey : CardCall → String
  | .cardInfo => "card_info" | .elemCount => "elem_count" | .elemIds => "elem_ids"
  | .elemInfo => "elem_info" | .elemRead => "elem_read" | .elemWrite => "elem_write"
  | .tlvRead => "tlv_read" | .tlvWrite => "tlv_write" | .subscribe => "subscribe"
  | .waitEvent => "wait_event" | .readEvent => "read_event"

def cardCallOfKey? (k : String) : Option CardCall := CardCall.all.find? (cardCallKey · == k)

/-- The report of the card: counted requests, the last listing, the queue length and
whether notifications are on. -/
def cardSnapshot (v : VirtualCard) : Value :=
  .obj [("calls", .obj (CardCall.all.map fun t => (cardCallKey t, .nat (v.calls t)))),
        ("last_list", .opt (fun (o, s) => .arr [.nat o.toNat, .nat s.toNat]) v.lastList),
        ("events", .nat v.events.length), ("subscribed", .bool v.subscribed)]

/-- The report of a registry. -/
def mixerInfoValue (m : Mixer) : Value :=
  .obj [("name", .str m.name), ("long_name", .str m.longName),
        ("mixer_name", .str m.mixerName), ("driver_name", .str m.driverName),
        ("card", .int m.cardNumber), ("num_ctls", .nat m.numControls)]

/-- The report of a registry entry. -/
def controlMetaValue (c : Entry) : Value :=
  .obj [("id", .nat c.ctlId), ("numid", .nat c.numid.toNat), ("name", .str c.name),
        ("index", .nat c.index.toNat), ("type", .str c.elemType.text),
        ("type_debug", .str c.elemType.debugName), ("num_values", .nat c.numValues),
        ("range_min", .opt .int c.rangeMin?), ("range_max", .opt .int c.rangeMax?),
        ("step", .opt .int c.step?), ("num_enums", .nat c.numItems),
        ("tlv_rw", .bool c.tlvReadWrite), ("enum_names", .opt (.list .str) c.enumNames)]

/-- The fields of an entry's info record, read from its area whatever its type. -/
def rawInfoValue (i : ElemInfo) : Value :=
  .obj [("numid", .nat i.id.numid.toNat), ("type", .int i.type),
        ("access", .nat i.access.toNat), ("count", .nat i.count.toNat),
        ("integer_min", .int i.integerMin), ("integer_max", .int i.integerMax),
        ("integer_step", .int i.integerStep), ("enum_items", .nat i.enumItems.toNat),
        ("enum_item", .nat i.enumItem.toNat), ("enum_name", .str i.enumName),
        ("value_u64_0", .nat i.firstWord)]

/-- The answer of an operation: its value, or its error object. -/
def mixerResult : Except MixerError Value → Value
  | .ok v => v
  | .error e => mixerErrorValue e

/-- Reads an element type: a name or a kernel code; `int` when absent. -/
def readControlType (v : Value) : Checked Int :=
  match v.given? "type" with
  | none => pure 2
  | some (.str s) =>
    match [("bool", 1), ("int", 2), ("enum", 3), ("bytes", 4), ("iec958", 5),
           ("int64", 6)].lookup s with
    | some n => pure n
    | none => bad s!"unknown control type '{s}'"
  | some _ => i32Req v "type"

/-- Reads a list of 64-bit integers; absent is the empty list. -/
def readI64s (v : Value) (key : String) : Checked (List Int) :=
  match v.given? key with
  | none => pure []
  | some (.arr xs) => xs.mapM fun
    | .int i => if isI64 i then pure i else bad s!"{key} must be i64 integers"
    | _ => bad s!"{key} must be i64 integers"
  | some _ => bad s!"{key} must be a list"

/-- Reads a list of texts; absent is the empty list. -/
def readItems (v : Value) (key : String) : Checked (List String) :=
  match v.given? key with
  | none => pure []
  | some (.arr xs) => xs.mapM fun
    | .str s => pure s
    | _ => bad s!"{key} must be strings"
  | some _ => bad s!"{key} must be a list"

/-- A text setting read leniently: anything but a text is absent. -/
def looseText (v : Value) (key : String) : Option String :=
  match v.given? key with
  | some (.str s) => some s
  | _ => none

/-- A signed 64-bit setting read leniently. -/
def looseI64 (v : Value) (key : String) : Option Int :=
  match v.given? key with
  | some (.int i) => if isI64 i then some i else none
  | _ => none

/-- Reads an element of the virtual card; only the name falls back to its default when it is
not a text. -/
def readControlSpec (v : Value) : Checked VirtualControl := do
  let type ← readControlType v
  let values ← readI64s v "values"
  let bytes ← bytesOr v "bytes" []
  let items ← readItems v "items"
  let access ← u32Or v "access" Access.readWrite.toNat
  let tlvReadWrite ← boolOr v "tlv_rw" false
  let index ← u32Or v "index" 0
  let count ← u32Or v "count" (if type = 4 then bytes.length else values.length)
  let lo ← i64Or v "min" 0
  let hi ← i64Or v "max" (if type = 1 then 1 else 0)
  let tlv ← bytesOr v "tlv" []
  let access := UInt32.ofNat access
  return { name := (looseText v "name").getD "", index := UInt32.ofNat index, type := type,
           count := UInt32.ofNat count,
           access := if tlvReadWrite then access ||| Access.tlvReadWrite else access,
           min := lo, max := hi, items := items, values := values, bytes := bytes, tlv := tlv }

/-- Reads a card identity leniently: a field of the wrong kind keeps its default, and the
card number keeps the low 32 bits of a 64-bit integer, as a signed value. -/
def readIdentity (v : Value) : CardIdentity :=
  let d : CardIdentity := {}
  { card := ((looseI64 v "card").map (Int.bmod · 4294967296)).getD d.card,
    id := (looseText v "id").getD d.id, driver := (looseText v "driver").getD d.driver,
    name := (looseText v "name").getD d.name,
    longName := (looseText v "longname").getD d.longName,
    mixerName := (looseText v "mixername").getD d.mixerName }

/-- The failing info request and the count override, read in that order. -/
def cardLimitsOf (v : Value) : List (Setting VirtualCard) :=
  [setting fun c => do
     let failing ← nullable v "failing_info" (c.failingInfo.map (·.toNat)) u32Req
     return { c with failingInfo := failing.map UInt32.ofNat },
   setting fun c => do
     let count ← nullable v "count_override" (c.countOverride.map (·.toNat)) u32Req
     return { c with countOverride := count.map UInt32.ofNat }]

/-- The settings that may change at any time, in the order they are read: the failing
info request, the count override, then the failures (a `null` error number clears one). -/
def cardSettingsOf (v : Value) : List (Setting VirtualCard) :=
  cardLimitsOf v ++
  [fun c => match readFailures cardCallOfKey? v c.failures with
     | .ok fs => .ok { c with failures := fs }
     | .error (e, fs) => .error (e, { c with failures := fs })]

/-- The failure a new card starts with for a setting: a 64-bit number keeps its low 32
bits as a signed code, `null` clears; `none` passes over any other value. -/
def initialFailCode? : Value → Option (Option Int)
  | .null => some none
  | .int i => if isI64 i then some (some (Int.bmod i 4294967296)) else none
  | _ => none

/-- The failures a new card starts with, read leniently. -/
def initialFailures (v : Value) (old : CardCall → Option Int) : CardCall → Option Int :=
  match v.given? "fail" with
  | some (.obj fields) => fields.foldl (fun (fs : CardCall → Option Int) (k, x) =>
      match initialFailCode? x, cardCallOfKey? k with
      | some code, some t => fun u => if u = t then code else fs u
      | _, _ => fs) old
  | _ => old

/-- Builds the virtual card of a script. -/
def createCard (v : Value) : Checked VirtualCard := do
  let controls ← match v.given? "controls" with
    | none | some (.str "typical") => pure typicalControls
    | some (.arr xs) => xs.mapM readControlSpec
    | some _ => bad "controls must be \"typical\" or a list"
  let identity := match v.given? "info" with
    | some i => readIdentity i
    | none => {}
  let c : VirtualCard := { controls := controls, identity := identity }
  let c := { c with failures := initialFailures v c.failures }
  match applyAll c (cardLimitsOf v) with
  | .ok c => pure c
  | .error (e, _) => .error e

def cardDump (c : VirtualCard) : Value :=
  .list (fun (x : VirtualControl) => .obj [("name", .str x.name), ("values", .list .int x.values),
    ("bytes", .bytes x.bytes), ("tlv", .bytes x.tlv), ("items", .list .str x.items)]) c.controls

/-- Opens a registry on the card and adds its handle. -/
def openHandle (s : MixerSession) : Value × MixerSession :=
  let (r, card) := Mixer.openWith vc s.card
  (mixerResult (mixerInfoValue <$> r),
   { card := card, handles := s.handles ++ [r.toOption] })

/-- The operation a control step runs on its entry; `none` for a step that is not one. -/
def controlAction (op : String) (st : Value) : Option (Checked (ControlM VirtualCard Value)) :=
  match op with
  | "meta" => some (pure do return controlMetaValue (← Entry.current))
  | "max_bytes" => some (pure do return .nat (← Entry.current).maxBytes)
  | "get_value" => some do
    let i ← u32Or st "value_index" 0
    return .int <$> Entry.getValue vc i
  | "set_value" => some do
    let i ← u32Or st "value_index" 0
    let x ← i64Req st "value"
    return (fun _ => okText) <$> Entry.setValue vc i x
  | "get_array" => some do
    let n ← natReq st "count"
    trapped (Os.reserve n 8)
    return .list .int <$> Entry.getArray vc n
  | "set_array" => some do
    let xs ← match st.given? "values" with
      | some (.arr xs) => xs.mapM fun
        | .int i => if isI64 i then pure i else bad "values must be i64 integers"
        | _ => bad "values must be i64 integers"
      | _ => bad "values must be i64 integers"
    return (fun _ => okText) <$> Entry.setArray vc xs
  | "get_bytes" => some do
    let n ← natReq st "len"
    trapped (Os.reserve n 1)
    return .bytes <$> Entry.getBytes vc n
  | "set_bytes" => some do
    let data ← bytesOr st "data" []
    return (fun _ => okText) <$> Entry.setBytes vc data
  | "get_percent" => some do
    let i ← u32Or st "value_index" 0
    return .int <$> Entry.getPercent vc i
  | "set_percent" => some do
    let i ← u32Or st "value_index" 0
    let p ← i32Req st "percent"
    return (fun _ => okText) <$> Entry.setPercent vc i p
  | "enum_string" => some do
    let i ← u32Req st "item"
    return .str <$> Entry.itemName vc i
  | "set_enum_by_string" => some do
    let n ← strReq st "item_name"
    return (fun _ => okText) <$> Entry.selectItem vc n
  | "update" => some (pure ((fun _ => okText) <$> Entry.update vc))
  | "raw_info" => some (pure do return rawInfoValue (← Entry.current).info)
  | "ctl_debug" => some (pure do return .str (← Entry.current).handleDebugText)
  | _ => none

/-- Runs a registry operation on handle `h`. -/
def onHandle (s : MixerSession) (h : Nat) (m : Mixer) (op : MixerM VirtualCard Value) :
    Value × MixerSession :=
  let (r, o) := op.exec s.card m
  (mixerResult r, { card := o.card, handles := s.handles.set h (some o.subject) })

/-- Runs a control step on handle `h`: picks the entry by name and index, or else by
position, and answers `null` when there is none. -/
def controlStep (s : MixerSession) (h : Nat) (m : Mixer) (op : String) (name? : Option String)
    (st : Value) : Checked (Value × MixerSession) := do
  let pos ← match name? with
    | some name => do
      let index ← natOr st "index" 0
      pure (m.position name index)
    | none => do
      let id ← natReq st "id"
      pure (if id < m.controls.length then some id else none)
  match pos.bind (fun p => (m.controls[p]?).map (p, ·)) with
  | none => pure (.null, s)
  | some (p, c) =>
    match controlAction op st with
    | none => bad s!"unknown mixer step '{op}'"
    | some action => do
      let (r, o) := (← action).exec s.card c
      let m := { m with controls := m.controls.set p o.subject }
      pure (mixerResult r, { card := o.card, handles := s.handles.set h (some m) })

def nameField : Option String → Checked String
  | none => bad "missing name"
  | some name => pure name

/-- Runs a step on a registry; `name?` is the step's `name`, read before anything else. -/
def registryStep (s : MixerSession) (h : Nat) (m : Mixer) (op : String) (name? : Option String)
    (st : Value) : Checked (Value × MixerSession) :=
  let plain (x : Value) : Checked (Value × MixerSession) := pure (x, s)
  match op with
  | "scan" => pure (onHandle s h m (do return .nat (← Mixer.scan vc)))
  | "info" => plain (mixerInfoValue m)
  | "controls" => plain (.list controlMetaValue m.controls)
  | "ctl" => do
    let id ← natReq st "id"
    plain (.opt controlMetaValue m.controls[id]?)
  | "ctl_by_name" => do
    let name ← nameField name?
    let index ← natOr st "index" 0
    plain (.opt controlMetaValue ((m.position name index).bind (m.controls[·]?)))
  | "num_ctls_by_name" => do plain (.nat (m.countNamed (← nameField name?)))
  | "subscribe" => do
    let enable ← boolOr st "enable" true
    pure (onHandle s h m (do Mixer.subscribe vc enable; return okText))
  | "wait_event" => do
    let timeout ← i32Or st "timeout" 0
    pure (onHandle s h m (do
      return .str (if ← Mixer.waitEvent vc timeout then "Ready" else "Timeout")))
  | "read_event" => pure (onHandle s h m (do return .opt elemEventValue (← Mixer.readEvent vc)))
  | "debug" => plain (.str m.debugText)
  | _ => controlStep s h m op name? st

/-- Runs a step that changes the card itself. -/
def cardStep (s : MixerSession) (op : String) (st : Value) :
    Option (Checked (Value × MixerSession)) :=
  let card (c : VirtualCard) : Checked (Value × MixerSession) := pure (okText, { s with card := c })
  let spec : Checked VirtualControl := match st.given? "control" with
    | some c => readControlSpec c
    | none => bad "missing control"
  match op with
  | "open" => some do
    let (r, s) := openHandle s
    pure (.obj [("handle", .nat (s.handles.length - 1)), ("open", r)], s)
  | "card_push" => some do
    let c ← spec
    card { s.card with controls := s.card.controls ++ [c] }
  | "card_truncate" => some do
    let n ← natReq st "len"
    card { s.card with controls := s.card.controls.take n }
  | "card_replace" => some do
    let c ← spec
    let pos ← natReq st "pos"
    if pos < s.card.controls.length then
      card { s.card with controls := s.card.controls.set pos c }
    else bad "no control at pos"
  | "card_set" => some do
    match settleAll s.card (cardSettingsOf st) with
    | (c, none) => card c
    | (c, some f) => pure (f.toValue, { s with card := c })
  | "card_event" => some do
    let type ← i32Or st "type" 0
    let mask ← u32Or st "mask" 0
    let id := ElemId.named (UInt32.ofNat (← u32Or st "numid" 0)) ((looseText st "name").getD "")
      (UInt32.ofNat (← u32Or st "index" 0))
    let e : Event := { type := type, mask := UInt32.ofNat mask, id := id }
    card { s.card with events := s.card.events ++ [e] }
  | "card_dump" => some (pure (cardDump s.card, s))
  | _ => none

/-- Runs one step of a script. -/
def mixerStep (s : MixerSession) (st : Value) : Checked (Value × MixerSession) := do
  let op ← readOp st
  match cardStep s op st with
  | some r => r
  | none => do
    let h ← natOr st "h" 0
    match s.handles[h]? with
    | some (some m) => registryStep s h m op (← strOrNull st "name") st
    | _ => .error .noHandle

/-- Answers a `mixer` request: opens handle 0 on the card, then runs the steps. -/
def answerMixer (v : Value) : Checked Value := do
  let card ← createCard ((v.given? "card").getD (.obj []))
  let steps := listOr v "steps"
  let (opened, s0) := openHandle { card := card, handles := [] }
  let outs ← runSteps mixerStep (fun s => [("card", cardSnapshot s.card)]) s0 steps
  pure (okValue (.obj [("open", .obj [("open", opened), ("card", cardSnapshot s0.card)]),
                       ("steps", .arr outs)]))

end SoundCard.Service
