import SoundCard.Service.Pure
import SoundCard.Control.Tlv
import SoundCard.Control.Element
import SoundCard.Control.Error
import SoundCard.Pcm.Records
/-! Requests on the records of the control interface, on control errors, and on shared
memory regions. -/
namespace SoundCard.Service

open SoundCard.Wire SoundCard.Control SoundCard.Pcm

def mixerErrorValue (e : MixerError) : Value :=
  .obj [("error", .str e.kind), ("message", .str e.message), ("errno", .opt .int e.errno?)]

/-- The answer object of a decoded element event. -/
def elemEventValue (e : ElemEvent) : Value :=
  .obj [("numid", .nat e.numid.toNat), ("ctl_id", .nat e.ctlId), ("name", .str e.name),
        ("index", .nat e.index.toNat), ("mask", .list .str e.maskNames),
        ("mask_bits", .nat e.mask.toNat), ("removed", .bool e.removed)]

def elemTypeValue (t : ElemType) : Value :=
  .obj [("type", .str t.text), ("display", .str t.text), ("debug", .str t.debugName)]

/-- A required list of 32-bit words. -/
def readWords (v : Value) (key : String) : Checked (List UInt32) :=
  match v.given? key with
  | some (.arr xs) => xs.mapM fun
    | .int i => if 0 ≤ i ∧ i < 4294967296 then pure (UInt32.ofNat i.toNat)
      else bad s!"{key} must be u32 integers"
    | _ => bad s!"{key} must be u32 integers"
  | _ => bad s!"{key} must be u32 integers"


def wordsValue (ws : List UInt32) : Value := .list (fun w => .nat w.toNat) ws

/-- The answer object of a region. -/
def regionFields (r : Region) : List (String × Value) :=
  [("len", .nat r.len), ("is_empty", .bool (r.len = 0)), ("kernel", .bool r.isKernel),
   ("alias", .bool r.aliasable), ("typed_8", .bool (r.holds 8)),
   ("typed_16", .bool (r.holds 16)), ("debug", .str r.debugText)]

/-- A region, with a byte written at `poke` and read back through a second handle on the
same memory. -/
def regionReport (r : Region) (poke : Option Nat) (byte : Option UInt8) : Value :=
  let peek : List (String × Value) := match poke, byte with
    | some p, some byte => if p < r.len then
        match r with
        | .heap bs => [("peek", .nat ((bs.toList.set p byte).getD p 0).toNat)]
        | .kernel _ => []
      else []
    | _, _ => []
  .obj (regionFields r ++ peek)

/-- Answers a request on control records or regions; `none` when the operation is not one
of them. -/
def answerRecords (op : String) (v : Value) : Option (Checked Value) :=
  match op with
  | "mixer_invalid" => some do
    return okValue (mixerErrorValue (.invalid (← strReq v "text")))
  | "tlv" => some do
    let payload ← bytesOr v "payload" []
    let len ← natOr v "len" payload.length
    let numid ← u32Req v "numid"
    trapped (Os.reserve (2 + (len + 3) / 4) 4)
    let buf := tlvBuffer (UInt32.ofNat numid) len
    let filled := tlvFill buf payload
    return okValue (.obj [("buffer", wordsValue buf), ("filled", wordsValue filled),
                          ("payload", .bytes (tlvPayload filled))])
  | "tlv_payload" => some do
    return okValue (.bytes (tlvPayload (← readWords v "words")))
  | "elem_id_named" => some do
    let id := ElemId.named (UInt32.ofNat (← u32Req v "numid")) (← strReq v "name")
      (UInt32.ofNat (← u32Or v "index" 0))
    return okValue (.obj [("numid", .nat id.numid.toNat), ("iface", .int id.iface),
      ("index", .nat id.index.toNat), ("name", .str id.nameText),
      ("name_bytes", .nat (id.name.takeWhile (· != 0)).length)])
  | "enum_name" => some do
    let info := (({} : ElemInfo).setEnumItems (UInt32.ofNat (← u32Or v "items" 0))).setEnumItem
      (UInt32.ofNat (← u32Or v "item" 0))
    let info := info.setEnumName (← strReq v "name")
    return okValue (.obj [("name", .str info.enumName), ("items", .nat info.enumItems.toNat),
                          ("item", .nat info.enumItem.toNat)])
  | "ctl_type" => some do
    return okValue (elemTypeValue (ElemType.ofRaw (← i32Req v "raw")))
  | "ctl_event" => some do
    let type ← i32Or v "type" 0
    let mask ← u32Or v "mask" 0
    let name := match v.field? "name" with
      | some (.str s) => s
      | _ => ""
    let id := ElemId.named (UInt32.ofNat (← u32Or v "numid" 0)) name
      (UInt32.ofNat (← u32Or v "index" 0))
    let e : Event := { type := type, mask := UInt32.ofNat mask, id := id }
    return okValue (elemEventValue (ElemEvent.ofEvent e))
  | "region" => some do
    let len ← natReq v "len"
    let r ← trapped (Region.heapOf len)
    match v.given? "poke", v.given? "byte" with
    | some p, some _ =>
      let poke ← match p with
        | .int i => if 0 ≤ i ∧ i < 18446744073709551616 then pure i.toNat else bad "poke must be an offset"
        | _ => bad "poke must be an offset"
      let byte ← optByte v "byte" "byte must be a byte"
      return okValue (regionReport r (some poke) byte)
    | _, _ => return okValue (regionReport r none none)
  | _ => none

end SoundCard.Service
