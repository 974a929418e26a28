import SoundCard.Service.Virtual
import SoundCard.Service.Script
import SoundCard.Pcm.Ring
/-! Step scripts over a pointer ring set up directly on a virtual device. -/
namespace SoundCard.Service

open SoundCard.Wire SoundCard.Pcm SoundCard.Virtual

/-- Runs a device request on the virtual device; a request that stops the program ends
the request. -/
def onVirtual {α : Type} (m : DeviceM VirtualPcm α) (d : VirtualPcm) :
    Checked (Except Os.IoError α × VirtualPcm) :=
  trapped ((ExceptT.run m).run d)

/-- One step of a ring script. -/
def ringStep (rd : Ring × VirtualPcm) (st : Value) : Checked (Value × (Ring × VirtualPcm)) := do
  let D := VirtualPcm.driver
  let (r, d) := rd
  match ← readOp st with
  | "sync" => do
    let flags ← u32Or st "flags" 0
    match ← onVirtual (r.sync D (UInt32.ofNat flags)) d with
    | (.ok r', d') => pure (okText, (r', d'))
    | (.error e, d') => pure (ioErrorValue e, (r, d'))
  | "is_mapped" => pure (.bool r.isMapped, rd)
  | "hw_ptr" => pure (.nat (r.hwPtr D d).toNat, rd)
  | "appl_ptr" => pure (.nat (r.applPtr D d).toNat, rd)
  | "avail_min" => pure (.nat (r.availMin D d).toNat, rd)
  | "state" => pure (.int (r.state D d), rd)
  | "tstamp" =>
    let t := r.tstamp D d
    pure (.obj [("sec", .int t.sec), ("nsec", .int t.nsec), ("zero", .bool t.isZero)], rd)
  | "set_appl_ptr" => do
    let v ← u64Req st "value"
    pure (okText, r.setApplPtr D (UInt64.ofNat v) d)
  | "set_avail_min" => do
    let v ← u64Req st "value"
    pure (okText, r.setAvailMin D (UInt64.ofNat v) d)
  | "mock" =>
    match steerVirtual st d with
    | (d, none) => pure (okText, (r, d))
    | (d, some f) => pure (f.toValue, (r, d))
  | op => bad s!"unknown ring step '{op}'"

/-- The ring script request. -/
def answerRing (v : Value) : Checked Value := do
  let device ← createVirtual ((v.given? "mock").getD (.obj [])) {}
  let device ← markBare ((v.given? "mock").getD (.obj [])) device
  let syncOnly ← boolOr v "force_sync_ptr" false
  let availMin ← u64Or v "avail_min" 1
  let steps := listOr v "steps"
  match ← onVirtual (Ring.establish VirtualPcm.driver syncOnly (UInt64.ofNat availMin)) device with
  | (.error e, d) =>
    pure (okValue (.obj [("establish", ioErrorValue e), ("mock", virtualSnapshot d)]))
  | (.ok r, d) =>
    let outs ← runSteps ringStep (fun rd => [("mock", virtualSnapshot rd.2)]) (r, d) steps
    pure (okValue (.obj [("establish", .obj [("mapped", .bool r.isMapped)]),
                         ("steps", .arr outs)]))

end SoundCard.Service
