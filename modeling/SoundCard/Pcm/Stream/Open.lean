import SoundCard.Pcm.Stream.Basic
import SoundCard.Pcm.Pointer
/-! Opening a stream over a device and renegotiating it; the negotiation's first failed step
ends it. -/
namespace SoundCard.Pcm

open SoundCard.Os SoundCard.Hw

/-- What a successful negotiation settles. -/
structure Negotiated where
  config : StreamConfig
  bufferSize : UInt64
  boundary : UInt64
  card : UInt32
  device : UInt32
  subdevice : UInt32
  ring : Ring
  data : Option Region

/-- A setup step: device requests whose failures are stream errors. -/
abbrev SetupM (σ : Type) := ExceptT StreamError (StateT σ Trapping)

variable {σ : Type}

/-- Runs a device request inside a setup step, keeping its outcome as a value. -/
def SetupM.attempt {α : Type} (m : DeviceM σ α) : SetupM σ (Except IoError α) :=
  ExceptT.lift (ExceptT.run m)

/-- Runs a device request inside a setup step; a device error becomes a driver error
with the given context. -/
def SetupM.request {α : Type} (context : String) (m : DeviceM σ α) : SetupM σ α :=
  ExceptT.adapt (StreamError.driver context) m

/-- The configuration after the device pinned its parameters: the period size it chose
(when non-zero), its period count and its rate. -/
def StreamConfig.settle (req : StreamConfig) (p : HwParams) : StreamConfig :=
  let ps := (p.single? .periodSize).getD (p.min .periodSize)
  let c := if ps ≠ 0 ∧ ps ≠ req.periodSize then { req with periodSize := ps } else req
  let c := match p.single? .periods with
    | some n => { c with periodCount := n }
    | none => c
  match p.single? .rate with
  | some r => if r ≠ c.rate then { c with rate := r } else c
  | none => c

/-- The software parameters a stream asks for: timestamps on, wake-up and thresholds from
the configuration, alignment of half a period and the given boundary. -/
def StreamConfig.softwareParams (c : StreamConfig) (boundary : Nat) : SwParams :=
  { tstampMode := 1, periodStep := 1,
    availMin := UInt64.ofNat c.effectiveAvailMin,
    xferAlign := (c.periodSize / 2).toUInt64,
    startThreshold := UInt64.ofNat c.effectiveStartThreshold,
    stopThreshold := UInt64.ofNat c.effectiveStopThreshold,
    silenceThreshold := c.silenceThreshold, silenceSize := c.silenceSize,
    boundary := UInt64.ofNat boundary }

/-- Negotiates a configuration with a device. `syncOnly` keeps the pointers in a copy
exchanged by synchronisation even when the device could map them. -/
def negotiate (D : PcmDevice σ) (syncOnly : Bool) (flags : OpenFlags) (req : StreamConfig) :
    SetupM σ Negotiated := do
  if let some p := req.problem? then throw (.invalidArgument p.text)
  let info ← SetupM.request "cannot get info" D.info
  let params ← match ← SetupM.attempt (D.install (HwParams.ofConfig req flags)) with
    | .ok p => pure p
    | .error cause => do
      let limits ← SetupM.attempt (D.refine HwParams.any)
      throw (.config "cannot set hw params" cause (match limits with
        | .ok l => some l
        | .error _ => none))
  let config := req.settle params
  let bufferSize := config.bufferSize
  let computed ← monadLift (boundaryOf bufferSize)
  let sw ← SetupM.request "cannot set sw params" (D.software (config.softwareParams computed))
  let boundary := if sw.boundary ≠ 0 then sw.boundary else UInt64.ofNat computed
  let ring ← SetupM.request "cannot map status/control" (Ring.establish D syncOnly sw.availMin)
  let data ← if flags.mmap then do
      let len ← monadLift (mulWord bufferSize config.frameBytes)
      some <$> SetupM.request "cannot map data buffer" (D.map MapOffset.data len true)
    else pure none
  if flags.monotonic then
    SetupM.request "cannot set timestamp type" (D.setTstampType monotonicClock)
  pure { config := config, bufferSize := UInt64.ofNat bufferSize, boundary := boundary,
         card := UInt32.ofNat info.card.toNat, device := info.device,
         subdevice := info.subdevice, ring := ring, data := data }

namespace PcmStream

/-- Opens a stream over a device in state `driver`. The handle is ready when negotiation
succeeds; otherwise it keeps the request and the error. -/
def openWith (D : PcmDevice σ) (syncOnly : Bool) (driver : σ) (flags : OpenFlags)
    (config : StreamConfig) : Trapping (PcmStream σ) := do
  match ← (ExceptT.run (negotiate D syncOnly flags config)).run driver with
  | (.ok n, d) =>
    pure { driver := d, attached := true, ring := some n.ring, data := n.data, flags := flags,
           config := n.config, bufferSize := n.bufferSize, boundary := n.boundary,
           card := n.card, device := n.device, subdevice := n.subdevice }
  | (.error e, d) => pure (notReadyOf d flags config e)

/-- Opens a stream on the node at `path`, given what opening the node gave; a node that cannot be
opened leaves a handle that is not ready. -/
def openAt [Inhabited σ] (D : PcmDevice σ) (syncOnly : Bool) (path : String)
    (node : Except IoError σ) (card device : UInt32) (flags : OpenFlags)
    (config : StreamConfig) : Trapping (PcmStream σ) := do
  let s ← match node with
    | .ok driver => openWith D syncOnly driver flags config
    | .error e => pure (notReadyOf default flags config (.driver s!"cannot open device '{path}'" e))
  return if s.isReady then s else { s with card := card, device := device }

/-- Takes over what a renegotiation settled and clears the stored error. -/
def adopt (n : Negotiated) (s : PcmStream σ) : PcmStream σ :=
  { s with ring := some n.ring, data := n.data, config := n.config,
           bufferSize := n.bufferSize, boundary := n.boundary, subdevice := n.subdevice,
           error := "", openError := none }

/-- Renegotiates a stream that is not running with a new configuration. The old ring and
data area are given up first; on failure the handle is left not ready. -/
def setConfig (D : PcmDevice σ) (syncOnly : Bool) (config : StreamConfig) : StreamM σ Unit := do
  let s ← get
  if s.running then fail (.invalidArgument "cannot reconfigure a running stream")
  if !s.attached then refuse
  let s := { s with ring := none, data := none, prepared := false }
  let (outcome, d) ← monadLift ((ExceptT.run (negotiate D syncOnly s.flags config)).run s.driver)
  set { s with driver := d }
  match outcome with
  | .ok n => modify (adopt n)
  | .error e => fail e

/-- Gives the handle up and answers the device state left behind: a running `mmap`
stream is stopped first, and the outcome of stopping is ignored. -/
def release (D : PcmDevice σ) (s : PcmStream σ) : Trapping σ :=
  if s.flags.mmap && s.running && s.attached then
    Prod.snd <$> (ExceptT.run D.stop).run s.driver
  else pure s.driver

end PcmStream

end SoundCard.Pcm
