import SoundCard.Service.Params
import SoundCard.Service.Stream
import SoundCard.Service.Ring
import SoundCard.Service.Mixer
import SoundCard.Service.Nodes
import SoundCard.Wire.Read
import SoundCard.Wire.Write
/-! The service: one request object in, one answer object out, chosen by the request's `op`. -/
namespace SoundCard.Service

open SoundCard.Wire

/-- The answer to one request. -/
def answer (req : Value) : Value :=
  let result : Checked Value := do
    let op ← readOp req
    match ((answerPure op req).orElse fun _ => answerRecords op req).orElse
        fun _ => answerNodes op req with
    | some r => r
    | none =>
      match op with
      | "mask" => answerMask req
      | "interval" => answerInterval req
      | "params" => answerParams req
      | "stream" => answerStream req
      | "ring" => answerRing req
      | "mixer" => answerMixer req
      | _ => bad s!"unknown op '{op}'"
  match result with
  | .ok v => v
  | .error f => f.toValue

/-- The answer line to one request line. -/
def answerLine (line : String) : String :=
  match Value.read line with
  | .ok req => (answer req).render
  | .error e => (Value.obj [("error", .str "bad_json"), ("message", .str e.message)]).render

end SoundCard.Service
