import SoundCard.Service.Fault
/-! Scripts: requests that carry a list of steps run one after another on a state, such as
a parameter record, a stream or a pointer ring. -/
namespace SoundCard.Service

open SoundCard.Wire

/-- Runs steps in order, each answering its result and a view of the state after it; a step
that stops the program ends the script. -/
def runScript {σ : Type} (step : σ → Value → Checked (Value × σ))
    (view : σ → List (String × Value)) : σ → List Value → Checked (List Value × σ)
  | s, [] => pure ([], s)
  | s, st :: rest =>
    match step s st with
    | .ok (r, s') => do
      let (more, last) ← runScript step view s' rest
      pure (.obj ([("result", r)] ++ view s') :: more, last)
    | .error f =>
      if f.isTrap then .error f
      else do
        let (more, last) ← runScript step view s rest
        pure (.obj ([("result", f.toValue)] ++ view s) :: more, last)

def runSteps {σ : Type} (step : σ → Value → Checked (Value × σ)) (view : σ → List (String × Value))
    (s0 : σ) (steps : List Value) : Checked (List Value) :=
  Prod.fst <$> runScript step view s0 steps

end SoundCard.Service
