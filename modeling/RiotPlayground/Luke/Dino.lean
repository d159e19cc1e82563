import RiotPlayground.Luke.Pdu

/-!
# The dino: `dino/main.c`
-/

namespace RiotPlayground

open Directive

namespace Luke

namespace Dino

/-- The LED, the pin of the motor, whether the timer that clears both is set, and the payloads sent
to observers. -/
structure State where
  led0 : Bool
  movePin : Bool
  clearTimer : Bool
  notified : List (List Char)

def setDino (s : State) : State := { s with led0 := true, movePin := true, clearTimer := true }

/-- `obs` says whether `gcoap_obs_init` succeeds. -/
def notifyPoints (points : UInt32) (obs : Bool) (s : State) : State :=
  if obs then { s with notified := s.notified ++ [sprintf LUKE_POINTS_FMT [points]] } else s

def dinoMove (pdu : Pdu) (obs : Bool) (s : State) : Option Response × State :=
  match pdu.method with
  | .get => (some ⟨.content, sprintf LUKE_POINTS_FMT [0]⟩, s)
  | .post =>
    let code := if pdu.scanPoints.isSome then Code.valid else Code.badRequest
    let p := pdu.scanPoints.getD 0
    (some ⟨code, []⟩, if 0 < p then notifyPoints p obs (setDino s) else s)
  | .other => (none, s)

end Dino

end Luke

end RiotPlayground
