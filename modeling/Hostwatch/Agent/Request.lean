import Hostwatch.Agent.Course
import Hostwatch.Requests

/-!
# Requests to an agent

What users ask of an agent, and what they are answered. Parameters that are refused leave the agent
as it is.
-/

namespace Hostwatch.Agent

/-- What can be asked of an agent. -/
inductive Request where
  | configure (params : Json)
  | gather (w : Surroundings)
  | params
  | points

/-- What an agent is asked for is answered with. -/
inductive Reply where
  | configured (result : Except Failure Unit)
  /-- Also what the agent has asked its surroundings meanwhile, and how these have answered. -/
  | gathered (result : Except Failure Unit) (exchanges : List Exchange)
  | params (value : Json)
  /-- None if working them out breaks off. -/
  | points (points : Option (List Point))

/-- Does what is asked of an agent. -/
def perform (a : Agent) : Request → Reply × Agent
  | .configure j =>
    match a.configure j with
    | .ok b => (.configured (.ok ()), b)
    | .error e => (.configured (.error e), a)
  | .gather w => (.gathered (a.gatherIn w).1 (a.transcriptIn w), (a.gatherIn w).2)
  | .params => (.params a.params, a)
  | .points => (.points a.points, a)

end Hostwatch.Agent
