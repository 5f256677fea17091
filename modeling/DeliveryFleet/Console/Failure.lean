import DeliveryFleet.Json.Value

/-!
# Failed requests

A request that cannot be served answers `{"error": kind, "message": text}` (`Failure.toJson`).
The kinds are: the line is no JSON (`badJson`), the request names something unknown or holds a
value of the wrong kind (`badInput`), the operation broke down (`crash`, reported as `panic`), or
a session's configuration is unusable (`setup`).
-/

namespace DeliveryFleet

/-- Why a request was not served. -/
inductive Failure where
  | badJson (message : String)
  | badInput (message : String)
  | crash (message : String)
  | setup (message : String)
  deriving Repr, BEq

namespace Failure

/-- The name of the kind of failure. -/
def kind : Failure → String
  | .badJson _ => "bad_json"
  | .badInput _ => "bad_input"
  | .crash _ => "panic"
  | .setup _ => "setup"

/-- The text of a failure. -/
def message : Failure → String
  | .badJson m | .badInput m | .crash m | .setup m => m

/-- The answer to a failed request. -/
def toJson (f : Failure) : Json :=
  .object [("error", .string f.kind), ("message", .string f.message)]

end Failure

/-- The failure of dividing by a zero count. -/
def Failure.divideByZero : Failure := .crash "runtime error: integer divide by zero"

end DeliveryFleet
