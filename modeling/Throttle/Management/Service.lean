import Throttle.Admission
import Throttle.Json.Printer
import Throttle.Json.Reader
import Throttle.Management.Request

/-!
# The management service

The service answers requests about an engine and its boundary. Every request has an answer; one that cannot be understood
or carried out is answered with an error. Requests and answers are JSON values, one a line.
-/

namespace Throttle.Management

inductive Response (α : Type) where
  | decision (d : Decision α)
  | quota (s : Snapshot α)
  | done
  | admission (o : Outcome)
  | policies (ds : List Policy.Definition)
  | failed (e : Error)

structure Service (α : Type) where
  engine : Engine α
  boundary : Admission

namespace Response

def toJson : Response Float → Json
  | decision d => d.toJson
  | quota s => s.toJson
  | done => .object [("ok", .bool true)]
  | admission o => o.toJson
  | policies ds => .object [("policies", .array (ds.map Policy.Definition.toJson))]
  | failed e => e.toJson

end Response

/-- The policy that a request names or brings along. -/
def PolicyRef.resolve {α : Type} (e : Engine α) : PolicyRef → Result Policy
  | loaded name => e.policy name
  | inline d => d.compile

namespace Service

variable {α β : Type}

/-- Put a call to the engine under the policy that is referred to, if there is such a policy. -/
def under (s : Service α) (policy : PolicyRef) (call : Engine α → Policy → Result β × Engine α) : Result β × Service α :=
  match policy.resolve s.engine with
  | .error err => (.error err, s)
  | .ok p =>
    let (answer, engine) := call s.engine p
    (answer, { s with engine })

variable [Quantity α]

def dispatch (s : Service α) (now : α) : Request → Result (Response α) × Service α
  | .consume key policy cost =>
    let (d, s) := s.under policy fun e p => e.consumeKey now key p cost
    (d.map .decision, s)
  | .quota key policy =>
    let (snapshot, s) := s.under policy fun e p => e.snapshot now key p
    (snapshot.map .quota, s)
  | .reset key policy =>
    let (done, s) := s.under policy fun e p => e.reset key p
    (done.map fun _ => .done, s)
  | .admission method path identity cost =>
    let (o, engine) := s.boundary.evaluate s.engine now { method, path, identity, cost }
    (o.map .admission, { s with engine })
  | .policies => (.ok (.policies s.engine.catalog.definitions), s)

def handle (s : Service α) (now : α) (r : Request) : Response α × Service α :=
  match s.dispatch now r with
  | (.ok answer, s) => (answer, s)
  | (.error e, s) => (.failed e, s)

def respond (s : Service Float) (now : Float) (line : String) : Response Float × Service Float :=
  match (Json.read? line).bind Request.read with
  | some r => s.handle now r
  | none => (.failed .malformed, s)

def handleLine (s : Service Float) (now : Float) (line : String) : String × Service Float :=
  let (response, s) := s.respond now line
  (response.toJson.write, s)

end Service

end Throttle.Management
