import Throttle.Management.Lines
import Throttle.Reloader

/-!
# Sessions

A session is a whole system in memory: an engine with its boundary and management service, a clock that moves only when
it is told to, and a policy file with the reloaders that watch it.
-/

namespace Throttle

/-- A system in memory. -/
structure Session where
  service : Management.Service Float
  clock : Float := 0
  file : PolicyFile := none
  /-- The time that reloaders go by, in milliseconds. -/
  timer : Nat := 0
  reloaders : List Reloader := []

namespace Session

variable {β : Type}

def engine (s : Session) : Engine Float := s.service.engine

def withEngine (s : Session) (engine : Engine Float) : Session := { s with service := { s.service with engine } }

def policyNames (s : Session) : List String := s.engine.catalog.names

def onEngine (s : Session) (call : Engine Float → Result β × Engine Float) : Result β × Session :=
  let (answer, engine) := call s.engine
  (answer, s.withEngine engine)

/-! ## Requests -/

def consume (s : Session) (r : Arrival) : Result (Decision Float) × Session := s.onEngine (·.consume s.clock r)

def admission (s : Session) (r : Arrival) : Result Outcome × Session :=
  s.onEngine (s.service.boundary.evaluate · s.clock r)

/-- Put a call to the engine under the policy that is referred to. -/
def under (s : Session) (policy : Management.PolicyRef) (call : Engine Float → Policy → Result β × Engine Float) :
    Result β × Session :=
  let (answer, service) := s.service.under policy call
  (answer, { s with service })

def consumeKey (s : Session) (key : String) (policy : Management.PolicyRef) (cost : Option UInt32) :
    Result (Decision Float) × Session :=
  s.under policy fun e p => e.consumeKey s.clock key p cost

def snapshot (s : Session) (key : String) (policy : Management.PolicyRef) : Result (Snapshot Float) × Session :=
  s.under policy fun e p => e.snapshot s.clock key p

def reset (s : Session) (key : String) (policy : Management.PolicyRef) : Result Unit × Session :=
  s.under policy fun e p => e.reset key p

/-! ## The store -/

/-- Put a call to the store, if it can be reached. -/
def onStore (s : Session) (call : Store Float → Store Float × β) : Result β × Session := s.onEngine (·.onStore call)

def storeGet (s : Session) (key : String) : Result (Option (Bucket Float)) × Session :=
  s.onStore fun store => (store, store.get key)

def storeUpdate (s : Session) (key : String) (c : Charge Float) : Result (Bucket Float × Verdict Float) × Session :=
  s.onStore (·.charge key c)

def storeSet (s : Session) (key : String) (b : Bucket Float) : Result Unit × Session :=
  s.onStore fun store => (store.set key b, ())

def storeRemove (s : Session) (key : String) : Result Unit × Session :=
  s.onStore fun store => (store.remove key, ())

def storeClear (s : Session) : Session := s.withEngine { s.engine with store := s.engine.store.clear }

/-! ## The policy file -/

/-- Read the policies again from the file. -/
def reloadFile (s : Session) : Result Nat × Session := s.onEngine (·.load (Catalog.ofFile s.file))

def startReloader (s : Session) (interval : Nat) : Session :=
  { s with reloaders := s.reloaders ++ (Reloader.start? interval s.timer).toList }

/-- Move the time that reloaders go by. What they cannot read they pass over. -/
def tick (s : Session) (milliseconds : Nat) : Session :=
  let now := s.timer + milliseconds
  let advanced := s.reloaders.map (·.advance now)
  let s := { s with timer := now, reloaders := advanced.map Prod.fst }
  if advanced.any Prod.snd then s.reloadFile.2 else s

/-! ## What happens to a session -/

/-- Something that happens to a session from outside. -/
inductive Event where
  /-- A line arrives at the management service. -/
  | line (text : String)
  | reload (policies : String)
  /-- Another policy file takes the place of the one there is, or none does. -/
  | writeFile (file : PolicyFile)
  | reloadFile
  | setClock (now : Float)
  | advanceClock (seconds : Float)
  /-- The store can no longer be reached, or can again. -/
  | outage (reason : Option String)

inductive Reply where
  | line (text : String)
  /-- The policies that are loaded now. -/
  | policies (names : List String)
  | clock (now : Float)
  | done
  | failed (e : Error)

/-- What is said of policies that were to be loaded. -/
def loaded : Result Nat × Session → Reply × Session
  | (.ok _, s) => (.policies s.policyNames, s)
  | (.error e, s) => (.failed e, s)

/-- The session after an event, and what it says. -/
def step (s : Session) : Event → Reply × Session
  | .line text =>
    let (answer, service) := s.service.handleLine s.clock text
    (.line answer, { s with service })
  | .reload policies => loaded (s.onEngine (·.load (Catalog.ofYaml policies)))
  | .writeFile file => (.done, { s with file })
  | .reloadFile => loaded s.reloadFile
  | .setClock now => (.clock now, { s with clock := now })
  | .advanceClock seconds => (.clock (s.clock + seconds), { s with clock := s.clock + seconds })
  | .outage reason => (.done, s.withEngine { s.engine with outage := reason })

def run (s : Session) : List Event → List Reply × Session
  | [] => ([], s)
  | e :: rest =>
    let (reply, s) := s.step e
    let (replies, s) := s.run rest
    (reply :: replies, s)

end Session

end Throttle
