import Throttle.Management.Service
import Throttle.Text.Utf8

/-!
# Served lines

Bytes are served line by line. A line ends at a line feed, and loses it and a carriage return before it. Blank lines have
no answer. A line that is no text ends the service.
-/

namespace Throttle.Management

/-- The lines of some bytes, with the line feeds that end them. -/
def linesOf : List UInt8 → List (List UInt8)
  | [] => []
  | b :: rest =>
    if b = 10 then [b] :: linesOf rest
    else match linesOf rest with
      | [] => [[b]]
      | line :: lines => (b :: line) :: lines

def withoutEnding (line : String) : String :=
  match line.toList.reverse with
  | '\n' :: '\r' :: rest => String.ofList rest.reverse
  | '\n' :: rest => String.ofList rest.reverse
  | _ => line

def readLine (bytes : List UInt8) : Result String :=
  match Text.decode bytes with
  | .ok line => .ok (withoutEnding line)
  | .error bad => .error (.input (.notTextAt bad.index bad.length))

/-- The end of a service: the answers, and the failure that ended it, if one did. -/
structure Served where
  answers : List String := []
  failure : Option Error := none
  service : Service Float

namespace Service

/-- The clock gives a reading for each line that is answered. -/
def serveLines (s : Service Float) (clock : Nat → Float) : List (List UInt8) → Served
  | [] => { service := s }
  | bytes :: rest =>
    match readLine bytes with
    | .error e => { failure := some e, service := s }
    | .ok line =>
      if Text.trim line = "" then s.serveLines clock rest
      else
        let (answer, s) := s.handleLine (clock 0) line
        let served := s.serveLines (fun n => clock (n + 1)) rest
        { served with answers := answer :: served.answers }

def serveBy (s : Service Float) (clock : Nat → Float) (bytes : List UInt8) : Served := s.serveLines clock (linesOf bytes)

/-- What is served while the clock stands still. -/
def serve (s : Service Float) (now : Float) (bytes : List UInt8) : Served := s.serveBy (fun _ => now) bytes

end Service

end Throttle.Management
