import Throttle.Text.Utf8
import Throttle.Yaml.Policy

/-!
# Reloading policies

The policies of a running engine are read again from their file from time to time. A file that cannot be read leaves the
policies as they are.
-/

namespace Throttle

/-- What a policy file holds, if there is one. -/
abbrev PolicyFile := Option (List UInt8)

def PolicyFile.text (file : PolicyFile) : Result String :=
  match file with
  | none => .error (.input .noSuchFile)
  | some bytes =>
    match Text.decode bytes with
    | .ok text => .ok text
    | .error _ => .error (.input .notText)

def Catalog.ofFile (file : PolicyFile) : Result Catalog := do ofYaml (← file.text)

/-- When to read the file again, in milliseconds. -/
structure Reloader where
  interval : Nat
  interval_pos : 0 < interval
  due : Nat

namespace Reloader

/-- A reloader that waits for its first interval. -/
def start? (interval now : Nat) : Option Reloader :=
  if h : 0 < interval then some ⟨interval, h, now + interval⟩ else none

/-- How late a reload may be before the next interval counts from it. -/
def grace : Nat := 5

/-- The reloader after all that was due, and whether anything was. One that is late by more than the grace waits a whole
interval again; otherwise the intervals follow each other. -/
def advance (r : Reloader) (now : Nat) : Reloader × Bool :=
  if now < r.due then (r, false)
  else if r.due + grace < now then ({ r with due := now + r.interval }, true)
  else ((advance { r with due := r.due + r.interval } now).1, true)
termination_by now + 1 - r.due
decreasing_by
  have := r.interval_pos
  omega

end Reloader

end Throttle
