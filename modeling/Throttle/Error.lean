import Throttle.Identity

/-!
# Errors

What can go wrong, by cause. An error has a kind, which programs read, and a message, which people read. Where a text
could not be understood, the message shows a placeholder instead of the reader's own complaint.
-/

namespace Throttle

/-- What is wrong with a policy, a set of policies or the settings. -/
inductive Misconfiguration where
  | emptyName
  | notPositive (policy field : String) (value : Int64)
  | tooLarge (policy field : String) (value : Int64)
  | costAboveBurst (policy : String) (cost burst : UInt32)
  | badPattern (policy pattern : String)
  | unknownKeyword (policy word : String)
  | noMethods (policy : String)
  | repeatedName (name : String)
  | badSkipPath (pattern : String)
  | unreadablePolicy
  | unreadableCatalog
  | unreadableSettings
  deriving DecidableEq, Repr

/-- Why a text could not be taken in. -/
inductive InputFailure where
  | noSuchFile
  /-- A file that is not in UTF-8. -/
  | notText
  /-- A line that is not in UTF-8: where its first bad sequence begins, and how long it is, unless the line just
  ends too early. -/
  | notTextAt (index : Nat) (length : Option Nat)
  deriving DecidableEq, Repr

inductive Error where
  | misconfigured (cause : Misconfiguration)
  /-- The identity lacks the component that a policy's scope takes. -/
  | unsupportedScope (policy : String) (scope : Scope)
  | storeUnavailable (reason : String)
  /-- A cost that a policy can never admit. -/
  | invalidCost (cost : UInt32) (policy : String) (burst : UInt32)
  | unknownPolicy (name : String)
  | input (failure : InputFailure)
  | malformed
  deriving DecidableEq, Repr

/-- Stands for the complaint of a reader. -/
def placeholder : String := "<detail>"

def Misconfiguration.message : Misconfiguration → String
  | emptyName => "policy name must not be empty"
  | notPositive policy field value => s!"policy '{policy}': {field} must be positive, got {value.toInt}"
  | tooLarge policy field value => s!"policy '{policy}': {field} is too large ({value.toInt})"
  | costAboveBurst policy cost burst => s!"policy '{policy}': cost {cost.toNat} exceeds burst {burst.toNat}"
  | badPattern policy pattern => s!"policy '{policy}': invalid path_pattern '{pattern}': {placeholder}"
  | unknownKeyword policy word => s!"policy '{policy}': methods must be a list of verbs or \"any\", got '{word}'"
  | noMethods policy => s!"policy '{policy}': methods list is empty (omit it or use \"any\")"
  | repeatedName name => s!"duplicate policy name '{name}'"
  | badSkipPath pattern => s!"invalid skip path '{pattern}': {placeholder}"
  | unreadablePolicy => s!"Failed to parse policy: {placeholder}"
  | unreadableCatalog => s!"Failed to parse policy config: {placeholder}"
  | unreadableSettings => placeholder

def InputFailure.message : InputFailure → String
  | noSuchFile => "No such file or directory (os error 2)"
  | notText => "stream did not contain valid UTF-8"
  | notTextAt index (some length) => s!"invalid utf-8 sequence of {length} bytes from index {index}"
  | notTextAt index none => s!"incomplete utf-8 byte sequence from index {index}"

namespace Error

def kind : Error → String
  | misconfigured _ => "configuration_error"
  | unsupportedScope .. => "unsupported_scope"
  | storeUnavailable _ => "store_unavailable"
  | invalidCost .. => "invalid_cost"
  | unknownPolicy _ => "unknown_policy"
  | input _ => "io_error"
  | malformed => "invalid_request"

def message : Error → String
  | misconfigured cause => "Configuration error: " ++ cause.message
  | unsupportedScope policy scope =>
    s!"Policy '{policy}' is scoped by {scope.name}, but no {scope.name} identity was supplied"
  | storeUnavailable reason => s!"State store unavailable: {reason}"
  | invalidCost cost policy burst => s!"Invalid cost {cost.toNat} for policy '{policy}' (burst {burst.toNat})"
  | unknownPolicy name => s!"Unknown policy: {name}"
  | input failure => "I/O error: " ++ failure.message
  | malformed => "JSON error: " ++ placeholder

def toJson (e : Error) : Json := .object [("error", .text e.kind), ("message", .text e.message)]

end Error

/-- Actions that may fail with an error. -/
abbrev Result := Except Error

def Result.ofOption {β : Type} (e : Error) : Option β → Result β
  | some b => .ok b
  | none => .error e

theorem Result.bind_eq_ok_iff {β γ : Type} {x : Result β} {f : β → Result γ} {c : γ} :
    x >>= f = .ok c ↔ ∃ b, x = .ok b ∧ f b = .ok c := by
  cases x with
  | error e => exact iff_of_false nofun (fun ⟨_, h, _⟩ => nomatch h)
  | ok b => exact ⟨fun h => ⟨b, rfl, h⟩, fun ⟨_, rfl, h⟩ => h⟩

theorem Result.map_eq_ok_iff {β γ : Type} {x : Result β} {f : β → γ} {c : γ} :
    x.map f = .ok c ↔ ∃ b, x = .ok b ∧ f b = c := by
  cases x with
  | error e => exact iff_of_false nofun (fun ⟨_, h, _⟩ => nomatch h)
  | ok b => exact ⟨fun h => ⟨b, rfl, Except.ok.inj h⟩, fun ⟨_, rfl, h⟩ => congrArg Except.ok h⟩

theorem Result.map_eq_error_iff {β γ : Type} {x : Result β} {f : β → γ} {e : Error} :
    x.map f = .error e ↔ x = .error e := by
  cases x with
  | error e' => exact ⟨fun h => by cases h; rfl, fun h => by cases h; rfl⟩
  | ok b => exact iff_of_false nofun nofun

theorem Result.bind_eq_error_iff {β γ : Type} {x : Result β} {f : β → Result γ} {e : Error} :
    x >>= f = .error e ↔ x = .error e ∨ ∃ b, x = .ok b ∧ f b = .error e := by
  cases x with
  | error e' => exact ⟨fun h => .inl (by cases h; rfl), fun h => by rcases h with h | ⟨_, h, _⟩ <;> cases h; rfl⟩
  | ok b => exact ⟨fun h => .inr ⟨b, rfl, h⟩, fun h => by rcases h with h | ⟨_, h, hf⟩ <;> cases h; exact hf⟩

end Throttle
