import Throttle.Engine

/-!
# Calls on an engine

What callers ask of an engine, one after another, and what it answers. A call that fails is answered with its error.
-/

namespace Throttle

variable {α : Type}

/-- What is asked of an engine; the time is that of the call. -/
inductive Call (α : Type) where
  | consume (now : α) (key : String) (p : Policy) (cost : Option UInt32)
  | snapshot (now : α) (key : String) (p : Policy)
  | reset (key : String) (p : Policy)
  /-- Load other policies. -/
  | reload (c : Catalog)
  deriving DecidableEq

inductive Answer (α : Type) where
  | decision (d : Decision α)
  | snapshot (s : Snapshot α)
  | done
  | failed (e : Error)
  deriving DecidableEq

/-- A call and what came of it. -/
structure Exchange (α : Type) where
  call : Call α
  answer : Answer α
  deriving DecidableEq

/-- The name of the bucket that a call is about. -/
def Call.bucketKey? : Call α → Option String
  | .consume _ key p _ => some (p.bucketKey key)
  | .snapshot _ key p => some (p.bucketKey key)
  | .reset key p => some (p.bucketKey key)
  | .reload _ => none

namespace Engine

/-- The answer to a call, and the engine after it. -/
def call [Quantity α] (e : Engine α) : Call α → Answer α × Engine α
  | .consume now key p cost =>
    match e.consumeKey now key p cost with
    | (.ok d, e) => (.decision d, e)
    | (.error err, e) => (.failed err, e)
  | .snapshot now key p =>
    match e.snapshot now key p with
    | (.ok s, e) => (.snapshot s, e)
    | (.error err, e) => (.failed err, e)
  | .reset key p =>
    match e.reset key p with
    | (.ok (), e) => (.done, e)
    | (.error err, e) => (.failed err, e)
  | .reload c => (.done, e.reload c)

/-- Calls that are made one after another, each with its answer. -/
def transcript [Quantity α] (e : Engine α) : List (Call α) → List (Exchange α)
  | [] => []
  | c :: cs => ⟨c, (e.call c).1⟩ :: transcript (e.call c).2 cs

/-! ## What the operations come to -/

section Store

variable {β : Type} {e : Engine α} {reason : String}

theorem onStore_of_up (hup : e.outage = none) (f : Store α → Store α × β) :
    e.onStore f = (.ok (f e.store).2, { e with store := (f e.store).1 }) := by
  unfold onStore
  rw [hup]

theorem onStore_of_down (hdown : e.outage = some reason) (f : Store α → Store α × β) :
    e.onStore f = (.error (.storeUnavailable reason), e) := by
  unfold onStore
  rw [hdown]

theorem reset_of_up (hup : e.outage = none) (key : String) (p : Policy) :
    e.reset key p = (.ok (), { e with store := e.store.remove (p.bucketKey key) }) :=
  onStore_of_up hup _

theorem reset_of_down (hdown : e.outage = some reason) (key : String) (p : Policy) :
    e.reset key p = (.error (.storeUnavailable reason), e) :=
  onStore_of_down hdown _

end Store

variable [Quantity α] {e : Engine α} {now : α} {key reason : String} {p : Policy} {cost : Option UInt32} {r : Arrival}

omit [Quantity α] in
theorem checkCost_eq_ok_iff {c : UInt32} : checkCost p cost = .ok c ↔ cost.getD p.cost = c ∧ c ≠ 0 ∧ c ≤ p.limit.burst := by
  unfold checkCost
  dsimp only
  split
  · rename_i hbad
    refine iff_of_false (by simp) ?_
    rintro ⟨rfl, hzero, hburst⟩
    exact hbad.elim hzero (UInt32.not_lt.mpr hburst)
  · rename_i hgood
    obtain ⟨hzero, hburst⟩ := not_or.mp hgood
    rw [Except.ok.injEq]
    constructor
    · rintro rfl
      exact ⟨rfl, hzero, UInt32.not_lt.mp hburst⟩
    · exact And.left

theorem consumeKey_of_refused {err : Error} (h : checkCost p cost = .error err) (now : α) (key : String) :
    e.consumeKey now key p cost = (.error err, e) := by
  unfold consumeKey
  rw [h]

theorem consumeKey_of_up (hup : e.outage = none) {c : UInt32} (h : checkCost p cost = .ok c) (now : α) (key : String) :
    e.consumeKey now key p cost =
      (.ok (p.decision key (e.store.update (p.bucketKey key) ⟨p.limiter, c, now⟩).2),
        { e with store := (e.store.update (p.bucketKey key) ⟨p.limiter, c, now⟩).1 }) := by
  unfold consumeKey
  simp only [h, onStore_of_up hup]
  rfl

theorem consumeKey_of_down (hdown : e.outage = some reason) {c : UInt32} (h : checkCost p cost = .ok c) (now : α)
    (key : String) : e.consumeKey now key p cost = (.error (.storeUnavailable reason), e) := by
  unfold consumeKey
  simp only [h, onStore_of_down hdown]
  rfl

theorem snapshot_of_up (hup : e.outage = none) (now : α) (key : String) (p : Policy) :
    e.snapshot now key p = (.ok (p.snapshot key (e.store.get (p.bucketKey key)) now), e) := by
  unfold snapshot
  rw [onStore_of_up hup]
  rfl

theorem snapshot_of_down (hdown : e.outage = some reason) (now : α) (key : String) (p : Policy) :
    e.snapshot now key p = (.error (.storeUnavailable reason), e) := by
  unfold snapshot
  rw [onStore_of_down hdown]
  rfl

theorem consume_of_unmatched (hp : e.catalog.firstFor r.method r.path = none) :
    e.consume now r = (.ok e.unmatchedDecision, e) := by
  unfold consume
  rw [hp]

theorem consume_of_keyless {err : Error} (hp : e.catalog.firstFor r.method r.path = some p)
    (hkey : p.callerKey r.identity = .error err) : e.consume now r = (.error err, e) := by
  unfold consume
  simp only [hp, hkey]

theorem consume_of_matched (hp : e.catalog.firstFor r.method r.path = some p) (hkey : p.callerKey r.identity = .ok key) :
    e.consume now r = e.consumeKey now key p r.cost := by
  unfold consume
  simp only [hp, hkey]

/-! ## What fails leaves the engine as it was -/

/-- A charge fails and leaves the engine as it was, or it is carried out. -/
theorem consumeKey_cases (e : Engine α) (now : α) (key : String) (p : Policy) (cost : Option UInt32) :
    (∃ err, e.consumeKey now key p cost = (.error err, e)) ∨
      e.outage = none ∧ ∃ c, checkCost p cost = .ok c ∧
        e.consumeKey now key p cost =
          (.ok (p.decision key (e.store.update (p.bucketKey key) ⟨p.limiter, c, now⟩).2),
            { e with store := (e.store.update (p.bucketKey key) ⟨p.limiter, c, now⟩).1 }) := by
  cases hcost : checkCost p cost with
  | error err => exact .inl ⟨err, consumeKey_of_refused hcost now key⟩
  | ok c =>
      rcases Option.eq_none_or_eq_some e.outage with hup | ⟨reason, hdown⟩
      · exact .inr ⟨hup, c, rfl, consumeKey_of_up hup hcost now key⟩
      · exact .inl ⟨_, consumeKey_of_down hdown hcost now key⟩

theorem snd_consumeKey_of_error {err : Error} (h : (e.consumeKey now key p cost).1 = .error err) :
    (e.consumeKey now key p cost).2 = e := by
  rcases e.consumeKey_cases now key p cost with ⟨err', hfailed⟩ | ⟨-, c, -, hcharged⟩
  · rw [hfailed]
  · rw [hcharged] at h
    cases h

theorem snd_consume_of_error {err : Error} (h : (e.consume now r).1 = .error err) : (e.consume now r).2 = e := by
  cases hp : e.catalog.firstFor r.method r.path with
  | none => rw [consume_of_unmatched hp]
  | some p =>
      cases hkey : p.callerKey r.identity with
      | error err' => rw [consume_of_keyless hp hkey]
      | ok key =>
          rw [consume_of_matched hp hkey] at h ⊢
          exact snd_consumeKey_of_error h

omit [Quantity α] in
theorem snd_reset_of_error {err : Error} (h : (e.reset key p).1 = .error err) : (e.reset key p).2 = e := by
  cases houtage : e.outage with
  | some reason => rw [reset_of_down houtage]
  | none =>
      rw [reset_of_up houtage] at h
      cases h

/-- To look at a bucket changes nothing, whether or not it can be looked at. -/
theorem snd_snapshot (e : Engine α) (now : α) (key : String) (p : Policy) : (e.snapshot now key p).2 = e := by
  cases houtage : e.outage with
  | some reason => rw [snapshot_of_down houtage]
  | none => rw [snapshot_of_up houtage]

omit [Quantity α] in
theorem snd_load_of_error {read : Result Catalog} {err : Error} (h : read = .error err) : (e.load read).2 = e := by
  rw [h]
  rfl

end Engine

end Throttle
