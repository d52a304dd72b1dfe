import Mathlib.Data.List.DropRight
import Throttle.Proofs.Bucket.Run
import Throttle.Proofs.Engine.Calls
import Throttle.Proofs.Store.Get

/-!
# An engine is as many buckets as there are names

With a store in memory that has no bound, every call is answered from the bucket of its own name, and that bucket is what
the charges under the name have left that have succeeded since its last reset. No other call has any influence.
-/

namespace Throttle

variable {α : Type}

/-- Whether a call makes an engine forget the bucket of a name. -/
def Call.resets (name : String) : Call α → Bool
  | .reset key p => p.bucketKey key = name
  | _ => false

/-- The answer to a call when this is stored under its name. -/
def Call.answerFrom [Quantity α] (stored : Option (Bucket α)) : Call α → Answer α
  | .consume now key p cost =>
    match Engine.checkCost p cost with
    | .error err => .failed err
    | .ok cost => .decision (p.decision key ((Charge.mk p.limiter cost now).apply stored).2)
  | .snapshot now key p => .snapshot (p.snapshot key stored now)
  | .reset .. => .done
  | .reload _ => .done

namespace Exchange

/-- The charge to the bucket of a name in which a call has succeeded. -/
def charge? (name : String) : Exchange α → Option (Charge α)
  | ⟨.consume now key p cost, .decision _⟩ =>
    if p.bucketKey key = name then some ⟨p.limiter, cost.getD p.cost, now⟩ else none
  | _ => none

/-- The charges to the bucket of a name that have succeeded since its last reset. -/
def chargesSinceReset (name : String) (past : List (Exchange α)) : List (Charge α) :=
  (past.rtakeWhile fun x => !x.call.resets name).filterMap (charge? name)

theorem chargesSinceReset_concat (name : String) (past : List (Exchange α)) (x : Exchange α) :
    chargesSinceReset name (past ++ [x]) =
      if x.call.resets name then [] else chargesSinceReset name past ++ (x.charge? name).toList := by
  unfold chargesSinceReset
  rw [List.rtakeWhile_concat]
  cases x.call.resets name with
  | true => rfl
  | false =>
      rw [if_pos Bool.not_false, List.filterMap_append, if_neg Bool.false_ne_true]
      cases hcharge : x.charge? name <;> simp [hcharge]

end Exchange

namespace Engine

open Exchange

variable [Quantity α] {e : Engine α}

/-- The store has no bound, and can be reached. -/
structure InMemory (e : Engine α) : Prop where
  unbounded : e.store.capacity = none
  up : e.outage = none

namespace InMemory

theorem call (h : e.InMemory) (c : Call α) : (e.call c).2.InMemory := by
  cases c with
  | consume now key p cost =>
      cases hcost : checkCost p cost with
      | error err =>
          simp only [Engine.call, consumeKey_of_refused hcost]
          exact h
      | ok c =>
          simp only [Engine.call, consumeKey_of_up h.up hcost, Store.update_of_unbounded h.unbounded]
          exact ⟨h.unbounded, h.up⟩
  | snapshot now key p =>
      simp only [Engine.call, snapshot_of_up h.up]
      exact h
  | reset key p =>
      simp only [Engine.call, reset_of_up h.up]
      exact ⟨h.unbounded, h.up⟩
  | reload c => exact ⟨h.unbounded, h.up⟩

theorem answer_call (h : e.InMemory) {c : Call α} {name : String} (hname : c.bucketKey? = some name) :
    (e.call c).1 = c.answerFrom (e.store.get name) := by
  cases c with
  | consume now key p cost =>
      cases hname
      cases hcost : checkCost p cost with
      | error err => simp only [Engine.call, Call.answerFrom, consumeKey_of_refused hcost, hcost]
      | ok c =>
          simp only [Engine.call, Call.answerFrom, consumeKey_of_up h.up hcost, hcost,
            Store.update_of_unbounded h.unbounded]
  | snapshot now key p =>
      cases hname
      simp only [Engine.call, Call.answerFrom, snapshot_of_up h.up]
  | reset key p => simp only [Engine.call, Call.answerFrom, reset_of_up h.up]
  | reload c => cases hname

/-- A call changes the bucket of a name only if it resets it or succeeds in charging it. -/
theorem get_call (h : e.InMemory) (c : Call α) (name : String) :
    (e.call c).2.store.get name =
      if c.resets name then none
      else Charge.settle (e.store.get name) (Exchange.charge? name ⟨c, (e.call c).1⟩).toList := by
  cases c with
  | consume now key p cost =>
      cases hcost : checkCost p cost with
      | error err =>
          simp only [Engine.call, consumeKey_of_refused hcost]
          rfl
      | ok c =>
          simp only [Engine.call, consumeKey_of_up h.up hcost, Store.update_of_unbounded h.unbounded, charge?,
            (checkCost_eq_ok_iff.mp hcost).1]
          by_cases hname : p.bucketKey key = name
          · subst hname
            rw [if_pos rfl, Store.get_put_self]
            rfl
          · rw [if_neg hname, Store.get_put_of_ne _ _ (Ne.symm hname)]
            rfl
  | snapshot now key p =>
      simp only [Engine.call, snapshot_of_up h.up]
      rfl
  | reset key p =>
      simp only [Engine.call, reset_of_up h.up, Call.resets, decide_eq_true_eq]
      split
      · rename_i hname
        rw [← hname, Store.get_remove_self]
      · rename_i hname
        rw [Store.get_remove_of_ne _ (Ne.symm hname)]
        rfl
  | reload c => rfl

/-- Each name holds what replaying its charges gives, and goes on to do so. -/
theorem answer_of_replayed (h : e.InMemory) {past : List (Exchange α)}
    (hpast : ∀ name, e.store.get name = Charge.settle none (chargesSinceReset name past)) {calls : List (Call α)}
    {before after : List (Exchange α)} {x : Exchange α} (hcalls : e.transcript calls = before ++ x :: after)
    {name : String} (hname : x.call.bucketKey? = some name) :
    x.answer = x.call.answerFrom (Charge.settle none (chargesSinceReset name (past ++ before))) := by
  induction calls generalizing e past before with
  | nil => cases before <;> cases hcalls
  | cons c calls ih =>
      cases before with
      | nil =>
          cases hcalls
          rw [List.append_nil, ← hpast name]
          exact h.answer_call hname
      | cons y before =>
          -- The first call joins the past, of which the invariant speaks.
          obtain ⟨rfl, hrest⟩ := List.cons.inj hcalls
          rw [List.append_cons]
          refine ih (h.call c) (fun other => ?_) hrest
          rw [h.get_call, chargesSinceReset_concat]
          split
          · rfl
          · rw [hpast other, Charge.settle_append]

end InMemory

/-- Whatever calls are made on an engine with a new store, each is answered from what the charges under its name leave,
made one after another to a bucket that was never charged: those charges that have succeeded before it and since the name
was last reset. -/
theorem answer_eq_replay (h : e.InMemory) (hnew : e.store.entries = []) {calls : List (Call α)}
    {before after : List (Exchange α)} {x : Exchange α} (hcalls : e.transcript calls = before ++ x :: after)
    {name : String} (hname : x.call.bucketKey? = some name) :
    x.answer = x.call.answerFrom (Charge.settle none (chargesSinceReset name before)) := by
  have hpast : ∀ name, e.store.get name = Charge.settle none (chargesSinceReset (α := α) name []) := by
    intro name
    rw [Store.get, hnew]
    rfl
  exact h.answer_of_replayed hpast hcalls hname

/-- A caller spends all it has, is reset, and spends all it has again; meanwhile another caller is charged, the policies
are loaded anew, and a charge is refused. A second later there is one permit, whatever was charged before the reset. -/
theorem answer_eq_replay_after_reset :
    let p : Policy := {
      name := "p", algorithm := .tokenBucket, limit := ⟨1, 1, 2⟩, scope := .ip
      pattern := (Pattern.ofText? ".*").get (by decide +kernel)
      methods := .any, cost := 1, metadata := .empty }
    let e : Engine ℚ := {}
    let calls : List (Call ℚ) := [.consume 0 "k" p (some 2), .reset "k" p, .consume 1 "k" p (some 2),
      .consume 1 "l" p none, .reload .empty, .consume 1 "k" p (some 3), .snapshot 2 "k" p, .consume 2 "k" p none]
    let before := (e.transcript calls).take 7
    let x : Exchange ℚ := ⟨.consume 2 "k" p none, .decision (p.decision "k" (.admitted 0))⟩
    e.InMemory ∧ e.store.entries = [] ∧ e.transcript calls = before ++ [x] ∧
      x.call.bucketKey? = some (p.bucketKey "k") ∧
      chargesSinceReset (p.bucketKey "k") before = [⟨p.limiter, 2, 1⟩] ∧
      x.answer = x.call.answerFrom (Charge.settle none [⟨p.limiter, 2, 1⟩]) := by
  intro p e calls before x
  have hmemory : e.InMemory := ⟨rfl, rfl⟩
  have hcalls : e.transcript calls = before ++ [x] := by decide +kernel
  have hcharges : chargesSinceReset (p.bucketKey "k") before = [⟨p.limiter, 2, 1⟩] := by decide +kernel
  have hanswer : x.answer = x.call.answerFrom (Charge.settle none (chargesSinceReset (p.bucketKey "k") before)) :=
    answer_eq_replay hmemory rfl hcalls rfl
  rw [hcharges] at hanswer
  exact ⟨hmemory, rfl, hcalls, rfl, hcharges, hanswer⟩

end Engine

end Throttle
