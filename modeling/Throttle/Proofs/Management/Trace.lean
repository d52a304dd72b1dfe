import Throttle.Management.Service
import Throttle.Proofs.Admission.Fault

/-!
# Requests that leave no trace in a service

A request that is answered with an error was turned away before anything was stored, wherever that was: the service after it
is the service before it. So it is after a question, and after a request to admit that no bucket was asked about.
-/

namespace Throttle

namespace Admission

variable {α : Type} [Quantity α] {a : Admission} {e : Engine α} {now : α} {r : Arrival}

theorem snd_evaluate_of_bypassed (h : a.bypasses r.path = true) : (a.evaluate e now r).2 = e := by
  rw [evaluate_of_bypassed h]

/-- Whatever the boundary makes of the engine's answer, the engine is left as the engine itself has left it. -/
theorem snd_evaluate (hasked : a.bypasses r.path = false) : (a.evaluate e now r).2 = (e.consume now r).2 := by
  rcases hconsume : e.consume now r with ⟨err | d, e'⟩
  · cases err with
    | storeUnavailable reason => rw [evaluate_of_consume_unavailable hasked hconsume]
    | _ => rw [evaluate_of_consume_error hasked hconsume nofun]
  · rw [evaluate_of_consume_ok hasked hconsume]

theorem snd_evaluate_of_snd_consume (h : (e.consume now r).2 = e) : (a.evaluate e now r).2 = e := by
  cases hasked : a.bypasses r.path with
  | true => exact snd_evaluate_of_bypassed hasked
  | false => rw [snd_evaluate hasked, h]

theorem snd_evaluate_of_error {err : Error} (h : (a.evaluate e now r).1 = .error err) : (a.evaluate e now r).2 = e := by
  cases hasked : a.bypasses r.path with
  | true => exact snd_evaluate_of_bypassed hasked
  | false =>
      cases hanswer : (e.consume now r).1 with
      | error err' => exact snd_evaluate_of_snd_consume (Engine.snd_consume_of_error hanswer)
      | ok d =>
          rw [evaluate_of_consume_ok hasked (Prod.ext hanswer rfl)] at h
          cases h

end Admission

namespace Management.Service

section Under

variable {α β : Type} {s : Service α} {policy : PolicyRef} {err : Error} (call : Engine α → Policy → Result β × Engine α)

theorem under_of_unresolved (h : policy.resolve s.engine = .error err) : s.under policy call = (.error err, s) := by
  rw [under, h]

theorem under_of_resolved {p : Policy} (h : policy.resolve s.engine = .ok p) :
    s.under policy call = ((call s.engine p).1, { s with engine := (call s.engine p).2 }) := by
  rw [under, h]

theorem snd_under (hcall : ∀ p, policy.resolve s.engine = .ok p → (call s.engine p).2 = s.engine) :
    (s.under policy call).2 = s := by
  cases hresolve : policy.resolve s.engine with
  | error err => rw [under_of_unresolved call hresolve]
  | ok p => rw [under_of_resolved call hresolve, hcall p hresolve]

/-- If a call that fails leaves the engine as it was, whatever the policy, then it leaves the service as it was. -/
theorem snd_under_of_error (hcall : ∀ p, (call s.engine p).1 = .error err → (call s.engine p).2 = s.engine)
    (h : (s.under policy call).1 = .error err) : (s.under policy call).2 = s := by
  refine snd_under call fun p hresolve => hcall p ?_
  rwa [under_of_resolved call hresolve] at h

end Under

variable {α : Type} [Quantity α] {s : Service α} {now : α} {r : Request} {err : Error}

/-- Requests that only ask, requests that are answered with an error, and requests to admit what no bucket decides on. -/
inductive Traceless (s : Service α) (now : α) : Request → Prop where
  | quota (key : String) (policy : PolicyRef) : Traceless s now (.quota key policy)
  | policies : Traceless s now .policies
  | refused {r : Request} {err : Error} (h : (s.handle now r).1 = .failed err) : Traceless s now r
  | bypassed {path : String} (method : String) (identity : Identity) (cost : Option UInt32)
      (h : s.boundary.bypasses path = true) : Traceless s now (.admission method path identity cost)
  | unmatched {method path : String} (identity : Identity) (cost : Option UInt32)
      (h : s.engine.catalog.firstFor method path = none) : Traceless s now (.admission method path identity cost)
  /-- The store cannot be reached, so that the boundary admits or rejects as it is told to. -/
  | fallback {method path : String} {identity : Identity} {cost : Option UInt32} {reason : String}
      (h : (s.engine.consume now { method, path, identity, cost }).1 = .error (.storeUnavailable reason)) :
      Traceless s now (.admission method path identity cost)

theorem snd_handle (s : Service α) (now : α) (r : Request) : (s.handle now r).2 = (s.dispatch now r).2 := by
  unfold handle
  rcases s.dispatch now r with ⟨_ | _, s'⟩ <;> rfl

/-- What is carried out is not answered with an error. -/
theorem fst_dispatch_ne_failed (s : Service α) (now : α) (r : Request) (err : Error) :
    (s.dispatch now r).1 ≠ .ok (.failed err) := by
  intro h
  cases r with
  | policies => cases h
  | _ =>
      obtain ⟨_, -, h⟩ := Result.map_eq_ok_iff.mp h
      cases h

theorem fst_dispatch_of_failed (h : (s.handle now r).1 = .failed err) : (s.dispatch now r).1 = .error err := by
  have hanswered := s.fst_dispatch_ne_failed now r err
  unfold handle at h
  rcases hdispatch : s.dispatch now r with ⟨err' | answer, s'⟩ <;> rw [hdispatch] at h hanswered
  · exact congrArg Except.error (Response.failed.inj h)
  · exact absurd (congrArg Except.ok h) hanswered

theorem snd_dispatch_quota (key : String) (policy : PolicyRef) : (s.dispatch now (.quota key policy)).2 = s :=
  snd_under (fun e p => e.snapshot now key p) fun p _ => s.engine.snd_snapshot now key p

theorem snd_dispatch_admission {method path : String} {identity : Identity} {cost : Option UInt32}
    (h : (s.boundary.evaluate s.engine now { method, path, identity, cost }).2 = s.engine) :
    (s.dispatch now (.admission method path identity cost)).2 = s := by
  simp only [dispatch, h]

theorem snd_dispatch_of_error (h : (s.dispatch now r).1 = .error err) : (s.dispatch now r).2 = s := by
  cases r with
  | consume key policy cost =>
      exact snd_under_of_error (fun e p => e.consumeKey now key p cost)
        (fun p => Engine.snd_consumeKey_of_error) (Result.map_eq_error_iff.mp h)
  | quota key policy => exact snd_dispatch_quota key policy
  | reset key policy =>
      exact snd_under_of_error (fun e p => e.reset key p) (fun p => Engine.snd_reset_of_error)
        (Result.map_eq_error_iff.mp h)
  | admission method path identity cost =>
      exact snd_dispatch_admission (Admission.snd_evaluate_of_error (Result.map_eq_error_iff.mp h))
  | policies => rfl

theorem snd_handle_of_failed (h : (s.handle now r).1 = .failed err) : (s.handle now r).2 = s := by
  rw [snd_handle]
  exact snd_dispatch_of_error (fst_dispatch_of_failed h)

theorem snd_handle_admission {method path : String} {identity : Identity} {cost : Option UInt32}
    (h : (s.boundary.evaluate s.engine now { method, path, identity, cost }).2 = s.engine) :
    (s.handle now (.admission method path identity cost)).2 = s := by
  rw [snd_handle]
  exact snd_dispatch_admission h

theorem Traceless.snd_handle_eq (h : s.Traceless now r) : (s.handle now r).2 = s := by
  cases h with
  | quota key policy =>
      rw [snd_handle]
      exact snd_dispatch_quota key policy
  | policies => rfl
  | refused h => exact snd_handle_of_failed h
  | bypassed method identity cost h => exact snd_handle_admission (Admission.snd_evaluate_of_bypassed h)
  | @unmatched method path identity cost h =>
      have hconsume : s.engine.consume now { method, path, identity, cost } = (.ok s.engine.unmatchedDecision, s.engine) :=
        Engine.consume_of_unmatched h
      exact snd_handle_admission (Admission.snd_evaluate_of_snd_consume (congrArg Prod.snd hconsume))
  | fallback h =>
      exact snd_handle_admission (Admission.snd_evaluate_of_snd_consume (Engine.snd_consume_of_error h))

end Management.Service

end Throttle
