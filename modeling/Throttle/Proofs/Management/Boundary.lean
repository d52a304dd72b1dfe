import Throttle.Proofs.Admission.Response
import Throttle.Proofs.Management.Listing

/-!
# Two ways to be charged

A caller is charged by the boundary, which finds the policy and the caller's key itself, or by a request that names both.
Both ways come to the same charge. They differ in how the answer is put, and in what becomes of a store that cannot be
reached.
-/

namespace Throttle

namespace Management.Service

variable {α : Type} [Quantity α] {s : Service α} {p : Policy} {method path key : String} {identity : Identity}

/-- How the boundary puts the answer to a charge. -/
def putAtBoundary (s : Service α) : Response α → Response α
  | .decision d => .admission d.outcome
  | .failed (.storeUnavailable _) => .admission (s.boundary.fallback s.engine)
  | answer => answer

theorem putAtBoundary_failed (s : Service α) {err : Error} (herr : ∀ reason, err ≠ .storeUnavailable reason) :
    s.putAtBoundary (.failed err) = .failed err := by
  cases err with
  | storeUnavailable reason => exact absurd rfl (herr reason)
  | _ => rfl

theorem dispatch_admission (s : Service α) (now : α) (method path : String) (identity : Identity) (cost : Option UInt32) :
    s.dispatch now (.admission method path identity cost) =
      ((s.boundary.evaluate s.engine now { method, path, identity, cost }).1.map .admission,
        { s with engine := (s.boundary.evaluate s.engine now { method, path, identity, cost }).2 }) :=
  rfl

theorem handle_admission_eq (hasked : s.boundary.bypasses path = false)
    (hfirst : s.engine.catalog.firstFor method path = some p) (hkey : p.callerKey identity = .ok key) (now : α)
    (cost : Option UInt32) :
    s.handle now (.admission method path identity cost) =
      (s.putAtBoundary (s.handle now (.consume key (.loaded p.name) cost)).1,
        (s.handle now (.consume key (.loaded p.name) cost)).2) := by
  have hp : p ∈ s.engine.catalog.policies := List.mem_of_find?_eq_some hfirst
  have hconsume : s.engine.consume now { method, path, identity, cost } = s.engine.consumeKey now key p cost :=
    Engine.consume_of_matched hfirst hkey
  simp only [handle, dispatch_admission, dispatch_consume_loaded hp]
  rcases hcharge : s.engine.consumeKey now key p cost with ⟨err | d, e'⟩
  · by_cases hdown : ∃ reason, err = .storeUnavailable reason
    · obtain ⟨reason, rfl⟩ := hdown
      -- The boundary makes do with the engine after the failure, which is the engine before it.
      have hkept : e' = s.engine := by
        have hkept := Engine.snd_consumeKey_of_error (congrArg Prod.fst hcharge)
        rwa [hcharge] at hkept
      rw [Admission.evaluate_of_consume_unavailable hasked (hconsume.trans hcharge), hkept]
      rfl
    · have herr : ∀ reason, err ≠ .storeUnavailable reason := not_exists.mp hdown
      rw [Admission.evaluate_of_consume_error hasked (hconsume.trans hcharge) herr]
      exact Prod.ext (s.putAtBoundary_failed herr).symm rfl
  · rw [Admission.evaluate_of_consume_ok hasked (hconsume.trans hcharge)]
    rfl

/-- An answer to a charge: a decision that says how long to wait exactly if it is no, or an error. -/
inductive ChargeAnswer : Response α → Prop where
  | admitted {d : Decision α} (hallowed : d.allowed = true) (hwait : d.retryAfter = none) : ChargeAnswer (.decision d)
  | denied {d : Decision α} {wait : UInt64} (hallowed : d.allowed = false) (hwait : d.retryAfter = some wait) :
      ChargeAnswer (.decision d)
  | failed (err : Error) : ChargeAnswer (.failed err)

theorem chargeAnswer_consume (hp : p ∈ s.engine.catalog.policies) (now : α) (key : String) (cost : Option UInt32) :
    ChargeAnswer (s.handle now (.consume key (.loaded p.name) cost)).1 := by
  rw [handle, dispatch_consume_loaded hp]
  rcases hcharge : s.engine.consumeKey now key p cost with ⟨err | d, e'⟩
  · exact .failed err
  · obtain ⟨-, c, -, rfl, -⟩ := Engine.consumeKey_eq_ok_iff.mp hcharge
    generalize (s.engine.store.update (p.bucketKey key) ⟨p.limiter, c, now⟩).2 = verdict
    cases verdict with
    | admitted left => exact .admitted rfl rfl
    | denied left wait => exact .denied rfl rfl

theorem ChargeAnswer.putAtBoundary {answer : Response α} (h : ChargeAnswer answer) (s : Service α) :
    (∀ reason, answer = .failed (.storeUnavailable reason) →
      s.putAtBoundary answer = .admission (s.boundary.fallback s.engine)) ∧
    ((∀ reason, answer ≠ .failed (.storeUnavailable reason)) →
      ((∃ headers, s.putAtBoundary answer = .admission (.admitted headers)) ↔
        ∃ d, answer = .decision d ∧ d.allowed = true) ∧
      (∀ wait, (∃ headers, s.putAtBoundary answer = .admission (.rejected 429 wait headers ⟨"rate_limited", wait⟩)) ↔
        ∃ d, answer = .decision d ∧ d.allowed = false ∧ d.retryAfter = some wait) ∧
      ∀ err, s.putAtBoundary answer = .failed err ↔ answer = .failed err) := by
  cases h with
  | @admitted d hallowed hwait =>
      obtain ⟨headers, houtcome⟩ := Decision.outcome_eq_admitted_iff.mpr hwait
      simp [Service.putAtBoundary, houtcome, hallowed]
  | @denied d wait hallowed hwait =>
      obtain ⟨headers, houtcome⟩ := (Decision.rejects_outcome hwait).eq_rejected
      simp [Service.putAtBoundary, houtcome, hallowed, hwait]
  | failed err =>
      by_cases hdown : ∃ reason, err = .storeUnavailable reason
      · obtain ⟨reason, rfl⟩ := hdown
        simp [Service.putAtBoundary]
      · simp [s.putAtBoundary_failed (not_exists.mp hdown), not_exists.mp hdown]

/-- A request that the engine is asked about, and that has a policy and a key for it, leaves the same behind as the request
to charge that key under the policy's name. The boundary admits what is allowed there, rejects what is denied there with
the same wait, and fails with the same error, except that it makes do while the store cannot be reached. -/
theorem admission_like_consume (hasked : ∀ x ∈ s.boundary.skipPaths, x.matchesIn path = false)
    (hfirst : s.engine.catalog.firstFor method path = some p) (hkey : p.callerKey identity = .ok key) (now : α)
    (cost : Option UInt32) :
    let admission := s.handle now (.admission method path identity cost)
    let consume := s.handle now (.consume key (.loaded p.name) cost)
    admission.2 = consume.2 ∧
    ((∃ d, consume.1 = .decision d ∧ d.retryAfter.isSome = !d.allowed) ∨ ∃ err, consume.1 = .failed err) ∧
    (∀ reason, consume.1 = .failed (.storeUnavailable reason) →
      admission.1 = .admission (s.boundary.fallback s.engine)) ∧
    ((∀ reason, consume.1 ≠ .failed (.storeUnavailable reason)) →
      ((∃ headers, admission.1 = .admission (.admitted headers)) ↔ ∃ d, consume.1 = .decision d ∧ d.allowed = true) ∧
      (∀ wait, (∃ headers, admission.1 = .admission (.rejected 429 wait headers ⟨"rate_limited", wait⟩)) ↔
        ∃ d, consume.1 = .decision d ∧ d.allowed = false ∧ d.retryAfter = some wait) ∧
      ∀ err, admission.1 = .failed err ↔ consume.1 = .failed err) := by
  intro admission consume
  have hsame : admission = (s.putAtBoundary consume.1, consume.2) :=
    handle_admission_eq (Admission.bypasses_eq_false_iff.mpr hasked) hfirst hkey now cost
  have hanswer : ChargeAnswer consume.1 := chargeAnswer_consume (List.mem_of_find?_eq_some hfirst) now key cost
  rw [hsame]
  refine ⟨rfl, ?_, hanswer.putAtBoundary s⟩
  generalize consume.1 = answer at hanswer
  cases hanswer with
  | admitted hallowed hwait => exact .inl ⟨_, rfl, by rw [hallowed, hwait]; rfl⟩
  | denied hallowed hwait => exact .inl ⟨_, rfl, by rw [hallowed, hwait]; rfl⟩
  | failed err => exact .inr ⟨err, rfl⟩

/-- A user whose only permit is spent is turned away for a minute either way. Another user is admitted either way, and is
charged, for which the store gives up the bucket of the first. -/
theorem admission_like_consume_of_two_users :
    let d : Policy.Definition := { name := "p", rate := 1, period := 60, burst := 1, scope := .user }
    ∃ c, Catalog.ofDefinitions [d] = .ok c ∧
      let e : Engine ℚ :=
        { catalog := c, store := (Store.bounded 1).put "tollgate:token_bucket:p:user:u" (.token 0 100) }
      let s : Service ℚ := ⟨e, ⟨[(Pattern.ofText? "^/metrics$").get (by decide +kernel)], .closed⟩⟩
      let admission user := s.handle 100 (.admission "GET" "/" { user := some user } none)
      let consume user := s.handle 100 (.consume ("user:" ++ user) (.loaded "p") none)
      (admission "u").2 = (consume "u").2 ∧
        (∃ headers, (admission "u").1 = .admission (.rejected 429 60 headers ⟨"rate_limited", 60⟩)) ∧
        (admission "v").2 = (consume "v").2 ∧ (∃ headers, (admission "v").1 = .admission (.admitted headers)) ∧
        (consume "v").2.engine.store.entries = [("tollgate:token_bucket:p:user:v", .token 0 100)] := by
  intro d
  let c := (Catalog.ofDefinitions [d]).toOption.get (by decide +kernel)
  refine ⟨c, by decide +kernel, ?_⟩
  intro e s admission consume
  let p := (c.firstFor "GET" "/").get (by decide +kernel)
  have hasked : ∀ x ∈ s.boundary.skipPaths, x.matchesIn "/" = false := by decide +kernel
  have hfirst : s.engine.catalog.firstFor "GET" "/" = some p := by decide +kernel
  have hname : p.name = "p" := by decide +kernel
  have hcost : Engine.checkCost p none = .ok 1 := by decide +kernel
  have hconsume (user : String) : consume user =
      let charged := e.store.update (p.bucketKey ("user:" ++ user)) ⟨p.limiter, 1, 100⟩
      (.decision (p.decision ("user:" ++ user) charged.2), { s with engine := { e with store := charged.1 } }) := by
    have hdispatch := dispatch_consume_loaded (List.mem_of_find?_eq_some hfirst) 100 ("user:" ++ user) none
    rw [hname, Engine.consumeKey_of_up rfl hcost] at hdispatch
    simp only [consume, handle, hdispatch]
    rfl
  have hanswered (user : String) (reason : String) : (consume user).1 ≠ .failed (.storeUnavailable reason) := by
    rw [hconsume]
    intro h
    cases h
  have hlike (user : String) (hkey : p.callerKey { user := some user } = .ok ("user:" ++ user)) :=
    hname ▸ admission_like_consume hasked hfirst hkey 100 none
  obtain ⟨hsame, -, -, hdenied⟩ := hlike "u" (by decide +kernel)
  obtain ⟨hsame', -, -, hadmitted⟩ := hlike "v" (by decide +kernel)
  refine ⟨hsame, ?_, hsame', ?_, ?_⟩
  · refine ((hdenied (hanswered "u")).2.1 60).mpr ?_
    exact ⟨_, congrArg Prod.fst (hconsume "u"), by decide +kernel, by decide +kernel⟩
  · refine (hadmitted (hanswered "v")).1.mpr ?_
    exact ⟨_, congrArg Prod.fst (hconsume "v"), by decide +kernel⟩
  · rw [hconsume]
    decide +kernel

end Management.Service

end Throttle
