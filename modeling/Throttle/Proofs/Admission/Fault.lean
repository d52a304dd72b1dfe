import Throttle.Admission
import Throttle.Proofs.Engine.Events

/-!
# When a request is at fault

The boundary answers a request with an error only for what the request itself got wrong: it lacks what the scope of its
policy takes from an identity, or brings along a cost that the policy can never admit. A store that cannot be reached is
no error, and makes no difference where no bucket is asked.
-/

namespace Throttle

/-- The component for a scope is missing or empty. Everyone has the one that is shared. -/
def Identity.Lacks (i : Identity) : Scope → Prop
  | .ip => i.ip = none ∨ i.ip = some ""
  | .user => i.user = none ∨ i.user = some ""
  | .tenant => i.tenant = none ∨ i.tenant = some ""
  | .custom => i.custom = none ∨ i.custom = some ""
  | .global => False

theorem Identity.component_eq_none_iff {i : Identity} {scope : Scope} : i.component scope = none ↔ i.Lacks scope := by
  have hfilter (o : Option String) : o.filter (· ≠ "") = none ↔ o = none ∨ o = some "" := by cases o <;> simp
  cases scope with
  | global => simp [component, Lacks]
  | _ => exact hfilter _

theorem Policy.callerKey_of_lacks {p : Policy} {i : Identity} (h : i.Lacks p.scope) :
    p.callerKey i = .error (.unsupportedScope p.name p.scope) := by
  rw [callerKey, Identity.callerKey, Identity.component_eq_none_iff.mpr h]
  rfl

theorem Policy.exists_callerKey {p : Policy} {i : Identity} (h : ¬ i.Lacks p.scope) : ∃ key, p.callerKey i = .ok key := by
  cases hcomponent : i.component p.scope with
  | none => exact absurd (Identity.component_eq_none_iff.mp hcomponent) h
  | some c => exact ⟨p.scope.name ++ ":" ++ c, by rw [callerKey, Identity.callerKey, hcomponent]; rfl⟩

/-- What is wrong with a request to some policies: what the scope takes comes before the cost. -/
inductive Arrival.Fault (c : Catalog) (r : Arrival) : Error → Prop where
  | identity {p : Policy} (hp : c.firstFor r.method r.path = some p) (h : r.identity.Lacks p.scope) :
      Fault c r (.unsupportedScope p.name p.scope)
  | cost {p : Policy} {cost : UInt32} (hp : c.firstFor r.method r.path = some p) (h : ¬ r.identity.Lacks p.scope)
      (hcost : r.cost = some cost) (hbad : cost = 0 ∨ p.limit.burst < cost) :
      Fault c r (.invalidCost cost p.name p.limit.burst)

namespace Engine

variable {α : Type} [Quantity α] {e : Engine α} {p : Policy} {r : Arrival} {err : Error}

theorem consume_of_fault (h : r.Fault e.catalog err) (now : α) : e.consume now r = (.error err, e) := by
  cases h with
  | identity hp hlacks => exact consume_of_keyless hp (Policy.callerKey_of_lacks hlacks)
  | @cost p cost hp hlacks hcost hbad =>
      obtain ⟨key, hkey⟩ := Policy.exists_callerKey hlacks
      have hcheck : checkCost p r.cost = .error (.invalidCost cost p.name p.limit.burst) := by
        rw [hcost]
        exact if_pos hbad
      rw [consume_of_matched hp hkey, consumeKey_of_refused hcheck]

omit [Quantity α] in
theorem exists_checkCost (hp : p.Compiled) (hfirst : e.catalog.firstFor r.method r.path = some p)
    (hlacks : ¬ r.identity.Lacks p.scope) (h : ∀ err, ¬ r.Fault e.catalog err) : ∃ c, checkCost p r.cost = .ok c := by
  cases hcost : r.cost with
  | none =>
      obtain ⟨d, hd⟩ := hp
      obtain ⟨-, -, -, -, -, hpositive, hle, -⟩ := Policy.Definition.compile_eq_ok_iff.mp hd
      have hpos : 0 < p.cost := (Policy.Definition.positive_eq_ok_iff.mp hpositive).1
      exact ⟨p.cost, checkCost_eq_ok_iff.mpr ⟨rfl, (UInt32.ne_of_lt hpos).symm, hle⟩⟩
  | some c =>
      have hgood : ¬ (c = 0 ∨ p.limit.burst < c) := fun hbad => h _ (.cost hfirst hlacks hcost hbad)
      exact ⟨c, if_neg hgood⟩

/-- A request that is not at fault is decided, unless the store cannot be reached. -/
theorem consume_of_sound (he : e.catalog.Compiled) (hfirst : e.catalog.firstFor r.method r.path = some p)
    (h : ∀ err, ¬ r.Fault e.catalog err) (now : α) :
    (∀ reason, e.outage = some reason → e.consume now r = (.error (.storeUnavailable reason), e)) ∧
      (e.outage = none → ∃ d e', e.consume now r = (.ok d, e')) := by
  have hlacks : ¬ r.identity.Lacks p.scope := fun hlacks => h _ (.identity hfirst hlacks)
  obtain ⟨key, hkey⟩ := Policy.exists_callerKey hlacks
  obtain ⟨c, hc⟩ := exists_checkCost (he p (List.mem_of_find?_eq_some hfirst)) hfirst hlacks h
  rw [consume_of_matched hfirst hkey]
  exact ⟨fun reason hdown => consumeKey_of_down hdown hc now key, fun hup => ⟨_, _, consumeKey_of_up hup hc now key⟩⟩

end Engine

namespace Admission

variable {α : Type} [Quantity α] {a : Admission} {e e' : Engine α} {now : α} {r : Arrival} {err : Error}

theorem bypasses_eq_false_iff {path : String} : a.bypasses path = false ↔ ∀ x ∈ a.skipPaths, x.matchesIn path = false := by
  simp [bypasses]

theorem evaluate_of_bypassed (h : a.bypasses r.path = true) : a.evaluate e now r = (.ok .bypassed, e) := if_pos h

theorem evaluate_of_consume_ok (hasked : a.bypasses r.path = false) {d : Decision α}
    (h : e.consume now r = (.ok d, e')) : a.evaluate e now r = (.ok d.outcome, e') := by
  simp [evaluate, hasked, h]

theorem evaluate_of_consume_unavailable (hasked : a.bypasses r.path = false) {reason : String}
    (h : e.consume now r = (.error (.storeUnavailable reason), e')) : a.evaluate e now r = (.ok (a.fallback e'), e') := by
  simp [evaluate, hasked, h]

theorem evaluate_of_consume_error (hasked : a.bypasses r.path = false) (h : e.consume now r = (.error err, e'))
    (herr : ∀ reason, err ≠ .storeUnavailable reason) : a.evaluate e now r = (.error err, e') := by
  cases err with
  | storeUnavailable reason => exact absurd rfl (herr reason)
  | _ => simp [evaluate, hasked, h]

theorem evaluate_of_fault (hasked : a.bypasses r.path = false) (h : r.Fault e.catalog err) :
    a.evaluate e now r = (.error err, e) := by
  refine evaluate_of_consume_error hasked (Engine.consume_of_fault h now) ?_
  cases h <;> nofun

theorem exists_evaluate_of_sound (a : Admission) (he : e.catalog.Compiled) (h : ∀ err, ¬ r.Fault e.catalog err) (now : α) :
    ∃ o e', a.evaluate e now r = (.ok o, e') := by
  cases hasked : a.bypasses r.path with
  | true => exact ⟨_, _, evaluate_of_bypassed hasked⟩
  | false =>
      cases hfirst : e.catalog.firstFor r.method r.path with
      | none => exact ⟨_, _, evaluate_of_consume_ok hasked (Engine.consume_of_unmatched hfirst)⟩
      | some p =>
          obtain ⟨hdown, hup⟩ := Engine.consume_of_sound he hfirst h now
          cases houtage : e.outage with
          | some reason => exact ⟨_, _, evaluate_of_consume_unavailable hasked (hdown reason houtage)⟩
          | none =>
              obtain ⟨d, e', hconsume⟩ := hup houtage
              exact ⟨_, _, evaluate_of_consume_ok hasked hconsume⟩

theorem evaluate_eq_error_iff (he : e.catalog.Compiled) :
    a.evaluate e now r = (.error err, e') ↔ a.bypasses r.path = false ∧ r.Fault e.catalog err ∧ e' = e := by
  constructor
  · intro h
    cases hasked : a.bypasses r.path with
    | true => cases h.symm.trans (evaluate_of_bypassed hasked)
    | false =>
        by_cases hfault : ∃ err, r.Fault e.catalog err
        · obtain ⟨err', hfault⟩ := hfault
          cases h.symm.trans (evaluate_of_fault hasked hfault)
          exact ⟨rfl, hfault, rfl⟩
        · obtain ⟨o, e'', hanswered⟩ := exists_evaluate_of_sound a he (not_exists.mp hfault) now
          cases h.symm.trans hanswered
  · rintro ⟨hasked, hfault, rfl⟩
    exact evaluate_of_fault hasked hfault

/-- Where no bucket is asked, it makes no difference whether the store can be reached. -/
theorem evaluate_of_unasked (h : a.bypasses r.path = true ∨ e.catalog.firstFor r.method r.path = none) :
    ∃ o, ∀ outage, a.evaluate { e with outage } now r = (.ok o, { e with outage }) := by
  cases hasked : a.bypasses r.path with
  | true => exact ⟨.bypassed, fun outage => evaluate_of_bypassed hasked⟩
  | false =>
      have hfirst : e.catalog.firstFor r.method r.path = none := h.resolve_left (by simp [hasked])
      exact ⟨e.unmatchedDecision.outcome,
        fun outage => evaluate_of_consume_ok hasked (Engine.consume_of_unmatched (e := { e with outage }) hfirst)⟩

/-- Under checked policies the boundary answers with an error exactly if the path bypasses nothing and the request is at
fault, and then the engine is as it was. Of the other requests, those that have a policy are answered as the boundary is told to while the store cannot be
reached, and those that bypass the engine or have no policy are answered as ever. -/
theorem evaluate_error_or_fallback (he : e.catalog.Compiled) (a : Admission) (now : α) (r : Arrival) :
    (∀ err e', a.evaluate e now r = (.error err, e') ↔
      (∀ x ∈ a.skipPaths, x.matchesIn r.path = false) ∧ r.Fault e.catalog err ∧ e' = e) ∧
    (∀ reason p, e.outage = some reason → (∀ x ∈ a.skipPaths, x.matchesIn r.path = false) →
      e.catalog.firstFor r.method r.path = some p → (∀ err, ¬ r.Fault e.catalog err) →
        (a.storeFailure = .opened → a.evaluate e now r = (.ok (.admitted []), e)) ∧
        (a.storeFailure = .closed → a.evaluate e now r =
          (.ok (.rejected 429 e.closedRetryAfter [("Retry-After", toString e.closedRetryAfter.toNat)]
            ⟨"rate_limited", e.closedRetryAfter⟩), e))) ∧
    ((∃ x ∈ a.skipPaths, x.matchesIn r.path = true) ∨ e.catalog.firstFor r.method r.path = none →
      ∃ o, ∀ outage, a.evaluate { e with outage } now r = (.ok o, { e with outage })) := by
  refine ⟨fun err e' => ?_, fun reason p hdown hasked hfirst hsound => ?_, fun h => ?_⟩
  · rw [← bypasses_eq_false_iff]
    exact evaluate_eq_error_iff he
  · have hconsume := (Engine.consume_of_sound he hfirst hsound now).1 reason hdown
    have hfallback := evaluate_of_consume_unavailable (bypasses_eq_false_iff.mpr hasked) hconsume
    rw [hfallback]
    exact ⟨fun hmode => by rw [fallback, hmode], fun hmode => by rw [fallback, hmode]; rfl⟩
  · exact evaluate_of_unasked (h.imp_left fun ⟨x, hx, hmatches⟩ => List.any_eq_true.mpr ⟨x, hx, hmatches⟩)

/-- While the store cannot be reached, one who is no user is told so in spite of a cost of nothing, and a user is turned
away. -/
theorem evaluate_error_or_fallback_while_closed :
    let ds : List Policy.Definition := [{ name := "p", rate := 1, period := 1, burst := 2, scope := .user }]
    ∃ c, Catalog.ofDefinitions ds = .ok c ∧
      let e : Engine ℚ := { catalog := c, outage := some "down" }
      let a : Admission := ⟨[(Pattern.ofText? "^/healthz$").get (by decide +kernel)], .closed⟩
      let nobody : Arrival := { method := "GET", path := "/", cost := some 0 }
      let somebody : Arrival := { method := "GET", path := "/", identity := { user := some "u" } }
      a.evaluate e 5 nobody = (.error (.unsupportedScope "p" .user), e) ∧
        a.evaluate e 5 somebody = (.ok (.rejected 429 60 [("Retry-After", "60")] ⟨"rate_limited", 60⟩), e) := by
  intro ds
  have hloaded : ∃ c p, Catalog.ofDefinitions ds = .ok c ∧ c.firstFor "GET" "/" = some p ∧ p.name = "p" ∧ p.scope = .user := by
    let c := (Catalog.ofDefinitions ds).toOption.get (by decide +kernel)
    exact ⟨c, (c.firstFor "GET" "/").get (by decide +kernel), by decide +kernel⟩
  obtain ⟨c, p, hc, hfirst, hname, hscope⟩ := hloaded
  refine ⟨c, hc, ?_⟩
  intro e a nobody somebody
  have he : e.catalog.Compiled := Catalog.compiled_of_ofDefinitions hc
  have hasked : ∀ x ∈ a.skipPaths, x.matchesIn "/" = false := by decide +kernel
  have hlacks : nobody.identity.Lacks p.scope := hscope ▸ .inl rfl
  have hfault : nobody.Fault e.catalog (.unsupportedScope "p" .user) := by
    rw [← hname, ← hscope]
    exact .identity hfirst hlacks
  have hsound : ∀ err, ¬ somebody.Fault e.catalog err := by
    rintro _ (⟨hp, hlacks⟩ | ⟨-, -, hcost, -⟩)
    · obtain rfl := Option.some.inj (hfirst.symm.trans hp)
      rw [hscope] at hlacks
      simp [somebody, Identity.Lacks] at hlacks
    · cases hcost
  have hwait : toString (60 : UInt64).toNat = "60" := by decide +kernel
  have hrejected := ((evaluate_error_or_fallback he a 5 somebody).2.1 "down" p rfl hasked hfirst hsound).2 rfl
  rw [show e.closedRetryAfter = 60 from rfl, hwait] at hrejected
  exact ⟨((evaluate_error_or_fallback he a 5 nobody).1 _ _).mpr ⟨hasked, hfault, rfl⟩, hrejected⟩

end Admission

end Throttle
