import Throttle.Proofs.Engine.Calls
import Throttle.Proofs.Policy.Compile
import Throttle.Proofs.Store.Get

/-!
# What happens to an engine

Requests arrive, calls are made, other policies are loaded, and the store may be out of reach for a while. All that comes
to one of three things: a policy decides and the bucket of a caller is charged, a bucket is forgotten, or the store stays
as it was.
-/

namespace Throttle

/-- The policies of a call came out of the check of a definition. -/
def Call.Compiled {α : Type} : Call α → Prop
  | .consume _ _ p _ => p.Compiled
  | .snapshot _ _ p => p.Compiled
  | .reset _ p => p.Compiled
  | .reload c => c.Compiled

namespace Engine

variable {α : Type}

/-- Something that happens to an engine. -/
inductive Event (α : Type) where
  | arrival (now : α) (r : Arrival)
  | call (c : Call α)
  /-- The store can no longer be reached, or can again. -/
  | outage (reason : Option String)
  deriving DecidableEq

/-- The policies that it brings along came out of the check of a definition. -/
def Event.Compiled : Event α → Prop
  | .call c => c.Compiled
  | _ => True

variable [Quantity α]

/-- What an engine answers, and the engine after it. -/
def step (e : Engine α) : Event α → Answer α × Engine α
  | .arrival now r =>
    match e.consume now r with
    | (.ok d, e) => (.decision d, e)
    | (.error err, e) => (.failed err, e)
  | .call c => e.call c
  | .outage reason => (.done, { e with outage := reason })

/-- The engine after all that has happened to it. -/
def after (e : Engine α) (events : List (Event α)) : Engine α := events.foldl (fun e i => (e.step i).2) e

/-- A policy decides on a caller: it is the first for a request that has arrived, or it is called upon. -/
inductive Decides (e : Engine α) (p : Policy) (now : α) (key : String) (d : Decision α) (e' : Engine α) : Prop where
  | arrival {r : Arrival} (hp : e.catalog.firstFor r.method r.path = some p) (hkey : p.callerKey r.identity = .ok key)
      (h : e.consume now r = (.ok d, e'))
  | call {cost : Option UInt32} (h : e.consumeKey now key p cost = (.ok d, e'))

/-- The policies one of which may decide on what happens. -/
def deciders (e : Engine α) : Event α → List Policy
  | .arrival .. => e.catalog.policies
  | .call (.consume _ _ p _) => [p]
  | _ => []

/-- What comes of something that happens to an engine. -/
inductive Effect (e : Engine α) (i : Event α) : Answer α → Engine α → Prop where
  | decided {p : Policy} {now : α} {key : String} {d : Decision α} {e' : Engine α} (hp : p ∈ e.deciders i)
      (h : e.Decides p now key d e') : Effect e i (.decision d) e'
  | forgotten (name : String) : Effect e i .done { e with store := e.store.remove name }
  | kept {answer : Answer α} {e' : Engine α} (hanswer : ∀ d, answer = .decision d → d.policy = none)
      (hstore : e'.store = e.store) (hcatalog : e'.catalog = e.catalog ∨ i = .call (.reload e'.catalog)) :
      Effect e i answer e'

variable {e e' : Engine α} {p : Policy} {now : α} {key : String} {d : Decision α}

theorem consumeKey_eq_ok_iff {cost : Option UInt32} :
    e.consumeKey now key p cost = (.ok d, e') ↔
      e.outage = none ∧ ∃ c, checkCost p cost = .ok c ∧
        p.decision key (e.store.update (p.bucketKey key) ⟨p.limiter, c, now⟩).2 = d ∧
        { e with store := (e.store.update (p.bucketKey key) ⟨p.limiter, c, now⟩).1 } = e' := by
  constructor
  · intro h
    rcases e.consumeKey_cases now key p cost with ⟨err, hfailed⟩ | ⟨hup, c, hc, hcharged⟩
    · cases h.symm.trans hfailed
    · cases h.symm.trans hcharged
      exact ⟨hup, c, hc, rfl, rfl⟩
  · rintro ⟨hup, c, hc, rfl, rfl⟩
    exact consumeKey_of_up hup hc now key

theorem Decides.exists_cost (h : e.Decides p now key d e') :
    ∃ c, c ≠ 0 ∧ c ≤ p.limit.burst ∧
      p.decision key (e.store.update (p.bucketKey key) ⟨p.limiter, c, now⟩).2 = d ∧
      { e with store := (e.store.update (p.bucketKey key) ⟨p.limiter, c, now⟩).1 } = e' := by
  have hcall : ∃ cost, e.consumeKey now key p cost = (.ok d, e') := by
    cases h with
    | @arrival r hp hkey h => exact ⟨r.cost, (consume_of_matched hp hkey).symm.trans h⟩
    | @call cost h => exact ⟨cost, h⟩
  obtain ⟨cost, hcall⟩ := hcall
  obtain ⟨-, c, hc, hd, he⟩ := consumeKey_eq_ok_iff.mp hcall
  obtain ⟨-, hzero, hburst⟩ := checkCost_eq_ok_iff.mp hc
  exact ⟨c, hzero, hburst, hd, he⟩

theorem exists_consumeKey_of_consume {r : Arrival} (hp : e.catalog.firstFor r.method r.path = some p)
    (h : e.consume now r = (.ok d, e')) :
    ∃ key, p.callerKey r.identity = .ok key ∧ e.consumeKey now key p r.cost = (.ok d, e') := by
  cases hkey : p.callerKey r.identity with
  | error err => cases h.symm.trans (consume_of_keyless hp hkey)
  | ok key => exact ⟨key, rfl, (consume_of_matched hp hkey).symm.trans h⟩

theorem policy_unmatchedDecision (e : Engine α) : e.unmatchedDecision.policy = none := by
  unfold unmatchedDecision
  cases e.unmatched <;> rfl

theorem limit_unmatchedDecision (e : Engine α) : e.unmatchedDecision.limit = none := by
  unfold unmatchedDecision
  cases e.unmatched <;> rfl

theorem effect_arrival (e : Engine α) (now : α) (r : Arrival) :
    e.Effect (.arrival now r) (e.step (.arrival now r)).1 (e.step (.arrival now r)).2 := by
  cases hp : e.catalog.firstFor r.method r.path with
  | none =>
      simp only [step, consume_of_unmatched hp]
      refine .kept ?_ rfl (.inl rfl)
      rintro _ ⟨⟩
      exact e.policy_unmatchedDecision
  | some p =>
      cases hanswer : (e.consume now r).1 with
      | error err =>
          have hconsume : e.consume now r = (.error err, e) := Prod.ext hanswer (snd_consume_of_error hanswer)
          simp only [step, hconsume]
          exact .kept nofun rfl (.inl rfl)
      | ok d =>
          have hconsume : e.consume now r = (.ok d, (e.consume now r).2) := Prod.ext hanswer rfl
          rw [step, hconsume]
          obtain ⟨key, hkey, -⟩ := exists_consumeKey_of_consume hp hconsume
          exact .decided (List.mem_of_find?_eq_some hp) (.arrival hp hkey hconsume)

theorem effect_call (e : Engine α) (c : Call α) : e.Effect (.call c) (e.call c).1 (e.call c).2 := by
  cases c with
  | consume now key p cost =>
      cases hanswer : (e.consumeKey now key p cost).1 with
      | error err =>
          have hconsume : e.consumeKey now key p cost = (.error err, e) :=
            Prod.ext hanswer (snd_consumeKey_of_error hanswer)
          simp only [call, hconsume]
          exact .kept nofun rfl (.inl rfl)
      | ok d =>
          have hconsume : e.consumeKey now key p cost = (.ok d, (e.consumeKey now key p cost).2) := Prod.ext hanswer rfl
          rw [call, hconsume]
          exact .decided (List.mem_singleton.mpr rfl) (.call hconsume)
  | snapshot now key p =>
      cases houtage : e.outage with
      | some reason =>
          simp only [call, snapshot_of_down houtage]
          exact .kept nofun rfl (.inl rfl)
      | none =>
          simp only [call, snapshot_of_up houtage]
          exact .kept nofun rfl (.inl rfl)
  | reset key p =>
      cases houtage : e.outage with
      | some reason =>
          simp only [call, reset_of_down houtage]
          exact .kept nofun rfl (.inl rfl)
      | none =>
          simp only [call, reset_of_up houtage]
          exact .forgotten (p.bucketKey key)
  | reload c => exact .kept nofun rfl (.inr rfl)

theorem effect_step (e : Engine α) (i : Event α) : e.Effect i (e.step i).1 (e.step i).2 := by
  cases i with
  | arrival now r => exact e.effect_arrival now r
  | call c => exact e.effect_call c
  | outage reason => exact .kept nofun rfl (.inl rfl)

theorem exists_decides_of_step {i : Event α} (h : (e.step i).1 = .decision d) (hpolicy : d.policy ≠ none) :
    ∃ p ∈ e.deciders i, ∃ now key, e.Decides p now key d (e.step i).2 := by
  have heffect := e.effect_step i
  generalize (e.step i).1 = answer, (e.step i).2 = e' at h heffect
  cases heffect with
  | decided hp hdecides =>
      cases h
      exact ⟨_, hp, _, _, hdecides⟩
  | forgotten name => cases h
  | kept hanswer _ _ => exact absurd (hanswer d h) hpolicy

theorem snapshot_eq_of_step {s : Snapshot α} (h : (e.step (.call (.snapshot now key p))).1 = .snapshot s) :
    p.snapshot key (e.store.get (p.bucketKey key)) now = s := by
  cases houtage : e.outage with
  | some reason =>
      simp only [step, call, snapshot_of_down houtage] at h
      cases h
  | none =>
      simp only [step, call, snapshot_of_up houtage] at h
      cases h
      rfl

/-- What is stored afterwards was stored before, or is what a charge has left. -/
theorem Effect.stored_or_charged {i : Event α} {answer : Answer α} (h : e.Effect i answer e') {name : String}
    {b : Bucket α} (hb : e'.store.get name = some b) :
    e.store.get name = some b ∨
      ∃ p ∈ e.deciders i, ∃ now key d cost, e.Decides p now key d e' ∧ p.bucketKey key = name ∧
        b = (p.limiter.charge (e.store.get name) cost now).1 := by
  cases h with
  | @decided p now key d e' hp hdecides =>
      obtain ⟨cost, -, -, -, rfl⟩ := hdecides.exists_cost
      by_cases hname : name = p.bucketKey key
      · subst hname
        rw [Store.get_update_self] at hb
        exact .inr ⟨p, hp, now, key, d, cost, hdecides, rfl, (Option.some.inj hb).symm⟩
      · exact .inl (Store.get_of_get_update_of_ne hname hb)
  | forgotten other =>
      by_cases hname : name = other
      · subst hname
        rw [Store.get_remove_self] at hb
        cases hb
      · rw [Store.get_remove_of_ne _ hname] at hb
        exact .inl hb
  | kept _ hstore _ =>
      rw [hstore] at hb
      exact .inl hb

/-! ## Policies that have been checked -/

omit [Quantity α] in
theorem compiled_of_mem_deciders {i : Event α} (he : e.catalog.Compiled) (hi : i.Compiled) :
    ∀ p ∈ e.deciders i, p.Compiled := by
  intro p hp
  cases i with
  | arrival now r => exact he p hp
  | call c =>
      cases c with
      | consume now key q cost => exact List.mem_singleton.mp hp ▸ hi
      | _ => cases hp
  | outage reason => cases hp

theorem compiled_step {i : Event α} (he : e.catalog.Compiled) (hi : i.Compiled) : (e.step i).2.catalog.Compiled := by
  have heffect := e.effect_step i
  generalize (e.step i).1 = answer, (e.step i).2 = e' at heffect
  cases heffect with
  | decided hp h =>
      obtain ⟨cost, -, -, -, rfl⟩ := h.exists_cost
      exact he
  | forgotten name => exact he
  | kept _ _ hcatalog =>
      rcases hcatalog with hcatalog | rfl
      · exact hcatalog ▸ he
      · exact hi

theorem compiled_after {events : List (Event α)} (he : e.catalog.Compiled) (hevents : ∀ i ∈ events, i.Compiled) :
    (e.after events).catalog.Compiled := by
  induction events generalizing e with
  | nil => exact he
  | cons i events ih =>
      obtain ⟨hi, hevents⟩ := List.forall_mem_cons.mp hevents
      exact ih (compiled_step he hi) hevents

end Engine

end Throttle
