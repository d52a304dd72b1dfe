import Throttle.Proofs.Bucket.Double
import Throttle.Proofs.Engine.Events
import Throttle.Proofs.Json.Double
import Throttle.Proofs.Json.Record

/-!
# Written decisions

A decision is read back from its text if a finite amount is left. Nothing else that is left has a number to be written as:
neither what is left without a policy, nor what is left in a token bucket that holds negative infinity.
-/

namespace Throttle

namespace Limit

theorem read_toJson (l : Limit) : read l.toJson = some l := by
  simp [read, toJson, Json.fields?, Fields.ofMembers, Fields.slot, List.lookup_cons, Slot.required, Source.uint32_toNat]

theorem exact_toJson (l : Limit) (depth : Nat) : l.toJson.Exact (depth + 1) := by
  refine .object ?_
  simp [Json.exact_toNat]

end Limit

/-- What is left is a finite amount. -/
def Remaining.IsFinite : Remaining Float → Prop
  | amount a => a.isFinite = true
  | unlimited => False

/-- What is left is read back from its own text, if it is written as a number. -/
def Remaining.ReadsBack (r : Remaining Float) : Prop :=
  ∀ a, r = .amount a → a.isFinite = true → Json.read? (Json.real a).write = some (.real a)

namespace Remaining

variable {r : Remaining Float}

theorem toJson_amount {a : Float} (h : a.isFinite = true) : (amount a).toJson = .real a := if_pos h

theorem toJson_of_not_isFinite (h : ¬ r.IsFinite) : r.toJson = .null := by
  cases r with
  | amount a => exact if_neg h
  | unlimited => rfl

theorem readsBack_toJson (h : r.ReadsBack) (depth : Nat) : Json.ReadsBack depth r.toJson := by
  by_cases hfinite : r.IsFinite
  · cases r with
    | unlimited => cases hfinite
    | amount a =>
        rw [toJson_amount hfinite]
        exact Json.readsBack_real (h a rfl hfinite) depth
  · rw [toJson_of_not_isFinite hfinite]
    exact Json.Exact.null.readsBack

end Remaining

namespace Decision

variable {d : Decision Float}

theorem fields_toJson (d : Decision Float) :
    ∃ fs, Json.fields? ["allowed", "remaining", "retry_after", "policy", "limit", "key"] false d.toJson = some fs ∧
      fs.slot "allowed" = .given (.bool d.allowed) ∧ fs.slot "remaining" = .given d.remaining.toJson ∧
      (fs.slot "retry_after").orElse none (Source.orNothing Source.uint64) = some d.retryAfter ∧
      (fs.slot "policy").orNothing Source.text = some d.policy ∧
      (fs.slot "limit").orElse none (Source.orNothing Limit.read) = some d.limit ∧
      fs.slot "key" = .given (.text d.key) := by
  have hword (n : UInt64) : Source.orNothing Source.uint64 (Json.whole n.toNat) = some (some n) := by
    rw [Source.orNothing, Source.uint64_toNat]
    rfl
  have hlimit (l : Limit) : Source.orNothing Limit.read l.toJson = some (some l) := by
    rw [Source.orNothing, l.read_toJson]
    rfl
  obtain ⟨allowed, remaining, retryAfter, policy, limit, key⟩ := d
  cases retryAfter <;> cases limit <;> refine ⟨_, rfl, rfl, rfl, ?_, ?_, ?_, rfl⟩ <;>
    simp [Fields.slot, List.lookup_cons, Slot.orElse, Slot.orNothing, hword, hlimit, Source.orNothing_text_ofOption]

theorem read_toJson (h : d.remaining.IsFinite) : read d.toJson = some d := by
  obtain ⟨fs, hfs, hallowed, hremaining, hretryAfter, hpolicy, hlimit, hkey⟩ := d.fields_toJson
  obtain ⟨allowed, remaining, retryAfter, policy, limit, key⟩ := d
  cases remaining with
  | unlimited => cases h
  | amount a =>
      rw [Remaining.toJson_amount h] at hremaining
      simp [read, hfs, hallowed, hremaining, hretryAfter, hpolicy, hlimit, hkey, Slot.required, Json.bool?, Json.real?,
        Source.text_text]

theorem read_toJson_eq_none (h : ¬ d.remaining.IsFinite) : read d.toJson = none := by
  obtain ⟨fs, hfs, hallowed, hremaining, -⟩ := d.fields_toJson
  rw [Remaining.toJson_of_not_isFinite h] at hremaining
  simp [read, hfs, hallowed, hremaining, Slot.required, Json.bool?, Json.real?]

theorem readsBack_toJson (h : d.remaining.ReadsBack) : Json.ReadsBack Json.maxDepth d.toJson := by
  have hremaining := Remaining.readsBack_toJson h 126
  have hbool : Json.ReadsBack 126 (.bool d.allowed) := (Json.Exact.bool _).readsBack
  have hkey : Json.ReadsBack 126 (.text d.key) := (Json.Exact.text _).readsBack
  have hword (n : UInt64) : Json.ReadsBack 126 (.whole n.toNat) := (Json.exact_word n _).readsBack
  have hlimit (l : Limit) : Json.ReadsBack 126 l.toJson := (l.exact_toJson 125).readsBack
  have hpolicy : Json.ReadsBack 126 (.ofOption .text d.policy) := by
    cases d.policy with
    | none => exact Json.Exact.null.readsBack
    | some s => exact (Json.Exact.text s).readsBack
  refine Json.readsBack_object ?_
  cases d.retryAfter <;> cases d.limit <;> simp [hremaining, hbool, hkey, hword, hlimit, hpolicy]

theorem read_written_iff (h : d.remaining.ReadsBack) :
    ((Json.read? d.toJson.write).bind read = some d ↔ d.remaining.IsFinite) ∧
      (¬ d.remaining.IsFinite → (Json.read? d.toJson.write).bind read = none) := by
  have hwritten : (Json.read? d.toJson.write).bind read = read d.toJson := by
    rw [Json.read?_write_of_readsBack (readsBack_toJson h)]
    rfl
  rw [hwritten]
  by_cases hfinite : d.remaining.IsFinite
  · exact ⟨iff_of_true (read_toJson hfinite) hfinite, absurd hfinite⟩
  · have hnone := read_toJson_eq_none hfinite
    rw [hnone]
    exact ⟨iff_of_false nofun hfinite, fun _ => rfl⟩

end Decision

namespace Engine

variable {e e' : Engine Float} {now : Float} {r : Arrival} {d : Decision Float}

/-- What is left after a decision has no number: no policy is for the request and it is let through, or the caller's bucket
holds negative infinity. -/
inductive LeavesNoNumber (e : Engine Float) (now : Float) (r : Arrival) : Prop where
  | unmatched (hfirst : e.catalog.firstFor r.method r.path = none) (hmode : e.unmatched = .opened)
  | sunk {p : Policy} {key : String} (hfirst : e.catalog.firstFor r.method r.path = some p)
      (hkey : p.callerKey r.identity = .ok key) (halgorithm : p.algorithm = .tokenBucket)
      (hsunk : Limiter.Sunk p.limit now (e.store.get (p.bucketKey key)))

theorem isFinite_remaining_iff (h : e.consume now r = (.ok d, e')) : d.remaining.IsFinite ↔ ¬ e.LeavesNoNumber now r := by
  cases hfirst : e.catalog.firstFor r.method r.path with
  | none =>
      rw [consume_of_unmatched hfirst] at h
      cases h
      cases hmode : e.unmatched with
      | opened =>
          rw [unmatchedDecision, hmode]
          exact iff_of_false id (not_not_intro (.unmatched hfirst hmode))
      | closed =>
          rw [unmatchedDecision, hmode]
          refine iff_of_true rfl ?_
          rintro (⟨-, hopened⟩ | ⟨hp, -⟩)
          · rw [hmode] at hopened; cases hopened
          · rw [hfirst] at hp; cases hp
  | some p =>
      obtain ⟨key, hkey, hcharge⟩ := exists_consumeKey_of_consume hfirst h
      obtain ⟨-, c, -, rfl, -⟩ := consumeKey_eq_ok_iff.mp hcharge
      rw [Store.update_eq]
      refine (Limiter.isFinite_remaining_charge_iff p.limiter _ c now).trans (not_congr ⟨?_, ?_⟩)
      · rintro ⟨halgorithm, hsunk⟩
        exact .sunk hfirst hkey halgorithm hsunk
      · rintro (⟨hnone, -⟩ | ⟨hfirst', hkey', halgorithm, hsunk⟩)
        · rw [hfirst] at hnone
          cases hnone
        · obtain rfl := Option.some.inj (hfirst.symm.trans hfirst')
          obtain rfl := Except.ok.inj (hkey.symm.trans hkey')
          exact ⟨halgorithm, hsunk⟩

/-! ## Buckets that no charge sinks -/

/-- No token bucket holds negative infinity. -/
def Afloat (e : Engine Float) : Prop := ∀ name since, e.store.get name ≠ some (.token Double.negInfinity since)

theorem Afloat.not_sunk (h : e.Afloat) (l : Limit) (now : Float) (name : String) :
    ¬ Limiter.Sunk l now (e.store.get name) := by
  intro hsunk
  generalize hstored : e.store.get name = stored at hsunk
  cases hsunk
  exact h name _ hstored

theorem Afloat.step (h : e.Afloat) (i : Event Float) : (e.step i).2.Afloat := by
  intro name since hstored
  rcases (e.effect_step i).stored_or_charged hstored with hbefore | ⟨p, -, now, -, -, cost, -, -, hcharged⟩
  · exact h name since hbefore
  · exact Limiter.charge_ne_negInfinity p.limiter (h.not_sunk p.limit now name) cost since hcharged.symm

theorem Afloat.after (h : e.Afloat) (events : List (Event Float)) : (e.after events).Afloat := by
  induction events generalizing e with
  | nil => exact h
  | cons i events ih => exact ih (h.step i)

theorem Afloat.leavesNoNumber_iff (h : e.Afloat) :
    e.LeavesNoNumber now r ↔ e.catalog.firstFor r.method r.path = none ∧ e.unmatched = .opened := by
  constructor
  · rintro (⟨hfirst, hmode⟩ | ⟨-, -, -, hsunk⟩)
    · exact ⟨hfirst, hmode⟩
    · exact absurd hsunk (h.not_sunk _ now _)
  · rintro ⟨hfirst, hmode⟩
    exact .unmatched hfirst hmode

/-- Once an engine is used in which no bucket holds negative infinity, decisions are read back from their texts, but for
those on requests that no policy is for and that are let through. -/
theorem read_written_after_iff (hbegin : e.Afloat) (events : List (Event Float))
    (h : (e.after events).consume now r = (.ok d, e')) (hleft : d.remaining.ReadsBack) :
    (Json.read? d.toJson.write).bind Decision.read = some d ↔
      ¬ ((e.after events).catalog.firstFor r.method r.path = none ∧ (e.after events).unmatched = .opened) := by
  rw [(Decision.read_written_iff hleft).1, isFinite_remaining_iff h, (hbegin.after events).leavesNoNumber_iff]

/-- A decision is read back from its text exactly if what is left has a number, provided that this number is read back. If it
has none then nothing can be read. -/
theorem written_decision_read_iff (h : e.consume now r = (.ok d, e'))
    (hleft : ∀ a, d.remaining = .amount a → a.isFinite = true → Json.read? (Json.real a).write = some (.real a)) :
    ((Json.read? d.toJson.write).bind Decision.read = some d ↔ ¬ e.LeavesNoNumber now r) ∧
      (e.LeavesNoNumber now r → (Json.read? d.toJson.write).bind Decision.read = none) := by
  obtain ⟨hread, hnone⟩ := Decision.read_written_iff hleft
  have hfinite := isFinite_remaining_iff h
  exact ⟨hread.trans hfinite, fun hlacks => hnone fun hleft => hfinite.mp hleft hlacks⟩

/-- A caller who has half a permit left is turned away, and the decision says so after it was written. -/
theorem written_decision_read_with_half :
    let definition : Policy.Definition := { name := "p", rate := 1, period := 1, burst := 2 }
    ∃ c d e', Catalog.ofDefinitions [definition] = .ok c ∧
      let e : Engine Float := { catalog := c, store := Store.put {} "tollgate:token_bucket:p:ip:a" (.token 0.5 0) }
      e.consume 0 { method := "GET", path := "/", identity := { ip := some "a" } } = (.ok d, e') ∧
        d.remaining = .amount 0.5 ∧ (Json.read? d.toJson.write).bind Decision.read = some d := by
  intro definition
  let c := (Catalog.ofDefinitions [definition]).toOption.get (by decide +kernel)
  let e : Engine Float := { catalog := c, store := Store.put {} "tollgate:token_bucket:p:ip:a" (.token 0.5 0) }
  let r : Arrival := { method := "GET", path := "/", identity := { ip := some "a" } }
  let p := (c.firstFor "GET" "/").get (by decide +kernel)
  have hfirst : e.catalog.firstFor r.method r.path = some p := by decide +kernel
  have hkey : p.callerKey r.identity = .ok "ip:a" := by decide +kernel
  have hcost : checkCost p r.cost = .ok 1 := by decide +kernel
  have hconsume : e.consume 0 r = _ := (consume_of_matched hfirst hkey).trans (consumeKey_of_up rfl hcost 0 "ip:a")
  have hremaining : (p.decision "ip:a" (e.store.update (p.bucketKey "ip:a") ⟨p.limiter, 1, 0⟩).2).remaining =
      .amount 0.5 := by decide +kernel
  have hhalf : Json.read? (Json.real 0.5).write = some (.real 0.5) := by
    have hreal : ((Json.read? (Json.real 0.5).write).bind fun v => match v with
        | .real a => some a
        | _ => none) = some 0.5 := by decide +kernel
    obtain ⟨v, hv, hreal⟩ := Option.bind_eq_some_iff.mp hreal
    cases v <;> cases hreal
    exact hv
  have hfinite : (Remaining.amount 0.5).IsFinite := (by decide +kernel : (0.5 : Float).isFinite = true)
  have hnumber : ¬ e.LeavesNoNumber 0 r := (isFinite_remaining_iff hconsume).mp (hremaining ▸ hfinite)
  refine ⟨c, _, _, by decide +kernel, hconsume, hremaining, ?_⟩
  refine (written_decision_read_iff hconsume fun a ha _ => ?_).1.mpr hnumber
  obtain rfl := Remaining.amount.inj (ha.symm.trans hremaining)
  exact hhalf

/-- Without policies every request is let through, and the decision cannot be read back. -/
theorem unmatched_decision_not_read :
    let e : Engine Float := {}
    ∃ d, e.consume 0 { method := "GET", path := "/" } = (.ok d, e) ∧
      (Json.read? d.toJson.write).bind Decision.read = none := by
  intro e
  have hunlimited : ¬ e.unmatchedDecision.remaining.IsFinite := id
  have hleft : e.unmatchedDecision.remaining.ReadsBack := nofun
  exact ⟨e.unmatchedDecision, consume_of_unmatched rfl, (Decision.read_written_iff hleft).2 hunlimited⟩

end Engine

end Throttle
