import Throttle.Proofs.Engine.Events
import Throttle.Proofs.Policy.Spelling

/-!
# How methods are written makes no difference

A request is compared with the verbs of a policy in large letters. So the letters in which its method is written make no
difference to which policy decides, and no difference to anything that an engine answers or stores; nor does it make one how
the methods of the policies were written.
-/

namespace Throttle

section

variable {method method' : String} (h : Text.SameLetters method method')
include h

theorem Policy.Methods.contains_of_sameLetters (m : Policy.Methods) : m.contains method = m.contains method' := by
  cases m with
  | any => rfl
  | only verbs => simp only [contains, h.upper_eq]

theorem Catalog.firstFor_of_sameLetters (c : Catalog) (path : String) : c.firstFor method path = c.firstFor method' path := by
  simp only [firstFor, Policy.applies, Policy.Methods.contains_of_sameLetters h]

end

namespace Engine

open Policy (Definition)

variable {α : Type} [Quantity α] {e : Engine α}

/-- The same happens, but a request may have its method in other letters. -/
inductive Event.Same : Event α → Event α → Prop where
  | arrival (now : α) {r : Arrival} {method : String} (h : Text.SameLetters r.method method) :
      Same (.arrival now r) (.arrival now { r with method })
  | refl (i : Event α) : Same i i

/-- What is answered to all that happens, one after another. -/
def answers (e : Engine α) : List (Event α) → List (Answer α)
  | [] => []
  | i :: events => (e.step i).1 :: (e.step i).2.answers events

theorem Event.Same.step_eq {i i' : Event α} (h : i.Same i') (e : Engine α) : e.step i = e.step i' := by
  cases h with
  | arrival now h => simp only [step, consume, Catalog.firstFor_of_sameLetters h]
  | refl i => rfl

theorem answers_and_after_of_same {events events' : List (Event α)} (h : List.Forall₂ Event.Same events events')
    (e : Engine α) : e.answers events = e.answers events' ∧ e.after events = e.after events' := by
  induction h generalizing e with
  | nil => exact ⟨rfl, rfl⟩
  | @cons i i' events events' h _ ih =>
      obtain ⟨hanswers, hafter⟩ := ih (e.step i').2
      constructor
      · rw [answers, answers, h.step_eq, hanswers]
      · rw [after, after, List.foldl_cons, List.foldl_cons, h.step_eq]
        exact hafter

/-- Definitions that differ only in how their methods are written make the same catalog, or are refused with the same error.
Under either catalog requests that differ only in the letters of their methods have the same policy, and whatever happens is
answered alike and leaves the same engine, whether requests are written in the one way or in the other. -/
theorem same_whatever_spelling {ds ds' : List Definition} (hds : List.Forall₂ Definition.Same ds ds') :
    Catalog.ofDefinitions ds = Catalog.ofDefinitions ds' ∧
    ∀ c c', Catalog.ofDefinitions ds = .ok c → Catalog.ofDefinitions ds' = .ok c' →
      (∀ method method' path, Text.SameLetters method method' → c.firstFor method path = c'.firstFor method' path) ∧
      ∀ (e : Engine α) (events events' : List (Event α)), List.Forall₂ Event.Same events events' →
        ({ e with catalog := c }).answers events = ({ e with catalog := c' }).answers events' ∧
        ({ e with catalog := c }).after events = ({ e with catalog := c' }).after events' := by
  have hsame := Catalog.ofDefinitions_of_same hds
  refine ⟨hsame, fun c c' hc hc' => ?_⟩
  obtain rfl : c = c' := Except.ok.inj (hc.symm.trans (hsame.trans hc'))
  refine ⟨fun method method' path h => c.firstFor_of_sameLetters h path, fun e events events' h => ?_⟩
  exact answers_and_after_of_same h _

/-- A list with white space, letters of both sizes and a blank entry, and the same verbs in another order and one of them
twice; and the word for every method in place of nothing. Either way the first policy admits one request and the second
another, for which the first is not. -/
theorem same_whatever_spelling_of_two_verbs :
    let d : Definition := { name := "a", rate := 1, period := 1, burst := 2, scope := .global }
    let ds : List Definition := [{ d with methods := some (.verbs [" get", "Post", "\t"]) }, { d with name := "b" }]
    let ds' : List Definition := [
      { d with methods := some (.verbs ["POST", "GET", "get"]) }, { d with name := "b", methods := some (.keyword "Any") }]
    let events (get put : String) : List (Event ℚ) := [
      .arrival 0 { method := get, path := "/" }, .arrival 0 { method := put, path := "/" }]
    ∃ c c' p q, Catalog.ofDefinitions ds = .ok c ∧ Catalog.ofDefinitions ds' = .ok c' ∧
      (c.firstFor "Get" "/" = some p ∧ c'.firstFor "gET" "/" = some p ∧ p.name = "a") ∧
      (c.firstFor "Put" "/" = some q ∧ c'.firstFor "pUT" "/" = some q ∧ q.name = "b") ∧
      let e : Engine ℚ := {}
      let answers : List (Answer ℚ) := [
        .decision (p.decision "global:*" (.admitted 1)), .decision (q.decision "global:*" (.admitted 1))]
      ({ e with catalog := c }).answers (events "get" "put") = answers ∧
        ({ e with catalog := c' }).answers (events "GET" "Put") = answers ∧
        ({ e with catalog := c }).after (events "get" "put") = ({ e with catalog := c' }).after (events "GET" "Put") := by
  intro d ds ds' events
  have hverbs : Policy.SameVerbs [" get", "Post", "\t"] ["POST", "GET", "get"] := by
    have hspace : Policy.SameVerbs [" " ++ "get" ++ "", "Post", "\t"] ["get", "Post", "\t"] :=
      .space (List.all_eq_true.mp (by decide)) (List.all_eq_true.mp (by decide)) "get" _
    have hblank : Policy.SameVerbs ["get", "Post", "\t"] ["get", "Post"] :=
      .cons _ (.cons _ (.blank (List.all_eq_true.mp (by decide)) []))
    have horder : Policy.SameVerbs ["get", "Post"] ["Post", "get"] := .order _ _ []
    have hpost : Policy.SameVerbs ["Post", "get"] ["POST", "get"] := .letters (by decide) _
    have hagain : Policy.SameVerbs ["POST", "get"] ["POST", "get", "get"] := .cons _ (.symm (.again _ []))
    have hget : Policy.SameVerbs ["POST", "get", "get"] ["POST", "GET", "get"] := .cons _ (.letters (by decide) _)
    exact hspace.trans (hblank.trans (horder.trans (hpost.trans (hagain.trans hget))))
  have hds : List.Forall₂ Definition.Same ds ds' :=
    .cons (.methods (.verbs hverbs)) (.cons (.methods (.any trivial (.inr (by decide)))) .nil)
  have hevents : List.Forall₂ Event.Same (events "get" "put") (events "GET" "Put") :=
    .cons (.arrival 0 (by decide)) (.cons (.arrival 0 (by decide)) .nil)
  let c := (Catalog.ofDefinitions ds).toOption.get (by decide +kernel)
  let c' := (Catalog.ofDefinitions ds').toOption.get (by decide +kernel)
  let p := (c.firstFor "GET" "/").get (by decide +kernel)
  let q := (c.firstFor "PUT" "/").get (by decide +kernel)
  have hc : Catalog.ofDefinitions ds = .ok c := by decide +kernel
  have hc' : Catalog.ofDefinitions ds' = .ok c' := by decide +kernel
  obtain ⟨hfirst, hrun⟩ := (same_whatever_spelling (α := ℚ) hds).2 c c' hc hc'
  obtain ⟨hanswers, hafter⟩ := hrun {} _ _ hevents
  have hp : c.firstFor "Get" "/" = some p := by decide +kernel
  have hq : c.firstFor "Put" "/" = some q := by decide +kernel
  have hdecided : ({ ({} : Engine ℚ) with catalog := c }).answers (events "get" "put") =
      [.decision (p.decision "global:*" (.admitted 1)), .decision (q.decision "global:*" (.admitted 1))] := by
    decide +kernel
  exact ⟨c, c', p, q, hc, hc', ⟨hp, (hfirst "Get" "gET" "/" (by decide)).symm.trans hp, by decide +kernel⟩,
    ⟨hq, (hfirst "Put" "pUT" "/" (by decide)).symm.trans hq, by decide +kernel⟩,
    hdecided, hanswers.symm.trans hdecided, hafter⟩

end Engine

end Throttle
