import Mathlib.Data.List.Nodup
import Throttle.Proofs.Management.Trace
import Throttle.Session

/-!
# What leaves no trace in a session

Questions, refusals and requests that no bucket was asked about leave a session as it was. So they can be struck out of
what happens to the session: all else is answered as before, and the session ends as before.
-/

namespace Throttle

namespace Management

/-- The request that a line holds. -/
def request? (line : String) : Option Request := (Json.read? line).bind Request.read

namespace Service

theorem respond_of_malformed {text : String} (h : request? text = none) (s : Service Float) (now : Float) :
    (s.respond now text).2 = s := by
  rw [request?] at h
  rw [respond, h]

theorem respond_of_request {text : String} {r : Request} (h : request? text = some r) (s : Service Float) (now : Float) :
    s.respond now text = s.handle now r := by
  rw [request?] at h
  rw [respond, h]

end Service

end Management

namespace Session

open Management

/-- Lines that hold no request or one that leaves no trace, and policies that cannot be loaded. -/
inductive Traceless (s : Session) : Event → Prop where
  | malformed {text : String} (h : request? text = none) : Traceless s (.line text)
  | request {text : String} {r : Request} (h : request? text = some r) (hr : s.service.Traceless s.clock r) :
      Traceless s (.line text)
  | reload {policies : String} {e : Error} (h : Catalog.ofYaml policies = .error e) : Traceless s (.reload policies)
  | reloadFile {e : Error} (h : Catalog.ofFile s.file = .error e) : Traceless s .reloadFile

/-- A list without what is struck out of it; beyond the marks nothing is. -/
def strike {β : Type} : List Bool → List β → List β
  | true :: marks, _ :: xs => strike marks xs
  | false :: marks, x :: xs => x :: strike marks xs
  | _, xs => xs

/-- What is struck out leaves no trace, each event in the session to which it happens. -/
def StrikesTraceless (s : Session) : List Bool → List Event → Prop
  | true :: marks, e :: events => s.Traceless e ∧ StrikesTraceless (s.step e).2 marks events
  | false :: marks, e :: events => StrikesTraceless (s.step e).2 marks events
  | _, _ => True

variable {s : Session}

theorem step_line_of_respond {text : String} (h : (s.service.respond s.clock text).2 = s.service) :
    (s.step (.line text)).2 = s := by
  show { s with service := (s.service.respond s.clock text).2 } = s
  rw [h]

/-- After a load that leaves the engine as it was, the session is as it was. -/
theorem snd_loaded {read : Result Catalog} (h : (s.engine.load read).2 = s.engine) :
    (loaded (s.onEngine (·.load read))).2 = s := by
  have hkept : (s.onEngine (·.load read)).2 = s := by
    show s.withEngine (s.engine.load read).2 = s
    rw [h]
    rfl
  rcases hload : s.onEngine (·.load read) with ⟨err | size, s'⟩ <;> rw [hload] at hkept <;> exact hkept

theorem Traceless.step_eq {e : Event} (h : s.Traceless e) : (s.step e).2 = s := by
  cases h with
  | malformed h => exact step_line_of_respond (Service.respond_of_malformed h s.service s.clock)
  | request h hr =>
      apply step_line_of_respond
      rw [Service.respond_of_request h]
      exact hr.snd_handle_eq
  | reload h => exact snd_loaded (Engine.snd_load_of_error h)
  | reloadFile h => exact snd_loaded (Engine.snd_load_of_error h)

/-- If all that is struck out leaves no trace, the rest of the events have the replies they had among all, and the session
ends as it did. -/
theorem run_strike (events : List Event) (marks : List Bool) (h : s.StrikesTraceless marks events) :
    s.run (strike marks events) = (strike marks (s.run events).1, (s.run events).2) := by
  induction events generalizing s marks with
  | nil => cases marks with
    | nil => rfl
    | cons mark marks => cases mark <;> rfl
  | cons e events ih =>
      cases marks with
      | nil => rfl
      | cons mark marks =>
          cases mark with
          | true =>
              -- The one run skips the event, and in the other it changes nothing.
              obtain ⟨htraceless, hrest⟩ := h
              have hnext := ih marks hrest
              rw [htraceless.step_eq] at hnext
              simp only [strike, run, htraceless.step_eq, hnext]
          | false => simp only [strike, run, ih marks h]

/-- A line that is no request, and a charge of three where two are the most, which makes no room in a full store; while the
store cannot be reached, a charge that is refused and a request that is rejected as the boundary is told to; a question, and
policies that cannot be read. All these are struck out. -/
theorem run_strike_around_outage :
    let p : Policy := {
      name := "p", algorithm := .tokenBucket, limit := ⟨1, 1, 2⟩, scope := .global
      pattern := (Pattern.ofText? "^/a$").get (by decide +kernel)
      methods := .any, cost := 1, metadata := .empty }
    let s : Session := { service := {
      engine := { catalog := ⟨[p], List.nodup_singleton _⟩, store := (Store.bounded 1).put "old" (.token 2 0) }
      boundary := { skipPaths := [], storeFailure := .closed } } }
    let charge := "\x7b\"op\":\"consume\",\"key\":\"global:*\",\"policy\":\"p\"\x7d"
    let overcharge := "\x7b\"op\":\"consume\",\"key\":\"global:*\",\"policy\":\"p\",\"cost\":3\x7d"
    let arrival := "\x7b\"op\":\"admit\",\"method\":\"GET\",\"path\":\"/a\"\x7d"
    let quota := "\x7b\"op\":\"quota\",\"key\":\"global:*\",\"policy\":\"p\"\x7d"
    let events : List Event := [.line "what is left?", .line overcharge, .outage (some "down"), .line charge, .line arrival,
      .outage none, .line arrival, .line quota, .reload "- p", .setClock 5, .line charge]
    let marks := [true, true, false, true, true, false, false, true, true, false, false]
    s.StrikesTraceless marks events ∧
      s.run [.outage (some "down"), .outage none, .line arrival, .setClock 5, .line charge] =
        (strike marks (s.run events).1, (s.run events).2) ∧
      (s.run events).2.engine.store.entries = [("tollgate:token_bucket:p:global:*", .token 1 5)] := by
  intro p s charge overcharge arrival quota events marks
  let down := (s.step (.outage (some "down"))).2
  have hmalformed : s.Traceless (.line "what is left?") := .malformed (by decide +kernel)
  have hovercharge : s.Traceless (.line overcharge) := by
    have hrequest : request? overcharge = some (.consume "global:*" (.loaded "p") (some 3)) := by decide +kernel
    have hrefused : (s.service.handle s.clock (.consume "global:*" (.loaded "p") (some 3))).1 =
        .failed (.invalidCost 3 "p" 2) := rfl
    exact .request hrequest (.refused hrefused)
  have hcharge : down.Traceless (.line charge) := by
    have hrequest : request? charge = some (.consume "global:*" (.loaded "p") none) := by decide +kernel
    have hrefused : (down.service.handle down.clock (.consume "global:*" (.loaded "p") none)).1 =
        .failed (.storeUnavailable "down") := rfl
    exact .request hrequest (.refused hrefused)
  have harrival : down.Traceless (.line arrival) := by
    have hrequest : request? arrival = some (.admission "GET" "/a" {} none) := by decide +kernel
    have hunavailable : (down.engine.consume down.clock { method := "GET", path := "/a" }).1 =
        .error (.storeUnavailable "down") := rfl
    exact .request hrequest (.fallback hunavailable)
  have hquota (t : Session) : t.Traceless (.line quota) := by
    have hrequest : request? quota = some (.quota "global:*" (.loaded "p")) := by decide +kernel
    exact .request hrequest (.quota _ _)
  have hreload (t : Session) : t.Traceless (.reload "- p") := by
    have hrejected : Catalog.ofYaml "- p" = .error (.misconfigured .unreadableCatalog) := by decide +kernel
    exact .reload hrejected
  have hstrikes : s.StrikesTraceless marks events := by
    refine ⟨hmalformed, ?_⟩
    rw [hmalformed.step_eq]
    refine ⟨hovercharge, ?_⟩
    rw [hovercharge.step_eq]
    refine ⟨hcharge, ?_⟩
    rw [hcharge.step_eq]
    exact ⟨harrival, hquota _, hreload _, trivial⟩
  have hrun := run_strike events marks hstrikes
  refine ⟨hstrikes, hrun, ?_⟩
  rw [← congrArg Prod.snd hrun]
  decide +kernel

end Session

end Throttle
