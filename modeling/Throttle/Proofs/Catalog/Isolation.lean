import Mathlib.Data.List.Nodup
import Throttle.Catalog

/-!
# When callers of a catalog have buckets of their own

The name of a bucket is made of an algorithm, a policy and a caller, with colons between them; but policies and callers
may have colons in their names too. So a caller of one policy may share a bucket with a caller of another. That happens
exactly where the name of the one policy goes on, after the name of the other, like the name of a caller of that other.
-/

namespace Throttle

namespace Text

theorem toList_append_colon (s t : String) : (s ++ ":" ++ t).toList = s.toList ++ ':' :: t.toList := by simp

/-- Two ways to cut one text at a separator: the cut behind a part without separators comes no later, and what lies
between the two cuts belongs to the rest behind it. -/
theorem append_cons_eq_append_cons_iff {sep : Char} {s t u v : List Char} (hs : sep ∉ s) :
    s ++ sep :: u = t ++ sep :: v ↔ ∃ rest, t ++ [sep] = s ++ sep :: rest ∧ u = rest ++ v := by
  constructor
  · intro h
    rcases List.append_eq_append_iff.mp h with ⟨d, rfl, hd⟩ | ⟨d, rfl, hd⟩
    · cases d with
      | nil => exact ⟨[], by simp, List.tail_eq_of_cons_eq hd⟩
      | cons x d =>
          obtain ⟨rfl, rfl⟩ := List.cons.inj hd
          exact ⟨d ++ [sep], by simp, by simp⟩
    · cases d with
      | nil => exact ⟨[], by simp, (List.tail_eq_of_cons_eq hd).symm⟩
      | cons x d =>
          obtain ⟨rfl, -⟩ := List.cons.inj hd
          exact absurd (by simp) hs
  · rintro ⟨rest, ht, rfl⟩
    have hcut := congrArg (· ++ v) ht
    simpa using hcut.symm

end Text

theorem Scope.colon_not_mem_name (s : Scope) : ':' ∉ s.name.toList := by
  cases s <;> decide

namespace Identity

/-- Somebody of whom only the component of one scope is known. -/
def only (scope : Scope) (component : String) : Identity :=
  match scope with
  | .ip => { ip := some component }
  | .user => { user := some component }
  | .tenant => { tenant := some component }
  | .custom => { custom := some component }
  | .global => {}

theorem component_only {scope : Scope} {component : String} (h : component ≠ "")
    (hglobal : scope = .global → component = "*") : (only scope component).component scope = some component := by
  cases scope with
  | global => rw [hglobal rfl]; rfl
  | _ => simp [only, Identity.component, h]

end Identity

namespace Policy

open Text

variable {p q : Policy}

theorem callerKey_eq_ok_iff {i : Identity} {key : String} :
    p.callerKey i = .ok key ↔ ∃ c, i.component p.scope = some c ∧ key = p.scope.name ++ ":" ++ c := by
  unfold callerKey Identity.callerKey
  cases i.component p.scope with
  | none => simp [Result.ofOption]
  | some c => simp [Result.ofOption, eq_comm]

/-- The algorithm can be told from the name of a bucket, but where the policy ends cannot. -/
theorem bucketKey_eq_iff {j k : String} :
    p.bucketKey j = q.bucketKey k ↔ p.algorithm = q.algorithm ∧ p.name ++ ":" ++ j = q.name ++ ":" ++ k := by
  unfold bucketKey storageKey
  rw [← String.toList_inj, ← String.toList_inj]
  cases p.algorithm <;> cases q.algorithm <;> simp [Algorithm.name]

/-- The name of `q` begins with that of `p` and the scope of `p`, like the name of a caller of `p`. -/
def Shadows (p q : Policy) : Prop :=
  p.algorithm = q.algorithm ∧ p.scope ≠ .global ∧
    ∃ rest, q.name ++ ":" = p.name ++ ":" ++ p.scope.name ++ ":" ++ rest

theorem not_shadows_self (p : Policy) : ¬ p.Shadows p := by
  rintro ⟨-, -, rest, h⟩
  have hlength := congrArg String.length h
  simp only [String.length_append] at hlength
  have hcolon : ":".length = 1 := rfl
  omega

variable {a b : Identity} {j k : String}

/-- Of two policies with one bucket, that with the shorter name shadows the other. -/
theorem shadows_of_bucketKey_eq (hj : p.callerKey a = .ok j) (hk : q.callerKey b = .ok k)
    (h : p.bucketKey j = q.bucketKey k) {x : Char} {d : List Char} (hd : q.name.toList = p.name.toList ++ x :: d) :
    p.Shadows q := by
  obtain ⟨c, hc, rfl⟩ := callerKey_eq_ok_iff.mp hj
  obtain ⟨c', -, rfl⟩ := callerKey_eq_ok_iff.mp hk
  obtain ⟨halgorithm, hname⟩ := bucketKey_eq_iff.mp h
  rw [← String.toList_inj] at hname
  simp only [toList_append_colon, hd, List.append_assoc, List.append_cancel_left_eq] at hname
  obtain ⟨rfl, hcut⟩ := List.cons.inj hname
  obtain ⟨rest, hrest, hcomponent⟩ := (append_cons_eq_append_cons_iff p.scope.colon_not_mem_name).mp hcut
  refine ⟨halgorithm, ?_, String.ofList rest, ?_⟩
  · intro hglobal
    rw [hglobal] at hc
    cases hc
    have hcolon : ':' ∈ "*".toList := by rw [hcomponent]; simp
    exact absurd hcolon (by decide)
  · rw [← String.toList_inj]
    simp [hd, hrest]

/-- Policies with one bucket have one name, or one of them shadows the other. -/
theorem name_eq_or_shadows (hj : p.callerKey a = .ok j) (hk : q.callerKey b = .ok k)
    (h : p.bucketKey j = q.bucketKey k) : p.name = q.name ∨ p.Shadows q ∨ q.Shadows p := by
  obtain ⟨-, hname⟩ := bucketKey_eq_iff.mp h
  rw [← String.toList_inj, toList_append_colon, toList_append_colon] at hname
  -- One of the names goes on where the other ends, by nothing or by what makes it a shadowed one.
  rcases List.append_eq_append_iff.mp hname with ⟨d, hd, -⟩ | ⟨d, hd, -⟩
  · cases d with
    | nil => exact .inl (String.toList_inj.mp (hd.trans (List.append_nil _)).symm)
    | cons x d => exact .inr (.inl (shadows_of_bucketKey_eq hj hk h hd))
  · cases d with
    | nil => exact .inl (String.toList_inj.mp (hd.trans (List.append_nil _)))
    | cons x d => exact .inr (.inr (shadows_of_bucketKey_eq hk hj h.symm hd))

/-- Callers of one policy with one bucket are known to it as one caller. -/
theorem component_eq_of_bucketKey_eq (hj : p.callerKey a = .ok j) (hk : p.callerKey b = .ok k)
    (h : p.bucketKey j = p.bucketKey k) : a.component p.scope = b.component p.scope := by
  obtain ⟨c, hc, rfl⟩ := callerKey_eq_ok_iff.mp hj
  obtain ⟨c', hc', rfl⟩ := callerKey_eq_ok_iff.mp hk
  obtain ⟨-, hname⟩ := bucketKey_eq_iff.mp h
  rw [← String.toList_inj] at hname
  simp only [toList_append_colon, List.append_cancel_left_eq, List.cons.injEq, true_and, String.toList_inj] at hname
  rw [hc, hc', hname]

/-- A policy that shadows another has a caller with whom a caller of the other shares a bucket. -/
theorem Shadows.bucketKey_eq (h : p.Shadows q) :
    ∃ a b j k, p.callerKey a = .ok j ∧ q.callerKey b = .ok k ∧ p.bucketKey j = q.bucketKey k := by
  obtain ⟨halgorithm, hscope, rest, hrest⟩ := h
  have hc : rest ++ (q.scope.name ++ ":" ++ "*") ≠ "" := by
    intro hempty
    have := congrArg String.toList hempty
    simp at this
  have ha := Identity.component_only hc (fun hglobal => absurd hglobal hscope)
  have hb : (Identity.only q.scope "*").component q.scope = some "*" := Identity.component_only (by decide) fun _ => rfl
  refine ⟨_, _, _, _, callerKey_eq_ok_iff.mpr ⟨_, ha, rfl⟩, callerKey_eq_ok_iff.mpr ⟨_, hb, rfl⟩,
    bucketKey_eq_iff.mpr ⟨halgorithm, ?_⟩⟩
  calc p.name ++ ":" ++ (p.scope.name ++ ":" ++ (rest ++ (q.scope.name ++ ":" ++ "*")))
      = p.name ++ ":" ++ p.scope.name ++ ":" ++ rest ++ (q.scope.name ++ ":" ++ "*") := by
        simp only [String.append_assoc]
    _ = q.name ++ ":" ++ (q.scope.name ++ ":" ++ "*") := by rw [← hrest]

end Policy

namespace Catalog

open Policy

/-- Two callers share a bucket only if they are one caller of one policy. -/
def Isolates (c : Catalog) : Prop :=
  ∀ p ∈ c.policies, ∀ q ∈ c.policies, ∀ a b j k, p.callerKey a = .ok j → q.callerKey b = .ok k →
    p.bucketKey j = q.bucketKey k → p = q ∧ a.component p.scope = b.component p.scope

theorem eq_of_name_eq {c : Catalog} {p q : Policy} (hp : p ∈ c.policies) (hq : q ∈ c.policies) (h : p.name = q.name) :
    p = q :=
  List.inj_on_of_nodup_map c.namesDistinct hp hq h

/-- The callers of a catalog's policies have buckets of their own exactly if no policy shadows another. -/
theorem isolates_iff (c : Catalog) : c.Isolates ↔ ∀ p ∈ c.policies, ∀ q ∈ c.policies, ¬ p.Shadows q := by
  constructor
  · intro h p hp q hq hshadows
    obtain ⟨a, b, j, k, hj, hk, hshared⟩ := hshadows.bucketKey_eq
    obtain ⟨rfl, -⟩ := h p hp q hq a b j k hj hk hshared
    exact p.not_shadows_self hshadows
  · intro h p hp q hq a b j k hj hk hshared
    have hnames : p.name = q.name := by
      rcases name_eq_or_shadows hj hk hshared with hnames | hshadows | hshadows
      · exact hnames
      · exact absurd hshadows (h p hp q hq)
      · exact absurd hshadows (h q hq p hp)
    obtain rfl := eq_of_name_eq hp hq hnames
    exact ⟨rfl, component_eq_of_bucketKey_eq hj hk hshared⟩

/-- Two policies for users, one named like a caller of the other: the user `user:b` of the first and the user `b` of the
second share a bucket. -/
theorem not_isolates_of_name_like_caller :
    let ds : List Definition := [
      { name := "a", rate := 1, period := 60, burst := 1, scope := .user, pattern := "^/a$" },
      { name := "a:user", rate := 1, period := 60, burst := 1, scope := .user, pattern := "^/b$" }]
    ∃ c, ofDefinitions ds = .ok c ∧ ¬ c.Isolates ∧ ∃ p ∈ c.policies, ∃ q ∈ c.policies, p ≠ q ∧
      p.callerKey { user := some "user:b" } = .ok "user:user:b" ∧ q.callerKey { user := some "b" } = .ok "user:b" ∧
      p.bucketKey "user:user:b" = q.bucketKey "user:b" := by
  intro ds
  let c := (ofDefinitions ds).toOption.get (by decide +kernel)
  have hshared : ∃ p ∈ c.policies, ∃ q ∈ c.policies, p ≠ q ∧
      p.callerKey { user := some "user:b" } = .ok "user:user:b" ∧ q.callerKey { user := some "b" } = .ok "user:b" ∧
      p.bucketKey "user:user:b" = q.bucketKey "user:b" := by decide +kernel
  refine ⟨c, by decide +kernel, fun h => ?_, hshared⟩
  obtain ⟨p, hp, q, hq, hne, hj, hk, hkeys⟩ := hshared
  exact hne (h p hp q hq _ _ _ _ hj hk hkeys).1

end Catalog

end Throttle
