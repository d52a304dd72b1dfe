import Mathlib.Data.List.Induction
import Mathlib.Data.List.Nodup
import Mathlib.Data.Nat.Find
import Throttle.Proofs.Policy.Compile

/-!
# Which definitions make a catalog

Definitions make a catalog all together or not at all. They do if none of them has a flaw, which is a fault that its check
finds or a name that one before it has; and of several flaws the first is reported. In the catalog every policy is found
under its name, and the first that is for a request decides.
-/

namespace Throttle

namespace Policy

theorem find?_name {policies : List Policy} (h : (policies.map name).Nodup) {p : Policy} (hp : p ∈ policies) :
    policies.find? (fun q => q.name = p.name) = some p := by
  induction policies with
  | nil => cases hp
  | cons q rest ih =>
      obtain ⟨hq, hrest⟩ := List.nodup_cons.mp h
      obtain rfl | hp := List.mem_cons.mp hp
      · simp
      · have hne : q.name ≠ p.name := fun heq => hq (heq ▸ List.mem_map_of_mem hp)
        rw [List.find?_cons_of_neg (by simpa using hne)]
        exact ih hrest hp

namespace Definition

theorem name_of_compile {d : Definition} {p : Policy} (h : d.compile = .ok p) : p.name = Text.trim d.name :=
  (compile_eq_ok_iff.mp h).1

theorem exists_compile_of_mem {ds : List Definition} {policies : List Policy} (h : ds.map compile = policies.map .ok) :
    ∀ d ∈ ds, ∃ p, d.compile = .ok p := by
  intro d hd
  have hmem : d.compile ∈ policies.map .ok := h ▸ List.mem_map_of_mem hd
  obtain ⟨p, -, hp⟩ := List.mem_map.mp hmem
  exact ⟨p, hp.symm⟩

theorem exists_map_compile {ds : List Definition} (h : ∀ d ∈ ds, ∃ p, d.compile = .ok p) :
    ∃ policies : List Policy, ds.map compile = policies.map .ok := by
  induction ds with
  | nil => exact ⟨[], rfl⟩
  | cons d ds ih =>
      obtain ⟨p, hp⟩ := h d List.mem_cons_self
      obtain ⟨policies, hpolicies⟩ := ih fun e he => h e (List.mem_cons_of_mem d he)
      exact ⟨p :: policies, by rw [List.map_cons, List.map_cons, hp, hpolicies]⟩

/-- The policies have the names of their definitions, without the white space around them. -/
theorem names_of_map_compile {ds : List Definition} {policies : List Policy}
    (h : ds.map compile = policies.map .ok) : policies.map Policy.name = ds.map fun d => Text.trim d.name := by
  induction ds generalizing policies with
  | nil =>
      rw [List.map_eq_nil_iff.mp h.symm]
      rfl
  | cons d ds ih =>
      cases policies with
      | nil => cases h
      | cons p policies =>
          obtain ⟨hp, hrest⟩ := List.cons.inj h
          rw [List.map_cons, List.map_cons, name_of_compile hp, ih hrest]

end Definition

end Policy

namespace Catalog

open Policy (Definition)

variable {c c' : Catalog} {p : Policy} {d : Definition} {ds : List Definition} {err : Error}

/-! ## Policies of a catalog -/

theorem get?_name (hp : p ∈ c.policies) : c.get? p.name = some p :=
  Policy.find?_name c.namesDistinct hp

theorem firstFor_eq_some_iff {method path : String} :
    c.firstFor method path = some p ↔ ∃ before after, c.policies = before ++ p :: after ∧
      p.applies method path = true ∧ ∀ q ∈ before, q.applies method path = false := by
  unfold firstFor
  rw [List.find?_eq_some_iff_append]
  constructor
  · rintro ⟨hp, before, after, hsplit, hbefore⟩
    exact ⟨before, after, hsplit, hp, fun q hq => by simpa using hbefore q hq⟩
  · rintro ⟨before, after, hsplit, hp, hbefore⟩
    exact ⟨hp, before, after, hsplit, fun q hq => by simpa using hbefore q hq⟩

theorem ext_policies (h : c.policies = c'.policies) : c = c' := by
  obtain ⟨policies, hdistinct⟩ := c
  obtain ⟨policies', hdistinct'⟩ := c'
  cases h
  rfl

/-! ## One definition more -/

theorem add_eq_ok_iff : c.add p = .ok c' ↔ c'.policies = c.policies ++ [p] := by
  unfold add
  split
  · next htaken =>
    constructor
    · intro h
      cases h
    · intro h
      have hdistinct := c'.namesDistinct
      rw [h, List.map_append, List.nodup_append] at hdistinct
      exact absurd rfl (hdistinct.2.2 p.name htaken p.name (by simp))
  · constructor
    · intro h
      cases h
      rfl
    · intro h
      exact congrArg Except.ok (ext_policies h.symm)

theorem add_eq_error_iff :
    c.add p = .error err ↔ p.name ∈ c.policies.map Policy.name ∧ err = .misconfigured (.repeatedName p.name) := by
  unfold add
  split
  · next htaken => simp [htaken, eq_comm]
  · next hfree =>
    constructor
    · intro h
      cases h
    · rintro ⟨htaken, -⟩
      exact absurd htaken hfree

theorem ofDefinitions_append (ds es : List Definition) :
    ofDefinitions (ds ++ es) = ofDefinitions ds >>= fun c => es.foldlM (fun c d => do c.add (← d.compile)) c :=
  List.foldlM_append

theorem ofDefinitions_append_of_error (h : ofDefinitions ds = .error err) (es : List Definition) :
    ofDefinitions (ds ++ es) = .error err := by
  rw [ofDefinitions_append, h]
  rfl

theorem ofDefinitions_concat (h : ofDefinitions ds = .ok c) (d : Definition) :
    ofDefinitions (ds ++ [d]) = d.compile >>= c.add := by
  rw [ofDefinitions_append, h]
  exact bind_pure (d.compile >>= c.add)

theorem ofDefinitions_eq_ok_iff : ofDefinitions ds = .ok c ↔ ds.map Definition.compile = c.policies.map .ok := by
  -- The last definition is the one that the loop adds last, so the induction goes by the end of the list.
  induction ds using List.reverseRecOn generalizing c with
  | nil =>
      constructor
      · intro h
        cases h
        rfl
      · intro h
        exact congrArg Except.ok (ext_policies (List.map_eq_nil_iff.mp h.symm).symm)
  | append_singleton ds d ih =>
      constructor
      · intro h
        cases hfront : ofDefinitions ds with
        | error err =>
            rw [ofDefinitions_append_of_error hfront] at h
            cases h
        | ok front =>
            rw [ofDefinitions_concat hfront] at h
            obtain ⟨p, hp, hadd⟩ := Result.bind_eq_ok_iff.mp h
            rw [add_eq_ok_iff.mp hadd, List.map_append, List.map_append, ih.mp hfront, List.map_singleton, hp,
              List.map_singleton]
      · intro h
        rw [List.map_append] at h
        obtain ⟨policies, last, hsplit, hpolicies, hlast⟩ := List.append_eq_map_iff.mp h
        obtain ⟨p, rfl, hp⟩ := List.map_eq_singleton_iff.mp hlast
        have hdistinct := c.namesDistinct
        rw [hsplit, List.map_append] at hdistinct
        have hfront := (ih (c := ⟨policies, hdistinct.of_append_left⟩)).mpr hpolicies.symm
        rw [ofDefinitions_concat hfront]
        exact Result.bind_eq_ok_iff.mpr ⟨p, hp.symm, add_eq_ok_iff.mpr hsplit⟩

theorem exists_ofDefinitions_iff :
    (∃ c, ofDefinitions ds = .ok c) ↔
      (∀ d ∈ ds, ∃ p, d.compile = .ok p) ∧ (ds.map fun d => Text.trim d.name).Nodup := by
  constructor
  · rintro ⟨c, hc⟩
    have hcompile := ofDefinitions_eq_ok_iff.mp hc
    refine ⟨Definition.exists_compile_of_mem hcompile, ?_⟩
    rw [← Definition.names_of_map_compile hcompile]
    exact c.namesDistinct
  · rintro ⟨hcompile, hdistinct⟩
    obtain ⟨policies, hpolicies⟩ := Definition.exists_map_compile hcompile
    rw [← Definition.names_of_map_compile hpolicies] at hdistinct
    exact ⟨⟨policies, hdistinct⟩, ofDefinitions_eq_ok_iff.mpr hpolicies⟩

/-! ## Flaws -/

/-- What is wrong with the definition at an index. -/
inductive FlawAt (ds : List Definition) (i : ℕ) : Error → Prop where
  | invalid {d : Definition} {err : Error} (hd : ds[i]? = some d) (h : d.compile = .error err) : FlawAt ds i err
  | repeated {d : Definition} {p : Policy} (hd : ds[i]? = some d) (h : d.compile = .ok p)
      (hname : ∃ j < i, ∃ e, ds[j]? = some e ∧ Text.trim e.name = p.name) :
      FlawAt ds i (.misconfigured (.repeatedName p.name))

theorem flawAt_iff {i : ℕ} (hd : ds[i]? = some d) :
    FlawAt ds i err ↔ d.compile = .error err ∨ ∃ p, d.compile = .ok p ∧
      (∃ j < i, ∃ e, ds[j]? = some e ∧ Text.trim e.name = p.name) ∧ err = .misconfigured (.repeatedName p.name) := by
  constructor
  · rintro (⟨hd', h⟩ | ⟨hd', h, hname⟩)
    · cases hd.symm.trans hd'
      exact .inl h
    · cases hd.symm.trans hd'
      exact .inr ⟨_, h, hname, rfl⟩
  · rintro (h | ⟨p, h, hname, rfl⟩)
    · exact .invalid hd h
    · exact .repeated hd h hname

theorem mem_names_take_iff {i : ℕ} (h : ofDefinitions (ds.take i) = .ok c) {name : String} :
    name ∈ c.policies.map Policy.name ↔ ∃ j < i, ∃ e, ds[j]? = some e ∧ Text.trim e.name = name := by
  rw [Definition.names_of_map_compile (ofDefinitions_eq_ok_iff.mp h), List.mem_map]
  constructor
  · rintro ⟨e, he, hname⟩
    obtain ⟨j, hj⟩ := List.mem_iff_getElem?.mp he
    have hlt : j < i := by
      by_contra hge
      rw [List.getElem?_take_eq_none (Nat.not_lt.mp hge)] at hj
      cases hj
    exact ⟨j, hlt, e, List.getElem?_take_of_lt hlt ▸ hj, hname⟩
  · rintro ⟨j, hlt, e, hj, hname⟩
    exact ⟨e, List.mem_of_getElem? ((List.getElem?_take_of_lt hlt).trans hj), hname⟩

/-- Where the definitions before it are taken, a definition is refused for its flaw. -/
theorem ofDefinitions_take_succ_eq_error_iff {i : ℕ} (h : ofDefinitions (ds.take i) = .ok c) :
    ofDefinitions (ds.take (i + 1)) = .error err ↔ FlawAt ds i err := by
  cases hd : ds[i]? with
  | none =>
      have hnone : ¬ FlawAt ds i err := by
        rintro (⟨hd', -⟩ | ⟨hd', -⟩) <;> cases hd.symm.trans hd'
      rw [List.take_add_one, hd, Option.toList_none, List.append_nil, h]
      exact iff_of_false nofun hnone
  | some d =>
      rw [List.take_add_one, hd, Option.toList_some, ofDefinitions_concat h, Result.bind_eq_error_iff, flawAt_iff hd]
      simp only [add_eq_error_iff, mem_names_take_iff h]

theorem exists_ofDefinitions_take_succ_iff {i : ℕ} :
    (∃ c, ofDefinitions (ds.take (i + 1)) = .ok c) ↔
      (∃ c, ofDefinitions (ds.take i) = .ok c) ∧ ∀ err, ¬ FlawAt ds i err := by
  cases hfront : ofDefinitions (ds.take i) with
  | error err =>
      rw [List.take_add_one, ofDefinitions_append_of_error hfront]
      exact iff_of_false nofun fun h => nomatch h.1
  | ok c =>
      simp only [← ofDefinitions_take_succ_eq_error_iff hfront]
      cases ofDefinitions (ds.take (i + 1)) with
      | error err => exact iff_of_false nofun fun h => h.2 err rfl
      | ok c' => exact iff_of_true ⟨c', rfl⟩ ⟨⟨c, rfl⟩, nofun⟩

theorem exists_ofDefinitions_take_iff {i : ℕ} :
    (∃ c, ofDefinitions (ds.take i) = .ok c) ↔ ∀ j < i, ∀ err, ¬ FlawAt ds j err := by
  induction i with
  | zero => exact iff_of_true ⟨empty, rfl⟩ nofun
  | succ i ih =>
      rw [exists_ofDefinitions_take_succ_iff, ih]
      exact Nat.forall_lt_succ_right.symm

theorem ofDefinitions_of_first_flaw {i : ℕ} (hflaw : FlawAt ds i err) (hfirst : ∀ j < i, ∀ err, ¬ FlawAt ds j err) :
    ofDefinitions ds = .error err := by
  obtain ⟨c, hc⟩ := exists_ofDefinitions_take_iff.mpr hfirst
  rw [← List.take_append_drop (i + 1) ds]
  exact ofDefinitions_append_of_error ((ofDefinitions_take_succ_eq_error_iff hc).mpr hflaw) _

theorem exists_first_flaw (h : ∃ i err, FlawAt ds i err) :
    ∃ i err, FlawAt ds i err ∧ ∀ j < i, ∀ err, ¬ FlawAt ds j err := by
  classical
  obtain ⟨err, herr⟩ := Nat.find_spec h
  exact ⟨Nat.find h, err, herr, fun j hj err hflaw => Nat.find_min h hj ⟨err, hflaw⟩⟩

theorem ofDefinitions_eq_error_iff :
    ofDefinitions ds = .error err ↔ ∃ i, FlawAt ds i err ∧ ∀ j < i, ∀ err', ¬ FlawAt ds j err' := by
  constructor
  · intro h
    have hflawed : ∃ i err, FlawAt ds i err := by
      by_contra hnone
      have hwhole : ∃ c, ofDefinitions (ds.take ds.length) = .ok c :=
        exists_ofDefinitions_take_iff.mpr fun j _ err hflaw => hnone ⟨j, err, hflaw⟩
      rw [List.take_length, h] at hwhole
      exact nomatch hwhole
    obtain ⟨i, err', hflaw, hfirst⟩ := exists_first_flaw hflawed
    cases h.symm.trans (ofDefinitions_of_first_flaw hflaw hfirst)
    exact ⟨i, hflaw, hfirst⟩
  · rintro ⟨i, hflaw, hfirst⟩
    exact ofDefinitions_of_first_flaw hflaw hfirst

/-- Definitions make a catalog exactly if all of them pass the check and have different names. Then the catalog holds the
checked policies in the order of their definitions: each is found under its name, and that which is for a request is the
first that applies. Otherwise the error is that of the first definition which does not pass, or has the name of one before
it. -/
theorem ofDefinitions_whole (ds : List Definition) :
    ((∃ c, ofDefinitions ds = .ok c) ↔
      (∀ d ∈ ds, ∃ p, d.compile = .ok p) ∧ (ds.map fun d => Text.trim d.name).Nodup) ∧
    (∀ c, ofDefinitions ds = .ok c →
      ds.map Definition.compile = c.policies.map .ok ∧
      c.names = (ds.map fun d => Text.trim d.name) ∧
      (∀ p ∈ c.policies, c.get? p.name = some p) ∧
      ∀ method path p, c.firstFor method path = some p ↔
        ∃ before after, c.policies = before ++ p :: after ∧ p.applies method path = true ∧
          ∀ q ∈ before, q.applies method path = false) ∧
    ∀ err, ofDefinitions ds = .error err ↔ ∃ i, FlawAt ds i err ∧ ∀ j < i, ∀ err', ¬ FlawAt ds j err' := by
  refine ⟨exists_ofDefinitions_iff, fun c hc => ?_, fun err => ofDefinitions_eq_error_iff⟩
  have hcompile := ofDefinitions_eq_ok_iff.mp hc
  exact ⟨hcompile, Definition.names_of_map_compile hcompile, fun p hp => get?_name hp,
    fun method path p => firstFor_eq_some_iff⟩

/-- A name comes again, with other white space around it, before a definition that has no rate. -/
theorem ofDefinitions_whole_with_two_flaws :
    let d : Definition := { name := " a", rate := 1, period := 1, burst := 2 }
    let ds : List Definition := [d, { d with name := "b" }, { d with name := "a " }, { d with name := "c", rate := 0 }]
    (∃ c, ofDefinitions (ds.take 2) = .ok c ∧ c.names = ["a", "b"]) ∧
      ofDefinitions ds = .error (.misconfigured (.repeatedName "a")) := by
  intro d ds
  let c := (ofDefinitions (ds.take 2)).toOption.get (by decide +kernel)
  have hc : ofDefinitions (ds.take 2) = .ok c := by decide +kernel
  constructor
  · exact ⟨c, hc, ((ofDefinitions_whole (ds.take 2)).2.1 c hc).2.1.trans (by decide +kernel)⟩
  · let p := ({ d with name := "a " } : Definition).compile.toOption.get (by decide +kernel)
    have hp : ({ d with name := "a " } : Definition).compile = .ok p := by decide +kernel
    have hflaw : FlawAt ds 2 (.misconfigured (.repeatedName p.name)) :=
      .repeated rfl hp ⟨0, by decide, d, rfl, by decide +kernel⟩
    have hname : p.name = "a" := by decide +kernel
    rw [← hname]
    exact ((ofDefinitions_whole ds).2.2 _).mpr ⟨2, hflaw, exists_ofDefinitions_take_iff.mp ⟨c, hc⟩⟩

end Catalog

end Throttle
