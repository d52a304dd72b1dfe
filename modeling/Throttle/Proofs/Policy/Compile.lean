import Throttle.Catalog
import Throttle.Proofs.Bucket.Room

/-!
# What a checked policy is

A policy that came out of the check of a definition carries the definition's numbers, which are positive and fit. So does
every policy of a catalog that was made of definitions.
-/

namespace Throttle

namespace Policy

/-- The policy is what the check of a definition has given. -/
def Compiled (p : Policy) : Prop := ∃ d : Definition, d.compile = .ok p

namespace Definition

theorem positive_eq_ok_iff {policy field : String} {value : Int64} {n : UInt32} :
    positive policy field value = .ok n ↔ 0 < n ∧ value.toInt = n.toNat := by
  have hsize : UInt32.size = 2 ^ 32 := rfl
  have hn := n.toNat_lt
  rw [UInt32.lt_iff_toNat_lt]
  unfold positive
  split
  · rename_i hneg
    refine iff_of_false nofun fun ⟨hpos, hvalue⟩ => ?_
    simp only [UInt32.toNat_zero] at hpos
    omega
  · split
    · refine iff_of_false nofun fun ⟨_, hvalue⟩ => ?_
      omega
    · rename_i hpos hlt
      have hmod : value.toInt.toNat % 2 ^ 32 = value.toInt.toNat := Nat.mod_eq_of_lt (by omega)
      rw [Except.ok.injEq, ← UInt32.toNat_inj, UInt32.toNat_ofNat', hmod]
      simp only [UInt32.toNat_zero]
      omega

theorem compile_eq_ok_iff {d : Definition} {p : Policy} :
    d.compile = .ok p ↔
      p.name = Text.trim d.name ∧ p.name ≠ "" ∧
      positive p.name "rate" d.rate = .ok p.limit.rate ∧ positive p.name "period" d.period = .ok p.limit.period ∧
      positive p.name "burst" d.burst = .ok p.limit.burst ∧ positive p.name "cost" d.cost = .ok p.cost ∧
      p.cost ≤ p.limit.burst ∧ Pattern.ofText? d.pattern = some p.pattern ∧
      compileMethods p.name d.methods = .ok p.methods ∧
      p.algorithm = d.algorithm ∧ p.scope = d.scope ∧ p.metadata = d.metadata := by
  unfold compile
  by_cases hname : Text.trim d.name = ""
  · rw [if_pos hname]
    exact iff_of_false nofun fun ⟨heq, hne, _⟩ => hne (heq.trans hname)
  · rw [if_neg hname]
    constructor
    · intro h
      obtain ⟨rate, hrate, h⟩ := Result.bind_eq_ok_iff.mp h
      obtain ⟨period, hperiod, h⟩ := Result.bind_eq_ok_iff.mp h
      obtain ⟨burst, hburst, h⟩ := Result.bind_eq_ok_iff.mp h
      obtain ⟨cost, hcost, h⟩ := Result.bind_eq_ok_iff.mp h
      by_cases hle : burst < cost
      · rw [if_pos hle] at h
        cases h
      · rw [if_neg hle] at h
        obtain ⟨pattern, hpattern, h⟩ := Result.bind_eq_ok_iff.mp h
        obtain ⟨methods, hmethods, h⟩ := Result.bind_eq_ok_iff.mp h
        cases h
        refine ⟨rfl, hname, hrate, hperiod, hburst, hcost, UInt32.not_lt.mp hle, ?_, hmethods, rfl, rfl, rfl⟩
        cases hp : Pattern.ofText? d.pattern with
        | none => rw [hp] at hpattern; cases hpattern
        | some _ => rw [hp] at hpattern; cases hpattern; rfl
    · rintro ⟨hnamed, -, hrate, hperiod, hburst, hcost, hle, hpattern, hmethods, halgorithm, hscope, hmetadata⟩
      rw [hnamed] at hrate hperiod hburst hcost hmethods
      refine Result.bind_eq_ok_iff.mpr ⟨_, hrate, Result.bind_eq_ok_iff.mpr ⟨_, hperiod,
        Result.bind_eq_ok_iff.mpr ⟨_, hburst, Result.bind_eq_ok_iff.mpr ⟨_, hcost, ?_⟩⟩⟩⟩
      rw [if_neg (UInt32.not_lt.mpr hle), hpattern]
      refine Result.bind_eq_ok_iff.mpr ⟨_, rfl, Result.bind_eq_ok_iff.mpr ⟨_, hmethods, ?_⟩⟩
      obtain ⟨name, algorithm, limit, scope, pattern, methods, cost, metadata⟩ := p
      subst hnamed halgorithm hscope hmetadata
      rfl

end Definition

theorem Compiled.valid {p : Policy} (h : p.Compiled) : p.limit.Valid := by
  obtain ⟨d, hd⟩ := h
  obtain ⟨-, -, hrate, hperiod, hburst, -⟩ := Definition.compile_eq_ok_iff.mp hd
  exact {
    rate_pos := (Definition.positive_eq_ok_iff.mp hrate).1
    period_pos := (Definition.positive_eq_ok_iff.mp hperiod).1
    burst_pos := (Definition.positive_eq_ok_iff.mp hburst).1 }

end Policy

namespace Catalog

/-- Every policy of the catalog came out of the check of a definition. -/
def Compiled (c : Catalog) : Prop := ∀ p ∈ c.policies, p.Compiled

theorem compiled_empty : empty.Compiled := fun _ hp => nomatch hp

theorem Compiled.add {c c' : Catalog} (h : c.Compiled) {p : Policy} (hp : p.Compiled) (hadd : c.add p = .ok c') :
    c'.Compiled := by
  unfold Catalog.add at hadd
  split at hadd
  · cases hadd
  · cases hadd
    exact List.forall_mem_append.mpr ⟨h, List.forall_mem_singleton.mpr hp⟩

theorem Compiled.foldlM {c c' : Catalog} (h : c.Compiled) (ds : List Policy.Definition)
    (hc : ds.foldlM (fun c d => do c.add (← d.compile)) c = .ok c') : c'.Compiled := by
  induction ds generalizing c with
  | nil => cases hc; exact h
  | cons d ds ih =>
      rw [List.foldlM_cons] at hc
      obtain ⟨next, hnext, hc⟩ := Result.bind_eq_ok_iff.mp hc
      obtain ⟨p, hp, hadd⟩ := Result.bind_eq_ok_iff.mp hnext
      exact ih (h.add ⟨d, hp⟩ hadd) hc

theorem compiled_of_ofDefinitions {ds : List Policy.Definition} {c : Catalog} (h : ofDefinitions ds = .ok c) :
    c.Compiled :=
  compiled_empty.foldlM ds h

end Catalog

end Throttle
