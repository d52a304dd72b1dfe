import Mathlib.Order.WellFounded
import Throttle.Proofs.Policy.Definition

/-!
# Which definitions pass the check

Eight conditions are asked of a definition, one after another. If all of them are met it passes, and the policy has the
numbers of the definition, its name without the white space around it, and its verbs as a set. Otherwise the error is that
of the first condition which is not met.
-/

namespace Throttle.Policy

/-- What is asked of a definition. -/
inductive Condition where
  | name
  | rate
  | period
  | burst
  | cost
  | costWithinBurst
  | pattern
  | methods
  deriving DecidableEq, Repr

/-- The place of a condition in the order in which they are asked. -/
def Condition.place : Condition → ℕ
  | name => 0
  | rate => 1
  | period => 2
  | burst => 3
  | cost => 4
  | costWithinBurst => 5
  | pattern => 6
  | methods => 7

namespace MethodChoice

/-- The choice is of any method: it was left out, or made by one of two words. -/
def OfAny : Option MethodChoice → Prop
  | none => True
  | some (.keyword word) => word = "*" ∨ Text.SameLetters word "any"
  | some (.verbs _) => False

instance : DecidablePred OfAny
  | none => inferInstanceAs (Decidable True)
  | some (.keyword word) => inferInstanceAs (Decidable (word = "*" ∨ Text.SameLetters word "any"))
  | some (.verbs _) => inferInstanceAs (Decidable False)

/-- The choice is of any method, or of one verb at least. -/
def Acceptable : Option MethodChoice → Prop
  | some (.verbs list) => ∃ v ∈ list, Text.trim v ≠ ""
  | choice => OfAny choice

instance : DecidablePred Acceptable
  | none => inferInstanceAs (Decidable (OfAny none))
  | some (.keyword word) => inferInstanceAs (Decidable (OfAny (some (.keyword word))))
  | some (.verbs list) => inferInstanceAs (Decidable (∃ v ∈ list, Text.trim v ≠ ""))

end MethodChoice

/-- The methods of a choice: any, or the set of its verbs in large letters, without white space and without blank ones. -/
def Methods.MadeOf (m : Methods) : Option MethodChoice → Prop
  | some (.verbs list) =>
    ∃ verbs, m = .only verbs ∧ verbs.Pairwise (· < ·) ∧
      ∀ v, v ∈ verbs ↔ ∃ w ∈ list, Text.trim w ≠ "" ∧ v = Text.upper (Text.trim w)
  | _ => m = .any

namespace Definition

/-- From one to the largest number of 32 bits. -/
def InRange (value : Int64) : Prop := 1 ≤ value.toInt ∧ value.toInt ≤ 2 ^ 32 - 1

instance : DecidablePred InRange := fun value => inferInstanceAs (Decidable (1 ≤ value.toInt ∧ value.toInt ≤ 2 ^ 32 - 1))

def Meets (d : Definition) : Condition → Prop
  | .name => Text.trim d.name ≠ ""
  | .rate => InRange d.rate
  | .period => InRange d.period
  | .burst => InRange d.burst
  | .cost => InRange d.cost
  | .costWithinBurst => d.cost.toInt ≤ d.burst.toInt
  | .pattern => (Pattern.ofText? d.pattern).isSome
  | .methods => MethodChoice.Acceptable d.methods

instance (d : Definition) : DecidablePred d.Meets
  | .name => inferInstanceAs (Decidable (Text.trim d.name ≠ ""))
  | .rate => inferInstanceAs (Decidable (InRange d.rate))
  | .period => inferInstanceAs (Decidable (InRange d.period))
  | .burst => inferInstanceAs (Decidable (InRange d.burst))
  | .cost => inferInstanceAs (Decidable (InRange d.cost))
  | .costWithinBurst => inferInstanceAs (Decidable (d.cost.toInt ≤ d.burst.toInt))
  | .pattern => inferInstanceAs (Decidable ((Pattern.ofText? d.pattern).isSome = true))
  | .methods => inferInstanceAs (Decidable (MethodChoice.Acceptable d.methods))

/-- The condition is not met, but all before it are. -/
structure FirstUnmet (d : Definition) (c : Condition) : Prop where
  unmet : ¬ d.Meets c
  met_before : ∀ c' : Condition, c'.place < c.place → d.Meets c'

/-- What is wrong with a number that is not in range. -/
def rangeFault (policy field : String) (value : Int64) : Misconfiguration :=
  if value.toInt ≤ 0 then .notPositive policy field value else .tooLarge policy field value

/-- A number in range as one of 32 bits. -/
def narrow (value : Int64) : UInt32 := UInt32.ofNat value.toInt.toNat

/-- What is wrong with a definition that does not meet a condition. -/
def fault (d : Definition) : Condition → Misconfiguration
  | .name => .emptyName
  | .rate => rangeFault (Text.trim d.name) "rate" d.rate
  | .period => rangeFault (Text.trim d.name) "period" d.period
  | .burst => rangeFault (Text.trim d.name) "burst" d.burst
  | .cost => rangeFault (Text.trim d.name) "cost" d.cost
  | .costWithinBurst => .costAboveBurst (Text.trim d.name) (narrow d.cost) (narrow d.burst)
  | .pattern => .badPattern (Text.trim d.name) d.pattern
  | .methods =>
    match d.methods with
    | some (.keyword word) => .unknownKeyword (Text.trim d.name) word
    | _ => .noMethods (Text.trim d.name)

end Definition

/-- The policy has what the definition says. -/
structure Carries (p : Policy) (d : Definition) : Prop where
  name : p.name = Text.trim d.name
  rate : (p.limit.rate.toNat : ℤ) = d.rate.toInt
  period : (p.limit.period.toNat : ℤ) = d.period.toInt
  burst : (p.limit.burst.toNat : ℤ) = d.burst.toInt
  cost : (p.cost.toNat : ℤ) = d.cost.toInt
  algorithm : p.algorithm = d.algorithm
  scope : p.scope = d.scope
  pattern : p.pattern.text = d.pattern
  methods : p.methods.MadeOf d.methods
  metadata : p.metadata = d.metadata

theorem text_of_ofText? {text : String} {p : Pattern} (h : Pattern.ofText? text = some p) : p.text = text := by
  unfold Pattern.ofText? at h
  split at h <;> cases h
  rfl

namespace Definition

variable {d : Definition} {c : Condition} {p : Policy} {policy field : String} {value : Int64}

/-! ## What the checks come to -/

theorem toNat_narrow (h : InRange value) : ((narrow value).toNat : ℤ) = value.toInt := by
  obtain ⟨hpos, hle⟩ := h
  rw [narrow, UInt32.toNat_ofNat', Nat.mod_eq_of_lt (by omega)]
  omega

theorem narrow_lt_iff {x y : Int64} (hx : InRange x) (hy : InRange y) : narrow x < narrow y ↔ x.toInt < y.toInt := by
  rw [UInt32.lt_iff_toNat_lt, ← toNat_narrow hx, ← toNat_narrow hy, Nat.cast_lt]

theorem positive_of_inRange (h : InRange value) : positive policy field value = .ok (narrow value) := by
  refine positive_eq_ok_iff.mpr ⟨?_, (toNat_narrow h).symm⟩
  have hpos := h.1
  rw [← toNat_narrow h] at hpos
  exact UInt32.lt_iff_toNat_lt.mpr (by exact_mod_cast hpos)

theorem positive_of_not_inRange (h : ¬ InRange value) :
    positive policy field value = .error (.misconfigured (rangeFault policy field value)) := by
  have hsize : UInt32.size = 2 ^ 32 := rfl
  unfold positive rangeFault
  by_cases hpos : value.toInt ≤ 0
  · rw [if_pos hpos, if_pos hpos]
  · have hlarge : UInt32.size ≤ value.toInt := by
      unfold InRange at h
      omega
    rw [if_neg hpos, if_pos hlarge, if_neg hpos]

theorem mem_verbSet_iff {v : String} {list : List String} :
    v ∈ verbSet list ↔ ∃ w ∈ list, Text.trim w ≠ "" ∧ v = Text.upper (Text.trim w) := by
  rw [mem_verbSet]
  constructor
  · rintro ⟨⟨w, hw, rfl⟩, hne⟩
    exact ⟨w, hw, mt Text.upper_eq_empty_iff.mpr hne, rfl⟩
  · rintro ⟨w, hw, hne, rfl⟩
    exact ⟨⟨w, hw, rfl⟩, mt Text.upper_eq_empty_iff.mp hne⟩

theorem isEmpty_verbSet_iff {list : List String} : (verbSet list).isEmpty ↔ ¬ ∃ v ∈ list, Text.trim v ≠ "" := by
  rw [List.isEmpty_iff, List.eq_nil_iff_forall_not_mem]
  simp only [mem_verbSet_iff]
  constructor
  · rintro h ⟨w, hw, hne⟩
    exact h _ ⟨w, hw, hne, rfl⟩
  · rintro h _ ⟨w, hw, hne, -⟩
    exact h ⟨w, hw, hne⟩

theorem isAnyWord_iff {word : String} : isAnyWord word = true ↔ MethodChoice.OfAny (some (.keyword word)) := by
  have hany : Text.lower "any" = "any" := by decide
  simp [isAnyWord, MethodChoice.OfAny, Text.SameLetters, hany]

theorem compileMethods_of_ofAny {choice : Option MethodChoice} (h : MethodChoice.OfAny choice) (name : String) :
    compileMethods name choice = .ok .any := by
  rcases choice with _ | word | list
  · rfl
  · exact if_pos (isAnyWord_iff.mpr h)
  · exact h.elim

theorem exists_compileMethods {choice : Option MethodChoice} (h : MethodChoice.Acceptable choice) (name : String) :
    ∃ m, compileMethods name choice = .ok m := by
  rcases choice with _ | word | list
  · have hany : MethodChoice.OfAny none := h
    exact ⟨.any, compileMethods_of_ofAny hany name⟩
  · have hany : MethodChoice.OfAny (some (.keyword word)) := h
    exact ⟨.any, compileMethods_of_ofAny hany name⟩
  · exact ⟨.only (verbSet list), if_neg (not_not_intro h ∘ isEmpty_verbSet_iff.mp)⟩

theorem madeOf_of_compileMethods {choice : Option MethodChoice} {name : String} {m : Methods}
    (h : compileMethods name choice = .ok m) : m.MadeOf choice := by
  rcases choice with _ | word | list
  · exact (Except.ok.inj h).symm
  · rw [compileMethods] at h
    split at h <;> cases h
    rfl
  · simp only [compileMethods] at h
    split at h <;> cases h
    exact ⟨_, rfl, Text.pairwise_ordered _, fun v => mem_verbSet_iff⟩

theorem compileMethods_of_not_acceptable (h : ¬ MethodChoice.Acceptable d.methods) :
    compileMethods (Text.trim d.name) d.methods = .error (.misconfigured (d.fault .methods)) := by
  unfold fault
  rcases hchoice : d.methods with _ | word | list <;> rw [hchoice] at h
  · exact absurd trivial h
  · exact if_neg (mt isAnyWord_iff.mp h)
  · exact if_pos (isEmpty_verbSet_iff.mpr h)

/-! ## The first condition that is not met -/

theorem exists_firstUnmet (h : ∃ c, ¬ d.Meets c) : ∃ c, d.FirstUnmet c := by
  obtain ⟨c, hunmet, hmin⟩ := (measure Condition.place).wf.has_min {c | ¬ d.Meets c} h
  refine ⟨c, hunmet, fun c' hbefore => ?_⟩
  by_contra hunmet'
  exact hmin c' hunmet' hbefore

/-- What is left to check once the numbers are in range. -/
theorem compile_of_inRange (hname : d.Meets .name) (hrate : d.Meets .rate) (hperiod : d.Meets .period)
    (hburst : d.Meets .burst) (hcost : d.Meets .cost) :
    d.compile =
      if narrow d.burst < narrow d.cost then .error (.misconfigured (d.fault .costWithinBurst))
      else do
        let pattern ← Result.ofOption (.misconfigured (d.fault .pattern)) (Pattern.ofText? d.pattern)
        let methods ← compileMethods (Text.trim d.name) d.methods
        return {
          name := Text.trim d.name
          algorithm := d.algorithm
          limit := ⟨narrow d.rate, narrow d.period, narrow d.burst⟩
          scope := d.scope
          pattern, methods
          cost := narrow d.cost
          metadata := d.metadata } := by
  unfold compile
  rw [if_neg hname, positive_of_inRange hrate, positive_of_inRange hperiod, positive_of_inRange hburst,
    positive_of_inRange hcost]
  rfl

theorem compile_of_firstUnmet (h : d.FirstUnmet c) : d.compile = .error (.misconfigured (d.fault c)) := by
  obtain ⟨hunmet, hbefore⟩ := h
  have hname (hc : 0 < c.place) : Text.trim d.name ≠ "" := hbefore .name hc
  have hrate (hc : 1 < c.place) : InRange d.rate := hbefore .rate hc
  have hperiod (hc : 2 < c.place) : InRange d.period := hbefore .period hc
  have hburst (hc : 3 < c.place) : InRange d.burst := hbefore .burst hc
  have hcost (hc : 4 < c.place) : InRange d.cost := hbefore .cost hc
  have hwithin (hc : 5 < c.place) : ¬ narrow d.burst < narrow d.cost := by
    rw [narrow_lt_iff (hburst (by omega)) (hcost (by omega))]
    exact not_lt.mpr (hbefore .costWithinBurst hc)
  cases c with
  | name =>
      unfold compile
      exact if_pos (not_not.mp hunmet)
  | rate =>
      unfold compile
      rw [if_neg (hname (by decide)), positive_of_not_inRange hunmet]
      rfl
  | period =>
      unfold compile
      rw [if_neg (hname (by decide)), positive_of_inRange (hrate (by decide)), positive_of_not_inRange hunmet]
      rfl
  | burst =>
      unfold compile
      rw [if_neg (hname (by decide)), positive_of_inRange (hrate (by decide)), positive_of_inRange (hperiod (by decide)),
        positive_of_not_inRange hunmet]
      rfl
  | cost =>
      unfold compile
      rw [if_neg (hname (by decide)), positive_of_inRange (hrate (by decide)), positive_of_inRange (hperiod (by decide)),
        positive_of_inRange (hburst (by decide)), positive_of_not_inRange hunmet]
      rfl
  | costWithinBurst =>
      have hlt : narrow d.burst < narrow d.cost :=
        (narrow_lt_iff (hburst (by decide)) (hcost (by decide))).mpr (not_le.mp hunmet)
      rw [compile_of_inRange (hname (by decide)) (hrate (by decide)) (hperiod (by decide)) (hburst (by decide))
        (hcost (by decide)), if_pos hlt]
  | pattern =>
      rw [compile_of_inRange (hname (by decide)) (hrate (by decide)) (hperiod (by decide)) (hburst (by decide))
        (hcost (by decide)), if_neg (hwithin (by decide)), Option.not_isSome_iff_eq_none.mp hunmet]
      rfl
  | methods =>
      obtain ⟨pattern, hpattern⟩ := Option.isSome_iff_exists.mp (hbefore .pattern (by decide))
      rw [compile_of_inRange (hname (by decide)) (hrate (by decide)) (hperiod (by decide)) (hburst (by decide))
        (hcost (by decide)), if_neg (hwithin (by decide)), hpattern, compileMethods_of_not_acceptable hunmet]
      rfl

theorem exists_compile (h : ∀ c, d.Meets c) : ∃ p, d.compile = .ok p := by
  have hwithin : ¬ narrow d.burst < narrow d.cost := by
    rw [narrow_lt_iff (h .burst) (h .cost)]
    exact not_lt.mpr (h .costWithinBurst)
  obtain ⟨pattern, hpattern⟩ := Option.isSome_iff_exists.mp (h .pattern)
  obtain ⟨methods, hmethods⟩ := exists_compileMethods (h .methods) (Text.trim d.name)
  rw [compile_of_inRange (h .name) (h .rate) (h .period) (h .burst) (h .cost), if_neg hwithin, hpattern, hmethods]
  exact ⟨_, rfl⟩

theorem carries_of_compile (h : d.compile = .ok p) : p.Carries d := by
  obtain ⟨hname, -, hrate, hperiod, hburst, hcost, -, hpattern, hmethods, halgorithm, hscope, hmetadata⟩ :=
    compile_eq_ok_iff.mp h
  exact {
    name := hname
    rate := (positive_eq_ok_iff.mp hrate).2.symm
    period := (positive_eq_ok_iff.mp hperiod).2.symm
    burst := (positive_eq_ok_iff.mp hburst).2.symm
    cost := (positive_eq_ok_iff.mp hcost).2.symm
    algorithm := halgorithm
    scope := hscope
    pattern := text_of_ofText? hpattern
    methods := madeOf_of_compileMethods hmethods
    metadata := hmetadata }

theorem compile_eq_error_iff {err : Error} :
    d.compile = .error err ↔ ∃ c, d.FirstUnmet c ∧ err = .misconfigured (d.fault c) := by
  constructor
  · intro h
    have hunmet : ∃ c, ¬ d.Meets c := by
      by_contra hall
      obtain ⟨p, hp⟩ := exists_compile fun c => not_not.mp fun hc => hall ⟨c, hc⟩
      cases hp.symm.trans h
    obtain ⟨c, hc⟩ := exists_firstUnmet hunmet
    exact ⟨c, hc, Except.error.inj (h.symm.trans (compile_of_firstUnmet hc))⟩
  · rintro ⟨c, hc, rfl⟩
    exact compile_of_firstUnmet hc

theorem exists_compile_iff : (∃ p, d.compile = .ok p) ↔ ∀ c, d.Meets c := by
  refine ⟨?_, exists_compile⟩
  rintro ⟨p, hp⟩
  by_contra hunmet
  obtain ⟨c, hc⟩ := exists_firstUnmet (not_forall.mp hunmet)
  cases hp.symm.trans (compile_of_firstUnmet hc)

/-- A definition passes the check exactly if it meets all conditions, and the policy has then what the definition says.
Otherwise the error is that of the first condition that is not met. -/
theorem passes_iff_meets_all (d : Definition) :
    ((∃ p, d.compile = .ok p) ↔ ∀ c, d.Meets c) ∧
    (∀ p, d.compile = .ok p → p.Carries d) ∧
    ∀ err, d.compile = .error err ↔ ∃ c, d.FirstUnmet c ∧ err = .misconfigured (d.fault c) :=
  ⟨exists_compile_iff, fun _ h => carries_of_compile h, fun _ => compile_eq_error_iff⟩

/-- The largest rate passes, and of four entries of the list one verb is left. With three faults the period is reported, which
is asked before the burst and the pattern. -/
theorem passes_with_one_verb_left :
    let d : Definition := {
      name := " p\t", rate := 4294967295, period := 1, burst := 2, cost := 2, methods := some (.verbs [" get", "", "GET", "\n"]) }
    (∃ p, d.compile = .ok p ∧ p.Carries d ∧ p.limit.rate.toNat = 4294967295 ∧ p.methods = .only ["GET"]) ∧
      { d with period := 0, burst := 4294967296, pattern := "(" }.compile =
        .error (.misconfigured (.notPositive "p" "period" 0)) := by
  intro d
  constructor
  · let p := d.compile.toOption.get (by decide +kernel)
    have hp : d.compile = .ok p := by decide +kernel
    exact ⟨p, hp, (passes_iff_meets_all d).2.1 p hp, by decide +kernel, by decide +kernel⟩
  · let bad : Definition := { d with period := 0, burst := 4294967296, pattern := "(" }
    have hfirst : bad.FirstUnmet .period := by
      refine ⟨by decide +kernel, fun c hc => ?_⟩
      cases c with
      | name | rate => decide +kernel
      | _ => exact absurd hc (by decide)
    exact ((passes_iff_meets_all bad).2.2 _).mpr ⟨.period, hfirst, by decide +kernel⟩

end Definition

end Throttle.Policy
