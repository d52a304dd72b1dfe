import Mathlib.Data.List.Forall2
import Throttle.Proofs.Policy.Valid

/-!
# Ways to write the methods of a policy

The same methods can be written in many ways: the verbs of a list in large or small letters, with white space around them,
in any order, more than once, with blank entries among them; and any method by leaving the list out or by one of two words.
The check makes one policy of all of them, or gives one error.
-/

namespace Throttle.Policy

/-- The lists differ only in how their verbs are written. -/
inductive SameVerbs : List String → List String → Prop where
  | letters {v w : String} (h : Text.SameLetters v w) (rest : List String) : SameVerbs (v :: rest) (w :: rest)
  | space {left right : String} (hleft : ∀ c ∈ left.toList, Text.isBlank c = true)
      (hright : ∀ c ∈ right.toList, Text.isBlank c = true) (v : String) (rest : List String) :
      SameVerbs ((left ++ v ++ right) :: rest) (v :: rest)
  | order (v w : String) (rest : List String) : SameVerbs (v :: w :: rest) (w :: v :: rest)
  | again (v : String) (rest : List String) : SameVerbs (v :: v :: rest) (v :: rest)
  | blank {v : String} (h : ∀ c ∈ v.toList, Text.isBlank c = true) (rest : List String) : SameVerbs (v :: rest) rest
  | cons (v : String) {rest rest' : List String} (h : SameVerbs rest rest') : SameVerbs (v :: rest) (v :: rest')
  | refl (list : List String) : SameVerbs list list
  | symm {list list' : List String} (h : SameVerbs list list') : SameVerbs list' list
  | trans {list₁ list₂ list₃ : List String} (h : SameVerbs list₁ list₂) (h' : SameVerbs list₂ list₃) :
      SameVerbs list₁ list₃

/-- The choices differ only in how they are written. -/
inductive MethodChoice.Same : Option MethodChoice → Option MethodChoice → Prop where
  | any {choice choice' : Option MethodChoice} (h : OfAny choice) (h' : OfAny choice') : Same choice choice'
  | verbs {list list' : List String} (h : SameVerbs list list') : Same (some (.verbs list)) (some (.verbs list'))
  | refl (choice : Option MethodChoice) : Same choice choice

/-- The definitions differ only in how their methods are written. -/
inductive Definition.Same : Definition → Definition → Prop where
  | methods {d : Definition} {choice : Option MethodChoice} (h : MethodChoice.Same d.methods choice) :
      Same d { d with methods := choice }

theorem SameVerbs.exists_iff {list list' : List String} (h : SameVerbs list list') {verb : String} (hverb : verb ≠ "") :
    (∃ v ∈ list, Text.upper (Text.trim v) = verb) ↔ ∃ v ∈ list', Text.upper (Text.trim v) = verb := by
  induction h with
  | letters h rest =>
      simp only [List.exists_mem_cons_iff, ← Text.trim_upper, h.upper_eq]
  | space hleft hright v rest => simp only [List.exists_mem_cons_iff, Text.trim_append_append hleft hright]
  | order v w rest =>
      simp only [List.exists_mem_cons_iff]
      exact or_left_comm
  | again v rest => simp only [List.exists_mem_cons_iff, or_self_left]
  | blank h rest =>
      rw [List.exists_mem_cons_iff, Text.trim_of_blank h]
      exact or_iff_right fun hempty => hverb hempty.symm
  | cons v h ih => rw [List.exists_mem_cons_iff, List.exists_mem_cons_iff, ih]
  | refl list => rfl
  | symm h ih => exact ih.symm
  | trans h h' ih ih' => exact ih.trans ih'

theorem SameVerbs.verbSet_eq {list list' : List String} (h : SameVerbs list list') : verbSet list = verbSet list' := by
  have hmem (verb : String) : verb ∈ verbSet list ↔ verb ∈ verbSet list' := by
    rw [mem_verbSet, mem_verbSet]
    exact and_congr_left fun hverb => h.exists_iff hverb
  exact Text.ordered_congr fun verb => Text.mem_ordered.symm.trans ((hmem verb).trans Text.mem_ordered)

namespace Definition

theorem compileMethods_of_same {choice choice' : Option MethodChoice} (h : MethodChoice.Same choice choice') (name : String) :
    compileMethods name choice = compileMethods name choice' := by
  cases h with
  | any h h' => rw [compileMethods_of_ofAny h, compileMethods_of_ofAny h']
  | verbs h => simp only [compileMethods, h.verbSet_eq]
  | refl choice => rfl

theorem Same.compile_eq {d d' : Definition} (h : d.Same d') : d.compile = d'.compile := by
  obtain ⟨h⟩ := h
  simp only [compile, compileMethods_of_same h]

end Definition

end Throttle.Policy

namespace Throttle.Catalog

open Policy (Definition)

/-- A catalog depends on its definitions only by what their checks give. -/
theorem ofDefinitions_eq_foldlM (ds : List Definition) :
    ofDefinitions ds = (ds.map Definition.compile).foldlM (fun c checked => checked >>= c.add) empty := by
  rw [List.foldlM_map]
  rfl

theorem ofDefinitions_of_same {ds ds' : List Definition} (h : List.Forall₂ Definition.Same ds ds') :
    ofDefinitions ds = ofDefinitions ds' := by
  have hmap : ds.map Definition.compile = ds'.map Definition.compile := by
    induction h with
    | nil => rfl
    | cons h _ ih => rw [List.map_cons, List.map_cons, h.compile_eq, ih]
  rw [ofDefinitions_eq_foldlM, ofDefinitions_eq_foldlM, hmap]

end Throttle.Catalog
