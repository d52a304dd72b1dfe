import Throttle.Proofs.Json.Record
import Throttle.Proofs.Policy.Compile
import Throttle.Proofs.Text.Normal

/-!
# Policies as definitions

A definition is read back from what is written for it, with every field that was left out. A checked policy, turned into a
definition and checked again, is the same policy.
-/

namespace Throttle

theorem Algorithm.oneOf_name (a : Algorithm) : Source.oneOf named (Json.text a.name) = some a := by
  cases a <;> rfl

theorem Scope.oneOf_name (s : Scope) : Source.oneOf named (Json.text s.name) = some s := by
  cases s <;> rfl

namespace Policy

theorem MethodChoice.read_toJson (m : MethodChoice) : MethodChoice.read m.toJson = some m := by
  cases m with
  | keyword word => rfl
  | verbs list =>
      have h : (list.map Json.text).mapM Json.text? = some list := Json.mapM_map_eq_some (fun _ => by rfl) list
      simp [MethodChoice.read, toJson, Source.textOrTexts, Json.textOrTexts?, h]

theorem MethodChoice.orNothing_toJson (m : MethodChoice) :
    Source.orNothing MethodChoice.read m.toJson = some (some m) := by
  have hnull : Source.isNothing m.toJson = some false := by cases m <;> rfl
  rw [Source.orNothing, hnull, m.read_toJson]
  rfl

theorem MethodChoice.exact_toJson (m : MethodChoice) (depth : Nat) : m.toJson.Exact (depth + 1) := by
  cases m with
  | keyword word => exact .text word
  | verbs list => exact .array (List.forall_mem_map.mpr fun v _ => .text v)

namespace Definition

theorem texts_entries (t : Text.Table) :
    (Source.texts (Json.object (t.entries.map fun e => (e.1, .text e.2)))).map Text.Table.ofList = some t := by
  have h : Json.texts? (.object (t.entries.map fun e => (e.1, .text e.2))) = some t.entries :=
    Json.mapM_map_eq_some (fun _ => by rfl) t.entries
  simp [Source.texts, h, Text.Table.ofList_entries]

/-- The members that are written: all fields but those that hold what stands for them when they are left out. -/
def members (d : Definition) : List (String × Json) :=
  [("name", .text d.name), ("algorithm", .text d.algorithm.name), ("rate", .whole d.rate.toInt),
    ("period", .whole d.period.toInt), ("burst", .whole d.burst.toInt), ("scope", .text d.scope.name),
    ("path_pattern", .text d.pattern)] ++
  (d.methods.toList.map fun m => ("methods", m.toJson)) ++ [("cost", .whole d.cost.toInt)] ++
  (if d.metadata.entries.isEmpty then [] else [("metadata", .object (d.metadata.entries.map fun e => (e.1, .text e.2)))])

theorem toJson_eq (d : Definition) : d.toJson = .object d.members := by
  cases h : d.methods <;> simp [toJson, members, h]

theorem names_members_sublist (d : Definition) : (d.members.map Prod.fst).Sublist fieldNames := by
  have hmethods : ((d.methods.toList.map fun m => ("methods", m.toJson)).map Prod.fst).Sublist ["methods"] := by
    cases d.methods <;> simp
  have hmetadata : ((if d.metadata.entries.isEmpty then ([] : List (String × Json)) else
      [("metadata", .object (d.metadata.entries.map fun e => (e.1, .text e.2)))]).map Prod.fst).Sublist ["metadata"] := by
    split <;> simp
  simp only [members, List.map_append]
  exact (((List.Sublist.refl _).append hmethods).append (.refl ["cost"])).append hmetadata

theorem find_methods (d : Definition) :
    (Fields.find d.members "methods").orElse none (Source.orNothing MethodChoice.read) = some d.methods := by
  cases hmethods : d.methods with
  | none =>
      have hfind : Fields.find d.members "methods" = .absent := by
        cases hempty : d.metadata.entries.isEmpty <;> simp only [members, hmethods, hempty] <;> rfl
      rw [hfind]
      rfl
  | some m =>
      have hfind : Fields.find d.members "methods" = .given m.toJson := by
        simp only [members, hmethods]
        rfl
      rw [hfind]
      exact m.orNothing_toJson

theorem find_cost (d : Definition) : Fields.find d.members "cost" = .given (.whole d.cost.toInt) := by
  cases hmethods : d.methods <;> simp only [members, hmethods] <;> rfl

theorem find_metadata (d : Definition) :
    (Fields.find d.members "metadata").orElse .empty (fun v => (Source.texts v).map Text.Table.ofList) = some d.metadata := by
  cases hempty : d.metadata.entries.isEmpty with
  | true =>
      have hfind : Fields.find d.members "metadata" = .absent := by
        cases hmethods : d.methods <;> simp only [members, hmethods, hempty] <;> rfl
      have hmetadata : d.metadata = .empty := Text.Table.ext_entries (List.isEmpty_iff.mp hempty)
      rw [hfind, hmetadata]
      rfl
  | false =>
      have hfind : Fields.find d.members "metadata" = .given (.object (d.metadata.entries.map fun e => (e.1, .text e.2))) := by
        cases hmethods : d.methods <;> simp only [members, hmethods, hempty] <;> rfl
      rw [hfind]
      exact texts_entries d.metadata

theorem read_toJson (d : Definition) : Definition.read d.toJson = some d := by
  obtain ⟨fs, hfs, hslot⟩ := Fields.exists_ofMembers_of_sublist (by decide) d.names_members_sublist true
  have hfields : Source.fields fieldNames true d.toJson = some fs := by
    rw [toJson_eq]
    exact hfs
  have hname : fs.slot "name" = .given (.text d.name) := hslot "name" (by decide)
  have halgorithm : fs.slot "algorithm" = .given (.text d.algorithm.name) := hslot "algorithm" (by decide)
  have hrate : fs.slot "rate" = .given (.whole d.rate.toInt) := hslot "rate" (by decide)
  have hperiod : fs.slot "period" = .given (.whole d.period.toInt) := hslot "period" (by decide)
  have hburst : fs.slot "burst" = .given (.whole d.burst.toInt) := hslot "burst" (by decide)
  have hscope : fs.slot "scope" = .given (.text d.scope.name) := hslot "scope" (by decide)
  have hpattern : fs.slot "path_pattern" = .given (.text d.pattern) := hslot "path_pattern" (by decide)
  have hmethods := hslot "methods" (by decide) ▸ d.find_methods
  have hcost := hslot "cost" (by decide) ▸ d.find_cost
  have hmetadata := hslot "metadata" (by decide) ▸ d.find_metadata
  rw [read, hfields]
  simp only [Option.bind_eq_bind, Option.bind_some, hname, halgorithm, hrate, hperiod, hburst, hscope, hpattern, hmethods,
    hcost, hmetadata]
  simp only [Slot.required, Slot.orElse, Source.text_text, Source.int64_toInt, Algorithm.oneOf_name, Scope.oneOf_name,
    Option.bind_some]
  rfl

theorem exact_toJson (d : Definition) (depth : Nat) : d.toJson.Exact (depth + 2) := by
  have hmethods : ∀ choice ∈ d.methods, choice.toJson.Exact (depth + 1) := fun choice _ => choice.exact_toJson depth
  have hmetadata : (Json.object (d.metadata.entries.map fun e => (e.1, .text e.2))).Exact (depth + 1) :=
    .object (List.forall_mem_map.mpr fun e _ => .text e.2)
  refine .object ?_
  cases hchoice : d.methods <;> cases d.metadata.entries.isEmpty <;>
    simp_all [Json.Exact.text, Json.exact_toInt]

end Definition

/-! ## Checked again -/

theorem mem_verbSet {v : String} {verbs : List String} :
    v ∈ verbSet verbs ↔ (∃ w ∈ verbs, Text.upper (Text.trim w) = v) ∧ v ≠ "" := by
  simp [verbSet, Text.mem_ordered]

theorem upper_trim_of_mem_verbSet {v : String} {verbs : List String} (h : v ∈ verbSet verbs) :
    Text.upper (Text.trim v) = v := by
  obtain ⟨⟨w, -, rfl⟩, -⟩ := mem_verbSet.mp h
  rw [Text.trim_upper, Text.trim_trim, Text.upper_upper]

theorem verbSet_verbSet (verbs : List String) : verbSet (verbSet verbs) = verbSet verbs := by
  have hmap : (verbSet verbs).map (fun v => Text.upper (Text.trim v)) = verbSet verbs := by
    conv_rhs => rw [← List.map_id (verbSet verbs)]
    exact List.map_congr_left fun v hv => upper_trim_of_mem_verbSet hv
  have hfilter : (verbSet verbs).filter (· ≠ "") = verbSet verbs :=
    List.filter_eq_self.mpr fun v hv => decide_eq_true (mem_verbSet.mp hv).2
  conv_lhs => rw [verbSet, hmap, hfilter]
  exact Text.ordered_of_pairwise (Text.pairwise_ordered _)

theorem toInt_ofNat_toNat (n : UInt32) : (Int64.ofNat n.toNat).toInt = n.toNat :=
  Int64.toInt_ofNat_of_lt (by have := n.toNat_lt; omega)

theorem ofText?_text (p : Pattern) : Pattern.ofText? p.text = some p := by
  unfold Pattern.ofText?
  split
  · exact congrArg some (Pattern.ext_text rfl)
  · next hnone =>
    rw [p.isCompiled] at hnone
    cases hnone

namespace Definition

theorem positive_ofNat_toNat {policy field : String} {n : UInt32} (h : 0 < n) :
    positive policy field (Int64.ofNat n.toNat) = .ok n :=
  positive_eq_ok_iff.mpr ⟨h, toInt_ofNat_toNat n⟩

theorem eq_verbSet_of_compileMethods {name : String} {choice : Option MethodChoice} {verbs : List String}
    (h : compileMethods name choice = .ok (.only verbs)) : ∃ list, verbs = verbSet list ∧ verbs ≠ [] := by
  rcases choice with _ | word | list
  · cases h
  · rw [compileMethods] at h
    split at h <;> cases h
  · simp only [compileMethods] at h
    split at h
    · cases h
    · next hne =>
      cases h
      exact ⟨list, rfl, by simpa using hne⟩

theorem compileMethods_toChoice {name : String} {choice : Option MethodChoice} {m : Methods}
    (h : compileMethods name choice = .ok m) : compileMethods name m.toChoice = .ok m := by
  cases m with
  | any => rfl
  | only verbs =>
      obtain ⟨list, rfl, hne⟩ := eq_verbSet_of_compileMethods h
      simp [Methods.toChoice, compileMethods, verbSet_verbSet, hne]

end Definition

theorem Compiled.compile_toDefinition {p : Policy} (h : p.Compiled) : p.toDefinition.compile = .ok p := by
  obtain ⟨d, hd⟩ := h
  obtain ⟨hname, hne, hrate, hperiod, hburst, hcost, hle, hpattern, hmethods, -⟩ := Definition.compile_eq_ok_iff.mp hd
  have htrimmed : p.name = Text.trim p.name := by rw [hname, Text.trim_trim]
  have hpos {field : String} {value : Int64} {n : UInt32} (h : Definition.positive p.name field value = .ok n) :
      Definition.positive p.name field (Int64.ofNat n.toNat) = .ok n :=
    Definition.positive_ofNat_toNat (Definition.positive_eq_ok_iff.mp h).1
  exact Definition.compile_eq_ok_iff.mpr ⟨htrimmed, hne, hpos hrate, hpos hperiod, hpos hburst, hpos hcost, hle,
    ofText?_text p.pattern, Definition.compileMethods_toChoice hmethods, rfl, rfl, rfl⟩

end Policy

end Throttle
