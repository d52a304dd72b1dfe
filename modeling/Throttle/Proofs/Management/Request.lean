import Throttle.Management.Request
import Throttle.Proofs.Policy.Definition

/-!
# A policy in place of its name

A request that names a policy can bring the policy along instead. `Json.putPolicy` puts a definition where the value of a
request has the name; what is read is the same request with the definition in it.
-/

namespace Throttle

namespace Fields

variable {ν : Type} {names : List String} {fs : Fields ν} {v : ν}

/-- The members with another policy. -/
def putPolicy (policy : ν) (members : List (String × ν)) : List (String × ν) :=
  members.map fun m => (m.1, if m.1 = "policy" then policy else m.2)

theorem filter_putPolicy (policy : ν) (members : List (String × ν)) (p : String → Bool) :
    (putPolicy policy members).filter (fun m => p m.1) = putPolicy policy (members.filter fun m => p m.1) :=
  List.filter_map

theorem find_putPolicy (policy : ν) (members : List (String × ν)) (name : String) :
    find (putPolicy policy members) name =
      match find members name with
      | .given v => .given (if name = "policy" then policy else v)
      | s => s := by
  unfold find putPolicy
  induction members with
  | nil => rfl
  | cons m members ih =>
      rw [List.map_cons, List.lookup_cons, List.lookup_cons]
      cases hm : name == m.1 with
      | false => exact ih
      | true =>
        obtain rfl := eq_of_beq hm
        rfl

/-- The fields hold what the others hold, but for the policy. -/
structure PutsPolicy (fs fs' : Fields ν) (policy : ν) : Prop where
  policy : fs'.slot "policy" = .given policy
  others : ∀ n, n ≠ "policy" → fs'.slot n = fs.slot n

theorem exists_ofMembers_put {members : List (String × ν)} (h : ofMembers names false members = some fs)
    (hv : fs.slot "policy" = .given v) (policy : ν) :
    ∃ fs', ofMembers names false (putPolicy policy members) = some fs' ∧ fs.PutsPolicy fs' policy := by
  have hlength (n : String) : ((putPolicy policy members).filter fun m => m.1 == n).length =
      (members.filter fun m => m.1 == n).length := by
    rw [filter_putPolicy policy members (· == n), putPolicy, List.length_map]
  obtain ⟨hrepeated, -, rfl⟩ := ofMembers_eq_some_iff.mp h
  refine ⟨_, ofMembers_eq_some_iff.mpr ⟨fun n hn => hlength n ▸ hrepeated n hn, nofun, rfl⟩, ?_, fun n hn => ?_⟩
  · rw [slot_map] at hv ⊢
    split at hv
    · next hmem => simp [hmem, find_putPolicy, hv]
    · cases hv
  · rw [slot_map, slot_map, find_putPolicy]
    cases find members n <;> simp [hn]

theorem exists_ofItems_put {items : List ν} (h : ofItems ("key" :: "policy" :: names) items = some fs)
    (hv : fs.slot "policy" = .given v) (policy : ν) :
    ∃ fs', ofItems ("key" :: "policy" :: names) (items.set 1 policy) = some fs' ∧ fs.PutsPolicy fs' policy := by
  rcases items with _ | ⟨key, _ | ⟨old, rest⟩⟩
  all_goals
    simp only [ofItems, Option.map_map, Option.map_eq_some_iff] at h
    obtain ⟨fs, hfs, rfl⟩ := h
  · cases hv
  · cases hv
  · refine ⟨("key", .given key) :: ("policy", .given policy) :: fs, by simp [ofItems, hfs], rfl, fun n hn => ?_⟩
    have hne : (n == "policy") = false := by simpa using hn
    simp [slot, List.lookup_cons, hne]

end Fields

namespace Json

variable {policy v rest : Json}

/-- The value with another policy: the member of that name, or the item at a place in a list. -/
def putPolicy (v policy : Json) (place : Nat) : Json :=
  match v with
  | .object members => .object (Fields.putPolicy policy members)
  | .array items => .array (items.set place policy)
  | v => v

theorem readable_putPolicy (hpolicy : policy.readable) (hv : v.readable) (place : Nat) :
    (v.putPolicy policy place).readable := by
  cases v with
  | object members =>
      simp only [putPolicy, Fields.putPolicy, readable, readableMembers_eq_all, List.all_map, List.all_eq_true] at hv ⊢
      intro m hm
      dsimp only [Function.comp_apply]
      split
      · exact hpolicy
      · exact hv m hm
  | array items =>
      simp only [putPolicy, readable, readableItems_eq_all, List.all_eq_true] at hv ⊢
      intro w hw
      obtain hw | rfl := List.mem_or_eq_of_mem_set hw
      · exact hv w hw
      · exact hpolicy
  | _ => exact hv

theorem exists_fields_put {names : List String} {fs : Fields Json}
    (h : fields? ("key" :: "policy" :: names) false rest = some fs) (hv : fs.slot "policy" = .given v) (policy : Json) :
    ∃ fs', fields? ("key" :: "policy" :: names) false (rest.putPolicy policy 1) = some fs' ∧ fs.PutsPolicy fs' policy := by
  cases rest with
  | object members => exact Fields.exists_ofMembers_put h hv policy
  | array items => exact Fields.exists_ofItems_put h hv policy
  | _ => cases h

theorem tagged?_object {tag name kind : String} {members : List (String × Json)}
    (hreadable : (object members).readable) (h : members.filter (·.1 == tag) = [(name, .text kind)]) :
    (object members).tagged? tag = some (kind, .object (members.filter (·.1 != tag))) := by
  simp [tagged?, hreadable, h]

theorem tagged?_array {kind : String} {items : List Json} (hreadable : (array (.text kind :: items)).readable)
    (tag : String) : (array (.text kind :: items)).tagged? tag = some (kind, .array items) := by
  simp [tagged?, hreadable]

theorem tagged?_putPolicy {op : String} (hpolicy : policy.readable) (h : v.tagged? "op" = some (op, rest)) :
    (v.putPolicy policy 2).tagged? "op" = some (op, rest.putPolicy policy 1) := by
  have hv : v.readable = true := by
    by_contra hv
    simp [tagged?, hv] at h
  have hput := readable_putPolicy hpolicy hv 2
  simp only [tagged?, hv, Bool.not_true, Bool.false_eq_true, if_false] at h
  split at h
  · next members =>
    split at h
    · next name kind heq =>
      have hmem : (name, text kind) ∈ members.filter (·.1 == "op") := heq ▸ List.mem_singleton_self _
      obtain rfl : name = "op" := eq_of_beq (List.mem_filter.mp hmem).2
      obtain ⟨rfl, rfl⟩ := Prod.mk.inj (Option.some.inj h)
      have htag : (Fields.putPolicy policy members).filter (·.1 == "op") = [("op", .text kind)] := by
        rw [Fields.filter_putPolicy policy members (· == "op"), heq]
        rfl
      have htagged := tagged?_object hput htag
      rwa [Fields.filter_putPolicy policy members (· != "op")] at htagged
    · cases h
  · next kind items =>
    obtain ⟨rfl, rfl⟩ := Prod.mk.inj (Option.some.inj h)
    exact tagged?_array hput "op"
  · cases h

end Json

namespace Management

namespace PolicyRef

theorem read_toJson (ref : PolicyRef) : read ref.toJson = some ref := by
  cases ref with
  | loaded name => rfl
  | inline d =>
      have hreadable : d.toJson.readable = true := (d.exact_toJson 0).readable
      have hread := d.read_toJson
      rw [toJson]
      rw [Policy.Definition.toJson_eq] at *
      simp [read, hreadable, hread]

theorem exact_toJson (ref : PolicyRef) (depth : Nat) : ref.toJson.Exact (depth + 2) := by
  cases ref with
  | loaded name => exact .text name
  | inline d => exact d.exact_toJson depth

end PolicyRef

namespace Request

/-- What a request says about the policy. -/
def policy? : Request → Option PolicyRef
  | consume _ policy _ => some policy
  | quota _ policy => some policy
  | reset _ policy => some policy
  | _ => none

def withPolicy (policy : PolicyRef) : Request → Request
  | consume key _ cost => consume key policy cost
  | quota key _ => quota key policy
  | reset key _ => reset key policy
  | r => r

theorem exists_fields_put {names : List String} {rest policy : Json} {fs : Fields Json} {ref ref' : PolicyRef}
    (h : Json.fields? ("key" :: "policy" :: names) false rest = some fs)
    (href : (fs.slot "policy").required PolicyRef.read = some ref) (hpolicy : PolicyRef.read policy = some ref') :
    ∃ fs', Json.fields? ("key" :: "policy" :: names) false (rest.putPolicy policy 1) = some fs' ∧
      (fs'.slot "policy").required PolicyRef.read = some ref' ∧ ∀ n, n ≠ "policy" → fs'.slot n = fs.slot n := by
  cases hslot : fs.slot "policy" with
  | given v =>
      obtain ⟨fs', hfs', hput⟩ := Json.exists_fields_put h hslot policy
      exact ⟨fs', hfs', by rw [hput.policy]; exact hpolicy, hput.others⟩
  | absent => rw [hslot] at href; cases href
  | beyond => rw [hslot] at href; cases href

theorem ofOp_putPolicy {op : String} {rest : Json} {r : Request} {ref ref' : PolicyRef} {policy : Json}
    (h : ofOp op rest = some r) (hr : r.policy? = some ref) (hpolicy : PolicyRef.read policy = some ref') :
    ofOp op (rest.putPolicy policy 1) = some (r.withPolicy ref') := by
  unfold ofOp at h
  split at h
  case h_1 =>
    obtain ⟨fs, hfs, h⟩ := Option.bind_eq_some_iff.mp h
    obtain ⟨key, hkey, h⟩ := Option.bind_eq_some_iff.mp h
    obtain ⟨old, hold, h⟩ := Option.bind_eq_some_iff.mp h
    obtain ⟨cost, hcost, h⟩ := Option.bind_eq_some_iff.mp h
    cases h
    obtain ⟨fs', hfs', hput, hothers⟩ := exists_fields_put hfs hold hpolicy
    rw [← hothers "key" (by decide)] at hkey
    rw [← hothers "cost" (by decide)] at hcost
    simp [ofOp, hfs', hput, hkey, hcost, withPolicy]
  case h_2 | h_3 =>
    obtain ⟨fs, hfs, h⟩ := Option.bind_eq_some_iff.mp h
    obtain ⟨key, hkey, h⟩ := Option.bind_eq_some_iff.mp h
    obtain ⟨old, hold, h⟩ := Option.bind_eq_some_iff.mp h
    cases h
    obtain ⟨fs', hfs', hput, hothers⟩ := exists_fields_put hfs hold hpolicy
    rw [← hothers "key" (by decide)] at hkey
    simp [ofOp, hfs', hput, hkey, withPolicy]
  -- The other requests say nothing about a policy.
  case h_4 =>
    simp only [Option.bind_eq_bind, Option.bind_eq_some_iff] at h
    obtain ⟨_, _, _, _, _, _, _, _, _, _, h⟩ := h
    cases h
    cases hr
  case h_5 =>
    obtain ⟨_, _, h⟩ := Option.bind_eq_some_iff.mp h
    cases h
    cases hr
  case h_6 => cases h

theorem read_putPolicy {v : Json} {r : Request} {ref : PolicyRef} (h : read v = some r) (hr : r.policy? = some ref)
    (d : Policy.Definition) : read (v.putPolicy d.toJson 2) = some (r.withPolicy (.inline d)) := by
  obtain ⟨⟨op, rest⟩, htagged, hop⟩ := Option.bind_eq_some_iff.mp h
  have hreadable : d.toJson.readable = true := (d.exact_toJson 0).readable
  rw [read, Json.tagged?_putPolicy hreadable htagged]
  exact ofOp_putPolicy hop hr (PolicyRef.read_toJson (.inline d))

/-! ## Written requests -/

theorem readCost_ofOption (cost : Option UInt32) :
    readCost (.given (.ofOption (fun n => .whole n.toNat) cost)) = some cost := by
  cases cost with
  | none => rfl
  | some n =>
      have hread : Source.orNothing Source.uint32 (Json.whole n.toNat) = some (some n) := by
        rw [Source.orNothing, Source.uint32_toNat]
        rfl
      exact hread

theorem readIdentity_toJson (i : Identity) : Identity.read i.toJson = some i := by
  simp [Identity.read, Identity.toJson, Source.fields, Json.fields?, Fields.ofMembers, Fields.slot, List.lookup_cons, Slot.orElse,
    Source.orNothing_text_ofOption]

theorem ofOp_toJson (r : Request) : ∃ members, r.toJson = .object (("op", .text r.op) :: members) ∧
    (∀ m ∈ members, m.1 ≠ "op") ∧ ofOp r.op (.object members) = some r := by
  cases r <;> refine ⟨_, rfl, by simp, ?_⟩ <;>
    simp [ofOp, op, Json.fields?, Fields.ofMembers, Fields.slot, List.lookup_cons, Slot.required, Slot.orElse, Source.text_text,
      PolicyRef.read_toJson, readCost_ofOption, readIdentity_toJson]

theorem exact_toJson (r : Request) (depth : Nat) : r.toJson.Exact (depth + 3) := by
  have htext (o : Option String) (depth : Nat) : (Json.ofOption .text o).Exact depth := by
    cases o with
    | none => exact .null
    | some s => exact .text s
  have hcost (cost : Option UInt32) : (Json.ofOption (fun n => .whole n.toNat) cost).Exact (depth + 2) := by
    cases cost with
    | none => exact .null
    | some n => exact Json.exact_toNat n _
  have hidentity (i : Identity) : i.toJson.Exact (depth + 2) := .object (by simp [htext])
  refine .object ?_
  cases r <;> simp [Json.Exact.text, PolicyRef.exact_toJson, hcost, hidentity]

theorem read_toJson (r : Request) : read r.toJson = some r := by
  obtain ⟨members, hmembers, hothers, hop⟩ := r.ofOp_toJson
  have hreadable : r.toJson.readable = true := (r.exact_toJson 0).readable
  rw [hmembers] at hreadable
  have hnone : members.filter (·.1 == "op") = [] := by simpa using fun k v hm => hothers (k, v) hm
  have hall : members.filter (·.1 != "op") = members := by simpa using fun k v hm => hothers (k, v) hm
  have htag : (("op", .text r.op) :: members).filter (·.1 == "op") = [("op", Json.text r.op)] := by simp [hnone]
  have htagged := Json.tagged?_object hreadable htag
  rw [read, hmembers, htagged]
  simpa [hall] using hop

theorem toJson_withPolicy {r : Request} {ref : PolicyRef} (h : r.policy? = some ref) (ref' : PolicyRef) :
    (r.withPolicy ref').toJson = r.toJson.putPolicy ref'.toJson 2 := by
  cases r with
  | admission => cases h
  | policies => cases h
  | _ => simp [withPolicy, toJson, op, Json.putPolicy, Fields.putPolicy]

/-- Every request is read back from the text that is written for it. -/
theorem read_written (r : Request) : (Json.read? r.toJson.write).bind read = some r := by
  rw [Json.read?_write (r.exact_toJson 124)]
  exact r.read_toJson

end Request

end Management

end Throttle
