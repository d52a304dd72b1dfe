import Throttle.Json.Record
import Throttle.Proofs.Json.RoundTrip

/-!
# Written records are read back

A record is written with some of its fields, each once. Reading it finds those, and no others.
-/

namespace Throttle

namespace Fields

variable {ν : Type}

/-- What named members hold for one field. -/
def find (members : List (String × ν)) (name : String) : Slot ν :=
  match members.lookup name with
  | some v => .given v
  | none => .absent

theorem slot_map (names : List String) (f : String → Slot ν) (name : String) :
    slot (names.map fun n => (n, f n)) name = if name ∈ names then f name else .absent := by
  induction names with
  | nil => rfl
  | cons n names ih =>
      by_cases hn : name = n
      · simp [slot, hn]
      · have hne : (name == n) = false := by simpa using hn
        have hrest : slot ((n, f n) :: names.map fun n => (n, f n)) name = slot (names.map fun n => (n, f n)) name := by
          rw [slot, List.lookup_cons, hne]
          rfl
        simp [hrest, ih, hn]

theorem ofMembers_eq_some_iff {names : List String} {isClosed : Bool} {members : List (String × ν)} {fs : Fields ν} :
    ofMembers names isClosed members = some fs ↔
      (∀ n ∈ names, (members.filter fun m => m.1 == n).length ≤ 1) ∧
      (isClosed → ∀ m ∈ members, m.1 ∈ names) ∧
      fs = names.map fun n => (n, find members n) := by
  have hrepeated : (names.any fun n => 1 < (members.filter fun m => m.1 == n).length) = false ↔
      ∀ n ∈ names, (members.filter fun m => m.1 == n).length ≤ 1 := by simp
  have hunknown : (isClosed && members.any fun m => !names.contains m.1) = false ↔
      (isClosed → ∀ m ∈ members, m.1 ∈ names) := by cases isClosed <;> simp
  rw [← hrepeated, ← hunknown, ofMembers]
  generalize (names.any fun n => 1 < (members.filter fun m => m.1 == n).length) = repeated
  generalize (isClosed && members.any fun m => !names.contains m.1) = unknown
  cases repeated <;> cases unknown
  · exact ⟨fun h => ⟨rfl, rfl, (Option.some.inj h).symm⟩, fun h => congrArg some h.2.2.symm⟩
  all_goals simp

theorem length_filter_le_one {members : List (String × ν)} (h : (members.map Prod.fst).Nodup) (name : String) :
    (members.filter fun m => m.1 == name).length ≤ 1 := by
  have hcount := List.nodup_iff_count.mp h name
  rwa [List.count_eq_countP, List.countP_map, List.countP_eq_length_filter] at hcount

/-- Members that name fields in their order name each at most once. -/
theorem exists_ofMembers_of_sublist {names : List String} (hnames : names.Nodup) {members : List (String × ν)}
    (h : List.Sublist (members.map Prod.fst) names) (isClosed : Bool) :
    ∃ fs, ofMembers names isClosed members = some fs ∧ ∀ n ∈ names, fs.slot n = find members n := by
  refine ⟨_, ofMembers_eq_some_iff.mpr ⟨fun n _ => length_filter_le_one (hnames.sublist h) n, fun _ m hm => ?_, rfl⟩,
    fun n hn => ?_⟩
  · exact h.subset (List.mem_map_of_mem hm)
  · rw [slot_map, if_pos hn]

end Fields

namespace Source

theorem text_text (s : String) : text (Json.text s) = some s := rfl

theorem uint32_toNat (n : UInt32) : uint32 (Json.whole n.toNat) = some n := by
  simp [uint32, natural, Json.natural?, n.toNat_lt]

theorem uint64_toNat (n : UInt64) : uint64 (Json.whole n.toNat) = some n := by
  simp [uint64, natural, Json.natural?, n.toNat_lt]

theorem int64_toInt (i : Int64) : int64 (Json.whole i.toInt) = some i := by
  have hlow : Int64.minValue.toInt ≤ i.toInt := i.minValue_le_toInt
  simp only [int64, integer, Json.integer?, Option.bind_some, Option.bind_eq_bind, hlow, i.toInt_le, and_self, if_true,
    Int64.ofInt_toInt]

theorem orNothing_text_ofOption (o : Option String) : orNothing text (Json.ofOption .text o) = some o := by
  cases o <;> rfl

end Source

namespace Json

theorem exact_toNat (n : UInt32) (depth : Nat) : (whole n.toNat).Exact depth := by
  have hsize : UInt64.size = 0x10000000000000000 := rfl
  have hn := n.toNat_lt
  exact .whole (by omega) (by omega)

theorem exact_word (n : UInt64) (depth : Nat) : (whole n.toNat).Exact depth :=
  .whole (by omega) (Int.ofNat_lt.mpr n.toNat_lt)

theorem exact_toInt (i : Int64) (depth : Nat) : (whole i.toInt).Exact depth := by
  have hsize : UInt64.size = 0x10000000000000000 := rfl
  have hi := i.toInt_lt
  exact .whole i.le_toInt (by omega)

end Json

end Throttle
