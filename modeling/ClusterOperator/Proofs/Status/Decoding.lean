import ClusterOperator.Entity.Cluster
import ClusterOperator.Entity.Query
import ClusterOperator.Json.Member
import Mathlib.Data.List.Nodup

/-!
# Statuses are read as they were written

What a status is written as is read as that status again, and an entity is read from an object with
the status that the object holds.

* `Json.present` : the members of a record that are written;
* `Json.slots?_obj`, `Json.slots?_record` : what a record holds under its names, by the occurrences
  of these names, and when it was written as a record;
* `Slot.optional_ofOption`, `Slot.orDefault_nonEmpty` : members that were written are read;
* `Condition.decode?_encode`, `ResourceRef.decode?_encode`, `ClusterStatus.decode?_encode`,
  `QueryStatus.decode?_encode` : what was written is read.
-/

namespace ClusterOperator

/-- The slot of a member that may be absent. -/
def Slot.ofOption : Option Json → Slot
  | some v => .given v
  | none => .omitted

namespace Json

/-! ## Members of a record -/

variable {name : String} {ms : List (String × Option Json)} {members : List (String × Json)}

def present (ms : List (String × Option Json)) : List (String × Json) :=
  ms.filterMap fun (k, v) => v.map fun v => (k, v)

theorem record_eq (ms : List (String × Option Json)) : record ms = .obj (present ms) := rfl

theorem mem_present {v : Json} : (name, v) ∈ present ms ↔ (name, some v) ∈ ms := by
  refine ⟨fun h => ?_, fun h => List.mem_filterMap.2 ⟨_, h, rfl⟩⟩
  obtain ⟨⟨k, v⟩, hk, hv⟩ := List.mem_filterMap.1 h
  obtain ⟨a, rfl, ha⟩ := Option.map_eq_some_iff.1 hv
  cases ha
  exact hk

/-- The names of the members that are written are among those of the record, in their order. -/
theorem map_fst_present (ms : List (String × Option Json)) :
    ((present ms).map Prod.fst).Sublist (ms.map Prod.fst) := by
  induction ms with
  | nil => exact .slnil
  | cons m rest ih =>
    obtain ⟨k, _ | v⟩ := m
    · exact ih.cons k
    · exact ih.cons_cons k

theorem nodup_present (h : (ms.map Prod.fst).Nodup) : ((present ms).map Prod.fst).Nodup :=
  (map_fst_present ms).nodup h

theorem occurrences_eq_nil (h : ∀ m ∈ members, m.1 ≠ name) : occurrences name members = [] := by
  unfold occurrences
  rw [List.filter_eq_nil_iff.2 (by simpa using h), List.map_nil]

theorem lastMember?_eq (name : String) (members : List (String × Json)) :
    lastMember? name members = (occurrences name members).getLast? := by
  unfold lastMember? occurrences
  rw [List.getLast?_map, List.getLast?_filter]

theorem slotOf_eq (members : List (String × Json)) (name : String) :
    slotOf members name = .ofOption (occurrences name members).getLast? := by
  unfold slotOf
  rw [lastMember?_eq]
  cases (occurrences name members).getLast? <;> rfl

/-- What an object holds as a record depends on the occurrences of the names alone. -/
theorem slots?_obj (names : List String) (members : List (String × Json)) :
    slots? names (.obj members) =
      if ∃ n ∈ names, 1 < (occurrences n members).length then none
      else some (names.map fun n => .ofOption (occurrences n members).getLast?) := by
  have hrepeated : ∀ n, isRepeated members n = decide (1 < (occurrences n members).length) := by
    intro n
    simp [isRepeated, occurrences]
  have hslots : names.map (slotOf members) = names.map fun n =>
      .ofOption (occurrences n members).getLast? :=
    List.map_congr_left fun n _ => slotOf_eq members n
  unfold slots?
  simp only [hrepeated, List.any_eq_true, decide_eq_true_eq, hslots]

theorem occurrences_present (hnodup : (ms.map Prod.fst).Nodup) {m : String × Option Json}
    (hm : m ∈ ms) : occurrences m.1 (present ms) = m.2.toList := by
  induction ms with
  | nil => cases hm
  | cons first rest ih =>
    obtain ⟨hfresh, hothers⟩ := List.nodup_cons.1 hnodup
    have hcons : present (first :: rest) =
        (first.2.map fun v => (first.1, v)).toList ++ present rest := by
      unfold present
      rw [List.filterMap_cons]
      obtain ⟨k, _ | v⟩ := first <;> rfl
    unfold occurrences at ih ⊢
    rw [hcons, List.filter_append, List.map_append]
    rcases List.mem_cons.1 hm with rfl | hrest
    · -- no other member bears the name
      have hnone : occurrences m.1 (present rest) = [] := occurrences_eq_nil fun x hx heq =>
        hfresh (heq ▸ (map_fst_present rest).subset (List.mem_map_of_mem hx))
      unfold occurrences at hnone
      rw [hnone, List.append_nil]
      obtain ⟨k, _ | v⟩ := m <;> simp
    · have hne : first.1 ≠ m.1 := fun heq => hfresh (heq ▸ List.mem_map_of_mem hrest)
      rw [ih hothers hrest]
      obtain ⟨k, _ | v⟩ := first <;> simp_all

theorem slots?_record (hnodup : (ms.map Prod.fst).Nodup) :
    slots? (ms.map Prod.fst) (record ms) = some (ms.map fun m => .ofOption m.2) := by
  rw [record_eq, slots?_obj, if_neg, List.map_map]
  · refine congrArg some (List.map_congr_left fun m hm => ?_)
    rw [Function.comp_apply, occurrences_present hnodup hm]
    cases m.2 <;> rfl
  · rintro ⟨n, hn, hlength⟩
    obtain ⟨m, hm, rfl⟩ := List.mem_map.1 hn
    rw [occurrences_present hnodup hm] at hlength
    cases h : m.2 <;> simp [h] at hlength

/-! ## Lists -/

theorem readAll?_map {α β : Type} {read : β → Option α} {encode : α → β}
    (h : ∀ a, read (encode a) = some a) (l : List α) : readAll? read (l.map encode) = some l := by
  induction l with
  | nil => rfl
  | cons a l ih => simp [readAll?, h, ih]

end Json

open Json

namespace Slot

theorem optional_ofOption {α : Type} {read : Json → Option α} {encode : α → Json}
    (h : ∀ a, read (encode a) = some a) (hnull : ∀ a, encode a ≠ .null) (o : Option α) :
    (ofOption (o.map encode)).optional read = some o := by
  cases o with
  | none => rfl
  | some a =>
    show optional read (.given (encode a)) = _
    unfold optional
    split
    · next hgiven => exact absurd (Slot.given.inj hgiven) (hnull a)
    · next hgiven =>
      cases hgiven
      rw [h, Option.map_some]
    · next hgiven => cases hgiven
    · next hgiven => cases hgiven

@[simp] theorem required_ofOption {α : Type} (read : Json → Option α) (v : Json) :
    (ofOption (some v)).required read = read v := rfl

@[simp] theorem optional_str (o : Option String) :
    (ofOption (o.map .str)).optional readString? = some o :=
  have hread : ∀ s, readString? (.str s) = some s := fun _ => rfl
  optional_ofOption hread (fun _ h => by cases h) o

@[simp] theorem optional_int64 (o : Option Int64) :
    (ofOption (o.map ofInt64)).optional readInt64? = some o :=
  optional_ofOption readInt64?_ofInt64 (fun _ h => by cases h) o

theorem orDefault_nonEmpty {α : Type} {read : Json → Option α} {encode : α → Json}
    (h : ∀ a, read (encode a) = some a) (l : List α) :
    (ofOption (nonEmpty encode l)).orDefault (readList? read) [] = some l := by
  cases l with
  | nil => rfl
  | cons a l => exact readAll?_map h (a :: l)

end Slot

/-! ## Statuses -/

theorem ConditionType.decode?_name (t : ConditionType) : decode? (.str t.name) = some t := by
  cases t <;> rfl

theorem ConditionStatus.decode?_name (s : ConditionStatus) : decode? (.str s.name) = some s := by
  cases s <;> rfl

def Condition.members (c : Condition) : List (String × Option Json) :=
  [("type", some (.str c.type.name)), ("status", some (.str c.status.name)),
    ("reason", c.reason.map .str), ("message", c.message.map .str),
    ("lastTransitionTime", c.lastTransitionTime.map .str)]

theorem Condition.decode?_encode (c : Condition) : decode? c.encode = some c := by
  have hnodup : (c.members.map Prod.fst).Nodup := by simp [members]
  have hslots := slots?_record hnodup
  unfold decode?
  rw [show c.encode = record c.members from rfl]
  simp only [members, List.map_cons, List.map_nil] at hslots ⊢
  rw [hslots]
  simp [ConditionType.decode?_name, ConditionStatus.decode?_name]

def ResourceRef.members (r : ResourceRef) : List (String × Option Json) :=
  [("kind", some (.str r.kind)), ("name", some (.str r.name))]

theorem ResourceRef.decode?_encode (r : ResourceRef) : decode? r.encode = some r := by
  have hnodup : (r.members.map Prod.fst).Nodup := by simp [members]
  have hslots := slots?_record hnodup
  unfold decode?
  rw [show r.encode = record r.members from rfl]
  simp only [members, List.map_cons, List.map_nil] at hslots ⊢
  rw [hslots]
  rfl

def ClusterStatus.members (s : ClusterStatus) : List (String × Option Json) :=
  [("phase", s.phase.map .str), ("message", s.message.map .str),
    ("observedGeneration", s.observedGeneration.map ofInt64),
    ("lastReconcileTime", s.lastReconcileTime.map .str),
    ("conditions", nonEmpty Condition.encode s.conditions),
    ("resourceRefs", nonEmpty ResourceRef.encode s.resourceRefs)]

theorem ClusterStatus.encode_eq (s : ClusterStatus) : s.encode = record s.members := rfl

theorem ClusterStatus.nodup_members (s : ClusterStatus) : (s.members.map Prod.fst).Nodup := by
  simp [members]

theorem ClusterStatus.decode?_encode (s : ClusterStatus) : decode? s.encode = some s := by
  have hslots := slots?_record s.nodup_members
  unfold decode?
  rw [encode_eq]
  simp only [members, List.map_cons, List.map_nil] at hslots ⊢
  rw [hslots]
  simp [Slot.orDefault_nonEmpty Condition.decode?_encode,
    Slot.orDefault_nonEmpty ResourceRef.decode?_encode]

def QueryStatus.members (s : QueryStatus) : List (String × Option Json) :=
  [("lastQueryTime", s.lastQueryTime.map .str), ("result", s.result.map .str),
    ("clusterCount", s.clusterCount.map ofInt64),
    ("conditions", nonEmpty Condition.encode s.conditions),
    ("observedGeneration", s.observedGeneration.map ofInt64)]

theorem QueryStatus.encode_eq (s : QueryStatus) : s.encode = record s.members := rfl

theorem QueryStatus.nodup_members (s : QueryStatus) : (s.members.map Prod.fst).Nodup := by
  simp [members]

theorem QueryStatus.decode?_encode (s : QueryStatus) : decode? s.encode = some s := by
  have hslots := slots?_record s.nodup_members
  unfold decode?
  rw [encode_eq]
  simp only [members, List.map_cons, List.map_nil] at hslots ⊢
  rw [hslots]
  simp [Slot.orDefault_nonEmpty Condition.decode?_encode]

end ClusterOperator
