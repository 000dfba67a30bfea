import ClusterOperator.Proofs.Status.Decoding
import Mathlib.Data.List.Forall2

/-!
# What records hold

A value is read as a record by what it holds under the names of its members, whether it is an object
or an array.

* `Json.IsRecordOf` : a value holds certain members, and lacks others;
* `Slot.value?` : what a slot gives; `Json.isRecordOf_iff`, a record by its slots;
* `Json.OrNull` : a member that stands for a default when it is null or missing;
  `Slot.nullable_iff`, `Slot.optionalAtEnd_iff`, members that are read so;
* `Json.readString?_iff`, `Json.readInt32?_iff`, `Json.readAll?_iff`, `Json.readList?_iff` : the
  values from which scalars and lists are read.
-/

namespace ClusterOperator

def Slot.value? : Slot → Option Json
  | .given v => some v
  | _ => none

@[simp] theorem Slot.value?_ofOption (o : Option Json) : (Slot.ofOption o).value? = o := by
  cases o <;> rfl

theorem Slot.value?_eq_some_iff {s : Slot} {v : Json} : s.value? = some v ↔ s = .given v := by
  cases s <;> simp [value?]

namespace Json

variable {ms : List (String × Option Json)} {j : Json} {items : List Json}

/-! ## Records -/

/-- A value is a record of some members, each of which is there or missing. An object has a member
that is there once, and a missing one not at all. An array lists the members in their order; those
that it does not reach are missing. -/
inductive IsRecordOf (ms : List (String × Option Json)) : Json → Prop where
  | obj {members : List (String × Json)} (h : ∀ m ∈ ms, occurrences m.1 members = m.2.toList) :
    IsRecordOf ms (.obj members)
  | arr {items : List Json} {n : Nat}
      (h : ms.map Prod.snd = items.map some ++ List.replicate n none) : IsRecordOf ms (.arr items)

theorem map_value?_slotAt {n : Nat} (h : items.length ≤ n) :
    ((List.range n).map (slotAt items)).map Slot.value? =
      items.map some ++ List.replicate (n - items.length) none := by
  have hvalue : ∀ i, (slotAt items i).value? = items[i]? := by
    intro i
    unfold slotAt
    cases items[i]? <;> rfl
  refine List.ext_getElem (by simp; omega) fun i hi _ => ?_
  rw [List.getElem_map, List.getElem_map, List.getElem_range, hvalue, List.getElem_append]
  split
  · next hlt => simp [List.getElem?_eq_getElem (by simpa using hlt)]
  · next hge => simpa using hge

theorem map_value?_slotOf (names : List String) (members : List (String × Json)) :
    (names.map fun n => Slot.ofOption (occurrences n members).getLast?).map Slot.value? =
      names.map fun n => (occurrences n members).getLast? := by
  rw [List.map_map]
  exact List.map_congr_left fun n _ => Slot.value?_ofOption _

theorem isRecordOf_iff : IsRecordOf ms j ↔
    ∃ slots, slots? (ms.map Prod.fst) j = some slots ∧ slots.map Slot.value? = ms.map Prod.snd := by
  constructor
  · intro h
    cases h with
    | @obj members h =>
      refine ⟨_, ?_, (map_value?_slotOf (ms.map Prod.fst) members).trans ?_⟩
      · rw [slots?_obj, if_neg]
        rintro ⟨n, hn, hlength⟩
        obtain ⟨m, hm, rfl⟩ := List.mem_map.1 hn
        rw [h m hm] at hlength
        cases hvalue : m.2 <;> simp [hvalue] at hlength
      · rw [List.map_map]
        refine List.map_congr_left fun m hm => ?_
        rw [Function.comp_apply, h m hm]
        cases m.2 <;> rfl
    | @arr items n h =>
      have hlength : items.length + n = ms.length := by simpa using (congrArg List.length h).symm
      have hle : items.length ≤ (ms.map Prod.fst).length := by rw [List.length_map]; omega
      refine ⟨_, if_pos hle, (map_value?_slotAt hle).trans ?_⟩
      rw [h, List.length_map, show ms.length - items.length = n by omega]
  · rintro ⟨slots, hslots, hvalues⟩
    cases j with
    | obj members =>
      rw [slots?_obj] at hslots
      split_ifs at hslots with hrepeated
      cases hslots
      rw [map_value?_slotOf, List.map_map, List.map_inj_left] at hvalues
      refine .obj fun m hm => ?_
      have hlast : (occurrences m.1 members).getLast? = m.2 := hvalues m hm
      have hshort : ¬ 1 < (occurrences m.1 members).length := fun hlong =>
        hrepeated ⟨m.1, List.mem_map_of_mem hm, hlong⟩
      rcases hheld : occurrences m.1 members with _ | ⟨v, _ | ⟨w, rest⟩⟩
      · rw [← hlast, hheld]
        rfl
      · rw [← hlast, hheld]
        rfl
      · rw [hheld] at hshort
        simp at hshort
    | arr items =>
      unfold slots? at hslots
      dsimp only at hslots
      split_ifs at hslots with hle
      cases hslots
      rw [map_value?_slotAt hle] at hvalues
      exact .arr hvalues.symm
    | _ => cases hslots

theorem isRecordOf_singleton_iff {name : String} {held : Option Json} :
    IsRecordOf [(name, held)] j ↔ ∃ s, slots? [name] j = some [s] ∧ s.value? = held := by
  rw [isRecordOf_iff]
  constructor
  · rintro ⟨slots, hslots, hvalues⟩
    obtain ⟨s, rfl, hs⟩ := List.map_eq_singleton_iff.1 hvalues
    exact ⟨s, hslots, hs⟩
  · rintro ⟨s, hslots, rfl⟩
    exact ⟨[s], hslots, rfl⟩

theorem slots?_eq_given_iff {name : String} {v : Json} :
    slots? [name] j = some [.given v] ↔ IsRecordOf [(name, some v)] j := by
  rw [isRecordOf_singleton_iff]
  refine ⟨fun h => ⟨_, h, rfl⟩, ?_⟩
  rintro ⟨s, hslots, hs⟩
  rwa [Slot.value?_eq_some_iff.1 hs] at hslots

/-- Only an object leaves a member out, unlike an array that ends before it. -/
theorem slots?_eq_omitted_iff {name : String} :
    slots? [name] j = some [.omitted] ↔
      ∃ members, j = .obj members ∧ occurrences name members = [] := by
  cases j with
  | obj members =>
    rw [slots?_obj]
    rcases hheld : occurrences name members with _ | ⟨v, _ | ⟨w, rest⟩⟩ <;>
      simp [hheld, Slot.ofOption]
  | arr items => rcases items with _ | ⟨v, _ | ⟨w, rest⟩⟩ <;> simp [slots?, slotAt]
  | _ => simp [slots?]

/-- A member that is null or missing stands for a default, and another one for what it reads as. -/
inductive OrNull {α : Type} (reads : Json → α → Prop) (default : α) : Option Json → α → Prop where
  | missing : OrNull reads default none default
  | null : OrNull reads default (some .null) default
  | given {v : Json} {a : α} (hv : v ≠ .null) (h : reads v a) : OrNull reads default (some v) a

section

variable {α : Type} {reads : Json → α → Prop} {default a : α}

theorem orNull_missing_iff : OrNull reads default none a ↔ a = default :=
  ⟨fun h => by cases h; rfl, fun h => h ▸ .missing⟩

theorem orNull_null_iff : OrNull reads default (some .null) a ↔ a = default := by
  refine ⟨fun h => ?_, fun h => h ▸ .null⟩
  cases h with
  | null => rfl
  | given hv _ => exact absurd rfl hv

theorem orNull_given_iff {v : Json} (hv : v ≠ .null) :
    OrNull reads default (some v) a ↔ reads v a := by
  refine ⟨fun h => ?_, .given hv⟩
  cases h with
  | null => exact absurd rfl hv
  | given _ h => exact h

end

/-! ## Scalars and lists -/

theorem readString?_iff {s : String} : readString? j = some s ↔ j = .str s := by
  cases j <;> simp [readString?]

theorem readInt32?_iff {n : Int32} : readInt32? j = some n ↔ j = .int n.toInt := by
  constructor
  · intro h
    obtain ⟨m, hm, rfl⟩ := Option.map_eq_some_iff.1 h
    cases j with
    | int k =>
      simp only [readInt?] at hm
      split_ifs at hm with hrange
      cases hm
      rw [Int32.toInt_ofInt_of_le (by simpa using hrange.1) (by omega)]
    | _ => cases hm
  · rintro rfl
    exact readInt32?_ofInt32 n

theorem readAll?_iff {α β : Type} {read : β → Option α} {l : List β} {as : List α} :
    readAll? read l = some as ↔ List.Forall₂ (fun x a => read x = some a) l as := by
  induction l generalizing as with
  | nil => simp [readAll?, eq_comm]
  | cons x l ih =>
    rw [readAll?, List.forall₂_cons_left_iff]
    constructor
    · intro h
      split at h
      · next a as' ha has =>
        cases h
        exact ⟨a, as', ha, ih.1 has, rfl⟩
      · cases h
    · rintro ⟨a, as', ha, has, rfl⟩
      rw [ha, ih.2 has]

theorem readList?_iff {α : Type} {read : Json → Option α} {as : List α} :
    readList? read j = some as ↔
      ∃ items, j = .arr items ∧ List.Forall₂ (fun v a => read v = some a) items as := by
  cases j with
  | arr items => simp [readList?, readAll?_iff]
  | _ => simp [readList?]

end Json

/-! ## Members -/

namespace Slot

open Json

variable {α : Type} {read : Json → Option α} {reads : Json → α → Prop} {s : Slot}

theorem required_iff {a : α} :
    s.required read = some a ↔ ∃ v, s.value? = some v ∧ read v = some a := by
  cases s <;> simp [required, value?]

theorem optional_given_iff {v : Json} {o : Option α} :
    optional read (.given v) = some o ↔
      v = .null ∧ o = none ∨ v ≠ .null ∧ ∃ a, read v = some a ∧ o = some a := by
  by_cases hv : v = .null
  · subst hv
    simp [optional, eq_comm]
  · have hread : optional read (.given v) = (read v).map some := by
      cases v <;> first | exact absurd rfl hv | rfl
    rw [hread, Option.map_eq_some_iff]
    simp [hv, eq_comm]

theorem nullable_iff (hreads : ∀ v a, read v = some a ↔ reads v a) {default a : α} :
    s.nullable read default = some a ↔ OrNull reads default s.value? a := by
  obtain v | _ | _ := s
  · by_cases hv : v = .null
    · subst hv
      exact (Option.some_inj.trans eq_comm).trans orNull_null_iff.symm
    · have hread : nullable read default (.given v) = read v := by
        cases v <;> first | exact absurd rfl hv | rfl
      rw [hread, hreads]
      exact (orNull_given_iff hv).symm
  · exact (Option.some_inj.trans eq_comm).trans orNull_missing_iff.symm
  · exact (Option.some_inj.trans eq_comm).trans orNull_missing_iff.symm

theorem optionalAtEnd_iff {o : Option α} :
    s.optionalAtEnd read = some o ↔
      OrNull (fun v o => ∃ a, read v = some a ∧ o = some a) none s.value? o := by
  obtain v | _ | _ := s
  · by_cases hv : v = .null
    · subst hv
      exact (Option.some_inj.trans eq_comm).trans orNull_null_iff.symm
    · have hread : optionalAtEnd read (.given v) = (read v).map some := by
        cases v <;> first | exact absurd rfl hv | rfl
      rw [hread, Option.map_eq_some_iff]
      refine Iff.trans ?_ (orNull_given_iff hv).symm
      simp only [eq_comm]
  · exact (Option.some_inj.trans eq_comm).trans orNull_missing_iff.symm
  · exact (Option.some_inj.trans eq_comm).trans orNull_missing_iff.symm

theorem orDefault_iff {default a : α} :
    s.orDefault read default = some a ↔
      s.value? = none ∧ a = default ∨ ∃ v, s.value? = some v ∧ read v = some a := by
  cases s <;> simp [orDefault, value?, eq_comm]

end Slot

end ClusterOperator
