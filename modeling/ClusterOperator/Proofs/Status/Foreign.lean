import ClusterOperator.Proofs.Status.History
import ClusterOperator.Proofs.Status.Merge

/-!
# Conditions that others have set

A stored status may list conditions of types that passes know nothing of. They are read as of the
type unknown, and no pass sets that type, so they stay as they were read; but they are written with
the name of the type that they were read as.

* `Condition.ofType` : the conditions of one type; `Condition.ofType_set_of_ne`,
  `Condition.perm_map_type_set`, the conditions of the other types, and the types, when a condition
  is set;
* `Condition.Frame` : conditions whose type is unknown are as they were, and no other type came to
  be listed twice; `Frame.trans`, `Frame.set`, and `frame_*` for the statuses that passes report;
* `ToldCondition` : a condition with the name of its type as it is stored; `ToldCondition.known`,
  what it is read as, and `Condition.told`, what is written;
* `ToldCondition.foreign`, `ToldCondition.unnamed` : the conditions of types that passes do not
  know, and what they are written as; `ToldCondition.foreign_told`,
  `ToldCondition.nodup_told_iff`;
* `Json.conditionSlot` : where a stored status holds its conditions; `Json.conditions?`, what is read
  there, and `ToldCondition.told?`, what it tells; `Json.conditions?_eq`;
* `Managed.HoldsConditions` : conditions are read from their slot of a status, and merged into it;
  `ClusterSpec.holdsConditions`, `QuerySpec.holdsConditions`.
-/

namespace ClusterOperator

open Json

/-! ## Setting a condition -/

namespace Condition

variable {type u : ConditionType} {status : ConditionStatus} {reason message stamp : String}
  {cs ds es : List Condition}

def ofType (u : ConditionType) (cs : List Condition) : List Condition :=
  cs.filter (·.type = u)

theorem ofType_insertByRank (u : ConditionType) (c : Condition) (cs : List Condition) :
    ofType u (insertByRank c cs) = ofType u (c :: cs) := by
  induction cs with
  | nil => rfl
  | cons d rest ih =>
    rw [insertByRank]
    split
    · rfl
    · next hrank =>
      -- what comes before by rank is of another type
      have hne : d.type ≠ c.type := fun h => hrank (h ▸ Nat.le_refl _)
      unfold ofType at ih ⊢
      rw [List.filter_cons, ih]
      by_cases hc : c.type = u
      · have hd : d.type ≠ u := hc ▸ hne
        simp [hc, hd]
      · simp [List.filter_cons, hc]

theorem ofType_sortByRank (u : ConditionType) (cs : List Condition) :
    ofType u (sortByRank cs) = ofType u cs := by
  induction cs with
  | nil => rfl
  | cons c rest ih =>
    show ofType u (insertByRank c (sortByRank rest)) = _
    rw [ofType_insertByRank]
    unfold ofType at ih ⊢
    rw [List.filter_cons, ih, List.filter_cons]

theorem ofType_updateFirst? {f : Condition → Condition} (h : updateFirst? type f cs = some ds)
    (hf : ∀ c, (f c).type = c.type) (hu : u ≠ type) : ofType u ds = ofType u cs := by
  induction cs generalizing ds with
  | nil => cases h
  | cons c rest ih =>
    rw [updateFirst?] at h
    split at h
    · next hc =>
      cases h
      have hcu : c.type ≠ u := fun hcu => hu (hcu.symm.trans hc)
      simp [ofType, hf, hcu]
    · obtain ⟨es, hes, rfl⟩ := Option.map_eq_some_iff.1 h
      have hrest := ih hes
      unfold ofType at hrest ⊢
      rw [List.filter_cons, List.filter_cons, hrest]

theorem ofType_set_of_ne (hu : u ≠ type) :
    ofType u (set type status reason message stamp cs).1 = ofType u cs := by
  cases hfind : find? type cs with
  | none =>
    rw [set_of_find?_eq_none hfind, ofType_sortByRank]
    simp [ofType, hu.symm]
  | some c =>
    obtain ⟨ds, hds, hset⟩ := exists_updateFirst? status reason message stamp hfind
    rw [hset]
    exact ofType_updateFirst? hds (fun _ => rfl) hu

/-- A type is added to those that are listed, unless it is one of them. -/
theorem perm_map_type_set :
    ((set type status reason message stamp cs).1.map (·.type)).Perm
      ((cs.map (·.type)).insert type) := by
  cases hfind : find? type cs with
  | none =>
    rw [set_of_find?_eq_none hfind, sortByRank_eq,
      List.insert_of_not_mem (find?_eq_none_iff.1 hfind)]
    refine ((List.perm_insertionSort _ _).map _).trans ?_
    rw [List.map_append]
    exact List.perm_append_singleton _ _
  | some c =>
    obtain ⟨ds, hds, hset⟩ := exists_updateFirst? status reason message stamp hfind
    have hmem : type ∈ cs.map (·.type) := by
      by_contra hnot
      rw [find?_eq_none_iff.2 hnot] at hfind
      cases hfind
    rw [hset, map_type_updateFirst? hds fun _ => rfl, List.insert_of_mem hmem]

/-! ## What passes leave alone -/

/-- The conditions of the type unknown are as they were, and no other type that was listed once at
most is listed twice. -/
structure Frame (cs ds : List Condition) : Prop where
  unknown : ofType .unknown ds = ofType .unknown cs
  single : ∀ u, u ≠ .unknown → (cs.map (·.type)).count u ≤ 1 → (ds.map (·.type)).count u ≤ 1

theorem Frame.refl (cs : List Condition) : Frame cs cs :=
  ⟨rfl, fun _ _ h => h⟩

theorem Frame.trans (h : Frame cs ds) (h' : Frame ds es) : Frame cs es :=
  ⟨h'.unknown.trans h.unknown, fun u hu hcs => h'.single u hu (h.single u hu hcs)⟩

theorem Frame.set (h : Frame cs ds) (htype : type ≠ .unknown) (status : ConditionStatus)
    (reason message stamp : String) :
    Frame cs (set type status reason message stamp ds).1 := by
  refine h.trans ⟨ofType_set_of_ne (Ne.symm htype), fun u hu hds => ?_⟩
  rw [perm_map_type_set.count_eq]
  by_cases hmem : type ∈ ds.map (·.type)
  · rwa [List.insert_of_mem hmem]
  · rw [List.insert_of_not_mem hmem, List.count_cons]
    split
    · next heq =>
      have heq : type = u := by simpa using heq
      rw [← heq, List.count_eq_zero_of_not_mem hmem]
    · exact hds

end Condition

/-! ## Reports -/

theorem ClusterStatus.frame_started (s : ClusterStatus) (stamp : String) :
    Condition.Frame s.conditions (s.started stamp).conditions :=
  (Condition.Frame.refl _).set (by decide) ..

theorem ClusterStatus.frame_failed (s : ClusterStatus) (reason message stamp : String) :
    Condition.Frame s.conditions (s.failed reason message stamp).conditions :=
  ((Condition.Frame.refl _).set (by decide) ..).set (by decide) ..

theorem ClusterStatus.frame_ready (s : ClusterStatus) (generation : Option Int64)
    (present : List ResourceRef) (stamp : String) :
    Condition.Frame s.conditions (s.ready generation present stamp).conditions :=
  ((Condition.Frame.refl _).set (by decide) ..).set (by decide) ..

theorem QueryStatus.frame_started (s : QueryStatus) (stamp : String) :
    Condition.Frame s.conditions (s.started stamp).conditions :=
  (Condition.Frame.refl _).set (by decide) ..

theorem QueryStatus.frame_failed (s : QueryStatus) (reason message stamp : String) :
    Condition.Frame s.conditions (s.failed reason message stamp).conditions :=
  (Condition.Frame.refl _).set (by decide) ..

theorem QueryStatus.frame_answered (s : QueryStatus) (generation : Option Int64) (result : String)
    (count : Nat) (stamp : String) :
    Condition.Frame s.conditions (s.answered generation result count stamp).conditions :=
  ((Condition.Frame.refl _).set (by decide) ..).set (by decide) ..

/-! ## Conditions as they are stored -/

/-- A condition with the name of its type. -/
structure ToldCondition where
  type : String
  status : ConditionStatus
  reason : Option String := none
  message : Option String := none
  lastTransitionTime : Option String := none
  deriving DecidableEq, Repr

def Condition.told (c : Condition) : ToldCondition :=
  ⟨c.type.name, c.status, c.reason, c.message, c.lastTransitionTime⟩

namespace ToldCondition

def decode? (j : Json) : Option ToldCondition :=
  match slots? ["type", "status", "reason", "message", "lastTransitionTime"] j with
  | some [type, status, reason, message, time] => do
    return {
      type := ← type.required readVariant?
      status := ← status.required ConditionStatus.decode?
      reason := ← reason.optional readString?
      message := ← message.optional readString?
      lastTransitionTime := ← time.optional readString? }
  | _ => none

def known (t : ToldCondition) : Condition :=
  ⟨.ofName t.type, t.status, t.reason, t.message, t.lastTransitionTime⟩

/-- A condition of a type that passes do not know. -/
def isForeign (t : ToldCondition) : Bool :=
  t.type ≠ "Available" && t.type ≠ "Degraded"

/-- The condition with the name that stands for all types that passes do not know. -/
def unnamed (t : ToldCondition) : ToldCondition :=
  { t with type := "Unknown" }

def foreign (ts : List ToldCondition) : List ToldCondition :=
  ts.filter isForeign

variable {t : ToldCondition} {ts : List ToldCondition} {cs : List Condition}

theorem isForeign_eq (t : ToldCondition) : t.isForeign = decide (t.known.type = .unknown) := by
  unfold isForeign known ConditionType.ofName
  split_ifs <;> simp_all

theorem told_known (h : t.isForeign = true) : t.known.told = t.unnamed := by
  have htype : t.known.type = .unknown := by simpa [isForeign_eq] using h
  unfold Condition.told unnamed
  rw [htype]
  rfl

theorem known_told (c : Condition) : c.told.known = c := by
  have hname : ConditionType.ofName c.type.name = c.type := by cases c.type <;> rfl
  unfold known Condition.told
  dsimp only
  rw [hname]

/-- Conditions of the type unknown are read from those of types that passes do not know. -/
theorem ofType_unknown_map_known (ts : List ToldCondition) :
    Condition.ofType .unknown (ts.map known) = (foreign ts).map known := by
  unfold Condition.ofType foreign
  rw [List.filter_map]
  refine congrArg (List.map known) (List.filter_congr fun t _ => ?_)
  rw [isForeign_eq]
  rfl

theorem foreign_map_told (cs : List Condition) :
    foreign (cs.map Condition.told) = (Condition.ofType .unknown cs).map Condition.told := by
  unfold Condition.ofType foreign
  rw [List.filter_map]
  refine congrArg (List.map Condition.told) (List.filter_congr fun c _ => ?_)
  rw [Function.comp_apply, isForeign_eq, known_told]

/-- Conditions of types that passes do not know stay, but for the names of their types. -/
theorem foreign_told (h : Condition.Frame (ts.map known) cs) :
    foreign (cs.map Condition.told) = (foreign ts).map unnamed := by
  rw [foreign_map_told, h.unknown, ofType_unknown_map_known, List.map_map]
  exact List.map_congr_left fun t ht => told_known (List.mem_filter.1 ht).2

/-- Different types are read as different types, unless passes know neither of them. -/
theorem count_known_le_one (h : (ts.map (·.type)).Nodup) {u : ConditionType} (hu : u ≠ .unknown) :
    ((ts.map known).map (·.type)).count u ≤ 1 := by
  have hname : ∀ t ∈ ts, t.known.type = u → t.type = u.name := by
    intro t _ ht
    unfold known ConditionType.ofName at ht
    dsimp only at ht
    split_ifs at ht with havailable hdegraded
    · rw [← ht, havailable]
      rfl
    · rw [← ht, hdegraded]
      rfl
    · exact absurd ht.symm hu
  have hcount : ((ts.map known).map (·.type)).count u ≤ (ts.map (·.type)).count u.name := by
    rw [List.map_map, List.count, List.count, List.countP_map, List.countP_map]
    exact List.countP_mono_left fun t ht htype => by simpa using hname t ht (by simpa using htype)
  exact hcount.trans (List.nodup_iff_count_le_one.1 h _)

theorem nodup_told_iff (h : Condition.Frame (ts.map known) cs) (hts : (ts.map (·.type)).Nodup) :
    ((cs.map Condition.told).map (·.type)).Nodup ↔ (foreign ts).length ≤ 1 := by
  have htypes : (cs.map Condition.told).map (·.type) =
      (cs.map (·.type)).map ConditionType.name := by
    rw [List.map_map, List.map_map]
    rfl
  have hinjective : Function.Injective ConditionType.name := by
    intro t u htu
    cases t <;> cases u <;> first | rfl | exact absurd htu (by decide)
  have hforeign : (cs.map (·.type)).count .unknown = (foreign ts).length := by
    have hlength := congrArg List.length h.unknown
    rw [ofType_unknown_map_known, List.length_map] at hlength
    rw [← hlength, List.count, List.countP_map, Condition.ofType, List.countP_eq_length_filter]
    rfl
  rw [htypes, List.nodup_map_iff hinjective, List.nodup_iff_count_le_one, ← hforeign]
  refine ⟨fun hcount => hcount _, fun hunknown u => ?_⟩
  by_cases hu : u = .unknown
  · rwa [hu]
  · exact h.single u hu (count_known_le_one hts hu)

end ToldCondition

/-! ## Conditions of a stored status -/

/-- The slot in which a status holds its conditions; a status may be the list of its members, of
which they are the one in a given place. -/
def Json.conditionSlot (place : Nat) : Json → Slot
  | .obj members => slotOf members "conditions"
  | .arr items => slotAt items place
  | _ => .omitted

/-- What is read as the conditions of a stored status. -/
def Json.conditions? (place : Nat) (status : Json) : Option (List Condition) :=
  (status.conditionSlot place).orDefault (readList? Condition.decode?) []

/-- What a stored status tells as its conditions. -/
def ToldCondition.told? (place : Nat) (status : Json) : Option (List ToldCondition) :=
  (status.conditionSlot place).orDefault (readList? decode?) []

namespace Json

theorem readAll?_map_some {α β γ : Type} {read : α → Option β} {read' : α → Option γ} {f : γ → β}
    (h : ∀ a, read a = (read' a).map f) (l : List α) :
    readAll? read l = (readAll? read' l).map (List.map f) := by
  induction l with
  | nil => rfl
  | cons a l ih =>
    rw [readAll?, readAll?, h, ih]
    cases read' a <;> cases readAll? read' l <;> rfl

theorem conditionSlot_of_slots? {names : List String} {j : Json} {slots : List Slot}
    (h : slots? names j = some slots) (place : Nat) (hplace : names[place]? = some "conditions") :
    slots[place]? = some (j.conditionSlot place) := by
  unfold slots? at h
  split at h
  · split at h
    · cases h
    · cases h
      rw [List.getElem?_map, hplace]
      rfl
  · split at h
    · cases h
      obtain ⟨hlt, -⟩ := List.getElem?_eq_some_iff.1 hplace
      rw [List.getElem?_map, List.getElem?_range hlt]
      rfl
    · cases h
  · cases h

/-- A record of plain values that is merged into a value holds there what it holds itself. -/
theorem conditionSlot_merge_record {ms : List (String × Option Json)} {v : Json}
    (hnodup : (ms.map Prod.fst).Nodup) (hplain : ∀ m ∈ ms, ∀ v ∈ m.2, v.isPlain)
    (hv : ("conditions", some v) ∈ ms) (old : Json) (place : Nat) :
    (old.merge (record ms)).conditionSlot place = .given v := by
  have hpresent : ∀ m ∈ present ms, m.2.isPlain := fun m hm =>
    hplain _ (mem_present.1 hm) _ rfl
  have hheld : occurrences "conditions" (present ms) = [v] := occurrences_present hnodup hv
  obtain ⟨held, hmerge⟩ : ∃ held, old.merge (.obj (present ms)) =
      .obj (mergeMembers held (present ms)) := by
    unfold merge
    exact ⟨_, rfl⟩
  rw [record_eq, hmerge, mergeMembers_of_isPlain hpresent (nodup_present hnodup)]
  show slotOf _ _ = _
  rw [slotOf_eq]
  unfold occurrences at hheld ⊢
  rw [List.filter_append, List.map_append, hheld, List.getLast?_concat]
  rfl

end Json

theorem Condition.decode?_eq (j : Json) :
    decode? j = (ToldCondition.decode? j).map ToldCondition.known := by
  have htype : ∀ s : Slot, s.required ConditionType.decode? =
      (s.required readVariant?).map ConditionType.ofName := by
    rintro (v | _ | _) <;> rfl
  unfold decode? ToldCondition.decode?
  rcases slots? _ j with
    _ | _ | ⟨type, _ | ⟨status, _ | ⟨reason, _ | ⟨message, _ | ⟨time, _ | _⟩⟩⟩⟩⟩
  case some.cons.cons.cons.cons.cons.nil =>
    simp only [htype]
    cases type.required readVariant? with
    | none => rfl
    | some type =>
    cases status.required ConditionStatus.decode? with
    | none => rfl
    | some status =>
    cases reason.optional readString? with
    | none => rfl
    | some reason =>
    cases message.optional readString? with
    | none => rfl
    | some message => cases time.optional readString? <;> rfl
  all_goals rfl

theorem ToldCondition.decode?_encode (c : Condition) : decode? c.encode = some c.told := by
  have hnodup : (c.members.map Prod.fst).Nodup := by simp [Condition.members]
  have hslots := slots?_record hnodup
  unfold decode?
  rw [show c.encode = record c.members from rfl]
  simp only [Condition.members, List.map_cons, List.map_nil] at hslots ⊢
  rw [hslots]
  simp [ConditionStatus.decode?_name, readVariant?, Condition.told]

theorem ToldCondition.readAll?_encode (cs : List Condition) :
    readAll? decode? (cs.map Condition.encode) = some (cs.map Condition.told) := by
  induction cs with
  | nil => rfl
  | cons c rest ih => simp [readAll?, decode?_encode, ih]

theorem Json.conditions?_eq (place : Nat) (status : Json) :
    status.conditions? place =
      (ToldCondition.told? place status).map (List.map ToldCondition.known) := by
  unfold conditions? ToldCondition.told?
  obtain v | _ | _ := status.conditionSlot place
  · cases v with
    | arr items => exact readAll?_map_some Condition.decode?_eq items
    | _ => rfl
  · rfl
  · rfl

theorem Json.conditions?_encode {place : Nat} {status : Json} {cs : List Condition}
    (h : status.conditionSlot place = .given (.arr (cs.map Condition.encode))) :
    status.conditions? place = some cs := by
  unfold conditions?
  rw [h]
  exact readAll?_map Condition.decode?_encode cs

theorem ToldCondition.told?_encode {place : Nat} {status : Json} {cs : List Condition}
    (h : status.conditionSlot place = .given (.arr (cs.map Condition.encode))) :
    told? place status = some (cs.map Condition.told) := by
  unfold told?
  rw [h]
  exact readAll?_encode cs

/-! ## Statuses -/

/-- The conditions of a status are what it holds in their slot, and merged into a value, it holds
them there. -/
structure Managed.HoldsConditions (σ : Type) {τ : Type} [Managed σ τ] (place : Nat) : Prop where
  read : ∀ {j : Json} {s : τ}, decodeStatus? σ j = some s →
    j.conditions? place = some (conditions σ s)
  merge : ∀ (old : Json) {s : τ}, conditions σ s ≠ [] →
    (old.merge (encodeStatus σ s)).conditionSlot place =
      .given (.arr ((conditions σ s).map Condition.encode))

theorem nonEmpty_of_ne_nil {α : Type} (encode : α → Json) {l : List α} (h : l ≠ []) :
    nonEmpty encode l = some (.arr (l.map encode)) := by
  cases l with
  | nil => exact absurd rfl h
  | cons a l => rfl

def ClusterStatus.conditionPlace : Nat := 4

def QueryStatus.conditionPlace : Nat := 3

theorem ClusterSpec.holdsConditions :
    Managed.HoldsConditions ClusterSpec ClusterStatus.conditionPlace where
  read {j s} h := by
    change ClusterStatus.decode? j = some s at h
    unfold ClusterStatus.decode? at h
    split at h
    · next hslots =>
      have hslot := conditionSlot_of_slots? hslots ClusterStatus.conditionPlace rfl
      cases hslot
      simp only [Option.bind_eq_bind, Option.bind_eq_some_iff] at h
      obtain ⟨_, -, _, -, _, -, _, -, cs, hcs, _, -, hs⟩ := h
      cases hs
      exact hcs
    · cases h
  merge old {s} h := by
    have hheld : nonEmpty Condition.encode s.conditions = _ := nonEmpty_of_ne_nil _ h
    refine conditionSlot_merge_record s.nodup_members s.isPlain_members ?_ _ _
    simp [ClusterStatus.members, hheld, Managed.conditions]

theorem QuerySpec.holdsConditions :
    Managed.HoldsConditions QuerySpec QueryStatus.conditionPlace where
  read {j s} h := by
    change QueryStatus.decode? j = some s at h
    unfold QueryStatus.decode? at h
    split at h
    · next hslots =>
      have hslot := conditionSlot_of_slots? hslots QueryStatus.conditionPlace rfl
      cases hslot
      simp only [Option.bind_eq_bind, Option.bind_eq_some_iff] at h
      obtain ⟨_, -, _, -, _, -, cs, hcs, _, -, hs⟩ := h
      cases hs
      exact hcs
    · cases h
  merge old {s} h := by
    have hheld : nonEmpty Condition.encode s.conditions = _ := nonEmpty_of_ne_nil _ h
    refine conditionSlot_merge_record s.nodup_members s.isPlain_members ?_ _ _
    simp [QueryStatus.members, hheld, Managed.conditions]

end ClusterOperator
