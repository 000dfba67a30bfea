import ClusterOperator.Proofs.Json.Reading
import ClusterOperator.Proofs.Status.Decoding

/-!
# Specs, statuses and conditions as text

The text of a spec, of a status and of a condition is read as what it was written for.

* `Slot.optionalAtEnd_eq_optional` : members that an array need not reach;
* `ClusterSpec.decode?_encode`, `QuerySpec.decode?_encode` : the two specs;
* `Json.Codec` : written text is read again, and nothing that can be read is lost by writing it;
  `Json.Codec.of_read` : it is enough to read each written value;
* `codecs_round_trip` : both specs, both statuses and conditions.
-/

namespace ClusterOperator

open Json

/-! ## Members at the end of an array -/

namespace Slot

variable {α : Type} {read : Json → Option α}

/-- Only an array can end before a member. -/
theorem optionalAtEnd_eq_optional (o : Option Json) :
    (ofOption o).optionalAtEnd read = (ofOption o).optional read := by
  cases o with
  | none => rfl
  | some v => cases v <;> rfl

theorem optionalAtEnd_str (o : Option String) :
    (ofOption (o.map .str)).optionalAtEnd readString? = some o := by
  rw [optionalAtEnd_eq_optional, optional_str]

theorem optionalAtEnd_bool (o : Option Bool) :
    (ofOption (o.map .bool)).optionalAtEnd readBool? = some o := by
  have hread : ∀ b, readBool? (.bool b) = some b := fun _ => rfl
  rw [optionalAtEnd_eq_optional, optional_ofOption hread (fun _ h => by cases h)]

theorem optionalAtEnd_int32 (o : Option Int32) :
    (ofOption (o.map ofInt32)).optionalAtEnd readInt32? = some o := by
  rw [optionalAtEnd_eq_optional, optional_ofOption readInt32?_ofInt32 (fun _ h => by cases h)]

theorem orDefault_str (s default : String) :
    (ofOption (some (.str s))).orDefault readString? default = some s := rfl

end Slot

/-! ## Specs -/

namespace ClusterSpec

def members (s : ClusterSpec) : List (String × Option Json) :=
  [("image", some (.str s.image)), ("replicas", s.replicas.map ofInt32),
    ("version", s.version.map .str), ("port", s.port.map ofInt32),
    ("expose", s.expose.map .bool)]

theorem encode_eq (s : ClusterSpec) : s.encode = record s.members := rfl

theorem decode?_encode (s : ClusterSpec) : decode? s.encode = some s := by
  have hnodup : (s.members.map Prod.fst).Nodup := by simp [members]
  have hslots := slots?_record hnodup
  unfold decode?
  rw [encode_eq]
  simp only [members, List.map_cons, List.map_nil] at hslots ⊢
  rw [hslots]
  simp only [Slot.orDefault_str, Slot.optionalAtEnd_int32, Slot.optionalAtEnd_str,
    Slot.optionalAtEnd_bool]
  rfl

end ClusterSpec

theorem QueryKind.decode?_name (k : QueryKind) : decode? (.str k.name) = some k := by
  cases k <;> rfl

namespace QuerySpec

def members (s : QuerySpec) : List (String × Option Json) :=
  [("apiEndpoint", some (.str s.apiEndpoint)), ("query", some (.str s.query.name)),
    ("clusterID", s.clusterID.map .str), ("refreshInterval", s.refreshInterval.map ofInt32)]

theorem encode_eq (s : QuerySpec) : s.encode = record s.members := rfl

theorem decode?_encode (s : QuerySpec) : decode? s.encode = some s := by
  have hnodup : (s.members.map Prod.fst).Nodup := by simp [members]
  have hslots := slots?_record hnodup
  unfold decode?
  rw [encode_eq]
  simp only [members, List.map_cons, List.map_nil] at hslots ⊢
  rw [hslots]
  simp only [Slot.orDefault_str, Slot.required_ofOption, QueryKind.decode?_name,
    Slot.optionalAtEnd_int32, Slot.optionalAtEnd_str]
  rfl

end QuerySpec

/-! ## Readable text -/

section

variable {depth : Nat}

theorem ClusterSpec.isReadable_encode (hdepth : depth < maxDepth) (s : ClusterSpec) :
    IsReadable depth s.encode := by
  apply isReadable_record hdepth
  simp only [List.forall_mem_cons, List.not_mem_nil, false_imp_iff, implies_true, and_true]
  exact ⟨isReadable_some (.str _), isReadable_map isReadable_int32 _, isReadable_map .str _,
    isReadable_map isReadable_int32 _, isReadable_map .bool _⟩

theorem QuerySpec.isReadable_encode (hdepth : depth < maxDepth) (s : QuerySpec) :
    IsReadable depth s.encode := by
  apply isReadable_record hdepth
  simp only [List.forall_mem_cons, List.not_mem_nil, false_imp_iff, implies_true, and_true]
  exact ⟨isReadable_some (.str _), isReadable_some (.str _), isReadable_map .str _,
    isReadable_map isReadable_int32 _⟩

theorem Condition.isReadable_encode (hdepth : depth < maxDepth) (c : Condition) :
    IsReadable depth c.encode := by
  apply isReadable_record hdepth
  simp only [List.forall_mem_cons, List.not_mem_nil, false_imp_iff, implies_true, and_true]
  exact ⟨isReadable_some (.str _), isReadable_some (.str _), isReadable_map .str _,
    isReadable_map .str _, isReadable_map .str _⟩

theorem ResourceRef.isReadable_encode (hdepth : depth < maxDepth) (r : ResourceRef) :
    IsReadable depth r.encode := by
  apply isReadable_record hdepth
  simp only [List.forall_mem_cons, List.not_mem_nil, false_imp_iff, implies_true, and_true]
  exact ⟨isReadable_some (.str _), isReadable_some (.str _)⟩

theorem ClusterStatus.isReadable_encode (hdepth : depth + 2 < maxDepth) (s : ClusterStatus) :
    IsReadable depth s.encode := by
  have hlist : depth + 1 < maxDepth := by omega
  apply isReadable_record (by omega)
  simp only [List.forall_mem_cons, List.not_mem_nil, false_imp_iff, implies_true, and_true]
  exact ⟨isReadable_map .str _, isReadable_map .str _, isReadable_map isReadable_int64 _,
    isReadable_map .str _, isReadable_nonEmpty hlist (Condition.isReadable_encode hdepth) _,
    isReadable_nonEmpty hlist (ResourceRef.isReadable_encode hdepth) _⟩

theorem QueryStatus.isReadable_encode (hdepth : depth + 2 < maxDepth) (s : QueryStatus) :
    IsReadable depth s.encode := by
  apply isReadable_record (by omega)
  simp only [List.forall_mem_cons, List.not_mem_nil, false_imp_iff, implies_true, and_true]
  exact ⟨isReadable_map .str _, isReadable_map .str _, isReadable_map isReadable_int64 _,
    isReadable_nonEmpty (by omega) (Condition.isReadable_encode hdepth) _,
    isReadable_map isReadable_int64 _⟩

end

/-! ## Codecs -/

/-- What is written can be read: the text holds the value that was written, this value is read as
what it was written for, and a value that can be read in any other form is read the same once it has
been written. -/
structure Json.Codec {α : Type} (encode : α → Json) (decode? : Json → Option α) : Prop where
  written : ∀ a, parse? (encode a).text.toList = some (encode a)
  read : ∀ a, decode? (encode a) = some a
  rewritten : ∀ j, (decode? j).bind (fun a => decode? (encode a)) = decode? j

/-- It is enough that each value is readable text and read as what it was written for. -/
theorem Json.Codec.of_read {α : Type} {encode : α → Json} {decode? : Json → Option α}
    (hreadable : ∀ a, IsReadable 0 (encode a)) (hread : ∀ a, decode? (encode a) = some a) :
    Codec encode decode? where
  written a := (hreadable a).parse?_text
  read := hread
  rewritten j := by
    rw [funext hread]
    exact Option.bind_fun_some _

/-- Specs and statuses of both kinds of entity, and conditions, are read as they were written,
whatever they hold. -/
theorem codecs_round_trip :
    Codec ClusterSpec.encode ClusterSpec.decode? ∧
    Codec QuerySpec.encode QuerySpec.decode? ∧
    Codec ClusterStatus.encode ClusterStatus.decode? ∧
    Codec QueryStatus.encode QueryStatus.decode? ∧
    Codec Condition.encode Condition.decode? := by
  refine ⟨?_, ?_, ?_, ?_, ?_⟩
  · exact .of_read (ClusterSpec.isReadable_encode (by decide)) ClusterSpec.decode?_encode
  · exact .of_read (QuerySpec.isReadable_encode (by decide)) QuerySpec.decode?_encode
  · exact .of_read (ClusterStatus.isReadable_encode (by decide)) ClusterStatus.decode?_encode
  · exact .of_read (QueryStatus.isReadable_encode (by decide)) QueryStatus.decode?_encode
  · exact .of_read (Condition.isReadable_encode (by decide)) Condition.decode?_encode

end ClusterOperator
