import ClusterOperator.Inventory.Wire
import ClusterOperator.Proofs.Json.Holding
import ClusterOperator.Proofs.Text.Utf8

/-!
# Answers of the inventory service

What a lookup and a listing make of an answer, by its status, by the JSON value in its text and by
what this value holds.

* `ClusterRecord.IsReadFrom` : a value holds a record; `ClusterRecord.decode?_iff`;
* `Envelops` : a value holds data and the messages of errors; `Envelope.decode?_iff`;
* `Found`, `Listed` : what data holds as the answer to a lookup and to a listing;
  `decodeFound?_iff`, `decodeListed?_iff`;
* `Tells` : the data and the messages in a text; `tells_iff`;
* `InventoryReply.data_of_received` : the data of an answer that arrived;
* `IsClassified` : which answers have which result; `isClassified_of_fits`, for any kind of data;
* `replies_classified` : for lookups and for listings.
-/

namespace ClusterOperator

open Json

/-! ## Records -/

def Json.TellsText (v : Json) (s : String) : Prop :=
  v = .str s

def Json.TellsNumber (v : Json) (n : Int32) : Prop :=
  v = .int n.toInt

def Json.TellsInstant (v : Json) (t : Instant) : Prop :=
  ∃ s, v = .str s ∧ Instant.read? s.toList = some t

theorem Json.readInstant?_iff {v : Json} {t : Instant} :
    Metadata.readInstant? v = some t ↔ v.TellsInstant t := by
  unfold Metadata.readInstant? TellsInstant
  simp [Option.bind_eq_some_iff, readString?_iff]

/-- A value holds a record. A member that is null or missing has its default. -/
inductive ClusterRecord.IsReadFrom (r : ClusterRecord) (j : Json) : Prop where
  | intro {id name replicas version state readyReplicas createdAt lastUpdateTime : Option Json}
    (hrecord : j.IsRecordOf [("id", id), ("name", name), ("replicas", replicas),
      ("version", version), ("state", state), ("readyReplicas", readyReplicas),
      ("createdAt", createdAt), ("lastUpdateTime", lastUpdateTime)])
    (hid : OrNull TellsText "" id r.id)
    (hname : OrNull TellsText "" name r.name)
    (hreplicas : OrNull TellsNumber 0 replicas r.replicas)
    (hversion : OrNull TellsText "" version r.version)
    (hstate : OrNull TellsText "" state r.state)
    (hready : OrNull TellsNumber 0 readyReplicas r.readyReplicas)
    (hcreated : OrNull TellsInstant Instant.epoch createdAt r.createdAt)
    (hupdated : OrNull TellsInstant Instant.epoch lastUpdateTime r.lastUpdateTime)

theorem ClusterRecord.decode?_iff {j : Json} {r : ClusterRecord} :
    decode? j = some r ↔ r.IsReadFrom j := by
  have htext : ∀ {s : Slot} {a : String},
      s.nullable readString? "" = some a ↔ OrNull TellsText "" s.value? a :=
    Slot.nullable_iff fun _ _ => readString?_iff
  have hnumber : ∀ {s : Slot} {n : Int32},
      s.nullable readInt32? 0 = some n ↔ OrNull TellsNumber 0 s.value? n :=
    Slot.nullable_iff fun _ _ => readInt32?_iff
  have hinstant : ∀ {s : Slot} {t : Instant},
      s.nullable Metadata.readInstant? Instant.epoch = some t ↔
        OrNull TellsInstant Instant.epoch s.value? t :=
    Slot.nullable_iff fun _ _ => readInstant?_iff
  constructor
  · intro h
    unfold decode? at h
    split at h
    · next hslots =>
      simp only [Option.bind_eq_bind, Option.bind_eq_some_iff, htext, hnumber, hinstant] at h
      obtain ⟨_, h₁, _, h₂, _, h₃, _, h₄, _, h₅, _, h₆, _, h₇, _, h₈, hr⟩ := h
      cases hr
      exact .intro (isRecordOf_iff.2 ⟨_, hslots, rfl⟩) h₁ h₂ h₃ h₄ h₅ h₆ h₇ h₈
    · cases h
  · rintro ⟨hrecord, h₁, h₂, h₃, h₄, h₅, h₆, h₇, h₈⟩
    obtain ⟨slots, hslots, hvalues⟩ := isRecordOf_iff.1 hrecord
    simp only [List.map_cons, List.map_nil, List.map_eq_cons_iff, List.map_eq_nil_iff] at hvalues
    obtain ⟨_, _, rfl, rfl, _, _, rfl, rfl, _, _, rfl, rfl, _, _, rfl, rfl, _, _, rfl, rfl,
      _, _, rfl, rfl, _, _, rfl, rfl, _, _, rfl, rfl, rfl⟩ := hvalues
    simp only [List.map_cons, List.map_nil] at hslots
    unfold decode?
    rw [hslots]
    simp only [htext.2 h₁, htext.2 h₂, hnumber.2 h₃, htext.2 h₄, htext.2 h₅, hnumber.2 h₆,
      hinstant.2 h₇, hinstant.2 h₈]
    rfl

namespace Inventory

variable {j d : Json} {text : String}

/-! ## Envelopes -/

theorem decodeErrorEntry?_iff {message : String} :
    decodeErrorEntry? j = some message ↔ j.IsRecordOf [("message", some (.str message))] := by
  rw [isRecordOf_singleton_iff]
  unfold decodeErrorEntry?
  constructor
  · intro h
    split at h
    · next slot hslots =>
      obtain ⟨v, hv, hmessage⟩ := Slot.required_iff.1 h
      exact ⟨slot, hslots, hv.trans (congrArg some (readString?_iff.1 hmessage))⟩
    · cases h
  · rintro ⟨slot, hslots, hvalue⟩
    rw [hslots]
    exact Slot.required_iff.2 ⟨_, hvalue, rfl⟩

/-- The messages of reported errors, in their order; no errors may be reported. -/
inductive ReportsErrors : Option Json → List String → Prop where
  | missing : ReportsErrors none []
  | given {items : List Json} {messages : List String}
    (h : List.Forall₂ (fun v m => v.IsRecordOf [("message", some (.str m))]) items messages) :
    ReportsErrors (some (.arr items)) messages

theorem reportsErrors_iff {s : Slot} {messages : List String} :
    s.orDefault (readList? decodeErrorEntry?) [] = some messages ↔
      ReportsErrors s.value? messages := by
  rw [Slot.orDefault_iff]
  constructor
  · rintro (⟨hnone, rfl⟩ | ⟨v, hv, hread⟩)
    · rw [hnone]
      exact .missing
    · obtain ⟨items, rfl, hitems⟩ := readList?_iff.1 hread
      rw [hv]
      exact .given (hitems.imp fun _ _ => decodeErrorEntry?_iff.1)
  · intro h
    generalize hv : s.value? = held at h
    cases h with
    | missing => exact Or.inl ⟨rfl, rfl⟩
    | given h =>
      exact Or.inr ⟨_, rfl, readList?_iff.2 ⟨_, rfl, h.imp fun _ _ => decodeErrorEntry?_iff.2⟩⟩

/-- A value holds data, unless they are null or missing, and the messages of errors. Of repeated
members in the data, the last one counts. -/
inductive Envelops (j : Json) (data : Option Json) (messages : List String) : Prop where
  | intro {held errors : Option Json}
    (hrecord : j.IsRecordOf [("data", held), ("errors", errors)])
    (hdata : OrNull (fun v data => ∃ d, v.untyped = some d ∧ data = some d) none held data)
    (herrors : ReportsErrors errors messages)

theorem Envelope.decode?_iff {data : Option Json} {messages : List String} :
    decode? j = some ⟨data, messages⟩ ↔ Envelops j data messages := by
  constructor
  · intro h
    unfold decode? at h
    split at h
    · next hslots =>
      simp only [Option.bind_eq_bind, Option.bind_eq_some_iff, Slot.optionalAtEnd_iff,
        reportsErrors_iff] at h
      obtain ⟨_, hdata, _, herrors, he⟩ := h
      cases he
      exact .intro (isRecordOf_iff.2 ⟨_, hslots, rfl⟩) hdata herrors
    · cases h
  · rintro ⟨hrecord, hdata, herrors⟩
    obtain ⟨slots, hslots, hvalues⟩ := isRecordOf_iff.1 hrecord
    simp only [List.map_cons, List.map_nil, List.map_eq_cons_iff, List.map_eq_nil_iff] at hvalues
    obtain ⟨_, _, rfl, rfl, _, _, rfl, rfl, rfl⟩ := hvalues
    simp only [List.map_cons, List.map_nil] at hslots
    unfold decode?
    rw [hslots]
    simp only [Slot.optionalAtEnd_iff.2 hdata, reportsErrors_iff.2 herrors]
    rfl

/-! ## Data -/

/-- What the data of a lookup hold: no cluster, if it is null or an object lacks it, or a record. -/
inductive Found : Json → Option ClusterRecord → Prop where
  | missing {members : List (String × Json)} (h : occurrences "cluster" members = []) :
    Found (.obj members) none
  | null {d : Json} (h : d.IsRecordOf [("cluster", some .null)]) : Found d none
  | record {d v : Json} {r : ClusterRecord} (h : d.IsRecordOf [("cluster", some v)])
    (hr : r.IsReadFrom v) : Found d (some r)

theorem decodeFound?_iff {found : Option ClusterRecord} :
    decodeFound? d = some found ↔ Found d found := by
  constructor
  · intro h
    unfold decodeFound? at h
    split at h
    · next slot hslots =>
      obtain v | _ | _ := slot
      · have hrecord : d.IsRecordOf [("cluster", some v)] :=
          isRecordOf_iff.2 ⟨_, hslots, rfl⟩
        rcases Slot.optional_given_iff.1 h with ⟨rfl, rfl⟩ | ⟨-, r, hr, rfl⟩
        · exact .null hrecord
        · exact .record hrecord (ClusterRecord.decode?_iff.1 hr)
      · cases h
        obtain ⟨members, rfl, hnone⟩ := slots?_eq_omitted_iff.1 hslots
        exact .missing hnone
      · cases h
    · cases h
  · intro h
    unfold decodeFound?
    cases h with
    | missing h =>
      rw [slots?_eq_omitted_iff.2 ⟨_, rfl, h⟩]
      rfl
    | null h =>
      rw [slots?_eq_given_iff.2 h]
      rfl
    | record h hr =>
      rw [slots?_eq_given_iff.2 h]
      have hread := ClusterRecord.decode?_iff.2 hr
      refine Slot.optional_given_iff.2 (Or.inr ⟨?_, _, hread, rfl⟩)
      rintro rfl
      cases hread

/-- What the data of a listing hold: no clusters, if they are null or missing, or records. -/
inductive Listed (d : Json) (records : List ClusterRecord) : Prop where
  | missing (h : d.IsRecordOf [("clusters", none)]) (hrecords : records = [])
  | null (h : d.IsRecordOf [("clusters", some .null)]) (hrecords : records = [])
  | records {items : List Json} (h : d.IsRecordOf [("clusters", some (.arr items))])
    (hrecords : List.Forall₂ (fun v r => r.IsReadFrom v) items records)

theorem decodeListed?_iff {records : List ClusterRecord} :
    decodeListed? d = some records ↔ Listed d records := by
  constructor
  · intro h
    unfold decodeListed? at h
    split at h
    · next slot hslots =>
      have hrecord : d.IsRecordOf [("clusters", slot.value?)] :=
        isRecordOf_singleton_iff.2 ⟨slot, hslots, rfl⟩
      obtain ⟨o, ho, rfl⟩ := Option.map_eq_some_iff.1 h
      have hheld := Slot.optionalAtEnd_iff.1 ho
      generalize slot.value? = held at hrecord hheld
      cases hheld with
      | missing => exact .missing hrecord rfl
      | null => exact .null hrecord rfl
      | given _ h =>
        obtain ⟨records, hread, rfl⟩ := h
        obtain ⟨items, rfl, hitems⟩ := readList?_iff.1 hread
        exact .records hrecord (hitems.imp fun _ _ => ClusterRecord.decode?_iff.1)
    · cases h
  · intro h
    obtain ⟨held, o, hrecord, hheld, rfl⟩ : ∃ held o, d.IsRecordOf [("clusters", held)] ∧
        OrNull (fun v o => ∃ rs, readList? ClusterRecord.decode? v = some rs ∧ o = some rs) none
          held o ∧ records = o.getD [] := by
      cases h with
      | missing h hrecords => exact ⟨_, none, h, .missing, hrecords⟩
      | null h hrecords => exact ⟨_, none, h, .null, hrecords⟩
      | records h hrecords =>
        have hitems := hrecords.imp fun _ _ => ClusterRecord.decode?_iff.2
        exact ⟨_, some records, h, .given (by simp) ⟨_, readList?_iff.2 ⟨_, rfl, hitems⟩, rfl⟩, rfl⟩
    obtain ⟨slot, hslots, rfl⟩ := isRecordOf_singleton_iff.1 hrecord
    unfold decodeListed?
    rw [hslots]
    exact congrArg (Option.map _) (Slot.optionalAtEnd_iff.2 hheld)

/-! ## Texts -/

/-- A text tells data and the messages of errors: it is a JSON value that holds them. -/
def Tells (text : String) (data : Option Json) (messages : List String) : Prop :=
  ∃ j, parse? text.toList = some j ∧ Envelops j data messages

theorem tells_iff {data : Option Json} {messages : List String} :
    Tells text data messages ↔
      (parse? text.toList).bind Envelope.decode? = some ⟨data, messages⟩ := by
  rw [Option.bind_eq_some_iff]
  exact exists_congr fun _ => and_congr_right fun _ => Envelope.decode?_iff.symm

theorem InventoryReply.data_of_received {r : InventoryReply} {status : Nat}
    (h : r.received = .answered status (Text.Utf8.bytes text)) :
    r.data = if status ≠ 200 then .error (.status status text)
      else ((parse? text.toList).bind Envelope.decode?).elim
        (.error (.decode "the answer has an unexpected form")) fun e =>
          if e.errors.isEmpty then .ok (e.data.getD (.obj [])) else .error (.remote e.errors) := by
  unfold data bodyText
  rw [h]
  dsimp only
  rw [Text.Utf8.lossy_bytes, Text.Utf8.decodeWith_bytes]
  cases (parse? text.toList).bind Envelope.decode? <;> rfl

/-! ## Results -/

variable {α : Type}

/-- What the result is of an answer with a status and a text, where `Fits` says which data hold what
was asked for. Another status than 200 wins over all that the text tells, and the messages of errors
win over the data. A text that is no JSON value or holds neither, and data that do not fit, are
answers of an unexpected form. -/
structure IsClassified (Fits : Json → α → Prop) (code : Nat) (text : String)
    (result : Except QueryError α) : Prop where
  status : ∀ other body, result = .error (.status other body) ↔
    code ≠ 200 ∧ other = code ∧ body = text
  remote : ∀ messages, result = .error (.remote messages) ↔
    code = 200 ∧ messages ≠ [] ∧ ∃ data, Tells text data messages
  decode : (∃ cause, result = .error (.decode cause)) ↔
    code = 200 ∧ ((∀ data messages, ¬ Tells text data messages) ∨
      ∃ data, Tells text data [] ∧ ∀ a, ¬ Fits (data.getD (.obj [])) a)
  ok : ∀ a, result = .ok a ↔
    code = 200 ∧ ∃ data, Tells text data [] ∧ Fits (data.getD (.obj [])) a
  transport : ∀ cause, result ≠ .error (.transport cause)
  notFound : ∀ id, result ≠ .error (.notFound id)

def readData (decode : Json → Option α) (data : Except QueryError Json) : Except QueryError α :=
  data.bind fun d => (decode d).elim (.error (.decode "the data has an unexpected form")) .ok

theorem InventoryReply.cluster_eq (r : InventoryReply) :
    r.cluster = readData decodeFound? r.data := by
  unfold cluster readData
  cases r.data with
  | error e => rfl
  | ok d =>
    dsimp only [bind, Except.bind]
    cases decodeFound? d <;> rfl

theorem InventoryReply.clusters_eq (r : InventoryReply) :
    r.clusters = readData decodeListed? r.data := by
  unfold clusters readData
  cases r.data with
  | error e => rfl
  | ok d =>
    dsimp only [bind, Except.bind]
    cases decodeListed? d <;> rfl

theorem isClassified_of_fits {Fits : Json → α → Prop} {decode : Json → Option α}
    (hfits : ∀ d a, decode d = some a ↔ Fits d a) {r : InventoryReply} {code : Nat}
    (h : r.received = .answered code (Text.Utf8.bytes text)) :
    IsClassified Fits code text (readData decode r.data) := by
  rw [InventoryReply.data_of_received h]
  by_cases hcode : code = 200
  · have htells : ∀ data messages, Tells text data messages ↔ _ := fun _ _ => tells_iff
    rw [if_neg (not_not.2 hcode)]
    generalize (parse? text.toList).bind Envelope.decode? = envelope at htells ⊢
    obtain _ | ⟨data, _ | ⟨message, messages⟩⟩ := envelope
    · show IsClassified _ _ _ (.error (.decode _))
      constructor <;> simp [htells, hcode]
    · show IsClassified _ _ _ ((decode (data.getD (.obj []))).elim (.error (.decode _)) .ok)
      cases hdata : decode (data.getD (.obj [])) with
      | none => constructor <;> simp [htells, hcode, ← hfits, hdata]
      | some a => constructor <;> simp [htells, hcode, ← hfits, hdata]
    · show IsClassified _ _ _ (.error (.remote _))
      constructor <;> simp [htells, hcode]
  · rw [if_pos hcode]
    show IsClassified _ _ _ (.error (.status _ _))
    constructor <;> simp [hcode, eq_comm]

/-- What lookups and listings make of an answer that has arrived in full, whatever its status and
its text. -/
theorem replies_classified {r : InventoryReply} {code : Nat} {text : String}
    (h : r.received = .answered code (Text.Utf8.bytes text)) :
    IsClassified Found code text r.cluster ∧ IsClassified Listed code text r.clusters := by
  rw [r.cluster_eq, r.clusters_eq]
  exact ⟨isClassified_of_fits (fun _ _ => decodeFound?_iff) h,
    isClassified_of_fits (fun _ _ => decodeListed?_iff) h⟩

/-- Errors that are reported beside data which no lookup expects. -/
def failingText : String :=
  "\x7b\"data\": 7, \"errors\": [\x7b\"message\": \"late\"\x7d, [\"busy\"]]\x7d"

/-- The errors win over the data, and a status of failure over the errors. -/
theorem replies_classified_of_failing :
    (InventoryReply.answered 200 (Text.Utf8.bytes failingText)).cluster =
        .error (.remote ["late", "busy"]) ∧
      (InventoryReply.answered 503 (Text.Utf8.bytes failingText)).clusters =
        .error (.status 503 failingText) := by
  have htells : Tells failingText (some (.int 7)) ["late", "busy"] :=
    tells_iff.2 (by decide +kernel)
  have hfirst : (InventoryReply.answered 200 (Text.Utf8.bytes failingText)).received =
      .answered 200 (Text.Utf8.bytes failingText) := rfl
  have hsecond : (InventoryReply.answered 503 (Text.Utf8.bytes failingText)).received =
      .answered 503 (Text.Utf8.bytes failingText) := rfl
  exact ⟨((replies_classified hfirst).1.remote _).2 ⟨rfl, by simp, _, htells⟩,
    ((replies_classified hsecond).2.status _ _).2 ⟨by decide, rfl, rfl⟩⟩

end Inventory

end ClusterOperator
