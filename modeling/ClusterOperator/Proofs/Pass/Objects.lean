import ClusterOperator.Proofs.Pass.Stored
import ClusterOperator.Proofs.Status.Merge

/-!
# Passes over a stored object

The API keeps an entity as an object, whose status is written by merging a patch into it, while a
store of entities replaces the status. As long as what is merged takes the place of the status that
was there, both do the same, and what happens to the object happens to the entity that is read from
it.

* `Json.statuses` : what an object holds as its status;
* `Json.mergeStatus`, `Json.replaceStatus` : the two ways to write a status;
* `Entity.decode?_of_statuses` : an entity is read with the status that its object holds;
* `Entity.IsStoredAs` : the entity that an object stands for, if one can be read from it or not;
* `EntityCall.Served` : what a store of objects replies to a call, and what it then holds;
* `ObjectWorld`, `ObjectWorld.Step`, `ObjectWorld.Run` : the stored object with the pass under way,
  and what happens to them;
* `ObjectWorld.Replaces` : what is published next takes the place of the status;
  `ObjectWorld.Replaces.step_iff`, `ObjectWorld.Step.shown`, `ObjectWorld.Run.shown`,
  `ObjectWorld.run_iff`, it then does not matter how it is written.

That the API gives an object a new version with every write is an edit before the write.
-/

namespace ClusterOperator

open Dialogue

/-! ## The status of an object -/

namespace Json

/-- What an object holds as its status; none for a value that is no object. -/
def statuses : Json → Option (List Json)
  | .obj members => some (occurrences "status" members)
  | _ => none

def mergeStatus (j status : Json) : Json :=
  j.merge (.obj [("status", status)])

def replaceStatus (j status : Json) : Json :=
  j.insert "status" status

variable {j status : Json} {held : List Json}

theorem statuses_eq_some :
    j.statuses = some held ↔ ∃ members, j = .obj members ∧ occurrences "status" members = held := by
  cases j <;> simp [statuses]

theorem statuses_replaceStatus (h : j.statuses = some held) :
    (j.replaceStatus status).statuses = some [status] := by
  obtain ⟨members, rfl, -⟩ := statuses_eq_some.1 h
  simp [replaceStatus, insert, statuses, occurrences]

theorem erase_replaceStatus : (j.replaceStatus status).erase "status" = j.erase "status" := by
  cases j <;> simp [replaceStatus, insert, erase]

theorem find?_of_statuses {old : Option Json} (h : j.statuses = some old.toList) :
    j.find? "status" = old := by
  obtain ⟨members, rfl, hold⟩ := statuses_eq_some.1 h
  show lastMember? "status" members = old
  rw [lastMember?_eq, hold]
  cases old <;> rfl

theorem mergeStatus_eq {old : Option Json} (h : j.statuses = some old.toList)
    (hstatus : status ≠ .null) :
    j.mergeStatus status = j.replaceStatus ((old.getD .null).merge status) := by
  obtain ⟨members, rfl, -⟩ := statuses_eq_some.1 h
  have hlast : lastMember? "status" members = old := find?_of_statuses h
  unfold mergeStatus
  rw [merge, mergeMembers_cons hstatus, mergeMembers, hlast]
  rfl

end Json

open Json

section

variable {σ τ : Type} [Managed σ τ]

def Managed.ReadsStatus (σ : Type) {τ : Type} [Managed σ τ] : Prop :=
  ∀ s : τ, (Slot.given (encodeStatus σ s)).optional (decodeStatus? σ) = some (some s)

theorem Managed.ReadsStatus.encode_ne_null (h : ReadsStatus σ) (s : τ) :
    encodeStatus σ s ≠ .null := by
  intro hnull
  have hread := h s
  rw [hnull] at hread
  cases hread

theorem occurrences_filter_ne {name other : String} (h : name ≠ other)
    (members : List (String × Json)) :
    occurrences name (members.filter (·.1 ≠ other)) = occurrences name members := by
  unfold occurrences
  rw [List.filter_filter]
  refine congrArg (List.map Prod.snd) (List.filter_congr fun m _ => ?_)
  by_cases hm : m.1 = name <;> simp [hm, h]

theorem Entity.slots?_of_single_status {members : List (String × Json)}
    (h : (occurrences "status" members).length ≤ 1) :
    slots? ["metadata", "spec", "status"] (.obj members) =
      if 1 < (occurrences "metadata" members).length ∨ 1 < (occurrences "spec" members).length
      then none
      else some [.ofOption (occurrences "metadata" members).getLast?,
        .ofOption (occurrences "spec" members).getLast?,
        .ofOption (occurrences "status" members).getLast?] := by
  have hsingle : ¬ 1 < (occurrences "status" members).length := by omega
  rw [Json.slots?_obj]
  simp [hsingle]

theorem Entity.decode?_of_statuses (hreads : Managed.ReadsStatus σ) {j : Json} {status : Option τ}
    (h : j.statuses = some (status.map (Managed.encodeStatus σ)).toList) :
    (decode? j : Option (Entity σ τ)) =
      (decode? (j.erase "status")).map fun e => { e with status } := by
  obtain ⟨members, rfl, hold⟩ := statuses_eq_some.1 h
  have hnone : occurrences "status" (members.filter (·.1 ≠ "status")) = [] :=
    occurrences_eq_nil (by simp)
  have hread : (Slot.ofOption (status.map (Managed.encodeStatus σ)).toList.getLast?).optional
      (Managed.decodeStatus? σ) = some status := by
    cases status with
    | none => rfl
    | some s => exact hreads s
  have hlength : (status.map (Managed.encodeStatus σ)).toList.length ≤ 1 := by
    cases status <;> simp
  show _ = (decode? (.obj (members.filter (·.1 ≠ "status")))).map _
  unfold decode?
  rw [slots?_of_single_status (hold ▸ hlength),
    slots?_of_single_status (by rw [hnone]; exact Nat.zero_le 1),
    occurrences_filter_ne (by decide), occurrences_filter_ne (by decide), hnone, hold]
  split_ifs
  · rfl
  · simp only [hread]
    generalize Slot.required _ _ = metadata
    generalize Slot.required _ _ = spec
    cases metadata <;> cases spec <;> rfl

/-! ## What an object stands for -/

/-- An entity is what an object holds: its status is that of the object, and nothing else can be
read from the object. -/
structure Entity.IsStoredAs (e : Entity σ τ) (j : Json) : Prop where
  status : j.statuses = some (e.status.map (Managed.encodeStatus σ)).toList
  read : ∀ d : Entity σ τ, decode? j = some d → d = e

namespace Entity.IsStoredAs

variable {e : Entity σ τ} {j j' : Json}

theorem of_statuses (hreads : Managed.ReadsStatus σ) (h : e.IsStoredAs j)
    (hj : j'.statuses = j.statuses) :
    ∃ e' : Entity σ τ, e'.status = e.status ∧ e'.IsStoredAs j' := by
  have hstatus := hj.trans h.status
  cases hd : (decode? j' : Option (Entity σ τ)) with
  | none => exact ⟨e, rfl, hstatus, fun d hd' => by cases hd.symm.trans hd'⟩
  | some d =>
    have hread := (decode?_of_statuses hreads hstatus).symm.trans hd
    obtain ⟨d, -, rfl⟩ := Option.map_eq_some_iff.1 hread
    exact ⟨{ d with status := e.status }, rfl, hstatus, fun d' hd' =>
      (Option.some.inj (hd.symm.trans hd')).symm⟩

theorem replaceStatus (hreads : Managed.ReadsStatus σ) (h : e.IsStoredAs j) (s : τ) :
    ({ e with status := some s } : Entity σ τ).IsStoredAs
      (j.replaceStatus (Managed.encodeStatus σ s)) := by
  have hstatus : (j.replaceStatus (Managed.encodeStatus σ s)).statuses =
      some ((some s).map (Managed.encodeStatus σ)).toList := statuses_replaceStatus h.status
  refine ⟨hstatus, fun d hd => ?_⟩
  rw [decode?_of_statuses hreads hstatus, erase_replaceStatus] at hd
  obtain ⟨d, hrest, rfl⟩ := Option.map_eq_some_iff.1 hd
  have he := h.read { d with status := e.status } <| by
    rw [decode?_of_statuses hreads h.status, hrest, Option.map_some]
  rw [← he]

end Entity.IsStoredAs

def Entity.sentStatus (e : Entity σ τ) : Json :=
  (e.status.map (Managed.encodeStatus σ)).getD .null

/-! ## Calls to a store of objects -/

/-- What the store of one object replies to a call, given what it holds before and after. The object
is read as an entity, and a status is written to the object that is stored by then. -/
inductive EntityCall.Served (write : Json → Json → Json) :
    Option Json → EntityCall σ τ → Option Json → Prop where
  | absent (key : Key) : Served write none (.fetched key (.ok none)) none
  | found {j : Json} {e : Entity σ τ} (key : Key) (h : Entity.decode? j = some e) :
    Served write (some j) (.fetched key (.ok (some e))) (some j)
  | unfetched (stored : Option Json) (key : Key) (error : StoreError) :
    Served write stored (.fetched key (.error error)) stored
  | stored {j : Json} {p copy : Entity σ τ}
      (h : Entity.decode? (write j p.sentStatus) = some copy) :
    Served write (some j) (.published p (.ok copy)) (some (write j p.sentStatus))
  | refused (stored : Option Json) (p : Entity σ τ) (error : StoreError) :
    Served write stored (.published p (.error error)) stored
  /-- The status is stored, but the reply does not arrive or cannot be read. -/
  | lost (j : Json) (p : Entity σ τ) (error : StoreError) :
    Served write (some j) (.published p (.error error)) (some (write j p.sentStatus))

/-- The statuses that a call writes have the same effect by either write. -/
def EntityCall.WritesAlike (write write' : Json → Json → Json) (stored : Option Json) :
    EntityCall σ τ → Prop
  | .published p _ => ∀ j ∈ stored, write j p.sentStatus = write' j p.sentStatus
  | .fetched _ _ => True

theorem EntityCall.Served.congr {write write' : Json → Json → Json} {before after : Option Json}
    {call : EntityCall σ τ} (h : call.Served write before after)
    (halike : call.WritesAlike write write' before) : call.Served write' before after := by
  cases h with
  | absent key => exact .absent key
  | found key h => exact .found key h
  | unfetched _ key error => exact .unfetched _ key error
  | @stored j p _ h =>
    rw [halike j rfl] at h ⊢
    exact .stored h
  | refused _ p error => exact .refused _ p error
  | lost j p error =>
    rw [halike j rfl]
    exact .lost j p error

/-- A call that replaces the status has the same effect on the entity that the object stands for. -/
theorem EntityCall.Served.allowed (hreads : Managed.ReadsStatus σ) {before after : Option Json}
    {call : EntityCall σ τ} {stored : Option (Entity σ τ)}
    (h : call.Served replaceStatus before after)
    (hstored : Option.Rel Entity.IsStoredAs stored before)
    (hstatus : ∀ p reply, before.isSome → call = .published p reply → ∃ s, p.status = some s) :
    ∃ stored', call.Allowed stored stored' ∧ Option.Rel Entity.IsStoredAs stored' after := by
  -- the status that is published is the one of the entity from then on
  have hreplaced : ∀ {e p : Entity σ τ} {j reply}, before = some j → e.IsStoredAs j →
      call = .published p reply →
      ({ e with status := p.status } : Entity σ τ).IsStoredAs (j.replaceStatus p.sentStatus) := by
    intro e p j reply hj he hcall
    obtain ⟨s, hs⟩ := hstatus p reply (hj ▸ rfl) hcall
    unfold Entity.sentStatus
    rw [hs]
    exact he.replaceStatus hreads s
  cases h with
  | absent key =>
    cases hstored
    exact ⟨none, .found none key, .none⟩
  | found key h =>
    cases hstored with
    | some he =>
      cases he.read _ h
      exact ⟨_, .found _ key, .some he⟩
  | unfetched _ key error => exact ⟨stored, .unfetched stored key error, hstored⟩
  | @stored j p copy h =>
    cases hstored with
    | some he =>
      have hnew := hreplaced rfl he rfl
      cases hnew.read _ h
      exact ⟨_, .stored p _, .some hnew⟩
  | refused _ p error => exact ⟨stored, .refused stored p error, hstored⟩
  | lost j p error =>
    cases hstored with
    | some he => exact ⟨_, .lost p _ error, .some (hreplaced rfl he rfl)⟩

end

/-! ## Runs over an object -/

/-- A stored object, and the exchanges of the pass over it that is under way, with what is left of
that pass. -/
structure ObjectWorld (Q : Type) (A : Q → Type) where
  stored : Option Json
  running : Option (List (Exchange Q A) × Dialogue Q A (Except PassError Requeue))

namespace ObjectWorld

variable {σ τ Q : Type} {A : Q → Type} [Managed σ τ]

section

variable (write : Json → Json → Json) (call? : Exchange Q A → Option (EntityCall σ τ))
  (pass : Dialogue Q A (Except PassError Requeue))

/-- An exchange is served if it is none with the store of the object, which then holds what it
held. -/
def Serves (before : Option Json) (x : Exchange Q A) (after : Option Json) : Prop :=
  match call? x with
  | none => after = before
  | some call => call.Served write before after

/-- What happens: an edit of all but the status, the removal of the object, and the beginning, the
next exchange and the end of a pass. -/
inductive Step : ObjectWorld Q A → ObjectWorld Q A → Prop where
  | edit {j j' : Json} (running : Option (List (Exchange Q A) × Dialogue Q A _))
      (h : j'.statuses = j.statuses) : Step ⟨some j, running⟩ ⟨some j', running⟩
  | remove (j : Json) (running : Option (List (Exchange Q A) × Dialogue Q A _)) :
    Step ⟨some j, running⟩ ⟨none, running⟩
  | start (stored : Option Json) : Step ⟨stored, none⟩ ⟨stored, some ([], pass)⟩
  | exchange {stored stored' : Option Json} {t : List (Exchange Q A)} {q : Q}
      {next : A q → Dialogue Q A (Except PassError Requeue)} (reply : A q)
      (h : Serves write call? stored ⟨q, reply⟩ stored') :
    Step ⟨stored, some (t, .ask q next)⟩ ⟨stored', some (t ++ [⟨q, reply⟩], next reply)⟩
  | leave (stored : Option Json) (under : List (Exchange Q A) × Dialogue Q A _) :
    Step ⟨stored, some under⟩ ⟨stored, none⟩

abbrev Run : ObjectWorld Q A → ObjectWorld Q A → Prop :=
  Relation.ReflTransGen (Step write call? pass)

/-- The object stands for the entity of another world, in which the same pass is under way. -/
structure Shows (o : ObjectWorld Q A) (w : PassWorld Q A σ τ) : Prop where
  stored : Option.Rel Entity.IsStoredAs w.stored o.stored
  running : w.running = o.running

/-- What the pass under way publishes next has a status, and a write puts it in the place of the one
that is stored. -/
def Replaces (o : ObjectWorld Q A) : Prop :=
  ∀ j ∈ o.stored, ∀ t q next reply p written, o.running = some (t, .ask q next) →
    call? ⟨q, reply⟩ = some (.published p written) →
    ∃ s, p.status = some s ∧
      write j (Managed.encodeStatus σ s) = j.replaceStatus (Managed.encodeStatus σ s)

end

variable {write write' : Json → Json → Json} {call? : Exchange Q A → Option (EntityCall σ τ)}
  {pass : Dialogue Q A (Except PassError Requeue)} {o o' : ObjectWorld Q A}
  {w : PassWorld Q A σ τ}

theorem Shows.isStoredAs (h : o.Shows w) {j : Json} (hj : j ∈ o.stored) :
    ∃ e, w.stored = some e ∧ e.IsStoredAs j := by
  have hstored := h.stored
  rw [Option.mem_def.1 hj] at hstored
  cases hw : w.stored with
  | none =>
    rw [hw] at hstored
    cases hstored
  | some e =>
    rw [hw] at hstored
    cases hstored with
    | some he => exact ⟨e, rfl, he⟩

/-! ## Writes that replace the status -/

theorem Serves.congr {before after : Option Json} {x : Exchange Q A}
    (h : Serves write call? before x after)
    (halike : ∀ call, call? x = some call → call.WritesAlike write write' before) :
    Serves write' call? before x after := by
  unfold Serves at h ⊢
  cases hcall : call? x with
  | none =>
    rw [hcall] at h
    exact h
  | some call =>
    rw [hcall] at h
    exact h.congr (halike call hcall)

theorem Step.congr (h : Step write call? pass o o')
    (halike : ∀ t q next reply call, o.running = some (t, .ask q next) →
      call? ⟨q, reply⟩ = some call → call.WritesAlike write write' o.stored) :
    Step write' call? pass o o' := by
  cases h with
  | edit running hj => exact .edit running hj
  | remove j running => exact .remove j running
  | start stored => exact .start stored
  | exchange reply hserves =>
    exact .exchange reply (hserves.congr fun call => halike _ _ _ reply call rfl)
  | leave stored under => exact .leave stored under

/-- What a write puts in the place of the status, it writes as a replacement does. -/
theorem Replaces.step_iff (h : o.Replaces write call?) :
    Step write call? pass o o' ↔ Step replaceStatus call? pass o o' := by
  have hsame : ∀ t q next reply p written, o.running = some (t, .ask q next) →
      call? ⟨q, reply⟩ = some (.published p written) →
      ∀ j ∈ o.stored, write j p.sentStatus = j.replaceStatus p.sentStatus := by
    intro t q next reply p written hrunning hcall j hj
    obtain ⟨s, hs, heq⟩ := h j hj t q next reply p written hrunning hcall
    unfold Entity.sentStatus
    rw [hs]
    exact heq
  refine ⟨fun hstep => hstep.congr fun t q next reply call hrunning hcall => ?_,
    fun hstep => hstep.congr fun t q next reply call hrunning hcall => ?_⟩
  · cases call with
    | fetched => trivial
    | published p written => exact hsame t q next reply p written hrunning hcall
  · cases call with
    | fetched => trivial
    | published p written =>
      exact fun j hj => (hsame t q next reply p written hrunning hcall j hj).symm

/-- A step over objects whose status is replaced is one over the entities that they stand for. -/
theorem Step.shown (hreads : Managed.ReadsStatus σ) (hreplaces : o.Replaces write call?)
    (h : Step replaceStatus call? pass o o') (hw : o.Shows w) :
    ∃ w', PassWorld.Step call? pass w w' ∧ o'.Shows w' := by
  obtain ⟨stored, running⟩ := w
  obtain ⟨hstored, hrunning⟩ := hw
  dsimp only at hstored hrunning
  subst hrunning
  cases h with
  | edit running hj =>
    cases hstored with
    | some he =>
      obtain ⟨e', hstatus, he'⟩ := he.of_statuses hreads hj
      exact ⟨_, .edit running hstatus, .some he', rfl⟩
  | remove j running =>
    cases hstored with
    | some he => exact ⟨_, .remove _ running, .none, rfl⟩
  | start => exact ⟨_, .start stored, hstored, rfl⟩
  | @exchange before after t q next reply hserves =>
    have hstatus : ∀ p written, before.isSome → call? ⟨q, reply⟩ = some (.published p written) →
        ∃ s, p.status = some s := by
      intro p written hbefore hcall
      obtain ⟨j, rfl⟩ := Option.isSome_iff_exists.1 hbefore
      obtain ⟨s, hs, -⟩ := hreplaces j rfl t q next reply p written rfl hcall
      exact ⟨s, hs⟩
    unfold Serves at hserves
    cases hcall : call? ⟨q, reply⟩ with
    | none =>
      rw [hcall] at hserves
      subst hserves
      exact ⟨_, .exchange reply ((PassWorld.allows_iff_of_none hcall).2 rfl), hstored, rfl⟩
    | some call =>
      rw [hcall] at hserves hstatus
      obtain ⟨stored', hallowed, hstored'⟩ := hserves.allowed hreads hstored
        fun p written hp hcall => hstatus p written hp (congrArg some hcall)
      exact ⟨_, .exchange reply ((PassWorld.allows_iff_of_some hcall).2 hallowed), hstored', rfl⟩
  | leave => exact ⟨_, .leave stored _, hstored, rfl⟩

/-! ## Runs -/

section

variable {first : Json} {e : Entity σ τ}

/-- A run over an object in which every write puts the status in the place of the old one is one in
which it is replaced, and one over the entity that the object stands for. -/
theorem Run.shown (hreads : Managed.ReadsStatus σ)
    (hwrite : ∀ {o : ObjectWorld Q A} {w : PassWorld Q A σ τ}, w.IsSound call? pass → o.Shows w →
      o.Replaces write call?)
    (hfirst : e.IsStoredAs first) (h : Run write call? pass ⟨some first, none⟩ o) :
    Run replaceStatus call? pass ⟨some first, none⟩ o ∧
      ∃ w, PassWorld.Run call? pass ⟨some e, none⟩ w ∧ o.Shows w := by
  induction h with
  | refl => exact ⟨.refl, _, .refl, .some hfirst, rfl⟩
  | tail _ hstep ih =>
    obtain ⟨hreplaced, w, hw, hshows⟩ := ih
    have hreplaces := hwrite ((PassWorld.IsSound.idle _).run hw) hshows
    have hstep' := hreplaces.step_iff.1 hstep
    obtain ⟨w', hw', hshows'⟩ := hstep'.shown hreads hreplaces hshows
    exact ⟨hreplaced.tail hstep', w', hw.tail hw', hshows'⟩

/-- Whether a write puts the status in the place of the old one or the status is replaced, the same
happens. -/
theorem run_iff (hreads : Managed.ReadsStatus σ)
    (hwrite : ∀ {o : ObjectWorld Q A} {w : PassWorld Q A σ τ}, w.IsSound call? pass → o.Shows w →
      o.Replaces write call?)
    (hfirst : e.IsStoredAs first) :
    Run write call? pass ⟨some first, none⟩ o ↔
      Run replaceStatus call? pass ⟨some first, none⟩ o := by
  refine ⟨fun h => (h.shown hreads hwrite hfirst).1, fun h => ?_⟩
  induction h with
  | refl => exact .refl
  | tail hsteps hstep ih =>
    obtain ⟨-, w, hw, hshows⟩ := ih.shown hreads hwrite hfirst
    have hreplaces := hwrite ((PassWorld.IsSound.idle _).run hw) hshows
    exact ih.tail (hreplaces.step_iff.2 hstep)

end

end ObjectWorld

end ClusterOperator
