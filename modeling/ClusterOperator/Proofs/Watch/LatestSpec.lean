import ClusterOperator.Proofs.Queue.Delivery
import ClusterOperator.Proofs.Queue.Serialization
import ClusterOperator.Proofs.Watch.Observation

/-!
# The latest spec is read

An edit that the watch told of leaves a debt: a pass that reads the entity no earlier than that
edit. The debt stands as a key on its way to the queue, as a dirty key, as a pass that has not read
yet, or it is paid by what a pass has read.

* `Copy.Precedes` : the order of copies by edits and by generations;
* `Observation.IsRecorded` : the copies, what the watch told of them, and what the filter saw;
* `Observation.IsFresh` : a reading is what the entity was after so many edits;
* `Observation.IsCovered` : the debt of an edit stands, or is paid;
* `Observation.IsSound` : all invariants, with `Observation.occur?_isSound`;
* `latest_spec_observed` : when nothing stands, the last pass read the latest spec.
-/

namespace ClusterOperator

/-! ## Copies -/

namespace Copy

variable {σ τ : Type}

/-- An older copy and a later one: either no edit is between them, or the later one has a higher
generation. -/
def Precedes (a b : Copy σ τ) : Prop :=
  a.edits = b.edits ∧ a.generation = b.generation ∨
    a.edits < b.edits ∧ isRaised a.generation b.generation = true

theorem isRaised_irrefl (g : Option Int64) : isRaised g g = false := by
  cases g <;> simp [isRaised]

theorem isRaised_trans {f g h : Option Int64} (hfg : isRaised f g = true)
    (hgh : isRaised g h = true) : isRaised f h = true := by
  cases f <;> cases g <;> cases h <;> simp_all [isRaised]
  exact Int64.lt_trans hfg hgh

theorem Precedes.refl (a : Copy σ τ) : a.Precedes a :=
  Or.inl ⟨rfl, rfl⟩

theorem Precedes.trans {a b c : Copy σ τ} (hab : a.Precedes b) (hbc : b.Precedes c) :
    a.Precedes c := by
  rcases hab with ⟨he, hg⟩ | ⟨he, hg⟩ <;> rcases hbc with ⟨he', hg'⟩ | ⟨he', hg'⟩
  · exact Or.inl ⟨he.trans he', hg.trans hg'⟩
  · exact Or.inr ⟨he ▸ he', hg ▸ hg'⟩
  · exact Or.inr ⟨he' ▸ he, hg' ▸ hg⟩
  · exact Or.inr ⟨Nat.lt_trans he he', isRaised_trans hg hg'⟩

theorem Precedes.edits_le {a b : Copy σ τ} (h : a.Precedes b) : a.edits ≤ b.edits := by
  rcases h with h | h <;> omega

/-- Copies of one generation have seen the same edits. -/
theorem Precedes.edits_eq {a b : Copy σ τ} (h : a.Precedes b) (hg : a.generation = b.generation) :
    a.edits = b.edits := by
  rcases h with h | h
  · exact h.1
  · rw [hg, isRaised_irrefl] at h
    cases h.2

end Copy

namespace Observation

variable {σ τ : Type} {r : Reconciler σ τ} {key : Key}

/-! ## Invariants -/

/-- The copies are in order, the watch told of them in order, and the filter saw the last of
those. -/
structure IsRecorded (s : Observation r key) : Prop where
  keys : ∀ c ∈ s.copies, c.entity.key = key
  ordered : s.copies.Pairwise Copy.Precedes
  observed_at : ∀ o ∈ s.observed, s.copies[o.1]? = some o.2
  observed_le : ∀ o ∈ s.observed, ∀ l ∈ s.observed.head?, o.1 ≤ l.1
  seen : s.filter.seen.get? key = s.observed.head?.map (·.2.generation)

/-- What a pass was given is what the entity was: at the latest, with its current spec. -/
def IsFresh (s : Observation r key) (d : Reading σ τ) : Prop :=
  d.edits ≤ s.edits ∧ (d.edits = s.edits →
    d.entity.map (·.spec) = s.current?.map (·.entity.spec) ∧
      d.entity.map (·.metadata.generation) = s.current?.map (·.generation))

/-- After so many edits the entity was read, or is still to be read. -/
def IsCovered (s : Observation r key) (edits : Nat) : Prop :=
  key ∈ s.announced ∨ key ∈ s.run.queue.dirty ∨
    match s.flight with
    | some f => ∀ d ∈ f.reading, edits ≤ d.edits
    | none => ∃ d ∈ s.lastReading, edits ≤ d.edits

structure IsSound (s : Observation r key) (size : Nat) : Prop where
  recorded : s.IsRecorded
  pool : s.run.IsSound size
  /-- A pass that has read nothing has done nothing. -/
  unread : ∀ f ∈ s.flight, f.reading = none → f.rest = r.pass key
  busy : ∀ f ∈ s.flight, ∃ w : Nat, s.run.workers[w]? = some (.working key)
  flight_fresh : ∀ f ∈ s.flight, ∀ d ∈ f.reading, s.IsFresh d
  last_fresh : ∀ d ∈ s.lastReading, s.IsFresh d
  covered : s.run.queue.isShutDown = false → ∀ o ∈ s.observed.head?, s.IsCovered o.2.edits

theorem IsSound.start (policy : BackoffPolicy) (size : Nat) :
    (start r key policy size).IsSound size where
  recorded := by constructor <;> simp [Observation.start]
  pool := .start policy size
  unread := by simp [Observation.start]
  busy := by simp [Observation.start]
  flight_fresh := by simp [Observation.start]
  last_fresh := by simp [Observation.start]
  covered := by simp [Observation.start]

/-! ## Copies and what the watch told of them -/

theorem IsRecorded.precedes {s : Observation r key} (hs : s.IsRecorded) {i j : Nat}
    {a b : Copy σ τ} (hij : i ≤ j) (ha : s.copies[i]? = some a) (hb : s.copies[j]? = some b) :
    a.Precedes b := by
  obtain ⟨hi, rfl⟩ := List.getElem?_eq_some_iff.1 ha
  obtain ⟨hj, rfl⟩ := List.getElem?_eq_some_iff.1 hb
  rcases Nat.lt_or_eq_of_le hij with h | rfl
  · exact List.pairwise_iff_getElem.1 hs.ordered i j hi hj h
  · exact .refl _

theorem IsRecorded.precedes_current {s : Observation r key} (hs : s.IsRecorded) {i : Nat}
    {a c : Copy σ τ} (ha : s.copies[i]? = some a) (hc : s.current? = some c) : a.Precedes c := by
  have hi := (List.getElem?_eq_some_iff.1 ha).1
  exact hs.precedes (Nat.le_sub_one_of_lt hi) ha (List.getLast?_eq_getElem? ▸ hc)

theorem IsRecorded.edits_le {s : Observation r key} (hs : s.IsRecorded) {i : Nat} {a : Copy σ τ}
    (ha : s.copies[i]? = some a) : a.edits ≤ s.edits := by
  have hne : s.copies ≠ [] := by
    rintro h
    simp [h] at ha
  have hc : s.current? = some (s.copies.getLast hne) := List.getLast?_eq_some_getLast hne
  simpa [edits, hc] using (hs.precedes_current ha hc).edits_le

theorem IsRecorded.push {s : Observation r key} (hs : s.IsRecorded) {c : Copy σ τ}
    (hk : c.entity.key = key) (hc : ∀ d ∈ s.current?, d.Precedes c) :
    (s.push c).IsRecorded where
  keys := by
    intro d hd
    rcases List.mem_append.1 hd with hd | hd
    · exact hs.keys d hd
    · rwa [List.mem_singleton.1 hd]
  ordered := by
    refine List.pairwise_append.2 ⟨hs.ordered, List.pairwise_singleton _ _, fun a ha b hb => ?_⟩
    obtain ⟨i, hi⟩ := List.getElem?_of_mem ha
    rw [List.mem_singleton.1 hb]
    have hd : s.current? = some (s.copies.getLast (List.ne_nil_of_mem ha)) :=
      List.getLast?_eq_some_getLast _
    exact (hs.precedes_current hi hd).trans (hc _ hd)
  observed_at := by
    intro o ho
    have hi := hs.observed_at o ho
    exact (List.getElem?_append_left (List.getElem?_eq_some_iff.1 hi).1).trans hi
  observed_le := hs.observed_le
  seen := hs.seen

theorem IsRecorded.deliver {s : Observation r key} (hs : s.IsRecorded) {place : Nat}
    {c : Copy σ τ} {event : WatchEvent}
    (he : event = .listed c.entity.metadata ∨ event = .applied c.entity.metadata)
    (hc : s.copies[place]? = some c) (hle : ∀ o ∈ s.observed, o.1 ≤ place) :
    (s.deliver place c event).IsRecorded where
  keys := hs.keys
  ordered := hs.ordered
  observed_at := List.forall_mem_cons.2 ⟨hc, hs.observed_at⟩
  observed_le := by
    intro o ho l hl
    cases hl
    rcases List.mem_cons.1 ho with rfl | ho
    · exact Nat.le_refl _
    · exact hle o ho
  seen := by
    have hk : c.entity.metadata.key = key := hs.keys c (List.mem_of_getElem? hc)
    simp only [Observation.deliver, observe, s.filter.handle_of_told _ he, Dict.get?_insert, hk,
      if_true]
    rfl

theorem IsRecorded.hear {s : Observation r key} (hs : s.IsRecorded) {event : WatchEvent}
    (he : ∀ m ∈ event.object?, m.key ≠ key) : (s.observe event).IsRecorded :=
  { hs with seen := (s.filter.seen_handle_of_ne he).trans hs.seen }

/-! ## Events -/

theorem current?_push (s : Observation r key) (c : Copy σ τ) : (s.push c).current? = some c :=
  List.getLast?_concat

theorem edits_push (s : Observation r key) (c : Copy σ τ) : (s.push c).edits = c.edits := by
  simp [edits, current?_push]

/-- A copy is added that follows the current one, and what was read of the current spec is
current. -/
theorem IsSound.push {s : Observation r key} {size : Nat} (hs : s.IsSound size) {c : Copy σ τ}
    (hk : c.entity.key = key) (hc : ∀ d ∈ s.current?, d.Precedes c)
    (hfresh : ∀ d, s.IsFresh d → (s.push c).IsFresh d) : (s.push c).IsSound size :=
  { hs with
    recorded := hs.recorded.push hk hc
    flight_fresh := fun f hf d hd => hfresh d (hs.flight_fresh f hf d hd)
    last_fresh := fun d hd => hfresh d (hs.last_fresh d hd) }

theorem IsSound.edit {s : Observation r key} {size : Nat} (hs : s.IsSound size) {e : Entity σ τ}
    (hk : e.key = key) (hg : ∀ c ∈ s.current?, isRaised c.generation e.metadata.generation = true) :
    (s.push ⟨e, s.edits + 1⟩).IsSound size := by
  refine hs.push hk (fun c hc => Or.inr ⟨?_, hg c hc⟩) fun d hd => ?_
  · have hc : s.edits = c.edits := by simp [edits, Option.mem_def.1 hc]
    show c.edits < s.edits + 1
    omega
  · have hle := hd.1
    simp only [IsFresh, edits_push]
    exact ⟨by omega, fun h => by omega⟩

theorem IsSound.touch {s : Observation r key} {size : Nat} (hs : s.IsSound size) {e : Entity σ τ}
    {c : Copy σ τ} (hc : s.current? = some c) (hk : e.key = key) (hspec : e.spec = c.entity.spec)
    (hg : e.metadata.generation = c.generation) : (s.push ⟨e, c.edits⟩).IsSound size := by
  refine hs.push hk (fun d hd => ?_) fun d hd => ?_
  · cases hc.symm.trans hd
    exact Or.inl ⟨rfl, hg.symm⟩
  · have hedits : s.edits = c.edits := by simp [edits, hc]
    rw [IsFresh, hedits, hc] at hd
    rw [IsFresh, edits_push, current?_push]
    simpa only [Option.map_some, Copy.generation, hspec, hg] using hd

theorem IsSound.deliver {s : Observation r key} {size : Nat} (hs : s.IsSound size) {place : Nat}
    {c : Copy σ τ} {event : WatchEvent}
    (he : event = .listed c.entity.metadata ∨ event = .applied c.entity.metadata)
    (hc : s.copies[place]? = some c) (ha : s.announced = []) (hle : ∀ o ∈ s.observed, o.1 ≤ place) :
    (s.deliver place c event).IsSound size := by
  refine { hs with recorded := hs.recorded.deliver he hc hle, covered := fun hns o ho => ?_ }
  cases ho
  have hk : c.entity.metadata.key = key := hs.recorded.keys c (List.mem_of_getElem? hc)
  by_cases hseen : s.filter.seen.get? key = some c.generation
  · -- the filter saw this generation last, so the copy before has the same edits
    rw [hs.recorded.seen, Option.map_eq_some_iff] at hseen
    obtain ⟨o, ho, hg⟩ := hseen
    have ho' := List.mem_of_mem_head? ho
    have hprec := hs.recorded.precedes (hle o ho') (hs.recorded.observed_at o ho') hc
    have hcov := hs.covered hns o ho
    rw [hprec.edits_eq hg, IsCovered, ha] at hcov
    exact Or.inr (hcov.resolve_left List.not_mem_nil)
  · refine Or.inl ?_
    have hann : (s.deliver place c event).announced = [key] := by
      simp only [Observation.deliver, observe, s.filter.handle_of_told _ he, hk]
      exact if_neg hseen
    rw [hann]
    exact List.mem_singleton_self key

theorem IsSound.hear {s : Observation r key} {size : Nat} (hs : s.IsSound size)
    {event : WatchEvent} (ha : s.announced = []) (he : ∀ m ∈ event.object?, m.key ≠ key) :
    (s.observe event).IsSound size := by
  refine { hs with recorded := hs.recorded.hear he, covered := fun hns o ho => ?_ }
  have hcov := hs.covered hns o ho
  rw [IsCovered, ha] at hcov
  exact Or.inr (hcov.resolve_left List.not_mem_nil)

theorem flightAfter_eq (s : Observation r key) (run : PoolRun Key) (e : PoolEvent Key) :
    s.flightAfter run e = s.flight ∨
      ∃ w, e = .ask w ∧ run.keyOf? w = some key ∧
        s.flightAfter run e = some { rest := r.pass key } := by
  cases e with
  | ask w =>
    simp only [flightAfter]
    split
    · next hw => exact Or.inr ⟨w, rfl, hw, rfl⟩
    · exact Or.inl rfl
  | _ => exact Or.inl rfl

theorem mem_dirty_of_step {p q : PoolRun Key} {e : PoolEvent Key} (h : PoolRun.Step p e q)
    (hp : p.IsStaffed) (he : ∀ f, e = .outside f → f.task? = none)
    (hns : q.queue.isShutDown = false) (hk : key ∈ p.queue.dirty) :
    key ∈ q.queue.dirty ∨ ∃ w, e = .ask w ∧ q.keyOf? w = some key := by
  obtain ⟨es, hes, hh⟩ := h.exists_after? hp
  by_cases hd : QueueEvent.deliveries key es = 0
  · exact Or.inl ((QueueRun.mem_dirty_iff_of_after? hes hns hd).2 (Or.inl hk))
  · rw [QueueEvent.deliveries_eq_zero_iff] at hd
    push Not at hd
    obtain ⟨f, hf, hfk⟩ := hd
    rcases hh f hf key hfk with rfl | ⟨w, rfl, hw⟩
    · obtain ⟨task, rfl⟩ := QueueEvent.handed?_eq_some.1 hfk
      cases he _ rfl
    · exact Or.inr ⟨w, rfl, by simp [PoolRun.keyOf?, hw, Worker.key?]⟩

/-- The pool goes on, and a key that is handed out is read later. -/
theorem IsCovered.step {s : Observation r key} {edits : Nat} (hs : s.IsCovered edits)
    (hp : s.run.IsStaffed) {e : PoolEvent Key} {run : PoolRun Key} (h : PoolRun.Step s.run e run)
    (he : ∀ f, e = .outside f → f.task? = none) (hns : run.queue.isShutDown = false) :
    IsCovered ({ s with run, flight := s.flightAfter run e } : Observation r key) edits := by
  rcases hs with hk | hk | hk
  · exact Or.inl hk
  · rcases mem_dirty_of_step h hp he hns hk with hd | ⟨w, rfl, hw⟩
    · exact Or.inr (Or.inl hd)
    · refine Or.inr (Or.inr ?_)
      simp [flightAfter, hw]
  · refine Or.inr (Or.inr ?_)
    rcases s.flightAfter_eq run e with hf | ⟨w, -, -, hf⟩ <;> simp only [hf]
    · exact hk
    · rintro d ⟨⟩

theorem IsSound.step {s : Observation r key} {size : Nat} (hs : s.IsSound size)
    {e : PoolEvent Key} {run : PoolRun Key} (ha : s.allows e = true)
    (h : s.run.occur? e = some run) :
    IsSound ({ s with run, flight := s.flightAfter run e } : Observation r key) size := by
  have hstep := PoolRun.occur?_step h
  have hout : ∀ f, e = .outside f → f.task? = none := by
    rintro f rfl
    simpa [allows] using ha
  have hflight := s.flightAfter_eq run e
  refine { hs with
    recorded := { hs.recorded with }
    pool := hstep.isSound hs.pool
    unread := ?_, busy := ?_, flight_fresh := ?_, covered := ?_ }
  · rcases hflight with hf | ⟨w, -, -, hf⟩ <;> simp only [hf]
    · exact hs.unread
    · rintro f ⟨⟩ -
      rfl
  · rcases hflight with hf | ⟨w, rfl, hw, hf⟩ <;> simp only [hf]
    · intro f hf
      obtain ⟨w, hw⟩ := hs.busy f hf
      refine ⟨w, hstep.working hw ?_⟩
      rintro ending rfl
      simp [allows, PoolRun.keyOf?, hw, Worker.key?] at ha
    · exact fun _ _ => ⟨w, hstep.working_of_asked hw⟩
  · rcases hflight with hf | ⟨w, -, -, hf⟩ <;> simp only [hf]
    · exact hs.flight_fresh
    · rintro f ⟨⟩ d ⟨⟩
  · intro hns o ho
    obtain ⟨es, hes, -⟩ := hstep.exists_after? hs.pool.staffed
    exact (hs.covered (QueueRun.not_isShutDown_of_after? hes hns) o ho).step hs.pool.staffed hstep
      hout hns

theorem IsSound.signal {s : Observation r key} {size : Nat} (hs : s.IsSound size) {k : Key}
    {announced : List Key} {run : PoolRun Key} (ha : s.announced = k :: announced)
    (h : s.run.occur? (.outside (.add k)) = some run) :
    IsSound ({ s with run, announced } : Observation r key) size := by
  have hrun := hs.step (e := .outside (.add k)) rfl h
  refine { hrun with recorded := { hs.recorded with }, covered := fun hns o ho => ?_ }
  rcases hrun.covered hns o ho with hk | hk
  · rcases List.mem_cons.1 (ha ▸ hk : key ∈ k :: announced) with rfl | hk
    · cases PoolRun.occur?_step h with
      | outside _ hq =>
        exact Or.inr (Or.inl ((QueueRun.occur?_standing hq).mem_dirty_of_signal rfl hns))
    · exact Or.inl hk
  · exact Or.inr hk

theorem IsSound.reads {s : Observation r key} {size : Nat} (hs : s.IsSound size) {q : r.Request}
    {next : r.Reply q → Dialogue r.Request r.Reply (Except PassError Requeue)}
    (hf : s.flight = some ⟨.ask q next, none⟩) : r.reads key q = true := by
  have hrest : Dialogue.ask q next = r.pass key := hs.unread _ hf rfl
  obtain ⟨p, rest, hp, hreads⟩ := r.reads_first key
  rw [hp] at hrest
  cases hrest
  exact hreads

theorem IsSound.reply {s : Observation r key} {size : Nat} (hs : s.IsSound size) {q : r.Request}
    {next : r.Reply q → Dialogue r.Request r.Reply (Except PassError Requeue)}
    {reading : Option (Reading σ τ)} (hf : s.flight = some ⟨.ask q next, reading⟩)
    (rest : Dialogue r.Request r.Reply (Except PassError Requeue)) :
    IsSound ({ s with flight := some ⟨rest, if r.reads key q then some s.reading else reading⟩ } :
      Observation r key) size := by
  refine { hs with
    recorded := { hs.recorded with }
    unread := ?_, busy := ?_, flight_fresh := ?_, covered := fun hns o ho => ?_ }
  · rintro f ⟨⟩ hn
    cases reading with
    | none =>
      rw [if_pos (hs.reads hf)] at hn
      cases hn
    | some d => split at hn <;> cases hn
  · exact fun _ _ => hs.busy _ hf
  · rintro f ⟨⟩ d hd
    by_cases hreads : r.reads key q = true
    · rw [if_pos hreads] at hd
      cases hd
      refine ⟨Nat.le_refl _, fun _ => ?_⟩
      simp only [Observation.reading, Option.map_map]
      exact ⟨rfl, rfl⟩
    · rw [if_neg hreads] at hd
      exact hs.flight_fresh _ hf d hd
  · have hcov := hs.covered hns o ho
    simp only [IsCovered, hf] at hcov
    refine hcov.imp_right (Or.imp_right fun hk d hd => ?_)
    by_cases hreads : r.reads key q = true
    · rw [if_pos hreads] at hd
      cases hd
      exact hs.recorded.edits_le (hs.recorded.observed_at o (List.mem_of_mem_head? ho))
    · rw [if_neg hreads] at hd
      exact hk d hd

theorem IsSound.endPass {s : Observation r key} {size : Nat} (hs : s.IsSound size)
    {result : Except PassError Requeue} {reading : Option (Reading σ τ)} {w : Nat}
    {ending : PassEnd} {run : PoolRun Key} (hf : s.flight = some ⟨.finish result, reading⟩)
    (h : s.run.occur? (.endPass w ending) = some run) :
    IsSound ({ s with run, flight := none, lastReading := reading } : Observation r key) size := by
  have hstep := PoolRun.occur?_step h
  refine { hs with
    recorded := { hs.recorded with }
    pool := hstep.isSound hs.pool
    unread := by simp, busy := by simp, flight_fresh := by simp
    last_fresh := hs.flight_fresh _ hf
    covered := fun hns o ho => ?_ }
  obtain ⟨d, rfl⟩ : ∃ d, reading = some d := by
    refine Option.ne_none_iff_exists'.1 ?_
    rintro rfl
    -- a pass that has not read yet is about to read, and not at its end
    have hrest : Dialogue.finish result = r.pass key := hs.unread _ hf rfl
    obtain ⟨p, rest, hp, -⟩ := r.reads_first key
    rw [hp] at hrest
    cases hrest
  obtain ⟨es, hes, -⟩ := hstep.exists_after? hs.pool.staffed
  have hcov := hs.covered (QueueRun.not_isShutDown_of_after? hes hns) o ho
  simp only [IsCovered, hf] at hcov
  refine hcov.imp_right (Or.imp (fun hk => ?_) fun hk => ⟨d, rfl, hk d rfl⟩)
  rcases mem_dirty_of_step hstep hs.pool.staffed (by simp) hns hk with hd | ⟨v, ⟨⟩, -⟩
  exact hd

/-! ## When nothing stands -/

/-- The queue is open, the watch told of the current generation, and the key is neither queued nor
being processed. The watch is not done with an event before the key that came through the filter is
added. -/
structure IsSettled (s : Observation r key) : Prop where
  isOpen : s.run.queue.isShutDown = false
  told : ∃ o ∈ s.observed, ∃ c ∈ s.current?, o.2.generation = c.generation
  not_announced : key ∉ s.announced
  not_queued : key ∉ s.run.queue.queue
  not_processing : key ∉ s.run.queue.processing

/-- The last pass over the entity that returned read it after the last edit, and was given its
current spec. -/
def HasReadLatest (s : Observation r key) : Prop :=
  ∃ c e, s.current? = some c ∧ s.lastReading = some ⟨s.edits, some e⟩ ∧
    e.spec = c.entity.spec ∧ e.metadata.generation = c.generation

/-- The last copy that the watch told of has seen all edits, if the watch told of the current
generation. -/
theorem IsRecorded.edits_eq_of_told {s : Observation r key} (hs : s.IsRecorded)
    (h : ∃ o ∈ s.observed, ∃ c ∈ s.current?, o.2.generation = c.generation) :
    ∃ l ∈ s.observed.head?, l.2.edits = s.edits := by
  obtain ⟨o, ho, c, hc, hg⟩ := h
  obtain ⟨l, hl⟩ := Option.isSome_iff_exists.1 (List.isSome_head?.2 (List.ne_nil_of_mem ho))
  have hle := hs.observed_le o ho l hl
  have hat := hs.observed_at o ho
  have hol := hs.precedes hle hat (hs.observed_at l (List.mem_of_mem_head? hl))
  have hlc := hs.precedes_current (hs.observed_at l (List.mem_of_mem_head? hl)) hc
  have hoc := (hs.precedes_current hat hc).edits_eq hg
  have hedits : s.edits = c.edits := by simp [edits, Option.mem_def.1 hc]
  refine ⟨l, hl, ?_⟩
  have := hol.edits_le
  have := hlc.edits_le
  omega

theorem IsSound.hasReadLatest {s : Observation r key} {size : Nat} (hs : s.IsSound size)
    (h : s.IsSettled) : s.HasReadLatest := by
  obtain ⟨l, hl, hledits⟩ := hs.recorded.edits_eq_of_told h.told
  have hserial := hs.pool.serial
  have hclean : key ∉ s.run.queue.dirty := fun hd =>
    (hserial.placed_of_dirty h.isOpen key hd).elim h.not_queued h.not_processing
  have hidle : s.flight = none := by
    refine Option.eq_none_iff_forall_ne_some.2 fun f hf => ?_
    obtain ⟨w, hw⟩ := hs.busy f hf
    have hheld := hs.pool.staffed w _ key hw rfl
    exact h.not_processing ((hserial.processing_iff key).2 (List.mem_map_of_mem hheld))
  obtain ⟨d, hd, hle⟩ : ∃ d ∈ s.lastReading, l.2.edits ≤ d.edits := by
    have hcov := hs.covered h.isOpen l hl
    rw [IsCovered, hidle] at hcov
    exact (hcov.resolve_left h.not_announced).resolve_left hclean
  obtain ⟨hge, hfresh⟩ := hs.last_fresh d hd
  have hedits : d.edits = s.edits := by omega
  obtain ⟨-, -, c, hc, -⟩ := h.told
  obtain ⟨hspec, hgen⟩ := hfresh hedits
  rw [Option.mem_def.1 hc, Option.map_some, Option.map_eq_some_iff] at hspec hgen
  obtain ⟨e, he, hspec⟩ := hspec
  obtain ⟨e', he', hgen⟩ := hgen
  cases he.symm.trans he'
  refine ⟨c, e, hc, ?_, hspec, hgen⟩
  rw [Option.mem_def.1 hd, ← hedits, ← he]

/-! ## Whole runs -/

variable [DecidableEq σ]

theorem occur?_isSound {s t : Observation r key} {e : ObservationEvent r} {size : Nat}
    (h : s.occur? e = some t) (hs : s.IsSound size) : t.IsSound size := by
  cases e with
  | edit e =>
    simp only [occur?] at h
    split at h
    · next he =>
      cases h
      exact hs.edit he.1 ((Option.all_eq_true _ _).1 he.2)
    · cases h
  | touch e =>
    simp only [occur?] at h
    split at h
    · next c hc =>
      split at h
      · next he =>
        cases h
        exact hs.touch hc he.1 he.2.1 he.2.2
      · cases h
    · cases h
  | deliver place listed =>
    simp only [occur?] at h
    split at h
    · next c hc =>
      split at h
      · next he =>
        cases h
        exact hs.deliver (by cases listed <;> simp) hc he.1 (by simpa using he.2)
      · cases h
    · cases h
  | hear event =>
    simp only [occur?] at h
    split at h
    · next he =>
      cases h
      exact hs.hear he.1 (by simpa [Option.all_eq_true] using he.2)
    · cases h
  | signal =>
    simp only [occur?] at h
    split at h
    · next k announced ha =>
      obtain ⟨run, hrun, rfl⟩ := Option.map_eq_some_iff.1 h
      exact hs.signal ha hrun
    · cases h
  | pool e =>
    simp only [occur?] at h
    split at h
    · next ha =>
      obtain ⟨run, hrun, rfl⟩ := Option.map_eq_some_iff.1 h
      exact hs.step ha hrun
    · cases h
  | reply others =>
    simp only [occur?] at h
    split at h
    · next q next reading hf =>
      cases h
      exact hs.reply hf _
    · cases h
  | endPass w =>
    simp only [occur?] at h
    split at h
    · next result reading hf =>
      split at h
      · obtain ⟨run, hrun, rfl⟩ := Option.map_eq_some_iff.1 h
        exact hs.endPass hf hrun
      · cases h
    · cases h

theorem isSound_of_after? {s t : Observation r key} {es : List (ObservationEvent r)} {size : Nat}
    (h : s.after? es = some t) (hs : s.IsSound size) : t.IsSound size :=
  invariant_of_foldlM (P := (IsSound · size)) (fun _ _ _ h => occur?_isSound h) h hs

end Observation

/-- Whatever edits, events of the watch, signals, timers and passes follow one another: once the
watch told of the current generation of a cluster or a query, and its key is neither queued nor
being processed, the last pass over it read it after the last edit. -/
theorem latest_spec_observed (key : Key) (policy : BackoffPolicy) (size : Nat) :
    (∀ es s, (Observation.start Reconciler.clusters key policy size).after? es = some s →
      s.IsSettled → s.HasReadLatest) ∧
    ∀ settings es s, (Observation.start (Reconciler.queries settings) key policy size).after? es =
      some s → s.IsSettled → s.HasReadLatest :=
  ⟨fun _ _ h hs => (Observation.isSound_of_after? h (.start policy size)).hasReadLatest hs,
    fun _ _ _ h hs => (Observation.isSound_of_after? h (.start policy size)).hasReadLatest hs⟩

def clusterOf (generation : Int64) (image : String) : Cluster where
  metadata := { namespaceName := some "ns", name := some "demo", generation := some generation }
  spec := { image }

def refuseWrites : (q : ClusterRequest) → q.Reply
  | .entity .clock => ""
  | .entity (.fetch _) => .ok none
  | .entity (.publish _) => .error (.api "refused")
  | .child (.get _) | .child (.create _) | .child (.update _) | .child (.delete _) =>
    .error (.api "refused")

/-- A cluster is edited during a pass that has read it already and fails, and another pass
follows. -/
def editDuringPass : List (ObservationEvent Reconciler.clusters) :=
  [.edit (clusterOf 1 "a"), .deliver 0 true, .signal, .pool (.ask 0), .reply refuseWrites,
    .edit (clusterOf 2 "b"), .deliver 1 false, .signal, .reply refuseWrites, .reply refuseWrites,
    .endPass 0, .pool (.account 0), .pool (.schedule 0), .pool (.release 0), .pool (.ask 0),
    .reply refuseWrites, .reply refuseWrites, .reply refuseWrites, .endPass 0,
    .pool (.account 0), .pool (.schedule 0), .pool (.release 0)]

theorem latest_spec_observed_during_pass :
    ∃ s : Observation Reconciler.clusters ⟨"ns", "demo"⟩,
      (Observation.start Reconciler.clusters ⟨"ns", "demo"⟩ {} 1).after? editDuringPass = some s ∧
        s.edits = 2 ∧ s.IsSettled ∧ s.HasReadLatest := by
  refine ⟨_, rfl, rfl, ?_⟩
  have hs := (latest_spec_observed ⟨"ns", "demo"⟩ {} 1).1 editDuringPass _ rfl
  refine ⟨?settled, hs ?settled⟩
  refine ⟨rfl, ⟨_, List.mem_cons_self, _, rfl, rfl⟩, ?_, ?_, ?_⟩ <;> exact List.not_mem_nil

end ClusterOperator
