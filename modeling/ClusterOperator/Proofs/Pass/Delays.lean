import ClusterOperator.Controller.Platform
import ClusterOperator.Proofs.Pass.Account
import ClusterOperator.Proofs.Queue.Retries

/-!
# Passes are paced

Whatever the settings are and whatever a spec asks for, no pass is repeated at once: each setting is
raised to its floor before it is used, so every delay that a worker hands to the queue is longer
than nothing.

* `RequeueSettings.shortestSecs`, `RequeueSettings.firstMillis` : the two floors;
* `RequeueSettings.Refreshes` : a delay is as a spec asks for, but no shorter than the floor;
  `RequeueSettings.refreshes_interval`, so are the intervals of all specs;
* `RequeueSettings.nanos_le_delayFor` : back-off delays are no shorter than their floor;
* `Paced` : outcomes that ask for another pass after certain delays only;
  `reconcileCluster_paced`, `reconcileQuery_paced`, how passes end, the latter with delays of
  `RequeueSettings.Follows`;
* `RequeueSettings.IsOutcome` : what passes tell the queue;
* `PoolRun.IsPaced` : a pool of such passes, `PoolRun.isPaced_of_after?`;
* `passes_paced` : all of this; `passes_paced_unset`, with all settings at zero.
-/

namespace ClusterOperator

open Dialogue

/-! ## Floors -/

namespace RequeueSettings

/-- The shortest interval between refreshes in seconds: the one that is set, but a second at
least. -/
def shortestSecs (s : RequeueSettings) : Nat :=
  max s.minRefreshSecs.toNat 1

def firstMillis (s : RequeueSettings) : Nat :=
  max s.retryBaseMillis.toNat 1

variable (s : RequeueSettings)

theorem nanos_shortest : s.refresh.shortest.nanos = s.shortestSecs * nanosPerSec := by
  show (max s.minRefreshSecs 1).toNat * nanosPerSec = _
  rw [UInt64.toNat_max]
  rfl

theorem shortest_le_default : s.refresh.shortest ≤ s.refresh.default := by
  rw [Duration.le_def]
  show _ ≤ (max (Duration.ofSecs s.defaultRefreshSecs) s.refresh.shortest).nanos
  rw [Duration.nanos_max]
  omega

theorem nanos_base : s.backoff.base.nanos = s.firstMillis * nanosPerMilli := by
  show (max s.retryBaseMillis 1).toNat * nanosPerMilli = _
  rw [UInt64.toNat_max]
  rfl

theorem base_le_longest : s.backoff.base ≤ s.backoff.longest := by
  rw [Duration.le_def]
  show _ ≤ (max (Duration.ofSecs s.retryMaxSecs) s.backoff.base).nanos
  rw [Duration.nanos_max]
  omega

/-! ## Intervals -/

/-- A delay is no shorter than the floor, and as a spec asks for wherever that is no shorter. -/
structure Refreshes (spec : QuerySpec) (delay : Duration) : Prop where
  floor : s.shortestSecs * nanosPerSec ≤ delay.nanos
  asked : ∀ secs : Int32, spec.refreshInterval = some secs → 0 < secs →
    (s.shortestSecs : Int) ≤ secs.toInt → (delay.nanos : Int) = secs.toInt * nanosPerSec

theorem nanos_interval {spec : QuerySpec} {secs : Int32} (h : spec.refreshInterval = some secs)
    (hpos : 0 < secs) : (spec.interval s.refresh).nanos =
      max (secs.toInt.toNat * nanosPerSec) (s.shortestSecs * nanosPerSec) := by
  have hword : (UInt64.ofNat secs.toInt.toNat).toNat = secs.toInt.toNat := by
    apply UInt64.toNat_ofNat_of_lt'
    have := secs.toInt_lt
    show _ < 18446744073709551616
    omega
  unfold QuerySpec.interval
  rw [h]
  show (if 0 < secs then max (Duration.ofSecs (UInt64.ofNat secs.toInt.toNat)) s.refresh.shortest
    else s.refresh.default).nanos = _
  rw [if_pos hpos, Duration.nanos_max, Duration.nanos_ofSecs, hword, nanos_shortest]

theorem interval_eq_default {spec : QuerySpec}
    (h : ∀ secs, spec.refreshInterval = some secs → ¬0 < secs) :
    spec.interval s.refresh = s.refresh.default := by
  unfold QuerySpec.interval
  split
  · next secs hsecs => rw [if_neg (h secs hsecs)]
  · rfl

theorem refreshes_interval (spec : QuerySpec) : s.Refreshes spec (spec.interval s.refresh) := by
  constructor
  · by_cases hasks : ∃ secs, spec.refreshInterval = some secs ∧ 0 < secs
    · obtain ⟨secs, hsecs, hpos⟩ := hasks
      rw [s.nanos_interval hsecs hpos]
      omega
    · rw [s.interval_eq_default fun secs hsecs hpos => hasks ⟨secs, hsecs, hpos⟩, ← nanos_shortest]
      exact s.shortest_le_default
  · intro secs hsecs hpos hfloor
    have hsign := Int32.lt_iff_toInt_lt.1 hpos
    rw [s.nanos_interval hsecs hpos, nanosPerSec]
    rw [show (0 : Int32).toInt = 0 from rfl] at hsign
    omega

/-! ## Back-off -/

theorem nanos_le_delayFor (n : Nat) :
    s.firstMillis * nanosPerMilli ≤ (s.backoff.delayFor n).nanos := by
  have hlongest := Duration.le_def.1 s.base_le_longest
  have hpow : 1 ≤ Nat.pow 2 (min (n - 1) BackoffPolicy.maxDoublings) := Nat.pow_pos (by decide)
  have hgrown := Nat.mul_le_mul_left s.backoff.base.nanos hpow
  rw [Nat.mul_one] at hgrown
  rw [BackoffPolicy.nanos_delayFor, ← nanos_base]
  omega

end RequeueSettings

/-! ## How passes end -/

/-- An outcome that asks for another pass after delays of a kind only, or with back-off. None asks
for one at once. -/
inductive Paced (Delay : Duration → Prop) : Except Retry Requeue → Prop where
  | settled : Paced Delay (.ok .awaitChange)
  | refused : Paced Delay (.error .awaitChange)
  | refreshed {delay : Duration} (h : Delay delay) : Paced Delay (.ok (.after delay))
  | failed {delay : Duration} (h : Delay delay) : Paced Delay (.error (.after delay))
  | backsOff : Paced Delay (.error .backoff)

theorem Paced.mono {Delay Delay' : Duration → Prop} {outcome : Except Retry Requeue}
    (h : Paced Delay outcome) (himp : ∀ d, Delay d → Delay' d) : Paced Delay' outcome := by
  cases h with
  | settled => exact .settled
  | refused => exact .refused
  | refreshed hd => exact .refreshed (himp _ hd)
  | failed hd => exact .failed (himp _ hd)
  | backsOff => exact .backsOff

theorem Account.paced {σ τ : Type} [Managed σ τ] {key : Key} {seed : Entity σ τ → String → τ}
    {Reports : Entity σ τ → τ → Except PassError Requeue → Prop}
    {Keeps : Entity σ τ → Except PassError Requeue → Prop} {calls : List (EntityCall σ τ)}
    {result : Except PassError Requeue} {Delay : Duration → Prop}
    (h : Account key seed Reports Keeps calls (some result))
    (hreports : ∀ starts copy status, Starts key seed starts copy → starts <+: calls →
      Reports copy status result → Paced Delay (passOutcome result))
    (hkeeps : ∀ copy, Keeps copy result → Paced Delay (passOutcome result)) :
    Paced Delay (passOutcome result) := by
  cases h with
  | unfetched => exact .backsOff
  | leftAlone => exact .settled
  | unseeded => exact .backsOff
  | reported hstarts hreport => exact hreports _ _ _ hstarts (List.prefix_append _ _) hreport
  | unreported => exact .backsOff
  | kept _ hkeep => exact hkeeps _ hkeep

theorem ClusterReport.paced {calls : List ChildExchange} {c : Cluster} {status : ClusterStatus}
    {result : Except PassError Requeue} (h : ClusterReport calls c status result) :
    Paced (fun _ => False) (passOutcome result) := by
  cases h with
  | refused => exact .refused
  | failed => exact .backsOff
  | ready => exact .settled

theorem QueryReport.paced {settings : RefreshSettings} {calls : List LookupExchange} {q : Query}
    {status : QueryStatus} {result : Except PassError Requeue}
    (h : QueryReport settings calls q status result) :
    Paced (· = q.spec.interval settings) (passOutcome result) := by
  cases h with
  | refused => exact .refused
  | failed => exact .failed rfl
  | answered => exact .refreshed rfl

theorem reconcileCluster_paced {key : Key} {t : List ClusterExchange}
    {result : Except PassError Requeue} (h : (reconcileCluster key).Reaches t (.finish result)) :
    Paced (fun _ => False) (passOutcome result) := by
  refine (reconcileCluster_account h).paced (fun _ _ _ _ _ hreport => hreport.paced) ?_
  rintro copy ⟨status, hreport, -⟩
  exact hreport.paced

/-- A delay is as the copy asks for that a pass with these calls works on. -/
def RequeueSettings.Follows (s : RequeueSettings) (key : Key)
    (calls : List (EntityCall QuerySpec QueryStatus)) (delay : Duration) : Prop :=
  ∃ starts copy, Starts key Query.seed starts copy ∧ starts <+: calls ∧
    s.Refreshes copy.spec delay

theorem reconcileQuery_paced (s : RequeueSettings) {key : Key} {t : List QueryExchange}
    {result : Except PassError Requeue}
    (h : (reconcileQuery s.refresh key).Reaches t (.finish result)) :
    Paced (s.Follows key (t.filterMap QueryExchange.call?)) (passOutcome result) := by
  refine (reconcileQuery_account h).paced (fun starts copy _ hstarts hprefix hreport => ?_)
    fun _ hkeep => hkeep.elim
  apply hreport.paced.mono
  rintro _ rfl
  exact ⟨starts, copy, hstarts, hprefix, s.refreshes_interval copy.spec⟩

/-! ## What the queue is asked for -/

inductive RequeueSettings.IsOutcome (s : RequeueSettings) : Except Retry Requeue → Prop where
  | cluster {key : Key} {t : List ClusterExchange} {result : Except PassError Requeue}
      (h : (reconcileCluster key).Reaches t (.finish result)) : s.IsOutcome (passOutcome result)
  | query {key : Key} {t : List QueryExchange} {result : Except PassError Requeue}
      (h : (reconcileQuery s.refresh key).Reaches t (.finish result)) :
      s.IsOutcome (passOutcome result)

namespace RequeueSettings

variable {s : RequeueSettings}

theorem shortestSecs_pos (s : RequeueSettings) : 0 < s.shortestSecs :=
  Nat.le_max_right _ _

theorem firstMillis_pos (s : RequeueSettings) : 0 < s.firstMillis :=
  Nat.le_max_right _ _

theorem Refreshes.pos {spec : QuerySpec} {delay : Duration} (h : s.Refreshes spec delay) :
    0 < delay.nanos :=
  Nat.lt_of_lt_of_le (Nat.mul_pos s.shortestSecs_pos (by decide)) h.floor

theorem delayFor_pos (s : RequeueSettings) (n : Nat) : 0 < (s.backoff.delayFor n).nanos :=
  Nat.lt_of_lt_of_le (Nat.mul_pos s.firstMillis_pos (by decide)) (s.nanos_le_delayFor n)

theorem IsOutcome.paced {outcome : Except Retry Requeue} (h : s.IsOutcome outcome) :
    Paced (0 < ·.nanos) outcome := by
  cases h with
  | cluster h => exact (reconcileCluster_paced h).mono fun _ hfalse => hfalse.elim
  | query h =>
    apply (reconcileQuery_paced s h).mono
    rintro delay ⟨_, _, _, _, hrefreshes⟩
    exact hrefreshes.pos

/-- What a paced outcome asks a queue for is longer than nothing. -/
theorem pos_of_asks {κ : Type} [DecidableEq κ] {q : WorkQueue κ} {k : κ}
    {outcome : Except Retry Requeue} {delay : Duration} (hpolicy : q.policy = s.backoff)
    (hpaced : Paced (0 < ·.nanos) outcome) (h : q.Asks k outcome delay) : 0 < delay.nanos := by
  cases h with
  | immediate => cases hpaced
  | requeue =>
    cases hpaced with
    | refreshed hpos => exact hpos
  | retry =>
    cases hpaced with
    | failed hpos => exact hpos
  | backoff =>
    rw [hpolicy]
    exact s.delayFor_pos _

end RequeueSettings

/-! ## Runs of the pool -/

/-- What a worker is told or hands on asks for delays that are longer than nothing. -/
def Worker.IsPaced {κ : Type} : Worker κ → Prop
  | .returned _ outcome => Paced (0 < ·.nanos) outcome
  | .accounted _ delay? => ∀ delay ∈ delay?, 0 < delay.nanos
  | _ => True

namespace PoolRun

variable {κ : Type} {s : RequeueSettings} {p q : PoolRun κ}

/-- Failures are backed off as these settings say, and the workers are paced. -/
structure IsPaced (s : RequeueSettings) (p : PoolRun κ) : Prop where
  policy : p.queue.policy = s.backoff
  workers : ∀ x ∈ p.workers, x.IsPaced

theorem IsPaced.start (s : RequeueSettings) (size : Nat) :
    (start s.backoff size : PoolRun κ).IsPaced s where
  policy := rfl
  workers := by
    intro x hx
    rw [List.eq_of_mem_replicate hx]
    trivial

theorem IsPaced.set (hp : p.IsPaced s) {r : QueueRun κ} (w : Nat) {y : Worker κ}
    (hpolicy : r.queue.policy = p.queue.policy) (hy : y.IsPaced) :
    IsPaced s ⟨r, p.workers.set w y⟩ where
  policy := hpolicy.trans hp.policy
  workers := by
    intro x hx
    rcases List.mem_or_eq_of_mem_set hx with hold | rfl
    · exact hp.workers x hold
    · exact hy

variable [DecidableEq κ]

theorem isPaced_of_account {w : Nat} (h : p.occur? (.account w) = some q) (hp : p.IsPaced s)
    {k : κ} {outcome : Except Retry Requeue}
    (hw : p.workers[w]? = some (.returned k outcome)) : q.IsPaced s := by
  rw [occur?_account hw] at h
  cases h
  obtain ⟨failures, haccount, -⟩ := p.queue.account_eq k outcome
  have hpaced : Paced (0 < ·.nanos) outcome := hp.workers _ (List.mem_of_getElem? hw)
  refine hp.set w (by rw [haccount]) ?_
  intro delay hdelay
  exact RequeueSettings.pos_of_asks hp.policy hpaced (WorkQueue.askedDelay?_account.1 hdelay)

-- the failures of any one key tell that no other event changes the policy
variable [Inhabited κ]

theorem policy_of_occur? {r t : QueueRun κ} {e : QueueEvent κ} (h : r.occur? e = some t) :
    t.queue.policy = r.queue.policy := by
  cases e with
  | countFailure k | forget k =>
    cases h
    rfl
  | _ => exact (QueueRun.failures_of_occur? (k := default) h nofun).1

/-- An event keeps the pool paced if the pass that it ends is one under these settings. -/
theorem isPaced_of_occur? {e : PoolEvent κ} (h : p.occur? e = some q)
    (he : ∀ w outcome, e = .endPass w (.returned outcome) → s.IsOutcome outcome)
    (hp : p.IsPaced s) : q.IsPaced s := by
  cases occur?_step h with
  | outside _ hq | waits _ hq => exact ⟨(policy_of_occur? hq).trans hp.policy, hp.workers⟩
  | got _ hq | stops _ hq => exact hp.set _ (policy_of_occur? hq) trivial
  | returns => exact hp.set _ rfl (he _ _ rfl).paced
  | crashes | overruns => exact hp.set _ rfl trivial
  | accounts hw => exact isPaced_of_account h hp hw
  | @schedules r w k delay es hw hes hq =>
    refine hp.set w (QueueRun.failures_of_after? (k := k) hq fun f hf => ?_).1 trivial
    obtain ⟨d, -, rfl⟩ := hes f hf
    exact nofun
  | @releases w k hw =>
    obtain ⟨_, _, hdone⟩ := p.queue.done_eq k
    exact hp.set w (by rw [hdone]) trivial

theorem isPaced_of_after? {es : List (PoolEvent κ)} (h : p.after? es = some q)
    (hes : ∀ w outcome, .endPass w (.returned outcome) ∈ es → s.IsOutcome outcome)
    (hp : p.IsPaced s) : q.IsPaced s := by
  induction es generalizing p with
  | nil =>
    cases h
    exact hp
  | cons e es ih =>
    obtain ⟨r, hr, hrest⟩ := after?_cons.1 h
    apply ih hrest fun w outcome hmem => hes w outcome (List.mem_cons_of_mem e hmem)
    exact isPaced_of_occur? hr (fun w outcome he => hes w outcome (by simp [he])) hp

end PoolRun

/-- No pass is to be repeated at once, whatever the settings are. A pass over a cluster asks for no
delay; one over a query asks for the interval of the copy that it works on, which is no shorter than
the floor of the settings and as the spec says where that is no shorter. Back-off delays lie between
their floor and the longest. So no worker adds a key after no delay. -/
theorem passes_paced (s : RequeueSettings) :
    (∀ key t result, (reconcileCluster key).Reaches t (.finish result) →
      Paced (fun _ => False) (passOutcome result)) ∧
    (∀ key t result, (reconcileQuery s.refresh key).Reaches t (.finish result) →
      Paced (s.Follows key (t.filterMap QueryExchange.call?)) (passOutcome result)) ∧
    (∀ spec, s.Refreshes spec (spec.interval s.refresh)) ∧
    (∀ failures, s.firstMillis * nanosPerMilli ≤ (s.backoff.delayFor failures).nanos ∧
      s.backoff.delayFor failures ≤ s.backoff.longest) ∧
    s.backoff.base ≤ s.backoff.longest ∧
    ∀ size es (p : PoolRun Key), (PoolRun.start s.backoff size).after? es = some p →
      (∀ w outcome, .endPass w (.returned outcome) ∈ es → s.IsOutcome outcome) →
      ∀ (w : Nat) k delay, p.workers[w]? = some (.accounted k (some delay)) →
        0 < delay.nanos := by
  refine ⟨fun _ _ _ => reconcileCluster_paced, fun _ _ _ => reconcileQuery_paced s,
    s.refreshes_interval, fun n => ⟨s.nanos_le_delayFor n, s.backoff.delayFor_le_longest n⟩,
    s.base_le_longest, ?_⟩
  intro size es p h hes w k delay hw
  have hp : p.IsPaced s := PoolRun.isPaced_of_after? h hes (.start s size)
  exact hp.workers _ (List.mem_of_getElem? hw) delay rfl

def hurriedQuery : Query where
  metadata := { name := some "demo", namespaceName := some "ns" }
  spec := { apiEndpoint := "http://a", query := .clusters, refreshInterval := some 1 }

/-- The store knows the query, and the inventory service is not reached. -/
def unreached : (q : QueryRequest) → Unit → q.Reply × Unit
  | .entity .clock, _ => ("t", ())
  | .entity (.fetch _), _ => (.ok (some hurriedQuery), ())
  | .entity (.publish q), _ => (.ok q, ())
  | .lookup (.connect _), _ => (.error (.transport "unreached"), ())
  | .lookup (.find _ _), _ => (.ok none, ())
  | .lookup (.list _), _ => (.ok [], ())

/-- All settings are zero. A query that could not be asked is asked again after a second, and a
cluster that could not be read is read again after a millisecond. -/
theorem passes_paced_unset :
    ∃ s : RequeueSettings, s = ⟨0, 0, 0, 0⟩ ∧
    (∃ t result, (reconcileQuery s.refresh hurriedQuery.key).Reaches t (.finish result) ∧
      passOutcome result = .error (.after (.ofSecs 1)) ∧
      Paced (s.Follows hurriedQuery.key (t.filterMap QueryExchange.call?)) (passOutcome result)) ∧
    ∃ t result, (reconcileCluster default).Reaches t (.finish result) ∧
      Paced (fun _ => False) (passOutcome result) ∧
      ∃ p : PoolRun Key, (PoolRun.start s.backoff 1).after? [.outside (.add default), .ask 0,
          .endPass 0 (.returned (passOutcome result)), .account 0] = some p ∧
        p.workers[0]? = some (.accounted default (some (.ofMillis 1))) ∧
        0 < (Duration.ofMillis 1).nanos := by
  obtain ⟨hclusters, hqueries, -, -, -, hrun⟩ := passes_paced ⟨0, 0, 0, 0⟩
  refine ⟨_, rfl, ?_, ?_⟩
  · have hcourse := Reaches.transcript unreached
      (reconcileQuery (RequeueSettings.refresh ⟨0, 0, 0, 0⟩) hurriedQuery.key) ()
    exact ⟨_, _, hcourse, rfl, hqueries _ _ _ hcourse⟩
  · have hcourse : (reconcileCluster default).Reaches
        [⟨.entity (.fetch default), .error (.api "unreached")⟩]
        (.finish (.error (.fetch default (.api "unreached")))) := by
      unfold reconcileCluster
      exact .request_bind _ (.refl _)
    refine ⟨_, _, hcourse, hclusters _ _ _ hcourse, _, rfl, rfl, ?_⟩
    refine hrun 1 [.outside (.add default), .ask 0, .endPass 0 (.returned (.error .backoff)),
      .account 0] _ rfl (fun w outcome hmem => ?_) 0 default _ rfl
    obtain ⟨-, rfl⟩ : w = 0 ∧ outcome = .error .backoff := by simpa using hmem
    exact .cluster hcourse

end ClusterOperator
