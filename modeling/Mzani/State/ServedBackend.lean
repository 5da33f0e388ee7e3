import Mzani.State.Reports
import Mzani.State.Retries

/-!
# The backend in the metrics

The statistics of a completed request name the backend that was selected
first.  It is the one that served the request exactly as long as the attempt
that was answered was made there.
-/

namespace Mzani

open Support

/-- The response to the attempt was written to the client. -/
def Handled.forwards (handled : Handled) (made : Attempt) : Bool :=
  match made.result with
  | .ok response => (.forwarded response, response) ∈ handled.answers
  | .error _ => false

/-- The backend whose response was written to the client. -/
def Handled.servedBy (handled : Handled) : Option SocketAddr :=
  (handled.proxied.flatten.find? handled.forwards).map (·.target)

/-- The statistics of a completed request name the backend that served it. -/
def NamesServer (handled : Handled) : Prop :=
  ∀ stats ∈ handled.stats, stats.outcome = .ok → handled.servedBy = some stats.backend

section

variable {σ τ : Type} [Read σ] [Read τ]

/-- If a response reaches the client, the attempt that got it was made on the
backend that was selected first. -/
def ServedByFirst (context : WorkerContext) (client : ClientSocket σ)
    (around : Surroundings τ) : Prop :=
  ∀ target request attempt response, context.Selects client around target →
    (Request.fromStream context.limits client.stream).1 = .ok request →
    context.ServedBy around.network request.toBytes target attempt response →
    client.Takes response → around.network.target target attempt = target

variable {context : WorkerContext} {client : ClientSocket σ} {around : Surroundings τ}
  {req : RequestContext}

theorem find_forwards {handled : Handled} {network : Network τ} {bytes : Bytes}
    {firstTarget : SocketAddr} {retries : Context} {attempt : Nat} {response : Bytes}
    (served : retries.ServedBy network bytes firstTarget attempt response)
    (answers : handled.answers = [(.forwarded response, response)]) :
    ((List.range (attempt + 1)).map (retries.made network bytes firstTarget)).find?
        handled.forwards =
      some (retries.made network bytes firstTarget attempt) := by
  have earlier : ((List.range attempt).map (retries.made network bytes firstTarget)).find?
      handled.forwards = none := by
    rw [List.find?_eq_none]
    intro made member
    obtain ⟨before, inside, rfl⟩ := List.mem_map.mp member
    obtain ⟨error, failed⟩ := served.before before (List.mem_range.mp inside)
    simp [Handled.forwards, failed]
  have here : handled.forwards (retries.made network bytes firstTarget attempt) = true := by
    simp [Handled.forwards, served.answer, answers]
  rw [List.range_succ, List.map_append, List.find?_append, earlier]
  simp [here]

theorem target_attempt (retries : Context) (network : Network τ) (bytes : Bytes)
    (attempt : Nat) (target : SocketAddr) :
    (retries.attempt network bytes attempt target).target = target := by
  unfold Context.attempt proxyToBackend
  split
  · rfl
  · split
    · rfl
    · split <;> rfl

/-- A proxied request is served by the backend of the attempt that was answered. -/
theorem servedBy_of_proxies {handled : Handled} {target : SocketAddr} {request : Request}
    {response : Bytes} {attempts : List Attempt}
    (proxies : context.Proxies client around target request (.ok response) attempts)
    (proxied : handled.proxied = [attempts])
    (answers : handled.answers = [(.forwarded response, response)]) :
    ∃ attempt, context.ServedBy around.network request.toBytes target attempt response ∧
      handled.servedBy = some (around.network.target target attempt) := by
  obtain ⟨attempt, served, rfl⟩ := proxyWithRetries_ok proxies.proxied
  refine ⟨attempt, served, ?_⟩
  rw [Handled.servedBy, proxied, List.flatten_singleton, find_forwards served answers]
  exact congrArg some (target_attempt _ _ _ _ _)

/-- A served request is proxied. -/
theorem proxies_of_served {target : SocketAddr} {request : Request} {attempt : Nat}
    {response : Bytes} (selects : context.Selects client around target)
    (parsed : (Request.fromStream context.limits client.stream).1 = .ok request)
    (served : context.ServedBy around.network request.toBytes target attempt response) :
    ∃ attempts, context.Proxies client around target request (.ok response) attempts :=
  ⟨_, selects, parsed, Prod.ext (proxyWithRetries_of_served served) rfl⟩

/-- The metrics of a call name its server exactly if the attempt that was
answered was made on the backend that was selected first. -/
theorem namesServer_of_reported {handled : Handled}
    (reported : Reported context client around req handled) :
    NamesServer handled ↔ ServedByFirst context client around := by
  cases reported with
  | unreached unproxied proxied stats =>
      apply iff_of_true
      · rw [NamesServer, stats]
        simp
      · intro target request attempt response selects parsed
        exact absurd ⟨selects, parsed, rfl⟩ (unproxied target request _ _)
  | failed proxies proxied stats =>
      apply iff_of_true
      · rw [NamesServer, stats]
        simp [failedStats]
      · intro target request attempt response selects parsed served
        obtain ⟨_, others⟩ := proxies_of_served selects parsed served
        cases (proxies.unique others).2.2.1
  | undelivered proxies untaken failed proxied stats =>
      apply iff_of_true
      · rw [NamesServer, stats]
        simp
      · intro target request attempt response selects parsed served takes
        obtain ⟨_, others⟩ := proxies_of_served selects parsed served
        cases (proxies.unique others).2.2.1
        exact absurd takes untaken
  | @completed target request response _ proxies takes _ proxied answers stats =>
      obtain ⟨attempt, served, servedBy⟩ := servedBy_of_proxies proxies proxied answers
      constructor
      · intro names other second later more selects parsed others _
        obtain ⟨_, again⟩ := proxies_of_served selects parsed others
        obtain ⟨rfl, rfl, same, _⟩ := proxies.unique again
        obtain ⟨rfl, _⟩ := served.unique others
        have named := names _ (by rw [stats]; exact List.mem_singleton_self _) rfl
        rw [servedBy, Option.some.injEq] at named
        exact named
      · intro first reported member _
        rw [stats] at member
        obtain rfl := List.mem_singleton.mp member
        rw [servedBy]
        apply congrArg some
        exact first target request attempt response proxies.selects proxies.parsed served
          takes

/-- The call recorded a response that this backend served. -/
def Handled.recordedFrom (handled : Handled) (addr : SocketAddr) : Bool :=
  (handled.stats.any fun stats => stats.outcome = .ok) && handled.servedBy = some addr

theorem completedBy_stats {handled : Handled} (addr : SocketAddr)
    (reported : Reported context client around req handled) (names : NamesServer handled) :
    Metrics.completedBy addr handled.stats =
      if handled.recordedFrom addr = true then 1 else 0 := by
  cases reported with
  | unreached unproxied proxied stats =>
      simp [Handled.recordedFrom, Metrics.completedBy, stats]
  | failed proxies proxied stats =>
      simp [Handled.recordedFrom, Metrics.completedBy, stats, failedStats]
  | undelivered proxies untaken failed proxied stats =>
      simp [Handled.recordedFrom, Metrics.completedBy, stats]
  | @completed target request response _ proxies takes _ proxied answers stats =>
      have served : handled.servedBy = some target :=
        names _ (by rw [stats]; exact List.mem_singleton_self _) rfl
      simp [Handled.recordedFrom, Metrics.completedBy, stats, served, completeStats,
        List.countP_cons]

end

/-- One call of `handle_connection`. -/
structure Call (σ τ : Type) where
  client : ClientSocket σ
  around : Surroundings τ
  req : RequestContext

section

variable {σ τ : Type} [Read σ] [Read τ]

def Call.handled (call : Call σ τ) (context : WorkerContext) : Handled :=
  context.handleConnection call.client call.around call.req

/-- The statistics of some calls, in the order of the calls. -/
def statsOf (context : WorkerContext) (calls : List (Call σ τ)) : List RequestStats :=
  calls.flatMap fun call => (call.handled context).stats

theorem completedBy_statsOf {context : WorkerContext} {calls : List (Call σ τ)}
    (addr : SocketAddr)
    (names : ∀ call ∈ calls, NamesServer (call.handled context)) :
    Metrics.completedBy addr (statsOf context calls) =
      calls.countP fun call => (call.handled context).recordedFrom addr := by
  induction calls with
  | nil => rfl
  | cons call calls ih =>
      have rest := ih fun other member => names other (List.mem_cons_of_mem _ member)
      have reported : Reported context call.client call.around call.req
          (call.handled context) := handleConnection_reported
      have here := completedBy_stats addr reported (names call List.mem_cons_self)
      unfold Metrics.completedBy at here rest ⊢
      rw [statsOf, List.flatMap_cons, List.countP_append, ← statsOf, rest,
        List.countP_cons]
      exact (congrArg (· + _) here).trans (Nat.add_comm _ _)

/-- The metrics of a call name its server exactly if the attempt that was
answered was made on the backend that was selected first, and of calls that are
all like that the counters of a backend give the responses that it served. -/
theorem handleConnection_namesServer_iff (context : WorkerContext) :
    (∀ (client : ClientSocket σ) (around : Surroundings τ) (req : RequestContext),
      NamesServer (context.handleConnection client around req) ↔
        ServedByFirst context client around) ∧
    ∀ (calls : List (Call σ τ)) (arrived : List RequestStats),
      (∀ call ∈ calls, ServedByFirst context call.client call.around) →
      arrived.Perm (statsOf context calls) →
      ∀ addr, ((Metrics.default.recordAll arrived).backend addr).requests -
          ((Metrics.default.recordAll arrived).backend addr).errors =
        Fin.ofNat u64Limit
          (calls.countP fun call => (call.handled context).recordedFrom addr) := by
  constructor
  · intro client around req
    exact namesServer_of_reported handleConnection_reported
  · intro calls arrived first arrives addr
    have names : ∀ call ∈ calls, NamesServer (call.handled context) := by
      intro call member
      exact (namesServer_of_reported handleConnection_reported).mpr (first call member)
    rw [Metrics.requests_sub_errors, ← completedBy_statsOf addr names]
    unfold Metrics.completedBy
    rw [arrives.countP_eq]

end

/-- The only healthy backend refuses once, then it answers. -/
def recovering : Surroundings (List Item) where
  selected := (BackendSet.new BackendSet.pair.backends).selectNext.1
  network :=
    { connect := fun attempt target =>
        if attempt = 0 then .error ⟨.other, "connection refused"⟩
        else slowFirst.connect attempt target
      selectBackend := fun _ => .error .noHealthyBackend }
  clock := fun _ => 1000000

theorem servedByFirst_recovering (client : ClientSocket (List Item)) :
    ServedByFirst frontContext client recovering := by
  have stays : ∀ target attempt, recovering.network.target target attempt = target := by
    intro target attempt
    induction attempt with
    | zero => rfl
    | succ attempt ih => exact ih
  intro target request attempt response _ _ _ _
  exact stays target attempt

set_option maxRecDepth 4000 in
theorem handleConnection_namesServer_recovering :
    statsOf frontContext [⟨sender payment, recovering, ⟨1, 0⟩⟩] =
        [completeStats ⟨1, 0⟩ (.v4 localhost 9000) payment.length
          (toUtf8 "HTTP/1.1 204 No Content\r\n\r\n".toList) 1000000] ∧
      ((Metrics.default.recordAll
          (statsOf frontContext [⟨sender payment, recovering, ⟨1, 0⟩⟩])).backend
            (.v4 localhost 9000)).requests -
        ((Metrics.default.recordAll
          (statsOf frontContext [⟨sender payment, recovering, ⟨1, 0⟩⟩])).backend
            (.v4 localhost 9000)).errors =
        Fin.ofNat u64Limit
          (([⟨sender payment, recovering, ⟨1, 0⟩⟩] : List (Call _ _)).countP fun call =>
            (call.handled frontContext).recordedFrom (.v4 localhost 9000)) := by
  refine ⟨by decide +kernel, ?_⟩
  apply (handleConnection_namesServer_iff frontContext).2 _ _ _ (List.Perm.refl _)
  intro call member
  obtain rfl := List.mem_singleton.mp member
  exact servedByFirst_recovering _

set_option maxRecDepth 4000 in
/-- After a failover the response of the second backend is counted for the
first. -/
theorem failover_misnamed :
    ¬NamesServer (frontContext.handleConnection (sender payment) failover ⟨1, 0⟩) ∧
      (frontContext.handleConnection (sender payment) failover ⟨1, 0⟩).servedBy =
        some (.v4 localhost 9001) ∧
      (Metrics.default.recordAll
        (statsOf frontContext [⟨sender payment, failover, ⟨1, 0⟩⟩])).backend
          (.v4 localhost 9000) = { requests := 1, errors := 0 } := by
  have served : (frontContext.handleConnection (sender payment) failover ⟨1, 0⟩).servedBy =
      some (.v4 localhost 9001) := by
    decide +kernel
  have named : (frontContext.handleConnection (sender payment) failover ⟨1, 0⟩).stats.map
      (fun stats => (stats.outcome, stats.backend)) = [(.ok, .v4 localhost 9000)] := by
    decide +kernel
  refine ⟨?_, served, by decide +kernel⟩
  intro names
  obtain ⟨stats, member, rest⟩ := List.mem_map.mp
    (named ▸ List.mem_singleton_self (RequestOutcome.ok, SocketAddr.v4 localhost 9000))
  obtain ⟨outcome, backend⟩ := Prod.mk.inj rest
  have same := names stats member outcome
  rw [served, backend] at same
  exact absurd same (by decide +kernel)

end Mzani
