import Mzani.State.TerminalEvents

/-!
# Reports of a connection

What `handle_connection` records about a request that reaches
`proxy_with_retries`, and that it records nothing otherwise.
-/

namespace Mzani

open Support

section

variable {σ τ : Type} {context : WorkerContext} {around : Surroundings τ}
  {req : RequestContext}

theorem unproxied_respond (client : ClientSocket σ) (answer : Answer) :
    (client.respond answer).filterMap Effect.attempts? = [] := by
  unfold ClientSocket.respond
  split
  · rfl
  · split <;> rfl

theorem got_of_writeAll {client : ClientSocket σ} {bytes got : Bytes}
    (written : client.writeAll bytes = (.ok (), got)) :
    got = bytes := by
  unfold ClientSocket.writeAll at written
  split at written
  · cases written
    rfl
  · split at written
    · cases written
      rfl
    · cases written

theorem stats_afterDelivery (target : SocketAddr) (request : Request) (response : Bytes) :
    (WorkerContext.afterDelivery context around req target request response).filterMap
        Effect.stats? =
      [completeStats req target request.toBytes.length response (around.clock 0)] := by
  unfold WorkerContext.afterDelivery WorkerContext.complete
  dsimp only
  split <;> rfl

theorem unproxied_afterDelivery (target : SocketAddr) (request : Request)
    (response : Bytes) :
    (WorkerContext.afterDelivery context around req target request response).filterMap
      Effect.attempts? = [] := by
  unfold WorkerContext.afterDelivery WorkerContext.complete
  dsimp only
  split <;> rfl

end

section

variable {σ τ : Type} [Read σ] [Read τ]

/-- The client gets all of the response, and the end of it. -/
structure ClientSocket.Takes (client : ClientSocket σ) (response : Bytes) : Prop where
  written : (client.writeAll response).1 = .ok ()
  flushed : client.flush = .ok ()
  shut : client.shutdown = .ok ()

/-- What a call records. -/
inductive Reported (context : WorkerContext) (client : ClientSocket σ)
    (around : Surroundings τ) (req : RequestContext) : Handled → Prop where
  | unreached {handled : Handled} :
      (∀ target request result attempts,
        ¬context.Proxies client around target request result attempts) →
      handled.proxied = [] → handled.stats = [] →
      Reported context client around req handled
  | failed {handled : Handled} {target : SocketAddr} {request : Request}
      {error : MzaniError} {attempts : List Attempt} :
      context.Proxies client around target request (.error error) attempts →
      handled.proxied = [attempts] →
      handled.stats = [failedStats req target request.toBytes.length (around.clock 1)] →
      Reported context client around req handled
  | undelivered {handled : Handled} {target : SocketAddr} {request : Request}
      {response : Bytes} {attempts : List Attempt} :
      context.Proxies client around target request (.ok response) attempts →
      ¬client.Takes response → handled.result ≠ .ok () →
      handled.proxied = [attempts] → handled.stats = [] →
      Reported context client around req handled
  | completed {handled : Handled} {target : SocketAddr} {request : Request}
      {response : Bytes} {attempts : List Attempt} :
      context.Proxies client around target request (.ok response) attempts →
      client.Takes response → handled.result = .ok () →
      handled.proxied = [attempts] →
      handled.answers = [(.forwarded response, response)] →
      handled.stats =
        [completeStats req target request.toBytes.length response (around.clock 0)] →
      Reported context client around req handled

variable {context : WorkerContext} {client : ClientSocket σ} {around : Surroundings τ}
  {req : RequestContext} {handled : Handled}

theorem reported_of_ends (ends : WorkerContext.Ends context client around req handled) :
    Reported context client around req handled := by
  cases ends with
  | setTimeout failed =>
      refine .unreached ?_ rfl rfl
      intro target request result attempts proxies
      rw [proxies.selects.timeoutSet] at failed
      cases failed
  | noBackend timeoutSet none =>
      refine .unreached ?_ ?_ ?_
      · intro target request result attempts proxies
        rw [proxies.selects.selected] at none
        cases none
      · simp only [Handled.proxied, List.filterMap_append, unproxied_respond]
        rfl
      · simp only [Handled.stats, List.filterMap_append, (quiet_respond client _).stats]
        rfl
  | routing timeoutSet failed other =>
      refine .unreached ?_ rfl rfl
      intro target request result attempts proxies
      rw [proxies.selects.selected] at failed
      cases failed
  | bodyLimit selects tooLarge =>
      refine .unreached ?_ ?_ ?_
      · intro target request result attempts proxies
        rw [proxies.parsed] at tooLarge
        cases tooLarge
      · simp only [Handled.proxied, List.filterMap_append, unproxied_respond]
        rfl
      · simp only [Handled.stats, List.filterMap_append, (quiet_respond client _).stats]
        rfl
  | parse selects failed other =>
      refine .unreached ?_ rfl rfl
      intro target request result attempts proxies
      rw [proxies.parsed] at failed
      cases failed
  | proxy proxies => exact .failed proxies rfl rfl
  | clientWrite proxies broken =>
      refine .undelivered proxies ?_ ?_ rfl rfl
      · intro takes
        have written := takes.written
        rw [broken] at written
        cases written
      · simp
  | clientFlush proxies _ broken =>
      refine .undelivered proxies ?_ ?_ rfl rfl
      · intro takes
        have flushed := takes.flushed
        rw [broken] at flushed
        cases flushed
      · simp
  | clientShutdown proxies _ _ broken =>
      refine .undelivered proxies ?_ ?_ rfl rfl
      · intro takes
        have shut := takes.shut
        rw [broken] at shut
        cases shut
      · simp
  | complete proxies written flushed done =>
      refine .completed proxies ⟨?_, flushed, done⟩ rfl ?_ ?_ ?_
      · rw [written]
      · simp [Handled.proxied, WorkerContext.untilProxied, List.filterMap_cons,
          Effect.attempts?, unproxied_afterDelivery]
      · obtain rfl := got_of_writeAll written
        simp [Handled.answers, WorkerContext.untilProxied, List.filterMap_cons,
          Effect.answer?, unanswered_afterDelivery]
      · simp [Handled.stats, WorkerContext.untilProxied, List.filterMap_cons,
          Effect.stats?, stats_afterDelivery]

theorem handleConnection_reported :
    Reported context client around req (context.handleConnection client around req) :=
  reported_of_ends WorkerContext.handleConnection_ends

end

end Mzani
