import Mzani.State.ConnectionTask

/-!
# How long a call is

A call of `handle_connection` is over after so many steps, whatever it meets and
whatever backends it is told.
-/

namespace Mzani

open Support

namespace Task

/-- The call returns after so many steps at most. -/
inductive Within : Nat → Task → Prop where
  | done (steps : Nat) (result : MzaniResult Unit) : Within steps (.done result)
  | perform {steps : Nat} {rest : Task} (effect : Effect) :
      Within steps rest → Within (steps + 1) (.perform effect rest)
  | select {steps : Nat} {rest : MzaniResult SocketAddr → Task} :
      (∀ result, Within steps (rest result)) → Within (steps + 1) (.select rest)

variable {steps : Nat} {task rest : Task}

theorem within_performAll {effects : List Effect} (within : rest.Within steps) :
    (performAll effects rest).Within (steps + effects.length) := by
  induction effects with
  | nil => exact within
  | cons effect effects ih => exact .perform effect ih

theorem within_ofHandled {handled : Handled} (few : handled.effects.length ≤ steps) :
    (ofHandled handled).Within steps := by
  obtain ⟨more, rfl⟩ := Nat.exists_eq_add_of_le' few
  exact within_performAll (.done more handled.result)

end Task

section

variable {σ τ : Type} {context : WorkerContext} {req : RequestContext}

theorem length_complete_le (clock : Nat → Duration) (target : SocketAddr) (requestLen : Nat)
    (response : Bytes) :
    (context.complete clock req target requestLen response).effects.length ≤ 3 := by
  unfold WorkerContext.complete
  dsimp only
  split
  · exact le_rfl
  · exact Nat.le_succ 2

theorem length_deliver_le (client : ClientSocket σ) (clock : Nat → Duration) (target : SocketAddr)
    (requestLen : Nat) (response : Bytes) :
    (context.deliver client clock req target requestLen response).effects.length ≤ 5 := by
  unfold WorkerContext.deliver
  dsimp only
  split
  · exact Nat.le_add_left 2 3
  · split
    · exact Nat.le_add_left 2 3
    · split
      · exact Nat.le_add_left 3 2
      · rw [Handled.after, List.length_append]
        have completed := @length_complete_le context req clock target requestLen response
        exact Nat.add_le_add_left completed 2

theorem length_conclude_le (client : ClientSocket σ) (clock : Nat → Duration)
    (target : SocketAddr) (requestLen : Nat) (result : MzaniResult Bytes)
    (attempts : List Attempt) :
    (context.conclude req client clock target requestLen result attempts).effects.length ≤ 6 := by
  unfold WorkerContext.conclude
  rw [Handled.after, List.length_append]
  apply Nat.add_le_add_left (m := 5) (k := 1)
  split
  · exact Nat.le_add_left 2 3
  · exact length_deliver_le client clock target requestLen _

theorem length_respond_le (client : ClientSocket σ) (answer : Answer) :
    (client.respond answer).length ≤ 2 := by
  unfold ClientSocket.respond
  split
  · exact Nat.le_succ 1
  · split
    · exact Nat.le_succ 1
    · exact le_rfl

variable [Read τ]

/-- A round asks for at most one more backend. -/
theorem within_retryTask (context : Context)
    (connect : Nat → SocketAddr → Except IoError (Connection τ)) (bytes : Bytes)
    {steps : Nat} (attempts : Nat) {conclude : MzaniResult Bytes → List Attempt → Handled}
    (concluded : ∀ result made, (conclude result made).effects.length ≤ steps)
    (left attempt : Nat) (target : SocketAddr) (lastError : Option MzaniError)
    (made : List Attempt) :
    (context.retryTask connect bytes attempts conclude left attempt target lastError made).Within
      (steps + left) := by
  induction left generalizing attempt target lastError made with
  | zero => exact Task.within_ofHandled (concluded _ _)
  | succ left ih =>
      rw [Context.retryTask]
      split
      · exact Task.within_ofHandled ((concluded _ _).trans (Nat.le_add_right _ _))
      · split
        · exact Task.within_ofHandled ((concluded _ _).trans (Nat.le_add_right _ _))
        · exact .select fun selected => ih _ _ _ _

/-- The steps of a call at most: one selection for each attempt, and those around
the attempts. -/
def WorkerContext.callSteps (context : WorkerContext) : Nat :=
  (saturatingSucc context.maxBackendRetries).val + 11

theorem within_forwardTask (meets : Meets σ τ) (target : SocketAddr) (request : Request) :
    (context.forwardTask req meets target request).Within
      ((saturatingSucc context.maxBackendRetries).val + 8) := by
  let conclude := context.conclude req meets.client meets.clock target request.toBytes.length
  have concluded : ∀ result made, (conclude result made).effects.length ≤ 6 := fun _ _ =>
    length_conclude_le _ _ _ _ _ _
  have retried := within_retryTask context.toContext meets.connect request.toBytes
    (saturatingSucc context.maxBackendRetries).val concluded
    (saturatingSucc context.maxBackendRetries).val 0 target none []
  rw [Nat.add_comm] at retried
  exact .perform _ (.perform _ retried)

variable [Read σ]

theorem within_serveTask (meets : Meets σ τ) (target : SocketAddr) :
    (context.serveTask req meets target).Within
      ((saturatingSucc context.maxBackendRetries).val + 9) := by
  apply Task.Within.perform
  split
  case h_1 request parsed => exact within_forwardTask meets target request
  case h_2 =>
      apply Task.within_ofHandled
      have responded := length_respond_le meets.client .payloadTooLarge
      rw [List.length_append, List.length_singleton]
      omega
  case h_3 => exact Task.within_ofHandled (Nat.le_add_left 1 _)

/-- A call is over after `callSteps` steps. -/
theorem within_handleTask (meets : Meets σ τ) :
    (context.handleTask req meets).Within context.callSteps := by
  unfold WorkerContext.handleTask WorkerContext.callSteps
  split
  case h_1 error => exact Task.within_ofHandled (Nat.le_add_left 1 _)
  case h_2 =>
      apply Task.Within.perform
      apply Task.Within.select
      intro selected
      split
      · exact within_serveTask meets _
      · apply Task.within_ofHandled
        have responded := length_respond_le meets.client
          (.serviceUnavailable "no healthy backends")
        rw [List.length_append, List.length_singleton]
        omega
      · exact .done _ _

end

end Mzani
