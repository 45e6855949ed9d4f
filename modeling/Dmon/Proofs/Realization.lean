/-
Module: Dmon.Proofs.Realization
Layer: Proofs
Purpose: The atomic program does nothing that the threads cannot do. Every one of its steps can be taken by a
  thread that runs alone from a moment at which nobody holds a mutex to another such moment; the animator's
  thread posts the events of all its signals in one sweep. So the runs in which the animator sweeps are
  records of executions of the threads, and the linearization leaves nothing open but how sweeps are cut.
Imports: Dmon.Proofs.Linearization
Trusted boundary: none
Main exports: parked, Swept, swept_realized
-/
import Dmon.Proofs.Linearization

namespace Dmon

open TransitionSystem (Free)
open Threads (Solo)

/-- The places of the threads when nobody holds a mutex and the network thread is at `pc`. -/
def parkedAt (pc : NetPc) : Thread → Label
  | .ui => .ui
  | .network => .net pc
  | .animator => .loop

/-- The threads over a state of the atomic program, with the events so far. -/
def parked (w : World) (es : List Event) : Threads.State Mutex Thread Label (Shared × List Event) :=
  Solo.state (parkedAt w.net) .ui [] (w.toShared, es)

section Alone

variable {C : Shared → Event → Prop} {w w' : World} {es es' : List Event}

/-- The condition restricts the calls of handlers only. -/
def OnHandlersOnly (C : Shared → Event → Prop) : Prop :=
  ∀ s e, (∀ h id, e ≠ .deliver h id) → C s e

/-- The UI thread runs alone and comes back to its loop. -/
theorem parked_ui (same : w'.net = w.net)
    (solo : Solo (threads.recorded Label.StandsFor C) [] .ui (w.toShared, es) [] .ui (w'.toShared, es')) :
    Relation.ReflTransGen (Threads.Step (threads.recorded Label.StandsFor C)) (parked w es)
      (parked w' es') := by
  have steps := solo.steps List.nodup_nil (rfl : parkedAt w.net .ui = .ui)
  have there : Function.update (parkedAt w.net) .ui .ui = parkedAt w'.net := by
    funext t
    cases t <;> simp [parkedAt, same]
  rwa [there] at steps

/-- The network thread runs alone and comes to its next critical section. -/
theorem parked_network
    (solo : Solo (threads.recorded Label.StandsFor C) [] (.net w.net) (w.toShared, es) [] (.net w'.net)
      (w'.toShared, es')) :
    Relation.ReflTransGen (Threads.Step (threads.recorded Label.StandsFor C)) (parked w es)
      (parked w' es') := by
  have steps := solo.steps List.nodup_nil (rfl : parkedAt w.net .network = .net w.net)
  have there : Function.update (parkedAt w.net) .network (.net w'.net) = parkedAt w'.net := by
    funext t
    cases t <;> simp [parkedAt]
  rw [there, Solo.state_nil _ Thread.network .ui, Solo.state_nil _ Thread.network .ui] at steps
  exact steps

/-- The animator's thread runs alone and comes back to its loop. -/
theorem parked_animator (same : w'.net = w.net)
    (solo : Solo (threads.recorded Label.StandsFor C) [] .loop (w.toShared, es) [] .loop (w'.toShared, es')) :
    Relation.ReflTransGen (Threads.Step (threads.recorded Label.StandsFor C)) (parked w es)
      (parked w' es') := by
  have steps := solo.steps List.nodup_nil (rfl : parkedAt w.net .animator = .loop)
  have there : Function.update (parkedAt w.net) .animator .loop = parkedAt w'.net := by
    funext t
    cases t <;> simp [parkedAt, same]
  rw [there, Solo.state_nil _ Thread.animator .ui, Solo.state_nil _ Thread.animator .ui] at steps
  exact steps

/-- An operation of the user. -/
theorem realize_operation (only : OnHandlersOnly C) (op : Operation) (selector : String)
    (step : program.step w (op.event selector) = some w') :
    Relation.ReflTransGen (Threads.Step (threads.recorded Label.StandsFor C)) (parked w es)
      (parked w' (es ++ [op.event selector])) := by
  have meets : ∀ s, C s (op.event selector) := fun s => only s _ (by cases op <;> exact nofun)
  have entry : Label.IsUiEntry (.request op selector) := trivial
  cases accepts : w.session.accepts with
  | true =>
      rw [op.step_event selector accepts] at step
      obtain rfl := Option.some.inj step
      refine parked_ui rfl ?_
      refine .silent rfl ⟨entry, rfl⟩ rfl ?_
      refine .lock rfl List.not_mem_nil ?_
      refine .silent rfl (if_pos accepts) (if_pos accepts).symm ?_
      refine .lock rfl (by simp) ?_
      refine .record rfl rfl rfl (meets _) ?_
      refine .unlock rfl (.notify rfl ?_)
      refine .silent rfl rfl rfl ?_
      refine .unlock rfl ?_
      refine .silent rfl rfl rfl ?_
      cases op <;> exact .refl ..
  | false =>
      rw [op.step_event_refused selector accepts] at step
      obtain rfl := Option.some.inj step
      refine parked_ui rfl ?_
      refine .silent rfl ⟨entry, rfl⟩ rfl ?_
      refine .lock rfl List.not_mem_nil ?_
      have refuses : ¬ w.session.accepts = true := by simp [accepts]
      refine .record rfl (if_neg refuses) (if_neg refuses).symm (meets _) ?_
      refine .unlock rfl ?_
      exact .silent rfl rfl rfl (.refl ..)

/-- The UI thread takes a task from the queue and runs it. -/
theorem realize_runTask (only : OnHandlersOnly C) (step : program.step w .runTask = some w') :
    Relation.ReflTransGen (Threads.Step (threads.recorded Label.StandsFor C)) (parked w es)
      (parked w' (es ++ [.runTask])) := by
  have entry : Label.IsUiEntry .pop := trivial
  cases Transition.of_step step with
  | ran task rest queue =>
      have first : w.queue.head? = some task := by rw [queue]; rfl
      refine parked_ui rfl ?_
      refine .silent rfl ⟨entry, rfl⟩ rfl ?_
      refine .lock rfl List.not_mem_nil ?_
      have stands : Label.popFirst.StandsFor w.toShared (.popUnlock w.queue.head?) w.popTask
          (some .runTask) := by simp [Label.StandsFor, first]
      refine .record rfl rfl stands (only _ _ (by simp)) ?_
      refine .unlock rfl ?_
      refine .silent rfl rfl rfl ?_
      simp only [Shared.popTask, queue, List.tail_cons]
      exact .refl ..

/-- The library calls a handler. -/
theorem realize_deliver {h : Handler} {id : Nat} (meets : C w.toShared (.deliver h id))
    (step : program.step w (.deliver h id) = some w') :
    Relation.ReflTransGen (Threads.Step (threads.recorded Label.StandsFor C)) (parked w es)
      (parked w' (es ++ [.deliver h id])) := by
  obtain ⟨idle, entered⟩ : w.net = .idle ∧ w.enter h id = .ok (w'.toShared, w'.net) := by
    simp only [program, World.step] at step
    split at step
    next idle =>
      split at step
      next shared next ok =>
        obtain rfl := Option.some.inj step
        exact ⟨idle, ok⟩
      next => cases step
    next => cases step
  refine parked_network ?_
  rw [idle]
  cases locks : h.locks with
  | true =>
      have chosen : if h.locks then Label.enter h id = .enter h id ∧ w.toShared = w.toShared
          else ∃ pc, w.enter h id = .ok (w.toShared, pc) ∧ Label.enter h id = .net pc := by simp [locks]
      refine .silent rfl ⟨h, id, chosen⟩ ⟨h, id, by simp [locks]⟩ ?_
      refine .lock rfl List.not_mem_nil ?_
      refine .record rfl ⟨w'.net, entered, rfl⟩ rfl meets ?_
      exact .unlock rfl (.refl ..)
  | false =>
      refine .record rfl ⟨h, id, ?_⟩ ⟨h, id, ?_⟩ meets (.refl ..)
      · simpa [locks] using entered
      · simpa [locks] using entered

/-- The network thread goes on to its next critical section. -/
theorem realize_advance (only : OnHandlersOnly C) (step : program.step w .advance = some w') :
    Relation.ReflTransGen (Threads.Step (threads.recorded Label.StandsFor C)) (parked w es)
      (parked w' (es ++ [.advance])) := by
  obtain ⟨running, advanced⟩ : w.net ≠ .idle ∧ w.advance w.net = (w'.toShared, w'.net) := by
    simp only [program, World.step] at step
    split at step
    next => cases step
    next running =>
      obtain rfl := Option.some.inj step
      exact ⟨running, rfl⟩
  refine parked_network ?_
  have code : (threads.recorded Label.StandsFor C).code (.net w.net) = .lock w.net.mutex (.netBody w.net) := by
    cases here : w.net with
    | idle => exact absurd here running
    | _ => rfl
  refine .lock code List.not_mem_nil ?_
  have ran : (Label.netUnlock w.net (w.advance w.net).2, (w.advance w.net).1) =
      (Label.netUnlock w.net w'.net, w'.toShared) := by rw [advanced]
  refine .record rfl ran rfl (only _ _ (by simp)) ?_
  refine .unlock rfl ?_
  split
  · exact .notify rfl (.refl ..)
  · exact .refl ..

/-- The animator's thread posts the events of some signals. -/
theorem realize_posts (only : OnHandlersOnly C) (signals : List String) (s : Shared) (es : List Event) :
    Solo (threads.recorded Label.StandsFor C) [.animator] (.loopPost signals) (s, es) [] .loop
      ({ s with queue := s.queue ++ signals.map .event }, es ++ signals.map .animate) := by
  induction signals generalizing s es with
  | nil =>
      refine .unlock rfl ?_
      refine .silent rfl rfl rfl ?_
      simpa using .refl ..
  | cons sig rest ih =>
      refine .lock rfl (by simp) ?_
      refine .record rfl rfl rfl (only _ _ (by simp)) ?_
      refine .unlock rfl ?_
      have posted := ih (s.post (.event sig)) (es ++ [.animate sig])
      simp only [Shared.post, List.append_assoc, List.singleton_append] at posted
      exact posted

/-- The animator's thread goes once through its loop. -/
theorem realize_sweep (only : OnHandlersOnly C) (nonempty : w.animator.signals ≠ [])
    (goesOn : w.animator.stopped = false) :
    Relation.ReflTransGen (Threads.Step (threads.recorded Label.StandsFor C)) (parked w es)
      (parked { w with queue := w.queue ++ w.animator.signals.map .event }
        (es ++ w.animator.signals.map .animate)) := by
  have awake : (if w.animator.awake then Label.loopStop else .loopWait, w.toShared) =
      (Label.loopStop, w.toShared) := by simp [Animator.awake, nonempty]
  have stays : (if w.animator.stopped then Label.loopBreak else .loopPost w.animator.signals, w.toShared) =
      (Label.loopPost w.animator.signals, w.toShared) := by simp [goesOn]
  refine parked_animator rfl ?_
  refine .lock rfl List.not_mem_nil ?_
  refine .silent rfl awake rfl ?_
  refine .silent rfl stays rfl ?_
  exact realize_posts only ..

end Alone

/-! ### Runs with sweeps -/

/-- The event is neither an unsubscription, which `main` never asks for, nor a single post of the animator. -/
def Event.isPlain : Event → Bool
  | .unsubscribe _ | .animate _ => false
  | _ => true

/-- The runs of the atomic program, under the condition `D`, in which nobody unsubscribes and the animator
    posts the events of all its signals at a time. -/
inductive Swept (D : World → Event → Prop) : List Event → World → Prop where
  | nil : Swept D [] program.init
  | event {es : List Event} {w w' : World} {e : Event} : Swept D es w → e.isPlain = true → D w e →
      program.step w e = some w' → Swept D (es ++ [e]) w'
  | sweep {es : List Event} {w : World} : Swept D es w → w.animator.signals ≠ [] →
      Swept D (es ++ w.animator.signals.map .animate)
        { w with queue := w.queue ++ w.animator.signals.map .event }

/-- A run of plain events has nothing to sweep. -/
theorem Swept.of_run {D : World → Event → Prop} {es : List Event} {w : World}
    (run : program.Run (fun w e => D w e ∧ e.isPlain = true) es w) : Swept D es w := by
  induction run with
  | nil => exact .nil
  | snoc _ cond step ih => exact .event ih cond.2 cond.1 step

/-- Nobody stops the animator while the atomic program runs. -/
theorem Swept.stopped {D : World → Event → Prop} {es : List Event} {w : World} (swept : Swept D es w) :
    w.animator.stopped = false := by
  induction swept with
  | nil => rfl
  | event _ _ _ step ih =>
      have kept : ∀ (a : Animator) (sig : String), (a.start sig).stopped = a.stopped := by
        intro a sig
        unfold Animator.start
        split <;> rfl
      cases Transition.of_step step <;> simpa [kept, Animator.stop] using ih
  | sweep _ _ ih => exact ih

/-- Posting the events of some signals that are there is a run. -/
theorem run_sweep {es : List Event} {w : World} (run : program.Run Free es w) (signals : List String)
    (present : ∀ sig ∈ signals, sig ∈ w.animator.signals) :
    program.Run Free (es ++ signals.map .animate) { w with queue := w.queue ++ signals.map .event } := by
  induction signals generalizing es w with
  | nil => simpa using run
  | cons sig rest ih =>
      have posted : program.step w (.animate sig) = some { w with queue := w.queue ++ [.event sig] } := by
        simp [program, World.step, present sig (List.mem_cons_self ..), Shared.post]
      have longer := ih (run.snoc trivial posted) fun x here => present x (List.mem_cons_of_mem _ here)
      simp only [List.append_assoc, List.singleton_append] at longer
      exact longer

/-- The run that the threads realize, from the beginning. -/
theorem Swept.reachable {C : Shared → Event → Prop} {D : World → Event → Prop} (only : OnHandlersOnly C)
    (given : ∀ w h id, D w (.deliver h id) → C w.toShared (.deliver h id)) {es : List Event} {w : World}
    (swept : Swept D es w) : Threads.Reachable (threads.recorded Label.StandsFor C) (parked w es) := by
  induction swept with
  | nil =>
      have start : parked program.init [] = (threads.recorded Label.StandsFor C).init := by
        unfold parked Solo.state Threads.Program.init
        congr 1
      rw [start]
      exact .refl
  | @event es w w' e _ plain cond step ih =>
      cases e with
      | fetch selector => exact ih.trans (realize_operation only .fetch selector step)
      | subscribe selector => exact ih.trans (realize_operation only .subscribe selector step)
      | unsubscribe selector => cases plain
      | runTask => exact ih.trans (realize_runTask only step)
      | animate sig => cases plain
      | deliver h id => exact ih.trans (realize_deliver (given w h id cond) step)
      | advance => exact ih.trans (realize_advance only step)
  | sweep before nonempty ih => exact ih.trans (realize_sweep only nonempty before.stopped)

/-- The atomic program does nothing that the threads cannot do: a run in which nobody unsubscribes and the
    animator posts the events of all its signals at a time is a run of the atomic program, and it is the
    record of an execution of the threads that ends with no mutex held, in the same data, and with the
    network thread at the same place. -/
theorem swept_realized {es : List Event} {w : World} (swept : Swept Free es w) :
    program.Run Free es w ∧
      Threads.Reachable (threads.recorded Label.StandsFor fun _ _ => True) (parked w es) := by
  constructor
  · induction swept with
    | nil => exact .nil
    | event _ _ _ step ih => exact ih.snoc trivial step
    | sweep _ _ ih => exact run_sweep ih _ fun _ here => here
  · exact swept.reachable (fun _ _ _ => trivial) fun _ _ _ _ => trivial

/-- A fetch is started, and the animator posts the event of its signal. -/
theorem swept_of_fetch : ∃ w, Swept Free [.fetch "a", .animate "fetch"] w := by
  have fetched : Swept Free [.fetch "a"] _ := .event .nil rfl trivial rfl
  exact ⟨_, .sweep fetched (by decide)⟩

theorem swept_of_fetch_realized : ∃ w,
    program.Run Free [.fetch "a", .animate "fetch"] w ∧
      Threads.Reachable (threads.recorded Label.StandsFor fun _ _ => True)
        (parked w [.fetch "a", .animate "fetch"]) := by
  obtain ⟨w, swept⟩ := swept_of_fetch
  exact ⟨w, swept_realized swept⟩

end Dmon
