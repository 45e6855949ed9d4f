/-
Module: Dmon.Proofs.Atomic
Layer: Proofs
Purpose: Handlers that run to their end without interruption. `Shared.finish_stop` is the closed form of a
  callback, `AtomicTransition` lists the steps of `atomicProgram`, and `AtomicTransition.of_step` says that
  there are no others. `atomicProgram_simulated` connects the two programs: every run with uninterrupted
  handlers is a run of `program` in which the network thread's own steps follow each delivery at once.
Imports: Dmon.Proofs.Transitions
Trusted boundary: none
Main exports: Callback.task, Callback.capture, Shared.finish_stop, AtomicTransition,
  AtomicTransition.of_step, atomicProgram_simulated
-/
import Dmon.Proofs.Transitions

namespace Dmon

open TransitionSystem (Free)

/-! ### A callback as one step -/

/-- The task that a callback posts, given the session at the moment it takes the topics. -/
def Callback.task : Callback → Session → Task
  | .fetchCompleted selector, s => .fetchCompleted "" s.topics selector
  | .fetchError error, _ => .fetchCompleted error.message [] ""
  | .fetchDiscard selector, _ => .fetchCompleted "Discard" [] selector
  | .subscribeCompleted selector, s => .subscribeCompleted "" s.subscrubeTopics selector
  | .subscribeError error, _ => .subscribeCompleted error.message [] ""

/-- What a callback leaves of the session. -/
def Callback.capture : Callback → Session → Session
  | .fetchCompleted _, s => { s with topics := [] }
  | .subscribeCompleted _, s => { s with subscrubeTopics := [] }
  | .fetchError _, s | .fetchDiscard _, s | .subscribeError _, s => s

namespace Shared

@[simp] theorem finish_idle (s : Shared) : s.finish .idle = s := rfl

theorem finish_stop (s : Shared) (callback : Callback) :
    s.finish (.stop callback) =
      { s with
        session := callback.capture s.session
        animator := s.animator.stop callback.signal
        queue := s.queue ++ [callback.task s.session, .event callback.signal] } := by
  cases callback <;>
    simp [finish, advance, Callback.afterStop, Callback.task, Callback.capture, Callback.signal,
      Task.signal, stop, post, Session.getFetchTopics, Session.getSubscribeTopics]

/-- `onSubscribeTopic` publishes the buffered updates at once when no subscription is pending. -/
theorem finish_testSubscription (s : Shared) :
    s.finish .testSubscription =
      if s.session.subscribeInProgress then s else s.finish (.stop (.subscribeCompleted "")) := by
  cases pending : s.session.subscribeInProgress <;>
    simp [finish, advance, pending, Callback.afterStop]

/-- What every step of the network thread keeps, the rest of a handler keeps. -/
theorem finish_of_advance {α : Type*} {f : Shared → α}
    (keep : ∀ s pc, f (Shared.advance s pc).1 = f s) (s : Shared) (pc : NetPc) :
    f (s.finish pc) = f s := by
  have iterated : ∀ n (p : Shared × NetPc),
      f ((fun p : Shared × NetPc => p.1.advance p.2)^[n] p).1 = f p.1 := by
    intro n
    induction n with
    | zero => exact fun p => rfl
    | succ n ih =>
        intro p
        rw [Function.iterate_succ_apply, ih, keep]
  exact iterated 5 (s, pc)

@[simp] theorem finish_component (s : Shared) (pc : NetPc) :
    (s.finish pc).component = s.component :=
  finish_of_advance (f := Shared.component) (by intro s pc; cases pc <;> rfl) s pc

@[simp] theorem finish_library (s : Shared) (pc : NetPc) : (s.finish pc).library = s.library :=
  finish_of_advance (f := Shared.library) (by intro s pc; cases pc <;> rfl) s pc

/-- The callbacks write neither the flags nor the selector. -/
@[simp] theorem finish_fetchInProgress (s : Shared) (pc : NetPc) :
    (s.finish pc).session.fetchInProgress = s.session.fetchInProgress :=
  finish_of_advance (f := fun s => s.session.fetchInProgress) (by intro s pc; cases pc <;> rfl) s pc

@[simp] theorem finish_subscribeInProgress (s : Shared) (pc : NetPc) :
    (s.finish pc).session.subscribeInProgress = s.session.subscribeInProgress :=
  finish_of_advance (f := fun s => s.session.subscribeInProgress)
    (by intro s pc; cases pc <;> rfl) s pc

@[simp] theorem finish_selector (s : Shared) (pc : NetPc) :
    (s.finish pc).session.selector = s.session.selector :=
  finish_of_advance (f := fun s => s.session.selector) (by intro s pc; cases pc <;> rfl) s pc

end Shared

/-! ### The steps of the atomic program -/

/-- A step of the UI thread or of the animator. -/
def Event.isOperation : Event → Bool
  | .fetch _ | .subscribe _ | .unsubscribe _ | .runTask | .animate _ => true
  | .deliver .. | .advance => false

/-- `AtomicTransition w e w'`: the event `e` takes the program with uninterrupted handlers from `w`
    to `w'`. -/
inductive AtomicTransition : World → Event → World → Prop where
  | operated {w w' : World} {e : Event} :
      e.isOperation = true → w'.net = .idle → Transition w e w' → AtomicTransition w e w'
  | handled (w : World) (h : Handler) (id : Nat) (s : Session) (next : NetPc) :
      Entry h w.session s next →
      AtomicTransition w (.deliver h id)
        { toShared :=
            Shared.finish { w.toShared with session := s, library := w.library.record h id } next
          net := .idle }

/-- An operation leaves the network thread where it is. -/
theorem Transition.net_of_isOperation {w w' : World} {e : Event} (moved : Transition w e w')
    (operation : e.isOperation = true) : w'.net = w.net := by
  cases moved with
  | delivered | held | passed | stopped | capturedFetch | capturedSubscribe | posted | eventPosted =>
      simp [Event.isOperation] at operation
  | _ => rfl

/-- Every step of the atomic program from a state with no handler midway is one of the listed ones. -/
theorem AtomicTransition.of_step {w w' : World} {e : Event} (quiescent : w.net = .idle)
    (step : atomicProgram.step w e = some w') : AtomicTransition w e w' := by
  rcases Option.map_eq_some_iff.1 step with ⟨mid, first, rest⟩
  have moved : Transition w e mid := .of_step first
  by_cases operation : e.isOperation = true
  · have still : mid.net = .idle := (moved.net_of_isOperation operation).trans quiescent
    have same : mid = w' := by
      rcases mid with ⟨shared, net⟩
      obtain rfl : net = .idle := still
      exact rest
    exact .operated operation (same ▸ still) (same ▸ moved)
  · cases moved with
    | delivered h id s next _ entry => exact rest ▸ .handled w h id s next entry
    | held here | passed here | stopped _ here | capturedFetch _ here | capturedSubscribe _ here
    | posted _ here | eventPosted _ here => simp [quiescent] at here
    | _ => simp [Event.isOperation] at operation

/-- A step of the atomic program ends with no handler midway. -/
theorem AtomicTransition.quiescent {w w' : World} {e : Event} (moved : AtomicTransition w e w') :
    w'.net = .idle := by
  cases moved with
  | operated _ still _ => exact still
  | handled => rfl

/-- In a run of the atomic program no handler is ever midway. -/
theorem atomicProgram_quiescent {C : World → Event → Prop} {es : List Event} {w : World}
    (run : atomicProgram.Run C es w) : w.net = .idle := by
  apply run.invariant (I := fun w => w.net = .idle) rfl
  intro w e w' quiescent _ step
  exact (AtomicTransition.of_step quiescent step).quiescent

/-! ### The atomic program is the program under one scheduler -/

/-- The network thread's own steps after an event take the program from a point inside a handler to
    where `n` of them lead. -/
theorem program_advances {es : List Event} {w : World} (run : program.Run Free es w) (n : Nat) :
    ∃ k, program.Run Free (es ++ List.replicate k .advance)
      { toShared := ((fun p : Shared × NetPc => p.1.advance p.2)^[n] (w.toShared, w.net)).1
        net := ((fun p : Shared × NetPc => p.1.advance p.2)^[n] (w.toShared, w.net)).2 } := by
  induction n generalizing es w with
  | zero => exact ⟨0, by simpa using run⟩
  | succ n ih =>
      rw [Function.iterate_succ_apply]
      by_cases quiescent : w.net = .idle
      · have still : w.toShared.advance w.net = (w.toShared, w.net) := by
          rw [quiescent]
          rfl
        rw [still]
        exact ih run
      · have step : program.step w .advance = some
            { toShared := (w.toShared.advance w.net).1, net := (w.toShared.advance w.net).2 } := by
          simp [program, World.step, quiescent]
        obtain ⟨k, longer⟩ := ih (.snoc run trivial step)
        refine ⟨k + 1, ?_⟩
        rw [List.replicate_succ, ← List.singleton_append, ← List.append_assoc]
        exact longer

/-- Five steps bring every handler to its end. -/
theorem advance_ends (s : Shared) (pc : NetPc) :
    ((fun p : Shared × NetPc => p.1.advance p.2)^[5] (s, pc)).2 = .idle := by
  cases pc with
  | testSubscription =>
      cases pending : s.session.subscribeInProgress <;>
        simp [Shared.advance, pending, Callback.afterStop]
  | stop callback => cases callback <;> rfl
  | _ => rfl

/-- Every run of the atomic program is a run of the program in which the network thread's own steps
    follow each delivery at once; without them the events are the same. -/
theorem atomicProgram_simulated {C : World → Event → Prop} {es : List Event} {w : World}
    (run : atomicProgram.Run C es w) :
    ∃ fine, program.Run Free fine w ∧ fine.filter (· ≠ .advance) = es := by
  induction run with
  | nil => exact ⟨[], .nil, rfl⟩
  | @snoc es w w' e before cond step ih =>
      rcases ih with ⟨fine, reached, same⟩
      have moved := AtomicTransition.of_step (atomicProgram_quiescent before) step
      have notOwn : e ≠ .advance := by
        intro same
        subst same
        cases moved with
        | operated operation => simp [Event.isOperation] at operation
      rcases Option.map_eq_some_iff.1 step with ⟨mid, first, rest⟩
      obtain ⟨k, longer⟩ := program_advances (.snoc reached trivial first) 5
      refine ⟨fine ++ [e] ++ List.replicate k .advance, ?_, ?_⟩
      · rw [advance_ends] at longer
        exact rest ▸ longer
      · rw [List.filter_append, List.filter_append, same]
        simp [notOwn]

end Dmon
