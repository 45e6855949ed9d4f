/-
Module: Dmon.Proofs.Spinners
Layer: Proofs
Purpose: The animator's signals and the session's two in-progress flags are two copies of one fact under
  two mutexes. `Spinning` is the relation between them in the middle of a handler: they agree, except for
  the signal that the network thread is about to stop, whose flag is clear already. It is kept as long as
  no operation starts while the network thread is about to stop the signal of that operation;
  `spinners_truthful` is what it says with no handler midway, and `spinner_lost_by_early_start` is the run
  in which a start in that window loses its spinner.
Imports: Dmon.Proofs.Transitions
Trusted boundary: none
Main exports: Session.InProgress, NetPc.stopping, StartsOutsideStop, spinners_truthful,
  spinner_lost_by_early_start
-/
import Dmon.Proofs.Transitions

namespace Dmon

/-! ### Flags and signals -/

/-- The operation that a signal stands for is in progress, by its flag. -/
def Session.InProgress (s : Session) (sig : String) : Prop :=
  (s.fetchInProgress = true ∧ sig = "fetch") ∨ (s.subscribeInProgress = true ∧ sig = "subscribe")

/-- The signal that the network thread is about to stop. -/
def NetPc.stopping : NetPc → Option String
  | .stop callback => some callback.signal
  | _ => none

@[simp] theorem NetPc.stopping_stop (callback : Callback) :
    (NetPc.stop callback).stopping = some callback.signal := rfl

@[simp] theorem Callback.stopping_afterStop (callback : Callback) :
    callback.afterStop.stopping = none := by
  cases callback <;> rfl

/-- The animator's signals and the flags of the session, seen from a point of the network thread. -/
structure Spinning (s : Session) (a : Animator) (pc : NetPc) : Prop where
  nodup : a.signals.Nodup
  /-- Away from the signal that is about to be stopped, signals and flags agree. -/
  agree : ∀ sig, pc.stopping ≠ some sig → (sig ∈ a.signals ↔ s.InProgress sig)
  /-- The operation whose signal is about to be stopped is over. -/
  ended : ∀ sig, pc.stopping = some sig → ¬ s.InProgress sig

namespace Spinning

variable {s s' : Session} {a : Animator} {pc next : NetPc} {sig : String}

/-- A step that changes no flag and stays away from `animator.stop`. -/
theorem of_same_flags (before : Spinning s a pc)
    (fetch : s'.fetchInProgress = s.fetchInProgress)
    (subscribe : s'.subscribeInProgress = s.subscribeInProgress)
    (same : next.stopping = pc.stopping) : Spinning s' a next where
  nodup := before.nodup
  agree := by
    intro sig elsewhere
    rw [same] at elsewhere
    simpa [Session.InProgress, fetch, subscribe] using before.agree sig elsewhere
  ended := by
    intro sig here
    rw [same] at here
    simpa [Session.InProgress, fetch, subscribe] using before.ended sig here

/-- The start of an operation: its flag is set and its signal started, both under `m_operationMutex`,
    while the network thread is not about to stop that signal. -/
theorem start (before : Spinning s a pc) (outside : pc.stopping ≠ some sig)
    (set : ∀ x, s'.InProgress x ↔ s.InProgress x ∨ x = sig) :
    Spinning s' (a.start sig) pc where
  nodup := Animator.nodup_start before.nodup
  agree := by
    intro x elsewhere
    simp [set, before.agree x elsewhere]
  ended := by
    intro x here
    have other : x ≠ sig := by
      intro same
      subst same
      exact outside here
    simp [set, before.ended x here, other]

/-- The end of an operation: its flag is cleared and the network thread goes to stop its signal. -/
theorem finish {callback : Callback} (before : Spinning s a pc) (nothing : pc.stopping = none)
    (cleared : ∀ x, s'.InProgress x ↔ s.InProgress x ∧ x ≠ callback.signal) :
    Spinning s' a (.stop callback) where
  nodup := before.nodup
  agree := by
    intro x elsewhere
    have other : x ≠ callback.signal := by
      intro same
      subst same
      exact elsewhere rfl
    simp [cleared, other, before.agree x (by simp [nothing])]
  ended := by
    intro x here
    obtain rfl : callback.signal = x := Option.some.inj here
    simp [cleared]

/-- `animator.stop` itself. -/
theorem stop (before : Spinning s a pc) (here : pc.stopping = some sig)
    (after : next.stopping = none) : Spinning s (a.stop sig) next where
  nodup := Animator.nodup_stop before.nodup
  agree := by
    intro x _
    rw [Animator.mem_stop]
    by_cases same : x = sig
    · subst same
      simp [before.ended x here]
    · have elsewhere : pc.stopping ≠ some x := by
        rw [here]
        exact fun equal => same (Option.some.inj equal).symm
      simp [same, before.agree x elsewhere]
  ended := by
    intro x there
    simp [after] at there

end Spinning

/-! ### The program -/

/-- No operation starts while the network thread is about to stop the signal of that operation: in the
    callback that ends an operation, or that publishes an update, after the flag was cleared or tested and
    before `animator.stop`. -/
def StartsOutsideStop (w : World) : Event → Prop
  | .fetch _ => w.session.accepts → w.net.stopping ≠ some "fetch"
  | .subscribe _ => w.session.accepts → w.net.stopping ≠ some "subscribe"
  | _ => True

instance (w : World) : (e : Event) → Decidable (StartsOutsideStop w e)
  | .fetch _ => inferInstanceAs (Decidable (w.session.accepts → w.net.stopping ≠ some "fetch"))
  | .subscribe _ =>
      inferInstanceAs (Decidable (w.session.accepts → w.net.stopping ≠ some "subscribe"))
  | .unsubscribe _ | .runTask | .animate _ | .deliver .. | .advance =>
      inferInstanceAs (Decidable True)

theorem Entry.spinning {h : Handler} {s s' : Session} {a : Animator} {next : NetPc}
    (entry : Entry h s s' next) (before : Spinning s a .idle) : Spinning s' a next := by
  cases entry with
  | fetchCompleted | fetchDiscarded =>
      apply before.finish rfl
      intro x
      simp only [Session.InProgress, Callback.signal, Session.onFetchCompleted, Session.onFetchDiscard]
      grind
  | fetchFailed | unsubscribeFailed =>
      apply before.finish rfl
      intro x
      simp only [Session.InProgress, Callback.signal, Session.onFetchError]
      grind
  | subscribed | subscribeFailed =>
      apply before.finish rfl
      intro x
      simp only [Session.InProgress, Callback.signal, Session.onSubscribeCompleted, Session.onSubscribeError]
      grind
  | _ => exact before.of_same_flags rfl rfl rfl

theorem Transition.spinning {w w' : World} {e : Event} (moved : Transition w e w')
    (cond : StartsOutsideStop w e) (before : Spinning w.session w.animator w.net) :
    Spinning w'.session w'.animator w'.net := by
  cases moved with
  | fetchAccepted selector free =>
      apply before.start (cond (by simp [Session.accepts, free]))
      intro x
      simp only [Session.InProgress, Session.beginFetch]
      grind
  | subscribeAccepted selector free =>
      apply before.start (cond (by simp [Session.accepts, free]))
      intro x
      simp only [Session.InProgress, Session.beginSubscribe]
      grind
  | delivered h id s next quiescent entry => exact entry.spinning (quiescent ▸ before)
  | passed here free =>
      -- The callback for an update stops a signal whose flag is clear without having cleared it.
      have nothing : w.net.stopping = none := by rw [here]; rfl
      apply before.finish nothing
      intro x
      simp only [Session.InProgress, Callback.signal]
      grind
  | stopped callback here =>
      exact before.stop (by rw [here]; rfl) callback.stopping_afterStop
  | held here | capturedFetch selector here | capturedSubscribe selector here
  | posted task here | eventPosted sig here =>
      exact before.of_same_flags rfl rfl (by rw [here]; rfl)
  | _ => exact before

/-- The spinners tell the truth: with no handler midway, the animator's signals have no duplicates, and
    each of the two signals is there exactly when the flag of its operation is set. It holds in every run
    in which no operation starts while the network thread is about to stop the signal of that
    operation. -/
theorem spinners_truthful {es : List Event} {w : World} (run : program.Run StartsOutsideStop es w)
    (quiescent : w.net = .idle) :
    w.animator.signals.Nodup ∧
      ("fetch" ∈ w.animator.signals ↔ w.session.fetchInProgress = true) ∧
      ("subscribe" ∈ w.animator.signals ↔ w.session.subscribeInProgress = true) := by
  have spinning : Spinning w.session w.animator w.net := by
    apply run.invariant (I := fun w => Spinning w.session w.animator w.net)
    · exact ⟨List.nodup_nil, by simp [program, Session.InProgress], by simp [program, NetPc.stopping]⟩
    · intro w e w' before cond step
      exact (Transition.of_step step).spinning cond before
  rw [quiescent] at spinning
  refine ⟨spinning.nodup, ?_, ?_⟩
  · simpa [Session.InProgress] using spinning.agree "fetch" (by simp [NetPc.stopping])
  · simpa [Session.InProgress] using spinning.agree "subscribe" (by simp [NetPc.stopping])

/-- A run that completes a fetch and a subscription one after the other. -/
def fetchThenSubscribe : List Event :=
  [.fetch "a", .deliver .onFetch 0, .advance, .advance, .advance, .advance, .subscribe "b"]

theorem fetchThenSubscribe_spinners :
    ∃ w, program.Run StartsOutsideStop fetchThenSubscribe w ∧
      w.animator.signals.Nodup ∧
        ("fetch" ∈ w.animator.signals ↔ w.session.fetchInProgress = true) ∧
        ("subscribe" ∈ w.animator.signals ↔ w.session.subscribeInProgress = true) := by
  obtain ⟨w, run, quiescent⟩ : ∃ w, program.Run StartsOutsideStop fetchThenSubscribe w ∧
      decide (w.net = .idle) = true :=
    TransitionSystem.Run.exists_of_exec (by decide)
  exact ⟨w, run, spinners_truthful run (of_decide_eq_true quiescent)⟩

/-- A run in which the user starts a second fetch after the first one was declared over and before its
    callback reaches `animator.stop`. -/
def fetchBeforeStop : List Event :=
  [.fetch "a", .deliver .onFetch 0, .fetch "b", .advance, .advance, .advance, .advance]

/-- Without the condition the law fails: the second fetch is in progress and its spinner is gone. -/
theorem spinner_lost_by_early_start :
    ¬ ∀ es w, program.Run endsOnce es w → w.net = .idle →
      w.animator.signals.Nodup ∧
        ("fetch" ∈ w.animator.signals ↔ w.session.fetchInProgress = true) ∧
        ("subscribe" ∈ w.animator.signals ↔ w.session.subscribeInProgress = true) := by
  intro law
  obtain ⟨w, run, facts⟩ : ∃ w, program.Run endsOnce fetchBeforeStop w ∧
      decide (w.net = .idle ∧ "fetch" ∉ w.animator.signals ∧ w.session.fetchInProgress = true) =
        true :=
    TransitionSystem.Run.exists_of_exec (by decide)
  obtain ⟨quiescent, noSpinner, busy⟩ := of_decide_eq_true facts
  exact noSpinner ((law _ _ run quiescent).2.1.2 busy)

end Dmon
