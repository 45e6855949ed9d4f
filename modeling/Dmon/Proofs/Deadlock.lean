/-
Module: Dmon.Proofs.Deadlock
Layer: Proofs
Purpose: The threads cannot deadlock and the animator cannot miss a wake-up. The labelling says which
  mutexes are held at each place of the code; the operation mutex comes before the animator's, which comes
  before that of the queue. With it the code follows the lock discipline and the wake-up discipline of the
  library, place by place.
Imports: Dmon.Model.Threads
Trusted boundary: none
Main exports: labelling, threads_lockDiscipline, threads_wakeDiscipline, threads_safe
-/
import Dmon.Model.Threads

namespace Dmon

open Threads (Instr)

/-! ### The labelling -/

/-- The mutexes held at a place, innermost first. -/
def Label.held : Label → List Mutex
  | .gate .. | .start .. | .startNotify .. | .handOver .. | .requestUnlock .. => [.operation]
  | .startPush .. | .startUnlock .. => [.animator, .operation]
  | .queryRead _ | .queryUnlock _ => [.operation]
  | .popFirst | .popUnlock _ => [.queue]
  | .closeSet | .closeUnlock => [.animator]
  | .enterBody .. | .enterUnlock _ => [.operation]
  | .netBody pc | .netUnlock pc _ => [pc.mutex]
  | .loopTest | .loopWait | .loopStop | .loopPost _ | .loopBreak => [.animator]
  | .loopPostBody .. | .loopPostUnlock _ => [.queue, .animator]
  | _ => []

/-- The thread whose code a place is in. -/
def Label.owner : Label → Thread
  | .net _ | .enter .. | .enterBody .. | .enterUnlock _ | .netBody _ | .netUnlock .. | .netNotify _ =>
      .network
  | .loop | .loopTest | .loopWait | .loopStop | .loopPost _ | .loopPostBody .. | .loopPostUnlock _
  | .loopSleep | .loopBreak | .loopDone => .animator
  | _ => .ui

/-- The order in which the mutexes are nested. -/
def Mutex.rank : Mutex → Nat
  | .operation => 0
  | .animator => 1
  | .queue => 2

/-- What the code says about its places. The UI thread joins the animator's. -/
def labelling : Threads.Labelling Mutex Thread Label where
  held := Label.held
  owner := Label.owner
  rank := Mutex.rank
  level
    | .ui => 1
    | .network | .animator => 0

/-! ### The disciplines -/

theorem threads_obeys (l : Label) : labelling.Obeys l l.code := by
  cases l with
  | ui =>
      intro s next s' step
      rcases step with ⟨entry, -⟩
      cases next <;> first | exact ⟨rfl, rfl⟩ | cases entry
  | net pc =>
      cases pc with
      | idle =>
          intro s next s' step
          rcases step with ⟨h, id, step⟩
          split at step
          · rcases step with ⟨rfl, -⟩
            exact ⟨rfl, rfl⟩
          · rcases step with ⟨pc, -, rfl⟩
            exact ⟨rfl, rfl⟩
      | _ => exact ⟨rfl, rfl⟩
  | enterBody h id =>
      intro s next s' step
      rcases step with ⟨pc, -, rfl⟩
      exact ⟨rfl, rfl⟩
  | gate op selector =>
      apply Threads.Labelling.obeys_run
      intro s
      split <;> exact ⟨rfl, rfl⟩
  | loopTest | loopStop =>
      apply Threads.Labelling.obeys_run
      intro s
      dsimp only
      split <;> exact ⟨rfl, rfl⟩
  | netUnlock pc next =>
      cases notifies : pc.notifies <;>
        simp [Label.code, notifies, labelling, Threads.Labelling.Obeys, Label.held, Label.owner]
  | loopPost signals => cases signals <;> exact ⟨rfl, rfl⟩
  | loopWait => exact ⟨rfl, rfl, rfl⟩
  | closeJoin => exact ⟨rfl, rfl, rfl, by decide⟩
  | uiDone | loopDone => trivial
  | startPush | handOver | requestDone | queryRead | popFirst | runTask | closeSet | netBody
  | loopPostBody | loopSleep =>
      exact Threads.Labelling.obeys_run fun s => ⟨rfl, rfl⟩
  | _ => exact ⟨rfl, rfl⟩

/-- The code follows the lock discipline. -/
theorem threads_lockDiscipline : Threads.LockDiscipline threads labelling where
  ordered := by
    intro l
    cases l <;> simp [labelling, Label.held, Mutex.rank]
  starts := by
    intro t
    cases t <;> exact ⟨rfl, rfl⟩
  obeys := threads_obeys

/-- Only the animator's loop waits. -/
theorem isWait_iff {l : Label} : threads.IsWait l ↔ l = .loopWait := by
  constructor
  · intro wait
    rcases wait with ⟨m, next, code⟩
    cases l with
    | net pc => cases pc <;> cases code
    | loopPost signals => cases signals <;> cases code
    | loopWait => rfl
    | _ => cases code
  · intro here
    subst here
    exact ⟨_, _, rfl⟩

/-- What the animator waits for. -/
def Awake (s : Shared) : Prop := s.animator.awake = true

/-- Of the critical sections of the network thread, only that of `Animator::stop` touches the animator. -/
theorem animator_advance (s : Shared) {pc : NetPc} (other : pc.notifies = false) :
    (s.advance pc).1.animator = s.animator := by
  cases pc with
  | stop callback => cases other
  | _ => rfl

theorem animator_enter {s s' : Shared} {h : Handler} {id : Nat} {pc : NetPc}
    (ok : s.enter h id = .ok (s', pc)) : s'.animator = s.animator := by
  unfold Shared.enter at ok
  cases entered : h.enter s.session with
  | error fault => simp [entered, Except.map] at ok
  | ok result =>
      simp only [entered, Except.map, Except.ok.injEq, Prod.mk.injEq] at ok
      rw [← ok.1]

theorem threads_wakes (l : Label) :
    threads.WakesAt labelling Awake .animator .animator l l.code := by
  have keeps : ∀ {s s' : Shared}, s'.animator = s.animator → ¬ Awake s → ¬ Awake s' := by
    intro s s' same before
    rwa [Awake, same]
  cases l with
  | ui =>
      intro s next s' step
      rcases step with ⟨entry, rfl⟩
      refine ⟨fun before after => absurd after before, fun wait => ?_⟩
      rw [isWait_iff.1 wait] at entry
      cases entry
  | net pc =>
      cases pc with
      | idle =>
          intro s next s' step
          rcases step with ⟨h, id, step⟩
          split at step
          · rcases step with ⟨rfl, rfl⟩
            exact ⟨fun before after => absurd after before, by simp [isWait_iff]⟩
          · rcases step with ⟨pc, ok, rfl⟩
            exact ⟨fun before after => absurd after (keeps (animator_enter ok) before),
              by simp [isWait_iff]⟩
      | _ => simp [Label.code, Threads.Program.WakesAt, isWait_iff]
  | enterBody h id =>
      intro s next s' step
      rcases step with ⟨pc, ok, rfl⟩
      exact ⟨fun before after => absurd after (keeps (animator_enter ok) before), by simp [isWait_iff]⟩
  | gate op selector =>
      refine Threads.Program.wakesAt_run (fun s before after => ?_) (fun s wait => ?_)
      · apply absurd after
        split
        · exact keeps (by cases op <;> rfl) before
        · exact before
      · rw [isWait_iff] at wait
        split at wait <;> cases wait
  | startPush op selector =>
      exact Threads.Program.wakesAt_run
        (fun s _ _ => ⟨.head _, .afterUnlock rfl rfl⟩) (by simp [isWait_iff])
  | closeSet =>
      exact Threads.Program.wakesAt_run
        (fun s _ _ => ⟨.head _, .afterUnlock rfl rfl⟩) (by simp [isWait_iff])
  | netBody pc =>
      refine Threads.Program.wakesAt_run (fun s before after => ?_) (by simp [isWait_iff])
      cases notifies : pc.notifies with
      | false => exact absurd after (keeps (animator_advance s notifies) before)
      | true =>
          cases pc with
          | stop callback => exact ⟨.head _, .afterUnlock rfl rfl⟩
          | _ => cases notifies
  | netUnlock pc next =>
      cases notifies : pc.notifies <;>
        simp [Label.code, notifies, Threads.Program.WakesAt, isWait_iff]
  | loopTest =>
      refine Threads.Program.wakesAt_run (fun s before after => absurd after before) (fun s wait => ?_)
      rw [isWait_iff] at wait
      simp only [Awake]
      split at wait
      next => cases wait
      next asleep => exact asleep
  | loopStop =>
      refine Threads.Program.wakesAt_run (fun s before after => absurd after before) (fun s wait => ?_)
      rw [isWait_iff] at wait
      split at wait <;> cases wait
  | loopPost signals =>
      cases signals <;> simp [Label.code, Threads.Program.WakesAt, isWait_iff]
  | loopWait => exact ⟨rfl, rfl, by simp [isWait_iff]⟩
  | uiDone | loopDone => trivial
  | handOver | queryRead | popFirst | loopPostBody | loopSleep =>
      exact Threads.Program.wakesAt_run
        (fun s before after => absurd after (keeps rfl before)) (by simp [isWait_iff])
  | requestDone op accepted =>
      refine Threads.Program.wakesAt_run (fun s before after => absurd after (keeps ?_ before))
        (by simp [isWait_iff])
      cases accepted <;> cases op <;> rfl
  | runTask task =>
      refine Threads.Program.wakesAt_run (fun s before after => absurd after (keeps ?_ before))
        (by simp [isWait_iff])
      cases task <;> rfl
  | _ => simp [Label.code, Threads.Program.WakesAt, isWait_iff]

/-- The code follows the wake-up discipline of the animator's condition variable. -/
theorem threads_wakeDiscipline :
    Threads.WakeDiscipline threads labelling Awake .animator .animator where
  toLockDiscipline := threads_lockDiscipline
  awake := by
    intro t
    rw [isWait_iff]
    cases t <;> simp [threads]
  wakes := threads_wakes

/-! ### The threads -/

/-- The program cannot deadlock and the animator cannot miss a wake-up: in every reachable state no thread
    waits for itself through a chain of mutexes held by the next and of joins, and whenever the animator's
    thread sleeps in its wait, with no notification pending, while a signal is there or it was told to
    stop, another thread is about to notify. -/
theorem threads_safe {s : Threads.State Mutex Thread Label Shared}
    (reached : Threads.Reachable threads s) :
    (∀ t, ¬ Relation.TransGen (Threads.WaitsFor threads s) t t) ∧
      (∀ m next, s.status .animator = .asleep m next →
        s.data.animator.signals ≠ [] ∨ s.data.animator.stopped = true →
        ∃ u l, u ≠ .animator ∧ s.status u = .ready l ∧ threads.Announces l) := by
  constructor
  · exact threads_lockDiscipline.no_wait_cycle reached
  · intro m next asleep reason
    have awake : Awake s.data := by
      simpa [Awake, Animator.awake] using reason
    exact threads_wakeDiscipline.no_lost_wakeup reached asleep awake

/-- The animator goes to sleep, and the user starts a fetch, up to the new signal in `Animator::start`. -/
theorem signalBeforeNotify_reachable :
    ∃ s, Threads.Reachable threads s ∧ s.status .animator = .asleep .animator .loopTest ∧
      s.data.animator.signals = ["fetch"] := by
  have asleep := (((Relation.ReflTransGen.refl
    |>.tail (Threads.Step.lock (P := threads) (s := threads.init) (t := .animator) rfl rfl rfl))
    |>.tail (.act (t := .animator) rfl rfl rfl))
    |>.tail (.wait (t := .animator) rfl rfl))
  have entry : Label.IsUiEntry (.request .fetch "a") := trivial
  have inside := ((asleep
    |>.tail (.act (t := .ui) rfl rfl ⟨entry, rfl⟩))
    |>.tail (.lock (t := .ui) rfl rfl rfl))
    |>.tail (.act (t := .ui) rfl rfl rfl)
  have pushed := (inside
    |>.tail (.lock (t := .ui) rfl rfl rfl))
    |>.tail (.act (t := .ui) rfl rfl rfl)
  exact ⟨_, pushed, rfl, rfl⟩

theorem signalBeforeNotify_safe :
    ∃ s, Threads.Reachable threads s ∧
      (∀ t, ¬ Relation.TransGen (Threads.WaitsFor threads s) t t) ∧
      ∃ u l, u ≠ .animator ∧ s.status u = .ready l ∧ threads.Announces l := by
  obtain ⟨s, reached, asleep, signals⟩ := signalBeforeNotify_reachable
  obtain ⟨acyclic, announced⟩ := threads_safe reached
  exact ⟨s, reached, acyclic, announced _ _ asleep (.inl (by simp [signals]))⟩

end Dmon
