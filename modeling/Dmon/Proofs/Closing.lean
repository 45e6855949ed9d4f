/-
Module: Dmon.Proofs.Closing
Layer: Proofs
Purpose: The program can always be brought to its end. Once the user has asked to exit and the library calls
  no further handler, the threads need nothing from outside to finish: no request, no handler, no wake-up
  without a notification. When `Animator::~Animator` has set `m_stop` they cannot help finishing, in whatever
  order they are scheduled. Both rest on a cost of the places: how many instructions a thread has left, where
  a round of the animator's loop counts as long as it has signals to post.
Imports: Dmon.Lib.Progress, Dmon.Proofs.Deadlock, Dmon.Proofs.Draining, Dmon.Proofs.Linearization
Trusted boundary: none
Main exports: closing, Ended, Label.remaining, closing_lowers, threads_can_end, threads_must_end
-/
import Dmon.Lib.Progress
import Dmon.Proofs.Deadlock
import Dmon.Proofs.Draining
import Dmon.Proofs.Linearization

namespace Dmon

open Threads (Instr)

instance : Fintype Thread where
  elems := {.ui, .network, .animator}
  complete t := by cases t <;> decide

/-- The threads when the user has asked to exit and the library calls no further handler: the UI thread goes
    from its loop to the destructor of the animator, and the network thread starts nothing new. -/
def closing : Threads.Program Mutex Thread Label Shared where
  code
    | .ui => .run fun s => (.close, s)
    | .net .idle => .halt
    | l => l.code
  start := threads.start
  data := threads.data

/-- The program has come to its end: the animator's thread has been joined, no handler is running, and nobody
    holds a mutex. -/
structure Ended (s : Threads.State Mutex Thread Label Shared) : Prop where
  ui : s.status .ui = .ready .uiDone
  network : s.status .network = .ready (.net .idle)
  animator : s.status .animator = .ready .loopDone
  unlocked : ∀ m, s.holder m = none

/-! ### What is left to do -/

/-- The instructions that a thread has left until it is through, the animator's thread until it rests at its
    lock or in its wait. A new signal makes a round of the animator longer by three instructions, which
    `Animator::start` pays for. -/
def Label.remaining (a : Animator) : Label → Nat
  | .uiDone => 0
  | .closeJoin => 1
  | .closeNotify => 2
  | .closeUnlock => 3
  | .closeSet => 4
  | .close => 5
  | .ui => 6
  | .requestDone .. | .queryUnlock _ | .runTask _ => 7
  | .requestUnlock .. | .queryRead _ | .popUnlock _ => 8
  | .handOver .. | .query _ | .popFirst => 9
  | .startNotify .. | .pop => 10
  | .startUnlock .. => 11
  | .startPush .. => 21
  | .start .. => 22
  | .gate .. => 23
  | .request .. => 24
  | .net pc => 4 * pc.remaining
  | .netNotify next | .enterUnlock next => 4 * next.remaining + 1
  | .netUnlock _ next => 4 * next.remaining + 2
  | .netBody pc => max 3 (4 * pc.remaining - 1)
  | .enterBody .. => 22
  | .enter .. => 23
  | .loopDone => 0
  | .loopBreak => 1
  | .loopStop => if a.stopped then 2 else 3 * a.signals.length + 7
  | .loopTest => if a.stopped then 3 else 3 * a.signals.length + 8
  | .loop => 4
  | .loopSleep => 5
  | .loopWait => 6
  | .loopPost signals => 3 * signals.length + 6
  | .loopPostUnlock rest => 3 * rest.length + 7
  | .loopPostBody _ rest => 3 * rest.length + 8

/-- The cost of a place or of a wait. -/
def cost (s : Shared) : Threads.Status Mutex Label → Nat
  | .ready l => l.remaining s.animator
  | .asleep _ _ => 5
  | .woken _ _ => 4

section Cost

variable {s s' : Shared} (status : Threads.Status Mutex Label)

/-- Fewer signals, or the flag that stops the animator, raise no cost. -/
theorem cost_le (fewer : s'.animator.signals.length ≤ s.animator.signals.length)
    (stops : s.animator.stopped = true → s'.animator.stopped = true) : cost s' status ≤ cost s status := by
  cases status with
  | ready l =>
      cases l with
      | loopTest | loopStop =>
          simp only [cost, Label.remaining]
          split
          next => split <;> omega
          next running =>
            rw [if_neg fun stopped => running (stops stopped)]
            omega
      | _ => exact Nat.le_refl _
  | _ => exact Nat.le_refl _

theorem cost_le_of_animator (same : s'.animator = s.animator) : cost s' status ≤ cost s status :=
  cost_le status (by rw [same]) (by rw [same]; exact id)

/-- A new signal raises a cost by three at most. -/
theorem cost_start_le (s : Shared) (sig : String) : cost (s.start sig) status ≤ cost s status + 3 := by
  have more : (s.animator.start sig).signals.length ≤ s.animator.signals.length + 1 := by
    unfold Animator.start
    split <;> simp
  have same : (s.animator.start sig).stopped = s.animator.stopped := by
    unfold Animator.start
    split <;> rfl
  cases status with
  | ready l =>
      cases l with
      | loopTest | loopStop =>
          simp only [cost, Label.remaining, Shared.start, same]
          split <;> omega
      | _ => exact Nat.le_add_right _ _
  | _ => exact Nat.le_add_right _ _

end Cost

theorem remaining_le (pc : NetPc) : pc.remaining ≤ 5 := by
  cases pc <;> simp [NetPc.remaining]

/-- The critical sections of the network thread add no signal. -/
theorem cost_advance_le (s : Shared) (pc : NetPc) (status : Threads.Status Mutex Label) :
    cost (s.advance pc).1 status ≤ cost s status := by
  cases pc with
  | stop callback => exact cost_le status (List.length_filter_le ..) id
  | _ => exact cost_le_of_animator status rfl

/-- Every instruction brings its thread nearer to its end, but for the lock with which the animator's loop
    starts a round; and that one too when the animator was told to stop. -/
theorem closing_lowers (s : Shared) (l : Label) (ends : s.animator.stopped = true ∨ l ≠ .loop) :
    (closing.code l).Lowers cost 3 s l := by
  cases l with
  | net pc =>
      cases pc with
      | idle => trivial
      | _ => simp [closing, Label.code, Instr.Lowers, cost, Label.remaining, NetPc.remaining]
  | enterBody h id =>
      intro next s' ran
      obtain ⟨pc, ok, rfl⟩ := ran
      refine ⟨0, fun status => cost_le_of_animator status (animator_enter ok), ?_⟩
      have bound := remaining_le pc
      simp only [cost, Label.remaining]
      omega
  | gate op selector =>
      refine Threads.Instr.lowers_run (fun status => ?_) ?_
      · apply cost_le_of_animator
        split
        · cases op <;> rfl
        · rfl
      · split <;> simp [cost, Label.remaining]
  | startPush op selector =>
      intro next s' ran
      obtain ⟨rfl, rfl⟩ : _ = next ∧ _ = s' := Prod.mk.inj ran
      exact ⟨3, fun status => cost_start_le status s op.signal, by simp [cost, Label.remaining]⟩
  | requestDone op accepted =>
      refine Threads.Instr.lowers_run (fun status => ?_) (by simp [cost, Label.remaining])
      apply cost_le_of_animator
      cases accepted <;> cases op <;> rfl
  | runTask task =>
      refine Threads.Instr.lowers_run (fun status => ?_) (by simp [cost, Label.remaining])
      apply cost_le_of_animator
      cases task <;> rfl
  | closeSet =>
      refine Threads.Instr.lowers_run (fun status => ?_) (by simp [cost, Label.remaining])
      exact cost_le status (Nat.le_refl _) fun _ => rfl
  | ui | handOver | queryRead | popFirst | loopPostBody | loopSleep =>
      refine Threads.Instr.lowers_run (fun status => ?_) (by simp [cost, Label.remaining])
      exact cost_le_of_animator status rfl
  | netBody pc =>
      refine Threads.Instr.lowers_run (cost_advance_le s pc) ?_
      by_cases idle : pc = .idle
      · subst idle
        simp [cost, Label.remaining, Shared.advance, NetPc.remaining]
      · have less := remaining_advance s idle
        simp only [cost, Label.remaining]
        omega
  | netUnlock pc next =>
      cases notifies : pc.notifies <;>
        simp [closing, Label.code, notifies, Instr.Lowers, cost, Label.remaining]
  | loop =>
      rcases ends with stopped | other
      · simp [closing, Label.code, Instr.Lowers, cost, Label.remaining, stopped]
      · exact absurd rfl other
  | loopTest =>
      refine Threads.Instr.lowers_run (fun status => Nat.le_refl _) ?_
      cases stopped : s.animator.stopped <;>
        cases awake : s.animator.awake <;>
          simp_all [cost, Label.remaining, Animator.awake]
  | loopStop =>
      refine Threads.Instr.lowers_run (fun status => Nat.le_refl _) ?_
      cases stopped : s.animator.stopped <;> simp [cost, Label.remaining, stopped]
  | loopPost signals =>
      cases signals with
      | nil => simp [closing, Label.code, Instr.Lowers, cost, Label.remaining]
      | cons sig rest =>
          simp only [closing, Label.code, Instr.Lowers, cost, Label.remaining, List.length_cons]
          omega
  | uiDone | loopDone => trivial
  | _ => exact Nat.lt_succ_self _

/-! ### What holds at the places -/

/-- A handler that stands at the operation mutex is one that takes it; from the critical section of
    `Animator::~Animator` on, the animator has been told to stop. -/
def Label.Fits (s : Shared) : Label → Prop
  | .enter h _ | .enterBody h _ => h.locks = true
  | .closeUnlock | .closeNotify | .closeJoin | .uiDone => s.animator.stopped = true
  | _ => True

theorem Label.Fits.mono {l : Label} {s s' : Shared} (fits : l.Fits s)
    (stops : s.animator.stopped = true → s'.animator.stopped = true) : l.Fits s' := by
  cases l with
  | closeUnlock | closeNotify | closeJoin | uiDone => exact stops fits
  | enter | enterBody => exact fits
  | _ => trivial

/-- No instruction takes back that the animator was told to stop, and each leads to a place that fits. -/
theorem fits_act {l next : Label} {s s' : Shared} {run : Shared → Label → Shared → Prop}
    (code : threads.code l = .act run) (ran : run s next s') :
    next.Fits s' ∧ (s.animator.stopped = true → s'.animator.stopped = true) := by
  have keeps : s'.animator = s.animator → s.animator.stopped = true → s'.animator.stopped = true := by
    intro same stopped
    rw [same, stopped]
  cases l with
  | ui =>
      cases code
      obtain ⟨entry, rfl⟩ := ran
      refine ⟨?_, id⟩
      cases next with
      | request | query | pop | close => trivial
      | _ => cases entry
  | net pc =>
      cases pc with
      | idle =>
          cases code
          obtain ⟨h, id, ran⟩ := ran
          split at ran
          next locks =>
            obtain ⟨rfl, rfl⟩ := ran
            exact ⟨locks, fun stopped => stopped⟩
          next =>
            obtain ⟨pc, ok, rfl⟩ := ran
            exact ⟨trivial, keeps (animator_enter ok)⟩
      | _ => cases code
  | enterBody h id =>
      cases code
      obtain ⟨pc, ok, rfl⟩ := ran
      exact ⟨trivial, keeps (animator_enter ok)⟩
  | gate op selector =>
      cases code
      have result : (if s.session.accepts then (Label.start op selector, op.begin s selector)
        else (.requestUnlock op false, s)) = (next, s') := ran
      split at result <;> obtain ⟨rfl, rfl⟩ := Prod.mk.inj result
      · exact ⟨trivial, keeps (by cases op <;> rfl)⟩
      · exact ⟨trivial, id⟩
  | startPush op selector =>
      cases code
      obtain ⟨rfl, rfl⟩ : _ = next ∧ _ = s' := Prod.mk.inj ran
      refine ⟨trivial, fun stopped => ?_⟩
      simp only [Shared.start, Animator.start]
      split <;> exact stopped
  | closeSet =>
      cases code
      obtain ⟨rfl, rfl⟩ : _ = next ∧ _ = s' := Prod.mk.inj ran
      exact ⟨rfl, fun _ => rfl⟩
  | requestDone op accepted =>
      cases code
      obtain ⟨rfl, rfl⟩ : _ = next ∧ _ = s' := Prod.mk.inj ran
      refine ⟨trivial, keeps ?_⟩
      cases accepted <;> cases op <;> rfl
  | runTask task =>
      cases code
      obtain ⟨rfl, rfl⟩ : _ = next ∧ _ = s' := Prod.mk.inj ran
      refine ⟨trivial, keeps ?_⟩
      cases task <;> rfl
  | netBody pc =>
      cases code
      obtain ⟨rfl, rfl⟩ : _ = next ∧ _ = s' := Prod.mk.inj ran
      refine ⟨trivial, fun stopped => ?_⟩
      cases pc <;> exact stopped
  | loopTest | loopStop =>
      cases code
      obtain ⟨rfl, rfl⟩ : _ = next ∧ _ = s' := Prod.mk.inj ran
      refine ⟨?_, id⟩
      split <;> trivial
  | handOver | queryRead | popFirst | loopPostBody | loopSleep =>
      cases code
      obtain ⟨rfl, rfl⟩ : _ = next ∧ _ = s' := Prod.mk.inj ran
      exact ⟨trivial, id⟩
  | loopPost signals => cases signals <;> cases code
  | _ => cases code

theorem fits_pass {l next : Label} {s : Shared} (passes : threads.Passes l next) (fits : l.Fits s) :
    next.Fits s := by
  cases l with
  | net pc => cases pc <;> rcases passes with code | code | code | code | code <;> cases code <;> trivial
  | loopPost signals =>
      cases signals <;> rcases passes with code | code | code | code | code <;> cases code <;> trivial
  | netUnlock pc next =>
      rcases passes with code | code | code | code | code <;> cases code
      split <;> trivial
  | enter | closeUnlock | closeNotify | closeJoin =>
      rcases passes with code | code | code | code | code <;> cases code
      exact fits
  | _ => rcases passes with code | code | code | code | code <;> cases code <;> trivial

/-- Every thread stands at a place that fits. -/
theorem fits_of_reachable {s : Threads.State Mutex Thread Label Shared}
    (reached : Threads.Reachable threads s) : ∀ t, (s.places t).Fits s.data := by
  apply reached.invariant (I := fun s => ∀ t, (s.places t).Fits s.data)
  · intro t
    cases t <;> trivial
  · intro s s' fits step u
    cases Threads.Shift.of_step step with
    | @act t l next run here code ran places =>
        obtain ⟨there, stops⟩ := fits_act code ran
        rw [places]
        by_cases same : u = t
        · subst same
          simpa using there
        · simpa [same] using (fits u).mono stops
    | @pass t next passes places data =>
        rw [places, data]
        by_cases same : u = t
        · subst same
          simpa using fits_pass passes (fits u)
        · simpa [same] using fits u
    | stay places data =>
        rw [places, data]
        exact fits u

/-! ### The closing threads are the threads -/

section Closing

variable {l next : Label} {s s' : Threads.State Mutex Thread Label Shared} {t : Thread}

/-- Where the closing threads do not act, they run the code of the threads. -/
theorem closing_code_eq (passive : ∀ run, threads.code l ≠ .act run) : closing.code l = threads.code l := by
  cases l with
  | ui => exact absurd rfl (passive _)
  | net pc =>
      cases pc with
      | idle => exact absurd rfl (passive _)
      | _ => rfl
  | _ => rfl

theorem threads_code_eq (passive : ∀ run, closing.code l ≠ .act run) (runs : closing.code l ≠ .halt) :
    threads.code l = closing.code l := by
  cases l with
  | ui => exact absurd rfl (passive _)
  | net pc =>
      cases pc with
      | idle => exact absurd rfl runs
      | _ => rfl
  | _ => rfl

theorem closing_halts (halted : closing.code l = .halt) : l = .uiDone ∨ l = .net .idle ∨ l = .loopDone := by
  cases l with
  | uiDone => exact .inl rfl
  | loopDone => exact .inr (.inr rfl)
  | net pc =>
      cases pc with
      | idle => exact .inr (.inl rfl)
      | _ => cases halted
  | loopPost signals => cases signals <;> cases halted
  | _ => cases halted

theorem closing_joins {u : Thread} (code : closing.code l = .join u next) :
    l = .closeJoin ∧ u = .animator := by
  cases l with
  | closeJoin =>
      cases code
      exact ⟨rfl, rfl⟩
  | net pc => cases pc <;> cases code
  | loopPost signals => cases signals <;> cases code
  | _ => cases code

theorem closing_act {run : Shared → Label → Shared → Prop} {d d' : Shared} (code : closing.code l = .act run)
    (ran : run d next d') : ∃ run', threads.code l = .act run' ∧ run' d next d' := by
  cases l with
  | ui =>
      cases code
      obtain ⟨rfl, rfl⟩ : _ = next ∧ _ = d' := Prod.mk.inj ran
      exact ⟨_, rfl, trivial, rfl⟩
  | net pc => cases pc <;> cases code
  | _ => exact ⟨run, code, ran⟩

/-- A step of the closing threads is a step of the threads. -/
theorem step_of_closing (reached : Threads.Reachable threads s) (step : Threads.Step closing s s') :
    Threads.Step threads s s' := by
  have passive : ∀ {l i}, closing.code l = i → (∀ run, i ≠ .act run) → i ≠ .halt → threads.code l = i := by
    intro l i code noAct noHalt
    subst code
    exact threads_code_eq noAct noHalt
  cases step with
  | act here code ran =>
      obtain ⟨run', code, ran⟩ := closing_act code ran
      exact .act here code ran
  | lock here code free => exact .lock here (passive code (by simp) (by simp)) free
  | unlock here code => exact .unlock here (passive code (by simp) (by simp))
  | wait here code => exact .wait here (passive code (by simp) (by simp))
  | wake here => exact .wake here
  | retake here free => exact .retake here free
  | notify here code there => exact .notify here (passive code (by simp) (by simp)) there
  | notifyNobody here code nobody => exact .notifyNobody here (passive code (by simp) (by simp)) nobody
  | @join t u l l' next here code there halted =>
      refine .join here (passive code (by simp) (by simp)) there ?_
      obtain ⟨-, rfl⟩ := closing_joins code
      have owned : l'.owner = .animator := (threads_lockDiscipline.holding reached).owner_eq there
      rcases closing_halts halted with rfl | rfl | rfl
      · cases owned
      · cases owned
      · rfl

theorem reachable_of_closing (reached : Threads.Reachable threads s)
    (steps : Relation.ReflTransGen (Threads.Step closing) s s') : Threads.Reachable threads s' := by
  induction steps with
  | refl => exact reached
  | tail _ step ih => exact ih.tail (step_of_closing ih step)

theorem waitsFor_of_closing {u : Thread} (waits : Threads.WaitsFor closing s t u) :
    Threads.WaitsFor threads s t u := by
  cases waits with
  | mutex wants held =>
      refine .mutex ?_ held
      cases wants with
      | lock here code => exact .lock here ((threads_code_eq (by simp [code]) (by simp [code])).trans code)
      | retake here => exact .retake here
  | join here code => exact .join here ((threads_code_eq (by simp [code]) (by simp [code])).trans code)

/-- No closing thread waits for itself. -/
theorem closing_acyclic (reached : Threads.Reachable threads s) (t : Thread) :
    ¬ Relation.TransGen (Threads.WaitsFor closing s) t t := fun cycle =>
  threads_lockDiscipline.no_wait_cycle reached t (cycle.lift id fun _ _ => waitsFor_of_closing)

/-- The animator's thread is the one that sleeps, and it goes back to its test. -/
theorem sleeper_of_reachable (reached : Threads.Reachable threads s) {m : Mutex}
    (sleeps : s.status t = .asleep m next ∨ s.status t = .woken m next) :
    t = .animator ∧ next = .loopTest := by
  obtain ⟨l, code⟩ := reached.returns t m next sleeps
  obtain rfl : l = .loopWait := isWait_iff.1 ⟨m, next, code⟩
  cases code
  have owned := (threads_lockDiscipline.holding reached).owned t
  rcases sleeps with there | there <;> rw [there] at owned <;> exact ⟨owned.symm, rfl⟩

/-- Handlers that take the operation mutex do not fault. -/
theorem Handler.enter_of_locks {h : Handler} (locks : h.locks = true) (s : Session) :
    ∃ entered, h.enter s = .ok entered := by
  cases h with
  | onFetchStatusMessage | onNotifySubscription | onNotifyUnsubscription | onUnexpectedTopicMessage => cases locks
  | _ => exact ⟨_, rfl⟩

theorem closing_enabled (reached : Threads.Reachable threads s) : Threads.Enabled closing s := by
  intro t l run here code
  have fits := fits_of_reachable reached t
  rw [Threads.State.places_of_status here] at fits
  cases l with
  | enterBody h id =>
      cases code
      obtain ⟨entered, ok⟩ := h.enter_of_locks fits s.data.session
      exact ⟨_, _, entered.next, by simp [Shared.enter, ok, Except.map]; rfl, rfl⟩
  | net pc => cases pc <;> cases code
  | loopPost signals => cases signals <;> cases code
  | ui | gate | startPush | handOver | requestDone | queryRead | popFirst | runTask | closeSet | netBody
  | loopTest | loopStop | loopPostBody | loopSleep =>
      cases code
      exact ⟨_, _, rfl⟩
  | _ => cases code

/-- Threads that have halted hold no mutex. -/
theorem unlocked_of_halted (reached : Threads.Reachable threads s) (here : s.status t = .ready l)
    (halted : closing.code l = .halt) (m : Mutex) : s.holder m ≠ some t := by
  intro held
  have inside := ((threads_lockDiscipline.holding reached).holds m t).1 held
  rw [here] at inside
  rcases closing_halts halted with rfl | rfl | rfl <;> cases inside

/-- Who sleeps although the animator was told to stop is about to be notified. -/
theorem closing_alarm (reached : Threads.Reachable threads s) (stopped : s.data.animator.stopped = true)
    {m : Mutex} (asleep : s.status t = .asleep m next) :
    ∃ u l, s.status u = .ready l ∧ closing.Announces l := by
  have awake : Awake s.data := by simp [Awake, Animator.awake, stopped]
  obtain ⟨u, l, -, ready, announces⟩ := threads_wakeDiscipline.no_lost_wakeup reached asleep awake
  refine ⟨u, l, ready, ?_⟩
  cases announces with
  | now code => exact .now ((closing_code_eq (by simp [code])).trans code)
  | afterUnlock code after =>
      exact .afterUnlock ((closing_code_eq (by simp [code])).trans code)
        ((closing_code_eq (by simp [after])).trans after)

/-- The place at which a closing thread halts. -/
def Thread.lastPlace : Thread → Label
  | .ui => .uiDone
  | .network => .net .idle
  | .animator => .loopDone

theorem eq_lastPlace (reached : Threads.Reachable threads s) (here : s.status t = .ready l)
    (halted : closing.code l = .halt) : l = t.lastPlace := by
  have owned : l.owner = t := (threads_lockDiscipline.holding reached).owner_eq here
  subst owned
  rcases closing_halts halted with rfl | rfl | rfl <;> rfl

/-- Where every closing thread has halted, the program has come to its end. -/
theorem ended_of_halted (reached : Threads.Reachable threads s)
    (halted : ∀ t, ∃ l, s.status t = .ready l ∧ closing.code l = .halt) : Ended s := by
  have last : ∀ t, s.status t = .ready t.lastPlace := by
    intro t
    obtain ⟨l, here, halt⟩ := halted t
    rw [here, eq_lastPlace reached here halt]
  refine ⟨last .ui, last .network, last .animator, fun m => ?_⟩
  cases holder : s.holder m with
  | none => rfl
  | some t =>
      obtain ⟨l, here, halt⟩ := halted t
      exact absurd holder (unlocked_of_halted reached here halt m)

/-! ### Once the animator was told to stop -/

/-- Every step of the closing threads lowers the load. -/
theorem closing_load_lt (reached : Threads.Reachable threads s) (stopped : s.data.animator.stopped = true)
    (step : Threads.Step closing s s') : Threads.load cost s' < Threads.load cost s := by
  refine step.load_lt fun t => ?_
  cases here : s.status t with
  | ready l => exact closing_lowers s.data l (.inl stopped)
  | asleep m next => exact Nat.lt_succ_self 4
  | woken m next =>
      obtain ⟨-, rfl⟩ := sleeper_of_reachable reached (.inr here)
      simp [Threads.Program.Descends, cost, Label.remaining, stopped]

theorem stopped_step (step : Threads.Step threads s s') (stopped : s.data.animator.stopped = true) :
    s'.data.animator.stopped = true := by
  cases Threads.Shift.of_step step with
  | act here code ran _ => exact (fits_act code ran).2 stopped
  | pass _ _ data | stay _ data => rwa [data]

/-- They are at the end, or somebody can go on; nobody needs to wake up by itself. -/
theorem closing_progress (reached : Threads.Reachable threads s) (stopped : s.data.animator.stopped = true) :
    (∃ s', Threads.Prompt closing s s') ∨ Ended s :=
  (Threads.exists_prompt_or_halted (closing_enabled reached) (closing_acyclic reached)
    (fun _ _ m here halted => unlocked_of_halted reached here halted m)
    (fun _ _ _ asleep => closing_alarm reached stopped asleep)).imp_right (ended_of_halted reached)

/-! ### Until the animator is told to stop -/

/-- As long as the animator has not been told to stop, somebody can go on who is not the animator's thread
    starting a round: the UI thread, or who holds what it waits for. -/
theorem closing_unblocks (reached : Threads.Reachable threads s)
    (running : s.data.animator.stopped = false) :
    ∃ s', Threads.Prompt closing s s' ∧ Threads.load cost s' < Threads.load cost s := by
  have holding := threads_lockDiscipline.holding reached
  obtain ⟨u, chain, unblocked⟩ := Threads.exists_unblocked (closing_acyclic reached) .ui
  have busy : ∃ l, s.status u = .ready l ∧ closing.code l ≠ .halt ∧ l ≠ .loop := by
    rcases Relation.ReflTransGen.cases_tail chain with same | ⟨w, -, waits⟩
    · subst same
      cases here : s.status .ui with
      | ready l =>
          have owned : l.owner = .ui := holding.owner_eq here
          have fits := fits_of_reachable reached .ui
          rw [Threads.State.places_of_status here] at fits
          refine ⟨l, rfl, fun halted => ?_, fun same => ?_⟩
          · obtain rfl := eq_lastPlace reached here halted
            exact absurd (running.symm.trans fits) (by simp)
          · subst same
            cases owned
      | asleep m next => exact absurd (sleeper_of_reachable reached (.inl here)).1 (by simp)
      | woken m next => exact absurd (sleeper_of_reachable reached (.inr here)).1 (by simp)
    · cases waits with
      | @mutex m _ held =>
          have inside := (holding.holds m u).1 held
          cases there : s.status u with
          | ready l =>
              rw [there] at inside
              refine ⟨l, rfl, fun halted => unlocked_of_halted reached there halted m held, fun same => ?_⟩
              subst same
              cases inside
          | asleep m' next =>
              obtain ⟨-, rfl⟩ := sleeper_of_reachable reached (.inl there)
              rw [there] at inside
              cases inside
          | woken m' next =>
              obtain ⟨-, rfl⟩ := sleeper_of_reachable reached (.inr there)
              rw [there] at inside
              cases inside
      | join here code =>
          have fits := fits_of_reachable reached w
          rw [Threads.State.places_of_status here, (closing_joins code).1] at fits
          exact absurd (running.symm.trans fits) (by simp)
  obtain ⟨l, there, runs, round⟩ := busy
  obtain ⟨s', prompt, lowers⟩ := Threads.exists_prompt_of_unblocked (closing_enabled reached)
    (by simp [there]) (by simpa [there] using runs) unblocked
  refine ⟨s', prompt, lowers cost (fun _ _ _ => Nat.le_succ 4) ?_⟩
  rw [there]
  exact closing_lowers s.data l (.inr round)

end Closing

/-! ### The end -/

/-- The program can always be brought to its end: from every state that the threads can reach, the closing
    threads have an execution that ends it, in which nobody wakes up without a notification. -/
theorem threads_can_end {s : Threads.State Mutex Thread Label Shared} (reached : Threads.Reachable threads s) :
    ∃ s', Relation.ReflTransGen (Threads.Prompt closing) s s' ∧ Ended s' := by
  have keeps : ∀ {s s'}, Threads.Reachable threads s → Threads.Prompt closing s s' →
      Threads.Reachable threads s' := fun reached prompt => reached.tail (step_of_closing reached prompt.1)
  have next : ∀ s, Threads.Reachable threads s → ¬ Ended s →
      ∃ s', Threads.Prompt closing s s' ∧ Threads.Reachable threads s' ∧
        Threads.load cost s' < Threads.load cost s := by
    intro s reached short
    cases stopped : s.data.animator.stopped with
    | false =>
        obtain ⟨s', prompt, less⟩ := closing_unblocks reached stopped
        exact ⟨s', prompt, keeps reached prompt, less⟩
    | true =>
        rcases closing_progress reached stopped with ⟨s', prompt⟩ | ended
        · exact ⟨s', prompt, keeps reached prompt, closing_load_lt reached stopped prompt.1⟩
        · exact absurd ended short
  obtain ⟨s', steps, -, ended⟩ := Threads.reaches_of_variant (Threads.load cost) next reached
  exact ⟨s', steps, ended⟩

/-- From the moment at which a new signal has not been announced to the sleeping animator yet. -/
theorem signalBeforeNotify_can_end :
    ∃ s s', s.status .animator = .asleep .animator .loopTest ∧ s.data.animator.signals = ["fetch"] ∧
      Relation.ReflTransGen (Threads.Prompt closing) s s' ∧ Ended s' := by
  obtain ⟨s, reached, asleep, signals⟩ := signalBeforeNotify_reachable
  obtain ⟨s', steps, ended⟩ := threads_can_end reached
  exact ⟨s, s', asleep, signals, steps, ended⟩

/-- Once `Animator::~Animator` has set `m_stop`, the closing threads come to the end whatever the schedule:
    they have no infinite execution, and they can always go on until they are there, without a spurious
    wake-up. -/
theorem threads_must_end {s : Threads.State Mutex Thread Label Shared} (reached : Threads.Reachable threads s)
    (stopped : s.data.animator.stopped = true) :
    Acc (fun s₂ s₁ => Threads.Step closing s₁ s₂) s ∧
      ∀ s', Relation.ReflTransGen (Threads.Step closing) s s' →
        (∃ s'', Threads.Prompt closing s' s'') ∨ Ended s' := by
  constructor
  · apply Threads.acc_of_variant (R := Threads.Step closing)
      (I := fun s => Threads.Reachable threads s ∧ s.data.animator.stopped = true) (Threads.load cost) ?_
      ⟨reached, stopped⟩
    intro s s' before step
    rcases before with ⟨reached, stopped⟩
    have taken := step_of_closing reached step
    exact ⟨⟨reached.tail taken, stopped_step taken stopped⟩, closing_load_lt reached stopped step⟩
  · intro s' steps
    refine closing_progress (reachable_of_closing reached steps) ?_
    induction steps with
    | refl => exact stopped
    | tail steps step ih =>
        exact stopped_step (step_of_closing (reachable_of_closing reached steps) step) ih

/-- The animator goes to sleep, and the user exits, up to `m_stop` in `Animator::~Animator`. -/
theorem stopBeforeNotify_reachable :
    ∃ s, Threads.Reachable threads s ∧ s.status .animator = .asleep .animator .loopTest ∧
      s.data.animator.stopped = true := by
  have asleep := (((Relation.ReflTransGen.refl
    |>.tail (Threads.Step.lock (P := threads) (s := threads.init) (t := .animator) rfl rfl rfl))
    |>.tail (.act (t := .animator) rfl rfl rfl))
    |>.tail (.wait (t := .animator) rfl rfl))
  have entry : Label.IsUiEntry .close := trivial
  have told := ((asleep
    |>.tail (.act (t := .ui) rfl rfl ⟨entry, rfl⟩))
    |>.tail (.lock (t := .ui) rfl rfl rfl))
    |>.tail (.act (t := .ui) rfl rfl rfl)
  exact ⟨_, told, rfl, rfl⟩

theorem stopBeforeNotify_must_end :
    ∃ s, s.status .animator = .asleep .animator .loopTest ∧
      Acc (fun s₂ s₁ => Threads.Step closing s₁ s₂) s ∧
        ∀ s', Relation.ReflTransGen (Threads.Step closing) s s' →
          (∃ s'', Threads.Prompt closing s' s'') ∨ Ended s' := by
  obtain ⟨s, reached, asleep, stopped⟩ := stopBeforeNotify_reachable
  exact ⟨s, asleep, threads_must_end reached stopped⟩

end Dmon
