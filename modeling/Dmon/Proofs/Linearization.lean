/-
Module: Dmon.Proofs.Linearization
Layer: Proofs
Purpose: The three threads, interleaved instruction by instruction, do what the atomic program does. An
  operation of the user counts as done when it puts its signal into the animator, or when it is refused; a
  handler when it leaves its first critical section; a posted task when it is taken from the queue. The
  record of these moments, in the order in which they come in an execution, is a run of the atomic program
  to a state that agrees with the shared data, up to what the UI thread has begun or still owes.
Imports: Dmon.Lib.Linearization, Dmon.Proofs.Deadlock, Dmon.Proofs.Transitions
Trusted boundary: none
Main exports: Label.StandsFor, Explains, threads_linearization, threads_linearized
-/
import Dmon.Lib.Linearization
import Dmon.Proofs.Deadlock
import Dmon.Proofs.Transitions

namespace Dmon

open TransitionSystem (Free)

/-! ### What an instruction stands for -/

namespace Operation

/-- The event of the atomic program that the operation is. -/
def event : Operation → String → Event
  | .fetch, selector => .fetch selector
  | .subscribe, selector => .subscribe selector

/-- What the operation does to the session up to the call of the start callback. -/
def opens : Operation → String → Session → Session
  | .fetch, selector, s => s.beginFetch selector
  | .subscribe, selector, s => s.beginSubscribe selector

/-- What the component does when the operation has been accepted. -/
def restarts : Operation → MainComponent → MainComponent
  | .fetch, c => c.resetSpinner
  | .subscribe, c => c.resetSubscribtionSpinner

theorem begin_eq (op : Operation) (s : Shared) (selector : String) :
    op.begin s selector = { s with session := op.opens selector s.session } := by
  cases op <;> rfl

theorem restartSpinner_eq (op : Operation) (s : Shared) :
    op.restartSpinner s = { s with component := op.restarts s.component } := by
  cases op <;> rfl

/-- The event of an accepted operation, in the atomic program. -/
theorem step_event (op : Operation) {w : World} (selector : String) (accepts : w.session.accepts = true) :
    program.step w (op.event selector) =
      some { w with
        session := op.opens selector w.session
        animator := w.animator.start op.signal
        component := op.restarts w.component
        library := w.library.handOver op.kind selector } := by
  cases op <;>
    simp [program, World.step, event, Shared.search, Shared.fetch, Shared.requestSubscription,
      Shared.subscribe, accepts] <;>
    exact ⟨rfl, rfl, rfl, rfl, rfl⟩

/-- The event of a refused operation, in the atomic program. -/
theorem step_event_refused (op : Operation) {w : World} (selector : String)
    (refuses : w.session.accepts = false) : program.step w (op.event selector) = some w := by
  cases op <;>
    simp [program, World.step, event, Shared.search, Shared.fetch, Shared.requestSubscription,
      Shared.subscribe, refuses]

end Operation

/-- The event that the instruction at a place stands for. A handler that takes no lock is over, or gets to its
    first critical section, in one step. -/
def Label.StandsFor (l : Label) (s : Shared) (next : Label) (s' : Shared) (e : Option Event) : Prop :=
  match l with
  | .gate op selector => e = if s.session.accepts then none else some (op.event selector)
  | .startPush op selector => e = some (op.event selector)
  | .popFirst => e = s.queue.head?.map fun _ => .runTask
  | .net _ => ∃ (h : Handler) (id : Nat),
      if h.locks then next = .enter h id ∧ e = none
      else (∃ pc, s.enter h id = .ok (s', pc) ∧ next = .net pc) ∧ e = some (.deliver h id)
  | .enterBody h id => e = some (.deliver h id)
  | .netBody _ => e = some .advance
  | .loopPostBody sig _ => e = some (.animate sig)
  | _ => e = none

/-- Every instruction that acts stands for an event or for nothing. -/
theorem standsFor_total (l : Label) (run : Shared → Label → Shared → Prop) (s : Shared) (next : Label)
    (s' : Shared) (code : threads.code l = .act run) (ran : run s next s') :
    ∃ e, l.StandsFor s next s' e := by
  cases l with
  | net pc =>
      cases pc with
      | idle =>
          cases code
          rcases ran with ⟨h, id, ran⟩
          split at ran
          next locks => exact ⟨none, h, id, by simpa [locks] using ran.1⟩
          next free =>
            rcases ran with ⟨pc, ok, there⟩
            exact ⟨_, h, id, by simpa [free] using ⟨⟨pc, ok, there⟩, rfl⟩⟩
      | _ => cases code
  | _ => exact ⟨_, rfl⟩

/-! ### What the atomic program has done already -/

/-- The accepted operation that has opened the session and has not got to its signal yet. -/
def Label.opening? : Label → Option (Operation × String)
  | .start op selector | .startPush op selector => some (op, selector)
  | _ => none

/-- What the UI thread still owes to the component. -/
def Label.owes : Label → MainComponent → MainComponent
  | .startUnlock op _ | .startNotify op _ | .handOver op _ => op.restarts
  | .requestUnlock op accepted | .requestDone op accepted => fun c =>
      if accepted then op.restarts c else c
  | .popUnlock task | .runTask task => fun c => task.elim c c.runTask
  | _ => id

/-- Where the network thread stands between two of its critical sections. -/
def Label.netPc : Label → NetPc
  | .net pc | .netBody pc => pc
  | .enterUnlock next | .netUnlock _ next | .netNotify next => next
  | _ => .idle

/-- The signals that the animator's loop still has to post. -/
def Label.posting : Label → List String
  | .loopPost signals => signals
  | .loopPostBody sig rest => sig :: rest
  | .loopPostUnlock rest => rest
  | _ => []

/-- A place in a critical section of a handler is one of a running handler. -/
def Label.Runs : Label → Prop
  | .netBody pc => pc ≠ .idle
  | _ => True

/-- The places of the three threads and the shared data against a state of the atomic program. -/
structure Explains (uiAt netAt loopAt : Label) (s : Shared) (w : World) : Prop where
  session : s.session = uiAt.opening?.elim w.session fun p => p.1.opens p.2 w.session
  accepts : uiAt.opening?.isSome → w.session.accepts = true
  signals : w.animator.signals = s.animator.signals
  queue : w.queue = s.queue
  component : w.component = uiAt.owes s.component
  net : w.net = netAt.netPc
  runs : netAt.Runs
  posting : ∀ sig ∈ loopAt.posting, sig ∈ s.animator.signals

/-- `Explains` for the places of all threads. -/
def ExplainsAll (places : Thread → Label) (s : Shared) (w : World) : Prop :=
  Explains (places .ui) (places .network) (places .animator) s w

/-- Taking and giving up a mutex, waiting, notifying and joining change nothing of this. -/
theorem view_of_passes {l next : Label} (passes : threads.Passes l next) :
    next.opening? = l.opening? ∧ next.owes = l.owes ∧ next.netPc = l.netPc ∧
      next.posting = l.posting ∧ next.Runs := by
  cases l with
  | net pc =>
      cases pc with
      | idle => cases passes <;> contradiction
      | _ =>
          rcases passes with code | code | code | code | code <;> cases code
          exact ⟨rfl, rfl, rfl, rfl, by simp [Label.Runs]⟩
  | loopPost signals =>
      cases signals <;>
        (rcases passes with code | code | code | code | code <;> cases code
         exact ⟨rfl, rfl, rfl, rfl, trivial⟩)
  | netUnlock pc next =>
      rcases passes with code | code | code | code | code <;> cases code
      split <;> exact ⟨rfl, rfl, rfl, rfl, trivial⟩
  | _ =>
      rcases passes with code | code | code | code | code <;> cases code <;>
        exact ⟨rfl, rfl, rfl, rfl, trivial⟩

theorem explains_pass {places : Thread → Label} {s : Shared} {w : World} {t : Thread} {next : Label}
    (explains : ExplainsAll places s w) (passes : threads.Passes (places t) next) :
    ExplainsAll (Function.update places t next) s w := by
  obtain ⟨opening, owes, net, posting, runs⟩ := view_of_passes passes
  cases t with
  | ui =>
      exact { explains with
        session := by simpa [opening] using explains.session
        accepts := by simpa [opening] using explains.accepts
        component := by simpa [owes] using explains.component }
  | network =>
      exact { explains with
        net := by simpa [net] using explains.net
        runs := by simpa using runs }
  | animator =>
      exact { explains with posting := by simpa [posting] using explains.posting }

/-! ### Critical sections -/

section Exclusion

variable {s : Threads.State Mutex Thread Label Shared} {t u : Thread} {l : Label} {m : Mutex}

/-- Only the animator's thread waits, and it returns to the test of its predicate. -/
theorem status_ready (reached : Threads.Reachable threads s) (elsewhere : s.places t ≠ .loopTest) :
    s.status t = .ready (s.places t) := by
  have returns := reached.returns t
  cases here : s.status t with
  | ready l => rw [Threads.State.places_of_status here, Threads.Status.label]
  | asleep m next | woken m next =>
      obtain ⟨l, code⟩ := returns m next (by simp [here])
      obtain rfl : l = .loopWait := isWait_iff.1 ⟨m, next, code⟩
      cases code
      exact absurd (Threads.State.places_of_status here) elsewhere

/-- Two threads are not inside one mutex. -/
theorem places_exclusive (reached : Threads.Reachable threads s) (here : s.status t = .ready l)
    (mine : m ∈ l.held) (theirs : m ∈ (s.places u).held) (elsewhere : s.places u ≠ .loopTest) : u = t := by
  have holding := threads_lockDiscipline.holding reached
  apply holding.exclusive (m := m)
  · rw [status_ready reached elsewhere]
    exact theirs
  · rw [here]
    exact mine

/-- While another thread is inside the operation mutex, the UI thread has not opened an operation. -/
theorem opening?_eq_none (reached : Threads.Reachable threads s) (here : s.status t = .ready l)
    (mine : .operation ∈ l.held) (other : t ≠ .ui) : (s.places .ui).opening? = none := by
  cases there : s.places .ui with
  | start | startPush =>
      have same : Thread.ui = t :=
        places_exclusive reached here mine (by simp [there, Label.held]) (by simp [there])
      exact absurd same.symm other
  | _ => rfl

/-- While another thread is inside the animator's mutex, the animator's loop is not posting. -/
theorem posting_eq_nil (reached : Threads.Reachable threads s) (here : s.status t = .ready l)
    (mine : .animator ∈ l.held) (other : t ≠ .animator) : (s.places .animator).posting = [] := by
  cases there : s.places .animator with
  | loopPost | loopPostBody | loopPostUnlock =>
      have same : Thread.animator = t :=
        places_exclusive reached here mine (by simp [there, Label.held]) (by simp [there])
      exact absurd same.symm other
  | _ => rfl

/-- A thread runs its own code. -/
theorem owner_eq (reached : Threads.Reachable threads s) (here : s.status t = .ready l) : l.owner = t :=
  (threads_lockDiscipline.holding reached).owner_eq here

end Exclusion

/-! ### Handlers that take no lock -/

/-- A handler that takes no lock at most notes a notification, whatever the session is. -/
theorem Handler.enter_of_not_locks {h : Handler} (free : h.locks = false) {s : Session} {entered : Entered}
    (ok : h.enter s = .ok entered) : ∃ ts : Option SubscriptionNotification, ∀ s' : Session,
      h.enter s' = .ok (.done entered.returns (ts.elim s' s'.onTopicSubscriptionEvent)) := by
  cases h with
  | onFetch | onFetchDiscard | onSubscribe => cases free
  | onTopic message | onSubscribeTopicMessage message =>
      cases message with
      | none => cases ok; exact ⟨none, fun _ => rfl⟩
      | some message => cases free
  | onFetchError error | onSubscribeError error | onUnsubscribeError error =>
      cases error with
      | none => cases ok; exact ⟨none, fun _ => rfl⟩
      | some error => cases free
  | onFetchStatusMessage status =>
      cases status with
      | none => cases ok; exact ⟨none, fun _ => rfl⟩
      | some status =>
          obtain ⟨dumped, rfl⟩ := Handlers.onFetchStatusMessage_ok_iff.1 ok
          exact ⟨none, fun _ => Handlers.onFetchStatusMessage_ok_iff.2 ⟨dumped, rfl⟩⟩
  | onGlobalError argument =>
      cases argument <;> cases ok <;> exact ⟨none, fun _ => rfl⟩
  | onSubscribeDiscard | onUnsubscribe | onUnsubscribeDiscard =>
      cases ok
      exact ⟨none, fun _ => rfl⟩
  | onUnexpectedTopicMessage message =>
      cases message with
      | none => cases ok
      | some message => cases ok; exact ⟨none, fun _ => rfl⟩
  | onNotifySubscription request =>
      rcases request with ⟨id, path⟩
      cases path with
      | none => cases ok
      | some path => cases ok; exact ⟨some _, fun _ => rfl⟩
  | onNotifyUnsubscription request =>
      rcases request with ⟨id, path, reason⟩
      cases path with
      | none => cases ok
      | some path => cases ok; exact ⟨some _, fun _ => rfl⟩

/-- Noting a notification commutes with the operation that the UI thread has opened. -/
theorem Operation.opens_onTopicSubscriptionEvent (op : Operation) (selector : String) (s : Session)
    (ts : SubscriptionNotification) : (op.opens selector s).onTopicSubscriptionEvent ts =
      op.opens selector (s.onTopicSubscriptionEvent ts) := by
  cases op <;> rfl

/-! ### The threads against the atomic program -/

section Acts

variable {l next uiAt netAt loopAt : Label} {run : Shared → Label → Shared → Prop} {s s' : Shared} {w : World}
  {e : Option Event}

theorem signals_start_congr {a b : Animator} (same : a.signals = b.signals) (sig : String) :
    (a.start sig).signals = (b.start sig).signals := by
  unfold Animator.start
  rw [same]
  split
  · rfl
  · exact same

/-- An instruction of the UI thread. -/
theorem explains_ui (explains : Explains l netAt loopAt s w) (code : threads.code l = .act run)
    (ran : run s next s') (stands : l.StandsFor s next s' e) (owned : l.owner = .ui) :
    program.Matches Free w e fun w' => Explains next netAt loopAt s' w' := by
  cases l with
  | ui =>
      cases code
      obtain ⟨entry, rfl⟩ := ran
      subst stands
      cases next with
      | request | query | pop | close => exact { explains with }
      | _ => cases entry
  | gate op selector =>
      have same : s.session = w.session := explains.session
      cases code
      cases accepts : s.session.accepts with
      | true =>
          obtain ⟨rfl, rfl⟩ : _ = next ∧ _ = s' := by simpa [accepts] using ran
          obtain rfl : e = none := by simpa [Label.StandsFor, accepts] using stands
          rw [op.begin_eq]
          exact { explains with
            session := by rw [same]; rfl
            accepts := fun _ => same ▸ accepts }
      | false =>
          obtain ⟨rfl, rfl⟩ : _ = next ∧ _ = s' := by simpa [accepts] using ran
          obtain rfl : e = some (op.event selector) := by simpa [Label.StandsFor, accepts] using stands
          exact ⟨w, trivial, op.step_event_refused selector (same ▸ accepts), { explains with }⟩
  | startPush op selector =>
      cases code
      obtain ⟨rfl, rfl⟩ : _ = next ∧ _ = s' := Prod.mk.inj ran
      obtain rfl : e = _ := stands
      refine ⟨_, trivial, op.step_event selector (explains.accepts rfl), ?_⟩
      exact { explains with
        session := explains.session
        accepts := nofun
        signals := signals_start_congr explains.signals op.signal
        component := congrArg op.restarts explains.component
        posting := fun sig here => Animator.mem_start.2 (.inl (explains.posting sig here)) }
  | handOver op selector =>
      cases code
      obtain ⟨rfl, rfl⟩ : _ = next ∧ _ = s' := Prod.mk.inj ran
      subst stands
      exact { explains with }
  | requestDone op accepted =>
      cases code
      obtain ⟨rfl, rfl⟩ : _ = next ∧ _ = s' := Prod.mk.inj ran
      subst stands
      cases accepted with
      | true =>
          rw [if_pos rfl, op.restartSpinner_eq]
          exact { explains with }
      | false => exact { explains with }
  | queryRead op =>
      cases code
      obtain ⟨rfl, rfl⟩ : _ = next ∧ _ = s' := Prod.mk.inj ran
      subst stands
      exact { explains with }
  | popFirst =>
      cases code
      obtain ⟨rfl, rfl⟩ : _ = next ∧ _ = s' := Prod.mk.inj ran
      obtain rfl : e = _ := stands
      cases queue : s.queue with
      | nil =>
          exact { explains with
            queue := by simp [Shared.popTask, explains.queue, queue] }
      | cons task rest =>
          have waiting : w.queue = task :: rest := explains.queue.trans queue
          refine ⟨{ w with toShared := w.popTask.runTask task }, trivial, ?_, ?_⟩
          · simp only [program, World.step, waiting]
          · exact { explains with
              queue := congrArg List.tail explains.queue
              component := by
                rw [List.head?_cons]
                exact congrArg (·.runTask task) explains.component }
  | runTask task =>
      cases code
      obtain ⟨rfl, rfl⟩ : _ = next ∧ _ = s' := Prod.mk.inj ran
      subst stands
      cases task <;> exact { explains with }
  | closeSet =>
      cases code
      obtain ⟨rfl, rfl⟩ : _ = next ∧ _ = s' := Prod.mk.inj ran
      subst stands
      exact { explains with }
  | net pc | netBody | enterBody | loopTest | loopStop | loopPostBody | loopSleep => cases owned
  | loopPost signals => cases owned
  | _ => cases code

/-- An instruction of the animator's thread. -/
theorem explains_animator (explains : Explains uiAt netAt l s w) (code : threads.code l = .act run)
    (ran : run s next s') (stands : l.StandsFor s next s' e) (owned : l.owner = .animator) :
    program.Matches Free w e fun w' => Explains uiAt netAt next s' w' := by
  cases l with
  | loopTest =>
      cases code
      obtain ⟨rfl, rfl⟩ : _ = next ∧ _ = s' := Prod.mk.inj ran
      subst stands
      refine { explains with posting := ?_ }
      split <;> exact nofun
  | loopStop =>
      cases code
      obtain ⟨rfl, rfl⟩ : _ = next ∧ _ = s' := Prod.mk.inj ran
      subst stands
      refine { explains with posting := ?_ }
      split
      · exact nofun
      · exact fun sig here => here
  | loopPostBody sig rest =>
      cases code
      obtain ⟨rfl, rfl⟩ : _ = next ∧ _ = s' := Prod.mk.inj ran
      obtain rfl : e = _ := stands
      have present : sig ∈ w.animator.signals :=
        explains.signals ▸ explains.posting sig (List.mem_cons_self ..)
      refine ⟨{ w with toShared := w.post (.event sig) }, trivial, ?_, ?_⟩
      · simp only [program, World.step, if_pos present]
      · exact { explains with
          queue := congrArg (· ++ [Task.event sig]) explains.queue
          posting := fun x here => explains.posting x (List.mem_cons_of_mem _ here) }
  | loopSleep =>
      cases code
      obtain ⟨rfl, rfl⟩ : _ = next ∧ _ = s' := Prod.mk.inj ran
      subst stands
      exact { explains with }
  | loopPost signals => cases signals <;> cases code
  | loop | loopWait | loopPostUnlock | loopBreak | loopDone => cases code
  | _ => cases owned

theorem enter_eq_ok {h : Handler} {id : Nat} {pc : NetPc} (ok : s.enter h id = .ok (s', pc)) :
    ∃ entered, h.enter s.session = .ok entered ∧ pc = entered.next ∧
      s' = { s with session := entered.session, library := s.library.record h id } := by
  unfold Shared.enter at ok
  cases entered : h.enter s.session with
  | error fault => simp [entered, Except.map] at ok
  | ok result =>
      simp only [entered, Except.map, Except.ok.injEq, Prod.mk.injEq] at ok
      exact ⟨result, rfl, ok.2.symm, ok.1.symm⟩

theorem step_deliver {h : Handler} {id : Nat} {entered : Entered} (idle : w.net = .idle)
    (ok : h.enter w.session = .ok entered) : program.step w (.deliver h id) =
      some { w with
        session := entered.session
        library := w.library.record h id
        net := entered.next } := by
  simp only [program, World.step, idle, Shared.enter, ok, Except.map]
  rfl

theorem step_advance {pc : NetPc} (here : w.net = pc) (running : pc ≠ .idle) :
    program.step w .advance = some { toShared := (w.advance pc).1, net := (w.advance pc).2 } := by
  subst here
  simp only [program, World.step, if_neg running]

/-- A handler that takes no lock, while the UI thread may have opened an operation. -/
theorem explains_unlocked {h : Handler} {id : Nat} {pc : NetPc} (explains : Explains uiAt netAt loopAt s w)
    (idle : netAt.netPc = .idle) (free : h.locks = false) (ok : s.enter h id = .ok (s', pc)) :
    program.Matches Free w (some (.deliver h id)) fun w' => Explains uiAt (.net pc) loopAt s' w' := by
  obtain ⟨entered, ran, rfl, rfl⟩ := enter_eq_ok ok
  obtain ⟨ts, every⟩ := h.enter_of_not_locks free ran
  have returned : entered = _ := Except.ok.inj (ran.symm.trans (every s.session))
  have session : entered.session = ts.elim s.session s.session.onTopicSubscriptionEvent :=
    congrArg Entered.session returned
  refine ⟨_, trivial, step_deliver (explains.net.trans idle) (every w.session), ?_⟩
  rw [session]
  refine { explains with
    session := ?_
    accepts := ?_
    net := (congrArg Entered.next returned).symm
    runs := trivial }
  · have related := explains.session
    cases ts with
    | none => exact related
    | some ts =>
        cases opening : uiAt.opening? with
        | none =>
            rw [opening] at related
            exact congrArg (·.onTopicSubscriptionEvent ts) related
        | some opened =>
            rw [opening] at related
            calc s.session.onTopicSubscriptionEvent ts
                = (opened.1.opens opened.2 w.session).onTopicSubscriptionEvent ts :=
                  congrArg (·.onTopicSubscriptionEvent ts) related
              _ = opened.1.opens opened.2 (w.session.onTopicSubscriptionEvent ts) :=
                  opened.1.opens_onTopicSubscriptionEvent ..
  · intro opening
    have accepts := explains.accepts opening
    cases ts <;> exact accepts

/-- An instruction of the network thread. -/
theorem explains_network (explains : Explains uiAt l loopAt s w) (code : threads.code l = .act run)
    (ran : run s next s') (stands : l.StandsFor s next s' e) (owned : l.owner = .network)
    (closed : .operation ∈ l.held → uiAt.opening? = none)
    (silent : .animator ∈ l.held → loopAt.posting = []) :
    program.Matches Free w e fun w' => Explains uiAt next loopAt s' w' := by
  cases l with
  | net pc =>
      cases pc with
      | idle =>
          cases code
          rcases stands with ⟨h, id, stands⟩
          split at stands
          next locks =>
            obtain ⟨rfl, rfl⟩ := stands
            obtain ⟨h', id', ran⟩ := ran
            split at ran
            next =>
              obtain ⟨-, rfl⟩ := ran
              exact { explains with runs := trivial }
            next =>
              obtain ⟨pc, -, there⟩ := ran
              cases there
          next free =>
            obtain ⟨⟨pc, ok, rfl⟩, rfl⟩ := stands
            exact explains_unlocked explains rfl (by simpa using free) ok
      | _ => cases code
  | enterBody h id =>
      cases code
      obtain ⟨pc, ok, rfl⟩ := ran
      obtain rfl : e = _ := stands
      have same : s.session = w.session := by
        simpa [closed (List.mem_singleton.2 rfl)] using explains.session
      obtain ⟨entered, entry, rfl, rfl⟩ := enter_eq_ok ok
      refine ⟨_, trivial, step_deliver explains.net (same ▸ entry), ?_⟩
      exact { explains with
        session := by rw [closed (List.mem_singleton.2 rfl)]; rfl
        accepts := by simp [closed (List.mem_singleton.2 rfl)]
        net := rfl
        runs := trivial }
  | netBody pc =>
      cases code
      obtain ⟨rfl, rfl⟩ : _ = next ∧ _ = s' := Prod.mk.inj ran
      obtain rfl : e = _ := stands
      refine ⟨_, trivial, step_advance explains.net explains.runs, ?_⟩
      cases pc with
      | idle => exact absurd rfl explains.runs
      | testSubscription =>
          have none : uiAt.opening? = none := closed (List.mem_singleton.2 rfl)
          have same : s.session = w.session := by simpa [none] using explains.session
          exact { explains with
            net := by simp [Shared.advance, Label.netPc, same]
            runs := trivial }
      | stop callback =>
          have none : loopAt.posting = [] := silent (List.mem_singleton.2 rfl)
          exact { explains with
            signals := congrArg (List.filter (· != callback.signal)) explains.signals
            net := rfl
            runs := trivial
            posting := by simp [none] }
      | captureFetch selector | captureSubscribe selector =>
          have none : uiAt.opening? = none := closed (List.mem_singleton.2 rfl)
          have same : s.session = w.session := by simpa [none] using explains.session
          exact { explains with
            session := by simp [none, Shared.advance, Label.netPc, same]
            accepts := by simp [none]
            net := by simp [Shared.advance, Label.netPc, same]
            runs := trivial }
      | post task =>
          exact { explains with
            queue := congrArg (· ++ [task]) explains.queue
            net := rfl
            runs := trivial }
      | postEvent sig =>
          exact { explains with
            queue := congrArg (· ++ [Task.event sig]) explains.queue
            net := rfl
            runs := trivial }
  | enter | enterUnlock | netUnlock | netNotify => cases code
  | _ => cases owned

end Acts

/-- The threads against the atomic program. -/
theorem threads_linearization : Threads.Linearization threads Label.StandsFor (fun _ _ => True) program Free
    ExplainsAll where
  starts := ⟨rfl, nofun, rfl, rfl, rfl, rfl, trivial, nofun⟩
  passes := fun _ _ _ _ _ explains passes => explains_pass explains passes
  acts := by
    intro s w t l next run s' e reached explains here code ran stands _
    have owned : l.owner = t := owner_eq reached here
    have place : s.places t = l := Threads.State.places_of_status here
    cases t with
    | ui =>
        have related : Explains l (s.places .network) (s.places .animator) s.data w := place ▸ explains
        simpa [ExplainsAll] using explains_ui related code ran stands owned
    | network =>
        have related : Explains (s.places .ui) l (s.places .animator) s.data w := place ▸ explains
        have matched := explains_network related code ran stands owned
          (fun mine => opening?_eq_none reached here mine (by decide))
          (fun mine => posting_eq_nil reached here mine (by decide))
        simpa [ExplainsAll] using matched
    | animator =>
        have related : Explains (s.places .ui) (s.places .network) l s.data w := place ▸ explains
        simpa [ExplainsAll] using explains_animator related code ran stands owned

/-- The three threads linearize to the atomic program. Every execution has a record of the moments at which
    its operations, handlers and tasks take effect, and the record of every execution is a run of the atomic
    program: to a state with the same queue, signals and place of the network thread, with the same session
    unless the UI thread has just opened an operation, and with the same component but for the task in the
    UI thread's hands or the spinner it still has to reset. -/
theorem threads_linearized :
    (∀ s, Threads.Reachable threads s →
      ∃ r, Threads.Reachable (threads.recorded Label.StandsFor fun _ (_ : Event) => True) r ∧
        r.forget = s) ∧
      ∀ r, Threads.Reachable (threads.recorded Label.StandsFor fun _ _ => True) r →
        ∃ w, program.Run Free r.data.2 w ∧ ExplainsAll r.places r.data.1 w := by
  constructor
  · intro s reached
    exact Threads.exists_recorded standsFor_total reached
  · intro r reached
    exact threads_linearization.run reached

end Dmon
