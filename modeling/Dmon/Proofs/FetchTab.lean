/-
Module: Dmon.Proofs.FetchTab
Layer: Proofs
Purpose: What the fetch tab shows does not depend on subscription traffic. `FetchTab` is the abstract machine
  of the fetch side alone; `World.fetchTab` projects the program onto it. Steps that concern the fetch
  side are steps of the machine and the others leave the projection as it is, so a run and the run that
  is left of it without the subscription traffic have the same projection and the same fetch results.
Imports: Dmon.Lib.Purge, Dmon.Proofs.Atomic
Trusted boundary: none
Main exports: FetchTab, FetchTab.after, World.fetchTab, concernsFetch, AtomicTransition.fetchTab,
  fetch_tab_independent
-/
import Dmon.Lib.Purge
import Dmon.Proofs.Atomic

namespace Dmon

open TransitionSystem (Free)

/-! ### The abstract machine -/

/-- A queued task that concerns the fetch tab: the result of a fetch, or the spinner's event. -/
inductive FetchTask where
  | result (errorMessage : String) (topics : List Topic)
  | tick
deriving DecidableEq, Repr

/-- What the fetch tab shows. -/
structure FetchScreen where
  topics : List Topic
  errorMessage : String
  spinner : Nat
deriving DecidableEq, Repr

/-- The UI thread runs a task. -/
def FetchScreen.run (screen : FetchScreen) : FetchTask → FetchScreen
  | .result errorMessage topics => { screen with topics := topics, errorMessage := errorMessage }
  | .tick => { screen with spinner := screen.spinner + 1 }

/-- The fetch side of the program. -/
structure FetchTab where
  inProgress : Bool
  status : Error
  topics : List Topic
  spinning : Bool
  queued : List FetchTask
  screen : FetchScreen
deriving DecidableEq, Repr

namespace FetchTab

/-- The end of a fetch: the spinner stops and the result is posted. -/
def finish (tab : FetchTab) (errorMessage : String) (topics : List Topic) : FetchTab :=
  { tab with
    inProgress := false
    spinning := false
    queued := tab.queued ++ [.result errorMessage topics, .tick] }

/-- What a handler of a fetch does. -/
def handle (tab : FetchTab) : Handler → FetchTab
  | .onTopic (some message) => { tab with topics := tab.topics ++ [message.toTopic] }
  | .onFetch => { tab.finish "" tab.topics with topics := [] }
  | .onFetchError (some error) => { tab.finish error.message [] with status := error.toError }
  | .onFetchDiscard =>
      { tab.finish "Discard" [] with
        status := { code := diffErrSuccess, message := "Discarded" } }
  | _ => tab

/-- What an event does that concerns the fetch side. -/
def after (tab : FetchTab) : Event → FetchTab
  | .fetch _ =>
      if tab.inProgress then tab
      else
        { tab with
          inProgress := true
          status := { code := diffErrSuccess, message := "" }
          topics := []
          spinning := true
          screen := { tab.screen with spinner := 0 } }
  | .runTask =>
      match tab.queued with
      | [] => tab
      | task :: rest => { tab with queued := rest, screen := tab.screen.run task }
  | .animate _ => { tab with queued := tab.queued ++ [.tick] }
  | .deliver h _ => tab.handle h
  | _ => tab

end FetchTab

/-! ### The projection -/

/-- What a task means for the fetch tab. -/
def Task.fetchTask? : Task → Option FetchTask
  | .fetchCompleted errorMessage topics _ => some (.result errorMessage topics)
  | .subscribeCompleted .. => none
  | .event sig => if sig = "fetch" then some .tick else none

/-- What the component shows on the fetch tab. -/
def MainComponent.fetchScreen (c : MainComponent) : FetchScreen where
  topics := c.topics
  errorMessage := c.fetchErrorMessage
  spinner := c.spinnerIndx

/-- The fetch side of the program's state. -/
def World.fetchTab (w : World) : FetchTab where
  inProgress := w.session.fetchInProgress
  status := w.session.fetchStatus
  topics := w.session.topics
  spinning := "fetch" ∈ w.animator.signals
  queued := w.queue.filterMap Task.fetchTask?
  screen := w.component.fetchScreen

/-- The steps that concern the fetch side: fetches, their handlers, the spinner's events, and the tasks
    that these posted. -/
def concernsFetch (w : World) : Event → Bool
  | .fetch _ => true
  | .runTask => (w.queue.head?.bind Task.fetchTask?).isSome
  | .animate sig => sig == "fetch"
  | .deliver h _ => h.kind? == some .fetch
  | _ => false

/-- The events of the law: everything but the failure of an unsubscription, which `Session` reports as
    the failure of a fetch. -/
def Event.KeepsApart : Event → Prop
  | .deliver (.onUnsubscribeError error) _ => error = none
  | _ => True

section Projection

variable {w w' : World} {e : Event}

theorem MainComponent.fetchScreen_runTask (c : MainComponent) (task : Task) :
    (c.runTask task).fetchScreen = task.fetchTask?.elim c.fetchScreen c.fetchScreen.run := by
  cases task with
  | fetchCompleted errorMessage topics selector => rfl
  | subscribeCompleted errorMessage topics selector => rfl
  | event sig =>
      by_cases fetch : sig = "fetch"
      · subst fetch
        rfl
      · simp only [runTask, onEvent, Task.fetchTask?, fetch, if_false]
        split <;> rfl

/-- What the projection sees of a callback that runs to its end. -/
theorem fetchTab_finish_stop (s : Shared) (callback : Callback) :
    World.fetchTab { toShared := s.finish (.stop callback) } =
      match callback with
      | .fetchCompleted _ =>
          { World.fetchTab { toShared := s } with
            topics := []
            spinning := false
            queued := s.queue.filterMap Task.fetchTask? ++ [.result "" s.session.topics, .tick] }
      | .fetchError error =>
          { World.fetchTab { toShared := s } with
            spinning := false
            queued := s.queue.filterMap Task.fetchTask? ++ [.result error.message [], .tick] }
      | .fetchDiscard _ =>
          { World.fetchTab { toShared := s } with
            spinning := false
            queued := s.queue.filterMap Task.fetchTask? ++ [.result "Discard" [], .tick] }
      | .subscribeCompleted _ | .subscribeError _ => World.fetchTab { toShared := s } := by
  rw [Shared.finish_stop]
  cases callback <;>
    simp [World.fetchTab, Callback.capture, Callback.task, Callback.signal, Animator.stop,
      Task.fetchTask?]

/-- A handler call, seen from the fetch side. -/
theorem Entry.fetchTab {h : Handler} {id : Nat} {s : Session} {next : NetPc} {lib : Library}
    (entry : Entry h w.session s next) (apart : (Event.deliver h id).KeepsApart) :
    World.fetchTab
        { toShared := Shared.finish { w.toShared with session := s, library := lib } next } =
      w.fetchTab.handle h := by
  cases entry with
  | fetchCompleted | fetchFailed error | fetchDiscarded =>
      rw [fetchTab_finish_stop]
      rfl
  | subscribed | subscribeFailed error =>
      rw [fetchTab_finish_stop]
      rfl
  | unsubscribeFailed error => cases apart
  | topic message => rfl
  | update message =>
      rw [Shared.finish_testSubscription]
      split
      · rfl
      · rw [fetchTab_finish_stop]
        rfl
  | notified h ts s note => cases h <;> first | rfl | cases note
  | quiet h s silent =>
      have nothing : w.fetchTab.handle h = w.fetchTab := by
        cases h <;> simp_all [Handler.isQuiet, FetchTab.handle]
      rw [nothing]
      rfl

/-- A step that concerns the fetch side is a step of the abstract machine. -/
theorem AtomicTransition.fetchTab (moved : AtomicTransition w e w') (apart : e.KeepsApart)
    (concerns : concernsFetch w e = true) : w'.fetchTab = w.fetchTab.after e := by
  cases moved with
  | operated operation still moved =>
      cases moved with
      | fetchAccepted selector free =>
          simp [World.fetchTab, FetchTab.after, free, Session.beginFetch,
            MainComponent.fetchScreen, MainComponent.resetSpinner]
      | fetchRefused selector busy => simp [World.fetchTab, FetchTab.after, busy]
      | ran task rest queue =>
          obtain ⟨seen, sees⟩ : ∃ seen, task.fetchTask? = some seen := by
            simpa [concernsFetch, queue, Option.isSome_iff_exists] using concerns
          simp [World.fetchTab, FetchTab.after, queue, sees, MainComponent.fetchScreen_runTask]
      | animated sig present =>
          obtain rfl : sig = "fetch" := by simpa [concernsFetch] using concerns
          simp [World.fetchTab, FetchTab.after, Task.fetchTask?]
      | subscribeAccepted | subscribeRefused | unsubscribed => cases concerns
      | delivered | held | passed | stopped | capturedFetch | capturedSubscribe | posted
      | eventPosted => simp [Event.isOperation] at operation
  | handled h id s next entry => exact entry.fetchTab apart

/-- Any other step leaves the fetch side as it is. -/
theorem AtomicTransition.fetchTab_eq (moved : AtomicTransition w e w') (apart : e.KeepsApart)
    (unconcerned : concernsFetch w e = false) : w'.fetchTab = w.fetchTab := by
  cases moved with
  | operated operation still moved =>
      cases moved with
      | fetchAccepted | fetchRefused => cases unconcerned
      | subscribeAccepted selector free =>
          simp [World.fetchTab, Session.beginSubscribe, MainComponent.fetchScreen,
            MainComponent.resetSubscribtionSpinner]
      | subscribeRefused | unsubscribed => rfl
      | ran task rest queue =>
          have sees : task.fetchTask? = none := by
            simpa [concernsFetch, queue] using unconcerned
          simp [World.fetchTab, queue, sees, MainComponent.fetchScreen_runTask]
      | animated sig present =>
          have other : sig ≠ "fetch" := by simpa [concernsFetch] using unconcerned
          simp [World.fetchTab, Task.fetchTask?, other]
      | delivered | held | passed | stopped | capturedFetch | capturedSubscribe | posted
      | eventPosted => simp [Event.isOperation] at operation
  | handled h id s next entry =>
      have nothing : w.fetchTab.handle h = w.fetchTab := by
        cases h <;> first | rfl | simp [concernsFetch, Handler.kind?] at unconcerned
      rw [entry.fetchTab apart, nothing]

end Projection

/-! ### The run without subscription traffic -/

/-- Every queued task concerns the fetch tab. -/
def World.FetchOnly (w : World) : Prop :=
  ∀ task ∈ w.queue, task.fetchTask?.isSome

/-- The left program runs with subscription traffic and the right one without; their fetch sides are the
    same. -/
structure SameFetchTab (w v : World) : Prop where
  left : w.net = .idle
  right : v.net = .idle
  same : w.fetchTab = v.fetchTab
  fetchOnly : v.FetchOnly

namespace SameFetchTab

variable {w v w' : World} {e : Event}

/-- The first task of the left queue, when it concerns the fetch tab, has its match at the head of the
    right one. -/
theorem head (related : SameFetchTab w v) (concerns : concernsFetch w .runTask = true) :
    ∃ task rest, v.queue = task :: rest := by
  cases queue : v.queue with
  | cons task rest => exact ⟨task, rest, rfl⟩
  | nil =>
      have empty : w.queue.filterMap Task.fetchTask? = [] := by
        have queued := congrArg FetchTab.queued related.same
        simpa [World.fetchTab, queue] using queued
      cases left : w.queue with
      | nil => simp [concernsFetch, left] at concerns
      | cons task rest =>
          rw [List.filterMap_eq_nil_iff] at empty
          have nothing := empty task (by simp [left])
          simp [concernsFetch, left, nothing] at concerns

/-- A step of the left program that concerns the fetch side is enabled on the right, and concerns the
    fetch side there. -/
theorem enabled (related : SameFetchTab w v) (concerns : concernsFetch w e = true)
    (step : atomicProgram.step w e = some w') :
    (atomicProgram.step v e).isSome ∧ concernsFetch v e = true := by
  rcases Option.map_eq_some_iff.1 step with ⟨mid, first, -⟩
  have same_enabled : (atomicProgram.step v e).isSome = (v.step e).isSome := Option.isSome_map
  rw [same_enabled]
  cases e with
  | fetch selector => exact ⟨rfl, rfl⟩
  | runTask =>
      obtain ⟨task, rest, queue⟩ := related.head concerns
      have sees : task.fetchTask?.isSome := related.fetchOnly task (by simp [queue])
      constructor
      · simp [World.step, queue]
      · simpa [concernsFetch, queue] using sees
  | animate sig =>
      obtain rfl : sig = "fetch" := by simpa [concernsFetch] using concerns
      have present : "fetch" ∈ w.animator.signals := by
        by_contra absent
        simp [World.step, absent] at first
      have spinning := congrArg FetchTab.spinning related.same
      have matched : "fetch" ∈ v.animator.signals := by
        simpa [World.fetchTab, present] using spinning
      exact ⟨by simp [World.step, matched], rfl⟩
  | deliver h id =>
      have here : ∃ entered, h.enter w.session = .ok entered := by
        cases enters : h.enter w.session with
        | ok entered => exact ⟨entered, rfl⟩
        | error fault => simp [World.step, related.left, Shared.enter, enters, Except.map] at first
      rcases here with ⟨_, enters⟩
      rcases Handler.enter_ok enters v.session with ⟨entered, ok⟩
      exact ⟨by simp [World.step, related.right, Shared.enter, ok, Except.map], concerns⟩
  | subscribe | unsubscribe | advance => cases concerns

end SameFetchTab

/-- A step that concerns the fetch side queues only tasks that do. -/
theorem AtomicTransition.fetchOnly {v v' : World} {e : Event} (moved : AtomicTransition v e v')
    (concerns : concernsFetch v e = true) (before : v.FetchOnly) : v'.FetchOnly := by
  cases moved with
  | operated operation still moved =>
      cases moved with
      | ran task rest queue =>
          intro later member
          exact before later (by simp [queue, show later ∈ rest from member])
      | animated sig present =>
          obtain rfl : sig = "fetch" := by simpa [concernsFetch] using concerns
          intro task member
          rcases List.mem_append.1 member with old | new
          · exact before task old
          · obtain rfl : task = .event "fetch" := by simpa using new
            rfl
      | subscribeAccepted | subscribeRefused | unsubscribed => cases concerns
      | delivered | held | passed | stopped | capturedFetch | capturedSubscribe | posted
      | eventPosted => simp [Event.isOperation] at operation
      | _ => exact before
  | handled h id s next entry =>
      have own : h.kind? = some .fetch := by simpa [concernsFetch] using concerns
      cases entry with
      | fetchCompleted | fetchFailed error | fetchDiscarded =>
          intro task member
          rw [Shared.finish_stop] at member
          rcases List.mem_append.1 member with old | new
          · exact before task old
          · simp only [List.mem_cons, List.not_mem_nil, or_false] at new
            rcases new with rfl | rfl <;> rfl
      | update | subscribed | subscribeFailed | unsubscribeFailed => simp [Handler.kind?] at own
      | _ => exact before

/-- What the call of `Session::fetch` returns, if the step is one. -/
def fetchResult? (w : World) : Event → Option Bool
  | .fetch selector => some (w.toShared.fetch selector).1
  | _ => none

theorem Shared.fetch_fst (s : Shared) (selector : String) :
    (s.fetch selector).1 = !s.session.fetchInProgress := by
  unfold fetch Session.accepts
  cases s.session.fetchInProgress <;> rfl

/-- The unwinding conditions for subscription traffic. -/
theorem unwinding_fetchTab :
    atomicProgram.Unwinding Event.KeepsApart concernsFetch fetchResult? SameFetchTab where
  hidden := by
    intro w v e w' apart related unconcerned step
    have moved := AtomicTransition.of_step related.left step
    refine ⟨⟨moved.quiescent, related.right, ?_, related.fetchOnly⟩, ?_⟩
    · rw [moved.fetchTab_eq apart unconcerned, related.same]
    · cases e <;> first | rfl | cases unconcerned
  visible := by
    intro w v e w' apart related concerns step
    obtain ⟨possible, concerns'⟩ := related.enabled concerns step
    rcases Option.isSome_iff_exists.1 possible with ⟨v', step'⟩
    have moved := AtomicTransition.of_step related.left step
    have moved' := AtomicTransition.of_step related.right step'
    refine ⟨v', step', ⟨moved.quiescent, moved'.quiescent, ?_, ?_⟩, ?_⟩
    · rw [moved.fetchTab apart concerns, moved'.fetchTab apart concerns', related.same]
    · exact moved'.fetchOnly concerns' related.fetchOnly
    · have gate : w.session.fetchInProgress = v.session.fetchInProgress :=
        congrArg FetchTab.inProgress related.same
      cases e with
      | fetch selector => simp only [fetchResult?, Shared.fetch_fst, gate]
      | _ => rfl

/-- What the fetch tab shows does not depend on subscription traffic. Erase from a run the subscriptions,
    their handlers, the notifications and the UI tasks that they posted: what is left is a run again, all
    its fetch calls return what they returned in the full run, and it ends with the same fetch flag,
    status and topics, the same membership of the fetch signal, the same queued fetch results, and the
    same topics and message on the fetch tab. -/
theorem fetch_tab_independent {es : List Event} {w : World} (apart : ∀ e ∈ es, e.KeepsApart)
    (run : atomicProgram.Run Free es w) :
    let erased := atomicProgram.purge concernsFetch atomicProgram.init es
    ∃ v, atomicProgram.Run Free erased v ∧
      atomicProgram.outputs fetchResult? atomicProgram.init erased =
        atomicProgram.outputs fetchResult? atomicProgram.init es ∧
      v.session.fetchInProgress = w.session.fetchInProgress ∧
      v.session.fetchStatus = w.session.fetchStatus ∧
      v.session.topics = w.session.topics ∧
      ("fetch" ∈ v.animator.signals ↔ "fetch" ∈ w.animator.signals) ∧
      v.queue.filterMap Task.fetchTask? = w.queue.filterMap Task.fetchTask? ∧
      v.component.topics = w.component.topics ∧
      v.component.fetchErrorMessage = w.component.fetchErrorMessage := by
  have start : SameFetchTab atomicProgram.init atomicProgram.init :=
    ⟨rfl, rfl, rfl, by simp [World.FetchOnly, atomicProgram]⟩
  obtain ⟨v, purged, related, outputs⟩ := unwinding_fetchTab.purged_run apart start run
  have same := related.same.symm
  simp only [World.fetchTab, FetchTab.mk.injEq, decide_eq_decide, MainComponent.fetchScreen,
    FetchScreen.mk.injEq] at same
  rcases same with ⟨flag, status, topics, signal, queued, shown, message, -⟩
  exact ⟨v, purged, outputs, flag, status, topics, signal, queued, shown, message⟩

/-- A run in which a subscription and its update fall into a fetch. -/
def subscriptionDuringFetch : List Event :=
  [.subscribe "a", .fetch "b",
    .deliver (.onSubscribeTopicMessage (some { type := 0x15, payload := .ofBytes [1], name := "a" })) 0,
    .deliver .onSubscribe 0,
    .deliver (.onTopic (some { type := 0x14, payload := .ofBytes [2], name := "b" })) 1,
    .deliver .onFetch 1, .runTask, .runTask, .runTask, .fetch "c"]

theorem subscriptionDuringFetch_independent :
    ∃ w v, atomicProgram.Run Free subscriptionDuringFetch w ∧
      atomicProgram.Run Free
        (atomicProgram.purge concernsFetch atomicProgram.init subscriptionDuringFetch) v ∧
      v.component.topics = w.component.topics := by
  obtain ⟨w, run, -⟩ : ∃ w, atomicProgram.Run Free subscriptionDuringFetch w ∧
      decide (w.session.fetchInProgress = true) = true :=
    TransitionSystem.Run.exists_of_exec (by decide)
  have apart : ∀ e ∈ subscriptionDuringFetch, e.KeepsApart := by
    simp [subscriptionDuringFetch, Event.KeepsApart]
  obtain ⟨v, purged, -, -, -, -, -, -, shown, -⟩ := fetch_tab_independent apart run
  exact ⟨w, v, run, purged, shown⟩

end Dmon

