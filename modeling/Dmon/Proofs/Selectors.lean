/-
Module: Dmon.Proofs.Selectors
Layer: Proofs
Purpose: Which selector reaches the callbacks. The session keeps the selectors of all its requests in one
  member, which accepted requests overwrite and three handlers move out of. `SelectorLedger` ties that
  member to the library's log: it holds what the last entry that touches it left there.
  `selectors_attributed_iff` says in which runs every request ends under its own selector and the
  checkboxes carry the completed subscriptions; `selector_of_later_request` is a run that mixes two up.
Imports: Dmon.Proofs.Atomic, Dmon.Proofs.Ledger
Trusted boundary: none
Main exports: Handler.handed?, HandedOwnSelector, LabelsExact, NamedRequests, AnswersLastRequest,
  SelectorLedger, selectors_attributed_iff, selector_of_later_request
-/
import Dmon.Proofs.Atomic
import Dmon.Proofs.Ledger

namespace Dmon

/-! ### What a handler hands to its callback -/

/-- The selector among the arguments of a callback. -/
def Callback.selector? : Callback → Option String
  | .fetchCompleted selector | .fetchDiscard selector | .subscribeCompleted selector => some selector
  | .fetchError _ | .subscribeError _ => none

/-- The selector that a handler call hands to a completion or discard callback. -/
def Handler.handed? (h : Handler) (s : Session) : Option String :=
  match h.enter s with
  | .ok { next := .stop callback, .. } => callback.selector?
  | _ => none

/-- The handlers that move the selector out of the session. -/
def Handler.movesSelector : Handler → Bool
  | .onFetch | .onFetchDiscard | .onSubscribe => true
  | _ => false

theorem Handler.handed?_eq (h : Handler) (s : Session) :
    h.handed? s = if h.movesSelector then some s.selector else none := by
  cases h with
  | onTopic argument | onFetchError argument | onSubscribeTopicMessage argument
  | onSubscribeError argument | onUnsubscribeError argument | onGlobalError argument
  | onUnexpectedTopicMessage argument => cases argument <;> rfl
  | onFetchStatusMessage status =>
      cases status with
      | none => rfl
      | some status =>
          cases enters : Handler.enter (.onFetchStatusMessage (some status)) s with
          | error fault => simp [handed?, enters, movesSelector]
          | ok entered =>
              obtain ⟨_, rfl⟩ := Handlers.onFetchStatusMessage_ok_iff.1 enters
              simp [handed?, enters, Entered.done, movesSelector]
  | onNotifySubscription request | onNotifyUnsubscription request =>
      cases path : request.topicPath <;>
        simp [handed?, enter, Handlers.onNotifySubscription, Handlers.onNotifyUnsubscription, path,
          Entered.done, movesSelector]
  | _ => rfl

theorem Entry.selector {h : Handler} {s s' : Session} {next : NetPc} (entry : Entry h s s' next) :
    s'.selector = if h.movesSelector then "" else s.selector := by
  cases entry with
  | notified h ts s note => cases h <;> simp_all [Handler.isNotification, Handler.movesSelector,
      Session.onTopicSubscriptionEvent]
  | quiet h s silent => cases h <;> simp_all [Handler.isQuiet, Handler.movesSelector]
  | _ => rfl

/-! ### The log and the shared selector -/

/-- The entries of the log whose steps write the session's selector: accepted fetches and subscriptions,
    their completions, and discarded fetches. -/
def LogEntry.writesSelector : LogEntry → Bool
  | .opened c => c.kind != .unsubscribe
  | .ended c .completed => c.kind != .unsubscribe
  | .ended c .discarded => c.kind == .fetch
  | .ended _ (.failed _) => false

/-- What such a step leaves in the session's selector. -/
def LogEntry.leftSelector : LogEntry → String
  | .opened c => c.selector
  | .ended .. => ""

/-- The last entry that writes the selector. -/
def lastWriter? (log : List LogEntry) : Option LogEntry :=
  (log.filter LogEntry.writesSelector).getLast?

/-- What the steps of a log leave in the session's selector. -/
def storedSelector (log : List LogEntry) : String :=
  ((lastWriter? log).map LogEntry.leftSelector).getD ""

theorem storedSelector_concat (log : List LogEntry) (entry : LogEntry) :
    storedSelector (log ++ [entry]) =
      if entry.writesSelector then entry.leftSelector else storedSelector log := by
  cases writes : entry.writesSelector <;>
    simp [storedSelector, lastWriter?, List.filter_append, writes]

theorem LogEntry.writesSelector_ended {h : Handler} {c : Conversation} {ending : Ending}
    (own : h.kind? = some c.kind) (terminal : h.ending? = some ending) :
    (LogEntry.ended c ending).writesSelector = h.movesSelector := by
  rcases c with ⟨id, kind, selector, topics⟩
  cases h <;> cases own <;> cases terminal <;> rfl

/-! ### The labels -/

/-- The label that a task adds to the checkboxes. -/
def Task.label? : Task → Option String
  | .subscribeCompleted _ _ selector => if selector.isEmpty then none else some selector
  | .fetchCompleted .. | .event _ => none

/-- The checkbox labels on the screen, followed by those in the queue. -/
def World.labels (w : World) : List String :=
  w.component.levelFilter ++ w.queue.filterMap Task.label?

/-- The selector of a subscription completed by `on_subscribe`. -/
def LogEntry.subscribed? : LogEntry → Option String
  | .ended c .completed => if c.kind = .subscribe then some c.selector else none
  | _ => none

/-- The checkboxes are labelled with the selectors of the completed subscriptions, one each, in
    completion order. -/
def LabelsExact (w : World) : Prop :=
  w.labels = w.library.log.filterMap LogEntry.subscribed?

theorem LogEntry.subscribed?_ended {h : Handler} {c : Conversation} {ending : Ending}
    (own : h.kind? = some c.kind) (terminal : h.ending? = some ending) :
    (LogEntry.ended c ending).subscribed? = if h = .onSubscribe then some c.selector else none := by
  rcases c with ⟨id, kind, selector, topics⟩
  cases h <;> cases own <;> cases terminal <;> rfl

/-- Running a task moves its label from the queue to the checkboxes. -/
theorem MainComponent.levelFilter_runTask (c : MainComponent) (task : Task) :
    (c.runTask task).levelFilter = c.levelFilter ++ task.label?.toList := by
  cases task with
  | fetchCompleted => simp [runTask, onFetchCompleted, Task.label?]
  | subscribeCompleted errorMessage topics selector =>
      cases empty : selector.isEmpty <;> simp [runTask, onSubscribeCompleted, Task.label?, empty]
  | event sig =>
      simp only [runTask, onEvent, Task.label?, Option.toList_none, List.append_nil]
      split
      · rfl
      · split <;> rfl

/-- Only `on_subscribe` queues a label: the selector it moved out of the session, unless that is empty. -/
theorem Entry.labels {h : Handler} {w : World} {s : Session} {next : NetPc} {lib : Library}
    (entry : Entry h w.session s next) :
    (Shared.finish { w.toShared with session := s, library := lib } next).queue.filterMap Task.label? =
      w.queue.filterMap Task.label? ++
        if h = .onSubscribe ∧ w.session.selector ≠ "" then [w.session.selector] else [] := by
  cases entry with
  | subscribed s =>
      by_cases empty : w.session.selector = "" <;>
        simp [Shared.finish_stop, Callback.task, Task.label?, empty]
  | update message s =>
      rw [Shared.finish_testSubscription]
      split <;> simp [Shared.finish_stop, Callback.task, Task.label?]
  | notified h ts s note =>
      have other : h ≠ .onSubscribe := by
        intro same
        subst same
        cases note
      simp [other]
  | quiet h s silent =>
      have other : h ≠ .onSubscribe := by
        intro same
        subst same
        cases silent
      simp [other]
  | _ => simp [Shared.finish_stop, Callback.task, Task.label?]

/-! ### Runs -/

/-- A fetch or a subscription asks for a non-empty selector. -/
def Event.Named : Event → Prop
  | .fetch selector | .subscribe selector => selector ≠ ""
  | _ => True

instance : (e : Event) → Decidable e.Named
  | .fetch selector | .subscribe selector => inferInstanceAs (Decidable (selector ≠ ""))
  | .unsubscribe _ | .runTask | .animate _ | .deliver .. | .advance =>
      inferInstanceAs (Decidable True)

/-- The library ends every request at most once, and the requests have non-empty selectors. -/
def NamedRequests (w : World) (e : Event) : Prop :=
  endsOnce w e ∧ e.Named

instance (w : World) (e : Event) : Decidable (NamedRequests w e) :=
  inferInstanceAs (Decidable (endsOnce w e ∧ e.Named))

/-- The string handed to a callback when a request ends is the selector of that request. -/
def HandedOwnSelector (w : World) : Event → Prop
  | .deliver h id =>
      ∀ selector ∈ h.handed? w.session, ∀ c ∈ w.library.outstanding, c.answers h id →
        selector = c.selector
  | _ => True

/-- A fetch that completes or is discarded, and a subscription that completes, is the last request that
    was accepted, or one with the same selector, and no other request has completed and no fetch has been
    discarded since that acceptance. -/
def AnswersLastRequest (w : World) : Event → Prop
  | .deliver h id =>
      h.movesSelector → ∀ c ∈ w.library.outstanding, c.answers h id →
        ∃ last, lastWriter? w.library.log = some (.opened last) ∧ last.selector = c.selector
  | _ => True

/-- The entry opens a request with the selector. -/
def LogEntry.opensWith (selector : String) : LogEntry → Bool
  | .opened c => c.selector == selector
  | .ended .. => false

theorem any_opensWith {entry : Option LogEntry} {selector : String} :
    entry.any (LogEntry.opensWith selector) = true ↔
      ∃ last, entry = some (.opened last) ∧ last.selector = selector := by
  cases entry with
  | none => simp
  | some entry => cases entry <;> simp [LogEntry.opensWith]

instance (w : World) : (e : Event) → Decidable (AnswersLastRequest w e)
  | .deliver h id =>
      decidable_of_iff
        (h.movesSelector → ∀ c ∈ w.library.outstanding, c.answers h id →
          (lastWriter? w.library.log).any (LogEntry.opensWith c.selector) = true)
        (by simp only [any_opensWith, AnswersLastRequest])
  | .fetch _ | .subscribe _ | .unsubscribe _ | .runTask | .animate _ | .advance =>
      inferInstanceAs (Decidable True)

/-- The session's selector, the outstanding requests and the log belong together. -/
structure SelectorLedger (w : World) : Prop where
  quiescent : w.net = .idle
  numbered : w.library.Numbered
  named : ∀ c ∈ w.library.outstanding, c.kind ≠ .unsubscribe → c.selector ≠ ""
  stored : w.session.selector = storedSelector w.library.log

namespace SelectorLedger

variable {w w' : World} {h : Handler} {id : Nat} {c : Conversation}

/-- A step that touches neither the selector nor the ledger. -/
theorem congr (ledger : SelectorLedger w) (quiescent : w'.net = .idle)
    (selector : w'.session.selector = w.session.selector) (library : w'.library = w.library) :
    SelectorLedger w' where
  quiescent := quiescent
  numbered := by rw [library]; exact ledger.numbered
  named := by rw [library]; exact ledger.named
  stored := by rw [library, selector]; exact ledger.stored

/-- An accepted request. -/
theorem handOver {kind : RequestKind} {selector : String} (ledger : SelectorLedger w)
    (quiescent : w'.net = .idle) (library : w'.library = w.library.handOver kind selector)
    (named : kind ≠ .unsubscribe → selector ≠ "")
    (stored : w'.session.selector = if kind = .unsubscribe then w.session.selector else selector) :
    SelectorLedger w' where
  quiescent := quiescent
  numbered := by rw [library]; exact ledger.numbered.handOver kind selector
  named := by
    rw [library]
    intro c member
    simp only [Library.handOver, List.mem_append, List.mem_singleton] at member
    rcases member with old | rfl
    · exact ledger.named c old
    · exact named
  stored := by
    rw [library, stored, Library.handOver, storedSelector_concat, ledger.stored]
    by_cases unsubscription : kind = .unsubscribe <;>
      simp [LogEntry.writesSelector, LogEntry.leftSelector, unsubscription]

/-- A handler call. -/
theorem record (ledger : SelectorLedger w) (cond : endsOnce w (.deliver h id))
    (quiescent : w'.net = .idle) (library : w'.library = w.library.record h id)
    (selector : w'.session.selector = if h.movesSelector then "" else w.session.selector) :
    SelectorLedger w' where
  quiescent := quiescent
  numbered := by rw [library]; exact ledger.numbered.record h id
  named := by
    rw [library]
    intro c member
    obtain ⟨d, before, _, kind, same⟩ := Library.exists_of_mem_record member
    rw [← kind, ← same]
    exact ledger.named d before
  stored := by
    rw [library, selector, ledger.stored]
    cases terminal : h.ending? with
    | none =>
        have keeps : h.movesSelector = false := by
          cases h <;> first | rfl | cases terminal
        rw [Library.log_record_of_none terminal, keeps]
        rfl
    | some ending =>
        rcases List.any_eq_true.1 (cond (by simp [terminal])) with ⟨c, member, answers⟩
        have own : h.kind? = some c.kind := (Conversation.answers_iff.1 answers).2
        rw [ledger.numbered.log_record member answers terminal, storedSelector_concat,
          LogEntry.writesSelector_ended own terminal]
        rfl

theorem step {e : Event} (ledger : SelectorLedger w) (cond : NamedRequests w e)
    (moved : AtomicTransition w e w') : SelectorLedger w' := by
  cases moved with
  | operated operation still moved =>
      cases moved with
      | fetchAccepted selector free =>
          exact ledger.handOver still rfl (fun _ => cond.2) (by simp [Session.beginFetch])
      | subscribeAccepted selector free =>
          exact ledger.handOver still rfl (fun _ => cond.2) (by simp [Session.beginSubscribe])
      | unsubscribed selector => exact ledger.handOver still rfl (by simp) (by simp)
      | delivered | held | passed | stopped | capturedFetch | capturedSubscribe | posted
      | eventPosted => simp [Event.isOperation] at operation
      | _ => exact ledger.congr still rfl rfl
  | handled h id s next entry =>
      apply ledger.record cond.1 rfl (Shared.finish_library _ _)
      rw [Shared.finish_selector]
      exact entry.selector

/-- Every state of a run has the ledger in order. -/
theorem of_step {e : Event} (ledger : SelectorLedger w) (cond : NamedRequests w e)
    (step : atomicProgram.step w e = some w') : SelectorLedger w' :=
  ledger.step cond (AtomicTransition.of_step ledger.quiescent step)

theorem init : SelectorLedger atomicProgram.init where
  quiescent := rfl
  numbered := ⟨List.nodup_nil, by simp [atomicProgram]⟩
  named := by simp [atomicProgram]
  stored := rfl

/-- What the session's selector is compared with: it is the selector of an outstanding request exactly
    when the last writer of the log is an accepted request with that selector. -/
theorem stored_eq_iff (ledger : SelectorLedger w) (member : c ∈ w.library.outstanding)
    (request : c.kind ≠ .unsubscribe) :
    w.session.selector = c.selector ↔
      ∃ last, lastWriter? w.library.log = some (.opened last) ∧ last.selector = c.selector := by
  have named := ledger.named c member request
  rw [ledger.stored, storedSelector]
  cases writer : lastWriter? w.library.log with
  | none => simpa using named.symm
  | some entry =>
      cases entry with
      | opened last => simp [LogEntry.leftSelector]
      | ended d ending => simpa [LogEntry.leftSelector] using named.symm

end SelectorLedger

/-- At every step, the handed string is the request's own exactly when the request is the last one
    accepted. -/
theorem handedOwnSelector_iff {w : World} {e : Event} (ledger : SelectorLedger w) :
    HandedOwnSelector w e ↔ AnswersLastRequest w e := by
  cases e with
  | deliver h id =>
      simp only [HandedOwnSelector, AnswersLastRequest, Handler.handed?_eq]
      cases moves : h.movesSelector with
      | false => simp
      | true =>
          simp only [if_true, Option.mem_some_iff, forall_eq', true_imp_iff]
          apply forall₃_congr
          intro c member answers
          have request : c.kind ≠ .unsubscribe := by
            intro unsubscription
            have own : h.kind? = some .unsubscribe :=
              unsubscription ▸ (Conversation.answers_iff.1 answers).2
            cases h <;> simp_all [Handler.movesSelector, Handler.kind?]
          exact ledger.stored_eq_iff member request
  | _ => exact Iff.rfl

/-- A step that answers the last request keeps the labels exact. -/
theorem LabelsExact.step {w w' : World} {e : Event} (ledger : SelectorLedger w)
    (labelled : LabelsExact w) (cond : NamedRequests w e) (inTurn : AnswersLastRequest w e)
    (moved : AtomicTransition w e w') : LabelsExact w' := by
  unfold LabelsExact World.labels at labelled ⊢
  cases moved with
  | operated operation still moved =>
      cases moved with
      | fetchAccepted selector free | subscribeAccepted selector free | unsubscribed selector =>
          simpa [Library.handOver, List.filterMap_cons, LogEntry.subscribed?,
            MainComponent.resetSpinner, MainComponent.resetSubscribtionSpinner] using labelled
      | ran task rest queue =>
          rw [queue] at labelled
          rw [← labelled, MainComponent.levelFilter_runTask]
          cases label : task.label? <;> simp [label]
      | animated sig present => simpa [List.filterMap_cons, Task.label?] using labelled
      | delivered | held | passed | stopped | capturedFetch | capturedSubscribe | posted
      | eventPosted => simp [Event.isOperation] at operation
      | _ => exact labelled
  | handled h id s next entry =>
      simp only [Shared.finish_component, Shared.finish_library, entry.labels]
      rw [← List.append_assoc, labelled]
      cases terminal : h.ending? with
      | none =>
          have other : h ≠ .onSubscribe := by
            intro same
            subst same
            cases terminal
          simp [Library.log_record_of_none terminal, other]
      | some ending =>
          rcases List.any_eq_true.1 (cond.1 (by simp [terminal])) with ⟨c, member, answers⟩
          have own : h.kind? = some c.kind := (Conversation.answers_iff.1 answers).2
          rw [ledger.numbered.log_record member answers terminal, List.filterMap_append]
          simp only [List.filterMap_cons, List.filterMap_nil,
            LogEntry.subscribed?_ended own terminal]
          by_cases completes : h = .onSubscribe
          · -- The label is the session's selector, which is that of the completed subscription.
            subst completes
            have kind : c.kind = .subscribe := (Option.some.inj own).symm
            have request : c.kind ≠ .unsubscribe := by simp [kind]
            have same : w.session.selector = c.selector :=
              (ledger.stored_eq_iff member request).2 (inTurn rfl c member answers)
            simp [same, ledger.named c member request]
          · simp [completes]

/-- Selectors are attributed to the request they belong to, and the checkboxes are labelled with the
    completed subscriptions, in exactly those runs in which every request that ends by completion, or by
    the discard of a fetch, is the last one accepted. -/
theorem selectors_attributed_iff {es : List Event} {w : World}
    (run : atomicProgram.Run NamedRequests es w) :
    atomicProgram.Throughout NamedRequests HandedOwnSelector es ∧
        atomicProgram.Always NamedRequests LabelsExact es ↔
      atomicProgram.Throughout NamedRequests AnswersLastRequest es := by
  have ledgers : ∀ w e w', SelectorLedger w → NamedRequests w e → atomicProgram.step w e = some w' →
      SelectorLedger w' := fun _ _ _ ledger => ledger.of_step
  have attributed : atomicProgram.Throughout NamedRequests HandedOwnSelector es ↔
      atomicProgram.Throughout NamedRequests AnswersLastRequest es :=
    TransitionSystem.throughout_congr SelectorLedger.init ledgers
      (fun _ _ ledger _ => handedOwnSelector_iff ledger) run
  constructor
  · intro both
    rcases both with ⟨handed, _⟩
    exact attributed.1 handed
  · intro inTurn
    refine ⟨attributed.2 inTurn, ?_⟩
    refine TransitionSystem.always_of_throughout SelectorLedger.init rfl ledgers ?_ run inTurn
    intro w e w' ledger labelled cond here step
    exact labelled.step ledger cond here (AtomicTransition.of_step ledger.quiescent step)

/-- A fetch and a subscription that are answered one after the other. -/
def answeredInTurn : List Event :=
  [.fetch "a", .deliver .onFetch 0, .subscribe "b", .deliver .onSubscribe 1]

theorem answeredInTurn_attributed :
    atomicProgram.Throughout NamedRequests HandedOwnSelector answeredInTurn ∧
      atomicProgram.Always NamedRequests LabelsExact answeredInTurn ∧
      atomicProgram.Throughout NamedRequests AnswersLastRequest answeredInTurn := by
  obtain ⟨w, both, -⟩ : ∃ w,
      atomicProgram.Run (fun w e => NamedRequests w e ∧ AnswersLastRequest w e) answeredInTurn w ∧
        decide (w.labels = ["b"]) = true :=
    TransitionSystem.Run.exists_of_exec (by decide)
  have inTurn := both.throughout_of_and
  have run : atomicProgram.Run NamedRequests answeredInTurn w := both.weaken fun _ _ => And.left
  obtain ⟨handed, labelled⟩ := (selectors_attributed_iff run).2 inTurn
  exact ⟨handed, labelled, inTurn⟩

/-- A fetch that is accepted while a subscription is pending. -/
def fetchDuringSubscription : List Event := [.subscribe "a", .fetch "b"]

/-- When the subscription completes, it ends under the selector of the fetch. -/
theorem selector_of_later_request :
    ¬ ∀ es w, atomicProgram.Run NamedRequests es w →
      atomicProgram.Throughout NamedRequests HandedOwnSelector es ∧
        atomicProgram.Always NamedRequests LabelsExact es := by
  intro law
  let subscription : Conversation := { id := 0, kind := .subscribe, selector := "a" }
  obtain ⟨w, before, facts⟩ : ∃ w, atomicProgram.Run NamedRequests fetchDuringSubscription w ∧
      decide (Handler.onSubscribe.handed? w.session = some "b" ∧
        subscription ∈ w.library.outstanding) = true :=
    TransitionSystem.Run.exists_of_exec (by decide)
  obtain ⟨ended, run, -⟩ : ∃ w,
      atomicProgram.Run NamedRequests (fetchDuringSubscription ++ [.deliver .onSubscribe 0]) w ∧
        decide (w.labels = ["b"]) = true :=
    TransitionSystem.Run.exists_of_exec (by decide)
  obtain ⟨handed, pending⟩ := of_decide_eq_true facts
  have attributed := (law _ _ run).1 _ _ w List.prefix_rfl before
  have same : "b" = subscription.selector := attributed "b" handed subscription pending rfl
  simp [subscription] at same

end Dmon
