/-
Module: Dmon.Proofs.FetchOutcome
Layer: Proofs
Purpose: Session and UI agree on the result of every fetch. `World.settledFetch` is what the fetch tab will
  show once the running handler is through and the queue is drained; the invariant `FetchAgreement` says
  that it is the outcome of the most recently finished fetch, together with what ties the in-progress flag
  and the session's topics to the library's outstanding fetch. It is kept as long as no fetch is accepted
  while topics wait to be taken by the completion callback. `topics_lost_by_early_fetch` is the run in which
  such a fetch empties the buffer first.
Imports: Dmon.Proofs.Transitions, Dmon.Proofs.Ledger
Trusted boundary: none
Main exports: Conversation.outcome, World.settledFetch, FromMain, FetchesOutsideCapture, FetchAgreement,
  fetch_outcome_shown, topics_lost_by_early_fetch
-/
import Dmon.Proofs.Transitions
import Dmon.Proofs.Ledger

namespace Dmon

/-! ### Outcomes -/

/-- What the fetch tab should show for a fetch that ended in a given way: topics and message. -/
def Conversation.outcome (c : Conversation) : Ending → List Topic × String
  | .completed => (c.topics, "")
  | .failed error => ([], (error.map (·.message)).getD "")
  | .discarded => ([], "Discard")

/-- What a task will make the fetch tab show. -/
def Task.fetchResult? : Task → Option (List Topic × String)
  | .fetchCompleted errorMessage topics _ => some (topics, errorMessage)
  | .subscribeCompleted .. | .event _ => none

/-- The network thread is going to take the fetched topics out of the session. -/
def NetPc.capturesFetch : NetPc → Bool
  | .stop (.fetchCompleted _) | .captureFetch _ => true
  | _ => false

/-- What the network thread is going to make the fetch tab show. -/
def NetPc.fetchResult? (s : Session) : NetPc → Option (List Topic × String)
  | .stop (.fetchCompleted _) | .captureFetch _ => some (s.topics, "")
  | .stop (.fetchError error) => some ([], error.message)
  | .stop (.fetchDiscard _) => some ([], "Discard")
  | .post task => task.fetchResult?
  | _ => none

/-- The results on their way to the fetch tab, oldest first. -/
def World.comingFetchResults (w : World) : List (List Topic × String) :=
  w.queue.filterMap Task.fetchResult? ++ (w.net.fetchResult? w.session).toList

/-- What the fetch tab will show when the running handler is through and the queue is drained. -/
def World.settledFetch (w : World) : List Topic × String :=
  w.comingFetchResults.getLast?.getD (w.component.topics, w.component.fetchErrorMessage)

theorem Callback.fetchResult?_afterStop (callback : Callback) (s : Session) :
    callback.afterStop.fetchResult? s = (NetPc.stop callback).fetchResult? s := by
  cases callback <;> rfl

/-- Starting a fetch leaves what is coming as it is, unless it empties topics that are about to be
    taken. -/
theorem NetPc.fetchResult?_beginFetch (s : Session) (selector : String) (pc : NetPc)
    (nothing_lost : pc.capturesFetch = true → s.topics = []) :
    pc.fetchResult? (s.beginFetch selector) = pc.fetchResult? s := by
  unfold fetchResult?
  split <;> simp_all [Session.beginFetch, capturesFetch]

/-- Running a task keeps the settled state: it turns the oldest coming result into the shown one. -/
theorem MainComponent.fetchResult_runTask (c : MainComponent) (task : Task)
    (rest : List (List Topic × String)) :
    rest.getLast?.getD ((c.runTask task).topics, (c.runTask task).fetchErrorMessage) =
      (task.fetchResult?.toList ++ rest).getLast?.getD (c.topics, c.fetchErrorMessage) := by
  cases task with
  | fetchCompleted errorMessage topics selector =>
      simp [runTask, onFetchCompleted, Task.fetchResult?, List.getLast?_cons]
  | subscribeCompleted => rfl
  | event sig =>
      simp only [runTask, onEvent, Task.fetchResult?, Option.toList_none, List.nil_append]
      split
      · rfl
      · split <;> rfl

/-! ### The agreement -/

/-- A call of `Session::unsubscribe`. -/
def Event.isUnsubscribe : Event → Bool
  | .unsubscribe _ => true
  | _ => false

/-- The steps of the program as `main` runs it: its UI never calls `Session::unsubscribe`, and the library
    keeps to the conversations. -/
def FromMain (w : World) (e : Event) : Prop :=
  inConversation w e ∧ e.isUnsubscribe = false

instance (w : World) (e : Event) : Decidable (FromMain w e) :=
  inferInstanceAs (Decidable (inConversation w e ∧ e.isUnsubscribe = false))

/-- No fetch is accepted while fetched topics wait for the completion callback to take them, and
    `on_fetch_error` is given an error. -/
def FetchesOutsideCapture (w : World) : Event → Prop
  | .fetch _ => w.session.accepts → w.net.capturesFetch → w.session.topics = []
  | .deliver h _ => h ≠ .onFetchError none
  | _ => True

instance (w : World) : (e : Event) → Decidable (FetchesOutsideCapture w e)
  | .fetch _ =>
      inferInstanceAs (Decidable (w.session.accepts → w.net.capturesFetch → w.session.topics = []))
  | .deliver h _ => inferInstanceAs (Decidable (h ≠ .onFetchError none))
  | .subscribe _ | .unsubscribe _ | .runTask | .animate _ | .advance =>
      inferInstanceAs (Decidable True)

/-- Session, UI and library agree on the fetches. -/
structure FetchAgreement (w : World) : Prop where
  free : w.session.fetchInProgress = false → w.library.outstandingOf .fetch = []
  busy : w.session.fetchInProgress = true →
    ∃ c, w.library.outstandingOf .fetch = [c] ∧ c.topics = w.session.topics
  /-- A fetch that was accepted before the callback took the topics of the last one has none yet. -/
  early : w.session.fetchInProgress = true → w.net.capturesFetch = true → w.session.topics = []
  noUnsubscribe : w.library.outstandingOf .unsubscribe = []
  shown : ∀ c ending, w.library.lastFetch? = some (c, ending) → w.settledFetch = c.outcome ending

namespace FetchAgreement

variable {w : World} {h : Handler} {id : Nat}

/-- An expected handler of a fetch finds the fetch in progress. -/
theorem single_of_expects (agrees : FetchAgreement w) (own : h.kind? = some .fetch)
    (expected : w.library.expects h id) :
    ∃ c, w.library.outstandingOf .fetch = [c] ∧ c.topics = w.session.topics := by
  cases flag : w.session.fetchInProgress with
  | true => exact agrees.busy flag
  | false =>
      obtain ⟨c, member, _⟩ := Library.exists_of_expects own expected
      rw [agrees.free flag] at member
      exact absurd member (List.not_mem_nil)

/-- A handler that is not one of a fetch, and that keeps the session's fetch data. -/
theorem deliver_foreign {s : Session} {next : NetPc} (agrees : FetchAgreement w)
    (quiescent : w.net = .idle) (foreign : h.kind? ≠ some .fetch)
    (flag : s.fetchInProgress = w.session.fetchInProgress) (topics : s.topics = w.session.topics)
    (result : next.fetchResult? s = none) (noCapture : next.capturesFetch = false) :
    FetchAgreement { w with session := s, library := w.library.record h id, net := next } where
  free := by
    rw [Library.outstandingOf_record_of_kind_ne foreign]
    exact flag ▸ agrees.free
  busy := by
    rw [Library.outstandingOf_record_of_kind_ne foreign]
    exact flag ▸ topics ▸ agrees.busy
  early := by simp [noCapture]
  noUnsubscribe := Library.outstandingOf_record_eq_nil agrees.noUnsubscribe
  shown := by
    intro c ending last
    rw [Library.lastFetch?_record_of_kind_ne foreign] at last
    have before := agrees.shown c ending last
    simp only [World.settledFetch, World.comingFetchResults, quiescent] at before
    simp only [World.settledFetch, World.comingFetchResults, result]
    exact before

/-- A terminal handler of the fetch in progress, whose callback brings its outcome. -/
theorem deliver_ending {s : Session} {next : NetPc} {ending : Ending} (agrees : FetchAgreement w)
    (own : h.kind? = some .fetch) (terminal : h.ending? = some ending)
    (expected : w.library.expects h id) (flag : s.fetchInProgress = false)
    (result : ∀ c : Conversation, c.topics = w.session.topics → next.fetchResult? s = some (c.outcome ending)) :
    FetchAgreement { w with session := s, library := w.library.record h id, net := next } := by
  obtain ⟨c, single, topics⟩ := agrees.single_of_expects own expected
  obtain ⟨nothing, finished⟩ := Library.record_ends_fetch own terminal single expected
  refine ⟨fun _ => nothing, ?_, ?_, Library.outstandingOf_record_eq_nil agrees.noUnsubscribe, ?_⟩
  · simp [flag]
  · simp [flag]
  · intro d kind last
    rw [finished] at last
    obtain ⟨rfl, rfl⟩ : c = d ∧ ending = kind := by simpa using last
    simp [World.settledFetch, World.comingFetchResults, result c topics]

/-- A topic message of the fetch in progress. -/
theorem deliver_topic (agrees : FetchAgreement w) (quiescent : w.net = .idle)
    (message : TopicMessage) (expected : w.library.expects (.onTopic (some message)) id) :
    FetchAgreement { w with
      session := w.session.onFetchTopic message.toTopic
      library := w.library.record (.onTopic (some message)) id
      net := .idle } := by
  obtain ⟨c, single, topics⟩ := agrees.single_of_expects rfl expected
  obtain ⟨number, _⟩ := Library.answering_eq_of_expects rfl single expected
  have grown : (w.library.record (.onTopic (some message)) id).outstandingOf .fetch =
      [{ c with topics := c.topics ++ [message.delivered] }] := by
    simp [Library.outstandingOf_record_topic, single, number]
  refine ⟨?_, ?_, ?_, Library.outstandingOf_record_eq_nil agrees.noUnsubscribe, ?_⟩
  · intro flag
    simp [agrees.free flag] at single
  · intro _
    exact ⟨_, grown, by simp [topics, Session.onFetchTopic]⟩
  · simp [NetPc.capturesFetch]
  · intro d ending last
    rw [Library.lastFetch?, Library.log_record_of_none rfl] at last
    have before := agrees.shown d ending last
    simpa [World.settledFetch, World.comingFetchResults, quiescent, NetPc.fetchResult?]
      using before

/-- A step of the network thread or of the queue that keeps the flag, the topics and the ledger, and that
    at most moves a result on. -/
theorem of_same_ledger {w' : World} (agrees : FetchAgreement w)
    (flag : w'.session.fetchInProgress = w.session.fetchInProgress)
    (topics : w'.session.topics = w.session.topics) (library : w'.library = w.library)
    (capture : w'.net.capturesFetch = true → w.net.capturesFetch = true)
    (settled : w'.settledFetch = w.settledFetch) : FetchAgreement w' where
  free := by rw [flag, library]; exact agrees.free
  busy := by rw [flag, library, topics]; exact agrees.busy
  early := by
    rw [flag, topics]
    exact fun busy here => agrees.early busy (capture here)
  noUnsubscribe := by rw [library]; exact agrees.noUnsubscribe
  shown := by rw [library, settled]; exact agrees.shown

/-- `Session::fetch` accepts a request. -/
theorem accept (agrees : FetchAgreement w) (selector : String)
    (free : w.session.fetchInProgress = false)
    (nothing_lost : w.net.capturesFetch = true → w.session.topics = []) :
    FetchAgreement { w with
      session := w.session.beginFetch selector
      animator := w.animator.start "fetch"
      component := w.component.resetSpinner
      library := w.library.handOver .fetch selector } := by
  have kept : w.net.fetchResult? (w.session.beginFetch selector) = w.net.fetchResult? w.session :=
    NetPc.fetchResult?_beginFetch _ _ _ nothing_lost
  refine ⟨?_, ?_, fun _ _ => rfl, ?_, ?_⟩
  · simp [Session.beginFetch]
  · intro _
    have single := Library.outstandingOf_handOver_self w.library .fetch selector
    rw [agrees.free free] at single
    exact ⟨_, single, rfl⟩
  · rw [Library.outstandingOf_handOver_of_ne (by simp)]
    exact agrees.noUnsubscribe
  · intro c ending last
    rw [Library.lastFetch?_handOver] at last
    have before := agrees.shown c ending last
    simpa [World.settledFetch, World.comingFetchResults, kept, MainComponent.resetSpinner]
      using before

/-- `Session::subscribe` accepts a request. -/
theorem acceptSubscription (agrees : FetchAgreement w) (selector : String) :
    FetchAgreement { w with
      session := w.session.beginSubscribe selector
      animator := w.animator.start "subscribe"
      component := w.component.resetSubscribtionSpinner
      library := w.library.handOver .subscribe selector } := by
  refine ⟨?_, ?_, agrees.early, ?_, ?_⟩
  · rw [Library.outstandingOf_handOver_of_ne (by simp)]
    exact agrees.free
  · rw [Library.outstandingOf_handOver_of_ne (by simp)]
    exact agrees.busy
  · rw [Library.outstandingOf_handOver_of_ne (by simp)]
    exact agrees.noUnsubscribe
  · intro c ending last
    rw [Library.lastFetch?_handOver] at last
    exact agrees.shown c ending last

/-- The completion callback takes the topics out of the session. -/
theorem capture {selector : String} (agrees : FetchAgreement w) (here : w.net = .captureFetch selector) :
    FetchAgreement { w with
      session := { w.session with topics := [] }
      net := .post (.fetchCompleted "" w.session.topics selector) } := by
  refine ⟨agrees.free, ?_, ?_, agrees.noUnsubscribe, ?_⟩
  · intro flag
    obtain ⟨c, single, topics⟩ := agrees.busy flag
    rw [agrees.early flag (by rw [here]; rfl)] at topics
    exact ⟨c, single, topics⟩
  · simp [NetPc.capturesFetch]
  · intro c ending last
    have before := agrees.shown c ending last
    simpa [World.settledFetch, World.comingFetchResults, here, NetPc.fetchResult?,
      Task.fetchResult?] using before

/-- A handler call that only logs: of a fetch, it ends nothing, since an error is given. -/
theorem deliver_quiet (agrees : FetchAgreement w) (quiescent : w.net = .idle)
    (silent : h.isQuiet = true) (given : h ≠ .onFetchError none) :
    FetchAgreement { w with library := w.library.record h id, net := .idle } := by
  by_cases own : h.kind? = some .fetch
  · rw [Library.record_of_isQuiet silent own given]
    refine agrees.of_same_ledger rfl rfl rfl ?_ ?_
    · simp [NetPc.capturesFetch]
    · simp [World.settledFetch, World.comingFetchResults, quiescent]
  · exact agrees.deliver_foreign quiescent own rfl rfl rfl rfl

end FetchAgreement

theorem Transition.fetchAgreement {w w' : World} {e : Event} (moved : Transition w e w')
    (fromMain : FromMain w e) (cond : FetchesOutsideCapture w e) (agrees : FetchAgreement w) :
    FetchAgreement w' := by
  cases moved with
  | fetchAccepted selector free =>
      exact agrees.accept selector free (cond (by simp [Session.accepts, free]))
  | subscribeAccepted selector free => exact agrees.acceptSubscription selector
  | unsubscribed selector => exact absurd fromMain.2 (by simp [Event.isUnsubscribe])
  | ran task rest queue =>
      refine agrees.of_same_ledger rfl rfl rfl id ?_
      simp only [World.settledFetch, World.comingFetchResults, queue]
      rw [MainComponent.fetchResult_runTask]
      cases result : task.fetchResult? <;> simp [result]
  | animated sig present =>
      refine agrees.of_same_ledger rfl rfl rfl id ?_
      simp [World.settledFetch, World.comingFetchResults, Task.fetchResult?]
  | delivered h id s next quiescent entry =>
      have expected := fromMain.1
      simp only [inConversation] at expected
      cases entry with
      | topic message => exact agrees.deliver_topic quiescent message (expected (.inr rfl))
      | fetchCompleted =>
          apply agrees.deliver_ending rfl rfl (expected (.inl rfl)) rfl
          intro c topics
          simp [NetPc.fetchResult?, Conversation.outcome, Session.onFetchCompleted, topics]
      | fetchFailed error =>
          exact agrees.deliver_ending rfl rfl (expected (.inl rfl)) rfl fun c _ => rfl
      | fetchDiscarded =>
          exact agrees.deliver_ending rfl rfl (expected (.inl rfl)) rfl fun c _ => rfl
      | unsubscribeFailed error =>
          obtain ⟨c, member, _⟩ := Library.exists_of_expects rfl (expected (.inl rfl))
          rw [agrees.noUnsubscribe] at member
          exact absurd member List.not_mem_nil
      | update | subscribed | subscribeFailed =>
          exact agrees.deliver_foreign quiescent (by simp [Handler.kind?]) rfl rfl rfl rfl
      | notified h ts s note =>
          have foreign : h.kind? ≠ some .fetch := by simp [Handler.kind?_of_isNotification note]
          exact agrees.deliver_foreign quiescent foreign rfl rfl rfl rfl
      | quiet h s silent => exact agrees.deliver_quiet quiescent silent cond
  | capturedFetch selector here => exact agrees.capture here
  | stopped callback here =>
      refine agrees.of_same_ledger rfl rfl rfl ?_ ?_
      · rw [here]
        cases callback <;> simp [Callback.afterStop, NetPc.capturesFetch]
      · simp only [World.settledFetch, World.comingFetchResults, here,
          Callback.fetchResult?_afterStop]
  | posted task here =>
      refine agrees.of_same_ledger rfl rfl rfl ?_ ?_
      · simp [NetPc.capturesFetch]
      · cases result : task.fetchResult? <;>
          simp [World.settledFetch, World.comingFetchResults, here, NetPc.fetchResult?, result]
  | held here pending | passed here free | eventPosted sig here | capturedSubscribe selector here =>
      refine agrees.of_same_ledger rfl rfl rfl ?_ ?_
      · simp [NetPc.capturesFetch]
      · simp [World.settledFetch, World.comingFetchResults, here, NetPc.fetchResult?,
          Task.fetchResult?]
  | _ => exact agrees

/-- Session and UI agree on the result of every fetch: with no handler midway and the queue empty, the
    fetch tab shows the outcome of the most recently finished fetch. It holds in every run in which no
    fetch is accepted while topics wait for the completion callback to take them and `on_fetch_error` is given
    an error. -/
theorem fetch_outcome_shown {es : List Event} {w : World}
    (run : program.Run (fun w e => FromMain w e ∧ FetchesOutsideCapture w e) es w)
    (quiescent : w.net = .idle) (drained : w.queue = []) (c : Conversation) (ending : Ending)
    (last : w.library.lastFetch? = some (c, ending)) :
    (w.component.topics, w.component.fetchErrorMessage) = c.outcome ending := by
  have agrees : FetchAgreement w := by
    apply run.invariant (I := FetchAgreement)
    · refine ⟨fun _ => rfl, ?_, ?_, rfl, ?_⟩ <;> simp [program, Library.lastFetch?]
    · intro w e w' before cond step
      exact (Transition.of_step step).fetchAgreement cond.1 cond.2 before
  have settled := agrees.shown c ending last
  simpa [World.settledFetch, World.comingFetchResults, quiescent, drained, NetPc.fetchResult?]
    using settled

/-- A message of topic `path` with one byte of data. -/
def oneByte (path : String) (byte : UInt8) : TopicMessage :=
  { type := 0x14, payload := .ofBytes [byte], name := path }

/-- The topic that it carries. -/
def oneByteTopic (path : String) (byte : UInt8) : Topic :=
  { topicType := "TOPIC_LOAD", path := path, buffer := [byte] }

/-- A fetch that delivers one topic and completes, up to the drained queue. -/
def fetchOneTopic : List Event :=
  [.fetch "a", .deliver (.onTopic (some (oneByte "a" 1))) 0, .deliver .onFetch 0,
    .advance, .advance, .advance, .advance, .runTask, .runTask]

theorem fetchOneTopic_shown :
    ∃ w c, program.Run (fun w e => FromMain w e ∧ FetchesOutsideCapture w e) fetchOneTopic w ∧
      c.topics = [oneByteTopic "a" 1] ∧
      (w.component.topics, w.component.fetchErrorMessage) = Conversation.outcome c .completed := by
  let c : Conversation :=
    { id := 0, kind := .fetch, selector := "a", topics := [oneByteTopic "a" 1] }
  obtain ⟨w, run, facts⟩ : ∃ w,
      program.Run (fun w e => FromMain w e ∧ FetchesOutsideCapture w e) fetchOneTopic w ∧
        decide (w.net = .idle ∧ w.queue = [] ∧ w.library.lastFetch? = some (c, .completed)) = true :=
    TransitionSystem.Run.exists_of_exec (by decide)
  obtain ⟨quiescent, drained, last⟩ := of_decide_eq_true facts
  exact ⟨w, c, run, rfl, fetch_outcome_shown run quiescent drained c .completed last⟩

/-- A run in which a fetch with one topic completes, and the next one is accepted before the completion
    callback has taken the topic. -/
def fetchBeforeCapture : List Event :=
  [.fetch "a", .deliver (.onTopic (some (oneByte "a" 1))) 0, .deliver .onFetch 0, .fetch "b",
    .advance, .advance, .advance, .advance, .runTask, .runTask]

/-- Without the condition the law fails: the topic of the finished fetch is never shown. -/
theorem topics_lost_by_early_fetch :
    ¬ ∀ es w, program.Run FromMain es w → w.net = .idle → w.queue = [] →
      ∀ c ending, w.library.lastFetch? = some (c, ending) →
        (w.component.topics, w.component.fetchErrorMessage) = c.outcome ending := by
  intro law
  let c : Conversation :=
    { id := 0, kind := .fetch, selector := "a", topics := [oneByteTopic "a" 1] }
  obtain ⟨w, run, facts⟩ : ∃ w, program.Run FromMain fetchBeforeCapture w ∧
      decide (w.net = .idle ∧ w.queue = [] ∧ w.library.lastFetch? = some (c, .completed) ∧
        w.component.topics = []) = true :=
    TransitionSystem.Run.exists_of_exec (by decide)
  obtain ⟨quiescent, drained, last, nothing⟩ := of_decide_eq_true facts
  have shown := law _ _ run quiescent drained c .completed last
  have lost : w.component.topics = c.topics := congrArg Prod.fst shown
  rw [nothing] at lost
  cases lost

end Dmon
