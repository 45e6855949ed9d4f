/-
Module: Dmon.Proofs.FetchConversation
Layer: Proofs
Purpose: The outcome of a fetch against the conversation that svc-fetch.h describes: topic messages and one
  acknowledgement in any order, then a status message, or an error or a discard. `FetchSummary` is the fetch
  tab as it will be when the queue is drained; it is a fold over the fetch's own events, whatever else the
  program does in between. The acknowledgement publishes the topics that arrived before it, and the status
  message is only logged: `conversation_reported_iff` says for which conversations that is the outcome.
Imports: Dmon.Proofs.FetchTab, Dmon.Proofs.Ledger
Trusted boundary: none
Main exports: FetchConversation, FetchConversation.Reported, FetchConversation.AcknowledgedLast,
  FetchSummary, summary_of_run, conversation_reported_iff, topic_after_acknowledgement_lost
-/
import Dmon.Proofs.FetchTab
import Dmon.Proofs.Ledger

namespace Dmon

open TransitionSystem (Free)

/-! ### The documented conversation -/

/-- How a fetch conversation ends. -/
inductive FetchEnd where
  | status (response : FetchStatusResponse)
  | failed (error : DiffusionError)
  | discarded
deriving DecidableEq, Repr

/-- The handler call that ends the conversation. -/
def FetchEnd.handler : FetchEnd → Handler
  | .status response => .onFetchStatusMessage (some response)
  | .failed error => .onFetchError (some error)
  | .discarded => .onFetchDiscard

/-- A fetch conversation as the header describes it: the calls before the end are topic messages and at
    most one acknowledgement, which comes before a status message in any case. -/
structure FetchConversation where
  calls : List Handler
  ending : FetchEnd
  messages : ∀ h ∈ calls, h ≠ .onFetch → ∃ message, h = .onTopic (some message)
  once : calls.count .onFetch ≤ 1
  acknowledged : ∀ response, ending = .status response → .onFetch ∈ calls

/-- The topic that a call delivers. -/
def Handler.fetched? : Handler → Option Topic
  | .onTopic message => message.map TopicMessage.delivered
  | _ => none

/-- The events of a fetch: the request, the handler calls and nothing else. -/
def Event.ofFetch : Event → Bool
  | .fetch _ => true
  | .deliver h _ => h.kind? == some .fetch
  | _ => false

namespace FetchConversation

/-- The topics delivered for the fetch. -/
def delivered (conv : FetchConversation) : List Topic := conv.calls.filterMap Handler.fetched?

/-- The events of the conversation. -/
def events (conv : FetchConversation) (selector : String) (id : Nat) : List Event :=
  .fetch selector :: (conv.calls ++ [conv.ending.handler]).map (.deliver · id)

/-- The law: a completed fetch leaves exactly its topics on the fetch tab, and a failed one a message. -/
def Reported (conv : FetchConversation) (c : MainComponent) : Prop :=
  match conv.ending with
  | .status response =>
      (response.statusFlag = diffusionTrue → c.topics = conv.delivered) ∧
      (response.statusFlag = diffusionFalse → c.fetchErrorMessage ≠ "")
  | .failed _ | .discarded => True

/-- The status message does not report a failure, and if it reports the completion, no topic message came
    after the acknowledgement. -/
def AcknowledgedLast (conv : FetchConversation) : Prop :=
  match conv.ending with
  | .status response =>
      response.statusFlag ≠ diffusionFalse ∧
      (response.statusFlag = diffusionTrue → conv.calls.getLast? = some .onFetch)
  | .failed _ | .discarded => True

end FetchConversation

/-! ### What the fetch tab comes to -/

/-- The fetch side when the UI thread has run its tasks: the flag, the topics in the session, and the topics
    and the message on the tab. -/
structure FetchSummary where
  inProgress : Bool
  topics : List Topic
  shown : List Topic × String
deriving DecidableEq, Repr

namespace FetchSummary

/-- What a handler of a fetch does. -/
def handle (sum : FetchSummary) : Handler → FetchSummary
  | .onTopic (some message) => { sum with topics := sum.topics ++ [message.toTopic] }
  | .onFetch => { inProgress := false, topics := [], shown := (sum.topics, "") }
  | .onFetchError (some error) => { sum with inProgress := false, shown := ([], error.message) }
  | .onFetchDiscard => { sum with inProgress := false, shown := ([], "Discard") }
  | _ => sum

/-- What an event of the fetch does. -/
def after (sum : FetchSummary) : Event → FetchSummary
  | .fetch _ => if sum.inProgress then sum else { sum with inProgress := true, topics := [] }
  | .deliver h _ => sum.handle h
  | _ => sum

/-- Topic messages pile up in the session. -/
theorem foldl_topics (id : Nat) {calls : List Handler}
    (messages : ∀ h ∈ calls, ∃ message, h = .onTopic (some message)) (sum : FetchSummary) :
    (calls.map (Event.deliver · id)).foldl after sum =
      { sum with topics := sum.topics ++ calls.filterMap Handler.fetched? } := by
  induction calls generalizing sum with
  | nil => simp
  | cons h rest ih =>
      obtain ⟨message, rfl⟩ := messages h List.mem_cons_self
      rw [List.map_cons, List.foldl_cons, ih fun h member => messages h (List.mem_cons_of_mem _ member)]
      simp [after, handle, Handler.fetched?]

end FetchSummary

/-- A queued task on the fetch tab. -/
def FetchTask.show (shown : List Topic × String) : FetchTask → List Topic × String
  | .result errorMessage topics => (topics, errorMessage)
  | .tick => shown

/-- What the fetch side comes to. -/
def FetchTab.summary (tab : FetchTab) : FetchSummary where
  inProgress := tab.inProgress
  topics := tab.topics
  shown := tab.queued.foldl FetchTask.show (tab.screen.topics, tab.screen.errorMessage)

theorem FetchTab.summary_finish (tab : FetchTab) (errorMessage : String) (topics : List Topic) :
    (tab.finish errorMessage topics).summary =
      { tab.summary with inProgress := false, shown := (topics, errorMessage) } := by
  simp [FetchTab.summary, FetchTab.finish, FetchTask.show]

theorem FetchTab.summary_handle (tab : FetchTab) (h : Handler) :
    (tab.handle h).summary = tab.summary.handle h := by
  cases h with
  | onTopic message => cases message <;> rfl
  | onFetch => simp [handle, FetchSummary.handle, summary, finish, FetchTask.show]
  | onFetchError error =>
      cases error with
      | none => rfl
      | some error => exact tab.summary_finish error.message []
  | onFetchDiscard => exact tab.summary_finish "Discard" []
  | _ => rfl

/-- A handler of another set does nothing to the fetch side. -/
theorem FetchSummary.handle_of_kind_ne (sum : FetchSummary) {h : Handler} (ne : h.kind? ≠ some .fetch) :
    sum.handle h = sum := by
  cases h with
  | onFetch | onTopic | onFetchError | onFetchStatusMessage | onFetchDiscard => exact absurd rfl ne
  | _ => rfl

/-- The fetch's own events act on the summary; running the tasks and turning the spinner do not. -/
theorem FetchTab.summary_after (tab : FetchTab) (e : Event) :
    (tab.after e).summary = if e.ofFetch then tab.summary.after e else tab.summary := by
  cases e with
  | fetch selector =>
      cases busy : tab.inProgress <;> simp [after, FetchSummary.after, summary, busy, Event.ofFetch]
  | deliver h id =>
      rw [after, summary_handle]
      split
      next => rfl
      next foreign =>
        apply FetchSummary.handle_of_kind_ne
        simpa [Event.ofFetch] using foreign
  | runTask =>
      cases queued : tab.queued with
      | nil => simp [after, queued, Event.ofFetch]
      | cons task rest => cases task <;> simp [after, queued, Event.ofFetch, summary, FetchScreen.run, FetchTask.show]
  | animate sig => simp [after, Event.ofFetch, summary, FetchTask.show]
  | subscribe | unsubscribe | advance => rfl

/-- A step of the program, seen from the fetch side when the queue is drained. -/
theorem AtomicTransition.fetchSummary {w w' : World} {e : Event} (moved : AtomicTransition w e w')
    (apart : e.KeepsApart) :
    w'.fetchTab.summary = if e.ofFetch then w.fetchTab.summary.after e else w.fetchTab.summary := by
  cases concerns : concernsFetch w e with
  | true => rw [moved.fetchTab apart concerns, FetchTab.summary_after]
  | false =>
      have other : e.ofFetch = false := by
        cases e with
        | fetch => cases concerns
        | deliver h id => exact concerns
        | _ => rfl
      rw [moved.fetchTab_eq apart concerns, other]
      rfl

/-- `main`'s UI never calls `Session::unsubscribe`, and the library calls the handlers of an unsubscription
    only when one was requested. -/
def NeverUnsubscribes (w : World) : Event → Prop
  | .unsubscribe _ => False
  | .deliver h id => h.kind? = some .unsubscribe → w.library.expects h id
  | _ => True

instance (w : World) : (e : Event) → Decidable (NeverUnsubscribes w e)
  | .unsubscribe _ => inferInstanceAs (Decidable False)
  | .deliver h id =>
      inferInstanceAs (Decidable (h.kind? = some .unsubscribe → w.library.expects h id))
  | .fetch _ | .subscribe _ | .runTask | .animate _ | .advance => inferInstanceAs (Decidable True)

/-- No handler is midway and no unsubscription is outstanding. -/
structure WithoutUnsubscription (w : World) : Prop where
  quiescent : w.net = .idle
  nothing : w.library.outstandingOf .unsubscribe = []

namespace WithoutUnsubscription

variable {w w' : World} {e : Event}

theorem step (inv : WithoutUnsubscription w) (cond : NeverUnsubscribes w e)
    (step : atomicProgram.step w e = some w') : WithoutUnsubscription w' := by
  have moved := AtomicTransition.of_step inv.quiescent step
  refine ⟨moved.quiescent, ?_⟩
  cases moved with
  | operated operation still moved =>
      cases moved with
      | fetchAccepted selector | subscribeAccepted selector =>
          rw [Library.outstandingOf_handOver_of_ne (by simp)]
          exact inv.nothing
      | unsubscribed => cases cond
      | delivered | held | passed | stopped | capturedFetch | capturedSubscribe | posted
      | eventPosted => simp [Event.isOperation] at operation
      | _ => exact inv.nothing
  | handled h id s next entry =>
      rw [Shared.finish_library]
      exact Library.outstandingOf_record_eq_nil inv.nothing

theorem keepsApart (inv : WithoutUnsubscription w) (cond : NeverUnsubscribes w e) : e.KeepsApart := by
  cases e with
  | deliver h id =>
      cases h with
      | onUnsubscribeError error =>
          obtain ⟨c, member, _⟩ := Library.exists_of_expects rfl (cond rfl)
          rw [inv.nothing] at member
          exact absurd member List.not_mem_nil
      | _ => trivial
  | _ => trivial

end WithoutUnsubscription

/-- The fetch side of a run is the fold over the fetch's own events. -/
theorem summary_of_run {es : List Event} {w : World} (run : atomicProgram.Run NeverUnsubscribes es w) :
    w.fetchTab.summary =
      (es.filter Event.ofFetch).foldl FetchSummary.after atomicProgram.init.fetchTab.summary := by
  apply run.foldl_filter (I := WithoutUnsubscription) (fun w => w.fetchTab.summary) ⟨rfl, rfl⟩
  · intro w e w' inv cond step
    exact inv.step cond step
  · intro w e w' inv cond step
    exact (AtomicTransition.of_step inv.quiescent step).fetchSummary (inv.keepsApart cond)

/-! ### The outcome -/

namespace FetchConversation

variable {conv : FetchConversation}

/-- The calls before a status message are topics, the acknowledgement, and topics again. -/
theorem exists_split (conv : FetchConversation) (acknowledged : .onFetch ∈ conv.calls) :
    ∃ early late, conv.calls = early ++ .onFetch :: late ∧
      (∀ h ∈ early, ∃ message, h = .onTopic (some message)) ∧
      ∀ h ∈ late, ∃ message, h = .onTopic (some message) := by
  obtain ⟨early, late, split⟩ := List.append_of_mem acknowledged
  have once := conv.once
  rw [split, List.count_append, List.count_cons_self] at once
  have notEarly : .onFetch ∉ early := List.count_eq_zero.1 (by omega)
  have notLate : .onFetch ∉ late := List.count_eq_zero.1 (by omega)
  refine ⟨early, late, split, ?_, ?_⟩
  · intro h member
    apply conv.messages h (by simp [split, member])
    intro same
    exact notEarly (same ▸ member)
  · intro h member
    apply conv.messages h (by simp [split, member])
    intro same
    exact notLate (same ▸ member)

/-- A conversation with a status message leaves the topics that came before the acknowledgement. -/
theorem shown_of_split (conv : FetchConversation) (selector : String) (id : Nat)
    {response : FetchStatusResponse} (ending : conv.ending = .status response)
    {early late : List Handler} (split : conv.calls = early ++ .onFetch :: late)
    (earlyTopics : ∀ h ∈ early, ∃ message, h = .onTopic (some message))
    (lateTopics : ∀ h ∈ late, ∃ message, h = .onTopic (some message)) :
    ((conv.events selector id).foldl FetchSummary.after atomicProgram.init.fetchTab.summary).shown =
      (early.filterMap Handler.fetched?, "") := by
  rw [events, ending, split]
  simp only [List.append_assoc, List.cons_append, List.map_append, List.map_cons, List.foldl_cons,
    List.foldl_append]
  rw [FetchSummary.foldl_topics id earlyTopics, FetchSummary.foldl_topics id lateTopics]
  rfl

/-- These are all topics of the fetch exactly when the acknowledgement is the last call before the end. -/
theorem early_eq_delivered_iff (conv : FetchConversation) {early late : List Handler}
    (split : conv.calls = early ++ .onFetch :: late)
    (lateTopics : ∀ h ∈ late, ∃ message, h = .onTopic (some message)) :
    early.filterMap Handler.fetched? = conv.delivered ↔ conv.calls.getLast? = some .onFetch := by
  have all : conv.delivered = early.filterMap Handler.fetched? ++ late.filterMap Handler.fetched? := by
    rw [delivered, split, List.filterMap_append]
    rfl
  rw [all, split, List.self_eq_append_right]
  rcases late.eq_nil_or_concat with rfl | ⟨rest, h, rfl⟩
  · simp
  · obtain ⟨message, rfl⟩ := lateTopics h (by simp)
    simp [Handler.fetched?, List.getLast?_cons]

end FetchConversation

/-- With the queue drained, the tab shows what the fetch side comes to. -/
theorem World.shown_of_drained {w : World} (drained : w.queue = []) :
    w.fetchTab.summary.shown = (w.component.topics, w.component.fetchErrorMessage) := by
  simp [World.fetchTab, FetchTab.summary, drained, MainComponent.fetchScreen]

/-- The outcome of a documented fetch conversation is reported, whatever else the program does in between,
    exactly when the status message reports no failure and no topic comes between the acknowledgement and
    the report of a completion. -/
theorem conversation_reported_iff (conv : FetchConversation) {selector : String} {id : Nat}
    {es : List Event} {w : World} (run : atomicProgram.Run NeverUnsubscribes es w)
    (spoken : es.filter Event.ofFetch = conv.events selector id) (drained : w.queue = []) :
    conv.Reported w.component ↔ conv.AcknowledgedLast := by
  unfold FetchConversation.Reported FetchConversation.AcknowledgedLast
  cases ending : conv.ending with
  | failed error => exact Iff.rfl
  | discarded => exact Iff.rfl
  | status response =>
      obtain ⟨early, late, split, earlyTopics, lateTopics⟩ :=
        conv.exists_split (conv.acknowledged response ending)
      have shown := conv.shown_of_split selector id ending split earlyTopics lateTopics
      rw [← spoken, ← summary_of_run run, World.shown_of_drained drained, Prod.mk.injEq] at shown
      obtain ⟨topics, message⟩ := shown
      have complete : w.component.topics = conv.delivered ↔ conv.calls.getLast? = some .onFetch := by
        rw [topics]
        exact conv.early_eq_delivered_iff split lateTopics
      simp only [message, complete, ne_eq, not_true, imp_false]
      exact and_comm

/-- A message of topic `a` with one byte of data. -/
def messageOfA : TopicMessage := { type := 0x14, payload := .ofBytes [1], name := "a" }

/-- The status message with a given flag. -/
def statusMessage (flag : Int32) : FetchEnd := .status { statusFlag := flag, payload := none }

/-- The conversation for a fetch of `a`, and the two tasks that it posts. -/
def FetchConversation.thenDrained (conv : FetchConversation) : List Event :=
  conv.events "a" 0 ++ [.runTask, .runTask]

/-- One topic, the acknowledgement, and the report of the completion. -/
def topicThenAcknowledgement : FetchConversation where
  calls := [.onTopic (some messageOfA), .onFetch]
  ending := statusMessage diffusionTrue
  messages := by simp
  once := by decide
  acknowledged := by simp

theorem topicThenAcknowledgement_reported :
    ∃ w, atomicProgram.Run NeverUnsubscribes topicThenAcknowledgement.thenDrained w ∧
      topicThenAcknowledgement.Reported w.component ∧ topicThenAcknowledgement.AcknowledgedLast := by
  obtain ⟨w, run, drained⟩ : ∃ w,
      atomicProgram.Run NeverUnsubscribes topicThenAcknowledgement.thenDrained w ∧
        decide (w.queue = []) = true :=
    TransitionSystem.Run.exists_of_exec (by decide)
  have spoken : topicThenAcknowledgement.thenDrained.filter Event.ofFetch =
      topicThenAcknowledgement.events "a" 0 := by decide
  have last : topicThenAcknowledgement.AcknowledgedLast := ⟨by decide, fun _ => rfl⟩
  exact ⟨w, run, (conversation_reported_iff _ run spoken (of_decide_eq_true drained)).2 last, last⟩

/-- The acknowledgement, one topic, and the report of the completion. -/
def topicAfterAcknowledgement : FetchConversation where
  calls := [.onFetch, .onTopic (some messageOfA)]
  ending := statusMessage diffusionTrue
  messages := by simp
  once := by decide
  acknowledged := by simp

/-- The acknowledgement, and the report of a failure. -/
def failureAfterAcknowledgement : FetchConversation where
  calls := [.onFetch]
  ending := statusMessage diffusionFalse
  messages := by simp
  once := by decide
  acknowledged := by simp

/-- The topic that follows the acknowledgement is never shown, and neither is a failure. -/
theorem topic_after_acknowledgement_lost :
    ¬ (∀ (conv : FetchConversation) selector id es w, atomicProgram.Run NeverUnsubscribes es w →
        es.filter Event.ofFetch = conv.events selector id → w.queue = [] → conv.Reported w.component) ∧
      ∃ w, atomicProgram.Run NeverUnsubscribes failureAfterAcknowledgement.thenDrained w ∧
        w.queue = [] ∧ ¬ failureAfterAcknowledgement.Reported w.component := by
  constructor
  · intro law
    obtain ⟨w, run, facts⟩ : ∃ w,
        atomicProgram.Run NeverUnsubscribes topicAfterAcknowledgement.thenDrained w ∧
          decide (w.queue = [] ∧ w.component.topics = []) = true :=
      TransitionSystem.Run.exists_of_exec (by decide)
    obtain ⟨drained, nothing⟩ := of_decide_eq_true facts
    have reported : topicAfterAcknowledgement.Reported w.component :=
      law _ "a" 0 _ w run (by decide) drained
    have shown : w.component.topics = [messageOfA.delivered] := reported.1 rfl
    rw [nothing] at shown
    cases shown
  · obtain ⟨w, run, facts⟩ : ∃ w,
        atomicProgram.Run NeverUnsubscribes failureAfterAcknowledgement.thenDrained w ∧
          decide (w.queue = [] ∧ w.component.fetchErrorMessage = "") = true :=
      TransitionSystem.Run.exists_of_exec (by decide)
    obtain ⟨drained, nothing⟩ := of_decide_eq_true facts
    exact ⟨w, run, drained, fun reported => reported.2 rfl nothing⟩

end Dmon
