/-
Module: Dmon.Proofs.ThreadOutcomes
Layer: Proofs
Purpose: What the linearization of the threads brings: results about the runs of the atomic program hold of
  every interleaving of the three threads. For the results that read the library's ledger the record has to
  carry the ledger too. The threads hand a request to the library a little later than the record says, so
  the two logs agree in their openings and in their endings, and not in how these are merged.
Imports: Dmon.Proofs.Realization, Dmon.Proofs.Delivery, Dmon.Proofs.FetchHistory
Trusted boundary: none
Main exports: threads_updates, Library.Agrees, threads_ledger_linearization, threads_at_rest,
  threads_fetch_outcome
-/
import Dmon.Proofs.Realization
import Dmon.Proofs.Delivery
import Dmon.Proofs.FetchHistory

namespace Dmon

open TransitionSystem (Free)

/-! ### Updates -/

/-- The topics of the task that the UI thread has taken from the queue and not run yet. -/
def Label.inHand : Label → List Topic
  | .popUnlock (some task) | .runTask (some task) => task.updates
  | _ => []

theorem Label.subscribeTopics_owes (l : Label) (c : MainComponent) :
    (l.owes c).subscribeTopics = c.subscribeTopics ++ l.inHand := by
  have restarts : ∀ op : Operation, (op.restarts c).subscribeTopics = c.subscribeTopics := by
    intro op
    cases op <;> rfl
  cases l with
  | startUnlock op selector | startNotify op selector | handOver op selector =>
      simp [owes, inHand, restarts]
  | requestUnlock op accepted | requestDone op accepted =>
      cases accepted <;> simp [owes, inHand, restarts]
  | popUnlock task | runTask task => cases task <;> simp [owes, inHand]
  | _ => simp [owes, inHand]

theorem Explains.subscrubeTopics {uiAt netAt loopAt : Label} {s : Shared} {w : World}
    (explains : Explains uiAt netAt loopAt s w) :
    w.session.subscrubeTopics = s.session.subscrubeTopics := by
  rw [explains.session]
  cases uiAt.opening? with
  | none => rfl
  | some opened => cases opened with | mk op selector => cases op <;> rfl

/-- No subscribed topic message is lost, duplicated or reordered by the threads: at every moment of every
    interleaving, the updates on the screen, in the UI thread's hands, in the queue, in the network thread's
    hands and in the session's buffer are together the updates delivered so far, in delivery order. -/
theorem threads_updates {r : Threads.State Mutex Thread Label (Shared × List Event)}
    (reached : Threads.Reachable (threads.recorded Label.StandsFor fun _ _ => True) r) :
    r.data.1.component.subscribeTopics ++ (r.places .ui).inHand ++ r.data.1.queue.flatMap Task.updates ++
      (r.places .network).netPc.updates ++ r.data.1.session.subscrubeTopics =
        deliveredUpdates r.data.2 := by
  obtain ⟨w, run, explains⟩ := threads_linearization.run reached
  have delivered := World.updates_of_run run
  rwa [World.updates, explains.component, Label.subscribeTopics_owes, explains.queue, explains.net,
    explains.subscrubeTopics] at delivered

/-- An update arrives during a subscription, in an execution of the threads up to the posts. -/
theorem updateDuringSubscription_realized : ∃ w,
    Threads.Reachable (threads.recorded Label.StandsFor fun _ _ => True)
      (parked w updateDuringSubscription) := by
  obtain ⟨w, run, -⟩ : ∃ w,
      program.Run (fun w e => Free w e ∧ e.isPlain = true) updateDuringSubscription w ∧
        decide (w.queue.length = 2) = true := TransitionSystem.Run.exists_of_exec (by decide)
  exact ⟨w, (Swept.of_run run).reachable (fun _ _ _ => trivial) fun _ _ _ _ => trivial⟩

theorem updateDuringSubscription_threads : ∃ w : World,
    Threads.Reachable (threads.recorded Label.StandsFor fun _ _ => True)
        (parked w updateDuringSubscription) ∧
      w.component.subscribeTopics ++ [] ++ w.queue.flatMap Task.updates ++ w.net.updates ++
        w.session.subscrubeTopics = [{ topicType := "DELTA", path := "a", buffer := [1] }] := by
  obtain ⟨w, reached⟩ := updateDuringSubscription_realized
  have list : deliveredUpdates updateDuringSubscription =
      [{ topicType := "DELTA", path := "a", buffer := [1] }] := by decide
  exact ⟨w, reached, (threads_updates reached).trans list⟩

/-! ### The ledger -/

/-- The entry is about the end of a request. -/
def LogEntry.isEnding : LogEntry → Bool
  | .ended .. => true
  | .opened _ => false

@[simp] theorem LogEntry.isEnding_opened (c : Conversation) : (LogEntry.opened c).isEnding = false := rfl

@[simp] theorem LogEntry.isEnding_ended (c : Conversation) (ending : Ending) :
    (LogEntry.ended c ending).isEnding = true := rfl

namespace Library

/-- Two ledgers that agree but for the order between openings and endings. -/
structure Agrees (a b : Library) : Prop where
  nextId : a.nextId = b.nextId
  outstanding : a.outstanding = b.outstanding
  openings : a.log.filter (!·.isEnding) = b.log.filter (!·.isEnding)
  endings : a.log.filter (·.isEnding) = b.log.filter (·.isEnding)

namespace Agrees

variable {a b c : Library} {h : Handler} {id : Nat}

theorem refl (a : Library) : a.Agrees a := ⟨rfl, rfl, rfl, rfl⟩

theorem trans (one : a.Agrees b) (two : b.Agrees c) : a.Agrees c :=
  ⟨one.nextId.trans two.nextId, one.outstanding.trans two.outstanding, one.openings.trans two.openings,
    one.endings.trans two.endings⟩

theorem handOver (agrees : a.Agrees b) (kind : RequestKind) (selector : String) :
    (a.handOver kind selector).Agrees (b.handOver kind selector) where
  nextId := congrArg (· + 1) agrees.nextId
  outstanding := by simp [Library.handOver, agrees.nextId, agrees.outstanding]
  openings := by simp [Library.handOver, agrees.nextId, agrees.openings]
  endings := by simp [Library.handOver, agrees.nextId, agrees.endings]

theorem record (agrees : a.Agrees b) (h : Handler) (id : Nat) : (a.record h id).Agrees (b.record h id) := by
  cases terminal : h.ending? with
  | some ending =>
      simp only [Library.record, terminal, agrees.outstanding]
      exact ⟨agrees.nextId, rfl, by simp [agrees.openings], by simp [agrees.endings]⟩
  | none =>
      by_cases topic : ∃ message, h = .onTopic (some message)
      · rcases topic with ⟨message, rfl⟩
        exact { agrees with outstanding := by simp [Library.record, terminal, agrees.outstanding] }
      · have quiet : ∀ message, h ≠ .onTopic (some message) := fun message same => topic ⟨message, same⟩
        rwa [record_eq_self terminal quiet, record_eq_self terminal quiet]

theorem numbered (agrees : a.Agrees b) (numbered : b.Numbered) : a.Numbered where
  nodup := agrees.outstanding ▸ numbered.nodup
  below := agrees.nextId ▸ agrees.outstanding ▸ numbered.below

theorem lastFetch? (agrees : a.Agrees b) : a.lastFetch? = b.lastFetch? := by
  have onlyEndings : ∀ log : List LogEntry,
      log.filterMap LogEntry.fetchEnded? = (log.filter (·.isEnding)).filterMap LogEntry.fetchEnded? := by
    intro log
    rw [List.filterMap_filter]
    apply List.filterMap_congr
    intro entry _
    cases entry <;> rfl
  rw [Library.lastFetch?, onlyEndings, agrees.endings, ← onlyEndings, Library.lastFetch?]

end Agrees

variable {lib : Library} {h : Handler} {id : Nat}

theorem Numbered.of_handOver {kind : RequestKind} {selector : String}
    (numbered : (lib.handOver kind selector).Numbered) : lib.Numbered where
  nodup := by
    have both := numbered.nodup
    simp only [Library.handOver, List.map_append] at both
    exact both.of_append_left
  below := by
    intro c member
    have both := numbered.nodup
    simp only [Library.handOver, List.map_append, List.nodup_append] at both
    have fresh : c.id ≠ lib.nextId := both.2.2 c.id (List.mem_map_of_mem member) _ (by simp)
    have below : c.id < lib.nextId + 1 := numbered.below c (List.mem_append_left _ member)
    omega

/-- A handler that is expected is not the one of the request that comes next, so it does not matter which of
    the two the ledger notes first. -/
theorem handOver_record (numbered : lib.Numbered) (kind : RequestKind) (selector : String)
    (expected : h.ending?.isSome ∨ h.isFetchTopic → lib.expects h id) :
    ((lib.record h id).handOver kind selector).Agrees ((lib.handOver kind selector).record h id) := by
  have early : h.ending?.isSome ∨ h.isFetchTopic →
      Conversation.answers { id := lib.nextId, kind := kind, selector := selector } h id = false := by
    intro matters
    obtain ⟨c, member, answers⟩ := List.any_eq_true.1 (expected matters)
    have below := numbered.below c member
    rw [(Conversation.answers_iff.1 answers).1] at below
    rw [Bool.eq_false_iff]
    intro again
    exact absurd (Conversation.answers_iff.1 again).1 below.ne'
  cases terminal : h.ending? with
  | some ending =>
      have foreign := early (.inl (by simp [terminal]))
      refine ⟨?_, ?_, ?_, ?_⟩ <;>
        simp [Library.record, Library.handOver, terminal, foreign, List.filter_map, Function.comp_def]
  | none =>
      by_cases topic : ∃ message, h = .onTopic (some message)
      · rcases topic with ⟨message, rfl⟩
        have foreign := early (.inr rfl)
        refine ⟨?_, ?_, ?_, ?_⟩ <;> simp [Library.record, Library.handOver, terminal, foreign]
      · have quiet : ∀ message, h ≠ .onTopic (some message) := fun message same => topic ⟨message, same⟩
        rw [record_eq_self terminal quiet, record_eq_self terminal quiet]
        exact .refl _

end Library

/-! ### The record with the ledger -/

/-- What an event does to the ledger, for a session that accepts operations or not. -/
def Library.noting (lib : Library) (accepts : Bool) : Event → Library
  | .fetch selector => if accepts then lib.handOver .fetch selector else lib
  | .subscribe selector => if accepts then lib.handOver .subscribe selector else lib
  | .unsubscribe selector => lib.handOver .unsubscribe selector
  | .deliver h id => lib.record h id
  | .runTask | .animate _ | .advance => lib

@[simp] theorem Library.noting_event (lib : Library) (op : Operation) (selector : String) (accepts : Bool) :
    lib.noting accepts (op.event selector) = if accepts then lib.handOver op.kind selector else lib := by
  cases op <;> rfl

theorem Library.Agrees.noting {a b : Library} (agrees : a.Agrees b) (accepts : Bool) (e : Event) :
    (a.noting accepts e).Agrees (b.noting accepts e) := by
  cases e with
  | fetch selector | subscribe selector =>
      cases accepts with
      | true => exact agrees.handOver ..
      | false => exact agrees
  | unsubscribe selector => exact agrees.handOver ..
  | deliver h id => exact agrees.record h id
  | runTask | animate | advance => exact agrees

theorem Library.Numbered.noting {lib : Library} (numbered : lib.Numbered) (accepts : Bool) (e : Event) :
    (lib.noting accepts e).Numbered := by
  cases e with
  | fetch selector | subscribe selector =>
      cases accepts with
      | true => exact numbered.handOver ..
      | false => exact numbered
  | unsubscribe selector => exact numbered.handOver ..
  | deliver h id => exact numbered.record h id
  | runTask | animate | advance => exact numbered

theorem Transition.library {w w' : World} {e : Event} (moved : Transition w e w') :
    w'.library = w.library.noting w.session.accepts e := by
  cases moved <;> simp [Library.noting, Session.accepts, *]

/-- The request that the UI thread has recorded and not handed over yet. -/
def Label.sends : Label → Library → Library
  | .startUnlock op selector | .startNotify op selector | .handOver op selector => fun lib =>
      lib.handOver op.kind selector
  | _ => id

/-- What the library promises, read on the shared data. -/
def KeepsToConversations (s : Shared) (e : Event) : Prop :=
  inConversation { toShared := s } e

/-- The places and the data against a state of the atomic program, with the ledger. -/
structure ExplainsLedger (places : Thread → Label) (s : Shared) (w : World) : Prop where
  explains : ExplainsAll places s w
  ledger : ((places .ui).sends s.library).Agrees w.library
  numbered : w.library.Numbered

section Ledger

variable {l next : Label} {run : Shared → Label → Shared → Prop} {s s' : Shared} {w w' : World}
  {e : Option Event}

theorem sends_of_passes (passes : threads.Passes l next) : next.sends = l.sends := by
  cases l with
  | net pc => cases pc <;> rcases passes with code | code | code | code | code <;> cases code <;> rfl
  | loopPost signals =>
      cases signals <;> rcases passes with code | code | code | code | code <;> cases code <;> rfl
  | netUnlock pc next =>
      rcases passes with code | code | code | code | code <;> cases code
      split <;> rfl
  | _ => rcases passes with code | code | code | code | code <;> cases code <;> rfl

/-- The network thread and the animator's thread deliver a handler call, or leave the ledger alone. -/
theorem library_elsewhere (code : threads.code l = .act run) (ran : run s next s')
    (stands : l.StandsFor s next s' e) (owned : l.owner ≠ .ui) :
    (∃ h id, e = some (.deliver h id) ∧ s'.library = s.library.record h id) ∨
      s'.library = s.library ∧ ∀ event ∈ e, event = .advance ∨ ∃ sig, event = .animate sig := by
  cases l with
  | net pc =>
      cases pc with
      | idle =>
          cases code
          rcases stands with ⟨h, id, stands⟩
          split at stands
          next locks =>
            obtain ⟨rfl, rfl⟩ := stands
            obtain ⟨h', id', ran⟩ := ran
            split at ran
            next =>
              obtain ⟨-, rfl⟩ := ran
              exact .inr ⟨rfl, nofun⟩
            next =>
              obtain ⟨pc, -, there⟩ := ran
              cases there
          next free =>
            obtain ⟨⟨pc, ok, rfl⟩, rfl⟩ := stands
            obtain ⟨entered, -, -, rfl⟩ := enter_eq_ok ok
            exact .inl ⟨h, id, rfl, rfl⟩
      | _ => cases code
  | enterBody h id =>
      cases code
      obtain ⟨pc, ok, rfl⟩ := ran
      obtain ⟨entered, -, -, rfl⟩ := enter_eq_ok ok
      exact .inl ⟨h, id, stands, rfl⟩
  | netBody pc =>
      cases code
      obtain ⟨rfl, rfl⟩ : _ = next ∧ _ = s' := Prod.mk.inj ran
      obtain rfl : e = _ := stands
      exact .inr ⟨by cases pc <;> rfl, by simp⟩
  | loopPostBody sig rest =>
      cases code
      obtain ⟨rfl, rfl⟩ : _ = next ∧ _ = s' := Prod.mk.inj ran
      obtain rfl : e = _ := stands
      exact .inr ⟨rfl, by simp⟩
  | loopTest | loopStop | loopSleep =>
      cases code
      obtain ⟨rfl, rfl⟩ : _ = next ∧ _ = s' := Prod.mk.inj ran
      subst stands
      exact .inr ⟨rfl, nofun⟩
  | loopPost signals => cases signals <;> cases code
  | enter | enterUnlock | netUnlock | netNotify | loop | loopWait | loopPostUnlock | loopBreak | loopDone =>
      cases code
  | _ => exact absurd rfl owned

theorem fromMain_event (op : Operation) (selector : String) (v : World) :
    FromMain v (op.event selector) := by
  cases op <;> exact ⟨trivial, rfl⟩

/-- What the UI thread does to the ledger, together with what it still has to hand over, is what it stands
    for. -/
theorem library_ui {atomic : Bool} (code : threads.code l = .act run) (ran : run s next s')
    (stands : l.StandsFor s next s' e) (owned : l.owner = .ui)
    (accepts : l.opening?.isSome → atomic = true)
    (gate : ∀ op selector, l = .gate op selector → s.session.accepts = atomic) :
    next.sends s'.library = e.elim (l.sends s.library) ((l.sends s.library).noting atomic) ∧
      ∀ event ∈ e, ∀ v, FromMain v event := by
  cases l with
  | ui =>
      cases code
      obtain ⟨entry, rfl⟩ := ran
      subst stands
      cases next with
      | request | query | pop | close => exact ⟨rfl, by simp⟩
      | _ => cases entry
  | gate op selector =>
      have same := gate op selector rfl
      cases code
      cases free : s.session.accepts with
      | true =>
          obtain ⟨rfl, rfl⟩ : _ = next ∧ _ = s' := by simpa [free] using ran
          obtain rfl : e = none := by simpa [Label.StandsFor, free] using stands
          exact ⟨by rw [op.begin_eq]; rfl, by simp⟩
      | false =>
          obtain ⟨rfl, rfl⟩ : _ = next ∧ _ = s' := by simpa [free] using ran
          obtain rfl : e = some (op.event selector) := by simpa [Label.StandsFor, free] using stands
          obtain rfl : false = atomic := free.symm.trans same
          exact ⟨by simp [Label.sends], by simp [fromMain_event]⟩
  | startPush op selector =>
      cases code
      obtain ⟨rfl, rfl⟩ : _ = next ∧ _ = s' := Prod.mk.inj ran
      obtain rfl : e = _ := stands
      obtain rfl : atomic = true := accepts rfl
      exact ⟨by simp [Label.sends, Shared.start], by simp [fromMain_event]⟩
  | popFirst =>
      cases code
      obtain ⟨rfl, rfl⟩ : _ = next ∧ _ = s' := Prod.mk.inj ran
      obtain rfl : e = _ := stands
      cases queue : s.queue with
      | nil => exact ⟨rfl, by simp⟩
      | cons task rest =>
          have fromMain : ∀ v, FromMain v .runTask := fun v => ⟨trivial, rfl⟩
          exact ⟨rfl, by simpa using fromMain⟩
  | requestDone op accepted =>
      cases code
      obtain ⟨rfl, rfl⟩ : _ = next ∧ _ = s' := Prod.mk.inj ran
      subst stands
      refine ⟨?_, by simp⟩
      cases accepted with
      | true => rw [if_pos rfl, op.restartSpinner_eq]; rfl
      | false => rfl
  | runTask task =>
      cases code
      obtain ⟨rfl, rfl⟩ : _ = next ∧ _ = s' := Prod.mk.inj ran
      subst stands
      cases task <;> exact ⟨rfl, by simp⟩
  | handOver | queryRead | closeSet =>
      cases code
      obtain ⟨rfl, rfl⟩ : _ = next ∧ _ = s' := Prod.mk.inj ran
      subst stands
      exact ⟨rfl, by simp⟩
  | net pc | netBody | enterBody | loopTest | loopStop | loopPostBody | loopSleep => cases owned
  | loopPost signals => cases owned
  | _ => cases code

/-- What the UI thread still has to hand over does not get in the way of an expected handler. -/
theorem sends_record {lib lib' : Library} {h : Handler} {id : Nat} (agrees : (l.sends lib).Agrees lib')
    (numbered : lib'.Numbered) (expected : h.ending?.isSome ∨ h.isFetchTopic → lib.expects h id) :
    (l.sends (lib.record h id)).Agrees (lib'.record h id) := by
  cases l with
  | startUnlock op selector | startNotify op selector | handOver op selector =>
      have before : lib.Numbered := Library.Numbered.of_handOver (agrees.numbered numbered)
      exact (Library.handOver_record before op.kind selector expected).trans (agrees.record h id)
  | _ => exact agrees.record h id

theorem sends_expects {lib lib' : Library} {h : Handler} {id : Nat} (agrees : (l.sends lib).Agrees lib')
    (expected : lib.expects h id) : lib'.expects h id := by
  have more : (l.sends lib).expects h id := by
    cases l with
    | startUnlock op selector | startNotify op selector | handOver op selector =>
        simpa [Library.expects, Label.sends, Library.handOver] using .inl (List.any_eq_true.1 expected)
    | _ => exact expected
  rwa [Library.expects, agrees.outstanding] at more

end Ledger

/-- The threads against the atomic program, with the ledger. -/
theorem threads_ledger_linearization : Threads.Linearization threads Label.StandsFor KeepsToConversations
    program FromMain ExplainsLedger where
  starts := ⟨threads_linearization.starts, .refl _, List.nodup_nil, nofun⟩
  passes := by
    intro places s w t next related passes
    refine ⟨threads_linearization.passes _ _ _ _ _ related.explains passes, ?_, related.numbered⟩
    cases t with
    | ui => simpa [sends_of_passes passes] using related.ledger
    | network | animator => simpa using related.ledger
  acts := by
    intro s w t l next run s' e reached related here code ran stands meets
    have matched := threads_linearization.acts s w t l next run s' e reached related.explains here code ran
      stands fun _ _ => trivial
    have owned : l.owner = t := owner_eq reached here
    have place : s.places t = l := Threads.State.places_of_status here
    have noted : ((Function.update s.places t next .ui).sends s'.library).Agrees
        (e.elim w.library (w.library.noting w.session.accepts)) ∧ ∀ event ∈ e, FromMain w event := by
      by_cases front : t = .ui
      · subst front
        have explains : Explains l (s.places .network) (s.places .animator) s.data w :=
          place ▸ related.explains
        obtain ⟨same, fromMain⟩ := library_ui code ran stands owned explains.accepts
          fun op selector gate => by
            subst gate
            exact congrArg Session.accepts explains.session
        have ledger := related.ledger
        rw [place] at ledger
        rw [Function.update_self, same]
        refine ⟨?_, fun event here => fromMain event here w⟩
        cases e with
        | none => exact ledger
        | some event => exact ledger.noting ..
      · rcases library_elsewhere code ran stands (owned ▸ front) with ⟨h, id, rfl, same⟩ | ⟨same, silent⟩
        · have expected : h.ending?.isSome ∨ h.isFetchTopic → s.data.library.expects h id := meets _ rfl
          rw [Function.update_of_ne (Ne.symm front), same]
          refine ⟨sends_record related.ledger related.numbered expected, ?_⟩
          rintro event ⟨⟩
          exact ⟨fun matters => sends_expects related.ledger (expected matters), rfl⟩
        · rw [Function.update_of_ne (Ne.symm front), same]
          cases e with
          | none => exact ⟨related.ledger, nofun⟩
          | some event =>
              rcases silent event rfl with rfl | ⟨sig, rfl⟩ <;>
                exact ⟨related.ledger, by rintro event ⟨⟩; exact ⟨trivial, rfl⟩⟩
    obtain ⟨ledger, fromMain⟩ := noted
    cases e with
    | none => exact ⟨matched, ledger, related.numbered⟩
    | some event =>
        obtain ⟨w', -, step, explains⟩ := matched
        have library : w'.library = w.library.noting w.session.accepts event :=
          (Transition.of_step step).library
        refine ⟨w', fromMain event rfl, step, explains, library ▸ ledger, ?_⟩
        rw [library]
        exact related.numbered.noting ..

/-! ### Executions at rest -/

/-- The UI thread is between two operations and the network thread between two handlers. -/
def AtRest (places : Thread → Label) : Prop :=
  places .ui = .ui ∧ places .network = .net .idle

/-- At rest the threads are in a state of the atomic program. Whatever holds of the runs of the atomic
    program under the promise of the library holds of every interleaving whenever it comes to rest: the
    session, the signals, the queue and the component are the same, and so is the ledger but for the
    order between openings and endings. -/
theorem threads_at_rest {r : Threads.State Mutex Thread Label (Shared × List Event)}
    (reached : Threads.Reachable (threads.recorded Label.StandsFor KeepsToConversations) r)
    (rest : AtRest r.places) :
    ∃ w, program.Run FromMain r.data.2 w ∧ w.session = r.data.1.session ∧
      w.animator.signals = r.data.1.animator.signals ∧ w.queue = r.data.1.queue ∧
      w.component = r.data.1.component ∧ w.net = .idle ∧ r.data.1.library.Agrees w.library := by
  obtain ⟨w, run, related⟩ := threads_ledger_linearization.run reached
  rcases rest with ⟨front, back⟩
  have explains := related.explains
  have ledger := related.ledger
  unfold ExplainsAll at explains
  rw [front, back] at explains
  rw [front] at ledger
  exact ⟨w, run, explains.session.symm, explains.signals, explains.queue, explains.component, explains.net,
    ledger⟩

/-- Session and UI agree on the result of every fetch in every interleaving of the threads in which the library
    keeps to the conversations: at rest, with the queue empty, the fetch tab shows the outcome of the most
    recently finished fetch, as long as no fetch was accepted while topics waited for the completion callback
    to take them, and `on_fetch_error` was given an error whenever it was called. -/
theorem threads_fetch_outcome {r : Threads.State Mutex Thread Label (Shared × List Event)}
    (reached : Threads.Reachable (threads.recorded Label.StandsFor KeepsToConversations) r)
    (outside : program.Throughout Free FetchesOutsideCapture r.data.2) (rest : AtRest r.places)
    (drained : r.data.1.queue = []) (c : Conversation) (ending : Ending)
    (last : r.data.1.library.lastFetch? = some (c, ending)) :
    (r.data.1.component.topics, r.data.1.component.fetchErrorMessage) = c.outcome ending := by
  obtain ⟨w, run, -, -, queue, component, idle, ledger⟩ := threads_at_rest reached rest
  rw [ledger.lastFetch?] at last
  rw [← component]
  have agrees : FetchAgreement w := .of_run (run.of_throughout outside)
  have settled := agrees.shown c ending last
  simpa [World.settledFetch, World.comingFetchResults, idle, queue.trans drained, NetPc.fetchResult?]
    using settled

/-- A fetch delivers one topic and completes, in an execution of the threads that comes to rest with the queue
    empty. -/
theorem fetchOneTopic_realized : ∃ w,
    program.Run (fun w e => FromMain w e ∧ FetchesOutsideCapture w e) fetchOneTopic w ∧
      Threads.Reachable (threads.recorded Label.StandsFor KeepsToConversations) (parked w fetchOneTopic) ∧
      w.net = .idle ∧ w.queue = [] ∧
      w.library.lastFetch? =
        some ({ id := 0, kind := .fetch, selector := "a", topics := [oneByteTopic "a" 1] },
          .completed) := by
  obtain ⟨w, run, facts⟩ : ∃ w,
      program.Run (fun w e => (FromMain w e ∧ FetchesOutsideCapture w e) ∧ e.isPlain = true) fetchOneTopic w ∧
        decide (w.net = .idle ∧ w.queue = [] ∧ w.library.lastFetch? =
          some ({ id := 0, kind := .fetch, selector := "a", topics := [oneByteTopic "a" 1] },
            .completed)) = true :=
    TransitionSystem.Run.exists_of_exec (by decide)
  have only : OnHandlersOnly KeepsToConversations := by
    intro s e other
    cases e with
    | deliver h id => exact absurd rfl (other h id)
    | _ => trivial
  refine ⟨w, run.weaken fun _ _ => And.left, ?_, of_decide_eq_true facts⟩
  exact (Swept.of_run run).reachable only fun w h id cond => cond.1.1

theorem fetchOneTopic_at_rest : ∃ w v,
    Threads.Reachable (threads.recorded Label.StandsFor KeepsToConversations) (parked w fetchOneTopic) ∧
      program.Run FromMain fetchOneTopic v ∧ v.session = w.session ∧ v.queue = [] ∧
      v.component = w.component ∧ v.net = .idle := by
  obtain ⟨w, -, reached, idle, drained, -⟩ := fetchOneTopic_realized
  have rest : AtRest (parked w fetchOneTopic).places := ⟨rfl, congrArg Label.net idle⟩
  obtain ⟨v, run, session, -, queue, component, quiescent, -⟩ := threads_at_rest reached rest
  exact ⟨w, v, reached, run, session, queue.trans drained, component, quiescent⟩

theorem fetchOneTopic_outcome : ∃ w c,
    Threads.Reachable (threads.recorded Label.StandsFor KeepsToConversations) (parked w fetchOneTopic) ∧
      c.topics = [oneByteTopic "a" 1] ∧
      (w.component.topics, w.component.fetchErrorMessage) = Conversation.outcome c .completed := by
  obtain ⟨w, run, reached, idle, drained, last⟩ := fetchOneTopic_realized
  have outside : program.Throughout Free FetchesOutsideCapture fetchOneTopic :=
    (run.weaken fun _ _ => And.right).throughout
  have rest : AtRest (parked w fetchOneTopic).places := ⟨rfl, congrArg Label.net idle⟩
  exact ⟨w, _, reached, rfl, threads_fetch_outcome reached outside rest drained _ _ last⟩

end Dmon
