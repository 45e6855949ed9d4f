/-
Module: Dmon.Proofs.Flags
Layer: Proofs
Purpose: The in-progress flags against the library's ledger, for uninterrupted handlers. The subscribe flag
  is one bit for any number of outstanding subscriptions; `subscribe_flag_exact_iff` says which orders of
  answers keep it exact, and `Transition.subscribeFlagExact_iff` the same of the handlers' single steps. The
  fetch flag is also cleared by a failed unsubscription; `fetch_flag_exact_iff` says that this, and an error
  handler called without an error, is all that can break it.
Imports: Dmon.Proofs.Atomic, Dmon.Proofs.Ledger
Trusted boundary: none
Main exports: SubscribeFlagExact, SubscriptionsEndInTurn, Entry.subscribeFlagExact_iff,
  subscribe_flag_exact_iff, subscribe_flag_stays_after_discard, FetchFlagExact, FlagClearedByFetches, fetch_flag_exact_iff,
  two_fetches_after_unsubscribe_error
-/
import Dmon.Proofs.Atomic
import Dmon.Proofs.Ledger

namespace Dmon

/-! ### The subscribe flag -/

/-- The flag is set exactly while some request handed to `::subscribe` waits for its terminal handler. -/
def SubscribeFlagExact (w : World) : Prop :=
  w.session.subscribeInProgress = true ↔ w.library.outstandingOf .subscribe ≠ []

/-- A handler that clears the flag ends the only outstanding subscription, and a handler that ends a
    subscription without clearing the flag, which are the discard handler and the error handler called
    with NULL, leaves another one. -/
def SubscriptionsEndInTurn (w : World) : Event → Prop
  | .deliver .onSubscribe id | .deliver (.onSubscribeError (some _)) id =>
      ∀ c ∈ w.library.outstandingOf .subscribe, c.id = id
  | .deliver .onSubscribeDiscard id | .deliver (.onSubscribeError none) id =>
      ∃ c ∈ w.library.outstandingOf .subscribe, c.id ≠ id
  | _ => True

instance (w : World) : (e : Event) → Decidable (SubscriptionsEndInTurn w e)
  | .deliver .onSubscribe id | .deliver (.onSubscribeError (some _)) id =>
      inferInstanceAs (Decidable (∀ c ∈ w.library.outstandingOf .subscribe, c.id = id))
  | .deliver .onSubscribeDiscard id | .deliver (.onSubscribeError none) id =>
      inferInstanceAs (Decidable (∃ c ∈ w.library.outstandingOf .subscribe, c.id ≠ id))
  | .deliver .onFetch _ | .deliver (.onTopic _) _ | .deliver (.onFetchError _) _
  | .deliver (.onFetchStatusMessage _) _ | .deliver .onFetchDiscard _
  | .deliver (.onSubscribeTopicMessage _) _ | .deliver .onUnsubscribe _
  | .deliver (.onUnsubscribeError _) _ | .deliver .onUnsubscribeDiscard _
  | .deliver (.onNotifySubscription _) _ | .deliver (.onNotifyUnsubscription _) _
  | .deliver (.onGlobalError _) _ | .deliver (.onUnexpectedTopicMessage _) _
  | .fetch _ | .subscribe _ | .unsubscribe _ | .runTask | .animate _ | .advance =>
      inferInstanceAs (Decidable True)

section Subscribe

variable {w w' : World} {h : Handler} {id : Nat} {ending : Ending}

/-- A step that keeps the flag and the outstanding subscriptions. -/
theorem SubscribeFlagExact.congr (holds : SubscribeFlagExact w)
    (flag : w'.session.subscribeInProgress = w.session.subscribeInProgress)
    (outstanding : w'.library.outstandingOf .subscribe = w.library.outstandingOf .subscribe) :
    SubscribeFlagExact w' := by
  unfold SubscribeFlagExact
  rw [flag, outstanding]
  exact holds

/-- A handler that ends a subscription and clears the flag. -/
theorem subscribeFlagExact_cleared (h : Handler) (own : h.kind? = some .subscribe)
    (terminal : h.ending? = some ending)
    (flag : w'.session.subscribeInProgress = false) (library : w'.library = w.library.record h id) :
    SubscribeFlagExact w' ↔ ∀ c ∈ w.library.outstandingOf .subscribe, c.id = id := by
  unfold SubscribeFlagExact
  rw [library, Library.outstandingOf_record_own own terminal, flag]
  simp [List.filter_eq_nil_iff]

/-- A handler that ends a subscription and leaves the flag alone. The flag is set, since the library
    has just ended a subscription. -/
theorem subscribeFlagExact_left (holds : SubscribeFlagExact w) (own : h.kind? = some .subscribe)
    (terminal : h.ending? = some ending) (expected : w.library.expects h id)
    (flag : w'.session.subscribeInProgress = w.session.subscribeInProgress)
    (library : w'.library = w.library.record h id) :
    SubscribeFlagExact w' ↔ ∃ c ∈ w.library.outstandingOf .subscribe, c.id ≠ id := by
  obtain ⟨c, member, _⟩ := Library.exists_of_expects own expected
  have set : w.session.subscribeInProgress = true := holds.2 (List.ne_nil_of_mem member)
  unfold SubscribeFlagExact
  rw [library, Library.outstandingOf_record_own own terminal, flag, set]
  simp [List.filter_eq_nil_iff]

theorem Transition.subscribeFlagExact {e : Event} (moved : Transition w e w')
    (operation : e.isOperation = true) (holds : SubscribeFlagExact w) : SubscribeFlagExact w' := by
  cases moved with
  | fetchAccepted selector free =>
      exact holds.congr rfl (Library.outstandingOf_handOver_of_ne (by simp) _ _)
  | unsubscribed selector =>
      exact holds.congr rfl (Library.outstandingOf_handOver_of_ne (by simp) _ _)
  | subscribeAccepted selector free =>
      unfold SubscribeFlagExact
      rw [Library.outstandingOf_handOver_self]
      simp [Session.beginSubscribe]
  | delivered | held | passed | stopped | capturedFetch | capturedSubscribe | posted | eventPosted =>
      simp [Event.isOperation] at operation
  | _ => exact holds.congr rfl rfl

/-- A handler from another handler set keeps the flag exact, and ends no subscription. -/
theorem subscribeFlagExact_foreign (holds : SubscribeFlagExact w) (foreign : h.kind? ≠ some .subscribe)
    (flag : w'.session.subscribeInProgress = w.session.subscribeInProgress)
    (library : w'.library = w.library.record h id) :
    SubscribeFlagExact w' ↔ SubscriptionsEndInTurn w (.deliver h id) := by
  refine iff_of_true (holds.congr flag ?_) ?_
  · rw [library]
    exact Library.outstandingOf_record_of_kind_ne foreign
  · cases h <;> trivial

/-- The first atomic step of a handler, and whatever else leaves the flag and the ledger alone, keeps the flag
    exact precisely when subscriptions end in turn. -/
theorem Entry.subscribeFlagExact_iff {s : Session} {next : NetPc} (entry : Entry h w.session s next)
    (cond : endsOnce w (.deliver h id)) (holds : SubscribeFlagExact w)
    (flag : w'.session.subscribeInProgress = s.subscribeInProgress)
    (library : w'.library = w.library.record h id) :
    SubscribeFlagExact w' ↔ SubscriptionsEndInTurn w (.deliver h id) := by
  cases entry with
  | subscribed s => exact subscribeFlagExact_cleared .onSubscribe rfl rfl flag library
  | subscribeFailed error s =>
      exact subscribeFlagExact_cleared (.onSubscribeError (some error)) rfl rfl flag library
  | quiet h s silent =>
      by_cases own : h.kind? = some .subscribe
      · cases h with
        | onSubscribeDiscard => exact subscribeFlagExact_left holds rfl rfl (cond rfl) flag library
        | onSubscribeError error =>
            cases error with
            | none => exact subscribeFlagExact_left holds rfl rfl (cond rfl) flag library
            | some error => simp [Handler.isQuiet] at silent
        | onSubscribe => simp [Handler.isQuiet] at silent
        | _ => simp [Handler.kind?] at own
      · exact subscribeFlagExact_foreign holds own flag library
  | notified h ts s note =>
      have foreign : h.kind? ≠ some .subscribe := by simp [Handler.kind?_of_isNotification note]
      exact subscribeFlagExact_foreign holds foreign flag library
  | _ => exact subscribeFlagExact_foreign holds (by simp [Handler.kind?]) flag library

/-- An operation ends no subscription. -/
theorem SubscriptionsEndInTurn.of_isOperation {e : Event} (operation : e.isOperation = true) :
    SubscriptionsEndInTurn w e := by
  cases e with
  | deliver => cases operation
  | _ => trivial

/-- One step from a state with an exact flag keeps it exact precisely when subscriptions end in turn. -/
theorem AtomicTransition.subscribeFlagExact_iff {e : Event} (moved : AtomicTransition w e w')
    (cond : endsOnce w e) (holds : SubscribeFlagExact w) :
    SubscribeFlagExact w' ↔ SubscriptionsEndInTurn w e := by
  cases moved with
  | operated operation still moved =>
      exact iff_of_true (moved.subscribeFlagExact operation holds) (.of_isOperation operation)
  | handled h id s next entry => exact entry.subscribeFlagExact_iff cond holds (by simp) (by simp)

/-- The same for the handlers' single steps, between which others take theirs. -/
theorem Transition.subscribeFlagExact_iff {e : Event} (moved : Transition w e w')
    (cond : endsOnce w e) (holds : SubscribeFlagExact w) :
    SubscribeFlagExact w' ↔ SubscriptionsEndInTurn w e := by
  by_cases operation : e.isOperation = true
  · exact iff_of_true (moved.subscribeFlagExact operation holds) (.of_isOperation operation)
  · cases moved with
    | delivered h id s next _ entry => exact entry.subscribeFlagExact_iff cond holds rfl rfl
    | held | passed | stopped | capturedFetch | capturedSubscribe | posted | eventPosted =>
        exact iff_of_true (holds.congr rfl rfl) trivial
    | _ => simp [Event.isOperation] at operation

end Subscribe

/-- The subscribe flag is exact in every state of a run exactly when subscriptions end in turn
    throughout the run. -/
theorem subscribe_flag_exact_iff {es : List Event} {w : World}
    (run : atomicProgram.Run endsOnce es w) :
    atomicProgram.Always endsOnce SubscribeFlagExact es ↔
      atomicProgram.Throughout endsOnce SubscriptionsEndInTurn es := by
  refine TransitionSystem.always_iff_throughout (I := fun w => w.net = .idle) rfl ?_ ?_ ?_ run
  · simp [SubscribeFlagExact, atomicProgram, Library.outstandingOf]
  · intro w e w' quiescent _ step
    exact (AtomicTransition.of_step quiescent step).quiescent
  · intro w e w' quiescent holds cond step
    exact (AtomicTransition.of_step quiescent step).subscribeFlagExact_iff cond holds

/-- Two subscriptions that are answered one after the other. -/
def subscriptionsInTurn : List Event :=
  [.subscribe "a", .deliver .onSubscribe 0, .subscribe "b",
    .deliver (.onSubscribeError (some ⟨2, "refused"⟩)) 1]

theorem subscriptionsInTurn_exact :
    atomicProgram.Always endsOnce SubscribeFlagExact subscriptionsInTurn ∧
      atomicProgram.Throughout endsOnce SubscriptionsEndInTurn subscriptionsInTurn := by
  obtain ⟨w, both, -⟩ : ∃ w,
      atomicProgram.Run (fun w e => endsOnce w e ∧ SubscriptionsEndInTurn w e) subscriptionsInTurn w ∧
        decide (w.library.outstanding = []) = true :=
    TransitionSystem.Run.exists_of_exec (by decide)
  have inTurn := both.throughout_of_and
  have run : atomicProgram.Run endsOnce subscriptionsInTurn w := both.weaken fun _ _ => And.left
  exact ⟨(subscribe_flag_exact_iff run).2 inTurn, inTurn⟩

/-- A discarded subscription leaves the flag set for good. -/
theorem subscribe_flag_stays_after_discard :
    ¬ ∀ es w, atomicProgram.Run endsOnce es w →
      (w.session.subscribeInProgress = true ↔ w.library.outstandingOf .subscribe ≠ []) := by
  intro law
  obtain ⟨w, run, facts⟩ : ∃ w,
      atomicProgram.Run endsOnce [.subscribe "a", .deliver .onSubscribeDiscard 0] w ∧
        decide (w.session.subscribeInProgress = true ∧ w.library.outstandingOf .subscribe = []) =
          true :=
    TransitionSystem.Run.exists_of_exec (by decide)
  obtain ⟨set, nothing⟩ := of_decide_eq_true facts
  exact (law _ _ run).1 set nothing

/-! ### The fetch flag -/

/-- At most one fetch is outstanding, and the flag says whether one is. -/
def FetchFlagExact (w : World) : Prop :=
  (w.library.outstandingOf .fetch).length = if w.session.fetchInProgress then 1 else 0

/-- The two handler calls that part the flag from the ledger do not happen: the error of an
    unsubscription, which goes through `Session::onFetchError`, arrives only with the flag clear, and
    `on_fetch_error` is given an error. -/
def FlagClearedByFetches (w : World) : Event → Prop
  | .deliver (.onUnsubscribeError (some _)) _ => w.session.fetchInProgress = false
  | .deliver (.onFetchError none) _ => False
  | _ => True

instance (w : World) : (e : Event) → Decidable (FlagClearedByFetches w e)
  | .deliver (.onUnsubscribeError (some _)) _ =>
      inferInstanceAs (Decidable (w.session.fetchInProgress = false))
  | .deliver (.onFetchError none) _ => inferInstanceAs (Decidable False)
  | .deliver .onFetch _ | .deliver (.onTopic _) _ | .deliver (.onFetchError (some _)) _
  | .deliver (.onFetchStatusMessage _) _ | .deliver .onFetchDiscard _
  | .deliver (.onSubscribeTopicMessage _) _ | .deliver .onSubscribe _
  | .deliver (.onSubscribeError _) _ | .deliver .onSubscribeDiscard _ | .deliver .onUnsubscribe _
  | .deliver (.onUnsubscribeError none) _ | .deliver .onUnsubscribeDiscard _
  | .deliver (.onNotifySubscription _) _ | .deliver (.onNotifyUnsubscription _) _
  | .deliver (.onGlobalError _) _ | .deliver (.onUnexpectedTopicMessage _) _
  | .fetch _ | .subscribe _ | .unsubscribe _ | .runTask | .animate _ | .advance =>
      inferInstanceAs (Decidable True)

section Fetch

variable {w w' : World} {h : Handler} {id : Nat} {ending : Ending}

/-- A step that keeps the flag and the number of outstanding fetches. -/
theorem FetchFlagExact.congr (holds : FetchFlagExact w)
    (flag : w'.session.fetchInProgress = w.session.fetchInProgress)
    (outstanding : (w'.library.outstandingOf .fetch).length =
      (w.library.outstandingOf .fetch).length) : FetchFlagExact w' := by
  unfold FetchFlagExact
  rw [flag, outstanding]
  exact holds

/-- An expected fetch handler finds exactly one outstanding fetch, its own, and the flag set. -/
theorem FetchFlagExact.single_of_expects (holds : FetchFlagExact w) (own : h.kind? = some .fetch)
    (expected : w.library.expects h id) :
    w.session.fetchInProgress = true ∧ ∃ c, w.library.outstandingOf .fetch = [c] ∧ c.id = id := by
  obtain ⟨c, member, number⟩ := Library.exists_of_expects own expected
  unfold FetchFlagExact at holds
  cases flag : w.session.fetchInProgress with
  | false =>
      rw [flag] at holds
      rw [List.eq_nil_of_length_eq_zero holds] at member
      exact absurd member List.not_mem_nil
  | true =>
      rw [flag] at holds
      rcases List.length_eq_one_iff.1 holds with ⟨d, single⟩
      obtain rfl : c = d := by simpa [single] using member
      exact ⟨rfl, c, single, number⟩

/-- A terminal handler of the outstanding fetch leaves none. -/
theorem FetchFlagExact.ended (holds : FetchFlagExact w) (own : h.kind? = some .fetch)
    (terminal : h.ending? = some ending) (expected : w.library.expects h id) :
    (w.library.record h id).outstandingOf .fetch = [] := by
  obtain ⟨_, c, single, number⟩ := holds.single_of_expects own expected
  rw [Library.outstandingOf_record_own own terminal, single]
  simp [number]

/-- A terminal fetch handler that clears the flag. -/
theorem fetchFlagExact_cleared (h : Handler) (holds : FetchFlagExact w) (own : h.kind? = some .fetch)
    (terminal : h.ending? = some ending) (expected : w.library.expects h id)
    (flag : w'.session.fetchInProgress = false) (library : w'.library = w.library.record h id) :
    FetchFlagExact w' := by
  unfold FetchFlagExact
  rw [library, holds.ended own terminal expected, flag]
  rfl

/-- A handler from another handler set that leaves the flag alone. -/
theorem fetchFlagExact_foreign (holds : FetchFlagExact w)
    (library : w'.library = w.library.record h id) (foreign : h.kind? ≠ some .fetch)
    (flag : w'.session.fetchInProgress = w.session.fetchInProgress) : FetchFlagExact w' := by
  apply holds.congr flag
  rw [library, Library.outstandingOf_record_of_kind_ne foreign]

/-- The error of an unsubscription clears the flag, whether or not a fetch is outstanding. -/
theorem fetchFlagExact_unsubscribeFailed (error : DiffusionError) (holds : FetchFlagExact w)
    (library : w'.library = w.library.record (.onUnsubscribeError (some error)) id)
    (flag : w'.session.fetchInProgress = false) :
    FetchFlagExact w' ↔ FlagClearedByFetches w (.deliver (.onUnsubscribeError (some error)) id) := by
  have kept : w'.library.outstandingOf .fetch = w.library.outstandingOf .fetch := by
    rw [library]
    exact Library.outstandingOf_record_of_kind_ne (by simp [Handler.kind?])
  unfold FetchFlagExact at holds ⊢
  rw [kept, holds, flag]
  cases before : w.session.fetchInProgress <;> simp [FlagClearedByFetches, before]

/-- A handler that only logs: the error handler without an error ends the fetch for the library, and the
    session is not told. -/
theorem fetchFlagExact_quiet (holds : FetchFlagExact w) (silent : h.isQuiet = true)
    (cond : endsOnce w (.deliver h id)) (library : w'.library = w.library.record h id)
    (flag : w'.session.fetchInProgress = w.session.fetchInProgress) :
    FetchFlagExact w' ↔ FlagClearedByFetches w (.deliver h id) := by
  by_cases unreported : h = .onFetchError none
  · subst unreported
    obtain ⟨set, _⟩ := holds.single_of_expects rfl (cond rfl)
    refine iff_of_false ?_ not_false
    unfold FetchFlagExact
    rw [library, holds.ended rfl rfl (cond rfl), flag, set]
    simp
  · have apart : FlagClearedByFetches w (.deliver h id) := by
      unfold FlagClearedByFetches
      split <;> simp_all [Handler.isQuiet]
    refine iff_of_true ?_ apart
    by_cases own : h.kind? = some .fetch
    · apply holds.congr flag
      rw [library, Library.record_of_isQuiet silent own unreported]
    · exact fetchFlagExact_foreign holds library own flag

theorem Transition.fetchFlagExact {e : Event} (moved : Transition w e w')
    (operation : e.isOperation = true) (holds : FetchFlagExact w) : FetchFlagExact w' := by
  cases moved with
  | fetchAccepted selector free =>
      have none : (w.library.outstandingOf .fetch).length = 0 := by
        simpa [FetchFlagExact, free] using holds
      unfold FetchFlagExact
      rw [Library.outstandingOf_handOver_self, List.length_append, none]
      rfl
  | subscribeAccepted selector free =>
      refine holds.congr rfl ?_
      rw [Library.outstandingOf_handOver_of_ne (by simp)]
  | unsubscribed selector =>
      refine holds.congr rfl ?_
      rw [Library.outstandingOf_handOver_of_ne (by simp)]
  | delivered | held | passed | stopped | capturedFetch | capturedSubscribe | posted | eventPosted =>
      simp [Event.isOperation] at operation
  | _ => exact holds.congr rfl rfl

/-- One step from a state with an exact flag keeps it exact precisely when neither of the two calls
    happens. -/
theorem AtomicTransition.fetchFlagExact_iff {e : Event} (moved : AtomicTransition w e w')
    (cond : endsOnce w e) (holds : FetchFlagExact w) :
    FetchFlagExact w' ↔ FlagClearedByFetches w e := by
  cases moved with
  | operated operation still moved =>
      have after := moved.fetchFlagExact operation holds
      have noHandler : FlagClearedByFetches w e := by
        cases e <;> trivial
      exact iff_of_true after noHandler
  | handled h id s next entry =>
      cases entry with
      | fetchCompleted s =>
          refine iff_of_true ?_ trivial
          exact fetchFlagExact_cleared .onFetch holds rfl rfl (cond rfl)
            (by simp [Session.onFetchCompleted]) (by simp)
      | fetchFailed error s =>
          refine iff_of_true ?_ trivial
          exact fetchFlagExact_cleared (.onFetchError (some error)) holds rfl rfl (cond rfl)
            (by simp [Session.onFetchError]) (by simp)
      | fetchDiscarded s =>
          refine iff_of_true ?_ trivial
          exact fetchFlagExact_cleared .onFetchDiscard holds rfl rfl (cond rfl)
            (by simp [Session.onFetchDiscard]) (by simp)
      | topic message s =>
          refine iff_of_true (holds.congr (by simp [Session.onFetchTopic]) ?_) trivial
          simp [Library.outstandingOf_record_topic]
      | unsubscribeFailed error s =>
          exact fetchFlagExact_unsubscribeFailed error holds (Shared.finish_library _ _)
            (by simp [Session.onFetchError])
      | quiet h s silent =>
          exact fetchFlagExact_quiet holds silent cond (Shared.finish_library _ _) (by simp)
      | notified h ts s note =>
          have foreign : h.kind? ≠ some .fetch := by simp [Handler.kind?_of_isNotification note]
          have apart : FlagClearedByFetches w (.deliver h id) := by
            cases h <;> simp_all [Handler.isNotification, FlagClearedByFetches]
          refine iff_of_true ?_ apart
          exact fetchFlagExact_foreign holds (Shared.finish_library _ _) foreign
            (by simp [Session.onTopicSubscriptionEvent])
      | _ =>
          refine iff_of_true (holds.congr ?_ ?_) trivial
          · simp [Session.onSubscribeTopic, Session.onSubscribeCompleted, Session.onSubscribeError]
          · rw [Shared.finish_library]
            exact congrArg List.length
              (Library.outstandingOf_record_of_kind_ne (by simp [Handler.kind?]))

end Fetch

/-- The fetch flag is exact in every state of a run exactly when no step of the run is one of the two
    handler calls. -/
theorem fetch_flag_exact_iff {es : List Event} {w : World} (run : atomicProgram.Run endsOnce es w) :
    atomicProgram.Always endsOnce FetchFlagExact es ↔
      atomicProgram.Throughout endsOnce FlagClearedByFetches es := by
  refine TransitionSystem.always_iff_throughout (I := fun w => w.net = .idle) rfl ?_ ?_ ?_ run
  · simp [FetchFlagExact, atomicProgram, Library.outstandingOf]
  · intro w e w' quiescent _ step
    exact (AtomicTransition.of_step quiescent step).quiescent
  · intro w e w' quiescent holds cond step
    exact (AtomicTransition.of_step quiescent step).fetchFlagExact_iff cond holds

/-- A fetch while an unsubscription fails before it. -/
def unsubscribeThenFetch : List Event :=
  [.unsubscribe "a", .deliver (.onUnsubscribeError (some ⟨2, "refused"⟩)) 0, .fetch "b",
    .deliver .onFetch 1]

theorem unsubscribeThenFetch_exact :
    atomicProgram.Always endsOnce FetchFlagExact unsubscribeThenFetch ∧
      atomicProgram.Throughout endsOnce FlagClearedByFetches unsubscribeThenFetch := by
  obtain ⟨w, both, -⟩ : ∃ w,
      atomicProgram.Run (fun w e => endsOnce w e ∧ FlagClearedByFetches w e) unsubscribeThenFetch w ∧
        decide (w.library.outstanding = []) = true :=
    TransitionSystem.Run.exists_of_exec (by decide)
  have cleared := both.throughout_of_and
  have run : atomicProgram.Run endsOnce unsubscribeThenFetch w := both.weaken fun _ _ => And.left
  exact ⟨(fetch_flag_exact_iff run).2 cleared, cleared⟩

/-- A failed unsubscription makes the session accept a second fetch while the first is outstanding. -/
theorem two_fetches_after_unsubscribe_error :
    ¬ ∀ es w, atomicProgram.Run endsOnce es w →
      (w.library.outstandingOf .fetch).length = if w.session.fetchInProgress then 1 else 0 := by
  intro law
  obtain ⟨w, run, facts⟩ : ∃ w, atomicProgram.Run endsOnce
      [.fetch "a", .unsubscribe "b", .deliver (.onUnsubscribeError (some ⟨2, "refused"⟩)) 1,
        .fetch "c"] w ∧
      decide ((w.library.outstandingOf .fetch).length = 2) = true :=
    TransitionSystem.Run.exists_of_exec (by decide)
  have two := of_decide_eq_true facts
  have atMostOne := law _ _ run
  rw [two] at atMostOne
  split at atMostOne <;> simp at atMostOne

end Dmon
