/-
Module: Dmon.Proofs.Totality
Layer: Proofs
Purpose: Whether every registered handler returns to the library. A handler call either faults before its first
  critical section or returns; a call that reports a failure has done nothing, and a notification that is
  accepted is appended. On the arguments that the headers and the handlers' own tests admit, two calls
  fault: the notification of an unsubscription without a topic path, and a status message whose payload is
  too long for the hex dump that goes into the log.
Imports: Dmon.Proofs.Atomic, Dmon.Proofs.Hexdump
Trusted boundary: none
Main exports: Handler.Admitted, Total, Handler.NamedAndShort, Handler.enter_returns_iff,
  Handler.enter_failure, Entry.notification, handlers_total_iff
-/
import Dmon.Proofs.Atomic
import Dmon.Proofs.Hexdump

namespace Dmon

/-- The arguments that the handler's header and its own tests admit: a topic payload without data is empty, a
    subscription is notified with a path, and an unexpected message is not NULL. -/
def Handler.Admitted : Handler → Prop
  | .onTopic (some message) | .onSubscribeTopicMessage (some message) =>
      message.payload.data = none → message.payload.len = 0
  | .onNotifySubscription request => request.topicPath ≠ none
  | .onUnexpectedTopicMessage message => message ≠ none
  | _ => True

/-- The law: the call has no fault and all its callbacks come to their end; if it returns a failure, the
    session is unchanged and no callback is called; if it is a notification and returns a success, one
    notification has been appended. -/
def Total (h : Handler) (s : Shared) : Prop :=
  ∃ entered, h.enter s.session = .ok entered ∧
    (∃ n, ((fun p : Shared × NetPc => p.1.advance p.2)^[n]
      ({ s with session := entered.session }, entered.next)).2 = .idle) ∧
    (entered.returns = .failure → entered.session = s.session ∧ entered.next = .idle) ∧
    (h.isNotification = true → entered.returns = .success →
      ∃ ts, entered.session =
        { s.session with topicSubscriptionEvents := s.session.topicSubscriptionEvents ++ [ts] })

/-- The condition: an unsubscription is notified with a path, and the data of a status message, if it has any,
    is at most `2^31` bytes long when the length is narrowed to 32 bits. -/
def Handler.NamedAndShort : Handler → Prop
  | .onNotifyUnsubscription request => request.topicPath ≠ none
  | .onFetchStatusMessage (some status) =>
      ∀ payload ∈ status.payload, payload.data ≠ none → payload.len % 2 ^ 32 ≤ 2 ^ 31
  | _ => True

/-- The payload of a status message can be dumped exactly when it is short. -/
theorem FetchStatusResponse.payloadText_returns_iff (status : FetchStatusResponse) :
    (∃ text, status.payloadText = .ok text) ↔
      ∀ payload ∈ status.payload, payload.data ≠ none → payload.len % 2 ^ 32 ≤ 2 ^ 31 := by
  rcases status with ⟨flag, payload⟩
  cases payload with
  | none => exact iff_of_true ⟨"", rfl⟩ (by simp)
  | some payload =>
      rcases payload with ⟨data, len, data_len⟩
      cases data with
      | none => exact iff_of_true ⟨"", rfl⟩ (by simp)
      | some bytes =>
          have size : bytes.length = len := data_len bytes rfl
          have dumped : (∃ out, (CustomHexdump.ofBuffer 32 false bytes).print {} = .ok out) ↔
              len % 2 ^ 32 ≤ 2 ^ 31 := by
            rw [CustomHexdump.print_ofBuffer_returns_iff (by decide) (by decide), size]
          simp only [Option.mem_some_iff, forall_eq', ne_eq, reduceCtorEq, not_false_eq_true, true_imp_iff,
            ← dumped]
          constructor
          · intro returns
            obtain ⟨text, returns⟩ := returns
            obtain ⟨out, printed, _⟩ := Execution.exists_of_bind returns
            exact ⟨out, printed⟩
          · intro returns
            obtain ⟨out, printed⟩ := returns
            refine ⟨String.ofList out.text, ?_⟩
            simp only [payloadText, Option.bind_some, printed]
            rfl

/-- An admitted handler call has no fault exactly under the condition. -/
theorem Handler.enter_returns_iff {h : Handler} (admitted : h.Admitted) (s : Session) :
    (∃ entered, h.enter s = .ok entered) ↔ h.NamedAndShort := by
  cases h with
  | onNotifySubscription request =>
      cases path : request.topicPath with
      | none => exact absurd path admitted
      | some path' =>
          refine iff_of_true ?_ trivial
          simp [Handler.enter, Handlers.onNotifySubscription, path]
  | onNotifyUnsubscription request =>
      cases path : request.topicPath <;>
        simp [Handler.enter, Handlers.onNotifyUnsubscription, NamedAndShort, path]
  | onUnexpectedTopicMessage message =>
      cases message with
      | none => exact absurd rfl admitted
      | some message => exact iff_of_true ⟨_, rfl⟩ trivial
  | onFetchStatusMessage status =>
      cases status with
      | none => exact iff_of_true ⟨_, rfl⟩ trivial
      | some status =>
          rw [NamedAndShort, ← status.payloadText_returns_iff]
          constructor
          · intro returns
            obtain ⟨entered, returns⟩ := returns
            exact (Handlers.onFetchStatusMessage_ok_iff.1 returns).1
          · intro dumped
            exact ⟨_, Handlers.onFetchStatusMessage_ok_iff.2 ⟨dumped, rfl⟩⟩
  | _ => exact iff_of_true ⟨_, rfl⟩ trivial

/-- A handler that returns a failure has done nothing. -/
theorem Handler.enter_failure {h : Handler} {s : Session} {entered : Entered}
    (returns : h.enter s = .ok entered) (failed : entered.returns = .failure) :
    entered.session = s ∧ entered.next = .idle := by
  cases h with
  | onTopic message | onSubscribeTopicMessage message =>
      cases message with
      | none => cases returns; exact ⟨rfl, rfl⟩
      | some message => cases returns; cases failed
  | onUnexpectedTopicMessage message =>
      cases message with
      | none => cases returns
      | some message => cases returns; cases failed
  | onFetchError error | onSubscribeError error | onUnsubscribeError error | onGlobalError error =>
      cases error with
      | none => cases returns; exact ⟨rfl, rfl⟩
      | some error => cases returns; cases failed
  | onFetchStatusMessage status =>
      cases status with
      | none => cases returns; exact ⟨rfl, rfl⟩
      | some status =>
          obtain ⟨_, rfl⟩ := Handlers.onFetchStatusMessage_ok_iff.1 returns
          cases failed
  | onNotifySubscription request =>
      cases path : request.topicPath <;>
        simp only [enter, Handlers.onNotifySubscription, path] at returns <;> cases returns
      cases failed
  | onNotifyUnsubscription request =>
      cases path : request.topicPath <;>
        simp only [enter, Handlers.onNotifyUnsubscription, path] at returns <;> cases returns
      cases failed
  | _ => cases returns; cases failed

/-- A notification is appended. -/
theorem Entry.notification {h : Handler} {s s' : Session} {next : NetPc} (entry : Entry h s s' next)
    (note : h.isNotification = true) : ∃ ts, s' = s.onTopicSubscriptionEvent ts := by
  cases entry with
  | notified _ ts => exact ⟨ts, rfl⟩
  | quiet _ _ quiet =>
      cases h with
      | onNotifySubscription | onNotifyUnsubscription => cases quiet
      | _ => cases note
  | _ => cases note

/-- An admitted handler call is total, in every state, exactly when it is neither the notification of an
    unsubscription without a path nor a status message with a payload that is too long to be dumped. -/
theorem handlers_total_iff {h : Handler} (admitted : h.Admitted) (s : Shared) :
    Total h s ↔ h.NamedAndShort := by
  rw [← Handler.enter_returns_iff admitted s.session]
  constructor
  · intro total
    obtain ⟨entered, returns, _⟩ := total
    exact ⟨entered, returns⟩
  · intro returns
    obtain ⟨entered, returns⟩ := returns
    refine ⟨entered, returns, ⟨5, advance_ends _ _⟩, Handler.enter_failure returns, ?_⟩
    intro note _
    exact (Entry.of_enter returns).notification note

/-- The notification of an unsubscription with a path, and without one. -/
def unsubscribedFrom (topicPath : Option String) : Handler :=
  .onNotifyUnsubscription { topicId := 1, topicPath := topicPath, reason := 0 }

/-- A status message with a payload of `n` zero bytes. -/
def statusOf (n : Nat) : Handler :=
  .onFetchStatusMessage (some { statusFlag := diffusionTrue, payload := some (.ofBytes (.replicate n 0)) })

theorem statusOf_admitted (n : Nat) : (statusOf n).Admitted := trivial

theorem statusOf_namedAndShort (n : Nat) : (statusOf n).NamedAndShort ↔ n % 2 ^ 32 ≤ 2 ^ 31 := by
  simp [statusOf, Handler.NamedAndShort, Buf.ofBytes]

theorem unsubscribedFrom_path_total :
    Total (unsubscribedFrom (some "a")) {} ∧ Total (statusOf 3) {} := by
  constructor
  · apply (handlers_total_iff (h := unsubscribedFrom (some "a")) trivial {}).2
    simp [unsubscribedFrom, Handler.NamedAndShort]
  · apply (handlers_total_iff (statusOf_admitted 3) {}).2
    exact (statusOf_namedAndShort 3).2 (by decide)

/-- A path that is not available ends up in a `std::string`, and a payload of 2 GiB and one byte is read at a
    negative index. -/
theorem unsubscribedFrom_null_faults :
    ¬ (∀ h : Handler, h.Admitted → ∀ s, Total h s) ∧
      (unsubscribedFrom none).enter {} = .error .stringFromNull ∧
      ∀ entered, (statusOf (2 ^ 31 + 1)).enter {} ≠ .ok entered := by
  refine ⟨?_, rfl, ?_⟩
  · intro law
    obtain ⟨entered, returns, _⟩ := law (unsubscribedFrom none) trivial {}
    cases returns
  · intro entered returns
    have short : (statusOf (2 ^ 31 + 1)).NamedAndShort :=
      (Handler.enter_returns_iff (statusOf_admitted _) {}).1 ⟨entered, returns⟩
    exact absurd ((statusOf_namedAndShort _).1 short) (by decide)

end Dmon
