/-
Module: Dmon.Proofs.Shutdown
Layer: Proofs
Purpose: Does everything that an open session still refers to outlive it? The callbacks use the animator and
  the screen, which are declared after the session and so are destroyed before it, while handlers still
  arrive. `NetPc.needs` is what the rest of a handler will use; as long as nothing that a handler needs is
  destroyed under it, or is gone when it is called, and there are no credentials to free, the shutdown is in
  order (`exit_in_order`). `animator_used_after_destruction` is the run of a topic message that arrives late.
Imports: Dmon.Model.Shutdown, Dmon.Proofs.Transitions
Trusted boundary: none
Main exports: UsesLiving, CredentialsKept, NetPc.needs, ExitsInOrder, exit_in_order,
  animator_used_after_destruction
-/
import Dmon.Model.Shutdown
import Dmon.Proofs.Transitions

namespace Dmon

open TransitionSystem (Free)

/-! ### The law -/

/-- A step of a handler uses only objects that have not been destroyed. -/
def UsesLiving (p : Process) : ProcessEvent → Prop
  | .program .advance => ∀ x ∈ p.net.uses, p.Living x
  | _ => True

/-- The credentials passed to `session_create` are not freed before `session_close` has returned. -/
def CredentialsKept (p : Process) : Prop :=
  p.credentialsFreed = true → .sessionClose ∉ p.pending

/-! ### What a handler needs -/

/-- What the rest of a handler uses, from a point of the network thread on. -/
def NetPc.needs (s : Session) : NetPc → List Local
  | .idle => []
  | .testSubscription => if s.subscribeInProgress then [] else [.animator, .screen]
  | .stop _ => [.animator, .screen]
  | .captureFetch _ | .captureSubscribe _ | .post _ | .postEvent _ => [.screen]

/-- What a handler uses after its first critical section. -/
def Handler.needs (h : Handler) (s : Session) : List Local :=
  match h.enter s with
  | .ok entered => entered.next.needs entered.session
  | .error _ => []

/-- An object is destroyed only when the running handler does not need it any more, and `credentials_free`
    is reached only without credentials. -/
def ExitStep.InOrder (p : Process) : ExitStep → Prop
  | .destroy x => x ∉ p.net.needs p.session
  | .credentialsFree => p.hasCredentials = false
  | .loopReturns | .sessionClose | .sessionFree => True

instance (p : Process) : (step : ExitStep) → Decidable (step.InOrder p)
  | .destroy x => inferInstanceAs (Decidable (x ∉ p.net.needs p.session))
  | .credentialsFree => inferInstanceAs (Decidable (p.hasCredentials = false))
  | .loopReturns | .sessionClose | .sessionFree => inferInstanceAs (Decidable True)

/-- Every exit step is in order, and a handler is called only while what it needs is alive. -/
def ExitsInOrder (p : Process) : ProcessEvent → Prop
  | .exit => ∀ step ∈ p.pending.head?, step.InOrder p
  | .program (.deliver h _) => ∀ x ∈ h.needs p.session, p.Living x
  | .program _ => True

instance (p : Process) : (e : ProcessEvent) → Decidable (ExitsInOrder p e)
  | .exit => inferInstanceAs (Decidable (∀ step ∈ p.pending.head?, step.InOrder p))
  | .program (.deliver h _) => inferInstanceAs (Decidable (∀ x ∈ h.needs p.session, p.Living x))
  | .program (.fetch _) | .program (.subscribe _) | .program (.unsubscribe _) | .program .runTask
  | .program (.animate _) | .program .advance => inferInstanceAs (Decidable True)

theorem NetPc.uses_subset_needs (s : Session) (pc : NetPc) : pc.uses ⊆ pc.needs s := by
  cases pc <;> simp [uses, needs]

theorem Callback.needs_afterStop (callback : Callback) (s : Session) :
    callback.afterStop.needs s = [.screen] := by
  cases callback <;> rfl

/-- A handler that has entered needs what was foreseen. -/
theorem Entry.needs {h : Handler} {s s' : Session} {next : NetPc} (entry : Entry h s s' next) :
    next.needs s' = h.needs s := by
  cases entry with
  | notified h ts s note =>
      cases h with
      | onNotifySubscription request | onNotifyUnsubscription request =>
          cases path : request.topicPath <;>
            simp [NetPc.needs, Handler.needs, Handler.enter, Handlers.onNotifySubscription,
              Handlers.onNotifyUnsubscription, path, Entered.done]
      | _ => cases note
  | quiet h s silent =>
      cases h with
      | onTopic argument | onFetchError argument | onSubscribeTopicMessage argument
      | onSubscribeError argument | onUnsubscribeError argument | onGlobalError argument
      | onUnexpectedTopicMessage argument =>
          cases argument <;> first | rfl | cases silent
      | onFetchStatusMessage status =>
          cases status with
          | none => rfl
          | some status =>
              cases enters : Handler.enter (.onFetchStatusMessage (some status)) s with
              | error fault => simp [NetPc.needs, Handler.needs, enters]
              | ok entered =>
                  obtain ⟨_, rfl⟩ := Handlers.onFetchStatusMessage_ok_iff.1 enters
                  simp [NetPc.needs, Handler.needs, enters, Entered.done]
      | onSubscribeDiscard | onUnsubscribe | onUnsubscribeDiscard => rfl
      | _ => cases silent
  | _ => rfl

/-- A step of the program other than a delivery never adds to what the running handler needs. -/
theorem Transition.needs_subset {w w' : World} {e : Event} (moved : Transition w e w')
    (noDelivery : ∀ h id, e ≠ .deliver h id) : w'.net.needs w'.session ⊆ w.net.needs w.session := by
  cases moved with
  | delivered h id => exact absurd rfl (noDelivery h id)
  | subscribeAccepted selector free =>
      cases net : w.net <;> simp [NetPc.needs, Session.beginSubscribe]
  | fetchAccepted selector free =>
      have same : w.net.needs (w.session.beginFetch selector) = w.net.needs w.session := by
        cases w.net <;> rfl
      simp [same]
  | held here pending => simp [NetPc.needs]
  | passed here free => simp [here, NetPc.needs, free]
  | stopped callback here =>
      rw [here, Callback.needs_afterStop]
      simp [NetPc.needs]
  | capturedFetch selector here => simp [here, NetPc.needs]
  | capturedSubscribe selector here => simp [here, NetPc.needs]
  | posted task here => simp [here, NetPc.needs]
  | eventPosted sig here => simp [NetPc.needs]
  | _ => exact List.Subset.refl _

/-! ### Runs -/

/-- What the running handler needs is alive, and no credentials have been freed. -/
structure ExitInvariant (p : Process) : Prop where
  living : ∀ x ∈ p.net.needs p.session, p.Living x
  kept : p.credentialsFreed = false

/-- An exit step touches neither the running handler nor the session's data. -/
theorem Process.leave_net (p : Process) (step : ExitStep) :
    (p.leave step).net = p.net ∧ (p.leave step).session = p.session := by
  unfold leave
  split <;> exact ⟨rfl, rfl⟩

theorem ExitInvariant.step {p p' : Process} {e : ProcessEvent} (before : ExitInvariant p)
    (cond : ExitsInOrder p e) (step : p.step e = some p') : ExitInvariant p' := by
  cases e with
  | program e =>
      simp only [Process.step] at step
      split at step
      next =>
        rcases Option.map_eq_some_iff.1 step with ⟨w', moved, rfl⟩
        have moved : Transition p.toWorld e w' := .of_step moved
        refine ⟨?_, before.kept⟩
        by_cases delivery : ∃ h id, e = .deliver h id
        · rcases delivery with ⟨h, id, rfl⟩
          cases moved with
          | delivered h id s next quiescent entry =>
              intro x need
              rw [entry.needs] at need
              exact cond x need
        · have fewer := moved.needs_subset fun h id same => delivery ⟨h, id, same⟩
          intro x need
          exact before.living x (fewer need)
      next => cases step
  | exit =>
      simp only [Process.step] at step
      split at step
      next => cases step
      next next rest pending =>
        cases step
        obtain ⟨net, session⟩ := p.leave_net next
        have here : next.InOrder p := cond next (by simp [pending])
        constructor
        · intro x need
          have needed : x ∈ p.net.needs p.session := by
            simpa [net, session] using need
          have waiting : ExitStep.destroy x ∈ next :: rest := pending ▸ before.living x needed
          rcases List.mem_cons.1 waiting with same | later
          · subst same
            exact absurd needed here
          · exact later
        · cases next with
          | credentialsFree => exact here
          | destroy x => cases x <;> exact before.kept
          | loopReturns | sessionClose | sessionFree => exact before.kept

/-- The shutdown is in order in every run in which nothing that a handler needs is destroyed under it, or
    is gone when it is called, and no credentials are freed: no handler step uses the animator, the screen
    or the component after its destructor has run, and the credentials are kept until `session_close` has
    returned. -/
theorem exit_in_order {hasCredentials : Bool} {es : List ProcessEvent} {p : Process}
    (run : (shutdown hasCredentials).Run Free es p)
    (inOrder : (shutdown hasCredentials).Throughout Free ExitsInOrder es) :
    (shutdown hasCredentials).Throughout Free UsesLiving es ∧
      (shutdown hasCredentials).Always Free CredentialsKept es := by
  have start : ExitInvariant (shutdown hasCredentials).init := ⟨by simp [shutdown, NetPc.needs], rfl⟩
  constructor
  · refine TransitionSystem.throughout_of_throughout start ?_ ?_ run inOrder
    · exact fun p e p' before _ cond step => before.step cond step
    · intro p e before _
      unfold UsesLiving
      split
      · exact fun x use => before.living x (NetPc.uses_subset_needs _ _ use)
      · trivial
  · have always : (shutdown hasCredentials).Always Free ExitInvariant es :=
      TransitionSystem.always_of_throughout (I := fun _ => True) trivial start
        (fun _ _ _ _ _ _ => trivial) (fun p e p' _ before _ cond step => before.step cond step) run
        inOrder
    refine always.weaken ?_
    intro p before freed
    exact absurd (before.kept.symm.trans freed) Bool.false_ne_true

/-- A complete exit without credentials: a handler that is running when the screen's loop returns comes to
    its end before the animator is destroyed, and the handlers after it call nothing back. -/
def orderlyExit : List ProcessEvent :=
  [.program (.fetch "a"), .program (.deliver .onFetch 0), .exit, .program .advance, .program .advance,
    .program .advance, .program .advance, .exit, .exit, .program (.deliver .onSubscribeDiscard 0),
    .exit, .exit, .exit, .exit, .exit]

/-- Without credentials the whole exit is in order, and with them the part before `credentials_free`. -/
theorem orderlyExit_in_order :
    (∃ p, (shutdown false).Run Free orderlyExit p ∧ p.pending = []) ∧
      (shutdown false).Throughout Free UsesLiving orderlyExit ∧
      (shutdown false).Always Free CredentialsKept orderlyExit ∧
      (∃ p, (shutdown true).Run Free (orderlyExit.take 12) p ∧
        p.pending = [.credentialsFree, .sessionClose, .sessionFree]) ∧
      (shutdown true).Throughout Free UsesLiving (orderlyExit.take 12) ∧
      (shutdown true).Always Free CredentialsKept (orderlyExit.take 12) := by
  obtain ⟨p, run, ended⟩ : ∃ p, (shutdown false).Run ExitsInOrder orderlyExit p ∧
      decide (p.pending = []) = true :=
    TransitionSystem.Run.exists_of_exec (by decide)
  obtain ⟨q, part, left⟩ : ∃ q, (shutdown true).Run ExitsInOrder (orderlyExit.take 12) q ∧
      decide (q.pending = [.credentialsFree, .sessionClose, .sessionFree]) = true :=
    TransitionSystem.Run.exists_of_exec (by decide)
  obtain ⟨living, kept⟩ := exit_in_order run.free run.throughout
  obtain ⟨livingSoFar, keptSoFar⟩ := exit_in_order part.free part.throughout
  exact ⟨⟨p, run.free, of_decide_eq_true ended⟩, living, kept,
    ⟨q, part.free, of_decide_eq_true left⟩, livingSoFar, keptSoFar⟩

/-- A topic message that arrives after the animator's destructor, with no subscription pending. -/
def lateTopicMessage : List ProcessEvent :=
  [.exit, .exit, .exit,
    .program (.deliver (.onSubscribeTopicMessage
      (some { type := 0x15, payload := .ofBytes [1], name := "a" })) 0),
    .program .advance]

/-- The exit up to `credentials_free`, with a connected session that has credentials. -/
def exitToCredentialsFree : List ProcessEvent := List.replicate 6 .exit

/-- The shutdown is not in order in general: the late message stops the spinner of an animator that has
    been destroyed, and the credentials are freed before the session is closed. -/
theorem animator_used_after_destruction :
    ¬ (∀ es p, (shutdown true).Run Free es p → (shutdown true).Throughout Free UsesLiving es) ∧
      ¬ (∀ es p, (shutdown true).Run Free es p → (shutdown true).Always Free CredentialsKept es) := by
  constructor
  · intro law
    obtain ⟨p, before, facts⟩ : ∃ p, (shutdown true).Run Free lateTopicMessage p ∧
        decide (Local.animator ∈ p.net.uses ∧ ¬ p.Living .animator) = true :=
      TransitionSystem.Run.exists_of_exec (by decide)
    obtain ⟨q, run, -⟩ : ∃ q, (shutdown true).Run Free (lateTopicMessage ++ [.program .advance]) q ∧
        decide (q.queue = []) = true :=
      TransitionSystem.Run.exists_of_exec (by decide)
    obtain ⟨uses, gone⟩ := of_decide_eq_true facts
    exact gone (law _ _ run _ _ p List.prefix_rfl before .animator uses)
  · intro law
    obtain ⟨p, run, facts⟩ : ∃ p, (shutdown true).Run Free exitToCredentialsFree p ∧
        decide (p.credentialsFreed = true ∧ .sessionClose ∈ p.pending) = true :=
      TransitionSystem.Run.exists_of_exec (by decide)
    obtain ⟨freed, open_⟩ := of_decide_eq_true facts
    exact (law _ _ run).last run freed open_

end Dmon
