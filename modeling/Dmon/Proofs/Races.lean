/-
Module: Dmon.Proofs.Races
Layer: Proofs
Purpose: The threads have no data race. The members of the session are touched inside the operation mutex,
  but for the list of notifications, which only the network thread touches and no mutex protects; the
  animator's members inside its mutex, the queue inside its own; the component belongs to the UI thread.
Imports: Dmon.Lib.Guards, Dmon.Proofs.Linearization
Trusted boundary: none
Main exports: Datum, Datum.put, Datum.guard, threads_guarded, threads_race_free
-/
import Dmon.Lib.Guards
import Dmon.Proofs.Linearization

namespace Dmon

/-- The parts of the shared data. The ledger is no data of the program. -/
inductive Datum where
  /-- The session without its list of notifications. -/
  | session
  | notifications
  | animator
  | queue
  | component
deriving DecidableEq, Repr

namespace Datum

/-- What a part holds. -/
def Content : Datum → Type
  | .session => Session
  | .notifications => List SubscriptionNotification
  | .animator => Animator
  | .queue => List Task
  | .component => MainComponent

/-- The shared data with another content of a part. -/
def put : (x : Datum) → x.Content → Shared → Shared
  | .session, (a : Session), s =>
      { s with session := { a with topicSubscriptionEvents := s.session.topicSubscriptionEvents } }
  | .notifications, (a : List SubscriptionNotification), s =>
      { s with session := { s.session with topicSubscriptionEvents := a } }
  | .animator, (a : Animator), s => { s with animator := a }
  | .queue, (a : List Task), s => { s with queue := a }
  | .component, (a : MainComponent), s => { s with component := a }

/-- What protects a part. -/
def guard : Datum → Threads.Guard Mutex Thread
  | .session => .mutex .operation
  | .notifications => .thread .network
  | .animator => .mutex .animator
  | .queue => .mutex .queue
  | .component => .thread .ui

end Datum

section Ignoring

variable (x : Datum)

/-- An instruction that does not act touches nothing. -/
theorem ignores_of_passive {l : Label} (passive : ∀ run, l.code ≠ .act run) : threads.Ignores x.put l :=
  fun run code => absurd code (passive run)

/-- A handler that takes no lock touches nothing but the notifications. -/
theorem ignores_starting (other : x ≠ .notifications) : threads.Ignores x.put (.net .idle) := by
  intro run code a s next s' ran
  cases code
  rcases ran with ⟨h, id, ran⟩
  refine ⟨h, id, ?_⟩
  cases locks : h.locks with
  | true =>
      simp only [locks, if_true] at ran ⊢
      obtain ⟨rfl, rfl⟩ := ran
      exact ⟨rfl, rfl⟩
  | false =>
      simp only [locks, Bool.false_eq_true, if_false] at ran ⊢
      obtain ⟨pc, ok, rfl⟩ := ran
      obtain ⟨entered, entry, rfl, rfl⟩ := enter_eq_ok ok
      obtain ⟨ts, every⟩ := h.enter_of_not_locks locks entry
      have returned := Except.ok.inj (entry.symm.trans (every s.session))
      have session := congrArg Entered.session returned
      have idle := congrArg Entered.next returned
      refine ⟨entered.next, ?_, rfl⟩
      rw [Shared.enter, every, session, idle]
      cases x with
      | notifications => exact absurd rfl other
      | session => cases ts <;> rfl
      | animator | queue | component => rfl

/-- Outside its critical sections, a body of the network thread touches nothing. -/
theorem ignores_netBody {pc : NetPc} (unguarded : x.guard ≠ .mutex pc.mutex) (other : x ≠ .notifications) :
    threads.Ignores x.put (.netBody pc) := by
  refine Threads.Program.ignores_run rfl fun a s => ?_
  cases x with
  | notifications => exact absurd rfl other
  | session =>
      cases pc with
      | stop | post | postEvent => rfl
      | _ => exact absurd rfl unguarded
  | animator =>
      cases pc with
      | stop => exact absurd rfl unguarded
      | _ => rfl
  | queue =>
      cases pc with
      | post | postEvent => exact absurd rfl unguarded
      | _ => rfl
  | component => cases pc <;> rfl

/-- Before it has opened anything, an operation reads the flag. -/
theorem ignores_gate (op : Operation) (selector : String) (other : x ≠ .session) :
    threads.Ignores x.put (.gate op selector) := by
  refine Threads.Program.ignores_run rfl fun a s => ?_
  have same : (x.put a s).session.accepts = s.session.accepts := by
    cases x with
    | session => exact absurd rfl other
    | _ => rfl
  simp only [same]
  cases s.session.accepts with
  | false => rfl
  | true =>
      cases x with
      | session => exact absurd rfl other
      | notifications => cases op <;> rfl
      | animator | queue | component => cases op <;> rfl

end Ignoring

/-- Every part is touched only where its guard is in force. -/
theorem threads_guarded (x : Datum) : threads.GuardedBy labelling x.put x.guard := by
  intro l
  cases l with
  | gate op selector =>
      cases x with
      | session => exact .inl (List.mem_singleton_self _)
      | _ => exact .inr (ignores_gate _ op selector (by simp))
  | startPush op selector =>
      cases x with
      | animator => exact .inl (List.mem_cons_self ..)
      | _ => exact .inr (Threads.Program.ignores_run rfl fun _ _ => rfl)
  | queryRead op =>
      cases x with
      | session => exact .inl (List.mem_singleton_self _)
      | _ => exact .inr (Threads.Program.ignores_run rfl fun _ _ => by cases op <;> rfl)
  | popFirst =>
      cases x with
      | queue => exact .inl (List.mem_singleton_self _)
      | _ => exact .inr (Threads.Program.ignores_run rfl fun _ _ => rfl)
  | requestDone op accepted =>
      cases x with
      | component => exact .inl rfl
      | _ => exact .inr (Threads.Program.ignores_run rfl fun _ _ => by cases accepted <;> cases op <;> rfl)
  | runTask task =>
      cases x with
      | component => exact .inl rfl
      | _ => exact .inr (Threads.Program.ignores_run rfl fun _ _ => by cases task <;> rfl)
  | closeSet | loopTest | loopStop =>
      cases x with
      | animator => exact .inl (List.mem_singleton_self _)
      | _ => exact .inr (Threads.Program.ignores_run rfl fun _ _ => rfl)
  | loopPostBody sig rest =>
      cases x with
      | queue => exact .inl (List.mem_cons_self ..)
      | _ => exact .inr (Threads.Program.ignores_run rfl fun _ _ => rfl)
  | handOver | loopSleep => exact .inr (Threads.Program.ignores_run rfl fun _ _ => by cases x <;> rfl)
  | ui =>
      refine .inr fun run code a s next s' ran => ?_
      cases code
      obtain ⟨entry, rfl⟩ := ran
      exact ⟨entry, rfl⟩
  | net pc =>
      cases pc with
      | idle =>
          cases x with
          | notifications => exact .inl rfl
          | _ => exact .inr (ignores_starting _ (by simp))
      | _ => exact .inr (ignores_of_passive x fun _ same => by cases same)
  | enterBody h id =>
      cases x with
      | notifications => exact .inl rfl
      | session => exact .inl (List.mem_singleton_self _)
      | _ =>
          refine .inr fun run code a s next s' ran => ?_
          cases code
          obtain ⟨pc, ok, rfl⟩ := ran
          obtain ⟨entered, entry, rfl, rfl⟩ := enter_eq_ok ok
          refine ⟨entered.next, ?_, rfl⟩
          simp only [Shared.enter, Datum.put, entry, Except.map]
  | netBody pc =>
      by_cases inside : x.guard = .mutex pc.mutex
      · exact .inl (by rw [inside]; exact List.mem_singleton_self _)
      · cases x with
        | notifications => exact .inl rfl
        | _ => exact .inr (ignores_netBody _ inside (by simp))
  | loopPost signals => cases signals <;> exact .inr (ignores_of_passive x fun _ same => by cases same)
  | _ => exact .inr (ignores_of_passive x fun _ same => by cases same)

end Dmon
