/-
Module: Dmon.Proofs.Startup
Layer: Proofs
Purpose: The startup of `main` against the program that starts in the screen's loop. Nothing that happens
  before the loop is lost and nothing is missing in it: the library calls a handler of a request only after
  the request, which the UI thread makes in the loop, where there is a connection and every callback is set.
  So no test of a callback ever fails, and the runs from the construction of the session on are the runs of
  the program.
Imports: Dmon.Lib.Refinement, Dmon.Model.Startup, Dmon.Proofs.Transitions
Trusted boundary: none
Main exports: Starting.event?, WellStarted, throughStartup, startup_exact
-/
import Dmon.Lib.Refinement
import Dmon.Model.Startup
import Dmon.Proofs.Transitions

namespace Dmon

open TransitionSystem (Free Refinement)

/-- The library calls handlers of a request only after a request of that kind. -/
def Requested (w : World) : Event → Prop
  | .deliver h _ => ∀ kind, h.registration = .request kind → w.library.opened kind = true
  | _ => True

namespace Starting

/-- The step of the program that a step is, if it is one. -/
def event? : Starting → StartEvent → Option Event
  | _, .main _ => none
  | _, .program e => some e

/-- The library knows the handlers that it calls, and the steps of the program meet a condition. -/
def Meets (C : World → Event → Prop) (m : Starting) (x : StartEvent) : Prop :=
  KnownHandlers m x ∧ ∀ e, m.event? x = some e → C m.toWorld e

end Starting

/-- How far `main` has got: the callbacks that were set are those of the statements behind it, and outside the
    loop no request has been made and no callback is called. -/
structure WellStarted (m : Starting) : Prop where
  script : m.connected = true ∨ m.ahead ≠ [] →
    ∃ behind, behind ++ m.ahead = startScript ∧ ∀ slot, .set slot ∈ behind → slot ∈ m.slots
  early : m.looping = false → (∀ kind, m.library.opened kind = false) ∧ m.net = .idle

namespace WellStarted

variable {m m' : Starting} {e : Event}

/-- In the loop every callback is set. -/
theorem slots (well : WellStarted m) (looping : m.looping = true) (slot : Slot) : slot ∈ m.slots := by
  obtain ⟨connected, through⟩ : m.connected = true ∧ m.ahead = [] := by
    simpa [Starting.looping] using looping
  obtain ⟨behind, all, set⟩ := well.script (.inl connected)
  rw [through, List.append_nil] at all
  subst all
  apply set
  cases slot <;> decide

/-- In the loop every handler gets to its callback. -/
theorem calling (well : WellStarted m) (looping : m.looping = true) (pc : NetPc) : m.calling pc = pc := by
  cases pc with
  | stop callback => exact if_pos (well.slots looping callback.slot)
  | _ => rfl

/-- The next statement of `main`. -/
theorem next {connects : Bool} (well : WellStarted m) (step : m.next connects = some m') :
    WellStarted m' := by
  have outside : m.ahead ≠ [] → (∀ kind, m.library.opened kind = false) ∧ m.net = .idle := by
    intro more
    apply well.early
    simp [Starting.looping, more]
  have behind : ∀ {statement rest}, m.ahead = statement :: rest → ∀ {slots : List Slot},
      (∀ slot, slot ∈ m.slots → slot ∈ slots) → (∀ slot, .set slot = statement → slot ∈ slots) →
      ∃ behind, behind ++ rest = startScript ∧ ∀ slot, .set slot ∈ behind → slot ∈ slots := by
    intro statement rest ahead slots more here
    obtain ⟨behind, all, set⟩ := well.script (.inr (by simp [ahead]))
    refine ⟨behind ++ [statement], by simpa [ahead] using all, fun slot member => ?_⟩
    rcases List.mem_append.1 member with earlier | last
    · exact more slot (set slot earlier)
    · exact here slot (List.mem_singleton.1 last)
  cases ahead : m.ahead with
  | nil =>
      rw [Starting.next, ahead] at step
      cases step
  | cons statement rest =>
      have quiet := outside (by simp [ahead])
      rw [Starting.next, ahead] at step
      cases statement with
      | connect =>
          obtain rfl := Option.some.inj step
          refine ⟨fun goes => ?_, fun _ => quiet⟩
          cases connects with
          | true => exact behind ahead (fun _ => id) (by simp)
          | false => simp at goes
      | declare x =>
          obtain rfl := Option.some.inj step
          exact ⟨fun _ => behind ahead (fun _ => id) (by simp), fun _ => quiet⟩
      | set slot =>
          obtain rfl := Option.some.inj step
          refine ⟨fun _ => behind ahead (fun _ old => List.mem_append_left _ old) ?_, fun _ => quiet⟩
          intro other same
          cases same
          simp
      | notify =>
          obtain rfl := Option.some.inj step
          exact ⟨fun _ => behind ahead (fun _ => id) (by simp), fun _ => quiet⟩

end WellStarted

/-! ### A step of the program -/

section Steps

variable {m m' : Starting} {w w' : World} {e : Event} {h : Handler} {id : Nat}

/-- A handler that belongs to no request is over at once and ends no conversation. -/
theorem deliver_of_unrequested (own : ∀ kind, h.registration ≠ .request kind)
    (step : w.step (.deliver h id) = some w') : w'.net = .idle ∧ w'.library = w.library := by
  have moved : Transition w (.deliver h id) w' := .of_step step
  cases moved with
  | delivered _ _ s next quiescent entry =>
      constructor
      · cases entry with
        | notified | quiet => rfl
        | _ => exact absurd rfl (own _)
      · cases h with
        | onGlobalError | onUnexpectedTopicMessage | onNotifySubscription | onNotifyUnsubscription => rfl
        | _ => exact absurd rfl (own _)

/-- Before the loop the library knows no handler of a request. -/
theorem WellStarted.unrequested (well : WellStarted m) (outside : m.looping = false)
    (known : KnownHandlers m (.program (.deliver h id))) (kind : RequestKind) :
    h.registration ≠ .request kind := by
  intro own
  simp only [KnownHandlers, own, (well.early outside).1] at known
  cases known

/-- A known handler is one of the program. -/
theorem requested_of_known (known : KnownHandlers m (.program e)) : Requested m.toWorld e := by
  cases e with
  | deliver h id =>
      intro kind own
      simpa only [KnownHandlers, own] using known
  | _ => trivial

/-- A step of the network thread is the program's, where the callback is set that the handler gets to. -/
theorem Starting.exists_of_handle (step : m.handle e = some m')
    (set : ∀ w, m.toWorld.step e = some w → m.calling w.net = w.net) :
    ∃ w, m.toWorld.step e = some w ∧ m' = { m with toWorld := w } := by
  obtain ⟨w, own, rfl⟩ := Option.map_eq_some_iff.1 step
  exact ⟨w, own, by rw [set w own]⟩

/-- From a well started state, a step of the program is a step of the program. -/
theorem WellStarted.exists_of_act (well : WellStarted m) (known : KnownHandlers m (.program e))
    (may : m.may e = true) (step : m.act e = some m') :
    ∃ w, m.toWorld.step e = some w ∧ m' = { m with toWorld := w } := by
  cases e with
  | fetch selector =>
      have set := well.slots may .fetchStart
      obtain rfl := Option.some.inj step
      refine ⟨_, rfl, ?_⟩
      simp only [Starting.fetch, Shared.search, Shared.fetch, set, if_true]
      split <;> simp_all
  | subscribe selector =>
      have set := well.slots may .subscribeStart
      obtain rfl := Option.some.inj step
      refine ⟨_, rfl, ?_⟩
      simp only [Starting.subscribe, Shared.requestSubscription, Shared.subscribe, set, if_true]
      split <;> simp_all
  | deliver h id =>
      refine Starting.exists_of_handle step fun w own => ?_
      cases looping : m.looping with
      | true => exact well.calling looping w.net
      | false => rw [(deliver_of_unrequested (well.unrequested looping known) own).1]; rfl
  | advance =>
      refine Starting.exists_of_handle step fun w own => ?_
      cases looping : m.looping with
      | true => exact well.calling looping w.net
      | false =>
          have idle := (well.early looping).2
          simp [World.step, idle] at own
  | unsubscribe | runTask | animate =>
      simp only [Starting.act] at step
      obtain ⟨w, own, rfl⟩ := Option.map_eq_some_iff.1 step
      exact ⟨w, own, rfl⟩

/-- A step of the program keeps the startup in order. -/
theorem WellStarted.act (well : WellStarted m) (known : KnownHandlers m (.program e)) (may : m.may e = true)
    (own : m.toWorld.step e = some w) : WellStarted { m with toWorld := w } := by
  refine ⟨well.script, fun outside => ?_⟩
  have looping : m.looping = false := outside
  obtain ⟨unopened, idle⟩ := well.early looping
  have unmade : ∀ {ui}, m.may ui = true → ui.thread = .ui → False := by
    intro ui may thread
    simp [Starting.may, thread, looping] at may
  cases e with
  | fetch | subscribe | unsubscribe | runTask => exact (unmade may rfl).elim
  | deliver h id =>
      obtain ⟨net, library⟩ := deliver_of_unrequested (well.unrequested looping known) own
      exact ⟨fun kind => by rw [library]; exact unopened kind, net⟩
  | advance => simp [World.step, idle] at own
  | animate sig =>
      have moved : Transition m.toWorld (.animate sig) w := .of_step own
      cases moved
      exact ⟨unopened, idle⟩

end Steps

/-- Every step keeps the startup in order. -/
theorem wellStarted_step (m : Starting) (x : StartEvent) (m' : Starting) (well : WellStarted m)
    (known : KnownHandlers m x) (step : startup.step m x = some m') : WellStarted m' := by
  cases x with
  | main connects => exact well.next step
  | program e =>
      obtain ⟨may, step⟩ : m.may e = true ∧ m.act e = some m' := by
        simpa [startup, Starting.step] using step
      obtain ⟨w, own, rfl⟩ := well.exists_of_act known may step
      exact well.act known may own

theorem wellStarted_init : WellStarted startup.init := by
  refine ⟨fun _ => ⟨[], rfl, by simp⟩, fun _ => ⟨fun kind => rfl, rfl⟩⟩

/-- The startup refines the program: what `main` does before the loop is not seen. -/
def throughStartup (C : World → Event → Prop) :
    Refinement startup program (fun m x => m.Meets C x ∧ WellStarted m)
      (fun w e => C w e ∧ Requested w e) where
  view := Starting.toWorld
  label := Starting.event?
  init := rfl
  silent m x m' _ step none := by
    cases x with
    | program e => cases none
    | main connects =>
        have step : m.next connects = some m' := step
        cases ahead : m.ahead with
        | nil =>
            rw [Starting.next, ahead] at step
            cases step
        | cons statement rest =>
            rw [Starting.next, ahead] at step
            cases statement <;> cases step <;> rfl
  acts m x m' e given step labelled := by
    obtain ⟨⟨known, meets⟩, well⟩ := given
    cases x with
    | main => cases labelled
    | program e' =>
        obtain rfl := Option.some.inj labelled
        obtain ⟨may, step⟩ : m.may e' = true ∧ m.act e' = some m' := by
          simpa [startup, Starting.step] using step
        obtain ⟨w, own, rfl⟩ := well.exists_of_act known may step
        exact ⟨⟨meets e' rfl, requested_of_known known⟩, own⟩

/-! ### Every run of the program -/

section Started

variable {C : World → Event → Prop} {xs : List StartEvent} {es : List Event} {w w' : World} {e : Event}

/-- `main` has got to the loop. -/
def started (w : World) : Starting where
  toWorld := w
  ahead := []
  connected := true
  slots :=
    [.fetchCompleted, .fetchError, .fetchDiscard, .fetchStart, .subscribeCompleted, .subscribeStart,
      .subscribeError]
  notified := true

theorem wellStarted_started (w : World) : WellStarted (started w) := by
  refine ⟨fun _ => ⟨startScript, rfl, ?_⟩, by simp [started, Starting.looping]⟩
  intro slot _
  cases slot <;> simp [started]

/-- `main` gets to the loop undisturbed. -/
theorem exists_started (C : World → Event → Prop) :
    ∃ xs, startup.Run (Starting.Meets C) xs (started {}) ∧ startup.shown Starting.event? xs = [] := by
  have run : startup.Run (fun _ x => x = .main true) (List.replicate 12 (.main true)) (started {}) :=
    TransitionSystem.Run.of_exec rfl
  refine ⟨_, run.weaken fun m x main => ?_, rfl⟩
  subst main
  exact ⟨trivial, by simp [Starting.event?]⟩

/-- In the loop, a step is one of the program. -/
theorem step_started (own : w.step e = some w') : startup.step (started w) (.program e) = some (started w') := by
  have may : (started w).may e = true := by
    unfold Starting.may
    split <;> simp [started, Starting.looping]
  have calling := fun pc => (wellStarted_started w).calling rfl pc
  have act : (started w).act e = some (started w') := by
    cases e with
    | fetch selector =>
        obtain rfl := Option.some.inj own
        simp only [Starting.act, Starting.fetch, Shared.search, Shared.fetch, started]
        split <;> simp_all
    | subscribe selector =>
        obtain rfl := Option.some.inj own
        simp only [Starting.act, Starting.subscribe, Shared.requestSubscription, Shared.subscribe, started]
        split <;> simp_all
    | deliver | advance =>
        simp only [Starting.act, Starting.handle, calling]
        exact Option.map_eq_some_iff.2 ⟨w', own, rfl⟩
    | unsubscribe | runTask | animate =>
        simp only [Starting.act]
        exact Option.map_eq_some_iff.2 ⟨w', own, rfl⟩
  simp [startup, Starting.step, may, act]

/-- In the loop the library knows its handlers as soon as they are requested. -/
theorem known_of_requested (requested : Requested w e) : KnownHandlers (started w) (.program e) := by
  cases e with
  | deliver h id =>
      cases own : h.registration with
      | connect | notify => simp [KnownHandlers, own, started]
      | request kind => simpa [KnownHandlers, own, started] using requested kind own
  | _ => trivial

/-- Every run of the program that keeps to requested handlers can be had after the startup. -/
theorem exists_startup_run (run : program.Run (fun w e => C w e ∧ Requested w e) es w) :
    ∃ xs, startup.Run (Starting.Meets C) xs (started w) ∧ startup.shown Starting.event? xs = es := by
  induction run with
  | nil => exact exists_started C
  | @snoc es w w' e _ cond step ih =>
      obtain ⟨xs, before, shown⟩ := ih
      have meets : (started w).Meets C (.program e) := by
        refine ⟨known_of_requested cond.2, fun d same => ?_⟩
        obtain rfl := Option.some.inj same
        exact cond.1
      refine ⟨xs ++ [.program e], .snoc before meets (step_started step), ?_⟩
      rw [before.shown_concat, shown]
      rfl

end Started

/-! ### The theorem -/

/-- For every condition on the steps of the program: the runs from the construction of the session on, in which
    the library calls only handlers that were passed to it, show exactly the runs of the program in which it
    calls handlers of a request only after such a request. So it makes no difference that the callbacks are
    set one by one while the library is at work already, or that they are tested before every call. -/
theorem startup_exact (C : World → Event → Prop) (es : List Event) (w : World) :
    (∃ xs m, startup.Run (Starting.Meets C) xs m ∧ startup.shown Starting.event? xs = es ∧
      m.toWorld = w) ↔
      program.Run (fun w e => C w e ∧ Requested w e) es w := by
  constructor
  · intro realized
    obtain ⟨xs, m, run, rfl, rfl⟩ := realized
    have well : startup.Run (fun m x => m.Meets C x ∧ WellStarted m) xs m :=
      run.strengthen wellStarted_init fun m x m' well meets step => wellStarted_step m x m' well meets.1 step
    exact (throughStartup C).run well
  · intro run
    obtain ⟨xs, started, shown⟩ := exists_startup_run run
    exact ⟨xs, _, started, shown, rfl⟩

end Dmon
