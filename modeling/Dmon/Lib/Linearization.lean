/-
Module: Dmon.Lib.Linearization
Layer: Lib
Purpose: When the threads of a program, interleaved instruction by instruction, do what an atomic system
  does. An observation says which event of the atomic system an instruction stands for, if any.
  `Program.recorded` keeps the events of an execution in its data and otherwise runs as the program does; a
  `Linearization` relates the places of the threads and the data to a state of the atomic system, so that
  every instruction that acts is matched by the event it stands for, or by no step at all, and the
  instructions that only take or give up a mutex, wait, notify or join by none. Then the record of every
  execution is a run of the atomic system. In the other direction, what a thread does that runs alone while the
  others stand still is an execution.
Imports: Dmon.Lib.Threads, Dmon.Lib.TransitionSystem
Trusted boundary: none
Main exports: Threads.Program.recorded, Threads.Recorded.forget, Threads.exists_recorded, Threads.Program.Passes,
  Threads.Linearization, Threads.Linearization.run, Threads.Solo, Threads.Solo.steps
-/
import Dmon.Lib.Threads
import Dmon.Lib.TransitionSystem

namespace Threads

variable {μ τ ℓ σ ε ω : Type*}

/-! ### Recorded programs -/

/-- What the instruction at a label stands for when it takes the data from one value to another and goes on
    to the next label: an event, or nothing. -/
abbrev Observation (ℓ σ ε : Type*) := ℓ → σ → ℓ → σ → Option ε → Prop

/-- The instruction with the record in its data. Only events that meet `C` happen. -/
def Instr.recorded (observes : σ → ℓ → σ → Option ε → Prop) (C : σ → ε → Prop) :
    Instr μ τ ℓ σ → Instr μ τ ℓ (σ × List ε)
  | .act run => .act fun d next d' =>
      run d.1 next d'.1 ∧ ∃ e, observes d.1 next d'.1 e ∧ (∀ event ∈ e, C d.1 event) ∧
        d'.2 = d.2 ++ e.toList
  | .lock m next => .lock m next
  | .unlock m next => .unlock m next
  | .wait m next => .wait m next
  | .notify next => .notify next
  | .join thread next => .join thread next
  | .halt => .halt

section Inversion

variable {observes : σ → ℓ → σ → Option ε → Prop} {C : σ → ε → Prop} {i : Instr μ τ ℓ σ} {m : μ} {next : ℓ}
  {thread : τ}

/-- Only an instruction that acts is recorded as one. -/
theorem Instr.recorded_eq_act {run : σ × List ε → ℓ → σ × List ε → Prop}
    (acts : i.recorded observes C = .act run) : ∃ run', i = .act run' ∧ run = fun d next d' =>
      run' d.1 next d'.1 ∧ ∃ e, observes d.1 next d'.1 e ∧ (∀ event ∈ e, C d.1 event) ∧
        d'.2 = d.2 ++ e.toList := by
  cases i with
  | act run' => exact ⟨run', rfl, (Instr.act.inj acts).symm⟩
  | _ => cases acts

theorem Instr.recorded_eq_lock : i.recorded observes C = .lock m next ↔ i = .lock m next := by
  cases i <;> simp [recorded]

theorem Instr.recorded_eq_unlock : i.recorded observes C = .unlock m next ↔ i = .unlock m next := by
  cases i <;> simp [recorded]

theorem Instr.recorded_eq_wait : i.recorded observes C = .wait m next ↔ i = .wait m next := by
  cases i <;> simp [recorded]

theorem Instr.recorded_eq_notify : i.recorded observes C = .notify next ↔ i = .notify next := by
  cases i <;> simp [recorded]

theorem Instr.recorded_eq_join :
    i.recorded observes C = .join thread next ↔ i = .join thread next := by
  cases i <;> simp [recorded]

theorem Instr.recorded_eq_halt : i.recorded observes C = .halt ↔ i = .halt := by
  cases i <;> simp [recorded]

end Inversion

/-- The program with the record in its data. -/
def Program.recorded (P : Program μ τ ℓ σ) (observes : Observation ℓ σ ε) (C : σ → ε → Prop) :
    Program μ τ ℓ (σ × List ε) where
  code l := (P.code l).recorded (observes l) C
  start := P.start
  data := (P.data, [])

theorem Program.code_recorded (P : Program μ τ ℓ σ) {observes : Observation ℓ σ ε} {C : σ → ε → Prop} {l : ℓ}
    {i : Instr μ τ ℓ σ} (code : P.code l = i) :
    (P.recorded observes C).code l = i.recorded (observes l) C := by
  rw [← code]
  rfl

namespace State

/-- The state without the record. -/
def forget (s : State μ τ ℓ (σ × List ε)) : State μ τ ℓ σ where
  data := s.data.1
  holder := s.holder
  status := s.status

/-- The label at which each thread is, or to which it will return from its wait. -/
def places (s : State μ τ ℓ σ) (t : τ) : ℓ := (s.status t).label

@[simp] theorem places_goes [DecidableEq τ] (s : State μ τ ℓ σ) (t : τ) (status : Status μ ℓ) :
    (s.goes t status).places = Function.update s.places t status.label := by
  funext u
  by_cases same : u = t
  · subst same
    simp [places]
  · simp [places, status_goes_of_ne, same]

/-- A thread that stays at its place. -/
theorem places_goes_of_eq [DecidableEq τ] {s : State μ τ ℓ σ} {t : τ} {status : Status μ ℓ}
    (stays : status.label = s.places t) : (s.goes t status).places = s.places := by
  rw [places_goes, stays, Function.update_eq_self]

end State

section Semantics

variable [DecidableEq μ] [DecidableEq τ] {P : Program μ τ ℓ σ} {observes : Observation ℓ σ ε}
  {C : σ → ε → Prop}

namespace Recorded

/-- A recorded step is a step. -/
theorem forget_step {s s' : State μ τ ℓ (σ × List ε)} (step : Step (P.recorded observes C) s s') :
    Step P s.forget s'.forget := by
  cases step with
  | act here code ran =>
      obtain ⟨run, plain, rfl⟩ := Instr.recorded_eq_act code
      exact .act here plain ran.1
  | lock here code free => exact .lock here (Instr.recorded_eq_lock.1 code) free
  | unlock here code => exact .unlock here (Instr.recorded_eq_unlock.1 code)
  | wait here code => exact .wait here (Instr.recorded_eq_wait.1 code)
  | wake here => exact .wake here
  | retake here free => exact .retake here free
  | notify here code there => exact .notify here (Instr.recorded_eq_notify.1 code) there
  | notifyNobody here code nobody => exact .notifyNobody here (Instr.recorded_eq_notify.1 code) nobody
  | join here code there halted =>
      exact .join here (Instr.recorded_eq_join.1 code) there (Instr.recorded_eq_halt.1 halted)

/-- An instruction that acts, with what it stands for. -/
theorem act {s : State μ τ ℓ (σ × List ε)} {t : τ} {l next : ℓ} {run : σ → ℓ → σ → Prop} {d : σ}
    {e : Option ε} (here : s.status t = .ready l) (code : P.code l = .act run) (ran : run s.data.1 next d)
    (seen : observes l s.data.1 next d e) (meets : ∀ event ∈ e, C s.data.1 event) :
    Step (P.recorded observes C) s
      ({ s with data := (d, s.data.2 ++ e.toList) }.goes t (.ready next)) :=
  .act here (P.code_recorded code) ⟨ran, e, seen, meets, rfl⟩

/-- A recorded execution is an execution. -/
theorem forget {s : State μ τ ℓ (σ × List ε)} (reached : Reachable (P.recorded observes C) s) :
    Reachable P s.forget := by
  induction reached with
  | refl => exact .refl
  | tail _ step ih => exact ih.tail (forget_step step)

end Recorded

/-- Every execution has its record: where every instruction that acts is observed, each step of the program
    is a step of the recorded one. -/
theorem exists_recorded (observed : ∀ l run d next d', P.code l = .act run → run d next d' →
      ∃ e, observes l d next d' e)
    {s : State μ τ ℓ σ} (reached : Reachable P s) :
    ∃ r, Reachable (P.recorded observes fun _ _ => True) r ∧ r.forget = s := by
  induction reached with
  | refl => exact ⟨_, .refl, rfl⟩
  | @tail s s' _ step ih =>
      rcases ih with ⟨r, before, rfl⟩
      suffices next : ∃ r', Step (P.recorded observes fun _ _ => True) r r' ∧ r'.forget = s' by
        rcases next with ⟨r', recordedStep, same⟩
        exact ⟨r', before.tail recordedStep, same⟩
      cases step with
      | @act t l next run data here code ran =>
          obtain ⟨e, seen⟩ := observed l run _ next data code ran
          exact ⟨_, Recorded.act here code ran seen fun _ _ => trivial, rfl⟩
      | lock here code free => exact ⟨_, .lock here (P.code_recorded code) free, rfl⟩
      | unlock here code => exact ⟨_, .unlock here (P.code_recorded code), rfl⟩
      | wait here code => exact ⟨_, .wait here (P.code_recorded code), rfl⟩
      | wake here => exact ⟨_, .wake here, rfl⟩
      | retake here free => exact ⟨_, .retake here free, rfl⟩
      | notify here code there => exact ⟨_, .notify here (P.code_recorded code) there, rfl⟩
      | notifyNobody here code nobody =>
          exact ⟨_, .notifyNobody here (P.code_recorded code) nobody, rfl⟩
      | join here code there halted =>
          exact ⟨_, .join here (P.code_recorded code) there (P.code_recorded halted), rfl⟩

end Semantics

/-! ### Linearization -/

/-- The instruction at `l` takes or gives up a mutex, waits, notifies or joins, and goes on to `next`. -/
inductive Program.Passes (P : Program μ τ ℓ σ) (l next : ℓ) : Prop where
  | lock {m : μ} : P.code l = .lock m next → Passes P l next
  | unlock {m : μ} : P.code l = .unlock m next → Passes P l next
  | wait {m : μ} : P.code l = .wait m next → Passes P l next
  | notify : P.code l = .notify next → Passes P l next
  | join {u : τ} : P.code l = .join u next → Passes P l next

/-- A step as a change of the places and the data: one thread acts, one thread passes an instruction that
    leaves the data alone, or a thread wakes up or comes out of its wait. -/
inductive Shift (P : Program μ τ ℓ σ) [DecidableEq τ] (s s' : State μ τ ℓ σ) : Prop where
  | act {t : τ} {l next : ℓ} {run : σ → ℓ → σ → Prop} : s.status t = .ready l → P.code l = .act run →
      run s.data next s'.data → s'.places = Function.update s.places t next → Shift P s s'
  | pass {t : τ} {next : ℓ} : P.Passes (s.places t) next →
      s'.places = Function.update s.places t next → s'.data = s.data → Shift P s s'
  | stay : s'.places = s.places → s'.data = s.data → Shift P s s'

theorem State.places_of_status {s : State μ τ ℓ σ} {t : τ} {status : Status μ ℓ}
    (here : s.status t = status) : s.places t = status.label := by
  rw [places, here]

theorem Shift.of_step [DecidableEq μ] [DecidableEq τ] {P : Program μ τ ℓ σ} {s s' : State μ τ ℓ σ}
    (step : Step P s s') : Shift P s s' := by
  cases step with
  | act here code ran => exact .act here code ran (State.places_goes ..)
  | lock here code _ =>
      exact .pass (by rw [State.places_of_status here]; exact .lock code) (State.places_goes ..) rfl
  | unlock here code =>
      exact .pass (by rw [State.places_of_status here]; exact .unlock code) (State.places_goes ..) rfl
  | wait here code =>
      exact .pass (by rw [State.places_of_status here]; exact .wait code) (State.places_goes ..) rfl
  | wake here => exact .stay (State.places_goes_of_eq (State.places_of_status here).symm) rfl
  | retake here _ => exact .stay (State.places_goes_of_eq (State.places_of_status here).symm) rfl
  | @notify t u l next next' m here code there =>
      have stays : (s.goes u (.woken m next')).places = s.places :=
        State.places_goes_of_eq (State.places_of_status there).symm
      refine .pass (by rw [State.places_of_status here]; exact .notify code) ?_ rfl
      rw [State.places_goes, stays]
      rfl
  | notifyNobody here code _ =>
      exact .pass (by rw [State.places_of_status here]; exact .notify code) (State.places_goes ..) rfl
  | join here code _ _ =>
      exact .pass (by rw [State.places_of_status here]; exact .join code) (State.places_goes ..) rfl

/-- A thread in a wait returns to the label after a wait. -/
theorem Reachable.returns [DecidableEq μ] [DecidableEq τ] {P : Program μ τ ℓ σ} {s : State μ τ ℓ σ}
    (reached : Reachable P s) : ∀ t m next, s.status t = .asleep m next ∨ s.status t = .woken m next →
      ∃ l, P.code l = .wait m next := by
  have goes : ∀ {s s' : State μ τ ℓ σ} {t : τ} {status : Status μ ℓ}, s'.status = s.status →
      (∀ m next, status = .asleep m next ∨ status = .woken m next → ∃ l, P.code l = .wait m next) →
      (∀ u m next, s.status u = .asleep m next ∨ s.status u = .woken m next →
        ∃ l, P.code l = .wait m next) →
      ∀ u m next, (s'.goes t status).status u = .asleep m next ∨
        (s'.goes t status).status u = .woken m next → ∃ l, P.code l = .wait m next := by
    intro s s' t status placed self before u m next there
    by_cases same : u = t
    · subst same
      exact self m next (by simpa using there)
    · rw [State.status_goes_of_ne _ _ same, placed] at there
      exact before u m next there
  apply reached.invariant (I := fun s => ∀ t m next, s.status t = .asleep m next ∨
    s.status t = .woken m next → ∃ l, P.code l = .wait m next)
  · exact fun t => Status.waiting_ready
  · intro s s' before step
    cases step with
    | wait here code => exact goes rfl (Status.waiting_asleep ⟨_, code⟩) before
    | wake here => exact goes rfl (Status.waiting_woken (before _ _ _ (.inl here))) before
    | @notify t u l next next' m here code there =>
        exact goes rfl Status.waiting_ready
          (goes rfl (Status.waiting_woken (before u m next' (.inl there))) before)
    | _ => exact goes rfl Status.waiting_ready before

/-- A recorded program passes the instructions that the program passes. -/
theorem Program.passes_of_recorded {P : Program μ τ ℓ σ} {observes : Observation ℓ σ ε} {C : σ → ε → Prop}
    {l next : ℓ} (passes : (P.recorded observes C).Passes l next) : P.Passes l next := by
  cases passes with
  | lock code => exact .lock (Instr.recorded_eq_lock.1 code)
  | unlock code => exact .unlock (Instr.recorded_eq_unlock.1 code)
  | wait code => exact .wait (Instr.recorded_eq_wait.1 code)
  | notify code => exact .notify (Instr.recorded_eq_notify.1 code)
  | join code => exact .join (Instr.recorded_eq_join.1 code)

end Threads

/-- The atomic system takes the step of an event that meets `D` to a state with `Q`; for no event it stays
    where it is. -/
def TransitionSystem.Matches {ω ε : Type*} (T : TransitionSystem ω ε) (D : ω → ε → Prop) (w : ω)
    (e : Option ε) (Q : ω → Prop) : Prop :=
  match e with
  | none => Q w
  | some event => ∃ w', D w event ∧ T.step w event = some w' ∧ Q w'

namespace Threads

variable {μ τ ℓ σ ε ω : Type*} [DecidableEq μ] [DecidableEq τ]

/-- `R places d w`: the threads stand at `places` over the data `d`, and the atomic system is in `w`. The
    relation sees neither the holders of the mutexes nor who sleeps. -/
structure Linearization (P : Program μ τ ℓ σ) (observes : Observation ℓ σ ε) (C : σ → ε → Prop)
    (T : TransitionSystem ω ε) (D : ω → ε → Prop) (R : (τ → ℓ) → σ → ω → Prop) : Prop where
  starts : R P.start P.data T.init
  passes : ∀ places d w t next, R places d w → P.Passes (places t) next →
    R (Function.update places t next) d w
  acts : ∀ (s : State μ τ ℓ σ) w t l next run d' e, Reachable P s → R s.places s.data w →
    s.status t = .ready l → P.code l = .act run → run s.data next d' → observes l s.data next d' e →
    (∀ event ∈ e, C s.data event) →
    T.Matches D w e fun w' => R (Function.update s.places t next) d' w'

namespace Linearization

variable {P : Program μ τ ℓ σ} {observes : Observation ℓ σ ε} {C : σ → ε → Prop}
  {T : TransitionSystem ω ε} {D : ω → ε → Prop} {R : (τ → ℓ) → σ → ω → Prop}

/-- The record of an execution is a run of the atomic system, to a state that is related to the places and
    the data reached. -/
theorem run (L : Linearization P observes C T D R) {s : State μ τ ℓ (σ × List ε)}
    (reached : Reachable (P.recorded observes C) s) :
    ∃ w, T.Run D s.data.2 w ∧ R s.places s.data.1 w := by
  induction reached with
  | refl => exact ⟨_, .nil, L.starts⟩
  | @tail s s' before step ih =>
      rcases ih with ⟨w, run, related⟩
      cases Shift.of_step step with
      | act here code ran places =>
          obtain ⟨body, acts, rfl⟩ := Instr.recorded_eq_act code
          rcases ran with ⟨ran, e, seen, meets, record⟩
          have matched := L.acts s.forget w _ _ _ body _ e (Recorded.forget before) related here acts ran
            seen meets
          rw [places, record]
          cases e with
          | none => exact ⟨w, by simpa using run, matched⟩
          | some event =>
              obtain ⟨w', allowed, moved, related'⟩ := matched
              exact ⟨w', run.snoc allowed moved, related'⟩
      | pass passes places data =>
          rw [places, data]
          exact ⟨w, run, L.passes _ _ _ _ _ related (Program.passes_of_recorded passes)⟩
      | stay places data =>
          rw [places, data]
          exact ⟨w, run, related⟩

end Linearization

/-! ### Running alone

A linearization leaves open whether the atomic system does more than the threads can. What one thread does
while the others stand still is an execution as it is, so a run of the atomic system is the record of an
execution when a thread that runs alone can take each of its steps. -/

/-- A thread runs alone from a label to another, taking the data along; it holds the mutexes `held`, innermost
    first, and nobody else holds any or sleeps. -/
inductive Solo (P : Program μ τ ℓ σ) : List μ → ℓ → σ → List μ → ℓ → σ → Prop where
  | refl (held : List μ) (l : ℓ) (d : σ) : Solo P held l d held l d
  | act {held held' : List μ} {l next l' : ℓ} {d d' d'' : σ} {run : σ → ℓ → σ → Prop} :
      P.code l = .act run → run d next d' → Solo P held next d' held' l' d'' → Solo P held l d held' l' d''
  | lock {held held' : List μ} {l next l' : ℓ} {d d' : σ} {m : μ} :
      P.code l = .lock m next → m ∉ held → Solo P (m :: held) next d held' l' d' →
      Solo P held l d held' l' d'
  | unlock {held held' : List μ} {l next l' : ℓ} {d d' : σ} {m : μ} :
      P.code l = .unlock m next → Solo P held next d held' l' d' → Solo P (m :: held) l d held' l' d'
  | notify {held held' : List μ} {l next l' : ℓ} {d d' : σ} :
      P.code l = .notify next → Solo P held next d held' l' d' → Solo P held l d held' l' d'

namespace Solo

/-- The state in which every thread is ready and only thread `t` holds mutexes. -/
def state (labels : τ → ℓ) (t : τ) (held : List μ) (d : σ) : State μ τ ℓ σ where
  data := d
  holder := fun m => if m ∈ held then some t else none
  status := fun u => .ready (labels u)

variable {P : Program μ τ ℓ σ} {held held' : List μ} {l next l' : ℓ} {d d' d'' : σ} {m : μ} {labels : τ → ℓ}
  {t u : τ}

omit [DecidableEq τ] in
/-- Where nobody holds a mutex it does not matter who runs alone. -/
theorem state_nil (labels : τ → ℓ) (t u : τ) (d : σ) :
    state (μ := μ) labels t [] d = state labels u [] d := by
  simp [state]

theorem state_goes : (state labels t held d).goes t (.ready next) =
    state (Function.update labels t next) t held d := by
  unfold state State.goes
  congr 1
  funext u
  by_cases same : u = t
  · subst same
    simp
  · simp [same]

omit [DecidableEq τ] in
theorem state_lock : (state labels t held d).gives m (some t) = state labels t (m :: held) d := by
  unfold state State.gives
  congr 1
  funext m'
  by_cases same : m' = m
  · subst same
    simp
  · simp [same]

omit [DecidableEq τ] in
theorem state_unlock (once : m ∉ held) :
    (state labels t (m :: held) d).gives m none = state labels t held d := by
  unfold state State.gives
  congr 1
  funext m'
  by_cases same : m' = m
  · subst same
    simp [once]
  · simp [same]

/-- The last label at which the thread stands is the one that counts. -/
theorem steps_after {s : State μ τ ℓ σ}
    (step : Step P s (state (Function.update labels t next) t held d))
    (rest : Relation.ReflTransGen (Step P) (state (Function.update labels t next) t held d)
      (state (Function.update (Function.update labels t next) t l') t held' d')) :
    Relation.ReflTransGen (Step P) s (state (Function.update labels t l') t held' d') := by
  rw [Function.update_idem] at rest
  exact rest.head step

/-- Running alone is an execution. -/
theorem steps (solo : Solo P held l d held' l' d') (nodup : held.Nodup) (here : labels t = l) :
    Relation.ReflTransGen (Step P) (state labels t held d)
      (state (Function.update labels t l') t held' d') := by
  induction solo generalizing labels with
  | refl held l d =>
      rw [← here, Function.update_eq_self]
  | @act held held' l next l' d d' d'' run code ran _ ih =>
      have step : Step P (state labels t held d) (state (Function.update labels t next) t held d') := by
        rw [← state_goes]
        exact .act (congrArg Status.ready here) code ran
      exact steps_after step (ih nodup (Function.update_self ..))
  | @lock held held' l next l' d d' m code fresh _ ih =>
      have step : Step P (state labels t held d)
          (state (Function.update labels t next) t (m :: held) d) := by
        rw [← state_goes, ← state_lock]
        exact .lock (congrArg Status.ready here) code (if_neg fresh)
      exact steps_after step (ih (List.nodup_cons.2 ⟨fresh, nodup⟩) (Function.update_self ..))
  | @unlock held held' l next l' d d' m code _ ih =>
      obtain ⟨once, nodup⟩ := List.nodup_cons.1 nodup
      have step : Step P (state labels t (m :: held) d)
          (state (Function.update labels t next) t held d) := by
        rw [← state_goes, ← state_unlock once]
        exact .unlock (congrArg Status.ready here) code
      exact steps_after step (ih nodup (Function.update_self ..))
  | @notify held held' l next l' d d' code _ ih =>
      have step : Step P (state labels t held d) (state (Function.update labels t next) t held d) := by
        rw [← state_goes]
        exact .notifyNobody (congrArg Status.ready here) code nofun
      exact steps_after step (ih nodup (Function.update_self ..))

section Recorded

omit [DecidableEq μ] [DecidableEq τ]

variable {observes : Observation ℓ σ ε} {C : σ → ε → Prop} {es es' : List ε} {run : σ → ℓ → σ → Prop}

/-- An instruction of a recorded program that acts and stands for an event. -/
theorem record {event : ε} (code : P.code l = .act run) (ran : run d next d')
    (seen : observes l d next d' (some event)) (meets : C d event)
    (rest : Solo (P.recorded observes C) held next (d', es ++ [event]) held' l' (d'', es')) :
    Solo (P.recorded observes C) held l (d, es) held' l' (d'', es') := by
  refine .act (P.code_recorded code) ⟨ran, some event, seen, ?_, rfl⟩ rest
  rintro _ ⟨⟩
  exact meets

/-- An instruction of a recorded program that acts and stands for nothing. -/
theorem silent (code : P.code l = .act run) (ran : run d next d') (seen : observes l d next d' none)
    (rest : Solo (P.recorded observes C) held next (d', es) held' l' (d'', es')) :
    Solo (P.recorded observes C) held l (d, es) held' l' (d'', es') :=
  .act (P.code_recorded code) ⟨ran, none, seen, nofun, (List.append_nil es).symm⟩ rest

end Recorded

end Solo

end Threads
