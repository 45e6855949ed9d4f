/-
Module: Dmon.Lib.Threads
Layer: Lib
Purpose: Threads over mutexes and one condition variable, interleaved instruction by instruction. A program
  gives the instruction at every label; a state has the shared data, the holder of every mutex and the
  status of every thread. `LockDiscipline` is a static condition on the program, label by label: mutexes
  are taken in increasing rank, a waiting thread gives up the mutex it waits with, and a joining thread
  holds none. It implies that no reachable state has a cycle of waiting threads. `WakeDiscipline` is the
  static condition under which a sleeper whose predicate is true is always about to be notified.
Imports: Mathlib.Logic.Relation, Mathlib.Logic.Function.Basic
Trusted boundary: none
Main exports: Threads.Instr, Threads.Program, Threads.State, Threads.Step, Threads.Reachable,
  Threads.WaitsFor, Threads.LockDiscipline, Threads.LockDiscipline.no_wait_cycle,
  Threads.WakeDiscipline, Threads.WakeDiscipline.no_lost_wakeup
-/
import Mathlib.Logic.Function.Basic
import Mathlib.Logic.Relation

namespace Threads

variable {μ τ ℓ σ : Type*}

/-! ### Programs -/

/-- The instruction at a label. -/
inductive Instr (μ τ ℓ σ : Type*) where
  /-- Change the shared data and go on; a relation, so that the environment may choose. -/
  | act (run : σ → ℓ → σ → Prop)
  | lock (m : μ) (next : ℓ)
  | unlock (m : μ) (next : ℓ)
  /-- Release `m` and sleep on the condition variable; take `m` again before going on. -/
  | wait (m : μ) (next : ℓ)
  /-- Wake one sleeper, if there is one. -/
  | notify (next : ℓ)
  /-- Wait until a thread has halted. -/
  | join (thread : τ) (next : ℓ)
  | halt

/-- A step that the data determine: where to go on, and the data after it. -/
def Instr.run (f : σ → ℓ × σ) : Instr μ τ ℓ σ :=
  .act fun d next d' => f d = (next, d')

/-- A program: the instructions, and where each thread starts. -/
structure Program (μ τ ℓ σ : Type*) where
  code : ℓ → Instr μ τ ℓ σ
  start : τ → ℓ
  data : σ

/-- The status of a thread. -/
inductive Status (μ ℓ : Type*) where
  | ready (label : ℓ)
  /-- Blocked in a wait, with no notification pending. -/
  | asleep (m : μ) (next : ℓ)
  /-- Notified, or woken for no reason; it has to take the mutex again. -/
  | woken (m : μ) (next : ℓ)
deriving DecidableEq, Repr

/-- The label at which a thread is, or to which it will return from its wait. -/
def Status.label : Status μ ℓ → ℓ
  | .ready label => label
  | .asleep _ next => next
  | .woken _ next => next

/-! A thread stands in a wait when it is asleep or woken. What holds of the mutex and the return label of
every thread in a wait is shown for a thread that goes to a given status. -/

section Waiting

variable {Q : μ → ℓ → Prop} {l next : ℓ} {m : μ}

theorem Status.waiting_ready : ∀ m next, (Status.ready l : Status μ ℓ) = .asleep m next ∨
    (Status.ready l : Status μ ℓ) = .woken m next → Q m next := by
  simp

theorem Status.waiting_asleep (holds : Q m next) : ∀ m' next', Status.asleep m next = .asleep m' next' ∨
    Status.asleep m next = .woken m' next' → Q m' next' := by
  intro m' next' there
  rcases there with same | same <;> cases same
  exact holds

theorem Status.waiting_woken (holds : Q m next) : ∀ m' next', Status.woken m next = .asleep m' next' ∨
    Status.woken m next = .woken m' next' → Q m' next' := by
  intro m' next' there
  rcases there with same | same <;> cases same
  exact holds

end Waiting

/-- A state of the program. -/
structure State (μ τ ℓ σ : Type*) where
  data : σ
  holder : μ → Option τ
  status : τ → Status μ ℓ

/-- The state in which the program starts. -/
def Program.init (P : Program μ τ ℓ σ) : State μ τ ℓ σ where
  data := P.data
  holder := fun _ => none
  status := fun t => .ready (P.start t)

namespace State

section Goes

variable [DecidableEq τ]

/-- Thread `t` goes to `status`. -/
def goes (s : State μ τ ℓ σ) (t : τ) (status : Status μ ℓ) : State μ τ ℓ σ :=
  { s with status := Function.update s.status t status }

@[simp] theorem data_goes (s : State μ τ ℓ σ) (t : τ) (status : Status μ ℓ) :
    (s.goes t status).data = s.data := rfl

@[simp] theorem holder_goes (s : State μ τ ℓ σ) (t : τ) (status : Status μ ℓ) :
    (s.goes t status).holder = s.holder := rfl

@[simp] theorem status_goes_self (s : State μ τ ℓ σ) (t : τ) (status : Status μ ℓ) :
    (s.goes t status).status t = status := by
  simp [goes]

theorem status_goes_of_ne (s : State μ τ ℓ σ) {t u : τ} (status : Status μ ℓ) (ne : u ≠ t) :
    (s.goes t status).status u = s.status u := by
  simp [goes, ne]

end Goes

section Gives

variable [DecidableEq μ]

/-- Mutex `m` gets a new holder, or none. -/
def gives (s : State μ τ ℓ σ) (m : μ) (holder : Option τ) : State μ τ ℓ σ :=
  { s with holder := Function.update s.holder m holder }

@[simp] theorem data_gives (s : State μ τ ℓ σ) (m : μ) (holder : Option τ) :
    (s.gives m holder).data = s.data := rfl

@[simp] theorem status_gives (s : State μ τ ℓ σ) (m : μ) (holder : Option τ) :
    (s.gives m holder).status = s.status := rfl

@[simp] theorem holder_gives_self (s : State μ τ ℓ σ) (m : μ) (holder : Option τ) :
    (s.gives m holder).holder m = holder := by
  simp [gives]

theorem holder_gives_of_ne (s : State μ τ ℓ σ) {m m' : μ} (holder : Option τ) (ne : m' ≠ m) :
    (s.gives m holder).holder m' = s.holder m' := by
  simp [gives, ne]

end Gives

end State

section Semantics

variable [DecidableEq μ] [DecidableEq τ]

/-- One step of one thread. -/
inductive Step (P : Program μ τ ℓ σ) : State μ τ ℓ σ → State μ τ ℓ σ → Prop where
  | act {s : State μ τ ℓ σ} {t : τ} {l next : ℓ} {run : σ → ℓ → σ → Prop} {data : σ} :
      s.status t = .ready l → P.code l = .act run → run s.data next data →
      Step P s ({ s with data := data }.goes t (.ready next))
  | lock {s : State μ τ ℓ σ} {t : τ} {l next : ℓ} {m : μ} :
      s.status t = .ready l → P.code l = .lock m next → s.holder m = none →
      Step P s ((s.gives m (some t)).goes t (.ready next))
  | unlock {s : State μ τ ℓ σ} {t : τ} {l next : ℓ} {m : μ} :
      s.status t = .ready l → P.code l = .unlock m next →
      Step P s ((s.gives m none).goes t (.ready next))
  | wait {s : State μ τ ℓ σ} {t : τ} {l next : ℓ} {m : μ} :
      s.status t = .ready l → P.code l = .wait m next →
      Step P s ((s.gives m none).goes t (.asleep m next))
  /-- A sleeper may wake up without a notification. -/
  | wake {s : State μ τ ℓ σ} {t : τ} {next : ℓ} {m : μ} :
      s.status t = .asleep m next → Step P s (s.goes t (.woken m next))
  | retake {s : State μ τ ℓ σ} {t : τ} {next : ℓ} {m : μ} :
      s.status t = .woken m next → s.holder m = none →
      Step P s ((s.gives m (some t)).goes t (.ready next))
  | notify {s : State μ τ ℓ σ} {t u : τ} {l next next' : ℓ} {m : μ} :
      s.status t = .ready l → P.code l = .notify next → s.status u = .asleep m next' →
      Step P s ((s.goes u (.woken m next')).goes t (.ready next))
  | notifyNobody {s : State μ τ ℓ σ} {t : τ} {l next : ℓ} :
      s.status t = .ready l → P.code l = .notify next →
      (∀ u m next', s.status u ≠ .asleep m next') →
      Step P s (s.goes t (.ready next))
  | join {s : State μ τ ℓ σ} {t u : τ} {l l' next : ℓ} :
      s.status t = .ready l → P.code l = .join u next → s.status u = .ready l' →
      P.code l' = .halt → Step P s (s.goes t (.ready next))

/-- The states that the program can reach. -/
def Reachable (P : Program μ τ ℓ σ) (s : State μ τ ℓ σ) : Prop :=
  Relation.ReflTransGen (Step P) P.init s

/-- The invariant rule. -/
theorem Reachable.invariant {P : Program μ τ ℓ σ} {I : State μ τ ℓ σ → Prop} {s : State μ τ ℓ σ}
    (reached : Reachable P s) (start : I P.init) (keep : ∀ s s', I s → Step P s s' → I s') : I s := by
  induction reached with
  | refl => exact start
  | tail _ step ih => exact keep _ _ ih step

/-! ### Waiting -/

/-- The mutex that a thread wants to take next. -/
inductive Wants (P : Program μ τ ℓ σ) (s : State μ τ ℓ σ) (t : τ) : μ → Prop where
  | lock {l next : ℓ} {m : μ} : s.status t = .ready l → P.code l = .lock m next → Wants P s t m
  | retake {next : ℓ} {m : μ} : s.status t = .woken m next → Wants P s t m

/-- Thread `t` waits for thread `u`: it wants a mutex that `u` holds, or joins `u`. -/
inductive WaitsFor (P : Program μ τ ℓ σ) (s : State μ τ ℓ σ) (t u : τ) : Prop where
  | mutex {m : μ} : Wants P s t m → s.holder m = some u → WaitsFor P s t u
  | join {l next : ℓ} : s.status t = .ready l → P.code l = .join u next → WaitsFor P s t u

/-! ### The lock discipline -/

/-- What a program says about its labels: the mutexes held there, innermost first, and the thread that
    runs there; the rank of a mutex and the level of a thread order the waits. -/
structure Labelling (μ τ ℓ : Type*) where
  held : ℓ → List μ
  owner : ℓ → τ
  rank : μ → Nat
  level : τ → Nat

/-- The instruction at label `l` respects the labelling. -/
def Labelling.Obeys (A : Labelling μ τ ℓ) (l : ℓ) : Instr μ τ ℓ σ → Prop
  | .act run => ∀ d next d', run d next d' → A.held next = A.held l ∧ A.owner next = A.owner l
  | .lock m next => A.held next = m :: A.held l ∧ A.owner next = A.owner l
  | .unlock m next => A.held l = m :: A.held next ∧ A.owner next = A.owner l
  | .wait m next =>
      A.held next = A.held l ∧ A.owner next = A.owner l ∧ (A.held l).head? = some m
  | .notify next => A.held next = A.held l ∧ A.owner next = A.owner l
  | .join u next =>
      A.held next = A.held l ∧ A.owner next = A.owner l ∧ A.held l = [] ∧
        A.level u < A.level (A.owner l)
  | .halt => True

omit [DecidableEq μ] [DecidableEq τ] in
theorem Labelling.obeys_run {A : Labelling μ τ ℓ} {l : ℓ} {f : σ → ℓ × σ}
    (kept : ∀ d, A.held (f d).1 = A.held l ∧ A.owner (f d).1 = A.owner l) :
    A.Obeys l (.run f : Instr μ τ ℓ σ) := by
  intro d next d' step
  have here := kept d
  rw [step] at here
  exact here

/-- The static lock discipline: every instruction respects the labelling, and mutexes are nested in
    increasing rank. -/
structure LockDiscipline (P : Program μ τ ℓ σ) (A : Labelling μ τ ℓ) : Prop where
  ordered : ∀ l, (A.held l).Pairwise fun inner outer => A.rank outer < A.rank inner
  starts : ∀ t, A.held (P.start t) = [] ∧ A.owner (P.start t) = t
  obeys : ∀ l, A.Obeys l (P.code l)

/-- The mutexes that a thread holds: a thread in a wait has given up the innermost one. -/
def Labelling.heldBy (A : Labelling μ τ ℓ) : Status μ ℓ → List μ
  | .ready l => A.held l
  | .asleep _ next | .woken _ next => (A.held next).tail

/-- The holders of the mutexes are those that the labelling gives for the places of the threads. -/
structure Holding (A : Labelling μ τ ℓ) (s : State μ τ ℓ σ) : Prop where
  owned : ∀ t, A.owner (s.status t).label = t
  holds : ∀ m t, s.holder m = some t ↔ m ∈ A.heldBy (s.status t)
  waits : ∀ t m next, s.status t = .asleep m next ∨ s.status t = .woken m next →
    (A.held next).head? = some m

namespace Holding

variable {P : Program μ τ ℓ σ} {A : Labelling μ τ ℓ} {s s' : State μ τ ℓ σ} {t u : τ} {m : μ}
  {status : Status μ ℓ}

omit [DecidableEq μ] [DecidableEq τ] in
/-- A thread runs its own code. -/
theorem owner_eq (holding : Holding A s) (here : s.status t = status) : A.owner status.label = t := by
  rw [← here]
  exact holding.owned t

omit [DecidableEq μ] [DecidableEq τ] in
/-- A mutex has one holder: two threads are not both inside it. -/
theorem exclusive (holding : Holding A s) (one : m ∈ A.heldBy (s.status t))
    (two : m ∈ A.heldBy (s.status u)) : t = u := by
  have first := (holding.holds m t).2 one
  have second := (holding.holds m u).2 two
  exact Option.some.inj (first.symm.trans second)

omit [DecidableEq μ] in
/-- A thread moves, and the holders change for that thread only. -/
theorem goes (holding : Holding A s) (placed : s'.status = s.status)
    (owner : A.owner status.label = t)
    (self : ∀ m, s'.holder m = some t ↔ m ∈ A.heldBy status)
    (others : ∀ m u, u ≠ t → (s'.holder m = some u ↔ s.holder m = some u))
    (waiting : ∀ m next, status = .asleep m next ∨ status = .woken m next →
      (A.held next).head? = some m) : Holding A (s'.goes t status) where
  owned := by
    intro u
    by_cases same : u = t
    · subst same
      simpa using owner
    · rw [State.status_goes_of_ne _ _ same, placed]
      exact holding.owned u
  holds := by
    intro m u
    by_cases same : u = t
    · subst same
      simpa using self m
    · rw [State.status_goes_of_ne _ _ same, placed, State.holder_goes, others m u same]
      exact holding.holds m u
  waits := by
    intro u m next
    by_cases same : u = t
    · subst same
      simpa using waiting m next
    · rw [State.status_goes_of_ne _ _ same, placed]
      exact holding.waits u m next

omit [DecidableEq μ] in
/-- A thread that keeps its mutexes. -/
theorem move (holding : Holding A s) (owner : A.owner status.label = t)
    (same : A.heldBy status = A.heldBy (s.status t))
    (waiting : ∀ m next, status = .asleep m next ∨ status = .woken m next →
      (A.held next).head? = some m) : Holding A (s.goes t status) := by
  refine holding.goes rfl owner ?_ (fun _ _ _ => Iff.rfl) waiting
  intro m
  rw [same]
  exact holding.holds m t

/-- A thread that takes a free mutex. -/
theorem take (holding : Holding A s) (free : s.holder m = none) (owner : A.owner status.label = t)
    (more : A.heldBy status = m :: A.heldBy (s.status t))
    (waiting : ∀ m next, status = .asleep m next ∨ status = .woken m next →
      (A.held next).head? = some m) : Holding A ((s.gives m (some t)).goes t status) := by
  refine holding.goes rfl owner ?_ ?_ waiting
  · intro m'
    by_cases here : m' = m
    · subst here
      simp [more]
    · simpa [State.holder_gives_of_ne, here, more] using holding.holds m' t
  · intro m' u other
    by_cases here : m' = m
    · subst here
      simp [free, Ne.symm other]
    · simp [State.holder_gives_of_ne, here]

/-- A thread that gives up a mutex it holds. -/
theorem release (holding : Holding A s) (owner : A.owner status.label = t)
    (less : A.heldBy (s.status t) = m :: A.heldBy status) (once : m ∉ A.heldBy status)
    (waiting : ∀ m next, status = .asleep m next ∨ status = .woken m next →
      (A.held next).head? = some m) : Holding A ((s.gives m none).goes t status) := by
  have held : s.holder m = some t := (holding.holds m t).2 (by simp [less])
  refine holding.goes rfl owner ?_ ?_ waiting
  · intro m'
    by_cases here : m' = m
    · subst here
      simpa using once
    · simpa [State.holder_gives_of_ne, here, less] using holding.holds m' t
  · intro m' u other
    by_cases here : m' = m
    · subst here
      simp [held, Ne.symm other]
    · simp [State.holder_gives_of_ne, here]

end Holding

namespace LockDiscipline

variable {P : Program μ τ ℓ σ} {A : Labelling μ τ ℓ} {s s' : State μ τ ℓ σ} {t u : τ} {l : ℓ} {m : μ}

omit [DecidableEq μ] [DecidableEq τ] in
theorem obeys_of_code (D : LockDiscipline P A) {i : Instr μ τ ℓ σ} (code : P.code l = i) :
    A.Obeys l i := by
  rw [← code]
  exact D.obeys l

omit [DecidableEq μ] [DecidableEq τ] in
/-- The innermost mutex of a label is held once. -/
theorem not_mem_of_held (D : LockDiscipline P A) {rest : List μ} (held : A.held l = m :: rest) :
    m ∉ rest := by
  intro again
  have order := D.ordered l
  rw [held] at order
  exact absurd ((List.pairwise_cons.1 order).1 m again) (Nat.lt_irrefl _)

/-- Every step keeps the holders in order. -/
theorem holding_step (D : LockDiscipline P A) (holding : Holding A s) (step : Step P s s') :
    Holding A s' := by
  cases step with
  | @act t l next run data here code ran =>
      obtain ⟨held, owner⟩ := D.obeys_of_code code _ _ _ ran
      have owned : A.owner l = t := holding.owner_eq here
      have moved : Holding A (s.goes t (.ready next)) :=
        holding.move (owner.trans owned) (by simp [here, Labelling.heldBy, held]) Status.waiting_ready
      exact ⟨moved.owned, moved.holds, moved.waits⟩
  | @lock t l next m here code free =>
      obtain ⟨held, owner⟩ := D.obeys_of_code code
      have owned : A.owner l = t := holding.owner_eq here
      exact holding.take free (owner.trans owned) (by simp [here, Labelling.heldBy, held]) Status.waiting_ready
  | @unlock t l next m here code =>
      obtain ⟨held, owner⟩ := D.obeys_of_code code
      have owned : A.owner l = t := holding.owner_eq here
      exact holding.release (owner.trans owned) (by simp [here, Labelling.heldBy, held])
        (D.not_mem_of_held held) Status.waiting_ready
  | @wait t l next m here code =>
      obtain ⟨held, owner, inner⟩ := D.obeys_of_code code
      have owned : A.owner l = t := holding.owner_eq here
      obtain ⟨rest, split⟩ : ∃ rest, A.held l = m :: rest := List.head?_eq_some_iff.1 inner
      refine holding.release (owner.trans owned) ?_ ?_ ?_
      · simp [here, Labelling.heldBy, held, split]
      · simpa [Labelling.heldBy, held, split] using D.not_mem_of_held split
      · apply Status.waiting_asleep
        rw [held]
        exact inner
  | @wake t next m here =>
      have owned : A.owner next = t := holding.owner_eq here
      have inner := holding.waits t m next (.inl here)
      exact holding.move owned (by simp [here, Labelling.heldBy]) (Status.waiting_woken inner)
  | @retake t next m here free =>
      have inner := holding.waits t m next (.inr here)
      obtain ⟨rest, split⟩ : ∃ rest, A.held next = m :: rest := List.head?_eq_some_iff.1 inner
      have owned : A.owner next = t := holding.owner_eq here
      exact holding.take free owned (by simp [here, Labelling.heldBy, split]) Status.waiting_ready
  | @notify t u l next next' m here code there =>
      obtain ⟨held, owner⟩ := D.obeys_of_code code
      have owned : A.owner l = t := holding.owner_eq here
      have other : t ≠ u := by
        intro same
        subst same
        rw [here] at there
        cases there
      have woken : Holding A (s.goes u (.woken m next')) := by
        have slept : A.owner next' = u := holding.owner_eq there
        have inner := holding.waits u m next' (.inl there)
        exact holding.move slept (by simp [there, Labelling.heldBy]) (Status.waiting_woken inner)
      refine woken.move (owner.trans owned) ?_ Status.waiting_ready
      rw [State.status_goes_of_ne _ _ other, here]
      simp [Labelling.heldBy, held]
  | @notifyNobody t l next here code nobody =>
      obtain ⟨held, owner⟩ := D.obeys_of_code code
      have owned : A.owner l = t := holding.owner_eq here
      exact holding.move (owner.trans owned) (by simp [here, Labelling.heldBy, held]) Status.waiting_ready
  | @join t u l l' next here code there halted =>
      obtain ⟨held, owner, _⟩ := D.obeys_of_code code
      have owned : A.owner l = t := holding.owner_eq here
      exact holding.move (owner.trans owned) (by simp [here, Labelling.heldBy, held]) Status.waiting_ready

/-- In every reachable state the holders are in order. -/
theorem holding (D : LockDiscipline P A) (reached : Reachable P s) : Holding A s := by
  refine reached.invariant ⟨?_, ?_, ?_⟩ fun _ _ before step => D.holding_step before step
  · exact fun t => (D.starts t).2
  · intro m t
    simp [Program.init, Labelling.heldBy, (D.starts t).1]
  · intro t
    exact Status.waiting_ready

omit [DecidableEq μ] [DecidableEq τ] in
/-- A thread that wants a mutex holds only mutexes of lower rank. -/
theorem rank_lt_of_wants (D : LockDiscipline P A) (holding : Holding A s) (wants : Wants P s t m)
    {m' : μ} (held : s.holder m' = some t) : A.rank m' < A.rank m := by
  have member := (holding.holds m' t).1 held
  cases wants with
  | @lock l next m here code =>
      have order := D.ordered next
      rw [(D.obeys_of_code code).1] at order
      rw [here] at member
      exact (List.pairwise_cons.1 order).1 m' member
  | @retake next m here =>
      rcases List.head?_eq_some_iff.1 (holding.waits t m next (.inr here)) with ⟨rest, split⟩
      have order := D.ordered next
      rw [split] at order
      rw [here] at member
      simp only [Labelling.heldBy, split, List.tail_cons] at member
      exact (List.pairwise_cons.1 order).1 m' member

omit [DecidableEq μ] [DecidableEq τ] in
/-- A joining thread holds no mutex, and joins a thread of a lower level. -/
theorem join_spec (D : LockDiscipline P A) (holding : Holding A s) {l next : ℓ}
    (here : s.status t = .ready l) (code : P.code l = .join u next) :
    (∀ m, s.holder m ≠ some t) ∧ A.level u < A.level t := by
  obtain ⟨_, _, none, level⟩ := D.obeys_of_code code
  constructor
  · intro m held
    have member := (holding.holds m t).1 held
    rw [here] at member
    simp [Labelling.heldBy, none] at member
  · have owned : A.owner l = t := holding.owner_eq here
    exact owned ▸ level

/-- How a chain of waits that starts at `t` can reach `u`: along mutexes of increasing rank, or along
    joins of decreasing level, after which only mutexes follow. -/
inductive Chain (P : Program μ τ ℓ σ) (A : Labelling μ τ ℓ) (s : State μ τ ℓ σ) (t u : τ) : Prop where
  | mutexes {m m' : μ} : Wants P s t m → s.holder m' = some u → A.rank m ≤ A.rank m' → Chain P A s t u
  | joins : (∀ m, s.holder m ≠ some t) → A.level u < A.level t → Chain P A s t u
  | joinsThenMutexes {m : μ} : (∀ m, s.holder m ≠ some t) → s.holder m = some u → Chain P A s t u

omit [DecidableEq μ] [DecidableEq τ] in
theorem chain_of_transGen (D : LockDiscipline P A) (holding : Holding A s)
    (waits : Relation.TransGen (WaitsFor P s) t u) : Chain P A s t u := by
  induction waits with
  | single edge =>
      cases edge with
      | mutex wants held => exact .mutexes wants held (Nat.le_refl _)
      | join here code =>
          obtain ⟨nothing, level⟩ := D.join_spec holding here code
          exact .joins nothing level
  | tail _ edge ih =>
      cases edge with
      | mutex wants held =>
          cases ih with
          | mutexes first before rank =>
              have higher := D.rank_lt_of_wants holding wants before
              exact .mutexes first held (Nat.le_trans rank (Nat.le_of_lt higher))
          | joins nothing _ => exact .joinsThenMutexes nothing held
          | joinsThenMutexes nothing _ => exact .joinsThenMutexes nothing held
      | join here code =>
          obtain ⟨free, level⟩ := D.join_spec holding here code
          cases ih with
          | mutexes _ before _ => exact absurd before (free _)
          | joins nothing above => exact .joins nothing (Nat.lt_trans level above)
          | joinsThenMutexes _ before => exact absurd before (free _)

/-- Under the lock discipline no reachable state has a cycle of waiting threads. -/
theorem no_wait_cycle (D : LockDiscipline P A) (reached : Reachable P s) (t : τ) :
    ¬ Relation.TransGen (WaitsFor P s) t t := by
  intro cycle
  have holding := D.holding reached
  cases D.chain_of_transGen holding cycle with
  | mutexes wants held rank =>
      have lower := D.rank_lt_of_wants holding wants held
      exact absurd rank (Nat.not_le_of_lt lower)
  | joins _ level => exact absurd level (Nat.lt_irrefl _)
  | joinsThenMutexes nothing held => exact nothing _ held

end LockDiscipline

/-! ### The wake-up discipline -/

/-- The instruction at `l` is a wait. -/
def Program.IsWait (P : Program μ τ ℓ σ) (l : ℓ) : Prop :=
  ∃ m next, P.code l = .wait m next

/-- The thread at `l` is about to notify: now, or after giving up a mutex. -/
inductive Program.Announces (P : Program μ τ ℓ σ) (l : ℓ) : Prop where
  | now {next : ℓ} : P.code l = .notify next → Announces P l
  | afterUnlock {m : μ} {next next' : ℓ} : P.code l = .unlock m next → P.code next = .notify next' →
      Announces P l

omit [DecidableEq μ] [DecidableEq τ] in
/-- Only a thread that notifies, or gives up a mutex, announces anything. -/
theorem Program.not_announces {P : Program μ τ ℓ σ} {l : ℓ} (notNotify : ∀ next, P.code l ≠ .notify next)
    (notUnlock : ∀ m next, P.code l ≠ .unlock m next) : ¬ P.Announces l := by
  intro announces
  cases announces with
  | now notify => exact notNotify _ notify
  | afterUnlock unlock _ => exact notUnlock _ _ unlock

/-- The instruction at `l` respects the wake-up discipline for the predicate `p`: only `waiter` waits,
    after a test of `p` under the mutex, and whoever makes `p` true does so under the mutex and is then
    about to notify. -/
def Program.WakesAt (P : Program μ τ ℓ σ) (A : Labelling μ τ ℓ) (p : σ → Prop) (m : μ) (waiter : τ)
    (l : ℓ) : Instr μ τ ℓ σ → Prop
  | .act run => ∀ d next d', run d next d' →
      (¬ p d → p d' → m ∈ A.held l ∧ P.Announces next) ∧ (P.IsWait next → ¬ p d')
  | .wait m' next => m' = m ∧ A.owner l = waiter ∧ ¬ P.IsWait next
  | .lock _ next | .unlock _ next | .notify next | .join _ next => ¬ P.IsWait next
  | .halt => True

omit [DecidableEq μ] [DecidableEq τ] in
theorem Program.wakesAt_run {P : Program μ τ ℓ σ} {A : Labelling μ τ ℓ} {p : σ → Prop} {m : μ}
    {waiter : τ} {l : ℓ} {f : σ → ℓ × σ}
    (makes : ∀ d, ¬ p d → p (f d).2 → m ∈ A.held l ∧ P.Announces (f d).1)
    (tested : ∀ d, P.IsWait (f d).1 → ¬ p (f d).2) :
    P.WakesAt A p m waiter l (.run f) := by
  intro d next d' step
  have made := makes d
  have test := tested d
  rw [step] at made test
  exact ⟨made, test⟩

/-- The static wake-up discipline. -/
structure WakeDiscipline (P : Program μ τ ℓ σ) (A : Labelling μ τ ℓ) (p : σ → Prop) (m : μ)
    (waiter : τ) : Prop extends LockDiscipline P A where
  awake : ∀ t, ¬ P.IsWait (P.start t)
  wakes : ∀ l, P.WakesAt A p m waiter l (P.code l)

/-- Nobody sleeps through a notification. -/
structure Alert (P : Program μ τ ℓ σ) (p : σ → Prop) (waiter : τ) (s : State μ τ ℓ σ) : Prop where
  tested : ∀ t l, s.status t = .ready l → P.IsWait l → ¬ p s.data
  sole : ∀ t m next, s.status t = .asleep m next → t = waiter
  returns : ∀ t m next, s.status t = .asleep m next ∨ s.status t = .woken m next → ¬ P.IsWait next
  announced : ∀ t m next, s.status t = .asleep m next → p s.data →
    ∃ u l, u ≠ t ∧ s.status u = .ready l ∧ P.Announces l

namespace WakeDiscipline

variable {P : Program μ τ ℓ σ} {A : Labelling μ τ ℓ} {p : σ → Prop} {m : μ} {waiter : τ}
  {s s' : State μ τ ℓ σ} {t : τ} {l next : ℓ}

omit [DecidableEq μ] [DecidableEq τ] in
theorem wakes_of_code (D : WakeDiscipline P A p m waiter) {i : Instr μ τ ℓ σ} (code : P.code l = i) :
    P.WakesAt A p m waiter l i := by
  rw [← code]
  exact D.wakes l

omit [DecidableEq μ] in
/-- A thread moves while the data stays as it is. Whoever else is asleep keeps its announcer, unless that
    was the moving thread: then the thread still announces, or nobody is asleep. -/
theorem alert_goes {status : Status μ ℓ} {s₁ : State μ τ ℓ σ} (alert : Alert P p waiter s)
    (placed : s₁.status = s.status) (data : s₁.data = s.data)
    (tested : ∀ l, status = .ready l → ¬ P.IsWait l)
    (slept : ∀ m next, status = .asleep m next → t = waiter ∧ ¬ p s.data)
    (returns : ∀ m next, status = .asleep m next ∨ status = .woken m next → ¬ P.IsWait next)
    (still : (∀ l, s.status t = .ready l → P.Announces l →
        ∃ l', status = .ready l' ∧ P.Announces l') ∨
      ∀ u m next, s.status u ≠ .asleep m next) :
    Alert P p waiter (s₁.goes t status) where
  tested := by
    intro u l there wait
    by_cases same : u = t
    · subst same
      exact absurd wait (tested l (by simpa using there))
    · rw [State.status_goes_of_ne _ _ same, placed] at there
      rw [State.data_goes, data]
      exact alert.tested u l there wait
  sole := by
    intro u m' next there
    by_cases same : u = t
    · subst same
      exact (slept m' next (by simpa using there)).1
    · rw [State.status_goes_of_ne _ _ same, placed] at there
      exact alert.sole u m' next there
  returns := by
    intro u m' next there
    by_cases same : u = t
    · subst same
      exact returns m' next (by simpa using there)
    · rw [State.status_goes_of_ne _ _ same, placed] at there
      exact alert.returns u m' next there
  announced := by
    intro u m' next there holds
    rw [State.data_goes, data] at holds
    by_cases same : u = t
    · subst same
      exact absurd holds (slept m' next (by simpa using there)).2
    · rw [State.status_goes_of_ne _ _ same, placed] at there
      obtain ⟨v, l, other, ready, announces⟩ := alert.announced u m' next there holds
      by_cases self : v = t
      · subst self
        rcases still with goesOn | nobody
        · obtain ⟨l', reached, announces'⟩ := goesOn l ready announces
          exact ⟨v, l', other, by simpa using reached, announces'⟩
        · exact absurd there (nobody u m' next)
      · refine ⟨v, l, other, ?_, announces⟩
        rw [State.status_goes_of_ne _ _ self, placed]
        exact ready

omit [DecidableEq μ] in
/-- A thread goes to a label that is no wait. -/
theorem alert_ready {s₁ : State μ τ ℓ σ} (alert : Alert P p waiter s)
    (placed : s₁.status = s.status) (data : s₁.data = s.data) (notWait : ¬ P.IsWait next)
    (still : (∀ l, s.status t = .ready l → P.Announces l → P.Announces next) ∨
      ∀ u m next, s.status u ≠ .asleep m next) :
    Alert P p waiter (s₁.goes t (.ready next)) := by
  apply alert_goes alert placed data
  · simpa using notWait
  · simp
  · exact Status.waiting_ready
  · exact still.imp_left fun goesOn l ready announces => ⟨next, rfl, goesOn l ready announces⟩

omit [DecidableEq μ] in
/-- The thread that makes the predicate true holds the mutex, so nobody stands before a wait, and it is
    about to notify. -/
theorem alert_act (D : WakeDiscipline P A p m waiter) (holding : Holding A s)
    (alert : Alert P p waiter s) {run : σ → ℓ → σ → Prop} {data : σ} (here : s.status t = .ready l)
    (code : P.code l = .act run) (ran : run s.data next data) :
    Alert P p waiter ({ s with data := data }.goes t (.ready next)) := by
  obtain ⟨made, tested⟩ := D.wakes_of_code code _ _ _ ran
  have asleepBefore : ∀ {u m' next'}, ({ s with data := data }.goes t (.ready next)).status u =
      .asleep m' next' ∨ ({ s with data := data }.goes t (.ready next)).status u = .woken m' next' →
      u ≠ t := by
    intro u m' next' there same
    subst same
    simp at there
  refine ⟨?_, ?_, ?_, ?_⟩
  · intro u l' there wait
    by_cases same : u = t
    · subst same
      obtain rfl : next = l' := by simpa using there
      exact tested wait
    · rw [State.status_goes_of_ne _ _ same] at there
      have before : ¬ p s.data := alert.tested u l' there wait
      intro after
      -- Both threads would hold the mutex.
      have inside : m ∈ A.held l := (made before after).1
      rcases wait with ⟨m', next', waits⟩
      obtain ⟨rfl, _, _⟩ := D.wakes_of_code waits
      have alsoInside : m' ∈ A.held l' := List.mem_of_mem_head? (D.obeys_of_code waits).2.2
      have there : s.status u = .ready l' := there
      apply same
      apply holding.exclusive (m := m')
      · simpa [there, Labelling.heldBy] using alsoInside
      · simpa [here, Labelling.heldBy] using inside
  · intro u m' next' there
    have same := asleepBefore (.inl there)
    rw [State.status_goes_of_ne _ _ same] at there
    exact alert.sole u m' next' there
  · intro u m' next' there
    have same := asleepBefore there
    rw [State.status_goes_of_ne _ _ same] at there
    exact alert.returns u m' next' there
  · intro u m' next' there after
    have same := asleepBefore (.inl there)
    rw [State.status_goes_of_ne _ _ same] at there
    by_cases before : p s.data
    · obtain ⟨v, l', other, ready, announces⟩ := alert.announced u m' next' there before
      have elsewhere : v ≠ t := by
        intro same
        subst same
        rw [here] at ready
        cases ready
        exact P.not_announces (by simp [code]) (by simp [code]) announces
      refine ⟨v, l', other, ?_, announces⟩
      rw [State.status_goes_of_ne _ _ elsewhere]
      exact ready
    · exact ⟨t, next, Ne.symm same, by simp, (made before after).2⟩

omit [DecidableEq μ] [DecidableEq τ] in
/-- A thread at a label that announces nothing has nothing to keep announced. -/
theorem absurd_of_not_announces {q : Prop} (here : s.status t = .ready l) (silent : ¬ P.Announces l) :
    ∀ l', s.status t = .ready l' → P.Announces l' → q := by
  intro l' ready announces
  obtain rfl : l = l' := by simpa [here] using ready
  exact absurd announces silent

/-- Every step keeps the threads alert. -/
theorem alert_step (D : WakeDiscipline P A p m waiter) (holding : Holding A s)
    (alert : Alert P p waiter s) (step : Step P s s') : Alert P p waiter s' := by
  cases step with
  | @act t l next run data here code ran => exact D.alert_act holding alert here code ran
  | @lock t l next m' here code free =>
      have silent : ¬ P.Announces l := P.not_announces (by simp [code]) (by simp [code])
      exact alert_ready alert rfl rfl (D.wakes_of_code code) (.inl (absurd_of_not_announces here silent))
  | @unlock t l next m' here code =>
      refine alert_ready alert rfl rfl (D.wakes_of_code code) (.inl ?_)
      intro l' ready announces
      obtain rfl : l = l' := by simpa [here] using ready
      cases announces with
      | now notify => rw [code] at notify; cases notify
      | afterUnlock unlock notify =>
          obtain ⟨rfl, rfl⟩ : m' = _ ∧ next = _ := by simpa [code] using unlock
          exact .now notify
  | @wait t l next m' here code =>
      obtain ⟨_, owner, notWait⟩ := D.wakes_of_code code
      have owned : A.owner l = t := holding.owner_eq here
      have before : ¬ p s.data := alert.tested t l here ⟨m', next, code⟩
      have silent : ¬ P.Announces l := P.not_announces (by simp [code]) (by simp [code])
      refine alert_goes alert rfl rfl (by simp) ?_ (Status.waiting_asleep notWait)
        (.inl (absurd_of_not_announces here silent))
      exact fun _ _ _ => ⟨owned.symm.trans owner, before⟩
  | @wake t next m' here =>
      have notWait : ¬ P.IsWait next := alert.returns t m' next (.inl here)
      exact alert_goes alert rfl rfl (by simp) (by simp) (Status.waiting_woken notWait)
        (.inl (by simp [here]))
  | @retake t next m' here free =>
      exact alert_ready alert rfl rfl (alert.returns t m' next (.inr here)) (.inl (by simp [here]))
  | @notify t u l next next' m' here code there =>
      have woken : Alert P p waiter (s.goes u (.woken m' next')) := by
        have notWait : ¬ P.IsWait next' := alert.returns u m' next' (.inl there)
        exact alert_goes alert rfl rfl (by simp) (by simp) (Status.waiting_woken notWait)
          (.inl (by simp [there]))
      refine alert_ready woken rfl rfl (D.wakes_of_code code) (.inr ?_)
      -- The only thread that sleeps is the one that was just woken.
      intro v m'' next'' asleep
      have sleeper : v = waiter := woken.sole v m'' next'' asleep
      have wokenOne : u = waiter := alert.sole u m' next' there
      obtain rfl : v = u := sleeper.trans wokenOne.symm
      simp at asleep
  | @notifyNobody t l next here code nobody =>
      exact alert_ready alert rfl rfl (D.wakes_of_code code) (.inr nobody)
  | @join t u l l' next here code there halted =>
      have silent : ¬ P.Announces l := P.not_announces (by simp [code]) (by simp [code])
      exact alert_ready alert rfl rfl (D.wakes_of_code code) (.inl (absurd_of_not_announces here silent))

/-- Whenever a thread sleeps without a pending notification although the predicate it waits for is true,
    another thread is about to notify. -/
theorem no_lost_wakeup (D : WakeDiscipline P A p m waiter) (reached : Reachable P s) {m' : μ}
    (asleep : s.status t = .asleep m' next) (holds : p s.data) :
    ∃ u l, u ≠ t ∧ s.status u = .ready l ∧ P.Announces l := by
  have both : Holding A s ∧ Alert P p waiter s := by
    apply reached.invariant (I := fun s => Holding A s ∧ Alert P p waiter s)
    · refine ⟨D.holding .refl, ?_, ?_, ?_, ?_⟩
      · intro t l same wait
        cases same
        exact absurd wait (D.awake t)
      · simp [Program.init]
      · intro t
        exact Status.waiting_ready
      · simp [Program.init]
    · intro s s' both step
      rcases both with ⟨holding, alert⟩
      exact ⟨D.holding_step holding step, D.alert_step holding alert step⟩
  exact both.2.announced t m' next asleep holds

end WakeDiscipline

end Semantics

end Threads
