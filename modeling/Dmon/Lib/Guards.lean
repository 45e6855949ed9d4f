/-
Module: Dmon.Lib.Guards
Layer: Lib
Purpose: Data races of a program of threads. A part of the shared data is given by how it is replaced. An
  instruction ignores the part when it neither reads nor writes it: with another content there it runs all
  the same and leaves that content alone. A part that is touched only inside one mutex, or by one thread, is
  never touched by two threads that stand at their instructions at the same time.
Imports: Dmon.Lib.Threads
Trusted boundary: none
Main exports: Threads.Program.Ignores, Threads.Guard, Threads.Program.GuardedBy,
  Threads.LockDiscipline.race_free
-/
import Dmon.Lib.Threads

namespace Threads

variable {μ τ ℓ σ α : Type*}

/-- The instruction at `l` neither reads nor writes the part of the data that `put` replaces. -/
def Program.Ignores (P : Program μ τ ℓ σ) (put : α → σ → σ) (l : ℓ) : Prop :=
  ∀ run, P.code l = .act run → ∀ a d next d', run d next d' → run (put a d) next (put a d')

theorem Program.ignores_run {P : Program μ τ ℓ σ} {put : α → σ → σ} {l : ℓ} {f : σ → ℓ × σ}
    (code : P.code l = .run f) (same : ∀ a d, f (put a d) = ((f d).1, put a (f d).2)) : P.Ignores put l := by
  intro run acts a d next d' ran
  rw [code] at acts
  obtain rfl := Instr.act.inj acts
  have result : f d = (next, d') := ran
  simpa [result] using same a d

/-- What protects a part of the data. -/
inductive Guard (μ τ : Type*) where
  | mutex (m : μ)
  /-- The part belongs to a thread. -/
  | thread (t : τ)
deriving DecidableEq, Repr

/-- The guard is in force at a label. -/
def Labelling.InForce (A : Labelling μ τ ℓ) (l : ℓ) : Guard μ τ → Prop
  | .mutex m => m ∈ A.held l
  | .thread t => A.owner l = t

/-- The part is touched only where its guard is in force. -/
def Program.GuardedBy (P : Program μ τ ℓ σ) (A : Labelling μ τ ℓ) (put : α → σ → σ) (g : Guard μ τ) : Prop :=
  ∀ l, A.InForce l g ∨ P.Ignores put l

section Semantics

variable [DecidableEq μ] [DecidableEq τ] {P : Program μ τ ℓ σ} {A : Labelling μ τ ℓ} {put : α → σ → σ}
  {g : Guard μ τ} {s : State μ τ ℓ σ} {t u : τ} {l l' : ℓ}

omit [DecidableEq μ] [DecidableEq τ] in
/-- A guard is in force for one thread at a time. -/
theorem Holding.guard_exclusive (holding : Holding A s) (here : s.status t = .ready l)
    (there : s.status u = .ready l') (one : A.InForce l g) (two : A.InForce l' g) : t = u := by
  cases g with
  | mutex m =>
      apply holding.exclusive (m := m)
      · rw [here]
        exact one
      · rw [there]
        exact two
  | thread v =>
      have first : A.owner l = t := holding.owner_eq here
      have second : A.owner l' = u := holding.owner_eq there
      exact first.symm.trans (one.trans (two.symm.trans second))

/-- Of two threads that stand at their instructions at the same time, one ignores the part. -/
theorem LockDiscipline.race_free (D : LockDiscipline P A) (guarded : P.GuardedBy A put g)
    (reached : Reachable P s) (here : s.status t = .ready l) (there : s.status u = .ready l') (other : t ≠ u) :
    P.Ignores put l ∨ P.Ignores put l' := by
  rcases guarded l with one | ignores
  · rcases guarded l' with two | ignores
    · exact absurd ((D.holding reached).guard_exclusive here there one two) other
    · exact .inr ignores
  · exact .inl ignores

end Semantics

end Threads
