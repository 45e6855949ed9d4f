/-
Module: Dmon.Lib.Progress
Layer: Lib
Purpose: Progress and termination of a program of threads. A prompt step is one in which nobody wakes up
  without a notification. Where no thread waits for itself, every chain of waits ends at a thread that waits
  for nobody; from that a state in which the sleepers are about to be notified has a prompt step, unless
  every thread has halted. A cost of the places which every instruction lowers adds up to a load of the
  state which every step lowers, so there is no infinite execution.
Imports: Dmon.Lib.Threads, Mathlib.Algebra.BigOperators.Group.Finset.Basic,
  Mathlib.Algebra.Order.BigOperators.Group.Finset, Mathlib.Data.Fintype.EquivFin
Trusted boundary: none
Main exports: Threads.Prompt, Threads.exists_unblocked, Threads.exists_prompt_or_halted,
  Threads.Program.Descends, Threads.load, Threads.Step.load_lt, Threads.exists_prompt_of_unblocked,
  Threads.reaches_of_variant, Threads.acc_of_variant
-/
import Dmon.Lib.Threads
import Mathlib.Algebra.BigOperators.Group.Finset.Basic
import Mathlib.Algebra.Order.BigOperators.Group.Finset
import Mathlib.Data.Fintype.EquivFin

namespace Threads

/-! ### The variant rules -/

section Variant

variable {α : Type*} {R : α → α → Prop} {I G : α → Prop} {a : α}

/-- Where every state short of the goal has a step that keeps the invariant and lowers the variant, the goal
    is reached. -/
theorem reaches_of_variant (variant : α → Nat)
    (next : ∀ a, I a → ¬ G a → ∃ b, R a b ∧ I b ∧ variant b < variant a) (start : I a) :
    ∃ b, Relation.ReflTransGen R a b ∧ I b ∧ G b := by
  induction bound : variant a using Nat.strong_induction_on generalizing a with
  | _ n ih =>
      by_cases goal : G a
      · exact ⟨a, .refl, start, goal⟩
      · obtain ⟨b, step, kept, less⟩ := next a start goal
        obtain ⟨c, steps, done⟩ := ih (variant b) (bound ▸ less) kept rfl
        exact ⟨c, steps.head step, done⟩

/-- Where every step keeps the invariant and lowers the variant, there is no infinite execution. -/
theorem acc_of_variant (variant : α → Nat)
    (lowers : ∀ a b, I a → R a b → I b ∧ variant b < variant a) (start : I a) :
    Acc (fun b a => R a b) a := by
  induction bound : variant a using Nat.strong_induction_on generalizing a with
  | _ n ih =>
      refine ⟨a, fun b step => ?_⟩
      obtain ⟨kept, less⟩ := lowers a b start step
      exact ih (variant b) (bound ▸ less) kept rfl

end Variant

variable {μ τ ℓ σ : Type*}

/-! ### The load of a state -/

/-- With `n` threads, the instruction at `l` lowers the cost of its thread, and raises that of the others by
    less. -/
def Instr.Lowers (cost : σ → Status μ ℓ → Nat) (n : Nat) (d : σ) (l : ℓ) : Instr μ τ ℓ σ → Prop
  | .act run => ∀ next d', run d next d' → ∃ growth,
      (∀ status, cost d' status ≤ cost d status + growth) ∧
        cost d' (.ready next) + n * growth < cost d (.ready l)
  | .lock _ next | .unlock _ next | .notify next | .join _ next =>
      cost d (.ready next) < cost d (.ready l)
  | .wait m next => cost d (.asleep m next) < cost d (.ready l)
  | .halt => True

/-- The next step of a thread lowers its cost. -/
def Program.Descends (P : Program μ τ ℓ σ) (cost : σ → Status μ ℓ → Nat) (n : Nat) (d : σ) :
    Status μ ℓ → Prop
  | .ready l => (P.code l).Lowers cost n d l
  | .asleep m next => cost d (.woken m next) < cost d (.asleep m next)
  | .woken m next => cost d (.ready next) < cost d (.woken m next)

/-- An instruction that the data determine, and that raises no cost of another thread. -/
theorem Instr.lowers_run {cost : σ → Status μ ℓ → Nat} {n : Nat} {d : σ} {l : ℓ} {f : σ → ℓ × σ}
    (light : ∀ status, cost (f d).2 status ≤ cost d status)
    (less : cost (f d).2 (.ready (f d).1) < cost d (.ready l)) :
    (Instr.run f : Instr μ τ ℓ σ).Lowers cost n d l := by
  intro next d' ran
  have result : f d = (next, d') := ran
  rw [result] at light less
  exact ⟨0, light, less⟩

section Load

variable [Fintype τ] {cost : σ → Status μ ℓ → Nat} {s s' : State μ τ ℓ σ} {t : τ} {status : Status μ ℓ}

/-- The costs of all threads together. -/
def load (cost : σ → Status μ ℓ → Nat) (s : State μ τ ℓ σ) : Nat :=
  ∑ t, cost s.data (s.status t)

variable [DecidableEq τ]

/-- One thread moves, and the costs of the others grow by no more than `growth` each. -/
theorem load_lt {growth : Nat} (placed : s'.status = Function.update s.status t status)
    (grown : ∀ status, cost s'.data status ≤ cost s.data status + growth)
    (less : cost s'.data status + Fintype.card τ * growth < cost s.data (s.status t)) :
    load cost s' < load cost s := by
  have others : ∑ u ∈ Finset.univ.erase t, cost s'.data (s'.status u) ≤
      ∑ u ∈ Finset.univ.erase t, cost s.data (s.status u) + Fintype.card τ * growth := by
    calc
      ∑ u ∈ Finset.univ.erase t, cost s'.data (s'.status u)
          ≤ ∑ u ∈ Finset.univ.erase t, (cost s.data (s.status u) + growth) := by
            apply Finset.sum_le_sum
            intro u member
            rw [placed, Function.update_of_ne (Finset.ne_of_mem_erase member)]
            exact grown _
      _ = ∑ u ∈ Finset.univ.erase t, cost s.data (s.status u) + (Fintype.card τ - 1) * growth := by
            rw [Finset.sum_add_distrib, Finset.sum_const, Finset.card_erase_of_mem (Finset.mem_univ t)]
            rfl
      _ ≤ _ := Nat.add_le_add_left (Nat.mul_le_mul_right _ (Nat.sub_le ..)) _
  have self : s'.status t = status := by simp [placed]
  unfold load
  rw [← Finset.add_sum_erase _ _ (Finset.mem_univ t), ← Finset.add_sum_erase _ _ (Finset.mem_univ t), self]
  omega

/-- One thread moves, and the data stay as they are. -/
theorem load_lt_of_data (placed : s'.status = Function.update s.status t status) (data : s'.data = s.data)
    (less : cost s.data status < cost s.data (s.status t)) : load cost s' < load cost s := by
  have grown : ∀ status, cost s'.data status ≤ cost s.data status + 0 := by simp [data]
  exact load_lt placed grown (by simpa [data] using less)

end Load

section Semantics

variable [DecidableEq μ] [DecidableEq τ] {P : Program μ τ ℓ σ} {A : Labelling μ τ ℓ} {s s' : State μ τ ℓ σ}
  {t u : τ} {l next : ℓ}

/-- Where the next step of every thread lowers its cost, every step lowers the load. -/
theorem Step.load_lt [Fintype τ] {cost : σ → Status μ ℓ → Nat} (step : Step P s s')
    (descends : ∀ t, P.Descends cost (Fintype.card τ) s.data (s.status t)) : load cost s' < load cost s := by
  have waiting : ∀ {t status}, s.status t = status → P.Descends cost (Fintype.card τ) s.data status := by
    intro t status here
    subst here
    exact descends t
  have ready : ∀ {t l i}, s.status t = .ready l → P.code l = i →
      i.Lowers cost (Fintype.card τ) s.data l := by
    intro t l i here code
    subst code
    exact waiting here
  cases step with
  | act here code ran =>
      obtain ⟨growth, grown, less⟩ := ready here code _ _ ran
      exact Threads.load_lt rfl grown (by rw [here]; exact less)
  | lock here code _ | unlock here code | wait here code | notifyNobody here code _ | join here code _ _ =>
      exact load_lt_of_data rfl rfl (by rw [here]; exact ready here code)
  | wake here | retake here _ =>
      exact load_lt_of_data rfl rfl (by rw [here]; exact waiting here)
  | @notify t u l next next' m here code there =>
      have woken : load cost (s.goes u (.woken m next')) < load cost s :=
        load_lt_of_data rfl rfl (by rw [there]; exact waiting there)
      have elsewhere : (s.goes u (.woken m next')).status t = .ready l := by
        rw [State.status_goes_of_ne, here]
        intro same
        subst same
        rw [here] at there
        cases there
      refine Nat.lt_trans (load_lt_of_data rfl rfl ?_) woken
      rw [elsewhere]
      exact ready here code

/-! ### Prompt steps -/

/-- A step in which nobody wakes up by itself: who slept and sleeps no more has been notified, by a thread
    that has gone on from its notify. -/
def Prompt (P : Program μ τ ℓ σ) (s s' : State μ τ ℓ σ) : Prop :=
  Step P s s' ∧ ∀ t m next, s.status t = .asleep m next → s'.status t = .asleep m next ∨
    ∃ u l l', s.status u = .ready l ∧ P.code l = .notify l' ∧ s'.status u = .ready l'

/-- A step that moves one thread, which was not asleep. -/
theorem Prompt.of_step {status : Status μ ℓ} (step : Step P s s')
    (placed : s'.status = Function.update s.status t status)
    (awake : ∀ m next, s.status t ≠ .asleep m next) : Prompt P s s' := by
  refine ⟨step, fun u m next there => .inl ?_⟩
  have other : u ≠ t := by
    intro same
    subst same
    exact awake m next there
  rw [placed, Function.update_of_ne other, there]

/-- Every thread that acts can do so. -/
def Enabled (P : Program μ τ ℓ σ) (s : State μ τ ℓ σ) : Prop :=
  ∀ t l run, s.status t = .ready l → P.code l = .act run → ∃ next d, run s.data next d

/-- A thread that has not halted, is not asleep and waits for nobody has a step, which is prompt. If it lowers
    the cost of the thread, and waking up costs nothing, then it lowers the load. -/
theorem exists_prompt_of_unblocked (enabled : Enabled P s) (awake : ∀ m next, s.status t ≠ .asleep m next)
    (runs : ∀ l, s.status t = .ready l → P.code l ≠ .halt) (unblocked : ∀ u, ¬ WaitsFor P s t u) :
    ∃ s', Prompt P s s' ∧ ∀ [Fintype τ] (cost : σ → Status μ ℓ → Nat),
      (∀ d m next, cost d (.woken m next) ≤ cost d (.asleep m next)) →
        P.Descends cost (Fintype.card τ) s.data (s.status t) → load cost s' < load cost s := by
  have unheld : ∀ {m}, Wants P s t m → s.holder m = none := by
    intro m wants
    cases holder : s.holder m with
    | none => rfl
    | some u => exact absurd (.mutex wants holder) (unblocked u)
  cases here : s.status t with
  | asleep m next => exact absurd here (awake m next)
  | woken m next =>
      refine ⟨_, .of_step (.retake here (unheld (.retake here))) rfl awake, fun cost _ less => ?_⟩
      exact load_lt_of_data rfl rfl (by rw [here]; exact less)
  | ready l =>
      have passes : ∀ {i}, P.code l = i → ∀ [Fintype τ] (cost : σ → Status μ ℓ → Nat),
          P.Descends cost (Fintype.card τ) s.data (.ready l) → i.Lowers cost (Fintype.card τ) s.data l := by
        intro i code _ cost lowers
        subst code
        exact lowers
      cases code : P.code l with
      | act run =>
          obtain ⟨next, d, ran⟩ := enabled t l run here code
          refine ⟨_, .of_step (.act here code ran) rfl awake, fun cost _ less => ?_⟩
          obtain ⟨growth, grown, less⟩ := passes code cost less _ _ ran
          exact Threads.load_lt rfl grown (by rw [here]; exact less)
      | lock m next =>
          refine ⟨_, .of_step (.lock here code (unheld (.lock here code))) rfl awake, fun cost _ less => ?_⟩
          exact load_lt_of_data rfl rfl (by rw [here]; exact passes code cost less)
      | unlock m next =>
          refine ⟨_, .of_step (.unlock here code) rfl awake, fun cost _ less => ?_⟩
          exact load_lt_of_data rfl rfl (by rw [here]; exact passes code cost less)
      | wait m next =>
          refine ⟨_, .of_step (.wait here code) rfl awake, fun cost _ less => ?_⟩
          exact load_lt_of_data rfl rfl (by rw [here]; exact passes code cost less)
      | join u next => exact absurd (.join here code) (unblocked u)
      | halt => exact absurd code (runs l here)
      | notify next =>
          by_cases sleeps : ∃ u m next', s.status u = .asleep m next'
          · obtain ⟨u, m, next', there⟩ := sleeps
            have other : t ≠ u := by
              intro same
              subst same
              exact awake m next' there
            have stays : (s.goes u (.woken m next')).status t = .ready l := by
              rw [State.status_goes_of_ne _ _ other, here]
            refine ⟨_, ⟨.notify here code there, ?_⟩, fun cost light less => ?_⟩
            · exact fun v m next _ => .inr ⟨t, l, _, here, code, by simp⟩
            · have woken : load cost (s.goes u (.woken m next')) ≤ load cost s := by
                apply Finset.sum_le_sum
                intro v _
                by_cases same : v = u
                · subst same
                  simpa [there] using light s.data m next'
                · simp [State.status_goes_of_ne _ _ same]
              refine Nat.lt_of_lt_of_le (load_lt_of_data rfl rfl ?_) woken
              rw [stays]
              exact passes code cost less
          · push Not at sleeps
            refine ⟨_, .of_step (.notifyNobody here code sleeps) rfl awake, fun cost _ less => ?_⟩
            exact load_lt_of_data rfl rfl (by rw [here]; exact passes code cost less)

/-! ### Progress -/

omit [DecidableEq μ] [DecidableEq τ] in
/-- A thread that neither locks nor joins waits for nobody. -/
theorem unblocked_of_code (here : s.status t = .ready l) (notLock : ∀ m next, P.code l ≠ .lock m next)
    (notJoin : ∀ u next, P.code l ≠ .join u next) (u : τ) : ¬ WaitsFor P s t u := by
  intro waits
  cases waits with
  | mutex wants _ =>
      cases wants with
      | lock there code =>
          obtain rfl : l = _ := by simpa [here] using there
          exact notLock _ _ code
      | retake there => simp [here] at there
  | join there code =>
      obtain rfl : l = _ := by simpa [here] using there
      exact notJoin _ _ code

omit [DecidableEq μ] [DecidableEq τ] in
/-- Where no thread waits for itself, a chain of waits ends at a thread that waits for nobody. -/
theorem exists_unblocked [Finite τ] (acyclic : ∀ t, ¬ Relation.TransGen (WaitsFor P s) t t) (t : τ) :
    ∃ u, Relation.ReflTransGen (WaitsFor P s) t u ∧ ∀ v, ¬ WaitsFor P s u v := by
  let before : τ → τ → Prop := fun v u => Relation.TransGen (WaitsFor P s) u v
  have transitive : IsTrans τ before := ⟨fun _ _ _ one two => two.trans one⟩
  have irreflexive : Std.Irrefl before := ⟨acyclic⟩
  have wellFounded : WellFounded before := Finite.wellFounded_of_trans_of_irrefl before
  obtain ⟨u, chain, last⟩ := wellFounded.has_min {u | Relation.ReflTransGen (WaitsFor P s) t u} ⟨t, .refl⟩
  exact ⟨u, chain, fun v waits => last v (chain.tail waits) (.single waits)⟩

/-- A state in which no thread waits for itself, halted threads hold no mutex, and whoever sleeps is about to
    be notified has a prompt step, unless every thread has halted. -/
theorem exists_prompt_or_halted [Finite τ] (enabled : Enabled P s)
    (acyclic : ∀ t, ¬ Relation.TransGen (WaitsFor P s) t t)
    (free : ∀ t l m, s.status t = .ready l → P.code l = .halt → s.holder m ≠ some t)
    (alarm : ∀ t m next, s.status t = .asleep m next → ∃ u l, s.status u = .ready l ∧ P.Announces l) :
    (∃ s', Prompt P s s') ∨ ∀ t, ∃ l, s.status t = .ready l ∧ P.code l = .halt := by
  by_cases done : ∀ t, ∃ l, s.status t = .ready l ∧ P.code l = .halt
  · exact .inr done
  left
  push Not at done
  obtain ⟨t, runs⟩ := done
  obtain ⟨u, chain, unblocked⟩ := exists_unblocked acyclic t
  cases there : s.status u with
  | asleep m next =>
      obtain ⟨v, l, ready, announces⟩ := alarm u m next there
      cases announces with
      | now code =>
          obtain ⟨s', prompt, -⟩ := exists_prompt_of_unblocked (t := v) enabled (by simp [ready])
            (by simp [ready, code]) (unblocked_of_code ready (by simp [code]) (by simp [code]))
          exact ⟨s', prompt⟩
      | afterUnlock code _ =>
          obtain ⟨s', prompt, -⟩ := exists_prompt_of_unblocked (t := v) enabled (by simp [ready])
            (by simp [ready, code]) (unblocked_of_code ready (by simp [code]) (by simp [code]))
          exact ⟨s', prompt⟩
  | woken m next =>
      obtain ⟨s', prompt, -⟩ := exists_prompt_of_unblocked enabled (by simp [there]) (by simp [there]) unblocked
      exact ⟨s', prompt⟩
  | ready l =>
      by_cases halted : P.code l = .halt
      · -- Somebody waits for the halted thread; that is a join.
        rcases Relation.ReflTransGen.cases_tail chain with same | ⟨w, -, waits⟩
        · subst same
          exact absurd halted (runs l there)
        · cases waits with
          | mutex _ held => exact absurd held (free u l _ there halted)
          | join here code =>
              exact ⟨_, .of_step (.join here code there halted) rfl (by simp [here])⟩
      · obtain ⟨s', prompt, -⟩ := exists_prompt_of_unblocked enabled (by simp [there])
          (by simpa [there] using halted) unblocked
        exact ⟨s', prompt⟩

end Semantics

end Threads
