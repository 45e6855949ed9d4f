/-
Module: Dmon.Model.Interface
Layer: Model
Purpose: The user-interface side: the signals of class `Animator`, the data of `MainComponent` that the
  posted tasks write, and the tasks themselves. The lambdas that main.cpp posts with `screen.Post` are
  represented by the component method they call and its arguments; `screen.PostEvent` posts an event to
  the same queue.
Imports: Dmon.Model.Session
Trusted boundary: none
Main exports: Animator, MainComponent, Task, MainComponent.runTask
-/
import Dmon.Model.Session

namespace Dmon

/-- The data of class `Animator` that its mutex `m_m` guards. -/
structure Animator where
  signals : List String := []
  stopped : Bool := false
deriving DecidableEq, Repr

namespace Animator

/-- The critical section of `Animator::start`: `push_back` unless the signal is there already. -/
def start (a : Animator) (sig : String) : Animator :=
  if a.signals.all (· != sig) then { a with signals := a.signals ++ [sig] } else a

/-- The critical section of `Animator::stop`: erase every occurrence. -/
def stop (a : Animator) (sig : String) : Animator :=
  { a with signals := a.signals.filter (· != sig) }

/-- The critical section of `Animator::~Animator` and of `Animator::close`. -/
def close (a : Animator) : Animator :=
  { a with stopped := true }

/-- The predicate that the animator thread waits for. -/
def awake (a : Animator) : Bool := !a.signals.isEmpty || a.stopped

@[simp] theorem mem_start {a : Animator} {sig x : String} :
    x ∈ (a.start sig).signals ↔ x ∈ a.signals ∨ x = sig := by
  unfold start
  split
  next absent => simp
  next present =>
    have here : sig ∈ a.signals := by simpa using present
    constructor
    · exact .inl
    · intro either
      rcases either with old | rfl
      · exact old
      · exact here

@[simp] theorem mem_stop {a : Animator} {sig x : String} :
    x ∈ (a.stop sig).signals ↔ x ∈ a.signals ∧ x ≠ sig := by
  simp [stop]

theorem nodup_start {a : Animator} {sig : String} (before : a.signals.Nodup) :
    (a.start sig).signals.Nodup := by
  unfold start
  split
  next absent =>
    have fresh : sig ∉ a.signals := fun present => by simpa using List.all_eq_true.1 absent sig present
    exact List.nodup_append.2 ⟨before, by simp, by
      intro x old y new
      obtain rfl : y = sig := by simpa using new
      exact fun same => fresh (same ▸ old)⟩
  next => exact before

theorem nodup_stop {a : Animator} {sig : String} (before : a.signals.Nodup) :
    (a.stop sig).signals.Nodup :=
  before.filter _

end Animator

/-- The data members of `MainComponent` that the callbacks and the posted tasks write. `levelFilter` holds
    the labels of the checkboxes in `container_level_filter_`. -/
structure MainComponent where
  topics : List Topic := []
  subscribeTopics : List Topic := []
  fetchErrorMessage : String := ""
  subscribeErrorMessage : String := ""
  levelFilter : List String := []
  subBools : List Bool := []
  spinnerIndx : Nat := 0
  subscribtionSpinnerIndx : Nat := 0
deriving DecidableEq, Repr

namespace MainComponent

/-- `MainComponent::onFetchCompleted`; the selector is not used. -/
def onFetchCompleted (c : MainComponent) (errorMessage : String) (topics : List Topic)
    (_selector : String) : MainComponent :=
  { c with topics := topics, fetchErrorMessage := errorMessage }

/-- `MainComponent::onSubscribeCompleted`. -/
def onSubscribeCompleted (c : MainComponent) (errorMessage : String) (topics : List Topic)
    (selector : String) : MainComponent :=
  { c with
    subscribeTopics := c.subscribeTopics ++ topics
    subscribeErrorMessage := errorMessage
    subBools := c.subBools ++ [false]
    levelFilter := if selector.isEmpty then c.levelFilter else c.levelFilter ++ [selector] }

/-- `m_spinner_indx = 0` after an accepted fetch. -/
def resetSpinner (c : MainComponent) : MainComponent :=
  { c with spinnerIndx := 0 }

/-- `m_subscribtion_spinner_indx = 0` after an accepted subscribe. -/
def resetSubscribtionSpinner (c : MainComponent) : MainComponent :=
  { c with subscribtionSpinnerIndx := 0 }

/-- `MainComponent::OnEvent` for the special events. -/
def onEvent (c : MainComponent) (sig : String) : MainComponent :=
  if sig = "fetch" then
    { c with spinnerIndx := c.spinnerIndx + 1 }
  else if sig = "subscribe" then
    { c with subscribtionSpinnerIndx := c.subscribtionSpinnerIndx + 1 }
  else c

end MainComponent

/-- An entry of the screen's task queue: a lambda posted by one of main's callbacks, or an event. -/
inductive Task where
  | fetchCompleted (errorMessage : String) (topics : List Topic) (selector : String)
  | subscribeCompleted (errorMessage : String) (topics : List Topic) (selector : String)
  | event (sig : String)
deriving DecidableEq, Repr

/-- What the UI thread does with a task it took from the queue. -/
def MainComponent.runTask (c : MainComponent) : Task → MainComponent
  | .fetchCompleted errorMessage topics selector => c.onFetchCompleted errorMessage topics selector
  | .subscribeCompleted errorMessage topics selector =>
      c.onSubscribeCompleted errorMessage topics selector
  | .event sig => c.onEvent sig

end Dmon
