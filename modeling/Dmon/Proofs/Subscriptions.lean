/-
Module: Dmon.Proofs.Subscriptions
Layer: Proofs
Purpose: The list of subscriptions. A completed subscription gets a checkbox with the selector that the
  session held at that moment, if it held one; updates and errors get none. The checkboxes on the screen
  followed by those on their way are those of all completions so far, in their order, and each has a flag of
  its own, since every subscription result that is shown adds one.
Imports: Dmon.Lib.Refinement, Dmon.Proofs.Transitions
Trusted boundary: none
Main exports: World.checkbox?, World.subscribeResult?, Transition.checkboxes, subscriptions_listed
-/
import Dmon.Lib.Refinement
import Dmon.Proofs.Transitions

namespace Dmon

open TransitionSystem (Free)

/-- The label of the checkbox that a selector gets, if it gets one. -/
def checkboxFor (selector : String) : Option String :=
  if selector.isEmpty then none else some selector

/-- The checkbox that a task adds. -/
def Task.checkbox? : Task → Option String
  | .subscribeCompleted _ _ selector => checkboxFor selector
  | _ => none

/-- The checkbox that the running handler brings about. -/
def NetPc.checkbox? : NetPc → Option String
  | .stop (.subscribeCompleted selector) | .captureSubscribe selector => checkboxFor selector
  | .post task => task.checkbox?
  | _ => none

/-- The checkbox that a completed subscription is to get. -/
def World.checkbox? (w : World) : Event → Option String
  | .deliver .onSubscribe _ => checkboxFor w.session.selector
  | _ => none

/-- The checkboxes on the screen, and after them those on their way. -/
def World.checkboxes (w : World) : List String :=
  w.component.levelFilter ++ w.queue.filterMap Task.checkbox? ++ w.net.checkbox?.toList

@[simp] theorem checkboxFor_empty : checkboxFor "" = none := rfl

theorem Callback.checkbox?_afterStop (callback : Callback) :
    callback.afterStop.checkbox? = (NetPc.stop callback).checkbox? := by
  cases callback <;> rfl

/-- A task puts its checkbox at the end of the list. -/
theorem levelFilter_runTask (c : MainComponent) (task : Task) :
    (c.runTask task).levelFilter = c.levelFilter ++ task.checkbox?.toList := by
  cases task with
  | fetchCompleted => simp [MainComponent.runTask, MainComponent.onFetchCompleted, Task.checkbox?]
  | subscribeCompleted message topics selector =>
      simp only [MainComponent.runTask, MainComponent.onSubscribeCompleted, Task.checkbox?, checkboxFor]
      split <;> simp
  | event sig =>
      simp only [MainComponent.runTask, MainComponent.onEvent, Task.checkbox?]
      split
      · simp
      · split <;> simp

/-- A step moves the checkboxes on, and adds the one of the subscription that it completes. -/
theorem Transition.checkboxes {w w' : World} {e : Event} (moved : Transition w e w') :
    w'.checkboxes = w.checkboxes ++ (w.checkbox? e).toList := by
  cases moved with
  | ran task rest queue =>
      cases added : task.checkbox? <;>
        simp [World.checkboxes, World.checkbox?, queue, levelFilter_runTask, added]
  | delivered h id s next quiescent entry =>
      cases entry with
      | subscribed => simp [World.checkboxes, World.checkbox?, quiescent, NetPc.checkbox?]
      | notified h ts s note =>
          cases h with
          | onNotifySubscription | onNotifyUnsubscription =>
              simp [World.checkboxes, World.checkbox?, quiescent, NetPc.checkbox?]
          | _ => cases note
      | quiet h s silent =>
          cases h with
          | onSubscribe => cases silent
          | _ => simp [World.checkboxes, World.checkbox?, quiescent, NetPc.checkbox?]
      | _ => simp [World.checkboxes, World.checkbox?, quiescent, NetPc.checkbox?]
  | stopped callback here =>
      simp [World.checkboxes, World.checkbox?, here, callback.checkbox?_afterStop]
  | posted task here =>
      cases added : task.checkbox? <;>
        simp [World.checkboxes, World.checkbox?, NetPc.checkbox?, here, added]
  | fetchAccepted | subscribeAccepted => exact (List.append_nil _).symm
  | _ => simp [World.checkboxes, World.checkbox?, NetPc.checkbox?, Task.checkbox?, *]

/-- A task that shows the result of a subscription. -/
def Task.isSubscribeResult : Task → Bool
  | .subscribeCompleted .. => true
  | _ => false

/-- The subscription result that a step shows, if it shows one. -/
def World.subscribeResult? (w : World) : Event → Option Task
  | .runTask => w.queue.head?.filter Task.isSubscribeResult
  | _ => none

/-- A task adds a flag if it shows the result of a subscription, and a checkbox only with a flag. -/
theorem subBools_runTask (c : MainComponent) (task : Task) :
    (c.runTask task).subBools.length = c.subBools.length + (if task.isSubscribeResult then 1 else 0) ∧
      task.checkbox?.toList.length ≤ if task.isSubscribeResult then 1 else 0 := by
  cases task with
  | fetchCompleted => exact ⟨rfl, Nat.le_refl _⟩
  | subscribeCompleted message topics selector =>
      refine ⟨by simp [MainComponent.runTask, MainComponent.onSubscribeCompleted, Task.isSubscribeResult], ?_⟩
      simp only [Task.checkbox?, Task.isSubscribeResult, checkboxFor]
      split <;> simp
  | event sig =>
      refine ⟨?_, Nat.le_refl _⟩
      simp only [MainComponent.runTask, MainComponent.onEvent, Task.isSubscribeResult]
      split
      · rfl
      · split <;> rfl

/-- A step adds a flag for the subscription result that it shows, and no more checkboxes than flags. -/
theorem Transition.flags {w w' : World} {e : Event} (moved : Transition w e w') :
    w'.component.subBools.length =
        w.component.subBools.length + (w.subscribeResult? e).toList.length ∧
      w'.component.levelFilter.length ≤
        w.component.levelFilter.length + (w.subscribeResult? e).toList.length := by
  cases moved with
  | ran task rest queue =>
      obtain ⟨flag, box⟩ := subBools_runTask w.component task
      have shown : ((w.subscribeResult? .runTask).toList).length = if task.isSubscribeResult then 1 else 0 := by
        cases result : task.isSubscribeResult <;> simp [World.subscribeResult?, queue, Option.filter, result]
      refine ⟨by rw [flag, shown], ?_⟩
      rw [levelFilter_runTask, List.length_append, shown]
      exact Nat.add_le_add_left box _
  | _ => exact ⟨rfl, Nat.le_refl _⟩

/-- The checkboxes are those of the completed subscriptions. In every run, whatever the threads do besides, the
    checkboxes on the screen, those in the queue and the one in the hands of the network thread are together
    the ones of all completions so far, in their order; there is one flag for every subscription result that
    was shown, and so one for every checkbox. -/
theorem subscriptions_listed {es : List Event} {w : World} (run : program.Run Free es w) :
    w.component.levelFilter ++ w.queue.filterMap Task.checkbox? ++ w.net.checkbox?.toList =
        program.shown World.checkbox? es ∧
      w.component.subBools.length = (program.shown World.subscribeResult? es).length ∧
      w.component.levelFilter.length ≤ w.component.subBools.length := by
  induction run with
  | nil => exact ⟨rfl, rfl, Nat.le_refl _⟩
  | @snoc es w w' e before _ step ih =>
      obtain ⟨listed, flags, enough⟩ := ih
      have moved := Transition.of_step step
      obtain ⟨more, box⟩ := moved.flags
      have all : w'.checkboxes = w.checkboxes ++ (w.checkbox? e).toList := moved.checkboxes
      refine ⟨?_, ?_, by omega⟩
      · rw [before.shown_concat, ← listed]
        exact all
      · rw [before.shown_concat, List.length_append, more, flags]

/-- Two subscriptions: the checkbox of the first is on the screen, that of the second on its way. -/
def subscribeTwice : List Event :=
  [.subscribe "a", .deliver .onSubscribe 0, .advance, .advance, .advance, .advance, .runTask,
    .subscribe "b", .deliver .onSubscribe 1, .advance]

theorem subscribeTwice_listed :
    ∃ w, program.Run Free subscribeTwice w ∧
      w.component.levelFilter ++ w.queue.filterMap Task.checkbox? ++ w.net.checkbox?.toList =
        program.shown World.checkbox? subscribeTwice ∧
      w.component.subBools.length = (program.shown World.subscribeResult? subscribeTwice).length ∧
      w.component.levelFilter.length ≤ w.component.subBools.length := by
  obtain ⟨w, run, -⟩ : ∃ w, program.Run Free subscribeTwice w ∧
      decide (w.component.levelFilter = ["a"]) = true :=
    TransitionSystem.Run.exists_of_exec (by decide)
  exact ⟨w, run, subscriptions_listed run⟩

end Dmon
