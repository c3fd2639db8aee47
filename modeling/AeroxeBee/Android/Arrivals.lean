import AeroxeBee.Android.Routines
import AeroxeBee.Foundations.SharedFlow

/-!
# Arriving messages

The callback of the broker puts the payload of a message into a shared flow, without waiting and
without a look at the result. The service collects the flow, from some time on, and handles one
payload after the other.

* `Inbox.settled_step`: what a step does to what was handled and what waits;
* `handlesAll_iff`: when all payloads are handled, in the order in which they have arrived.
-/

namespace AeroxeBee.Android

open Foundations

/-- The manager of the connection and the service: the flow of payloads, those that have arrived, and
the routines that handle them. -/
structure Inbox where
  messages : SharedFlow MqttPayload 64
  arrived : List MqttPayload
  handlers : List Routine

namespace Inbox

/-- Nothing has arrived, and the service does not collect yet. -/
def start : Inbox := ⟨.idle, [], []⟩

variable (s : Inbox)

/-- A message of the broker arrives. -/
def messageArrived (payload : MqttPayload) : Inbox :=
  { s with messages := (s.messages.tryEmit payload).2, arrived := s.arrived ++ [payload] }

/-- The service starts to collect, unless it does. -/
def onCreate : Inbox :=
  if s.messages.queues = [] then { s with messages := s.messages.subscribe } else s

/-- The service takes a payload and handles it. -/
def collect : Inbox :=
  match s.messages.take 0 with
  | some (payload, messages) => { s with messages := messages, handlers := s.handlers ++ [.message payload] }
  | none => s

/-- The service collects, and there is room for another payload. -/
def Ready : Prop := s.messages.queues ≠ [] ∧ s.messages.HasRoom

instance : Decidable s.Ready := inferInstanceAs (Decidable (_ ∧ _))

end Inbox

/-- The steps of the manager and the service. -/
inductive InboxStep where
  | messageArrived (payload : MqttPayload)
  | onCreate
  | collect
deriving DecidableEq

namespace InboxStep

/-- What a step does. -/
def apply (s : Inbox) : InboxStep → Inbox
  | messageArrived payload => s.messageArrived payload
  | onCreate => s.onCreate
  | collect => s.collect

/-- A payload that arrives finds the service ready. -/
def Finds (s : Inbox) : InboxStep → Prop
  | messageArrived _ => s.Ready
  | _ => True

instance (s : Inbox) (step : InboxStep) : Decidable (step.Finds s) := by
  cases step
  case messageArrived payload => exact inferInstanceAs (Decidable s.Ready)
  all_goals exact isTrue trivial

end InboxStep

namespace Inbox

/-- The manager and the service after some steps. -/
def run : Inbox → List InboxStep → Inbox := List.foldl InboxStep.apply

/-- When the service has taken all that waits for it. -/
def drain (s : Inbox) : Inbox := s.run (List.replicate (s.messages.waiting 0).length .collect)

/-- Every payload that arrives finds the service ready. -/
def Received : Inbox → List InboxStep → Prop
  | _, [] => True
  | s, step :: steps => step.Finds s ∧ Received (step.apply s) steps

/-- **All payloads are handled**, each of them once and in the order in which they have arrived, when
the service has taken all that waits for it. -/
def HandlesAll (s : Inbox) : Prop := s.drain.handlers = s.arrived.map .message

/-- The routines for all payloads that have not been dropped. -/
def kept (s : Inbox) : List Routine := s.handlers ++ (s.messages.waiting 0).map .message

/-! ## Steps -/

variable {s : Inbox}

theorem collect_kept : s.collect.kept = s.kept := by
  unfold collect kept
  split
  · rename_i payload messages htake
    simp [SharedFlow.take_eq_some htake]
  · rfl

theorem onCreate_kept : s.onCreate.kept = s.kept := by
  unfold onCreate kept
  split_ifs
  · rw [SharedFlow.waiting_subscribe]
  · rfl

theorem ready_iff : s.Ready ↔ s.messages.HasRoom ∧ 0 < s.messages.queues.length := by
  rw [Ready, List.length_pos_iff, and_comm]

theorem messageArrived_kept (payload : MqttPayload) : (s.messageArrived payload).kept =
    if s.Ready then s.kept ++ [.message payload] else s.kept := by
  unfold messageArrived kept
  rw [SharedFlow.waiting_tryEmit]
  simp only [← ready_iff]
  split_ifs <;> simp

/-- What is left of the payloads that have arrived is not more than they are. -/
def Bounded (s : Inbox) : Prop := s.kept.length ≤ s.arrived.length

/-- **What a step leaves of what has arrived.** Nothing is missing afterwards if nothing was missing
before, and a payload that has arrived has found the service ready. -/
theorem settled_step (hs : s.Bounded) (step : InboxStep) :
    (step.apply s).Bounded ∧ ((step.apply s).kept = (step.apply s).arrived.map .message ↔
      s.kept = s.arrived.map .message ∧ step.Finds s) := by
  cases step with
  | messageArrived payload =>
    change (s.messageArrived payload).kept.length ≤ (s.arrived ++ [payload]).length ∧
      ((s.messageArrived payload).kept = (s.arrived ++ [payload]).map .message ↔
        s.kept = s.arrived.map .message ∧ s.Ready)
    rw [messageArrived_kept, List.map_append]
    split_ifs with hready
    · simpa [hready, Bounded] using hs
    · constructor
      · rw [List.length_append]
        exact Nat.le_add_right_of_le hs
      · refine iff_of_false (fun hsame => ?_) fun h => hready h.2
        have hlength := congrArg List.length hsame
        rw [List.length_append, List.length_map, List.length_map, List.length_singleton] at hlength
        have hle : s.kept.length ≤ s.arrived.length := hs
        omega
  | onCreate =>
    have harrived : s.onCreate.arrived = s.arrived := by
      unfold onCreate
      split_ifs <;> rfl
    change s.onCreate.kept.length ≤ s.onCreate.arrived.length ∧
      (s.onCreate.kept = s.onCreate.arrived.map .message ↔ s.kept = s.arrived.map .message ∧ True)
    rw [onCreate_kept, harrived, and_true]
    exact ⟨hs, Iff.rfl⟩
  | collect =>
    have harrived : s.collect.arrived = s.arrived := by
      unfold collect
      split <;> rfl
    change s.collect.kept.length ≤ s.collect.arrived.length ∧
      (s.collect.kept = s.collect.arrived.map .message ↔ s.kept = s.arrived.map .message ∧ True)
    rw [collect_kept, harrived, and_true]
    exact ⟨hs, Iff.rfl⟩

/-- What a run leaves of what has arrived. -/
theorem run_kept (hs : s.Bounded) (steps : List InboxStep) :
    (s.run steps).kept = (s.run steps).arrived.map .message ↔
      s.kept = s.arrived.map .message ∧ s.Received steps := by
  induction steps generalizing s with
  | nil => exact (and_iff_left trivial).symm
  | cons step steps ih =>
    obtain ⟨hbounded, hstep⟩ := settled_step hs step
    have hrest := ih hbounded
    rw [hstep] at hrest
    exact hrest.trans and_assoc

/-- When the service takes a payload, one less waits for it. -/
theorem collect_waiting : (s.collect.messages.waiting 0) = (s.messages.waiting 0).tail := by
  unfold collect
  split
  · rename_i payload messages htake
    rw [SharedFlow.take_eq_some htake]
    rfl
  · rename_i hnone
    rw [SharedFlow.take_eq_none hnone]
    rfl

/-- When the service has taken all that waits for it, what was kept is handled. -/
theorem drain_handlers (s : Inbox) : s.drain.handlers = s.kept := by
  have hrun (n : ℕ) (s : Inbox) (hn : (s.messages.waiting 0).length = n) :
      (s.run (List.replicate n .collect)).handlers = s.kept := by
    induction n generalizing s with
    | zero =>
      rw [kept, List.length_eq_zero_iff.1 hn, List.map_nil, List.append_nil]
      rfl
    | succ n ih =>
      rw [← collect_kept]
      refine ih s.collect ?_
      rw [collect_waiting, List.length_tail, hn]
      rfl
  exact hrun _ s rfl

end Inbox

open Inbox

/-- **When all payloads are handled**, in the order in which they have arrived. -/
theorem handlesAll_iff (steps : List InboxStep) :
    (start.run steps).HandlesAll ↔ start.Received steps := by
  have hrun := run_kept (s := start) (Nat.le_refl 0) steps
  rw [HandlesAll, drain_handlers, hrun]
  exact and_iff_right rfl

/-- A command that arrives before the service collects is not handled. -/
theorem early_command_dropped :
    ¬ (start.run [.messageArrived (.sendSms helloCommand), .onCreate, .collect]).HandlesAll := by
  unfold HandlesAll
  decide

end AeroxeBee.Android
