import AeroxeBee.Android.Engine
import AeroxeBee.Foundations.Protocol

/-!
# The routines of a phone

Messages are sent from three places: by the handler of the commands, by the retry processor and by
the processor of pending tasks. They run side by side over one table, and the receiver writes to it
as well.

* `onReceive_only`: what the receiver does;
* `send_keeps`, `processMqttMessage_keeps`: when the engine and the handler keep to a protocol;
* `row_step`: what a command leaves of a row.
-/

namespace AeroxeBee.Android

open Foundations SMSEngine SMSSendingService SMSDeliveryReceiver

/-- A routine: for a message of the broker, a pass of the retry processor, the processor of pending
tasks, or for a broadcast. -/
inductive Routine where
  | message (payload : MqttPayload)
  | retryPass
  | pendingTasks (fuel : ℕ)
  | broadcast (b : Broadcast)
deriving DecidableEq

namespace Routine

/-- What the routine does. -/
def prog (deviceId : String) : Routine → PhoneProg Unit
  | message payload => MqttService.processMqttMessage deviceId payload
  | retryPass => MqttService.retryPass deviceId
  | pendingTasks fuel => do
    let _ ← processPendingTasks fuel
    return ()
  | broadcast b => onReceive b

/-- The id of the command that the routine carries out. -/
def commandId : Routine → Option String
  | message (.sendSms cmd) => some cmd.id
  | _ => none

/-- The status of the tasks that the routine reads from the table. -/
def reads : Routine → Option Status
  | retryPass => some .failed
  | pendingTasks _ => some .pending
  | _ => none

/-- The routine gives tasks to the engine. -/
def sends : Routine → Bool
  | broadcast _ => false
  | _ => true

end Routine

/-- The task that is handed over to the SMS manager. -/
def handed : Event PhoneCmd → Option SMSTask
  | ⟨.sendTextMessage task _, _⟩ => some task
  | _ => none

/-- The task that is marked as sent. -/
def marked : Event PhoneCmd → Option String
  | ⟨.markSent id, _⟩ => some id
  | _ => none

/-- The number of times that the task with an id was handed over. -/
def timesHanded (id : String) (evs : List (Event PhoneCmd)) : ℕ :=
  evs.countP fun ev => (handed ev).any (·.id = id)

/-- What the receiver does for a broadcast. -/
def Receives (b : Broadcast) : {β : Type} → PhoneCmd β → Prop
  | _, .now | _, .getDeviceId | _, .updateRemoteStatus _ _ _ _ | _, .publish _ _ => True
  | _, .markSent id | _, .markDelivered id => id = b.taskId
  | _, .markFailed id retryCount _ => id = b.taskId ∧ retryCount = 0
  | _, _ => False

theorem onReceive_only (b : Broadcast) : (onReceive b).Only (Receives b) := by
  refine ⟨trivial, fun deviceId => ?_⟩
  change Prog.Only _ (if b.resultCode ≠ RESULT_OK then _ else _)
  split_ifs
  · exact ⟨⟨rfl, rfl⟩, fun _ => ⟨trivial, fun _ => trivial⟩⟩
  · refine ⟨rfl, fun _ => ?_⟩
    change Prog.Only _ (reportDelivery _ _)
    unfold reportDelivery
    split_ifs
    · trivial
    · exact ⟨trivial, fun _ => ⟨trivial, fun _ => trivial⟩⟩
  · exact ⟨rfl, fun _ => trivial⟩

/-! ## Protocols of the handler -/

section Keeps

variable {S : Type} {R : Protocol PhoneCmd S} {s : S}

/-- The engine keeps to a protocol that makes nothing of its checks but the last, if handing the
message over keeps to it. -/
theorem send_keeps {task : SMSTask} {Q : S → Option Status → Prop}
    (hallows : ∀ {β : Type} (e : PhoneCmd β), e.Checks → R.allows s e)
    (hnext : ∀ {β : Type} (e : PhoneCmd β) (b : β), e.Checks → R.next s ⟨e, b⟩ = s)
    (hdivide : R.allows s (.divideMessage task.message))
    (hturned : Q s (some .failed) ∧ Q s none)
    (hlong : ∀ parts, MAX_PARTS < parts →
      Q (R.next s ⟨.divideMessage task.message, parts⟩) (some .failed))
    (hover : ∀ parts, parts ≤ MAX_PARTS → (handOver task parts).Keeps R
      (fun s' result => Q s' (some result)) (R.next s ⟨.divideMessage task.message, parts⟩)) :
    (send task).Keeps R Q s := by
  refine ⟨hallows _ trivial, fun permission _ => ?_⟩
  rw [hnext .hasSmsPermission permission trivial]
  cases permission with
  | false => exact hturned.1
  | true =>
    refine ⟨hallows _ trivial, fun slot _ => ?_⟩
    rw [hnext (.canSend task.simSlot) slot trivial]
    cases slot with
    | false => exact hturned.1
    | true =>
      refine ⟨hallows _ trivial, fun manager _ => ?_⟩
      rw [hnext (.getSmsManager task.simSlot) manager trivial]
      cases manager with
      | false => exact hturned.2
      | true =>
        refine ⟨hdivide, fun parts _ => ?_⟩
        change Prog.Keeps _ _ (if MAX_PARTS < parts then _ else _) _
        split_ifs with hparts
        · exact hlong parts hparts
        · exact (hover parts (not_lt.1 hparts)).bind fun _ _ hs => hs

/-- So does sending and reporting, if the protocol makes nothing of what is done besides sending. -/
theorem sendThenReport_keeps (deviceId : String) {cmd : SMSCommand} (simSlot : ℤ)
    (hallows : ∀ (s' : S) {β : Type} (e : PhoneCmd β), e.Aside → R.allows s' e)
    (hnext : ∀ {β : Type} (e : PhoneCmd β) (b : β), e.Aside → R.next s ⟨e, b⟩ = s)
    (hsend : ∀ now, (send (cmd.task simSlot now)).Keeps R (fun _ _ => True) s) :
    ((do
      let now ← Prog.call .now
      match ← send (cmd.task simSlot now) with
      | none => return ()
      | some result => reportAttempt cmd.id deviceId result.isSuccess simSlot) :
        PhoneProg Unit).Keeps R (fun _ _ => True) s := by
  refine ⟨hallows s _ trivial, fun now _ => ?_⟩
  rw [hnext .now now trivial]
  refine (hsend now).bind fun s' result _ => ?_
  cases result with
  | none => trivial
  | some result =>
    exact Prog.keeps_of_only_forall (reportAttempt_aside _ _ _ _) hallows fun _ _ => trivial

/-- The handler of the messages of the broker keeps to a protocol that makes nothing of what is done
besides sending, if the engine keeps to it. -/
theorem processMqttMessage_keeps {deviceId : String} {payload : MqttPayload}
    (hallows : ∀ (s' : S) {β : Type} (e : PhoneCmd β), e.Aside → R.allows s' e)
    (hnext : ∀ {β : Type} (e : PhoneCmd β) (b : β), e.Aside → R.next s ⟨e, b⟩ = s)
    (hsend : ∀ cmd, payload = .sendSms cmd → ∀ simSlot now,
      (send (cmd.task simSlot now)).Keeps R (fun _ _ => True) s) :
    (MqttService.processMqttMessage deviceId payload).Keeps R (fun _ _ => True) s := by
  have haside {α : Type} {p : PhoneProg α} (hp : p.Only PhoneCmd.Aside) (s' : S) :
      p.Keeps R (fun _ _ => True) s' :=
    Prog.keeps_of_only_forall hp hallows fun _ _ => trivial
  cases payload with
  | sendSms cmd =>
    change Prog.Keeps _ _ (if isBlank cmd.id then _ else _) _
    split_ifs
    · trivial
    · unfold MqttService.sendCommand MqttService.targetSimSlot
      split_ifs
      · exact sendThenReport_keeps deviceId cmd.simSlot hallows hnext (hsend cmd rfl cmd.simSlot)
      · refine ⟨hallows s _ trivial, fun simSlot _ => ?_⟩
        rw [hnext .getSimSlot simSlot trivial]
        exact sendThenReport_keeps deviceId simSlot hallows hnext (hsend cmd rfl simSlot)
  | pong id? =>
    refine haside ?_ s
    change Prog.Only _ (if id? = some deviceId then _ else _)
    split_ifs
    · exact ⟨trivial, fun _ => ⟨trivial, fun _ => trivial⟩⟩
    · trivial
  | other => trivial

end Keeps

/-! ## What is written -/

/-- The status that a command writes to the row of a task. -/
def PhoneCmd.writes (id : String) : {β : Type} → PhoneCmd β → Option Status
  | _, .markSent id' => if id = id' then some .sent else none
  | _, .markDelivered id' => if id = id' then some .delivered else none
  | _, .markFailed id' retryCount _ =>
    if id = id' then some (SMSTaskRepository.failedStatus retryCount) else none
  | _, _ => none

/-- The retry count that a command writes to the row of a task. -/
def PhoneCmd.counts (id : String) : {β : Type} → PhoneCmd β → Option ℕ
  | _, .markFailed id' retryCount _ => if id = id' then some retryCount else none
  | _, _ => none

/-- **What a command leaves of a row.** -/
theorem row_step {β : Type} (e : PhoneCmd β) (w : Phone) (id : String) :
    ∃ f : SMSTask → SMSTask, (phone.step e w).2.tasks.row id = (w.tasks.row id).map f ∧
      ∀ row, (f row).status = (e.writes id).getD row.status ∧
        (f row).retryCount = (e.counts id).getD row.retryCount := by
  rw [step_tasks]
  cases e
  case markSent id' =>
    change ∃ f : SMSTask → SMSTask, (SMSTaskRepository.markSent _ _ _).row id = _ ∧ _
    rw [SMSTable.row_markSent, PhoneCmd.writes]
    split_ifs
    · exact ⟨_, rfl, fun _ => ⟨rfl, rfl⟩⟩
    · exact ⟨fun row => row, Option.map_id'.symm, fun _ => ⟨rfl, rfl⟩⟩
  case markDelivered id' =>
    change ∃ f : SMSTask → SMSTask, (SMSTaskRepository.markDelivered _ _ _).row id = _ ∧ _
    rw [SMSTable.row_markDelivered, PhoneCmd.writes]
    split_ifs
    · exact ⟨_, rfl, fun _ => ⟨rfl, rfl⟩⟩
    · exact ⟨fun row => row, Option.map_id'.symm, fun _ => ⟨rfl, rfl⟩⟩
  case markFailed id' retryCount error =>
    change ∃ f : SMSTask → SMSTask, (SMSTaskRepository.markFailed _ _ _ _).row id = _ ∧ _
    rw [SMSTable.row_markFailed, PhoneCmd.writes, PhoneCmd.counts]
    split_ifs
    · exact ⟨_, rfl, fun _ => ⟨rfl, rfl⟩⟩
    · exact ⟨fun row => row, Option.map_id'.symm, fun _ => ⟨rfl, rfl⟩⟩
  all_goals exact ⟨fun row => row, Option.map_id'.symm, fun _ => ⟨rfl, rfl⟩⟩

/-- **A status changes only where one is written.** -/
theorem statusOf_step {β : Type} (e : PhoneCmd β) (w : Phone) (id : String) :
    statusOf (phone.step e w).2 id = (statusOf w id).map fun status => (e.writes id).getD status := by
  obtain ⟨f, hrow, hf⟩ := row_step e w id
  rw [statusOf, statusOf, hrow, Option.map_map, Option.map_map]
  congr 1
  funext row
  exact (hf row).1

end AeroxeBee.Android
