import AeroxeBee.Android.Tasks
import AeroxeBee.Foundations.Prog
import Mathlib.Data.Rat.Defs

/-!
# The phone

What the routines of the client application share (the table of tasks and the rate limiter), what
they ask of the phone, and the routines: the handler of the commands, the retry processor, the
processor of pending tasks, and the receiver of the results of sent messages. The log of events and
the performance traces are never read and are left out.

* `SMSEngine.send`: the engine, through which all messages are sent;
* `step_tasks`: what a command makes of the table;
* `exec_tasks`: a routine that does not write to the table leaves it as it is.
-/

namespace AeroxeBee.Android

open Foundations

/-! ## The rate limiter -/

/-- What was sent through a slot in the current minute and hour. -/
structure SlotState where
  sentThisMinute : ℕ
  minuteStart : ℤ
  sentThisHour : ℕ
  hourStart : ℤ
deriving DecidableEq

/-- The slots that were used; times are in milliseconds. -/
abbrev RateLimiter := ℤ → Option SlotState

namespace RateLimiter

variable (limiter : RateLimiter) (simSlot now : ℤ)

/-- A slot that was not used yet. -/
def slotState : SlotState := (limiter simSlot).getD ⟨0, now, 0, now⟩

/-- The slot in the minute and the hour that have begun. -/
def current : SlotState :=
  let state := limiter.slotState simSlot now
  let state :=
    if 60000 < now - state.minuteStart then { state with sentThisMinute := 0, minuteStart := now }
    else state
  if 3600000 < now - state.hourStart then { state with sentThisHour := 0, hourStart := now }
  else state

/-- Whether another message may be sent through a slot: ten in a minute, a hundred in an hour. -/
def canSend : Bool × RateLimiter :=
  let state := limiter.current simSlot now
  (state.sentThisMinute < 10 && state.sentThisHour < 100, Function.update limiter simSlot (some state))

/-- Count a message. -/
def recordSend : RateLimiter :=
  let state := limiter.slotState simSlot now
  Function.update limiter simSlot
    (some { state with
      sentThisMinute := state.sentThisMinute + 1
      sentThisHour := state.sentThisHour + 1 })

end RateLimiter

/-! ## Commands -/

/-- A report to the server on a message. -/
structure StatusUpdateRequest where
  messageId : String
  deviceId : String
  status : String
  deliveryStatus : String
  confidenceScore : ℚ
  error : Option String
  simSlot : ℤ
  timestamp : ℤ
deriving DecidableEq

/-- What the phone publishes. -/
inductive Published where
  | status (report : StatusUpdateRequest)
  | ack (deviceId : String) (timestamp : ℤ)
deriving DecidableEq

/-- What the routines do to the phone; an exception of the SMS manager has a text or none. -/
inductive PhoneCmd : Type → Type
  | now : PhoneCmd ℤ
  | getDeviceId : PhoneCmd (Option String)
  | getSimSlot : PhoneCmd ℤ
  | hasSmsPermission : PhoneCmd Bool
  | canSend (simSlot : ℤ) : PhoneCmd Bool
  | getSmsManager (simSlot : ℤ) : PhoneCmd Bool
  | divideMessage (message : String) : PhoneCmd ℕ
  | sendTextMessage (task : SMSTask) (parts : ℕ) : PhoneCmd (Except (Option String) Unit)
  | recordSend (simSlot : ℤ) : PhoneCmd Unit
  | markSent (id : String) : PhoneCmd Unit
  | markDelivered (id : String) : PhoneCmd Unit
  | markFailed (id : String) (retryCount : ℕ) (error : Option String) : PhoneCmd Unit
  | getNextPending : PhoneCmd (Option SMSTask)
  | getRetryableTasks : PhoneCmd (List SMSTask)
  | updateRemoteStatus (messageId deviceId status : String) (error : Option String) : PhoneCmd Unit
  | isConnected : PhoneCmd Bool
  | publish (topic : String) (payload : Published) : PhoneCmd Bool

/-- A routine of the application. -/
abbrev PhoneProg (α : Type) := Prog PhoneCmd α

/-- What the surroundings of the phone contribute to a command. -/
structure Tick where
  elapsed : ℕ
  permission : Bool
  manager : Bool
  parts : ℕ
  handed : Except (Option String) Unit
  connected : Bool
  published : Bool
  deviceId : Option String
  simSlot : ℤ

/-- A moment at which everything goes well. -/
def Tick.quiet : Tick := ⟨0, true, true, 1, .ok (), true, true, some "device-1", 0⟩

/-- The phone, with what its surroundings will contribute. -/
structure Phone where
  tasks : SMSTable
  limiter : RateLimiter
  clock : ℤ
  env : List Tick

namespace Phone

variable (w : Phone)

/-- What the surroundings contribute to the next command. -/
def next : Tick := w.env.headD .quiet

/-- What the surroundings contribute to the command after `n` others. -/
def later (n : ℕ) : Tick := (w.env.drop n).headD .quiet

/-- The phone when the next command begins. -/
def tick : Phone := { w with clock := w.clock + w.next.elapsed, env := w.env.tail }

end Phone

/-- What a command does. -/
def serve (t : Tick) (w : Phone) : {β : Type} → PhoneCmd β → β × Phone
  | _, .now => (w.clock, w)
  | _, .getDeviceId => (t.deviceId, w)
  | _, .getSimSlot => (t.simSlot, w)
  | _, .hasSmsPermission => (t.permission, w)
  | _, .canSend simSlot =>
    let r := w.limiter.canSend simSlot w.clock
    (r.1, { w with limiter := r.2 })
  | _, .getSmsManager _ => (t.manager, w)
  | _, .divideMessage _ => (t.parts, w)
  | _, .sendTextMessage _ _ => (t.handed, w)
  | _, .recordSend simSlot => ((), { w with limiter := w.limiter.recordSend simSlot w.clock })
  | _, .markSent id => ((), { w with tasks := SMSTaskRepository.markSent w.tasks id w.clock })
  | _, .markDelivered id =>
    ((), { w with tasks := SMSTaskRepository.markDelivered w.tasks id w.clock })
  | _, .markFailed id retryCount error =>
    ((), { w with tasks := SMSTaskRepository.markFailed w.tasks id retryCount error })
  | _, .getNextPending => (w.tasks.getNextQueued, w)
  | _, .getRetryableTasks => (w.tasks.getRetryableTasks, w)
  | _, .updateRemoteStatus _ _ _ _ => ((), w)
  | _, .isConnected => (t.connected, w)
  | _, .publish _ _ => (t.published, w)

/-- The meaning of the commands. -/
def phone : Sem PhoneCmd Phone where
  step e w := serve w.next w.tick e

/-! ## The engine -/

namespace SMSEngine

/-- A message has at most five parts. -/
def MAX_PARTS : ℕ := 5

/-- Hand a message over to the SMS manager, and write down what has become of it. -/
def handOver (task : SMSTask) (parts : ℕ) : PhoneProg Status := do
  match ← Prog.call (.sendTextMessage task parts) with
  | .ok _ =>
    let _ ← Prog.call (.recordSend task.simSlot)
    let _ ← Prog.call (.markSent task.id)
    return .sent
  | .error message =>
    let _ ← Prog.call (.markFailed task.id (task.retryCount + 1) message)
    return .failed

/-- Send a message; there is no status if the SMS manager of the slot cannot be had, which throws an
exception. -/
def send (task : SMSTask) : PhoneProg (Option Status) := do
  match ← Prog.call .hasSmsPermission with
  | false => return some .failed
  | true =>
    match ← Prog.call (.canSend task.simSlot) with
    | false => return some .failed
    | true =>
      match ← Prog.call (.getSmsManager task.simSlot) with
      | false => return none
      | true =>
        let parts ← Prog.call (.divideMessage task.message)
        if MAX_PARTS < parts then return some .failed
        else some <$> handOver task parts

end SMSEngine

/-! ## The routines -/

/-- A character is white space. -/
def isWhitespace (c : Char) : Bool :=
  let n := c.toNat
  (9 ≤ n && n ≤ 13) || (28 ≤ n && n ≤ 32) || n = 0xa0 || n = 0x1680 || (0x2000 ≤ n && n ≤ 0x200a) ||
    n = 0x2028 || n = 0x2029 || n = 0x202f || n = 0x205f || n = 0x3000

/-- A text has no other characters than white space. -/
def isBlank (s : String) : Bool := s.toList.all isWhitespace

/-- A status says that the message was sent. -/
def Status.isSuccess (status : Status) : Bool := status = .sent || status = .delivered

/-- The topic of a device for its reports. -/
def statusTopic (deviceId : String) : String := "devices/" ++ deviceId ++ "/status"

/-- The report on an attempt to send a message. -/
def attemptReport (messageId deviceId : String) (isSuccess : Bool) (simSlot timestamp : ℤ) :
    StatusUpdateRequest where
  messageId := messageId
  deviceId := deviceId
  status := if isSuccess then "SENT" else "FAILED"
  deliveryStatus := if isSuccess then "SENT" else "FAILED"
  confidenceScore := if isSuccess then 1 else 0
  error := if isSuccess then none else some "sms_send_failed"
  simSlot := simSlot
  timestamp := timestamp

/-- Publish a report on an attempt. -/
def reportAttempt (messageId deviceId : String) (isSuccess : Bool) (simSlot : ℤ) :
    PhoneProg Unit := do
  let now ← Prog.call .now
  let _ ← Prog.call
    (.publish (statusTopic deviceId) (.status (attemptReport messageId deviceId isSuccess simSlot now)))
  return ()

/-- The command to send a message. -/
structure SMSCommand where
  id : String
  accountId : String
  recipient : String
  message : String
  priority : String
  simSlot : ℤ
deriving DecidableEq, Repr

/-- The task of a command. -/
def SMSCommand.task (cmd : SMSCommand) (simSlot now : ℤ) : SMSTask where
  id := cmd.id
  accountId := cmd.accountId
  recipient := cmd.recipient
  message := cmd.message
  priority := (Priority.valueOf cmd.priority).getD .normal
  status := .pending
  simSlot := simSlot
  retryCount := 0
  maxRetries := 3
  createdAt := now
  sentAt := none
  deliveredAt := none
  errorMessage := none

/-- The payload of a message of the broker: a command, the reply to a ping, or anything else. -/
inductive MqttPayload where
  | sendSms (cmd : SMSCommand)
  | pong (deviceId : Option String)
  | other
deriving DecidableEq

namespace MqttService

variable (deviceId : String)

/-- The slot of a command, or the one that is set on the phone. -/
def targetSimSlot (cmd : SMSCommand) : PhoneProg ℤ :=
  if 0 ≤ cmd.simSlot then .ret cmd.simSlot else Prog.call .getSimSlot

/-- Send the message of a command and report on it. -/
def sendCommand (cmd : SMSCommand) : PhoneProg Unit := do
  let simSlot ← targetSimSlot cmd
  let now ← Prog.call .now
  match ← SMSEngine.send (cmd.task simSlot now) with
  | none => return ()
  | some result => reportAttempt cmd.id deviceId result.isSuccess simSlot

/-- Handle a message of the broker. -/
def processMqttMessage : MqttPayload → PhoneProg Unit
  | .sendSms cmd => if isBlank cmd.id then .ret () else sendCommand deviceId cmd
  | .pong id? =>
    if id? = some deviceId then do
      let now ← Prog.call .now
      let _ ← Prog.call (.publish ("devices/" ++ deviceId ++ "/ack") (.ack deviceId now))
      return ()
    else .ret ()
  | .other => .ret ()

/-- Report on a task that was sent at last. -/
def reportRetry (task : SMSTask) (result : Status) : PhoneProg Unit :=
  if result.isSuccess then do
    match ← Prog.call .isConnected with
    | false => return ()
    | true =>
      if isBlank deviceId then return () else reportAttempt task.id deviceId true task.simSlot
  else .ret ()

/-- Send some tasks again, until the SMS manager of one of them cannot be had. -/
def retryAll : List SMSTask → PhoneProg Unit
  | [] => .ret ()
  | task :: tasks => do
    match ← SMSEngine.send task with
    | none => return ()
    | some result =>
      let _ ← reportRetry deviceId task result
      retryAll tasks

/-- A pass of the retry processor. -/
def retryPass : PhoneProg Unit := do
  let failedTasks ← Prog.call .getRetryableTasks
  retryAll deviceId failedTasks

end MqttService

/-- How a loop has ended, if it has. -/
inductive LoopEnd where
  | finished
  | threw
  | running
deriving DecidableEq

namespace SMSSendingService

/-- Report on a pending task, if the phone and the task have ids. -/
def reportPending (deviceId : String) (task : SMSTask) (result : Status) : PhoneProg Unit :=
  if !isBlank deviceId && !isBlank task.id then reportAttempt task.id deviceId result.isSuccess 0
  else .ret ()

/-- An iteration of the loop, which sends the pending task that comes first. -/
def iteration (deviceId : String) : PhoneProg (Option LoopEnd) := do
  match ← Prog.call .getNextPending with
  | none => return some .finished
  | some task =>
    match ← SMSEngine.send task with
    | none => return some .threw
    | some result =>
      let _ ← reportPending deviceId task result
      return none

/-- The loop over the pending tasks, for some number of iterations. -/
def pendingLoop (deviceId : String) : ℕ → PhoneProg LoopEnd
  | 0 => .ret .running
  | fuel + 1 => do
    match ← iteration deviceId with
    | some ended => return ended
    | none => pendingLoop deviceId fuel

/-- Send the pending tasks. -/
def processPendingTasks (fuel : ℕ) : PhoneProg LoopEnd := do
  let deviceId ← Prog.call .getDeviceId
  pendingLoop (deviceId.getD "") fuel

end SMSSendingService

/-! ## The receiver -/

/-- The result of a part of a message, from the SMS manager or from the carrier. -/
structure Broadcast where
  taskId : String
  resultCode : ℤ
  action : String
deriving DecidableEq

namespace SMSDeliveryReceiver

/-- The result code of a part that went well. -/
def RESULT_OK : ℤ := -1

/-- The text for a result code. -/
def errorMsg (resultCode : ℤ) : String :=
  if resultCode = 1 then "Generic failure"
  else if resultCode = 4 then "No service"
  else if resultCode = 3 then "Null PDU"
  else if resultCode = 2 then "Radio off"
  else "Unknown error"

/-- The action of the results of the carrier. -/
def ACTION_DELIVERED : String := "com.aeroxebee.client.SMS_DELIVERED"

/-- The action of the results of the SMS manager. -/
def ACTION_SENT : String := "com.aeroxebee.client.SMS_SENT"

/-- The report on a delivered message. -/
def deliveryReport (taskId deviceId : String) (timestamp : ℤ) : StatusUpdateRequest where
  messageId := taskId
  deviceId := deviceId
  status := "DELIVERED"
  deliveryStatus := "DELIVERED"
  confidenceScore := 1
  error := none
  simSlot := 0
  timestamp := timestamp

/-- Publish the report on a delivered message. -/
def reportDelivery (deviceId taskId : String) : PhoneProg Unit :=
  if isBlank deviceId then .ret ()
  else do
    let now ← Prog.call .now
    let _ ← Prog.call
      (.publish (statusTopic deviceId) (.status (deliveryReport taskId deviceId now)))
    return ()

/-- Write down the result of a part. -/
def onReceive (b : Broadcast) : PhoneProg Unit := do
  let deviceId ← Prog.call .getDeviceId
  if b.resultCode ≠ RESULT_OK then
    let _ ← Prog.call (.markFailed b.taskId 0 (some (errorMsg b.resultCode)))
    let _ ← Prog.call (.updateRemoteStatus b.taskId "" "FAILED" (some (errorMsg b.resultCode)))
    return ()
  else if b.action = ACTION_DELIVERED then
    let _ ← Prog.call (.markDelivered b.taskId)
    reportDelivery (deviceId.getD "") b.taskId
  else
    let _ ← Prog.call (.markSent b.taskId)
    return ()

end SMSDeliveryReceiver

/-! ## Steps -/

section Step

variable {β : Type} (w : Phone)

/-- The table after a command at some time. -/
def PhoneCmd.tasks (now : ℤ) (table : SMSTable) : {β : Type} → PhoneCmd β → SMSTable
  | _, .markSent id => SMSTaskRepository.markSent table id now
  | _, .markDelivered id => SMSTaskRepository.markDelivered table id now
  | _, .markFailed id retryCount error => SMSTaskRepository.markFailed table id retryCount error
  | _, _ => table

/-- **What a command makes of the table.** -/
theorem step_tasks (e : PhoneCmd β) :
    (phone.step e w).2.tasks = e.tasks (w.clock + w.next.elapsed) w.tasks := by
  cases e <;> rfl

/-- A command does not write to the table. -/
def PhoneCmd.Spares : {β : Type} → PhoneCmd β → Prop
  | _, .markSent _ | _, .markDelivered _ | _, .markFailed _ _ _ => False
  | _, _ => True

theorem step_tasks_of_spares {e : PhoneCmd β} (he : e.Spares) : (phone.step e w).2.tasks = w.tasks := by
  rw [step_tasks]
  cases e with
  | markSent id => exact he.elim
  | markDelivered id => exact he.elim
  | markFailed id retryCount error => exact he.elim
  | _ => rfl

/-- A routine that does not write to the table leaves it as it is. -/
theorem exec_tasks {α : Type} {p : PhoneProg α} (hp : p.Only PhoneCmd.Spares) :
    (p.exec phone w).state.tasks = w.tasks :=
  hp.exec_inv (I := fun w' : Phone => w'.tasks = w.tasks)
    (fun _ w' he hw' => (step_tasks_of_spares w' he).trans hw') rfl

/-- The checks of the engine that come before the message is divided. -/
def PhoneCmd.Checks : {β : Type} → PhoneCmd β → Prop
  | _, .hasSmsPermission | _, .canSend _ | _, .getSmsManager _ => True
  | _, _ => False

/-- What is done besides sending: a report, and what is asked before one. -/
def PhoneCmd.Aside : {β : Type} → PhoneCmd β → Prop
  | _, .now | _, .getSimSlot | _, .isConnected | _, .publish _ _ => True
  | _, _ => False

theorem PhoneCmd.Aside.spares {e : PhoneCmd β} (he : e.Aside) : e.Spares := by
  cases e with
  | markSent id => exact he.elim
  | markDelivered id => exact he.elim
  | markFailed id retryCount error => exact he.elim
  | _ => trivial

theorem reportAttempt_aside (messageId deviceId : String) (isSuccess : Bool) (simSlot : ℤ) :
    (reportAttempt messageId deviceId isSuccess simSlot).Only PhoneCmd.Aside :=
  ⟨trivial, fun _ => ⟨trivial, fun _ => trivial⟩⟩

theorem reportRetry_aside (deviceId : String) (task : SMSTask) (result : Status) :
    (MqttService.reportRetry deviceId task result).Only PhoneCmd.Aside := by
  unfold MqttService.reportRetry
  cases result.isSuccess with
  | false => trivial
  | true =>
    refine ⟨trivial, fun connected => ?_⟩
    cases connected with
    | false => trivial
    | true =>
      change Prog.Only _ (if isBlank deviceId then _ else _)
      split_ifs
      · trivial
      · exact reportAttempt_aside _ _ _ _

theorem reportPending_aside (deviceId : String) (task : SMSTask) (result : Status) :
    (SMSSendingService.reportPending deviceId task result).Only PhoneCmd.Aside := by
  unfold SMSSendingService.reportPending
  split_ifs
  · exact reportAttempt_aside _ _ _ _
  · trivial

theorem reportDelivery_aside (deviceId taskId : String) :
    (SMSDeliveryReceiver.reportDelivery deviceId taskId).Only PhoneCmd.Aside := by
  unfold SMSDeliveryReceiver.reportDelivery
  split_ifs
  · trivial
  · exact ⟨trivial, fun _ => ⟨trivial, fun _ => trivial⟩⟩

/-- A report leaves the table as it is. -/
theorem exec_tasks_of_aside {α : Type} {p : PhoneProg α} (hp : p.Only PhoneCmd.Aside) :
    (p.exec phone w).state.tasks = w.tasks :=
  exec_tasks w (hp.mono fun _ he => he.spares)

@[simp] theorem step_env (e : PhoneCmd β) : (phone.step e w).2.env = w.env.tail := by
  cases e <;> rfl

/-- After a command the ticks to come are one nearer. -/
theorem step_later (e : PhoneCmd β) (n : ℕ) : (phone.step e w).2.later n = w.later (n + 1) := by
  rw [Phone.later, Phone.later, step_env, List.drop_tail]

theorem next_eq_later : w.next = w.later 0 := rfl

@[simp] theorem step_clock (e : PhoneCmd β) :
    (phone.step e w).2.clock = w.clock + (w.later 0).elapsed := by
  cases e <;> rfl

end Step

/-- The status of a task in the table. -/
def statusOf (w : Phone) (taskId : String) : Option Status := (w.tasks.row taskId).map (·.status)

theorem statusOf_eq_some_iff {w : Phone} {taskId : String} {status : Status} :
    statusOf w taskId = some status ↔ ∃ row, w.tasks.row taskId = some row ∧ row.status = status := by
  rw [statusOf, Option.map_eq_some_iff]

/-! ## A phone and a command -/

/-- A task that is still to be sent. -/
def pendingTask : SMSTask :=
  ⟨"message-1", "account-1", "+15550001", "hello", .normal, .pending, 0, 0, 3, 0, none, none, none⟩

/-- A phone with one task. -/
def onePhone (task : SMSTask) : Phone where
  tasks := ⟨[task], by simp⟩
  limiter _ := none
  clock := 0
  env := []

/-- A phone without tasks. -/
def noTasks : Phone := { onePhone pendingTask with tasks := ⟨[], by simp⟩ }

/-- A command that the server has sent. -/
def helloCommand : SMSCommand := ⟨"message-1", "account-1", "+15550001", "hello", "NORMAL", 0⟩

end AeroxeBee.Android
