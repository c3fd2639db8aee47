import AeroxeBee.Android.Engine
import AeroxeBee.Foundations.Ranking

/-!
# Commands that could not be carried out

A command to send a message is given to the engine as a task that is in no table. If the message
cannot be sent, then at most an existing row with its id is marked as failed, and the retry processor
is given only what is in the table.

* `kept_markFailed_iff`: when a failure leaves a row for the retry processor;
* `keptIfFailed_iff`: when a command that failed is kept.
-/

namespace AeroxeBee.Android

open Foundations MqttService SMSEngine

/-! ## Kept commands -/

/-- A row is about the message of a command. -/
def IsTaskOf (cmd : SMSCommand) (row : SMSTask) : Prop :=
  row.id = cmd.id ∧ row.recipient = cmd.recipient ∧ row.message = cmd.message

/-- **A command is kept**: the table has a row for it that the retry processor is given, or that has
been tried as often as it may be. -/
def Kept (cmd : SMSCommand) (table : SMSTable) : Prop :=
  ∃ row ∈ table.rows, IsTaskOf cmd row ∧
    (row ∈ table.getRetryableTasks ∨ row.maxRetries ≤ row.retryCount)

/-- The table has a row for a command which, once it counts as failed, is given to the retry
processor: it has retries left, and less than five others that have come before it. -/
def KeptOnFailure (cmd : SMSCommand) (table : SMSTable) : Prop :=
  ∃ pre row post, table.rows = pre ++ row :: post ∧ IsTaskOf cmd row ∧
    (row.maxRetries ≤ 1 ∨
      pre.countP (fun task => task.Retryable ∧ task.older row = true) +
        post.countP (fun task => task.Retryable ∧ ¬ row.older task = true) < 5)

/-- The slot for a command. -/
def slotOf (cmd : SMSCommand) (w : Phone) : ℤ :=
  if 0 ≤ cmd.simSlot then cmd.simSlot else (w.later 0).simSlot

/-- The phone when the task of a command is given to the engine. -/
def atSend (cmd : SMSCommand) (w : Phone) : Phone :=
  if 0 ≤ cmd.simSlot then (phone.step .now w).2 else (phone.step .now (phone.step .getSimSlot w).2).2

/-- The task of a command. -/
def taskOf (cmd : SMSCommand) (w : Phone) : SMSTask := cmd.task (slotOf cmd w) (atSend cmd w).clock

/-- **A command that fails is kept.** -/
def KeptIfFailed (deviceId : String) (cmd : SMSCommand) (w : Phone) : Prop :=
  ((send (taskOf cmd w)).exec phone (atSend cmd w)).val ≠ some .sent →
    Kept cmd ((processMqttMessage deviceId (.sendSms cmd)).exec phone w).state.tasks

/-- A command is in the table already if a check fails, and it is there with retries left if the SMS
manager throws an exception. -/
def Queued (cmd : SMSCommand) (w : Phone) : Prop :=
  if Clear (atSend cmd w) (taskOf cmd w) then
    match ((atSend cmd w).later 4).handed with
    | .ok _ => True
    | .error _ => KeptOnFailure cmd w.tasks
  else Kept cmd w.tasks

/-! ## A failure -/

section Failure

variable {cmd : SMSCommand} {table : SMSTable} {row : SMSTask} {pre post : List SMSTask}

instance : IsTrans SMSTask fun a b => a.older b = true where
  trans a b c hab hbc := by
    simp only [SMSTask.older, decide_eq_true_eq] at hab hbc ⊢
    exact hab.trans hbc

instance : Std.Total fun a b : SMSTask => a.older b = true where
  total a b := by
    simp only [SMSTask.older, decide_eq_true_eq]
    exact le_total _ _

/-- A task that has failed once. -/
def failedOnce (row : SMSTask) (error : Option String) : SMSTask :=
  { row with status := .failed, retryCount := 1, errorMessage := error }

/-- The rows after the failure of a task. -/
theorem rows_markFailed (hrows : table.rows = pre ++ row :: post) (hid : row.id = cmd.id)
    (error : Option String) :
    (SMSTaskRepository.markFailed table cmd.id 1 error).rows =
      pre ++ failedOnce row error :: post := by
  have hunique := table.unique
  rw [hrows, List.map_append, List.map_cons, List.nodup_middle, List.nodup_cons] at hunique
  have hothers : ∀ other ∈ pre ++ post, other.id ≠ cmd.id := by
    intro other hother hsame
    refine hunique.1 ?_
    rw [← List.map_append]
    exact List.mem_map.2 ⟨other, hother, hsame.trans hid.symm⟩
  have hkept {l : List SMSTask} (hl : ∀ other ∈ l, other ∈ pre ++ post)
      (f : SMSTask → SMSTask) : l.map (fun other => if other.id = cmd.id then f other else other) = l := by
    conv_rhs => rw [← List.map_id l]
    exact List.map_congr_left fun other hother => if_neg (hothers other (hl other hother))
  change table.rows.map _ = _
  rw [hrows, List.map_append, List.map_cons, if_pos hid,
    hkept fun other hother => List.mem_append_left _ hother,
    hkept fun other hother => List.mem_append_right _ hother]
  rfl

/-- When the retry processor is given a task that has failed once. -/
theorem failedOnce_mem_iff (hrows : table.rows = pre ++ row :: post) (hid : row.id = cmd.id)
    (error : Option String) (hretries : 1 < row.maxRetries) :
    failedOnce row error ∈ (SMSTaskRepository.markFailed table cmd.id 1 error).getRetryableTasks ↔
      pre.countP (fun task => task.Retryable ∧ task.older row = true) +
        post.countP (fun task => task.Retryable ∧ ¬ row.older task = true) < 5 := by
  have hunique := (SMSTaskRepository.markFailed table cmd.id 1 error).unique
  rw [rows_markFailed hrows hid, List.map_append, List.map_cons, List.nodup_middle,
    List.nodup_cons] at hunique
  have hother : ∀ other ∈ pre ++ post, other ≠ failedOnce row error := by
    rintro other hother rfl
    refine hunique.1 ?_
    rw [← List.map_append]
    exact List.mem_map_of_mem hother
  have hretryable : (failedOnce row error).Retryable := ⟨rfl, hretries⟩
  have hfilter : ((SMSTaskRepository.markFailed table cmd.id 1 error).rows.filter
      fun task => task.Retryable) = pre.filter (fun task => task.Retryable) ++
        failedOnce row error :: post.filter fun task => task.Retryable := by
    rw [rows_markFailed hrows hid, List.filter_append, List.filter_cons_of_pos (by simpa using hretryable)]
  rw [SMSTable.getRetryableTasks, hfilter, mem_take_insertionSort_iff]
  · have hcount {l : List SMSTask} (p q : SMSTask → Prop) [DecidablePred p] [DecidablePred q] :
        (l.filter p).countP q = l.countP fun task => p task ∧ q task := by
      rw [List.countP_filter]
      refine List.countP_congr fun task _ => ?_
      simp [and_comm]
    rw [hcount, hcount]
    exact Iff.rfl
  · intro hmem
    exact hother _ (List.mem_append_left _ (List.mem_filter.1 hmem).1) rfl
  · intro hmem
    exact hother _ (List.mem_append_right _ (List.mem_filter.1 hmem).1) rfl

/-- **When a failure leaves a row for the retry processor.** -/
theorem kept_markFailed_iff (error : Option String) :
    Kept cmd (SMSTaskRepository.markFailed table cmd.id 1 error) ↔ KeptOnFailure cmd table := by
  constructor
  · rintro ⟨row, hmem, hcmd, hkept⟩
    -- the row comes from one of the table before the failure
    have hfound := SMSTable.row_of_mem hmem
    rw [hcmd.1, SMSTable.row_markFailed, if_pos rfl] at hfound
    obtain ⟨old, hold, rfl⟩ := Option.map_eq_some_iff.1 hfound
    obtain ⟨pre, post, hrows⟩ := List.mem_iff_append.1 (SMSTable.mem_of_row hold)
    have hid := SMSTable.id_of_row hold
    refine ⟨pre, old, post, hrows, ⟨hid, hcmd.2.1, hcmd.2.2⟩, ?_⟩
    by_cases hretries : 1 < old.maxRetries
    · refine .inr ((failedOnce_mem_iff hrows hid error hretries).1 ?_)
      exact hkept.resolve_right (not_le.2 hretries)
    · exact .inl (not_lt.1 hretries)
  · rintro ⟨pre, row, post, hrows, hcmd, hkept⟩
    refine ⟨failedOnce row error, ?_, ⟨hcmd.1, hcmd.2.1, hcmd.2.2⟩, ?_⟩
    · rw [rows_markFailed hrows hcmd.1]
      exact List.mem_append_right _ List.mem_cons_self
    · by_cases hretries : 1 < row.maxRetries
      · refine .inl ((failedOnce_mem_iff hrows hcmd.1 error hretries).2 ?_)
        exact hkept.resolve_left (not_le.2 hretries)
      · exact .inr (not_lt.1 hretries)

end Failure

/-! ## When a command is kept -/

section Command

variable {deviceId : String} {cmd : SMSCommand} {w : Phone}

/-- Reporting what became of a command leaves the table as it is. -/
theorem reported_tasks (deviceId : String) (cmd : SMSCommand) (w : Phone)
    (o : Outcome PhoneCmd Phone (Option Status)) :
    ((match o.val with
      | none => (pure () : PhoneProg Unit)
      | some result => reportAttempt cmd.id deviceId result.isSuccess (slotOf cmd w)).exec phone
        o.state).state.tasks = o.state.tasks := by
  cases o.val with
  | none => rfl
  | some result => exact exec_tasks_of_aside _ (reportAttempt_aside _ _ _ _)

/-- Carrying out a command leaves the table as the engine leaves it. -/
theorem sendCommand_tasks (deviceId : String) (cmd : SMSCommand) (w : Phone) :
    ((sendCommand deviceId cmd).exec phone w).state.tasks =
      ((send (taskOf cmd w)).exec phone (atSend cmd w)).state.tasks := by
  rw [← reported_tasks deviceId cmd w]
  unfold sendCommand targetSimSlot taskOf slotOf atSend
  split_ifs with hslot
  · rw [Prog.ret_bind, Prog.call_bind, Prog.exec_act, Prog.exec_bind]
    rfl
  · rw [Prog.call_bind, Prog.exec_act, Prog.call_bind, Prog.exec_act, Prog.exec_bind]
    rfl

theorem atSend_tasks (cmd : SMSCommand) (w : Phone) : (atSend cmd w).tasks = w.tasks := by
  unfold atSend
  split_ifs <;> rfl

/-- **When a command that failed is kept.** -/
theorem keptIfFailed_iff (hid : isBlank cmd.id = false) :
    KeptIfFailed deviceId cmd w ↔ Queued cmd w := by
  have htasks : ((processMqttMessage deviceId (.sendSms cmd)).exec phone w).state.tasks =
      ((send (taskOf cmd w)).exec phone (atSend cmd w)).state.tasks := by
    rw [← sendCommand_tasks deviceId, processMqttMessage, if_neg (by simp [hid])]
  rw [KeptIfFailed, htasks, Queued]
  rcases send_spec (taskOf cmd w) (atSend cmd w) with ⟨hclear, now, hspec⟩ | ⟨hclear, hval, hsame⟩
  · rw [if_pos hclear]
    cases hhanded : ((atSend cmd w).later 4).handed with
    | ok _ =>
      rw [hhanded] at hspec
      exact iff_of_true (fun hfailed => absurd hspec.1 hfailed) trivial
    | error message =>
      rw [hhanded] at hspec
      rw [hspec.1, hspec.2, atSend_tasks]
      have hfailed : (some Status.failed : Option Status) ≠ some .sent := by simp
      exact (forall_prop_of_true hfailed).trans (kept_markFailed_iff message)
  · rw [if_neg hclear, hsame, atSend_tasks]
    have hfailed : ((send (taskOf cmd w)).exec phone (atSend cmd w)).val ≠ some .sent := by
      rcases hval with hval | hval <;> simp [hval]
    exact forall_prop_of_true hfailed

/-- The SMS manager throws an exception when the message is handed over. -/
def refusing (w : Phone) : Phone :=
  { w with
    env := List.replicate 5 Tick.quiet ++ [{ Tick.quiet with handed := .error (some "no service") }] }

/-- The command is kept if its task happens to be in the table. -/
theorem keptIfFailed_inTable :
    KeptIfFailed "device-1" helloCommand (refusing (onePhone pendingTask)) := by
  refine (keptIfFailed_iff (by decide)).2 ?_
  rw [Queued, if_pos (by decide)]
  exact ⟨[], pendingTask, [], rfl, ⟨rfl, rfl, rfl⟩, .inr (by decide)⟩

/-- Nothing is kept of a command whose task is in no table. -/
theorem command_not_kept : ¬ KeptIfFailed "device-1" helloCommand (refusing noTasks) := by
  intro h
  obtain ⟨row, hrow, -⟩ := h (by decide)
  revert hrow
  have hempty : ((processMqttMessage "device-1" (.sendSms helloCommand)).exec phone
    (refusing noTasks)).state.tasks.rows = [] := by decide
  rw [hempty]
  exact List.not_mem_nil

end Command

end AeroxeBee.Android
