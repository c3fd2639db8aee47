import Mathlib.Data.List.Sort

/-!
# The tasks of a phone

The client application keeps the messages that it has to send in a table. The statements of the
table are those of `SMSTaskDao`, and `SMSTaskRepository` writes the statuses with them.

* `SMSTable`: the table, in which no two rows have one id;
* `SMSTable.row_update`: what a statement makes of the row of a task;
* `SMSTable.mem_getRetryableTasks`: which rows the retry processor is given.
-/

namespace AeroxeBee.Android

/-! ## Tasks -/

/-- How urgent a task is. -/
inductive Priority where
  | high
  | normal
  | low
deriving DecidableEq, Repr

namespace Priority

/-- The priority with a name. -/
def valueOf : String → Option Priority
  | "HIGH" => some high
  | "NORMAL" => some normal
  | "LOW" => some low
  | _ => none

/-- The place of a priority in the queue. -/
def rank : Priority → ℕ
  | high => 0
  | normal => 1
  | low => 2

end Priority

/-- What has become of a task. -/
inductive Status where
  | pending
  | sending
  | sent
  | delivered
  | failed
  | expired
  | deadLetter
deriving DecidableEq, Repr

/-- A message to be sent, as the application and a row of the table have it. -/
structure SMSTask where
  id : String
  accountId : String
  recipient : String
  message : String
  priority : Priority
  status : Status
  simSlot : ℤ
  retryCount : ℕ
  maxRetries : ℕ
  createdAt : ℤ
  sentAt : Option ℤ
  deliveredAt : Option ℤ
  errorMessage : Option String
deriving DecidableEq, Repr

namespace SMSTask

/-- The retry processor may be given the task. -/
def Retryable (task : SMSTask) : Prop := task.status = .failed ∧ task.retryCount < task.maxRetries

instance (task : SMSTask) : Decidable task.Retryable := inferInstanceAs (Decidable (_ ∧ _))

/-- A task comes before another one in the queue. -/
def before (a b : SMSTask) : Bool :=
  a.priority.rank < b.priority.rank ||
    (a.priority.rank = b.priority.rank && a.createdAt ≤ b.createdAt)

/-- A task is not younger than another one. -/
def older (a b : SMSTask) : Bool := a.createdAt ≤ b.createdAt

end SMSTask

/-! ## The table -/

/-- The table `sms_tasks`, with the id as primary key. -/
structure SMSTable where
  rows : List SMSTask
  unique : (rows.map (·.id)).Nodup

namespace SMSTable

variable (table : SMSTable)

/-- The row of a task. -/
def row (id : String) : Option SMSTask := table.rows.find? (·.id = id)

/-- Change the row of a task, but not its id. -/
def update (id : String) (f : SMSTask → SMSTask) (hf : ∀ task, (f task).id = task.id) : SMSTable where
  rows := table.rows.map fun task => if task.id = id then f task else task
  unique := by
    have hids : (fun task : SMSTask => (if task.id = id then f task else task).id) = (·.id) := by
      funext task
      split_ifs
      · exact hf task
      · rfl
    rw [List.map_map]
    exact (congrArg (fun g => (table.rows.map g).Nodup) hids).mpr table.unique

/-- `UPDATE sms_tasks SET status = :status, sentAt = :sentAt WHERE id = :id`. -/
def markSent (id : String) (status : Status) (sentAt : ℤ) : SMSTable :=
  table.update id (fun task => { task with status := status, sentAt := some sentAt }) fun _ => rfl

/-- `UPDATE sms_tasks SET status = :status, deliveredAt = :deliveredAt WHERE id = :id`. -/
def markDelivered (id : String) (status : Status) (deliveredAt : ℤ) : SMSTable :=
  table.update id (fun task => { task with status := status, deliveredAt := some deliveredAt })
    fun _ => rfl

/-- `UPDATE sms_tasks SET status = :status, retryCount = :retryCount, errorMessage = :errorMessage
WHERE id = :id`. -/
def markFailed (id : String) (status : Status) (retryCount : ℕ) (errorMessage : Option String) :
    SMSTable :=
  table.update id
    (fun task =>
      { task with status := status, retryCount := retryCount, errorMessage := errorMessage })
    fun _ => rfl

/-- The pending task that comes first, by priority and then by age. -/
def getNextQueued : Option SMSTask :=
  ((table.rows.filter (·.status = .pending)).insertionSort fun a b => a.before b).head?

/-- The five oldest tasks that failed and have retries left. -/
def getRetryableTasks : List SMSTask :=
  ((table.rows.filter fun task => task.Retryable).insertionSort fun a b => a.older b).take 5

end SMSTable

/-- The repository over the table. -/
abbrev SMSTaskRepository := SMSTable

namespace SMSTaskRepository

variable (repository : SMSTaskRepository)

/-- The task was sent. -/
def markSent (id : String) (now : ℤ) : SMSTaskRepository := SMSTable.markSent repository id .sent now

/-- The task was delivered. -/
def markDelivered (id : String) (now : ℤ) : SMSTaskRepository :=
  SMSTable.markDelivered repository id .delivered now

/-- The status of a task that has failed some number of times. -/
def failedStatus (retryCount : ℕ) : Status := if 3 ≤ retryCount then .deadLetter else .failed

/-- The task failed, and is given up for good after three failures. -/
def markFailed (id : String) (retryCount : ℕ) (error : Option String) : SMSTaskRepository :=
  SMSTable.markFailed repository id (failedStatus retryCount) retryCount error

end SMSTaskRepository

/-! ## Rows -/

namespace SMSTable

variable {table : SMSTable} {id : String} {task : SMSTask}

theorem id_of_row (h : table.row id = some task) : task.id = id := by
  have hfound := List.find?_some h
  exact of_decide_eq_true hfound

theorem mem_of_row (h : table.row id = some task) : task ∈ table.rows :=
  List.mem_of_find?_eq_some h

/-- A row of the table is the row of its task. -/
theorem row_of_mem (h : task ∈ table.rows) : table.row task.id = some task := by
  cases hrow : table.row task.id with
  | none => exact absurd (decide_eq_true rfl) (List.find?_eq_none.1 hrow task h)
  | some other =>
    have hid : other.id = task.id := id_of_row hrow
    rw [List.inj_on_of_nodup_map table.unique (mem_of_row hrow) h hid]

/-- **What a statement makes of the row of a task.** -/
theorem row_update (id' : String) (f : SMSTask → SMSTask) (hf : ∀ task, (f task).id = task.id) :
    (table.update id' f hf).row id = if id = id' then (table.row id).map f else table.row id := by
  have hids (task : SMSTask) : (if task.id = id' then f task else task).id = task.id := by
    split_ifs
    · exact hf task
    · rfl
  have hfind : (table.update id' f hf).row id =
      (table.row id).map fun task => if task.id = id' then f task else task := by
    rw [row, update, List.find?_map]
    simp only [Function.comp_def, hids]
    rfl
  rw [hfind]
  cases hrow : table.row id with
  | none => simp
  | some task =>
    have hid := id_of_row hrow
    by_cases h : id = id' <;> simp [hid, h]

theorem row_markSent (id' : String) (now : ℤ) :
    (SMSTaskRepository.markSent table id' now).row id =
      if id = id' then
        (table.row id).map fun task => { task with status := .sent, sentAt := some now }
      else table.row id := by
  rw [SMSTaskRepository.markSent, SMSTable.markSent, row_update]

theorem row_markDelivered (id' : String) (now : ℤ) :
    (SMSTaskRepository.markDelivered table id' now).row id =
      if id = id' then
        (table.row id).map fun task => { task with status := .delivered, deliveredAt := some now }
      else table.row id := by
  rw [SMSTaskRepository.markDelivered, SMSTable.markDelivered, row_update]

theorem row_markFailed (id' : String) (retryCount : ℕ) (error : Option String) :
    (SMSTaskRepository.markFailed table id' retryCount error).row id =
      if id = id' then
        (table.row id).map fun task =>
          { task with
            status := SMSTaskRepository.failedStatus retryCount
            retryCount := retryCount
            errorMessage := error }
      else table.row id := by
  rw [SMSTaskRepository.markFailed, SMSTable.markFailed, row_update]

/-- A pending task is next, if there is one. -/
theorem mem_of_getNextQueued (h : table.getNextQueued = some task) :
    task ∈ table.rows ∧ task.status = .pending := by
  have hmem := List.mem_of_mem_head? (Option.mem_def.2 h)
  rw [List.mem_insertionSort, List.mem_filter] at hmem
  exact ⟨hmem.1, of_decide_eq_true hmem.2⟩

theorem getNextQueued_eq_none_iff :
    table.getNextQueued = none ↔ ∀ task ∈ table.rows, task.status ≠ .pending := by
  rw [getNextQueued, List.head?_eq_none_iff, ← List.length_eq_zero_iff, List.length_insertionSort,
    List.length_eq_zero_iff, List.filter_eq_nil_iff]
  simp

/-- The retry processor is given tasks that failed and have retries left. -/
theorem mem_getRetryableTasks (h : task ∈ table.getRetryableTasks) :
    task ∈ table.rows ∧ task.Retryable := by
  have hmem := List.mem_of_mem_take h
  rw [List.mem_insertionSort, List.mem_filter] at hmem
  exact ⟨hmem.1, of_decide_eq_true hmem.2⟩

end SMSTable

end AeroxeBee.Android
