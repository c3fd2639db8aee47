import AeroxeBee.Android.Engine

/-!
# The pending tasks

The loop over the pending tasks takes the one that comes first, gives it to the engine and reports on
it. It ends when no task is pending any more, but only the engine takes tasks out of the queue, and
it does so only for those that pass its checks.

* `iteration_spec`: what an iteration does;
* `loop_clear`: the loop that goes on passing the checks;
* `progresses_iff`: when the loop makes progress.
-/

namespace AeroxeBee.Android

open Foundations SMSSendingService

/-! ## Progress -/

/-- A task is pending. -/
def IsPending (w : Phone) (id : String) : Prop :=
  ∃ row, w.tasks.row id = some row ∧ row.status = .pending

/-- How many tasks are pending. -/
def pendingCount (w : Phone) : ℕ := w.tasks.rows.countP (·.status = .pending)

/-- The phone after some iterations of the loop. -/
def iterations (deviceId : String) : ℕ → Phone → Phone
  | 0, w => w
  | n + 1, w => iterations deviceId n ((iteration deviceId).exec phone w).state

/-- The id of the phone, as it is read before the loop. -/
def deviceIdOf (w : Phone) : String := (w.later 0).deviceId.getD ""

/-- The phone when the loop begins. -/
def begun (w : Phone) : Phone := (phone.step .getDeviceId w).2

/-- An event is a report on a message. -/
def reportsOn (id : String) : Event PhoneCmd → Bool
  | ⟨.publish _ (.status report), _⟩ => report.messageId = id
  | _ => false

/-- **The loop makes progress**: each iteration takes the chosen task out of the queue, the loop ends
when it has had an iteration for each pending task, and reports once on each of them. -/
structure Progresses (w : Phone) : Prop where
  removes : ∀ n task, (iterations (deviceIdOf w) n (begun w)).tasks.getNextQueued = some task →
    ¬ IsPending (iterations (deviceIdOf w) (n + 1) (begun w)) task.id
  ends : ((processPendingTasks (pendingCount w + 1)).exec phone w).val = .finished
  reports : ∀ id, IsPending w id →
    ((processPendingTasks (pendingCount w + 1)).exec phone w).trace.countP (reportsOn id) = 1

/-- Whenever a task is chosen the checks of the engine pass for it. -/
def ClearFrom (deviceId : String) (w : Phone) : Prop :=
  ∀ n task, (iterations deviceId n w).tasks.getNextQueued = some task →
    Clear (phone.step .getNextPending (iterations deviceId n w)).2 task

/-- The pending tasks and the phone have ids that are not blank. -/
def Named (w : Phone) : Prop :=
  ∀ id, IsPending w id → isBlank (deviceIdOf w) = false ∧ isBlank id = false

/-! ## An iteration -/

section Iteration

variable {w : Phone} {task : SMSTask} {deviceId : String}

theorem countP_eq_zero_of_only {α : Type} {p : PhoneProg α} (id : String)
    (hp : p.Only fun {β} (e : PhoneCmd β) => ∀ b, reportsOn id ⟨e, b⟩ = false) :
    (p.exec phone w).trace.countP (reportsOn id) = 0 := by
  rw [List.countP_eq_zero]
  intro ev hev
  simp [hp.exec_trace phone w ev hev ev.val]

/-- The engine reports on nothing. -/
theorem countP_send (id : String) (task : SMSTask) (w : Phone) :
    ((SMSEngine.send task).exec phone w).trace.countP (reportsOn id) = 0 := by
  refine countP_eq_zero_of_only id ((send_only task).mono fun e he b => ?_)
  cases e with
  | publish topic payload => exact he.elim
  | _ => rfl

/-- A report on a pending task is made if the task and the phone have ids. -/
theorem countP_reportPending (id deviceId : String) (task : SMSTask) (result : Status) (w : Phone) :
    ((reportPending deviceId task result).exec phone w).trace.countP (reportsOn id) =
      if (isBlank deviceId = false ∧ isBlank task.id = false) ∧ task.id = id then 1 else 0 := by
  unfold reportPending
  by_cases hnamed : isBlank deviceId = false ∧ isBlank task.id = false
  · have hguard : (!isBlank deviceId && !isBlank task.id) = true := by simp [hnamed.1, hnamed.2]
    rw [if_pos hguard]
    by_cases hid : task.id = id
    · subst hid
      simp [reportAttempt, attemptReport, reportsOn, hnamed.1, hnamed.2]
    · simp [reportAttempt, attemptReport, reportsOn, hid]
  · have hguard : ¬ (!isBlank deviceId && !isBlank task.id) = true := by simpa using hnamed
    rw [if_neg hguard, if_neg fun h => hnamed h.1]
    rfl

/-- A statement that takes a task out of the queue makes the queue shorter by one. -/
theorem countP_update {rows : List SMSTask} {f : SMSTask → SMSTask}
    (hunique : (rows.map (·.id)).Nodup) (hf : ∀ task, (f task).status ≠ .pending)
    (hmem : task ∈ rows) (hpending : task.status = .pending) :
    (rows.map fun row => if row.id = task.id then f row else row).countP (·.status = .pending) + 1 =
      rows.countP (·.status = .pending) := by
  induction rows with
  | nil => cases hmem
  | cons row rows ih =>
    rw [List.map_cons, List.nodup_cons] at hunique
    by_cases hid : row.id = task.id
    · have hrest : rows.map (fun row => if row.id = task.id then f row else row) = rows := by
        conv_rhs => rw [← List.map_id rows]
        refine List.map_congr_left fun other hother => if_neg fun hsame => ?_
        exact hunique.1 (List.mem_map.2 ⟨other, hother, hsame.trans hid.symm⟩)
      have htask : row = task := by
        rcases List.mem_cons.1 hmem with rfl | hrows
        · rfl
        · exact absurd (List.mem_map.2 ⟨task, hrows, hid.symm⟩) hunique.1
      rw [List.map_cons, hrest, if_pos hid, List.countP_cons_of_neg (by simpa using hf row),
        List.countP_cons_of_pos (by simpa [htask] using hpending)]
    · have hrows : task ∈ rows := by
        rcases List.mem_cons.1 hmem with rfl | hrows
        · exact absurd rfl hid
        · exact hrows
      have hstep := ih hunique.2 hrows
      rw [List.map_cons, if_neg hid, List.countP_cons, List.countP_cons]
      omega

theorem failedStatus_ne_pending (retryCount : ℕ) :
    SMSTaskRepository.failedStatus retryCount ≠ .pending := by
  unfold SMSTaskRepository.failedStatus
  split_ifs <;> simp

/-- What a statement that takes a task out of the queue does. -/
structure Removed (task : SMSTask) (w w' : Phone) : Prop where
  count : pendingCount w' + 1 = pendingCount w
  gone : ¬ IsPending w' task.id
  others : ∀ id, id ≠ task.id → w'.tasks.row id = w.tasks.row id

theorem removed_update {w' : Phone} {f : SMSTask → SMSTask} (hf : ∀ task, (f task).id = task.id)
    (hmem : task ∈ w.tasks.rows) (hpending : task.status = .pending)
    (hstatus : ∀ task, (f task).status ≠ .pending) (htasks : w'.tasks = w.tasks.update task.id f hf) :
    Removed task w w' where
  count := by
    rw [pendingCount, htasks]
    exact countP_update w.tasks.unique hstatus hmem hpending
  gone := by
    rintro ⟨row, hrow, hstill⟩
    rw [htasks, SMSTable.row_update, if_pos rfl, SMSTable.row_of_mem hmem] at hrow
    obtain rfl := Option.some.inj hrow
    exact hstatus task hstill
  others id hid := by rw [htasks, SMSTable.row_update, if_neg hid]

/-- **What an iteration does** with the task that comes first. -/
theorem iteration_spec (deviceId : String) (hnext : w.tasks.getNextQueued = some task) :
    let o := (iteration deviceId).exec phone w
    (Clear (phone.step .getNextPending w).2 task ∧ o.val = none ∧ Removed task w o.state ∧
        ∀ id, o.trace.countP (reportsOn id) =
          if (isBlank deviceId = false ∧ isBlank task.id = false) ∧ task.id = id then 1 else 0) ∨
      (¬ Clear (phone.step .getNextPending w).2 task ∧ o.val ≠ some .finished ∧
        o.state.tasks = w.tasks) := by
  intro o
  let w₁ := (phone.step .getNextPending w).2
  let sent := (SMSEngine.send task).exec phone w₁
  have hreply : (phone.step .getNextPending w).1 = some task := hnext
  have htasks₁ : w₁.tasks = w.tasks := rfl
  have ho : o = (iteration deviceId).exec phone w := rfl
  unfold iteration at ho
  simp only [Prog.call_bind, Prog.exec_act, hreply, Prog.exec_bind] at ho
  obtain ⟨hmem, hpending⟩ := SMSTable.mem_of_getNextQueued hnext
  -- the report leaves the table as it is, and is the only one of the iteration
  have hreported {result : Status} (hval : sent.val = some result) :
      o.val = none ∧ o.state.tasks = sent.state.tasks ∧ ∀ id, o.trace.countP (reportsOn id) =
        if (isBlank deviceId = false ∧ isBlank task.id = false) ∧ task.id = id then 1 else 0 := by
    have hsent : ((SMSEngine.send task).exec phone (phone.step .getNextPending w).2).val =
      some result := hval
    simp only [hsent, Prog.exec_bind] at ho
    rw [ho]
    refine ⟨rfl, exec_tasks_of_aside _ (reportPending_aside deviceId task result), fun id => ?_⟩
    have hsilent := countP_send id task (phone.step .getNextPending w).2
    have hreport := countP_reportPending id deviceId task result sent.state
    rw [List.countP_cons_of_neg (by simp [reportsOn]), List.countP_append, hsilent, Nat.zero_add,
      ← hreport]
    simp [sent, w₁]
  rcases send_spec task w₁ with ⟨hclear, now, hspec⟩ | ⟨hclear, hval, htasks⟩
  · refine .inl ⟨hclear, ?_⟩
    cases hhanded : (w₁.later 4).handed with
    | ok _ =>
      rw [hhanded] at hspec
      obtain ⟨hnone, hsame, hcount⟩ := hreported hspec.1
      refine ⟨hnone, removed_update ?_ hmem hpending ?_ (hsame.trans hspec.2), hcount⟩
      · intro _
        rfl
      · simp
    | error message =>
      rw [hhanded] at hspec
      obtain ⟨hnone, hsame, hcount⟩ := hreported hspec.1
      refine ⟨hnone, removed_update ?_ hmem hpending ?_ (hsame.trans hspec.2), hcount⟩
      · intro _
        rfl
      · exact fun _ => failedStatus_ne_pending _
  · refine .inr ⟨hclear, ?_⟩
    rcases hval with hval | hval
    · obtain ⟨hnone, hsame, -⟩ := hreported hval
      exact ⟨by simp [hnone], hsame.trans htasks⟩
    · have hsent : ((SMSEngine.send task).exec phone (phone.step .getNextPending w).2).val = none :=
        hval
      simp only [hsent] at ho
      rw [ho]
      exact ⟨by simp, htasks⟩

/-- Without a pending task the iteration finishes the loop. -/
theorem iteration_empty (deviceId : String) (hnext : w.tasks.getNextQueued = none) :
    let o := (iteration deviceId).exec phone w
    o.val = some .finished ∧ o.state.tasks = w.tasks ∧
      ∀ id, o.trace.countP (reportsOn id) = 0 := by
  intro o
  have hreply : (phone.step .getNextPending w).1 = none := hnext
  have ho : o = (iteration deviceId).exec phone w := rfl
  unfold iteration at ho
  simp only [Prog.call_bind, Prog.exec_act, hreply] at ho
  rw [ho]
  exact ⟨rfl, rfl, fun _ => rfl⟩

end Iteration

/-! ## The loop -/

section Loop

variable {w : Phone} {deviceId : String}

theorem getNextQueued_eq_none_iff_count : w.tasks.getNextQueued = none ↔ pendingCount w = 0 := by
  rw [SMSTable.getNextQueued_eq_none_iff, pendingCount, List.countP_eq_zero]
  simp

theorem not_isPending_of_count (h : pendingCount w = 0) (id : String) : ¬ IsPending w id := by
  rintro ⟨row, hrow, hpending⟩
  exact SMSTable.getNextQueued_eq_none_iff.1 (getNextQueued_eq_none_iff_count.2 h) row
    (SMSTable.mem_of_row hrow) hpending

theorem iterations_succ (deviceId : String) (n : ℕ) (w : Phone) :
    iterations deviceId (n + 1) w =
      ((iteration deviceId).exec phone (iterations deviceId n w)).state := by
  induction n generalizing w with
  | zero => rfl
  | succ n ih => exact ih _

theorem loop_of_some {ended : LoopEnd} (n : ℕ)
    (h : ((iteration deviceId).exec phone w).val = some ended) :
    ((pendingLoop deviceId (n + 1)).exec phone w).val = ended := by
  rw [pendingLoop, Prog.exec_bind, h]
  rfl

theorem loop_of_none (n : ℕ) (h : ((iteration deviceId).exec phone w).val = none) :
    ((pendingLoop deviceId (n + 1)).exec phone w).val =
        ((pendingLoop deviceId n).exec phone ((iteration deviceId).exec phone w).state).val ∧
      ((pendingLoop deviceId (n + 1)).exec phone w).trace =
        ((iteration deviceId).exec phone w).trace ++
          ((pendingLoop deviceId n).exec phone ((iteration deviceId).exec phone w).state).trace := by
  rw [pendingLoop, Prog.exec_bind, h]
  exact ⟨rfl, rfl⟩

theorem trace_of_some {ended : LoopEnd} (n : ℕ)
    (h : ((iteration deviceId).exec phone w).val = some ended) :
    ((pendingLoop deviceId (n + 1)).exec phone w).trace = ((iteration deviceId).exec phone w).trace := by
  rw [pendingLoop, Prog.exec_bind, h]
  exact List.append_nil _

/-- A loop that finishes has had an iteration for each pending task. -/
theorem count_lt_of_finished {fuel : ℕ}
    (h : ((pendingLoop deviceId fuel).exec phone w).val = .finished) : pendingCount w < fuel := by
  induction fuel generalizing w with
  | zero => cases h
  | succ fuel ih =>
    cases hnext : w.tasks.getNextQueued with
    | none =>
      rw [getNextQueued_eq_none_iff_count.1 hnext]
      exact Nat.succ_pos fuel
    | some task =>
      rcases iteration_spec deviceId hnext with ⟨-, hval, hremoved, -⟩ | ⟨-, hval, htasks⟩
      · rw [(loop_of_none fuel hval).1] at h
        have hrest := ih h
        have hcount := hremoved.count
        omega
      · cases hended : ((iteration deviceId).exec phone w).val with
        | none =>
          rw [(loop_of_none fuel hended).1] at h
          have hrest := ih h
          rw [pendingCount, htasks] at hrest
          rw [pendingCount]
          omega
        | some ended =>
          rw [loop_of_some fuel hended] at h
          exact absurd (h ▸ hended) hval

theorem ClearFrom.tail (h : ClearFrom deviceId w) :
    ClearFrom deviceId ((iteration deviceId).exec phone w).state :=
  fun n task hnext => h (n + 1) task hnext

/-- **The loop that goes on passing the checks** finishes, and reports once on each pending task, if
the task and the phone have ids. -/
theorem loop_clear {n : ℕ} (h : ClearFrom deviceId w) (hcount : pendingCount w = n) :
    let o := (pendingLoop deviceId (n + 1)).exec phone w
    o.val = .finished ∧ ∀ id,
      (IsPending w id ∧ isBlank deviceId = false ∧ isBlank id = false →
        o.trace.countP (reportsOn id) = 1) ∧
      (¬ (IsPending w id ∧ isBlank deviceId = false ∧ isBlank id = false) →
        o.trace.countP (reportsOn id) = 0) := by
  induction n generalizing w with
  | zero =>
    obtain ⟨hval, -, hsilent⟩ :=
      iteration_empty deviceId (getNextQueued_eq_none_iff_count.2 hcount)
    refine ⟨loop_of_some 0 hval, fun id => ⟨fun hid => ?_, fun _ => ?_⟩⟩
    · exact absurd hid.1 (not_isPending_of_count hcount id)
    · rw [trace_of_some 0 hval]
      exact hsilent id
  | succ n ih =>
    cases hnext : w.tasks.getNextQueued with
    | none =>
      rw [getNextQueued_eq_none_iff_count.1 hnext] at hcount
      cases hcount
    | some task =>
      rcases iteration_spec deviceId hnext with
        ⟨-, hval, hremoved, hreports⟩ | ⟨hclear, -⟩
      swap
      · exact absurd (h 0 task hnext) hclear
      obtain ⟨hmem, hpending⟩ := SMSTable.mem_of_getNextQueued hnext
      have hrest := hremoved.count
      obtain ⟨hfinished, htail⟩ := ih h.tail (by omega)
      obtain ⟨hloop, htrace⟩ := loop_of_none (n + 1) hval
      refine ⟨hloop.trans hfinished, fun id => ?_⟩
      have hsum := hreports id
      rw [htrace, List.countP_append, hsum]
      by_cases hid : task.id = id
      · -- the task of this iteration is not pending any more
        subst hid
        rw [(htail task.id).2 fun hstill => hremoved.gone hstill.1]
        have hwas : IsPending w task.id := ⟨task, SMSTable.row_of_mem hmem, hpending⟩
        constructor
        · rintro ⟨-, hdevice, htask⟩
          rw [if_pos ⟨⟨hdevice, htask⟩, rfl⟩]
        · intro hnot
          rw [if_neg fun hnamed => hnot ⟨hwas, hnamed.1.1, hnamed.1.2⟩]
      · have hsame : IsPending ((iteration deviceId).exec phone w).state id ↔ IsPending w id := by
          unfold IsPending
          rw [hremoved.others id (Ne.symm hid)]
        rw [if_neg fun hnamed => hid hnamed.2, Nat.zero_add, ← hsame]
        exact htail id

/-- A loop that finishes in time has passed the checks for each task. -/
theorem clearFrom_of_finished {n : ℕ} (hcount : pendingCount w = n)
    (h : ((pendingLoop deviceId (n + 1)).exec phone w).val = .finished) : ClearFrom deviceId w := by
  induction n generalizing w with
  | zero =>
    have hempty (m : ℕ) : pendingCount (iterations deviceId m w) = 0 := by
      induction m with
      | zero => exact hcount
      | succ m ihm =>
        obtain ⟨-, htasks, -⟩ := iteration_empty deviceId (getNextQueued_eq_none_iff_count.2 ihm)
        rw [iterations_succ, pendingCount, htasks]
        exact ihm
    intro m task hnext
    rw [getNextQueued_eq_none_iff_count.2 (hempty m)] at hnext
    cases hnext
  | succ n ih =>
    cases hnext : w.tasks.getNextQueued with
    | none =>
      rw [getNextQueued_eq_none_iff_count.1 hnext] at hcount
      cases hcount
    | some task =>
      rcases iteration_spec deviceId hnext with
        ⟨hclear, hval, hremoved, -⟩ | ⟨hclear, hval, htasks⟩
      · rw [(loop_of_none (n + 1) hval).1] at h
        have hrest := hremoved.count
        have htail := ih (by omega) h
        intro m other hother
        cases m with
        | zero =>
          obtain rfl := Option.some.inj (hnext.symm.trans hother)
          exact hclear
        | succ m => exact htail m other hother
      · -- the task is still there, and there are not enough iterations left
        cases hended : ((iteration deviceId).exec phone w).val with
        | none =>
          rw [(loop_of_none (n + 1) hended).1] at h
          have hrest := count_lt_of_finished h
          rw [pendingCount, htasks] at hrest
          rw [pendingCount] at hcount
          omega
        | some ended =>
          rw [loop_of_some (n + 1) hended] at h
          exact absurd (h ▸ hended) hval

end Loop

/-- **When the loop over the pending tasks makes progress.** -/
theorem progresses_iff (w : Phone) :
    Progresses w ↔ ClearFrom (deviceIdOf w) (begun w) ∧ Named w := by
  have hcount : pendingCount (begun w) = pendingCount w := rfl
  have hprocess : (processPendingTasks (pendingCount w + 1)).exec phone w =
      ⟨((pendingLoop (deviceIdOf w) (pendingCount w + 1)).exec phone (begun w)).val,
        ((pendingLoop (deviceIdOf w) (pendingCount w + 1)).exec phone (begun w)).state,
        ⟨.getDeviceId, (w.later 0).deviceId⟩ ::
          ((pendingLoop (deviceIdOf w) (pendingCount w + 1)).exec phone (begun w)).trace⟩ := rfl
  have hreports (id : String) :
      ((processPendingTasks (pendingCount w + 1)).exec phone w).trace.countP (reportsOn id) =
        ((pendingLoop (deviceIdOf w) (pendingCount w + 1)).exec phone (begun w)).trace.countP
          (reportsOn id) := by
    rw [hprocess]
    exact List.countP_cons_of_neg (by simp [reportsOn])
  constructor
  · intro h
    have hends := h.ends
    rw [hprocess] at hends
    have hclear := clearFrom_of_finished hcount hends
    refine ⟨hclear, fun id hid => ?_⟩
    have honce := h.reports id hid
    rw [hreports] at honce
    by_contra hblank
    rw [((loop_clear hclear hcount).2 id).2 fun hnamed => hblank hnamed.2] at honce
    cases honce
  · rintro ⟨hclear, hnamed⟩
    obtain ⟨hends, honce⟩ := loop_clear hclear hcount
    refine ⟨fun n task hnext => ?_, ?_, fun id hid => ?_⟩
    · rw [iterations_succ]
      rcases iteration_spec (deviceIdOf w) hnext with ⟨-, -, hremoved, -⟩ | ⟨hnot, -⟩
      · exact hremoved.gone
      · exact absurd (hclear n task hnext) hnot
    · rw [hprocess]
      exact hends
    · rw [hreports]
      exact (honce id).1 ⟨hid, hnamed id hid⟩

/-- A phone with one pending task, whose user has not given the permission to send messages. -/
def forbidden : Phone :=
  { onePhone pendingTask with env := List.replicate 4 { Tick.quiet with permission := false } }

/-- The task stays pending, and the loop takes it again. -/
theorem forbidden_not_progresses :
    ((processPendingTasks (pendingCount forbidden + 1)).exec phone forbidden).val = .running ∧
    ¬ Progresses forbidden := by
  have hrunning : ((processPendingTasks (pendingCount forbidden + 1)).exec phone forbidden).val =
    .running := by decide
  refine ⟨hrunning, fun h => ?_⟩
  cases hrunning.symm.trans h.ends

end AeroxeBee.Android
