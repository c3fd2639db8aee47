import AeroxeBee.Android.Phone

/-!
# The status of a message in parts

All parts of a message share one row. The engine writes to it when it has handed the message over,
and the receiver writes to it for each part that was sent and for each one that was delivered, or
was not. Each of them writes without looking at what the row says.

* `statuses_eq`: each update leaves the status that it writes, whatever came before;
* `statusStands_iff`: for which orders of the updates the status is right.
-/

namespace AeroxeBee.Android

open Foundations SMSDeliveryReceiver

/-! ## Updates -/

/-- What is written to the row of a message: by the engine, and for the results of a part. -/
inductive Update where
  | engine
  | sentResult (resultCode : ℤ)
  | deliveryResult (resultCode : ℤ)
deriving DecidableEq

namespace Update

/-- The routine that writes it. -/
def prog (taskId : String) : Update → PhoneProg Unit
  | engine => Prog.call (.markSent taskId)
  | sentResult resultCode => onReceive ⟨taskId, resultCode, ACTION_SENT⟩
  | deliveryResult resultCode => onReceive ⟨taskId, resultCode, ACTION_DELIVERED⟩

/-- The part failed. -/
def fails : Update → Bool
  | engine => false
  | sentResult resultCode | deliveryResult resultCode => resultCode ≠ RESULT_OK

/-- The message or the part was sent. -/
def isSent : Update → Bool
  | engine => true
  | sentResult resultCode => resultCode = RESULT_OK
  | deliveryResult _ => false

/-- The status that is written. -/
def writes (u : Update) : Status := if u.fails then .failed else if u.isSent then .sent else .delivered

end Update

/-- The phone after some updates, one after the other. -/
def process (taskId : String) (w : Phone) (order : List Update) : Phone :=
  order.foldl (fun w u => ((u.prog taskId).exec phone w).state) w

/-- The status after each of the updates. -/
def statuses (taskId : String) : Phone → List Update → List (Option Status)
  | _, [] => []
  | w, u :: order =>
    let w' := ((u.prog taskId).exec phone w).state
    statusOf w' taskId :: statuses taskId w' order

/-- The updates of a message in some number of parts, in any order: the one of the engine, and two
for each part. -/
def OfParts (k : ℕ) (order : List Update) : Prop :=
  ∃ sent delivered : List ℤ, sent.length = k ∧ delivered.length = k ∧
    order.Perm (.engine :: (sent.map .sentResult ++ delivered.map .deliveryResult))

/-- What the status of a message should be after all updates: failed if a part failed, delivered if
all parts were delivered, and sent otherwise. -/
def Verdict (k : ℕ) (order : List Update) (status : Status) : Prop :=
  if ∃ u ∈ order, u.fails = true then status = .failed ∨ status = .deadLetter
  else if order.count (.deliveryResult RESULT_OK) = k then status = .delivered
  else status = .sent

/-- **The status stands**: it is right in the end, and a message that was delivered or failed does
not become one that was sent. -/
structure StatusStands (k : ℕ) (taskId : String) (w : Phone) (order : List Update) : Prop where
  final : ∃ status, statusOf (process taskId w order) taskId = some status ∧ Verdict k order status
  stays : (statuses taskId w order).Pairwise fun before after =>
    (before = some .delivered ∨ before = some .failed ∨ before = some .deadLetter) →
      after ≠ some .sent

/-- Everything that was sent is written down before anything else, and if a part failed, then a
failure is written down last. -/
structure WellOrdered (order : List Update) : Prop where
  sentFirst : order.Pairwise fun u v => u.isSent = false → v.isSent = false
  failureLast : (∃ u ∈ order, u.fails = true) → ∃ u ∈ order.getLast?, u.fails = true

/-! ## What an update writes -/

section Writes

variable {w : Phone} {taskId : String}

/-- What the receiver makes of the table. -/
theorem onReceive_tasks (b : Broadcast) (w : Phone) :
    ∃ now, ((onReceive b).exec phone w).state.tasks =
      if b.resultCode ≠ RESULT_OK then
        SMSTaskRepository.markFailed w.tasks b.taskId 0 (some (errorMsg b.resultCode))
      else if b.action = ACTION_DELIVERED then SMSTaskRepository.markDelivered w.tasks b.taskId now
      else SMSTaskRepository.markSent w.tasks b.taskId now := by
  let w₁ := (phone.step .getDeviceId w).2
  refine ⟨w₁.clock + w₁.next.elapsed, ?_⟩
  unfold onReceive
  rw [Prog.call_bind, Prog.exec_act]
  split_ifs with hfailed hdelivered
  · rfl
  · have haside := reportDelivery_aside (((phone.step .getDeviceId w).1).getD "") b.taskId
    rw [Prog.call_bind, Prog.exec_act]
    exact exec_tasks_of_aside _ haside
  · rfl

/-- **Each update leaves the status that it writes.** -/
theorem statusOf_update (u : Update) (hrow : (w.tasks.row taskId).isSome) :
    statusOf ((u.prog taskId).exec phone w).state taskId = some u.writes := by
  obtain ⟨row, hrow⟩ := Option.isSome_iff_exists.1 hrow
  have hreceived (b : Broadcast) (hb : b.taskId = taskId) :
      statusOf ((onReceive b).exec phone w).state taskId =
        some (if b.resultCode ≠ RESULT_OK then .failed
          else if b.action = ACTION_DELIVERED then .delivered else .sent) := by
    obtain ⟨now, htasks⟩ := onReceive_tasks b w
    rw [statusOf, htasks, hb]
    split_ifs
    · rw [SMSTable.row_markFailed, if_pos rfl, hrow]
      rfl
    · rw [SMSTable.row_markDelivered, if_pos rfl, hrow]
      rfl
    · rw [SMSTable.row_markSent, if_pos rfl, hrow]
      rfl
  cases u with
  | engine =>
    have htasks : ((Update.engine.prog taskId).exec phone w).state.tasks =
      SMSTaskRepository.markSent w.tasks taskId (w.clock + w.next.elapsed) := rfl
    rw [statusOf, htasks, SMSTable.row_markSent, if_pos rfl, hrow]
    rfl
  | sentResult resultCode =>
    refine (hreceived _ rfl).trans ?_
    have haction : ACTION_SENT ≠ ACTION_DELIVERED := by decide
    by_cases hok : resultCode = RESULT_OK <;>
      simp [Update.writes, Update.fails, Update.isSent, hok, haction]
  | deliveryResult resultCode =>
    refine (hreceived _ rfl).trans ?_
    by_cases hok : resultCode = RESULT_OK <;>
      simp [Update.writes, Update.fails, Update.isSent, hok]

theorem row_isSome_of_statusOf {status : Status} (h : statusOf w taskId = some status) :
    (w.tasks.row taskId).isSome := by
  obtain ⟨row, hrow, -⟩ := statusOf_eq_some_iff.1 h
  rw [hrow]
  rfl

/-- The statuses are those that the updates write, one after the other. -/
theorem statuses_eq (order : List Update) (hrow : (w.tasks.row taskId).isSome) :
    statuses taskId w order = order.map fun u => some u.writes := by
  induction order generalizing w with
  | nil => rfl
  | cons u order ih =>
    have hstatus := statusOf_update u hrow
    rw [statuses, hstatus, ih (row_isSome_of_statusOf hstatus), List.map_cons]

/-- The status in the end is the one that the last update writes. -/
theorem statusOf_process {order : List Update} {u : Update} (hlast : order.getLast? = some u)
    (hrow : (w.tasks.row taskId).isSome) :
    statusOf (process taskId w order) taskId = some u.writes := by
  induction order generalizing w with
  | nil => cases hlast
  | cons v order ih =>
    have hstatus := statusOf_update v hrow
    cases order with
    | nil =>
      obtain rfl : v = u := Option.some.inj hlast
      exact hstatus
    | cons v' order => exact ih hlast (row_isSome_of_statusOf hstatus)

end Writes

/-! ## Orders -/

section Orders

variable {w : Phone} {taskId : String} {k : ℕ} {order : List Update}

theorem Update.writes_eq_sent_iff (u : Update) : u.writes = .sent ↔ u.isSent = true := by
  cases u with
  | engine => simp [writes, fails, isSent]
  | sentResult resultCode => by_cases h : resultCode = RESULT_OK <;> simp [writes, fails, isSent, h]
  | deliveryResult resultCode =>
    by_cases h : resultCode = RESULT_OK <;> simp [writes, fails, isSent, h]

theorem Update.writes_eq_failed_iff (u : Update) : u.writes = .failed ↔ u.fails = true := by
  unfold writes
  split_ifs <;> simp_all

theorem Update.not_deadLetter (u : Update) : u.writes ≠ .deadLetter := by
  unfold writes
  split_ifs <;> simp

/-- What was not sent has failed or was delivered. -/
theorem Update.writes_of_not_isSent {u : Update} (h : u.isSent = false) :
    u.writes = .delivered ∨ u.writes = .failed := by
  unfold writes
  split_ifs <;> simp_all

/-- A message has an update for each delivered part. -/
theorem OfParts.exists_delivery (h : OfParts k order) (hk : 1 ≤ k) :
    ∃ code, Update.deliveryResult code ∈ order := by
  obtain ⟨sent, delivered, -, hdelivered, hperm⟩ := h
  cases delivered with
  | nil =>
    rw [List.length_nil] at hdelivered
    omega
  | cons code delivered => exact ⟨code, hperm.mem_iff.2 (by simp)⟩

/-- If no part failed, then all were delivered. -/
theorem OfParts.count_delivered (h : OfParts k order) (hfails : ¬ ∃ u ∈ order, u.fails = true) :
    order.count (.deliveryResult RESULT_OK) = k := by
  obtain ⟨sent, delivered, hsent, hdelivered, hperm⟩ := h
  have hall : ∀ code ∈ delivered, code = RESULT_OK := by
    intro code hcode
    by_contra hne
    refine hfails ⟨.deliveryResult code, hperm.mem_iff.2 (by simp [hcode]), ?_⟩
    simpa [Update.fails] using hne
  have hsame : delivered = List.replicate k RESULT_OK := List.eq_replicate_iff.2 ⟨hdelivered, hall⟩
  rw [hperm.count_eq, hsame]
  simp [List.count_eq_zero]

/-- A status that is no longer that of a sent message. -/
theorem Update.settled_iff (u : Update) :
    (some u.writes = some Status.delivered ∨ some u.writes = some Status.failed ∨
      some u.writes = some Status.deadLetter) ↔ u.isSent = false := by
  constructor
  · intro h
    by_contra hsent
    have hwrites := u.writes_eq_sent_iff.2 (by simpa using hsent)
    simp [hwrites] at h
  · intro h
    rcases Update.writes_of_not_isSent h with hwrites | hwrites <;> simp [hwrites]

/-- If everything that was sent comes first, then the last update is about something else. -/
theorem last_not_isSent {u last : Update} (hlast : order.getLast? = some last)
    (hfirst : order.Pairwise fun u v => u.isSent = false → v.isSent = false) (hu : u ∈ order)
    (hsent : u.isSent = false) : last.isSent = false := by
  obtain ⟨init, rfl⟩ := List.getLast?_eq_some_iff.1 hlast
  rcases List.mem_append.1 hu with hinit | hend
  · exact (List.pairwise_append.1 hfirst).2.2 u hinit last List.mem_cons_self hsent
  · obtain rfl := List.mem_singleton.1 hend
    exact hsent

/-- **For which orders of the updates the status of a message stands.** -/
theorem statusStands_iff (h : OfParts k order) (hk : 1 ≤ k) (hrow : (w.tasks.row taskId).isSome) :
    StatusStands k taskId w order ↔ WellOrdered order := by
  obtain ⟨code, hdelivery⟩ := h.exists_delivery hk
  obtain ⟨last, hlast⟩ : ∃ last, order.getLast? = some last :=
    Option.isSome_iff_exists.1 (List.getLast?_isSome.2 (List.ne_nil_of_mem hdelivery))
  have hmem : last ∈ order := List.mem_of_getLast? hlast
  have hfinal : statusOf (process taskId w order) taskId = some last.writes :=
    statusOf_process hlast hrow
  have hstays : (statuses taskId w order).Pairwise (fun before after =>
      (before = some .delivered ∨ before = some .failed ∨ before = some .deadLetter) →
        after ≠ some .sent) ↔ order.Pairwise fun u v => u.isSent = false → v.isSent = false := by
    rw [statuses_eq order hrow, List.pairwise_map]
    refine List.Pairwise.iff fun u v => ?_
    rw [u.settled_iff, Ne, Option.some.injEq, v.writes_eq_sent_iff, Bool.not_eq_true]
  have hfailed : (∃ u ∈ order.getLast?, u.fails = true) ↔ last.fails = true := by
    rw [hlast]
    simp
  constructor
  · intro hstands
    refine ⟨hstays.1 hstands.stays, fun hfails => hfailed.2 ?_⟩
    obtain ⟨status, hstatus, hverdict⟩ := hstands.final
    obtain rfl := Option.some.inj (hfinal.symm.trans hstatus)
    rw [Verdict, if_pos hfails] at hverdict
    exact last.writes_eq_failed_iff.1 (hverdict.resolve_right last.not_deadLetter)
  · intro hordered
    refine ⟨⟨last.writes, hfinal, ?_⟩, hstays.2 hordered.sentFirst⟩
    by_cases hfails : ∃ u ∈ order, u.fails = true
    · rw [Verdict, if_pos hfails]
      exact .inl (last.writes_eq_failed_iff.2 (hfailed.1 (hordered.failureLast hfails)))
    · rw [Verdict, if_neg hfails, if_pos (h.count_delivered hfails)]
      have hsent := last_not_isSent hlast hordered.sentFirst hdelivery rfl
      refine (Update.writes_of_not_isSent hsent).resolve_right fun hwrites => ?_
      exact hfails ⟨last, hmem, last.writes_eq_failed_iff.1 hwrites⟩

end Orders

/-! ## Two parts, of which one fails -/

/-- Both parts are sent, one of them is delivered, and the other one fails after that. -/
def inOrder : List Update :=
  [.engine, .sentResult RESULT_OK, .sentResult RESULT_OK, .deliveryResult RESULT_OK,
    .deliveryResult 1]

theorem inOrder_ofParts : OfParts 2 inOrder :=
  ⟨[RESULT_OK, RESULT_OK], [RESULT_OK, 1], rfl, rfl, List.Perm.refl _⟩

/-- In this order the status stands. -/
theorem statusStands_inOrder : StatusStands 2 "message-1" (onePhone pendingTask) inOrder :=
  (statusStands_iff inOrder_ofParts (by decide) rfl).2 ⟨by decide, fun _ => ⟨_, rfl, rfl⟩⟩

/-- If the part fails before the other one is delivered, then the message counts as delivered. -/
theorem status_overwritten :
    OfParts 2 [.engine, .sentResult RESULT_OK, .sentResult RESULT_OK, .deliveryResult 1,
      .deliveryResult RESULT_OK] ∧
    ¬ StatusStands 2 "message-1" (onePhone pendingTask)
      [.engine, .sentResult RESULT_OK, .sentResult RESULT_OK, .deliveryResult 1,
        .deliveryResult RESULT_OK] := by
  refine ⟨⟨[RESULT_OK, RESULT_OK], [1, RESULT_OK], rfl, rfl, List.Perm.refl _⟩, fun hstands => ?_⟩
  obtain ⟨status, hstatus, hverdict⟩ := hstands.final
  have hdelivered : status = .delivered := (Option.some.inj hstatus).symm
  rw [Verdict, if_pos ⟨.deliveryResult 1, by decide, by decide⟩, hdelivered] at hverdict
  simp at hverdict

end AeroxeBee.Android
