import AeroxeBee.Android.Phone

/-!
# The engine

What becomes of a task that is given to the engine: it is turned away by a check, without a trace in
the table, or it is handed over to the SMS manager, and its row is written.

* `send_spec`: the run of the engine;
* `send_only`: what the engine does for a task.
-/

namespace AeroxeBee.Android

open Foundations SMSEngine

variable {w : Phone} {task : SMSTask}

/-- All checks of the engine pass when a task is given to it: the permission is there, the slot may be
used, its SMS manager can be had, and the message has few parts. -/
structure Clear (w : Phone) (task : SMSTask) : Prop where
  permission : (w.later 0).permission = true
  slot : (w.limiter.canSend task.simSlot
    (w.clock + (w.later 0).elapsed + (w.later 1).elapsed)).1 = true
  manager : (w.later 2).manager = true
  parts : (w.later 3).parts ≤ MAX_PARTS

instance (w : Phone) (task : SMSTask) : Decidable (Clear w task) :=
  decidable_of_iff (_ ∧ _ ∧ _ ∧ _)
    ⟨fun h => ⟨h.1, h.2.1, h.2.2.1, h.2.2.2⟩, fun h => ⟨h.permission, h.slot, h.manager, h.parts⟩⟩

section Replies

/-! What the checks answer. -/

theorem reply_hasSmsPermission (w : Phone) :
    (phone.step .hasSmsPermission w).1 = (w.later 0).permission := rfl

theorem reply_canSend (simSlot : ℤ) (w : Phone) :
    (phone.step (.canSend simSlot) w).1 =
      (w.limiter.canSend simSlot (w.clock + (w.later 0).elapsed)).1 := rfl

theorem reply_getSmsManager (simSlot : ℤ) (w : Phone) :
    (phone.step (.getSmsManager simSlot) w).1 = (w.later 0).manager := rfl

theorem reply_divideMessage (message : String) (w : Phone) :
    (phone.step (.divideMessage message) w).1 = (w.later 0).parts := rfl

theorem reply_sendTextMessage (task : SMSTask) (parts : ℕ) (w : Phone) :
    (phone.step (.sendTextMessage task parts) w).1 = (w.later 0).handed := rfl

theorem limiter_hasSmsPermission (w : Phone) :
    (phone.step .hasSmsPermission w).2.limiter = w.limiter := rfl

end Replies

/-- What becomes of a message that is handed over. -/
theorem handOver_spec (task : SMSTask) (parts : ℕ) (w : Phone) :
    let o := (handOver task parts).exec phone w
    ∃ now, match (w.later 0).handed with
      | .ok _ => o.val = .sent ∧ o.state.tasks = SMSTaskRepository.markSent w.tasks task.id now
      | .error message => o.val = .failed ∧
        o.state.tasks =
          SMSTaskRepository.markFailed w.tasks task.id (task.retryCount + 1) message := by
  intro o
  let w₁ := (phone.step (.sendTextMessage task parts) w).2
  let w₂ := (phone.step (.recordSend task.simSlot) w₁).2
  refine ⟨w₂.clock + w₂.next.elapsed, ?_⟩
  have ho : o = (handOver task parts).exec phone w := rfl
  unfold handOver at ho
  rw [Prog.call_bind, Prog.exec_act, reply_sendTextMessage] at ho
  cases hhanded : (w.later 0).handed with
  | ok _ =>
    rw [hhanded] at ho
    rw [ho]
    exact ⟨rfl, rfl⟩
  | error message =>
    rw [hhanded] at ho
    rw [ho]
    exact ⟨rfl, rfl⟩

/-- **What becomes of a task that is given to the engine.** -/
theorem send_spec (task : SMSTask) (w : Phone) :
    let o := (send task).exec phone w
    (Clear w task ∧ ∃ now, match (w.later 4).handed with
      | .ok _ => o.val = some .sent ∧ o.state.tasks = SMSTaskRepository.markSent w.tasks task.id now
      | .error message => o.val = some .failed ∧
        o.state.tasks =
          SMSTaskRepository.markFailed w.tasks task.id (task.retryCount + 1) message) ∨
      (¬ Clear w task ∧ (o.val = some .failed ∨ o.val = none) ∧ o.state.tasks = w.tasks) := by
  intro o
  have ho : o = (send task).exec phone w := rfl
  unfold send at ho
  simp only [Prog.call_bind, Prog.exec_act, reply_hasSmsPermission] at ho
  cases hp : (w.later 0).permission with
  | false =>
    simp only [hp] at ho
    refine .inr ⟨fun h => ?_, .inl (by rw [ho]; rfl), by rw [ho]; rfl⟩
    exact Bool.false_ne_true (hp.symm.trans h.permission)
  | true =>
    simp only [hp, Prog.exec_act, reply_canSend, limiter_hasSmsPermission, step_clock, step_later] at ho
    cases hs : (w.limiter.canSend task.simSlot
        (w.clock + (w.later 0).elapsed + (w.later (0 + 1)).elapsed)).1 with
    | false =>
      simp only [hs] at ho
      refine .inr ⟨fun h => ?_, .inl (by rw [ho]; rfl), by rw [ho]; rfl⟩
      exact Bool.false_ne_true (hs.symm.trans h.slot)
    | true =>
      simp only [hs, Prog.exec_act, reply_getSmsManager, step_later] at ho
      cases hm : (w.later (0 + 1 + 1)).manager with
      | false =>
        simp only [hm] at ho
        refine .inr ⟨fun h => ?_, .inr (by rw [ho]; rfl), by rw [ho]; rfl⟩
        exact Bool.false_ne_true (hm.symm.trans h.manager)
      | true =>
        simp only [hm, Prog.exec_act, reply_divideMessage, step_later] at ho
        by_cases hlong : MAX_PARTS < (w.later (0 + 1 + 1 + 1)).parts
        · simp only [if_pos hlong] at ho
          refine .inr ⟨fun h => ?_, .inl (by rw [ho]; rfl), by rw [ho]; rfl⟩
          exact absurd h.parts (not_le.2 hlong)
        · simp only [if_neg hlong, map_eq_pure_bind, Prog.exec_bind] at ho
          obtain ⟨now, hover⟩ := handOver_spec task (w.later (0 + 1 + 1 + 1)).parts
            (phone.step (.divideMessage task.message) (phone.step (.getSmsManager task.simSlot)
              (phone.step (.canSend task.simSlot) (phone.step .hasSmsPermission w).2).2).2).2
          simp only [step_later] at hover
          refine .inl ⟨⟨hp, hs, hm, not_lt.1 hlong⟩, now, ?_⟩
          rw [ho]
          cases hhanded : (w.later (0 + 1 + 1 + 1 + 1)).handed with
          | ok _ =>
            rw [hhanded] at hover
            exact ⟨congrArg some hover.1, hover.2⟩
          | error message =>
            rw [hhanded] at hover
            exact ⟨congrArg some hover.1, hover.2⟩

/-- What the engine does for a task. -/
def Uses (task : SMSTask) : {β : Type} → PhoneCmd β → Prop
  | _, .hasSmsPermission | _, .canSend _ | _, .getSmsManager _ | _, .divideMessage _ => True
  | _, .recordSend _ => True
  | _, .sendTextMessage task' _ => task' = task
  | _, .markSent id => id = task.id
  | _, .markFailed id retryCount _ => id = task.id ∧ retryCount = task.retryCount + 1
  | _, _ => False

theorem handOver_only (task : SMSTask) (parts : ℕ) : (handOver task parts).Only (Uses task) := by
  refine ⟨rfl, fun reply => ?_⟩
  cases reply with
  | ok _ => exact ⟨trivial, fun _ => ⟨rfl, fun _ => trivial⟩⟩
  | error message => exact ⟨⟨rfl, rfl⟩, fun _ => trivial⟩

theorem send_only (task : SMSTask) : (send task).Only (Uses task) := by
  refine ⟨trivial, fun permission => ?_⟩
  cases permission with
  | false => trivial
  | true =>
    refine ⟨trivial, fun slot => ?_⟩
    cases slot with
    | false => trivial
    | true =>
      refine ⟨trivial, fun manager => ?_⟩
      cases manager with
      | false => trivial
      | true =>
        refine ⟨trivial, fun parts => ?_⟩
        change Prog.Only _ (if MAX_PARTS < parts then _ else _)
        split_ifs
        · trivial
        · exact (handOver_only task parts).bind fun _ => trivial

end AeroxeBee.Android
