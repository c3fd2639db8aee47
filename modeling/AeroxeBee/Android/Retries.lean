import AeroxeBee.Android.Routines
import Mathlib.Algebra.Order.BigOperators.Group.Finset

/-!
# How often a message is handed over

The retry count of a row is to bound how often its message is handed over. It grows when the SMS
manager throws an exception. The receiver sets it back, and a command that is carried out again does
not look at it.

* `Counted`: how the retry counts bound the numbers of times that the messages were handed over;
* `Counted.hands`, `Counted.writes`: what a step preserves;
* `run_bounded`: in all runs in which every attempt counts, the bound holds.
-/

namespace AeroxeBee.Android

open Foundations Pool SMSEngine Finset

/-! ## Attempts -/

/-- What a routine has done: the tasks it has read last, the one that it has handed over and of which
the result is not written down yet, and whether it has handed over any. -/
structure Attempts where
  read : List SMSTask := []
  underway : Option SMSTask := none
  attempted : Bool := false

/-- A task is handed over. -/
def Attempts.hand (s : Attempts) (task : SMSTask) : Attempts :=
  { s with underway := some task, attempted := true }

/-- A result is written down. -/
def Attempts.conclude (s : Attempts) (id : String) : Attempts :=
  { s with underway := s.underway.filter (·.id ≠ id) }

/-- Take account of an event. -/
def Attempts.next (s : Attempts) : Event PhoneCmd → Attempts
  | ⟨.getRetryableTasks, tasks⟩ => { s with read := tasks }
  | ⟨.getNextPending, task?⟩ => { s with read := task?.toList }
  | ⟨.sendTextMessage task _, _⟩ => s.hand task
  | ⟨.markSent id, _⟩ | ⟨.markFailed id _ _, _⟩ => s.conclude id
  | _ => s

/-- What the routines of a pool have done. -/
def attemptsOf (P : Pool PhoneCmd Phone Unit) : ℕ → Attempts := P.phase Attempts.next {}

/-- The number of commands for a message. -/
def copies (calls : List Routine) (id : String) : ℕ := calls.countP fun r => r.commandId = some id

/-- No other routine has handed a message over of which the result is not written down yet. -/
def OthersNot (calls : List Routine) (s : ℕ → Attempts) (i : ℕ) (id : String) : Prop :=
  ∀ j < calls.length, j ≠ i → ∀ task ∈ (s j).underway, task.id ≠ id

instance (calls : List Routine) (s : ℕ → Attempts) (i : ℕ) (id : String) :
    Decidable (OthersNot calls s i id) :=
  inferInstanceAs (Decidable (∀ j < calls.length, j ≠ i → ∀ task ∈ (s j).underway, task.id ≠ id))

/-- An attempt to send a task counts: nothing but the retry processor tries it again, which goes by the
row as it is now, and no other attempt is under way. -/
def AttemptCounts (calls : List Routine) (s : ℕ → Attempts) (times i : ℕ) (task row : SMSTask) :
    Prop :=
  OthersNot calls s i task.id ∧
    if calls[i]? = some .retryPass then row = task
    else times = 0 ∧ row.retryCount ≤ task.retryCount + 1

instance (calls : List Routine) (s : ℕ → Attempts) (times i : ℕ) (task row : SMSTask) :
    Decidable (AttemptCounts calls s times i task row) := inferInstanceAs (Decidable (_ ∧ _))

/-- Every attempt counts. If a message has no row, then there are not more commands for it than it may
be handed over. If it has one, then each attempt counts, and only the first one may fail by a
broadcast. -/
def EachCounts (calls : List Routine) (P : Pool PhoneCmd Phone Unit) (i : ℕ) :
    {β : Type} → PhoneCmd β → Prop
  | _, .sendTextMessage task _ =>
    (P.state.tasks.row task.id = none → copies calls task.id ≤ task.maxRetries + 1) ∧
      ∀ row ∈ P.state.tasks.row task.id,
        AttemptCounts calls (attemptsOf P) (timesHanded task.id (P.log.map (·.2))) i task row
  | _, .markFailed id retryCount _ =>
    calls[i]?.any (·.sends) = false → ∀ row ∈ P.state.tasks.row id,
      row.retryCount ≤ retryCount ∧ timesHanded id (P.log.map (·.2)) ≤ retryCount + 1
  | _, _ => True

instance (calls : List Routine) (P : Pool PhoneCmd Phone Unit) (i : ℕ) {β : Type} (e : PhoneCmd β) :
    Decidable (EachCounts calls P i e) :=
  match e with
  | .sendTextMessage task _ =>
    inferInstanceAs (Decidable (_ ∧ ∀ row ∈ P.state.tasks.row task.id, _))
  | .markFailed id .. => inferInstanceAs (Decidable (_ → ∀ row ∈ P.state.tasks.row id, _))
  | .now | .getDeviceId | .getSimSlot | .hasSmsPermission | .canSend .. | .getSmsManager ..
  | .divideMessage .. | .recordSend .. | .markSent .. | .markDelivered .. | .getNextPending
  | .getRetryableTasks | .updateRemoteStatus .. | .isConnected | .publish .. => isTrue trivial

/-! ## What the routines attempt -/

/-- What a routine may do: it hands over one task after the other, its own or what it has read, and
writes down what becomes of it. -/
def Attempting (r : Routine) (s : Attempts) : {β : Type} → PhoneCmd β → Prop
  | _, .getNextPending => r ≠ .retryPass
  | _, .sendTextMessage task _ => s.underway = none ∧
    (r.commandId = some task.id ∧ s.attempted = false ∨ r.commandId = none ∧ task ∈ s.read)
  | _, .markFailed id retryCount _ =>
    if r.sends = true then
      ∃ task, s.underway = some task ∧ task.id = id ∧ retryCount = task.retryCount + 1
    else retryCount = 0
  | _, _ => True

/-- The attempts of a routine, one after the other. -/
def attempting (r : Routine) : Protocol PhoneCmd Attempts where
  allows := Attempting r
  expects _ := True
  next := Attempts.next

section Keeps

variable {r : Routine} {s : Attempts} {task : SMSTask}

/-- When the result is written down, nothing is under way. -/
theorem hand_conclude (s : Attempts) (task : SMSTask) : ((s.hand task).conclude task.id).underway = none := by
  simp [Attempts.hand, Attempts.conclude]

/-- A task is handed over, and the result is written down. -/
theorem handOver_attempting (parts : ℕ) (hsends : r.sends = true) (hfree : s.underway = none)
    (hown : r.commandId = some task.id ∧ s.attempted = false ∨ r.commandId = none ∧ task ∈ s.read) :
    (handOver task parts).Keeps (attempting r)
      (fun s' _ => s'.read = s.read ∧ s'.underway = none) s := by
  refine ⟨⟨hfree, hown⟩, fun reply _ => ?_⟩
  cases reply with
  | ok _ => exact ⟨trivial, fun _ _ => ⟨trivial, fun _ _ => ⟨rfl, hand_conclude s task⟩⟩⟩
  | error message =>
    refine ⟨?_, fun _ _ => ⟨rfl, hand_conclude s task⟩⟩
    change if r.sends = true then _ else _
    rw [if_pos hsends]
    exact ⟨task, rfl, rfl, rfl⟩

/-- What is done besides sending is no attempt. -/
theorem allows_aside (s : Attempts) {β : Type} (e : PhoneCmd β) (he : e.Aside) :
    (attempting r).allows s e := by
  cases e
  case getNextPending => exact he.elim
  case sendTextMessage task parts => exact he.elim
  case markFailed id retryCount error => exact he.elim
  all_goals trivial

theorem next_aside {β : Type} (e : PhoneCmd β) (b : β) (he : e.Aside) :
    (attempting r).next s ⟨e, b⟩ = s := by
  cases e
  case now => rfl
  case getSimSlot => rfl
  case isConnected => rfl
  case publish topic payload => rfl
  all_goals exact he.elim

theorem send_attempting (hsends : r.sends = true) (hfree : s.underway = none)
    (hown : r.commandId = some task.id ∧ s.attempted = false ∨ r.commandId = none ∧ task ∈ s.read) :
    (send task).Keeps (attempting r) (fun s' _ => s'.read = s.read ∧ s'.underway = none) s := by
  refine send_keeps (fun e he => ?_) (fun e b he => ?_) trivial ⟨⟨rfl, hfree⟩, ⟨rfl, hfree⟩⟩
    (fun parts _ => ⟨rfl, hfree⟩) fun parts _ => handOver_attempting parts hsends hfree hown
  · cases e
    case getNextPending => exact he.elim
    case sendTextMessage task' parts => exact he.elim
    case markFailed id retryCount error => exact he.elim
    all_goals trivial
  · cases e
    case hasSmsPermission => rfl
    case canSend simSlot => rfl
    case getSmsManager simSlot => rfl
    all_goals exact he.elim

/-- A report is no attempt. -/
theorem reports_attempting {α : Type} {p : PhoneProg α} (hp : p.Only PhoneCmd.Aside) :
    p.Keeps (attempting r) (fun s' _ => s' = s) s :=
  Prog.Keeps.of_only hp (allows_aside s) next_aside

theorem retryAll_attempting (deviceId : String) (tasks : List SMSTask) (hread : tasks ⊆ s.read)
    (hfree : s.underway = none) :
    (MqttService.retryAll deviceId tasks).Keeps (attempting .retryPass) (fun _ _ => True) s := by
  induction tasks generalizing s with
  | nil => trivial
  | cons task tasks ih =>
    have hown := hread List.mem_cons_self
    refine (send_attempting rfl hfree (.inr ⟨rfl, hown⟩)).bind fun s' result hs' => ?_
    cases result with
    | none => trivial
    | some result =>
      have hreport := reports_attempting (r := .retryPass) (s := s') (reportRetry_aside deviceId task result)
      refine hreport.bind fun s'' _ hs'' => ?_
      subst hs''
      refine ih (fun t ht => ?_) hs'.2
      rw [hs'.1]
      exact hread (List.mem_cons_of_mem _ ht)

theorem pendingLoop_attempting (deviceId : String) (fuel : ℕ) {n : ℕ} (hfree : s.underway = none) :
    (SMSSendingService.pendingLoop deviceId fuel).Keeps (attempting (.pendingTasks n))
      (fun _ _ => True) s := by
  induction fuel generalizing s with
  | zero => trivial
  | succ fuel ih =>
    have hiteration : (SMSSendingService.iteration deviceId).Keeps (attempting (.pendingTasks n))
        (fun s' _ => s'.underway = none) s := by
      refine ⟨nofun, fun task? _ => ?_⟩
      cases task? with
      | none => exact hfree
      | some task =>
        have hown : task ∈ [task] := List.mem_singleton_self task
        refine (send_attempting (s := { s with read := [task] }) rfl hfree (.inr ⟨rfl, hown⟩)).bind
          fun s' result hs' => ?_
        cases result with
        | none => exact hs'.2
        | some result =>
          change Prog.Keeps _ _ (SMSSendingService.reportPending _ _ _ >>= _) _
          have hreport := reports_attempting (r := .pendingTasks n) (s := s')
            (reportPending_aside deviceId task result)
          refine hreport.bind fun s'' _ hs'' => ?_
          subst hs''
          exact hs'.2
    refine hiteration.bind fun s' ended hs' => ?_
    cases ended with
    | none => exact ih hs'
    | some ended => trivial

/-- Every routine makes its attempts one after the other. -/
theorem routine_attempting (deviceId : String) (r : Routine) :
    (r.prog deviceId).Keeps (attempting r) (fun _ _ => True) {} := by
  cases r with
  | message payload =>
    refine processMqttMessage_keeps allows_aside next_aside fun cmd hcmd simSlot now => ?_
    rw [hcmd]
    exact (send_attempting rfl rfl (.inl ⟨rfl, rfl⟩)).mono fun _ _ _ => trivial
  | retryPass => exact ⟨trivial, fun tasks _ => retryAll_attempting deviceId tasks (fun _ h => h) rfl⟩
  | pendingTasks fuel =>
    refine ⟨trivial, fun id? _ => ?_⟩
    exact (pendingLoop_attempting (id?.getD "") fuel rfl).bind fun _ _ _ => trivial
  | broadcast b =>
    refine Prog.keeps_of_only_forall (onReceive_only b) (fun s _ e he => ?_) fun _ _ => trivial
    cases e
    case markFailed id retryCount error => exact he.2
    case getNextPending => exact he.elim
    case sendTextMessage task parts => exact he.elim
    all_goals trivial

theorem routines_attempting (deviceId : String) :
    Phased (Routine.prog deviceId) attempting (fun _ _ _ => True) Attempts.next {} where
  next_eq _ := rfl
  expects _ _ := trivial
  keeps := routine_attempting deviceId

end Keeps

/-! ## What the retry counts bound -/

section Counted

variable {calls : List Routine} {tasks tasks' : SMSTable} {s s' : ℕ → Attempts}
  {times : String → ℕ} {i : ℕ} {r : Routine} {task : SMSTask} {id : String}

/-- A handler of a command for a message that has not handed it over. -/
def waiting (calls : List Routine) (s : ℕ → Attempts) (id : String) (j : ℕ) : ℤ :=
  if calls[j]?.bind Routine.commandId = some id ∧ (s j).attempted = false then 1 else 0

/-- Nobody has handed a message over of which the result is not written down yet. -/
def NoneUnderway (calls : List Routine) (s : ℕ → Attempts) (id : String) : Prop :=
  ∀ j < calls.length, ∀ task ∈ (s j).underway, task.id ≠ id

/-- **The retry counts bound the numbers of times that the messages were handed over.** `s` is what the
routines have done, and `times` how often each message was handed over. -/
structure Counted (calls : List Routine) (tasks : SMSTable) (s : ℕ → Attempts) (times : String → ℕ) :
    Prop where
  read : ∀ j r, calls[j]? = some r → ∀ task ∈ (s j).read,
    (tasks.row task.id).isSome ∧ (r = .retryPass → task.Retryable)
  failed : ∀ id row, tasks.row id = some row → row.status = .failed → NoneUnderway calls s id →
    times id ≤ row.retryCount + 1
  underway : ∀ j < calls.length, ∀ task row, (s j).underway = some task →
    tasks.row task.id = some row →
      row.retryCount ≤ task.retryCount + 1 ∧ times task.id ≤ task.retryCount + 2
  alone : ∀ j < calls.length, ∀ k < calls.length, ∀ task task', (s j).underway = some task →
    (s k).underway = some task' → task.id = task'.id → (tasks.row task.id).isSome → j = k
  absent : ∀ id, tasks.row id = none →
    (times id : ℤ) + ∑ j ∈ range calls.length, waiting calls s id j = copies calls id

/-- Where no status is written, no retry count is. -/
theorem counts_of_writes {β : Type} {e : PhoneCmd β} (h : e.writes id = none) :
    e.counts id = none := by
  cases e
  case markFailed id' retryCount error =>
    rw [PhoneCmd.writes] at h
    rw [PhoneCmd.counts]
    split_ifs at h ⊢
    rfl
  all_goals rfl

theorem waiting_nonneg (calls : List Routine) (s : ℕ → Attempts) (id : String) (j : ℕ) :
    0 ≤ waiting calls s id j := by
  unfold waiting
  split_ifs <;> simp

/-- At first all commands for a message are waiting. -/
theorem sum_waiting_start (calls : List Routine) (id : String) :
    ∑ j ∈ range calls.length, waiting calls (fun _ => {}) id j = copies calls id := by
  induction calls with
  | nil => rfl
  | cons r calls ih =>
    have hrest : ∑ j ∈ range calls.length, waiting (r :: calls) (fun _ => {}) id (j + 1) =
        copies calls id := ih
    rw [List.length_cons, sum_range_succ', hrest, copies, copies, List.countP_cons]
    by_cases hr : r.commandId = some id <;> simp [waiting, hr]

theorem counted_start (calls : List Routine) (tasks : SMSTable) :
    Counted calls tasks (fun _ => {}) fun _ => 0 where
  read _ _ _ task htask := by cases htask
  failed id row _ _ _ := Nat.zero_le _
  underway _ _ task row hunder := by cases hunder
  alone _ _ _ _ task task' hunder := by cases hunder
  absent id _ := by
    rw [sum_waiting_start]
    simp

namespace Counted

/-- A message with a row is handed over while its retry count leaves room for it. -/
theorem hands_present (h : Counted calls tasks s times) (hr : calls[i]? = some r)
    (hfree : (s i).underway = none)
    (hown : r.commandId = some task.id ∧ (s i).attempted = false ∨
      r.commandId = none ∧ task ∈ (s i).read) {row : SMSTask}
    (hrow : tasks.row task.id = some row)
    (hcounts : AttemptCounts calls s (times task.id) i task row) :
    times task.id ≤ task.maxRetries ∧ row.retryCount ≤ task.retryCount + 1 ∧
      times task.id ≤ task.retryCount + 1 := by
  obtain ⟨hothers, hattempt⟩ := hcounts
  split_ifs at hattempt with hpass
  · obtain rfl : r = .retryPass := Option.some.inj (hr.symm.trans hpass)
    subst hattempt
    have hread : row ∈ (s i).read := by
      rcases hown with ⟨hcommand, -⟩ | ⟨-, hread⟩
      · cases hcommand
      · exact hread
    have hretryable := (h.read i _ hr row hread).2 rfl
    have hnone : NoneUnderway calls s row.id := by
      intro j hj task htask
      by_cases hji : j = i
      · rw [hji, hfree] at htask
        cases htask
      · exact hothers j hj hji task htask
    have hle := h.failed row.id row hrow hretryable.1 hnone
    have hlt := hretryable.2
    omega
  · omega

/-- A message without a row is handed over by one of the commands for it. -/
theorem hands_absent (h : Counted calls tasks s times) (hr : calls[i]? = some r)
    (hown : r.commandId = some task.id ∧ (s i).attempted = false ∨
      r.commandId = none ∧ task ∈ (s i).read)
    (hrow : tasks.row task.id = none) :
    r.commandId = some task.id ∧ (s i).attempted = false ∧ times task.id + 1 ≤ copies calls task.id := by
  obtain ⟨hcommand, hover⟩ : r.commandId = some task.id ∧ (s i).attempted = false := by
    refine hown.resolve_right fun hread => ?_
    have hsome := (h.read i r hr task hread.2).1
    rw [hrow] at hsome
    cases hsome
  refine ⟨hcommand, hover, ?_⟩
  have hlt : i < calls.length := (List.getElem?_eq_some_iff.1 hr).1
  have hone : waiting calls s task.id i = 1 := by
    rw [waiting, hr]
    exact if_pos ⟨hcommand, hover⟩
  have hle := single_le_sum (f := waiting calls s task.id)
    (fun j _ => waiting_nonneg calls s task.id j) (mem_range.2 hlt)
  have habsent := h.absent task.id hrow
  omega

/-- **A task is handed over**, in an attempt that counts. -/
theorem hands (h : Counted calls tasks s times) (hr : calls[i]? = some r)
    (hfree : (s i).underway = none)
    (hown : r.commandId = some task.id ∧ (s i).attempted = false ∨
      r.commandId = none ∧ task ∈ (s i).read)
    (hcounts : ∀ row, tasks.row task.id = some row →
      AttemptCounts calls s (times task.id) i task row) :
    Counted calls tasks (Function.update s i ((s i).hand task))
      (Function.update times task.id (times task.id + 1)) := by
  have hlt : i < calls.length := (List.getElem?_eq_some_iff.1 hr).1
  refine ⟨fun j r' hr' t ht => ?_, fun id row hrow hstatus hnone => ?_,
    fun j hj t row hunder hrow => ?_, fun j hj k hk t t' hunder hunder' hid hsome => ?_,
    fun id hrow => ?_⟩
  · by_cases hji : j = i
    · subst hji
      rw [Function.update_self] at ht
      exact h.read j r' hr' t ht
    · rw [Function.update_of_ne hji] at ht
      exact h.read j r' hr' t ht
  · have hid : id ≠ task.id := by
      rintro rfl
      refine hnone i hlt task ?_ rfl
      rw [Function.update_self]
      rfl
    rw [Function.update_of_ne hid]
    refine h.failed id row hrow hstatus fun j hj t ht => ?_
    by_cases hji : j = i
    · rw [hji, hfree] at ht
      cases ht
    · exact hnone j hj t (by rw [Function.update_of_ne hji]; exact ht)
  · by_cases hji : j = i
    · subst hji
      rw [Function.update_self] at hunder
      obtain rfl : task = t := Option.some.inj hunder
      rw [Function.update_self]
      have hpresent := h.hands_present hr hfree hown hrow (hcounts row hrow)
      omega
    · rw [Function.update_of_ne hji] at hunder
      have hid : t.id ≠ task.id := by
        intro hid
        rw [hid] at hrow
        exact (hcounts row hrow).1 j hj hji t hunder hid
      rw [Function.update_of_ne hid]
      exact h.underway j hj t row hunder hrow
  · obtain ⟨row, hrow⟩ := Option.isSome_iff_exists.1 hsome
    by_cases hji : j = i <;> by_cases hki : k = i
    · rw [hji, hki]
    · rw [hji, Function.update_self] at hunder
      rw [Function.update_of_ne hki] at hunder'
      obtain rfl : task = t := Option.some.inj hunder
      exact absurd hid.symm ((hcounts row hrow).1 k hk hki t' hunder')
    · rw [Function.update_of_ne hji] at hunder
      rw [hki, Function.update_self] at hunder'
      obtain rfl : task = t' := Option.some.inj hunder'
      rw [hid] at hrow
      exact absurd hid ((hcounts row hrow).1 j hj hji t hunder)
    · rw [Function.update_of_ne hji] at hunder
      rw [Function.update_of_ne hki] at hunder'
      exact h.alone j hj k hk t t' hunder hunder' hid hsome
  · have habsent := h.absent id hrow
    have hsum := sum_of_eq_off hlt (f := waiting calls s id)
      (g := waiting calls (Function.update s i ((s i).hand task)) id)
      fun j hj => by rw [waiting, waiting, Function.update_of_ne hj]
    have hover : waiting calls
        (Function.update s i ((s i).hand task)) id i = 0 := by
      rw [waiting, Function.update_self]
      exact if_neg fun hwaits => Bool.noConfusion hwaits.2
    by_cases hid : id = task.id
    · subst hid
      obtain ⟨hcommand, hbefore, -⟩ := h.hands_absent hr hown hrow
      have hone : waiting calls s task.id i = 1 := by
        rw [waiting, hr]
        exact if_pos ⟨hcommand, hbefore⟩
      rw [Function.update_self]
      push_cast
      omega
    · have hzero : waiting calls s id i = 0 := by
        rw [waiting, hr]
        refine if_neg fun hwaits => ?_
        have hwaits : r.commandId = some id := hwaits.1
        rcases hown with ⟨hcommand, -⟩ | ⟨hcommand, -⟩
        · rw [hcommand] at hwaits
          exact hid (Option.some.inj hwaits).symm
        · rw [hcommand] at hwaits
          cases hwaits
      rw [Function.update_of_ne hid]
      omega

/-- **A command that hands nothing over** leaves the bounds, if a failure is counted and the count
stays within what the attempts under way allow. -/
theorem keeps (h : Counted calls tasks s times) {β : Type} {e : PhoneCmd β}
    (hrow : ∀ id, ∃ f : SMSTask → SMSTask, tasks'.row id = (tasks.row id).map f ∧
      ∀ row, (f row).status = (e.writes id).getD row.status ∧
        (f row).retryCount = (e.counts id).getD row.retryCount)
    (hread : ∀ j r, calls[j]? = some r → ∀ task ∈ (s' j).read, task ∈ (s j).read ∨
      (tasks.row task.id).isSome ∧ (r = .retryPass → task.Retryable))
    (hover : ∀ j, (s' j).attempted = (s j).attempted)
    (hunder : ∀ j task, (s' j).underway = some task → (s j).underway = some task)
    (hended : ∀ j task, (s j).underway = some task →
      (s' j).underway = some task ∨ (e.writes task.id).isSome)
    (hfails : ∀ id row, tasks.row id = some row → e.writes id = some .failed →
      times id ≤ (e.counts id).getD row.retryCount + 1)
    (hcount : ∀ j < calls.length, ∀ task row, (s' j).underway = some task →
      tasks.row task.id = some row → (e.counts task.id).getD row.retryCount ≤ task.retryCount + 1) :
    Counted calls tasks' s' times := by
  refine ⟨fun j r hr task htask => ?_, fun id row' hrow' hstatus hnone => ?_,
    fun j hj task row' htask hrow' => ?_, fun j hj k hk task task' htask htask' hid hsome => ?_,
    fun id hnone => ?_⟩
  · obtain ⟨hsome, hretryable⟩ : (tasks.row task.id).isSome ∧ (r = .retryPass → task.Retryable) := by
      rcases hread j r hr task htask with hold | hnew
      · exact h.read j r hr task hold
      · exact hnew
    obtain ⟨f, hf, -⟩ := hrow task.id
    rw [hf, Option.isSome_map]
    exact ⟨hsome, hretryable⟩
  · obtain ⟨f, hf, hspec⟩ := hrow id
    rw [hf] at hrow'
    obtain ⟨row, hrow, rfl⟩ := Option.map_eq_some_iff.1 hrow'
    rw [(hspec row).2]
    rw [(hspec row).1] at hstatus
    cases hwrites : e.writes id with
    | some status =>
      rw [hwrites] at hstatus
      exact hfails id row hrow (by rw [hwrites, ← hstatus]; rfl)
    | none =>
      rw [hwrites] at hstatus
      rw [counts_of_writes hwrites]
      refine h.failed id row hrow hstatus fun j hj task htask hid => ?_
      rcases hended j task htask with hstill | hwritten
      · exact hnone j hj task hstill hid
      · rw [hid, hwrites] at hwritten
        cases hwritten
  · obtain ⟨f, hf, hspec⟩ := hrow task.id
    rw [hf] at hrow'
    obtain ⟨row, hrow, rfl⟩ := Option.map_eq_some_iff.1 hrow'
    rw [(hspec row).2]
    exact ⟨hcount j hj task row htask hrow, (h.underway j hj task row (hunder j task htask) hrow).2⟩
  · obtain ⟨f, hf, -⟩ := hrow task.id
    rw [hf, Option.isSome_map] at hsome
    exact h.alone j hj k hk task task' (hunder j task htask) (hunder k task' htask') hid hsome
  · obtain ⟨f, hf, -⟩ := hrow id
    rw [hf, Option.map_eq_none_iff] at hnone
    have hsame : waiting calls s' id = waiting calls s id := by
      funext j
      rw [waiting, waiting, hover]
    rw [hsame]
    exact h.absent id hnone

end Counted

end Counted

/-! ## Runs -/

section Runs

variable {deviceId : String} {calls : List Routine} {w : Phone} {sched : List ℕ}
  {P : Pool PhoneCmd Phone Unit} {i : ℕ} {r : Routine} {β : Type} {e : PhoneCmd β}
  {k : β → PhoneProg Unit}

/-- A task was not handed over more often than it may be tried again. -/
def WithinRetries (log : List (ℕ × Event PhoneCmd)) (x : ℕ × Event PhoneCmd) : Prop :=
  ∀ task, handed x.2 = some task → timesHanded task.id (log.map (·.2)) ≤ task.maxRetries

/-- No retry count decreases. -/
def CountsKept (P P' : Pool PhoneCmd Phone Unit) : Prop :=
  ∀ id row, P.state.tasks.row id = some row →
    ∃ row', P'.state.tasks.row id = some row' ∧ row.retryCount ≤ row'.retryCount

/-- **Retries are bounded**: a task is handed over at most as often as it may be tried again and once
more, and no step of the run makes a retry count decrease. -/
structure RetriesBounded (deviceId : String) (calls : List Routine) (w : Phone) (sched : List ℕ) :
    Prop where
  handed : Justified WithinRetries ((start (calls.map (Routine.prog deviceId)) w).run phone sched).log
  counts : EachStep phone (fun P i => CountsKept P (P.step phone i))
    (start (calls.map (Routine.prog deviceId)) w) sched

/-- How often each message was handed over. -/
def timesOf (P : Pool PhoneCmd Phone Unit) (id : String) : ℕ := timesHanded id (P.log.map (·.2))

/-- The retry counts bound how often the messages of a pool were handed over. -/
abbrev CountedIn (calls : List Routine) (P : Pool PhoneCmd Phone Unit) : Prop :=
  Counted calls P.state.tasks (attemptsOf P) (timesOf P)

theorem attemptsOf_advance :
    attemptsOf (P.advance phone i e k) = Function.update (attemptsOf P) i
      ((attemptsOf P i).next ⟨e, (phone.step e P.state).1⟩) := phase_advance

theorem timesOf_advance (id : String) : timesOf (P.advance phone i e k) id =
    timesOf P id + if (handed ⟨e, (phone.step e P.state).1⟩).any (·.id = id) then 1 else 0 := by
  simp [timesOf, timesHanded, Pool.advance, List.countP_append, List.countP_singleton]

/-- A task that is handed over was not handed over too often. -/
theorem CountedIn.within (h : CountedIn calls P) (hr : calls[i]? = some r)
    (hallows : Attempting r (attemptsOf P i) e) (hcounts : EachCounts calls P i e) (reply : β) :
    WithinRetries P.log (i, ⟨e, reply⟩) := by
  intro task hhanded
  cases e
  case sendTextMessage task' parts =>
    obtain rfl : task' = task := Option.some.inj hhanded
    cases hrow : P.state.tasks.row task'.id with
    | none =>
      have habsent := (h.hands_absent hr hallows.2 hrow).2.2
      have hfew := hcounts.1 hrow
      change timesOf P task'.id ≤ _
      omega
    | some row => exact (h.hands_present hr hallows.1 hallows.2 hrow (hcounts.2 row hrow)).1
  all_goals cases hhanded

/-- The retry count of a task under way is at most what an exception makes it. -/
theorem CountedIn.countsKept (h : CountedIn calls P) (hr : calls[i]? = some r)
    (hallows : Attempting r (attemptsOf P i) e) (hcounts : EachCounts calls P i e) :
    CountsKept P (P.advance phone i e k) := by
  intro id row hrow
  obtain ⟨f, hf, hspec⟩ := row_step e P.state id
  refine ⟨f row, ?_, ?_⟩
  · change (phone.step e P.state).2.tasks.row id = _
    rw [hf, hrow]
    rfl
  · rw [(hspec row).2]
    cases e
    case markFailed id' retryCount error =>
      rw [PhoneCmd.counts]
      split_ifs with hid
      · subst hid
        have hlt : i < calls.length := (List.getElem?_eq_some_iff.1 hr).1
        change row.retryCount ≤ retryCount
        change if r.sends = true then _ else _ at hallows
        split_ifs at hallows with hsends
        · obtain ⟨task, hunder, hid, rfl⟩ := hallows
          exact (h.underway i hlt task row hunder (by rw [hid]; exact hrow)).1
        · refine (hcounts ?_ row hrow).1
          rw [hr]
          simpa using hsends
      · exact le_rfl
    all_goals exact le_rfl

/-- A command that hands nothing over keeps the bounds, if a failure that it writes down is counted. -/
theorem CountedIn.advance_of (h : CountedIn calls P) (hr : calls[i]? = some r)
    (hhands : handed ⟨e, (phone.step e P.state).1⟩ = none) {t : Attempts}
    (ht : (attemptsOf P i).next ⟨e, (phone.step e P.state).1⟩ = t)
    (hread : ∀ task ∈ t.read, task ∈ (attemptsOf P i).read ∨
      (P.state.tasks.row task.id).isSome ∧ (r = .retryPass → task.Retryable))
    (hover : t.attempted = (attemptsOf P i).attempted)
    (hunder : ∀ task, t.underway = some task → (attemptsOf P i).underway = some task)
    (hended : ∀ task, (attemptsOf P i).underway = some task →
      t.underway = some task ∨ (e.writes task.id).isSome)
    (hfails : ∀ id row, P.state.tasks.row id = some row → e.writes id = some .failed →
      timesOf P id ≤ (e.counts id).getD row.retryCount + 1)
    (hcount : ∀ j < calls.length, ∀ task row,
      (Function.update (attemptsOf P) i t j).underway = some task →
        P.state.tasks.row task.id = some row →
          (e.counts task.id).getD row.retryCount ≤ task.retryCount + 1) :
    CountedIn calls (P.advance phone i e k) := by
  have htimes : timesOf (P.advance phone i e k) = timesOf P := by
    funext id
    rw [timesOf_advance, hhands]
    rfl
  rw [CountedIn, htimes, attemptsOf_advance, ht]
  refine Counted.keeps h (row_step e P.state) (fun j r' hr' task htask => ?_) (fun j => ?_)
    (fun j task htask => ?_) (fun j task htask => ?_) hfails hcount
  · by_cases hji : j = i
    · subst hji
      obtain rfl : r = r' := Option.some.inj (hr.symm.trans hr')
      rw [Function.update_self] at htask
      exact hread task htask
    · rw [Function.update_of_ne hji] at htask
      exact .inl htask
  · by_cases hji : j = i
    · rw [hji, Function.update_self, hover]
    · rw [Function.update_of_ne hji]
  · by_cases hji : j = i
    · subst hji
      rw [Function.update_self] at htask
      exact hunder task htask
    · rw [Function.update_of_ne hji] at htask
      exact htask
  · by_cases hji : j = i
    · subst hji
      rw [Function.update_self]
      exact hended task htask
    · rw [Function.update_of_ne hji]
      exact .inl htask

/-- What is under way when a result is written down. -/
theorem Attempts.underway_conclude {s : Attempts} {task : SMSTask} {id : String} :
    (s.conclude id).underway = some task ↔ s.underway = some task ∧ task.id ≠ id := by
  simp [Attempts.conclude]

/-- A failure that is written down and counted keeps the bounds. -/
theorem CountedIn.advance_markFailed (h : CountedIn calls P) (hr : calls[i]? = some r) {id : String}
    {retryCount : ℕ} {error : Option String} {k : Unit → PhoneProg Unit}
    (hallows : Attempting r (attemptsOf P i) (.markFailed id retryCount error))
    (hcounts : EachCounts calls P i (.markFailed id retryCount error)) :
    CountedIn calls (P.advance phone i (.markFailed id retryCount error) k) := by
  have hlt : i < calls.length := (List.getElem?_eq_some_iff.1 hr).1
  change if r.sends = true then _ else _ at hallows
  -- the number of times that the message was handed over, and the attempts that are left under way
  have hspec (row : SMSTask) (hrow : P.state.tasks.row id = some row) :
      timesOf P id ≤ retryCount + 1 ∧ ∀ j < calls.length, ∀ task,
        (Function.update (attemptsOf P) i ((attemptsOf P i).conclude id) j).underway = some task →
          task.id = id → retryCount ≤ task.retryCount + 1 := by
    split_ifs at hallows with hsends
    · obtain ⟨own, hown, hid, rfl⟩ := hallows
      have hbound := h.underway i hlt own row hown (by rw [hid]; exact hrow)
      rw [hid] at hbound
      refine ⟨hbound.2, fun j hj task htask hsame => ?_⟩
      by_cases hji : j = i
      · rw [hji, Function.update_self, Attempts.underway_conclude] at htask
        exact absurd hsame htask.2
      · rw [Function.update_of_ne hji] at htask
        refine absurd (h.alone j hj i hlt task own htask hown (hsame.trans hid.symm) ?_) hji
        rw [hsame, hrow]
        rfl
    · have hfits := hcounts (by rw [hr]; simpa using hsends) row hrow
      refine ⟨hfits.2, fun j _ task _ _ => ?_⟩
      omega
  refine h.advance_of hr rfl rfl (fun task htask => .inl htask) rfl
    (fun task htask => (Attempts.underway_conclude.1 htask).1) (fun task htask => ?_)
    (fun id' row hrow hwrites => ?_) fun j hj task row htask hrow => ?_
  · by_cases hid : task.id = id
    · right
      rw [PhoneCmd.writes, if_pos hid]
      rfl
    · exact .inl (Attempts.underway_conclude.2 ⟨htask, hid⟩)
  · rw [PhoneCmd.writes] at hwrites
    split_ifs at hwrites with hid
    subst hid
    rw [PhoneCmd.counts, if_pos rfl]
    exact (hspec row hrow).1
  · rw [PhoneCmd.counts]
    split_ifs with hid
    · rw [hid] at hrow
      exact (hspec row hrow).2 j hj task htask hid
    · by_cases hji : j = i
      · rw [hji] at htask
        rw [Function.update_self] at htask
        exact (h.underway i hlt task row (Attempts.underway_conclude.1 htask).1 hrow).1
      · rw [Function.update_of_ne hji] at htask
        exact (h.underway j hj task row htask hrow).1

/-- A command that counts nothing keeps the bounds. -/
theorem CountedIn.advance_uncounted (h : CountedIn calls P) (hr : calls[i]? = some r)
    (hhands : handed ⟨e, (phone.step e P.state).1⟩ = none) (hcounts : ∀ id, e.counts id = none)
    (hfails : ∀ id, e.writes id ≠ some .failed) {t : Attempts}
    (ht : (attemptsOf P i).next ⟨e, (phone.step e P.state).1⟩ = t)
    (hread : ∀ task ∈ t.read, task ∈ (attemptsOf P i).read ∨
      (P.state.tasks.row task.id).isSome ∧ (r = .retryPass → task.Retryable))
    (hover : t.attempted = (attemptsOf P i).attempted)
    (hunder : ∀ task, t.underway = some task → (attemptsOf P i).underway = some task)
    (hended : ∀ task, (attemptsOf P i).underway = some task →
      t.underway = some task ∨ (e.writes task.id).isSome) :
    CountedIn calls (P.advance phone i e k) := by
  refine h.advance_of hr hhands ht hread hover hunder hended
    (fun id row _ hwrites => absurd hwrites (hfails id)) fun j hj task row htask hrow => ?_
  rw [hcounts]
  refine (h.underway j hj task row ?_ hrow).1
  by_cases hji : j = i
  · subst hji
    rw [Function.update_self] at htask
    exact hunder task htask
  · rwa [Function.update_of_ne hji] at htask

/-- A command that neither writes nor hands anything over keeps the bounds. -/
theorem CountedIn.advance_silent (h : CountedIn calls P) (hr : calls[i]? = some r)
    (hhands : handed ⟨e, (phone.step e P.state).1⟩ = none) (hwrites : ∀ id, e.writes id = none)
    (hread : ∀ task ∈ ((attemptsOf P i).next ⟨e, (phone.step e P.state).1⟩).read,
      task ∈ (attemptsOf P i).read ∨
        (P.state.tasks.row task.id).isSome ∧ (r = .retryPass → task.Retryable))
    (hover : ((attemptsOf P i).next ⟨e, (phone.step e P.state).1⟩).attempted =
      (attemptsOf P i).attempted)
    (hunder : ((attemptsOf P i).next ⟨e, (phone.step e P.state).1⟩).underway =
      (attemptsOf P i).underway) : CountedIn calls (P.advance phone i e k) :=
  h.advance_uncounted hr hhands (fun id => counts_of_writes (hwrites id))
    (fun id => by simp [hwrites id]) rfl hread hover (fun _ htask => hunder ▸ htask)
    fun _ htask => .inl (hunder ▸ htask)

/-- **A step keeps the bounds.** -/
theorem CountedIn.advance (h : CountedIn calls P) (hr : calls[i]? = some r)
    (hallows : Attempting r (attemptsOf P i) e) (hcounts : EachCounts calls P i e) :
    CountedIn calls (P.advance phone i e k) := by
  cases e
  case sendTextMessage task parts =>
    have htimes : timesOf (P.advance phone i (.sendTextMessage task parts) k) =
        Function.update (timesOf P) task.id (timesOf P task.id + 1) := by
      funext id
      rw [timesOf_advance, Function.update_apply]
      by_cases hid : id = task.id
      · simp [handed, hid]
      · simp [handed, hid, Ne.symm hid]
    have htasks : (P.advance phone i (.sendTextMessage task parts) k).state.tasks = P.state.tasks :=
      step_tasks_of_spares P.state trivial
    rw [CountedIn, htimes, attemptsOf_advance, htasks]
    exact h.hands hr hallows.1 hallows.2 hcounts.2
  case markFailed id retryCount error => exact h.advance_markFailed hr hallows hcounts
  case markSent id =>
    refine h.advance_uncounted hr rfl (fun _ => rfl) (fun id' hwrites => ?_) rfl
      (fun task htask => .inl htask) rfl (fun task htask => (Attempts.underway_conclude.1 htask).1)
      fun task htask => ?_
    · rw [PhoneCmd.writes] at hwrites
      split_ifs at hwrites
      cases hwrites
    · by_cases hid : task.id = id
      · right
        rw [PhoneCmd.writes, if_pos hid]
        rfl
      · exact .inl (Attempts.underway_conclude.2 ⟨htask, hid⟩)
  case markDelivered id =>
    refine h.advance_uncounted hr rfl (fun _ => rfl) (fun id' hwrites => ?_) rfl
      (fun task htask => .inl htask) rfl (fun _ htask => htask) fun task htask => .inl htask
    rw [PhoneCmd.writes] at hwrites
    split_ifs at hwrites
    cases hwrites
  case getRetryableTasks =>
    refine h.advance_silent hr rfl (fun _ => rfl) (fun task htask => .inr ?_) rfl rfl
    have hread : task ∈ P.state.tasks.getRetryableTasks := htask
    obtain ⟨hmem, hretryable⟩ := SMSTable.mem_getRetryableTasks hread
    rw [SMSTable.row_of_mem hmem]
    exact ⟨rfl, fun _ => hretryable⟩
  case getNextPending =>
    refine h.advance_silent hr rfl (fun _ => rfl) (fun task htask => .inr ?_) rfl rfl
    have hread : P.state.tasks.getNextQueued = some task := Option.mem_toList.1 htask
    obtain ⟨hmem, -⟩ := SMSTable.mem_of_getNextQueued hread
    rw [SMSTable.row_of_mem hmem]
    exact ⟨rfl, fun hpass => absurd hpass hallows⟩
  all_goals exact h.advance_silent hr rfl (fun _ => rfl) (fun task htask => .inl htask) rfl rfl

theorem countedIn_start (calls : List Routine) (ps : List (PhoneProg Unit)) (w : Phone) :
    CountedIn calls (start ps w) := counted_start calls w.tasks

/-- **Retries are bounded**, in runs in which every attempt counts. -/
theorem run_bounded (hcounts : EachStep phone (Meets (EachCounts calls))
    (start (calls.map (Routine.prog deviceId)) w) sched) : RetriesBounded deviceId calls w sched where
  handed := by
    refine (run_phases_inv (M := phone) (routines_attempting deviceId)
      (I := fun P => CountedIn calls P ∧ Justified WithinRetries P.log)
      ⟨countedIn_start calls _ w, justified_nil _⟩ hcounts
      fun P i r β e k hr hi hallows _ hP hG => ?_).2
    have hcount := meets_of_act hG hi
    exact ⟨hP.1.advance hr hallows hcount, hP.2.concat (hP.1.within hr hallows hcount _)⟩
  counts := by
    refine eachStep_phases (M := phone) (routines_attempting deviceId) (I := CountedIn calls)
      (fun P id row hrow => ⟨row, hrow, le_rfl⟩) (countedIn_start calls _ w) hcounts
      fun P i r β e k hr hi hallows hP hG => ?_
    have hcount := meets_of_act hG hi
    exact ⟨hP.advance hr hallows hcount, hP.countsKept hr hallows hcount⟩

end Runs

/-! ## A failed message that is tried again -/

/-- A phone with a task that has failed once. -/
def retryPhone : Phone := onePhone { pendingTask with status := .failed, retryCount := 1 }

/-- Two passes of the retry processor. -/
def twoPasses : List Routine := [.retryPass, .retryPass]

/-- The same phone, where the SMS manager throws an exception for the next message. -/
def failedOncePhone : Phone :=
  { retryPhone with
    env := List.replicate 5 Tick.quiet ++ [{ Tick.quiet with handed := .error none }] }

/-- One pass after the other. -/
def inTurn : List ℕ := List.replicate 12 0 ++ List.replicate 12 1

/-- The first pass fails and is counted, the second one succeeds. -/
theorem run_bounded_twoPasses : RetriesBounded "device-1" twoPasses failedOncePhone inTurn :=
  run_bounded (by decide)

/-- A message fails by a broadcast after each pass of the retry processor. -/
def failingBroadcasts : List Routine :=
  (List.replicate 5 [.retryPass, .broadcast ⟨"message-1", 1, SMSDeliveryReceiver.ACTION_SENT⟩]).flatten

/-- Each routine runs by itself. -/
def oneByOne : List ℕ := (List.range 10).flatMap fun i => List.replicate 12 i

/-- What the routines have done in the end. -/
def failingRun : Pool PhoneCmd Phone Unit :=
  (start (failingBroadcasts.map (Routine.prog "device-1")) retryPhone).run phone oneByOne

/-- The message is handed over for the fifth time. -/
theorem retries_not_bounded : ¬ RetriesBounded "device-1" failingBroadcasts retryPhone oneByOne := by
  intro hbounded
  have hfifth : (failingRun.log[61]?.bind fun x => handed x.2).map (fun task => (task.id, task.maxRetries)) =
      some ("message-1", 3) := by decide +kernel
  obtain ⟨task, htask, hmax⟩ := Option.map_eq_some_iff.1 hfifth
  obtain ⟨x, hx, hhanded⟩ := Option.bind_eq_some_iff.1 htask
  have hwithin := hbounded.handed 61 x hx task hhanded
  rw [Prod.mk.injEq] at hmax
  rw [hmax.1, hmax.2] at hwithin
  have hbefore : timesHanded "message-1" ((failingRun.log.take 61).map (·.2)) = 4 := by
    decide +kernel
  have hfour : 4 ≤ 3 := hbefore ▸ hwithin
  omega

end AeroxeBee.Android
