import AeroxeBee.Android.Routines

/-!
# Messages that are sent once

The broker may deliver a command more than once. The handler of the commands does not look whether
the message was sent before; the processors see only what the table says, which the receiver may set
back to a failure.

* `Settled`: what holds in all runs in which no routine starts to send what was sent;
* `run_notAgain`: in such runs a message that was reported sent is not handed over again.
-/

namespace AeroxeBee.Android

open Foundations Pool SMSEngine

variable {deviceId : String} {calls : List Routine} {w : Phone} {sched : List ℕ}

/-! ## Messages that were sent -/

/-- An event by which the engine reports that a message is sent. -/
def reports (calls : List Routine) (id : String) (x : ℕ × Event PhoneCmd) : Bool :=
  marked x.2 = some id && calls[x.1]?.any (·.sends)

/-- The engine has reported that a message is sent. -/
def reported (calls : List Routine) (log : List (ℕ × Event PhoneCmd)) (id : String) : Bool :=
  log.any (reports calls id)

/-- **A message is not handed over again**, if it was reported as sent. -/
def NotAgain (calls : List Routine) (log : List (ℕ × Event PhoneCmd)) (x : ℕ × Event PhoneCmd) :
    Prop :=
  ∀ task, handed x.2 = some task → reported calls log task.id = false

/-- Whether the last check of the engine has passed and the message is not handed over yet. -/
def poised (s : Bool) : Event PhoneCmd → Bool
  | ⟨.divideMessage _, parts⟩ => parts ≤ MAX_PARTS
  | ⟨.sendTextMessage _ _, _⟩ => false
  | _ => s

/-- No other handler of a command for the message is about to hand it over. -/
def NonePoised (calls : List Routine) (P : Pool PhoneCmd Phone Unit) (i : ℕ) (id : String) : Prop :=
  ∀ j < calls.length, j ≠ i → calls[j]?.bind Routine.commandId = some id → P.phase poised false j = false

instance (calls : List Routine) (P : Pool PhoneCmd Phone Unit) (i : ℕ) (id : String) :
    Decidable (NonePoised calls P i id) := inferInstanceAs (Decidable (∀ j < calls.length, _))

/-- No redelivered command passes the checks when its message was sent, and no message is reported
as sent while another handler of its command has passed them. The processors hand over what still has
the status with which they have read it, and no failure is written down for a message that was
sent. -/
def Once (calls : List Routine) (P : Pool PhoneCmd Phone Unit) (i : ℕ) :
    {β : Type} → PhoneCmd β → Prop
  | _, .divideMessage _ =>
    P.state.next.parts ≤ MAX_PARTS →
      ∀ id ∈ calls[i]?.bind Routine.commandId, reported calls P.log id = false
  | _, .sendTextMessage task _ =>
    ∀ status ∈ calls[i]?.bind Routine.reads, statusOf P.state task.id = some status
  | _, .markSent id => calls[i]?.any (·.sends) → NonePoised calls P i id
  | _, .markFailed id retryCount _ =>
    SMSTaskRepository.failedStatus retryCount = .failed → reported calls P.log id = false
  | _, _ => True

instance (calls : List Routine) (P : Pool PhoneCmd Phone Unit) (i : ℕ) {β : Type} (e : PhoneCmd β) :
    Decidable (Once calls P i e) :=
  match e with
  | .divideMessage _ =>
    inferInstanceAs (Decidable (_ → ∀ id ∈ calls[i]?.bind Routine.commandId, _))
  | .sendTextMessage .. =>
    inferInstanceAs (Decidable (∀ status ∈ calls[i]?.bind Routine.reads, _))
  | .markSent id => inferInstanceAs (Decidable (_ → NonePoised calls P i id))
  | .markFailed .. => inferInstanceAs (Decidable (_ → _ = false))
  | .now | .getDeviceId | .getSimSlot | .hasSmsPermission | .canSend .. | .getSmsManager ..
  | .recordSend .. | .markDelivered .. | .getNextPending | .getRetryableTasks
  | .updateRemoteStatus .. | .isConnected | .publish .. => isTrue trivial

/-! ## The handler of the commands -/

/-- What a routine may do: a handler of a command hands over its own message, after the checks. -/
def HandsOwn (r : Routine) (s : Bool) : {β : Type} → PhoneCmd β → Prop
  | _, .sendTextMessage task _ =>
    match r with
    | .message _ => s = true ∧ r.commandId = some task.id
    | .broadcast _ => False
    | _ => True
  | _, .markSent _ => r.commandId.isSome → s = false
  | _, _ => True

/-- A routine keeps to its own message. -/
def ownMessage (r : Routine) : Protocol PhoneCmd Bool where
  allows := HandsOwn r
  expects _ := True
  next := poised

theorem handOver_own (cmd : SMSCommand) (simSlot now : ℤ) (parts : ℕ) :
    (handOver (cmd.task simSlot now) parts).Keeps (ownMessage (.message (.sendSms cmd)))
      (fun s _ => s = false) true := by
  refine ⟨⟨rfl, rfl⟩, fun reply _ => ?_⟩
  cases reply with
  | ok _ => exact ⟨trivial, fun _ _ => ⟨fun _ => rfl, fun _ _ => rfl⟩⟩
  | error message => exact ⟨trivial, fun _ _ => rfl⟩

theorem send_own (cmd : SMSCommand) (simSlot now : ℤ) :
    (send (cmd.task simSlot now)).Keeps (ownMessage (.message (.sendSms cmd)))
      (fun s _ => s = false) false := by
  refine send_keeps (fun e he => ?_) (fun e b he => ?_) trivial ⟨rfl, rfl⟩ (fun parts hlong => ?_)
    fun parts hparts => ?_
  · cases e
    case sendTextMessage task parts => exact he.elim
    case markSent id => exact he.elim
    all_goals trivial
  · cases e
    case divideMessage message => exact he.elim
    all_goals rfl
  · exact decide_eq_false (not_le.2 hlong)
  · have hpoised : (ownMessage (.message (.sendSms cmd))).next false
        ⟨.divideMessage (cmd.task simSlot now).message, parts⟩ = true := decide_eq_true hparts
    rw [hpoised]
    exact handOver_own cmd simSlot now parts

/-- Every routine keeps to its own message. -/
theorem routine_own (deviceId : String) (r : Routine) :
    (r.prog deviceId).Keeps (ownMessage r) (fun _ _ => True) false := by
  cases r with
  | message payload =>
    refine processMqttMessage_keeps (fun s _ e he => ?_) (fun e b he => ?_)
      fun cmd hcmd simSlot now => ?_
    · cases e
      case sendTextMessage task parts => exact he.elim
      case markSent id => exact he.elim
      all_goals trivial
    · cases e
      case divideMessage message => exact he.elim
      all_goals rfl
    · rw [hcmd]
      exact (send_own cmd simSlot now).mono fun _ _ _ => trivial
  | retryPass | pendingTasks fuel =>
    refine Prog.keeps_of_only_forall (A := fun _ => True) (Prog.only_of_forall (fun _ => trivial) _)
      (fun s _ e _ => ?_) fun _ _ => trivial
    cases e
    case markSent id => exact fun hcommand => by cases hcommand
    all_goals trivial
  | broadcast b =>
    refine Prog.keeps_of_only_forall (onReceive_only b) (fun s _ e he => ?_) fun _ _ => trivial
    cases e
    case sendTextMessage task parts => exact he
    case markSent id => exact fun hcommand => by cases hcommand
    all_goals trivial

theorem routines_own (deviceId : String) :
    Phased (Routine.prog deviceId) ownMessage (fun _ _ _ => True) poised false where
  next_eq _ := rfl
  expects _ _ := trivial
  keeps := routine_own deviceId

/-! ## Runs -/

section Runs

variable {P : Pool PhoneCmd Phone Unit} {i : ℕ} {id : String} {β : Type} {e : PhoneCmd β}

theorem reported_concat (calls : List Routine) (log : List (ℕ × Event PhoneCmd))
    (x : ℕ × Event PhoneCmd) (id : String) :
    reported calls (log ++ [x]) id = (reported calls log id || reports calls id x) := by
  simp [reported]

theorem reports_iff {x : ℕ × Event PhoneCmd} :
    reports calls id x = true ↔ marked x.2 = some id ∧ calls[x.1]?.any (·.sends) = true := by
  rw [reports, Bool.and_eq_true, decide_eq_true_eq]

/-- **What was sent is settled**: a message that was reported as sent is not handed over again, its
row is not one that a processor reads, and no handler is about to hand it over. -/
structure Settled (calls : List Routine) (P : Pool PhoneCmd Phone Unit) : Prop where
  again : Justified (NotAgain calls) P.log
  row : ∀ id, reported calls P.log id = true →
    statusOf P.state id ≠ some .failed ∧ statusOf P.state id ≠ some .pending
  handlers : ∀ j id, calls[j]?.bind Routine.commandId = some id → P.phase poised false j = true →
    reported calls P.log id = false

theorem settled_start (calls : List Routine) (ps : List (PhoneProg Unit)) (w : Phone) :
    Settled calls (start ps w) where
  again := justified_nil _
  row id hreported := by cases hreported
  handlers _ _ _ _ := rfl

/-- What is handed over was not reported as sent. -/
theorem Settled.notAgain (hP : Settled calls P) {r : Routine} (hr : calls[i]? = some r)
    (hallows : HandsOwn r (P.phase poised false i) e) (honce : Once calls P i e) (reply : β) :
    NotAgain calls P.log (i, ⟨e, reply⟩) := by
  intro task hhanded
  cases e
  case sendTextMessage task' parts =>
    obtain rfl : task' = task := Option.some.inj hhanded
    have hread (status : Status) (hstatus : r.reads = some status) :
        statusOf P.state task'.id = some status :=
      honce status (by rw [hr]; exact hstatus)
    cases r with
    | message payload => exact hP.handlers i task'.id (by rw [hr]; exact hallows.2) hallows.1
    | retryPass =>
      by_contra hreported
      exact (hP.row task'.id (by simpa using hreported)).1 (hread .failed rfl)
    | pendingTasks fuel =>
      by_contra hreported
      exact (hP.row task'.id (by simpa using hreported)).2 (hread .pending rfl)
    | broadcast b => exact hallows.elim
  all_goals cases hhanded

/-- A step leaves the row of a message that was sent settled. -/
theorem Settled.row_step (hP : Settled calls P) (honce : Once calls P i e)
    (hreported : reported calls (P.log ++ [(i, ⟨e, (phone.step e P.state).1⟩)]) id = true) :
    statusOf (phone.step e P.state).2 id ≠ some .failed ∧
      statusOf (phone.step e P.state).2 id ≠ some .pending := by
  rw [reported_concat, Bool.or_eq_true] at hreported
  rw [statusOf_step]
  cases hwrites : e.writes id with
  | none =>
    have hbefore : reported calls P.log id = true := by
      refine hreported.resolve_right fun hnow => ?_
      have hmarked := (reports_iff.1 hnow).1
      cases e
      case markSent id' =>
        rw [PhoneCmd.writes, if_pos (Option.some.inj hmarked).symm] at hwrites
        cases hwrites
      all_goals cases hmarked
    simpa using hP.row id hbefore
  | some status =>
    have hstatus : status ≠ .failed ∧ status ≠ .pending := by
      cases e
      case markSent id' =>
        rw [PhoneCmd.writes] at hwrites
        split_ifs at hwrites
        obtain rfl := Option.some.inj hwrites
        simp
      case markDelivered id' =>
        rw [PhoneCmd.writes] at hwrites
        split_ifs at hwrites
        obtain rfl := Option.some.inj hwrites
        simp
      case markFailed id' retryCount error =>
        rw [PhoneCmd.writes] at hwrites
        split_ifs at hwrites with hid
        obtain rfl := Option.some.inj hwrites
        have hbefore : reported calls P.log id = true := by
          refine hreported.resolve_right fun hnow => ?_
          cases (reports_iff.1 hnow).1
        rw [hid] at hbefore
        have hfailed : SMSTaskRepository.failedStatus retryCount ≠ .failed := by
          intro hfailed
          rw [honce hfailed] at hbefore
          cases hbefore
        refine ⟨hfailed, ?_⟩
        unfold SMSTaskRepository.failedStatus
        split_ifs <;> simp
      all_goals cases hwrites
    cases statusOf P.state id with
    | none => simp
    | some old => simpa using hstatus

/-- **A step leaves what was sent settled.** -/
theorem Settled.advance (hP : Settled calls P) {r : Routine} {k : β → PhoneProg Unit}
    (hr : calls[i]? = some r) (hallows : HandsOwn r (P.phase poised false i) e)
    (honce : Once calls P i e) : Settled calls (P.advance phone i e k) where
  again := hP.again.concat (hP.notAgain hr hallows honce _)
  row id hreported := hP.row_step honce hreported
  handlers j id hj hpoised := by
    rw [phase_advance, Function.update_apply] at hpoised
    change reported calls (P.log ++ [_]) id = false
    rw [reported_concat]
    split_ifs at hpoised with hji
    · subst hji
      rw [hr] at hj
      cases e
      case divideMessage message =>
        have hfew : P.state.next.parts ≤ MAX_PARTS := of_decide_eq_true hpoised
        rw [honce hfew id (by rw [hr]; exact hj)]
        rfl
      case sendTextMessage task parts => cases hpoised
      case markSent id' =>
        have hcommand : r.commandId.isSome := by
          rw [show r.commandId = some id from hj]
          rfl
        have hnone := hallows hcommand
        rw [show P.phase poised false j = true from hpoised] at hnone
        cases hnone
      all_goals
        rw [hP.handlers j id (by rw [hr]; exact hj) hpoised]
        rfl
    · rw [hP.handlers j id hj hpoised, Bool.false_or]
      by_contra hnow
      obtain ⟨hmarked, hsends⟩ := reports_iff.1 (Bool.not_eq_false _ ▸ hnow)
      cases e
      case markSent id' =>
        have hid : id' = id := Option.some.inj hmarked
        have hlt : j < calls.length := by
          by_contra hge
          rw [List.getElem?_eq_none (not_lt.1 hge)] at hj
          cases hj
        have hnone := honce hsends j hlt hji (by rw [hid]; exact hj)
        rw [hpoised] at hnone
        cases hnone
      all_goals cases hmarked

end Runs

/-- **A message that was reported as sent is not handed over again**, in runs in which no routine
starts to send what was sent. -/
theorem run_notAgain
    (honce : EachStep phone (Meets (Once calls)) (start (calls.map (Routine.prog deviceId)) w) sched) :
    Justified (NotAgain calls) ((start (calls.map (Routine.prog deviceId)) w).run phone sched).log := by
  have hsettled := run_phases_inv (M := phone) (routines_own deviceId) (I := Settled calls)
    (settled_start calls _ w) honce fun P i r β e k hr hi hallows _ hP hG =>
      hP.advance hr hallows (meets_of_act hG hi)
  exact hsettled.again

/-! ## A command and its redelivery -/

/-- A command arrives, and a task that has failed is tried again; the message of the command is
delivered in the end. -/
def oneDelivery : List Routine :=
  [.message (.sendSms helloCommand), .retryPass,
    .broadcast ⟨"message-1", SMSDeliveryReceiver.RESULT_OK, SMSDeliveryReceiver.ACTION_DELIVERED⟩]

/-- A phone with a task that has failed once. -/
def failedPhone : Phone := onePhone { pendingTask with id := "message-2", status := .failed, retryCount := 1 }

/-- The handler and the retry processor take turns, then the result of the message comes in. -/
def takingTurns : List ℕ := (List.replicate 12 [0, 1]).flatten ++ List.replicate 4 2

/-- A message whose command arrives once is not handed over again. -/
theorem run_notAgain_oneDelivery :
    Justified (NotAgain oneDelivery)
      ((start (oneDelivery.map (Routine.prog "device-1")) failedPhone).run phone takingTurns).log :=
  run_notAgain (by decide)

/-- A command arrives, and once more after it was carried out. -/
def redelivery : List Routine := [.message (.sendSms helloCommand), .message (.sendSms helloCommand)]

/-- The handler carries out the command, and then its redelivery. -/
def carriedOutTwice : Pool PhoneCmd Phone Unit :=
  (start (redelivery.map (Routine.prog "device-1")) noTasks).run phone
    (List.replicate 10 0 ++ List.replicate 10 1)

/-- The message of a redelivered command is handed over again. -/
theorem handed_again : ¬ Justified (NotAgain redelivery) carriedOutTwice.log := by
  intro hagain
  have hsecond : (carriedOutTwice.log[15]?.bind fun x => handed x.2).map (·.id) = some "message-1" := by
    decide
  obtain ⟨task, htask, hid⟩ := Option.map_eq_some_iff.1 hsecond
  obtain ⟨x, hx, hhanded⟩ := Option.bind_eq_some_iff.1 htask
  have hnot := hagain 15 x hx task hhanded
  rw [hid] at hnot
  have hsent : reported redelivery (carriedOutTwice.log.take 15) "message-1" = true := by
    decide
  rw [hnot] at hsent
  cases hsent

end AeroxeBee.Android
