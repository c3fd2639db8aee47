import AeroxeBee.Scheduler.Concurrent
import AeroxeBee.Status.Outcomes

/-!
# Honest delivery statuses

A row should call a message delivered only if its delivery status says that the carrier has accepted
it or that it has probably arrived, and failed exactly if the delivery status says so. Every
routine of the server that writes to the table of messages runs here, in any number and interleaved
in any way. Neither the confidence of the worker nor the reports of the devices keep to this, and
what is missing is a condition on what is about to be written.

* `honestRow_run`, `settled_run`: what the statements preserve;
* `keeps_telling`: the worker tells the webhooks what it has written;
* `honest_run`: in a run in which nothing untruthful is written, the rows are honest and the webhooks
  are told of deliveries only.
-/

namespace AeroxeBee.Status

open Foundations Dispatch Api

/-! ## Honest rows and webhooks -/

/-- The delivery status stands for a delivery. -/
def isDelivered (status : DeliveryStatus) : Bool :=
  status = .carrierAccepted || status = .probableDelivered

/-- **The row is honest** about the delivery of its message. -/
structure HonestRow (m : Message) : Prop where
  delivered : m.status = "delivered" → isDelivered m.deliveryStatus = true
  deliveredAt : m.deliveredAt.isSome = true → isDelivered m.deliveryStatus = true
  failed : m.status = "failed" ↔ m.deliveryStatus = .failed
  defined : isTerminal m.deliveryStatus = true

/-- What the webhooks are told by an event. -/
def webhookOf : Event ServerCmd → Option WebhookPayload
  | ⟨.dispatchWebhooks _ payload, _⟩ => some payload
  | _ => none

/-- **Delivery is reported honestly**: all rows are honest, and the webhooks have been told of a
delivery only of messages whose delivery status stands for one. -/
structure Honest (P : Pool ServerCmd World Unit) : Prop where
  rows : ∀ m ∈ P.state.db.messages, HonestRow m
  webhooks : ∀ x ∈ P.log, ∀ payload, webhookOf x.2 = some payload →
    payload.event = "message.delivered" → isDelivered payload.deliveryStatus = true ∧
      ∀ m ∈ P.state.db.messages, m.id = payload.messageID → isDelivered m.deliveryStatus = true

/-! ## The routines -/

/-- Make a message that could not be handled pending again. -/
def retryDeadLetter (id : String) : ServerProg (Except String Unit) := do
  match ← Prog.call (.db (.deadLetterByID id)) with
  | .error e => return .error ("dead letter not found: " ++ e)
  | .ok none => return .error "dead letter not found: no rows in result set"
  | .ok (some letter) =>
    match ← Prog.call (.db (.retryMessage letter.messageID)) with
    | .error e => return .error e
    | .ok () => Prog.call (.db (.deleteDeadLetter id))

/-- Remove the messages whose time has come. -/
def deleteOld : ServerProg (Except String Unit) := do
  let now ← Prog.call .now
  Prog.call (.db (.deleteOld now))

/-- The routines that write to the table of messages. -/
inductive Routine where
  | request (caller : Caller) (r : Request)
  | dispatch (msg : QueueMessage)
  | http (body : Option StatusUpdateRequest)
  | mqtt (payload : Option StatusUpdateRequest)
  | round
  | retry (id : String)
  | cleanup

/-- The program, without its value. -/
def ignore {α : Type} (p : ServerProg α) : ServerProg Unit := do
  let _ ← p
  return ()

/-- The program of a routine. -/
def Routine.prog (svc : Services) (scan : ContentScan) : Routine → ServerProg Unit
  | request caller r => ignore (r.handle svc caller)
  | dispatch msg => ignore (processMessage svc.cfg scan msg)
  | http body => ignore (handleStatusUpdate body)
  | mqtt payload => mqttStatus payload
  | round => processDue svc
  | retry id => ignore (retryDeadLetter id)
  | cleanup => ignore deleteOld

/-- The message that a routine dispatches. -/
def Routine.dispatched : Routine → Option String
  | dispatch msg => some msg.id
  | _ => none

/-- Some of the routines dispatch the message. -/
def isDispatched (routines : List Routine) (id : String) : Bool :=
  routines.any fun r => r.dispatched = some id

/-- The routines, none of which has begun. -/
def serving (svc : Services) (scan : ContentScan) (routines : List Routine) (w : World) :
    Pool ServerCmd World Unit :=
  .start (routines.map (Routine.prog svc scan)) w

/-! ## Truthful writes -/

/-- **What is about to be written is true.** A delivery status that is written to a message, or that
the webhooks will be told of, stands for a delivery, and the write of a dispatch is executed; a
message that has been delivered is not marked as failed, and one that has failed is not made
pending again; and no new message has the id of one that is dispatched. -/
def truthful (routines : List Routine) (i : ℕ) (w : World) : {β : Type} → ServerCmd β → Bool
  | _, .db (.updateDeliveryStatus id status _ _) =>
    let dispatches := (routines[i]?.bind Routine.dispatched).isSome
    (!dispatches && !w.db.messages.any fun m => m.id = id) ||
      isDelivered status && (!dispatches || !w.next.fault.isRefused)
  | _, .db (.markFailed id _) => w.db.messages.all fun m => m.id ≠ id || m.deliveredAt.isNone
  | _, .db (.retryMessage id) => w.db.messages.all fun m => m.id ≠ id || m.deliveryStatus ≠ .failed
  | _, .db (.createMessage row) => !isDispatched routines row.id
  | _, _ => true

/-- The next command of a thread is truthful. -/
def Truthful (routines : List Routine) (P : Pool ServerCmd World Unit) (i : ℕ) : Prop :=
  match P.threads[i]? with
  | some (.act e _) => truthful routines i P.state e = true
  | _ => True

instance (routines : List Routine) (P : Pool ServerCmd World Unit) (i : ℕ) :
    Decidable (Truthful routines P i) := by
  unfold Truthful
  split <;> infer_instance

/-! ## What the statements preserve -/

/-- The messages with the id have been delivered. -/
def Settled (id : String) (db : Database) : Prop :=
  ∀ m ∈ db.messages, m.id = id → isDelivered m.deliveryStatus = true ∧ m.deliveredAt.isSome = true

variable {routines : List Routine} {i : ℕ} {w : World} {id : String}

theorem isTerminal_of_isDelivered {status : DeliveryStatus} (h : isDelivered status = true) :
    isTerminal status = true ∧ status ≠ .failed := by
  rcases Bool.or_eq_true_iff.1 h with h | h
  · rw [of_decide_eq_true h]
    decide
  · rw [of_decide_eq_true h]
    decide

/-- A change of one message keeps what it keeps of the changed rows. -/
theorem forall_updateMessage {db : Database} {f : Message → Message} {Q : Message → Prop}
    (hQ : ∀ m ∈ db.messages, Q m) (hf : ∀ m ∈ db.messages, m.id = id → Q (f m)) :
    ∀ m ∈ (db.updateMessage id f).messages, Q m := by
  intro m' hm'
  obtain ⟨m, hm, rfl⟩ := List.mem_map.1 hm'
  split_ifs with hid
  · exact hf m hm hid
  · exact hQ m hm

theorem honestRow_new {row : Message} (h : NewRow row) : HonestRow row := by
  obtain ⟨hstatus, hsent, hdelivered⟩ := h
  refine ⟨fun hd => ?_, fun hd => ?_, ?_, ?_⟩
  · rcases hstatus with hs | hs
    · exact absurd (hs.symm.trans hd) (by decide)
    · exact absurd (hs.symm.trans hd) (by decide)
  · rw [hdelivered] at hd
    cases hd
  · refine iff_of_false (fun hf => ?_) (by rw [hsent]; decide)
    rcases hstatus with hs | hs
    · exact absurd (hs.symm.trans hf) (by decide)
    · exact absurd (hs.symm.trans hf) (by decide)
  · rw [hsent]
    rfl

/-- What a routine stores is new. -/
def StoresNew : {β : Type} → ServerCmd β → Prop
  | _, .db (.createMessage row) => NewRow row
  | _, _ => True

/-- **The statements keep the rows honest** if what they write is true. -/
theorem honestRow_run (hrows : ∀ m ∈ w.db.messages, HonestRow m) {β : Type} {q : Query β}
    (hnew : StoresNew (.db q)) (htrue : truthful routines i w (.db q) = true) :
    ∀ m ∈ (q.run w.db).2.messages, HonestRow m := by
  cases q with
  | createMessage row =>
    intro m hm
    simp only [Query.run, Database.insertMessage] at hm
    split_ifs at hm
    · exact hrows m hm
    · exact hrows m hm
    · rcases List.mem_append.1 hm with hm | hm
      · exact hrows m hm
      · rw [List.mem_singleton.1 hm]
        exact honestRow_new hnew
  | updateDeliveryStatus id status confidence now =>
    refine forall_updateMessage hrows fun m hm hid => ?_
    have hdelivered : isDelivered status = true := by
      have hrow : (w.db.messages.any fun m => m.id = id) = true :=
        List.any_eq_true.2 ⟨m, hm, decide_eq_true hid⟩
      simp only [truthful, hrow, Bool.not_true, Bool.and_false, Bool.false_or,
        Bool.and_eq_true] at htrue
      exact htrue.1
    obtain ⟨hterminal, hnot⟩ := isTerminal_of_isDelivered hdelivered
    exact ⟨fun _ => hdelivered, fun _ => hdelivered,
      iff_of_false (by decide : ("delivered" : String) ≠ "failed") hnot, hterminal⟩
  | markFailed id reason =>
    refine forall_updateMessage hrows fun m hm hid => ?_
    have hnone : m.deliveredAt = none := by
      have hm' := List.all_eq_true.1 htrue m hm
      simpa [hid] using hm'
    refine ⟨fun hd => absurd hd (by decide : ("failed" : String) ≠ "delivered"), fun hd => ?_,
      iff_of_true rfl rfl, rfl⟩
    change m.deliveredAt.isSome = true at hd
    rw [hnone] at hd
    cases hd
  | updateDeviceID id deviceID =>
    exact forall_updateMessage hrows fun m hm _ =>
      ⟨(hrows m hm).delivered, (hrows m hm).deliveredAt, (hrows m hm).failed, (hrows m hm).defined⟩
  | releaseScheduled id =>
    refine forall_updateMessage hrows fun m hm _ => ?_
    split_ifs with hstatus
    · have hnot : m.deliveryStatus ≠ .failed := fun hf =>
        absurd (hstatus.symm.trans ((hrows m hm).failed.2 hf)) (by decide)
      exact ⟨fun hd => absurd hd (by decide : ("pending" : String) ≠ "delivered"),
        (hrows m hm).deliveredAt, iff_of_false (by decide : ("pending" : String) ≠ "failed") hnot,
        (hrows m hm).defined⟩
    · exact hrows m hm
  | retryMessage id =>
    refine forall_updateMessage hrows fun m hm hid => ?_
    have hnot : m.deliveryStatus ≠ .failed := by
      have hm' := List.all_eq_true.1 htrue m hm
      simpa [hid] using hm'
    exact ⟨fun hd => absurd hd (by decide : ("pending" : String) ≠ "delivered"),
      (hrows m hm).deliveredAt, iff_of_false (by decide : ("pending" : String) ≠ "failed") hnot,
      (hrows m hm).defined⟩
  | deleteOld now => exact fun m hm => hrows m (List.mem_of_mem_filter hm)
  | incrementUsage accountID date =>
    rw [show (Query.run w.db (.incrementUsage accountID date)).2.messages = w.db.messages from
      w.db.countUsage_messages accountID date]
    exact hrows
  | deleteTemplates ids =>
    intro m hm
    obtain ⟨row, hrow, heq⟩ := Query.mem_deleteTemplates hm
    rw [heq]
    exact ⟨(hrows row hrow).delivered, (hrows row hrow).deliveredAt, (hrows row hrow).failed,
      (hrows row hrow).defined⟩
  | deleteAccount id =>
    intro m hm
    obtain ⟨row, hrow, heq⟩ := Query.mem_deleteAccount hm
    rw [heq]
    exact ⟨(hrows row hrow).delivered, (hrows row hrow).deliveredAt, (hrows row hrow).failed,
      (hrows row hrow).defined⟩
  | _ => exact hrows

/-- **The statements leave a delivered message delivered** if what they write is true. -/
theorem settled_run (hid : isDispatched routines id = true) (h : Settled id w.db) {β : Type}
    {q : Query β} (htrue : truthful routines i w (.db q) = true) :
    Settled id (q.run w.db).2 := by
  cases q with
  | createMessage row =>
    intro m hm hmid
    simp only [Query.run, Database.insertMessage] at hm
    split_ifs at hm
    · exact h m hm hmid
    · exact h m hm hmid
    · rcases List.mem_append.1 hm with hm | hm
      · exact h m hm hmid
      · rw [List.mem_singleton.1 hm] at hmid
        have hnot : isDispatched routines row.id = false := by simpa [truthful] using htrue
        rw [hmid, hid] at hnot
        cases hnot
  | updateDeliveryStatus id' status confidence now =>
    refine forall_updateMessage (Q := fun m => m.id = id → _) h fun m hm hid' _ => ?_
    have hrow : (w.db.messages.any fun m => m.id = id') = true :=
      List.any_eq_true.2 ⟨m, hm, decide_eq_true hid'⟩
    simp only [truthful, hrow, Bool.not_true, Bool.and_false, Bool.false_or,
      Bool.and_eq_true] at htrue
    exact ⟨htrue.1, rfl⟩
  | markFailed id' reason =>
    refine forall_updateMessage (Q := fun m => m.id = id → _) h fun m hm hid' hmid => ?_
    have hnone : m.deliveredAt = none := by
      have hm' := List.all_eq_true.1 htrue m hm
      simpa [hid'] using hm'
    have hsome := (h m hm hmid).2
    rw [hnone] at hsome
    cases hsome
  | updateDeviceID id' deviceID =>
    exact forall_updateMessage (Q := fun m => m.id = id → _) h fun m hm _ hmid => h m hm hmid
  | releaseScheduled id' =>
    refine forall_updateMessage (Q := fun m => m.id = id → _) h fun m hm _ => ?_
    split_ifs
    · exact h m hm
    · exact h m hm
  | retryMessage id' =>
    exact forall_updateMessage (Q := fun m => m.id = id → _) h fun m hm _ hmid => h m hm hmid
  | deleteOld now => exact fun m hm => h m (List.mem_of_mem_filter hm)
  | incrementUsage accountID date =>
    unfold Settled
    rw [show (Query.run w.db (.incrementUsage accountID date)).2.messages = w.db.messages from
      w.db.countUsage_messages accountID date]
    exact h
  | deleteTemplates ids =>
    intro m hm hmid
    obtain ⟨row, hrow, heq⟩ := Query.mem_deleteTemplates hm
    rw [heq] at hmid ⊢
    exact h row hrow hmid
  | deleteAccount id' =>
    intro m hm hmid
    obtain ⟨row, hrow, heq⟩ := Query.mem_deleteAccount hm
    rw [heq] at hmid ⊢
    exact h row hrow hmid
  | _ => exact h

/-- A write that stands for a delivery leaves the message delivered. -/
theorem settled_updateDeliveryStatus (db : Database) (id : String) {status : DeliveryStatus}
    (h : isDelivered status = true) (confidence : ℚ) (now : ℤ) :
    Settled id (Query.run db (.updateDeliveryStatus id status confidence now)).2 := by
  intro m' hm' hid
  obtain ⟨m, hm, rfl⟩ := List.mem_map.1 hm'
  dsimp only at hid ⊢
  split_ifs at hid ⊢ with hmid
  · exact ⟨h, rfl⟩
  · exact absurd hid hmid

/-! ## What the routines do -/

section Routines

variable {svc : Services} {scan : ContentScan} {msg : QueueMessage}

theorem ignore_only {α : Type} {A : ∀ {β : Type}, ServerCmd β → Prop} {p : ServerProg α}
    (hp : p.Only A) : (ignore p).Only A :=
  hp.bind fun _ => trivial

/-- What a routine stores is new, and it tells the webhooks nothing. -/
def Plain : {β : Type} → ServerCmd β → Prop
  | _, .db (.createMessage row) => NewRow row
  | _, .dispatchWebhooks _ _ => False
  | _, _ => True

theorem Plain.storesNew {β : Type} {e : ServerCmd β} (h : Plain e) : StoresNew e := by
  cases e with
  | db q =>
    cases q with
    | createMessage row => exact h
    | _ => trivial
  | _ => trivial

theorem plain_of_own {keys : Prop} {accountID : String} {β : Type} {e : ServerCmd β}
    (h : Own keys accountID e) : Plain e := by
  cases e with
  | db q =>
    cases q with
    | createMessage row => exact h.2
    | _ => trivial
  | dispatchWebhooks _ _ => exact h.elim
  | _ => trivial

/-- What a report asks for. -/
def Asks : {β : Type} → ServerCmd β → Prop
  | _, .now | _, .db (.messageByID _) | _, .db (.updateDeliveryStatus _ _ _ _) => True
  | _, .db (.markFailed _ _) | _, .db (.updatePong _ _) | _, .db (.updateStatus _ _ _) => True
  | _, _ => False

theorem Asks.plain {β : Type} {e : ServerCmd β} (h : Asks e) : Plain e := by
  cases e with
  | db q =>
    cases q with
    | createMessage row => exact h.elim
    | _ => trivial
  | dispatchWebhooks _ _ => exact h.elim
  | _ => trivial

theorem forDevice_asks {deviceID : String} {p : String → ServerProg (Except String Unit)}
    (hp : (p deviceID).Only Asks) : (forDevice deviceID p).Only Asks := by
  unfold forDevice
  split_ifs
  · exact hp.bind fun _ => trivial
  · trivial

theorem recordReport_asks (req : StatusUpdateRequest) : (recordReport req).Only Asks := by
  unfold recordReport
  split_ifs
  · exact ⟨trivial, fun _ => ⟨trivial, fun _ => forDevice_asks
      ⟨trivial, fun _ => ⟨trivial, fun _ => trivial⟩⟩⟩⟩
  · exact ⟨trivial, fun _ => forDevice_asks (p := fun id => updateStatus id .offline)
      ⟨trivial, fun _ => ⟨trivial, fun _ => trivial⟩⟩⟩
  · trivial

theorem handleStatusUpdate_asks (body : Option StatusUpdateRequest) :
    (handleStatusUpdate body).Only Asks := by
  cases body with
  | none => trivial
  | some req => exact handleStatusUpdate_only trivial (recordReport_asks req)

theorem mqttStatus_asks (payload : Option StatusUpdateRequest) :
    (mqttStatus payload).Only Asks := by
  cases payload with
  | none => trivial
  | some report =>
    change Prog.Only _ (ite _ _ _)
    split_ifs
    · exact ⟨trivial, fun _ => ⟨trivial, fun _ => forDevice_asks
        ⟨trivial, fun _ => ⟨trivial, fun _ => trivial⟩⟩⟩⟩
    · exact ⟨trivial, fun _ => forDevice_asks ⟨trivial, fun _ => ⟨trivial, fun _ => trivial⟩⟩⟩
    · trivial

/-- What making a message pending again asks for. -/
def Revives : {β : Type} → ServerCmd β → Prop
  | _, .db (.deadLetterByID _) | _, .db (.retryMessage _) | _, .db (.deleteDeadLetter _) => True
  | _, _ => False

theorem Revives.plain {β : Type} {e : ServerCmd β} (h : Revives e) : Plain e := by
  cases e with
  | db q =>
    cases q with
    | createMessage row => exact h.elim
    | _ => trivial
  | dispatchWebhooks _ _ => exact h.elim
  | _ => trivial

theorem retryDeadLetter_revives (id : String) : (retryDeadLetter id).Only Revives := by
  refine ⟨trivial, fun reply => ?_⟩
  rcases reply with e | (_ | letter)
  · trivial
  · trivial
  · refine ⟨trivial, fun retried => ?_⟩
    cases retried with
    | error e => trivial
    | ok => exact ⟨trivial, fun _ => trivial⟩

theorem plain_of_releasing {s : Scheduler.Phase} {β : Type} {e : ServerCmd β}
    (h : Scheduler.releasing.allows s e) : Plain e := by
  cases e with
  | db q =>
    cases q with
    | createMessage row => cases s <;> exact h.elim
    | _ => trivial
  | dispatchWebhooks _ _ => cases s <;> exact h.elim
  | _ => trivial

/-- **Only a dispatch tells the webhooks anything**, and what the other routines store is new. -/
theorem Routine.plain {r : Routine} (hr : r.dispatched = none) {evs : List (Event ServerCmd)}
    {β : Type} {e : ServerCmd β} {k : β → ServerProg Unit}
    (hf : (r.prog svc scan).Follows evs (.act e k)) : Plain e := by
  cases r with
  | request caller r =>
    exact plain_of_own (hf.only (ignore_only (Request.handle_own svc caller r))).1
  | dispatch msg => cases hr
  | http body => exact (hf.only (ignore_only (handleStatusUpdate_asks body))).1.plain
  | mqtt payload => exact (hf.only (mqttStatus_asks payload)).1.plain
  | round =>
    exact plain_of_releasing
      (Prog.Keeps.of_follows hf (Scheduler.keeps_processDue svc) fun _ _ => trivial).1
  | retry id => exact (hf.only (ignore_only (retryDeadLetter_revives id))).1.plain
  | cleanup =>
    exact (hf.only (ignore_only (p := deleteOld) ⟨trivial, fun _ => ⟨trivial, fun _ => trivial⟩⟩)).1

/-- The delivery status that an event writes. -/
def storedBy : Event ServerCmd → Option DeliveryStatus
  | ⟨.db (.updateDeliveryStatus _ status _ _), _⟩ => some status
  | _ => none

/-- The state of a dispatch that notes the delivery status it has written last. Only this may be
told to the webhooks. -/
def telling (msg : QueueMessage) : Protocol ServerCmd (Option DeliveryStatus) where
  allows s := fun e =>
    match e with
    | .dispatchWebhooks _ payload =>
      payload.messageID = msg.id ∧ s = some payload.deliveryStatus
    | .db (.updateDeliveryStatus id _ _ _) => id = msg.id
    | .db (.createMessage _) => False
    | _ => True
  expects _ := True
  next s ev := (storedBy ev).or s

theorem storesNew_of_telling {s : Option DeliveryStatus} {β : Type} {e : ServerCmd β}
    (h : (telling msg).allows s e) : StoresNew e := by
  cases e with
  | db q =>
    cases q with
    | createMessage row => exact h.elim
    | _ => trivial
  | _ => trivial

theorem Idle.keeps_telling {α : Type} {p : ServerProg α} (hp : p.Only Idle)
    (s : Option DeliveryStatus) : p.Keeps (telling msg) (fun s' _ => s' = s) s := by
  refine Prog.Keeps.of_only hp (fun e he => ?_) fun e b he => ?_
  · cases e with
    | db q =>
      cases q with
      | eligibleDevices _ | deviceCostProfile _ | incrementUsage _ _ => trivial
      | _ => exact he.elim
    | dispatchWebhooks _ _ => exact he.elim
    | _ => trivial
  · cases e with
    | db q =>
      cases q with
      | eligibleDevices _ | deviceCostProfile _ | incrementUsage _ _ => rfl
      | _ => exact he.elim
    | _ => rfl

/-- The worker tells the webhooks what it has written. -/
theorem keeps_recordSent (device : Device) (s : Option DeliveryStatus) :
    (recordSent svc.cfg msg device).Keeps (telling msg) (fun _ _ => True) s := by
  refine ⟨trivial, fun _ _ => ⟨trivial, fun _ _ => ⟨rfl, fun _ _ => ⟨trivial, fun _ _ => ?_⟩⟩⟩⟩
  refine (Idle.keeps_telling (incrementDeviceCounters_idle _) _).bind fun s₁ _ hs₁ => ?_
  refine (Idle.keeps_telling (incrementGlobalThrottle_idle _ _) _).bind fun s₂ _ hs₂ => ?_
  refine ⟨trivial, fun _ _ => ⟨trivial, fun _ _ => ?_⟩⟩
  refine (Idle.keeps_telling (incrementUsage_idle _) _).bind fun s₃ _ hs₃ => ?_
  refine ⟨trivial, fun _ _ => ⟨⟨rfl, ?_⟩, fun _ _ => trivial⟩⟩
  change s₃ = some _
  rw [hs₃]
  change s₂ = some _
  rw [hs₂, hs₁]
  rfl

theorem keeps_attempt (device : Device) (s : Option DeliveryStatus) :
    (attempt svc.cfg msg device).Keeps (telling msg)
      (fun _ a => (a ≠ .sent → True) ∧ (a = .sent → True)) s := by
  have hsend (s : Option DeliveryStatus) : (trySend svc.cfg msg device).Keeps (telling msg)
      (fun _ r => (r ≠ .ok () → True) ∧ (r = .ok () → True)) s := by
    refine trySend_keeps_of (I := fun _ => True) (J := fun _ => True) (K := fun _ => True)
      (Q := fun _ => True) (fun s _ => ⟨trivial, fun _ _ => trivial⟩) (fun s _ => ?_) (fun s _ => ?_)
      (fun s _ => keeps_recordSent device s) trivial
    · exact ⟨trivial, fun now _ => ⟨trivial, fun reply _ => ⟨fun _ => trivial, fun _ => trivial⟩⟩⟩
    · exact (Idle.keeps_telling (recordFailed_idle device) s).mono fun _ _ _ => trivial
  refine attempt_keeps_of (I := fun _ => True) (Q := fun _ => True)
    (fun s _ => ⟨trivial, fun _ _ => trivial⟩) (fun s _ => ?_) trivial
  refine attemptClosed_keeps_of (J := fun _ => True) (K := fun _ => True) (fun s _ => ?_)
    (fun s _ => ?_) (fun s _ => hsend s) trivial
  · exact (Idle.keeps_telling (checkRates_idle device) s).mono fun _ _ _ => ⟨trivial, fun _ => trivial⟩
  · refine ⟨trivial, fun judged _ => ?_⟩
    change Prog.Keeps _ _ (ite _ _ _) _
    split_ifs
    · exact ⟨trivial, fun _ => trivial⟩
    · exact ⟨trivial, fun _ _ => ⟨trivial, fun _ => trivial⟩⟩
    · exact ⟨trivial, fun _ => trivial⟩

/-- **A dispatch tells the webhooks what it has written.** -/
theorem keeps_telling :
    (processMessage svc.cfg scan msg).Keeps (telling msg) (fun _ _ => True) none := by
  refine processMessage_keeps_of (I := fun _ => True) ?_ (fun d s _ => ?_) fun _ _ _ => trivial
  · exact (Idle.keeps_telling candidates_idle none).mono fun _ _ _ => trivial
  · exact keeps_attempt d s

end Routines

/-! ## What the steps preserve -/

/-- What holds while the routines run, if what they write is true: what a dispatch has written, and
what the webhooks have been told, is still so. -/
structure Telling (routines : List Routine) (P : Pool ServerCmd World Unit) : Prop where
  alone : Alone P.state
  rows : ∀ m ∈ P.state.db.messages, HonestRow m
  told : ∀ i ev msg, (i, ev) ∈ P.log → routines[i]? = some (.dispatch msg) →
    ∀ status, storedBy ev = some status → isDelivered status = true ∧ Settled msg.id P.state.db
  webhooks : ∀ x ∈ P.log, ∀ payload, webhookOf x.2 = some payload →
    isDelivered payload.deliveryStatus = true ∧ isDispatched routines payload.messageID = true ∧
      Settled payload.messageID P.state.db

theorem Telling.honest {P : Pool ServerCmd World Unit} (h : Telling routines P) : Honest P where
  rows := h.rows
  webhooks x hx payload hpayload _ := by
    obtain ⟨hdelivered, -, hsettled⟩ := h.webhooks x hx payload hpayload
    exact ⟨hdelivered, fun m hm hid => (hsettled m hm hid).1⟩

/-- What the statements preserve, a command preserves. -/
theorem step_rows {cfg : Config} {I : Database → Prop} {A : ∀ {β : Type}, ServerCmd β → Prop}
    (hw : Alone w) (h : I w.db)
    (hrun : ∀ {β : Type} (q : Query β), A (.db q) → I (q.run w.db).2) {β : Type}
    {e : ServerCmd β} (he : A e) : I ((server cfg).step e w).2.db := by
  cases e with
  | db q =>
    rcases hw.step_query cfg q with ⟨-, -, hdb⟩ | ⟨e, -, -, hdb⟩ | ⟨e, -, -, hdb⟩
    · rw [hdb]
      exact hrun q he
    · rw [hdb]
      exact h
    · rw [hdb]
      exact hrun q he
  | _ =>
    rw [step_db]
    exact (congrArg I hw.tick_db).mpr h

theorem isDispatched_of {msg : QueueMessage} (h : routines[i]? = some (.dispatch msg)) :
    isDispatched routines msg.id = true :=
  List.any_eq_true.2 ⟨_, List.mem_of_getElem? h, decide_eq_true rfl⟩

/-- The last delivery status that a dispatch has written. -/
theorem foldl_stored {evs : List (Event ServerCmd)} {s : Option DeliveryStatus}
    {msg : QueueMessage} {status : DeliveryStatus}
    (h : evs.foldl (telling msg).next s = some status) :
    s = some status ∨ ∃ ev ∈ evs, storedBy ev = some status := by
  induction evs generalizing s with
  | nil => exact .inl h
  | cons ev evs ih =>
    rcases ih h with hs | ⟨ev', hev', hstored⟩
    · change (storedBy ev).or s = some status at hs
      cases hev : storedBy ev with
      | none =>
        rw [hev] at hs
        exact .inl hs
      | some status' =>
        rw [hev] at hs
        exact .inr ⟨ev, List.mem_cons_self, hev.trans hs⟩
    · exact .inr ⟨ev', List.mem_cons_of_mem _ hev', hstored⟩

/-- What a dispatch writes, it has written: the message is delivered after the write. -/
theorem settled_of_truthful {cfg : Config} {msg : QueueMessage} (hw : Alone w)
    (hr : routines[i]? = some (.dispatch msg)) {β : Type} {e : ServerCmd β}
    (hallows : ∃ s, (telling msg).allows s e) (htrue : truthful routines i w e = true)
    {status : DeliveryStatus} (hstored : storedBy ⟨e, ((server cfg).step e w).1⟩ = some status) :
    isDelivered status = true ∧ Settled msg.id ((server cfg).step e w).2.db := by
  cases e with
  | db q =>
    cases q with
    | updateDeliveryStatus id status' confidence now =>
      obtain rfl : status' = status := Option.some.inj hstored
      obtain ⟨s, rfl⟩ := hallows
      have hdispatches : (routines[i]?.bind Routine.dispatched).isSome = true := by rw [hr]; rfl
      simp only [truthful, hdispatches, Bool.not_true, Bool.false_and, Bool.false_or,
        Bool.and_eq_true, Bool.not_eq_true'] at htrue
      refine ⟨htrue.1, ?_⟩
      have hsettled := settled_updateDeliveryStatus w.db msg.id htrue.1 confidence now
      rcases hw.step_query cfg (.updateDeliveryStatus msg.id status' confidence now) with
        ⟨-, -, hdb⟩ | ⟨e, hfault, -, -⟩ | ⟨e, -, -, hdb⟩
      · rw [hdb]
        exact hsettled
      · rw [hfault] at htrue
        cases htrue.2
      · rw [hdb]
        exact hsettled
    | _ => cases hstored
  | _ => cases hstored

/-- **What a step of a routine preserves**, if what it writes is true. -/
theorem Telling.step {svc : Services} {scan : ContentScan} {P : Pool ServerCmd World Unit}
    (h : Telling routines P) {r : Routine} (hr : routines[i]? = some r) {β : Type}
    {e : ServerCmd β} {k : β → ServerProg Unit}
    (hf : (r.prog svc scan).Follows (Pool.eventsOf i P.log) (.act e k))
    (htrue : truthful routines i P.state e = true) :
    Telling routines (P.advance (server svc.cfg) i e k) := by
  have hlast {msg : QueueMessage} (hmsg : r = .dispatch msg) : (telling msg).allows
      ((Pool.eventsOf i P.log).foldl (telling msg).next none) e := by
    subst hmsg
    have hkeeps : (ignore (processMessage svc.cfg scan msg)).Keeps (telling msg)
        (fun _ _ => True) none := keeps_telling.bind fun _ _ _ => trivial
    exact (Prog.Keeps.of_follows hf hkeeps fun _ _ => trivial).1
  have hnew : StoresNew e := by
    cases hd : r.dispatched with
    | none => exact (Routine.plain hd hf).storesNew
    | some id =>
      cases r with
      | dispatch msg => exact storesNew_of_telling (hlast rfl)
      | _ => cases hd
  have hrows : ∀ m ∈ ((server svc.cfg).step e P.state).2.db.messages, HonestRow m :=
    step_rows (A := fun e => StoresNew e ∧ truthful routines i P.state e = true)
      (I := fun db => ∀ m ∈ db.messages, HonestRow m) h.alone h.rows
      (fun _ hq => honestRow_run h.rows hq.1 hq.2) ⟨hnew, htrue⟩
  have hsettled {id : String} (hid : isDispatched routines id = true)
      (hs : Settled id P.state.db) : Settled id ((server svc.cfg).step e P.state).2.db :=
    step_rows (A := fun e => truthful routines i P.state e = true) (I := Settled id) h.alone hs
      (fun _ hq => settled_run hid hs hq) htrue
  have htold : ∀ j ev msg, (j, ev) ∈ P.log ++ [(i, ⟨e, ((server svc.cfg).step e P.state).1⟩)] →
      routines[j]? = some (.dispatch msg) → ∀ status, storedBy ev = some status →
        isDelivered status = true ∧ Settled msg.id ((server svc.cfg).step e P.state).2.db := by
    intro j ev msg hmem hj status hstored
    rcases List.mem_append.1 hmem with hmem | hmem
    · obtain ⟨hdelivered, hs⟩ := h.told j ev msg hmem hj status hstored
      exact ⟨hdelivered, hsettled (isDispatched_of hj) hs⟩
    · obtain ⟨rfl, rfl⟩ := Prod.mk.inj (List.mem_singleton.1 hmem)
      obtain rfl := Option.some.inj (hr.symm.trans hj)
      exact settled_of_truthful h.alone hj ⟨_, hlast rfl⟩ htrue hstored
  refine ⟨h.alone.step e, hrows, htold, fun x hx payload hpayload => ?_⟩
  rcases List.mem_append.1 hx with hx | hx
  · obtain ⟨hdelivered, hid, hs⟩ := h.webhooks x hx payload hpayload
    exact ⟨hdelivered, hid, hsettled hid hs⟩
  · obtain rfl := List.mem_singleton.1 hx
    cases e with
    | dispatchWebhooks accountID payload' =>
      obtain rfl : payload' = payload := Option.some.inj hpayload
      -- only a dispatch does this, and it has written what it tells
      cases hd : r.dispatched with
      | none => exact (Routine.plain hd hf).elim
      | some id =>
        cases r with
        | dispatch msg =>
          obtain ⟨hid, hstatus⟩ := hlast rfl
          rcases foldl_stored hstatus with hnone | ⟨ev, hev, hstored⟩
          · cases hnone
          · obtain ⟨hdelivered, hs⟩ := h.told i ev msg (Pool.mem_eventsOf.1 hev) hr _ hstored
            rw [hid]
            exact ⟨hdelivered, isDispatched_of hr, hsettled (isDispatched_of hr) hs⟩
        | _ => cases hd
    | _ => cases hpayload

/-- **Delivery is reported honestly** in every state of every run of any number of routines, however
they interleave and whatever fails, if each step of the run writes what is true. -/
theorem honest_run (svc : Services) (scan : ContentScan) (routines : List Routine) (w : World)
    (hw : Alone w) (hrows : ∀ m ∈ w.db.messages, HonestRow m) (sched : List ℕ)
    (h : Pool.EachStep (server svc.cfg) (Truthful routines) (serving svc scan routines w) sched) :
    Honest ((serving svc scan routines w).run (server svc.cfg) sched) := by
  refine (Pool.run_labelled_inv_of (I := Telling routines) (Routine.prog svc scan) routines w sched
    ?_ h fun P i r β e k hr hi hf hP htrue => ?_).honest
  · exact ⟨hw, hrows, fun _ _ _ hmem => absurd hmem List.not_mem_nil,
      fun _ hmem => absurd hmem List.not_mem_nil⟩
  · refine hP.step hr hf ?_
    unfold Truthful at htrue
    rwa [hi] at htrue

/-! ## The words of the device -/

/-- The carrier has accepted the message, in the words of the server. -/
def acceptedReport : StatusUpdateRequest :=
  { deliveredReport with deliveryStatus := "CARRIER_ACCEPTED" }

theorem honestRow_waitingMessage : ∀ m ∈ (oneMessage waitingMessage).db.messages, HonestRow m := by
  intro m hm
  obtain rfl := List.mem_singleton.1 hm
  exact honestRow_new ⟨.inl rfl, rfl, rfl⟩

/-- The reports of a device that uses the words of the server are recorded honestly. -/
theorem honest_run_accepted : Honest ((serving plainServices (fun _ _ _ => (false, []))
    [.mqtt (some acceptedReport), .cleanup] (oneMessage waitingMessage)).run
      (server plainServices.cfg) [0, 0, 0, 0, 1, 1]) :=
  honest_run plainServices _ _ _ (fun t ht => by cases ht) honestRow_waitingMessage _
    (by decide)

/-- The client reports a delivery in words of its own, which are stored as they are. -/
theorem report_not_honest : ¬ Honest ((serving plainServices (fun _ _ _ => (false, []))
    [.mqtt (some deliveredReport)] (oneMessage waitingMessage)).run
      (server plainServices.cfg) [0, 0]) := by
  generalize hP : (serving plainServices (fun _ _ _ => (false, []))
    [.mqtt (some deliveredReport)] (oneMessage waitingMessage)).run
      (server plainServices.cfg) [0, 0] = P
  intro h
  have hstored : P.state.db.messages.map Message.deliveryStatus = [⟨"DELIVERED"⟩] := by
    rw [← hP]
    decide
  obtain ⟨m, hm, hstatus⟩ : ∃ m ∈ P.state.db.messages, m.deliveryStatus = ⟨"DELIVERED"⟩ :=
    List.mem_map.1 (hstored ▸ List.mem_singleton_self _)
  have hdefined := (h.rows m hm).defined
  rw [hstatus] at hdefined
  exact absurd hdefined (by decide)

end AeroxeBee.Status
