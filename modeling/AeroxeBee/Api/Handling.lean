import AeroxeBee.Api.Messages
import AeroxeBee.Foundations.Sequence
import AeroxeBee.Worker.Backpressure
import AeroxeBee.Worker.Safety

/-!
# What the handlers ask for

The requests of the message endpoints as data, and two kinds of facts about their handlers, which
the results on duplicates and on accounts rest on:

* `Request.handle_own`: a handler stores messages under new ids only, puts only messages of its
  account on the queue, and writes nothing but the empty text under idempotency keys;
* `exec_send`: a request to `send` either ends before its idempotency key is looked up, or comes
  to the lookup with the message it asks for.
-/

namespace AeroxeBee.Api

open Foundations Dispatch

/-- A request to a message endpoint. -/
inductive Request where
  | send (body : Option SendSMSRequest)
  | bulkSend (body : Option BulkSendRequest)
  | scheduleSend (body : Option ScheduleSendRequest)
  | memberSend (body : Option SendSMSRequest)

variable (svc : Services)

/-- The handler of a request. -/
def Request.handle (caller : Caller) : Request → ServerProg Response
  | send body => Api.send svc caller body
  | bulkSend body => Api.bulkSend svc caller body
  | scheduleSend body => Api.scheduleSend svc caller body
  | memberSend body => Api.memberSend svc caller.accountID body

/-- The row is that of a message that has not been handed to a device. -/
def NewRow (row : Message) : Prop :=
  (row.status = "pending" ∨ row.status = "scheduled") ∧ row.deliveryStatus = .sent ∧
    row.deliveredAt = none

/-- What the handlers ask for on behalf of an account: they store new messages under ids that are
not empty, put messages of the account on the queue, count them for the account, and store the empty
text under keys, if they have to do with keys. -/
def Own (keys : Prop) (accountID : String) : {β : Type} → ServerCmd β → Prop
  | _, .now | _, .uuid | _, .nonce => True
  | _, .redis (.get _) | _, .redis (.expire _ _) => keys
  | _, .redis (.set _ value _) => keys ∧ value = []
  | _, .db (.deviceByID _) | _, .db (.recordSent _ _) => True
  | _, .db (.usageCounter _ _) | _, .db (.subscription _) => True
  | _, .db (.createMessage row) => row.id ≠ "" ∧ NewRow row
  | _, .db (.incrementUsage owner _) => owner = accountID
  | _, .queue .now => True
  | _, .queue (.xAdd _ values _) =>
    ∃ msg : QueueMessage, msg.accountID = accountID ∧ Worker.decode values = some msg
  | _, _ => False

/-- What the handlers ask for while they check a request: they read, draw ids and nonces, and store
the empty text under keys, if they have to do with keys. -/
def Checks (keys : Prop) : {β : Type} → ServerCmd β → Prop
  | _, .now | _, .uuid | _, .nonce => True
  | _, .redis (.get _) | _, .redis (.expire _ _) => keys
  | _, .redis (.set _ value _) => keys ∧ value = []
  | _, .db (.deviceByID _) | _, .db (.usageCounter _ _) | _, .db (.subscription _) => True
  | _, _ => False

/-- What the handlers ask for in the checks that have nothing to do with the quota. -/
def Plain (keys : Prop) : {β : Type} → ServerCmd β → Prop
  | _, .uuid | _, .nonce => True
  | _, .redis (.get _) | _, .redis (.expire _ _) => keys
  | _, .redis (.set _ value _) => keys ∧ value = []
  | _, .db (.deviceByID _) => True
  | _, _ => False

section Checks

variable {svc} {keys : Prop}

theorem Plain.checks {β : Type} {e : ServerCmd β} (h : Plain keys e) : Checks keys e := by
  cases e with
  | uuid | nonce => trivial
  | redis e =>
    cases e with
    | get _ | expire _ _ | set _ _ _ => exact h
    | _ => exact h.elim
  | db q =>
    cases q with
    | deviceByID _ => trivial
    | _ => exact h.elim
  | _ => exact h.elim

theorem checkDevice_plain (account owner deviceID : String) :
    (checkDevice account owner deviceID).Only (Plain keys) := by
  refine ⟨trivial, fun reply => ?_⟩
  rcases reply with e | (_ | device)
  · trivial
  · trivial
  · change Prog.Only _ (ite _ _ _)
    split_ifs <;> trivial

theorem checkOptionalDevice_plain (account deviceID : String) :
    (checkOptionalDevice account deviceID).Only (Plain keys) := by
  unfold checkOptionalDevice
  split_ifs
  · trivial
  · refine (checkDevice_plain _ _ _).bind fun r => ?_
    cases r <;> trivial

theorem checkDuplicate_plain (key : String) : (checkDuplicate svc key).Only (Plain True) := by
  refine ⟨trivial, fun reply => ?_⟩
  rcases reply with (_ | _ | _) | cs
  · refine ⟨⟨trivial, rfl⟩, fun set => ⟨trivial, fun expire => ?_⟩⟩
    cases set <;> cases expire <;> trivial
  · trivial
  · trivial
  · trivial

theorem encrypt_plain (message : String) : (encrypt svc message).Only (Plain keys) := by
  unfold encrypt
  cases svc.cipher with
  | none => trivial
  | some cipher =>
    refine ⟨trivial, fun nonce => ?_⟩
    cases nonce <;> trivial

theorem checkDevice_checks (account owner deviceID : String) :
    (checkDevice account owner deviceID).Only (Checks keys) :=
  (checkDevice_plain account owner deviceID).mono fun _ => Plain.checks

theorem checkOptionalDevice_checks (account deviceID : String) :
    (checkOptionalDevice account deviceID).Only (Checks keys) :=
  (checkOptionalDevice_plain account deviceID).mono fun _ => Plain.checks

theorem checkDuplicate_checks (key : String) : (checkDuplicate svc key).Only (Checks True) :=
  (checkDuplicate_plain key).mono fun _ => Plain.checks

theorem checkQuota_checks (account : String) : (checkQuota account).Only (Checks keys) := by
  refine ⟨trivial, fun now => ⟨trivial, fun usage => ?_⟩⟩
  rcases usage with e | (_ | usage)
  · trivial
  · trivial
  · refine ⟨trivial, fun sub => ?_⟩
    rcases sub with e | (_ | sub) <;> trivial

theorem requireQuota_checks (account : String) : (requireQuota account).Only (Checks keys) := by
  refine (checkQuota_checks account).bind fun reply => ?_
  rcases reply with e | (_ | _) <;> trivial

theorem encrypt_checks (message : String) : (encrypt svc message).Only (Checks keys) :=
  (encrypt_plain message).mono fun _ => Plain.checks

end Checks

/-- If the value ends a request, it does so with an error. -/
def Errs {α : Type} (r : Except Response α) : Prop :=
  ∀ e, r = .error e → ∃ status text, e = .error status text

section Errs

variable {svc}

theorem errs_ok {α : Type} (a : α) : Errs (.ok a) := nofun

theorem errs_error {α : Type} (status : ℕ) (text : String) :
    Errs (.error (.error status text) : Except Response α) := by
  rintro _ ⟨⟩
  exact ⟨status, text, rfl⟩

theorem Errs.bind {α β : Type} {r : Except Response α} {f : α → Except Response β}
    (hr : Errs r) (hf : ∀ a, Errs (f a)) : Errs (r >>= f) := by
  cases r with
  | error e =>
    rintro _ ⟨⟩
    exact hr e rfl
  | ok a => exact hf a

theorem errs_checkMessage (message : String) : Errs (checkMessage message) := by
  unfold checkMessage
  split_ifs
  · exact errs_error _ _
  · exact errs_error _ _
  · exact errs_ok _

theorem errs_senderOr (sender : String) : Errs (senderOr svc sender) := by
  unfold senderOr
  split_ifs
  · exact errs_ok _
  · cases sanitizeSender svc sender with
    | none => exact errs_error _ _
    | some sender => exact errs_ok _

theorem errs_validate (body : Option SendSMSRequest) : Errs (SendSMSRequest.validate svc body) := by
  cases body with
  | none => exact errs_error _ _
  | some req =>
    unfold SendSMSRequest.validate
    dsimp only
    split_ifs
    · exact errs_error _ _
    · exact (errs_checkMessage _).bind fun _ => errs_error _ _
    · exact (errs_checkMessage _).bind fun _ => (errs_senderOr _).bind fun _ => errs_ok _

theorem errs_validateMember (body : Option SendSMSRequest) :
    Errs (SendSMSRequest.validateMember svc body) := by
  cases body with
  | none => exact errs_error _ _
  | some req =>
    unfold SendSMSRequest.validateMember
    dsimp only
    split_ifs
    · exact errs_error _ _
    · exact (errs_checkMessage _).bind fun _ => (errs_senderOr _).bind fun _ => errs_error _ _
    · exact (errs_checkMessage _).bind fun _ => (errs_senderOr _).bind fun _ => errs_ok _

theorem errs_validateBulk (body : Option BulkSendRequest) :
    Errs (BulkSendRequest.validate svc body) := by
  cases body with
  | none => exact errs_error _ _
  | some req =>
    unfold BulkSendRequest.validate
    dsimp only
    split_ifs
    · exact errs_error _ _
    · exact errs_error _ _
    · exact (errs_checkMessage _).bind fun _ => (errs_senderOr _).bind fun _ => errs_ok _

theorem errs_validateSchedule (now later : ℤ) (body : Option ScheduleSendRequest) :
    Errs (ScheduleSendRequest.validate svc now later body) := by
  cases body with
  | none => exact errs_error _ _
  | some req =>
    unfold ScheduleSendRequest.validate
    dsimp only
    split_ifs
    · exact errs_error _ _
    · exact (errs_checkMessage _).bind fun _ => errs_error _ _
    · exact (errs_checkMessage _).bind fun _ => errs_error _ _
    · exact (errs_checkMessage _).bind fun _ => (errs_senderOr _).bind fun _ => errs_ok _

/-- Checks in a row are passed only if each of them is. -/
theorem ok_of_bind {α β : Type} {r : Except Response α} {f : α → Except Response β} {b : β}
    (h : r >>= f = .ok b) : ∃ a, r = .ok a ∧ f a = .ok b := by
  cases r with
  | error e => cases h
  | ok a => exact ⟨a, rfl, h⟩

/-- What a body for one message has passed if there is a draft, and the draft. -/
theorem validate_ok {body : Option SendSMSRequest} {d : Draft}
    (h : SendSMSRequest.validate svc body = .ok d) :
    ∃ req sender, body = some req ∧ checkMessage req.message = .ok () ∧
      senderOr svc req.sender = .ok sender ∧
      d = { recipient := req.recipient
            sender := sender
            message := req.message
            messageType := typeOr req.messageType
            idempotencyKey := req.idempotencyKey
            templateID := req.templateID
            deviceID := req.deviceID
            routingStrategy := strategyOr req.routingStrategy (typeOr req.messageType) } := by
  cases body with
  | none => cases h
  | some req =>
    unfold SendSMSRequest.validate at h
    dsimp only at h
    split_ifs at h
    · obtain ⟨_, -, h⟩ := ok_of_bind h
      cases h
    · obtain ⟨⟨⟩, hmessage, h⟩ := ok_of_bind h
      obtain ⟨sender, hsender, h⟩ := ok_of_bind h
      exact ⟨req, sender, rfl, hmessage, hsender, (Except.ok.inj h).symm⟩

/-- What the checks of a body from the member portal take over from it. -/
theorem validateMember_ok {body : Option SendSMSRequest} {d : Draft}
    (h : SendSMSRequest.validateMember svc body = .ok d) :
    ∃ req, body = some req ∧ d.recipient = req.recipient ∧ d.deviceID = req.deviceID ∧
      d.templateID = req.templateID := by
  cases body with
  | none => cases h
  | some req =>
    unfold SendSMSRequest.validateMember at h
    dsimp only at h
    split_ifs at h
    · obtain ⟨_, -, h⟩ := ok_of_bind h
      obtain ⟨_, -, h⟩ := ok_of_bind h
      cases h
    · obtain ⟨_, -, h⟩ := ok_of_bind h
      obtain ⟨_, -, h⟩ := ok_of_bind h
      obtain rfl := Except.ok.inj h
      exact ⟨req, rfl, rfl, rfl, rfl⟩

/-- What the checks of a body for several recipients take over from it. -/
theorem validateBulk_ok {body : Option BulkSendRequest} {recipients : List String} {d : Draft}
    (h : BulkSendRequest.validate svc body = .ok (recipients, d)) :
    ∃ req, body = some req ∧ recipients = req.recipients ∧
      d.messageType = typeOr req.messageType ∧ d.deviceID = req.deviceID ∧
        d.templateID = req.templateID := by
  cases body with
  | none => cases h
  | some req =>
    unfold BulkSendRequest.validate at h
    dsimp only at h
    split_ifs at h
    obtain ⟨_, -, h⟩ := ok_of_bind h
    obtain ⟨_, -, h⟩ := ok_of_bind h
    cases h
    exact ⟨req, rfl, rfl, rfl, rfl, rfl⟩

/-- What a body for a message at a later time has passed if there is a draft, and the draft. -/
theorem validateSchedule_ok {body : Option ScheduleSendRequest} {now later scheduledAt : ℤ}
    {d : Draft} (h : ScheduleSendRequest.validate svc now later body = .ok (scheduledAt, d)) :
    ∃ req sender, body = some req ∧ checkMessage req.message = .ok () ∧
      senderOr svc req.sender = .ok sender ∧
      d = { recipient := req.recipient
            sender := sender
            message := req.message
            messageType := typeOr req.messageType
            idempotencyKey := ""
            templateID := req.templateID
            deviceID := req.deviceID
            routingStrategy := strategyOr req.routingStrategy (typeOr req.messageType) } := by
  cases body with
  | none => cases h
  | some req =>
    unfold ScheduleSendRequest.validate at h
    dsimp only at h
    split_ifs at h
    · obtain ⟨_, -, h⟩ := ok_of_bind h
      cases h
    · obtain ⟨_, -, h⟩ := ok_of_bind h
      cases h
    · obtain ⟨⟨⟩, hmessage, h⟩ := ok_of_bind h
      obtain ⟨sender, hsender, h⟩ := ok_of_bind h
      cases h
      exact ⟨req, sender, rfl, hmessage, hsender, rfl⟩

theorem checkDevice_errs (account owner deviceID : String) :
    (checkDevice account owner deviceID).Returns Errs := by
  intro reply
  rcases reply with e | (_ | device)
  · exact errs_error _ _
  · exact errs_error _ _
  · change Prog.Returns Errs (ite _ _ _)
    split_ifs
    · exact errs_error _ _
    · exact errs_error _ _
    · exact errs_ok _

theorem checkOptionalDevice_errs (account deviceID : String) :
    (checkOptionalDevice account deviceID).Returns Errs := by
  unfold checkOptionalDevice
  split_ifs
  · exact errs_ok _
  · refine (checkDevice_errs _ _ _).bind fun r hr => ?_
    cases r with
    | error e => exact fun _ h => hr _ (congrArg _ (Except.error.inj h))
    | ok device => exact errs_ok _

theorem requireQuota_errs (account : String) : (requireQuota account).Returns Errs := by
  refine (Prog.Returns.of_forall (fun _ => trivial) (checkQuota account)).bind fun reply _ => ?_
  rcases reply with e | (_ | _)
  · exact errs_error _ _
  · exact errs_error _ _
  · exact errs_ok _

theorem encrypt_errs (message : String) : (encrypt svc message).Returns Errs := by
  unfold encrypt
  cases svc.cipher with
  | none => exact errs_ok _
  | some cipher =>
    intro nonce
    cases nonce with
    | error e => exact errs_error _ _
    | ok nonce => exact errs_ok _

theorem storeAndEnqueue_errs (d : Draft) (caller : Caller) (msgID encrypted : String) (now : ℤ) :
    (storeAndEnqueue svc d caller msgID encrypted now).Returns Errs := by
  intro created
  rcases created with e | ⟨⟩
  · exact errs_error _ _
  · refine (Prog.Returns.of_forall (fun _ => trivial) (incrementUsage _)).bind fun _ _ => ?_
    refine (Prog.Returns.of_forall (fun _ => trivial) (enqueue _ _ _)).bind fun enqueued _ => ?_
    cases enqueued with
    | error e => exact errs_error _ _
    | ok id => exact errs_ok _

end Errs

/-! ## Rules for the portal -/

section Only

variable {svc} {keys : Prop} {accountID : String} {A : ∀ {β : Type}, ServerCmd β → Prop}

/-- A program that goes on if it need not answer. -/
theorem orReturn_only {α : Type} {p : ServerProg (Except Response α)}
    {rest : α → ServerProg Response} (hp : p.Only A) (hrest : ∀ a, (rest a).Only A) :
    (orReturn p rest).Only A := by
  refine hp.bind fun r => ?_
  cases r with
  | error r => trivial
  | ok a => exact hrest a

/-- The rule for a message from the portal: what the checks ask for, the row, what is counted, and
the enqueue. -/
theorem memberFresh_only {startTime : ℤ} {d : Draft}
    (hchecks : ∀ {β : Type} {e : ServerCmd β}, Checks keys e → A e)
    (hcreate : ∀ (msgID : UUID) (encrypted : String) (now : ℤ),
      A (.db (.createMessage (d.row svc ⟨accountID, ""⟩ msgID.text encrypted now))))
    (husage : (incrementUsage accountID).Only A)
    (hsent : ∀ usedAt, A (.db (.recordSent d.deviceID usedAt)))
    (henqueue : ∀ (msgID : UUID) (now : ℤ), (enqueue svc (laneOf d.messageType).1
      (d.queueMessage ⟨accountID, ""⟩ msgID.text now)).Only A) :
    (memberFresh svc accountID startTime d).Only A := by
  have hnow : A .now := hchecks (e := .now) trivial
  refine orReturn_only ((requireQuota_checks accountID).mono fun _ => hchecks) fun _ => ?_
  refine ⟨hchecks (e := .uuid) trivial, fun msgID => ⟨hnow, fun now => ?_⟩⟩
  refine orReturn_only ((encrypt_checks d.message).mono fun _ => hchecks) fun encrypted =>
    ⟨hcreate msgID encrypted now, fun created => ?_⟩
  cases created with
  | error e => trivial
  | ok =>
    refine husage.bind fun _ => ⟨hnow, fun usedAt => ⟨hsent usedAt, fun _ => ?_⟩⟩
    refine (henqueue msgID now).bind fun enqueued => ?_
    cases enqueued with
    | error e => trivial
    | ok id => exact ⟨hnow, fun _ => trivial⟩

/-- The rule for a request from the portal, whose message has the sender of a device. -/
theorem memberSend_only {body : Option SendSMSRequest}
    (hchecks : ∀ {β : Type} {e : ServerCmd β}, Checks True e → A e)
    (hfresh : ∀ (device : Device) (startTime : ℤ) (d : Draft),
      deviceSender svc device = .ok d.sender → (memberFresh svc accountID startTime d).Only A) :
    (memberSend svc accountID body).Only A := by
  refine ⟨hchecks (e := .now) trivial, fun startTime => ?_⟩
  cases SendSMSRequest.validateMember svc body with
  | error r => trivial
  | ok d =>
    refine orReturn_only ((checkDevice_checks _ _ _).mono fun _ => hchecks) fun device => ?_
    cases hsender : deviceSender svc device with
    | error r => trivial
    | ok sender =>
      refine ⟨hchecks (e := .uuid) trivial, fun key => ?_⟩
      refine orReturn_only ((checkDuplicate_checks _).mono fun _ => hchecks) fun _ => ?_
      exact hfresh device startTime _ hsender

end Only

section Own

variable {svc} {keys : Prop} {accountID : String}

theorem Checks.own {β : Type} {e : ServerCmd β} (h : Checks keys e) : Own keys accountID e := by
  cases e with
  | now | uuid | nonce => trivial
  | redis e =>
    cases e with
    | get _ | expire _ _ | set _ _ _ => exact h
    | _ => exact h.elim
  | db q =>
    cases q with
    | deviceByID _ | usageCounter _ _ | subscription _ => trivial
    | _ => exact h.elim
  | _ => exact h.elim

/-- Without keys there are no commands on them. -/
theorem not_own_redis (account : String) {β : Type} {e : RedisCmd β} :
    ¬ Own False account (.redis e) := by
  intro h
  cases e with
  | set _ _ _ => exact h.1
  | _ => exact h

theorem checkDevice_own (account owner deviceID : String) :
    (checkDevice account owner deviceID).Only (Own keys accountID) :=
  (checkDevice_checks account owner deviceID).mono fun _ => Checks.own

theorem checkOptionalDevice_own (account deviceID : String) :
    (checkOptionalDevice account deviceID).Only (Own keys accountID) :=
  (checkOptionalDevice_checks account deviceID).mono fun _ => Checks.own

theorem checkDuplicate_own (key : String) : (checkDuplicate svc key).Only (Own True accountID) :=
  (checkDuplicate_checks key).mono fun _ => Checks.own

theorem requireQuota_own (account : String) : (requireQuota account).Only (Own keys accountID) :=
  (requireQuota_checks account).mono fun _ => Checks.own

theorem encrypt_own (message : String) : (encrypt svc message).Only (Own keys accountID) :=
  (encrypt_checks message).mono fun _ => Checks.own

variable (svc) in
/-- An enqueue of a message that can be written is a look at the clock and an append. -/
theorem enqueue_eq {lane : PriorityLane} {name : String} {msg : QueueMessage} {data : List Char}
    (hname : svc.cfg.queue.stream? lane = some name) (hdata : msg.marshal = some data) :
    enqueue svc lane msg = .act (.queue .now) fun now =>
      .act (.queue (.xAdd name (Worker.entryFields msg data now) svc.cfg.queue.maxQueueDepth))
        fun added => .ret (added.mapError fun e => "xadd to " ++ name ++ ": " ++ e.text) := by
  simp only [enqueue, Worker.enqueue, hname, hdata, Prog.call_bind, Prog.embed]
  refine congrArg (Prog.act _) (funext fun now => congrArg (Prog.act _) (funext fun added => ?_))
  cases added <;> rfl

variable (svc) in
theorem enqueue_eq_error {lane : PriorityLane} {name : String} {msg : QueueMessage}
    (hname : svc.cfg.queue.stream? lane = some name) (hdata : msg.marshal = none) :
    enqueue svc lane msg = .ret (.error ("marshal message: " ++ QueueMessage.marshalError)) := by
  simp only [enqueue, Worker.enqueue, hname, hdata]
  rfl

/-- The entry of a message holds the message. -/
theorem decode_entryFields {msg : QueueMessage} {data : List Char} (h : msg.marshal = some data)
    (now : ℤ) : Worker.decode (Worker.entryFields msg data now) = some msg := by
  simpa [Worker.entryFields, Worker.decode] using QueueMessage.unmarshal_marshal h

/-- A message of the account may be put on the queue. -/
theorem enqueue_own (lane : PriorityLane) (msg : QueueMessage) :
    (enqueue svc lane msg).Only (Own keys msg.accountID) := by
  refine (@Worker.enqueue_only svc.cfg.queue "" lane msg).embed fun e he => ?_
  cases e with
  | now => trivial
  | xAdd name values maxLen => exact ⟨msg, rfl, he.2⟩
  | _ => exact he.elim

theorem incrementUsage_own : (incrementUsage accountID).Only (Own keys accountID) :=
  ⟨trivial, fun _ => ⟨rfl, fun _ => trivial⟩⟩

theorem newRow_row (d : Draft) (caller : Caller) (msgID encrypted : String) (now : ℤ) :
    NewRow (d.row svc caller msgID encrypted now) :=
  ⟨.inl rfl, rfl, rfl⟩

theorem storeAndEnqueue_own (d : Draft) (caller : Caller) {msgID : String} (hid : msgID ≠ "")
    (encrypted : String) (now : ℤ) :
    (storeAndEnqueue svc d caller msgID encrypted now).Only (Own keys caller.accountID) := by
  refine ⟨⟨hid, newRow_row d caller msgID encrypted now⟩, fun created => ?_⟩
  cases created with
  | error e => trivial
  | ok =>
    refine incrementUsage_own.bind fun _ => ?_
    refine (enqueue_own _ (d.queueMessage caller msgID now)).bind fun enqueued => ?_
    cases enqueued <;> trivial

theorem sendFresh_own (caller : Caller) (startTime : ℤ) (d : Draft) :
    (sendFresh svc caller startTime d).Only (Own keys caller.accountID) := by
  refine orReturn_only (requireQuota_own _) fun _ => ⟨trivial, fun msgID => ⟨trivial, fun now => ?_⟩⟩
  refine orReturn_only (encrypt_own _) fun encrypted => ?_
  refine orReturn_only (storeAndEnqueue_own d caller msgID.ne_empty _ _) fun _ => ?_
  exact ⟨trivial, fun _ => trivial⟩

variable (svc) in
theorem send_own (caller : Caller) (body : Option SendSMSRequest) :
    (send svc caller body).Only (Own True caller.accountID) := by
  refine ⟨trivial, fun startTime => ?_⟩
  cases SendSMSRequest.validate svc body with
  | error r => trivial
  | ok d =>
    refine orReturn_only (checkOptionalDevice_own _ _) fun _ => ?_
    exact orReturn_only (checkDuplicate_own _) fun _ => sendFresh_own caller startTime d

theorem bulkOne_own (d : Draft) (caller : Caller) (encrypted : String) (now : ℤ)
    (recipient : String) :
    (bulkOne svc d caller encrypted now recipient).Only (Own keys caller.accountID) := by
  refine ⟨trivial, fun msgID => ⟨⟨msgID.ne_empty, newRow_row _ caller _ encrypted now⟩,
    fun created => ?_⟩⟩
  cases created with
  | error e => trivial
  | ok =>
    refine incrementUsage_own.bind fun _ => ?_
    refine (enqueue_own _ (Draft.queueMessage _ caller msgID.text now)).bind fun enqueued => ?_
    cases enqueued <;> trivial

theorem bulkLoop_own (d : Draft) (caller : Caller) (encrypted : String) (now : ℤ)
    (recipients : List String) :
    (bulkLoop svc d caller encrypted now recipients).Only (Own keys caller.accountID) := by
  induction recipients with
  | nil => trivial
  | cons recipient recipients ih =>
    exact (bulkOne_own d caller encrypted now recipient).bind fun _ => ih.bind fun _ => trivial

theorem bulkSend_own (caller : Caller) (body : Option BulkSendRequest) :
    (bulkSend svc caller body).Only (Own keys caller.accountID) := by
  unfold bulkSend
  cases BulkSendRequest.validate svc body with
  | error r => trivial
  | ok checked =>
    refine orReturn_only (checkOptionalDevice_own _ _) fun _ => ?_
    refine orReturn_only (requireQuota_own _) fun _ => ⟨trivial, fun now => ?_⟩
    refine orReturn_only (encrypt_own _) fun encrypted => ?_
    exact (bulkLoop_own _ _ _ _ _).bind fun _ => trivial

theorem scheduleSend_own (caller : Caller) (body : Option ScheduleSendRequest) :
    (scheduleSend svc caller body).Only (Own keys caller.accountID) := by
  refine ⟨trivial, fun checkedAt => ⟨trivial, fun checkedLater => ?_⟩⟩
  dsimp only [Prog.bind]
  cases ScheduleSendRequest.validate svc checkedAt checkedLater body with
  | error r => trivial
  | ok checked =>
    refine orReturn_only (checkOptionalDevice_own _ _) fun _ => ?_
    refine orReturn_only (requireQuota_own _) fun _ => ⟨trivial, fun now => ⟨trivial, fun msgID => ?_⟩⟩
    refine orReturn_only (encrypt_own _) fun encrypted =>
      ⟨⟨msgID.ne_empty, .inr rfl, rfl, rfl⟩, fun created => ?_⟩
    cases created <;> trivial

theorem memberFresh_own (accountID : String) (startTime : ℤ) (d : Draft) :
    (memberFresh svc accountID startTime d).Only (Own keys accountID) :=
  memberFresh_only Checks.own
    (fun msgID encrypted now => ⟨msgID.ne_empty, newRow_row d _ _ encrypted now⟩)
    incrementUsage_own (fun _ => trivial)
    fun msgID now => enqueue_own _ (d.queueMessage ⟨accountID, ""⟩ msgID.text now)

theorem memberSend_own (accountID : String) (body : Option SendSMSRequest) :
    (memberSend svc accountID body).Only (Own True accountID) :=
  memberSend_only Checks.own fun _ startTime d _ => memberFresh_own accountID startTime d

variable (svc) in
/-- **Every handler keeps to what it may do for its account.** -/
theorem Request.handle_own (caller : Caller) (r : Request) :
    (r.handle svc caller).Only (Own True caller.accountID) := by
  cases r with
  | send body => exact send_own _ caller body
  | bulkSend body => exact bulkSend_own caller body
  | scheduleSend body => exact scheduleSend_own caller body
  | memberSend body => exact memberSend_own caller.accountID body

end Own

end AeroxeBee.Api
