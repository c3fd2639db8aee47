import AeroxeBee.Api.Handling
import AeroxeBee.Scheduler.Release

/-!
# The scheduled path and the direct path

A message can be sent at once, with `send`, or be stored by `scheduleSend` and put on the queue by a
later round of the scheduler. This module compares the two messages that come onto the queue for
the same request.

* `Sends.draft`, `Stores.draft`, `Releases.row`: what the endpoints and the scheduler put on the
  queue or into the database, whatever is answered to them;
* `scheduled_same_iff`: when the two messages are the same.
-/

namespace AeroxeBee.Scheduler

open Foundations Api

variable (svc : Services)

/-! ## The two paths -/

/-- The body of a request to send at once the message that another body asks to schedule. -/
def direct (req : ScheduleSendRequest) (key : String) : SendSMSRequest where
  recipient := req.recipient
  sender := req.sender
  message := req.message
  messageType := req.messageType
  idempotencyKey := key
  templateID := req.templateID
  deviceID := req.deviceID
  routingStrategy := req.routingStrategy

/-- The event puts the message on the queue. -/
def puts (msg : QueueMessage) : Event ServerCmd → Bool
  | ⟨.queue (.xAdd _ values _), _⟩ => Worker.decode values = some msg
  | _ => false

/-- The event stores the row. -/
def inserts (row : Message) : Event ServerCmd → Bool
  | ⟨.db (.createMessage row'), _⟩ => row' = row
  | _ => false

/-- The event selects the rows that are due. -/
def selects (rows : List Message) : Event ServerCmd → Bool
  | ⟨.db (.scheduledMessages _ _), .ok rows'⟩ => rows' = rows
  | _ => false

/-- The request to `send` can put the message on the queue. -/
def Sends (caller : Caller) (body : Option SendSMSRequest) (msg : QueueMessage) : Prop :=
  ∃ evs rest, (send svc caller body).Follows evs rest ∧ evs.any (puts msg) = true

/-- The request to `scheduleSend` can store the row. -/
def Stores (caller : Caller) (body : Option ScheduleSendRequest) (row : Message) : Prop :=
  ∃ evs rest, (scheduleSend svc caller body).Follows evs rest ∧ evs.any (inserts row) = true

/-- A round that selects the row, and no other with its id, can put the message on the queue for
it. -/
def Releases (row : Message) (msg : QueueMessage) : Prop :=
  ∃ evs rest rows, (processDue svc).Follows evs rest ∧ evs.any (selects rows) = true ∧
    (∀ row' ∈ rows, row'.id = row.id → row' = row) ∧ evs.any (puts msg) = true ∧ msg.id = row.id

/-- The messages agree in what the device and the recipient get, and in how long they may wait. -/
structure SameOrder (msg msg' : QueueMessage) : Prop where
  accountID : msg.accountID = msg'.accountID
  message : msg.message = msg'.message
  recipient : msg.recipient = msg'.recipient
  sender : msg.sender = msg'.sender
  messageType : msg.messageType = msg'.messageType
  priority : msg.priority = msg'.priority
  routingStrategy : msg.routingStrategy = msg'.routingStrategy
  maxAge : msg.maxAge = msg'.maxAge

/-! ## What comes onto the queue -/

/-- The command puts only messages on the queue, and only rows into the database, of which a
property holds. -/
def Carrying (Q : QueueMessage → Prop) (R : Message → Prop) : {β : Type} → ServerCmd β → Prop
  | _, .queue (.xAdd _ values _) => ∃ msg, Worker.decode values = some msg ∧ Q msg
  | _, .db (.createMessage row) => R row
  | _, _ => True

variable {svc} {Q : QueueMessage → Prop} {R : Message → Prop}

theorem carrying_of_checks {keys : Prop} {β : Type} {e : ServerCmd β} (h : Checks keys e) :
    Carrying Q R e := by
  cases e with
  | db q =>
    cases q with
    | createMessage row => exact h.elim
    | _ => trivial
  | queue e => exact h.elim
  | _ => trivial

theorem enqueue_carrying (lane : PriorityLane) {msg : QueueMessage} (h : Q msg) :
    (enqueue svc lane msg).Only (Carrying Q R) := by
  refine (@Worker.enqueue_only svc.cfg.queue "" lane msg).embed fun e he => ?_
  cases e with
  | xAdd name values maxLen => exact ⟨msg, he.2, h⟩
  | _ => trivial

theorem orReturn_carrying {α : Type} {p : ServerProg (Except Response α)}
    {rest : α → ServerProg Response} {P : α → Prop} (hp : p.Only (Carrying Q R))
    (hret : p.Returns fun r => ∀ a, r = .ok a → P a)
    (hrest : ∀ a, P a → (rest a).Only (Carrying Q R)) :
    (orReturn p rest).Only (Carrying Q R) := by
  refine hp.bind_of_returns hret fun r hr => ?_
  cases r with
  | error r => trivial
  | ok a => exact hrest a (hr a rfl)

/-- A check that is passed tells nothing more. -/
theorem returns_trivial {α : Type} (p : ServerProg (Except Response α)) :
    p.Returns fun r => ∀ a, r = .ok a → True :=
  Prog.Returns.of_forall (fun _ _ _ => trivial) p

/-- A message that was put on the queue has the property. -/
theorem carried_of_puts {α : Type} {p rest : ServerProg α} {evs : List (Event ServerCmd)}
    {msg : QueueMessage} (hf : p.Follows evs rest) (hp : p.Only (Carrying Q R))
    (h : evs.any (puts msg) = true) : Q msg := by
  obtain ⟨⟨e, reply⟩, hev, hputs⟩ := List.any_eq_true.1 h
  have hc := hf.forall_mem hp _ hev
  cases e with
  | queue e =>
    cases e with
    | xAdd name values maxLen =>
      obtain ⟨msg', hdecode, hmsg⟩ := hc
      obtain rfl : msg' = msg := Option.some.inj (hdecode.symm.trans (of_decide_eq_true hputs))
      exact hmsg
    | _ => cases hputs
  | _ => cases hputs

/-- A row that was stored has the property. -/
theorem carried_of_inserts {α : Type} {p rest : ServerProg α} {evs : List (Event ServerCmd)}
    {row : Message} (hf : p.Follows evs rest) (hp : p.Only (Carrying Q R))
    (h : evs.any (inserts row) = true) : R row := by
  obtain ⟨⟨e, reply⟩, hev, hinserts⟩ := List.any_eq_true.1 h
  have hc := hf.forall_mem hp _ hev
  cases e with
  | db q =>
    cases q with
    | createMessage row' =>
      obtain rfl : row' = row := of_decide_eq_true hinserts
      exact hc
    | _ => cases hinserts
  | _ => cases hinserts

/-- The text under which a message is stored. -/
def Sealed (svc : Services) (message encrypted : String) : Prop :=
  match svc.cipher with
  | none => encrypted = ""
  | some cipher => ∃ nonce, encrypted = cipher.encrypt nonce message

theorem encrypt_sealed (message : String) :
    (encrypt svc message).Returns fun r => ∀ encrypted, r = .ok encrypted →
      Sealed svc message encrypted := by
  unfold encrypt Sealed
  cases svc.cipher with
  | none =>
    rintro _ ⟨⟩
    rfl
  | some cipher =>
    intro nonce
    cases nonce with
    | error e => exact nofun
    | ok nonce =>
      rintro _ ⟨⟩
      exact ⟨nonce, rfl⟩

/-- **What `send` puts on the queue.** -/
theorem Sends.draft {caller : Caller} {body : Option SendSMSRequest} {msg : QueueMessage}
    (h : Sends svc caller body msg) : ∃ d msgID now,
      SendSMSRequest.validate svc body = .ok d ∧ msg = d.queueMessage caller msgID now := by
  obtain ⟨evs, rest, hf, hputs⟩ := h
  have hchecks {α : Type} {p : ServerProg α} (hp : p.Only (Checks True)) :
      p.Only (Carrying (fun msg => ∃ d msgID now, SendSMSRequest.validate svc body = .ok d ∧
        msg = d.queueMessage caller msgID now) fun _ => True) :=
    hp.mono fun _ => carrying_of_checks
  have honly : (send svc caller body).Only (Carrying (fun msg => ∃ d msgID now,
      SendSMSRequest.validate svc body = .ok d ∧ msg = d.queueMessage caller msgID now)
        fun _ => True) := by
    refine ⟨trivial, fun startTime => ?_⟩
    cases hv : SendSMSRequest.validate svc body with
    | error r => trivial
    | ok d =>
      rw [hv] at hchecks
      refine orReturn_carrying (hchecks (checkOptionalDevice_checks _ _)) (returns_trivial _)
        fun _ _ => ?_
      refine orReturn_carrying (hchecks (checkDuplicate_checks _)) (returns_trivial _) fun _ _ => ?_
      refine orReturn_carrying (hchecks (requireQuota_checks _)) (returns_trivial _) fun _ _ =>
        ⟨trivial, fun msgID => ⟨trivial, fun now => ?_⟩⟩
      refine orReturn_carrying (hchecks (encrypt_checks _)) (returns_trivial _) fun encrypted _ => ?_
      refine orReturn_carrying (P := fun _ => True) ⟨trivial, fun created => ?_⟩
        (returns_trivial (storeAndEnqueue svc d caller msgID.text encrypted now)) fun _ _ =>
          ⟨trivial, fun _ => trivial⟩
      cases created with
      | error e => trivial
      | ok =>
        refine ⟨trivial, fun _ => ⟨trivial, fun _ => ?_⟩⟩
        refine (enqueue_carrying _ ⟨d, msgID.text, now, rfl, rfl⟩).bind fun enqueued => ?_
        cases enqueued <;> trivial
  exact carried_of_puts hf honly hputs

/-- **What `scheduleSend` stores.** -/
theorem Stores.draft {caller : Caller} {body : Option ScheduleSendRequest} {row : Message}
    (h : Stores svc caller body row) : ∃ checkedAt checkedLater scheduledAt d msgID encrypted now,
      ScheduleSendRequest.validate svc checkedAt checkedLater body = .ok (scheduledAt, d) ∧
        Sealed svc d.message encrypted ∧
          row = d.scheduledRow svc caller msgID encrypted now scheduledAt := by
  obtain ⟨evs, rest, hf, hinserts⟩ := h
  let Row (row : Message) : Prop := ∃ checkedAt checkedLater scheduledAt d msgID encrypted now,
    ScheduleSendRequest.validate svc checkedAt checkedLater body = .ok (scheduledAt, d) ∧
      Sealed svc d.message encrypted ∧
        row = d.scheduledRow svc caller msgID encrypted now scheduledAt
  have hchecks {α : Type} {p : ServerProg α} (hp : p.Only (Checks True)) :
      p.Only (Carrying (fun _ => True) Row) :=
    hp.mono fun _ => carrying_of_checks
  have honly : (scheduleSend svc caller body).Only (Carrying (fun _ => True) Row) := by
    refine ⟨trivial, fun checkedAt => ⟨trivial, fun checkedLater => ?_⟩⟩
    dsimp only [Prog.bind]
    cases hv : ScheduleSendRequest.validate svc checkedAt checkedLater body with
    | error r => trivial
    | ok checked =>
      obtain ⟨scheduledAt, d⟩ := checked
      refine orReturn_carrying (hchecks (checkOptionalDevice_checks _ _)) (returns_trivial _)
        fun _ _ => ?_
      refine orReturn_carrying (hchecks (requireQuota_checks _)) (returns_trivial _) fun _ _ =>
        ⟨trivial, fun now => ⟨trivial, fun msgID => ?_⟩⟩
      refine orReturn_carrying (hchecks (encrypt_checks _)) (encrypt_sealed _)
        fun encrypted hsealed => ⟨?_, fun created => ?_⟩
      · exact ⟨checkedAt, checkedLater, scheduledAt, d, msgID.text, encrypted, now, hv, hsealed, rfl⟩
      · cases created <;> trivial
  exact carried_of_inserts hf honly hinserts

theorem releaseAll_carrying (now : ℤ) (rows : List Message) :
    (releaseAll svc now rows).Only (Carrying (fun msg => ∃ row ∈ rows, ∃ text,
      plaintext svc row = .ok text ∧ msg = releasedMessage row text) fun _ => True) := by
  suffices h : ∀ part : List Message, part ⊆ rows → (releaseAll svc now part).Only
      (Carrying (fun msg => ∃ row ∈ rows, ∃ text,
        plaintext svc row = .ok text ∧ msg = releasedMessage row text) fun _ => True) from
    h rows (List.Subset.refl rows)
  intro part
  induction part with
  | nil => exact fun _ => trivial
  | cons row part ih =>
    intro hsub
    obtain ⟨hrow, hpart⟩ := List.cons_subset.1 hsub
    refine Prog.Only.bind ?_ fun _ => ih hpart
    unfold releaseOne
    split_ifs
    · trivial
    · cases htext : plaintext svc row with
      | error e => trivial
      | ok text =>
        refine ⟨trivial, fun released => ?_⟩
        cases released with
        | error e => trivial
        | ok =>
          refine (enqueue_carrying _ ⟨row, hrow, text, htext, rfl⟩).bind fun enqueued => ?_
          cases enqueued with
          | ok n => trivial
          | error e => exact ⟨trivial, fun _ => trivial⟩

/-- What follows the selection selects nothing. -/
theorem not_selects_releaseAll {now : ℤ} {rows rows' : List Message} {evs : List (Event ServerCmd)}
    {rest : ServerProg Unit} (h : (releaseAll svc now rows).Follows evs rest) :
    evs.any (selects rows') = false := by
  have honly : (releaseAll svc now rows).Only fun e => ∃ id, ForMessage id e := by
    clear h
    induction rows with
    | nil => trivial
    | cons row rows ih => exact ((releaseOne_for now row).mono fun e he => ⟨row.id, he⟩).bind fun _ => ih
  refine List.any_eq_false.2 ?_
  rintro ⟨e, reply⟩ hev hselects
  obtain ⟨id, he⟩ := h.forall_mem honly _ hev
  cases e with
  | db q =>
    cases q with
    | scheduledMessages before limit => exact he
    | _ => cases hselects
  | _ => cases hselects

/-- **What a round puts on the queue for a row.** -/
theorem Releases.text {row : Message} {msg : QueueMessage} (h : Releases svc row msg) :
    ∃ text, plaintext svc row = .ok text ∧ msg = releasedMessage row text := by
  obtain ⟨evs, rest, rows, hf, hselects, hunique, hputs, hid⟩ := h
  unfold processDue at hf
  cases hf with
  | refl => cases hselects
  | step _ _ now hf =>
    cases hf with
    | refl => cases hselects
    | step _ _ selected hf =>
      rw [List.any_cons, List.any_cons] at hselects hputs
      replace hputs := (Bool.or_eq_true_iff.1 ((Bool.or_eq_true_iff.1 hputs).resolve_left
        Bool.false_ne_true)).resolve_left Bool.false_ne_true
      replace hselects := Bool.or_eq_true_iff.1 ((Bool.or_eq_true_iff.1 hselects).resolve_left
        Bool.false_ne_true)
      cases selected with
      | error e =>
        obtain ⟨rfl, -⟩ := Prog.follows_ret.1 hf
        cases hputs
      | ok rows' =>
        obtain rfl : rows' = rows := by
          rcases hselects with hselects | hselects
          · exact of_decide_eq_true hselects
          · rw [not_selects_releaseAll hf] at hselects
            cases hselects
        obtain ⟨row', hrow', text, htext, rfl⟩ :=
          carried_of_puts hf (releaseAll_carrying now rows') hputs
        obtain rfl := hunique row' hrow' hid
        exact ⟨text, htext, rfl⟩

/-! ## The two messages compared -/

theorem ne_empty_of_checkMessage {message : String} (h : checkMessage message = .ok ()) :
    message ≠ "" := by
  rintro rfl
  cases h

/-- Both endpoints make the same of a body. -/
theorem draft_direct {checkedAt checkedLater scheduledAt : ℤ} {req : ScheduleSendRequest}
    {key : String} {d d' : Draft}
    (h : ScheduleSendRequest.validate svc checkedAt checkedLater (some req) = .ok (scheduledAt, d))
    (h' : SendSMSRequest.validate svc (some (direct req key)) = .ok d') :
    d' = { d with idempotencyKey := key } ∧ d.message ≠ "" ∧
      d.messageType = typeOr req.messageType := by
  obtain ⟨_, sender, ⟨⟩, hmessage, hsender, rfl⟩ := validateSchedule_ok h
  obtain ⟨_, sender', ⟨⟩, -, hsender', rfl⟩ := validate_ok h'
  obtain rfl : sender = sender' := Except.ok.inj (hsender.symm.trans hsender')
  exact ⟨rfl, ne_empty_of_checkMessage hmessage, rfl⟩

/-- The text of a stored message can be read again if there is a cipher; otherwise it is lost. -/
theorem plaintext_sealed {row : Message} {message text : String} (hmessage : message ≠ "")
    (hsealed : Sealed svc message row.encryptedMessage) (h : plaintext svc row = .ok text) :
    text = message ↔ svc.cipher.isSome = true := by
  unfold plaintext at h
  unfold Sealed at hsealed
  cases hc : svc.cipher with
  | none =>
    rw [hc] at h hsealed
    obtain rfl : row.encryptedMessage = text := Except.ok.inj h
    exact iff_of_false (fun heq => hmessage (heq.symm.trans hsealed)) Bool.false_ne_true
  | some cipher =>
    rw [hc] at h hsealed
    obtain ⟨nonce, hnonce⟩ := hsealed
    dsimp only at h
    rw [hnonce, if_neg (cipher.encrypt_ne_empty nonce message), cipher.decrypt_encrypt] at h
    exact iff_of_true (Except.ok.inj h).symm rfl

/-- The two lanes are the same, and so is the time a message may wait there unless it is
advertising. -/
theorem scheduledLane_eq (messageType : MessageType) :
    (scheduledLane messageType).1 = (laneOf messageType).1 ∧
      ((scheduledLane messageType).2 = (laneOf messageType).2 ↔ messageType ≠ .marketing) := by
  unfold scheduledLane laneOf
  by_cases hotp : messageType = .otp
  · subst hotp
    exact ⟨rfl, iff_of_true rfl (by decide)⟩
  · rw [if_neg hotp, if_neg hotp]
    by_cases hmarketing : messageType = .marketing
    · subst hmarketing
      exact ⟨rfl, iff_of_false (by decide) (fun h => h rfl)⟩
    · rw [if_neg hmarketing, if_neg hmarketing]
      exact ⟨rfl, iff_of_true rfl hmarketing⟩

/-- The lane of a message is that of its type. -/
theorem laneOf_eq_transactional (messageType : MessageType) :
    PriorityLane.transactional = (laneOf messageType).1 ↔
      messageType ≠ .otp ∧ messageType ≠ .marketing := by
  unfold laneOf
  by_cases hotp : messageType = .otp
  · rw [if_pos hotp]
    exact iff_of_false (by decide) fun h => h.1 hotp
  · rw [if_neg hotp]
    by_cases hmarketing : messageType = .marketing
    · rw [if_pos hmarketing]
      exact iff_of_false (by decide) fun h => h.2 hmarketing
    · rw [if_neg hmarketing]
      exact iff_of_true rfl ⟨hotp, hmarketing⟩

/-- **When the scheduled path does the same as the direct path.** For a request that is stored and
later released, and for the same request sent at once, the messages on the queue agree and the row
names the lane that is used exactly if the account is the empty one, there is a cipher, and the
message is neither a one-time password nor advertising. -/
theorem scheduled_same_iff (svc : Services) (caller : Caller) (req : ScheduleSendRequest)
    (key : String) (row : Message) (msg msg' : QueueMessage)
    (hstores : Stores svc caller (some req) row) (hreleases : Releases svc row msg)
    (hsends : Sends svc caller (some (direct req key)) msg') :
    SameOrder msg msg' ∧ row.priorityLane = msg.priority ↔
      caller.accountID = "" ∧ svc.cipher.isSome = true ∧
        typeOr req.messageType ≠ .otp ∧ typeOr req.messageType ≠ .marketing := by
  obtain ⟨checkedAt, checkedLater, scheduledAt, d, msgID, encrypted, now, hd, hsealed, rfl⟩ :=
    hstores.draft
  obtain ⟨text, htext, rfl⟩ := hreleases.text
  obtain ⟨d', msgID', now', hd', rfl⟩ := hsends.draft
  obtain ⟨rfl, hmessage, htype⟩ := draft_direct hd hd'
  obtain ⟨hlane, hage⟩ := scheduledLane_eq d.messageType
  have hread := plaintext_sealed hmessage hsealed htext
  have htransactional := laneOf_eq_transactional d.messageType
  rw [← htype]
  constructor
  · rintro ⟨hsame, hrow⟩
    have hlaneOf : PriorityLane.transactional = (laneOf d.messageType).1 := hrow.trans hlane
    exact ⟨hsame.accountID.symm, hread.1 hsame.message, htransactional.1 hlaneOf⟩
  · rintro ⟨haccount, hcipher, htypes⟩
    refine ⟨?_, ?_⟩
    · exact {
        accountID := haccount.symm
        message := hread.2 hcipher
        recipient := rfl
        sender := rfl
        messageType := rfl
        priority := hlane
        routingStrategy := rfl
        maxAge := hage.2 htypes.2 }
    · exact (htransactional.2 htypes).trans hlane.symm

/-! ## A message for later -/

/-- A cipher that marks what it stores. -/
def marking : Cipher where
  encrypt _ plaintext := String.ofList ('#' :: plaintext.toList)
  decrypt encoded := .ok (String.ofList encoded.toList.tail)
  decrypt_encrypt _ plaintext := by simp
  encrypt_ne_empty := marked_ne_empty

/-- Services with a cipher. -/
def sealedServices : Services := { plainServices with cipher := some marking }

/-- A request to send a message one second after the start of time. -/
def reminder : ScheduleSendRequest where
  recipient := "+919999999999"
  sender := ""
  message := "hello"
  messageType := .transactional
  scheduledAt := 1000000000
  templateID := ""
  deviceID := ""
  routingStrategy := ⟨""⟩

/-- The row of the message. -/
def reminderRow : Message :=
  { dueMessage with
    id := "00000000-0000-4000-8000-000000000000"
    encryptedMessage := "#hello"
    scheduledAt := some 1000000000
    purgeAfter := 7776001000000000
    idempotencyKey := "sched-00000000-0000-4000-8000-000000000000-+919999999999" }

/-- The message as it comes onto the queue when it is sent at once. -/
def reminderNow : QueueMessage :=
  { releasedMessage reminderRow "hello" with
    accountID := "account-1"
    idempotencyKey := "order-17" }

theorem stores_reminder : Stores sealedServices order.caller (some reminder) reminderRow :=
  ⟨_, _, Prog.follows_exec (server sealedServices.cfg) _ (Dispatch.onePhone []),
    by decide⟩

/-- A server on which the message has become due. -/
def reminderDue : World :=
  let w := Dispatch.onePhone []
  { w with
    db := { w.db with messages := [reminderRow] }
    clock := 1000000000 }

theorem releases_reminder :
    Releases sealedServices reminderRow (releasedMessage reminderRow "hello") :=
  ⟨_, _, [reminderRow], Prog.follows_exec (server sealedServices.cfg) _ reminderDue,
    by decide +kernel, fun _ h _ => List.mem_singleton.1 h, by decide +kernel, rfl⟩

theorem sends_reminder :
    Sends sealedServices order.caller (some (direct reminder "order-17")) reminderNow :=
  ⟨_, _, Prog.follows_exec (server sealedServices.cfg) _ (Dispatch.onePhone []),
    by decide +kernel⟩

/-- The scheduled message has lost its account. -/
theorem scheduled_not_same : ∃ row msg msg',
    Stores sealedServices order.caller (some reminder) row ∧ Releases sealedServices row msg ∧
      Sends sealedServices order.caller (some (direct reminder "order-17")) msg' ∧
        ¬ (SameOrder msg msg' ∧ row.priorityLane = msg.priority) := by
  refine ⟨reminderRow, _, reminderNow, stores_reminder, releases_reminder, sends_reminder, ?_⟩
  rintro ⟨hsame, -⟩
  exact absurd hsame.accountID (by decide)

theorem scheduled_same_iff_reminder :
    SameOrder (releasedMessage reminderRow "hello") reminderNow ∧
        reminderRow.priorityLane = (releasedMessage reminderRow "hello").priority ↔
      order.caller.accountID = "" ∧ sealedServices.cipher.isSome = true ∧
        typeOr reminder.messageType ≠ .otp ∧ typeOr reminder.messageType ≠ .marketing :=
  scheduled_same_iff sealedServices order.caller reminder "order-17" reminderRow _ reminderNow
    stores_reminder releases_reminder sends_reminder

end AeroxeBee.Scheduler
