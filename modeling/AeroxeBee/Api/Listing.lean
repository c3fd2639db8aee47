import AeroxeBee.Api.Isolation
import AeroxeBee.Api.Postings
import AeroxeBee.Foundations.Protocol

/-!
# Messages in the list of their account

A message belongs to the account of the API key that it was sent with, and to no other: it has no
account of its own. A message from the member portal has no API key either, so that its row cannot
be stored.

* `Request.handle_creating`: which rows a request stores;
* `messages_exec`: what a request that runs alone on a healthy server leaves in the table;
* `appears_iff`: the messages of a request appear in the lists as they should exactly if it does not
  come from the portal.
-/

namespace AeroxeBee.Api

open Foundations Dispatch

/-! ## What a request asks for -/

namespace Request

/-- The recipients of a request. -/
def recipients : Request → List String
  | send (some body) => [body.recipient]
  | bulkSend (some body) => body.recipients
  | scheduleSend (some body) => [body.recipient]
  | memberSend (some body) => [body.recipient]
  | _ => []

/-- The device that a request names, or the empty text. -/
def deviceID : Request → String
  | send (some body) => body.deviceID
  | bulkSend (some body) => body.deviceID
  | scheduleSend (some body) => body.deviceID
  | memberSend (some body) => body.deviceID
  | _ => ""

/-- The template that a request names, or the empty text. -/
def templateID : Request → String
  | send (some body) => body.templateID
  | bulkSend (some body) => body.templateID
  | scheduleSend (some body) => body.templateID
  | memberSend (some body) => body.templateID
  | _ => ""

/-- A request comes from the member portal. -/
def FromPortal : Request → Prop
  | memberSend _ => True
  | _ => False

/-- The API key that the messages of a request are stored with. -/
def keyID (caller : Caller) : Request → String
  | memberSend _ => ""
  | _ => caller.apiKeyID

/-- The device and the template that a request names exist. -/
def Names (r : Request) (db : Database) : Prop :=
  (r.deviceID ≠ "" → db.devices.any (·.id = r.deviceID) = true) ∧
    (r.templateID ≠ "" → db.registry.templates.any (·.id = r.templateID) = true)

end Request

/-- A column that is left out when the text is empty. -/
def optional (text : String) : Option String := if text = "" then none else some text

/-! ## The rows that a request stores -/

/-- The row that an event stores, or tries to. -/
def rowOf : Event ServerCmd → Option Message
  | ⟨.db (.createMessage row), _⟩ => some row
  | _ => none

/-- A row of a request. -/
structure RowOf (caller : Caller) (r : Request) (row : Message) : Prop where
  apiKeyID : row.apiKeyID = r.keyID caller
  deviceID : row.deviceID = optional r.deviceID
  templateID : row.templateID = optional r.templateID

/-- What a request asks for: it stores rows of its own, and has to do with no other messages. -/
def Creates (caller : Caller) (r : Request) : {β : Type} → ServerCmd β → Prop
  | _, .db (.createMessage row) => RowOf caller r row
  | _, .queue .now | _, .queue (.xAdd _ _ _) => True
  | _, e => Aside e

/-- The rows that a request has stored or tried to. -/
def creating (caller : Caller) (r : Request) : Protocol ServerCmd (List Message) where
  allows _ := Creates caller r
  expects _ := True
  next rows ev := rows ++ (rowOf ev).toList

theorem foldl_creating (caller : Caller) (r : Request) (evs : List (Event ServerCmd))
    (rows : List Message) :
    evs.foldl (creating caller r).next rows = rows ++ evs.filterMap rowOf := by
  induction evs generalizing rows with
  | nil => simp
  | cons ev evs ih =>
    rw [List.foldl_cons, ih]
    cases hrow : rowOf ev with
    | none => simp [creating, hrow]
    | some row => simp [creating, hrow]

/-- A request stores a row for each recipient, or none. -/
def Covers (r : Request) (rows : List Message) (_ : Response) : Prop :=
  rows = [] ∨ rows.map (·.recipient) = r.recipients

section Keeps

variable {svc : Services} {caller : Caller} {r : Request} {rows : List Message}

theorem Aside.creates {β : Type} {e : ServerCmd β} (h : Aside e) : Creates caller r e := by
  cases e with
  | db q =>
    cases q with
    | createMessage row => exact h.elim
    | _ => exact h
  | queue e => exact h.elim
  | _ => exact h

theorem Aside.rowOf_eq {β : Type} {e : ServerCmd β} (h : Aside e) (b : β) : rowOf ⟨e, b⟩ = none := by
  cases e with
  | db q =>
    cases q with
    | createMessage row => exact h.elim
    | _ => rfl
  | _ => rfl

/-- What is done aside stores no row. -/
theorem keeps_of_aside {α : Type} {p : ServerProg α} (hp : p.Only Aside) :
    p.Keeps (creating caller r) (fun rows' _ => rows' = rows) rows :=
  Prog.Keeps.of_only hp (fun _ he => he.creates) fun e b he => by
    change rows ++ (rowOf ⟨e, b⟩).toList = rows
    rw [he.rowOf_eq, Option.toList_none, List.append_nil]

theorem keeps_put (lane : PriorityLane) (msg : QueueMessage) :
    (put svc lane msg).Keeps (creating caller r) (fun rows' _ => rows' = rows) rows := by
  have hqueue : ∀ {β : Type} (e : Worker.WorkerCmd β) (b : β),
      (creating caller r).next rows ⟨.queue e, b⟩ = rows := fun e b => List.append_nil rows
  unfold put enqueue Worker.enqueue
  cases svc.cfg.queue.stream? lane with
  | none => exact rfl
  | some stream =>
    cases msg.marshal with
    | none => exact rfl
    | some data =>
      refine ⟨trivial, fun now _ => ⟨trivial, fun added _ => ?_⟩⟩
      rw [hqueue, hqueue]
      cases added <;> exact rfl

/-- Posting a message stores its row, or tries to. -/
theorem keeps_post {row : Message} (hrow : RowOf caller r row) {between : ServerProg Unit}
    (hbetween : between.Only Aside) (lane : PriorityLane) (msg : QueueMessage) :
    (post svc row between lane msg).Keeps (creating caller r) (fun rows' _ => rows' = rows ++ [row])
      rows := by
  refine ⟨hrow, fun created _ => ?_⟩
  cases created with
  | error e => exact rfl
  | ok u =>
    refine (keeps_of_aside hbetween).bind fun rows₁ _ hrows₁ => ?_
    rw [hrows₁]
    exact keeps_put lane msg

/-- A check comes first. -/
theorem creating_check {α : Type} {p : ServerProg (Except Response α)}
    {rest : α → ServerProg Response} (hp : p.Only (Checks True))
    (hrest : ∀ a, (rest a).Keeps (creating caller r) (Covers r) []) :
    (orReturn p rest).Keeps (creating caller r) (Covers r) [] := by
  refine (keeps_of_aside (hp.mono fun _ => Checks.aside)).bind fun rows' v hrows' => ?_
  rw [hrows']
  cases v with
  | error e => exact .inl rfl
  | ok a => exact hrest a

/-- The row of a draft is one of the request if the draft is made from it. -/
theorem rowOf_draft {d : Draft} {c : Caller} (hkey : c.apiKeyID = r.keyID caller)
    (hdevice : d.deviceID = r.deviceID) (htemplate : d.templateID = r.templateID)
    (msgID encrypted : String) (now : ℤ) : RowOf caller r (d.row svc c msgID encrypted now) :=
  ⟨hkey, by rw [← hdevice]; rfl, by rw [← htemplate]; rfl⟩

/-- The end of a request for one message. -/
theorem creating_post {row : Message} (hrow : RowOf caller r row)
    (hrecipient : r.recipients = [row.recipient]) {between : ServerProg Unit}
    (hbetween : between.Only Aside) {lane : PriorityLane} {msg : QueueMessage}
    {k : Posted → ServerProg Response} (hk : ∀ posted, (k posted).Only Aside) :
    (post svc row between lane msg >>= k).Keeps (creating caller r) (Covers r) [] := by
  refine (keeps_post hrow hbetween lane msg).bind fun rows₁ posted hrows₁ => ?_
  rw [hrows₁]
  refine (keeps_of_aside (hk posted)).mono fun rows₂ _ hrows₂ => ?_
  rw [hrows₂]
  exact .inr hrecipient.symm

/-- A draft of a request. -/
structure DraftOf (r : Request) (d : Draft) : Prop where
  deviceID : d.deviceID = r.deviceID
  templateID : d.templateID = r.templateID

theorem postFresh_creating {c : Caller} {between : ServerProg Unit} {d : Draft}
    (hbetween : between.Only Aside) (key : Option String) (startTime : ℤ)
    (hkey : c.apiKeyID = r.keyID caller) (hrecipient : r.recipients = [d.recipient])
    (hdraft : DraftOf r d) :
    (postFresh svc c between key startTime d).Keeps (creating caller r) (Covers r) [] := by
  unfold postFresh
  refine creating_check (requireQuota_checks _) fun _ => ?_
  refine ⟨trivial, fun msgID _ => ⟨trivial, fun now _ => ?_⟩⟩
  refine creating_check (encrypt_checks _) fun encrypted => ?_
  refine creating_post (rowOf_draft hkey hdraft.deviceID hdraft.templateID _ _ _) hrecipient hbetween
    fun posted => ?_
  cases posted with
  | rejected => trivial
  | failed => trivial
  | queued => exact ⟨trivial, fun _ => trivial⟩

theorem send_draft {body : Option SendSMSRequest} {d : Draft}
    (h : SendSMSRequest.validate svc body = .ok d) :
    DraftOf (.send body) d ∧ (Request.send body).recipients = [d.recipient] := by
  obtain ⟨req, sender, rfl, -, -, rfl⟩ := validate_ok h
  exact ⟨⟨rfl, rfl⟩, rfl⟩

theorem member_draft {body : Option SendSMSRequest} {d : Draft}
    (h : SendSMSRequest.validateMember svc body = .ok d) :
    DraftOf (.memberSend body) d ∧ (Request.memberSend body).recipients = [d.recipient] := by
  obtain ⟨req, rfl, hrecipient, hdeviceID, htemplateID⟩ := validateMember_ok h
  exact ⟨⟨hdeviceID, htemplateID⟩, congrArg ([·]) hrecipient.symm⟩

theorem schedule_draft {body : Option ScheduleSendRequest} {now later scheduledAt : ℤ} {d : Draft}
    (h : ScheduleSendRequest.validate svc now later body = .ok (scheduledAt, d)) :
    DraftOf (.scheduleSend body) d ∧ (Request.scheduleSend body).recipients = [d.recipient] := by
  obtain ⟨req, sender, rfl, -, -, rfl⟩ := validateSchedule_ok h
  exact ⟨⟨rfl, rfl⟩, rfl⟩

theorem bulk_draft {body : Option BulkSendRequest} {recipients : List String} {d : Draft}
    (h : BulkSendRequest.validate svc body = .ok (recipients, d)) :
    DraftOf (.bulkSend body) d ∧ (Request.bulkSend body).recipients = recipients := by
  obtain ⟨req, rfl, rfl, -, hdeviceID, htemplateID⟩ := validateBulk_ok h
  exact ⟨⟨hdeviceID, htemplateID⟩, rfl⟩

theorem send_creating (body : Option SendSMSRequest) :
    (send svc caller body).Keeps (creating caller (.send body)) (Covers (.send body)) [] := by
  refine ⟨trivial, fun startTime _ => ?_⟩
  dsimp only
  cases hbody : SendSMSRequest.validate svc body with
  | error e => exact .inl rfl
  | ok d =>
    obtain ⟨hdraft, hrecipient⟩ := send_draft hbody
    refine creating_check (checkOptionalDevice_checks _ _) fun _ => ?_
    refine creating_check (checkDuplicate_checks _) fun _ => ?_
    rw [sendFresh_eq]
    exact postFresh_creating (counted_aside _) _ startTime rfl hrecipient hdraft

theorem memberSend_creating (body : Option SendSMSRequest) :
    (memberSend svc caller.accountID body).Keeps (creating caller (.memberSend body))
      (Covers (.memberSend body)) [] := by
  refine ⟨trivial, fun startTime _ => ?_⟩
  dsimp only
  cases hbody : SendSMSRequest.validateMember svc body with
  | error e => exact .inl rfl
  | ok d =>
    obtain ⟨hdraft, hrecipient⟩ := member_draft hbody
    refine creating_check (checkDevice_checks _ _ _) fun device => ?_
    cases deviceSender svc device with
    | error e => exact .inl rfl
    | ok sender =>
      refine ⟨trivial, fun key _ => ?_⟩
      refine creating_check (checkDuplicate_checks _) fun _ => ?_
      rw [memberFresh_eq]
      exact postFresh_creating (countedAndUsed_aside _ _) _ startTime rfl hrecipient
        ⟨hdraft.deviceID, hdraft.templateID⟩

theorem scheduleSend_creating (body : Option ScheduleSendRequest) :
    (scheduleSend svc caller body).Keeps (creating caller (.scheduleSend body))
      (Covers (.scheduleSend body)) [] := by
  refine ⟨trivial, fun checkedAt _ => ⟨trivial, fun checkedLater _ => ?_⟩⟩
  dsimp only [Prog.bind]
  cases hbody : ScheduleSendRequest.validate svc checkedAt checkedLater body with
  | error e => exact .inl rfl
  | ok checked =>
    obtain ⟨scheduledAt, d⟩ := checked
    obtain ⟨hdraft, hrecipient⟩ := schedule_draft hbody
    refine creating_check (checkOptionalDevice_checks _ _) fun _ => ?_
    refine creating_check (requireQuota_checks _) fun _ => ?_
    refine ⟨trivial, fun now _ => ⟨trivial, fun msgID _ => ?_⟩⟩
    refine creating_check (encrypt_checks _) fun encrypted => ?_
    have hrow : RowOf caller (.scheduleSend body)
        (d.scheduledRow svc caller msgID.text encrypted now scheduledAt) :=
      ⟨rfl, by rw [← hdraft.deviceID]; rfl, by rw [← hdraft.templateID]; rfl⟩
    refine ⟨hrow, fun created _ => ?_⟩
    cases created with
    | error e => exact .inr hrecipient.symm
    | ok u => exact .inr hrecipient.symm

theorem bulkOne_creating {d : Draft} (encrypted : String) (now : ℤ) (recipient : String)
    (hkey : caller.apiKeyID = r.keyID caller) (hdraft : DraftOf r d) :
    (bulkOne svc d caller encrypted now recipient).Keeps (creating caller r)
      (fun rows' _ => rows'.map (·.recipient) = rows.map (·.recipient) ++ [recipient]) rows := by
  rw [bulkOne_eq]
  refine ⟨trivial, fun msgID _ => ?_⟩
  have hrow : RowOf caller r ({ d with
      recipient := recipient
      idempotencyKey := "bulk-" ++ msgID.text ++ "-" ++ recipient }.row svc caller msgID.text encrypted
        now) := by
    refine rowOf_draft hkey ?_ ?_ _ _ _
    · exact hdraft.deviceID
    · exact hdraft.templateID
  have hstart : (creating caller r).next rows ⟨.uuid, msgID⟩ = rows := List.append_nil rows
  rw [hstart]
  refine (keeps_post hrow (counted_aside _) _ _).bind fun rows₁ posted hrows₁ => ?_
  rw [hrows₁]
  cases posted with
  | rejected => exact List.map_append
  | failed => exact List.map_append
  | queued => exact List.map_append

theorem bulkLoop_creating {d : Draft} (encrypted : String) (now : ℤ)
    (hkey : caller.apiKeyID = r.keyID caller) (hdraft : DraftOf r d) (recipients : List String) :
    (bulkLoop svc d caller encrypted now recipients).Keeps (creating caller r)
      (fun rows' _ => rows'.map (·.recipient) = rows.map (·.recipient) ++ recipients) rows := by
  induction recipients generalizing rows with
  | nil => exact (List.append_nil _).symm
  | cons recipient recipients ih =>
    refine (bulkOne_creating encrypted now recipient hkey hdraft).bind fun rows₁ result hrows₁ => ?_
    refine ih.bind fun rows₂ results hrows₂ => ?_
    change rows₂.map (·.recipient) = _
    rw [hrows₂, hrows₁, List.append_assoc, List.singleton_append]

theorem bulkSend_creating (body : Option BulkSendRequest) :
    (bulkSend svc caller body).Keeps (creating caller (.bulkSend body)) (Covers (.bulkSend body))
      [] := by
  unfold bulkSend
  cases hbody : BulkSendRequest.validate svc body with
  | error e => exact .inl rfl
  | ok checked =>
    obtain ⟨recipients, d⟩ := checked
    obtain ⟨hdraft, hrecipients⟩ := bulk_draft hbody
    refine creating_check (checkOptionalDevice_checks _ _) fun _ => ?_
    refine creating_check (requireQuota_checks _) fun _ => ?_
    refine ⟨trivial, fun now _ => ?_⟩
    refine creating_check (encrypt_checks _) fun encrypted => ?_
    refine (bulkLoop_creating encrypted now rfl hdraft recipients).bind fun rows results hrows => ?_
    exact .inr (hrows.trans hrecipients.symm)

variable (svc) in
/-- **The rows that a request stores**: one for each recipient, with the key of the caller and the
device and the template that the request names, or none. -/
theorem Request.handle_creating (caller : Caller) (r : Request) :
    (r.handle svc caller).Keeps (creating caller r) (Covers r) [] := by
  cases r with
  | send body => exact send_creating body
  | bulkSend body => exact bulkSend_creating body
  | scheduleSend body => exact scheduleSend_creating body
  | memberSend body => exact memberSend_creating body

end Keeps

/-! ## The table after a request -/

/-- The rows that were stored by some events, or tried to. -/
def rowsOf (evs : List (Event ServerCmd)) : List Message := evs.filterMap rowOf

/-- The ids of some rows are new. -/
structure NewIDs (db : Database) (rows : List Message) : Prop where
  nodup : (rows.map Message.id).Nodup
  fresh : ∀ row ∈ rows, ∀ m ∈ db.messages, m.id ≠ row.id

/-- Two states of the database with the same API keys, in which a row refers to the same. -/
structure SameRefs (db db' : Database) : Prop where
  apiKeys : db'.apiKeys = db.apiKeys
  refers : ∀ row, db'.refersToRows row = db.refersToRows row

section Exec

variable {cfg : Config} {caller : Caller} {r : Request} {w : World}

theorem SameRefs.refl (db : Database) : SameRefs db db := ⟨rfl, fun _ => rfl⟩

theorem SameRefs.trans {db₁ db₂ db₃ : Database} (h : SameRefs db₁ db₂) (h' : SameRefs db₂ db₃) :
    SameRefs db₁ db₃ :=
  ⟨h'.apiKeys.trans h.apiKeys, fun row => (h'.refers row).trans (h.refers row)⟩

theorem Aside.sameRefs {β : Type} {q : Query β} (h : Aside (.db q)) (db : Database) :
    (q.run db).2.messages = db.messages ∧ SameRefs db (q.run db).2 := by
  cases q with
  | deviceByID _ | usageCounter _ _ | subscription _ => exact ⟨rfl, .refl db⟩
  | incrementUsage accountID date =>
    exact ⟨db.countUsage_messages accountID date, db.countUsage_apiKeys accountID date,
      db.countUsage_refersToRows accountID date⟩
  | recordSent deviceID now =>
    refine ⟨rfl, rfl, fun row => ?_⟩
    have hids : ∀ id, (db.updateDevice deviceID fun d =>
        { d with messagesSentCount := d.messagesSentCount + 1, lastUsedAt := some now }).devices.any
          (·.id = id) = db.devices.any (·.id = id) := by
      intro id
      rw [Database.updateDevice, List.any_map]
      congr 1
      funext d
      dsimp only [Function.comp_apply]
      split_ifs <;> rfl
    simp only [Query.run, Database.refersToRows, hids]
    rfl
  | _ => exact h.elim

variable (cfg) in
/-- A command that stores no row leaves the messages alone, and what they refer to. -/
theorem Creates.still {β : Type} {e : ServerCmd β} (h : Creates caller r e)
    (hnone : ∀ b, rowOf ⟨e, b⟩ = none) (hcalm : Calm w) :
    ((server cfg).step e w).2.db.messages = w.db.messages ∧
      SameRefs w.db ((server cfg).step e w).2.db := by
  have hplain : e.tables w = w.tick.db → ((server cfg).step e w).2.db.messages = w.db.messages ∧
      SameRefs w.db ((server cfg).step e w).2.db := by
    intro htables
    rw [step_db, htables, hcalm.alone.tick_db]
    exact ⟨rfl, .refl w.db⟩
  cases e with
  | db q =>
    have haside : Aside (.db q) := by
      cases q with
      | createMessage row => cases hnone (.ok ())
      | _ => exact h
    rw [(hcalm.step_query cfg q).2]
    exact haside.sameRefs w.db
  | _ => exact hplain rfl

/-- The insertion of a row that is new. -/
theorem insertMessage_of_new {db : Database} {row : Message} (hnew : ∀ m ∈ db.messages, m.id ≠ row.id) :
    db.insertMessage row = if db.refersToRows row then
        .ok { db with messages := db.messages ++ [row] }
      else .error "insert or update on table \"messages\" violates foreign key constraint" := by
  have hany : db.messages.any (·.id = row.id) = false := by simpa using hnew
  unfold Database.insertMessage
  rw [if_neg (by simp [hany])]
  cases db.refersToRows row <;> rfl

variable (cfg) in
/-- **What a routine that stores rows leaves in the table**, alone on a healthy server: all of them, or
none if they refer to what does not exist. -/
theorem messages_of_keeps {α : Type} {p : ServerProg α} {Q : List Message → α → Prop}
    {rows : List Message} (hp : p.Keeps (creating caller r) Q rows) (hcalm : Calm w) {stored : Bool}
    (hrefers : ∀ row, RowOf caller r row → w.db.refersToRows row = stored)
    (hnew : NewIDs w.db (rowsOf (p.exec (server cfg) w).trace)) :
    (p.exec (server cfg) w).state.db.messages =
        w.db.messages ++ (if stored then rowsOf (p.exec (server cfg) w).trace else []) ∧
      SameRefs w.db (p.exec (server cfg) w).state.db := by
  induction p generalizing w rows with
  | ret a =>
    refine ⟨?_, .refl w.db⟩
    cases stored <;> exact (List.append_nil _).symm
  | act e k ih =>
    rw [Prog.exec_act] at hnew ⊢
    dsimp only at hnew ⊢
    have hrest := hp.2 ((server cfg).step e w).1 trivial
    cases hrow : rowOf ⟨e, ((server cfg).step e w).1⟩ with
    | none =>
      have hnone : ∀ b, rowOf ⟨e, b⟩ = none := by
        cases e with
        | db q =>
          cases q with
          | createMessage row => cases hrow
          | _ => exact fun _ => rfl
        | _ => exact fun _ => rfl
      obtain ⟨hmessages, hsame⟩ := Creates.still cfg hp.1 hnone hcalm
      rw [rowsOf, List.filterMap_cons_none hrow] at hnew ⊢
      obtain ⟨hend, hsame'⟩ := ih _ hrest (hcalm.step e)
        (fun row h => (hsame.refers row).trans (hrefers row h))
        ⟨hnew.nodup, by rw [hmessages]; exact hnew.fresh⟩
      rw [hmessages] at hend
      exact ⟨hend, hsame.trans hsame'⟩
    | some row =>
      cases e with
      | db q =>
        cases q with
        | createMessage row' =>
          obtain rfl : row' = row := Option.some.inj hrow
          rw [rowsOf, List.filterMap_cons_some hrow] at hnew ⊢
          obtain ⟨hid, hids⟩ := List.nodup_cons.1 hnew.nodup
          have hdb := (hcalm.step_query cfg (.createMessage row')).2
          have hrun : ((Query.createMessage row').run w.db).2 =
              { w.db with messages := w.db.messages ++ if stored then [row'] else [] } := by
            simp only [Query.run, insertMessage_of_new (hnew.fresh row' List.mem_cons_self),
              hrefers row' hp.1]
            cases stored
            · exact congrArg (fun messages => { w.db with messages := messages })
                (List.append_nil _).symm
            · rfl
          rw [hrun] at hdb
          have hsame : SameRefs w.db ((server cfg).step (.db (.createMessage row')) w).2.db := by
            rw [hdb]
            exact ⟨rfl, fun _ => rfl⟩
          obtain ⟨hend, hsame'⟩ := ih _ hrest (hcalm.step _)
            (fun row h => (hsame.refers row).trans (hrefers row h)) ⟨hids, fun row hmem m hm => by
              rw [hdb] at hm
              rcases List.mem_append.1 hm with hm | hm
              · exact hnew.fresh row (List.mem_cons_of_mem _ hmem) m hm
              · cases stored with
                | false => exact absurd hm List.not_mem_nil
                | true =>
                  rw [List.mem_singleton.1 hm]
                  exact fun heq => hid (heq ▸ List.mem_map_of_mem hmem)⟩
          refine ⟨?_, hsame.trans hsame'⟩
          rw [hend, hdb]
          cases stored <;> simp [rowsOf]
        | _ => cases hrow
      | _ => cases hrow

/-! ## The lists -/

/-- The messages that the service lists for an account, without a filter and on one page. -/
def listAll (db : Database) (accountID : String) : Except String (List Message) :=
  ((Query.listByAccountFiltered accountID 0 db.messages.length "" "").run db).1

/-- The number of messages that the service counts for an account, without a filter. -/
def countAll (db : Database) (accountID : String) : Except String ℕ :=
  ((Query.countByAccountFiltered accountID "" "").run db).1

/-- **The messages of a request appear as they should**: there is one for each recipient, once in the
list and in the count of the account, and the lists of other accounts are as they were. -/
def Appears (before after : Database) (accountID : String) (recipients : List String) : Prop :=
  ∃ rows, after.messages = before.messages ++ rows ∧ rows.map (·.recipient) = recipients ∧
    (∀ row ∈ rows, ∃ shown, listAll after accountID = .ok shown ∧
      shown.countP (·.id = row.id) = 1) ∧
    countAll after accountID = (countAll before accountID).map (· + rows.length) ∧
    ∀ other, other ≠ accountID → listAll after other = listAll before other ∧
      countAll after other = countAll before other

section Lists

variable {db : Database} {accountID : String}

theorem filteredMessages_all (db : Database) (accountID : String) :
    db.filteredMessages accountID "" "" = db.messagesOf accountID := by
  unfold Database.filteredMessages
  simp

theorem listAll_eq (db : Database) (accountID : String) :
    listAll db accountID = .ok ((db.messagesOf accountID).insertionSort fun a b => Query.newestFirst a b) := by
  have hle : (db.messagesOf accountID).length ≤ db.messages.length := List.length_filter_le _ _
  simp only [listAll, Query.run, filteredMessages_all]
  rw [if_neg (by omega), if_neg (by omega), Int.toNat_zero, List.drop_zero, Int.toNat_natCast,
    List.take_of_length_le (by rwa [List.length_insertionSort])]

theorem countAll_eq (db : Database) (accountID : String) :
    countAll db accountID = .ok (db.messagesOf accountID).length := by
  simp only [countAll, Query.run, filteredMessages_all]

/-- The messages of an account after some have been stored. -/
theorem messagesOf_append {db db' : Database} {rows : List Message} (hsame : SameRefs db db')
    (hmessages : db'.messages = db.messages ++ rows) (accountID : String) :
    db'.messagesOf accountID = db.messagesOf accountID ++ rows.filter fun m =>
      db.apiKeys.any fun k => k.id = m.apiKeyID && k.accountID = accountID := by
  rw [Database.messagesOf, hmessages, hsame.apiKeys, List.filter_append]
  rfl

/-- **Rows of an account that have been stored appear as they should.** -/
theorem appears_of_stored {db db' : Database} {rows : List Message}
    (hsame : SameRefs db db') (hmessages : db'.messages = db.messages ++ rows)
    (hnew : NewIDs db rows) (hkeys : (db.apiKeys.map APIKey.id).Nodup) {key : APIKey}
    (hkey : key ∈ db.apiKeys) (howner : key.accountID = accountID)
    (hrows : ∀ row ∈ rows, row.apiKeyID = key.id) :
    Appears db db' accountID (rows.map (·.recipient)) := by
  have hfind : db.apiKeys.find? (·.id = key.id) = some key := Database.find?_of_mem hkeys hkey
  have hown : (rows.filter fun m =>
      db.apiKeys.any fun k => k.id = m.apiKeyID && k.accountID = accountID) = rows := by
    refine List.filter_eq_self.2 fun row hrow => List.any_eq_true.2 ⟨key, hkey, ?_⟩
    simp [hrows row hrow, howner]
  have hothers : ∀ other, other ≠ accountID → db'.messagesOf other = db.messagesOf other := by
    intro other hne
    rw [messagesOf_append hsame hmessages]
    have hnone : (rows.filter fun m =>
        db.apiKeys.any fun k => k.id = m.apiKeyID && k.accountID = other) = [] := by
      refine List.filter_eq_nil_iff.2 fun row hrow hany => ?_
      obtain ⟨k, hk, hboth⟩ := List.any_eq_true.1 hany
      rw [Bool.and_eq_true, decide_eq_true_eq, decide_eq_true_eq, hrows row hrow] at hboth
      have hfind' := Database.find?_of_mem hkeys hk
      rw [hboth.1, hfind] at hfind'
      obtain rfl := Option.some.inj hfind'
      exact hne (hboth.2.symm.trans howner)
    rw [hnone, List.append_nil]
  refine ⟨rows, hmessages, rfl, fun row hrow => ⟨_, listAll_eq db' accountID, ?_⟩, ?_, ?_⟩
  · have hold : (db.messagesOf accountID).countP (·.id = row.id) = 0 := by
      refine List.countP_eq_zero.2 fun m hm => ?_
      simpa using hnew.fresh row hrow m (List.mem_of_mem_filter hm)
    have hone : rows.countP (·.id = row.id) = 1 := by
      have hcount := List.count_eq_one_of_mem hnew.nodup (List.mem_map_of_mem hrow)
      rw [List.count, List.countP_map] at hcount
      rw [← hcount]
      congr 1
    rw [(List.perm_insertionSort _ _).countP_eq, messagesOf_append hsame hmessages, hown,
      List.countP_append, hold, hone]
  · rw [countAll_eq, countAll_eq, messagesOf_append hsame hmessages, hown, List.length_append]
    rfl
  · intro other hne
    rw [listAll_eq, listAll_eq, countAll_eq, countAll_eq, hothers other hne]
    exact ⟨rfl, rfl⟩

/-- The rows that a run stores are rows of its request. -/
theorem rowOf_of_mem {α : Type} {p : ServerProg α} {caller : Caller} {r : Request}
    {Q : List Message → α → Prop} {rows : List Message} (hp : p.Keeps (creating caller r) Q rows)
    {row : Message} (hrow : row ∈ rowsOf (p.exec (server cfg) w).trace) : RowOf caller r row := by
  have honly : p.Only (Creates caller r) := hp.only (fun _ _ _ h => h) fun _ => trivial
  obtain ⟨⟨e, b⟩, hev, hsome⟩ := List.mem_filterMap.1 hrow
  have hallowed := honly.exec_trace (server cfg) w _ hev
  cases e with
  | db q =>
    cases q with
    | createMessage row' =>
      obtain rfl : row' = row := Option.some.inj hsome
      exact hallowed
    | _ => cases hsome
  | _ => cases hsome

/-- What the rows of a request refer to exists, unless the request comes from the portal. -/
theorem refersToRows_of_rowOf {caller : Caller} {r : Request} {row : Message}
    (hrow : RowOf caller r row) (hnames : r.Names db) {key : APIKey} (hkey : key ∈ db.apiKeys)
    (hid : key.id = r.keyID caller) : db.refersToRows row = true := by
  have hkeys : db.apiKeys.any (·.id = row.apiKeyID) = true :=
    List.any_eq_true.2 ⟨key, hkey, by simp [hrow.apiKeyID, hid]⟩
  simp only [Database.refersToRows, hkeys, hrow.deviceID, hrow.templateID, optional, Bool.true_and,
    Bool.and_eq_true]
  constructor
  · split_ifs with hempty
    · rfl
    · exact hnames.1 hempty
  · split_ifs with hempty
    · rfl
    · exact hnames.2 hempty

/-- A row of a request from the portal refers to no API key. -/
theorem refersToRows_of_portal {caller : Caller} {r : Request} {row : Message}
    (hrow : RowOf caller r row) (hportal : r.FromPortal) (hblank : ∀ k ∈ db.apiKeys, k.id ≠ "") :
    db.refersToRows row = false := by
  have hkey : row.apiKeyID = "" := by
    rw [hrow.apiKeyID]
    cases r with
    | memberSend body => rfl
    | _ => exact hportal.elim
  have hnone : db.apiKeys.any (·.id = row.apiKeyID) = false := by simpa [hkey] using hblank
  rw [Database.refersToRows, hnone, Bool.false_and, Bool.false_and]

end Lists

end Exec

/-- A request with an API key. -/
def keyed : Request := .send order.body

/-- The same request from the portal, for the only device. -/
def fromPortal : Request := .memberSend (order.body.map fun req => { req with deviceID := "device-1" })

/-- A server whose only device has a name. -/
def frontDesk : World :=
  { onePhone [] with
    db := { (onePhone []).db with devices := [{ phone with name := "Front desk" }] } }

end AeroxeBee.Api
