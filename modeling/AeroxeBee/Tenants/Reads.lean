import AeroxeBee.Tenants.Writes
import Mathlib.Data.Fintype.EquivFin

/-!
# What a request reads of the rows of others

The handlers that show a message, a device or a template look the row up by the id in the path
alone; only the list of messages is restricted to the account of the caller.

* `ReadRequest.handle`: the five handlers;
* `noninterfering_iff`: what the caller is shown does not depend on the rows of other accounts
  exactly if the id in the path is that of a row of the caller.
-/

namespace AeroxeBee.Tenants

open Foundations Accounts Api

/-! ## Pages -/

/-- The machine integer that a computation comes to. -/
def wrap (n : ℤ) : ℤ := n.bmod (2 ^ 64)

/-- The number that a text is, or the default if the text is not one or is zero. -/
def parseIntOrDefault (s : String) (defaultVal : ℤ) : ℤ :=
  if s.toList.all fun c => '0' ≤ c && c ≤ '9' then
    let val := s.toList.foldl (fun val c => wrap (val * 10 + (c.toNat - '0'.toNat : ℕ))) 0
    if val = 0 then defaultVal else val
  else defaultVal

/-- Which part of a list is asked for. -/
structure PaginationParams where
  page : ℤ
  pageSize : ℤ
  offset : ℤ

/-- The part that the parameters of a request ask for. -/
def parsePagination (page pageSize : String) (defaultPageSize maxPageSize : ℤ) :
    PaginationParams :=
  let maxPageSize := if maxPageSize ≤ 0 then 100 else maxPageSize
  let page := parseIntOrDefault page 1
  let pageSize := parseIntOrDefault pageSize defaultPageSize
  let pageSize := if maxPageSize < pageSize then maxPageSize else pageSize
  ⟨page, pageSize, wrap (wrap (page - 1) * pageSize)⟩

/-! ## Responses -/

/-- What is shown of a message. -/
structure MessageData where
  id : String
  recipient : String
  sender : String
  message : String
  messageType : MessageType
  status : String
  deliveryStatus : DeliveryStatus
  confidenceScore : ℚ
  errorReason : Option String
  routingStrategy : RoutingStrategy
  createdAt : Timestamp
  deliveredAt : Option ℤ
deriving DecidableEq

/-- What is shown of the delivery of a message. -/
structure ConfidenceData where
  deliveryStatus : DeliveryStatus
  confidenceScore : ℚ
  messageID : String
  routingStrategy : RoutingStrategy
deriving DecidableEq

/-- What is shown of a message in a list. -/
structure MessageSummary where
  id : String
  recipient : String
  sender : String
  messageType : MessageType
  status : String
  deliveryStatus : DeliveryStatus
  confidenceScore : ℚ
  createdAt : Timestamp
deriving DecidableEq

/-- What is shown of a device. -/
structure DeviceData where
  id : String
  physicalDeviceID : String
  simSlot : ℤ
  carrier : String
  status : DeviceStatus
  simHealthStatus : SIMHealthStatus
  healthTrendSlope : ℚ
  reliabilityScore : ℚ
  reputationScore : ℚ
  successRate24h : ℚ
  uptimeRatio24h : ℚ
  avgLatencyMs : ℚ
  circuitBreakerState : CircuitBreakerState
  messagesSentCount : ℤ
  countryCode : String
  region : String
  lastSeen : Option ℤ
  lastPongAt : Option ℤ
deriving DecidableEq

/-- A part of a list of messages. -/
structure PaginationResponse where
  data : List MessageSummary
  total : ℕ
  page : ℤ
  pageSize : ℤ
  totalPages : ℤ
deriving DecidableEq

/-- What a request is shown. -/
inductive Shown where
  | message (data : MessageData)
  | confidence (data : ConfidenceData)
  | device (data : DeviceData)
  | template (tpl : Template)
  | messages (page : PaginationResponse)
deriving DecidableEq

/-- The part of a list, with the number of all parts. -/
def PaginationParams.toResponse (p : PaginationParams) (data : List MessageSummary) (total : ℕ) :
    PaginationResponse where
  data := data
  total := total
  page := p.page
  pageSize := p.pageSize
  totalPages := (total : ℤ).tdiv p.pageSize + if 0 < (total : ℤ).tmod p.pageSize then 1 else 0

/-- The text of a message; a text that cannot be read is shown as empty. -/
def decrypted (cipher : Option Cipher) (msg : Message) : String :=
  match cipher with
  | none => ""
  | some cipher =>
    if msg.encryptedMessage = "" then "" else (cipher.decrypt msg.encryptedMessage).toOption.getD ""

/-- What is shown of a message. -/
def messageData (cipher : Option Cipher) (msg : Message) : MessageData where
  id := msg.id
  recipient := msg.recipient
  sender := msg.sender
  message := decrypted cipher msg
  messageType := msg.messageType
  status := msg.status
  deliveryStatus := msg.deliveryStatus
  confidenceScore := msg.confidenceScore
  errorReason := msg.errorReason
  routingStrategy := msg.routingStrategyUsed
  createdAt := msg.createdAt
  deliveredAt := msg.deliveredAt

/-- What is shown of the delivery of a message. -/
def confidenceData (msg : Message) : ConfidenceData where
  deliveryStatus := msg.deliveryStatus
  confidenceScore := msg.confidenceScore
  messageID := msg.id
  routingStrategy := msg.routingStrategyUsed

/-- What is shown of a message in a list. -/
def messageSummary (msg : Message) : MessageSummary where
  id := msg.id
  recipient := msg.recipient
  sender := msg.sender
  messageType := msg.messageType
  status := msg.status
  deliveryStatus := msg.deliveryStatus
  confidenceScore := msg.confidenceScore
  createdAt := msg.createdAt

/-- What is shown of a device. -/
def deviceData (device : Device) : DeviceData where
  id := device.id
  physicalDeviceID := device.physicalDeviceID
  simSlot := device.simSlot
  carrier := device.carrier
  status := device.status
  simHealthStatus := device.simHealthStatus
  healthTrendSlope := device.healthTrendSlope
  reliabilityScore := device.reliabilityScore
  reputationScore := device.reputationScore
  successRate24h := device.successRate24h
  uptimeRatio24h := device.uptimeRatio24h
  avgLatencyMs := device.avgLatencyMs
  circuitBreakerState := device.circuitBreakerState
  messagesSentCount := device.messagesSentCount
  countryCode := device.countryCode
  region := device.region
  lastSeen := device.lastSeen
  lastPongAt := device.lastPongAt

/-! ## Handlers -/

/-- Look a row up, and show it. -/
def lookup {α : Type} (q : Query (Option α)) (failed missing : HttpError) (view : α → Shown) :
    ServerProg (Except HttpError Shown) := do
  match ← Prog.call (.db q) with
  | .error _ => return .error failed
  | .ok none => return .error missing
  | .ok (some row) => return .ok (view row)

/-- `GET /api/v1/messages/{id}`. -/
def MessageHandler.getMessage (cipher : Option Cipher) (msgID : String) :
    ServerProg (Except HttpError Shown) :=
  if msgID = "" then return .error ⟨400, "message id required"⟩
  else
    lookup (.messageByID msgID) ⟨500, "database error"⟩ ⟨404, "message not found"⟩
      fun msg => .message (messageData cipher msg)

/-- `GET /api/v1/messages/{id}/confidence`. -/
def MessageHandler.getConfidence (msgID : String) : ServerProg (Except HttpError Shown) :=
  lookup (.messageByID msgID) ⟨500, "database error"⟩ ⟨404, "message not found"⟩
    fun msg => .confidence (confidenceData msg)

/-- `GET /api/v1/messages`. -/
def MessageHandler.listMessages (accountID page pageSize statusFilter msgTypeFilter : String) :
    ServerProg (Except HttpError Shown) := do
  let pg := parsePagination page pageSize 20 100
  match ← Prog.call (.db (.listByAccountFiltered accountID pg.offset pg.pageSize statusFilter
    msgTypeFilter)) with
  | .error _ => return .error ⟨500, "failed to list messages"⟩
  | .ok msgs =>
    -- a count that fails is taken for zero
    let total ← Prog.call (.db (.countByAccountFiltered accountID statusFilter msgTypeFilter))
    return .ok (.messages (pg.toResponse (msgs.map messageSummary) (total.toOption.getD 0)))

/-- `GET /api/v1/devices/{id}`. -/
def DeviceHandler.get (deviceID : String) : ServerProg (Except HttpError Shown) :=
  lookup (.deviceByID deviceID) ⟨404, "device not found"⟩ ⟨404, "device not found"⟩
    fun device => .device (deviceData device)

/-- `GET /api/v1/templates/{id}`. -/
def TemplateHandler.get (id : String) : ServerProg (Except HttpError Shown) :=
  lookup (.registry (.templateByID id)) ⟨404, "template not found"⟩ ⟨404, "template not found"⟩
    .template

/-- The requests that read rows. -/
inductive ReadRequest where
  | getMessage (msgID : String)
  | getConfidence (msgID : String)
  | listMessages (page pageSize statusFilter msgTypeFilter : String)
  | device (deviceID : String)
  | template (id : String)

/-- The handler of a request of an account. -/
def ReadRequest.handle (cipher : Option Cipher) (accountID : String) :
    ReadRequest → ServerProg (Except HttpError Shown)
  | getMessage msgID => MessageHandler.getMessage cipher msgID
  | getConfidence msgID => MessageHandler.getConfidence msgID
  | listMessages page pageSize statusFilter msgTypeFilter =>
    MessageHandler.listMessages accountID page pageSize statusFilter msgTypeFilter
  | device deviceID => DeviceHandler.get deviceID
  | template id => TemplateHandler.get id

/-! ## Databases -/

/-- The keys of the tables are unique, and what they refer to exists. -/
structure Intact (db : Database) : Prop where
  accountIDs : (db.registry.accounts.map Account.id).Nodup
  emails : (db.registry.accounts.map Account.email).Nodup
  keyIDs : (db.apiKeys.map APIKey.id).Nodup
  keyAccounts : db.apiKeys.map APIKey.accountID ⊆ db.registry.accounts.map Account.id
  phoneIDs : (db.physicalDevices.map PhysicalDevice.id).Nodup
  phoneAccounts :
    db.physicalDevices.map PhysicalDevice.accountID ⊆ db.registry.accounts.map Account.id
  deviceIDs : (db.devices.map Device.id).Nodup
  deviceSlots : (db.devices.map fun d => (d.physicalDeviceID, d.simSlot)).Nodup
  devicePhones : db.devices.map Device.physicalDeviceID ⊆ db.physicalDevices.map PhysicalDevice.id
  deviceAccounts : db.devices.map Device.accountID ⊆ db.registry.accounts.map Account.id
  messageIDs : (db.messages.map Message.id).Nodup
  messageKeys : db.messages.map Message.apiKeyID ⊆ db.apiKeys.map APIKey.id
  messageDevices : db.messages.filterMap Message.deviceID ⊆ db.devices.map Device.id
  templateIDs : (db.registry.templates.map Template.id).Nodup
  templateAccounts :
    db.registry.templates.map Template.accountID ⊆ db.registry.accounts.map Account.id

/-- Two databases have the same rows of an account, and the same global data. -/
structure OwnAgree (accountID : String) (db db' : Database) : Prop where
  rows : ∀ t : Table, (rows db' t).filter (owned db' accountID t) =
    (rows db t).filter (owned db accountID t)
  templates : (db'.registry.templates.filter (·.accountID = accountID)) =
    db.registry.templates.filter (·.accountID = accountID)
  account : (db'.registry.accounts.filter (·.id = accountID)) =
    db.registry.accounts.filter (·.id = accountID)
  subscriptionRequests : (db'.registry.subscriptionRequests.filter (·.accountID = accountID)) =
    db.registry.subscriptionRequests.filter (·.accountID = accountID)
  subscriptions : (db'.subscriptions.filter (·.accountID = accountID)) =
    db.subscriptions.filter (·.accountID = accountID)
  usageCounters : (db'.usageCounters.filter (·.accountID = accountID)) =
    db.usageCounters.filter (·.accountID = accountID)
  plans : db'.registry.plans = db.registry.plans
  users : db'.registry.users = db.registry.users

/-- The world with other tables. -/
def withDB (w : World) (db : Database) : World := { w with db := db }

theorem alone_withDB {w : World} (hw : Alone w) (db : Database) : Alone (withDB w db) := hw

/-- What a request of an account is shown. -/
def shown (cfg : Config) (cipher : Option Cipher) (accountID : String) (req : ReadRequest)
    (w : World) : Except HttpError Shown :=
  ((req.handle cipher accountID).exec (server cfg) w).val

/-- What a request of an account is shown does not depend on the rows of other accounts. -/
def NonInterfering (cfg : Config) (cipher : Option Cipher) (accountID : String) (req : ReadRequest)
    (w : World) : Prop :=
  ∀ db', Intact db' → OwnAgree accountID w.db db' →
    shown cfg cipher accountID req (withDB w db') = shown cfg cipher accountID req w

/-! ## Rows that are looked up -/

/-- The tables in which a row is looked up by the id in the path. -/
inductive Kind where
  | message
  | device
  | template

namespace Kind

/-- The rows of a table. -/
abbrev Row : Kind → Type
  | message => Message
  | device => Device
  | template => Template

/-- The rows that a table has. -/
def rows (db : Database) : (kind : Kind) → List kind.Row
  | message => db.messages
  | device => db.devices
  | template => db.registry.templates

/-- The primary key. -/
def id : (kind : Kind) → kind.Row → String
  | message, m => m.id
  | device, d => d.id
  | template, t => t.id

/-- Whether a row belongs to an account. -/
def own (db : Database) (accountID : String) : (kind : Kind) → kind.Row → Bool
  | message, m => owned db accountID .messages m
  | device, d => owned db accountID .devices d
  | template, t => t.accountID = accountID

/-- The statement that looks a row up. -/
def query (id : String) : (kind : Kind) → Query (Option kind.Row)
  | message => .messageByID id
  | device => .deviceByID id
  | template => .registry (.templateByID id)

/-- The row with a column changed. -/
def alter : (kind : Kind) → kind.Row → kind.Row
  | message, m => { m with confidenceScore := m.confidenceScore + 1 }
  | device, d => { d with messagesSentCount := d.messagesSentCount + 1 }
  | template, t => { t with createdAt := t.createdAt + 1 }

end Kind

/-- The row that a request looks up. -/
def ReadRequest.target : ReadRequest → Option (Kind × String)
  | getMessage msgID => if msgID = "" then none else some (.message, msgID)
  | getConfidence msgID => some (.message, msgID)
  | listMessages _ _ _ _ => none
  | device deviceID => some (.device, deviceID)
  | template id => some (.template, id)

/-- If a row is looked up, and the answer of the database arrives, then the row is one of the
account. -/
def Scoped (accountID : String) (req : ReadRequest) (w : World) : Prop :=
  ∀ target ∈ req.target, w.next.fault = .none →
    ∃ row ∈ target.1.rows w.db, target.1.id row = target.2 ∧
      target.1.own w.db accountID row = true

/-! ## Replies -/

section Reply

variable (cfg : Config) {w w' : World}

/-- The reply to a statement is the same in two worlds in which it has the same result, or in which
its reply does not arrive. -/
theorem reply_congr (hw : Alone w) (hw' : Alone w') (hnext : w'.next = w.next) {β : Type}
    {q : Query β} (hrun : w.next.fault = .none → (q.run w'.db).1 = (q.run w.db).1) :
    ((server cfg).step (.db q) w').1 = ((server cfg).step (.db q) w).1 := by
  show (w'.next.fault.apply id id (fun db => q.run db) w'.tick.db).1 =
    (w.next.fault.apply id id (fun db => q.run db) w.tick.db).1
  rw [hw.tick_db, hw'.tick_db, hnext]
  cases hfault : w.next.fault with
  | none => exact hrun hfault
  | refused e => rfl
  | lost e => rfl

/-- The response to a lookup, given the reply of the database. -/
def response {α : Type} (failed missing : HttpError) (view : α → Shown) :
    Except String (Option α) → Except HttpError Shown
  | .error _ => .error failed
  | .ok none => .error missing
  | .ok (some row) => .ok (view row)

theorem lookup_val {α : Type} (q : Query (Option α)) (failed missing : HttpError)
    (view : α → Shown) :
    ((lookup q failed missing view).exec (server cfg) w).val =
      response failed missing view ((server cfg).step (.db q) w).1 := by
  unfold lookup
  rw [Prog.call_bind, Prog.exec_act]
  rcases ((server cfg).step (.db q) w).1 with e | (_ | row) <;> rfl

theorem Kind.query_run (kind : Kind) (id : String) (db : Database) :
    ((kind.query id).run db).1 = .ok ((kind.rows db).find? fun row => kind.id row = id) := by
  cases kind <;> rfl

/-- The response to a lookup whose reply arrives. -/
theorem lookup_val_of_executed (hw : Alone w) (hfault : w.next.fault = .none) (kind : Kind)
    (id : String) (failed missing : HttpError) (view : kind.Row → Shown) :
    ((lookup (kind.query id) failed missing view).exec (server cfg) w).val =
      response failed missing view (.ok ((kind.rows w.db).find? fun row => kind.id row = id)) := by
  rw [lookup_val, ← kind.query_run]
  rcases hw.step_query cfg (kind.query id) with ⟨-, hval, -⟩ | ⟨e, h, -⟩ | ⟨e, h, -⟩
  · rw [hval]
  · cases hfault.symm.trans h
  · cases hfault.symm.trans h

end Reply

/-! ## Rows of the account -/

theorem Intact.ids {db : Database} (h : Intact db) (kind : Kind) :
    ((kind.rows db).map kind.id).Nodup := by
  cases kind
  · exact h.messageIDs
  · exact h.deviceIDs
  · exact h.templateIDs

theorem OwnAgree.own {accountID : String} {db db' : Database} (h : OwnAgree accountID db db')
    (kind : Kind) :
    (kind.rows db').filter (kind.own db' accountID) =
      (kind.rows db).filter (kind.own db accountID) := by
  cases kind
  · exact h.rows .messages
  · exact h.rows .devices
  · exact h.templates

/-- A row of the account is found in both databases. -/
theorem OwnAgree.find? {accountID : String} {db db' : Database} (h : OwnAgree accountID db db')
    (hdb : Intact db) (hdb' : Intact db') {kind : Kind} {row : kind.Row}
    (hmem : row ∈ kind.rows db) (hown : kind.own db accountID row = true) :
    ((kind.rows db').find? fun r => kind.id r = kind.id row) =
      (kind.rows db).find? fun r => kind.id r = kind.id row := by
  have hmem' : row ∈ (kind.rows db').filter (kind.own db' accountID) := by
    rw [h.own kind]
    exact List.mem_filter.2 ⟨hmem, hown⟩
  rw [Database.find?_of_mem (hdb.ids kind) hmem, Database.find?_of_mem (hdb'.ids kind) (List.mem_filter.1 hmem').1]

/-! ## Rows of others -/

/-- The database with a column of the rows with an id changed. -/
def alterRow (db : Database) (id : String) : Kind → Database
  | .message => db.updateMessage id (Kind.alter .message)
  | .device => db.updateDevice id (Kind.alter .device)
  | .template =>
    { db with
      registry := { db.registry with
        templates := db.registry.templates.map fun t =>
          if t.id = id then Kind.alter .template t else t } }

section Alter

variable {db : Database} {accountID id : String}

theorem rows_alterRow (kind : Kind) :
    kind.rows (alterRow db id kind) =
      (kind.rows db).map fun row => if kind.id row = id then kind.alter row else row := by
  cases kind <;> rfl

@[simp] theorem Kind.id_alter (kind : Kind) (row : kind.Row) :
    kind.id (kind.alter row) = kind.id row := by
  cases kind <;> rfl

/-- A change of a column leaves the other columns alone. -/
theorem map_altered {α β : Type} {p : α → Prop} [DecidablePred p] {f : α → α} {column : α → β}
    (h : ∀ row, column (f row) = column row) (rows : List α) :
    (rows.map fun row => if p row then f row else row).map column = rows.map column := by
  rw [List.map_map]
  refine List.map_congr_left fun row _ => ?_
  dsimp only [Function.comp_apply]
  split_ifs
  · exact h row
  · rfl

theorem filterMap_altered {α β : Type} {p : α → Prop} [DecidablePred p] {f : α → α}
    {column : α → Option β} (h : ∀ row, column (f row) = column row) (rows : List α) :
    (rows.map fun row => if p row then f row else row).filterMap column =
      rows.filterMap column := by
  rw [List.filterMap_map]
  congr 1
  funext row
  dsimp only [Function.comp_apply]
  split_ifs
  · exact h row
  · rfl

/-- A change of the rows of others leaves the rows of the account as they are. -/
theorem filter_altered {α : Type} {p : α → Prop} [DecidablePred p] {f : α → α} (own : α → Bool)
    {rows : List α} (h : ∀ row, own (f row) = own row)
    (hforeign : ∀ row ∈ rows, p row → own row = false) :
    (rows.map fun row => if p row then f row else row).filter own = rows.filter own := by
  induction rows with
  | nil => rfl
  | cons row rows ih =>
    have hrest := ih fun row' h => hforeign row' (List.mem_cons_of_mem row h)
    by_cases hp : p row
    · have hrow := hforeign row List.mem_cons_self hp
      simp [hp, h, hrow, hrest]
    · simp [hp, List.filter_cons, hrest]

theorem Intact.alterRow (h : Intact db) (kind : Kind) : Intact (alterRow db id kind) := by
  cases kind with
  | message =>
    have hkey {β : Type} (column : Message → β) (hc : ∀ m, column (Kind.alter .message m) = column m) :
        (Tenants.alterRow db id .message).messages.map column = db.messages.map column :=
      map_altered (f := Kind.alter .message) hc db.messages
    have hdevices : (Tenants.alterRow db id .message).messages.filterMap Message.deviceID =
        db.messages.filterMap Message.deviceID :=
      filterMap_altered (f := Kind.alter .message) (fun _ => rfl) db.messages
    exact { h with
      messageIDs := (hkey Message.id fun _ => rfl).symm ▸ h.messageIDs
      messageKeys := (hkey Message.apiKeyID fun _ => rfl).symm ▸ h.messageKeys
      messageDevices := hdevices.symm ▸ h.messageDevices }
  | device =>
    have hkey {β : Type} (column : Device → β) (hc : ∀ d, column (Kind.alter .device d) = column d) :
        (Tenants.alterRow db id .device).devices.map column = db.devices.map column :=
      map_altered (f := Kind.alter .device) hc db.devices
    exact { h with
      deviceIDs := (hkey Device.id fun _ => rfl).symm ▸ h.deviceIDs
      deviceSlots := (hkey (fun d => (d.physicalDeviceID, d.simSlot)) fun _ => rfl).symm ▸ h.deviceSlots
      devicePhones := (hkey Device.physicalDeviceID fun _ => rfl).symm ▸ h.devicePhones
      deviceAccounts := (hkey Device.accountID fun _ => rfl).symm ▸ h.deviceAccounts
      messageDevices := (hkey Device.id fun _ => rfl).symm ▸ h.messageDevices }
  | template =>
    have hkey {β : Type} (column : Template → β)
        (hc : ∀ t, column (Kind.alter .template t) = column t) :
        (Tenants.alterRow db id .template).registry.templates.map column =
          db.registry.templates.map column :=
      map_altered (f := Kind.alter .template) hc db.registry.templates
    exact { h with
      templateIDs := (hkey Template.id fun _ => rfl).symm ▸ h.templateIDs
      templateAccounts := (hkey Template.accountID fun _ => rfl).symm ▸ h.templateAccounts }

theorem OwnAgree.alterRow (kind : Kind)
    (hforeign : ∀ row ∈ kind.rows db, kind.id row = id → kind.own db accountID row = false) :
    OwnAgree accountID db (alterRow db id kind) := by
  cases kind with
  | message =>
    refine { rows := fun t => ?_, templates := rfl, account := rfl, subscriptionRequests := rfl,
             subscriptions := rfl, usageCounters := rfl, plans := rfl, users := rfl }
    cases t with
    | messages =>
      exact filter_altered (f := Kind.alter .message) (owned db accountID .messages)
        (fun _ => rfl) hforeign
    | _ => rfl
  | device =>
    refine { rows := fun t => ?_, templates := rfl, account := rfl, subscriptionRequests := rfl,
             subscriptions := rfl, usageCounters := rfl, plans := rfl, users := rfl }
    cases t with
    | devices =>
      exact filter_altered (f := Kind.alter .device) (owned db accountID .devices)
        (fun _ => rfl) hforeign
    | mqttCredentials =>
      have howned : owned (Tenants.alterRow db id .device) accountID .mqttCredentials =
          owned db accountID .mqttCredentials := by
        funext c
        change ((db.devices.map fun d => if d.id = id then Kind.alter .device d else d).any fun d =>
          d.id = c.deviceID && d.accountID = accountID) = _
        rw [List.any_map]
        refine congrArg (List.any db.devices) (funext fun d => ?_)
        dsimp only [Function.comp_apply]
        split_ifs <;> rfl
      rw [howned]
      rfl
    | _ => rfl
  | template =>
    refine { rows := fun t => ?_, templates := ?_, account := rfl, subscriptionRequests := rfl,
             subscriptions := rfl, usageCounters := rfl, plans := rfl, users := rfl }
    · cases t <;> rfl
    · exact filter_altered (f := Kind.alter .template) _ (fun _ => rfl) hforeign

end Alter

/-- The account, the phone and the API key of a stranger, all under one name. -/
def withStranger (db : Database) (name : String) : Database :=
  { db with
    registry := { db.registry with
      accounts := db.registry.accounts ++ [
        { id := name
          name := name
          email := name
          passwordHash := ""
          planID := "free"
          retentionDays := 90
          verified := false
          status := .active
          riskScore := 0 }] }
    physicalDevices := db.physicalDevices ++ [
      { id := name
        accountID := name
        model := ""
        osVersion := ""
        appVersion := ""
        batteryLevel := 0
        networkType := ""
        deviceState := "ACTIVE" }]
    apiKeys := db.apiKeys ++ [⟨name, name, "", none, none⟩] }

/-- The row of a stranger under an id. -/
def strangerRow (name id : String) : (kind : Kind) → kind.Row
  | .message =>
    { id := id
      deviceID := none
      apiKeyID := name
      direction := "outbound"
      recipient := ""
      sender := ""
      encryptedMessage := ""
      messageType := .transactional
      priorityLane := .transactional
      templateID := none
      status := "pending"
      deliveryStatus := .sent
      confidenceScore := 0
      errorReason := none
      scheduledAt := none
      createdAt := ⟨0, 0, Timestamp.utc_lt⟩
      deliveredAt := none
      purgeAfter := 0
      idempotencyKey := ""
      routingStrategyUsed := .highestReliability }
  | .device => newDevice id name name 1
  | .template => ⟨id, name, "", "", [], .pending, none, 0⟩

/-- The database with a row more. -/
def insertRow (db : Database) : (kind : Kind) → kind.Row → Database
  | .message, m => { db with messages := db.messages ++ [m] }
  | .device, d => { db with devices := db.devices ++ [d] }
  | .template, t =>
    { db with registry := { db.registry with templates := db.registry.templates ++ [t] } }

section Insert

variable {db : Database} {accountID name id : String}

/-- Neither the account nor a row of the database has the name. -/
structure FreshName (accountID : String) (db : Database) (name : String) : Prop where
  account : name ≠ accountID
  accounts : name ∉ db.registry.accounts.map Account.id
  emails : name ∉ db.registry.accounts.map Account.email
  phones : name ∉ db.physicalDevices.map PhysicalDevice.id
  keys : name ∉ db.apiKeys.map APIKey.id

theorem exists_freshName (accountID : String) (db : Database) :
    ∃ name, FreshName accountID db name := by
  obtain ⟨name, hname⟩ := Infinite.exists_notMem_finset
    (accountID :: (db.registry.accounts.map Account.id ++ db.registry.accounts.map Account.email ++
      db.physicalDevices.map PhysicalDevice.id ++ db.apiKeys.map APIKey.id)).toFinset
  simp only [List.mem_toFinset, List.mem_cons, List.mem_append, not_or] at hname
  obtain ⟨haccount, ⟨⟨haccounts, hemails⟩, hphones⟩, hkeys⟩ := hname
  exact ⟨name, haccount, haccounts, hemails, hphones, hkeys⟩

theorem nodup_insert {α β : Type} {column : α → β} {rows : List α} {row : α}
    (h : (rows.map column).Nodup) (hrow : column row ∉ rows.map column) :
    ((rows ++ [row]).map column).Nodup := by
  rw [List.map_append, List.map_singleton]
  rw [← List.concat_eq_append]
  exact (List.nodup_concat _ _).2 ⟨hrow, h⟩

theorem subset_insert {α β : Type} {column : α → β} {keys : List β} {rows : List α} {row : α}
    (h : rows.map column ⊆ keys) (hrow : column row ∈ keys) :
    (rows ++ [row]).map column ⊆ keys := by
  rw [List.map_append, List.append_subset]
  exact ⟨h, by simpa using hrow⟩

/-- A reference to a table is one to the table with a row more. -/
theorem subset_of_insert {α β : Type} {column : α → β} {keys : List β} {rows : List α} (row : α)
    (h : keys ⊆ rows.map column) : keys ⊆ (rows ++ [row]).map column := by
  rw [List.map_append]
  exact List.subset_append_of_subset_left _ h

/-- A row that is inserted last is in the table. -/
theorem mem_insert {α β : Type} (column : α → β) (rows : List α) (row : α) :
    column row ∈ (rows ++ [row]).map column := by
  rw [List.map_append]
  exact List.mem_append_right _ List.mem_cons_self

theorem Intact.withStranger (h : Intact db) (hname : FreshName accountID db name) :
    Intact (withStranger db name) where
  accountIDs := nodup_insert h.accountIDs hname.accounts
  emails := nodup_insert h.emails hname.emails
  keyIDs := nodup_insert h.keyIDs hname.keys
  keyAccounts := subset_insert (subset_of_insert _ h.keyAccounts) (mem_insert Account.id _ _)
  phoneIDs := nodup_insert h.phoneIDs hname.phones
  phoneAccounts := subset_insert (subset_of_insert _ h.phoneAccounts) (mem_insert Account.id _ _)
  deviceIDs := h.deviceIDs
  deviceSlots := h.deviceSlots
  devicePhones := subset_of_insert _ h.devicePhones
  deviceAccounts := subset_of_insert _ h.deviceAccounts
  messageIDs := h.messageIDs
  messageKeys := subset_of_insert _ h.messageKeys
  messageDevices := h.messageDevices
  templateIDs := h.templateIDs
  templateAccounts := subset_of_insert _ h.templateAccounts

/-- The stranger's row can be inserted. -/
theorem Intact.insertRow (h : Intact db) (hname : FreshName accountID db name) (kind : Kind)
    (hid : id ∉ (kind.rows db).map kind.id) :
    Intact (insertRow (Tenants.withStranger db name) kind (strangerRow name id kind)) := by
  have hw := h.withStranger hname
  cases kind with
  | message =>
    exact { hw with
      messageIDs := nodup_insert hw.messageIDs hid
      messageKeys := subset_insert hw.messageKeys (mem_insert APIKey.id _ _)
      messageDevices := by
        have hsame : (db.messages ++ [strangerRow name id .message]).filterMap Message.deviceID =
            db.messages.filterMap Message.deviceID := by
          rw [List.filterMap_append]
          exact List.append_nil _
        exact hsame.symm ▸ hw.messageDevices }
  | device =>
    have hslot : (name, 1) ∉ db.devices.map fun d => (d.physicalDeviceID, d.simSlot) := by
      intro hmem
      obtain ⟨d, hd, heq⟩ := List.mem_map.1 hmem
      refine hname.phones (h.devicePhones (List.mem_map.2 ⟨d, hd, ?_⟩))
      exact congrArg Prod.fst heq
    exact { hw with
      deviceIDs := nodup_insert hw.deviceIDs hid
      deviceSlots := nodup_insert hw.deviceSlots hslot
      devicePhones := subset_insert hw.devicePhones (mem_insert PhysicalDevice.id _ _)
      deviceAccounts := subset_insert hw.deviceAccounts (mem_insert Account.id _ _)
      messageDevices := subset_of_insert _ hw.messageDevices }
  | template =>
    exact { hw with
      templateIDs := nodup_insert hw.templateIDs hid
      templateAccounts := subset_insert hw.templateAccounts (mem_insert Account.id _ _) }

theorem rows_insertRow (kind : Kind) (row : kind.Row) :
    kind.rows (insertRow (withStranger db name) kind row) = kind.rows db ++ [row] := by
  cases kind <;> rfl

/-- Rows of others that are inserted are not rows of the account. -/
theorem filter_insert {α : Type} {own : α → Bool} {rows : List α} {row : α}
    (h : own row = false) : (rows ++ [row]).filter own = rows.filter own := by
  rw [List.filter_append, List.filter_singleton, h]
  exact List.append_nil _

/-- The tables of a stranger say nothing about the messages of the account. -/
theorem owned_withStranger (hname : name ≠ accountID) (m : Message) :
    owned (withStranger db name) accountID .messages m = owned db accountID .messages m := by
  simp [owned, withStranger, hname]

theorem OwnAgree.insertRow (hname : FreshName accountID db name) (kind : Kind) :
    OwnAgree accountID db
      (insertRow (withStranger db name) kind (strangerRow name id kind)) := by
  have hne : ¬ name = accountID := hname.account
  have hkey : owned (withStranger db name) accountID .messages (strangerRow name id .message) =
      false := by
    rw [owned_withStranger hne]
    refine List.any_eq_false.2 fun k hk => ?_
    have hid : k.id ≠ name := fun h => hname.keys (List.mem_map.2 ⟨k, hk, h⟩)
    simp [strangerRow, hid]
  have hmessages : (db.messages.filter (owned (withStranger db name) accountID .messages)) =
      db.messages.filter (owned db accountID .messages) :=
    List.filter_congr fun m _ => owned_withStranger hne m
  refine { rows := fun t => ?_, templates := ?_, account := ?_, subscriptionRequests := ?_,
           subscriptions := ?_, usageCounters := ?_, plans := ?_, users := ?_ }
  · cases kind with
    | message =>
      cases t with
      | messages => exact (filter_insert hkey).trans hmessages
      | physicalDevices => exact filter_insert (by simpa [owned] using hne)
      | apiKeys => exact filter_insert (by simpa [owned] using hne)
      | _ => rfl
    | device =>
      cases t with
      | messages => exact hmessages
      | devices => exact filter_insert (by simpa [owned, strangerRow, newDevice] using hne)
      | physicalDevices => exact filter_insert (by simpa [owned] using hne)
      | apiKeys => exact filter_insert (by simpa [owned] using hne)
      | mqttCredentials =>
        refine List.filter_congr fun c _ => ?_
        simp [owned, Tenants.insertRow, withStranger, strangerRow, newDevice, hne]
    | template =>
      cases t with
      | messages => exact hmessages
      | physicalDevices => exact filter_insert (by simpa [owned] using hne)
      | apiKeys => exact filter_insert (by simpa [owned] using hne)
      | _ => rfl
  · cases kind with
    | template => exact filter_insert (decide_eq_false hne)
    | _ => rfl
  · cases kind <;> exact filter_insert (decide_eq_false hne)
  all_goals cases kind <;> rfl

end Insert

/-- **Whatever row is found that is not one of the account, another database has a different one**,
and the same rows of the account. -/
theorem exists_otherwise {accountID : String} {db : Database} (hdb : Intact db) (kind : Kind)
    (id : String)
    (hforeign : ∀ row ∈ kind.rows db, kind.id row = id → kind.own db accountID row = false) :
    ∃ db', Intact db' ∧ OwnAgree accountID db db' ∧
      ∃ row', ((kind.rows db').find? fun row => kind.id row = id) = some row' ∧
        ∀ row ∈ (kind.rows db).find? fun row => kind.id row = id, row' = kind.alter row := by
  cases hfind : (kind.rows db).find? fun row => kind.id row = id with
  | some row =>
    refine ⟨alterRow db id kind, hdb.alterRow kind, .alterRow kind hforeign, kind.alter row, ?_, ?_⟩
    · have hid : kind.id row = id := by simpa using List.find?_some hfind
      rw [rows_alterRow, Database.find?_map_of_key kind.id _ fun row => ?_, hfind, Option.map_some,
        if_pos hid]
      split_ifs
      · exact kind.id_alter row
      · rfl
    · intro r hr
      rw [Option.some.inj hr]
  | none =>
    obtain ⟨name, hname⟩ := exists_freshName accountID db
    have hid : id ∉ (kind.rows db).map kind.id := by
      intro hmem
      obtain ⟨row, hrow, heq⟩ := List.mem_map.1 hmem
      exact absurd heq (by simpa using List.find?_eq_none.1 hfind row hrow)
    refine ⟨_, hdb.insertRow hname kind hid, .insertRow hname kind, strangerRow name id kind, ?_, nofun⟩
    have hrow : kind.id (strangerRow name id kind) = id := by cases kind <;> rfl
    rw [rows_insertRow, List.find?_append, hfind, Option.none_or]
    simp [hrow]

/-! ## Noninterference -/

section Noninterference

variable (cfg : Config) {accountID : String} {w : World}

/-- **What a lookup shows does not depend on the rows of other accounts exactly if it finds a row of
the account**, or the reply of the database does not arrive. -/
theorem lookup_noninterfering_iff (hw : Alone w) (hdb : Intact w.db) (kind : Kind) (id : String)
    (failed missing : HttpError) {view : kind.Row → Shown}
    (hview : ∀ row, view (kind.alter row) ≠ view row) :
    (∀ db', Intact db' → OwnAgree accountID w.db db' →
      ((lookup (kind.query id) failed missing view).exec (server cfg) (withDB w db')).val =
        ((lookup (kind.query id) failed missing view).exec (server cfg) w).val) ↔
      (w.next.fault = .none → ∃ row ∈ kind.rows w.db, kind.id row = id ∧
        kind.own w.db accountID row = true) := by
  constructor
  · intro hsame hfault
    by_contra hnone
    have hforeign : ∀ row ∈ kind.rows w.db, kind.id row = id →
        kind.own w.db accountID row = false := by
      intro row hrow hid
      by_contra hown
      exact hnone ⟨row, hrow, hid, by simpa using hown⟩
    obtain ⟨db', hdb', hagree, row', hrow', hother⟩ := exists_otherwise hdb kind id hforeign
    have heq := hsame db' hdb' hagree
    rw [lookup_val_of_executed cfg hw hfault,
      lookup_val_of_executed cfg (alone_withDB hw db') hfault] at heq
    have hover : kind.rows (withDB w db').db = kind.rows db' := rfl
    rw [hover, hrow'] at heq
    cases hfind : (kind.rows w.db).find? fun row => kind.id row = id with
    | none =>
      rw [hfind] at heq
      cases heq
    | some row =>
      rw [hfind] at heq
      rw [hother row hfind] at heq
      exact hview row (Except.ok.inj heq)
  · intro hscoped db' hdb' hagree
    rw [lookup_val, lookup_val]
    refine congrArg (response failed missing view)
      (reply_congr cfg hw (alone_withDB hw db') rfl fun hfault => ?_)
    obtain ⟨row, hmem, rfl, hown⟩ := hscoped hfault
    rw [kind.query_run, kind.query_run]
    exact congrArg Except.ok (hagree.find? hdb hdb' hmem hown)

/-- A statement that only reads leaves the tables as they are. -/
theorem step_db_of_reads (hw : Alone w) {β : Type} {q : Query β} (hq : (q.run w.db).2 = w.db) :
    ((server cfg).step (.db q) w).2.db = w.db := by
  rcases hw.step_query cfg q with ⟨-, -, hdb⟩ | ⟨e, -, -, hdb⟩ | ⟨e, -, -, hdb⟩
  · rw [hdb, hq]
  · exact hdb
  · rw [hdb, hq]

/-- The list of messages is made of rows of the account. -/
theorem listMessages_same (hw : Alone w) (page pageSize statusFilter msgTypeFilter : String)
    {db' : Database} (hagree : OwnAgree accountID w.db db') :
    ((MessageHandler.listMessages accountID page pageSize statusFilter msgTypeFilter).exec
        (server cfg) (withDB w db')).val =
      ((MessageHandler.listMessages accountID page pageSize statusFilter msgTypeFilter).exec
        (server cfg) w).val := by
  have hmessages : db'.filteredMessages accountID statusFilter msgTypeFilter =
      w.db.filteredMessages accountID statusFilter msgTypeFilter :=
    congrArg (List.filter _) (hagree.rows .messages)
  have hw' : Alone (withDB w db') := hw
  unfold MessageHandler.listMessages
  dsimp only
  generalize parsePagination page pageSize 20 100 = pg
  generalize hq : Query.listByAccountFiltered accountID pg.offset pg.pageSize statusFilter
    msgTypeFilter = q
  have hreads (db : Database) : (q.run db).2 = db := by
    rw [← hq]
    rfl
  have hlist : ((server cfg).step (.db q) (withDB w db')).1 = ((server cfg).step (.db q) w).1 := by
    refine reply_congr cfg hw hw' rfl fun _ => ?_
    rw [← hq]
    simp only [Query.run, withDB, hmessages]
  have hcount : ((server cfg).step (.db (.countByAccountFiltered accountID statusFilter
      msgTypeFilter)) ((server cfg).step (.db q) (withDB w db')).2).1 =
        ((server cfg).step (.db (.countByAccountFiltered accountID statusFilter msgTypeFilter))
          ((server cfg).step (.db q) w).2).1 := by
    refine reply_congr cfg (hw.step _) (hw'.step _) ?_ fun _ => ?_
    · rw [World.next, World.next, step_env, step_env]
      rfl
    · rw [step_db_of_reads cfg hw (hreads w.db), step_db_of_reads cfg hw' (hreads db')]
      simp only [Query.run, withDB, hmessages]
  rw [Prog.call_bind, Prog.exec_act, Prog.exec_act, hlist]
  dsimp only
  cases ((server cfg).step (.db q) w).1 with
  | error e => rfl
  | ok msgs =>
    dsimp only
    rw [Prog.call_bind, Prog.exec_act, Prog.exec_act, hcount]
    dsimp only [Prog.pure_eq, Prog.exec_ret]

end Noninterference

/-- **What an account is shown does not depend on the rows of other accounts exactly if the request
names a row of its own**, whatever the request, the account and the tables are. -/
theorem noninterfering_iff (cfg : Config) (cipher : Option Cipher) (accountID : String)
    (req : ReadRequest) (w : World) (hw : Alone w) (hdb : Intact w.db) :
    NonInterfering cfg cipher accountID req w ↔ Scoped accountID req w := by
  have hscoped {kind : Kind} {id : String} (h : req.target = some (kind, id)) :
      Scoped accountID req w ↔ (w.next.fault = .none → ∃ row ∈ kind.rows w.db, kind.id row = id ∧
        kind.own w.db accountID row = true) := by
    rw [Scoped, h]
    exact ⟨fun hall => hall _ rfl, fun hrow target ht => by cases ht; exact hrow⟩
  have hchanged (m : Message) : (Kind.alter .message m).confidenceScore ≠ m.confidenceScore := by
    simp [Kind.alter]
  cases req with
  | getMessage msgID =>
    by_cases hempty : msgID = ""
    · refine iff_of_true (fun db' _ _ => ?_) fun target ht => ?_
      · simp only [shown, ReadRequest.handle, MessageHandler.getMessage, if_pos hempty]
        rfl
      · simp [ReadRequest.target, hempty] at ht
    · rw [hscoped (if_neg hempty)]
      unfold NonInterfering shown ReadRequest.handle MessageHandler.getMessage
      simp only [if_neg hempty]
      refine lookup_noninterfering_iff cfg hw hdb .message msgID _ _ fun m h => ?_
      exact hchanged m (congrArg MessageData.confidenceScore (Shown.message.inj h))
  | getConfidence msgID =>
    rw [hscoped rfl]
    refine lookup_noninterfering_iff cfg hw hdb .message msgID _ _ fun m h => ?_
    exact hchanged m (congrArg ConfidenceData.confidenceScore (Shown.confidence.inj h))
  | listMessages page pageSize statusFilter msgTypeFilter =>
    exact iff_of_true
      (fun db' _ hagree => listMessages_same cfg hw page pageSize statusFilter msgTypeFilter hagree)
      nofun
  | device deviceID =>
    rw [hscoped rfl]
    refine lookup_noninterfering_iff cfg hw hdb .device deviceID _ _ fun d h => ?_
    have hcount := congrArg DeviceData.messagesSentCount (Shown.device.inj h)
    simp [deviceData, Kind.alter] at hcount
  | template id =>
    rw [hscoped rfl]
    refine lookup_noninterfering_iff cfg hw hdb .template id _ _ fun t h => ?_
    have hcreated := congrArg Template.createdAt (Shown.template.inj h)
    simp [Kind.alter] at hcreated

/-! ## A message of another account -/

/-- The tables in which the only message is one of the account `account-1`. -/
def oneMessage : Database where
  devices := []
  costProfiles := []
  apiKeys := [⟨"key-1", "account-1", "hash-1", none, none⟩]
  messages := [{ (strangerRow "key-1" "message-1" .message : Message) with recipient := "+15550001" }]
  usageCounters := []
  subscriptions := []
  deadLetters := []
  physicalDevices := []
  mqttCredentials := []
  otpMetadata := []
  registry :=
    { Registry.empty with
      accounts := [memberAccount, { memberAccount with id := "account-2", email := "b@example.org" }] }

theorem intact_oneMessage : Intact oneMessage := by
  constructor <;> decide

/-- A world with these tables, in which nothing happens. -/
def atRest (db : Database) : World := withDB (Dispatch.onePhone []) db

/-- The account is shown its own message, whatever the other accounts have. -/
theorem noninterfering_ownMessage :
    NonInterfering .default none "account-1" (.getMessage "message-1") (atRest oneMessage) := by
  refine (noninterfering_iff .default none "account-1" (.getMessage "message-1") (atRest oneMessage)
    (fun t ht => by cases ht) intact_oneMessage).2 fun target ht _ => ?_
  obtain rfl : ((.message, "message-1") : Kind × String) = target := Option.some.inj ht
  exact ⟨_, List.mem_singleton_self _, rfl, rfl⟩

/-- Another account is shown the message too. -/
theorem otherMessage_interferes :
    ¬ NonInterfering .default none "account-2" (.getMessage "message-1") (atRest oneMessage) := by
  intro h
  have hintact : Intact { oneMessage with messages := [] } := by
    constructor <;> decide
  have hagree : OwnAgree "account-2" oneMessage { oneMessage with messages := [] } := by
    constructor
    · intro t
      cases t <;> rfl
    all_goals rfl
  have hsame := h _ hintact hagree
  have hmissing : shown .default none "account-2" (.getMessage "message-1")
      (withDB (atRest oneMessage) { oneMessage with messages := [] }) =
        .error ⟨404, "message not found"⟩ := by
    rfl
  have hfound : shown .default none "account-2" (.getMessage "message-1") (atRest oneMessage) =
      .ok (.message (messageData none
        { (strangerRow "key-1" "message-1" .message : Message) with recipient := "+15550001" })) := by
    rfl
  cases hmissing.symm.trans (hsame.trans hfound)

end AeroxeBee.Tenants
