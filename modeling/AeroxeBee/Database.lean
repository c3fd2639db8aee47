import AeroxeBee.Registry
import Mathlib.Data.List.Sort
import Mathlib.Data.Rat.Defs
import Mathlib.Algebra.Order.Ring.Rat

/-!
# The database

The rows that the services of the gateway read and write, and the statements they send. Each
constructor of `Query` is one SQL statement of a service; `Query.run` says what it returns and how
it leaves the tables. Columns that none of these statements has a use for are left out. Times and
durations are in nanoseconds, and floating-point columns hold rational numbers.
-/

namespace AeroxeBee

open Foundations

/-! ## Enumerations -/

/-- Whether a device is connected. -/
inductive DeviceStatus where
  | online
  | offline
deriving DecidableEq

/-- The health of a SIM card. -/
inductive SIMHealthStatus where
  | healthy
  | degraded
  | blocked
deriving DecidableEq

/-- How far the delivery of a message has come; any string can be stored. -/
structure DeliveryStatus where
  name : String
deriving DecidableEq, Repr

namespace DeliveryStatus

/-- The message was handed to a device, or has only been stored so far. -/
def sent : DeliveryStatus := ⟨"SENT"⟩

/-- The carrier has accepted the message. -/
def carrierAccepted : DeliveryStatus := ⟨"CARRIER_ACCEPTED"⟩

/-- The message has probably arrived. -/
def probableDelivered : DeliveryStatus := ⟨"PROBABLE_DELIVERED"⟩

/-- The message could not be delivered. -/
def failed : DeliveryStatus := ⟨"FAILED"⟩

end DeliveryStatus

/-- The state of a circuit breaker. -/
inductive CircuitBreakerState where
  | closed
  | opened
  | halfOpen
deriving DecidableEq

/-! ## Rows -/

/-- The logical identity of one SIM card. -/
structure Device where
  id : String
  physicalDeviceID : String
  accountID : String
  simSlot : ℤ
  carrier : String
  phoneNumber : String
  name : String
  status : DeviceStatus
  simHealthStatus : SIMHealthStatus
  healthTrendSlope : ℚ
  lastSeen : Option ℤ
  lastPongAt : Option ℤ
  messagesSentCount : ℤ
  lastUsedAt : Option ℤ
  reliabilityScore : ℚ
  reputationScore : ℚ
  successRate24h : ℚ
  uptimeRatio24h : ℚ
  avgLatencyMs : ℚ
  countryCode : String
  region : String
  maxPerMinute : ℤ
  maxPerHour : ℤ
  circuitBreakerState : CircuitBreakerState
deriving DecidableEq

/-- An Android phone, with one or more SIM cards. -/
structure PhysicalDevice where
  id : String
  accountID : String
  model : String
  osVersion : String
  appVersion : String
  batteryLevel : ℚ
  networkType : String
  deviceState : String
deriving DecidableEq

/-- What a device shows to the MQTT broker. -/
structure MQTTCredential where
  id : String
  deviceID : String
  username : String
  credentialHash : String
  encryptedPassword : String
  issuedAt : ℤ
  revokedAt : Option ℤ
deriving DecidableEq

/-- What a message of a device costs. -/
structure DeviceCostProfile where
  deviceID : String
  simCostPerSMS : ℚ
  regionCostMultiplier : ℚ

/-- An API key, with the account it belongs to. -/
structure APIKey where
  id : String
  accountID : String
  keyHash : String
  expiresAt : Option ℤ
  revokedAt : Option ℤ
deriving DecidableEq

/-- A stored message. -/
structure Message where
  id : String
  deviceID : Option String
  apiKeyID : String
  direction : String
  recipient : String
  sender : String
  encryptedMessage : String
  messageType : MessageType
  priorityLane : PriorityLane
  templateID : Option String
  status : String
  deliveryStatus : DeliveryStatus
  confidenceScore : ℚ
  errorReason : Option String
  scheduledAt : Option ℤ
  createdAt : Timestamp
  deliveredAt : Option ℤ
  purgeAfter : ℤ
  idempotencyKey : String
  routingStrategyUsed : RoutingStrategy
deriving DecidableEq

/-- How many messages an account sent on one day; days are counted from the epoch. -/
structure UsageCounter where
  accountID : String
  date : ℤ
  count : ℤ

/-- The plan of an account, with the limits it had when it was subscribed to. -/
structure Subscription where
  id : String
  accountID : String
  planType : String
  billingCycle : String
  status : String
  quotaDaily : ℤ
  quotaMonthly : ℤ
  overageBufferPct : ℚ
  maxQueueDepth : ℤ
  maxTemplates : ℤ
  dedicatedPool : Bool
  defaultRoutingStrategy : RoutingStrategy
deriving DecidableEq

/-- A message that could not be handled. -/
structure QueueDeadLetter where
  id : String
  stream : String
  messageID : String
  payload : String
  failReason : String
  failedAt : ℤ
  retryCount : ℤ
deriving DecidableEq

/-- What is kept about a one-time password. -/
structure OTPMetadata where
  messageID : String
  phone : String
  verified : Bool
  attempts : ℤ
  expiresAt : ℤ

/-- The tables. -/
structure Database where
  devices : List Device
  costProfiles : List DeviceCostProfile
  apiKeys : List APIKey
  messages : List Message
  usageCounters : List UsageCounter
  subscriptions : List Subscription
  deadLetters : List QueueDeadLetter
  physicalDevices : List PhysicalDevice
  mqttCredentials : List MQTTCredential
  otpMetadata : List OTPMetadata
  registry : Registry

/-! ## Statements -/

/-- Which devices are eligible. -/
structure DeviceFilterOptions where
  accountID : String
  status : Option DeviceStatus
  excludeBlocked : Bool
  excludeDegraded : Bool
  carrier : String
  countryCode : String
  circuitBreakerClosed : Bool
  limit : ℕ

/-- The condition on a device row; an option that is not set puts no condition on the row. -/
def DeviceFilterOptions.admits (opts : DeviceFilterOptions) (d : Device) : Bool :=
  (opts.accountID = "" || d.accountID = opts.accountID) &&
    (opts.status.isNone || opts.status = some d.status) &&
    (!opts.excludeBlocked || d.simHealthStatus ≠ .blocked) &&
    (!opts.excludeDegraded || d.simHealthStatus ≠ .degraded) &&
    (opts.carrier = "" || d.carrier = opts.carrier) &&
    (opts.countryCode = "" || d.countryCode = opts.countryCode) &&
    (!opts.circuitBreakerClosed || d.circuitBreakerState ≠ .opened)

/-- The order of eligible devices: by reliability, then by reputation, the best first. -/
def Device.ranksBefore (a b : Device) : Bool :=
  b.reliabilityScore < a.reliabilityScore ||
    (a.reliabilityScore = b.reliabilityScore && b.reputationScore ≤ a.reputationScore)

/-- The statements of the services. -/
inductive Query : Type → Type 1
  | deviceByID (id : String) : Query (Option Device)
  | eligibleDevices (opts : DeviceFilterOptions) : Query (List Device)
  | updateHealthStatus (id : String) (status : SIMHealthStatus) (trendSlope : ℚ) : Query Unit
  | recordSent (id : String) (now : ℤ) : Query Unit
  | updateStatus (id : String) (status : DeviceStatus) (now : ℤ) : Query Unit
  | updatePong (id : String) (now : ℤ) : Query Unit
  | createDevice (device : Device) : Query Unit
  | upsertPhysicalDevice (phone : PhysicalDevice) : Query Unit
  | createCredential (cred : MQTTCredential) : Query Unit
  | revokeByDeviceID (deviceID : String) (now : ℤ) : Query Unit
  | apiKeyByHash (keyHash : String) : Query (Option APIKey)
  | revokeAPIKey (id : String) (now : ℤ) : Query Unit
  | deviceCostProfile (deviceID : String) : Query (Option DeviceCostProfile)
  | createMessage (msg : Message) : Query Unit
  | messageByID (id : String) : Query (Option Message)
  | updateDeliveryStatus (id : String) (status : DeliveryStatus) (confidence : ℚ) (now : ℤ) :
      Query Unit
  | markFailed (id reason : String) : Query Unit
  | updateDeviceID (id deviceID : String) : Query Unit
  | listByAccountFiltered (accountID : String) (offset limit : ℤ) (statusFilter typeFilter : String) :
      Query (List Message)
  | countByAccountFiltered (accountID statusFilter typeFilter : String) : Query ℕ
  | scheduledMessages (before : ℤ) (limit : ℕ) : Query (List Message)
  | releaseScheduled (id : String) : Query Unit
  | deleteOld (now : ℤ) : Query Unit
  /-- How many templates have been deleted. -/
  | deleteTemplates (ids : List String) : Query ℕ
  | deleteAccount (id : String) : Query Unit
  | insertOTPMetadata (messageID phone : String) (expiresAt : ℤ) : Query Unit
  | verifyOTPMetadata (phone : String) : Query Unit
  | otpMetadataByID (messageID : String) : Query (Option OTPMetadata)
  | deadLetterByID (id : String) : Query (Option QueueDeadLetter)
  /-- The messages that could not be handled from one day to another, the latest first. -/
  | deadLetters (dateFrom dateTo : Option ℤ) (limit offset : ℤ) : Query (List QueueDeadLetter)
  | countDeadLetters (dateFrom dateTo : Option ℤ) : Query ℕ
  | retryMessage (id : String) : Query Unit
  | deleteDeadLetter (id : String) : Query Unit
  | usageCounter (accountID : String) (date : ℤ) : Query (Option UsageCounter)
  | incrementUsage (accountID : String) (date : ℤ) : Query Unit
  /-- How many messages have been counted from one day to another. -/
  | usageBetween (accountID : String) (first last : ℤ) : Query ℤ
  | subscription (accountID : String) : Query (Option Subscription)
  | updateSubscription (sub : Subscription) : Query Unit
  | registry {β : Type} (q : RegistryQuery β) : Query β

namespace Database

/-- Change the device rows with a given id. -/
def updateDevice (db : Database) (id : String) (f : Device → Device) : Database :=
  { db with devices := db.devices.map fun d => if d.id = id then f d else d }

/-- Change the message rows with a given id. -/
def updateMessage (db : Database) (id : String) (f : Message → Message) : Database :=
  { db with messages := db.messages.map fun m => if m.id = id then f m else m }

/-- The message with a given id. -/
def message? (db : Database) (id : String) : Option Message := db.messages.find? (·.id = id)

/-- The device with a given id. -/
def device? (db : Database) (id : String) : Option Device := db.devices.find? (·.id = id)

/-- The messages of an account: those with one of its API keys. -/
def messagesOf (db : Database) (accountID : String) : List Message :=
  db.messages.filter fun m => db.apiKeys.any fun k => k.id = m.apiKeyID && k.accountID = accountID

/-- The messages of an account that filters admit; an empty filter admits every message. -/
def filteredMessages (db : Database) (accountID statusFilter typeFilter : String) : List Message :=
  (db.messagesOf accountID).filter fun m =>
    (statusFilter = "" || m.deliveryStatus.name = statusFilter) &&
      (typeFilter = "" || m.messageType.name = typeFilter)

/-- The messages that could not be handled between two days, the ends included; days are given by
their first moments. -/
def deadLettersWithin (db : Database) (dateFrom dateTo : Option ℤ) : List QueueDeadLetter :=
  db.deadLetters.filter fun l =>
    dateFrom.all (· ≤ l.failedAt) && dateTo.all (l.failedAt ≤ · + 86400000000000)

/-- Whether the API key of a message exists, and the device and the template that it may name. -/
def refersToRows (db : Database) (msg : Message) : Bool :=
  db.apiKeys.any (·.id = msg.apiKeyID) && msg.deviceID.all (fun id => db.devices.any (·.id = id)) &&
    msg.templateID.all fun id => db.registry.templates.any (·.id = id)

/-- Insert a message. The id is the primary key, and what the message refers to has to exist. -/
def insertMessage (db : Database) (msg : Message) : Except String Database :=
  if db.messages.any (·.id = msg.id) then
    .error "duplicate key value violates unique constraint \"messages_pkey\""
  else if !db.refersToRows msg then
    .error "insert or update on table \"messages\" violates foreign key constraint"
  else .ok { db with messages := db.messages ++ [msg] }

/-- The devices after one has been inserted. A device in the same slot of the same phone is only
noted as connected, under the new number; the id is the primary key, and the phone and the account
have to exist. -/
def upsertDevice (db : Database) (device : Device) : Except String (List Device) :=
  let sameSlot (d : Device) : Bool :=
    d.physicalDeviceID = device.physicalDeviceID && d.simSlot = device.simSlot
  if db.devices.any sameSlot then
    .ok (db.devices.map fun d =>
      if sameSlot d then { d with status := device.status, phoneNumber := device.phoneNumber } else d)
  else if db.devices.any (·.id = device.id) then
    .error "duplicate key value violates unique constraint \"devices_pkey\""
  else if !db.physicalDevices.any (·.id = device.physicalDeviceID) ||
      !db.registry.accounts.any (·.id = device.accountID) then
    .error "insert or update on table \"devices\" violates foreign key constraint"
  else .ok (db.devices ++ [{ device with name := "" }])

/-- The phones after one has been inserted, or what has become of it has been stored; a phone stays
with its account. -/
def upsertPhone (db : Database) (phone : PhysicalDevice) : Except String (List PhysicalDevice) :=
  if db.physicalDevices.any (·.id = phone.id) then
    .ok (db.physicalDevices.map fun p =>
      if p.id = phone.id then { phone with accountID := p.accountID } else p)
  else if !db.registry.accounts.any (·.id = phone.accountID) then
    .error "insert or update on table \"physical_devices\" violates foreign key constraint"
  else .ok (db.physicalDevices ++ [phone])

/-- The credentials after one has been inserted. Names are unique, and the device has to exist. -/
def insertCredential (db : Database) (cred : MQTTCredential) :
    Except String (List MQTTCredential) :=
  if db.mqttCredentials.any fun c => c.id = cred.id || c.username = cred.username then
    .error "duplicate key value violates unique constraint \"mqtt_credentials_username_key\""
  else if !db.devices.any (·.id = cred.deviceID) then
    .error "insert or update on table \"mqtt_credentials\" violates foreign key constraint"
  else .ok (db.mqttCredentials ++ [cred])

/-- What is kept about passwords after one has been noted. The message has to exist, and keeps what
is noted for it already. -/
def insertPassword (db : Database) (data : OTPMetadata) : Except String (List OTPMetadata) :=
  if db.otpMetadata.any (·.messageID = data.messageID) then .ok db.otpMetadata
  else if !db.messages.any (·.id = data.messageID) then
    .error "insert or update on table \"otp_metadata\" violates foreign key constraint"
  else .ok (db.otpMetadata ++ [data])

/-- The tables after templates have been deleted; their messages stay. -/
def withoutTemplates (db : Database) (ids : List String) : Database :=
  { db with
    messages := db.messages.map fun m => { m with templateID := Registry.orphan ids m.templateID }
    registry := { db.registry with
      templates := db.registry.templates.filter (·.id ∉ ids) } }

/-- The tables after an account has been deleted, with whatever belongs to it. -/
def withoutAccount (db : Database) (id : String) : Database :=
  let phones := (db.physicalDevices.filter (·.accountID = id)).map PhysicalDevice.id
  let gone := (db.devices.filter fun d =>
    d.accountID = id || d.physicalDeviceID ∈ phones).map Device.id
  let keys := (db.apiKeys.filter (·.accountID = id)).map APIKey.id
  let messages := (db.messages.filter (·.apiKeyID ∈ keys)).map Message.id
  let templates := (db.registry.templates.filter (·.accountID = id)).map Template.id
  { db with
    devices := db.devices.filter (·.id ∉ gone)
    costProfiles := db.costProfiles.filter (·.deviceID ∉ gone)
    apiKeys := db.apiKeys.filter (·.accountID ≠ id)
    messages := (db.messages.filter (·.apiKeyID ∉ keys)).map fun m =>
      { m with
        deviceID := Registry.orphan gone m.deviceID
        templateID := Registry.orphan templates m.templateID }
    usageCounters := db.usageCounters.filter (·.accountID ≠ id)
    subscriptions := db.subscriptions.filter (·.accountID ≠ id)
    physicalDevices := db.physicalDevices.filter (·.accountID ≠ id)
    mqttCredentials := db.mqttCredentials.filter (·.deviceID ∉ gone)
    otpMetadata := db.otpMetadata.filter (·.messageID ∉ messages)
    registry := { db.registry with
      accounts := db.registry.accounts.filter (·.id ≠ id)
      subscriptionRequests := db.registry.subscriptionRequests.filter (·.accountID ≠ id)
      templates := db.registry.templates.filter (·.accountID ≠ id)
      paymentRequests := db.registry.paymentRequests.filter (·.accountID ≠ id)
      kycRecords := db.registry.kycRecords.filter (·.accountID ≠ id)
      pairingTokens := db.registry.pairingTokens.filter (·.accountID ≠ id) } }

/-- Count a message of an account on a day. -/
def countUsage (db : Database) (accountID : String) (date : ℤ) : Database :=
  if db.usageCounters.any fun u => u.accountID = accountID && u.date = date then
    { db with
      usageCounters := db.usageCounters.map fun u =>
        if u.accountID = accountID ∧ u.date = date then { u with count := u.count + 1 } else u }
  else { db with usageCounters := db.usageCounters ++ [⟨accountID, date, 1⟩] }

/-- How many messages of an account have been counted on some days. -/
def usage (db : Database) (accountID : String) (days : ℤ → Bool) : ℤ :=
  ((db.usageCounters.filter fun u => u.accountID = accountID && days u.date).map
    UsageCounter.count).sum

section Rows

variable (db : Database) {id : String}

/-- Finding a row by its key commutes with a change that leaves the keys alone. -/
theorem find?_map_of_key {α : Type} (key : α → String) (rows : List α) {f : α → α}
    (hf : ∀ row, key (f row) = key row) (id : String) :
    (rows.map f).find? (fun row => key row = id) =
      (rows.find? fun row => key row = id).map f := by
  rw [List.find?_map]
  congr 2
  funext row
  exact congrArg (fun k => decide (k = id)) (hf row)

/-- A row is found by its key, which no other row has. -/
theorem find?_of_mem {α : Type} {key : α → String} {rows : List α} (hids : (rows.map key).Nodup)
    {row : α} (hmem : row ∈ rows) : rows.find? (fun r => key r = key row) = some row := by
  cases hfind : rows.find? fun r => key r = key row with
  | none =>
    have hnot := List.find?_eq_none.1 hfind row hmem
    simp at hnot
  | some r =>
    have hid : key r = key row := by simpa using List.find?_some hfind
    rw [List.inj_on_of_nodup_map hids (List.mem_of_find?_eq_some hfind) hmem hid]

theorem message?_of_mem (hids : (db.messages.map Message.id).Nodup) {m : Message}
    (hm : m ∈ db.messages) : db.message? m.id = some m :=
  find?_of_mem hids hm

/-- The row that a change of one message leaves. -/
theorem message?_updateMessage {f : Message → Message} (hf : ∀ m, (f m).id = m.id) (id' : String) :
    (db.updateMessage id f).message? id' =
      if id' = id then (db.message? id').map f else db.message? id' := by
  unfold message? updateMessage
  rw [find?_map_of_key Message.id _ fun m => by split_ifs <;> simp [hf]]
  cases hfind : db.messages.find? fun m => m.id = id' with
  | none => simp
  | some m =>
    have hm : m.id = id' := by simpa using List.find?_some hfind
    rw [Option.map_some, hm]
    split_ifs <;> rfl

/-- The row that a change of one device leaves. -/
theorem device?_updateDevice {f : Device → Device} (hf : ∀ d, (f d).id = d.id) (id' : String) :
    (db.updateDevice id f).device? id' =
      if id' = id then (db.device? id').map f else db.device? id' := by
  unfold device? updateDevice
  rw [find?_map_of_key Device.id _ fun d => by split_ifs <;> simp [hf]]
  cases hfind : db.devices.find? fun d => d.id = id' with
  | none => simp
  | some d =>
    have hd : d.id = id' := by simpa using List.find?_some hfind
    rw [Option.map_some, hd]
    split_ifs <;> rfl

@[simp] theorem updateMessage_devices (f : Message → Message) :
    (db.updateMessage id f).devices = db.devices := rfl

@[simp] theorem updateDevice_messages (f : Device → Device) :
    (db.updateDevice id f).messages = db.messages := rfl

@[simp] theorem device?_updateMessage (f : Message → Message) (id' : String) :
    (db.updateMessage id f).device? id' = db.device? id' := rfl

@[simp] theorem message?_updateDevice (f : Device → Device) (id' : String) :
    (db.updateDevice id f).message? id' = db.message? id' := rfl

end Rows

section countUsage

variable (db : Database) (accountID : String) (date : ℤ)

@[simp] theorem countUsage_devices : (db.countUsage accountID date).devices = db.devices := by
  unfold countUsage
  split_ifs <;> rfl

@[simp] theorem countUsage_apiKeys : (db.countUsage accountID date).apiKeys = db.apiKeys := by
  unfold countUsage
  split_ifs <;> rfl

@[simp] theorem countUsage_registry : (db.countUsage accountID date).registry = db.registry := by
  unfold countUsage
  split_ifs <;> rfl

@[simp] theorem countUsage_refersToRows (msg : Message) :
    (db.countUsage accountID date).refersToRows msg = db.refersToRows msg := by
  simp only [refersToRows, countUsage_devices, countUsage_apiKeys, countUsage_registry]

@[simp] theorem countUsage_messages : (db.countUsage accountID date).messages = db.messages := by
  unfold countUsage
  split_ifs <;> rfl

@[simp] theorem countUsage_subscriptions :
    (db.countUsage accountID date).subscriptions = db.subscriptions := by
  unfold countUsage
  split_ifs <;> rfl

end countUsage

/-- The counter of a day after a message has been counted on it. -/
theorem find?_countUsage_self (db : Database) (accountID : String) (date : ℤ) :
    ((db.countUsage accountID date).usageCounters.find? fun u =>
        u.accountID = accountID && u.date = date) =
      some ((db.usageCounters.find? fun u => u.accountID = accountID && u.date = date).elim
        ⟨accountID, date, 1⟩ fun u => { u with count := u.count + 1 }) := by
  unfold countUsage
  split_ifs with hany
  · have hcomp : (fun u : UsageCounter => decide (u.accountID = accountID) && decide (u.date = date)) ∘
        (fun u => if u.accountID = accountID ∧ u.date = date then { u with count := u.count + 1 }
          else u) =
        fun u => decide (u.accountID = accountID) && decide (u.date = date) := by
      funext u
      dsimp only [Function.comp_apply]
      split_ifs <;> rfl
    rw [List.find?_map, hcomp]
    cases hfind : db.usageCounters.find? fun u => u.accountID = accountID && u.date = date with
    | none =>
      obtain ⟨u, hmem, hu⟩ := List.any_eq_true.1 hany
      exact absurd hu (List.find?_eq_none.1 hfind u hmem)
    | some u =>
      have hu := List.find?_some hfind
      simp only [Bool.and_eq_true, decide_eq_true_eq] at hu
      rw [Option.map_some, if_pos hu]
      rfl
  · have hfind : (db.usageCounters.find? fun u => u.accountID = accountID && u.date = date) =
        none := by
      rw [List.find?_eq_none]
      exact fun u hmem hu => hany (List.any_eq_true.2 ⟨u, hmem, hu⟩)
    rw [List.find?_append, hfind]
    simp

/-- Counting a message of one account leaves the counters of the others as they are. -/
theorem find?_countUsage (db : Database) {accountID owner : String} (h : accountID ≠ owner)
    (date day : ℤ) :
    ((db.countUsage owner day).usageCounters.find? fun u =>
        u.accountID = accountID && u.date = date) =
      db.usageCounters.find? fun u => u.accountID = accountID && u.date = date := by
  unfold countUsage
  split_ifs
  · rw [List.find?_map]
    have hcomp : (fun u : UsageCounter => decide (u.accountID = accountID) && decide (u.date = date)) ∘
        (fun u => if u.accountID = owner ∧ u.date = day then { u with count := u.count + 1 } else u) =
        fun u => decide (u.accountID = accountID) && decide (u.date = date) := by
      funext u
      dsimp only [Function.comp_apply]
      split_ifs <;> rfl
    rw [hcomp]
    cases hfind : db.usageCounters.find? fun u => u.accountID = accountID && u.date = date with
    | none => rfl
    | some u =>
      have hu : u.accountID = accountID := by
        have hprop := List.find?_some hfind
        simp only [Bool.and_eq_true, decide_eq_true_eq] at hprop
        exact hprop.1
      rw [Option.map_some, if_neg]
      rintro ⟨howner, -⟩
      exact h (hu.symm.trans howner)
  · rw [List.find?_append]
    simp [Ne.symm h]

section usage

variable {db : Database} {accountID owner : String} {date : ℤ} {days : ℤ → Bool}

/-- An account has one counter for each day. -/
def UniqueCounters (db : Database) : Prop :=
  (db.usageCounters.map fun u => (u.accountID, u.date)).Nodup

theorem UniqueCounters.countUsage (h : db.UniqueCounters) (accountID : String) (date : ℤ) :
    (db.countUsage accountID date).UniqueCounters := by
  unfold UniqueCounters Database.countUsage
  split_ifs with hany
  · have hkeys : (fun u : UsageCounter => (u.accountID, u.date)) ∘
        (fun u => if u.accountID = accountID ∧ u.date = date then { u with count := u.count + 1 }
          else u) = fun u => (u.accountID, u.date) := by
      funext u
      dsimp only [Function.comp_apply]
      split_ifs <;> rfl
    rw [List.map_map, hkeys]
    exact h
  · rw [List.map_append, List.nodup_append]
    refine ⟨h, List.nodup_singleton _, fun x hx y hy hxy => hany ?_⟩
    obtain ⟨u, hu, rfl⟩ := List.mem_map.1 hx
    obtain rfl := List.mem_singleton.1 hy
    obtain ⟨hid, hdate⟩ := Prod.mk.inj hxy
    exact List.any_eq_true.2 ⟨u, hu, by simp [hid, hdate]⟩

/-- What the counters count on some days, one counter after the other. -/
theorem usage_eq_sum (db : Database) : db.usage accountID days =
    (db.usageCounters.map fun u =>
      if u.accountID = accountID ∧ days u.date = true then u.count else 0).sum := by
  unfold usage
  induction db.usageCounters with
  | nil => rfl
  | cons u rows ih =>
    rw [List.map_cons, List.sum_cons, ← ih, List.filter_cons]
    simp only [Bool.and_eq_true, decide_eq_true_eq]
    split_ifs
    · rw [List.map_cons, List.sum_cons]
    · rw [zero_add]

/-- A row that is counted up adds one to the sum, if it is the only one with its key. -/
theorem sum_counted {rows : List UsageCounter}
    (hnodup : (rows.map fun u => (u.accountID, u.date)).Nodup)
    (hany : (rows.any fun u => u.accountID = accountID && u.date = date) = true) :
    ((rows.map fun u => if u.accountID = accountID ∧ u.date = date then
        { u with count := u.count + 1 } else u).map fun u =>
      if u.accountID = accountID ∧ days u.date = true then u.count else 0).sum =
    (rows.map fun u => if u.accountID = accountID ∧ days u.date = true then u.count else 0).sum +
      if days date = true then 1 else 0 := by
  induction rows with
  | nil => cases hany
  | cons u rows ih =>
    obtain ⟨hnot, hrest⟩ := List.nodup_cons.1 hnodup
    simp only [List.map_cons, List.sum_cons]
    by_cases hu : u.accountID = accountID ∧ u.date = date
    · have hsame : (rows.map fun u => if u.accountID = accountID ∧ u.date = date then
          { u with count := u.count + 1 } else u) = rows := by
        refine (List.map_congr_left fun v hv => if_neg ?_).trans (List.map_id rows)
        rintro ⟨hid, hdate⟩
        refine hnot (List.mem_map.2 ⟨v, hv, ?_⟩)
        exact Prod.ext (hid.trans hu.1.symm) (hdate.trans hu.2.symm)
      rw [hsame, if_pos hu]
      simp only [hu.1, hu.2, true_and]
      split_ifs <;> omega
    · rw [List.any_cons] at hany
      have hu' : (decide (u.accountID = accountID) && decide (u.date = date)) = false := by
        simpa using hu
      rw [hu', Bool.false_or] at hany
      rw [ih hrest hany, if_neg hu]
      omega

/-- **Counting a message adds one on its day.** -/
theorem usage_countUsage (h : db.UniqueCounters) :
    (db.countUsage accountID date).usage accountID days =
      db.usage accountID days + if days date = true then 1 else 0 := by
  rw [usage_eq_sum, usage_eq_sum]
  unfold countUsage
  split_ifs with hany hday hday
  · rw [sum_counted h hany, if_pos hday]
  · rw [sum_counted h hany, if_neg hday]
  · simp [hday]
  · simp [hday]

/-- Counting a message of one account adds nothing for the others. -/
theorem usage_countUsage_of_ne (h : owner ≠ accountID) :
    (db.countUsage owner date).usage accountID days = db.usage accountID days := by
  rw [usage_eq_sum, usage_eq_sum]
  unfold countUsage
  split_ifs
  · rw [List.map_map]
    refine congrArg List.sum (List.map_congr_left fun u _ => ?_)
    dsimp only [Function.comp_apply]
    by_cases hu : u.accountID = owner ∧ u.date = date
    · have hne : u.accountID ≠ accountID := fun hid => h (hu.1.symm.trans hid)
      rw [if_pos hu, if_neg fun hmine => hne hmine.1, if_neg fun hmine => hne hmine.1]
    · rw [if_neg hu]
  · simp [h]

/-- The counter of one day. -/
theorem usage_day (h : db.UniqueCounters) :
    db.usage accountID (· = date) =
      (db.usageCounters.find? fun u => u.accountID = accountID && u.date = date).elim 0
        UsageCounter.count := by
  unfold usage
  unfold UniqueCounters at h
  generalize db.usageCounters = rows at h ⊢
  induction rows with
  | nil => rfl
  | cons u rows ih =>
    obtain ⟨hnot, hrest⟩ := List.nodup_cons.1 h
    rw [List.filter_cons, List.find?_cons]
    by_cases hu : (decide (u.accountID = accountID) && decide (u.date = date)) = true
    · rw [if_pos hu, hu]
      have hnone : rows.filter (fun u => decide (u.accountID = accountID) && decide (u.date = date)) =
          [] := by
        rw [List.filter_eq_nil_iff]
        intro v hv hkey
        simp only [Bool.and_eq_true, decide_eq_true_eq] at hu hkey
        refine hnot (List.mem_map.2 ⟨v, hv, ?_⟩)
        exact Prod.ext (hkey.1.trans hu.1.symm) (hkey.2.trans hu.2.symm)
      rw [hnone]
      exact List.sum_singleton
    · rw [if_neg hu, Bool.eq_false_iff.2 hu]
      exact ih hrest

end usage

end Database

namespace Query

/-- The order of scheduled messages: by the time they are due. -/
def dueBefore (a b : Message) : Bool :=
  match a.scheduledAt, b.scheduledAt with
  | some s, some t => s ≤ t
  | _, _ => true

/-- The order of listed messages: the newest first. -/
def newestFirst (a b : Message) : Bool := b.createdAt.nanos ≤ a.createdAt.nanos

/-- What a statement returns, and the tables after it. -/
def run (db : Database) : {β : Type} → Query β → Except String β × Database
  | _, deviceByID id => (.ok (db.device? id), db)
  | _, eligibleDevices opts =>
    (.ok (((db.devices.filter opts.admits).insertionSort fun a b => a.ranksBefore b).take
      opts.limit), db)
  | _, updateHealthStatus id status trendSlope =>
    (.ok (), db.updateDevice id fun d =>
      { d with simHealthStatus := status, healthTrendSlope := trendSlope })
  | _, recordSent id now =>
    (.ok (), db.updateDevice id fun d =>
      { d with messagesSentCount := d.messagesSentCount + 1, lastUsedAt := some now })
  | _, updateStatus id status now =>
    (.ok (), db.updateDevice id fun d => { d with status := status, lastSeen := some now })
  | _, updatePong id now =>
    (.ok (), db.updateDevice id fun d => { d with lastPongAt := some now, status := .online })
  | _, createDevice device =>
    let r := replaced db.devices (db.upsertDevice device)
    (r.1, { db with devices := r.2 })
  | _, upsertPhysicalDevice phone =>
    let r := replaced db.physicalDevices (db.upsertPhone phone)
    (r.1, { db with physicalDevices := r.2 })
  | _, createCredential cred =>
    let r := replaced db.mqttCredentials (db.insertCredential cred)
    (r.1, { db with mqttCredentials := r.2 })
  | _, revokeByDeviceID deviceID now =>
    (.ok (), { db with
      mqttCredentials := db.mqttCredentials.map fun c =>
        if c.deviceID = deviceID ∧ c.revokedAt = none then { c with revokedAt := some now } else c })
  | _, apiKeyByHash keyHash => (.ok (db.apiKeys.find? (·.keyHash = keyHash)), db)
  | _, revokeAPIKey id now =>
    (.ok (), { db with
      apiKeys := db.apiKeys.map fun k => if k.id = id then { k with revokedAt := some now } else k })
  | _, deviceCostProfile deviceID => (.ok (db.costProfiles.find? (·.deviceID = deviceID)), db)
  | _, createMessage msg =>
    match db.insertMessage msg with
    | .error e => (.error e, db)
    | .ok db => (.ok (), db)
  | _, messageByID id => (.ok (db.message? id), db)
  | _, updateDeliveryStatus id status confidence now =>
    (.ok (), db.updateMessage id fun m =>
      { m with
        deliveryStatus := status
        confidenceScore := confidence
        status := "delivered"
        deliveredAt := some now })
  | _, markFailed id reason =>
    (.ok (), db.updateMessage id fun m =>
      { m with status := "failed", deliveryStatus := .failed, errorReason := some reason })
  | _, updateDeviceID id deviceID =>
    (.ok (), db.updateMessage id fun m => { m with deviceID := some deviceID })
  | _, listByAccountFiltered accountID offset limit statusFilter typeFilter =>
    let found := (db.filteredMessages accountID statusFilter typeFilter).insertionSort
      fun a b => newestFirst a b
    (if limit < 0 then .error "LIMIT must not be negative"
      else if offset < 0 then .error "OFFSET must not be negative"
      else .ok ((found.drop offset.toNat).take limit.toNat), db)
  | _, countByAccountFiltered accountID statusFilter typeFilter =>
    (.ok (db.filteredMessages accountID statusFilter typeFilter).length, db)
  | _, scheduledMessages before limit =>
    let due (m : Message) : Bool := m.status = "scheduled" && m.scheduledAt.any (· ≤ before)
    (.ok (((db.messages.filter due).insertionSort fun a b => dueBefore a b).take limit), db)
  | _, releaseScheduled id =>
    (.ok (), db.updateMessage id fun m =>
      if m.status = "scheduled" then { m with status := "pending", scheduledAt := none } else m)
  | _, deleteOld now =>
    let old := (db.messages.filter fun m => decide (m.purgeAfter < now)).map Message.id
    (.ok (), { db with
      messages := db.messages.filter fun m => decide (now ≤ m.purgeAfter)
      otpMetadata := db.otpMetadata.filter (·.messageID ∉ old) })
  | _, deleteTemplates ids =>
    (.ok (db.registry.templates.countP (·.id ∈ ids)), db.withoutTemplates ids)
  | _, deleteAccount id =>
    (.ok (), if db.registry.accounts.any (·.id = id) then db.withoutAccount id else db)
  | _, insertOTPMetadata messageID phone expiresAt =>
    let r := replaced db.otpMetadata (db.insertPassword ⟨messageID, phone, false, 0, expiresAt⟩)
    (r.1, { db with otpMetadata := r.2 })
  | _, verifyOTPMetadata phone =>
    (.ok (), { db with
      otpMetadata := db.otpMetadata.map fun data =>
        if data.phone = phone ∧ data.verified = false then
          { data with verified := true, attempts := 0 } else data })
  | _, otpMetadataByID messageID => (.ok (db.otpMetadata.find? (·.messageID = messageID)), db)
  | _, deadLetterByID id => (.ok (db.deadLetters.find? (·.id = id)), db)
  | _, deadLetters dateFrom dateTo limit offset =>
    let found := (db.deadLettersWithin dateFrom dateTo).insertionSort fun a b => b.failedAt ≤ a.failedAt
    (if limit < 0 then .error "LIMIT must not be negative"
      else if offset < 0 then .error "OFFSET must not be negative"
      else .ok ((found.drop offset.toNat).take limit.toNat), db)
  | _, countDeadLetters dateFrom dateTo =>
    (.ok (db.deadLettersWithin dateFrom dateTo).length, db)
  | _, retryMessage id =>
    (.ok (), db.updateMessage id fun m => { m with status := "pending" })
  | _, deleteDeadLetter id =>
    (.ok (), { db with deadLetters := db.deadLetters.filter fun l => l.id ≠ id })
  | _, usageCounter accountID date =>
    (.ok (db.usageCounters.find? fun u => u.accountID = accountID && u.date = date), db)
  | _, incrementUsage accountID date => (.ok (), db.countUsage accountID date)
  | _, usageBetween accountID first last =>
    (.ok (db.usage accountID fun date => first ≤ date && date ≤ last), db)
  | _, subscription accountID => (.ok (db.subscriptions.find? (·.accountID = accountID)), db)
  | _, updateSubscription sub =>
    (.ok (), { db with
      subscriptions := db.subscriptions.map fun row =>
        if row.id = sub.id then { sub with accountID := row.accountID } else row })
  | _, registry q =>
    let r := q.run db.registry
    (r.1, { db with registry := r.2 })

/-- What the deletion of templates leaves of the messages. -/
theorem mem_deleteTemplates {db : Database} {ids : List String} {m : Message}
    (h : m ∈ (run db (deleteTemplates ids)).2.messages) :
    ∃ row ∈ db.messages, m = { row with templateID := m.templateID } := by
  obtain ⟨row, hrow, rfl⟩ := List.mem_map.1 h
  exact ⟨row, hrow, rfl⟩

/-- What the deletion of an account leaves of the messages. -/
theorem mem_deleteAccount {db : Database} {id : String} {m : Message}
    (h : m ∈ (run db (deleteAccount id)).2.messages) :
    ∃ row ∈ db.messages, m = { row with deviceID := m.deviceID, templateID := m.templateID } := by
  simp only [run] at h
  split_ifs at h
  · obtain ⟨row, hrow, rfl⟩ := List.mem_map.1 h
    exact ⟨row, List.mem_of_mem_filter hrow, rfl⟩
  · exact ⟨m, h, rfl⟩

/-- An eligible device is a row that the filter admits. -/
theorem mem_eligibleDevices {opts : DeviceFilterOptions} {db db' : Database} {ds : List Device}
    {d : Device} (h : run db (eligibleDevices opts) = (.ok ds, db')) (hd : d ∈ ds) :
    d ∈ db.devices ∧ opts.admits d = true := by
  obtain ⟨rfl, -⟩ := Prod.mk.inj h |>.imp (fun h => (Except.ok.inj h).symm) id
  have hsorted := List.mem_of_mem_take hd
  exact List.mem_filter.1 ((List.mem_insertionSort _).1 hsorted)

end Query

end AeroxeBee
