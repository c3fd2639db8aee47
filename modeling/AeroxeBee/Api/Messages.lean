import AeroxeBee.Dispatch.Process

/-!
# The message endpoints

The handlers behind `POST /send`, `/send/bulk`, `/send/schedule` and `/member/send`, from the
decoded request body on, and the scheduler, which releases the messages that were stored for
later. A handler is a chain of checks, each of which can end the request with an error response;
then it stores the message and, unless the message is for later, puts it on the queue.

The endpoints share most of their checks, which are stated once here (`checkMessage`,
`senderOr`, `checkDevice`, `checkDuplicate`, `requireQuota`).
-/

namespace AeroxeBee.Api

open Foundations Dispatch

/-! ## Requests and responses -/

/-- Who sends a request: the account, and the API key that the request came with. -/
structure Caller where
  accountID : String
  apiKeyID : String

/-- The body of a request to send one message. -/
structure SendSMSRequest where
  recipient : String
  sender : String
  message : String
  messageType : MessageType
  idempotencyKey : String
  templateID : String
  deviceID : String
  routingStrategy : RoutingStrategy

/-- The body of a request to send one message to several recipients. -/
structure BulkSendRequest where
  recipients : List String
  sender : String
  message : String
  messageType : MessageType
  templateID : String
  deviceID : String
  routingStrategy : RoutingStrategy

/-- The body of a request to send a message later. -/
structure ScheduleSendRequest where
  recipient : String
  sender : String
  message : String
  messageType : MessageType
  scheduledAt : ℤ
  templateID : String
  deviceID : String
  routingStrategy : RoutingStrategy

/-- What became of one recipient. -/
structure BulkResult where
  recipient : String
  messageID : String
  status : String
  error : String
deriving DecidableEq

/-- The response to a request. -/
inductive Response where
  | error (status : ℕ) (text : String)
  | duplicate (messageID : String)
  | queued (messageID : String) (queue : PriorityLane) (idempotencyKey : Option String)
      (createdAt : ℤ) (latencyMs : ℤ)
  | bulk (total sent : ℕ) (results : List BulkResult) (createdAt : ℤ)
  | scheduled (messageID : String) (scheduledAt createdAt : ℤ)
  | otpSent (messageID : String) (expiresIn : ℕ)
  | otpVerified
deriving DecidableEq

/-- The cipher for stored messages, under the master key. -/
structure Cipher where
  encrypt (nonce plaintext : String) : String
  decrypt (encoded : String) : Except String String
  /-- What was encrypted can be read again. -/
  decrypt_encrypt (nonce plaintext : String) : decrypt (encrypt nonce plaintext) = .ok plaintext
  /-- The nonce is part of what is stored. -/
  encrypt_ne_empty (nonce plaintext : String) : encrypt nonce plaintext ≠ ""

/-- A text with a mark in front is not empty. -/
theorem marked_ne_empty (_nonce plaintext : String) :
    String.ofList ('#' :: plaintext.toList) ≠ "" := fun h => by
  simpa using congrArg String.toList h

/-- The classes of characters that the names of senders are checked by. -/
structure CharClasses where
  isSpace : Char → Bool
  isLetter : Char → Bool
  isDigit : Char → Bool
  toLower : Char → Char

/-- What the handlers are given when the server starts. Without a master key there is no
cipher. -/
structure Services where
  cfg : Config
  cipher : Option Cipher
  chars : CharClasses

variable (svc : Services)

/-! ## Checks -/

/-- The program goes on with the value of the first part unless that ends the request. -/
def orReturn {α : Type} (p : ServerProg (Except Response α)) (rest : α → ServerProg Response) :
    ServerProg Response := do
  match ← p with
  | .error r => return r
  | .ok a => rest a

/-- A message needs a text, of at most 160 characters. -/
def checkMessage (message : String) : Except Response Unit :=
  if message = "" then .error (.error 400 "message is required")
  else if 160 < message.toList.length then
    .error (.error 400 "message exceeds 160 character SMS limit")
  else .ok ()

/-- Whether a text occurs in another. -/
def occurs (part text : List Char) : Bool := text.tails.any part.isPrefixOf

/-- The name of a sender without surrounding blanks, if it is acceptable. -/
def sanitizeSender (sender : String) : Option String :=
  let cs := ((sender.toList.dropWhile svc.chars.isSpace).reverse.dropWhile
    svc.chars.isSpace).reverse
  let size := (String.ofList cs).utf8ByteSize
  let plain (c : Char) : Bool := svc.chars.isLetter c || svc.chars.isDigit c
  let lower := cs.map svc.chars.toLower
  let special := cs.filter fun c => !plain c && c ≠ ' ' && c ≠ '-' && c ≠ '_'
  if cs = [] then none
  else if 11 < size then none
  else if !cs.any plain then none
  else if occurs "http".toList lower || occurs "www.".toList lower || occurs ".com".toList lower ||
      occurs ".net".toList lower then none
  else if size / 3 < special.length then none
  else some (String.ofList cs)

/-- The sender of a message: the name of the product unless another one is asked for. -/
def senderOr (sender : String) : Except Response String :=
  if sender = "" then .ok "AeroXe Bee"
  else
    match sanitizeSender svc sender with
    | none => .error (.error 400 "invalid sender name")
    | some sender => .ok sender

/-- The type of a message that has none. -/
def typeOr (messageType : MessageType) : MessageType :=
  if messageType.name = "" then .transactional else messageType

/-- The strategy of a message that has none, given its type. -/
def strategyOr (strategy : RoutingStrategy) (messageType : MessageType) : RoutingStrategy :=
  if strategy.name = "" then
    if messageType = .marketing then .lowestCost else .highestReliability
  else strategy

/-- A device has to exist, to belong to the account and to be online. -/
def checkDevice (accountID owner deviceID : String) : ServerProg (Except Response Device) := do
  match ← Prog.call (.db (.deviceByID deviceID)) with
  | .error _ => return .error (.error 400 "device not found")
  | .ok none => return .error (.error 400 "device not found")
  | .ok (some device) =>
    if device.accountID ≠ accountID then
      return .error (.error 403 ("device does not belong to " ++ owner ++ " account"))
    else if device.status ≠ .online then
      return .error (.error 400 "device is offline. Only online devices can send SMS")
    else return .ok device

/-- The check of a device that a request may leave open. -/
def checkOptionalDevice (accountID deviceID : String) : ServerProg (Except Response Unit) := do
  if deviceID = "" then return .ok ()
  else
    match ← checkDevice accountID "this" deviceID with
    | .error r => return .error r
    | .ok _ => return .ok ()

/-! ## Idempotency -/

/-- The key under which an idempotency key is stored. -/
def redisKey (key : String) : String := "idempotency:" ++ key

/-- Look up an idempotency key: the message id stored under it, or nothing if the key is new, in
which case it is stored with the given id. The lookup and the store are separate commands. -/
def checkAndSet (key messageID : String) : ServerProg (Except String (Option String)) := do
  match ← Prog.call (.redis (.get (redisKey key))) with
  | .error .nil => do
    let ttl := svc.cfg.app.idempotencyTTL
    let set ← Prog.call
      (.redis (.set (redisKey key) messageID.toList (if 0 < ttl then some ttl else none)))
    let expire ← Prog.call (.redis (.expire (redisKey key) ttl))
    let executed : Except RedisErr Unit := do
      let _ ← set
      expire
    match executed with
    | .error e => return .error ("set idempotency key: " ++ e.text)
    | .ok () => return .ok none
  | .error e => return .error ("check idempotency key: " ++ e.text)
  | .ok existing => return .ok (some (String.ofList existing))

/-- A request whose idempotency key is known is answered as a duplicate. -/
def checkDuplicate (key : String) : ServerProg (Except Response Unit) := do
  match ← checkAndSet svc key "" with
  | .error _ => return .error (.error 500 "idempotency check failed")
  | .ok (some messageID) => return .error (.duplicate messageID)
  | .ok none => return .ok ()

/-! ## Quota -/

/-- The whole part of a number. -/
def truncate (q : ℚ) : ℤ := q.num.tdiv q.den

/-- Whether an account may send another message today. Without a counter or a subscription it
may. -/
def checkQuota (accountID : String) : ServerProg (Except String Bool) := do
  let now ← Prog.call .now
  match ← Prog.call (.db (.usageCounter accountID (now / 86400000000000))) with
  | .error e => return .error e
  | .ok none => return .ok true
  | .ok (some usage) =>
    match ← Prog.call (.db (.subscription accountID)) with
    | .error _ => return .ok true
    | .ok none => return .ok true
    | .ok (some sub) =>
      let withBuffer := truncate (sub.quotaDaily * (1 + sub.overageBufferPct / 100))
      return .ok (decide (usage.count < withBuffer))

/-- A request of an account without quota is turned away. -/
def requireQuota (accountID : String) : ServerProg (Except Response Unit) := do
  match ← checkQuota accountID with
  | .error _ => return .error (.error 500 "quota check failed")
  | .ok false => return .error (.error 429 "quota exceeded")
  | .ok true => return .ok ()

/-! ## Storing and enqueueing -/

/-- The lane of a message and how long it may wait there, in nanoseconds. -/
def laneOf (messageType : MessageType) : PriorityLane × Int64 :=
  if messageType = .otp then (.otp, 90000000000)
  else if messageType = .marketing then (.marketing, 900000000000)
  else (.transactional, 900000000000)

/-- The text of a message as it is stored; without a cipher it is left out. -/
def encrypt (message : String) : ServerProg (Except Response String) := do
  match svc.cipher with
  | none => return .ok ""
  | some cipher =>
    match ← Prog.call .nonce with
    | .error _ => return .error (.error 500 "encryption failed")
    | .ok nonce => return .ok (cipher.encrypt nonce message)

/-- A message that passed the checks. -/
structure Draft where
  recipient : String
  sender : String
  message : String
  messageType : MessageType
  idempotencyKey : String
  templateID : String
  deviceID : String
  routingStrategy : RoutingStrategy

/-- A time in the zone of the server. -/
def timestamp (now : ℤ) : Timestamp := ⟨now, 0, Timestamp.utc_lt⟩

/-- The row of a message. -/
def Draft.row (d : Draft) (caller : Caller) (msgID encrypted : String) (now : ℤ) : Message where
  id := msgID
  deviceID := if d.deviceID = "" then none else some d.deviceID
  apiKeyID := caller.apiKeyID
  direction := "outbound"
  recipient := d.recipient
  sender := d.sender
  encryptedMessage := encrypted
  messageType := d.messageType
  priorityLane := (laneOf d.messageType).1
  templateID := if d.templateID = "" then none else some d.templateID
  status := "pending"
  deliveryStatus := .sent
  confidenceScore := 0
  errorReason := none
  scheduledAt := none
  createdAt := timestamp now
  deliveredAt := none
  purgeAfter := now + svc.cfg.app.messageRetention
  idempotencyKey := d.idempotencyKey
  routingStrategyUsed := d.routingStrategy

/-- The message as it goes on the queue. -/
def Draft.queueMessage (d : Draft) (caller : Caller) (msgID : String) (now : ℤ) :
    QueueMessage where
  id := msgID
  accountID := caller.accountID
  apiKeyID := caller.apiKeyID
  recipient := d.recipient
  sender := d.sender
  message := d.message
  messageType := d.messageType
  priority := (laneOf d.messageType).1
  idempotencyKey := d.idempotencyKey
  createdAt := timestamp now
  routingStrategy := d.routingStrategy
  maxAge := (laneOf d.messageType).2
  attempts := 0

/-- Put a message on the queue. -/
def enqueue (lane : PriorityLane) (msg : QueueMessage) : ServerProg (Except String ℕ) :=
  (Worker.enqueue svc.cfg.queue lane msg).embed .queue

/-- Store a message and put it on the queue. A failure to count it is ignored. -/
def storeAndEnqueue (d : Draft) (caller : Caller) (msgID encrypted : String) (now : ℤ) :
    ServerProg (Except Response Unit) := do
  match ← Prog.call (.db (.createMessage (d.row svc caller msgID encrypted now))) with
  | .error _ => return .error (.error 500 "failed to create message")
  | .ok () => do
    let _ ← incrementUsage caller.accountID
    match ← enqueue svc (laneOf d.messageType).1 (d.queueMessage caller msgID now) with
    | .error _ => return .error (.error 500 "failed to enqueue message")
    | .ok _ => return .ok ()

/-! ## The endpoints -/

/-- The checks of a body that need nothing but the body, and the defaults. -/
def SendSMSRequest.validate (body : Option SendSMSRequest) : Except Response Draft := do
  match body with
  | none => .error (.error 400 "invalid request body")
  | some req =>
    if req.recipient = "" then .error (.error 400 "recipient is required")
    else
      checkMessage req.message
      if req.idempotencyKey = "" then .error (.error 400 "idempotency_key is required")
      else
        let sender ← senderOr svc req.sender
        let messageType := typeOr req.messageType
        return {
          recipient := req.recipient
          sender := sender
          message := req.message
          messageType := messageType
          idempotencyKey := req.idempotencyKey
          templateID := req.templateID
          deviceID := req.deviceID
          routingStrategy := strategyOr req.routingStrategy messageType }

/-- What `send` does with a message whose key is new. -/
def sendFresh (caller : Caller) (startTime : ℤ) (d : Draft) : ServerProg Response :=
  orReturn (requireQuota caller.accountID) fun _ => do
    let msgID ← Prog.call .uuid
    let now ← Prog.call .now
    orReturn (encrypt svc d.message) fun encrypted =>
      orReturn (storeAndEnqueue svc d caller msgID.text encrypted now) fun _ => do
        let done ← Prog.call .now
        return .queued msgID.text (laneOf d.messageType).1 (some d.idempotencyKey) now
          ((done - startTime) / 1000000)

/-- Send one message. -/
def send (caller : Caller) (body : Option SendSMSRequest) : ServerProg Response := do
  let startTime ← Prog.call .now
  match SendSMSRequest.validate svc body with
  | .error r => return r
  | .ok d =>
    orReturn (checkOptionalDevice caller.accountID d.deviceID) fun _ =>
      orReturn (checkDuplicate svc d.idempotencyKey) fun _ =>
        sendFresh svc caller startTime d

/-- The checks of a body for several recipients, and the defaults. The draft has no recipient
yet. -/
def BulkSendRequest.validate (body : Option BulkSendRequest) :
    Except Response (List String × Draft) := do
  match body with
  | none => .error (.error 400 "invalid request body")
  | some req =>
    if req.recipients.length = 0 then .error (.error 400 "recipients array is required")
    else if 1000 < req.recipients.length then
      .error (.error 400 "max 1000 recipients per bulk send")
    else
      checkMessage req.message
      let sender ← senderOr svc req.sender
      let messageType := typeOr req.messageType
      return (req.recipients, {
        recipient := ""
        sender := sender
        message := req.message
        messageType := messageType
        idempotencyKey := ""
        templateID := req.templateID
        deviceID := req.deviceID
        routingStrategy := strategyOr req.routingStrategy messageType })

/-- Store and enqueue the message for one recipient. -/
def bulkOne (d : Draft) (caller : Caller) (encrypted : String) (now : ℤ) (recipient : String) :
    ServerProg BulkResult := do
  let msgID ← Prog.call .uuid
  let d := { d with
    recipient := recipient
    idempotencyKey := "bulk-" ++ msgID.text ++ "-" ++ recipient }
  match ← Prog.call (.db (.createMessage (d.row svc caller msgID.text encrypted now))) with
  | .error _ => return ⟨recipient, "", "failed", "create failed"⟩
  | .ok () => do
    let _ ← incrementUsage caller.accountID
    match ← enqueue svc (laneOf d.messageType).1 (d.queueMessage caller msgID.text now) with
    | .error _ => return ⟨recipient, msgID.text, "queued", "enqueue failed, stored for retry"⟩
    | .ok _ => return ⟨recipient, msgID.text, "queued", ""⟩

/-- Store and enqueue the message for each recipient. -/
def bulkLoop (d : Draft) (caller : Caller) (encrypted : String) (now : ℤ) :
    List String → ServerProg (List BulkResult)
  | [] => return []
  | recipient :: recipients => do
    let result ← bulkOne svc d caller encrypted now recipient
    return result :: (← bulkLoop d caller encrypted now recipients)

/-- Send one message to several recipients. -/
def bulkSend (caller : Caller) (body : Option BulkSendRequest) : ServerProg Response :=
  match BulkSendRequest.validate svc body with
  | .error r => return r
  | .ok (recipients, d) =>
    orReturn (checkOptionalDevice caller.accountID d.deviceID) fun _ =>
      orReturn (requireQuota caller.accountID) fun _ => do
        let now ← Prog.call .now
        orReturn (encrypt svc d.message) fun encrypted => do
          let results ← bulkLoop svc d caller encrypted now recipients
          return .bulk recipients.length results.length results now

/-- The zero time, which stands for a time that is missing. -/
def zeroTime : ℤ := QueueMessage.zero.createdAt.nanos

/-- The checks of a body for later, and the defaults. The draft has no key yet. -/
def ScheduleSendRequest.validate (now later : ℤ) (body : Option ScheduleSendRequest) :
    Except Response (ℤ × Draft) := do
  match body with
  | none => .error (.error 400 "invalid request body")
  | some req =>
    if req.recipient = "" then .error (.error 400 "recipient is required")
    else
      checkMessage req.message
      if req.scheduledAt = zeroTime ∨ req.scheduledAt < now then
        .error (.error 400 "scheduled_at must be in the future")
      else if later + 31536000000000000 < req.scheduledAt then
        .error (.error 400 "scheduled_at cannot be more than 1 year in the future")
      else
        let sender ← senderOr svc req.sender
        let messageType := typeOr req.messageType
        return (req.scheduledAt, {
          recipient := req.recipient
          sender := sender
          message := req.message
          messageType := messageType
          idempotencyKey := ""
          templateID := req.templateID
          deviceID := req.deviceID
          routingStrategy := strategyOr req.routingStrategy messageType })

/-- The row of a message that is sent later. -/
def Draft.scheduledRow (d : Draft) (caller : Caller) (msgID encrypted : String)
    (now scheduledAt : ℤ) : Message :=
  { d.row svc caller msgID encrypted now with
    priorityLane := .transactional
    status := "scheduled"
    scheduledAt := some scheduledAt
    purgeAfter := scheduledAt + svc.cfg.app.messageRetention
    idempotencyKey := "sched-" ++ msgID ++ "-" ++ d.recipient }

/-- Store a message to be sent later. -/
def scheduleSend (caller : Caller) (body : Option ScheduleSendRequest) :
    ServerProg Response := do
  let checkedAt ← Prog.call .now
  let checkedLater ← Prog.call .now
  match ScheduleSendRequest.validate svc checkedAt checkedLater body with
  | .error r => return r
  | .ok (scheduledAt, d) =>
    orReturn (checkOptionalDevice caller.accountID d.deviceID) fun _ =>
      orReturn (requireQuota caller.accountID) fun _ => do
        let now ← Prog.call .now
        let msgID ← Prog.call .uuid
        orReturn (encrypt svc d.message) fun encrypted => do
          let row := d.scheduledRow svc caller msgID.text encrypted now scheduledAt
          match ← Prog.call (.db (.createMessage row)) with
          | .error _ => return .error 500 "failed to create scheduled message"
          | .ok () => return .scheduled msgID.text scheduledAt now

/-- The checks of a body from the member portal, and the defaults. -/
def SendSMSRequest.validateMember (body : Option SendSMSRequest) : Except Response Draft := do
  match body with
  | none => .error (.error 400 "invalid request body")
  | some req =>
    if req.recipient = "" then .error (.error 400 "recipient is required")
    else
      checkMessage req.message
      let sender ← senderOr svc req.sender
      let messageType := typeOr req.messageType
      if req.deviceID = "" then .error (.error 400 "device_id is required")
      else
        return {
          recipient := req.recipient
          sender := sender
          message := req.message
          messageType := messageType
          idempotencyKey := req.idempotencyKey
          templateID := req.templateID
          deviceID := req.deviceID
          routingStrategy := strategyOr req.routingStrategy messageType }

/-- The sender of a message from the member portal: what the device is called, or its number. -/
def deviceSender (device : Device) : Except Response String :=
  senderOr svc (if device.name = "" then device.phoneNumber else device.name)

/-- What `memberSend` does with a message whose key is new. The message belongs to no API key. -/
def memberFresh (accountID : String) (startTime : ℤ) (d : Draft) : ServerProg Response :=
  let caller : Caller := ⟨accountID, ""⟩
  orReturn (requireQuota accountID) fun _ => do
    let msgID ← Prog.call .uuid
    let now ← Prog.call .now
    orReturn (encrypt svc d.message) fun encrypted => do
      match ← Prog.call (.db (.createMessage (d.row svc caller msgID.text encrypted now))) with
      | .error _ => return .error 500 "failed to create message"
      | .ok () => do
        let _ ← incrementUsage accountID
        let usedAt ← Prog.call .now
        let _ ← Prog.call (.db (.recordSent d.deviceID usedAt))
        match ← enqueue svc (laneOf d.messageType).1 (d.queueMessage caller msgID.text now) with
        | .error _ => return .error 500 "failed to enqueue message"
        | .ok _ => do
          let done ← Prog.call .now
          return .queued msgID.text (laneOf d.messageType).1 none now
            ((done - startTime) / 1000000)

/-- Send one message from the member portal. The device must be given, the sender is named after
it, and the idempotency key is made up. -/
def memberSend (accountID : String) (body : Option SendSMSRequest) : ServerProg Response := do
  let startTime ← Prog.call .now
  match SendSMSRequest.validateMember svc body with
  | .error r => return r
  | .ok d =>
    orReturn (checkDevice accountID "your" d.deviceID) fun device =>
      match deviceSender svc device with
      | .error r => return r
      | .ok sender => do
        let key ← Prog.call .uuid
        let d := { d with sender := sender, idempotencyKey := "member-" ++ key.text }
        orReturn (checkDuplicate svc d.idempotencyKey) fun _ =>
          memberFresh svc accountID startTime d

/-! ## Scheduled messages -/

/-- The lane of a scheduled message and how long it may wait there. -/
def scheduledLane (messageType : MessageType) : PriorityLane × Int64 :=
  if messageType = .otp then (.otp, 90000000000)
  else if messageType = .marketing then (.marketing, 0)
  else (.transactional, 900000000000)

/-- The text of a scheduled message. -/
def plaintext (row : Message) : Except String String :=
  match svc.cipher with
  | some cipher =>
    if row.encryptedMessage = "" then .ok "" else cipher.decrypt row.encryptedMessage
  | none => .ok row.encryptedMessage

/-- A scheduled message as it goes on the queue. The account is left empty. -/
def releasedMessage (row : Message) (text : String) : QueueMessage where
  id := row.id
  accountID := ""
  apiKeyID := row.apiKeyID
  recipient := row.recipient
  sender := row.sender
  message := text
  messageType := row.messageType
  priority := (scheduledLane row.messageType).1
  idempotencyKey := row.idempotencyKey
  createdAt := row.createdAt
  routingStrategy := row.routingStrategyUsed
  maxAge := (scheduledLane row.messageType).2
  attempts := 0

/-- Release one scheduled message, unless it is not due or cannot be read. -/
def releaseOne (now : ℤ) (row : Message) : ServerProg Unit := do
  if row.scheduledAt.any (now < ·) then return
  else
    match plaintext svc row with
    | .error _ => return
    | .ok text =>
      match ← Prog.call (.db (.releaseScheduled row.id)) with
      | .error _ => return
      | .ok () =>
        match ← enqueue svc (scheduledLane row.messageType).1 (releasedMessage row text) with
        | .ok _ => return
        | .error _ => do
          let _ ← Prog.call (.db (.releaseScheduled row.id))
          return

/-- Release some scheduled messages. -/
def releaseAll (now : ℤ) : List Message → ServerProg Unit
  | [] => return
  | row :: rows => do
    releaseOne svc now row
    releaseAll now rows

/-- One round of the scheduler: release the messages that are due, at most fifty of them. -/
def processDue : ServerProg Unit := do
  let now ← Prog.call .now
  match ← Prog.call (.db (.scheduledMessages now 50)) with
  | .error _ => return
  | .ok rows => releaseAll svc now rows

end AeroxeBee.Api
