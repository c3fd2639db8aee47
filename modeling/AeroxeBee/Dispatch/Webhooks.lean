import AeroxeBee.Dispatch.Process

/-!
# Webhooks

When a message has been handed to a device, the webhooks of its account are told, in a routine of
its own next to the worker that goes on with the message. The dispatcher keeps in memory how often
each of them has been tried for the message, and when it may be tried again. The routine borrows
the context of the worker, which the worker cancels when it is done with the message.

* `nothing_noted`: in the table that the first migration makes, nothing can be noted.
-/

namespace AeroxeBee.Dispatch.Webhooks

open Foundations

/-! ## The dispatcher -/

/-- A string of the server, which may be cut anywhere. -/
abbrev Bytes := List UInt8

/-- The bytes of a text. -/
def bytes (s : String) : Bytes := s.toUTF8.data.toList

/-- How often a webhook is tried, and how long it is left alone in between. -/
structure WebhookConfig where
  maxAttempts : ℤ
  baseBackoff : ℤ
  maxBackoff : ℤ

/-- A webhook of an account. -/
structure Webhook where
  id : String
  accountID : String
  url : String
  events : List String
  secret : String
  active : Bool
deriving DecidableEq

/-- What a webhook is told. -/
structure Payload extends WebhookPayload where
  timestamp : ℤ

/-- How far the delivery of a message to a webhook has come. -/
structure DeliveryState where
  webhookID : String
  messageID : String
  event : String
  attempts : ℕ
  lastStatus : Bytes
  statusCode : ℤ
  responseBody : Bytes
  lastAttempt : Option ℤ
  nextRetry : ℤ
  completed : Bool

/-- A row of the table of deliveries. -/
structure WebhookDelivery where
  webhookID : String
  messageID : String
  event : String
  attemptCount : ℕ
  statusCode : ℤ
  responseBody : Bytes
  lastStatus : Bytes
  lastAttemptAt : ℤ
  completed : Bool
  createdAt : ℤ
deriving DecidableEq

/-- A request to the server of a webhook. -/
structure HttpRequest where
  method : String
  url : String
  body : Bytes
  headers : List (String × String)

/-- What the server of a webhook answers. -/
structure HttpResponse where
  statusCode : ℤ
  body : Bytes
deriving DecidableEq

/-- What the routine asks of its environment. A request belongs to a delivery, which is told by its
key in the dispatcher. -/
inductive WebhookCmd : Type → Type
  | now : WebhookCmd ℤ
  | activeWebhooks (accountID event : String) : WebhookCmd (Except String (List Webhook))
  | find (key : String) : WebhookCmd (Option DeliveryState)
  | put (key : String) (state : DeliveryState) : WebhookCmd Unit
  | post (key : String) (req : HttpRequest) : WebhookCmd (Except String HttpResponse)
  | createDelivery (d : WebhookDelivery) : WebhookCmd (Except String Unit)

abbrev WebhookProg := Prog WebhookCmd

/-- What the dispatcher is given: its configuration, how payloads are written and signed, and what
is wrong with a URL. -/
structure Services where
  cfg : WebhookConfig
  marshal : Payload → Except String Bytes
  signPayload : Bytes → String → String
  urlError : String → Option String

/-- What became of one attempt. -/
structure DispatchResult where
  statusCode : ℤ
  responseBody : Bytes
  err : Option Bytes

/-- The key of a delivery. -/
def deliveryKey (webhookID messageID : String) : String := webhookID ++ ":" ++ messageID

variable (svc : Services)

/-- The request of an attempt, with the time in seconds. -/
def request (webhook : Webhook) (body : Bytes) (now : ℤ) : HttpRequest where
  method := "POST"
  url := webhook.url
  body := body
  headers := [("Content-Type", "application/json"),
    ("X-Signature", svc.signPayload body webhook.secret),
    ("X-Timestamp", toString (now / 1000000000)),
    ("User-Agent", "AeroXeBee-Webhook/1.0")]

/-- What the answer to the request makes of the attempt. -/
def resultOf : Except String HttpResponse → DispatchResult
  | .error e => ⟨0, [], some (bytes ("deliver webhook: " ++ e))⟩
  | .ok resp =>
    let respBody := resp.body.take 1024
    { statusCode := resp.statusCode
      responseBody := respBody
      err :=
        if 300 ≤ resp.statusCode then
          some (bytes ("webhook returned " ++ toString resp.statusCode ++ ": ") ++ respBody)
        else none }

/-- One attempt. -/
def dispatch (webhook : Webhook) (payload : Payload) : WebhookProg DispatchResult := do
  match svc.marshal payload with
  | .error e => return ⟨0, [], some (bytes ("marshal payload: " ++ e))⟩
  | .ok body =>
    match svc.urlError webhook.url with
    | some e => return ⟨0, [], some (bytes ("create request: " ++ e))⟩
    | none => do
      let now ← Prog.call .now
      let reply ← Prog.call
        (.post (deliveryKey webhook.id payload.messageID) (request svc webhook body now))
      return resultOf reply

/-- How long a webhook is left alone after so many failures. The product is one of 64 bits. -/
def backoff (attempts : ℕ) : ℤ :=
  min ((svc.cfg.baseBackoff * 2 ^ (attempts - 1)).bmod (2 ^ 64)) svc.cfg.maxBackoff

/-- The delivery that the dispatcher knows, or a new one. -/
def loadDelivery (webhook : Webhook) (payload : Payload) : WebhookProg DeliveryState := do
  let key := deliveryKey webhook.id payload.messageID
  match ← Prog.call (.find key) with
  | some state => return state
  | none => do
    let now ← Prog.call .now
    let state : DeliveryState := {
      webhookID := webhook.id
      messageID := payload.messageID
      event := payload.event
      attempts := 0
      lastStatus := []
      statusCode := 0
      responseBody := []
      lastAttempt := none
      nextRetry := now
      completed := false }
    Prog.call (.put key state)
    return state

/-- Note what became of an attempt. -/
def recordAttempt (state : DeliveryState) (result : DispatchResult) :
    WebhookProg DeliveryState := do
  let lastAttempt ← Prog.call .now
  let state := { state with
    lastAttempt := some lastAttempt
    statusCode := result.statusCode
    responseBody := result.responseBody }
  match result.err with
  | some err =>
    let attempts : ℕ := state.attempts + 1
    if (attempts : ℤ) < svc.cfg.maxAttempts then do
      let now ← Prog.call .now
      return { state with
        attempts := attempts
        lastStatus := bytes "failed: " ++ err
        nextRetry := now + backoff svc attempts }
    else
      return { state with
        attempts := attempts
        lastStatus := bytes "dead_letter"
        completed := true }
  | none => return { state with lastStatus := bytes "delivered", completed := true }

/-- One attempt, and what is known of the delivery after it. -/
def dispatchWithRetry (webhook : Webhook) (payload : Payload) : WebhookProg DeliveryState := do
  let state ← loadDelivery webhook payload
  let result ← dispatch svc webhook payload
  let state ← recordAttempt svc state result
  Prog.call (.put (deliveryKey webhook.id payload.messageID) state)
  return state

/-- The beginning of a string. -/
def truncateString (s : Bytes) (maxLen : ℕ) : Bytes :=
  if s.length ≤ maxLen then s else s.take maxLen

/-- What is written down of a delivery after an attempt. -/
def deliveryRow (payload : Payload) (webhook : Webhook) (state : DeliveryState) (now : ℤ) :
    WebhookDelivery where
  webhookID := webhook.id
  messageID := payload.messageID
  event := payload.event
  attemptCount := state.attempts
  statusCode := state.statusCode
  responseBody := truncateString state.responseBody 500
  lastStatus := truncateString state.lastStatus 200
  lastAttemptAt := now
  completed := state.completed
  createdAt := now

/-- Tell one webhook, and write down what became of it. A failure to do so is only logged. -/
def deliverOne (payload : Payload) (webhook : Webhook) : WebhookProg Unit := do
  let state ← dispatchWithRetry svc webhook payload
  let now ← Prog.call .now
  let _ ← Prog.call (.createDelivery (deliveryRow payload webhook state now))

/-- Tell some webhooks, one after the other. -/
def deliverAll (payload : Payload) : List Webhook → WebhookProg Unit
  | [] => return
  | webhook :: webhooks => do
    deliverOne svc payload webhook
    deliverAll payload webhooks

/-- **Tell the webhooks of the account** that a message has been delivered. -/
def dispatchWebhooks (msg : QueueMessage) (result : DeliveryConf.ConfidenceResult) :
    WebhookProg Unit := do
  match ← Prog.call (.activeWebhooks msg.accountID "message.delivered") with
  | .error _ => return
  | .ok webhooks =>
    if webhooks = [] then return
    else do
      let now ← Prog.call .now
      deliverAll svc { deliveredPayload msg result with timestamp := now } webhooks

/-! ## The environment -/

/-- An attempt: when the delivery was due, as the dispatcher knew, when it was made, whether the
context was alive then, and what came back. -/
structure Attempt where
  key : String
  due : Option ℤ
  time : ℤ
  alive : Bool
  reply : Except String HttpResponse

/-- What the environment does before and during a command: how much time passes, whether by then the
worker is done with the message and has cancelled the context, what the server of a webhook would
answer, and whether the database fails. -/
structure Tick where
  elapsed : ℕ
  cancelled : Bool
  reply : Except String HttpResponse
  refused : Option String

/-- The tick at which nothing happens. -/
def Tick.quiet : Tick := ⟨0, false, .error "connection refused", none⟩

/-- The routine's surroundings: the clock, the deadline of the context and whether it has been
cancelled, the webhooks, the columns and the rows of the table of deliveries, the memory of the
dispatcher, the attempts that have been made, and what is to come. -/
structure State where
  clock : ℤ
  deadline : ℤ
  cancelled : Bool
  webhooks : List Webhook
  columns : List String
  webhookDeliveries : List WebhookDelivery
  deliveries : String → Option DeliveryState
  attempts : List Attempt
  env : List Tick

namespace State

variable (s : State)

/-- The next tick, and the state after it. -/
def tick : Tick × State :=
  match s.env with
  | [] => (.quiet, s)
  | t :: env => (t, { s with
      env := env
      clock := s.clock + t.elapsed
      cancelled := s.cancelled || t.cancelled })

/-- The context is neither cancelled nor too old. -/
def alive : Bool := !s.cancelled && decide (s.clock < s.deadline)

/-- What is wrong with the context. -/
def contextErr : String :=
  if s.cancelled then "context canceled" else "context deadline exceeded"

end State

/-- The columns that a new row is given. -/
def insertColumns : List String := ["webhook_id", "message_id", "event", "attempt_count",
  "status_code", "response_body", "last_status", "last_attempt_at", "completed", "created_at"]

/-- The webhook is told of some event in an account. -/
def Webhook.hears (accountID event : String) (webhook : Webhook) : Bool :=
  webhook.accountID = accountID && webhook.active && decide (event ∈ webhook.events)

/-- What a statement of the database comes to, which needs a context that is alive. -/
def query {α : Type} (s : State) (answer : State → Except String α × State) :
    Except String α × State :=
  let (t, s) := s.tick
  if s.alive then
    match t.refused with
    | some e => (.error e, s)
    | none => answer s
  else (.error s.contextErr, s)

/-- Read the webhooks of an account that are told of an event. -/
def State.readWebhooks (s : State) (accountID event : String) :
    Except String (List Webhook) × State :=
  (.ok (s.webhooks.filter (·.hears accountID event)), s)

/-- Insert a row. -/
def State.insertDelivery (s : State) (d : WebhookDelivery) : Except String Unit × State :=
  match insertColumns.find? (· ∉ s.columns) with
  | some column =>
    (.error ("column \"" ++ column ++ "\" of relation \"webhook_deliveries\" does not exist"), s)
  | none => (.ok (), { s with webhookDeliveries := s.webhookDeliveries ++ [d] })

/-- What the commands do. -/
def perform : {β : Type} → WebhookCmd β → State → β × State
  | _, .now, s => (s.tick.2.clock, s.tick.2)
  | _, .activeWebhooks accountID event, s => query s (·.readWebhooks accountID event)
  | _, .find key, s => (s.deliveries key, s)
  | _, .put key state, s =>
    ((), { s with deliveries := Function.update s.deliveries key (some state) })
  | _, .post key _, s =>
    let (t, s) := s.tick
    let reply := if s.alive then t.reply else .error s.contextErr
    (reply, { s with
      attempts := s.attempts ++
        [⟨key, (s.deliveries key).map DeliveryState.nextRetry, s.clock, s.alive, reply⟩] })
  | _, .createDelivery d, s => query s (·.insertDelivery d)

/-- The commands in these surroundings. -/
def outside : Sem WebhookCmd State := ⟨perform⟩

/-! ## What the environment leaves alone -/

/-- A tick leaves alone all but the clock and the context. -/
theorem State.tick_eq (s : State) : ∃ t : Tick, ∃ env, s.tick = (t, { s with
    env := env
    clock := s.clock + t.elapsed
    cancelled := s.cancelled || t.cancelled }) := by
  obtain ⟨clock, deadline, cancelled, _, _, _, _, _, _ | ⟨t, env⟩⟩ := s
  · exact ⟨.quiet, [], by simp [State.tick, Tick.quiet]⟩
  · exact ⟨t, env, rfl⟩

@[simp] theorem State.tick_webhooks (s : State) : s.tick.2.webhooks = s.webhooks := by
  obtain ⟨t, env, h⟩ := s.tick_eq
  rw [h]

@[simp] theorem State.tick_deliveries (s : State) : s.tick.2.deliveries = s.deliveries := by
  obtain ⟨t, env, h⟩ := s.tick_eq
  rw [h]

section Query

variable {α : Type} {answer : State → Except String α × State} {s : State}

/-- A statement that is executed. -/
theorem query_of_executed (halive : s.tick.2.alive = true) (hrefused : s.tick.1.refused = none) :
    query s answer = answer s.tick.2 := by
  simp only [query, halive, if_true, hrefused]

/-- A statement that is not executed leaves alone all but the clock and the context. -/
theorem query_of_failed (h : ¬ (s.tick.2.alive = true ∧ s.tick.1.refused = none)) :
    ∃ e, query s answer = (.error e, s.tick.2) := by
  by_cases halive : s.tick.2.alive = true
  · cases hrefused : s.tick.1.refused with
    | none => exact absurd ⟨halive, hrefused⟩ h
    | some e => exact ⟨e, by simp only [query, halive, if_true, hrefused]⟩
  · exact ⟨s.tick.2.contextErr, by simp only [query, halive, if_false, Bool.false_eq_true]⟩

/-- What a statement leaves alone. -/
theorem query_inv {I : State → Prop} (hI : I s.tick.2) (h : I (answer s.tick.2).2) :
    I (query s answer).2 := by
  by_cases hexecuted : s.tick.2.alive = true ∧ s.tick.1.refused = none
  · rw [query_of_executed hexecuted.1 hexecuted.2]
    exact h
  · obtain ⟨e, he⟩ := @query_of_failed _ answer s hexecuted
    rw [he]
    exact hI

end Query

section Columns

variable {svc : Services} {msg : QueueMessage} {result : DeliveryConf.ConfidenceResult} {s : State}

/-- The columns that the table has been made with, to which no later migration adds any. -/
def initColumns : List String := ["id", "webhook_id", "message_id", "attempt_count", "last_status",
  "last_attempt_at", "created_at"]

/-- **Nothing is noted** in a table that does not have all columns. -/
theorem nothing_noted (hcolumns : ¬ insertColumns ⊆ s.columns) :
    ((dispatchWebhooks svc msg result).exec outside s).state.webhookDeliveries =
      s.webhookDeliveries := by
  have hall : (dispatchWebhooks svc msg result).Only fun _ => True :=
    Prog.only_of_forall (fun _ => trivial) _
  refine (hall.exec_inv (I := fun s' : State => s'.columns = s.columns ∧
    s'.webhookDeliveries = s.webhookDeliveries) (fun e s' _ hs' => ?_) ⟨rfl, rfl⟩).2
  have htick : s'.tick.2.columns = s.columns ∧
      s'.tick.2.webhookDeliveries = s.webhookDeliveries := by
    obtain ⟨t, env, h⟩ := s'.tick_eq
    rw [h]
    exact hs'
  cases e with
  | now | post _ _ => exact htick
  | find _ | put _ _ => exact hs'
  | activeWebhooks _ _ =>
    exact query_inv (I := fun s' => s'.columns = s.columns ∧
      s'.webhookDeliveries = s.webhookDeliveries) htick htick
  | createDelivery d =>
    refine query_inv (I := fun s' => s'.columns = s.columns ∧
      s'.webhookDeliveries = s.webhookDeliveries) htick ?_
    unfold State.insertDelivery
    split
    · exact htick
    · -- then there would be all columns
      refine absurd (fun column hcolumn => ?_) hcolumns
      have hfound := List.find?_eq_none.1 ‹_› column hcolumn
      rw [htick.1] at hfound
      simpa using hfound

example : ¬ insertColumns ⊆ initColumns := by decide

end Columns

end AeroxeBee.Dispatch.Webhooks
