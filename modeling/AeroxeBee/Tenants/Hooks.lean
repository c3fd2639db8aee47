import AeroxeBee.Accounts.Profile
import AeroxeBee.Dispatch.Webhooks
import AeroxeBee.Foundations.Heeding
import AeroxeBee.Foundations.Hex
import AeroxeBee.Tenants.Pages

/-!
# Webhooks of an account

Members keep the webhooks of their account: they make, read, change, test and delete them, and have new
secrets drawn. Members of the staff do so with the webhooks of every account. A handler looks a webhook up
before it acts on it, and acts on it by its id.

* `handle_heeds`: what a request has found out before it acts on a webhook.
-/

namespace AeroxeBee.Tenants.Hooks

open Foundations Dispatch.Webhooks Accounts

/-! ## Commands -/

/-- What the handlers ask of their environment. The store draws the ids of new rows. -/
inductive HookCmd : Type → Type
  | now : HookCmd ℤ
  | uuid : HookCmd String
  | random : HookCmd (Except String (Vector UInt8 32))
  | create (accountID url : String) (events : List String) (secret : String) (active : Bool) :
      HookCmd (Except String Unit)
  | byID (id : String) : HookCmd (Except String (Option Webhook))
  | byAccount (accountID : String) : HookCmd (Except String (List Webhook))
  | update (id url : String) (events : Option (List String)) (active : Bool) :
      HookCmd (Except String Unit)
  | delete (id : String) : HookCmd (Except String Unit)
  | deleteAll (ids : List String) : HookCmd (Except String ℕ)
  | rotateSecret (id secret : String) : HookCmd (Except String Unit)
  | deliveries (webhookID : String) (limit : ℕ) : HookCmd (Except String (List WebhookDelivery))
  | post (req : HttpRequest) : HookCmd (Except String HttpResponse)

abbrev HookProg := Prog HookCmd

/-! ## Requests -/

/-- The body of a request for a webhook. A list of events that is left out is none. -/
structure NewWebhook where
  url : String
  events : Option (List String)

/-- The body of a request that changes a webhook. -/
structure WebhookChange where
  url : String
  events : Option (List String)
  active : Bool

/-- What can be done with webhooks. A body that cannot be read is none. -/
inductive Action where
  | create (body : Option NewWebhook)
  | list (pg : PaginationParams)
  | get (id : String)
  | update (id : String) (body : Option WebhookChange)
  | delete (id : String)
  | rotateSecret (id : String)
  | deliveries (id : String)
  | test (id : String)

/-- The requests: of a member, of somebody of the staff, and the one of the staff to delete many. -/
inductive Request where
  | member (accountID : String) (a : Action)
  | staff (adminID : String) (a : Action)
  | bulkDelete (ids : Option (List String))

/-- What comes of a request. -/
inductive HookAnswer where
  | refused (e : HttpError)
  | created (id url : String) (events : List String) (secret : String)
  | listed (page : Except Panic (List Webhook)) (total : ℕ)
  | shown (webhook : Webhook)
  | done
  | rotated (secret : String)
  | delivered (rows : List WebhookDelivery)
  | tested (result : DispatchResult)
  | deleted (n : ℕ)

/-! ## Handlers -/

section Handlers

/-- A new secret. -/
def drawSecret : HookProg (Except String String) := do
  match ← Prog.call .random with
  | .error e => return .error e
  | .ok secret => return .ok (String.ofList (hexBytes secret.toList))

/-- Make a webhook. The store does not tell the id that it has drawn, so the answer has none. -/
def create (accountID : String) (body : Option NewWebhook) : HookProg HookAnswer :=
  match body with
  | none => return .refused ⟨400, "invalid request body"⟩
  | some req =>
    let events := req.events.getD []
    if req.url = "" ∨ events = [] then return .refused ⟨400, "url and events are required"⟩
    else do
      match ← drawSecret with
      | .error _ => return .refused ⟨500, "failed to generate secret"⟩
      | .ok secret => do
        match ← Prog.call (.create accountID req.url events secret true) with
        | .error _ => return .refused ⟨500, "failed to create webhook"⟩
        | .ok () => return .created "" req.url events secret

/-- The webhooks of an account. -/
def list (accountID : String) (pg : PaginationParams) : HookProg HookAnswer := do
  match ← Prog.call (.byAccount accountID) with
  | .error _ => return .refused ⟨500, "failed to list webhooks"⟩
  | .ok webhooks => return .listed (slicePage webhooks pg) webhooks.length

/-- Store what a webhook is changed to. -/
def update (webhook : Webhook) (req : WebhookChange) (failed : String) : HookProg HookAnswer := do
  match ← Prog.call (.update webhook.id req.url req.events req.active) with
  | .error _ => return .refused ⟨500, failed⟩
  | .ok () => return .done

/-- Delete a webhook. -/
def delete (id failed : String) : HookProg HookAnswer := do
  match ← Prog.call (.delete id) with
  | .error _ => return .refused ⟨500, failed⟩
  | .ok () => return .done

/-- Give a webhook a new secret, and tell it. -/
def rotateSecret (id : String) : HookProg HookAnswer := do
  match ← drawSecret with
  | .error _ => return .refused ⟨500, "failed to generate secret"⟩
  | .ok secret => do
    match ← Prog.call (.rotateSecret id secret) with
    | .error _ => return .refused ⟨500, "failed to rotate secret"⟩
    | .ok () => return .rotated secret

/-- The last deliveries to a webhook. -/
def listByWebhookID (webhookID : String) (limit : ℤ) : HookProg (Except String (List WebhookDelivery)) :=
  Prog.call (.deliveries webhookID (if limit ≤ 0 ∨ 100 < limit then 20 else limit.toNat))

/-- The last deliveries to a webhook, as they are shown. -/
def deliveries (id : String) : HookProg HookAnswer := do
  match ← listByWebhookID id 20 with
  | .error _ => return .refused ⟨500, "failed to fetch deliveries"⟩
  | .ok rows => return .delivered rows

/-- What a webhook is told in a test. -/
structure TestPayload where
  event : String
  messageID : String
  recipient : String
  sender : String
  messageType : String
  deliveryStatus : DeliveryStatus
  confidenceScore : ℚ
  timestamp : ℤ

/-- What the dispatcher is given, and how the payloads of tests are written. -/
structure HookServices extends Services where
  marshalTest : TestPayload → Except String Bytes

variable (svc : HookServices)

/-- Send a payload to a webhook. -/
def dispatch (webhook : Webhook) (payload : TestPayload) : HookProg DispatchResult :=
  match svc.marshalTest payload with
  | .error e => return ⟨0, [], some (bytes ("marshal payload: " ++ e))⟩
  | .ok body =>
    match svc.urlError webhook.url with
    | some e => return ⟨0, [], some (bytes ("create request: " ++ e))⟩
    | none => do
      let now ← Prog.call .now
      let reply ← Prog.call (.post (request svc.toServices webhook body now))
      return resultOf reply

/-- Send a payload of no message to a webhook. -/
def dispatchTest (webhook : Webhook) : HookProg DispatchResult := do
  let id ← Prog.call .uuid
  let now ← Prog.call .now
  dispatch svc webhook {
    event := "test.ping"
    messageID := "test-" ++ id
    recipient := "+1234567890"
    sender := "TestSender"
    messageType := "test"
    deliveryStatus := .sent
    confidenceScore := 1
    timestamp := now }

/-- Test a webhook, and tell what has come of it. -/
def test (webhook : Webhook) : HookProg HookAnswer := do
  let result ← dispatchTest svc webhook
  return .tested result

namespace MemberHandler

/-- Look a webhook of an account up. -/
def ownWebhook (accountID id : String) : HookProg (Except HttpError Webhook) := do
  match ← Prog.call (.byID id) with
  | .error _ | .ok none => return .error ⟨404, "webhook not found"⟩
  | .ok (some webhook) =>
    if webhook.accountID ≠ accountID then return .error ⟨403, "access denied"⟩
    else return .ok webhook

/-- Go on with a webhook of an account. -/
def withOwn (accountID id : String) (p : Webhook → HookProg HookAnswer) : HookProg HookAnswer := do
  match ← ownWebhook accountID id with
  | .error e => return .refused e
  | .ok webhook => p webhook

def createWebhook (accountID : String) (body : Option NewWebhook) : HookProg HookAnswer :=
  create accountID body

def listWebhooks (accountID : String) (pg : PaginationParams) : HookProg HookAnswer :=
  list accountID pg

def getWebhook (accountID id : String) : HookProg HookAnswer :=
  withOwn accountID id fun webhook => return .shown webhook

def updateWebhook (accountID id : String) (body : Option WebhookChange) : HookProg HookAnswer :=
  withOwn accountID id fun existing =>
    match body with
    | none => return .refused ⟨400, "invalid request"⟩
    | some req => update existing req "failed to update webhook"

def deleteWebhook (accountID id : String) : HookProg HookAnswer :=
  withOwn accountID id fun _ => delete id "failed to delete webhook"

def rotateWebhookSecret (accountID id : String) : HookProg HookAnswer :=
  withOwn accountID id fun _ => rotateSecret id

def getWebhookDeliveries (accountID id : String) : HookProg HookAnswer :=
  withOwn accountID id fun _ => deliveries id

def testWebhook (accountID id : String) : HookProg HookAnswer :=
  withOwn accountID id fun wh => test svc wh

end MemberHandler

namespace WebhookHandler

/-- Look a webhook up. -/
def find (id : String) (p : Webhook → HookProg HookAnswer) : HookProg HookAnswer := do
  match ← Prog.call (.byID id) with
  | .error _ | .ok none => return .refused ⟨404, "webhook not found"⟩
  | .ok (some webhook) => p webhook

def get (id : String) : HookProg HookAnswer := do
  match ← Prog.call (.byID id) with
  | .error _ => return .refused ⟨500, "database error"⟩
  | .ok none => return .refused ⟨404, "webhook not found"⟩
  | .ok (some webhook) => return .shown webhook

def update (id : String) (body : Option WebhookChange) : HookProg HookAnswer :=
  match body with
  | none => return .refused ⟨400, "invalid request"⟩
  | some req => find id fun webhook => Hooks.update webhook req "failed to update"

def delete (id : String) : HookProg HookAnswer := Hooks.delete id "failed to delete"

def testWebhook (id : String) : HookProg HookAnswer := find id fun wh => test svc wh

end WebhookHandler

/-- Delete many webhooks. -/
def AdminWebhookBulkHandler.bulkDelete (ids : Option (List String)) : HookProg HookAnswer :=
  match ids with
  | none | some [] => return .refused ⟨400, "ids array is required"⟩
  | some ids => do
    match ← Prog.call (.deleteAll ids) with
    | .error _ => return .refused ⟨500, "bulk delete failed"⟩
    | .ok n => return .deleted n

/-- The handler of a request. -/
def Request.handle : Request → HookProg HookAnswer
  | .member accountID a =>
    match a with
    | .create body => MemberHandler.createWebhook accountID body
    | .list pg => MemberHandler.listWebhooks accountID pg
    | .get id => MemberHandler.getWebhook accountID id
    | .update id body => MemberHandler.updateWebhook accountID id body
    | .delete id => MemberHandler.deleteWebhook accountID id
    | .rotateSecret id => MemberHandler.rotateWebhookSecret accountID id
    | .deliveries id => MemberHandler.getWebhookDeliveries accountID id
    | .test id => MemberHandler.testWebhook svc accountID id
  | .staff adminID a =>
    match a with
    | .create body => create adminID body
    | .list pg => list adminID pg
    | .get id => WebhookHandler.get id
    | .update id body => WebhookHandler.update id body
    | .delete id => WebhookHandler.delete id
    | .rotateSecret id => rotateSecret id
    | .deliveries id => deliveries id
    | .test id => WebhookHandler.testWebhook svc id
  | .bulkDelete ids => AdminWebhookBulkHandler.bulkDelete ids

end Handlers

/-! ## The store -/

/-- What the environment does during a command: whether a statement fails, the time, and what is drawn and
answered. -/
structure HookTick where
  fault : Fault
  time : ℤ
  uuid : String
  bytes : Except String (Vector UInt8 32)
  reply : Except String HttpResponse

/-- The tick at which nothing goes wrong. -/
def HookTick.quiet : HookTick := ⟨.none, 0, "", .ok (Vector.replicate 32 0), .error "connection refused"⟩

/-- The surroundings: the ids of the accounts, the webhooks with the oldest first, the columns and the rows
of the table of deliveries, the ids that the store draws and how many it has drawn, and what is to come. -/
structure HookState where
  accounts : List String
  webhooks : List Webhook
  columns : List String
  webhookDeliveries : List WebhookDelivery
  newID : ℕ → String
  drawn : ℕ
  env : List HookTick

namespace HookState

variable (s : HookState)

/-- The next tick, and the state after it. -/
def tick : HookTick × HookState :=
  match s.env with
  | [] => (.quiet, s)
  | t :: env => (t, { s with env := env })

/-- What a statement comes to. -/
def statement {α : Type} (run : HookState → Except String α × HookState) : Except String α × HookState :=
  s.tick.1.fault.apply id id run s.tick.2

/-- The webhooks without some of them. Their deliveries go with them. -/
def without (p : Webhook → Bool) : HookState :=
  { s with
    webhooks := s.webhooks.filter fun w => !p w
    webhookDeliveries := s.webhookDeliveries.filter fun d =>
      !s.webhooks.any fun w => p w && w.id = d.webhookID }

/-- The text is too long for the column of addresses. -/
def tooLong (url : String) : Bool := 1024 < url.length

/-- Insert a row with a new id. -/
def insert (accountID url : String) (events : List String) (secret : String) (active : Bool) :
    Except String Unit × HookState :=
  let id := s.newID s.drawn
  let s := { s with drawn := s.drawn + 1 }
  if s.webhooks.any (·.id = id) then
    (.error "duplicate key value violates unique constraint \"webhooks_pkey\"", s)
  else if accountID ∉ s.accounts then
    (.error "insert or update on table \"webhooks\" violates foreign key constraint", s)
  else if tooLong url then (.error "value too long for type character varying(1024)", s)
  else (.ok (), { s with webhooks := s.webhooks ++ [⟨id, accountID, url, events, secret, active⟩] })

/-- Change the rows with an id. -/
def change (id : String) (f : Webhook → Webhook) : HookState :=
  { s with webhooks := updateWhere (fun w => decide (w.id = id)) f s.webhooks }

/-- What a command does. -/
def serve : {β : Type} → HookCmd β → β × HookState
  | _, .now => (s.tick.1.time, s.tick.2)
  | _, .uuid => (s.tick.1.uuid, s.tick.2)
  | _, .random => (s.tick.1.bytes, s.tick.2)
  | _, .create accountID url events secret active =>
    s.statement (·.insert accountID url events secret active)
  | _, .byID id => s.statement fun s => (.ok (s.webhooks.find? (·.id = id)), s)
  | _, .byAccount accountID =>
    s.statement fun s => (.ok (s.webhooks.filter (·.accountID = accountID)).reverse, s)
  | _, .update id url events active =>
    s.statement fun s =>
      match events with
      | none => (.error "null value in column \"events\" violates not-null constraint", s)
      | some events =>
        if tooLong url then (.error "value too long for type character varying(1024)", s)
        else (.ok (), s.change id fun w => { w with url := url, events := events, active := active })
  | _, .delete id => s.statement fun s => (.ok (), s.without (·.id = id))
  | _, .deleteAll ids =>
    s.statement fun s => (.ok (s.webhooks.countP (·.id ∈ ids)), s.without (·.id ∈ ids))
  | _, .rotateSecret id secret =>
    s.statement fun s => (.ok (), s.change id fun w => { w with secret := secret })
  | _, .deliveries webhookID limit =>
    s.statement fun s =>
      match insertColumns.find? (· ∉ s.columns) with
      | some column => (.error ("column \"" ++ column ++ "\" does not exist"), s)
      | none =>
        let rows := s.webhookDeliveries.filter (·.webhookID = webhookID)
        (.ok ((rows.insertionSort fun a b => b.createdAt ≤ a.createdAt).take limit), s)
  | _, .post _ => (s.tick.1.reply, s.tick.2)

end HookState

/-- The server of the webhooks. -/
def hookServer : Sem HookCmd HookState where
  step e s := s.serve e

/-! ## What is found out before something is done -/

/-- The request makes webhooks for an account, and lists those of the account. -/
def Request.Acts (accountID : String) : Request → Prop
  | .member id _ => id = accountID
  | .staff id _ => id = accountID
  | .bulkDelete _ => False

/-- The request may act on the webhooks of an account. -/
def Request.Manages (accountID : String) : Request → Prop
  | .member id _ => id = accountID
  | _ => True

/-- What the request is to do. -/
def Request.action? : Request → Option Action
  | .member _ a => some a
  | .staff _ a => some a
  | .bulkDelete _ => none

/-- A lookup has found a webhook with an id, or with the id that was looked up. -/
def FoundAs (evs : List (Event HookCmd)) (id : String) (webhook : Webhook) : Prop :=
  ∃ id', (⟨.byID id', .ok (some webhook)⟩ : Event HookCmd) ∈ evs ∧ (id = id' ∨ id = webhook.id)

/-- Before a member acts on a webhook, it was found in the account. -/
def Request.Found (r : Request) (evs : List (Event HookCmd)) (id : String) : Prop :=
  ∀ accountID a, r = .member accountID a → ∃ webhook, FoundAs evs id webhook ∧ webhook.accountID = accountID

/-- The secret was drawn at random. -/
def Drawn (evs : List (Event HookCmd)) (secret : String) : Prop :=
  ∃ drawn, (⟨.random, .ok drawn⟩ : Event HookCmd) ∈ evs ∧ secret = String.ofList (hexBytes drawn.toList)

/-- What a request may issue. -/
def Request.Allows (r : Request) (evs : List (Event HookCmd)) : {β : Type} → HookCmd β → Prop
  | _, .create accountID _ _ secret _ => r.Acts accountID ∧ Drawn evs secret
  | _, .byAccount accountID => r.Acts accountID
  | _, .update id url events active =>
    r.Found evs id ∧ ∃ id', r.action? = some (.update id' (some ⟨url, events, active⟩))
  | _, .delete id => r.Found evs id
  | _, .deleteAll ids => r = .bulkDelete (some ids)
  | _, .rotateSecret id secret => r.Found evs id ∧ Drawn evs secret
  | _, .deliveries id _ => r.Found evs id
  | _, .post req => ∀ accountID a, r = .member accountID a → ∃ id webhook,
      FoundAs evs id webhook ∧ webhook.accountID = accountID ∧ req.url = webhook.url
  | _, _ => True

/-- What an answer shows has been found out. -/
def Request.Shows (r : Request) (evs : List (Event HookCmd)) : HookAnswer → Prop
  | .shown webhook => ∀ accountID a, r = .member accountID a →
      ∃ id, FoundAs evs id webhook ∧ webhook.accountID = accountID
  | .listed page _ => ∀ accountID a, r = .member accountID a → ∃ webhooks pg,
      (⟨.byAccount accountID, .ok webhooks⟩ : Event HookCmd) ∈ evs ∧ page = slicePage webhooks pg
  | .delivered rows => ∃ id limit, r.Found evs id ∧
      (⟨.deliveries id limit, .ok rows⟩ : Event HookCmd) ∈ evs
  | _ => True

section Heeds

variable {svc : HookServices} {r : Request} {evs : List (Event HookCmd)} {id accountID failed : String}
  {a : Action} {webhook : Webhook}

/-- What a request has found out when it returns. -/
abbrev Request.Heeded (r : Request) (p : HookProg HookAnswer) (evs : List (Event HookCmd)) : Prop :=
  p.Heeds r.Allows r.Shows evs

theorem Request.Found.mono (h : r.Found evs id) {more : List (Event HookCmd)} (hsub : evs ⊆ more) :
    r.Found more id := by
  intro accountID a hr
  obtain ⟨webhook, ⟨id', hmem, hid⟩, howner⟩ := h accountID a hr
  exact ⟨webhook, ⟨id', hsub hmem, hid⟩, howner⟩

/-- The staff need not find anything. -/
theorem found_of_staff (hr : ∀ accountID a, r ≠ .member accountID a) : r.Found evs id :=
  fun accountID a h => absurd h (hr accountID a)

theorem acts_member : (Request.member accountID a).Acts accountID := rfl

theorem acts_staff : (Request.staff accountID a).Acts accountID := rfl

theorem drawSecret_heeds : drawSecret.Heeds r.Allows (fun evs' reply => evs ⊆ evs' ∧
    ∀ secret, reply = .ok secret → Drawn evs' secret) evs := by
  refine ⟨trivial, fun reply => ?_⟩
  cases reply with
  | error e => exact ⟨by simp, fun secret h => by cases h⟩
  | ok drawn =>
    refine ⟨by simp, fun secret h => ?_⟩
    cases h
    exact ⟨drawn, by simp, rfl⟩

theorem create_heeds (hacts : r.Acts accountID) (body : Option NewWebhook) :
    r.Heeded (create accountID body) evs := by
  cases body with
  | none => trivial
  | some req =>
    change Prog.Heeds _ _ (ite _ _ _) _
    split_ifs with hempty
    · trivial
    · refine drawSecret_heeds.bind fun evs' reply hdrawn => ?_
      cases reply with
      | error e => trivial
      | ok secret =>
        refine ⟨⟨hacts, hdrawn.2 secret rfl⟩, fun reply => ?_⟩
        cases reply <;> trivial

theorem list_heeds (hacts : r.Acts accountID) (pg : PaginationParams) :
    r.Heeded (list accountID pg) evs := by
  refine ⟨hacts, fun reply => ?_⟩
  cases reply with
  | error e => trivial
  | ok webhooks =>
    intro accountID' a hr
    have hsame : accountID' = accountID := by
      rw [hr] at hacts
      exact hacts
    exact ⟨webhooks, pg, by simp [hsame], rfl⟩

theorem update_heeds {req : WebhookChange} {id' : String} (hfound : r.Found evs webhook.id)
    (hr : r.action? = some (.update id' (some req))) : r.Heeded (update webhook req failed) evs := by
  refine ⟨⟨hfound, id', hr⟩, fun reply => ?_⟩
  cases reply <;> trivial

theorem delete_heeds (hfound : r.Found evs id) : r.Heeded (delete id failed) evs := by
  refine ⟨hfound, fun reply => ?_⟩
  cases reply <;> trivial

theorem rotateSecret_heeds (hfound : r.Found evs id) : r.Heeded (rotateSecret id) evs := by
  refine drawSecret_heeds.bind fun evs' reply hdrawn => ?_
  cases reply with
  | error e => trivial
  | ok secret =>
    refine ⟨⟨hfound.mono hdrawn.1, hdrawn.2 secret rfl⟩, fun reply => ?_⟩
    cases reply <;> trivial

theorem deliveries_heeds (hfound : r.Found evs id) : r.Heeded (deliveries id) evs := by
  refine ⟨hfound, fun reply => ?_⟩
  cases reply with
  | error e => trivial
  | ok rows => exact ⟨id, _, hfound.mono (by simp), List.mem_append_right _ (List.mem_singleton.2 rfl)⟩

theorem test_heeds (hfound : ∀ accountID a, r = .member accountID a → ∃ id, FoundAs evs id webhook ∧
    webhook.accountID = accountID) : r.Heeded (test svc webhook) evs := by
  refine ⟨trivial, fun uuid => ⟨trivial, fun now => ?_⟩⟩
  change Prog.Heeds _ _ (dispatch svc webhook _ >>= _) _
  generalize hpayload : TestPayload.mk _ _ _ _ _ _ _ _ = payload
  unfold dispatch
  cases svc.marshalTest payload with
  | error e => trivial
  | ok body =>
    cases svc.urlError webhook.url with
    | some e => trivial
    | none =>
      refine ⟨trivial, fun sent => ⟨fun accountID a hr => ?_, fun reply => trivial⟩⟩
      obtain ⟨id, ⟨id', hmem, hid⟩, howner⟩ := hfound accountID a hr
      exact ⟨id, webhook, ⟨id', by simp [hmem], hid⟩, howner, rfl⟩

/-- A member goes on with a webhook that was found in the account. -/
theorem withOwn_heeds {p : Webhook → HookProg HookAnswer}
    (hp : ∀ webhook evs, (⟨.byID id, .ok (some webhook)⟩ : Event HookCmd) ∈ evs →
      webhook.accountID = accountID → (Request.member accountID a).Heeded (p webhook) evs) :
    (Request.member accountID a).Heeded (MemberHandler.withOwn accountID id p) evs := by
  refine ⟨trivial, fun reply => ?_⟩
  rcases reply with e | (_ | webhook)
  · trivial
  · trivial
  · change Prog.Heeds _ _ ((ite _ _ _ : HookProg (Except HttpError Webhook)) >>= _) _
    split_ifs with hother
    · trivial
    · exact hp webhook _ (by simp) (not_not.1 hother)

theorem found_of_own (hmem : (⟨.byID id, .ok (some webhook)⟩ : Event HookCmd) ∈ evs)
    (howner : webhook.accountID = accountID) {id' : String} (hid : id' = id ∨ id' = webhook.id) :
    (Request.member accountID a).Found evs id' := by
  intro accountID' a' hr
  cases hr
  exact ⟨webhook, ⟨id, hmem, hid⟩, howner⟩

theorem member_heeds (accountID : String) (a : Action) :
    (Request.member accountID a).Heeded ((Request.member accountID a).handle svc) [] := by
  cases a with
  | create body => exact create_heeds acts_member body
  | list pg => exact list_heeds acts_member pg
  | get id =>
    refine withOwn_heeds fun webhook evs hmem howner => ?_
    intro accountID' a' hr
    cases hr
    exact ⟨id, ⟨id, hmem, .inl rfl⟩, howner⟩
  | update id body =>
    refine withOwn_heeds fun webhook evs hmem howner => ?_
    cases body with
    | none => trivial
    | some req => exact update_heeds (found_of_own hmem howner (.inr rfl)) rfl
  | delete id =>
    exact withOwn_heeds fun webhook evs hmem howner => delete_heeds (found_of_own hmem howner (.inl rfl))
  | rotateSecret id =>
    exact withOwn_heeds fun webhook evs hmem howner =>
      rotateSecret_heeds (found_of_own hmem howner (.inl rfl))
  | deliveries id =>
    exact withOwn_heeds fun webhook evs hmem howner =>
      deliveries_heeds (found_of_own hmem howner (.inl rfl))
  | test id =>
    refine withOwn_heeds fun webhook evs hmem howner => test_heeds fun accountID' a' hr => ?_
    cases hr
    exact ⟨id, ⟨id, hmem, .inl rfl⟩, howner⟩

/-- The staff go on with any webhook that is found. -/
theorem find_heeds {p : Webhook → HookProg HookAnswer} (hp : ∀ webhook evs, r.Heeded (p webhook) evs) :
    r.Heeded (WebhookHandler.find id p) evs := by
  refine ⟨trivial, fun reply => ?_⟩
  rcases reply with e | (_ | webhook)
  · trivial
  · trivial
  · exact hp webhook _

theorem staff_heeds (adminID : String) (a : Action) :
    (Request.staff adminID a).Heeded ((Request.staff adminID a).handle svc) [] := by
  have hstaff : ∀ accountID a', Request.staff adminID a ≠ .member accountID a' :=
    fun accountID a' h => by cases h
  cases a with
  | create body => exact create_heeds acts_staff body
  | list pg => exact list_heeds acts_staff pg
  | get id =>
    refine ⟨trivial, fun reply => ?_⟩
    rcases reply with e | (_ | webhook)
    · trivial
    · trivial
    · exact fun accountID a' hr => absurd hr (hstaff accountID a')
  | update id body =>
    cases body with
    | none => trivial
    | some req => exact find_heeds fun webhook evs => update_heeds (found_of_staff hstaff) rfl
  | delete id => exact delete_heeds (found_of_staff hstaff)
  | rotateSecret id => exact rotateSecret_heeds (found_of_staff hstaff)
  | deliveries id => exact deliveries_heeds (found_of_staff hstaff)
  | test id =>
    exact find_heeds fun webhook evs => test_heeds fun accountID a' hr => absurd hr (hstaff accountID a')

/-- **What a request has found out before it acts on a webhook**, whatever the replies are. -/
theorem handle_heeds (r : Request) : r.Heeded (r.handle svc) [] := by
  cases r with
  | member accountID a => exact member_heeds accountID a
  | staff adminID a => exact staff_heeds adminID a
  | bulkDelete ids =>
    rcases ids with _ | (_ | ⟨id, ids⟩)
    · trivial
    · trivial
    · refine ⟨rfl, fun reply => ?_⟩
      cases reply <;> trivial

end Heeds

end AeroxeBee.Tenants.Hooks
