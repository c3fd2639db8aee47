import AeroxeBee.Accounts.Tokens
import AeroxeBee.Status.Honest

/-!
# The handlers of the administrators

The routes behind the middleware of the administrators that write to a table: templates, plans,
accounts, circuit breakers, dead letters, users, requests to pay or to change a plan, and releases
of the app. The entries of the activity log are left out; nothing depends on them.
-/

namespace AeroxeBee.Admin

open Foundations Dispatch Accounts

/-- A statement, and the response that depends on how it went. -/
def execute {β : Type} (q : Query β) (failed : HttpError) (data : β → List (String × String)) :
    ServerProg Answer := do
  match ← Prog.call (.db q) with
  | .error _ => return .error failed
  | .ok b => return .ok (data b)

/-! ## Templates -/

/-- The body of a request about a template. -/
structure TemplateBody where
  name : String
  body : String
  variableNames : List String

/-- What the response to a request about a template shows. -/
def templateFields (tpl : Template) : List (String × String) :=
  [("id", tpl.id), ("account_id", tpl.accountID), ("name", tpl.name), ("body", tpl.body)]

namespace TemplateHandler

/-- How many templates the account may have. -/
def getMaxTemplates (accountID : String) : ServerProg (Except String ℤ) := do
  match ← Prog.call (.db (.subscription accountID)) with
  | .error e => return .error e
  | .ok none => return .ok 10
  | .ok (some sub) => return .ok sub.maxTemplates

/-- Store a template; the database draws its id. -/
def store (accountID : String) (req : TemplateBody) : ServerProg Answer := do
  let id ← Prog.call .uuid
  let now ← Prog.call .now
  let tpl : Template := ⟨id.text, accountID, req.name, req.body, req.variableNames, .pending, none, now⟩
  execute (.registry (.createTemplate tpl)) ⟨500, "failed to create template"⟩ fun _ =>
    templateFields { tpl with id := "" }

/-- `POST /api/v1/templates`. -/
def create (who : Principal) : Option TemplateBody → ServerProg Answer
  | none => return .error ⟨400, "invalid request"⟩
  | some req => do
    match ← getMaxTemplates who.accountID with
    | .error _ => return .error ⟨500, "failed to check template limit"⟩
    | .ok maxTemplates =>
      match ← Prog.call (.db (.registry (.countTemplates who.accountID))) with
      | .error _ => return .error ⟨500, "failed to count templates"⟩
      | .ok count =>
        if maxTemplates ≤ count then
          return .error ⟨429, "template limit reached: max " ++ toString maxTemplates ++
            " templates allowed on your plan"⟩
        else store who.accountID req

/-- Look up a template of the caller, and go on with it. -/
def withOwn (who : Principal) (id : String) (next : ServerProg Answer) : ServerProg Answer := do
  match ← Prog.call (.db (.registry (.templateByID id))) with
  | .error _ | .ok none => return .error ⟨404, "template not found"⟩
  | .ok (some existing) =>
    if existing.accountID ≠ who.accountID then return .error ⟨403, "access denied"⟩ else next

/-- `PUT /api/v1/templates/{id}`. -/
def update (who : Principal) (id : String) : Option TemplateBody → ServerProg Answer
  | none => return .error ⟨400, "invalid request"⟩
  | some req =>
    let tpl : Template :=
      ⟨id, who.accountID, req.name, req.body, req.variableNames, .pending, none, 0⟩
    withOwn who id (execute (.registry (.updateTemplate tpl)) ⟨500, "failed to update template"⟩
      fun _ => templateFields tpl)

/-- `DELETE /api/v1/templates/{id}`. -/
def delete (who : Principal) (id : String) : ServerProg Answer :=
  withOwn who id (execute (.deleteTemplates [id]) ⟨500, "failed to delete template"⟩ fun _ => [])

end TemplateHandler

namespace AdminHandler

/-- `POST /api/v1/admin/templates/{id}/approve`. -/
def approveTemplate (id : String) : ServerProg Answer := do
  let now ← Prog.call .now
  execute (.registry (.approveTemplate id now)) ⟨500, "failed to approve"⟩ fun _ => []

/-- `POST /api/v1/admin/templates/{id}/reject`. -/
def rejectTemplate (id : String) : ServerProg Answer :=
  execute (.registry (.rejectTemplate id)) ⟨500, "failed to reject"⟩ fun _ => []

end AdminHandler

namespace AdminTemplateBulkHandler

/-- A statement about the templates of a list. -/
def bulk (q : List String → ServerProg Answer) : Option (List String) → ServerProg Answer
  | none | some [] => return .error ⟨400, "ids array is required"⟩
  | some (id :: ids) => q (id :: ids)

/-- `POST /api/v1/admin/templates/bulk-delete`. -/
def bulkDelete : Option (List String) → ServerProg Answer :=
  bulk fun ids => execute (.deleteTemplates ids) ⟨500, "bulk delete failed"⟩ fun n =>
    [("deleted", toString n)]

/-- `POST /api/v1/admin/templates/bulk-approve`. -/
def bulkApprove : Option (List String) → ServerProg Answer :=
  bulk fun ids => do
    let now ← Prog.call .now
    execute (.registry (.bulkApproveTemplates ids now)) ⟨500, "bulk approve failed"⟩ fun n =>
      [("approved", toString n)]

/-- `POST /api/v1/admin/templates/bulk-reject`. -/
def bulkReject : Option (List String) → ServerProg Answer :=
  bulk fun ids => execute (.registry (.bulkRejectTemplates ids)) ⟨500, "bulk reject failed"⟩ fun n =>
    [("rejected", toString n)]

end AdminTemplateBulkHandler

/-! ## Plans -/

/-- What the response to a request about a plan shows. -/
def planFields (body : PlanBody) : List (String × String) :=
  [("id", body.plan.id), ("name", body.plan.name), ("visibility", body.plan.visibility),
    ("daily_quota", toString body.plan.dailyQuota), ("monthly_quota", toString body.plan.monthlyQuota),
    ("overage_buffer_pct", toString body.plan.overageBufferPct),
    ("max_queue_depth", toString body.plan.maxQueueDepth),
    ("max_devices", toString body.plan.maxDevices), ("max_templates", toString body.plan.maxTemplates),
    ("dedicated_pool", toString body.plan.dedicatedPool),
    ("default_routing_strategy", body.plan.defaultRoutingStrategy.name),
    ("price_per_sms", toString body.plan.pricePerSMS),
    ("monthly_price", toString body.plan.monthlyPrice),
    ("is_popular", toString body.plan.isPopular), ("cta_text", body.plan.ctaText),
    ("features", toString (body.features.getD []))]

namespace BillingService

/-- The plan that is stored for a body, with its defaults. -/
def withDefaults (body : PlanBody) : Plan :=
  { body.plan with
    visibility := if body.plan.visibility = "" then "public" else body.plan.visibility
    ctaText := if body.plan.ctaText = "" then "Get Started" else body.plan.ctaText
    features := body.features.getD [] }

/-- Insert a plan. -/
def createPlan (body : PlanBody) : ServerProg (Except String Unit) :=
  Prog.call (.db (.registry (.createPlan (withDefaults body))))

/-- Overwrite a plan. -/
def updatePlan (body : PlanBody) : ServerProg (Except String Unit) :=
  Prog.call (.db (.registry (.updatePlan body)))

/-- Delete a plan. -/
def deletePlan (id : String) : ServerProg (Except String Unit) :=
  Prog.call (.db (.registry (.deletePlan id)))

end BillingService

namespace BillingHandler

/-- What is wrong with a plan. -/
def planError (plan : Plan) : Option String :=
  if plan.visibility ∉ ["", "public", "private", "custom"] then
    some "visibility must be public, private, or custom"
  else if plan.dailyQuota < 0 ∨ plan.monthlyQuota < 0 then
    some "daily_quota and monthly_quota must be non-negative"
  else if plan.monthlyPrice < 0 ∨ plan.pricePerSMS < 0 then
    some "monthly_price and price_per_sms must be non-negative"
  else if 100 < plan.ctaText.utf8ByteSize then some "cta_text must be 100 characters or less"
  else if plan.defaultRoutingStrategy.name ≠ "" ∧ plan.defaultRoutingStrategy ∉
      [.fastest, .lowestCost, .highestReliability, .geoAffinity, .profitOptimized] then
    some ("default_routing_strategy must be fastest_delivery, lowest_cost, highest_reliability, " ++
      "geo_affinity, or profit_optimized")
  else none

/-- The plan with its limits in range. -/
def clamp (plan : Plan) : Plan :=
  { plan with
    maxDevices := if plan.maxDevices < 1 then 1 else plan.maxDevices
    maxTemplates := if plan.maxTemplates < 1 then 10 else plan.maxTemplates
    maxQueueDepth := if plan.maxQueueDepth < 1 then 100 else plan.maxQueueDepth
    overageBufferPct :=
      if plan.overageBufferPct < 0 ∨ 100 < plan.overageBufferPct then 0 else plan.overageBufferPct }

/-- Only administrators change plans; others submit a request for it. -/
def guarded (who : Principal) (next : ServerProg Answer) : ServerProg Answer :=
  if who.isAdmin then next
  else return .error ⟨403, "only admins can directly modify plans. Use POST /api/v1/plan-requests to " ++
    "submit a change request."⟩

/-- Check a plan and store it. -/
def storePlan (body : PlanBody) (save : PlanBody → ServerProg (Except String Unit))
    (failed : String) : ServerProg Answer :=
  match planError body.plan with
  | some text => return .error ⟨400, text⟩
  | none => do
    let body := { body with plan := clamp body.plan }
    match ← save body with
    | .error _ => return .error ⟨500, failed⟩
    | .ok _ => return .ok (planFields body)

/-- `POST /api/v1/plans`. -/
def createPlan (who : Principal) (body : Option PlanBody) : ServerProg Answer :=
  guarded who (match body with
    | none => return .error ⟨400, "invalid request body"⟩
    | some body =>
      if body.plan.id = "" ∨ body.plan.name = "" then
        return .error ⟨400, "id and name are required"⟩
      else storePlan body BillingService.createPlan "failed to create plan")

/-- `PUT /api/v1/plans/{id}`. -/
def updatePlan (who : Principal) (id : String) (body : Option PlanBody) : ServerProg Answer :=
  guarded who (match body with
    | none => return .error ⟨400, "invalid request body"⟩
    | some body =>
      storePlan { body with plan := { body.plan with id := id } } BillingService.updatePlan
        "failed to update plan")

/-- `DELETE /api/v1/plans/{id}`. -/
def deletePlan (who : Principal) (id : String) : ServerProg Answer :=
  guarded who (execute (.registry (.deletePlan id)) ⟨500, "failed to delete plan"⟩ fun _ => [])

end BillingHandler

namespace PlanChangeRequestHandler

/-- What a request about a plan asks for. -/
def apply (req : PlanChangeRequest) : ServerProg (Except HttpError Unit) :=
  let store (save : PlanBody → ServerProg (Except String Unit)) (failed : String) :
      ServerProg (Except HttpError Unit) :=
    match req.payload with
    | none => return .error ⟨400, "invalid plan payload"⟩
    | some body => do
      match ← save body with
      | .error e => return .error ⟨500, failed ++ e⟩
      | .ok _ => return .ok ()
  match req.action with
  | .create => store BillingService.createPlan "failed to create plan: "
  | .update => store BillingService.updatePlan "failed to update plan: "
  | .delete =>
    if req.planID = "" then return .ok ()
    else do
      match ← BillingService.deletePlan req.planID with
      | .error e => return .error ⟨500, "failed to delete plan: " ++ e⟩
      | .ok _ => return .ok ()

/-- Mark a request that waits as reviewed. -/
def review (who : Principal) (id status notes failed : String) : ServerProg Answer := do
  match ← Prog.call (.db (.registry (.reviewPlanChangeRequest id status who.accountID "" notes))) with
  | .error _ | .ok 0 => return .error ⟨500, failed⟩
  | .ok (_ + 1) => return .ok [("status", status)]

/-- `POST /api/v1/admin/plan-requests/{id}/approve`. -/
def approve (who : Principal) (id notes : String) : ServerProg Answer := do
  match ← Prog.call (.db (.registry (.planChangeRequestByID id))) with
  | .error _ | .ok none => return .error ⟨404, "request not found"⟩
  | .ok (some req) =>
    match ← apply req with
    | .error e => return .error e
    | .ok _ => review who id "approved" notes "failed to approve"

/-- `POST /api/v1/admin/plan-requests/{id}/reject`. -/
def reject (who : Principal) (id notes : String) : ServerProg Answer :=
  review who id "rejected" notes "failed to reject"

end PlanChangeRequestHandler

/-! ## Payments and subscriptions -/

namespace PaymentRequestHandler

/-- `POST /api/v1/admin/payment-requests/{id}/approve`. -/
def approve (who : Principal) (id notes : String) : ServerProg Answer :=
  execute (.registry (.reviewPaymentRequest id "approved" who.accountID notes))
    ⟨500, "failed to approve"⟩ fun _ => []

/-- `POST /api/v1/admin/payment-requests/{id}/reject`. -/
def reject (who : Principal) (id notes : String) : ServerProg Answer :=
  execute (.registry (.reviewPaymentRequest id "rejected" who.accountID notes))
    ⟨500, "failed to reject"⟩ fun _ => []

end PaymentRequestHandler

namespace SubscriptionRequestHandler

/-- `POST /api/v1/admin/subscription-requests/{id}/reject`. -/
def reject (who : Principal) (id notes : String) : ServerProg Answer :=
  execute (.registry (.reviewSubscriptionRequest id "rejected" who.accountID notes))
    ⟨500, "failed to reject"⟩ fun _ => []

end SubscriptionRequestHandler

/-! ## Accounts, breakers and dead letters -/

namespace AdminHandler

/-- `DELETE /api/v1/admin/accounts/{id}`. -/
def deleteAccount (id : String) : ServerProg Answer :=
  execute (.deleteAccount id) ⟨500, "failed to delete account"⟩ fun _ => []

/-- The scope that a text names. -/
def breakerScope (scope : String) : Option CircuitBreakerScope :=
  [CircuitBreakerScope.device, .account, .carrier].find? fun s => s.name = scope

/-- `POST /api/v1/admin/circuit-breakers/{scope}/{id}/reset`. -/
def resetCircuitBreaker (scope scopeValue : String) : ServerProg Answer :=
  match breakerScope scope with
  | none => return .error ⟨400, "invalid scope"⟩
  | some cbScope => do
    match ← Prog.call (.reset cbScope scopeValue) with
    | .error _ => return .error ⟨500, "failed to reset"⟩
    | .ok _ => return .ok []

/-- `POST /api/v1/admin/dead-letters/{id}/retry`. -/
def retryDeadLetter (id : String) : ServerProg Answer := do
  match ← Status.retryDeadLetter id with
  | .error e => return .error ⟨500, "failed to retry: " ++ e⟩
  | .ok _ => return .ok [("dead_letter_id", id), ("status", "requeued")]

end AdminHandler

/-! ## Users -/

/-- The letters of the English alphabet. -/
def isAsciiLetter (c : Char) : Bool := ('a' ≤ c && c ≤ 'z') || ('A' ≤ c && c ≤ 'Z')

/-- The digits and letters that a name in an email consists of, and some more. -/
def isNameChar (more : List Char) (c : Char) : Bool :=
  isAsciiLetter c || ('0' ≤ c && c ≤ '9') || c ∈ more

/-- Whether a text has the form of an email: a name, a domain, and a top-level domain of letters. -/
def isValidEmail (email : String) : Bool :=
  let cs := email.toList
  let name := cs.takeWhile (· ≠ '@')
  let host := (cs.dropWhile (· ≠ '@')).drop 1
  let top := (host.reverse.takeWhile (· ≠ '.')).reverse
  let domain := (host.take (host.length - top.length)).dropLast
  email.utf8ByteSize ≤ 254 && '@' ∈ cs && name ≠ [] &&
    name.all (isNameChar ['.', '_', '%', '+', '-']) && '.' ∈ host && domain ≠ [] &&
    domain.all (isNameChar ['.', '-']) && 2 ≤ top.length && top.all isAsciiLetter

/-- The roles of the admin panel. -/
def validateRole (role : String) : Bool := role ∈ ["admin", "staff", "viewer"]

/-- The body of a request for a new user. -/
structure UserBody where
  name : String
  email : String
  password : String
  role : String

/-- The body of a request to change a user; an empty field changes nothing. -/
structure UserChange where
  name : String
  role : String
  status : String
  avatar : String

/-- The body of a request to change users; a field that is missing changes nothing. -/
structure UsersChange where
  ids : List String
  role : Option String
  status : Option String

namespace UserHandler

/-- What is wrong with the body of a request for a new user. -/
def bodyError (pw : Passwords) (req : UserBody) : Option String :=
  if req.name = "" ∨ req.email = "" ∨ req.password = "" then
    some "name, email, and password are required"
  else if !isValidEmail req.email then some "invalid email format"
  else pw.strength req.password

/-- Store a user; the database draws its id. -/
def store (req : UserBody) (hash role : String) : ServerProg Answer := do
  let id ← Prog.call .uuid
  execute (.registry (.createUser ⟨id.text, req.name, req.email, hash, role, "active", ""⟩))
    ⟨500, "failed to create user"⟩ fun _ =>
      [("id", ""), ("name", req.name), ("email", req.email), ("role", role)]

/-- `POST /api/v1/admin/users`. -/
def create (pw : Passwords) : Option UserBody → ServerProg Answer
  | none => return .error ⟨400, "invalid request body"⟩
  | some req =>
    match bodyError pw req with
    | some text => return .error ⟨400, text⟩
    | none => do
      match ← Prog.call (.db (.registry (.userByEmail req.email))) with
      | .error _ => return .error ⟨500, "database error"⟩
      | .ok (some _) => return .error ⟨409, "email already exists"⟩
      | .ok none =>
        let salt ← Prog.call .nonce
        match salt.bind fun salt => pw.generate salt req.password with
        | .error _ => return .error ⟨500, "failed to hash password"⟩
        | .ok hash =>
          let role := if req.role = "" then "staff" else req.role
          if !validateRole role then
            return .error ⟨400, "role must be one of: admin, staff, viewer"⟩
          else store req hash role

/-- Look a user up, and go on with the row. -/
def withUser (id : String) (next : User → ServerProg Answer) : ServerProg Answer := do
  match ← Prog.call (.db (.registry (.userByID id))) with
  | .error _ => return .error ⟨500, "database error"⟩
  | .ok none => return .error ⟨404, "user not found"⟩
  | .ok (some user) => next user

/-- The user with the fields of the body, or what is wrong with them. -/
def amended (user : User) (req : UserChange) : Except HttpError User :=
  if req.role ≠ "" ∧ !validateRole req.role then
    .error ⟨400, "role must be one of: admin, staff, viewer"⟩
  else if req.status ≠ "" ∧ req.status ∉ ["active", "inactive", "suspended"] then
    .error ⟨400, "status must be one of: active, inactive, suspended"⟩
  else
    .ok { user with
      name := if req.name ≠ "" then req.name else user.name
      role := if req.role ≠ "" then req.role else user.role
      status := if req.status ≠ "" then req.status else user.status
      avatar := if req.avatar ≠ "" then req.avatar else user.avatar }

/-- What the response to a change of a user shows. -/
def userFields (user : User) : List (String × String) :=
  [("id", user.id), ("name", user.name), ("email", user.email), ("role", user.role),
    ("status", user.status), ("avatar", user.avatar)]

/-- `PUT /api/v1/admin/users/{id}`. -/
def update (id : String) (body : Option UserChange) : ServerProg Answer :=
  withUser id fun user =>
    match body with
    | none => return .error ⟨400, "invalid request body"⟩
    | some req =>
      match amended user req with
      | .error e => return .error e
      | .ok user =>
        execute (.registry (.updateUser user)) ⟨500, "failed to update user"⟩ fun _ => userFields user

/-- `DELETE /api/v1/admin/users/{id}`. -/
def delete (id : String) : ServerProg Answer :=
  withUser id fun _ =>
    execute (.registry (.deleteUsers [id])) ⟨500, "failed to delete user"⟩ fun _ => []

/-- `POST /api/v1/admin/users/bulk-delete`. -/
def bulkDelete : Option (List String) → ServerProg Answer
  | none => return .error ⟨400, "invalid request body"⟩
  | some [] => return .ok []
  | some (id :: ids) =>
    execute (.registry (.deleteUsers (id :: ids))) ⟨500, "bulk delete failed"⟩ fun _ => []

/-- `POST /api/v1/admin/users/bulk-update`. -/
def bulkUpdate : Option UsersChange → ServerProg Answer
  | none => return .error ⟨400, "invalid request body"⟩
  | some req =>
    if req.ids = [] ∨ (req.role = none ∧ req.status = none) then return .ok []
    else
      execute (.registry (.bulkUpdateUsers req.ids req.role req.status))
        ⟨500, "bulk update failed"⟩ fun _ => []

end UserHandler

/-! ## Releases -/

namespace AppReleaseHandler

/-- Only administrators decide about a release. -/
def guarded (who : Principal) (text : String) (next : ServerProg Answer) : ServerProg Answer :=
  if who.isAdmin then next else return .error ⟨403, text⟩

/-- `POST /api/v1/admin/releases/{id}/approve`. -/
def approve (who : Principal) (id : String) : ServerProg Answer :=
  guarded who "only admin can approve releases"
    (execute (.registry (.approveRelease id who.accountID who.accountID))
      ⟨500, "failed to approve release"⟩ fun _ => [])

/-- `POST /api/v1/admin/releases/{id}/reject`. -/
def reject (who : Principal) (id reason : String) : ServerProg Answer :=
  guarded who "only admin can reject releases"
    (execute (.registry (.rejectRelease id who.accountID reason))
      ⟨500, "failed to reject release"⟩ fun _ => [])

/-- `POST /api/v1/admin/releases/{id}/release`. -/
def release (who : Principal) (id : String) : ServerProg Answer :=
  guarded who "only admin can publish releases" (do
    let _ ← Prog.call (.db (.registry .withdrawReleased))
    let now ← Prog.call .now
    execute (.registry (.release id now)) ⟨500, "failed to publish release"⟩ fun _ => [])

/-- `DELETE /api/v1/admin/releases/{id}`. -/
def delete (id : String) : ServerProg Answer :=
  execute (.registry (.deleteRelease id)) ⟨500, "failed to delete release"⟩ fun _ => []

end AppReleaseHandler

end AeroxeBee.Admin
