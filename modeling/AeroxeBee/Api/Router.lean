import AeroxeBee.Api.Checks
import AeroxeBee.Foundations.Patterns

/-!
# Routes

The routes of the server: which handler a request comes to, and which middlewares stand in front of
it. The path of a request is given by its segments, after it has been cleaned.

* `routes_disjoint`: no request has two routes;
* `letIn_spec`: a request comes to a handler only through the middlewares of its route;
* `admitted_vouched`: who is let in without being asked for a token or a key;
* `admitted_member`, `admitted_administration`: what is asked of those who use the portals;
* `not_subscribed`: nobody is ever told about the events of the devices.
-/

namespace AeroxeBee.Router

open Foundations Middleware Patterns Api Accounts Tenants

/-! ## Requests -/

/-- What the routes look at in a request. -/
structure Request where
  method : String
  path : List String
  authorization : String
  sessionCookie : Option String
  xAPIKey : String
  xAPIVersion : String
  xForwardedFor : String
  xRealIP : String
  remoteAddr : String
  /-- The address that was found in front of the routes. -/
  clientIP : String
  /-- The parameter `token` of the query. -/
  queryToken : String

namespace Request

variable (r : Request)

/-- The headers that can carry an API key. -/
def keyHeaders : KeyHeaders := ⟨r.xAPIKey, r.authorization⟩

/-- The headers that can carry a token. -/
def authHeaders : AuthHeaders := ⟨r.authorization, r.sessionCookie⟩

/-- The address under which attempts to log in are counted. -/
def bruteForceIP : String := if r.clientIP = "" then r.remoteAddr else r.clientIP

end Request

/-- The address in front of the port. -/
def stripPort (addr : String) : String :=
  if ':' ∈ addr.toList then
    String.ofList ((addr.toList.reverse.dropWhile (· ≠ ':')).drop 1).reverse
  else addr

/-- The address of the client, as the proxies in front of the server give it. -/
def extractClientIP (r : Request) : String :=
  if r.xForwardedFor ≠ "" then String.ofList (r.xForwardedFor.toList.takeWhile (· ≠ ','))
  else if r.xRealIP ≠ "" then r.xRealIP
  else stripPort r.remoteAddr

/-- The number that a text is. -/
def atoi (s : String) : Option ℤ :=
  let sign : ℤ := if s.toList.head? = some '-' then -1 else 1
  let digits := if s.toList.head? = some '-' ∨ s.toList.head? = some '+' then s.toList.tail else s.toList
  if digits ≠ [] ∧ digits.all Char.isDigit then
    let n := sign * digits.foldl (fun n c => n * 10 + (c.toNat - '0'.toNat : ℕ)) 0
    if -2 ^ 63 ≤ n ∧ n < 2 ^ 63 then some n else none
  else none

/-- The context of a request. -/
structure Ctx extends Context where
  isAdmin : Bool
  apiKey : Option APIKey
  version : ℤ

/-- Nothing is known of a request. -/
def Ctx.unknown : Ctx := ⟨⟨"", none⟩, false, none, 1⟩

/-- Why a request does not come to a handler. -/
inductive Refusal where
  | notFound
  | methodNotAllowed
  /-- A lockout is in force; the answer says for how long. -/
  | locked
  | answered (r : Response)
deriving DecidableEq

/-- The version of the interface that a request is made for. There is only one. -/
def apiVersion (xAPIVersion : String) : Except Refusal ℤ :=
  if xAPIVersion = "" then .ok 1
  else
    match atoi xAPIVersion with
    | none => .error (.answered (.error 400
        "invalid X-API-Version header: must be a positive integer"))
    | some parsed =>
      if parsed < 1 then .error (.answered (.error 400
        "invalid X-API-Version header: must be a positive integer"))
      else if 1 < parsed then .error (.answered (.error 400
        ("unsupported API version " ++ xAPIVersion ++ ": supported range is 1 to 1")))
      else .ok parsed

/-! ## Guards -/

/-- What can stand in front of a handler. -/
inductive Guard where
  | protect (identifier : String)
  | apiVersionHeader
  | apiKeyLimit
  | jwtLimit
  | ipLimit
  | apiKeyAuth
  | jwtAuth
  | adminAuth
  | requireActiveAccount
  | requireActiveSubscription
  | enforceQuota
deriving DecidableEq

/-- What the middlewares are given when the server starts. -/
structure RouterServices where
  devices : DeviceServices
  tokens : TokenReader
  apiKeyMaxPerMinute : ℤ

namespace RouterServices

/-- The protection of the routes that log in: five attempts in a quarter of an hour, and half an hour
of lockout. -/
def bfProtector : BruteForceProtector := ⟨5, 900000000000, 1800000000000⟩

/-- The counter of an account in a minute. -/
def jwtKey (accountID : String) (minute : ℤ) : String :=
  "rl:jwt:" ++ accountID ++ ":" ++ String.ofList (Json.intLit minute)

/-- The counter of an address in a minute. -/
def ipKey (ip : String) (minute : ℤ) : String :=
  "rl:ip:" ++ ip ++ ":" ++ String.ofList (Json.intLit minute)

end RouterServices

open RouterServices

/-- Count a request under the name of its sender; a sender without a name is not counted. -/
def limitBy (maxPerMin : ℤ) (name : String) (key : String → ℤ → String) (ctx : Ctx) :
    ServerProg (Except Refusal Ctx) :=
  if name = "" then return .ok ctx
  else do
    match ← countRequest maxPerMin (key name) with
    | .error _ => return .error (.answered (.error 429 "rate limit exceeded, try again later"))
    | .ok _ => return .ok ctx

/-- A check of the part of the context that the plans are about. -/
def onPlan (check : PlanCheck) (ctx : Ctx) : ServerProg (Except Refusal Ctx) := do
  match ← check ctx.toContext with
  | .error r => return .error (.answered r)
  | .ok plan => return .ok { ctx with toContext := plan }

/-- Let the principal of a token in. -/
def onToken (check : ServerProg (Except HttpError Principal)) (ctx : Ctx) :
    ServerProg (Except Refusal Ctx) := do
  match ← check with
  | .error e => return .error (.answered (.error e.status e.text))
  | .ok p => return .ok { ctx with accountID := p.accountID, isAdmin := p.isAdmin }

/-- What a guard makes of a request. -/
def Guard.run (svc : RouterServices) (r : Request) : Guard → Ctx → ServerProg (Except Refusal Ctx)
  | protect identifier, ctx => do
    match ← Api.protect bfProtector ⟨identifier, r.bruteForceIP⟩ with
    | .locked => return .error .locked
    | .lockedOut _ answer => return .error (.answered answer)
    | .reached _ => return .ok ctx
  | apiVersionHeader, ctx =>
    match apiVersion r.xAPIVersion with
    | .error e => return .error e
    | .ok version => return .ok { ctx with version := version }
  | apiKeyLimit, ctx => limitBy svc.apiKeyMaxPerMinute (extractAPIKey r.keyHeaders) windowKey ctx
  | jwtLimit, ctx => limitBy 120 ctx.accountID jwtKey ctx
  | ipLimit, ctx => limitBy 30 (extractClientIP r) ipKey ctx
  | apiKeyAuth, ctx => do
    match ← Api.apiKeyAuth svc.devices r.keyHeaders with
    | .error answer => return .error (.answered answer)
    | .ok key => return .ok { ctx with accountID := key.accountID, apiKey := some key }
  | jwtAuth, ctx => onToken (checkJWT svc.tokens r.authorization) ctx
  | adminAuth, ctx => onToken (checkAdmin svc.tokens r.authHeaders) ctx
  | requireActiveAccount, ctx => onPlan checkActiveAccount ctx
  | requireActiveSubscription, ctx => onPlan checkActiveSubscription ctx
  | enforceQuota, ctx => onPlan checkWithinQuota ctx

/-- The checks of the member portal. -/
def memberChain : List Guard := [.jwtAuth, .requireActiveAccount, .requireActiveSubscription, .jwtLimit]

/-! ## The routes -/

/-- The handlers, by the handler object and its method. -/
inductive Handled where
  | healthCheck | mqttHealthCheck | docs | docsUI | docsFile | publicBillingListPublicPlans
  | publicBillingListPublicPaymentMethods | contactSalesSubmit | authRegister | authLogin
  | authLogin2FA | authRefreshToken | authGetProfile | authUpdateProfile | authChangePassword
  | twoFASetup | twoFAVerify | twoFAStatus | twoFADisable | messageSend | messageListMessages
  | messageGetMessage | messageGetConfidence | messageBulkSend | messageScheduleSend | otpSend
  | otpVerify | deviceDeviceLogin | deviceRegister | qrPairingQRLogin | deviceHandleStatusUpdate
  | deviceDeregister | deviceRegisterDeprecated | deviceList | deviceGet | deviceHandleDeviceInfo
  | accountGetProfile | accountUpdateProfile | accountListAPIKeys | accountCreateAPIKey
  | accountRevokeAPIKey | accountUpdateRoutingStrategy | accountGetSubscription | accountGetUsage
  | templateCreate | templateList | templateGet | templateUpdate | templateDelete
  | adminListAllWebhooks | webhookCreate | webhookGet | webhookUpdate | webhookDelete
  | webhookRotateSecret | webhookListDeliveries | webhookTestWebhook | billingListPlans
  | billingGetPlan | billingCreatePlan | billingUpdatePlan | billingDeletePlan
  | planChangeRequestSubmit | planChangeRequestListAll | planChangeRequestApprove
  | planChangeRequestReject | billingGetInvoice | billingGetUsage | fraudCheck | memberGetDashboard
  | memberGetDevices | memberUpdateDevice | memberDeleteDevice | memberGetMessages | messageMemberSend
  | memberGetAnalytics | memberGetStats | memberGetPlan | qrPairingGenerateQRCode | memberListTemplates
  | memberCreateTemplate | memberGetTemplate | memberUpdateTemplate | memberDeleteTemplate
  | memberListWebhooks | memberCreateWebhook | memberGetWebhook | memberUpdateWebhook
  | memberDeleteWebhook | memberRotateWebhookSecret | memberGetWebhookDeliveries | memberTestWebhook
  | adminGetStats | adminListAccounts | adminGetAccount | adminDeleteAccount | adminSuspendAccount
  | adminActivateAccount | adminGetAnalytics | adminGetDailyCharts | userGetActivityLog
  | adminGetCircuitBreakers | adminResetCircuitBreaker | adminGetDeadLetters | adminRetryDeadLetter
  | adminGetPendingTemplates | adminListAllTemplates | adminApproveTemplate | adminRejectTemplate
  | fraudListFlags | fraudReviewFlag | fraudListAbuseFlags | fraudListSmishingFlags
  | fraudSmishingFlagsCount | fraudBulkReviewSmishingFlags | userList | userGet | userCreate
  | userUpdate | userDelete | userBulkDelete | userBulkUpdate | paymentConfigList
  | paymentConfigListEnabled | paymentConfigUpdate | paymentConfigUpsert | paymentRequestList
  | paymentRequestGetByID | paymentRequestApprove | paymentRequestReject | paymentRequestCreate
  | paymentRequestListByAccount | subscriptionRequestList | subscriptionRequestApprove
  | subscriptionRequestReject | subscriptionRequestCreate | subscriptionRequestListByAccount
  | memberGetPreferences | memberUpdatePreferences | memberSubmitKYC | memberGetKYC
  | sessionListSessions | sessionRevokeAllSessions | sessionRevokeSession | kycAdminList
  | kycAdminApprove | kycAdminReject | contactSalesListSubmissions | contactSalesUpdateStatus
  | webhookBulkBulkDelete | templateBulkBulkDelete | templateBulkBulkApprove | templateBulkBulkReject
  | biGetBIDashboard | fcmRegisterFCMToken | featureCatalogList | featureCatalogCreate
  | featureCatalogUpdateStatus | featureCatalogDelete | featureCatalogReorder | releaseList
  | releaseCreate | releaseGet | releaseSubmit | releaseApprove | releaseReject | releaseRelease
  | releaseDelete | releaseUploadAPK | releaseVersionCheck | aiListConfigs | aiGetConfig
  | aiCreateConfig | aiUpdateConfig | aiDeleteConfig | aiListChangeRequests | aiApproveChangeRequest
  | aiRejectChangeRequest | aiGenerateTemplate | firebaseConfigList | firebaseConfigBulkUpdate
  | firebaseConfigUpsert | firebaseConfigDelete | firebaseConfigPublicConfig | uploadedAPKs | subscribe
deriving DecidableEq

/-- Where a route leads. -/
inductive Target where
  | handler (e : Handled)
  /-- The stream of events, which has routes of its own. -/
  | stream
deriving DecidableEq

/-- A route: what stands in front of its handler, and the handler. -/
structure Route where
  guards : List Guard
  target : Target

/-- A pattern for paths of the interface. -/
def api (method : String) (segments : List Segment) : Pattern :=
  ⟨⟨.lit "api" :: .lit "v1" :: segments, false⟩, method⟩

open Segment in
/-- The routes, in the order in which they are registered. -/
def routes : List (Pattern × Route) :=
  [ (api "GET" [lit "health"], ⟨[], .handler .healthCheck⟩),
    (api "GET" [lit "health", lit "mqtt"], ⟨[], .handler .mqttHealthCheck⟩),
    (api "GET" [lit "docs"], ⟨[], .handler .docs⟩),
    (api "GET" [lit "docs", lit "ui"], ⟨[], .handler .docsUI⟩),
    (api "GET" [lit "docs", lit "ui", wild], ⟨[], .handler .docsFile⟩),
    (api "GET" [lit "public", lit "plans"], ⟨[], .handler .publicBillingListPublicPlans⟩),
    (api "GET" [lit "public", lit "payment-methods"],
      ⟨[], .handler .publicBillingListPublicPaymentMethods⟩),
    (api "POST" [lit "public", lit "contact-sales"], ⟨[], .handler .contactSalesSubmit⟩),
    (api "POST" [lit "auth", lit "register"], ⟨[.protect "register"], .handler .authRegister⟩),
    (api "POST" [lit "auth", lit "login"], ⟨[.protect "login"], .handler .authLogin⟩),
    (api "POST" [lit "auth", lit "login", lit "2fa"], ⟨[.protect "login-2fa"], .handler .authLogin2FA⟩),
    (api "POST" [lit "auth", lit "refresh"], ⟨[], .handler .authRefreshToken⟩),
    (api "GET" [lit "auth", lit "profile"], ⟨[.jwtAuth], .handler .authGetProfile⟩),
    (api "PUT" [lit "auth", lit "profile"], ⟨[.jwtAuth], .handler .authUpdateProfile⟩),
    (api "POST" [lit "auth", lit "change-password"], ⟨[.jwtAuth], .handler .authChangePassword⟩),
    (api "POST" [lit "auth", lit "2fa", lit "setup"], ⟨[.jwtAuth], .handler .twoFASetup⟩),
    (api "POST" [lit "auth", lit "2fa", lit "verify"], ⟨[.jwtAuth], .handler .twoFAVerify⟩),
    (api "GET" [lit "auth", lit "2fa", lit "status"], ⟨[.jwtAuth], .handler .twoFAStatus⟩),
    (api "POST" [lit "auth", lit "2fa", lit "disable"], ⟨[.jwtAuth], .handler .twoFADisable⟩),
    (api "POST" [lit "send"],
      ⟨[.apiVersionHeader, .apiKeyLimit, .apiKeyAuth, .requireActiveAccount, .enforceQuota],
        .handler .messageSend⟩),
    (api "GET" [lit "messages"], ⟨[.apiKeyAuth], .handler .messageListMessages⟩),
    (api "GET" [lit "messages", wild], ⟨[.apiKeyAuth], .handler .messageGetMessage⟩),
    (api "GET" [lit "messages", wild, lit "confidence"],
      ⟨[.apiKeyAuth], .handler .messageGetConfidence⟩),
    (api "POST" [lit "send", lit "bulk"],
      ⟨[.apiVersionHeader, .apiKeyLimit, .apiKeyAuth, .requireActiveAccount, .enforceQuota],
        .handler .messageBulkSend⟩),
    (api "POST" [lit "send", lit "schedule"],
      ⟨[.apiVersionHeader, .apiKeyLimit, .apiKeyAuth], .handler .messageScheduleSend⟩),
    (api "POST" [lit "otp", lit "send"],
      ⟨[.apiKeyAuth, .requireActiveAccount, .enforceQuota], .handler .otpSend⟩),
    (api "POST" [lit "otp", lit "verify"], ⟨[.apiKeyAuth], .handler .otpVerify⟩),
    (api "POST" [lit "devices", lit "login"], ⟨[.protect "device-login"], .handler .deviceDeviceLogin⟩),
    (api "POST" [lit "devices", lit "register"], ⟨[], .handler .deviceRegister⟩),
    (api "POST" [lit "devices", lit "qr-login"],
      ⟨[.protect "device-qr-login"], .handler .qrPairingQRLogin⟩),
    (api "POST" [lit "devices", lit "status"], ⟨[.jwtAuth], .handler .deviceHandleStatusUpdate⟩),
    (api "POST" [lit "devices", lit "deregister"], ⟨[.jwtAuth], .handler .deviceDeregister⟩),
    (api "POST" [lit "devices"], ⟨[.jwtAuth], .handler .deviceRegisterDeprecated⟩),
    (api "GET" [lit "devices"], ⟨[.jwtAuth], .handler .deviceList⟩),
    (api "GET" [lit "devices", wild], ⟨[.jwtAuth], .handler .deviceGet⟩),
    (api "POST" [lit "devices", lit "info"], ⟨[.jwtAuth], .handler .deviceHandleDeviceInfo⟩),
    (api "GET" [lit "account", lit "profile"], ⟨[.jwtAuth], .handler .accountGetProfile⟩),
    (api "PUT" [lit "account", lit "profile"], ⟨[.jwtAuth], .handler .accountUpdateProfile⟩),
    (api "GET" [lit "account", lit "api-keys"], ⟨[.jwtAuth], .handler .accountListAPIKeys⟩),
    (api "POST" [lit "account", lit "api-keys"], ⟨[.jwtAuth], .handler .accountCreateAPIKey⟩),
    (api "DELETE" [lit "account", lit "api-keys", wild], ⟨[.jwtAuth], .handler .accountRevokeAPIKey⟩),
    (api "PUT" [lit "account", lit "routing-strategy"],
      ⟨[.jwtAuth], .handler .accountUpdateRoutingStrategy⟩),
    (api "GET" [lit "account", lit "subscription"], ⟨[.jwtAuth], .handler .accountGetSubscription⟩),
    (api "GET" [lit "account", lit "usage"], ⟨[.jwtAuth], .handler .accountGetUsage⟩),
    (api "POST" [lit "templates"], ⟨[.adminAuth], .handler .templateCreate⟩),
    (api "GET" [lit "templates"], ⟨[.adminAuth], .handler .templateList⟩),
    (api "GET" [lit "templates", wild], ⟨[.adminAuth], .handler .templateGet⟩),
    (api "PUT" [lit "templates", wild], ⟨[.adminAuth], .handler .templateUpdate⟩),
    (api "DELETE" [lit "templates", wild], ⟨[.adminAuth], .handler .templateDelete⟩),
    (api "GET" [lit "admin", lit "webhooks"], ⟨[.adminAuth], .handler .adminListAllWebhooks⟩),
    (api "POST" [lit "webhooks"], ⟨[.adminAuth], .handler .webhookCreate⟩),
    (api "GET" [lit "webhooks", wild], ⟨[.adminAuth], .handler .webhookGet⟩),
    (api "PUT" [lit "webhooks", wild], ⟨[.adminAuth], .handler .webhookUpdate⟩),
    (api "DELETE" [lit "webhooks", wild], ⟨[.adminAuth], .handler .webhookDelete⟩),
    (api "POST" [lit "webhooks", wild, lit "rotate-secret"],
      ⟨[.adminAuth], .handler .webhookRotateSecret⟩),
    (api "GET" [lit "webhooks", wild, lit "deliveries"],
      ⟨[.adminAuth], .handler .webhookListDeliveries⟩),
    (api "POST" [lit "webhooks", wild, lit "test"], ⟨[.adminAuth], .handler .webhookTestWebhook⟩),
    (api "GET" [lit "plans"], ⟨[.jwtAuth], .handler .billingListPlans⟩),
    (api "GET" [lit "plans", wild], ⟨[.jwtAuth], .handler .billingGetPlan⟩),
    (api "POST" [lit "plans"], ⟨[.adminAuth], .handler .billingCreatePlan⟩),
    (api "PUT" [lit "plans", wild], ⟨[.adminAuth], .handler .billingUpdatePlan⟩),
    (api "DELETE" [lit "plans", wild], ⟨[.adminAuth], .handler .billingDeletePlan⟩),
    (api "POST" [lit "plan-requests"], ⟨[.jwtAuth], .handler .planChangeRequestSubmit⟩),
    (api "GET" [lit "admin", lit "plan-requests"], ⟨[.adminAuth], .handler .planChangeRequestListAll⟩),
    (api "POST" [lit "admin", lit "plan-requests", wild, lit "approve"],
      ⟨[.adminAuth], .handler .planChangeRequestApprove⟩),
    (api "POST" [lit "admin", lit "plan-requests", wild, lit "reject"],
      ⟨[.adminAuth], .handler .planChangeRequestReject⟩),
    (api "GET" [lit "billing", lit "invoice"], ⟨[.jwtAuth], .handler .billingGetInvoice⟩),
    (api "GET" [lit "billing", lit "usage"], ⟨[.jwtAuth], .handler .billingGetUsage⟩),
    (api "POST" [lit "fraud", lit "check"], ⟨[.apiKeyAuth], .handler .fraudCheck⟩),
    (api "GET" [lit "member", lit "dashboard"], ⟨memberChain, .handler .memberGetDashboard⟩),
    (api "GET" [lit "member", lit "devices"], ⟨memberChain, .handler .memberGetDevices⟩),
    (api "PUT" [lit "member", lit "devices", wild], ⟨memberChain, .handler .memberUpdateDevice⟩),
    (api "DELETE" [lit "member", lit "devices", wild], ⟨memberChain, .handler .memberDeleteDevice⟩),
    (api "GET" [lit "member", lit "messages"], ⟨memberChain, .handler .memberGetMessages⟩),
    (api "POST" [lit "member", lit "send"], ⟨memberChain, .handler .messageMemberSend⟩),
    (api "GET" [lit "member", lit "analytics"], ⟨memberChain, .handler .memberGetAnalytics⟩),
    (api "GET" [lit "member", lit "stats"], ⟨memberChain, .handler .memberGetStats⟩),
    (api "GET" [lit "member", lit "plan"], ⟨memberChain, .handler .memberGetPlan⟩),
    (api "POST" [lit "member", lit "devices", lit "qr-code"],
      ⟨memberChain, .handler .qrPairingGenerateQRCode⟩),
    (api "GET" [lit "member", lit "templates"], ⟨memberChain, .handler .memberListTemplates⟩),
    (api "POST" [lit "member", lit "templates"], ⟨memberChain, .handler .memberCreateTemplate⟩),
    (api "GET" [lit "member", lit "templates", wild], ⟨memberChain, .handler .memberGetTemplate⟩),
    (api "PUT" [lit "member", lit "templates", wild], ⟨memberChain, .handler .memberUpdateTemplate⟩),
    (api "DELETE" [lit "member", lit "templates", wild], ⟨memberChain, .handler .memberDeleteTemplate⟩),
    (api "GET" [lit "member", lit "webhooks"], ⟨memberChain, .handler .memberListWebhooks⟩),
    (api "POST" [lit "member", lit "webhooks"], ⟨memberChain, .handler .memberCreateWebhook⟩),
    (api "GET" [lit "member", lit "webhooks", wild], ⟨memberChain, .handler .memberGetWebhook⟩),
    (api "PUT" [lit "member", lit "webhooks", wild], ⟨memberChain, .handler .memberUpdateWebhook⟩),
    (api "DELETE" [lit "member", lit "webhooks", wild], ⟨memberChain, .handler .memberDeleteWebhook⟩),
    (api "POST" [lit "member", lit "webhooks", wild, lit "rotate-secret"],
      ⟨memberChain, .handler .memberRotateWebhookSecret⟩),
    (api "GET" [lit "member", lit "webhooks", wild, lit "deliveries"],
      ⟨memberChain, .handler .memberGetWebhookDeliveries⟩),
    (api "POST" [lit "member", lit "webhooks", wild, lit "test"],
      ⟨memberChain, .handler .memberTestWebhook⟩),
    (api "GET" [lit "admin", lit "stats"], ⟨[.adminAuth], .handler .adminGetStats⟩),
    (api "GET" [lit "admin", lit "accounts"], ⟨[.adminAuth], .handler .adminListAccounts⟩),
    (api "GET" [lit "admin", lit "accounts", wild], ⟨[.adminAuth], .handler .adminGetAccount⟩),
    (api "DELETE" [lit "admin", lit "accounts", wild], ⟨[.adminAuth], .handler .adminDeleteAccount⟩),
    (api "POST" [lit "admin", lit "accounts", wild, lit "suspend"],
      ⟨[.adminAuth], .handler .adminSuspendAccount⟩),
    (api "POST" [lit "admin", lit "accounts", wild, lit "activate"],
      ⟨[.adminAuth], .handler .adminActivateAccount⟩),
    (api "GET" [lit "admin", lit "analytics"], ⟨[.adminAuth], .handler .adminGetAnalytics⟩),
    (api "GET" [lit "admin", lit "charts", lit "daily"], ⟨[.adminAuth], .handler .adminGetDailyCharts⟩),
    (api "GET" [lit "admin", lit "activity"], ⟨[.adminAuth], .handler .userGetActivityLog⟩),
    (api "GET" [lit "admin", lit "circuit-breakers"],
      ⟨[.adminAuth], .handler .adminGetCircuitBreakers⟩),
    (api "POST" [lit "admin", lit "circuit-breakers", wild, wild, lit "reset"],
      ⟨[.adminAuth], .handler .adminResetCircuitBreaker⟩),
    (api "GET" [lit "admin", lit "dead-letters"], ⟨[.adminAuth], .handler .adminGetDeadLetters⟩),
    (api "POST" [lit "admin", lit "dead-letters", wild, lit "retry"],
      ⟨[.adminAuth], .handler .adminRetryDeadLetter⟩),
    (api "GET" [lit "admin", lit "templates", lit "pending"],
      ⟨[.adminAuth], .handler .adminGetPendingTemplates⟩),
    (api "GET" [lit "admin", lit "templates"], ⟨[.adminAuth], .handler .adminListAllTemplates⟩),
    (api "POST" [lit "admin", lit "templates", wild, lit "approve"],
      ⟨[.adminAuth], .handler .adminApproveTemplate⟩),
    (api "POST" [lit "admin", lit "templates", wild, lit "reject"],
      ⟨[.adminAuth], .handler .adminRejectTemplate⟩),
    (api "GET" [lit "admin", lit "fraud-flags"], ⟨[.adminAuth], .handler .fraudListFlags⟩),
    (api "POST" [lit "admin", lit "fraud-flags", wild, lit "review"],
      ⟨[.adminAuth], .handler .fraudReviewFlag⟩),
    (api "GET" [lit "admin", lit "abuse-flags"], ⟨[.adminAuth], .handler .fraudListAbuseFlags⟩),
    (api "GET" [lit "admin", lit "smishing-flags"], ⟨[.adminAuth], .handler .fraudListSmishingFlags⟩),
    (api "GET" [lit "admin", lit "smishing-flags", lit "count"],
      ⟨[.adminAuth], .handler .fraudSmishingFlagsCount⟩),
    (api "POST" [lit "admin", lit "smishing-flags", lit "bulk-review"],
      ⟨[.adminAuth], .handler .fraudBulkReviewSmishingFlags⟩),
    (api "GET" [lit "admin", lit "users"], ⟨[.adminAuth], .handler .userList⟩),
    (api "GET" [lit "admin", lit "users", wild], ⟨[.adminAuth], .handler .userGet⟩),
    (api "POST" [lit "admin", lit "users"], ⟨[.adminAuth], .handler .userCreate⟩),
    (api "PUT" [lit "admin", lit "users", wild], ⟨[.adminAuth], .handler .userUpdate⟩),
    (api "DELETE" [lit "admin", lit "users", wild], ⟨[.adminAuth], .handler .userDelete⟩),
    (api "POST" [lit "admin", lit "users", lit "bulk-delete"],
      ⟨[.adminAuth], .handler .userBulkDelete⟩),
    (api "POST" [lit "admin", lit "users", lit "bulk-update"],
      ⟨[.adminAuth], .handler .userBulkUpdate⟩),
    (api "GET" [lit "admin", lit "payment-configs"], ⟨[.adminAuth], .handler .paymentConfigList⟩),
    (api "GET" [lit "payment-configs"], ⟨[.jwtAuth], .handler .paymentConfigListEnabled⟩),
    (api "PUT" [lit "admin", lit "payment-configs", wild],
      ⟨[.adminAuth], .handler .paymentConfigUpdate⟩),
    (api "POST" [lit "admin", lit "payment-configs"], ⟨[.adminAuth], .handler .paymentConfigUpsert⟩),
    (api "GET" [lit "admin", lit "payment-requests"], ⟨[.adminAuth], .handler .paymentRequestList⟩),
    (api "GET" [lit "admin", lit "payment-requests", wild],
      ⟨[.adminAuth], .handler .paymentRequestGetByID⟩),
    (api "POST" [lit "admin", lit "payment-requests", wild, lit "approve"],
      ⟨[.adminAuth], .handler .paymentRequestApprove⟩),
    (api "POST" [lit "admin", lit "payment-requests", wild, lit "reject"],
      ⟨[.adminAuth], .handler .paymentRequestReject⟩),
    (api "POST" [lit "member", lit "payment-requests"], ⟨memberChain, .handler .paymentRequestCreate⟩),
    (api "GET" [lit "member", lit "payment-requests"],
      ⟨memberChain, .handler .paymentRequestListByAccount⟩),
    (api "GET" [lit "admin", lit "subscription-requests"],
      ⟨[.adminAuth], .handler .subscriptionRequestList⟩),
    (api "POST" [lit "admin", lit "subscription-requests", wild, lit "approve"],
      ⟨[.adminAuth], .handler .subscriptionRequestApprove⟩),
    (api "POST" [lit "admin", lit "subscription-requests", wild, lit "reject"],
      ⟨[.adminAuth], .handler .subscriptionRequestReject⟩),
    (api "POST" [lit "member", lit "subscription-requests"],
      ⟨memberChain, .handler .subscriptionRequestCreate⟩),
    (api "GET" [lit "member", lit "subscription-requests"],
      ⟨memberChain, .handler .subscriptionRequestListByAccount⟩),
    (api "GET" [lit "member", lit "preferences"], ⟨memberChain, .handler .memberGetPreferences⟩),
    (api "PUT" [lit "member", lit "preferences"], ⟨memberChain, .handler .memberUpdatePreferences⟩),
    (api "POST" [lit "member", lit "kyc"], ⟨memberChain, .handler .memberSubmitKYC⟩),
    (api "GET" [lit "member", lit "kyc"], ⟨memberChain, .handler .memberGetKYC⟩),
    (api "GET" [lit "auth", lit "sessions"], ⟨[.jwtAuth], .handler .sessionListSessions⟩),
    (api "DELETE" [lit "auth", lit "sessions"], ⟨[.jwtAuth], .handler .sessionRevokeAllSessions⟩),
    (api "DELETE" [lit "auth", lit "sessions", wild], ⟨[.jwtAuth], .handler .sessionRevokeSession⟩),
    (api "GET" [lit "admin", lit "kyc"], ⟨[.adminAuth], .handler .kycAdminList⟩),
    (api "POST" [lit "admin", lit "kyc", wild, lit "approve"],
      ⟨[.adminAuth], .handler .kycAdminApprove⟩),
    (api "POST" [lit "admin", lit "kyc", wild, lit "reject"], ⟨[.adminAuth], .handler .kycAdminReject⟩),
    (api "GET" [lit "admin", lit "contact-submissions"],
      ⟨[.adminAuth], .handler .contactSalesListSubmissions⟩),
    (api "PUT" [lit "admin", lit "contact-submissions", wild],
      ⟨[.adminAuth], .handler .contactSalesUpdateStatus⟩),
    (api "POST" [lit "admin", lit "webhooks", lit "bulk-delete"],
      ⟨[.adminAuth], .handler .webhookBulkBulkDelete⟩),
    (api "POST" [lit "admin", lit "templates", lit "bulk-delete"],
      ⟨[.adminAuth], .handler .templateBulkBulkDelete⟩),
    (api "POST" [lit "admin", lit "templates", lit "bulk-approve"],
      ⟨[.adminAuth], .handler .templateBulkBulkApprove⟩),
    (api "POST" [lit "admin", lit "templates", lit "bulk-reject"],
      ⟨[.adminAuth], .handler .templateBulkBulkReject⟩),
    (api "GET" [lit "admin", lit "bi"], ⟨[.adminAuth], .handler .biGetBIDashboard⟩),
    (api "POST" [lit "auth", lit "fcm-token"], ⟨[.jwtAuth], .handler .fcmRegisterFCMToken⟩),
    (api "GET" [lit "feature-catalog"], ⟨[], .handler .featureCatalogList⟩),
    (api "POST" [lit "admin", lit "feature-catalog"], ⟨[.adminAuth], .handler .featureCatalogCreate⟩),
    (api "PUT" [lit "admin", lit "feature-catalog", wild],
      ⟨[.adminAuth], .handler .featureCatalogUpdateStatus⟩),
    (api "DELETE" [lit "admin", lit "feature-catalog", wild],
      ⟨[.adminAuth], .handler .featureCatalogDelete⟩),
    (api "POST" [lit "admin", lit "feature-catalog", wild, lit "reorder"],
      ⟨[.adminAuth], .handler .featureCatalogReorder⟩),
    (api "GET" [lit "admin", lit "releases"], ⟨[.jwtAuth], .handler .releaseList⟩),
    (api "POST" [lit "admin", lit "releases"], ⟨[.jwtAuth], .handler .releaseCreate⟩),
    (api "GET" [lit "admin", lit "releases", wild], ⟨[.jwtAuth], .handler .releaseGet⟩),
    (api "POST" [lit "admin", lit "releases", wild, lit "submit"],
      ⟨[.jwtAuth], .handler .releaseSubmit⟩),
    (api "POST" [lit "admin", lit "releases", wild, lit "approve"],
      ⟨[.adminAuth], .handler .releaseApprove⟩),
    (api "POST" [lit "admin", lit "releases", wild, lit "reject"],
      ⟨[.adminAuth], .handler .releaseReject⟩),
    (api "POST" [lit "admin", lit "releases", wild, lit "release"],
      ⟨[.adminAuth], .handler .releaseRelease⟩),
    (api "DELETE" [lit "admin", lit "releases", wild], ⟨[.adminAuth], .handler .releaseDelete⟩),
    (api "POST" [lit "admin", lit "releases", wild, lit "upload"],
      ⟨[.jwtAuth], .handler .releaseUploadAPK⟩),
    (api "GET" [lit "version-check"], ⟨[.ipLimit], .handler .releaseVersionCheck⟩),
    (api "GET" [lit "admin", lit "ai", lit "configs"], ⟨[.adminAuth], .handler .aiListConfigs⟩),
    (api "GET" [lit "admin", lit "ai", lit "configs", wild], ⟨[.adminAuth], .handler .aiGetConfig⟩),
    (api "POST" [lit "admin", lit "ai", lit "configs"], ⟨[.jwtAuth], .handler .aiCreateConfig⟩),
    (api "PUT" [lit "admin", lit "ai", lit "configs", wild], ⟨[.jwtAuth], .handler .aiUpdateConfig⟩),
    (api "DELETE" [lit "admin", lit "ai", lit "configs", wild], ⟨[.jwtAuth], .handler .aiDeleteConfig⟩),
    (api "GET" [lit "admin", lit "ai", lit "change-requests"],
      ⟨[.adminAuth], .handler .aiListChangeRequests⟩),
    (api "POST" [lit "admin", lit "ai", lit "change-requests", wild, lit "approve"],
      ⟨[.adminAuth], .handler .aiApproveChangeRequest⟩),
    (api "POST" [lit "admin", lit "ai", lit "change-requests", wild, lit "reject"],
      ⟨[.adminAuth], .handler .aiRejectChangeRequest⟩),
    (api "POST" [lit "ai", lit "generate-template"], ⟨[.jwtAuth], .handler .aiGenerateTemplate⟩),
    (api "GET" [lit "admin", lit "firebase-config"], ⟨[.jwtAuth], .handler .firebaseConfigList⟩),
    (api "PUT" [lit "admin", lit "firebase-config"],
      ⟨[.adminAuth], .handler .firebaseConfigBulkUpdate⟩),
    (api "PUT" [lit "admin", lit "firebase-config", wild],
      ⟨[.adminAuth], .handler .firebaseConfigUpsert⟩),
    (api "DELETE" [lit "admin", lit "firebase-config", wild],
      ⟨[.adminAuth], .handler .firebaseConfigDelete⟩),
    (api "GET" [lit "firebase-config"], ⟨[], .handler .firebaseConfigPublicConfig⟩),
    (⟨⟨[lit "api", lit "v1", lit "uploads", lit "apks"], true⟩, "GET"⟩, ⟨[], .handler .uploadedAPKs⟩),
    (api "GET" [lit "events", lit "stream"], ⟨[], .stream⟩)]

open Segment in
/-- The routes behind the stream of events. -/
def sseRoutes : List (Pattern × Route) := [(api "GET" [lit "events"], ⟨[.jwtAuth], .handler .subscribe⟩)]

/-- **No request has two routes**, so that all of them can be registered. -/
theorem routes_disjoint : routes.Pairwise fun r r' => r.1.overlap r'.1 = false := by
  decide +kernel

/-- The routes are tested one by one. -/
theorem forall_routes {p : Pattern × Route → Prop} [DecidablePred p] (h : (routes.all fun x => p x) = true) :
    ∀ x ∈ routes, p x :=
  fun x hx => of_decide_eq_true (List.all_eq_true.1 h x hx)

theorem sseRoutes_disjoint : sseRoutes.Pairwise fun r r' => r.1.overlap r'.1 = false :=
  List.pairwise_singleton _ _

/-- The routes of the server. -/
def mux : Table Route := ⟨routes, routes_disjoint⟩

/-- The routes behind the stream of events. -/
def sseMux : Table Route := ⟨sseRoutes, sseRoutes_disjoint⟩

/-- The answer to a request without a route: the path may have routes for other methods. -/
def unrouted (table : Table Route) (r : Request) : Refusal :=
  if table.routes.any fun x => matchesPath x.1.segments x.1.rest r.path then .methodNotAllowed
  else .notFound

section Admit

variable (svc : RouterServices) (r : Request)

/-- The guards of a route, one behind the other. -/
def guarded (guards : List Guard) : ServerProg (Except Refusal Ctx) :=
  checkAll (guards.map (Guard.run svc r)) .unknown

/-- The stream of events: the token of the query is put in the header, and the request goes on to the
routes behind the stream. -/
def serveSSE : ServerProg (Except Refusal (Handled × Ctx)) :=
  if r.queryToken = "" then return .error (.answered (.error 401 "missing token"))
  else
    let r := { r with authorization := "Bearer " ++ r.queryToken }
    match sseMux.route r.method r.path with
    | none => return .error (unrouted sseMux r)
    | some (_, route) => do
      match ← guarded svc r route.guards with
      | .error e => return .error e
      | .ok ctx =>
        if ctx.accountID = "" then return .error (.answered (.error 401 "unauthorized"))
        else return .ok (.subscribe, ctx)

/-- What becomes of a request: it comes to a handler in some context, or to none. -/
def letIn : ServerProg (Except Refusal (Handled × Ctx)) :=
  match mux.route r.method r.path with
  | none => return .error (unrouted mux r)
  | some (_, route) => do
    match ← guarded svc r route.guards with
    | .error e => return .error e
    | .ok ctx =>
      match route.target with
      | .handler e => return .ok (e, ctx)
      | .stream => serveSSE svc r

end Admit

/-! ## What the guards ask for -/

section Evident

variable (svc : RouterServices) (r : Request) (evs : List (Event ServerCmd))

/-- A client is not locked out, and has attempts left; or the attempts could not be counted. -/
def Attempted (c : Client) : Prop :=
  ∃ locked reply, (⟨.redis (.keyExists c.lockoutKey), locked⟩ : Event ServerCmd) ∈ evs ∧
    isLocked locked = false ∧ (⟨.redis (.incr c.key), reply⟩ : Event ServerCmd) ∈ evs ∧
    ∀ count, reply = .ok count → count ≤ bfProtector.maxAttempts

/-- The account was found in use, unless it could not be looked up. -/
def FoundInUse (accountID : String) : Prop :=
  ∃ reply, (⟨.db (.registry (.accountByID accountID)), reply⟩ : Event ServerCmd) ∈ evs ∧
    ∀ account, reply = .ok account → InUse account

/-- The subscription was found running, unless it could not be looked up. -/
def FoundRunning (accountID : String) : Prop :=
  ∃ reply, (⟨.db (.subscription accountID), reply⟩ : Event ServerCmd) ∈ evs ∧
    ∀ sub, reply = .ok sub → Running sub

/-- The messages of the day were found not to be used up, unless that could not be found out. -/
def FoundLeft (plan : Context) : Prop :=
  ∃ evs' reply, evs' ⊆ evs ∧
    (checkQuotaWithSub plan.accountID plan.subscription).Follows evs' (.ret reply) ∧ reply ≠ .ok false

/-- What a request has met that a guard hands on, and what the guard adds to its context. -/
def Guard.Meets : Guard → Ctx → Ctx → Prop
  | protect identifier, ctx, ctx' => ctx' = ctx ∧ Attempted evs ⟨identifier, r.bruteForceIP⟩
  | apiVersionHeader, ctx, ctx' =>
    ∃ version, apiVersion r.xAPIVersion = .ok version ∧ ctx' = { ctx with version := version }
  | apiKeyLimit, ctx, ctx' => ctx' = ctx ∧ (extractAPIKey r.keyHeaders ≠ "" →
      Counted svc.apiKeyMaxPerMinute evs (windowKey (extractAPIKey r.keyHeaders)))
  | jwtLimit, ctx, ctx' =>
    ctx' = ctx ∧ (ctx.accountID ≠ "" → Counted 120 evs (jwtKey ctx.accountID))
  | ipLimit, ctx, ctx' =>
    ctx' = ctx ∧ (extractClientIP r ≠ "" → Counted 30 evs (ipKey (extractClientIP r)))
  | apiKeyAuth, ctx, ctx' =>
    ∃ key, KeyFound svc.devices evs (trimPrefix r.authorization "Bearer ") key ∧
      ctx' = { ctx with accountID := key.accountID, apiKey := some key }
  | jwtAuth, ctx, ctx' =>
    ∃ p, TokenRead svc.tokens evs (trimPrefix r.authorization "Bearer ") p ∧
      ctx' = { ctx with accountID := p.accountID, isAdmin := p.isAdmin }
  | adminAuth, ctx, ctx' =>
    ∃ p, TokenRead svc.tokens evs r.authHeaders.token p ∧
      ctx' = { ctx with accountID := p.accountID, isAdmin := p.isAdmin }
  | requireActiveAccount, ctx, ctx' =>
    ctx' = ctx ∧ (ctx.accountID ≠ "" → FoundInUse evs ctx.accountID)
  | requireActiveSubscription, ctx, ctx' =>
    (∃ sub, ctx' = { ctx with subscription := sub }) ∧
      (ctx.accountID ≠ "" → FoundRunning evs ctx.accountID)
  | enforceQuota, ctx, ctx' => ctx' = ctx ∧ (ctx.accountID ≠ "" → FoundLeft evs ctx.toContext)

variable {svc r evs} {evs' : List (Event ServerCmd)} {ctx ctx' : Ctx}

theorem tokenRead_mono {tokens : TokenReader} {tokenString : String} {p : Principal} (hsub : evs ⊆ evs')
    (h : TokenRead tokens evs tokenString p) : TokenRead tokens evs' tokenString p := by
  obtain ⟨t, claims, ht, hread⟩ := h
  exact ⟨t, claims, hsub ht, hread⟩

theorem keyFound_mono {apiKey : String} {key : APIKey} (hsub : evs ⊆ evs')
    (h : KeyFound svc.devices evs apiKey key) : KeyFound svc.devices evs' apiKey key := by
  obtain ⟨hfound, hrevoked, hexpires⟩ := h
  refine ⟨hsub hfound, hrevoked, fun expiresAt he => ?_⟩
  obtain ⟨t, ht, hle⟩ := hexpires expiresAt he
  exact ⟨t, hsub ht, hle⟩

theorem counted_mono {maxPerMin : ℤ} {key : ℤ → String} (hsub : evs ⊆ evs')
    (h : Counted maxPerMin evs key) : Counted maxPerMin evs' key := by
  obtain ⟨t, reply, ht, hreply, hroom⟩ := h
  exact ⟨t, reply, hsub ht, hsub hreply, hroom⟩

/-- What a request has met, it has met among more events. -/
theorem Guard.Meets.mono {g : Guard} (hsub : evs ⊆ evs') (h : g.Meets svc r evs ctx ctx') :
    g.Meets svc r evs' ctx ctx' := by
  cases g with
  | protect identifier =>
    obtain ⟨hctx, locked, reply, hlocked, hnot, hreply, hroom⟩ := h
    exact ⟨hctx, locked, reply, hsub hlocked, hnot, hsub hreply, hroom⟩
  | apiVersionHeader => exact h
  | apiKeyLimit | jwtLimit | ipLimit => exact ⟨h.1, fun hne => counted_mono hsub (h.2 hne)⟩
  | apiKeyAuth =>
    obtain ⟨key, hkey, hctx⟩ := h
    exact ⟨key, keyFound_mono hsub hkey, hctx⟩
  | jwtAuth | adminAuth =>
    obtain ⟨p, hp, hctx⟩ := h
    exact ⟨p, tokenRead_mono hsub hp, hctx⟩
  | requireActiveAccount | requireActiveSubscription =>
    refine ⟨h.1, fun hne => ?_⟩
    obtain ⟨reply, hreply, hfound⟩ := h.2 hne
    exact ⟨reply, hsub hreply, hfound⟩
  | enforceQuota =>
    refine ⟨h.1, fun hne => ?_⟩
    obtain ⟨evs₁, reply, hevs, hfollows, hreply⟩ := h.2 hne
    exact ⟨evs₁, reply, fun ev hev => hsub (hevs hev), hfollows, hreply⟩

end Evident

section Follows

variable {svc : RouterServices} {r : Request} {evs : List (Event ServerCmd)} {ctx ctx' : Ctx}

theorem limitBy_follows {maxPerMin : ℤ} {name : String} {key : String → ℤ → String}
    (h : (limitBy maxPerMin name key ctx).Follows evs (.ret (.ok ctx'))) :
    ctx' = ctx ∧ (name ≠ "" → Counted maxPerMin evs (key name)) := by
  unfold limitBy at h
  split_ifs at h with hname
  · cases (Prog.follows_ret.1 h).2
    exact ⟨rfl, fun hne => absurd hname hne⟩
  · obtain ⟨reply, evs₁, evs₂, rfl, hcount, hrest⟩ := Prog.Follows.of_bind h
    cases reply with
    | error headers => cases (Prog.follows_ret.1 hrest).2
    | ok headers =>
      obtain ⟨rfl, hret⟩ := Prog.follows_ret.1 hrest
      cases hret
      rw [List.append_nil]
      exact ⟨rfl, fun _ => countRequest_follows hcount⟩

theorem onToken_follows {tokenString invalid : String}
    (h : (onToken (principalOf svc.tokens tokenString invalid) ctx).Follows evs (.ret (.ok ctx'))) :
    ∃ p, TokenRead svc.tokens evs tokenString p ∧
      ctx' = { ctx with accountID := p.accountID, isAdmin := p.isAdmin } := by
  obtain ⟨reply, evs₁, evs₂, rfl, hcheck, hrest⟩ := Prog.Follows.of_bind h
  cases reply with
  | error e => cases (Prog.follows_ret.1 hrest).2
  | ok p =>
    obtain ⟨rfl, hret⟩ := Prog.follows_ret.1 hrest
    cases hret
    rw [List.append_nil]
    exact ⟨p, principalOf_follows hcheck, rfl⟩

theorem onToken_error {e : HttpError} : ¬ (onToken (.ret (.error e)) ctx).Follows evs (.ret (.ok ctx')) := by
  intro h
  cases (Prog.follows_ret.1 h).2

theorem protect_follows {c : Client} {headers : Option RateLimitHeaders}
    (h : (Api.protect bfProtector c).Follows evs (.ret (.reached headers))) : Attempted evs c := by
  obtain ⟨locked, rest, rfl, hk⟩ := Prog.follows_act.1 h
  cases hlocked : isLocked locked with
  | true =>
    simp only [Prog.bind, hlocked] at hk
    cases (Prog.follows_ret.1 hk).2
  | false =>
    simp only [Prog.bind, hlocked] at hk
    obtain ⟨reply, rest', rfl, hk'⟩ := Prog.follows_act.1 hk
    refine ⟨locked, reply, by simp, hlocked, by simp, fun count hcount => ?_⟩
    subst hcount
    by_contra hmany
    have hmany' : bfProtector.maxAttempts < count := not_le.1 hmany
    -- the client is locked out
    have hlockedOut (evs : List (Event ServerCmd)) :
        ¬ (ite (bfProtector.maxAttempts < count)
            (Prog.call (.redis (.set c.lockoutKey "1".toList
              (RedisCmd.expiration bfProtector.lockoutDuration))) >>= fun _ =>
                Prog.call (.redis (.del c.key)) >>= fun _ =>
                  pure (.lockedOut ⟨bfProtector.maxAttempts, max 0 (bfProtector.maxAttempts - count),
                    some (bfProtector.lockoutDuration / 1000000000)⟩
                    (.error 429 ("too many attempts, account locked for " ++
                      toString (bfProtector.lockoutDuration / 1000000000) ++ " seconds"))))
            (pure (.reached (some ⟨bfProtector.maxAttempts,
              max 0 (bfProtector.maxAttempts - count), none⟩))) : ServerProg Verdict).Follows evs
          (.ret (.reached headers)) := by
      rw [if_pos hmany']
      intro hf
      obtain ⟨set, rest, rfl, hf'⟩ := Prog.follows_act.1 hf
      obtain ⟨deleted, rest, rfl, hret⟩ := Prog.follows_act.1 hf'
      cases (Prog.follows_ret.1 hret).2
    change Prog.Follows (ite _ _ _) _ _ at hk'
    by_cases hone : count = 1
    · rw [if_pos hone] at hk'
      obtain ⟨expired, rest'', rfl, hk''⟩ := Prog.follows_act.1 hk'
      exact hlockedOut _ hk''
    · rw [if_neg hone] at hk'
      exact hlockedOut _ hk'

theorem onPlan_follows {check : PlanCheck} (h : (onPlan check ctx).Follows evs (.ret (.ok ctx'))) :
    ∃ plan, (check ctx.toContext).Follows evs (.ret (.ok plan)) ∧ ctx' = { ctx with toContext := plan } := by
  obtain ⟨reply, evs₁, evs₂, rfl, hcheck, hrest⟩ := Prog.Follows.of_bind h
  cases reply with
  | error e => cases (Prog.follows_ret.1 hrest).2
  | ok plan =>
    obtain ⟨rfl, hret⟩ := Prog.follows_ret.1 hrest
    cases hret
    rw [List.append_nil]
    exact ⟨plan, hcheck, rfl⟩

theorem checkActiveAccount_follows {plan plan' : Context}
    (h : (checkActiveAccount plan).Follows evs (.ret (.ok plan'))) :
    plan' = plan ∧ (plan.accountID ≠ "" → FoundInUse evs plan.accountID) := by
  unfold checkActiveAccount at h
  split_ifs at h with hnone
  · cases (Prog.follows_ret.1 h).2
    exact ⟨rfl, fun hne => absurd hnone hne⟩
  · obtain ⟨reply, rest, rfl, hk⟩ := Prog.follows_act.1 h
    rcases reply with e | _ | account
    · cases (Prog.follows_ret.1 hk).2
      exact ⟨rfl, fun _ => ⟨_, List.mem_cons_self, fun _ h => by cases h⟩⟩
    · cases (Prog.follows_ret.1 hk).2
    · change Prog.Follows (ite _ _ _) _ _ at hk
      split_ifs at hk with hsuspended hdisabled
      · cases (Prog.follows_ret.1 hk).2
      · cases (Prog.follows_ret.1 hk).2
      · cases (Prog.follows_ret.1 hk).2
        refine ⟨rfl, fun _ => ⟨_, List.mem_cons_self, fun found hfound => ?_⟩⟩
        obtain rfl := Except.ok.inj hfound
        exact ⟨account, rfl, hsuspended, hdisabled⟩

theorem checkActiveSubscription_follows {plan plan' : Context}
    (h : (checkActiveSubscription plan).Follows evs (.ret (.ok plan'))) :
    (∃ sub, plan' = { plan with subscription := sub }) ∧
      (plan.accountID ≠ "" → FoundRunning evs plan.accountID) := by
  unfold checkActiveSubscription at h
  split_ifs at h with hnone
  · cases (Prog.follows_ret.1 h).2
    exact ⟨⟨_, rfl⟩, fun hne => absurd hnone hne⟩
  · obtain ⟨reply, rest, rfl, hk⟩ := Prog.follows_act.1 h
    rcases reply with e | _ | sub
    · cases (Prog.follows_ret.1 hk).2
      exact ⟨⟨_, rfl⟩, fun _ => ⟨_, List.mem_cons_self, fun _ h => by cases h⟩⟩
    · cases (Prog.follows_ret.1 hk).2
      refine ⟨⟨_, rfl⟩, fun _ => ⟨_, List.mem_cons_self, fun found hfound s hs => ?_⟩⟩
      obtain rfl := Except.ok.inj hfound
      cases hs
    · change Prog.Follows (ite _ _ _) _ _ at hk
      split_ifs at hk with hcanceled hpastDue
      · cases (Prog.follows_ret.1 hk).2
      · cases (Prog.follows_ret.1 hk).2
      · cases (Prog.follows_ret.1 hk).2
        refine ⟨⟨_, rfl⟩, fun _ => ⟨_, List.mem_cons_self, fun found hfound s hs => ?_⟩⟩
        obtain rfl := Except.ok.inj hfound
        obtain rfl := Option.some.inj hs
        exact ⟨hcanceled, hpastDue⟩

theorem checkWithinQuota_follows {plan plan' : Context}
    (h : (checkWithinQuota plan).Follows evs (.ret (.ok plan'))) :
    plan' = plan ∧ (plan.accountID ≠ "" → FoundLeft evs plan) := by
  unfold checkWithinQuota at h
  split_ifs at h with hnone
  · cases (Prog.follows_ret.1 h).2
    exact ⟨rfl, fun hne => absurd hnone hne⟩
  · obtain ⟨reply, evs₁, evs₂, rfl, hcheck, hrest⟩ := Prog.Follows.of_bind h
    have hfound (hreply : reply ≠ .ok false) : FoundLeft (evs₁ ++ evs₂) plan :=
      ⟨evs₁, reply, List.subset_append_left _ _, hcheck, hreply⟩
    rcases reply with e | _ | _
    · cases (Prog.follows_ret.1 hrest).2
      exact ⟨rfl, fun _ => hfound (by simp)⟩
    · cases (Prog.follows_ret.1 hrest).2
    · cases (Prog.follows_ret.1 hrest).2
      exact ⟨rfl, fun _ => hfound (by simp)⟩

/-- **What a request has met that a guard hands on.** -/
theorem guard_follows (g : Guard) (h : (g.run svc r ctx).Follows evs (.ret (.ok ctx'))) :
    g.Meets svc r evs ctx ctx' := by
  cases g with
  | protect identifier =>
    obtain ⟨verdict, evs₁, evs₂, rfl, hprotect, hrest⟩ := Prog.Follows.of_bind h
    cases verdict with
    | locked => cases (Prog.follows_ret.1 hrest).2
    | lockedOut headers answer => cases (Prog.follows_ret.1 hrest).2
    | reached headers =>
      obtain ⟨rfl, hret⟩ := Prog.follows_ret.1 hrest
      cases hret
      rw [List.append_nil]
      exact ⟨rfl, protect_follows hprotect⟩
  | apiVersionHeader =>
    unfold Guard.run at h
    cases hversion : apiVersion r.xAPIVersion with
    | error e =>
      simp only [hversion] at h
      cases (Prog.follows_ret.1 h).2
    | ok version =>
      simp only [hversion] at h
      cases (Prog.follows_ret.1 h).2
      exact ⟨version, hversion, rfl⟩
  | apiKeyLimit | jwtLimit | ipLimit => exact limitBy_follows h
  | apiKeyAuth =>
    obtain ⟨reply, evs₁, evs₂, rfl, hcheck, hrest⟩ := Prog.Follows.of_bind h
    cases reply with
    | error answer => cases (Prog.follows_ret.1 hrest).2
    | ok key =>
      obtain ⟨rfl, hret⟩ := Prog.follows_ret.1 hrest
      cases hret
      rw [List.append_nil]
      exact ⟨key, (apiKeyAuth_follows hcheck).2.2, rfl⟩
  | jwtAuth =>
    unfold Guard.run checkJWT at h
    split_ifs at h
    · exact absurd h onToken_error
    · exact absurd h onToken_error
    · exact onToken_follows h
  | adminAuth =>
    unfold Guard.run checkAdmin at h
    split_ifs at h
    · exact absurd h onToken_error
    · exact onToken_follows h
  | requireActiveAccount =>
    obtain ⟨plan, hcheck, rfl⟩ := onPlan_follows h
    obtain ⟨rfl, hfound⟩ := checkActiveAccount_follows hcheck
    exact ⟨rfl, hfound⟩
  | requireActiveSubscription =>
    obtain ⟨plan, hcheck, rfl⟩ := onPlan_follows h
    obtain ⟨⟨sub, rfl⟩, hfound⟩ := checkActiveSubscription_follows hcheck
    exact ⟨⟨sub, rfl⟩, hfound⟩
  | enforceQuota =>
    obtain ⟨plan, hcheck, rfl⟩ := onPlan_follows h
    obtain ⟨rfl, hfound⟩ := checkWithinQuota_follows hcheck
    exact ⟨rfl, hfound⟩

end Follows

/-! ## Where requests come to -/

section Admitted

variable {svc : RouterServices} {r : Request} {evs : List (Event ServerCmd)} {e : Handled} {ctx : Ctx}

theorem guarded_follows {guards : List Guard}
    (h : (guarded svc r guards).Follows evs (.ret (.ok ctx))) :
    Passed (Guard.Meets svc r evs) guards .unknown ctx :=
  passed_of_follows (List.Subset.refl evs)
    (fun g _ _ _ hsub hg => (guard_follows g hg).mono hsub) h

/-- The paths of the stream and of the routes behind it differ. -/
theorem stream_apart (hroute : ∃ x ∈ routes, x.2.target = .stream ∧ x.1.Matches r.method r.path) :
    sseMux.route r.method r.path = none := by
  obtain ⟨x, hx, hstream, hmatches⟩ := hroute
  have hapart : ∀ x ∈ routes, x.2.target = .stream → ∀ y ∈ sseRoutes, x.1.overlap y.1 = false :=
    forall_routes (by decide)
  cases hfound : sseMux.route r.method r.path with
  | none => rfl
  | some y =>
    obtain ⟨hy, hmatches'⟩ := Table.route_eq_some_iff.1 hfound
    have hcommon := (Pattern.overlap_iff x.1 y.1).2 ⟨_, _, hmatches, hmatches'⟩
    rw [hapart x hx hstream y hy] at hcommon
    cases hcommon

/-- **A request comes to a handler only by a route of that handler**, and only if it has met what each
guard of the route asks for. -/
theorem letIn_spec (h : (letIn svc r).Follows evs (.ret (.ok (e, ctx)))) :
    ∃ x ∈ routes, x.1.Matches r.method r.path ∧ x.2.target = .handler e ∧
      Passed (Guard.Meets svc r evs) x.2.guards .unknown ctx := by
  unfold letIn at h
  cases hroute : mux.route r.method r.path with
  | none =>
    simp only [hroute] at h
    cases (Prog.follows_ret.1 h).2
  | some x =>
    obtain ⟨hx, hmatches⟩ := Table.route_eq_some_iff.1 hroute
    simp only [hroute] at h
    obtain ⟨reply, evs₁, evs₂, rfl, hguards, hrest⟩ := Prog.Follows.of_bind h
    cases reply with
    | error refusal => cases (Prog.follows_ret.1 hrest).2
    | ok ctx' =>
      cases htarget : x.2.target with
      | handler e' =>
        simp only [htarget] at hrest
        obtain ⟨rfl, hret⟩ := Prog.follows_ret.1 hrest
        cases hret
        rw [List.append_nil]
        exact ⟨x, hx, hmatches, htarget, guarded_follows hguards⟩
      | stream =>
        -- the stream has no route on
        have hnone := stream_apart ⟨x, hx, htarget, hmatches⟩
        simp only [htarget, serveSSE] at hrest
        split_ifs at hrest
        · cases (Prog.follows_ret.1 hrest).2
        · simp only [hnone] at hrest
          cases (Prog.follows_ret.1 hrest).2

/-- **Nobody is ever told about the events of the devices**: no request comes to the handler that would
tell. -/
theorem not_subscribed (h : (letIn svc r).Follows evs (.ret (.ok (e, ctx)))) : e ≠ .subscribe := by
  have hother : ∀ x ∈ routes, x.2.target ≠ .handler .subscribe :=
    forall_routes (by decide)
  rintro rfl
  obtain ⟨x, hx, -, htarget, -⟩ := letIn_spec h
  exact hother x hx htarget

/-! ## Who is let in -/

/-- The handlers that anybody can come to. -/
def openHandlers : List Handled :=
  [.healthCheck, .mqttHealthCheck, .docs, .docsUI, .docsFile, .publicBillingListPublicPlans,
    .publicBillingListPublicPaymentMethods, .contactSalesSubmit, .authRegister, .authLogin,
    .authLogin2FA, .authRefreshToken, .deviceDeviceLogin, .deviceRegister, .qrPairingQRLogin,
    .featureCatalogList, .releaseVersionCheck, .firebaseConfigPublicConfig, .uploadedAPKs]

/-- The guard asks who sends a request. -/
def Guard.authenticates : Guard → Bool
  | apiKeyAuth | jwtAuth | adminAuth => true
  | _ => false

/-- A token says who sends the request. -/
def VouchedByToken (svc : RouterServices) (r : Request) (evs : List (Event ServerCmd)) (ctx : Ctx) :
    Prop :=
  ∃ p, (TokenRead svc.tokens evs (trimPrefix r.authorization "Bearer ") p ∨
    TokenRead svc.tokens evs r.authHeaders.token p) ∧
      ctx.accountID = p.accountID ∧ ctx.isAdmin = p.isAdmin

/-- An API key says for which account the request is sent. -/
def VouchedByKey (svc : RouterServices) (r : Request) (evs : List (Event ServerCmd)) (ctx : Ctx) :
    Prop :=
  ∃ key, KeyFound svc.devices evs (trimPrefix r.authorization "Bearer ") key ∧
    ctx.accountID = key.accountID ∧ ctx.apiKey = some key

/-- A guard that asks who sends the request finds out. -/
theorem vouched_of_authenticates {g : Guard} {ctx' : Ctx} (hg : g.authenticates = true)
    (h : g.Meets svc r evs ctx ctx') : VouchedByToken svc r evs ctx' ∨ VouchedByKey svc r evs ctx' := by
  cases g with
  | apiKeyAuth =>
    obtain ⟨key, hkey, rfl⟩ := h
    exact .inr ⟨key, hkey, rfl, rfl⟩
  | jwtAuth =>
    obtain ⟨p, hp, rfl⟩ := h
    exact .inl ⟨p, .inl hp, rfl, rfl⟩
  | adminAuth =>
    obtain ⟨p, hp, rfl⟩ := h
    exact .inl ⟨p, .inr hp, rfl, rfl⟩
  | _ => cases hg

/-- Any other guard leaves alone who sends the request. -/
theorem keeps_sender {g : Guard} {ctx' : Ctx} (hg : g.authenticates = false)
    (h : g.Meets svc r evs ctx ctx') :
    ctx'.accountID = ctx.accountID ∧ ctx'.isAdmin = ctx.isAdmin ∧ ctx'.apiKey = ctx.apiKey := by
  cases g with
  | apiKeyAuth | jwtAuth | adminAuth => cases hg
  | apiVersionHeader =>
    obtain ⟨version, -, rfl⟩ := h
    exact ⟨rfl, rfl, rfl⟩
  | requireActiveSubscription =>
    obtain ⟨⟨sub, rfl⟩, -⟩ := h
    exact ⟨rfl, rfl, rfl⟩
  | _ =>
    obtain ⟨rfl, -⟩ := h
    exact ⟨rfl, rfl, rfl⟩

theorem vouched_keeps {g : Guard} {ctx' : Ctx} (h : g.Meets svc r evs ctx ctx')
    (hctx : VouchedByToken svc r evs ctx ∨ VouchedByKey svc r evs ctx) :
    VouchedByToken svc r evs ctx' ∨ VouchedByKey svc r evs ctx' := by
  cases hg : g.authenticates with
  | true => exact vouched_of_authenticates hg h
  | false =>
    obtain ⟨haccount, hadmin, hkey⟩ := keeps_sender hg h
    unfold VouchedByToken VouchedByKey
    rw [haccount, hadmin, hkey]
    exact hctx

/-- A request that has passed a guard that asks who sends it is vouched for in the end. -/
theorem vouched_of_passed {guards : List Guard} {ctx' : Ctx}
    (h : Passed (Guard.Meets svc r evs) guards ctx ctx')
    (hasks : guards.any Guard.authenticates = true) :
    VouchedByToken svc r evs ctx' ∨ VouchedByKey svc r evs ctx' := by
  induction guards generalizing ctx with
  | nil => cases hasks
  | cons g guards ih =>
    obtain ⟨ctx₁, hg, hrest⟩ := passed_cons.1 h
    rw [List.any_cons, Bool.or_eq_true] at hasks
    rcases hasks with hasks | hasks
    · exact hrest.inv (fun g _ _ _ hg => vouched_keeps hg) (vouched_of_authenticates hasks hg)
    · exact ih hrest hasks

/-- **Who is let in**: whoever comes to a handler is vouched for by a token or by a key that was looked
up on the way, unless the handler is open to anybody; and then nothing is known of the sender. -/
theorem admitted_vouched (h : (letIn svc r).Follows evs (.ret (.ok (e, ctx)))) :
    e ∈ openHandlers ∧ ctx.accountID = "" ∧ ctx.isAdmin = false ∨
      VouchedByToken svc r evs ctx ∨ VouchedByKey svc r evs ctx := by
  have hguards : ∀ x ∈ routes, ∀ e, x.2.target = .handler e → x.2.guards.any Guard.authenticates = false →
      e ∈ openHandlers := by
    have hall : routes.all (fun x => x.2.guards.any Guard.authenticates ||
        match x.2.target with
        | .handler e => decide (e ∈ openHandlers)
        | .stream => true) = true := by decide
    intro x hx e htarget hnone
    have hx' := List.all_eq_true.1 hall x hx
    simpa [hnone, htarget] using hx'
  obtain ⟨x, hx, -, htarget, hpassed⟩ := letIn_spec h
  cases hasks : x.2.guards.any Guard.authenticates with
  | true => exact .inr (vouched_of_passed hpassed hasks)
  | false =>
    refine .inl ⟨hguards x hx e htarget hasks, ?_⟩
    refine hpassed.inv (I := fun ctx => ctx.accountID = "" ∧ ctx.isAdmin = false)
      (fun g hg ctx ctx' hmeets hctx => ?_) ⟨rfl, rfl⟩
    obtain ⟨haccount, hadmin, -⟩ := keeps_sender (by simpa using List.any_eq_false.1 hasks g hg) hmeets
    exact ⟨haccount.trans hctx.1, hadmin.trans hctx.2⟩

/-! ## The portals -/

/-- The path goes on behind the name of a portal. -/
def Under (portal : String) (path : List String) : Prop :=
  ∃ x rest, path = "api" :: "v1" :: portal :: x :: rest

/-- A route of a path under a portal is one of the portal's. -/
theorem meetsPath_of_under {portal : String} {x : Pattern × Route} (hunder : Under portal r.path)
    (h : x.1.Matches r.method r.path) :
    meetsPath x.1.segments x.1.rest [.lit "api", .lit "v1", .lit portal] true = true := by
  obtain ⟨y, rest, hpath⟩ := hunder
  refine (meetsPath_iff _ _ _ _).2 ⟨r.path, h.2, ?_⟩
  rw [hpath]
  simp [matchesPath, Segment.stands]

/-- **What is asked of members**: a token, an account in use, a running subscription, and no more than
120 requests a minute. -/
theorem admitted_member (hunder : Under "member" r.path)
    (h : (letIn svc r).Follows evs (.ret (.ok (e, ctx)))) :
    ∃ p, TokenRead svc.tokens evs (trimPrefix r.authorization "Bearer ") p ∧
      ctx.accountID = p.accountID ∧ ctx.isAdmin = p.isAdmin ∧
      (p.accountID ≠ "" → FoundInUse evs p.accountID ∧ FoundRunning evs p.accountID ∧
        Counted 120 evs (jwtKey p.accountID)) := by
  have hchain : ∀ x ∈ routes,
      meetsPath x.1.segments x.1.rest [.lit "api", .lit "v1", .lit "member"] true = true →
        x.2.guards = memberChain := forall_routes (by decide)
  obtain ⟨x, hx, hmatches, -, hpassed⟩ := letIn_spec h
  rw [hchain x hx (meetsPath_of_under hunder hmatches)] at hpassed
  simp only [memberChain, passed_cons, passed_nil] at hpassed
  obtain ⟨ctx₁, ⟨p, hp, rfl⟩, ctx₂, ⟨rfl, hused⟩, ctx₃, ⟨⟨sub, rfl⟩, hrunning⟩, ctx₄, ⟨rfl, hcounted⟩,
    rfl⟩ := hpassed
  exact ⟨p, hp, rfl, rfl, fun hne => ⟨hused hne, hrunning hne, hcounted hne⟩⟩

/-- **What is asked of administrators**: a token; no API key opens their routes. -/
theorem admitted_administration (hunder : Under "admin" r.path)
    (h : (letIn svc r).Follows evs (.ret (.ok (e, ctx)))) :
    VouchedByToken svc r evs ctx ∧ ctx.apiKey = none := by
  have hguards : ∀ x ∈ routes,
      meetsPath x.1.segments x.1.rest [.lit "api", .lit "v1", .lit "admin"] true = true →
        x.2.guards = [.adminAuth] ∨ x.2.guards = [.jwtAuth] := forall_routes (by decide)
  obtain ⟨x, hx, hmatches, -, hpassed⟩ := letIn_spec h
  rcases hguards x hx (meetsPath_of_under hunder hmatches) with hguard | hguard
  · rw [hguard, passed_cons] at hpassed
    obtain ⟨ctx₁, ⟨p, hp, rfl⟩, hrest⟩ := hpassed
    obtain rfl := passed_nil.1 hrest
    exact ⟨⟨p, .inr hp, rfl, rfl⟩, rfl⟩
  · rw [hguard, passed_cons] at hpassed
    obtain ⟨ctx₁, ⟨p, hp, rfl⟩, hrest⟩ := hpassed
    obtain rfl := passed_nil.1 hrest
    exact ⟨⟨p, .inl hp, rfl, rfl⟩, rfl⟩

end Admitted

/-! ## A member -/

/-- Tokens that are the ids of accounts. -/
def readable : TokenReader where
  parse _ tokenString := some ⟨some tokenString, false, none⟩

/-- A server that reads such tokens. -/
def services : RouterServices := ⟨plainDeviceServices, readable, 60⟩

/-- A request with a token. -/
def presenting (path : List String) : Request where
  method := "GET"
  path := path
  authorization := "Bearer account-1"
  sessionCookie := none
  xAPIKey := ""
  xAPIVersion := ""
  xForwardedFor := ""
  xRealIP := ""
  remoteAddr := ""
  clientIP := ""
  queryToken := "account-1"

/-- The handler that a request comes to. -/
def handledBy : Except Refusal (Handled × Ctx) → Option Handled
  | .ok (e, _) => some e
  | .error _ => none

/-- What comes of a request of a customer. -/
def outcome (path : List String) : Outcome ServerCmd World (Except Refusal (Handled × Ctx)) :=
  (letIn services (presenting path)).exec (server .default) (customer .active "active")

theorem follows_of_handledBy {path : List String} {e : Handled}
    (h : handledBy (outcome path).val = some e) :
    ∃ ctx, (letIn services (presenting path)).Follows (outcome path).trace (.ret (.ok (e, ctx))) := by
  have hf := Prog.follows_exec (server .default) (letIn services (presenting path))
    (customer .active "active")
  change Prog.Follows _ (outcome path).trace (.ret (outcome path).val) at hf
  rcases hval : (outcome path).val with refusal | ⟨e', ctx⟩
  · rw [hval] at h
    cases h
  · rw [hval] at h hf
    obtain rfl := Option.some.inj h
    exact ⟨ctx, hf⟩

/-- A customer asks for the plan. -/
theorem memberGetPlan_handles :
    handledBy (outcome ["api", "v1", "member", "plan"]).val = some .memberGetPlan := by
  decide

theorem memberGetPlan_vouched : ∃ evs ctx,
    VouchedByToken services (presenting ["api", "v1", "member", "plan"]) evs ctx ∨
      VouchedByKey services (presenting ["api", "v1", "member", "plan"]) evs ctx := by
  obtain ⟨ctx, hf⟩ := follows_of_handledBy memberGetPlan_handles
  refine ⟨_, ctx, (admitted_vouched hf).resolve_left ?_⟩
  rintro ⟨hopen, -⟩
  exact absurd hopen (by decide)

theorem memberGetPlan_asked : ∃ evs p,
    TokenRead readable evs (trimPrefix "Bearer account-1" "Bearer ") p ∧
      (p.accountID ≠ "" → FoundInUse evs p.accountID ∧ FoundRunning evs p.accountID ∧
        Counted 120 evs (jwtKey p.accountID)) := by
  obtain ⟨ctx, hf⟩ := follows_of_handledBy memberGetPlan_handles
  obtain ⟨p, hp, -, -, hasked⟩ := admitted_member ⟨"plan", [], rfl⟩ hf
  exact ⟨_, p, hp, hasked⟩

theorem memberGetPlan_not_subscribed : Handled.memberGetPlan ≠ .subscribe := by
  obtain ⟨ctx, hf⟩ := follows_of_handledBy memberGetPlan_handles
  exact not_subscribed hf

end AeroxeBee.Router
