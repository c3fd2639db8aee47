import AeroxeBee.Models
import Mathlib.Data.Rat.Defs

/-!
# The registry

The rows that say who may use the gateway and on which terms: the accounts of the members, the
users of the admin panel, the plans and the requests to change them, the requests to pay for a plan
or to change a subscription, the records of identity checks, the templates for messages, the releases
of the app, the secrets of the second factor, the sessions, the tokens that pair phones, and the
configuration of the language models with the requests to change it. Each constructor of
`RegistryQuery` is one SQL statement of a service, as `Query` has them for the other tables.
-/

namespace AeroxeBee

/-! ## Rows -/

/-- Whether an account may be used; any string can be stored. -/
structure AccountStatus where
  name : String
deriving DecidableEq, Repr

namespace AccountStatus

/-- The account is in use. -/
def active : AccountStatus := ⟨"active"⟩

/-- An administrator has suspended the account. -/
def suspended : AccountStatus := ⟨"suspended"⟩

end AccountStatus

/-- The account of a member. -/
structure Account where
  id : String
  name : String
  email : String
  passwordHash : String
  planID : String
  retentionDays : ℤ
  verified : Bool
  status : AccountStatus
  riskScore : ℚ
deriving DecidableEq

/-- A user of the admin panel. -/
structure User where
  id : String
  name : String
  email : String
  passwordHash : String
  role : String
  status : String
  avatar : String
deriving DecidableEq

/-- A pricing plan. -/
structure Plan where
  id : String
  name : String
  visibility : String
  dailyQuota : ℤ
  monthlyQuota : ℤ
  overageBufferPct : ℚ
  maxQueueDepth : ℤ
  maxDevices : ℤ
  maxTemplates : ℤ
  dedicatedPool : Bool
  defaultRoutingStrategy : RoutingStrategy
  pricePerSMS : ℚ
  monthlyPrice : ℚ
  isPopular : Bool
  ctaText : String
  features : List String
deriving DecidableEq

/-- A plan as the body of a request gives it, with or without a list of features. -/
structure PlanBody where
  plan : Plan
  features : Option (List String)
deriving DecidableEq

/-- What is to be done about a plan. -/
inductive PlanAction where
  | create
  | update
  | delete
deriving DecidableEq

/-- The request of a user to change a plan. The payload is the plan that its text decodes to. -/
structure PlanChangeRequest where
  id : String
  requestedBy : String
  action : PlanAction
  planID : String
  payload : Option PlanBody
  status : String
  reviewedBy : Option String
  reviewedByName : String
  reviewNotes : String
deriving DecidableEq

/-- What a member has paid for a plan. -/
structure PaymentRequest where
  id : String
  accountID : String
  planID : String
  billingCycle : String
  paymentMethod : String
  amount : ℚ
  proofURL : String
  status : String
  reviewedBy : Option String
  reviewNotes : String
deriving DecidableEq

/-- The request of a member to change the subscription. -/
structure SubscriptionRequest where
  id : String
  accountID : String
  requestedPlan : String
  requestedBillingCycle : String
  currentPlan : String
  reason : String
  status : String
  reviewedBy : Option String
  reviewNotes : String
deriving DecidableEq

/-- The documents that a member has handed in to show who they are. -/
structure KycRecord where
  id : String
  accountID : String
  fullName : String
  documentType : String
  documentNumber : String
  documentURL : String
  status : String
  reviewedBy : Option String
  reviewedAt : Option ℤ
  reviewNotes : String
deriving DecidableEq

/-- Whether a template may be used. -/
inductive TemplateApprovalStatus where
  | pending
  | approved
  | rejected
deriving DecidableEq

/-- A text with placeholders. -/
structure Template where
  id : String
  accountID : String
  name : String
  body : String
  variableNames : List String
  approvalStatus : TemplateApprovalStatus
  approvedAt : Option ℤ
  createdAt : ℤ
deriving DecidableEq

/-- How far a release of the app has come. -/
inductive ReleaseStatus where
  | draft
  | pendingApproval
  | approved
  | released
  | rejected
deriving DecidableEq

/-- A release of the app. -/
structure AppRelease where
  id : String
  versionCode : ℤ
  versionName : String
  releaseType : String
  title : String
  releaseNotes : String
  minRequiredVersion : ℤ
  apkURL : String
  apkFilename : String
  apkSizeBytes : ℤ
  status : ReleaseStatus
  submittedBy : Option String
  submittedByName : String
  approvedBy : Option String
  approvedByName : String
  rejectedBy : Option String
  rejectionReason : String
  releasedAt : Option ℤ
deriving DecidableEq

/-- The secret that the codes for the second step of a login are made from. It belongs to a user or to
an account. -/
structure TwoFASecret where
  id : String
  userID : Option String
  accountID : Option String
  secret : String
  enabled : Bool
deriving DecidableEq

/-- A login, with the digest of the token that it was given. -/
structure UserSession where
  id : String
  userID : String
  userType : String
  tokenHash : String
  revokedAt : Option ℤ
deriving DecidableEq

/-- A token that pairs a phone with an account, once. -/
structure PairingToken where
  id : String
  accountID : String
  token : String
  expiresAt : ℤ
  used : Bool
  deviceID : Option String
deriving DecidableEq

/-- How a provider of language models is reached. -/
structure AIConfig where
  id : String
  provider : String
  label : String
  endpointURL : String
  apiKey : String
  model : String
  isActive : Bool
  createdBy : Option String
deriving DecidableEq

/-- A value in the payload of a request to change the configuration. -/
inductive PayloadValue where
  | text (s : String)
  | bool (b : Bool)
  | other
deriving DecidableEq

/-- The request of a user to change the configuration. The action can be any text. -/
structure ConfigChangeRequest where
  id : String
  requestedBy : String
  action : String
  configID : Option String
  payload : List (String × PayloadValue)
  status : String
  reviewedBy : Option String
  reviewedByName : String
  reviewNotes : String
deriving DecidableEq

/-- The tables of the registry. -/
structure Registry where
  accounts : List Account
  users : List User
  plans : List Plan
  subscriptionRequests : List SubscriptionRequest
  templates : List Template
  planChangeRequests : List PlanChangeRequest
  paymentRequests : List PaymentRequest
  kycRecords : List KycRecord
  releases : List AppRelease
  twoFactorSecrets : List TwoFASecret
  userSessions : List UserSession
  pairingTokens : List PairingToken
  aiConfigs : List AIConfig
  configChangeRequests : List ConfigChangeRequest

/-- The registry without rows. -/
def Registry.empty : Registry := ⟨[], [], [], [], [], [], [], [], [], [], [], [], [], []⟩

/-! ## Statements -/

/-- The statements about the registry. -/
inductive RegistryQuery : Type → Type
  | accountByID (id : String) : RegistryQuery (Option Account)
  | accountByEmail (email : String) : RegistryQuery (Option Account)
  | updateAccount (account : Account) : RegistryQuery Unit
  | suspend (id : String) : RegistryQuery Unit
  | activate (id : String) : RegistryQuery Unit
  | userByID (id : String) : RegistryQuery (Option User)
  | userByEmail (email : String) : RegistryQuery (Option User)
  | createUser (user : User) : RegistryQuery Unit
  | updateUser (user : User) : RegistryQuery Unit
  | updatePassword (id passwordHash : String) : RegistryQuery Unit
  | deleteUsers (ids : List String) : RegistryQuery Unit
  | bulkUpdateUsers (ids : List String) (role status : Option String) : RegistryQuery Unit
  | plan (id : String) : RegistryQuery (Option Plan)
  | createPlan (plan : Plan) : RegistryQuery Unit
  | updatePlan (body : PlanBody) : RegistryQuery Unit
  | deletePlan (id : String) : RegistryQuery Unit
  | planChangeRequestByID (id : String) : RegistryQuery (Option PlanChangeRequest)
  /-- How many requests have been reviewed. -/
  | reviewPlanChangeRequest (id status reviewedBy reviewedByName notes : String) : RegistryQuery ℕ
  | reviewPaymentRequest (id status reviewedBy notes : String) : RegistryQuery Unit
  | subscriptionRequestByID (id : String) : RegistryQuery (Option SubscriptionRequest)
  | reviewSubscriptionRequest (id status reviewedBy notes : String) : RegistryQuery Unit
  | reviewKyc (id status reviewedBy : String) (now : ℤ) (notes : String) : RegistryQuery Unit
  | templateByID (id : String) : RegistryQuery (Option Template)
  | countTemplates (accountID : String) : RegistryQuery ℕ
  | createTemplate (tpl : Template) : RegistryQuery Unit
  | updateTemplate (tpl : Template) : RegistryQuery Unit
  | approveTemplate (id : String) (now : ℤ) : RegistryQuery Unit
  | rejectTemplate (id : String) : RegistryQuery Unit
  /-- How many templates have been approved. -/
  | bulkApproveTemplates (ids : List String) (now : ℤ) : RegistryQuery ℕ
  /-- How many templates have been rejected. -/
  | bulkRejectTemplates (ids : List String) : RegistryQuery ℕ
  | createRelease (r : AppRelease) : RegistryQuery Unit
  | submitForApproval (id : String) : RegistryQuery Unit
  | updateAPK (id apkURL filename : String) (sizeBytes : ℤ) : RegistryQuery Unit
  | approveRelease (id approvedBy approvedByName : String) : RegistryQuery Unit
  | rejectRelease (id rejectedBy reason : String) : RegistryQuery Unit
  | withdrawReleased : RegistryQuery Unit
  | release (id : String) (now : ℤ) : RegistryQuery Unit
  | deleteRelease (id : String) : RegistryQuery Unit
  | twoFactorByID (id : String) : RegistryQuery (Option TwoFASecret)
  | twoFactorByUserID (userID : String) : RegistryQuery (Option TwoFASecret)
  | twoFactorByAccountID (accountID : String) : RegistryQuery (Option TwoFASecret)
  /-- How many sessions have been revoked. -/
  | revokeSession (sessionID userID : String) (now : ℤ) : RegistryQuery ℕ
  | revokeSessions (userID userType currentTokenHash : String) (now : ℤ) : RegistryQuery Unit
  | pairingToken (token : String) : RegistryQuery (Option PairingToken)
  | invalidatePairingTokens (accountID : String) : RegistryQuery Unit
  | createPairingToken (row : PairingToken) : RegistryQuery Unit
  | markPairingToken (id deviceID : String) : RegistryQuery Unit
  | aiConfigByID (id : String) : RegistryQuery (Option AIConfig)
  /-- Deactivate every configuration, but one if it is given. -/
  | deactivateAIConfigs (except : Option String) : RegistryQuery Unit
  | createAIConfig (cfg : AIConfig) : RegistryQuery Unit
  | updateAIConfig (cfg : AIConfig) : RegistryQuery Unit
  | deleteAIConfig (id : String) : RegistryQuery Unit
  | listConfigChangeRequests : RegistryQuery (List ConfigChangeRequest)
  /-- How many requests have been reviewed. -/
  | reviewConfigChangeRequest (id status reviewedBy reviewedByName notes : String) : RegistryQuery ℕ

/-- Change the rows that a condition holds of. -/
def updateWhere {α : Type} (p : α → Bool) (f : α → α) (rows : List α) : List α :=
  rows.map fun row => if p row then f row else row

namespace Registry

/-- Change the account rows with a given id. -/
def updateAccount (r : Registry) (id : String) (f : Account → Account) : Registry :=
  { r with accounts := r.accounts.map fun a => if a.id = id then f a else a }

/-- Change the user rows with a given id. -/
def updateUser (r : Registry) (id : String) (f : User → User) : Registry :=
  { r with users := r.users.map fun u => if u.id = id then f u else u }

/-- Insert a user. The id is the primary key, and no two users have the same email. -/
def insertUser (r : Registry) (user : User) : Except String (List User) :=
  if r.users.any fun u => u.id = user.id || u.email = user.email then
    .error "duplicate key value violates unique constraint \"users_email_key\""
  else .ok (r.users ++ [user])

/-- Insert a plan. The id is the primary key. -/
def insertPlan (r : Registry) (plan : Plan) : Except String (List Plan) :=
  if r.plans.any (·.id = plan.id) then
    .error "duplicate key value violates unique constraint \"plans_pkey\""
  else .ok (r.plans ++ [plan])

/-- The plans after one has been overwritten; the column of the features cannot be empty. -/
def overwritePlan (r : Registry) (body : PlanBody) : Except String (List Plan) :=
  match body.features with
  | some features =>
    .ok (updateWhere (·.id = body.plan.id) (fun _ => { body.plan with features := features }) r.plans)
  | none =>
    if r.plans.any (·.id = body.plan.id) then
      .error "null value in column \"features\" of relation \"plans\" violates not-null constraint"
    else .ok r.plans

/-- The plans without one; a plan that somebody has paid for stays. -/
def removePlan (r : Registry) (id : String) : Except String (List Plan) :=
  if r.plans.any (·.id = id) && r.paymentRequests.any (·.planID = id) then
    .error "update or delete on table \"plans\" violates foreign key constraint"
  else .ok (r.plans.filter (·.id ≠ id))

/-- Insert a template. The id is the primary key, and the account has to exist. -/
def insertTemplate (r : Registry) (tpl : Template) : Except String (List Template) :=
  if r.templates.any (·.id = tpl.id) then
    .error "duplicate key value violates unique constraint \"templates_pkey\""
  else if !r.accounts.any (·.id = tpl.accountID) then
    .error "insert or update on table \"templates\" violates foreign key constraint"
  else .ok (r.templates ++ [tpl])

/-- Insert a release. The id is the primary key, no two releases have the same version, and the user
who submitted it has to exist. -/
def insertRelease (r : Registry) (row : AppRelease) : Except String (List AppRelease) :=
  if r.releases.any fun a => a.id = row.id || a.versionCode = row.versionCode then
    .error "duplicate key value violates unique constraint \"app_releases_version_code_key\""
  else if row.submittedBy.any fun id => !r.users.any (·.id = id) then
    .error "insert or update on table \"app_releases\" violates foreign key constraint"
  else .ok (r.releases ++ [row])

/-- The releases after a reviewer has decided about one that waits for it; the reviewer has to be a
user. -/
def reviewRelease (r : Registry) (id reviewer : String) (f : AppRelease → AppRelease) :
    Except String (List AppRelease) :=
  let waits (a : AppRelease) : Bool := a.id = id && a.status = .pendingApproval
  if r.releases.any waits && !r.users.any (·.id = reviewer) then
    .error "insert or update on table \"app_releases\" violates foreign key constraint"
  else .ok (updateWhere waits f r.releases)

/-- Insert a token that pairs a phone. The id is the primary key, no two rows have the same token, and
the account has to exist. -/
def insertPairingToken (r : Registry) (row : PairingToken) : Except String (List PairingToken) :=
  if r.pairingTokens.any fun t => t.id = row.id || t.token = row.token then
    .error "duplicate key value violates unique constraint \"qr_pairing_tokens_token_key\""
  else if !r.accounts.any (·.id = row.accountID) then
    .error "insert or update on table \"qr_pairing_tokens\" violates foreign key constraint"
  else .ok (r.pairingTokens ++ [row])

/-- Insert a configuration. The id is the primary key, the user who made it has to exist, and only
one configuration can be active. -/
def insertAIConfig (r : Registry) (cfg : AIConfig) : Except String (List AIConfig) :=
  if r.aiConfigs.any (·.id = cfg.id) then
    .error "duplicate key value violates unique constraint \"ai_configs_pkey\""
  else if cfg.isActive && r.aiConfigs.any AIConfig.isActive then
    .error "duplicate key value violates unique constraint \"idx_ai_configs_active\""
  else if cfg.createdBy.any fun id => !r.users.any (·.id = id) then
    .error "insert or update on table \"ai_configs\" violates foreign key constraint"
  else .ok (r.aiConfigs ++ [cfg])

/-- The configurations after one has been overwritten; only one can be active. -/
def overwriteAIConfig (r : Registry) (cfg : AIConfig) : Except String (List AIConfig) :=
  if r.aiConfigs.any (·.id = cfg.id) && cfg.isActive &&
      r.aiConfigs.any fun row => row.id ≠ cfg.id && row.isActive then
    .error "duplicate key value violates unique constraint \"idx_ai_configs_active\""
  else .ok (updateWhere (·.id = cfg.id) (fun row => { cfg with createdBy := row.createdBy })
    r.aiConfigs)

/-- The requests to change the configuration after one that waits has been reviewed, and whether
there was one; the reviewer has to be a user. -/
def reviewConfig (r : Registry) (id reviewer : String) (f : ConfigChangeRequest → ConfigChangeRequest) :
    Except String ℕ × List ConfigChangeRequest :=
  let waits (cr : ConfigChangeRequest) : Bool := cr.id = id && cr.status = "pending"
  if r.configChangeRequests.any waits && !r.users.any (·.id = reviewer) then
    (.error "insert or update on table \"config_change_requests\" violates foreign key constraint",
      r.configChangeRequests)
  else (.ok (r.configChangeRequests.countP waits), updateWhere waits f r.configChangeRequests)

/-- What becomes of a reference to rows that are deleted. -/
def orphan (ids : List String) (reference : Option String) : Option String :=
  reference.filter (· ∉ ids)

end Registry

/-- What a statement that replaces a table comes to; an error leaves the table as it is. -/
def replaced {α : Type} (old : List α) : Except String (List α) → Except String Unit × List α
  | .error e => (.error e, old)
  | .ok rows => (.ok (), rows)

/-- The row that `UPDATE accounts` leaves of a row when it writes an account back; neither the
email nor the password is among its columns. -/
def Account.overwrite (account row : Account) : Account :=
  { row with
    name := account.name
    planID := account.planID
    retentionDays := account.retentionDays
    verified := account.verified
    status := account.status
    riskScore := account.riskScore }

namespace RegistryQuery

/-- What a statement returns, and the tables after it. -/
def run (r : Registry) : {β : Type} → RegistryQuery β → Except String β × Registry
  | _, accountByID id => (.ok (r.accounts.find? (·.id = id)), r)
  | _, accountByEmail email => (.ok (r.accounts.find? (·.email = email)), r)
  | _, updateAccount account => (.ok (), r.updateAccount account.id account.overwrite)
  | _, suspend id => (.ok (), r.updateAccount id fun a => { a with status := .suspended })
  | _, activate id => (.ok (), r.updateAccount id fun a => { a with status := .active })
  | _, userByID id => (.ok (r.users.find? (·.id = id)), r)
  | _, userByEmail email => (.ok (r.users.find? (·.email = email)), r)
  | _, createUser user =>
    let t := replaced r.users (r.insertUser user)
    (t.1, { r with users := t.2 })
  | _, updateUser user =>
    (.ok (), r.updateUser user.id fun row =>
      { row with name := user.name, role := user.role, status := user.status, avatar := user.avatar })
  | _, updatePassword id passwordHash =>
    (.ok (), r.updateUser id fun row => { row with passwordHash := passwordHash })
  | _, deleteUsers ids =>
    (.ok (), { r with
      users := r.users.filter (·.id ∉ ids)
      releases := r.releases.map fun a =>
        { a with
          submittedBy := Registry.orphan ids a.submittedBy
          approvedBy := Registry.orphan ids a.approvedBy
          rejectedBy := Registry.orphan ids a.rejectedBy }
      aiConfigs := r.aiConfigs.map fun cfg =>
        { cfg with createdBy := Registry.orphan ids cfg.createdBy }
      configChangeRequests := (r.configChangeRequests.filter (·.requestedBy ∉ ids)).map fun cr =>
        { cr with reviewedBy := Registry.orphan ids cr.reviewedBy } })
  | _, bulkUpdateUsers ids role status =>
    (.ok (), { r with
      users := updateWhere (·.id ∈ ids)
        (fun u => { u with role := role.getD u.role, status := status.getD u.status }) r.users })
  | _, plan id => (.ok (r.plans.find? (·.id = id)), r)
  | _, createPlan p =>
    let t := replaced r.plans (r.insertPlan p)
    (t.1, { r with plans := t.2 })
  | _, updatePlan body =>
    let t := replaced r.plans (r.overwritePlan body)
    (t.1, { r with plans := t.2 })
  | _, deletePlan id =>
    let t := replaced r.plans (r.removePlan id)
    (t.1, { r with plans := t.2 })
  | _, planChangeRequestByID id => (.ok (r.planChangeRequests.find? (·.id = id)), r)
  | _, reviewPlanChangeRequest id status reviewedBy reviewedByName notes =>
    let waits (pr : PlanChangeRequest) : Bool := pr.id = id && pr.status = "pending"
    (.ok (r.planChangeRequests.countP waits), { r with
      planChangeRequests := updateWhere waits
        (fun pr => { pr with
          status := status
          reviewedBy := some reviewedBy
          reviewedByName := reviewedByName
          reviewNotes := notes }) r.planChangeRequests })
  | _, reviewPaymentRequest id status reviewedBy notes =>
    (.ok (), { r with
      paymentRequests := updateWhere (·.id = id)
        (fun pr => { pr with status := status, reviewedBy := some reviewedBy, reviewNotes := notes })
        r.paymentRequests })
  | _, subscriptionRequestByID id => (.ok (r.subscriptionRequests.find? (·.id = id)), r)
  | _, reviewSubscriptionRequest id status reviewedBy notes =>
    (.ok (), { r with
      subscriptionRequests := updateWhere (·.id = id)
        (fun sr => { sr with status := status, reviewedBy := some reviewedBy, reviewNotes := notes })
        r.subscriptionRequests })
  | _, reviewKyc id status reviewedBy now notes =>
    (.ok (), { r with
      kycRecords := updateWhere (·.id = id)
        (fun k => { k with
          status := status
          reviewedBy := some reviewedBy
          reviewedAt := some now
          reviewNotes := notes }) r.kycRecords })
  | _, templateByID id => (.ok (r.templates.find? (·.id = id)), r)
  | _, countTemplates accountID => (.ok (r.templates.countP (·.accountID = accountID)), r)
  | _, createTemplate tpl =>
    let t := replaced r.templates (r.insertTemplate tpl)
    (t.1, { r with templates := t.2 })
  | _, updateTemplate tpl =>
    (.ok (), { r with
      templates := updateWhere (fun t => t.id = tpl.id && t.accountID = tpl.accountID)
        (fun t => { t with name := tpl.name, body := tpl.body, variableNames := tpl.variableNames })
        r.templates })
  | _, approveTemplate id now =>
    (.ok (), { r with
      templates := updateWhere (·.id = id)
        (fun t => { t with approvalStatus := .approved, approvedAt := some now }) r.templates })
  | _, rejectTemplate id =>
    (.ok (), { r with
      templates := updateWhere (·.id = id) (fun t => { t with approvalStatus := .rejected })
        r.templates })
  | _, bulkApproveTemplates ids now =>
    let waits (t : Template) : Bool := t.id ∈ ids && t.approvalStatus = .pending
    (.ok (r.templates.countP waits), { r with
      templates := updateWhere waits
        (fun t => { t with approvalStatus := .approved, approvedAt := some now }) r.templates })
  | _, bulkRejectTemplates ids =>
    let waits (t : Template) : Bool := t.id ∈ ids && t.approvalStatus = .pending
    (.ok (r.templates.countP waits), { r with
      templates := updateWhere waits (fun t => { t with approvalStatus := .rejected }) r.templates })
  | _, createRelease row =>
    let t := replaced r.releases (r.insertRelease row)
    (t.1, { r with releases := t.2 })
  | _, submitForApproval id =>
    (.ok (), { r with
      releases := updateWhere (fun a => a.id = id && a.status = .draft)
        (fun a => { a with status := .pendingApproval }) r.releases })
  | _, updateAPK id apkURL filename sizeBytes =>
    (.ok (), { r with
      releases := updateWhere (fun a => a.id = id && a.status = .draft)
        (fun a => { a with apkURL := apkURL, apkFilename := filename, apkSizeBytes := sizeBytes })
        r.releases })
  | _, approveRelease id approvedBy approvedByName =>
    let t := replaced r.releases (r.reviewRelease id approvedBy fun a =>
      { a with status := .approved, approvedBy := some approvedBy, approvedByName := approvedByName })
    (t.1, { r with releases := t.2 })
  | _, rejectRelease id rejectedBy reason =>
    let t := replaced r.releases (r.reviewRelease id rejectedBy fun a =>
      { a with status := .rejected, rejectedBy := some rejectedBy, rejectionReason := reason })
    (t.1, { r with releases := t.2 })
  | _, withdrawReleased =>
    (.ok (), { r with
      releases := updateWhere (·.status = .released) (fun a => { a with status := .approved })
        r.releases })
  | _, release id now =>
    (.ok (), { r with
      releases := updateWhere (fun a => a.id = id && a.status = .approved)
        (fun a => { a with status := .released, releasedAt := some now }) r.releases })
  | _, deleteRelease id =>
    (.ok (), { r with
      releases := r.releases.filter fun a =>
        !(a.id = id && (a.status = .draft || a.status = .rejected)) })
  | _, twoFactorByID id => (.ok (r.twoFactorSecrets.find? (·.id = id)), r)
  | _, twoFactorByUserID userID =>
    (.ok (r.twoFactorSecrets.find? (·.userID = some userID)), r)
  | _, twoFactorByAccountID accountID =>
    (.ok (r.twoFactorSecrets.find? (·.accountID = some accountID)), r)
  | _, revokeSession sessionID userID now =>
    let active (s : UserSession) : Bool :=
      s.id = sessionID && s.userID = userID && s.revokedAt.isNone
    (.ok (r.userSessions.countP active), { r with
      userSessions := updateWhere active (fun s => { s with revokedAt := some now }) r.userSessions })
  | _, revokeSessions userID userType currentTokenHash now =>
    (.ok (), { r with
      userSessions := updateWhere (fun s => s.userID = userID && s.userType = userType &&
          s.revokedAt.isNone && s.tokenHash ≠ currentTokenHash)
        (fun s => { s with revokedAt := some now }) r.userSessions })
  | _, pairingToken token => (.ok (r.pairingTokens.find? (·.token = token)), r)
  | _, invalidatePairingTokens accountID =>
    (.ok (), { r with
      pairingTokens := updateWhere (fun t => t.accountID = accountID && !t.used)
        (fun t => { t with used := true }) r.pairingTokens })
  | _, createPairingToken row =>
    let t := replaced r.pairingTokens (r.insertPairingToken row)
    (t.1, { r with pairingTokens := t.2 })
  | _, markPairingToken id deviceID =>
    (.ok (), { r with
      pairingTokens := updateWhere (·.id = id)
        (fun t => { t with used := true, deviceID := some deviceID }) r.pairingTokens })
  | _, aiConfigByID id => (.ok (r.aiConfigs.find? (·.id = id)), r)
  | _, deactivateAIConfigs except =>
    (.ok (), { r with
      aiConfigs := updateWhere (fun cfg => cfg.isActive && some cfg.id ≠ except)
        (fun cfg => { cfg with isActive := false }) r.aiConfigs })
  | _, createAIConfig cfg =>
    let t := replaced r.aiConfigs (r.insertAIConfig cfg)
    (t.1, { r with aiConfigs := t.2 })
  | _, updateAIConfig cfg =>
    let t := replaced r.aiConfigs (r.overwriteAIConfig cfg)
    (t.1, { r with aiConfigs := t.2 })
  | _, deleteAIConfig id =>
    (.ok (), { r with aiConfigs := r.aiConfigs.filter (·.id ≠ id) })
  | _, listConfigChangeRequests => (.ok r.configChangeRequests.reverse, r)
  | _, reviewConfigChangeRequest id status reviewedBy reviewedByName notes =>
    let t := r.reviewConfig id reviewedBy fun cr =>
      { cr with
        status := status
        reviewedBy := some reviewedBy
        reviewedByName := reviewedByName
        reviewNotes := notes }
    (t.1, { r with configChangeRequests := t.2 })

end RegistryQuery

end AeroxeBee
