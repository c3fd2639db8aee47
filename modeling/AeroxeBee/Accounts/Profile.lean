import AeroxeBee.Server

/-!
# The handlers of the account row

Members change the name and the password of their account, administrators suspend and activate
it and approve a new plan for it. A member's handler reads the whole row, changes it, and writes
all of its columns back (`amendAccount`); an administrator's sets one column.
-/

namespace AeroxeBee.Accounts

open Foundations

/-- Who sends a request, as the middleware has read it from the token. -/
structure Principal where
  accountID : String
  isAdmin : Bool

/-- The response to a request: an error, or the fields of the data. -/
abbrev Answer := Except HttpError (List (String × String))

/-! ## Passwords -/

/-- The hash function for passwords and the classes of characters they are checked by. -/
structure Passwords where
  compare (hash password : String) : Bool
  generate (salt password : String) : Except String String
  isUpper : Char → Bool
  isLower : Char → Bool
  isDigit : Char → Bool
  isPunctOrSymbol : Char → Bool
  toLower : Char → Char

namespace Passwords

variable (pw : Passwords)

/-- A character is counted in the first class that it belongs to. -/
def special (c : Char) : Bool :=
  !pw.isUpper c && !pw.isLower c && !pw.isDigit c && pw.isPunctOrSymbol c

/-- Passwords that are refused although they have characters of every class. -/
def weakPasswords : List String :=
  ["password1!", "admin123!", "letmein1!", "welcome1!", "qwerty123!", "abc12345!", "password123!"]

/-- What is wrong with a password. -/
def strength (password : String) : Option String :=
  let cs := password.toList
  if password.utf8ByteSize < 8 then some "password must be at least 8 characters"
  else if 128 < password.utf8ByteSize then some "password must be at most 128 characters"
  else if !cs.any pw.isUpper then some "password must contain at least one uppercase letter"
  else if !cs.any (fun c => !pw.isUpper c && pw.isLower c) then
    some "password must contain at least one lowercase letter"
  else if !cs.any (fun c => !pw.isUpper c && !pw.isLower c && pw.isDigit c) then
    some "password must contain at least one digit"
  else if !cs.any pw.special then
    some "password must contain at least one special character (!@#$%^&*)"
  else if String.ofList (cs.map pw.toLower) ∈ weakPasswords then
    some "password is too common, choose a more unique password"
  else none

end Passwords

/-- A password and the one that is to replace it. -/
structure PasswordChange where
  oldPassword : String
  newPassword : String

/-! ## Members -/

/-- Change an account that has been read, and write it back. -/
def writeBack (change : Account → ServerProg (Except HttpError Account)) (failed : HttpError)
    (answer : Account → List (String × String)) (account : Account) : ServerProg Answer := do
  match ← change account with
  | .error e => return .error e
  | .ok account =>
    match ← Prog.call (.db (.registry (.updateAccount account))) with
    | .error _ => return .error failed
    | .ok _ => return .ok (answer account)

/-- Read an account, change it, and write it back. -/
def amendAccount (id : String) (unread : HttpError)
    (change : Account → ServerProg (Except HttpError Account)) (failed : HttpError)
    (answer : Account → List (String × String)) : ServerProg Answer := do
  match ← Prog.call (.db (.registry (.accountByID id))) with
  | .error _ => return .error unread
  | .ok none => return .error ⟨404, "account not found"⟩
  | .ok (some account) => writeBack change failed answer account

/-- The account under a new name; the empty name changes nothing. -/
def rename (name : String) (account : Account) : Account :=
  if name ≠ "" then { account with name := name } else account

/-- Replace the password of a row that has this hash. -/
def rehash (pw : Passwords) (hash : String) (req : PasswordChange) :
    ServerProg (Except HttpError String) :=
  if !pw.compare hash req.oldPassword then return .error ⟨401, "incorrect password"⟩
  else do
    let salt ← Prog.call .nonce
    match salt.bind fun salt => pw.generate salt req.newPassword with
    | .error _ => return .error ⟨500, "failed to hash password"⟩
    | .ok hash => return .ok hash

/-- The account with a new password. -/
def changeHash (pw : Passwords) (req : PasswordChange) (account : Account) :
    ServerProg (Except HttpError Account) := do
  match ← rehash pw account.passwordHash req with
  | .error e => return .error e
  | .ok hash => return .ok { account with passwordHash := hash }

namespace AuthHandler

/-- A user of the admin panel changes the own name. -/
def updateUserProfile (id name : String) : ServerProg Answer := do
  match ← Prog.call (.db (.registry (.userByID id))) with
  | .error _ | .ok none => return .error ⟨404, "user not found"⟩
  | .ok (some user) =>
    let user := if name ≠ "" then { user with name := name } else user
    match ← Prog.call (.db (.registry (.updateUser user))) with
    | .error _ => return .error ⟨500, "failed to update profile"⟩
    | .ok _ => return .ok [("id", user.id), ("name", user.name)]

/-- `PUT /api/v1/auth/profile`. -/
def updateProfile (who : Principal) (body : Option String) : ServerProg Answer :=
  if who.accountID = "" then return .error ⟨401, "unauthorized"⟩
  else
    match body with
    | none => return .error ⟨400, "invalid request"⟩
    | some name =>
      if who.isAdmin then updateUserProfile who.accountID name
      else
        amendAccount who.accountID ⟨404, "account not found"⟩
          (fun account => return .ok (rename name account)) ⟨500, "failed to update profile"⟩
          fun account => [("id", account.id), ("name", account.name)]

/-- A user of the admin panel changes the own password. -/
def changeUserPassword (pw : Passwords) (id : String) (req : PasswordChange) :
    ServerProg Answer := do
  match ← Prog.call (.db (.registry (.userByID id))) with
  | .error _ | .ok none => return .error ⟨404, "user not found"⟩
  | .ok (some user) =>
    match ← rehash pw user.passwordHash req with
    | .error e => return .error e
    | .ok hash =>
      match ← Prog.call (.db (.registry (.updatePassword user.id hash))) with
      | .error _ => return .error ⟨500, "failed to update password"⟩
      | .ok _ => return .ok []

/-- `POST /api/v1/auth/change-password`. -/
def changePassword (pw : Passwords) (who : Principal) (body : Option PasswordChange) :
    ServerProg Answer :=
  if who.accountID = "" then return .error ⟨401, "unauthorized"⟩
  else
    match body with
    | none => return .error ⟨400, "invalid request"⟩
    | some req =>
      match pw.strength req.newPassword with
      | some text => return .error ⟨400, text⟩
      | none =>
        if who.isAdmin then changeUserPassword pw who.accountID req
        else
          amendAccount who.accountID ⟨404, "account not found"⟩ (changeHash pw req)
            ⟨500, "failed to update password"⟩ fun _ => []

end AuthHandler

namespace AccountHandler

/-- `PUT /api/v1/account/profile`. -/
def updateProfile (who : Principal) : Option String → ServerProg Answer
  | none => return .error ⟨400, "invalid request"⟩
  | some name =>
    amendAccount who.accountID ⟨500, "database error"⟩
      (fun account => return .ok (rename name account)) ⟨500, "failed to update profile"⟩
      fun account => [("id", account.id), ("name", account.name)]

end AccountHandler

/-! ## Administrators -/

/-- One statement, and nothing else. -/
def statement (q : RegistryQuery Unit) (failed : HttpError) : ServerProg Answer := do
  match ← Prog.call (.db (.registry q)) with
  | .error _ => return .error failed
  | .ok _ => return .ok []

namespace AdminHandler

/-- `POST /api/v1/admin/accounts/{id}/suspend`. -/
def suspendAccount (id : String) : ServerProg Answer :=
  statement (.suspend id) ⟨500, "failed to suspend"⟩

/-- `POST /api/v1/admin/accounts/{id}/activate`. -/
def activateAccount (id : String) : ServerProg Answer :=
  statement (.activate id) ⟨500, "failed to activate"⟩

end AdminHandler

namespace SubscriptionRequestHandler

/-- The subscription under the requested plan, with the limits that the plan has now. -/
def snapshot (sr : SubscriptionRequest) (plan : Plan) (sub : Subscription) : Subscription :=
  { sub with
    planType := plan.id
    billingCycle := sr.requestedBillingCycle
    status := "active"
    quotaDaily := plan.dailyQuota
    quotaMonthly := plan.monthlyQuota
    overageBufferPct := plan.overageBufferPct
    maxQueueDepth := plan.maxQueueDepth
    maxTemplates := plan.maxTemplates
    dedicatedPool := plan.dedicatedPool
    defaultRoutingStrategy := plan.defaultRoutingStrategy }

/-- Put the account of a request on the requested plan, if it has a subscription. -/
def subscribe (sr : SubscriptionRequest) (plan : Plan) : ServerProg Answer := do
  match ← Prog.call (.db (.subscription sr.accountID)) with
  | .error _ | .ok none => return .ok []
  | .ok (some sub) =>
    let _ ← Prog.call (.db (.updateSubscription (snapshot sr plan sub)))
    return .ok []

/-- `POST /api/v1/admin/subscription-requests/{id}/approve`. -/
def approve (who : Principal) (id notes : String) : ServerProg Answer := do
  match ← Prog.call (.db (.registry (.subscriptionRequestByID id))) with
  | .error _ | .ok none => return .error ⟨404, "not found"⟩
  | .ok (some sr) =>
    match ← Prog.call (.db (.registry (.reviewSubscriptionRequest id "approved" who.accountID notes))) with
    | .error _ => return .error ⟨500, "failed to approve"⟩
    | .ok _ =>
      match ← Prog.call (.db (.registry (.plan sr.requestedPlan))) with
      | .error _ | .ok none => return .error ⟨500, "plan not found"⟩
      | .ok (some plan) => subscribe sr plan

end SubscriptionRequestHandler

end AeroxeBee.Accounts
