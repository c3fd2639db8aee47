import AeroxeBee.Accounts.Concurrent
import AeroxeBee.Accounts.Tokens

/-!
# The second factor

A login with a password and a code. The first request checks the password; where the second factor
is enabled, it answers with a token that only the second request accepts, which checks the code. The
first request looks for the secret under the user or the account it belongs to, the second one under
the id of its row.

* `login_returns`: what the token of the first request says;
* `secondStep_works_iff`: when the second request accepts the codes of the secret, and no others.
-/

namespace AeroxeBee.Accounts

open Foundations

/-! ## Codes -/

/-- The functions that codes are made with: upper case, the bytes of a text in base 32 as far as it
can be decoded, and the digest of a message under a key. -/
structure Digests where
  toUpper : String → String
  decodeBase32 : String → List UInt8
  hmacSHA1 : List UInt8 → List UInt8 → Vector UInt8 20

/-- The number that bytes stand for, the most significant first. -/
def bigEndian (bytes : List UInt8) : ℕ := bytes.foldl (fun n b => n * 256 + b.toNat) 0

/-- The eight bytes of a number, the most significant first. -/
def putUint64 (t : ℤ) : List UInt8 :=
  (List.range 8).map fun i => UInt8.ofNat ((t % 2 ^ 64).toNat / 256 ^ (7 - i))

/-- A number in decimal, with zeros in front up to six digits. -/
def sixDigits (n : ℕ) : String :=
  let ds := Nat.toDigits 10 n
  String.ofList (List.replicate (6 - ds.length) '0' ++ ds)

theorem sixDigits_ne_empty (n : ℕ) : sixDigits n ≠ "" := by
  intro h
  have hnil : List.replicate (6 - (Nat.toDigits 10 n).length) '0' ++ Nat.toDigits 10 n = [] := by
    exact String.ofList_eq_empty_iff.1 h
  obtain ⟨hzeros, hdigits⟩ := List.append_eq_nil_iff.1 hnil
  rw [hdigits] at hzeros
  cases hzeros

variable (digests : Digests)

/-- The code of a secret in a step of thirty seconds. -/
def generateCode (secret : String) (t : ℤ) : String :=
  let key := digests.decodeBase32 (digests.toUpper secret)
  let hash := digests.hmacSHA1 key (putUint64 t)
  let offset := hash[19].toNat % 16
  let code := bigEndian ((hash.toList.drop offset).take 4) % 2 ^ 31
  sixDigits (code % 1000000)

/-- The codes of a secret at a time in seconds: those of this step and of its neighbours. -/
def currentCodes (secret : String) (now : ℤ) : List String :=
  [-1, 0, 1].map fun i => generateCode digests secret (now.tdiv 30 + i)

/-- Whether a code is one of a secret at a time in seconds. -/
def verifyTOTP (secret code : String) (now : ℤ) : Bool :=
  [-1, 0, 1].any fun i => generateCode digests secret (now.tdiv 30 + i) = code

theorem verifyTOTP_iff (secret code : String) (now : ℤ) :
    verifyTOTP digests secret code now = true ↔ code ∈ currentCodes digests secret now := by
  simp only [verifyTOTP, currentCodes, List.any_eq_true, List.mem_map, decide_eq_true_eq]

theorem ne_empty_of_mem_currentCodes {secret code : String} {now : ℤ}
    (h : code ∈ currentCodes digests secret now) : code ≠ "" := by
  obtain ⟨i, -, rfl⟩ := List.mem_map.1 h
  exact sixDigits_ne_empty _

/-- Check a code for the secret with an id. -/
def verifyCode (id code : String) : ServerProg (Except String Bool) := do
  match ← Prog.call (.db (.registry (.twoFactorByID id))) with
  | .error e => return .error e
  | .ok none => return .ok false
  | .ok (some sec) =>
    if !sec.enabled then return .ok false
    else do
      let now ← Prog.call .now
      return .ok (verifyTOTP digests sec.secret code (unix now))

/-! ## Logins -/

/-- Who logs in: a user of the admin panel or a member. -/
inductive LoginRow where
  | user (row : User)
  | account (row : Account)
deriving DecidableEq

namespace LoginRow

/-- The id of the row. -/
def id : LoginRow → String
  | user row => row.id
  | account row => row.id

/-- The email of the row. -/
def email : LoginRow → String
  | user row => row.email
  | account row => row.email

/-- The hash of the password. -/
def passwordHash : LoginRow → String
  | user row => row.passwordHash
  | account row => row.passwordHash

/-- Whether the row may be used. -/
def status : LoginRow → String
  | user row => row.status
  | account row => row.status.name

/-- The row is one of the admin panel. -/
def isStaff : LoginRow → Bool
  | user _ => true
  | account _ => false

/-- The row with the same id. -/
def find (who : LoginRow) (r : Registry) : Option LoginRow :=
  match who with
  | user row => (r.users.find? (·.id = row.id)).map user
  | account row => (r.accounts.find? (·.id = row.id)).map account

/-- The secret that belongs to the row. -/
def secret (who : LoginRow) (r : Registry) : Option TwoFASecret :=
  match who with
  | user row => r.twoFactorSecrets.find? (·.userID = some row.id)
  | account row => r.twoFactorSecrets.find? (·.accountID = some row.id)

end LoginRow

/-- The answer to a login: an error, the tokens of the row that is logged in, or a token for the
second step. The id, the email, the name and the role of the row are shown with the tokens. -/
inductive LoginAnswer where
  | error (e : HttpError)
  | tokens (token refresh : String) (who : LoginRow)
  | pending (token : String) (who : LoginRow)
deriving DecidableEq

/-- Somebody is logged in. -/
def LoginAnswer.issues : LoginAnswer → Bool
  | tokens _ _ _ => true
  | _ => false

/-- What the handlers of logins are given when the server starts. -/
structure LoginServices where
  cfg : Config
  passwords : Passwords
  tokens : TokenLibrary
  digests : Digests

/-- The purpose of the token for the second step. -/
def pendingPurpose : String := "2fa_pending"

/-- Whether a secret of the row is enabled; an error counts as none. -/
def isEnabled (who : LoginRow) : ServerProg Bool :=
  let lookup (q : RegistryQuery (Option TwoFASecret)) : ServerProg Bool := do
    match ← Prog.call (.db (.registry q)) with
    | .ok (some sec) => return sec.enabled
    | _ => return false
  if who.id = "" then return false
  else
    match who with
    | .user row => lookup (.twoFactorByUserID row.id)
    | .account row => lookup (.twoFactorByAccountID row.id)

namespace AuthHandler

variable (svc : LoginServices)

/-- Log in a row that has been found under its email. -/
def loginRow (password : String) (who : LoginRow) : ServerProg LoginAnswer :=
  if who.status ≠ "active" then return .error ⟨403, "account is " ++ who.status⟩
  else if !svc.passwords.compare who.passwordHash password then
    return .error ⟨401, "invalid email or password"⟩
  else do
    match ← generateToken svc.tokens who.id who.email who.isStaff 900000000000 with
    | .error _ => return .error ⟨500, "token generation failed"⟩
    | .ok token =>
      match ← generateToken svc.tokens who.id who.email who.isStaff 604800000000000 with
      | .error _ => return .error ⟨500, "refresh token generation failed"⟩
      | .ok refresh =>
        if ← isEnabled who then
          match ← generateTokenWithPurpose svc.tokens who.id who.email who.isStaff 300000000000
              pendingPurpose with
          | .error _ => return .error ⟨500, "token generation failed"⟩
          | .ok tempToken => return .pending tempToken who
        else return .tokens token refresh who

/-- The body of the first request. -/
structure LoginRequest where
  email : String
  password : String

/-- Log in a member. -/
def loginMember (req : LoginRequest) : ServerProg LoginAnswer := do
  match ← Prog.call (.db (.registry (.accountByEmail req.email))) with
  | .error _ => return .error ⟨500, "database error"⟩
  | .ok none => return .error ⟨401, "invalid email or password"⟩
  | .ok (some account) => loginRow svc req.password (.account account)

/-- `POST /api/v1/auth/login`. Users come before members. -/
def login : Option LoginRequest → ServerProg LoginAnswer
  | none => return .error ⟨400, "invalid request body"⟩
  | some req =>
    if req.email = "" ∨ req.password = "" then
      return .error ⟨400, "email and password are required"⟩
    else do
      match ← Prog.call (.db (.registry (.userByEmail req.email))) with
      | .ok (some user) => loginRow svc req.password (.user user)
      | _ => loginMember svc req

/-- The body of the second request. -/
structure Login2FARequest where
  token : String
  code : String

/-- Check the code of a row, and log it in. Errors in the making of its tokens are dropped. -/
def verifySecond (code : String) (who : LoginRow) : ServerProg LoginAnswer := do
  match ← verifyCode svc.digests who.id code with
  | .ok true =>
    let token ← generateToken svc.tokens who.id who.email who.isStaff 900000000000
    let refresh ← generateToken svc.tokens who.id who.email who.isStaff 604800000000000
    return .tokens (token.toOption.getD "") (refresh.toOption.getD "") who
  | _ => return .error ⟨401, "invalid 2FA code"⟩

/-- Find the row that a token names, and check its code. -/
def loginClaimed (code userID : String) : Bool → ServerProg LoginAnswer
  | true => do
    match ← Prog.call (.db (.registry (.userByID userID))) with
    | .ok (some user) => verifySecond svc code (.user user)
    | _ => return .error ⟨401, "user not found"⟩
  | false => do
    match ← Prog.call (.db (.registry (.accountByID userID))) with
    | .ok (some account) => verifySecond svc code (.account account)
    | _ => return .error ⟨401, "account not found"⟩

/-- `POST /api/v1/auth/login/2fa`. -/
def login2FA : Option Login2FARequest → ServerProg LoginAnswer
  | none => return .error ⟨400, "invalid request body"⟩
  | some req =>
    if req.token = "" ∨ req.code = "" then return .error ⟨400, "token and code are required"⟩
    else do
      let now ← Prog.call .now
      match svc.tokens.parse now req.token with
      | none => return .error ⟨401, "invalid or expired 2FA token"⟩
      | some claims =>
        if claims.purpose.getD "" ≠ pendingPurpose then return .error ⟨401, "invalid token type"⟩
        else loginClaimed svc req.code (claims.sub.getD "") claims.admin

end AuthHandler

/-! ## The first request -/

/-- A token was signed for some claims. -/
def Carries (tokens : TokenLibrary) (text : String) (claims : Claims) : Prop :=
  ∃ email iat exp, tokens.sign claims email iat exp = .ok text

theorem generateTokenWithPurpose_returns (tokens : TokenLibrary) (id email : String) (admin : Bool)
    (ttl : ℤ) (purpose : String) :
    (generateTokenWithPurpose tokens id email admin ttl purpose).Returns fun r =>
      ∀ text, r = .ok text →
        Carries tokens text ⟨some id, admin, if purpose ≠ "" then some purpose else none⟩ :=
  fun iat exp _ hsign => ⟨email, unix iat, unix (exp + ttl), hsign⟩

section Handlers

variable {svc : LoginServices}

/-- The answer asks for the second step only with a token for it. -/
def AsksFor (svc : LoginServices) (answer : LoginAnswer) : Prop :=
  ∀ token who, answer = .pending token who →
    Carries svc.tokens token ⟨some who.id, who.isStaff, some pendingPurpose⟩

theorem loginRow_returns (password : String) (who : LoginRow) :
    (AuthHandler.loginRow svc password who).Returns (AsksFor svc) := by
  unfold AuthHandler.loginRow
  split_ifs with hstatus hpassword
  · exact fun _ _ h => nomatch h
  · exact fun _ _ h => nomatch h
  refine Prog.Returns.bind (Prog.Returns.of_forall (Q := fun _ => True) (fun _ => trivial) _)
    fun r _ => ?_
  cases r with
  | error e => exact fun _ _ h => nomatch h
  | ok token =>
    refine Prog.Returns.bind (Prog.Returns.of_forall (Q := fun _ => True) (fun _ => trivial) _)
      fun r _ => ?_
    cases r with
    | error e => exact fun _ _ h => nomatch h
    | ok refresh =>
      refine Prog.Returns.bind (Prog.Returns.of_forall (Q := fun _ => True) (fun _ => trivial) _)
        fun enabled _ => ?_
      cases enabled with
      | false => exact fun _ _ h => nomatch h
      | true =>
        refine Prog.Returns.bind (generateTokenWithPurpose_returns svc.tokens who.id who.email
          who.isStaff 300000000000 pendingPurpose) fun r hr => ?_
        cases r with
        | error e => exact fun _ _ h => nomatch h
        | ok tempToken =>
          rintro token who' ⟨⟩
          exact hr tempToken rfl

theorem loginMember_returns (req : AuthHandler.LoginRequest) :
    (AuthHandler.loginMember svc req).Returns (AsksFor svc) := by
  intro account
  rcases account with e | _ | account
  · exact fun _ _ h => nomatch h
  · exact fun _ _ h => nomatch h
  · exact loginRow_returns req.password (.account account)

variable (svc) in
/-- **The token of the first request names the row whose password was checked.** -/
theorem login_returns (body : Option AuthHandler.LoginRequest) :
    (AuthHandler.login svc body).Returns (AsksFor svc) := by
  cases body with
  | none => exact fun _ _ h => nomatch h
  | some req =>
    unfold AuthHandler.login
    dsimp only
    split_ifs with hempty
    · exact fun _ _ h => nomatch h
    · intro user
      rcases user with e | _ | user
      · exact loginMember_returns req
      · exact loginMember_returns req
      · exact loginRow_returns req.password (.user user)

/-! ## The second request -/

/-- What a lookup in the registry comes to. -/
theorem step_lookup (cfg : Config) {v : World} (h : Alone v) {β : Type} (q : RegistryQuery β)
    (hread : (q.run v.db.registry).2 = v.db.registry) :
    ((v.next.fault = .none ∧
        ((server cfg).step (.db (.registry q)) v).1 = (q.run v.db.registry).1) ∨
      (v.next.fault ≠ .none ∧ ∃ e, ((server cfg).step (.db (.registry q)) v).1 = .error e)) ∧
      ((server cfg).step (.db (.registry q)) v).2.db.registry = v.db.registry := by
  have hrun : (Query.run v.db (.registry q)).2 = v.db :=
    congrArg (fun r => { v.db with registry := r }) hread
  obtain ⟨hval, hdb⟩ := h.step_lookup cfg (.registry q) hrun
  exact ⟨hval, congrArg Database.registry hdb⟩

/-- The code opens the secret whose row has an id: the lookup is answered, and the secret is enabled
and has the code at the time it is checked. -/
def Opens (digests : Digests) (v : World) (id code : String) : Prop :=
  v.next.fault = .none ∧ ∃ sec, v.db.registry.twoFactorSecrets.find? (·.id = id) = some sec ∧
    sec.enabled = true ∧ code ∈ currentCodes digests sec.secret (unix (v.clockAt 1))

/-- **When a code is accepted.** -/
theorem verifyCode_ok (cfg : Config) (digests : Digests) {v : World} (h : Alone v)
    (id code : String) :
    ((verifyCode digests id code).exec (server cfg) v).val = .ok true ↔ Opens digests v id code := by
  let lookup : RegistryQuery (Option TwoFASecret) := .twoFactorByID id
  have hnow : ((server cfg).step .now ((server cfg).step (.db (.registry lookup)) v).2).1 =
      v.clockAt 1 := by
    rw [step_now_val, step_clockAt]
  unfold verifyCode Opens
  rw [Prog.call_bind, Prog.exec_act]
  obtain ⟨⟨hfault, hval⟩ | ⟨hfault, e, hval⟩, -⟩ := step_lookup cfg h lookup rfl
  · rw [hval, and_iff_right hfault]
    dsimp only [lookup, RegistryQuery.run]
    cases hsec : v.db.registry.twoFactorSecrets.find? (·.id = id) with
    | none => exact iff_of_false nofun fun ⟨sec, hfound, _⟩ => nomatch hfound
    | some sec =>
      by_cases henabled : sec.enabled = true
      · -- the code is compared with those of the time at which the clock is read
        dsimp only
        rw [henabled, Prog.call_bind, if_neg (by decide), Prog.exec_act, hnow]
        change Except.ok (verifyTOTP digests sec.secret code (unix (v.clockAt 1))) = .ok true ↔ _
        simp [verifyTOTP_iff, henabled]
      · dsimp only
        rw [if_pos (by simpa using henabled)]
        refine iff_of_false nofun ?_
        rintro ⟨sec', hfound, henabled', -⟩
        cases hfound
        exact henabled henabled'
  · rw [hval]
    exact iff_of_false nofun fun hopens => hfault hopens.1

/-- A row is logged in: its answer carries tokens for it. -/
def LogsIn (svc : LoginServices) (who : LoginRow) (answer : LoginAnswer) : Prop :=
  ∃ token refresh, answer = .tokens token refresh who ∧
    Carries svc.tokens token ⟨some who.id, who.isStaff, none⟩ ∧
    Carries svc.tokens refresh ⟨some who.id, who.isStaff, none⟩

theorem generateToken_carries (hlawful : svc.tokens.Lawful) (id email : String) (admin : Bool)
    (ttl : ℤ) (v : World) :
    Carries svc.tokens (((generateToken svc.tokens id email admin ttl).exec (server svc.cfg)
      v).val.toOption.getD "") ⟨some id, admin, none⟩ := by
  let iat := ((server svc.cfg).step .now v).1
  let exp := ((server svc.cfg).step .now ((server svc.cfg).step .now v).2).1
  obtain ⟨text, htext⟩ := hlawful.signs ⟨some id, admin, none⟩ email (unix iat) (unix (exp + ttl))
  have hval : ((generateToken svc.tokens id email admin ttl).exec (server svc.cfg) v).val =
      .ok text := htext
  rw [hval]
  exact ⟨email, unix iat, unix (exp + ttl), htext⟩

/-- The second step logs in a row whose code opens its secret, and nobody otherwise. -/
theorem verifySecond_spec (hlawful : svc.tokens.Lawful) {v : World} (h : Alone v) (code : String)
    (who : LoginRow) :
    let answer := ((AuthHandler.verifySecond svc code who).exec (server svc.cfg) v).val
    (Opens svc.digests v who.id code → LogsIn svc who answer) ∧
      (¬ Opens svc.digests v who.id code → answer.issues = false) := by
  intro answer
  have hverify := verifyCode_ok svc.cfg svc.digests h who.id code
  have hanswer : answer = ((AuthHandler.verifySecond svc code who).exec (server svc.cfg) v).val := rfl
  unfold AuthHandler.verifySecond at hanswer
  rw [Prog.exec_bind] at hanswer
  generalize (verifyCode svc.digests who.id code).exec (server svc.cfg) v = o at hverify hanswer
  constructor
  · intro hopens
    rw [hverify.2 hopens] at hanswer
    dsimp only at hanswer
    rw [Prog.exec_bind] at hanswer
    dsimp only at hanswer
    rw [Prog.exec_bind] at hanswer
    exact ⟨_, _, hanswer, generateToken_carries hlawful _ _ _ _ _,
      generateToken_carries hlawful _ _ _ _ _⟩
  · intro hclosed
    rw [hanswer]
    rcases hval : o.val with e | _ | _
    · rfl
    · rfl
    · exact absurd (hverify.1 hval) hclosed

/-- The code of the second request opens the secret whose row has an id: both lookups are answered,
and the secret is enabled and has the code at the time it is checked. -/
def OpensSecond (digests : Digests) (w : World) (id code : String) : Prop :=
  (w.later 1).fault = .none ∧ (w.later 2).fault = .none ∧
    ∃ sec, w.db.registry.twoFactorSecrets.find? (·.id = id) = some sec ∧
      sec.enabled = true ∧ code ∈ currentCodes digests sec.secret (unix (w.clockAt 3))

/-- A row that is found under the id of another is of the same kind. -/
theorem find_same {who who' : LoginRow} {r : Registry} (h : who.find r = some who') :
    who'.id = who.id ∧ who'.isStaff = who.isStaff := by
  cases who with
  | user row =>
    obtain ⟨row', hrow', rfl⟩ := Option.map_eq_some_iff.1 h
    have hid := List.find?_some hrow'
    exact ⟨of_decide_eq_true hid, rfl⟩
  | account row =>
    obtain ⟨row', hrow', rfl⟩ := Option.map_eq_some_iff.1 h
    have hid := List.find?_some hrow'
    exact ⟨of_decide_eq_true hid, rfl⟩

/-- The check of the code after the token has been read and the row has been found. -/
theorem opensSecond_iff (cfg : Config) (digests : Digests) (w : World) {β : Type}
    (q : RegistryQuery β) (id code : String)
    (hfault : (w.later 1).fault = .none)
    (hregistry : ((server cfg).step (.db (.registry q))
      ((server cfg).step .now w).2).2.db.registry = w.db.registry) :
    OpensSecond digests w id code ↔ Opens digests ((server cfg).step (.db (.registry q))
      ((server cfg).step .now w).2).2 id code := by
  unfold OpensSecond Opens
  rw [and_iff_right hfault, hregistry, next_eq_later, step_later, step_later, step_clockAt,
    step_clockAt]

/-- **What the second request comes to** for the token of a row that still exists: the row is logged
in if the code opens the secret whose row has its id, and otherwise nobody is. -/
theorem login2FA_spec (hlawful : svc.tokens.Lawful) {w : World} (h : Alone w) {who who' : LoginRow}
    {token : String}
    (hcarries : Carries svc.tokens token ⟨some who.id, who.isStaff, some pendingPurpose⟩)
    (hvalid : (svc.tokens.parse (w.clockAt 0) token).isSome = true)
    (hfind : who.find w.db.registry = some who') (code : String) :
    let answer := ((AuthHandler.login2FA svc (some ⟨token, code⟩)).exec (server svc.cfg) w).val
    (OpensSecond svc.digests w who.id code → LogsIn svc who' answer) ∧
      (¬ OpensSecond svc.digests w who.id code → answer.issues = false) := by
  obtain ⟨email, iat, exp, hsign⟩ := hcarries
  have htoken : token ≠ "" := by
    rintro rfl
    exact hlawful.ne_empty _ _ _ _ hsign
  have hparse : svc.tokens.parse (w.clockAt 0) token =
      some ⟨some who.id, who.isStaff, some pendingPurpose⟩ := by
    obtain ⟨claims, hclaims⟩ := Option.isSome_iff_exists.1 hvalid
    rw [hclaims, hlawful.reads _ _ _ _ _ _ _ hsign hclaims]
  unfold AuthHandler.login2FA
  dsimp only
  by_cases hcode : code = ""
  · rw [if_pos (.inr hcode)]
    refine ⟨fun hopens => ?_, fun _ => rfl⟩
    obtain ⟨-, -, sec, -, -, hmem⟩ := hopens
    exact absurd hcode (ne_empty_of_mem_currentCodes _ hmem)
  rw [if_neg (by simp [htoken, hcode]), Prog.call_bind, Prog.exec_act, step_now_val, hparse]
  dsimp only [Option.getD_some]
  rw [if_neg (not_not.2 rfl)]
  let u := ((server svc.cfg).step .now w).2
  have hu : Alone u := h.step .now
  have hregistry : u.db.registry = w.db.registry :=
    congrArg Database.registry ((step_db svc.cfg w .now).trans h.tick_db)
  have hnext : u.next = w.later 1 := step_later svc.cfg w .now 0
  -- once the row has been found, its code is checked
  have hsecond {β : Type} (q : RegistryQuery β)
      (hafter : ((server svc.cfg).step (.db (.registry q)) u).2.db.registry = u.db.registry)
      (hfault : (w.later 1).fault = .none) :
      let answer := ((AuthHandler.verifySecond svc code who').exec (server svc.cfg)
        ((server svc.cfg).step (.db (.registry q)) u).2).val
      (OpensSecond svc.digests w who.id code → LogsIn svc who' answer) ∧
        (¬ OpensSecond svc.digests w who.id code → answer.issues = false) := by
    have hstep : Alone ((server svc.cfg).step (.db (.registry q)) u).2 := hu.step _
    have hspec := verifySecond_spec hlawful hstep code who'
    rw [(find_same hfind).1] at hspec
    rw [opensSecond_iff svc.cfg svc.digests w q who.id code hfault (hafter.trans hregistry)]
    exact hspec
  cases who with
  | user row =>
    obtain ⟨row', hrow', rfl⟩ := Option.map_eq_some_iff.1 hfind
    obtain ⟨hval, hafter⟩ := step_lookup svc.cfg hu (.userByID row.id) rfl
    rw [hnext] at hval
    dsimp only [LoginRow.isStaff, LoginRow.id, AuthHandler.loginClaimed]
    rw [Prog.call_bind, Prog.exec_act]
    rcases hval with ⟨hfault, hval⟩ | ⟨hfault, e, hval⟩
    · have hfound : (RegistryQuery.run u.db.registry (.userByID row.id)).1 = .ok (some row') := by
        rw [hregistry]
        exact congrArg Except.ok hrow'
      rw [hval, hfound]
      exact hsecond (.userByID row.id) hafter hfault
    · rw [hval]
      exact ⟨fun hopens => absurd hopens.1 hfault, fun _ => rfl⟩
  | account row =>
    obtain ⟨row', hrow', rfl⟩ := Option.map_eq_some_iff.1 hfind
    obtain ⟨hval, hafter⟩ := step_lookup svc.cfg hu (.accountByID row.id) rfl
    rw [hnext] at hval
    dsimp only [LoginRow.isStaff, LoginRow.id, AuthHandler.loginClaimed]
    rw [Prog.call_bind, Prog.exec_act]
    rcases hval with ⟨hfault, hval⟩ | ⟨hfault, e, hval⟩
    · have hfound : (RegistryQuery.run u.db.registry (.accountByID row.id)).1 = .ok (some row') := by
        rw [hregistry]
        exact congrArg Except.ok hrow'
      rw [hval, hfound]
      exact hsecond (.accountByID row.id) hafter hfault
    · rw [hval]
      exact ⟨fun hopens => absurd hopens.1 hfault, fun _ => rfl⟩

/-! ## Both requests -/

/-- **The second step works for a row.** If its secret is enabled, then a code of this secret, at the
time the code is checked, logs it in, and any other code logs in nobody. -/
def SecondStepWorks (svc : LoginServices) (who : LoginRow) (token : String) (w : World) : Prop :=
  ∀ sec, who.secret w.db.registry = some sec → sec.enabled = true → ∀ code,
    let answer := ((AuthHandler.login2FA svc (some ⟨token, code⟩)).exec (server svc.cfg) w).val
    (code ∈ currentCodes svc.digests sec.secret (unix (w.clockAt 3)) →
      ∃ who', who'.id = who.id ∧ who'.isStaff = who.isStaff ∧ LogsIn svc who' answer) ∧
    (code ∉ currentCodes svc.digests sec.secret (unix (w.clockAt 3)) → answer.issues = false)

/-- If the secret of a row is enabled, then both lookups of the second step are answered, and the
secret whose own id is that of the row is enabled and has the same codes at the time they are
checked. -/
def SameCodes (digests : Digests) (who : LoginRow) (w : World) : Prop :=
  ∀ sec, who.secret w.db.registry = some sec → sec.enabled = true →
    (w.later 1).fault = .none ∧ (w.later 2).fault = .none ∧
      ∃ row, w.db.registry.twoFactorSecrets.find? (·.id = who.id) = some row ∧ row.enabled = true ∧
        ∀ code, code ∈ currentCodes digests row.secret (unix (w.clockAt 3)) ↔
          code ∈ currentCodes digests sec.secret (unix (w.clockAt 3))

theorem LogsIn.issues {who : LoginRow} {answer : LoginAnswer} (h : LogsIn svc who answer) :
    answer.issues = true := by
  obtain ⟨token, refresh, rfl, -, -⟩ := h
  rfl

/-- **When the second step works**, after the first request has asked for it, while its token can be
read and the row exists. -/
theorem secondStep_works_iff (hlawful : svc.tokens.Lawful) (req : AuthHandler.LoginRequest)
    (w₀ w : World) (who who' : LoginRow) (token : String)
    (hlogin : ((AuthHandler.login svc (some req)).exec (server svc.cfg) w₀).val =
      .pending token who)
    (halone : Alone w) (hvalid : (svc.tokens.parse (w.clockAt 0) token).isSome = true)
    (hfind : who.find w.db.registry = some who') :
    SecondStepWorks svc who token w ↔ SameCodes svc.digests who w := by
  have hcarries := (login_returns svc (some req)).exec (server svc.cfg) w₀ token who hlogin
  have hspec := login2FA_spec hlawful halone hcarries hvalid hfind
  have hopens (code : String) : ((AuthHandler.login2FA svc (some ⟨token, code⟩)).exec
      (server svc.cfg) w).val.issues = true ↔ OpensSecond svc.digests w who.id code := by
    constructor
    · intro hissues
      by_contra hclosed
      rw [(hspec code).2 hclosed] at hissues
      cases hissues
    · intro hopen
      exact ((hspec code).1 hopen).issues
  refine forall_congr' fun sec => forall_congr' fun hsecret => forall_congr' fun henabled => ?_
  constructor
  · intro hworks
    have haccepts (code : String) (hcode : code ∈ currentCodes svc.digests sec.secret
        (unix (w.clockAt 3))) : OpensSecond svc.digests w who.id code := by
      obtain ⟨who'', -, -, hlogs⟩ := (hworks code).1 hcode
      exact (hopens code).1 hlogs.issues
    -- the secret has a code, and the row that it opens is the one with the id
    obtain ⟨hfault₁, hfault₂, row, hrow, hrowEnabled, -⟩ := haccepts
      (generateCode svc.digests sec.secret ((unix (w.clockAt 3)).tdiv 30 + 0))
      (by simp [currentCodes])
    refine ⟨hfault₁, hfault₂, row, hrow, hrowEnabled, fun code => ⟨fun hcode => ?_, fun hcode => ?_⟩⟩
    · by_contra hother
      have hissues := (hopens code).2 ⟨hfault₁, hfault₂, row, hrow, hrowEnabled, hcode⟩
      rw [(hworks code).2 hother] at hissues
      cases hissues
    · obtain ⟨-, -, row', hrow', -, hmem⟩ := haccepts code hcode
      rw [hrow] at hrow'
      cases hrow'
      exact hmem
  · rintro ⟨hfault₁, hfault₂, row, hrow, hrowEnabled, hsame⟩ code
    refine ⟨fun hcode => ?_, fun hcode => (hspec code).2 ?_⟩
    · obtain ⟨hid, hstaff⟩ := find_same hfind
      exact ⟨who', hid, hstaff,
        (hspec code).1 ⟨hfault₁, hfault₂, row, hrow, hrowEnabled, (hsame code).2 hcode⟩⟩
    · rintro ⟨-, -, row', hrow', -, hmem⟩
      rw [hrow] at hrow'
      cases hrow'
      exact hcode ((hsame code).1 hmem)

end Handlers

/-! ## One user -/

/-- The text and the bytes of a key, and its digests of three numbers. -/
def testDigests : Digests where
  toUpper text := text
  decodeBase32 text :=
    if text = "GEZDGNBVGY3TQOJQGEZDGNBVGY3TQOJQ" then
      [49, 50, 51, 52, 53, 54, 55, 56, 57, 48, 49, 50, 51, 52, 53, 54, 55, 56, 57, 48]
    else []
  hmacSHA1 _ message :=
    if message = putUint64 0 then
      #v[204, 147, 207, 24, 80, 141, 148, 147, 76, 100, 182, 93, 139, 167, 102, 127, 183, 205, 228,
        176]
    else if message = putUint64 1 then
      #v[117, 164, 138, 25, 212, 203, 225, 0, 100, 78, 138, 193, 57, 126, 234, 116, 122, 45, 51, 171]
    else
      #v[246, 22, 253, 102, 183, 240, 98, 144, 104, 107, 99, 32, 206, 179, 77, 101, 177, 254, 147,
        234]

example : currentCodes testDigests "GEZDGNBVGY3TQOJQGEZDGNBVGY3TQOJQ" 0 =
    ["094451", "755224", "287082"] := by
  decide

/-- Handlers of logins. -/
def plainLogins : LoginServices where
  cfg := .default
  passwords := plainPasswords
  tokens := plainTokens
  digests := testDigests

/-- A user of the admin panel. -/
def staffUser : User := ⟨"user-1", "Admin", "admin@aeroxe.dev", "secret", "admin", "active", ""⟩

/-- A server with a user whose second factor is enabled, and the id of the row of the secret. -/
def withSecret (id : String) : World :=
  { oneAccount with
    db := { oneAccount.db with
      registry := { Registry.empty with
        users := [staffUser]
        twoFactorSecrets :=
          [⟨id, some "user-1", none, "GEZDGNBVGY3TQOJQGEZDGNBVGY3TQOJQ", true⟩] } } }

/-- The password of the user. -/
def staffLogin : AuthHandler.LoginRequest := ⟨"admin@aeroxe.dev", "secret"⟩

/-- The token for the second step. -/
def staffToken : String := "+++u+s+e+r+-+1.++2+f+a+_+p+e+n+d+i+n+g."

/-- The user logs in with the right password, and then sends the code of the moment: it is refused,
because the row of the secret has an id of its own. -/
theorem secondStep_refused :
    ((AuthHandler.login plainLogins (some staffLogin)).exec (server plainLogins.cfg)
      (withSecret "secret-1")).val = .pending staffToken (.user staffUser) ∧
    ¬ SecondStepWorks plainLogins (.user staffUser) staffToken (withSecret "secret-1") := by
  refine ⟨by decide, fun h => ?_⟩
  have hcode : "755224" ∈ currentCodes testDigests "GEZDGNBVGY3TQOJQGEZDGNBVGY3TQOJQ" (unix 0) := by
    decide
  obtain ⟨who', -, -, hlogs⟩ := (h _ rfl rfl "755224").1 hcode
  have hissues := hlogs.issues
  revert hissues
  decide

/-- If the row happens to have the id of the user, then the second step works. -/
theorem secondStep_works_sameID :
    SecondStepWorks plainLogins (.user staffUser) staffToken (withSecret "user-1") := by
  refine (secondStep_works_iff plainTokens_lawful staffLogin (withSecret "user-1")
    (withSecret "user-1") (.user staffUser) (.user staffUser) staffToken (by decide)
    (fun t ht => absurd ht List.not_mem_nil) (by decide) rfl).2 ?_
  rintro sec hsec -
  obtain rfl := Option.some.inj hsec
  exact ⟨rfl, rfl, _, rfl, rfl, fun code => Iff.rfl⟩

end AeroxeBee.Accounts
