import AeroxeBee.Accounts.TwoFactor
import AeroxeBee.Foundations.History
import AeroxeBee.Runs

/-!
# Revocation

An account or a user that is suspended has a status that is not active, and a session that is
revoked has the time of its revocation, each in a row of the tables. A token says whom it was issued
to, and can be read until it expires: neither the middleware of the routes nor the handler that
renews tokens looks at the status or at the sessions.

* `presented_keeps`: a request with a token is let in, or given a new token, exactly if the token
  can be read and, where it is renewed, the row of its principal is found;
* `takesEffect_iff`: revocation takes effect in a run exactly if no token is used that is revoked
  when its request begins and can still be read.
-/

namespace AeroxeBee.Accounts

open Foundations

/-! ## Requests with a token -/

/-- The middleware of the routes of members. -/
def jwtAuth (tokens : TokenReader) (authorization : String) (next : Principal → ServerProg Answer) :
    ServerProg Answer :=
  if authorization = "" then return .error ⟨401, "missing authorization header"⟩
  else if trimPrefix authorization "Bearer " = authorization then
    return .error ⟨401, "invalid authorization format"⟩
  else do
    let now ← Prog.call .now
    match tokens.parse now (trimPrefix authorization "Bearer ") with
    | none => return .error ⟨401, "invalid token"⟩
    | some claims =>
      match claims.sub with
      | none => return .error ⟨401, "invalid token"⟩
      | some accountID => next ⟨accountID, claims.admin⟩

namespace AuthHandler

variable (tokens : TokenLibrary)

/-- The answer with a new token for a row. -/
def renew (who : LoginRow) : ServerProg Answer := do
  match ← generateToken tokens who.id who.email who.isStaff 900000000000 with
  | .error _ => return .error ⟨500, "token generation failed"⟩
  | .ok token => return .ok [("token", token)]

/-- Find the row that a token names, and renew its token. -/
def renewClaimed (id : String) : Bool → ServerProg Answer
  | true => do
    match ← Prog.call (.db (.registry (.userByID id))) with
    | .ok (some user) => renew tokens (.user user)
    | _ => return .error ⟨401, "user not found"⟩
  | false => do
    match ← Prog.call (.db (.registry (.accountByID id))) with
    | .ok (some account) => renew tokens (.account account)
    | _ => return .error ⟨401, "account not found"⟩

/-- `POST /api/v1/auth/refresh`. There is no middleware in front of it, so the token comes with the
body. -/
def refreshToken : Option String → ServerProg Answer
  | none => return .error ⟨401, "missing authentication"⟩
  | some token =>
    if token = "" then return .error ⟨401, "missing authentication"⟩
    else do
      let now ← Prog.call .now
      match tokens.parse now token with
      | none => return .error ⟨401, "invalid refresh token"⟩
      | some claims => renewClaimed tokens (claims.sub.getD "") claims.admin

end AuthHandler

namespace SessionHandler

/-- `DELETE /api/v1/auth/sessions/{id}`. -/
def revokeSession (who : Principal) (sessionID : String) : ServerProg Answer :=
  if who.accountID = "" then return .error ⟨401, "unauthorized"⟩
  else if sessionID = "" then return .error ⟨400, "session ID required"⟩
  else do
    let now ← Prog.call .now
    match ← Prog.call (.db (.registry (.revokeSession sessionID who.accountID now))) with
    | .error _ | .ok 0 => return .error ⟨404, "session not found or already revoked"⟩
    | .ok _ => return .ok [("message", "session revoked")]

/-- `DELETE /api/v1/auth/sessions`. The session of the token that is sent along goes on. -/
def revokeAllSessions (sha256 : String → String) (who : Principal) (authorization : String) :
    ServerProg Answer :=
  if who.accountID = "" then return .error ⟨401, "unauthorized"⟩
  else do
    let now ← Prog.call .now
    let currentHash := sha256 (trimPrefix authorization "Bearer ")
    match ← Prog.call (.db (.registry (.revokeSessions who.accountID
        (if who.isAdmin then "user" else "account") currentHash now))) with
    | .error _ => return .error ⟨500, "failed to revoke sessions"⟩
    | .ok _ => return .ok [("message", "all other sessions revoked")]

end SessionHandler

/-! ## Revoked tokens -/

/-- What the handlers of tokens and sessions are given. The companion of a token that renews is the
token that was issued with it. -/
structure SessionServices where
  tokens : TokenLibrary
  sha256 : String → String
  companion : String → Option String

variable (svc : SessionServices)

/-- The token was issued to a user or an account that is not active. -/
def Suspended (r : Registry) (token : String) : Prop :=
  ∃ claims id, Carries svc.tokens token claims ∧ claims.sub = some id ∧
    ((claims.admin = true ∧ ∃ user ∈ r.users, user.id = id ∧ user.status ≠ "active") ∨
      (claims.admin = false ∧ ∃ account ∈ r.accounts, account.id = id ∧ account.status ≠ .active))

/-- The token was issued for a session that is revoked. -/
def SessionRevoked (r : Registry) (token : String) : Prop :=
  ∃ s ∈ r.userSessions, s.revokedAt ≠ none ∧
    (s.tokenHash = svc.sha256 token ∨
      ∃ companion, svc.companion token = some companion ∧ s.tokenHash = svc.sha256 companion)

/-- The tables say that the token is not good any more. -/
def Revoked (r : Registry) (token : String) : Prop :=
  Suspended svc r token ∨ SessionRevoked svc r token

section Handlers

variable {cfg : Config} {w w' : World} {id : String} {answer : List (String × String)}

/-- An account that was suspended has no other status. -/
theorem suspendAccount_suspends (halone : Alone w)
    (h : Runs cfg (AdminHandler.suspendAccount id) w (.ok answer) w') :
    ∀ account ∈ w'.db.registry.accounts, account.id = id → account.status = .suspended := by
  unfold AdminHandler.suspendAccount statement at h
  simp only [Prog.call_bind] at h
  obtain ⟨u, w₁, -, h₁, h⟩ := h.query halone fun _ => ⟨_, rfl⟩
  obtain ⟨-, rfl⟩ := Runs.ret_iff.1 h
  intro account haccount hid
  rw [h₁.db_eq] at haccount
  obtain ⟨row, -, rfl⟩ := List.mem_map.1 haccount
  by_cases hrow : row.id = id
  · simp [hrow]
  · simp only [hrow, if_false] at hid

/-- A session that was revoked has the time of its revocation. -/
theorem revokeSession_revokes (halone : Alone w) {who : Principal} {sessionID : String}
    (h : Runs cfg (SessionHandler.revokeSession who sessionID) w (.ok answer) w') :
    ∃ s ∈ w'.db.registry.userSessions, s.id = sessionID ∧ s.userID = who.accountID ∧
      s.revokedAt ≠ none := by
  unfold SessionHandler.revokeSession at h
  split_ifs at h
  · cases (Runs.ret_iff.1 h).1
  · cases (Runs.ret_iff.1 h).1
  · simp only [Prog.call_bind] at h
    obtain ⟨now, w₁, h₁, h⟩ := h.other halone rfl
    obtain ⟨count, w₂, hcount, h₂, h⟩ := Runs.query h₁.alone h fun _ => ⟨_, rfl⟩
    cases count with
    | zero => cases (Runs.ret_iff.1 h).1
    | succ n =>
      obtain ⟨-, rfl⟩ := Runs.ret_iff.1 h
      -- the statement has changed a session, so there was one that matched
      have hsome : 0 < w₁.db.registry.userSessions.countP fun s : UserSession =>
          s.id = sessionID && s.userID = who.accountID && s.revokedAt.isNone := by
        rw [Except.ok.inj hcount]
        exact Nat.succ_pos n
      obtain ⟨s, hs, hactive⟩ := List.countP_pos_iff.1 hsome
      rw [h₂.db_eq]
      refine ⟨{ s with revokedAt := some now }, List.mem_map.2 ⟨s, hs, if_pos hactive⟩, ?_⟩
      simp only [Bool.and_eq_true, decide_eq_true_eq] at hactive
      exact ⟨hactive.1.1, hactive.1.2, Option.some_ne_none now⟩

end Handlers

/-! ## Runs -/

/-- A request that presents a token: to the routes of members, to those of the administrators, or to
have it renewed. -/
inductive Presented where
  | jwt (authorization : String)
  | admin (headers : AuthHeaders)
  | refresh (body : Option String)

/-- The token of a request, if it presents one. -/
def Presented.token : Presented → Option String
  | jwt authorization =>
    if authorization = "" ∨ trimPrefix authorization "Bearer " = authorization then none
    else some (trimPrefix authorization "Bearer ")
  | admin headers => if headers.token = "" then none else some headers.token
  | refresh none => none
  | refresh (some token) => if token = "" then none else some token

/-- A route that answers whoever is let in. -/
def letIn (_ : Principal) : ServerProg Answer := return .ok []

/-- What the server does about a request with a token. It is let in, or given a new token, if the
answer is no error. -/
def Presented.prog : Presented → ServerProg Answer
  | jwt authorization => jwtAuth svc.tokens.toTokenReader authorization letIn
  | admin headers => adminAuth svc.tokens.toTokenReader headers letIn
  | refresh body => AuthHandler.refreshToken svc.tokens body

/-- What goes on at the server: requests that present tokens, and any other routines, among them
those that suspend and revoke. -/
inductive TokenCall where
  | presents (request : Presented)
  | other (p : ServerProg Answer)

/-- The routine of a call. -/
def TokenCall.prog : TokenCall → ServerProg Answer
  | presents request => request.prog svc
  | other p => p

/-- The calls, none of which has begun. -/
def tokenCalls (calls : List TokenCall) (w : World) : Pool ServerCmd World Answer :=
  .start (calls.map (TokenCall.prog svc)) w

/-- It is noted what the tables were when a call began. -/
def noteBegan (i : ℕ) {β : Type} (_ : ServerCmd β) (w : World) (began : ℕ → Option Registry) :
    ℕ → Option Registry :=
  if (began i).isNone then Function.update began i (some w.tick.db.registry) else began

/-- **Revocation takes effect**: a request that begins with a token that is revoked then is neither let
in nor given a new token. -/
def TakesEffect (calls : List TokenCall) (P : Pool ServerCmd World Answer)
    (began : ℕ → Option Registry) : Prop :=
  ∀ (j : ℕ) (request : Presented) (token : String) (r : Registry) (answer : Answer),
    calls[j]? = some (.presents request) → request.token = some token → began j = some r →
      Revoked svc r token → P.threads[j]? = some (.ret answer) → answer.isOk = false

/-! ## What a request comes to -/

/-- When a call has first looked at the clock, and whether it has found the row of a principal. -/
structure Looks where
  time : Option ℤ
  found : Bool

/-- Before a call has begun. -/
def Looks.none : Looks := ⟨.none, false⟩

/-- Take account of an event. -/
def Looks.note (s : Looks) : Event ServerCmd → Looks
  | ⟨.now, now⟩ => { s with time := s.time.or (some now) }
  | ⟨.db (.registry (.userByID _)), reply⟩ =>
    match reply with
    | .ok (some _) => { s with found := true }
    | _ => s
  | ⟨.db (.registry (.accountByID _)), reply⟩ =>
    match reply with
    | .ok (some _) => { s with found := true }
    | _ => s
  | _ => s

/-- The token could be read when it was looked at, and names somebody; where it is renewed, the row of
its principal was found. -/
def Presented.Usable (request : Presented) (token : String) (s : Looks) : Prop :=
  ∃ now claims, s.time = some now ∧ svc.tokens.parse now token = some claims ∧
    match request with
    | .refresh _ => s.found = true
    | _ => claims.sub ≠ none

/-- A protocol that allows everything. -/
def looking : Protocol ServerCmd Looks where
  allows _ := fun _ => True
  expects _ := True
  next := Looks.note

/-- How a request ends. -/
def Presented.EndsAs (request : Presented) (s : Looks) (answer : Answer) : Prop :=
  answer.isOk = true ↔ ∃ token, request.token = some token ∧ request.Usable svc token s

variable {svc}

/-- A request that presents a token ends as that token lets it. -/
theorem Presented.endsAs_iff {request : Presented} {token : String} {s : Looks} {answer : Answer}
    (htoken : request.token = some token) :
    request.EndsAs svc s answer ↔ (answer.isOk = true ↔ request.Usable svc token s) := by
  simp only [EndsAs, htoken, Option.some.injEq, exists_eq_left']

/-- A request that presents no token is turned away. -/
theorem Presented.endsAs_error {request : Presented} (htoken : request.token = none)
    (s : Looks) (error : HttpError) : request.EndsAs svc s (.error error) := by
  simp [EndsAs, htoken, Except.isOk, Except.toBool]

/-- What a middleware does about a token. -/
theorem checked_keeps {request : Presented} {token : String} (htoken : request.token = some token)
    (hroute : ∀ body, request ≠ .refresh body) (error error' : HttpError) :
    (Prog.act .now fun now =>
      match svc.tokens.parse now token with
      | none => .ret (.error error)
      | some claims =>
        match claims.sub with
        | none => .ret (.error error')
        | some accountID => letIn ⟨accountID, claims.admin⟩ : ServerProg Answer).Keeps looking
      (request.EndsAs svc) .none := by
  refine ⟨trivial, fun now _ => ?_⟩
  have husable : request.Usable svc token ⟨some now, false⟩ ↔
      ∃ claims, svc.tokens.parse now token = some claims ∧ claims.sub ≠ none := by
    cases request with
    | refresh body => exact absurd rfl (hroute body)
    | _ => simp [Presented.Usable]
  beta_reduce
  cases hparse : svc.tokens.parse now token with
  | none =>
    refine (Presented.endsAs_iff htoken).2 ?_
    change false = true ↔ request.Usable svc token ⟨some now, false⟩
    simp [husable, hparse]
  | some claims =>
    dsimp only
    cases hsub : claims.sub with
    | none =>
      refine (Presented.endsAs_iff htoken).2 ?_
      change false = true ↔ request.Usable svc token ⟨some now, false⟩
      simp [husable, hparse, hsub]
    | some accountID =>
      refine (Presented.endsAs_iff htoken).2 ?_
      change true = true ↔ request.Usable svc token ⟨some now, false⟩
      simp [husable, hparse, hsub]

section Refresh

variable {body : Option String} {token : String} {now : ℤ} {claims : Claims}

/-- A row that was found has its token renewed. -/
theorem renew_keeps (hlawful : svc.tokens.Lawful)
    (htoken : (Presented.refresh body).token = some token)
    (hparse : svc.tokens.parse now token = some claims) (who : LoginRow) :
    (AuthHandler.renew svc.tokens who).Keeps looking ((Presented.refresh body).EndsAs svc)
      ⟨some now, true⟩ := by
  refine ⟨trivial, fun iat _ => ⟨trivial, fun exp _ => ?_⟩⟩
  obtain ⟨text, htext⟩ := hlawful.signs ⟨some who.id, who.isStaff, none⟩ who.email (unix iat)
    (unix (exp + 900000000000))
  change (match svc.tokens.sign ⟨some who.id, who.isStaff, none⟩ who.email (unix iat)
      (unix (exp + 900000000000)) with
    | .error _ => .ret (.error ⟨500, "token generation failed"⟩)
    | .ok token => .ret (.ok [("token", token)]) : ServerProg Answer).Keeps looking
      ((Presented.refresh body).EndsAs svc) ⟨some now, true⟩
  rw [htext]
  refine (Presented.endsAs_iff htoken).2 ?_
  change true = true ↔ _
  simp [Presented.Usable, hparse]

/-- A row that was not found leaves the token as it is. -/
theorem endsAs_missing (htoken : (Presented.refresh body).token = some token) (error : HttpError) :
    (Presented.refresh body).EndsAs svc ⟨some now, false⟩ (.error error) := by
  refine (Presented.endsAs_iff htoken).2 ?_
  change false = true ↔ _
  simp [Presented.Usable]

theorem renewClaimed_keeps (hlawful : svc.tokens.Lawful)
    (htoken : (Presented.refresh body).token = some token)
    (hparse : svc.tokens.parse now token = some claims) (id : String) (admin : Bool) :
    (AuthHandler.renewClaimed svc.tokens id admin).Keeps looking
      ((Presented.refresh body).EndsAs svc) ⟨some now, false⟩ := by
  cases admin with
  | true =>
    refine ⟨trivial, fun reply _ => ?_⟩
    rcases reply with e | _ | user
    · exact endsAs_missing htoken _
    · exact endsAs_missing htoken _
    · exact renew_keeps hlawful htoken hparse (.user user)
  | false =>
    refine ⟨trivial, fun reply _ => ?_⟩
    rcases reply with e | _ | account
    · exact endsAs_missing htoken _
    · exact endsAs_missing htoken _
    · exact renew_keeps hlawful htoken hparse (.account account)

theorem refreshToken_keeps (hlawful : svc.tokens.Lawful) (body : Option String) :
    (AuthHandler.refreshToken svc.tokens body).Keeps looking
      ((Presented.refresh body).EndsAs svc) .none := by
  cases body with
  | none => exact Presented.endsAs_error rfl _ _
  | some token =>
    unfold AuthHandler.refreshToken
    dsimp only
    by_cases hempty : token = ""
    · rw [if_pos hempty]
      exact Presented.endsAs_error (by simp [Presented.token, hempty]) _ _
    · rw [if_neg hempty]
      have htoken : (Presented.refresh (some token)).token = some token := by
        simp [Presented.token, hempty]
      refine ⟨trivial, fun now _ => ?_⟩
      change (match svc.tokens.parse now token with
        | none => .ret (.error ⟨401, "invalid refresh token"⟩)
        | some claims => AuthHandler.renewClaimed svc.tokens (claims.sub.getD "") claims.admin :
          ServerProg Answer).Keeps looking _ ⟨some now, false⟩
      cases hparse : svc.tokens.parse now token with
      | none => exact endsAs_missing htoken _
      | some claims => exact renewClaimed_keeps hlawful htoken hparse _ _

end Refresh

/-- **What a request with a token comes to.** -/
theorem presented_keeps (hlawful : svc.tokens.Lawful) (request : Presented) :
    (request.prog svc).Keeps looking (request.EndsAs svc) .none := by
  cases request with
  | jwt authorization =>
    unfold Presented.prog jwtAuth
    dsimp only
    split_ifs with hempty hformat
    · exact Presented.endsAs_error (by simp [Presented.token, hempty]) _ _
    · exact Presented.endsAs_error (by simp [Presented.token, hformat]) _ _
    · exact checked_keeps (by simp [Presented.token, hempty, hformat]) (fun _ h => by cases h) _ _
  | admin headers =>
    unfold Presented.prog adminAuth
    dsimp only
    split_ifs with hempty
    · exact Presented.endsAs_error (by simp [Presented.token, hempty]) _ _
    · exact checked_keeps (by simp [Presented.token, hempty]) (fun _ h => by cases h) _ _
  | refresh body => exact refreshToken_keeps hlawful body

/-- How a call ends; nothing is said of other routines. -/
def TokenCall.EndsAs (svc : SessionServices) : TokenCall → Looks → Answer → Prop
  | presents request, s, answer => request.EndsAs svc s answer
  | other _, _, _ => True

theorem tokenCalls_phased (hlawful : svc.tokens.Lawful) :
    Pool.Phased (TokenCall.prog svc) (fun _ : TokenCall => looking) (TokenCall.EndsAs svc)
      Looks.note .none where
  next_eq _ := rfl
  expects _ _ := trivial
  keeps call := by
    cases call with
    | presents request => exact presented_keeps hlawful request
    | other p =>
      exact Prog.keeps_of_only_forall
        (Prog.only_of_forall (P := fun _ => True) (fun _ => trivial) p)
        (fun _ _ _ _ => trivial) fun _ _ => trivial

/-- No request that has been answered used a token that was revoked when it began. -/
def NoneUsed (svc : SessionServices) (calls : List TokenCall) (P : Pool ServerCmd World Answer)
    (began : ℕ → Option Registry) : Prop :=
  ∀ (j : ℕ) (request : Presented) (token : String) (r : Registry) (answer : Answer),
    calls[j]? = some (.presents request) → request.token = some token → began j = some r →
      Revoked svc r token → P.threads[j]? = some (.ret answer) →
        ¬ request.Usable svc token (P.phase Looks.note .none j)

/-- **When revocation takes effect**, in any run of requests that present tokens and of any other
routines. -/
theorem takesEffect_iff (hlawful : svc.tokens.Lawful) (cfg : Config) (calls : List TokenCall)
    (w : World) (sched : List ℕ) :
    TakesEffect svc calls ((tokenCalls svc calls w).run (server cfg) sched)
        (Pool.noted (server cfg) noteBegan (tokenCalls svc calls w) (fun _ => none) sched) ↔
      NoneUsed svc calls ((tokenCalls svc calls w).run (server cfg) sched)
        (Pool.noted (server cfg) noteBegan (tokenCalls svc calls w) (fun _ => none) sched) := by
  have hends : ∀ (j : ℕ) (request : Presented) (token : String) (answer : Answer),
      calls[j]? = some (.presents request) → request.token = some token →
        ((tokenCalls svc calls w).run (server cfg) sched).threads[j]? = some (.ret answer) →
          (answer.isOk = true ↔ request.Usable svc token
            (((tokenCalls svc calls w).run (server cfg) sched).phase Looks.note .none j)) := by
    intro j request token answer hcall htoken hthread
    have hreturned := (tokenCalls_phased hlawful).returned hcall hthread
    exact (Presented.endsAs_iff htoken).1 hreturned
  constructor
  · intro htakes j request token r answer hcall htoken hbegan hrevoked hthread husable
    have hok := (hends j request token answer hcall htoken hthread).2 husable
    rw [htakes j request token r answer hcall htoken hbegan hrevoked hthread] at hok
    cases hok
  · intro hnone j request token r answer hcall htoken hbegan hrevoked hthread
    have hunused := hnone j request token r answer hcall htoken hbegan hrevoked hthread
    rw [← hends j request token answer hcall htoken hthread] at hunused
    exact Bool.eq_false_iff.2 hunused

/-! ## An account that is suspended -/

/-- Sessions with tokens that can always be read. -/
def plainSessions : SessionServices where
  tokens := plainTokens
  sha256 text := text
  companion _ := none

/-- The token of a member. -/
def memberToken : String := "-++a+c+c+o+u+n+t+-+1.-"

theorem memberToken_carries : Carries plainTokens memberToken ⟨some "account-1", false, none⟩ :=
  ⟨"", 0, 0, by decide⟩

/-- The token is presented to a route of members and to be renewed, and an administrator suspends the
account. -/
def memberCalls : List TokenCall :=
  [.other (AdminHandler.suspendAccount "account-1"), .presents (.jwt ("Bearer " ++ memberToken)),
    .presents (.refresh (some memberToken))]

/-- Revocation takes effect if the token is presented before the account is suspended, and never
again. -/
theorem takesEffect_before :
    TakesEffect plainSessions memberCalls
      ((tokenCalls plainSessions memberCalls oneAccount).run (server .default) [1, 2, 2, 2, 2, 0])
      (Pool.noted (server .default) noteBegan (tokenCalls plainSessions memberCalls oneAccount)
        (fun _ => none) [1, 2, 2, 2, 2, 0]) := by
  refine (takesEffect_iff plainTokens_lawful .default memberCalls oneAccount [1, 2, 2, 2, 2, 0]).2
    fun j request token r answer hcall htoken hbegan hrevoked _ _ => ?_
  -- the two requests have begun with an active account and no session
  have hfresh : (fun r : Registry => (r.accounts, r.users, r.userSessions)) r =
      ([memberAccount], [], []) := by
    have hone : (Pool.noted (server .default) noteBegan
        (tokenCalls plainSessions memberCalls oneAccount) (fun _ => none) [1, 2, 2, 2, 2, 0] 1).map
          (fun r : Registry => (r.accounts, r.users, r.userSessions)) =
            some ([memberAccount], [], []) := by
      decide
    have htwo : (Pool.noted (server .default) noteBegan
        (tokenCalls plainSessions memberCalls oneAccount) (fun _ => none) [1, 2, 2, 2, 2, 0] 2).map
          (fun r : Registry => (r.accounts, r.users, r.userSessions)) =
            some ([memberAccount], [], []) := by
      decide
    match j, hcall with
    | 0, hcall => cases hcall
    | 1, _ =>
      rw [hbegan] at hone
      exact Option.some.inj hone
    | 2, _ =>
      rw [hbegan] at htwo
      exact Option.some.inj htwo
    | _ + 3, hcall => cases hcall
  simp only [Prod.mk.injEq] at hfresh
  obtain ⟨haccounts, husers, hsessions⟩ := hfresh
  rcases hrevoked with ⟨claims, id, -, -, ⟨-, user, huser, -⟩ | ⟨-, account, haccount, -, hstatus⟩⟩ |
    ⟨session, hsession, -⟩
  · rw [husers] at huser
    cases huser
  · rw [haccounts, List.mem_singleton] at haccount
    exact hstatus (by rw [haccount]; rfl)
  · rw [hsessions] at hsession
    cases hsession

/-- After the account is suspended the token is let in, and renewed. -/
theorem suspended_letIn :
    ¬ TakesEffect plainSessions memberCalls
      ((tokenCalls plainSessions memberCalls oneAccount).run (server .default) [0, 1, 2, 2, 2, 2])
      (Pool.noted (server .default) noteBegan (tokenCalls plainSessions memberCalls oneAccount)
        (fun _ => none) [0, 1, 2, 2, 2, 2]) := by
  intro h
  have hbegan : (Pool.noted (server .default) noteBegan
      (tokenCalls plainSessions memberCalls oneAccount) (fun _ => none) [0, 1, 2, 2, 2, 2] 1).map
        Registry.accounts = some [{ memberAccount with status := .suspended }] := by
    decide
  obtain ⟨r, hr, haccounts⟩ := Option.map_eq_some_iff.1 hbegan
  have hrevoked : Revoked plainSessions r memberToken := by
    refine .inl ⟨_, "account-1", memberToken_carries, rfl,
      .inr ⟨rfl, { memberAccount with status := .suspended }, ?_, rfl, ?_⟩⟩
    · rw [haccounts]
      exact List.mem_singleton_self _
    · decide
  have hanswer : ((tokenCalls plainSessions memberCalls oneAccount).run (server .default)
      [0, 1, 2, 2, 2, 2]).threads[1]? = some (.ret (.ok [])) := rfl
  have hrefused := h 1 (.jwt ("Bearer " ++ memberToken)) memberToken r (.ok []) rfl (by decide) hr
    hrevoked hanswer
  cases hrefused

/-- A server with one account, whose member has logged in. -/
def oneSession : World :=
  { oneAccount with
    db := { oneAccount.db with
      registry := { oneAccount.db.registry with
        userSessions := [⟨"session-1", "account-1", "account", memberToken, none⟩] } } }

/-- The member ends the session, and the token of the session is presented again. -/
def endedSession : List TokenCall :=
  [.other (SessionHandler.revokeSession ⟨"account-1", false⟩ "session-1"),
    .presents (.jwt ("Bearer " ++ memberToken))]

/-- The token of a session that is revoked is let in as well. -/
theorem revokedSession_letIn :
    ¬ TakesEffect plainSessions endedSession
      ((tokenCalls plainSessions endedSession oneSession).run (server .default) [0, 0, 1])
      (Pool.noted (server .default) noteBegan (tokenCalls plainSessions endedSession oneSession)
        (fun _ => none) [0, 0, 1]) := by
  intro h
  have hbegan : (Pool.noted (server .default) noteBegan
      (tokenCalls plainSessions endedSession oneSession) (fun _ => none) [0, 0, 1] 1).map
        Registry.userSessions =
          some [⟨"session-1", "account-1", "account", memberToken, some 0⟩] := by
    decide
  obtain ⟨r, hr, hsessions⟩ := Option.map_eq_some_iff.1 hbegan
  have hrevoked : Revoked plainSessions r memberToken := by
    refine .inr ⟨⟨"session-1", "account-1", "account", memberToken, some 0⟩, ?_, ?_, .inl rfl⟩
    · rw [hsessions]
      exact List.mem_singleton_self _
    · decide
  have hanswer : ((tokenCalls plainSessions endedSession oneSession).run (server .default)
      [0, 0, 1]).threads[1]? = some (.ret (.ok [])) := rfl
  have hrefused := h 1 (.jwt ("Bearer " ++ memberToken)) memberToken r (.ok []) rfl (by decide) hr
    hrevoked hanswer
  cases hrefused

end AeroxeBee.Accounts
