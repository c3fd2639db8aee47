import AeroxeBee.Accounts.Revocation
import AeroxeBee.Api.BruteForce
import AeroxeBee.Api.Plans

/-!
# Checks of requests

The middlewares as checks: what each of them makes of a request before it hands it on. The middlewares
themselves are these checks with a handler behind them.

* `jwtAuth_eq`, `adminAuth_eq`, `limit_eq`, `requireActiveAccount_eq`,
  `requireActiveSubscription_eq`, `enforceQuota_eq`: the middlewares are their checks;
* `principalOf_follows`, `validate_follows`, `countRequest_follows`: what is known of a request that
  has passed a check.
-/

namespace AeroxeBee.Api

open Foundations Middleware Accounts Tenants

/-! ## Tokens -/

/-- Whom a token was issued to. -/
def principalOf (tokens : TokenReader) (tokenString invalid : String) :
    ServerProg (Except HttpError Principal) := do
  let now ← Prog.call .now
  match tokens.parse now tokenString with
  | none => return .error ⟨401, invalid⟩
  | some claims =>
    match claims.sub with
    | none => return .error ⟨401, "invalid token"⟩
    | some accountID => return .ok ⟨accountID, claims.admin⟩

/-- The token in the header of a request. -/
def checkJWT (tokens : TokenReader) (authorization : String) :
    ServerProg (Except HttpError Principal) :=
  if authorization = "" then return .error ⟨401, "missing authorization header"⟩
  else if trimPrefix authorization "Bearer " = authorization then
    return .error ⟨401, "invalid authorization format"⟩
  else principalOf tokens (trimPrefix authorization "Bearer ") "invalid token"

/-- The token in the header or the cookie of a request. -/
def checkAdmin (tokens : TokenReader) (h : AuthHeaders) : ServerProg (Except HttpError Principal) :=
  if h.token = "" then return .error ⟨401, "unauthorized"⟩
  else principalOf tokens h.token "invalid session"

theorem jwtAuth_eq (tokens : TokenReader) (authorization : String)
    (next : Principal → ServerProg Answer) :
    jwtAuth tokens authorization next = (do
      match ← checkJWT tokens authorization with
      | .error e => return .error e
      | .ok p => next p) := by
  unfold jwtAuth checkJWT principalOf
  split_ifs
  · rfl
  · rfl
  · simp only [Prog.call_bind, Prog.act_bind]
    congr 1
    funext now
    cases tokens.parse now (trimPrefix authorization "Bearer ") with
    | none => rfl
    | some claims => cases hsub : claims.sub <;> simp [hsub]

theorem adminAuth_eq (tokens : TokenReader) (h : AuthHeaders) (next : Principal → ServerProg Answer) :
    adminAuth tokens h next = (do
      match ← checkAdmin tokens h with
      | .error e => return .error e
      | .ok p => next p) := by
  unfold adminAuth checkAdmin principalOf
  split_ifs
  · rfl
  · simp only [Prog.call_bind, Prog.act_bind]
    congr 1
    funext now
    cases tokens.parse now h.token with
    | none => rfl
    | some claims => cases hsub : claims.sub <;> simp [hsub]

/-- The token could be read at some moment, and says who it was issued to. -/
def TokenRead (tokens : TokenReader) (evs : List (Event ServerCmd)) (tokenString : String)
    (p : Principal) : Prop :=
  ∃ t claims, (⟨.now, t⟩ : Event ServerCmd) ∈ evs ∧ tokens.parse t tokenString = some claims ∧
    claims.sub = some p.accountID ∧ claims.admin = p.isAdmin

theorem principalOf_follows {tokens : TokenReader} {tokenString invalid : String}
    {evs : List (Event ServerCmd)} {p : Principal}
    (h : (principalOf tokens tokenString invalid).Follows evs (.ret (.ok p))) :
    TokenRead tokens evs tokenString p := by
  obtain ⟨now, rest, rfl, hk⟩ := Prog.follows_act.1 h
  cases hparse : tokens.parse now tokenString with
  | none =>
    simp only [Prog.bind, hparse] at hk
    cases (Prog.follows_ret.1 hk).2
  | some claims =>
    cases hsub : claims.sub with
    | none =>
      simp only [Prog.bind, hparse, hsub] at hk
      cases (Prog.follows_ret.1 hk).2
    | some accountID =>
      simp only [Prog.bind, hparse, hsub] at hk
      cases (Prog.follows_ret.1 hk).2
      exact ⟨now, claims, List.mem_cons_self, hparse, hsub, rfl⟩

/-! ## API keys -/

/-- The digest of a key was found in the table, in a row that is not revoked and had not expired. -/
def KeyFound (svc : DeviceServices) (evs : List (Event ServerCmd)) (apiKey : String) (key : APIKey) :
    Prop :=
  (⟨.db (.apiKeyByHash (svc.sha256 apiKey)), .ok (some key)⟩ : Event ServerCmd) ∈ evs ∧
    key.revokedAt = none ∧
    ∀ expiresAt, key.expiresAt = some expiresAt → ∃ t, (⟨.now, t⟩ : Event ServerCmd) ∈ evs ∧ t ≤ expiresAt

theorem validate_follows {svc : DeviceServices} {apiKey : String} {evs : List (Event ServerCmd)}
    {key : APIKey} (h : (validate svc apiKey).Follows evs (.ret (.ok (some key)))) :
    KeyFound svc evs apiKey key := by
  obtain ⟨reply, rest, rfl, hk⟩ := Prog.follows_act.1 h
  rcases reply with e | _ | found
  · cases (Prog.follows_ret.1 hk).2
  · cases (Prog.follows_ret.1 hk).2
  · by_cases hrevoked : found.revokedAt.isSome = true
    · simp only [Prog.bind, if_pos hrevoked] at hk
      cases (Prog.follows_ret.1 hk).2
    · simp only [Prog.bind, if_neg hrevoked] at hk
      have hnone : found.revokedAt = none := by simpa using hrevoked
      cases hexpires : found.expiresAt with
      | none =>
        simp only [hexpires] at hk
        cases (Prog.follows_ret.1 hk).2
        exact ⟨List.mem_cons_self, hnone, fun _ h => by rw [hexpires] at h; cases h⟩
      | some expiresAt =>
        simp only [hexpires] at hk
        obtain ⟨now, rest', rfl, hk'⟩ := Prog.follows_act.1 hk
        by_cases hlate : expiresAt < now
        · simp only [Prog.bind, if_pos hlate] at hk'
          cases (Prog.follows_ret.1 hk').2
        · simp only [Prog.bind, if_neg hlate] at hk'
          cases (Prog.follows_ret.1 hk').2
          refine ⟨List.mem_cons_self, hnone, fun t ht => ⟨now, by simp, ?_⟩⟩
          obtain rfl := Option.some.inj (hexpires.symm.trans ht)
          exact not_lt.1 hlate

theorem apiKeyAuth_follows {svc : DeviceServices} {h : KeyHeaders} {evs : List (Event ServerCmd)}
    {key : APIKey} (hf : (apiKeyAuth svc h).Follows evs (.ret (.ok key))) :
    h.authorization ≠ "" ∧ trimPrefix h.authorization "Bearer " ≠ h.authorization ∧
      KeyFound svc evs (trimPrefix h.authorization "Bearer ") key := by
  unfold apiKeyAuth at hf
  dsimp only at hf
  split_ifs at hf with hmissing hformat
  · cases (Prog.follows_ret.1 hf).2
  · cases (Prog.follows_ret.1 hf).2
  · obtain ⟨reply, evs₁, evs₂, rfl, hvalidate, hrest⟩ := Prog.Follows.of_bind hf
    rcases reply with e | _ | found
    · cases (Prog.follows_ret.1 hrest).2
    · cases (Prog.follows_ret.1 hrest).2
    · obtain ⟨rfl, hret⟩ := Prog.follows_ret.1 hrest
      cases hret
      rw [List.append_nil]
      exact ⟨hmissing, hformat, validate_follows hvalidate⟩

/-! ## Requests that are counted -/

/-- Count a request on the counter of its minute, and refuse it if there are too many. When Redis fails
it is not refused. -/
def countRequest (maxPerMin : ℤ) (key : ℤ → String) :
    ServerProg (Except RateLimitHeaders (Option RateLimitHeaders)) := do
  let now ← Prog.call .now
  let key := key (clockMinute now)
  match ← Prog.call (.redis (.incr key)) with
  | .error _ => return .ok none
  | .ok count =>
    if count = 1 then
      let _ ← Prog.call (.redis (.expire key 120000000000))
    let headers : RateLimitHeaders := ⟨maxPerMin, max 0 (maxPerMin - count), none⟩
    if maxPerMin < count then do
      let now ← Prog.call .now
      return .error { headers with retryAfter := some (60 - unix now % 60) }
    else return .ok (some headers)

/-- The limiter of the routes that send messages counts a request under its API key. -/
theorem limit_eq (maxPerMin : ℤ) (h : KeyHeaders) (next : ServerProg (Except Response APIKey)) :
    limit maxPerMin h next =
      if extractAPIKey h = "" then (fun r => ⟨none, r⟩) <$> next
      else (do
        match ← countRequest maxPerMin (windowKey (extractAPIKey h)) with
        | .error headers =>
          return ⟨some headers, .error (.error 429 "rate limit exceeded, try again later")⟩
        | .ok headers => (fun r => ⟨headers, r⟩) <$> next) := by
  unfold limit countRequest
  dsimp only
  split_ifs
  · rfl
  · simp only [Prog.call_bind, Prog.act_bind]
    congr 1
    funext now
    congr 1
    funext reply
    cases reply with
    | error e => rfl
    | ok count =>
      dsimp only
      split_ifs <;> rfl

/-- The request was counted in the minute of some moment, and either there was room or the counter could
not be reached. -/
def Counted (maxPerMin : ℤ) (evs : List (Event ServerCmd)) (key : ℤ → String) : Prop :=
  ∃ t reply, (⟨.now, t⟩ : Event ServerCmd) ∈ evs ∧
    (⟨.redis (.incr (key (clockMinute t))), reply⟩ : Event ServerCmd) ∈ evs ∧
    ∀ count, reply = .ok count → count ≤ maxPerMin

theorem countRequest_follows {maxPerMin : ℤ} {key : ℤ → String} {evs : List (Event ServerCmd)}
    {headers : Option RateLimitHeaders}
    (h : (countRequest maxPerMin key).Follows evs (.ret (.ok headers))) :
    Counted maxPerMin evs key := by
  obtain ⟨now, rest, rfl, hk⟩ := Prog.follows_act.1 h
  obtain ⟨reply, rest', rfl, hk'⟩ := Prog.follows_act.1 hk
  refine ⟨now, reply, by simp, by simp, fun count hcount => ?_⟩
  subst hcount
  by_contra hmany
  have hmany' : maxPerMin < count := not_le.1 hmany
  have hrefused (evs : List (Event ServerCmd)) :
      ¬ (ite (maxPerMin < count)
          (Prog.call .now >>= fun now => pure (.error ⟨maxPerMin, max 0 (maxPerMin - count),
            some (60 - unix now % 60)⟩))
          (pure (.ok (some ⟨maxPerMin, max 0 (maxPerMin - count), none⟩))) :
            ServerProg (Except RateLimitHeaders (Option RateLimitHeaders))).Follows evs
        (.ret (.ok headers)) := by
    rw [if_pos hmany']
    intro hf
    obtain ⟨t, rest, rfl, hret⟩ := Prog.follows_act.1 hf
    cases (Prog.follows_ret.1 hret).2
  change Prog.Follows (ite _ _ _) _ _ at hk'
  by_cases hone : count = 1
  · rw [if_pos hone] at hk'
    obtain ⟨expired, rest'', rfl, hk''⟩ := Prog.follows_act.1 hk'
    exact hrefused _ hk''
  · rw [if_neg hone] at hk'
    exact hrefused _ hk'

/-! ## Plans -/

/-- A check of the context of a request. -/
abbrev PlanCheck := Context → ServerProg (Except Response Context)

/-- The account must be in use. -/
def checkActiveAccount : PlanCheck := fun ctx => do
  if ctx.accountID = "" then return .ok ctx
  else
    match ← Prog.call (.db (.registry (.accountByID ctx.accountID))) with
    | .error _ => return .ok ctx
    | .ok none => return .error (.error 403 "account not found")
    | .ok (some account) =>
      if account.status.name = "suspended" then return .error (.error 403 "account suspended")
      else if account.status.name = "disabled" then return .error (.error 403 "account disabled")
      else return .ok ctx

/-- The subscription of the account, if it has one, must be running. -/
def checkActiveSubscription : PlanCheck := fun ctx => do
  if ctx.accountID = "" then return .ok ctx
  else
    match ← Prog.call (.db (.subscription ctx.accountID)) with
    | .error _ => return .ok ctx
    | .ok none => return .ok ctx
    | .ok (some sub) =>
      if sub.status = "canceled" then return .error (.error 403 "subscription canceled")
      else if sub.status = "past_due" then return .error (.error 403 "subscription past due")
      else return .ok { ctx with subscription := some sub }

/-- The messages of the day must not be used up. -/
def checkWithinQuota : PlanCheck := fun ctx => do
  if ctx.accountID = "" then return .ok ctx
  else
    match ← checkQuotaWithSub ctx.accountID ctx.subscription with
    | .error _ => return .ok ctx
    | .ok false => return .error (.error 429 "daily message quota exceeded")
    | .ok true => return .ok ctx

theorem requireActiveAccount_eq : requireActiveAccount = ofCheck checkActiveAccount := by
  funext next ctx
  unfold requireActiveAccount ofCheck checkActiveAccount
  split_ifs
  · rfl
  · simp only [Prog.call_bind, Prog.act_bind]
    congr 1
    funext reply
    rcases reply with e | _ | account
    · rfl
    · rfl
    · dsimp only
      split_ifs <;> rfl

theorem requireActiveSubscription_eq :
    requireActiveSubscription = ofCheck checkActiveSubscription := by
  funext next ctx
  unfold requireActiveSubscription ofCheck checkActiveSubscription
  split_ifs
  · rfl
  · simp only [Prog.call_bind, Prog.act_bind]
    congr 1
    funext reply
    rcases reply with e | _ | sub
    · rfl
    · rfl
    · dsimp only
      split_ifs <;> rfl

theorem enforceQuota_eq : enforceQuota = ofCheck checkWithinQuota := by
  funext next ctx
  unfold enforceQuota ofCheck checkWithinQuota
  split_ifs
  · rfl
  · simp only [bind_assoc]
    congr 1
    funext reply
    rcases reply with e | _ | _ <;> rfl

end AeroxeBee.Api
