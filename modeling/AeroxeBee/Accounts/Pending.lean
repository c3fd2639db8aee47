import AeroxeBee.Accounts.Revocation

/-!
# Pending tokens

Where the second factor is enabled, the right password brings a token with a purpose of its own, for
the second step. The handler of the second step is the only one that looks at the purpose of a
token: the middleware of the routes and the handler that renews tokens read whom it names, and until
when it is good.

* `refreshToken_gains`: a token that is renewed gives way to one without a purpose;
* `factorHolds_iff`: the second factor holds in a run exactly if every request that presents a
  pending token finds that it cannot be read any more, or, where it is renewed, finds no row of its
  principal.
-/

namespace AeroxeBee.Accounts

open Foundations

/-! ## Logins and requests with a token -/

/-- What the handlers of logins, of tokens and of sessions are given. -/
structure FactorServices extends LoginServices where
  sha256 : String → String
  companion : String → Option String

/-- What the handlers of tokens and sessions are given. -/
def FactorServices.sessions (svc : FactorServices) : SessionServices :=
  ⟨svc.tokens, svc.sha256, svc.companion⟩

variable (svc : FactorServices)

/-- What goes on at the server: logins, second steps, requests that present tokens, and any other
routines. -/
inductive FactorCall where
  | login (body : Option AuthHandler.LoginRequest)
  | second (body : Option AuthHandler.Login2FARequest)
  | presents (request : Presented)
  | other (p : ServerProg Answer)

/-- The routine of a call. -/
def FactorCall.prog : FactorCall → ServerProg (LoginAnswer ⊕ Answer)
  | login body => do
    let answer ← AuthHandler.login svc.toLoginServices body
    return .inl answer
  | second body => do
    let answer ← AuthHandler.login2FA svc.toLoginServices body
    return .inl answer
  | presents request => do
    let answer ← request.prog svc.sessions
    return .inr answer
  | other p => do
    let answer ← p
    return .inr answer

/-- The calls, none of which has begun. -/
def factorCalls (calls : List FactorCall) (w : World) :
    Pool ServerCmd World (LoginAnswer ⊕ Answer) :=
  .start (calls.map (FactorCall.prog svc)) w

/-- A request of the run brings a code for a row: at a time at which the request looks at the clock, it
is one of the codes of the secret that the row had when the request began. -/
def BringsCode (calls : List FactorCall) (P : Pool ServerCmd World (LoginAnswer ⊕ Answer))
    (began : ℕ → Option Registry) (who : LoginRow) : Prop :=
  ∃ k req r sec now, calls[k]? = some (.second (some req)) ∧ began k = some r ∧
    who.secret r = some sec ∧ (⟨.now, now⟩ : Event ServerCmd) ∈ Pool.eventsOf k P.log ∧
      req.code ∈ currentCodes svc.digests sec.secret (unix now)

/-- The request is let in, or it is given a token that is not for the second step. -/
def Presented.Gains (tokens : TokenLibrary) : Presented → Answer → Prop
  | refresh _, answer => ∃ text claims, answer = .ok [("token", text)] ∧
      Carries tokens text claims ∧ claims.purpose ≠ some pendingPurpose
  | _, answer => answer.isOk = true

/-- **The second factor holds**: without a code for a row, nothing is gained with the token that its
login was answered with. -/
def FactorHolds (calls : List FactorCall) (P : Pool ServerCmd World (LoginAnswer ⊕ Answer))
    (began : ℕ → Option Registry) : Prop :=
  ∀ (i : ℕ) (body : Option AuthHandler.LoginRequest) (token : String) (who : LoginRow),
    calls[i]? = some (.login body) → P.threads[i]? = some (.ret (.inl (.pending token who))) →
      ¬ BringsCode svc calls P began who →
        ∀ (j : ℕ) (request : Presented) (answer : Answer),
          calls[j]? = some (.presents request) → request.token = some token →
            P.threads[j]? = some (.ret (.inr answer)) → ¬ request.Gains svc.tokens answer

/-- Nobody who presents the token of a login, without a code for its row, finds that it can be read,
and, where it is renewed, finds the row. -/
def NoneReadable (calls : List FactorCall) (P : Pool ServerCmd World (LoginAnswer ⊕ Answer))
    (began : ℕ → Option Registry) : Prop :=
  ∀ (i : ℕ) (body : Option AuthHandler.LoginRequest) (token : String) (who : LoginRow),
    calls[i]? = some (.login body) → P.threads[i]? = some (.ret (.inl (.pending token who))) →
      ¬ BringsCode svc calls P began who →
        ∀ (j : ℕ) (request : Presented) (answer : Answer),
          calls[j]? = some (.presents request) → request.token = some token →
            P.threads[j]? = some (.ret (.inr answer)) →
              ∀ now, (P.phase Looks.note .none j).time = some now →
                svc.tokens.parse now token = none ∨
                  ((∃ sent, request = .refresh sent) ∧ (P.phase Looks.note .none j).found = false)

/-! ## What a request gains -/

section Gains

variable {svc}

theorem renew_gains (tokens : TokenLibrary) (who : LoginRow) (sent : Option String) :
    (AuthHandler.renew tokens who).Returns fun answer =>
      answer.isOk = true → (Presented.refresh sent).Gains tokens answer := by
  refine Prog.Returns.bind (generateTokenWithPurpose_returns tokens who.id who.email who.isStaff
    900000000000 "") fun r hr => ?_
  cases r with
  | error e => exact fun hok => nomatch hok
  | ok token => exact fun _ => ⟨token, _, rfl, hr token rfl, by simp⟩

theorem renewClaimed_gains (tokens : TokenLibrary) (id : String) (admin : Bool)
    (sent : Option String) :
    (AuthHandler.renewClaimed tokens id admin).Returns fun answer =>
      answer.isOk = true → (Presented.refresh sent).Gains tokens answer := by
  cases admin with
  | true =>
    intro reply
    rcases reply with e | _ | user
    · exact fun hok => nomatch hok
    · exact fun hok => nomatch hok
    · exact renew_gains tokens (.user user) sent
  | false =>
    intro reply
    rcases reply with e | _ | account
    · exact fun hok => nomatch hok
    · exact fun hok => nomatch hok
    · exact renew_gains tokens (.account account) sent

/-- **A token that is renewed gives way to one without a purpose.** -/
theorem refreshToken_gains (tokens : TokenLibrary) (sent : Option String) :
    (AuthHandler.refreshToken tokens sent).Returns fun answer =>
      answer.isOk = true → (Presented.refresh sent).Gains tokens answer := by
  cases sent with
  | none => exact fun hok => by cases hok
  | some token =>
    unfold AuthHandler.refreshToken
    dsimp only
    split_ifs with hempty
    · exact fun hok => by cases hok
    · intro now
      dsimp only [Prog.bind]
      cases hparse : tokens.parse now token with
      | none => exact fun hok => by cases hok
      | some claims => exact renewClaimed_gains tokens _ _ _

/-- A request gains something exactly if its answer is no error. -/
theorem gains_returns (request : Presented) :
    (request.prog svc.sessions).Returns fun answer =>
      (request.Gains svc.tokens answer ↔ answer.isOk = true) := by
  cases request with
  | jwt authorization => exact Prog.Returns.of_forall (fun _ => Iff.rfl) _
  | admin headers => exact Prog.Returns.of_forall (fun _ => Iff.rfl) _
  | refresh sent =>
    refine (refreshToken_gains svc.tokens sent).mono fun answer hgains => ⟨?_, hgains⟩
    rintro ⟨text, claims, rfl, -, -⟩
    rfl

end Gains

/-! ## Runs -/

/-- How a call ends. -/
def FactorCall.EndsAs : FactorCall → Looks → LoginAnswer ⊕ Answer → Prop
  | login _, _, answer =>
    ∀ reply, answer = .inl reply → AsksFor svc.toLoginServices reply
  | presents request, s, answer =>
    ∀ reply, answer = .inr reply → request.EndsAs svc.sessions s reply ∧
      (request.Gains svc.tokens reply ↔ reply.isOk = true)
  | second _, _, _ | other _, _, _ => True

variable {svc}

theorem keeps_looking {α : Type} {Q : Looks → α → Prop} {p : ServerProg α}
    (hp : p.Returns fun a => ∀ s, Q s a) (s : Looks) : p.Keeps looking Q s := by
  have hkeeps : p.Keeps looking (fun _ _ => True) s :=
    Prog.keeps_of_only_forall (Prog.only_of_forall (P := fun _ => True) (fun _ => trivial) p)
      (fun _ _ _ _ => trivial) fun _ _ => trivial
  exact (hkeeps.and_returns hp).mono fun s a h => h.2 s

theorem factorCalls_phased (hlawful : svc.tokens.Lawful) :
    Pool.Phased (FactorCall.prog svc) (fun _ : FactorCall => looking) (FactorCall.EndsAs svc)
      Looks.note .none where
  next_eq _ := rfl
  expects _ _ := trivial
  keeps call := by
    cases call with
    | login body =>
      refine keeps_looking ?_ _
      refine (login_returns svc.toLoginServices body).bind fun answer hasks s reply hreply => ?_
      obtain rfl := Sum.inl.inj hreply
      exact hasks
    | second body => exact keeps_looking (Prog.Returns.of_forall (fun _ _ => trivial) _) _
    | presents request =>
      have hpresented : (request.prog svc.sessions).Keeps looking (request.EndsAs svc.sessions) .none :=
        presented_keeps hlawful request
      have hkeeps := hpresented.and_returns (gains_returns request)
      refine hkeeps.bind fun s answer hends reply hreply => ?_
      obtain rfl := Sum.inr.inj hreply
      exact hends
    | other p => exact keeps_looking (Prog.Returns.of_forall (fun _ _ => trivial) _) _

/-- A pending token names its principal for as long as it can be read. -/
theorem usable_pending (hlawful : svc.tokens.Lawful) {token : String} {who : LoginRow}
    (hcarries : Carries svc.tokens token ⟨some who.id, who.isStaff, some pendingPurpose⟩)
    (request : Presented) (s : Looks) :
    request.Usable svc.sessions token s ↔ ∃ now, s.time = some now ∧
      ¬ (svc.tokens.parse now token = none ∨ ((∃ sent, request = .refresh sent) ∧ s.found = false)) := by
  obtain ⟨email, iat, exp, hsign⟩ := hcarries
  constructor
  · rintro ⟨now, claims, htime, hparse, hrest⟩
    refine ⟨now, htime, ?_⟩
    rintro (hnone | ⟨⟨sent, rfl⟩, hmissing⟩)
    · have : svc.tokens.parse now token = some claims := hparse
      rw [hnone] at this
      cases this
    · have hfound : s.found = true := hrest
      rw [hmissing] at hfound
      cases hfound
  · rintro ⟨now, htime, hgood⟩
    rw [not_or] at hgood
    obtain ⟨claims, hparse⟩ := Option.ne_none_iff_exists'.1 hgood.1
    have hclaims := hlawful.reads _ _ _ _ _ _ _ hsign hparse
    refine ⟨now, claims, htime, hparse, ?_⟩
    cases request with
    | refresh sent =>
      by_contra hmissing
      exact hgood.2 ⟨⟨sent, rfl⟩, Bool.eq_false_iff.2 hmissing⟩
    | jwt authorization =>
      rw [hclaims]
      exact Option.some_ne_none _
    | admin headers =>
      rw [hclaims]
      exact Option.some_ne_none _

/-- **When the second factor holds**, in any run of logins, of second steps, of requests that present
tokens and of any other routines. -/
theorem factorHolds_iff (hlawful : svc.tokens.Lawful) (cfg : Config) (calls : List FactorCall)
    (w : World) (sched : List ℕ) :
    FactorHolds svc calls ((factorCalls svc calls w).run (server cfg) sched)
        (Pool.noted (server cfg) noteBegan (factorCalls svc calls w) (fun _ => none) sched) ↔
      NoneReadable svc calls ((factorCalls svc calls w).run (server cfg) sched)
        (Pool.noted (server cfg) noteBegan (factorCalls svc calls w) (fun _ => none) sched) := by
  refine forall_congr' fun i => forall_congr' fun body => forall_congr' fun token =>
    forall_congr' fun who => forall_congr' fun hcall => forall_congr' fun hthread =>
    forall_congr' fun _ => forall_congr' fun j => forall_congr' fun request =>
    forall_congr' fun answer => forall_congr' fun hpresents => forall_congr' fun htoken =>
    forall_congr' fun hanswer => ?_
  have hcarries := (factorCalls_phased hlawful).returned hcall hthread _ rfl token who rfl
  obtain ⟨hends, hgains⟩ := (factorCalls_phased hlawful).returned hpresents hanswer _ rfl
  rw [hgains, (Presented.endsAs_iff htoken).1 hends, usable_pending hlawful hcarries]
  push Not
  rfl

/-! ## A user without the second factor -/

/-- Handlers of logins, with sessions named by their tokens. -/
def plainFactors : FactorServices where
  toLoginServices := plainLogins
  sha256 text := text
  companion _ := none

/-- A server with a user whose second factor is enabled, and whose database is out of reach for one
command, the tenth. -/
def cutOff : World :=
  { withSecret "secret-1" with
    env := List.replicate 9 .quiet ++ [{ Tick.quiet with fault := .refused "no connection" }] }

/-- The user logs in with a password, and sends the pending token to a route of members and to have it
renewed, but no code. -/
def passwordOnly : List FactorCall :=
  [.login (some staffLogin), .presents (.jwt ("Bearer " ++ staffToken)),
    .presents (.refresh (some staffToken))]

/-- Nobody sends a code. -/
theorem not_bringsCode {P : Pool ServerCmd World (LoginAnswer ⊕ Answer)}
    {began : ℕ → Option Registry} {who : LoginRow} :
    ¬ BringsCode plainFactors passwordOnly P began who := by
  rintro ⟨k, req, r, sec, now, hcall, -⟩
  match k, hcall with
  | 0, hcall => cases hcall
  | 1, hcall => cases hcall
  | 2, hcall => cases hcall
  | _ + 3, hcall => cases hcall

/-- The login, and then the renewal. -/
def renewal (w : World) : Pool ServerCmd World (LoginAnswer ⊕ Answer) :=
  (factorCalls plainFactors passwordOnly w).run (server .default)
    (List.replicate 8 0 ++ List.replicate 4 2)

/-- The second factor holds if the row cannot be found for the pending token. -/
theorem factorHolds_cutOff :
    FactorHolds plainFactors passwordOnly (renewal cutOff)
      (Pool.noted (server .default) noteBegan (factorCalls plainFactors passwordOnly cutOff)
        (fun _ => none) (List.replicate 8 0 ++ List.replicate 4 2)) := by
  refine (factorHolds_iff plainTokens_lawful .default passwordOnly cutOff
    (List.replicate 8 0 ++ List.replicate 4 2)).2
    fun i body token who _ _ _ j request answer hcall htoken hanswer now _ => .inr ?_
  match j, hcall with
  | 0, hcall => cases hcall
  | 1, hcall =>
    -- this request has not begun
    have hwaits : (renewal cutOff).threads[1]?.bind Pool.returned = none := by decide
    have hreturned : (renewal cutOff).threads[1]? = some (.ret (.inr answer)) := hanswer
    rw [hreturned] at hwaits
    cases hwaits
  | 2, hcall =>
    cases hcall
    exact ⟨⟨_, rfl⟩, by decide⟩
  | _ + 3, hcall => cases hcall

/-- With the password alone the user is given a token that logs in, and is let in with the pending one. -/
theorem factor_skipped :
    (renewal (withSecret "secret-1")).threads[2]?.bind Pool.returned =
      some (.inr (.ok [("token", "+++u+s+e+r+-+1.-")])) ∧
    ¬ FactorHolds plainFactors passwordOnly (renewal (withSecret "secret-1"))
      (Pool.noted (server .default) noteBegan
        (factorCalls plainFactors passwordOnly (withSecret "secret-1")) (fun _ => none)
        (List.replicate 8 0 ++ List.replicate 4 2)) ∧
    ¬ FactorHolds plainFactors passwordOnly
      ((factorCalls plainFactors passwordOnly (withSecret "secret-1")).run (server .default)
        (List.replicate 8 0 ++ [1]))
      (Pool.noted (server .default) noteBegan
        (factorCalls plainFactors passwordOnly (withSecret "secret-1")) (fun _ => none)
        (List.replicate 8 0 ++ [1])) := by
  refine ⟨by decide, fun h => ?_, fun h => ?_⟩
  · refine h 0 _ staffToken (.user staffUser) rfl rfl not_bringsCode 2 _ _ rfl (by decide) rfl ?_
    exact ⟨"+++u+s+e+r+-+1.-", ⟨some "user-1", true, none⟩, rfl, ⟨"", 0, 0, by decide⟩, by decide⟩
  · exact h 0 _ staffToken (.user staffUser) rfl rfl not_bringsCode 1 _ (.ok []) rfl (by decide) rfl rfl

end AeroxeBee.Accounts
