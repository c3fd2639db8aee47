import AeroxeBee.Admin.Reviews
import AeroxeBee.Scheduler.Direct
import AeroxeBee.Tenants.Writes

/-!
# Pairing a phone

A member shows a token as a QR code, and a phone that has read it logs in with it, once. `QRLogin`
reads whether the token has been used in one statement and marks it in another, and drops an error of
the second.

* `tokenRow_step`: what a command of the two handlers does to the row of a token;
* `pairsOnce_of_inTime`: when a token is marked only while it is unused, it pairs one phone.
-/

namespace AeroxeBee.Tenants

open Foundations Accounts Api Status Admin

/-- What the handlers of the pairing are given when the server starts. -/
structure PairingServices extends DeviceServices where
  qrServerURL : String
  /-- A time as the response shows it. -/
  formatTime : ℤ → String

/-- The body of a login with a token. -/
structure QRLoginRequest where
  pairingToken : String
  deviceID : String
  phoneNumber : String
  carrier : String
  simSlot : ℤ

/-- The phone of a request, as a login with a password names it. -/
def QRLoginRequest.login (req : QRLoginRequest) : DeviceLoginRequest :=
  ⟨"", "", req.deviceID, req.simSlot⟩

namespace QRPairingHandler

variable (svc : PairingServices)

/-- A token pairs a phone for five minutes. -/
def pairingTTL : ℤ := 300000000000

/-- `POST /api/v1/member/devices/qr-code`. -/
def generateQRCode (who : Principal) : ServerProg Answer :=
  if who.accountID = "" then return .error ⟨401, "unauthorized"⟩
  else do
    match ← Prog.call .nonce with
    | .error _ => return .error ⟨500, "failed to generate token"⟩
    | .ok token =>
      let now ← Prog.call .now
      let expiresAt := now + pairingTTL
      -- an error of the invalidation is dropped
      let _ ← Prog.call (.db (.registry (.invalidatePairingTokens who.accountID)))
      let id ← Prog.call .uuid
      match ← Prog.call (.db (.registry (.createPairingToken
        ⟨id.text, who.accountID, token, expiresAt, false, none⟩))) with
      | .error _ => return .error ⟨500, "failed to create pairing token"⟩
      | .ok _ =>
        return .ok [("token", token), ("expires_at", svc.formatTime expiresAt),
          ("qr_data", "\x7b\"token\":\"" ++ token ++ "\",\"type\":\"aeroxe_pair\",\"server\":\"" ++
            svc.qrServerURL ++ "\"\x7d")]

/-- The end of a login. Without a key for the encryption the handler panics. -/
def connect (account : Account) (req : QRLoginRequest) (deviceID : String) (isNewDevice : Bool)
    (device : Device) : ServerProg Answer :=
  match svc.cipher with
  | some cipher =>
    DeviceHandler.connect svc.toDeviceServices cipher account req.login deviceID isNewDevice device
  | none => do
    let _ ← revokeByDeviceID deviceID
    let _ ← Prog.call .uuid
    let _ ← generatePassword
    return .error ⟨500, "internal server error"⟩

/-- The row of a device that a login with a token registers. -/
def pairedDevice (accountID : String) (req : QRLoginRequest) (simSlot : ℤ) : Device :=
  let (countryCode, region) := detectCountryFromPhone req.phoneNumber
  { newDevice (slotID req.deviceID simSlot) req.deviceID accountID simSlot with
    name := req.deviceID
    carrier := req.carrier
    countryCode := countryCode
    region := region }

/-- The phone becomes a device of the account, or its device comes on line. -/
def pair (account : Account) (accountID : String) (req : QRLoginRequest) : ServerProg Answer := do
  let simSlot := if req.simSlot < 1 then 1 else req.simSlot
  let deviceID := slotID req.deviceID simSlot
  match ← Prog.call (.db (.deviceByID deviceID)) with
  | .error _ => return .error ⟨500, "database error"⟩
  | .ok none =>
    let device := pairedDevice account.id req simSlot
    match ← Prog.call (.db (.createDevice device)) with
    | .error _ => return .error ⟨500, "failed to register device"⟩
    | .ok _ => connect svc account req deviceID true device
  | .ok (some device) =>
    if device.accountID ≠ accountID then
      return .error ⟨403, "device belongs to a different account"⟩
    else do
      let _ ← updateStatus deviceID .online
      connect svc account req deviceID false device

/-- A login with a token that has been found. -/
def loginWith (row : PairingToken) (req : QRLoginRequest) : ServerProg Answer :=
  if row.used then return .error ⟨409, "pairing token has already been used"⟩
  else do
    let now ← Prog.call .now
    if row.expiresAt < now then return .error ⟨410, "pairing token has expired"⟩
    else
      -- an error of the mark is dropped
      let _ ← Prog.call (.db (.registry (.markPairingToken row.id req.deviceID)))
      match ← Prog.call (.db (.registry (.accountByID row.accountID))) with
      | .error _ | .ok none => return .error ⟨500, "account not found"⟩
      | .ok (some account) =>
        if account.status ≠ .active then return .error ⟨403, "account is " ++ account.status.name⟩
        else pair svc account row.accountID req

/-- `POST /api/v1/devices/qr-login`. -/
def qrLogin : Option QRLoginRequest → ServerProg Answer
  | none => return .error ⟨400, "invalid request body"⟩
  | some req =>
    if req.pairingToken = "" ∨ req.deviceID = "" then
      return .error ⟨400, "pairing_token and device_id are required"⟩
    else do
      match ← Prog.call (.db (.registry (.pairingToken req.pairingToken))) with
      | .error _ | .ok none => return .error ⟨401, "invalid pairing token"⟩
      | .ok (some row) => loginWith svc row req

end QRPairingHandler

/-- `POST /api/v1/devices/deregister`. -/
def DeviceHandler.deregister (who : Principal) : Option String → ServerProg Answer
  | none => return .error ⟨400, "invalid request body"⟩
  | some deviceID => do
    match ← Prog.call (.db (.deviceByID deviceID)) with
    | .error _ | .ok none => return .error ⟨404, "device not found"⟩
    | .ok (some device) =>
      if device.accountID ≠ who.accountID then
        return .error ⟨403, "device does not belong to account"⟩
      else
        match ← revokeByDeviceID deviceID with
        | .error _ => return .error ⟨500, "failed to revoke MQTT credentials"⟩
        | .ok _ =>
          match ← updateStatus deviceID .offline with
          | .error _ => return .error ⟨500, "failed to update device status"⟩
          | .ok _ =>
            return .ok [("status", "deregistered"),
              ("message", "MQTT credentials revoked and device set offline")]

namespace Pairing

/-! ## Calls -/

/-- A call about tokens. -/
inductive Call where
  | generate (who : Principal)
  | login (body : Option QRLoginRequest)

/-- The handler of a call. -/
def Call.handle (svc : PairingServices) : Call → ServerProg Answer
  | generate who => QRPairingHandler.generateQRCode svc who
  | login body => QRPairingHandler.qrLogin svc body

/-- The token of a login. -/
def Call.token : Call → Option String
  | generate _ => none
  | login body => body.map (·.pairingToken)

/-- Whether a call is a login with a token. -/
def logs (token : String) (calls : List Call) (i : ℕ) : Bool :=
  (calls[i]?.bind Call.token) = some token

/-- The row of a token. -/
def tokenRow (token : String) (r : Registry) : Option PairingToken :=
  r.pairingTokens.find? (·.token = token)

/-- A command that has nothing to do with tokens. -/
def Sparing : {β : Type} → ServerCmd β → Prop
  | _, .now | _, .uuid | _, .nonce => True
  | _, .db (.deviceByID _) | _, .db (.createDevice _) | _, .db (.updateStatus _ _ _) => True
  | _, .db (.revokeByDeviceID _ _) | _, .db (.createCredential _) => True
  | _, .db (.registry (.accountByID _)) => True
  | _, _ => False

/-- A command of the two handlers. -/
def Issued : {β : Type} → ServerCmd β → Prop
  | _, .db (.registry (.pairingToken _)) => True
  | _, .db (.registry (.markPairingToken _ _)) => True
  | _, .db (.registry (.invalidatePairingTokens _)) => True
  | _, .db (.registry (.createPairingToken _)) => True
  | _, e => Sparing e

/-! ## How far a login has come -/

/-- How far a login has come with its token. -/
inductive Phase where
  /-- It has not found the token yet. -/
  | fresh
  /-- It has found a row with the id. -/
  | found (id : String)
  /-- It has marked the row. -/
  | marked
deriving DecidableEq

/-- What an event makes of it. -/
def progress (s : Phase) : Event ServerCmd → Phase
  | ⟨.db (.registry (.pairingToken _)), .ok (some row)⟩ => .found row.id
  | ⟨.db (.registry (.markPairingToken _ _)), _⟩ => .marked
  | _ => s

/-- What a call may do. -/
def Allows (c : Call) (s : Phase) : {β : Type} → ServerCmd β → Prop
  | _, .db (.registry (.pairingToken token)) => c.token = some token ∧ s = .fresh
  | _, .db (.registry (.markPairingToken id _)) => s = .found id
  | _, .db (.registry (.invalidatePairingTokens _)) => s = .fresh
  | _, .db (.registry (.createPairingToken _)) => s = .fresh
  | _, e => Sparing e

/-- A login finds the row of its token, and marks that row. -/
def pairing (c : Call) : Protocol ServerCmd Phase where
  allows := Allows c
  expects _ := True
  next := progress

/-- A login that succeeds has marked its token. -/
def Ends (c : Call) (s : Phase) (answer : Answer) : Prop :=
  answer.isOk = true → c.token.isSome = true → s = .marked

theorem issued_of_allows {c : Call} {s : Phase} {β : Type} {e : ServerCmd β} (h : Allows c s e) :
    Issued e := by
  cases e with
  | db q =>
    cases q with
    | registry q => cases q <;> trivial
    | _ => exact h
  | _ => exact h

theorem allows_of_sparing {c : Call} {s : Phase} {β : Type} {e : ServerCmd β} (h : Sparing e) :
    Allows c s e := by
  cases e with
  | db q =>
    cases q with
    | registry q => cases q <;> first | exact h | exact h.elim
    | _ => exact h
  | _ => exact h

theorem progress_of_sparing {s : Phase} {β : Type} {e : ServerCmd β} (h : Sparing e) (b : β) :
    progress s ⟨e, b⟩ = s := by
  cases e with
  | db q =>
    cases q with
    | registry q => cases q <;> first | rfl | exact h.elim
    | _ => rfl
  | _ => rfl

section Keeps

variable (svc : PairingServices) {c : Call} {s : Phase}

/-- The part of a login after the mark. -/
theorem connect_only (account : Account) (req : QRLoginRequest) (deviceID : String) (isNew : Bool)
    (device : Device) :
    (QRPairingHandler.connect svc account req deviceID isNew device).Only Sparing := by
  have hrevoke : (revokeByDeviceID deviceID).Only Sparing := ⟨trivial, fun _ => ⟨trivial, fun _ => trivial⟩⟩
  have hpassword : generatePassword.Only Sparing := by
    refine ⟨trivial, fun b => ?_⟩
    cases b <;> trivial
  unfold QRPairingHandler.connect
  cases svc.cipher with
  | none =>
    exact hrevoke.bind fun _ => ⟨trivial, fun _ => hpassword.bind fun _ => trivial⟩
  | some cipher =>
    refine hrevoke.bind fun _ => ?_
    unfold DeviceHandler.issue
    refine Prog.Only.bind ?_ fun created => ?_
    · refine ⟨trivial, fun id => hpassword.bind fun password => ⟨trivial, fun nonce => ?_⟩⟩
      cases nonce with
      | error e => trivial
      | ok nonce => exact ⟨trivial, fun _ => ⟨trivial, fun _ => trivial⟩⟩
    · cases created with
      | error e => trivial
      | ok u =>
        unfold withToken
        rw [Prog.call_bind]
        refine ⟨trivial, fun now => ?_⟩
        dsimp only
        cases svc.generateToken account.id account.email false now <;> trivial

theorem pair_only (account : Account) (accountID : String) (req : QRLoginRequest) :
    (QRPairingHandler.pair svc account accountID req).Only Sparing := by
  unfold QRPairingHandler.pair
  simp only [Prog.call_bind]
  refine ⟨trivial, fun found => ?_⟩
  match found with
  | .error e => trivial
  | .ok none =>
    refine ⟨trivial, fun created => ?_⟩
    cases created with
    | error e => trivial
    | ok u => exact connect_only svc account req _ true _
  | .ok (some device) =>
    dsimp only
    by_cases hother : device.accountID ≠ accountID
    · rw [if_pos hother]
      trivial
    · rw [if_neg hother]
      exact ⟨trivial, fun _ => ⟨trivial, fun _ => connect_only svc account req _ false _⟩⟩

/-- What has nothing to do with tokens leaves a login where it is. -/
theorem keeps_of_sparing {α : Type} {Q : Phase → α → Prop} {p : ServerProg α} (hp : p.Only Sparing)
    (hQ : ∀ a, Q s a) : p.Keeps (pairing c) Q s := by
  refine (Prog.Keeps.of_only (R := pairing c) (s := s) hp (fun e h => allows_of_sparing h)
    fun e b h => progress_of_sparing h b).mono fun s' a hs => ?_
  rw [hs]
  exact hQ a

theorem generate_keeps (who : Principal) :
    (QRPairingHandler.generateQRCode svc who).Keeps (pairing (.generate who)) (Ends (.generate who))
      .fresh := by
  unfold QRPairingHandler.generateQRCode
  split_ifs
  · exact fun h => nomatch h
  · simp only [Prog.call_bind]
    refine ⟨trivial, fun token _ => ?_⟩
    cases token with
    | error e => exact fun h => nomatch h
    | ok token =>
      refine ⟨trivial, fun now _ => ⟨rfl, fun _ _ => ⟨trivial, fun id _ => ⟨rfl, fun created _ => ?_⟩⟩⟩⟩
      cases created with
      | error e => exact fun h => nomatch h
      | ok u => exact fun _ h => nomatch h

theorem loginWith_keeps (row : PairingToken) (req : QRLoginRequest) :
    (QRPairingHandler.loginWith svc row req).Keeps (pairing c) (Ends c) (.found row.id) := by
  unfold QRPairingHandler.loginWith
  split_ifs with hused
  · exact fun h => nomatch h
  · simp only [Prog.call_bind]
    refine ⟨trivial, fun now _ => ?_⟩
    dsimp only
    split_ifs with hexpired
    · exact fun h => nomatch h
    · refine ⟨rfl, fun _ _ => ⟨trivial, fun account _ => ?_⟩⟩
      match account with
      | .error e => exact fun h => nomatch h
      | .ok none => exact fun h => nomatch h
      | .ok (some account) =>
        dsimp only
        split_ifs
        · exact fun h => nomatch h
        · exact keeps_of_sparing (pair_only svc account row.accountID req) fun _ _ _ => rfl

/-- **A login marks the row of its token, and succeeds only after that.** -/
theorem handle_keeps (c : Call) : (c.handle svc).Keeps (pairing c) (Ends c) .fresh := by
  match c with
  | .generate who => exact generate_keeps svc who
  | .login none => exact fun h => nomatch h
  | .login (some req) =>
    unfold Call.handle QRPairingHandler.qrLogin
    dsimp only
    split_ifs
    · exact fun h => nomatch h
    · refine ⟨⟨rfl, rfl⟩, fun found _ => ?_⟩
      match found with
      | .error e => exact fun h => nomatch h
      | .ok none => exact fun h => nomatch h
      | .ok (some row) => exact loginWith_keeps svc row req

theorem phased : Pool.Phased (Call.handle svc) pairing Ends progress .fresh :=
  ⟨fun _ => rfl, fun _ _ => trivial, handle_keeps svc⟩

end Keeps

/-! ## The row of a token -/

section Row

variable (cfg : Config) (token : String) {β : Type} {e : ServerCmd β} {w : World}

/-- A row is the later state of another. -/
structure Later (row row' : PairingToken) : Prop where
  id_eq : row'.id = row.id
  expiresAt_eq : row'.expiresAt = row.expiresAt
  used : row.used = true → row'.used = true

theorem Later.refl (row : PairingToken) : Later row row := ⟨rfl, rfl, fun h => h⟩

theorem Later.trans {row row' row'' : PairingToken} (h : Later row row') (h' : Later row' row'') :
    Later row row'' :=
  ⟨h'.id_eq.trans h.id_eq, h'.expiresAt_eq.trans h.expiresAt_eq, fun hu => h'.used (h.used hu)⟩

/-- The row of a token after some rows have been changed. -/
theorem tokenRow_updateWhere {p : PairingToken → Bool} {f : PairingToken → PairingToken}
    (hf : ∀ row, (f row).token = row.token) (rows : List PairingToken) :
    (updateWhere p f rows).find? (·.token = token) =
      (rows.find? (·.token = token)).map fun row => if p row then f row else row := by
  refine Database.find?_map_of_key PairingToken.token rows (fun row => ?_) token
  split_ifs
  · exact hf row
  · rfl

/-- A statement of the two handlers leaves the row of a token in its place. -/
theorem tokenRow_run {q : RegistryQuery β} (h : Issued (.db (.registry q))) {r : Registry}
    {row : PairingToken} (hrow : tokenRow token r = some row) :
    ∃ row', tokenRow token (q.run r).2 = some row' ∧ Later row row' := by
  cases q with
  | pairingToken _ => exact ⟨row, hrow, .refl row⟩
  | accountByID _ => exact ⟨row, hrow, .refl row⟩
  | invalidatePairingTokens accountID =>
    simp only [tokenRow, RegistryQuery.run] at hrow ⊢
    rw [tokenRow_updateWhere, hrow]
    case hf => exact fun _ => rfl
    refine ⟨_, rfl, ?_⟩
    dsimp only
    split_ifs
    · exact ⟨rfl, rfl, fun _ => rfl⟩
    · exact .refl row
  | markPairingToken id deviceID =>
    simp only [tokenRow, RegistryQuery.run] at hrow ⊢
    rw [tokenRow_updateWhere, hrow]
    case hf => exact fun _ => rfl
    refine ⟨_, rfl, ?_⟩
    dsimp only
    split_ifs
    · exact ⟨rfl, rfl, fun _ => rfl⟩
    · exact .refl row
  | createPairingToken new =>
    simp only [tokenRow, RegistryQuery.run, Registry.insertPairingToken] at hrow ⊢
    refine ⟨row, ?_, .refl row⟩
    split_ifs
    · exact hrow
    · exact hrow
    · rw [replaced, List.find?_append, hrow]
      rfl
  | _ => exact h.elim

/-- Nothing else that runs on the server touches the tokens. -/
def SparedTokens (w : World) : Prop :=
  ∀ t ∈ w.env, ∀ s : Shared,
    (t.others s).db.registry.pairingTokens = s.db.registry.pairingTokens

namespace SparedTokens

theorem before (h : SparedTokens w) :
    tokenRow token (Admin.before w) = tokenRow token w.db.registry := by
  unfold tokenRow Admin.before World.tick World.next
  cases henv : w.env with
  | nil => rfl
  | cons t ts => rw [List.headD_cons, h t (henv ▸ List.mem_cons_self) w.toShared]

theorem step (h : SparedTokens w) (e : ServerCmd β) : SparedTokens ((server cfg).step e w).2 := by
  intro t ht
  rw [step_env] at ht
  exact h t (List.mem_of_mem_tail ht)

end SparedTokens

/-- **A command of the two handlers leaves the row of a token in its place.** -/
theorem tokenRow_step (hspared : SparedTokens w) (h : Issued e) {row : PairingToken}
    (hrow : tokenRow token w.db.registry = some row) :
    ∃ row', tokenRow token (after cfg e w) = some row' ∧ Later row row' := by
  rw [← hspared.before] at hrow
  have hsame : after cfg e w = Admin.before w → _ := fun heq =>
    (⟨row, (congrArg (tokenRow token) heq).trans hrow, .refl row⟩ :
      ∃ row', tokenRow token (after cfg e w) = some row' ∧ Later row row')
  cases e with
  | now | uuid | nonce => exact hsame rfl
  | db q =>
    cases q with
    | registry q =>
      rw [after_statement] at hsame ⊢
      split_ifs at hsame ⊢ with hrefused
      · exact hsame rfl
      · exact tokenRow_run token h hrow
    | deviceByID _ | createDevice _ | updateStatus _ _ _ | revokeByDeviceID _ _
    | createCredential _ =>
      refine hsame ?_
      rw [after, step_statement]
      split_ifs <;> rfl
    | _ => exact h.elim
  | _ => exact h.elim

end Row

/-! ## One phone for each token -/

/-- The token can still be used. -/
def unused (token : String) (r : Registry) : Bool := (tokenRow token r).any fun row => !row.used

theorem unused_iff {token : String} {r : Registry} :
    unused token r = true ↔ ∃ row, tokenRow token r = some row ∧ row.used = false := by
  cases h : tokenRow token r with
  | none => simp [unused, h]
  | some row => simp [unused, h]

/-- Whether a command marks a token as used by a phone. -/
def isMark : {β : Type} → ServerCmd β → Bool
  | _, .db (.registry (.markPairingToken _ _)) => true
  | _, _ => false

theorem isMark_or_of_progress {s : Phase} {β : Type} {e : ServerCmd β} {b : β}
    (h : progress s ⟨e, b⟩ = .marked) : isMark e = true ∨ s = .marked := by
  cases e with
  | db q =>
    cases q with
    | registry q =>
      cases q with
      | markPairingToken id deviceID => exact .inl rfl
      | pairingToken token =>
        match b with
        | .error _ => exact .inr h
        | .ok none => exact .inr h
        | .ok (some row) => cases h
      | _ => exact .inr h
    | _ => exact .inr h
  | _ => exact .inr h

/-- Note whether a newer token has invalidated the token. -/
def noteInvalidation (cfg : Config) (token : String) (_i : ℕ) {β : Type} (e : ServerCmd β) (w : World)
    (invalid : Bool) : Bool :=
  match e with
  | .db (.registry (.invalidatePairingTokens _)) =>
    invalid || (unused token (before w) && !unused token (after cfg e w))
  | _ => invalid

theorem noteInvalidation_true (cfg : Config) (token : String) (i : ℕ) {β : Type} (e : ServerCmd β)
    (w : World) : noteInvalidation cfg token i e w true = true := by
  cases e with
  | db q =>
    cases q with
    | registry q => cases q <;> rfl
    | _ => rfl
  | _ => rfl

/-- The calls run concurrently. -/
abbrev pool (svc : PairingServices) (calls : List Call) (w : World) : Pool ServerCmd World Answer :=
  .start (calls.map (Call.handle svc)) w

/-- The pool after some steps. -/
abbrev poolAt (svc : PairingServices) (calls : List Call) (w : World) (sched : List ℕ) :
    Pool ServerCmd World Answer :=
  (pool svc calls w).run (server svc.cfg) sched

/-- Whether the token has been invalidated within some steps. -/
abbrev invalidAt (svc : PairingServices) (token : String) (calls : List Call) (w : World)
    (sched : List ℕ) : Bool :=
  Pool.noted (server svc.cfg) (noteInvalidation svc.cfg token) (pool svc calls w) false sched

/-- A login with the token has answered with a success. -/
def Paired (token : String) (calls : List Call) (P : Pool ServerCmd World Answer) (i : ℕ) : Prop :=
  logs token calls i = true ∧ ∃ answer, (i, answer) ∈ P.done ∧ answer.isOk = true

/-- **A token pairs one phone**, and none after it has been invalidated or has expired. -/
structure PairsOnce (svc : PairingServices) (token : String) (calls : List Call) (w : World)
    (sched : List ℕ) : Prop where
  once : ∀ i j, Paired token calls (poolAt svc calls w sched) i →
    Paired token calls (poolAt svc calls w sched) j → i = j
  valid : ∀ past rest, sched = past ++ rest →
    (invalidAt svc token calls w past = true ∨
      ∃ row, tokenRow token (poolAt svc calls w past).state.db.registry = some row ∧
        row.expiresAt < (poolAt svc calls w past).state.clock) →
    ∀ i, Paired token calls (poolAt svc calls w sched) i →
      Paired token calls (poolAt svc calls w past) i

/-- A login marks the token while it is unused, and it does so and goes on before the token
expires. -/
def InTime (token : String) (calls : List Call) (P : Pool ServerCmd World Answer) (_invalid : Bool)
    (i : ℕ) {β : Type} (e : ServerCmd β) : Prop :=
  logs token calls i = true →
    (isMark e = true →
      P.state.next.fault.isRefused = false ∧ unused token (before P.state) = true) ∧
    (isMark e = true ∨ P.phase progress .fresh i = .marked →
      ∀ row ∈ tokenRow token (before P.state), P.state.tick.clock ≤ row.expiresAt)

instance (token : String) (calls : List Call) (P : Pool ServerCmd World Answer) (invalid : Bool)
    (i : ℕ) {β : Type} (e : ServerCmd β) : Decidable (InTime token calls P invalid i e) := by
  unfold InTime
  infer_instance

/-- What is known of a token in the middle of a run. -/
structure Inv (token : String) (calls : List Call) (P : Pool ServerCmd World Answer)
    (invalid : Bool) : Prop where
  spared : SparedTokens P.state
  found : ∀ i id, logs token calls i = true → P.phase progress .fresh i = .found id →
    ∃ row, tokenRow token P.state.db.registry = some row ∧ row.id = id
  marked : ∀ i, logs token calls i = true → P.phase progress .fresh i = .marked →
    invalid = false ∧ ∃ row, tokenRow token P.state.db.registry = some row ∧ row.used = true
  once : ∀ i j, logs token calls i = true → logs token calls j = true →
    P.phase progress .fresh i = .marked → P.phase progress .fresh j = .marked → i = j
  invalidated : invalid = true →
    ∃ row, tokenRow token P.state.db.registry = some row ∧ row.used = true

section Step

variable {cfg : Config} {token : String} {calls : List Call} {P : Pool ServerCmd World Answer}
  {invalid : Bool} {i : ℕ} {c : Call} {β : Type} {e : ServerCmd β} {k : β → ServerProg Answer}

theorem exists_used_step (hI : Inv token calls P invalid) (hissued : Issued e)
    (h : ∃ row, tokenRow token P.state.db.registry = some row ∧ row.used = true) :
    ∃ row, tokenRow token (P.advance (server cfg) i e k).state.db.registry = some row ∧
      row.used = true := by
  obtain ⟨row, hrow, hused⟩ := h
  obtain ⟨row', hrow', hlater⟩ := tokenRow_step cfg token hI.spared hissued hrow
  exact ⟨row', hrow', hlater.used hused⟩

theorem unused_before (hI : Inv token calls P invalid)
    (h : ∃ row, tokenRow token P.state.db.registry = some row ∧ row.used = true) :
    unused token (before P.state) = false := by
  obtain ⟨row, hrow, hused⟩ := h
  rw [unused, hI.spared.before, hrow]
  simp [hused]

/-- A step that keeps the phase of its thread keeps what is known, if the note says what it should. -/
theorem Inv.of_phase (hI : Inv token calls P invalid) (hissued : Issued e) {invalid' : Bool}
    (hphase : progress (P.phase progress .fresh i) ⟨e, ((server cfg).step e P.state).1⟩ =
      P.phase progress .fresh i)
    (hnote : invalid' = invalid ∨ (unused token (before P.state) = true ∧
      unused token (after cfg e P.state) = false)) :
    Inv token calls (P.advance (server cfg) i e k) invalid' := by
  have hphases : (P.advance (server cfg) i e k).phase progress .fresh = P.phase progress .fresh := by
    rw [Pool.phase_advance, hphase, Function.update_eq_self]
  refine ⟨hI.spared.step cfg e, fun j id hj hfound => ?_, fun j hj hmarked => ?_, ?_, fun hinv => ?_⟩
  · rw [hphases] at hfound
    obtain ⟨row, hrow, hid⟩ := hI.found j id hj hfound
    obtain ⟨row', hrow', hlater⟩ := tokenRow_step cfg token hI.spared hissued hrow
    exact ⟨row', hrow', hlater.id_eq.trans hid⟩
  · rw [hphases] at hmarked
    obtain ⟨hvalid, hused⟩ := hI.marked j hj hmarked
    refine ⟨?_, exists_used_step hI hissued hused⟩
    rcases hnote with rfl | ⟨hunused, -⟩
    · exact hvalid
    · -- a token that is used is not invalidated
      cases (unused_before hI hused).symm.trans hunused
  · rw [hphases]
    exact hI.once
  · rcases hnote with rfl | ⟨hunused, hgone⟩
    · exact exists_used_step hI hissued (hI.invalidated hinv)
    · obtain ⟨row, hrow, -⟩ := unused_iff.1 hunused
      rw [hI.spared.before] at hrow
      obtain ⟨row', hrow', -⟩ := tokenRow_step cfg token hI.spared hissued hrow
      refine ⟨row', hrow', ?_⟩
      by_contra hnot
      have hstill := unused_iff.2 ⟨row', hrow', Bool.eq_false_of_not_eq_true hnot⟩
      cases hgone.symm.trans hstill

/-- A login that finds the row of its token. -/
theorem Inv.look (hI : Inv token calls P invalid) (hc : calls[i]? = some c) {token' : String}
    {row : PairingToken} {k : Except String (Option PairingToken) → ServerProg Answer}
    (htoken : c.token = some token')
    (hreply : ((server cfg).step (.db (.registry (.pairingToken token'))) P.state).1 = .ok (some row)) :
    Inv token calls (P.advance (server cfg) i (.db (.registry (.pairingToken token'))) k) invalid := by
  have hissued : Issued (.db (.registry (.pairingToken token'))) := trivial
  have hphase : (P.advance (server cfg) i (.db (.registry (.pairingToken token'))) k).phase
      progress .fresh = Function.update (P.phase progress .fresh) i (.found row.id) := by
    rw [Pool.phase_advance, hreply]
    rfl
  refine ⟨hI.spared.step cfg _, fun j id hj hfound => ?_, fun j hj hmarked => ?_,
    fun j j' hj hj' hmarked hmarked' => ?_, fun hinv => ?_⟩
  · by_cases hji : j = i
    · subst hji
      rw [hphase, Function.update_self] at hfound
      obtain rfl : token' = token := by
        have htok : c.token = some token := by simpa [logs, hc] using hj
        exact Option.some.inj (htoken.symm.trans htok)
      have hfind : tokenRow token' (before P.state) = some row := by
        rcases step_registry cfg P.state (.pairingToken token') with ⟨hok, -⟩ | ⟨text, herr, -⟩
        · exact Except.ok.inj (hok.symm.trans hreply)
        · cases herr.symm.trans hreply
      rw [hI.spared.before] at hfind
      obtain ⟨row', hrow', hlater⟩ := tokenRow_step cfg token' hI.spared hissued hfind
      exact ⟨row', hrow', hlater.id_eq.trans (Phase.found.inj hfound)⟩
    · rw [hphase, Function.update_of_ne hji] at hfound
      obtain ⟨row₀, hrow₀, hid⟩ := hI.found j id hj hfound
      obtain ⟨row', hrow', hlater⟩ := tokenRow_step cfg token hI.spared hissued hrow₀
      exact ⟨row', hrow', hlater.id_eq.trans hid⟩
  · by_cases hji : j = i
    · rw [hphase, hji, Function.update_self] at hmarked
      cases hmarked
    · rw [hphase, Function.update_of_ne hji] at hmarked
      obtain ⟨hvalid, hused⟩ := hI.marked j hj hmarked
      exact ⟨hvalid, exists_used_step hI hissued hused⟩
  · have hne : ∀ l, (P.advance (server cfg) i (.db (.registry (.pairingToken token'))) k).phase
        progress .fresh l = .marked → P.phase progress .fresh l = .marked := by
      intro l hl
      by_cases hli : l = i
      · rw [hphase, hli, Function.update_self] at hl
        cases hl
      · rwa [hphase, Function.update_of_ne hli] at hl
    exact hI.once j j' hj hj' (hne j hmarked) (hne j' hmarked')
  · exact exists_used_step hI hissued (hI.invalidated hinv)

/-- A login that marks the token while it is unused. -/
theorem Inv.mark (hI : Inv token calls P invalid) {id deviceID : String}
    {k : Except String Unit → ServerProg Answer} (hfound : P.phase progress .fresh i = .found id)
    (hG : logs token calls i = true →
      P.state.next.fault.isRefused = false ∧ unused token (before P.state) = true) :
    Inv token calls (P.advance (server cfg) i (.db (.registry (.markPairingToken id deviceID))) k)
      invalid := by
  have hissued : Issued (.db (.registry (.markPairingToken id deviceID))) := trivial
  have hphase : (P.advance (server cfg) i (.db (.registry (.markPairingToken id deviceID))) k).phase
      progress .fresh = Function.update (P.phase progress .fresh) i .marked := by
    rw [Pool.phase_advance]
    rfl
  -- while the token is unused, no login has marked it
  have hnobody : unused token (before P.state) = true → ∀ j, logs token calls j = true →
      P.phase progress .fresh j ≠ .marked := by
    intro hunused j hj hmarked
    cases (unused_before hI (hI.marked j hj hmarked).2).symm.trans hunused
  refine ⟨hI.spared.step cfg _, fun j id' hj hj' => ?_, fun j hj hmarked => ?_,
    fun j j' hj hj' hmarked hmarked' => ?_, fun hinv => ?_⟩
  · by_cases hji : j = i
    · rw [hphase, hji, Function.update_self] at hj'
      cases hj'
    · rw [hphase, Function.update_of_ne hji] at hj'
      obtain ⟨row₀, hrow₀, hid⟩ := hI.found j id' hj hj'
      obtain ⟨row', hrow', hlater⟩ := tokenRow_step cfg token hI.spared hissued hrow₀
      exact ⟨row', hrow', hlater.id_eq.trans hid⟩
  · by_cases hji : j = i
    · subst hji
      obtain ⟨hexecuted, hunused⟩ := hG hj
      refine ⟨?_, ?_⟩
      · by_contra hinvalid
        have hinv := Bool.eq_true_of_not_eq_false hinvalid
        cases (unused_before hI (hI.invalidated hinv)).symm.trans hunused
      · obtain ⟨row, hrow, hid⟩ := hI.found j id hj hfound
        have hafter : (P.advance (server cfg) j
            (.db (.registry (.markPairingToken id deviceID))) k).state.db.registry =
              after cfg (.db (.registry (.markPairingToken id deviceID))) P.state := rfl
        rw [← hI.spared.before] at hrow
        rw [hafter, after_statement, hexecuted, if_neg Bool.false_ne_true]
        simp only [tokenRow, RegistryQuery.run] at hrow ⊢
        rw [tokenRow_updateWhere, hrow]
        case hf => exact fun _ => rfl
        exact ⟨_, rfl, by simp [hid]⟩
    · rw [hphase, Function.update_of_ne hji] at hmarked
      obtain ⟨hvalid, hused⟩ := hI.marked j hj hmarked
      exact ⟨hvalid, exists_used_step hI hissued hused⟩
  · by_cases hji : j = i <;> by_cases hji' : j' = i
    · rw [hji, hji']
    · rw [hphase, Function.update_of_ne hji'] at hmarked'
      exact absurd hmarked' (hnobody (hG (hji ▸ hj)).2 j' hj')
    · rw [hphase, Function.update_of_ne hji] at hmarked
      exact absurd hmarked (hnobody (hG (hji' ▸ hj')).2 j hj)
    · rw [hphase, Function.update_of_ne hji] at hmarked
      rw [hphase, Function.update_of_ne hji'] at hmarked'
      exact hI.once j j' hj hj' hmarked hmarked'
  · exact exists_used_step hI hissued (hI.invalidated hinv)

/-- **Every command of a run that meets the condition keeps what is known of a token.** -/
theorem Inv.step (hI : Inv token calls P invalid) (hc : calls[i]? = some c)
    (hallows : Allows c (P.phase progress .fresh i) e) (hG : InTime token calls P invalid i e) :
    Inv token calls (P.advance (server cfg) i e k) (noteInvalidation cfg token i e P.state invalid) := by
  have hissued := issued_of_allows hallows
  cases e with
  | now | uuid | nonce => exact hI.of_phase hissued rfl (.inl rfl)
  | db q =>
    cases q with
    | registry q =>
      cases q with
      | accountByID _ => exact hI.of_phase hissued rfl (.inl rfl)
      | createPairingToken _ => exact hI.of_phase hissued rfl (.inl rfl)
      | pairingToken token' =>
        match hreply : ((server cfg).step (.db (.registry (.pairingToken token'))) P.state).1 with
        | .error _ => exact hI.of_phase hissued (by rw [hreply]; rfl) (.inl rfl)
        | .ok none => exact hI.of_phase hissued (by rw [hreply]; rfl) (.inl rfl)
        | .ok (some row) => exact hI.look hc hallows.1 hreply
      | markPairingToken id deviceID => exact hI.mark hallows fun hlogs => (hG hlogs).1 rfl
      | invalidatePairingTokens accountID =>
        refine hI.of_phase hissued rfl ?_
        unfold noteInvalidation
        dsimp only
        cases hunused : unused token (before P.state) <;>
          cases hstill : unused token
            (after cfg (.db (.registry (.invalidatePairingTokens accountID))) P.state) <;>
          simp
      | _ => exact hallows.elim
    | deviceByID _ | createDevice _ | updateStatus _ _ _ | revokeByDeviceID _ _
    | createCredential _ => exact hI.of_phase hissued rfl (.inl rfl)
    | _ => exact hallows.elim
  | _ => exact hallows.elim

end Step

section Runs

variable (svc : PairingServices) {token : String} {calls : List Call} {w : World} {sched : List ℕ}

theorem tracks_poolAt (calls : List Call) (w : World) (sched : List ℕ) :
    Pool.Tracks (Call.handle svc) calls (poolAt svc calls w sched) :=
  fun _ _ hp => Pool.follows (Call.handle svc) calls w sched hp

/-- What is known of a token after a run that meets the condition. -/
theorem inv_poolAt (hspared : SparedTokens w)
    (hinTime : Pool.EachNoted (server svc.cfg) (noteInvalidation svc.cfg token) (InTime token calls)
      (pool svc calls w) false sched) :
    Inv token calls (poolAt svc calls w sched) (invalidAt svc token calls w sched) := by
  have hstart : Inv token calls (pool svc calls w) false :=
    ⟨hspared, nofun, nofun, nofun, nofun⟩
  refine Pool.run_noted_inv (phased svc) hstart hinTime fun P h i c β e k hc hi hkeeping hI hG => ?_
  obtain ⟨c', hc', hallows, -⟩ := hkeeping i _ hi
  obtain rfl := Option.some.inj (hc.symm.trans hc')
  exact hI.step hc hallows hG

/-- A login that has succeeded has marked its token. -/
theorem marked_of_paired {i : ℕ} (h : Paired token calls (poolAt svc calls w sched) i) :
    (poolAt svc calls w sched).phase progress .fresh i = .marked := by
  obtain ⟨hlogs, answer, hdone, hok⟩ := h
  have hthread := Pool.done_threads _ _ sched hdone
  obtain ⟨c, hc, -⟩ := Pool.follows (Call.handle svc) calls w sched hthread
  have hends : Ends c _ answer := (phased svc).returned hc hthread
  have htoken : c.token = some token := by simpa [logs, hc] using hlogs
  exact hends hok (by rw [htoken]; rfl)

/-- An invalidation stays noted. -/
theorem invalidAt_append (past rest : List ℕ) (h : invalidAt svc token calls w past = true) :
    invalidAt svc token calls w (past ++ rest) = true := by
  unfold invalidAt at h ⊢
  rw [Pool.noted_append, h]
  generalize (pool svc calls w).run (server svc.cfg) past = P
  induction rest generalizing P with
  | nil => rfl
  | cons i rest ih =>
    have hstays : Pool.noteStep (noteInvalidation svc.cfg token) P true i = true := by
      unfold Pool.noteStep
      split
      · exact noteInvalidation_true svc.cfg token i _ P.state
      · rfl
    rw [Pool.noted, hstays]
    exact ih _

/-- A token that has expired stays so, and pairs no other phone. -/
structure Expired (token : String) (calls : List Call) (P₀ P : Pool ServerCmd World Answer) :
    Prop where
  spared : SparedTokens P.state
  expired : ∃ row, tokenRow token P.state.db.registry = some row ∧ row.expiresAt < P.state.clock
  paired : ∀ i, Paired token calls P i → Paired token calls P₀ i

theorem Expired.step {P₀ P : Pool ServerCmd World Answer} {invalid : Bool} {i : ℕ} {c : Call}
    {β : Type} {e : ServerCmd β} {k : β → ServerProg Answer} (h : Expired token calls P₀ P)
    (hc : calls[i]? = some c) (hi : P.threads[i]? = some (.act e k))
    (hkeeps : (Prog.act e k).Keeps (pairing c) (Ends c) (P.phase progress .fresh i))
    (hG : InTime token calls P invalid i e) :
    Expired token calls P₀ (P.advance (server svc.cfg) i e k) := by
  obtain ⟨row, hrow, hexpired⟩ := h.expired
  obtain ⟨row', hrow', hlater⟩ :=
    tokenRow_step svc.cfg token h.spared (issued_of_allows hkeeps.1) hrow
  have hclock : P.state.clock ≤ P.state.tick.clock :=
    Int.le_add_of_nonneg_right (Int.natCast_nonneg _)
  refine ⟨h.spared.step svc.cfg e, ⟨row', hrow', ?_⟩, fun j hpaired => ?_⟩
  · have hafter : (P.advance (server svc.cfg) i e k).state.clock = P.state.tick.clock :=
      step_clock svc.cfg P.state e
    rw [hlater.expiresAt_eq, hafter]
    omega
  · obtain ⟨hlogs, answer, hdone, hok⟩ := hpaired
    rcases List.mem_append.1 hdone with hold | hnew
    · exact h.paired j ⟨hlogs, answer, hold, hok⟩
    · -- the command with which a login succeeds comes after its mark
      exfalso
      cases hk : k ((server svc.cfg).step e P.state).1 with
      | act e' k' => simp [Pool.returned, hk] at hnew
      | ret b =>
        obtain ⟨rfl, rfl⟩ : j = i ∧ answer = b := by simpa [Pool.returned, hk] using hnew
        have htoken : c.token = some token := by simpa [logs, hc] using hlogs
        have hends := hkeeps.2 ((server svc.cfg).step e P.state).1 trivial
        rw [hk] at hends
        have hmarked : progress (P.phase progress .fresh j) ⟨e, ((server svc.cfg).step e P.state).1⟩ =
            .marked := hends hok (by rw [htoken]; rfl)
        have hbefore : tokenRow token (Admin.before P.state) = tokenRow token P.state.db.registry :=
          h.spared.before token
        have hin := (hG hlogs).2 (isMark_or_of_progress hmarked) row (hbefore ▸ hrow)
        omega

/-- **When a token is marked only while it is unused and before it expires, it pairs one phone**, in any
interleaving of any calls. -/
theorem pairsOnce_of_inTime (token : String) (calls : List Call) (w : World) (sched : List ℕ)
    (hspared : SparedTokens w)
    (hinTime : Pool.EachNoted (server svc.cfg) (noteInvalidation svc.cfg token) (InTime token calls)
      (pool svc calls w) false sched) : PairsOnce svc token calls w sched := by
  have hI := inv_poolAt svc hspared hinTime
  refine ⟨fun i j hi hj => ?_, fun past rest hsched hgone i hi => ?_⟩
  · exact hI.once i j hi.1 hj.1 (marked_of_paired svc hi) (marked_of_paired svc hj)
  · subst hsched
    rcases hgone with hinvalid | hexpired
    · have hvalid := (hI.marked i hi.1 (marked_of_paired svc hi)).1
      cases hvalid.symm.trans (invalidAt_append svc past rest hinvalid)
    · obtain ⟨hpast, hrest⟩ := (Pool.eachNoted_append _ _ past rest).1 hinTime
      have hspared' := (inv_poolAt svc hspared hpast).spared
      have hend : Expired token calls (poolAt svc calls w past)
          ((poolAt svc calls w past).run (server svc.cfg) rest) :=
        Pool.run_tracked_inv (I := fun P _ => Expired token calls (poolAt svc calls w past) P)
          (phased svc) (tracks_poolAt svc calls w past) ⟨hspared', hexpired, fun _ h => h⟩ hrest
          fun P invalid j c β e k hc hj hkeeping hP hG => by
            obtain ⟨c', hc', hkeeps⟩ := hkeeping j _ hj
            obtain rfl := Option.some.inj (hc.symm.trans hc')
            exact hP.step svc hc hj hkeeps hG
      rw [poolAt, Pool.run_append] at hi
      exact hend.paired i hi

end Runs

/-! ## Two phones -/

/-- The services of a server with a cipher. -/
def pairingServices : PairingServices where
  toDeviceServices := { plainDeviceServices with cipher := some Scheduler.marking }
  qrServerURL := "http://localhost:8080"
  formatTime := toString

/-- The row of a phone whose ids end as those of devices do. -/
def physicalPhone (id : String) : PhysicalDevice where
  id := id
  accountID := "account-1"
  model := ""
  osVersion := ""
  appVersion := ""
  batteryLevel := 0
  networkType := ""
  deviceState := "ACTIVE"

/-- A server with two phones and a token that pairs one. -/
def twoPhones (env : List Tick) : World :=
  { onePlan "pending" with
    db := ⟨[newDevice "phone-sim1" "phone" "account-1" 1, newDevice "tablet-sim1" "tablet" "account-1" 1],
      [], [], [], [], [], [],
      [physicalPhone "phone", physicalPhone "tablet", physicalPhone "phone-sim1",
        physicalPhone "tablet-sim1"], [], [],
      { Registry.empty with
        accounts := [memberAccount]
        pairingTokens := [⟨"row-1", "account-1", "token-1", QRPairingHandler.pairingTTL, false, none⟩] }⟩
    env := env }

/-- A login of a phone with the token. -/
def scan (deviceID : String) : Call := .login (some ⟨"token-1", deviceID, "", "", 1⟩)

/-- A phone that scans the token alone keeps to the condition, and is paired. -/
theorem pairsOnce_scan :
    ((poolAt pairingServices [scan "phone-sim1"] (twoPhones []) (List.replicate 14 0)).done.map
        fun x => (x.1, x.2.isOk)) = [(0, true)] ∧
      PairsOnce pairingServices "token-1" [scan "phone-sim1"] (twoPhones []) (List.replicate 14 0) :=
  ⟨by decide, pairsOnce_of_inTime pairingServices "token-1" [scan "phone-sim1"]
    (twoPhones []) (List.replicate 14 0) (fun _ ht => absurd ht List.not_mem_nil) (by decide)⟩

/-- Both phones read the token before either marks it, and both are paired. -/
theorem two_paired :
    let calls := [scan "phone-sim1", scan "tablet-sim1"]
    let w := twoPhones (List.replicate 22 .quiet ++
      [{ Tick.quiet with uuid := ⟨"credential-2", by decide⟩ }])
    let sched := [0, 1] ++ List.replicate 13 0 ++ List.replicate 13 1
    ((poolAt pairingServices calls w sched).done.map fun x => (x.1, x.2.isOk)) =
        [(0, true), (1, true)] ∧
      ¬ PairsOnce pairingServices "token-1" calls w sched := by
  have hdone : ((poolAt pairingServices [scan "phone-sim1", scan "tablet-sim1"]
      (twoPhones (List.replicate 22 .quiet ++
        [{ Tick.quiet with uuid := ⟨"credential-2", by decide⟩ }]))
      ([0, 1] ++ List.replicate 13 0 ++ List.replicate 13 1)).done.map fun x => (x.1, x.2.isOk)) =
      [(0, true), (1, true)] := by decide
  refine ⟨hdone, fun hone => ?_⟩
  have hpaired : ∀ i, (i, true) ∈ [(0, true), (1, true)] → logs "token-1"
      [scan "phone-sim1", scan "tablet-sim1"] i = true →
      Paired "token-1" [scan "phone-sim1", scan "tablet-sim1"] (poolAt pairingServices
        [scan "phone-sim1", scan "tablet-sim1"] (twoPhones (List.replicate 22 .quiet ++
          [{ Tick.quiet with uuid := ⟨"credential-2", by decide⟩ }]))
        ([0, 1] ++ List.replicate 13 0 ++ List.replicate 13 1)) i := by
    intro i hi hlogs
    rw [← hdone] at hi
    obtain ⟨⟨j, answer⟩, hmem, heq⟩ := List.mem_map.1 hi
    obtain ⟨rfl, hok⟩ := Prod.mk.inj heq
    exact ⟨hlogs, answer, hmem, hok⟩
  exact absurd (hone.once 0 1 (hpaired 0 (by decide) (by decide)) (hpaired 1 (by decide) (by decide)))
    (by decide)

end Pairing

end AeroxeBee.Tenants
