import AeroxeBee.Foundations.Heeding
import AeroxeBee.Accounts.TwoFactor
import AeroxeBee.Extended

/-!
# Switching the second factor on and off

An owner sets up a secret, and switches the second factor on and off with codes of that secret. The
requests are served at once: each of them looks its secret up, and what it writes later goes by the id of
the row that it has seen.

* `handle_heeds`: what a request has found out before it writes;
* `run_switched`: in every run of any requests, the second factor of an owner is switched only by the
  owner, who has shown a code of the secret.
-/

namespace AeroxeBee

/-- The tables with other secrets. -/
def Database.withSecrets (db : Database) (rows : List TwoFASecret) : Database :=
  { db with registry := { db.registry with twoFactorSecrets := rows } }

end AeroxeBee

namespace AeroxeBee.Accounts

open Foundations

/-! ## Statements -/

/-- The statements that change the secrets. -/
inductive TwoFAStatement : Type → Type
  | create (row : TwoFASecret) : TwoFAStatement Unit
  | enable (id : String) (now : ℤ) : TwoFAStatement Unit
  | disable (id : String) : TwoFAStatement Unit

/-- The rows with the second factor of one of them switched. -/
def switch (id : String) (enabled : Bool) (rows : List TwoFASecret) : List TwoFASecret :=
  updateWhere (fun row => decide (row.id = id)) (fun row => { row with enabled := enabled }) rows

/-- A row belongs to a user or to an account. -/
def TwoFASecret.hasOneOwner (row : TwoFASecret) : Bool := row.userID.isSome ^^ row.accountID.isSome

/-- What the statements make of the tables. -/
def twoFAStatements : Executor TwoFAStatement
  | _, _, .create row, db =>
    let rows := db.registry.twoFactorSecrets
    if rows.any (·.id = row.id) then
      (.error "duplicate key value violates unique constraint \"two_factor_secrets_pkey\"", db)
    else if !TwoFASecret.hasOneOwner row then
      (.error "new row for relation \"two_factor_secrets\" violates check constraint \"one_owner\"", db)
    else (.ok (), db.withSecrets (rows ++ [row]))
  | _, _, .enable id _, db => (.ok (), db.withSecrets (switch id true db.registry.twoFactorSecrets))
  | _, _, .disable id, db => (.ok (), db.withSecrets (switch id false db.registry.twoFactorSecrets))

/-- Routines that may change the secrets. -/
abbrev TwoFAProg := Prog (Extended TwoFAStatement)

/-! ## Secrets -/

/-- Five bits as a letter or a digit. -/
def base32Digit (bits : List Bool) : Char :=
  let n := bits.foldl (fun n b => 2 * n + b.toNat) 0
  if n < 26 then Char.ofNat ('A'.toNat + n) else Char.ofNat ('2'.toNat + (n - 26))

/-- Bits in base 32. The last digit is filled up with zeros, and no padding follows it. -/
def base32Bits : List Bool → List Char
  | a :: b :: c :: d :: e :: bits => base32Digit [a, b, c, d, e] :: base32Bits bits
  | [] => []
  | bits => [base32Digit ((bits ++ List.replicate 5 false).take 5)]

/-- Bytes in base 32. -/
def encodeBase32 (bytes : List UInt8) : String :=
  String.ofList (base32Bits (bytes.flatMap fun b => (List.range 8).map fun i => b.toNat.testBit (7 - i)))

example : encodeBase32 [102, 111, 111, 98, 97] = "MZXW6YTB" := by decide

/-- The bytes of a secret: of the time, which is read once more for each of them. -/
def secretBytes : List ℕ → TwoFAProg (List UInt8)
  | [] => return []
  | i :: is => do
    let now ← Prog.call (.server .now)
    let rest ← secretBytes is
    return UInt8.ofNat (now / 2 ^ (3 * i) % 256).toNat :: rest

/-- A new secret. -/
def generateSecret : TwoFAProg String := do
  let bytes ← secretBytes (List.range 20)
  return encodeBase32 bytes

/-- The address that an authenticator reads a secret from. -/
def getTOTPURL (secret issuer account : String) : String :=
  "otpauth://totp/" ++ issuer ++ ":" ++ account ++ "?secret=" ++ secret ++ "&issuer=" ++ issuer ++
    "&digits=6&period=30"

/-- An id, unless it is empty. -/
def nonempty (id : String) : Option String := if id = "" then none else some id

/-- Look a secret up. -/
def lookUpSecret (q : RegistryQuery (Option TwoFASecret)) :
    TwoFAProg (Except String (Option TwoFASecret)) :=
  Prog.call (.server (.db (.registry q)))

/-- Store a new secret, and look it up. -/
def createSecret (userID accountID : String) : TwoFAProg (Except String (Option TwoFASecret)) := do
  let secret ← generateSecret
  let id ← Prog.call (.server .uuid)
  match ← Prog.call (.statement (.create ⟨id.text, nonempty userID, nonempty accountID, secret, false⟩)) with
  | .error e => return .error e
  | .ok () => lookUpSecret (.twoFactorByID id.text)

/-! ## Handlers -/

/-- How the secret of somebody is looked up: staff are users. -/
def secretOf (who : Principal) : RegistryQuery (Option TwoFASecret) :=
  if who.isAdmin then .twoFactorByUserID who.accountID else .twoFactorByAccountID who.accountID

namespace TwoFAHandler

variable (digests : Digests) (who : Principal)

/-- The secret as it is shown. -/
def shown (secret : TwoFASecret) : List (String × String) :=
  [("secret", secret.secret), ("url", getTOTPURL secret.secret "AeroXe Bee" who.accountID),
    ("enabled", toString secret.enabled)]

/-- Store a new secret of somebody. -/
def createOwn : TwoFAProg (Except String (Option TwoFASecret)) :=
  if who.isAdmin then createSecret who.accountID "" else createSecret "" who.accountID

/-- Show the secret; whoever has none is given one. -/
def setup : TwoFAProg Answer := do
  match ← lookUpSecret (secretOf who) with
  | .error _ => return .error ⟨500, "database error"⟩
  | .ok (some secret) => return .ok (shown who secret)
  | .ok none => do
    match ← createOwn who with
    | .error _ => return .error ⟨500, "failed to create 2FA secret"⟩
    -- the row that was just stored is not there: the handler panics
    | .ok none => return .error ⟨500, "internal server error"⟩
    | .ok (some secret) => return .ok (shown who secret)

/-- Switch the second factor on, with a code. A body that cannot be read is `none`. -/
def verify (body : Option String) : TwoFAProg Answer :=
  match body with
  | none => return .error ⟨400, "invalid request body"⟩
  | some code =>
    if code = "" ∨ code.utf8ByteSize ≠ 6 then return .error ⟨400, "code must be 6 digits"⟩
    else do
      match ← lookUpSecret (secretOf who) with
      | .error _ | .ok none => return .error ⟨400, "2FA not set up"⟩
      | .ok (some secret) => do
        let now ← Prog.call (.server .now)
        if verifyTOTP digests secret.secret code (unix now) then
          if secret.enabled then return .ok [("enabled", "true")]
          else do
            let enabledAt ← Prog.call (.server .now)
            match ← Prog.call (.statement (.enable secret.id enabledAt)) with
            | .error _ => return .error ⟨500, "failed to enable 2FA"⟩
            | .ok () => return .ok [("enabled", "true")]
        else return .error ⟨401, "invalid code"⟩

/-- Whether the second factor is on. -/
def status : TwoFAProg Answer :=
  if who.accountID = "" then return .ok [("enabled", "false")]
  else do
    match ← lookUpSecret (secretOf who) with
    | .ok (some secret) => return .ok [("enabled", toString secret.enabled)]
    | _ => return .ok [("enabled", "false")]

/-- Switch the second factor off, with a code. -/
def disable (body : Option String) : TwoFAProg Answer := do
  match ← lookUpSecret (secretOf who) with
  | .error _ | .ok none => return .error ⟨400, "2FA not set up"⟩
  | .ok (some secret) =>
    match body with
    | none => return .error ⟨400, "invalid request body"⟩
    | some code => do
      let now ← Prog.call (.server .now)
      if verifyTOTP digests secret.secret code (unix now) then
        match ← Prog.call (.statement (.disable secret.id)) with
        | .error _ => return .error ⟨500, "failed to disable 2FA"⟩
        | .ok () => return .ok []
      else return .error ⟨401, "invalid code"⟩

end TwoFAHandler

/-- The requests about the second factor. -/
inductive TwoFARequest where
  | setup (who : Principal)
  | verify (who : Principal) (body : Option String)
  | status (who : Principal)
  | disable (who : Principal) (body : Option String)

/-- The handler of a request. -/
def TwoFARequest.handle (digests : Digests) : TwoFARequest → TwoFAProg Answer
  | .setup who => TwoFAHandler.setup who
  | .verify who body => TwoFAHandler.verify digests who body
  | .status who => TwoFAHandler.status who
  | .disable who body => TwoFAHandler.disable digests who body

/-- The server on which the secrets change. -/
def enrolment (cfg : Config) : Sem (Extended TwoFAStatement) World := extended cfg twoFAStatements

/-! ## What is found out before something is written -/

/-- A row is the secret of somebody. -/
def Owns (who : Principal) (row : TwoFASecret) : Prop :=
  if who.isAdmin then row.userID = some who.accountID else row.accountID = some who.accountID

/-- The request switches the second factor of its sender with a code: on, or off. -/
def TwoFARequest.Switches (enabled : Bool) (who : Principal) (code : String) : TwoFARequest → Prop
  | .verify who' body => enabled = true ∧ who' = who ∧ body = some code
  | .disable who' body => enabled = false ∧ who' = who ∧ body = some code
  | _ => False

/-- Before a secret is switched it was found under the sender, who has shown a code of it. -/
def Proven (digests : Digests) (r : TwoFARequest) (enabled : Bool) (id : String)
    (evs : List (Event (Extended TwoFAStatement))) : Prop :=
  ∃ who code row t, r.Switches enabled who code ∧ row.id = id ∧
    (⟨.server (.db (.registry (secretOf who))), .ok (some row)⟩ : Event (Extended TwoFAStatement)) ∈ evs ∧
    (⟨.server .now, t⟩ : Event (Extended TwoFAStatement)) ∈ evs ∧
    code ∈ currentCodes digests row.secret (unix t)

/-- What a request may issue. -/
def TwoFARequest.Allows (digests : Digests) (r : TwoFARequest)
    (evs : List (Event (Extended TwoFAStatement))) : {β : Type} → Extended TwoFAStatement β → Prop
  | _, .server e => e.Reads
  | _, .statement (.create row) => ∃ who, r = .setup who ∧ row.enabled = false ∧ (TwoFASecret.hasOneOwner row = true → Owns who row)
  | _, .statement (.enable id _) => Proven digests r true id evs
  | _, .statement (.disable id) => Proven digests r false id evs

section Heeds

variable {digests : Digests} {r : TwoFARequest} {evs : List (Event (Extended TwoFAStatement))}

theorem reads_secret (q : RegistryQuery (Option TwoFASecret))
    (hq : ∀ reg : Registry, (q.run reg).2 = reg) : (ServerCmd.db (.registry q)).Reads :=
  reads_of_query fun db => by
    show { db with registry := (q.run db.registry).2 } = db
    rw [hq]

theorem reads_secretOf (who : Principal) : (ServerCmd.db (.registry (secretOf who))).Reads := by
  refine reads_secret _ fun reg => ?_
  unfold secretOf
  split_ifs <;> rfl

theorem reads_now : ServerCmd.now.Reads := fun _ => rfl

theorem reads_uuid : ServerCmd.uuid.Reads := fun _ => rfl

/-- A routine that only reads may be performed by every request. -/
theorem heeds_of_reads {α : Type} {p : TwoFAProg α} (hp : p.Only Extended.Reads) :
    p.Heeds (r.Allows digests) (fun _ _ => True) evs := by
  refine (Prog.Heeds.performs hp fun evs β e he => ?_).mono fun _ _ _ => trivial
  cases e with
  | server e => exact he
  | statement q => exact he.elim

theorem secretBytes_reads (is : List ℕ) : (secretBytes is).Only Extended.Reads := by
  induction is with
  | nil => trivial
  | cons i is ih => exact ⟨reads_now, fun now => ih.bind fun rest => trivial⟩

theorem createSecret_heeds {who : Principal} {userID accountID : String} (hr : r = .setup who)
    (howns : ∀ id secret, let row : TwoFASecret := ⟨id, nonempty userID, nonempty accountID, secret, false⟩
      TwoFASecret.hasOneOwner row = true → Owns who row) :
    (createSecret userID accountID).Heeds (r.Allows digests) (fun _ _ => True) evs := by
  have hsecret : generateSecret.Only Extended.Reads := (secretBytes_reads _).bind fun bytes => trivial
  refine (heeds_of_reads hsecret).bind fun evs secret _ => ?_
  refine ⟨reads_uuid, fun id => ⟨⟨who, hr, rfl, howns id.text secret⟩, fun reply => ?_⟩⟩
  cases reply with
  | error e => trivial
  | ok u => exact ⟨reads_secret _ fun _ => rfl, fun _ => trivial⟩

theorem createOwn_heeds {who : Principal} (hr : r = .setup who) :
    (TwoFAHandler.createOwn who).Heeds (r.Allows digests) (fun _ _ => True) evs := by
  unfold TwoFAHandler.createOwn
  split_ifs with hadmin
  · refine createSecret_heeds hr fun id secret hone => ?_
    by_cases hid : who.accountID = "" <;> simp [TwoFASecret.hasOneOwner, nonempty, hid] at hone
    simp [Owns, hadmin, nonempty, hid]
  · refine createSecret_heeds hr fun id secret hone => ?_
    by_cases hid : who.accountID = "" <;> simp [TwoFASecret.hasOneOwner, nonempty, hid] at hone
    simp [Owns, hadmin, nonempty, hid]

theorem proven_of_reads {who : Principal} {row : TwoFASecret} {code : String} {t : ℤ}
    {enabled : Bool} (hswitches : r.Switches enabled who code)
    (hcode : verifyTOTP digests row.secret code (unix t) = true)
    (hrow : (⟨.server (.db (.registry (secretOf who))), .ok (some row)⟩ :
      Event (Extended TwoFAStatement)) ∈ evs)
    (hnow : (⟨.server .now, t⟩ : Event (Extended TwoFAStatement)) ∈ evs) :
    Proven digests r enabled row.id evs :=
  ⟨who, code, row, t, hswitches, rfl, hrow, hnow, (verifyTOTP_iff digests _ _ _).1 hcode⟩

theorem setup_heeds (who : Principal) :
    ((TwoFARequest.setup who).handle digests).Heeds ((TwoFARequest.setup who).Allows digests)
      (fun _ _ => True) [] := by
  refine ⟨reads_secretOf who, fun reply => ?_⟩
  rcases reply with e | (_ | row)
  · trivial
  · refine (createOwn_heeds rfl).bind fun evs created _ => ?_
    rcases created with e | (_ | row) <;> trivial
  · trivial

theorem verify_heeds (who : Principal) (body : Option String) :
    ((TwoFARequest.verify who body).handle digests).Heeds ((TwoFARequest.verify who body).Allows digests)
      (fun _ _ => True) [] := by
  cases body with
  | none => trivial
  | some code =>
    change Prog.Heeds _ _ (ite _ _ _) _
    split_ifs with hlength
    · trivial
    · refine ⟨reads_secretOf who, fun reply => ?_⟩
      rcases reply with e | (_ | row)
      · trivial
      · trivial
      · refine ⟨reads_now, fun now => ?_⟩
        change Prog.Heeds _ _ (ite _ _ _) _
        split_ifs with hcode henabled
        · trivial
        · refine ⟨reads_now, fun enabledAt => ⟨?_, fun reply => ?_⟩⟩
          · exact proven_of_reads ⟨rfl, rfl, rfl⟩ hcode (by simp) (by simp)
          · cases reply <;> trivial
        · trivial

theorem disable_heeds (who : Principal) (body : Option String) :
    ((TwoFARequest.disable who body).handle digests).Heeds ((TwoFARequest.disable who body).Allows digests)
      (fun _ _ => True) [] := by
  refine ⟨reads_secretOf who, fun reply => ?_⟩
  rcases reply with e | (_ | row)
  · trivial
  · trivial
  · cases body with
    | none => trivial
    | some code =>
      refine ⟨reads_now, fun now => ?_⟩
      change Prog.Heeds _ _ (ite _ _ _) _
      split_ifs with hcode
      · refine ⟨proven_of_reads ⟨rfl, rfl, rfl⟩ hcode (by simp) (by simp), fun reply => ?_⟩
        cases reply <;> trivial
      · trivial

/-- **What a request has found out before it writes**, whatever the replies are. -/
theorem handle_heeds (r : TwoFARequest) :
    (r.handle digests).Heeds (r.Allows digests) (fun _ _ => True) [] := by
  cases r with
  | setup who => exact setup_heeds who
  | verify who body => exact verify_heeds who body
  | status who =>
    change Prog.Heeds _ _ (ite _ _ _) _
    split_ifs
    · trivial
    · refine ⟨reads_secretOf who, fun reply => ?_⟩
      rcases reply with e | (_ | row) <;> trivial
  | disable who body => exact disable_heeds who body

end Heeds

/-! ## Rows -/

/-- A secret, whether or not it is in use. -/
def TwoFASecret.asIs (row : TwoFASecret) (enabled : Bool) : TwoFASecret := { row with enabled := enabled }

/-- The secret is still there. -/
def Remains (rows : List TwoFASecret) (row : TwoFASecret) : Prop :=
  ∃ enabled, TwoFASecret.asIs row enabled ∈ rows

/-- How the rows can change: not at all, by a new row, or by one that is switched. -/
inductive SecretsStep (rows : List TwoFASecret) : List TwoFASecret → Prop
  | same : SecretsStep rows rows
  | created (row : TwoFASecret) (hid : ∀ r ∈ rows, r.id ≠ row.id)
      (hone : TwoFASecret.hasOneOwner row = true) : SecretsStep rows (rows ++ [row])
  | switched (id : String) (enabled : Bool) : SecretsStep rows (switch id enabled rows)

section Rows

variable {rows rows' : List TwoFASecret} {row : TwoFASecret} {id : String} {enabled : Bool}

theorem mem_switch : row ∈ switch id enabled rows ↔
    ∃ r ∈ rows, row = if r.id = id then TwoFASecret.asIs r enabled else r := by
  simp only [switch, updateWhere, List.mem_map, decide_eq_true_eq]
  exact exists_congr fun r => and_congr_right' eq_comm

theorem map_id_switch : (switch id enabled rows).map TwoFASecret.id = rows.map TwoFASecret.id := by
  rw [switch, updateWhere, List.map_map]
  refine List.map_congr_left fun r _ => ?_
  by_cases h : r.id = id <;> simp [h]

theorem SecretsStep.nodup (h : SecretsStep rows rows') (hnodup : (rows.map TwoFASecret.id).Nodup) :
    (rows'.map TwoFASecret.id).Nodup := by
  cases h with
  | same => exact hnodup
  | created row hid hone =>
    rw [List.map_append, List.nodup_append]
    refine ⟨hnodup, by simp, ?_⟩
    intro a ha b hb
    obtain ⟨r, hr, rfl⟩ := List.mem_map.1 ha
    simp only [List.map_cons, List.map_nil, List.mem_singleton] at hb
    rw [hb]
    exact hid r hr
  | switched id enabled => rwa [map_id_switch]

/-- No secret is lost, and none is changed. -/
theorem Remains.step (h : Remains rows row) (hstep : SecretsStep rows rows') : Remains rows' row := by
  obtain ⟨b, hb⟩ := h
  cases hstep with
  | same => exact ⟨b, hb⟩
  | created new hid hone => exact ⟨b, List.mem_append_left _ hb⟩
  | switched id enabled =>
    by_cases hid : row.id = id
    · exact ⟨enabled, mem_switch.2 ⟨_, hb, by simp [TwoFASecret.asIs, hid]⟩⟩
    · exact ⟨b, mem_switch.2 ⟨_, hb, by simp [TwoFASecret.asIs, hid]⟩⟩

theorem remains_of_mem (h : row ∈ rows) : Remains rows row := ⟨row.enabled, h⟩

/-- Two secrets with one id are the same. -/
theorem Remains.eq_asIs (hnodup : (rows.map TwoFASecret.id).Nodup) (h : Remains rows row)
    {row' : TwoFASecret} (hmem : row' ∈ rows) (hid : row'.id = row.id) :
    row' = TwoFASecret.asIs row row'.enabled := by
  obtain ⟨b, hb⟩ := h
  have heq : row' = TwoFASecret.asIs row b := List.inj_on_of_nodup_map hnodup hmem hb hid
  rw [heq]
  rfl

end Rows

/-- What a further statement makes of the secrets. -/
theorem secretsStep_run {β : Type} (t : Tick) (q : TwoFAStatement β) (db : Database) :
    SecretsStep db.registry.twoFactorSecrets (twoFAStatements t q db).2.registry.twoFactorSecrets := by
  cases q with
  | create row =>
    simp only [twoFAStatements]
    split_ifs with hid hone
    · exact .same
    · exact .same
    · refine .created row ?_ (by simpa using hone)
      simpa using hid
  | enable id now => exact .switched id true
  | disable id => exact .switched id false

/-! ## Every run -/

section Run

variable (digests : Digests) (calls : List TwoFARequest)

/-- A request of the owner has shown a code of a secret, to switch the second factor on or off. The code
is one of a time that the request has read. -/
def ShowsCode (log : List (ℕ × Event (Extended TwoFAStatement))) (enabled : Bool)
    (row : TwoFASecret) : Prop :=
  ∃ i r who code t, calls[i]? = some r ∧ r.Switches enabled who code ∧ Owns who row ∧
    (i, (⟨.server .now, t⟩ : Event (Extended TwoFAStatement))) ∈ log ∧
    code ∈ currentCodes digests row.secret (unix t)

/-- Where a row comes from, and whether it was in use then: it was there before, or its owner has set it
up. -/
def Began (before : List TwoFASecret) (row : TwoFASecret) (enabled : Bool) : Prop :=
  TwoFASecret.asIs row enabled ∈ before ∨
    enabled = false ∧ ∃ (i : ℕ) (who : Principal), calls[i]? = some (.setup who) ∧ Owns who row

/-- The second factor is as it was in the beginning, or has been switched so with a code. -/
def Switched (before : List TwoFASecret) (log : List (ℕ × Event (Extended TwoFAStatement)))
    (row : TwoFASecret) : Prop :=
  ∃ enabled, Began calls before row enabled ∧
    (row.enabled = enabled ∨ ShowsCode digests calls log row.enabled row)

variable {digests calls} {log more : List (ℕ × Event (Extended TwoFAStatement))} {enabled : Bool}
  {row : TwoFASecret} {before : List TwoFASecret}

theorem ShowsCode.append (h : ShowsCode digests calls log enabled row) :
    ShowsCode digests calls (log ++ more) enabled row := by
  obtain ⟨i, r, who, code, t, hr, hswitches, howns, hnow, hcode⟩ := h
  exact ⟨i, r, who, code, t, hr, hswitches, howns, List.mem_append_left more hnow, hcode⟩

theorem Switched.append (h : Switched digests calls before log row) :
    Switched digests calls before (log ++ more) row := by
  obtain ⟨enabled, hbegan, hrow⟩ := h
  exact ⟨enabled, hbegan, hrow.imp_right ShowsCode.append⟩

theorem Began.asIs {was : Bool} (h : Began calls before row was) :
    Began calls before (TwoFASecret.asIs row enabled) was := h

/-- A row that is switched by somebody who has shown a code. -/
theorem Switched.asIs (h : Switched digests calls before log row)
    (hcode : ShowsCode digests calls log enabled row) :
    Switched digests calls before log (TwoFASecret.asIs row enabled) := by
  obtain ⟨was, hbegan, -⟩ := h
  exact ⟨was, hbegan.asIs, .inr hcode⟩

/-- The rows of a pool. -/
def secretsOf (P : Pool (Extended TwoFAStatement) World Answer) : List TwoFASecret :=
  P.state.db.registry.twoFactorSecrets

variable (digests calls before) in
/-- What holds while the requests are served. -/
structure Enrolling (P : Pool (Extended TwoFAStatement) World Answer) : Prop where
  alone : Alone P.state
  nodup : ((secretsOf P).map TwoFASecret.id).Nodup
  kept : ∀ row ∈ before, Remains (secretsOf P) row
  switched : ∀ row ∈ secretsOf P, Switched digests calls before P.log row
  /-- What was told about a secret is true. -/
  truthful : ∀ i who row, (i, (⟨.server (.db (.registry (secretOf who))), .ok (some row)⟩ :
    Event (Extended TwoFAStatement))) ∈ P.log → Owns who row ∧ Remains (secretsOf P) row

theorem enrolling_start {w : World} (halone : Alone w)
    (hnodup : (w.db.registry.twoFactorSecrets.map TwoFASecret.id).Nodup) :
    Enrolling digests calls w.db.registry.twoFactorSecrets
      (Pool.start (calls.map (TwoFARequest.handle digests)) w) where
  alone := halone
  nodup := hnodup
  kept _ hrow := remains_of_mem hrow
  switched row hrow := ⟨row.enabled, .inl hrow, .inl rfl⟩
  truthful _ _ _ h := by cases h

/-- A lookup that finds a secret finds one of the sender. -/
theorem owns_of_run {who : Principal} {db : Database} {row : TwoFASecret}
    (h : ((Query.registry (secretOf who)).run db).1 = .ok (some row)) :
    Owns who row ∧ row ∈ db.registry.twoFactorSecrets := by
  unfold secretOf at h
  by_cases hadmin : who.isAdmin = true
  · rw [if_pos hadmin] at h
    have hfind : db.registry.twoFactorSecrets.find? (·.userID = some who.accountID) = some row :=
      Except.ok.inj h
    exact ⟨by simpa [Owns, hadmin] using List.find?_some hfind, List.mem_of_find?_eq_some hfind⟩
  · rw [if_neg hadmin] at h
    have hfind : db.registry.twoFactorSecrets.find? (·.accountID = some who.accountID) = some row :=
      Except.ok.inj h
    exact ⟨by simpa [Owns, hadmin] using List.find?_some hfind, List.mem_of_find?_eq_some hfind⟩

variable {cfg : Config} {P : Pool (Extended TwoFAStatement) World Answer} {i : ℕ} {β : Type}

/-- A request reads. -/
theorem Enrolling.reads (h : Enrolling digests calls before P) {e : ServerCmd β} (he : e.Reads)
    (k : β → TwoFAProg Answer) :
    Enrolling digests calls before (P.advance (enrolment cfg) i (.server e) k) := by
  have hdb : ((enrolment cfg).step (.server e) P.state).2.db = P.state.db := h.alone.step_reads he
  have hrows : secretsOf (P.advance (enrolment cfg) i (.server e) k) = secretsOf P := by
    rw [secretsOf, Pool.advance, hdb]
    rfl
  refine ⟨h.alone.step_extended _, hrows ▸ h.nodup, fun row hrow => hrows ▸ h.kept row hrow,
    fun row hrow => ?_, fun j who row hmem => ?_⟩
  · exact (h.switched row (hrows ▸ hrow)).append
  · rw [hrows]
    rcases List.mem_append.1 hmem with hold | hnew
    · exact h.truthful j who row hold
    · have hreply : ((enrolment cfg).step (.server (.db (.registry (secretOf who)))) P.state).1 =
          .ok (some row) :=
        step_of_event_eq (Prod.mk.inj (List.mem_singleton.1 hnew)).2
      obtain ⟨howns, hrow⟩ := owns_of_run (h.alone.lookup_reply hreply)
      exact ⟨howns, remains_of_mem hrow⟩

/-- Whoever has found a secret and shown a code of it has shown a code of the row with its id. -/
theorem Enrolling.showsCode (h : Enrolling digests calls before P) {r : TwoFARequest}
    (hr : calls[i]? = some r) {id : String} (hproven : Proven digests r enabled id (Pool.eventsOf i P.log))
    (hrow : row ∈ secretsOf P) (hid : row.id = id) : ShowsCode digests calls P.log enabled row := by
  obtain ⟨who, code, found, t, hswitches, rfl, hfound, hnow, hcode⟩ := hproven
  obtain ⟨howns, hremains⟩ := h.truthful i who found (Pool.mem_eventsOf.1 hfound)
  have hsame := hremains.eq_asIs h.nodup hrow hid
  refine ⟨i, r, who, code, t, hr, hswitches, ?_, Pool.mem_eventsOf.1 hnow, ?_⟩
  · rw [hsame]
    exact howns
  · rw [hsame]
    exact hcode

/-- Every row that a further statement leaves has been switched with a code, or is as it was. -/
theorem Enrolling.switched_statement (h : Enrolling digests calls before P) {r : TwoFARequest}
    (hr : calls[i]? = some r) {q : TwoFAStatement β}
    (hallows : r.Allows digests (Pool.eventsOf i P.log) (.statement q)) (t : Tick)
    (hrow : row ∈ (twoFAStatements t q P.state.db).2.registry.twoFactorSecrets) :
    Switched digests calls before P.log row := by
  have hswitch {id : String} {b : Bool} (hproven : Proven digests r b id (Pool.eventsOf i P.log))
      (hmem : row ∈ switch id b (secretsOf P)) : Switched digests calls before P.log row := by
    obtain ⟨old, hold, rfl⟩ := mem_switch.1 hmem
    split_ifs with hid
    · exact (h.switched old hold).asIs (h.showsCode hr hproven hold hid)
    · exact h.switched old hold
  cases q with
  | create new =>
    obtain ⟨who, rfl, hnew, howns⟩ := hallows
    simp only [twoFAStatements] at hrow
    split_ifs at hrow with hid hone
    · exact h.switched row hrow
    · exact h.switched row hrow
    · rcases List.mem_append.1 hrow with hold | hmem
      · exact h.switched row hold
      · obtain rfl := List.mem_singleton.1 hmem
        exact ⟨false, .inr ⟨rfl, i, who, hr, howns (by simpa using hone)⟩, .inl hnew⟩
  | enable id now => exact hswitch hallows hrow
  | disable id => exact hswitch hallows hrow

/-- A request creates or switches a row. -/
theorem Enrolling.statement (h : Enrolling digests calls before P) {r : TwoFARequest}
    (hr : calls[i]? = some r) {q : TwoFAStatement β}
    (hallows : r.Allows digests (Pool.eventsOf i P.log) (.statement q))
    (k : Except String β → TwoFAProg Answer) :
    Enrolling digests calls before (P.advance (enrolment cfg) i (.statement q) k) := by
  have hrows : secretsOf (P.advance (enrolment cfg) i (.statement q) k) = secretsOf P ∨
      secretsOf (P.advance (enrolment cfg) i (.statement q) k) =
        (twoFAStatements P.state.next q P.state.db).2.registry.twoFactorSecrets := by
    have hdb : ((enrolment cfg).step (.statement q) P.state).2.db = P.state.db ∨
        ((enrolment cfg).step (.statement q) P.state).2.db =
          (twoFAStatements P.state.next q P.state.db).2 := h.alone.statement_db q
    exact hdb.imp (congrArg fun db : Database => db.registry.twoFactorSecrets)
      (congrArg fun db : Database => db.registry.twoFactorSecrets)
  have hstep : SecretsStep (secretsOf P) (secretsOf (P.advance (enrolment cfg) i (.statement q) k)) := by
    rcases hrows with hsame | hrun
    · rw [hsame]
      exact .same
    · rw [hrun]
      exact secretsStep_run P.state.next q P.state.db
  refine ⟨h.alone.step_extended _, hstep.nodup h.nodup, fun row hrow => (h.kept row hrow).step hstep,
    fun row hrow => ?_, fun j who row hmem => ?_⟩
  · rcases hrows with hsame | hrun
    · exact (h.switched row (hsame ▸ hrow)).append
    · exact (h.switched_statement hr hallows _ (hrun ▸ hrow)).append
  · rcases List.mem_append.1 hmem with hold | hnew
    · exact (h.truthful j who row hold).imp_right fun hrow => hrow.step hstep
    · exact absurd (Prod.mk.inj (List.mem_singleton.1 hnew)).2 server_ne_statement

theorem enrolling_run {w : World} (halone : Alone w)
    (hnodup : (w.db.registry.twoFactorSecrets.map TwoFASecret.id).Nodup) (sched : List ℕ) :
    Enrolling digests calls w.db.registry.twoFactorSecrets
      ((Pool.start (calls.map (TwoFARequest.handle digests)) w).run (enrolment cfg) sched) := by
  refine Pool.run_labelled_inv (TwoFARequest.handle digests) calls w sched
    (enrolling_start halone hnodup) fun P i r β e k hr hf h => ?_
  have hallows := ((handle_heeds r).of_follows hf).1
  rw [List.nil_append] at hallows
  cases e with
  | server e => exact h.reads hallows k
  | statement q => exact h.statement hr hallows k

variable (digests calls) in
/-- **The second factor is switched only by its owner, with a code of the secret**: after any run of any
requests, no secret of the beginning is lost or changed, and every secret was there in the beginning, or
was set up by its owner and not in use then; and if it is in use now and was not, or the other way
round, then a request of the owner asked for that and showed a code that the secret had at a time which
the request has read. -/
theorem run_switched {w : World} (halone : Alone w)
    (hnodup : (w.db.registry.twoFactorSecrets.map TwoFASecret.id).Nodup) (sched : List ℕ) :
    let P := (Pool.start (calls.map (TwoFARequest.handle digests)) w).run (enrolment cfg) sched
    (∀ row ∈ w.db.registry.twoFactorSecrets, Remains (secretsOf P) row) ∧
      ∀ row ∈ secretsOf P, Switched digests calls w.db.registry.twoFactorSecrets P.log row := by
  intro P
  have h := @enrolling_run digests calls cfg w halone hnodup sched
  exact ⟨h.kept, h.switched⟩

/-- The digests under the key of twenty zeros in the half minutes around the beginning of time. -/
def zeroDigests : Digests where
  toUpper := String.toUpper
  decodeBase32 _ := List.replicate 20 0
  hmacSHA1 _ message :=
    if message = putUint64 (-1) then
      #v[180, 33, 102, 83, 107, 175, 224, 223, 131, 107, 96, 153, 226, 80, 190, 100, 108, 47, 36, 115]
    else if message = putUint64 0 then
      #v[218, 182, 154, 217, 142, 40, 118, 79, 151, 126, 226, 72, 126, 79, 63, 104, 115, 178, 162, 151]
    else
      #v[238, 176, 11, 11, 204, 134, 70, 121, 255, 45, 141, 211, 11, 236, 73, 92, 181, 242, 238, 158]

/-- A member sets a secret up while the clock stands still, and switches the second factor on. -/
theorem enrolled_switched :
    let calls : List TwoFARequest :=
      [.setup ⟨"account-1", false⟩, .verify ⟨"account-1", false⟩ (some "328482")]
    let P := (Pool.start (calls.map (TwoFARequest.handle zeroDigests)) (oneAccount)).run
      (enrolment .default) (List.replicate 24 0 ++ List.replicate 4 1)
    (secretsOf P).map (fun row => (row.accountID, row.secret, row.enabled)) =
        [(some "account-1", "AAAAAAAAAAAAAAAAAAAAAAAAAAAAAAAA", true)] ∧
      ∀ row ∈ secretsOf P, Switched zeroDigests calls [] P.log row := by
  have halone : Alone oneAccount := fun t ht => by cases ht
  have hids : (oneAccount.db.registry.twoFactorSecrets.map TwoFASecret.id).Nodup := List.nodup_nil
  exact ⟨by decide, (run_switched zeroDigests _ halone hids _).2⟩

end Run

end AeroxeBee.Accounts
