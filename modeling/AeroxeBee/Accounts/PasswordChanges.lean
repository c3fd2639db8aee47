import AeroxeBee.Accounts.TwoFactor

/-!
# Changed passwords

Users of the panel and members change their passwords with the same handler. The hash of a user is
written by a statement of its own; that of a member is part of the row that is written back, by a
statement whose columns do not include it.

* `login_spec`: whom a login with a password lets in;
* `exec_changing`: what a request to change a password comes to;
* `passwordChanged_iff`: when a login accepts the new password after a success, and only the old one
  after an error.
-/

namespace AeroxeBee.Accounts

open Foundations

/-! ## Logins -/

/-- The row that a login finds under an email. -/
def foundByEmail (r : Registry) (email : String) : Option LoginRow :=
  match r.users.find? (·.email = email) with
  | some user => some (.user user)
  | none => (r.accounts.find? (·.email = email)).map .account

/-- The answer lets a row in, at once or with the second factor. -/
def LoginAnswer.Admits (answer : LoginAnswer) (who : LoginRow) : Prop :=
  (∃ token refresh, answer = .tokens token refresh who) ∨ ∃ token, answer = .pending token who

/-- The row may be used, and its hash accepts the password. -/
def Opened (pw : Passwords) (password : String) (who : LoginRow) : Prop :=
  who.status = "active" ∧ pw.compare who.passwordHash password = true

section Login

variable {svc : LoginServices}

/-- Tokens can be made. -/
theorem generateToken_ok (hlawful : svc.tokens.Lawful) (id email : String) (admin : Bool) (ttl : ℤ)
    (purpose : String) (v : World) :
    ∃ text, ((generateTokenWithPurpose svc.tokens id email admin ttl purpose).exec
      (server svc.cfg) v).val = .ok text :=
  hlawful.signs _ _ _ _

/-- **A row that has been found is let in if it may be used and accepts the password.** -/
theorem loginRow_spec (hlawful : svc.tokens.Lawful) (password : String) (who : LoginRow) (v : World) :
    (Opened svc.passwords password who →
        (((AuthHandler.loginRow svc password who).exec (server svc.cfg) v).val).Admits who) ∧
      (¬ Opened svc.passwords password who →
        ∃ e, ((AuthHandler.loginRow svc password who).exec (server svc.cfg) v).val = .error e) := by
  unfold AuthHandler.loginRow Opened
  constructor
  · rintro ⟨hstatus, hcompare⟩
    rw [if_neg (not_not.2 hstatus), if_neg (by simp [hcompare]), Prog.exec_bind]
    obtain ⟨token, htoken⟩ := generateToken_ok hlawful who.id who.email who.isStaff 900000000000 "" v
    rw [generateToken, htoken]
    dsimp only
    rw [Prog.exec_bind]
    obtain ⟨refresh, hrefresh⟩ := generateToken_ok hlawful who.id who.email who.isStaff
      604800000000000 "" ((generateTokenWithPurpose svc.tokens who.id who.email who.isStaff
        900000000000 "").exec (server svc.cfg) v).state
    rw [generateToken, hrefresh]
    dsimp only
    rw [Prog.exec_bind]
    dsimp only
    split_ifs
    · rw [Prog.exec_bind]
      dsimp only
      split
      · next h =>
        obtain ⟨text, htext⟩ := generateToken_ok hlawful who.id who.email who.isStaff 300000000000
          pendingPurpose _
        cases htext.symm.trans h
      · exact .inr ⟨_, rfl⟩
    · exact .inl ⟨_, _, rfl⟩
  · intro hnot
    by_cases hstatus : who.status = "active"
    · have hcompare : svc.passwords.compare who.passwordHash password = false := by
        simpa [hstatus] using hnot
      rw [if_neg (not_not.2 hstatus), if_pos (by simp [hcompare])]
      exact ⟨_, rfl⟩
    · rw [if_pos hstatus]
      exact ⟨_, rfl⟩

/-- A login that lets a row in: the row is found under the email, may be used, and accepts the
password. -/
def LetsIn (svc : LoginServices) (r : Registry) (req : AuthHandler.LoginRequest) (who : LoginRow) :
    Prop :=
  req.email ≠ "" ∧ req.password ≠ "" ∧ foundByEmail r req.email = some who ∧
    Opened svc.passwords req.password who

/-- **Whom a login lets in**, when nothing fails. -/
theorem login_spec (hlawful : svc.tokens.Lawful) {v : World} (h : Calm v)
    (req : AuthHandler.LoginRequest) :
    (∀ who, LetsIn svc v.db.registry req who →
        (((AuthHandler.login svc (some req)).exec (server svc.cfg) v).val).Admits who) ∧
      ((¬ ∃ who, LetsIn svc v.db.registry req who) →
        ∃ e, ((AuthHandler.login svc (some req)).exec (server svc.cfg) v).val = .error e) := by
  unfold AuthHandler.login
  dsimp only
  by_cases hempty : req.email = "" ∨ req.password = ""
  · rw [if_pos hempty]
    refine ⟨fun who hin => ?_, fun _ => ⟨_, rfl⟩⟩
    exact absurd hempty (not_or.2 ⟨hin.1, hin.2.1⟩)
  · obtain ⟨hemail, hpassword⟩ := not_or.1 hempty
    rw [if_neg hempty, Prog.call_bind, Prog.exec_act]
    obtain ⟨hval, hdb⟩ := h.step_query svc.cfg (.registry (.userByEmail req.email))
    have hcalm : Calm ((server svc.cfg).step (.db (.registry (.userByEmail req.email))) v).2 :=
      h.step _
    generalize ((server svc.cfg).step (.db (.registry (.userByEmail req.email))) v).2 = v₁ at hdb hcalm
    have hrow : ∀ row v', foundByEmail v.db.registry req.email = some row →
        (∀ who, LetsIn svc v.db.registry req who →
            (((AuthHandler.loginRow svc req.password row).exec (server svc.cfg) v').val).Admits who) ∧
          ((¬ ∃ who, LetsIn svc v.db.registry req who) →
            ∃ e, ((AuthHandler.loginRow svc req.password row).exec (server svc.cfg) v').val =
              .error e) := by
      intro row v' hfound
      obtain ⟨hopened, hrefused⟩ := loginRow_spec hlawful req.password row v'
      refine ⟨fun who hin => ?_, fun hnone => hrefused fun hopen => ?_⟩
      · obtain rfl := Option.some.inj (hfound.symm.trans hin.2.2.1)
        exact hopened hin.2.2.2
      · exact hnone ⟨row, hemail, hpassword, hfound, hopen⟩
    rw [hval]
    dsimp only [Query.run, RegistryQuery.run]
    cases huser : v.db.registry.users.find? (·.email = req.email) with
    | some user => exact hrow (.user user) v₁ (by rw [foundByEmail, huser])
    | none =>
      dsimp only [AuthHandler.loginMember]
      obtain ⟨hval₁, -⟩ := hcalm.step_query svc.cfg (.registry (.accountByEmail req.email))
      have hdb₁ : v₁.db = v.db := hdb
      rw [Prog.call_bind, Prog.exec_act, hval₁, hdb₁]
      dsimp only [Query.run, RegistryQuery.run]
      have hfound : foundByEmail v.db.registry req.email =
          (v.db.registry.accounts.find? (·.email = req.email)).map .account := by
        rw [foundByEmail, huser]
      cases haccount : v.db.registry.accounts.find? (·.email = req.email) with
      | some account => exact hrow (.account account) _ (by rw [hfound, haccount]; rfl)
      | none =>
        refine ⟨fun who hin => ?_, fun _ => ⟨_, rfl⟩⟩
        have hnone := hin.2.2.1
        rw [hfound, haccount] at hnone
        cases hnone

end Login

/-! ## Changes -/

/-- Change the hash of a row: the row is looked up, the old password is checked, and the hash of the
new one is saved. -/
def changing {ρ : Type} (pw : Passwords) (req : PasswordChange) (lookup : RegistryQuery (Option ρ))
    (hashOf : ρ → String) (save : ρ → String → RegistryQuery Unit) (unread missing failed : HttpError) :
    ServerProg Answer := do
  match ← Prog.call (.db (.registry lookup)) with
  | .error _ => return .error unread
  | .ok none => return .error missing
  | .ok (some row) =>
    match ← rehash pw (hashOf row) req with
    | .error e => return .error e
    | .ok hash =>
      match ← Prog.call (.db (.registry (save row hash))) with
      | .error _ => return .error failed
      | .ok _ => return .ok []

/-- Users of the panel change their passwords so. -/
theorem changeUserPassword_eq (pw : Passwords) (id : String) (req : PasswordChange) :
    AuthHandler.changeUserPassword pw id req =
      changing pw req (.userByID id) User.passwordHash (fun user hash => .updatePassword user.id hash)
        ⟨404, "user not found"⟩ ⟨404, "user not found"⟩ ⟨500, "failed to update password"⟩ := by
  unfold AuthHandler.changeUserPassword changing
  refine congrArg (Prog.call _ >>= ·) (funext fun reply => ?_)
  rcases reply with e | _ | user <;> rfl

/-- Members change their passwords so. -/
theorem amendAccount_changeHash_eq (pw : Passwords) (id : String) (req : PasswordChange) :
    amendAccount id ⟨404, "account not found"⟩ (changeHash pw req)
        ⟨500, "failed to update password"⟩ (fun _ => []) =
      changing pw req (.accountByID id) Account.passwordHash
        (fun account hash => .updateAccount { account with passwordHash := hash })
        ⟨404, "account not found"⟩ ⟨404, "account not found"⟩ ⟨500, "failed to update password"⟩ := by
  unfold amendAccount changing
  refine congrArg (Prog.call _ >>= ·) (funext fun reply => ?_)
  rcases reply with e | _ | account
  · rfl
  · rfl
  · unfold writeBack changeHash
    dsimp only
    rw [bind_assoc]
    refine congrArg (rehash pw account.passwordHash req >>= ·) (funext fun made => ?_)
    cases made <;> rfl

section Changing

variable (cfg : Config) {w : World} {ρ : Type} {pw : Passwords} {req : PasswordChange}
  {lookup : RegistryQuery (Option ρ)} {hashOf : ρ → String} {save : ρ → String → RegistryQuery Unit}
  {unread missing failed : HttpError}

/-- A request gets to its last statement: the row is found, the old password is right, and the new one
can be hashed. -/
structure Gets (pw : Passwords) (req : PasswordChange) (lookup : RegistryQuery (Option ρ))
    (hashOf : ρ → String) (w : World) (row : ρ) (hash : String) : Prop where
  answered : (w.later 0).fault = .none
  found : (lookup.run w.db.registry).1 = .ok (some row)
  accepted : pw.compare (hashOf row) req.oldPassword = true
  hashed : ((w.later 1).nonce.bind fun salt => pw.generate salt req.newPassword) = .ok hash

/-- What comes of the last statement. -/
structure Ends (w : World) (q : RegistryQuery Unit) (val : Answer) (w' : World) : Prop where
  executed : (w.later 2).fault = .none → val = .ok [] ∧ w'.db.registry = (q.run w.db.registry).2
  refused : ∀ e, (w.later 2).fault = .refused e →
    (∃ error, val = .error error) ∧ w'.db.registry = w.db.registry
  lost : ∀ e, (w.later 2).fault = .lost e →
    (∃ error, val = .error error) ∧ w'.db.registry = (q.run w.db.registry).2

variable (pw req) in
/-- The check of the old password and the hash of the new one. -/
theorem exec_rehash (halone : Alone w) (hash : String) :
    (∀ made, pw.compare hash req.oldPassword = true →
        ((w.later 0).nonce.bind fun salt => pw.generate salt req.newPassword) = .ok made →
        ((rehash pw hash req).exec (server cfg) w).val = .ok made ∧
          ((rehash pw hash req).exec (server cfg) w).state = ((server cfg).step .nonce w).2) ∧
      ((∀ made, ¬ (pw.compare hash req.oldPassword = true ∧
          ((w.later 0).nonce.bind fun salt => pw.generate salt req.newPassword) = .ok made)) →
        (∃ e, ((rehash pw hash req).exec (server cfg) w).val = .error e) ∧
          ((rehash pw hash req).exec (server cfg) w).state.db = w.db) := by
  have hdrawn : ((server cfg).step .nonce w).1 = (w.later 0).nonce := rfl
  unfold rehash
  cases hcompare : pw.compare hash req.oldPassword with
  | false =>
    refine ⟨nofun, fun _ => ⟨⟨_, rfl⟩, rfl⟩⟩
  | true =>
    rw [if_neg (by simp), Prog.call_bind, Prog.exec_act, hdrawn]
    cases hmade : (w.later 0).nonce.bind fun salt => pw.generate salt req.newPassword with
    | error e => exact ⟨nofun, fun _ => ⟨⟨_, rfl⟩, halone.tick_db⟩⟩
    | ok made =>
      refine ⟨fun made' _ hmade' => ?_, fun hnone => absurd ⟨rfl, rfl⟩ (hnone made)⟩
      obtain rfl := Except.ok.inj hmade'
      exact ⟨rfl, rfl⟩

/-- The last statement of a request. -/
theorem ends_save {w₂ : World} (halone : Alone w₂) {q : RegistryQuery Unit}
    (hregistry : w₂.db.registry = w.db.registry) (hnext : w₂.next = w.later 2)
    (hsave : (q.run w.db.registry).1 = .ok ()) {p : ServerProg Answer}
    (hp : p = do
      match ← Prog.call (.db (.registry q)) with
      | .error _ => return .error failed
      | .ok _ => return .ok []) :
    Ends w q (p.exec (server cfg) w₂).val (p.exec (server cfg) w₂).state := by
  rw [hp, Prog.call_bind, Prog.exec_act]
  rcases halone.step_query cfg (.registry q) with
    ⟨hfault, hval, hdb⟩ | ⟨e, hfault, hval, hdb⟩ | ⟨e, hfault, hval, hdb⟩
  · have hreply : ((server cfg).step (.db (.registry q)) w₂).1 = .ok () := by
      rw [hval, ← hsave, ← hregistry]
      rfl
    rw [hnext] at hfault
    rw [hreply]
    refine ⟨fun _ => ⟨rfl, ?_⟩, fun e he => ?_, fun e he => ?_⟩
    · rw [← hregistry]
      exact congrArg Database.registry hdb
    · cases hfault.symm.trans he
    · cases hfault.symm.trans he
  · rw [hnext] at hfault
    rw [hval]
    refine ⟨fun he => ?_, fun _ _ => ⟨⟨_, rfl⟩, ?_⟩, fun e he => ?_⟩
    · cases hfault.symm.trans he
    · rw [← hregistry]
      exact congrArg Database.registry hdb
    · cases hfault.symm.trans he
  · rw [hnext] at hfault
    rw [hval]
    refine ⟨fun he => ?_, fun e he => ?_, fun _ _ => ⟨⟨_, rfl⟩, ?_⟩⟩
    · cases hfault.symm.trans he
    · cases hfault.symm.trans he
    · rw [← hregistry]
      exact congrArg Database.registry hdb

variable (pw req lookup hashOf save unread missing failed) in
/-- **What a request to change a password comes to**: it gets to its last statement, or it fails and
nothing is saved. -/
theorem exec_changing (halone : Alone w) (hread : (lookup.run w.db.registry).2 = w.db.registry)
    (hsave : ∀ row hash, ((save row hash).run w.db.registry).1 = .ok ()) :
    let o := (changing pw req lookup hashOf save unread missing failed).exec (server cfg) w
    (∀ row hash, Gets pw req lookup hashOf w row hash → Ends w (save row hash) o.val o.state) ∧
      ((¬ ∃ row hash, Gets pw req lookup hashOf w row hash) →
        (∃ e, o.val = .error e) ∧ o.state.db.registry = w.db.registry) := by
  dsimp only
  generalize ho : (changing pw req lookup hashOf save unread missing failed).exec (server cfg) w = o
  unfold changing at ho
  rw [Prog.call_bind, Prog.exec_act] at ho
  obtain ⟨hval, hregistry⟩ := step_lookup cfg halone lookup hread
  have halone₁ : Alone ((server cfg).step (.db (.registry lookup)) w).2 := halone.step _
  have hlater : ∀ n, ((server cfg).step (.db (.registry lookup)) w).2.later n = w.later (n + 1) :=
    fun n => step_later cfg w _ n
  generalize ((server cfg).step (.db (.registry lookup)) w).2 = w₁ at ho hregistry halone₁ hlater
  rcases hval with ⟨hfault, hval⟩ | ⟨hfault, e, hval⟩
  · rw [hval] at ho
    cases hfound : (lookup.run w.db.registry).1 with
    | error e =>
      rw [hfound] at ho
      subst ho
      exact ⟨fun row hash h => (nomatch hfound.symm.trans h.found), fun _ => ⟨⟨_, rfl⟩, hregistry⟩⟩
    | ok reply =>
      cases reply with
      | none =>
        rw [hfound] at ho
        subst ho
        exact ⟨fun row hash h => (nomatch hfound.symm.trans h.found), fun _ => ⟨⟨_, rfl⟩, hregistry⟩⟩
      | some row =>
        rw [hfound] at ho
        dsimp only at ho
        rw [Prog.exec_bind] at ho
        obtain ⟨hmade, hnot⟩ := exec_rehash cfg pw req halone₁ (hashOf row)
        rw [hlater 0] at hmade hnot
        have hsame : ∀ row' hash, Gets pw req lookup hashOf w row' hash → row' = row :=
          fun row' hash h => Option.some.inj (Except.ok.inj (h.found.symm.trans hfound))
        by_cases hgets : ∃ hash, Gets pw req lookup hashOf w row hash
        · obtain ⟨hash, hgets⟩ := hgets
          refine ⟨fun row' hash' h => ?_, fun hnone => absurd ⟨row, hash, hgets⟩ hnone⟩
          obtain rfl := hsame row' hash' h
          obtain rfl : hash' = hash := Except.ok.inj (h.hashed.symm.trans hgets.hashed)
          obtain ⟨hvalue, hstate⟩ := hmade hash' h.accepted h.hashed
          rw [hvalue, hstate] at ho
          subst ho
          exact ends_save cfg (halone₁.step .nonce)
            (congrArg Database.registry halone₁.tick_db |>.trans hregistry)
            (by rw [next_eq_later, step_later, hlater]) (hsave row' hash') rfl
        · refine ⟨fun row' hash h => ?_, fun _ => ?_⟩
          · obtain rfl := hsame row' hash h
            exact absurd ⟨hash, h⟩ hgets
          · obtain ⟨⟨e, herror⟩, hdb⟩ := hnot fun made h =>
              hgets ⟨made, next_eq_later w ▸ hfault, hfound, h.1, h.2⟩
            rw [herror] at ho
            subst ho
            exact ⟨⟨_, rfl⟩, (congrArg Database.registry hdb).trans hregistry⟩
  · rw [hval] at ho
    subst ho
    refine ⟨fun row hash h => absurd (next_eq_later w ▸ h.answered) hfault, fun _ => ⟨⟨_, rfl⟩, hregistry⟩⟩

end Changing

/-! ## The principal -/

/-- The row of a principal. -/
def Principal.row (who : Principal) (r : Registry) : Option LoginRow :=
  if who.isAdmin then (r.users.find? (·.id = who.accountID)).map .user
  else (r.accounts.find? (·.id = who.accountID)).map .account

/-- The statement that saves another hash for a row. -/
def LoginRow.save (hash : String) : LoginRow → RegistryQuery Unit
  | user row => .updatePassword row.id hash
  | account row => .updateAccount { row with passwordHash := hash }

/-- A request of a principal gets to its last statement. -/
structure Attempts (pw : Passwords) (who : Principal) (req : PasswordChange) (w : World)
    (row : LoginRow) (hash : String) : Prop where
  authenticated : who.accountID ≠ ""
  strong : pw.strength req.newPassword = none
  answered : (w.later 0).fault = .none
  found : who.row w.db.registry = some row
  accepted : pw.compare row.passwordHash req.oldPassword = true
  hashed : ((w.later 1).nonce.bind fun salt => pw.generate salt req.newPassword) = .ok hash

section Principal

variable (cfg : Config) {w : World} (pw : Passwords) (who : Principal) (req : PasswordChange)

/-- **What a request of a principal comes to.** -/
theorem exec_changePassword (halone : Alone w) :
    let o := (AuthHandler.changePassword pw who (some req)).exec (server cfg) w
    (∀ row hash, Attempts pw who req w row hash → Ends w (row.save hash) o.val o.state) ∧
      ((¬ ∃ row hash, Attempts pw who req w row hash) →
        (∃ e, o.val = .error e) ∧ o.state.db.registry = w.db.registry) := by
  unfold AuthHandler.changePassword
  by_cases hid : who.accountID = ""
  · rw [if_pos hid]
    exact ⟨fun row hash h => absurd hid h.authenticated, fun _ => ⟨⟨_, rfl⟩, rfl⟩⟩
  rw [if_neg hid]
  dsimp only
  cases hstrength : pw.strength req.newPassword with
  | some text =>
    exact ⟨fun row hash h => (nomatch hstrength.symm.trans h.strong), fun _ => ⟨⟨_, rfl⟩, rfl⟩⟩
  | none =>
    dsimp only
    cases hstaff : who.isAdmin with
    | true =>
      rw [if_pos rfl, changeUserPassword_eq]
      obtain ⟨hgets, hnone⟩ := exec_changing cfg pw req (.userByID who.accountID) User.passwordHash
        (fun user hash => .updatePassword user.id hash) ⟨404, "user not found"⟩
        ⟨404, "user not found"⟩ ⟨500, "failed to update password"⟩ halone rfl fun _ _ => rfl
      refine ⟨fun row hash h => ?_, fun hno => hnone ?_⟩
      · obtain ⟨-, -, hanswered, hfound, haccepted, hhashed⟩ := h
        rw [Principal.row, hstaff, if_pos rfl] at hfound
        obtain ⟨user, huser, rfl⟩ := Option.map_eq_some_iff.1 hfound
        exact hgets user hash ⟨hanswered, congrArg Except.ok huser, haccepted, hhashed⟩
      · rintro ⟨user, hash, hanswered, hfound, haccepted, hhashed⟩
        refine hno ⟨.user user, hash, hid, hstrength, hanswered, ?_, haccepted, hhashed⟩
        rw [Principal.row, hstaff, if_pos rfl]
        exact congrArg (Option.map LoginRow.user) (Except.ok.inj hfound)
    | false =>
      rw [if_neg (by simp), amendAccount_changeHash_eq]
      obtain ⟨hgets, hnone⟩ := exec_changing cfg pw req (.accountByID who.accountID)
        Account.passwordHash (fun account hash => .updateAccount { account with passwordHash := hash })
        ⟨404, "account not found"⟩ ⟨404, "account not found"⟩ ⟨500, "failed to update password"⟩ halone
        rfl fun _ _ => rfl
      refine ⟨fun row hash h => ?_, fun hno => hnone ?_⟩
      · obtain ⟨-, -, hanswered, hfound, haccepted, hhashed⟩ := h
        rw [Principal.row, hstaff, if_neg (by simp)] at hfound
        obtain ⟨account, haccount, rfl⟩ := Option.map_eq_some_iff.1 hfound
        exact hgets account hash ⟨hanswered, congrArg Except.ok haccount, haccepted, hhashed⟩
      · rintro ⟨account, hash, hanswered, hfound, haccepted, hhashed⟩
        refine hno ⟨.account account, hash, hid, hstrength, hanswered, ?_, haccepted, hhashed⟩
        rw [Principal.row, hstaff, if_neg (by simp)]
        exact congrArg (Option.map LoginRow.account) (Except.ok.inj hfound)

end Principal

/-! ## Logins after a change -/

/-- The hash function tells the passwords of a request apart: a hash of the new one accepts it, and no
hash accepts both if they differ. -/
structure Tells (pw : Passwords) (req : PasswordChange) : Prop where
  accepts : ∀ salt hash, pw.generate salt req.newPassword = .ok hash →
    pw.compare hash req.newPassword = true
  apart : req.oldPassword ≠ req.newPassword → ∀ hash, pw.compare hash req.newPassword = true →
    pw.compare hash req.oldPassword = false

/-- With these tables a login of the row with a password is let in, if nothing fails. -/
def Accepts (svc : LoginServices) (r : Registry) (row : LoginRow) (password : String) : Prop :=
  ∀ v, Calm v → v.db.registry = r → ∃ who, who.id = row.id ∧ who.isStaff = row.isStaff ∧
    (((AuthHandler.login svc (some ⟨row.email, password⟩)).exec (server svc.cfg) v).val).Admits who

/-- With these tables a login of the row with a password is turned away, if nothing fails. -/
def Refuses (svc : LoginServices) (r : Registry) (row : LoginRow) (password : String) : Prop :=
  ∀ v, Calm v → v.db.registry = r →
    ∃ e, ((AuthHandler.login svc (some ⟨row.email, password⟩)).exec (server svc.cfg) v).val = .error e

/-- After a success the new password is accepted, and the old one is not if it is another; after an
error the hash of the principal is what it was. -/
structure PasswordChanged (svc : LoginServices) (who : Principal) (req : PasswordChange) (w : World)
    (val : Answer) (w' : World) : Prop where
  changed : ∀ fields, val = .ok fields → ∃ row, who.row w.db.registry = some row ∧
    Accepts svc w'.db.registry row req.newPassword ∧
      (req.oldPassword ≠ req.newPassword → Refuses svc w'.db.registry row req.oldPassword)
  kept : ∀ e, val = .error e →
    (who.row w'.db.registry).map LoginRow.passwordHash =
      (who.row w.db.registry).map LoginRow.passwordHash

/-- A request that gets to its last statement: if that is executed then the row may be used, is found
under its email, and is one of the panel (or the password stays the same); and if only the reply is
lost then the row is not one of the panel (or the hash stays the same). -/
def PasswordSound (svc : LoginServices) (who : Principal) (req : PasswordChange) (w : World) : Prop :=
  ∀ row hash, Attempts svc.passwords who req w row hash →
    ((w.later 2).fault = .none →
        row.status = "active" ∧ row.email ≠ "" ∧ foundByEmail w.db.registry row.email = some row ∧
          (row.isStaff = true ∨ req.oldPassword = req.newPassword)) ∧
      ∀ e, (w.later 2).fault = .lost e → row.isStaff = true → hash = row.passwordHash

section Logins

variable {svc : LoginServices} {r : Registry} {row : LoginRow} {password : String}

/-- Some world has given tables, and nothing fails in it. -/
theorem exists_calm (w : World) (r : Registry) : ∃ v, Calm v ∧ v.db.registry = r :=
  ⟨{ w with env := [], db := { w.db with registry := r } }, by simp [Calm], rfl⟩

/-- An answer lets one row in. -/
theorem LoginAnswer.Admits.eq {answer : LoginAnswer} {who who' : LoginRow} (h : answer.Admits who)
    (h' : answer.Admits who') : who = who' := by
  rcases h with ⟨_, _, rfl⟩ | ⟨_, rfl⟩ <;> rcases h' with ⟨_, _, h'⟩ | ⟨_, h'⟩ <;> cases h' <;> rfl

theorem accepts_iff (hlawful : svc.tokens.Lawful) (w : World) :
    Accepts svc r row password ↔ ∃ who, who.id = row.id ∧ who.isStaff = row.isStaff ∧
      LetsIn svc r ⟨row.email, password⟩ who := by
  constructor
  · intro h
    obtain ⟨v, hcalm, rfl⟩ := exists_calm w r
    obtain ⟨who, hid, hstaff, hadmits⟩ := h v hcalm rfl
    obtain ⟨hin, hout⟩ := login_spec hlawful hcalm ⟨row.email, password⟩
    by_cases hany : ∃ who', LetsIn svc v.db.registry ⟨row.email, password⟩ who'
    · obtain ⟨who', hlets⟩ := hany
      rw [hadmits.eq (hin who' hlets)] at hid hstaff
      exact ⟨who', hid, hstaff, hlets⟩
    · obtain ⟨e, he⟩ := hout hany
      rw [he] at hadmits
      rcases hadmits with ⟨_, _, h⟩ | ⟨_, h⟩ <;> cases h
  · rintro ⟨who, hid, hstaff, hlets⟩ v hcalm rfl
    exact ⟨who, hid, hstaff, (login_spec hlawful hcalm ⟨row.email, password⟩).1 who hlets⟩

theorem refuses_iff (hlawful : svc.tokens.Lawful) (w : World) :
    Refuses svc r row password ↔ ¬ ∃ who, LetsIn svc r ⟨row.email, password⟩ who := by
  constructor
  · rintro h ⟨who, hlets⟩
    obtain ⟨v, hcalm, rfl⟩ := exists_calm w r
    obtain ⟨e, he⟩ := h v hcalm rfl
    have hadmits := (login_spec hlawful hcalm ⟨row.email, password⟩).1 who hlets
    rw [he] at hadmits
    rcases hadmits with ⟨_, _, h⟩ | ⟨_, h⟩ <;> cases h
  · rintro hnone v hcalm rfl
    exact (login_spec hlawful hcalm ⟨row.email, password⟩).2 hnone

end Logins

section Saved

variable {svc : LoginServices} {r : Registry} {hash : String}

/-- A login finds rows of the tables. -/
theorem mem_users_of_found {email : String} {u : User} (h : foundByEmail r email = some (.user u)) :
    u ∈ r.users := by
  unfold foundByEmail at h
  cases hfind : r.users.find? (·.email = email) with
  | some x =>
    rw [hfind] at h
    cases h
    exact List.mem_of_find?_eq_some hfind
  | none =>
    rw [hfind] at h
    cases haccount : r.accounts.find? (·.email = email) <;> rw [haccount] at h <;> cases h

theorem mem_accounts_of_found {email : String} {a : Account}
    (h : foundByEmail r email = some (.account a)) : a ∈ r.accounts := by
  unfold foundByEmail at h
  cases hfind : r.users.find? (·.email = email) with
  | some x =>
    rw [hfind] at h
    cases h
  | none =>
    rw [hfind] at h
    obtain ⟨x, hx, heq⟩ := Option.map_eq_some_iff.1 h
    cases heq
    exact List.mem_of_find?_eq_some hx

/-- Writing a member's row back leaves the tables as they are, whatever the hash in it. -/
theorem save_account {a : Account} (ha : a ∈ r.accounts) (hids : (r.accounts.map (·.id)).Nodup) :
    (((LoginRow.account a).save hash).run r).2 = r := by
  have hrows : r.accounts.map (fun x => if x.id = a.id then
      ({ a with passwordHash := hash } : Account).overwrite x else x) = r.accounts := by
    refine (List.map_congr_left fun x hx => ?_).trans (List.map_id _)
    split_ifs with hid
    · rw [List.inj_on_of_nodup_map hids hx ha hid]
      rfl
    · rfl
  change { r with accounts := _ } = r
  rw [hrows]

/-- The row of a user with another hash. -/
def withHash (u : User) (hash : String) : User := { u with passwordHash := hash }

/-- What a search of the users that does not look at their hashes finds after the hash of a user has
been replaced. -/
theorem find_users_save (u : User) {p : User → Bool} (hp : ∀ x, p (withHash x hash) = p x) :
    (((LoginRow.user u).save hash).run r).2.users.find? p =
      (r.users.find? p).map fun x => if x.id = u.id then withHash x hash else x := by
  change (r.users.map _).find? p = _
  rw [List.find?_map]
  refine congrArg (Option.map _) (congrArg (List.find? · r.users) (funext fun x => ?_))
  rw [Function.comp_apply]
  split_ifs
  · exact hp x
  · rfl

/-- What a login finds after the hash of a user has been replaced. -/
theorem foundByEmail_save {u : User} (hu : u ∈ r.users) (hids : (r.users.map (·.id)).Nodup)
    (email : String) :
    foundByEmail (((LoginRow.user u).save hash).run r).2 email =
      if foundByEmail r email = some (.user u) then some (.user (withHash u hash))
      else foundByEmail r email := by
  unfold foundByEmail
  rw [find_users_save u fun _ => rfl]
  cases hfind : r.users.find? (·.email = email) with
  | none =>
    rw [if_neg]
    · rfl
    · cases r.accounts.find? (·.email = email) <;> simp
  | some x =>
    dsimp only [Option.map_some]
    by_cases hx : x = u
    · rw [hx, if_pos rfl, if_pos rfl]
    · have hid : x.id ≠ u.id := fun hid =>
        hx (List.inj_on_of_nodup_map hids (List.mem_of_find?_eq_some hfind) hu hid)
      rw [if_neg hid, if_neg (by simpa using hx)]

/-- The new password of a user is accepted, and the old one is not. -/
theorem changed_user (hlawful : svc.tokens.Lawful) {req : PasswordChange}
    (htells : Tells svc.passwords req) {u : User} (hu : u ∈ r.users)
    (hids : (r.users.map (·.id)).Nodup) (hnew : req.newPassword ≠ "")
    (hhash : svc.passwords.compare hash req.newPassword = true) (w : World) :
    (Accepts svc (((LoginRow.user u).save hash).run r).2 (.user u) req.newPassword ∧
        (req.oldPassword ≠ req.newPassword →
          Refuses svc (((LoginRow.user u).save hash).run r).2 (.user u) req.oldPassword)) ↔
      u.status = "active" ∧ u.email ≠ "" ∧ foundByEmail r u.email = some (.user u) := by
  rw [accepts_iff hlawful w, refuses_iff hlawful w]
  constructor
  · rintro ⟨⟨who, hid, hstaff, hemail, -, hfound, hopen⟩, -⟩
    dsimp only [LoginRow.email] at hemail hfound
    rw [foundByEmail_save hu hids] at hfound
    split_ifs at hfound with hrow
    · obtain rfl := Option.some.inj hfound
      exact ⟨hopen.1, hemail, hrow⟩
    · -- another row with the id of the user is the row of the user
      cases who with
      | account a => cases hstaff
      | user x =>
        have hx : x ∈ r.users := mem_users_of_found hfound
        rw [List.inj_on_of_nodup_map hids hx hu hid] at hfound
        exact absurd hfound hrow
  · rintro ⟨hstatus, hemail, hrow⟩
    have hafter : foundByEmail (((LoginRow.user u).save hash).run r).2 u.email =
        some (.user (withHash u hash)) := by
      rw [foundByEmail_save hu hids, if_pos hrow]
    refine ⟨⟨.user (withHash u hash), rfl, rfl, hemail, hnew, hafter, hstatus, hhash⟩, ?_⟩
    rintro hne ⟨who, -, -, hfound, hopen⟩
    obtain rfl := Option.some.inj (hafter.symm.trans hfound)
    have hold := hopen.2
    change svc.passwords.compare hash req.oldPassword = true at hold
    rw [htells.apart hne hash hhash] at hold
    cases hold

/-- The new password of a member is accepted, and the old one is not, only if they are the same. -/
theorem changed_account (hlawful : svc.tokens.Lawful) {req : PasswordChange}
    (htells : Tells svc.passwords req) {a : Account} (ha : a ∈ r.accounts)
    (hids : (r.accounts.map (·.id)).Nodup) (hnew : req.newPassword ≠ "")
    (hold : svc.passwords.compare a.passwordHash req.oldPassword = true) (w : World) :
    (Accepts svc r (.account a) req.newPassword ∧
        (req.oldPassword ≠ req.newPassword → Refuses svc r (.account a) req.oldPassword)) ↔
      a.status.name = "active" ∧ a.email ≠ "" ∧ foundByEmail r a.email = some (.account a) ∧
        req.oldPassword = req.newPassword := by
  rw [accepts_iff hlawful w]
  constructor
  · rintro ⟨⟨who, hid, hstaff, hemail, -, hfound, hopen⟩, -⟩
    cases who with
    | user u => cases hstaff
    | account x =>
      have hx : x ∈ r.accounts := mem_accounts_of_found hfound
      obtain rfl := List.inj_on_of_nodup_map hids hx ha hid
      refine ⟨hopen.1, hemail, hfound, ?_⟩
      by_contra hne
      have hboth := htells.apart hne x.passwordHash hopen.2
      rw [hold] at hboth
      cases hboth
  · rintro ⟨hstatus, hemail, hfound, hsame⟩
    refine ⟨⟨.account a, rfl, rfl, hemail, hnew, hfound, hstatus, ?_⟩, fun hne => absurd hsame hne⟩
    rw [← hsame]
    exact hold

/-- The hash of the principal after it has been replaced. -/
theorem row_save {who : Principal} {u : User} (hrow : who.row r = some (.user u)) :
    who.row (((LoginRow.user u).save hash).run r).2 = some (.user (withHash u hash)) := by
  unfold Principal.row at hrow ⊢
  split_ifs at hrow ⊢
  · obtain ⟨x, hx, heq⟩ := Option.map_eq_some_iff.1 hrow
    cases heq
    rw [find_users_save u fun _ => rfl, hx, Option.map_some, if_pos rfl]
    rfl
  · obtain ⟨a, -, heq⟩ := Option.map_eq_some_iff.1 hrow
    cases heq

/-- The row of a principal is one of the tables. -/
theorem mem_of_row {who : Principal} {row : LoginRow} (hrow : who.row r = some row) :
    match row with
    | .user u => u ∈ r.users
    | .account a => a ∈ r.accounts := by
  unfold Principal.row at hrow
  split_ifs at hrow
  · obtain ⟨u, hu, rfl⟩ := Option.map_eq_some_iff.1 hrow
    exact List.mem_of_find?_eq_some hu
  · obtain ⟨a, ha, rfl⟩ := Option.map_eq_some_iff.1 hrow
    exact List.mem_of_find?_eq_some ha

end Saved

section Main

variable {svc : LoginServices} {who : Principal} {req : PasswordChange} {w w' : World} {val : Answer}
  {row : LoginRow} {hash : String}

/-- A request gets to its last statement for one row with one hash. -/
theorem Attempts.unique {row' : LoginRow} {hash' : String}
    (h : Attempts svc.passwords who req w row hash)
    (h' : Attempts svc.passwords who req w row' hash') : row' = row ∧ hash' = hash :=
  ⟨Option.some.inj (h'.found.symm.trans h.found), Except.ok.inj (h'.hashed.symm.trans h.hashed)⟩

theorem ne_empty_of_strong {pw : Passwords} {password : String} (h : pw.strength password = none) :
    password ≠ "" := by
  rintro rfl
  revert h
  unfold Passwords.strength
  rw [if_pos (by decide)]
  exact nofun

/-- What is right about a request whose last statement is executed and answered. -/
theorem changed_iff (hlawful : svc.tokens.Lawful) (htells : Tells svc.passwords req)
    (husers : (w.db.registry.users.map (·.id)).Nodup)
    (haccounts : (w.db.registry.accounts.map (·.id)).Nodup)
    (h : Attempts svc.passwords who req w row hash) (hval : val = .ok [])
    (hafter : w'.db.registry = ((row.save hash).run w.db.registry).2) :
    PasswordChanged svc who req w val w' ↔
      row.status = "active" ∧ row.email ≠ "" ∧ foundByEmail w.db.registry row.email = some row ∧
        (row.isStaff = true ∨ req.oldPassword = req.newPassword) := by
  have hnew := ne_empty_of_strong h.strong
  have hmem := mem_of_row h.found
  have hone : PasswordChanged svc who req w val w' ↔
      Accepts svc w'.db.registry row req.newPassword ∧
        (req.oldPassword ≠ req.newPassword → Refuses svc w'.db.registry row req.oldPassword) := by
    subst hval
    constructor
    · intro hchanged
      obtain ⟨row', hrow', hboth⟩ := hchanged.changed [] rfl
      obtain rfl := Option.some.inj (hrow'.symm.trans h.found)
      exact hboth
    · exact fun hboth => ⟨fun _ _ => ⟨row, h.found, hboth⟩, nofun⟩
  rw [hone, hafter]
  cases row with
  | user u =>
    cases hsalt : (w.later 1).nonce with
    | error e =>
      have hhashed := h.hashed
      rw [hsalt] at hhashed
      cases hhashed
    | ok salt =>
      have hhashed := h.hashed
      rw [hsalt] at hhashed
      rw [changed_user hlawful htells hmem husers hnew (htells.accepts salt hash hhashed) w]
      simp [LoginRow.status, LoginRow.email, LoginRow.isStaff]
  | account a =>
    rw [save_account hmem haccounts, changed_account hlawful htells hmem haccounts hnew h.accepted w]
    simp [LoginRow.status, LoginRow.email, LoginRow.isStaff]

/-- What is right about a request whose last statement is executed, but not answered. -/
theorem kept_iff (haccounts : (w.db.registry.accounts.map (·.id)).Nodup)
    (h : Attempts svc.passwords who req w row hash) (hval : ∃ e, val = .error e)
    (hafter : w'.db.registry = ((row.save hash).run w.db.registry).2) :
    PasswordChanged svc who req w val w' ↔ (row.isStaff = true → hash = row.passwordHash) := by
  obtain ⟨e, rfl⟩ := hval
  have hone : PasswordChanged svc who req w (.error e) w' ↔
      (who.row w'.db.registry).map LoginRow.passwordHash =
        (who.row w.db.registry).map LoginRow.passwordHash :=
    ⟨fun hchanged => hchanged.kept e rfl, fun hsame => ⟨nofun, fun _ _ => hsame⟩⟩
  rw [hone, hafter, h.found]
  cases row with
  | user u =>
    rw [row_save h.found]
    simp [LoginRow.isStaff, LoginRow.passwordHash, withHash]
  | account a =>
    rw [save_account (mem_of_row h.found) haccounts, h.found]
    simp [LoginRow.isStaff]

variable (svc) in
/-- **Changing the password changes it** exactly for the requests that are sound: a user of the panel,
who can log in, changes it; a member only changes it to what it is. -/
theorem passwordChanged_iff (who : Principal) (req : PasswordChange) (hlawful : svc.tokens.Lawful)
    (htells : Tells svc.passwords req) (halone : Alone w)
    (husers : (w.db.registry.users.map (·.id)).Nodup)
    (haccounts : (w.db.registry.accounts.map (·.id)).Nodup) :
    let o := (AuthHandler.changePassword svc.passwords who (some req)).exec (server svc.cfg) w
    PasswordChanged svc who req w o.val o.state ↔ PasswordSound svc who req w := by
  obtain ⟨hends, hnone⟩ := exec_changePassword svc.cfg svc.passwords who req halone
  dsimp only at hends hnone ⊢
  generalize (AuthHandler.changePassword svc.passwords who (some req)).exec (server svc.cfg) w = o
    at hends hnone
  have hsame : ∀ e, o.val = .error e → o.state.db.registry = w.db.registry →
      PasswordChanged svc who req w o.val o.state := by
    intro e he hregistry
    rw [he]
    exact ⟨nofun, fun _ _ => by rw [hregistry]⟩
  by_cases hany : ∃ row hash, Attempts svc.passwords who req w row hash
  · obtain ⟨row, hash, h⟩ := hany
    obtain ⟨hexecuted, hrefused, hlost⟩ := hends row hash h
    have hsound : PasswordSound svc who req w ↔
        ((w.later 2).fault = .none →
            row.status = "active" ∧ row.email ≠ "" ∧ foundByEmail w.db.registry row.email = some row ∧
              (row.isStaff = true ∨ req.oldPassword = req.newPassword)) ∧
          ∀ e, (w.later 2).fault = .lost e → row.isStaff = true → hash = row.passwordHash := by
      refine ⟨fun hsound => hsound row hash h, fun hboth row' hash' h' => ?_⟩
      obtain ⟨rfl, rfl⟩ := h.unique h'
      exact hboth
    rw [hsound]
    cases hfault : (w.later 2).fault with
    | none =>
      obtain ⟨hval, hafter⟩ := hexecuted hfault
      rw [changed_iff hlawful htells husers haccounts h hval hafter]
      simp
    | refused e =>
      obtain ⟨⟨error, hval⟩, hafter⟩ := hrefused e hfault
      exact iff_of_true (hsame error hval hafter) ⟨nofun, nofun⟩
    | lost e =>
      obtain ⟨hval, hafter⟩ := hlost e hfault
      rw [kept_iff haccounts h hval hafter]
      simp
  · obtain ⟨⟨e, hval⟩, hafter⟩ := hnone hany
    refine iff_of_true (hsame e hval hafter) fun row hash h => ?_
    exact absurd ⟨row, hash, h⟩ hany

end Main

/-! ## A member and a user -/

/-- The plain hash function tells all passwords apart. -/
theorem plainPasswords_tells (req : PasswordChange) : Tells plainPasswords req where
  accepts _ hash hhash := by
    obtain rfl := Except.ok.inj hhash
    exact decide_eq_true rfl
  apart hne hash hnew := by
    obtain rfl := of_decide_eq_true hnew
    exact decide_eq_false (Ne.symm hne)

/-- A user of the panel changes the password. -/
def userChange : PasswordChange := ⟨"secret", "Stapler-horse-8"⟩

theorem userChange_changed :
    PasswordChanged plainLogins ⟨"user-1", true⟩ userChange (withSecret "secret-1")
      ((AuthHandler.changePassword plainPasswords ⟨"user-1", true⟩ (some userChange)).exec
        (server .default) (withSecret "secret-1")).val
      ((AuthHandler.changePassword plainPasswords ⟨"user-1", true⟩ (some userChange)).exec
        (server .default) (withSecret "secret-1")).state := by
  refine (passwordChanged_iff plainLogins (w := withSecret "secret-1") ⟨"user-1", true⟩
    userChange plainTokens_lawful (plainPasswords_tells _) (fun t ht => absurd ht List.not_mem_nil)
    (by decide) (by decide)).2 fun row hash h => ?_
  obtain rfl : LoginRow.user staffUser = row := Option.some.inj h.found
  exact ⟨fun _ => ⟨rfl, by decide, rfl, .inl rfl⟩, nofun⟩

/-- A member changes the password. -/
def memberChange : PasswordChange := ⟨"Correct-horse-7", "Stapler-horse-8"⟩

/-- The tables after the member has changed the password. -/
def afterMemberChange : World :=
  ((AuthHandler.changePassword plainPasswords ⟨"account-1", false⟩ (some memberChange)).exec
    (server .default) oneAccount).state

/-- The member is told that the password has been changed, and still logs in with the old one. -/
theorem member_unchanged :
    Alone oneAccount ∧ plainPasswords.strength memberChange.newPassword = none ∧
      ((AuthHandler.changePassword plainPasswords ⟨"account-1", false⟩ (some memberChange)).exec
        (server .default) oneAccount).val = .ok [] ∧
      ((AuthHandler.login plainLogins (some ⟨"asha@example.com", memberChange.oldPassword⟩)).exec
        (server .default) afterMemberChange).val.issues = true ∧
      ¬ PasswordChanged plainLogins ⟨"account-1", false⟩ memberChange oneAccount
        ((AuthHandler.changePassword plainPasswords ⟨"account-1", false⟩ (some memberChange)).exec
          (server .default) oneAccount).val afterMemberChange := by
  have hval : ((AuthHandler.changePassword plainPasswords ⟨"account-1", false⟩
      (some memberChange)).exec (server .default) oneAccount).val = .ok [] := by decide
  have hlogin : ((AuthHandler.login plainLogins
      (some ⟨"asha@example.com", memberChange.oldPassword⟩)).exec (server .default)
        afterMemberChange).val.issues = true := by decide
  refine ⟨fun t ht => absurd ht List.not_mem_nil, by decide, hval, hlogin, fun h => ?_⟩
  obtain ⟨row, hrow, -, hrefuses⟩ := h.changed [] hval
  obtain rfl : LoginRow.account memberAccount = row := Option.some.inj hrow
  obtain ⟨e, he⟩ := hrefuses (by decide) afterMemberChange
    (fun t ht => absurd ht List.not_mem_nil) rfl
  change ((AuthHandler.login plainLogins
    (some ⟨"asha@example.com", memberChange.oldPassword⟩)).exec (server .default)
      afterMemberChange).val = .error e at he
  rw [he] at hlogin
  cases hlogin

end AeroxeBee.Accounts
