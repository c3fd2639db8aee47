import AeroxeBee.Accounts.Profile

/-!
# A member and an administrator at one account

A member's handler writes every column of the account row back as it read them, so what an
administrator writes in between is lost.

* `exec_member`, `exec_admin`: what each handler leaves of the rows when it runs by itself;
* `final_serial_iff`: the two together leave the rows that they leave one after the other, exactly
  if no write back finds a column changed since it was read.
-/

namespace AeroxeBee.Accounts

open Foundations

/-! ## The operations -/

/-- What a member does about the own account. -/
inductive MemberOp where
  | updateProfile (who : Principal) (body : Option String)
  | changePassword (who : Principal) (body : Option PasswordChange)
  | updateAccountProfile (who : Principal) (body : Option String)

/-- What an administrator does about an account; a new plan is the approval of a request for it. -/
inductive AdminOp where
  | suspend (id : String)
  | activate (id : String)
  | changePlan (who : Principal) (requestID notes : String)

/-- The handler of a member's operation. -/
def MemberOp.prog (pw : Passwords) : MemberOp → ServerProg Answer
  | updateProfile who body => AuthHandler.updateProfile who body
  | changePassword who body => AuthHandler.changePassword pw who body
  | updateAccountProfile who body => AccountHandler.updateProfile who body

/-- The handler of an administrator's operation. -/
def AdminOp.prog : AdminOp → ServerProg Answer
  | suspend id => AdminHandler.suspendAccount id
  | activate id => AdminHandler.activateAccount id
  | changePlan who requestID notes => SubscriptionRequestHandler.approve who requestID notes

/-- The account a member's operation renames, and the name it gives. -/
def MemberOp.renames : MemberOp → Option (String × String)
  | updateProfile who (some name) =>
    if who.accountID ≠ "" ∧ who.isAdmin = false ∧ name ≠ "" then some (who.accountID, name) else none
  | updateAccountProfile who (some name) =>
    if name ≠ "" then some (who.accountID, name) else none
  | _ => none

/-- What a member's operation makes of a row. -/
def MemberOp.edit (op : MemberOp) (row : Account) : Account :=
  match op.renames with
  | some (id, name) => if row.id = id then { row with name := name } else row
  | none => row

/-- What an administrator's operation makes of a row. -/
def AdminOp.edit : AdminOp → Account → Account
  | suspend id, row => if row.id = id then { row with status := .suspended } else row
  | activate id, row => if row.id = id then { row with status := .active } else row
  | changePlan _ _ _, row => row

/-- A member's operation and an administrator's, each in a thread of its own. -/
def together (pw : Passwords) (op : MemberOp) (adm : AdminOp) (w : World) :
    Pool ServerCmd World Answer :=
  Pool.start [op.prog pw, adm.prog] w

/-- The account rows. -/
def accounts (w : World) : List Account := w.db.registry.accounts

/-- The account rows are those that the two operations leave one after the other, in one of the
two orders. -/
def Serial (cfg : Config) (pw : Passwords) (op : MemberOp) (adm : AdminOp) (w w' : World) : Prop :=
  accounts w' = accounts (adm.prog.exec (server cfg) ((op.prog pw).exec (server cfg) w).state).state ∨
    accounts w' = accounts ((op.prog pw).exec (server cfg) (adm.prog.exec (server cfg) w).state).state

/-- The account that a program is about to write back. -/
def writesBack : ServerProg Answer → Option Account
  | .act (.db (.registry (.updateAccount account))) _ => some account
  | _ => none

/-- If the thread is about to write an account back, then the row still has the columns that are
written, except for the name. -/
def Fresh (P : Pool ServerCmd World Answer) (i : ℕ) : Prop :=
  ∀ account ∈ P.threads[i]?.bind writesBack, ∀ row ∈ accounts P.state,
    row.id = account.id → account.overwrite row = { row with name := account.name }

instance (P : Pool ServerCmd World Answer) (i : ℕ) : Decidable (Fresh P i) :=
  inferInstanceAs (Decidable (∀ account ∈ P.threads[i]?.bind writesBack, ∀ row ∈ accounts P.state,
    row.id = account.id → account.overwrite row = { row with name := account.name }))

/-! ## Rows -/

section Edit

variable (op : MemberOp) (adm : AdminOp) (row : Account)

@[simp] theorem MemberOp.edit_id : (op.edit row).id = row.id := by
  unfold MemberOp.edit
  split
  · split_ifs <;> rfl
  · rfl

@[simp] theorem AdminOp.edit_id : (adm.edit row).id = row.id := by
  cases adm <;> simp only [AdminOp.edit] <;> split_ifs <;> rfl

@[simp] theorem AdminOp.edit_name : (adm.edit row).name = row.name := by
  cases adm <;> simp only [AdminOp.edit] <;> split_ifs <;> rfl

/-- A member's operation changes the name alone. -/
theorem MemberOp.edit_eq : op.edit row = { row with name := (op.edit row).name } := by
  unfold MemberOp.edit
  split
  · split_ifs <;> rfl
  · rfl

/-- The new name of a row depends on its id and its name. -/
theorem MemberOp.edit_name_congr {row row' : Account} (hid : row.id = row'.id)
    (hname : row.name = row'.name) : (op.edit row).name = (op.edit row').name := by
  unfold MemberOp.edit
  rw [hid]
  split
  · split_ifs
    · rfl
    · exact hname
  · exact hname

/-- The operations change different columns. -/
theorem edit_comm : adm.edit (op.edit row) = op.edit (adm.edit row) := by
  unfold MemberOp.edit
  cases op.renames with
  | none => rfl
  | some rename =>
    cases adm with
    | changePlan who requestID notes => rfl
    | _ =>
      simp only [AdminOp.edit]
      split_ifs <;> simp_all

end Edit

/-! ## What a command does to the rows -/

/-- The account rows after a command that is executed. -/
def amends : {β : Type} → ServerCmd β → List Account → List Account
  | _, .db (.registry (.updateAccount account)), rows =>
    rows.map fun row => if row.id = account.id then account.overwrite row else row
  | _, .db (.registry (.suspend id)), rows =>
    rows.map fun row => if row.id = id then { row with status := .suspended } else row
  | _, .db (.registry (.activate id)), rows =>
    rows.map fun row => if row.id = id then { row with status := .active } else row
  | _, .db (.deleteAccount id), rows => rows.filter (·.id ≠ id)
  | _, _, rows => rows

/-- The command leaves the account rows alone. -/
def LeavesAccounts : {β : Type} → ServerCmd β → Prop
  | _, .db (.registry (.updateAccount _)) => False
  | _, .db (.registry (.suspend _)) | _, .db (.registry (.activate _)) => False
  | _, .db (.deleteAccount _) => False
  | _, _ => True

theorem LeavesAccounts.amends {β : Type} {e : ServerCmd β} (h : LeavesAccounts e)
    (rows : List Account) : amends e rows = rows := by
  cases e with
  | db q =>
    cases q with
    | registry q =>
      cases q with
      | updateAccount account => exact h.elim
      | suspend id => exact h.elim
      | activate id => exact h.elim
      | _ => rfl
    | deleteAccount id => exact h.elim
    | _ => rfl
  | _ => rfl

section Step

variable (cfg : Config) {w : World}

theorem accounts_step (hw : Calm w) {β : Type} (e : ServerCmd β) :
    accounts ((server cfg).step e w).2 = amends e (accounts w) := by
  have htick : accounts w.tick = accounts w := congrArg (·.registry.accounts) hw.alone.tick_db
  cases e with
  | db q =>
    have hdb : accounts ((server cfg).step (.db q) w).2 = (q.run w.db).2.registry.accounts :=
      congrArg (·.registry.accounts) (hw.step_query cfg q).2
    rw [hdb]
    cases q with
    | registry q => cases q <;> rfl
    | createMessage msg =>
      simp only [Query.run, Database.insertMessage]
      split_ifs <;> rfl
    | incrementUsage accountID date =>
      simp only [Query.run, Database.countUsage]
      split_ifs <;> rfl
    | deleteAccount id =>
      simp only [Query.run]
      split_ifs with h
      · rfl
      · have hnone : ∀ row ∈ accounts w, row.id ≠ id := by simpa [accounts] using h
        exact (List.filter_eq_self.2 fun row hrow => by simpa using hnone row hrow).symm
    | _ => rfl
  | publish topic payload =>
    exact (congrArg (·.registry.accounts) (step_db cfg w (.publish topic payload))).trans htick
  | _ => exact htick

/-- A program that leaves the account rows alone. -/
theorem exec_apart {p : ServerProg Answer} (hp : p.Only LeavesAccounts) (hw : Calm w) :
    accounts (p.exec (server cfg) w).state = accounts w ∧ Calm (p.exec (server cfg) w).state := by
  refine hp.exec_inv (I := fun w' => accounts w' = accounts w ∧ Calm w') ?_ ⟨rfl, hw⟩
  rintro β e w' he ⟨hrows, hcalm⟩
  rw [accounts_step cfg hcalm, he.amends, hrows]
  exact ⟨rfl, hcalm.step e⟩

end Step

/-! ## A member's handler -/

/-- What is left of a member's handler that has read the row `row` and gives it the name `name`:
it draws a salt or not, and writes the row back or, if that would change nothing, perhaps not. -/
inductive Holds (row : Account) (name : String) : ServerProg Answer → Prop
  | returned (a : Answer) (h : name = row.name) : Holds row name (.ret a)
  | nonce (k : Except String String → ServerProg Answer) (h : ∀ b, Holds row name (k b)) :
      Holds row name (.act .nonce k)
  | write (account : Account) (k : Except String Unit → ServerProg Answer)
      (hid : account.id = row.id)
      (hcolumns : ∀ old, account.overwrite old = { row with name := name }.overwrite old)
      (hdone : ∀ b, ∃ a, k b = .ret a) :
      Holds row name (.act (.db (.registry (.updateAccount account))) k)

theorem holds_rename (name : String) (row : Account) (failed : HttpError)
    (answer : Account → List (String × String)) :
    Holds row (rename name row).name
      (writeBack (fun account => return .ok (rename name account)) failed answer row) := by
  refine .write (rename name row) _ ?_ (fun old => ?_) fun b => ?_
  · unfold rename
    split_ifs <;> rfl
  · unfold rename
    split_ifs <;> rfl
  · cases b <;> exact ⟨_, rfl⟩

theorem holds_changeHash (pw : Passwords) (req : PasswordChange) (row : Account)
    (failed : HttpError) (answer : Account → List (String × String)) :
    Holds row row.name (writeBack (changeHash pw req) failed answer row) := by
  unfold writeBack changeHash rehash
  split_ifs
  · exact .returned _ rfl
  · refine .nonce _ fun salt => ?_
    dsimp only [Prog.bind]
    cases salt.bind fun salt => pw.generate salt req.newPassword with
    | error e => exact .returned _ rfl
    | ok hash =>
      refine .write { row with passwordHash := hash } _ rfl (fun old => rfl) fun b => ?_
      cases b <;> exact ⟨_, rfl⟩

theorem updateUserProfile_leaves (id name : String) :
    (AuthHandler.updateUserProfile id name).Only LeavesAccounts := by
  refine ⟨trivial, fun reply => ?_⟩
  rcases reply with e | (_ | user)
  · trivial
  · trivial
  · refine ⟨trivial, fun reply => ?_⟩
    cases reply <;> trivial

theorem changeUserPassword_leaves (pw : Passwords) (id : String) (req : PasswordChange) :
    (AuthHandler.changeUserPassword pw id req).Only LeavesAccounts := by
  refine ⟨trivial, fun reply => ?_⟩
  rcases reply with e | (_ | user)
  · trivial
  · trivial
  · change Prog.Only _ (Prog.bind (ite _ _ _) _)
    split_ifs
    · trivial
    · refine ⟨trivial, fun salt => ?_⟩
      dsimp only [Prog.bind]
      cases salt.bind fun salt => pw.generate salt req.newPassword with
      | error e => trivial
      | ok hash =>
        refine ⟨trivial, fun reply => ?_⟩
        cases reply <;> trivial

/-- The handler reads an account and is left with the row it has read. -/
inductive Amending (op : MemberOp) : ServerProg Answer → Prop
  | read (id : String) (k : Except String (Option Account) → ServerProg Answer)
      (hapart : ∀ row : Account, row.id ≠ id → op.edit row = row)
      (hmissing : ∃ a, k (.ok none) = .ret a)
      (hrow : ∀ row : Account, row.id = id → Holds row (op.edit row).name (k (.ok (some row)))) :
      Amending op (.act (.db (.registry (.accountByID id))) k)

section Shape

variable {op : MemberOp} {pw : Passwords}

theorem amending_amendAccount {id : String} {unread failed : HttpError}
    {change : Account → ServerProg (Except HttpError Account)}
    {answer : Account → List (String × String)}
    (hapart : ∀ row : Account, row.id ≠ id → op.edit row = row)
    (hrow : ∀ row : Account, row.id = id →
      Holds row (op.edit row).name (writeBack change failed answer row)) :
    Amending op (amendAccount id unread change failed answer) :=
  .read id _ hapart ⟨_, rfl⟩ hrow

/-- The two ways in which a member's handler can go about the account rows. -/
abbrev Shape (pw : Passwords) (op : MemberOp) : Prop :=
  (op.renames = none ∧ (op.prog pw).Only LeavesAccounts) ∨ Amending op (op.prog pw)

theorem shape_updateAccountProfile (who : Principal) (body : Option String) :
    Shape pw (.updateAccountProfile who body) := by
  cases body with
  | none => exact .inl ⟨rfl, trivial⟩
  | some name =>
    refine .inr (amending_amendAccount (fun row hrow => ?_) fun row hrow => ?_)
    · unfold MemberOp.edit MemberOp.renames
      by_cases hempty : name = "" <;> simp [hempty, hrow]
    · have hname : (MemberOp.edit (.updateAccountProfile who (some name)) row).name =
          (rename name row).name := by
        unfold MemberOp.edit MemberOp.renames rename
        by_cases hempty : name = "" <;> simp [hempty, hrow]
      rw [hname]
      exact holds_rename name row _ _

theorem shape_updateProfile (who : Principal) (body : Option String) :
    Shape pw (.updateProfile who body) := by
  by_cases hwho : who.accountID = ""
  · refine .inl ⟨?_, ?_⟩
    · cases body <;> simp [MemberOp.renames, hwho]
    · simp only [MemberOp.prog, AuthHandler.updateProfile, if_pos hwho]
      trivial
  · cases body with
    | none =>
      refine .inl ⟨rfl, ?_⟩
      simp only [MemberOp.prog, AuthHandler.updateProfile, if_neg hwho]
      trivial
    | some name =>
      cases hadmin : who.isAdmin with
      | true =>
        refine .inl ⟨by simp [MemberOp.renames, hadmin], ?_⟩
        simp only [MemberOp.prog, AuthHandler.updateProfile, if_neg hwho, hadmin]
        exact updateUserProfile_leaves _ name
      | false =>
        refine .inr ?_
        simp only [MemberOp.prog, AuthHandler.updateProfile, if_neg hwho, hadmin,
          Bool.false_eq_true, if_false]
        refine amending_amendAccount (fun row hrow => ?_) fun row hrow => ?_
        · unfold MemberOp.edit MemberOp.renames
          by_cases hempty : name = "" <;> simp [hempty, hwho, hadmin, hrow]
        · have hname : (MemberOp.edit (.updateProfile who (some name)) row).name =
              (rename name row).name := by
            unfold MemberOp.edit MemberOp.renames rename
            by_cases hempty : name = "" <;> simp [hempty, hwho, hadmin, hrow]
          rw [hname]
          exact holds_rename name row _ _

theorem shape_changePassword (who : Principal) (body : Option PasswordChange) :
    Shape pw (.changePassword who body) := by
  by_cases hwho : who.accountID = ""
  · refine .inl ⟨rfl, ?_⟩
    simp only [MemberOp.prog, AuthHandler.changePassword, if_pos hwho]
    trivial
  · cases body with
    | none =>
      refine .inl ⟨rfl, ?_⟩
      simp only [MemberOp.prog, AuthHandler.changePassword, if_neg hwho]
      trivial
    | some req =>
      cases hstrength : pw.strength req.newPassword with
      | some text =>
        refine .inl ⟨rfl, ?_⟩
        simp only [MemberOp.prog, AuthHandler.changePassword, if_neg hwho, hstrength]
        trivial
      | none =>
        cases hadmin : who.isAdmin with
        | true =>
          refine .inl ⟨rfl, ?_⟩
          simp only [MemberOp.prog, AuthHandler.changePassword, if_neg hwho, hstrength, hadmin]
          exact changeUserPassword_leaves pw _ req
        | false =>
          refine .inr ?_
          simp only [MemberOp.prog, AuthHandler.changePassword, if_neg hwho, hstrength, hadmin,
            Bool.false_eq_true, if_false]
          exact amending_amendAccount (fun row _ => rfl) fun row _ =>
            holds_changeHash pw req row _ _

/-- **A member's handler either leaves the account rows alone, or reads one and writes it
back.** -/
theorem shape (pw : Passwords) (op : MemberOp) : Shape pw op := by
  cases op with
  | updateProfile who body => exact shape_updateProfile who body
  | changePassword who body => exact shape_changePassword who body
  | updateAccountProfile who body => exact shape_updateAccountProfile who body

end Shape

/-! ## One after the other -/

section Rows

variable (op : MemberOp) {rows : List Account} {row account : Account}

/-- Among rows with different ids, an operation that keeps the name of the row it is about changes
nothing. -/
theorem edit_rows_of_name (hids : (rows.map Account.id).Nodup) (hmem : row ∈ rows)
    (hname : (op.edit row).name = row.name)
    (hapart : ∀ row' : Account, row'.id ≠ row.id → op.edit row' = row') :
    rows.map op.edit = rows := by
  have hsame : ∀ row' ∈ rows, op.edit row' = row' := by
    intro row' hrow'
    by_cases h : row'.id = row.id
    · obtain rfl : row' = row := List.inj_on_of_nodup_map hids hrow' hmem h
      rw [op.edit_eq, hname]
    · exact hapart row' h
  rw [List.map_congr_left hsame, List.map_id']

/-- Among rows with different ids, a write back of the row that was read changes the name alone. -/
theorem overwrite_rows (hids : (rows.map Account.id).Nodup) (hmem : row ∈ rows)
    (hid : account.id = row.id)
    (hcolumns : account.overwrite row = { row with name := (op.edit row).name })
    (hapart : ∀ row' : Account, row'.id ≠ row.id → op.edit row' = row') :
    (rows.map fun row' => if row'.id = account.id then account.overwrite row' else row') =
      rows.map op.edit := by
  refine List.map_congr_left fun row' hrow' => ?_
  split_ifs with h
  · obtain rfl : row' = row := List.inj_on_of_nodup_map hids hrow' hmem (h.trans hid)
    rw [hcolumns, ← op.edit_eq]
  · exact (hapart row' fun h' => h (h'.trans hid.symm)).symm

end Rows

section Alone

variable (cfg : Config) {w : World}

theorem exec_holds {op : MemberOp} {row : Account} {p : ServerProg Answer}
    (hp : Holds row (op.edit row).name p) (hw : Calm w)
    (hids : ((accounts w).map Account.id).Nodup) (hmem : row ∈ accounts w)
    (hapart : ∀ row' : Account, row'.id ≠ row.id → op.edit row' = row') :
    accounts (p.exec (server cfg) w).state = (accounts w).map op.edit ∧
      Calm (p.exec (server cfg) w).state := by
  induction hp generalizing w with
  | returned a h =>
    rw [Prog.exec_ret]
    exact ⟨(edit_rows_of_name op hids hmem h hapart).symm, hw⟩
  | nonce k h ih =>
    have hrows : accounts ((server cfg).step .nonce w).2 = accounts w := accounts_step cfg hw .nonce
    rw [Prog.exec_act, ← hrows]
    exact ih _ (hw.step _) (hrows ▸ hids) (hrows ▸ hmem)
  | write account k hid hcolumns hdone =>
    obtain ⟨a, ha⟩ := hdone ((server cfg).step (.db (.registry (.updateAccount account))) w).1
    rw [Prog.exec_act, ha, Prog.exec_ret]
    exact ⟨(accounts_step cfg hw _).trans (overwrite_rows op hids hmem hid (hcolumns row) hapart),
      hw.step _⟩

/-- The reply to the lookup of an account. -/
theorem read_account (hw : Calm w) (id : String) :
    ((server cfg).step (.db (.registry (.accountByID id))) w).1 =
      .ok ((accounts w).find? (·.id = id)) :=
  (hw.step_query cfg (.registry (.accountByID id))).1

/-- **What a member's operation leaves of the rows** when it runs by itself. -/
theorem exec_member (pw : Passwords) (op : MemberOp) (hw : Calm w)
    (hids : ((accounts w).map Account.id).Nodup) :
    accounts ((op.prog pw).exec (server cfg) w).state = (accounts w).map op.edit ∧
      Calm ((op.prog pw).exec (server cfg) w).state := by
  rcases shape pw op with ⟨hnone, honly⟩ | hamend
  · obtain ⟨hrows, hcalm⟩ := exec_apart cfg honly hw
    have hedit : op.edit = id := by
      funext row
      simp [MemberOp.edit, hnone]
    rw [hrows, hedit, List.map_id]
    exact ⟨rfl, hcalm⟩
  · generalize op.prog pw = p at hamend ⊢
    obtain ⟨id, k, hapart, ⟨a, hmissing⟩, hrow⟩ := hamend
    have hrows := accounts_step cfg hw (.db (.registry (.accountByID id)))
    rw [Prog.exec_act, read_account cfg hw]
    cases hfind : (accounts w).find? (·.id = id) with
    | none =>
      rw [hmissing, Prog.exec_ret]
      have hnot : ∀ row ∈ accounts w, op.edit row = row := fun row hmem =>
        hapart row (by simpa using List.find?_eq_none.1 hfind row hmem)
      rw [List.map_congr_left hnot, List.map_id']
      exact ⟨hrows, hw.step _⟩
    | some row =>
      have hid : row.id = id := by simpa using List.find?_some hfind
      have hmem : row ∈ accounts w := List.mem_of_find?_eq_some hfind
      subst hid
      have hend := exec_holds cfg (hrow row rfl) (hw.step (.db (.registry (.accountByID row.id))))
        (by rwa [hrows]) (by rwa [hrows]) hapart
      rw [hrows] at hend
      exact hend

theorem approve_leaves (who : Principal) (requestID notes : String) :
    (SubscriptionRequestHandler.approve who requestID notes).Only LeavesAccounts := by
  refine ⟨trivial, fun reply => ?_⟩
  rcases reply with e | (_ | sr)
  · trivial
  · trivial
  · refine ⟨trivial, fun reply => ?_⟩
    cases reply with
    | error e => trivial
    | ok =>
      refine ⟨trivial, fun reply => ?_⟩
      rcases reply with e | (_ | plan)
      · trivial
      · trivial
      · refine ⟨trivial, fun reply => ?_⟩
        rcases reply with e | (_ | sub)
        · trivial
        · trivial
        · exact ⟨trivial, fun _ => trivial⟩

/-- **An administrator's handler either leaves the account rows alone, or is one statement.** -/
theorem AdminOp.shape (adm : AdminOp) :
    ((∀ row, adm.edit row = row) ∧ adm.prog.Only LeavesAccounts) ∨
      ∃ (q : RegistryQuery Unit) (failed : HttpError), adm.prog = statement q failed ∧
        ∀ rows, amends (.db (.registry q)) rows = rows.map adm.edit := by
  cases adm with
  | suspend id => exact .inr ⟨.suspend id, _, rfl, fun rows => rfl⟩
  | activate id => exact .inr ⟨.activate id, _, rfl, fun rows => rfl⟩
  | changePlan who requestID notes =>
    exact .inl ⟨fun row => rfl, approve_leaves who requestID notes⟩

/-- To answer changes nothing. -/
theorem state_answered (cfg : Config) (failed : HttpError) (r : Except String Unit) (s : World) :
    (Prog.exec (server cfg) (match r with
      | .error _ => return .error failed
      | .ok _ => return .ok []) s : Outcome ServerCmd World Answer).state = s := by
  cases r <;> rfl

/-- **What an administrator's operation leaves of the rows** when it runs by itself. -/
theorem exec_admin (adm : AdminOp) (hw : Calm w) :
    accounts (adm.prog.exec (server cfg) w).state = (accounts w).map adm.edit ∧
      Calm (adm.prog.exec (server cfg) w).state := by
  rcases adm.shape with ⟨hedit, honly⟩ | ⟨q, failed, hprog, hrows⟩
  · obtain ⟨hrows, hcalm⟩ := exec_apart cfg honly hw
    rw [hrows, funext hedit, List.map_id']
    exact ⟨rfl, hcalm⟩
  · rw [hprog]
    refine ⟨?_, ?_⟩
    · refine (congrArg accounts (state_answered cfg failed _ _)).trans
        ((accounts_step cfg hw _).trans (hrows _))
    · exact (state_answered cfg failed _ _).symm ▸
        (hw.step _ : Calm ((server cfg).step (.db (.registry q)) w).2)

/-- The rows after both operations, in either order. -/
theorem serial_iff (cfg : Config) (pw : Passwords) (op : MemberOp) (adm : AdminOp) (hw : Calm w)
    (hids : ((accounts w).map Account.id).Nodup) (w' : World) :
    Serial cfg pw op adm w w' ↔
      accounts w' = (accounts w).map fun row => op.edit (adm.edit row) := by
  have hfirst : accounts (adm.prog.exec (server cfg)
      ((op.prog pw).exec (server cfg) w).state).state =
        (accounts w).map fun row => op.edit (adm.edit row) := by
    obtain ⟨hrows, hcalm⟩ := exec_member cfg pw op hw hids
    rw [(exec_admin cfg adm hcalm).1, hrows, List.map_map]
    exact List.map_congr_left fun row _ => edit_comm op adm row
  have hsecond : accounts ((op.prog pw).exec (server cfg)
      (adm.prog.exec (server cfg) w).state).state =
        (accounts w).map fun row => op.edit (adm.edit row) := by
    obtain ⟨hrows, hcalm⟩ := exec_admin cfg adm hw
    have hids' : ((accounts (adm.prog.exec (server cfg) w).state).map Account.id).Nodup := by
      rw [hrows, List.map_map]
      simpa [Function.comp_def] using hids
    rw [(exec_member cfg pw op hcalm hids').1, hrows, List.map_map]
    rfl
  rw [Serial, hfirst, hsecond, or_self]

end Alone

/-! ## At the same time -/

section Together

variable {cfg : Config} {pw : Passwords} {op : MemberOp} {adm : AdminOp} {rows₀ : List Account}

/-- What the operations that have taken effect make of a row. -/
def stage (op : MemberOp) (adm : AdminOp) (member admin : Bool) (row : Account) : Account :=
  let row := if admin then adm.edit row else row
  if member then op.edit row else row

/-- How far a member's handler has come: it has not begun, holds a row that it has read before or
after the administrator's change, has written it back, or leaves the rows alone. -/
inductive MemberAt (pw : Passwords) (op : MemberOp) (adm : AdminOp) (rows₀ : List Account) :
    Bool → Bool → ServerProg Answer → Prop
  | before (admin : Bool) : MemberAt pw op adm rows₀ false admin (op.prog pw)
  | holding (admin : Bool) (row₀ row : Account) (p : ServerProg Answer) (hmem : row₀ ∈ rows₀)
      (hrow : row = row₀ ∨ row = stage op adm false admin row₀)
      (hapart : ∀ row' : Account, row'.id ≠ row.id → op.edit row' = row')
      (hp : Holds row (op.edit row).name p) : MemberAt pw op adm rows₀ false admin p
  | after (admin : Bool) (a : Answer) : MemberAt pw op adm rows₀ true admin (.ret a)
  | apart (member admin : Bool) (p : ServerProg Answer) (hop : op.renames = none)
      (hp : p.Only LeavesAccounts) : MemberAt pw op adm rows₀ member admin p

/-- How far an administrator's handler has come. -/
inductive AdminAt (adm : AdminOp) : Bool → ServerProg Answer → Prop
  | before : AdminAt adm false adm.prog
  | after (a : Answer) : AdminAt adm true (.ret a)
  | apart (admin : Bool) (p : ServerProg Answer) (hadm : ∀ row, adm.edit row = row)
      (hp : p.Only LeavesAccounts) : AdminAt adm admin p

/-- The invariant of the two threads as long as every write back is fresh. -/
structure Running (pw : Passwords) (op : MemberOp) (adm : AdminOp) (rows₀ : List Account)
    (member admin : Bool) (P : Pool ServerCmd World Answer) : Prop where
  threads : ∃ p₀ p₁, P.threads = [p₀, p₁] ∧ MemberAt pw op adm rows₀ member admin p₀ ∧
    AdminAt adm admin p₁
  rows : accounts P.state = rows₀.map (stage op adm member admin)
  calm : Calm P.state

@[simp] theorem stage_id (member admin : Bool) (row : Account) :
    (stage op adm member admin row).id = row.id := by
  cases member <;> cases admin <;> simp [stage]

theorem stage_name (admin : Bool) (row : Account) :
    (stage op adm false admin row).name = row.name := by
  cases admin <;> simp [stage]

/-- The row that the handler has read has the id and the name of the row that is stored. -/
theorem holding_same {admin : Bool} {row₀ row : Account}
    (hrow : row = row₀ ∨ row = stage op adm false admin row₀) (admin' : Bool) :
    row.id = (stage op adm false admin' row₀).id ∧
      row.name = (stage op adm false admin' row₀).name := by
  rw [stage_id, stage_name]
  rcases hrow with rfl | rfl
  · exact ⟨rfl, rfl⟩
  · exact ⟨stage_id false admin row₀, stage_name admin row₀⟩

variable (op adm) in
theorem nodup_stage (hids : (rows₀.map Account.id).Nodup) (member admin : Bool) :
    ((rows₀.map (stage op adm member admin)).map Account.id).Nodup := by
  rw [List.map_map]
  simpa [Function.comp_def] using hids

theorem stage_edit (admin : Bool) :
    (rows₀.map (stage op adm false admin)).map op.edit = rows₀.map (stage op adm true admin) := by
  rw [List.map_map]
  rfl

theorem running_start {w : World} (hw : Calm w) :
    Running pw op adm (accounts w) false false (together pw op adm w) where
  threads := ⟨_, _, rfl, .before false, .before⟩
  rows := by
    rw [show stage op adm false false = id from rfl, List.map_id]
    rfl
  calm := hw

/-- The administrator's change does not disturb the member's handler. -/
theorem MemberAt.change {member : Bool} {p : ServerProg Answer}
    (h : MemberAt pw op adm rows₀ member false p) : MemberAt pw op adm rows₀ member true p := by
  cases h with
  | before => exact .before true
  | holding _ row₀ row _ hmem hrow hapart hp =>
    have hrow' : row = row₀ := hrow.elim id id
    exact .holding true row₀ row _ hmem (.inl hrow') hapart hp
  | after => exact .after true _
  | apart _ _ _ hop hp => exact .apart member true _ hop hp

variable (cfg) in
/-- **What a command of the member's handler preserves**, if it is not a write back of a row that
has changed. -/
theorem MemberAt.step {member admin : Bool} {β : Type} {e : ServerCmd β}
    {k : β → ServerProg Answer} {w : World} (h : MemberAt pw op adm rows₀ member admin (.act e k))
    (hids : (rows₀.map Account.id).Nodup)
    (hrows : accounts w = rows₀.map (stage op adm member admin)) (hw : Calm w)
    (hfresh : ∀ account ∈ writesBack (.act e k), ∀ row ∈ accounts w, row.id = account.id →
      account.overwrite row = { row with name := account.name }) :
    ∃ member', MemberAt pw op adm rows₀ member' admin (k ((server cfg).step e w).1) ∧
      accounts ((server cfg).step e w).2 = rows₀.map (stage op adm member' admin) := by
  rw [accounts_step cfg hw]
  have hnodup := nodup_stage op adm hids member admin
  rw [← hrows] at hnodup
  generalize hp : Prog.act e k = p at h
  cases h with
  | before =>
    rcases shape pw op with ⟨hnone, honly⟩ | hamend
    · rw [← hp] at honly
      exact ⟨false, .apart _ _ _ hnone (honly.2 _), (honly.1.amends _).trans hrows⟩
    · rw [← hp] at hamend
      obtain ⟨id, k, hapart, ⟨a, hmissing⟩, hrow⟩ := hamend
      rw [read_account cfg hw]
      cases hfind : (accounts w).find? (·.id = id) with
      | none =>
        rw [hmissing]
        refine ⟨true, .after _ _, ?_⟩
        have hnot : ∀ row ∈ accounts w, op.edit row = row := fun row hmem =>
          hapart row (by simpa using List.find?_eq_none.1 hfind row hmem)
        rw [← stage_edit, ← hrows, List.map_congr_left hnot, List.map_id']
        rfl
      | some row =>
        have hid : row.id = id := by simpa using List.find?_some hfind
        have hmem : row ∈ accounts w := List.mem_of_find?_eq_some hfind
        obtain ⟨row₀, hrow₀, rfl⟩ := List.mem_map.1 (hrows ▸ hmem)
        refine ⟨false, .holding _ row₀ _ _ hrow₀ (.inr rfl) (fun row' h => ?_) (hrow _ hid), hrows⟩
        exact hapart row' fun h' => h (h'.trans hid.symm)
  | holding _ row₀ row _ hmem hrow hapart hholds =>
    rw [← hp] at hholds
    cases hholds with
    | nonce k h => exact ⟨false, .holding _ row₀ row _ hmem hrow hapart (h _), hrows⟩
    | write account k hid hcolumns hdone =>
      obtain ⟨a, ha⟩ := hdone ((server cfg).step (.db (.registry (.updateAccount account))) w).1
      rw [ha]
      refine ⟨true, .after _ _, ?_⟩
      -- the row that is stored now, and the one the handler has read, differ at most in what the
      -- administrator has changed
      have hnow : stage op adm false admin row₀ ∈ accounts w := hrows ▸ List.mem_map_of_mem hmem
      have hsame := holding_same hrow admin
      have hname : account.name = (op.edit row).name := (congrArg Account.name (hcolumns row) :)
      have hover := hfresh account rfl _ hnow (hsame.1.symm.trans hid.symm)
      rw [hname, op.edit_name_congr hsame.1 hsame.2] at hover
      rw [← stage_edit, ← hrows]
      exact overwrite_rows op hnodup hnow (hid.trans hsame.1) hover fun row' h =>
        hapart row' fun h' => h (h'.trans hsame.1)
  | after a => cases hp
  | apart _ _ _ hop honly =>
    rw [← hp] at honly
    exact ⟨member, .apart _ _ _ hop (honly.2 _), (honly.1.amends _).trans hrows⟩

variable (cfg) in
/-- **What a command of the administrator's handler preserves.** -/
theorem AdminAt.step {member admin : Bool} {β : Type} {e : ServerCmd β}
    {k : β → ServerProg Answer} {w : World} (h : AdminAt adm admin (.act e k))
    (hrows : accounts w = rows₀.map (stage op adm member admin)) (hw : Calm w) :
    ∃ admin', AdminAt adm admin' (k ((server cfg).step e w).1) ∧ (admin' = admin ∨ admin = false) ∧
      accounts ((server cfg).step e w).2 = rows₀.map (stage op adm member admin') := by
  rw [accounts_step cfg hw]
  generalize hp : Prog.act e k = p at h
  cases h with
  | before =>
    rcases adm.shape with ⟨hadm, honly⟩ | ⟨q, failed, hprog, heffect⟩
    · rw [← hp] at honly
      exact ⟨false, .apart _ _ hadm (honly.2 _), .inl rfl, (honly.1.amends _).trans hrows⟩
    · rw [← hp] at hprog
      cases hprog
      refine ⟨true, ?_, .inr rfl, ?_⟩
      · generalize ((server cfg).step (.db (.registry q)) w).1 = reply
        cases reply <;> exact .after _
      · rw [heffect, hrows, List.map_map]
        refine List.map_congr_left fun row _ => ?_
        cases member
        · rfl
        · exact edit_comm op adm row
  | after a => cases hp
  | apart _ _ hadm honly =>
    rw [← hp] at honly
    exact ⟨admin, .apart _ _ hadm (honly.2 _), .inl rfl, (honly.1.amends _).trans hrows⟩

variable (cfg) in
/-- **What a step of the two threads preserves**, if it is not a write back of a row that has
changed. -/
theorem Running.step {member admin : Bool} {P : Pool ServerCmd World Answer}
    (h : Running pw op adm rows₀ member admin P) (hids : (rows₀.map Account.id).Nodup) {i : ℕ}
    (hfresh : Fresh P i) :
    ∃ member' admin', Running pw op adm rows₀ member' admin' (P.step (server cfg) i) := by
  rcases Pool.step_cases (server cfg) P i with hs | ⟨β, e, k, hi, hs⟩
  · rw [hs]
    exact ⟨member, admin, h⟩
  · rw [hs]
    obtain ⟨p₀, p₁, hthreads, hmember, hadmin⟩ := h.threads
    have hwrites : ∀ account ∈ writesBack (.act e k), ∀ row ∈ accounts P.state,
        row.id = account.id → account.overwrite row = { row with name := account.name } := by
      intro account haccount
      exact hfresh account (by rw [hi]; exact haccount)
    rw [hthreads] at hi ⊢
    match i, hi with
    | 0, hi =>
      obtain rfl : p₀ = .act e k := Option.some.inj hi
      obtain ⟨member', hp, hrows⟩ := hmember.step cfg hids h.rows h.calm hwrites
      exact ⟨member', admin, ⟨_, _, rfl, hp, hadmin⟩, hrows, h.calm.step e⟩
    | 1, hi =>
      obtain rfl : p₁ = .act e k := Option.some.inj hi
      obtain ⟨admin', hp, hmoved, hrows⟩ := hadmin.step cfg h.rows h.calm
      refine ⟨member, admin', ⟨_, _, rfl, ?_, hp⟩, hrows, h.calm.step e⟩
      rcases hmoved with rfl | rfl
      · exact hmember
      · cases admin' with
        | false => exact hmember
        | true => exact hmember.change

/-- When both threads have returned, both operations have taken effect. -/
theorem Running.final {member admin : Bool} {P : Pool ServerCmd World Answer}
    (h : Running pw op adm rows₀ member admin P) (hids : (rows₀.map Account.id).Nodup)
    (hdone : P.Complete) : accounts P.state = rows₀.map fun row => op.edit (adm.edit row) := by
  obtain ⟨p₀, p₁, hthreads, hmember, hadmin⟩ := h.threads
  obtain ⟨a₀, rfl⟩ := hdone 0 p₀ (by rw [hthreads]; rfl)
  obtain ⟨a₁, rfl⟩ := hdone 1 p₁ (by rw [hthreads]; rfl)
  have hstage : accounts P.state = rows₀.map (stage op adm member true) := by
    rw [h.rows]
    cases admin with
    | true => rfl
    | false =>
      refine List.map_congr_left fun row _ => ?_
      have hadm : adm.edit row = row := by
        generalize hp : (Prog.ret a₁ : ServerProg Answer) = p at hadmin
        cases hadmin with
        | before => cases adm <;> cases hp
        | apart _ _ hadm _ => exact hadm row
      simp [stage, hadm]
  rw [hstage]
  cases member with
  | true => rfl
  | false =>
    generalize hp : (Prog.ret a₀ : ServerProg Answer) = p at hmember
    have hnone (hop : op.renames = none) : rows₀.map (stage op adm false true) =
        rows₀.map fun row => op.edit (adm.edit row) :=
      List.map_congr_left fun row _ => by simp [stage, MemberOp.edit, hop]
    cases hmember with
    | before =>
      rcases shape pw op with ⟨hop, -⟩ | hamend
      · exact hnone hop
      · rw [← hp] at hamend
        cases hamend
    | holding _ row₀ row _ hmem hrow hapart hholds =>
      rw [← hp] at hholds
      obtain ⟨-, hname⟩ := hholds
      obtain ⟨hid, hsame⟩ := holding_same hrow true
      have hnow : stage op adm false true row₀ ∈ rows₀.map (stage op adm false true) :=
        List.mem_map_of_mem hmem
      have hkept := edit_rows_of_name op (nodup_stage op adm hids false true) hnow
        ((op.edit_name_congr hid hsame).symm.trans (hname.trans hsame))
        fun row' h => hapart row' fun h' => h (h'.trans hid)
      rw [← hkept, stage_edit]
      rfl
    | apart _ _ _ hop _ => exact hnone hop

theorem writesBack_eq_some {p : ServerProg Answer} {account : Account}
    (h : writesBack p = some account) :
    ∃ k, p = .act (.db (.registry (.updateAccount account))) k := by
  cases p with
  | ret a => cases h
  | act e k =>
    cases e with
    | db q =>
      cases q with
      | registry q =>
        cases q with
        | updateAccount account' =>
          cases h
          exact ⟨k, rfl⟩
        | _ => cases h
      | _ => cases h
    | _ => cases h

theorem Holds.of_writesBack {row account : Account} {name : String} {p : ServerProg Answer}
    (h : Holds row name p) (hp : writesBack p = some account) :
    account.id = row.id ∧ (∀ old, account.overwrite old = { row with name := name }.overwrite old) ∧
      ∃ k, p = .act (.db (.registry (.updateAccount account))) k ∧ ∀ b, ∃ a, k b = .ret a := by
  cases h with
  | returned a h => cases hp
  | nonce k h => cases hp
  | write account' k hid hcolumns hdone =>
    cases hp
    exact ⟨hid, hcolumns, k, rfl, hdone⟩

theorem not_writesBack {p : ServerProg Answer} (hp : p.Only LeavesAccounts) :
    writesBack p = none := by
  cases h : writesBack p with
  | none => rfl
  | some account =>
    obtain ⟨k, rfl⟩ := writesBack_eq_some h
    exact hp.1.elim

theorem AdminAt.not_writesBack {admin : Bool} {p : ServerProg Answer} (h : AdminAt adm admin p) :
    writesBack p = none := by
  cases h with
  | before => cases adm <;> rfl
  | after a => rfl
  | apart _ _ _ honly => exact Accounts.not_writesBack honly

/-- A member's handler that is about to write holds a row. -/
theorem MemberAt.holds {member admin : Bool} {p : ServerProg Answer} {account : Account}
    (h : MemberAt pw op adm rows₀ member admin p) (hp : writesBack p = some account) :
    member = false ∧ ∃ row₀ ∈ rows₀, ∃ row : Account,
      (row = row₀ ∨ row = stage op adm false admin row₀) ∧ Holds row (op.edit row).name p := by
  cases h with
  | before =>
    rcases shape pw op with ⟨-, honly⟩ | hamend
    · cases (Accounts.not_writesBack honly).symm.trans hp
    · generalize op.prog pw = p at hamend hp
      cases hamend
      cases hp
  | holding _ row₀ row _ hmem hrow _ hholds => exact ⟨rfl, row₀, hmem, row, hrow, hholds⟩
  | after a => cases hp
  | apart _ _ _ _ honly => cases (Accounts.not_writesBack honly).symm.trans hp

/-- **A write back that is not fresh** is one of a row that the administrator has changed since it
was read; what is then stored is what neither order leaves. -/
theorem Running.stale {member admin : Bool} {P : Pool ServerCmd World Answer}
    (h : Running pw op adm rows₀ member admin P) (hids : (rows₀.map Account.id).Nodup) {i : ℕ}
    (hstale : ¬ Fresh P i) (sched : List ℕ) :
    accounts ((P.step (server cfg) i).run (server cfg) sched).state ≠
      rows₀.map fun row => op.edit (adm.edit row) := by
  obtain ⟨p₀, p₁, hthreads, hmember, hadmin⟩ := h.threads
  unfold Fresh at hstale
  push Not at hstale
  obtain ⟨account, haccount, row', hrow', hid', hchanged⟩ := hstale
  obtain ⟨p, hi, hp⟩ := Option.bind_eq_some_iff.1 haccount
  rw [hthreads] at hi
  match i, hi with
  | 1, hi =>
    obtain rfl : p₁ = p := Option.some.inj hi
    cases hadmin.not_writesBack.symm.trans hp
  | 0, hi =>
    obtain rfl : p₀ = p := Option.some.inj hi
    obtain ⟨rfl, row₀, hmem, row, hrow, hholds⟩ := hmember.holds hp
    obtain ⟨hid, hcolumns, k, rfl, hdone⟩ := hholds.of_writesBack hp
    have hrows := h.rows
    have hnow : stage op adm false admin row₀ ∈ accounts P.state :=
      hrows ▸ List.mem_map_of_mem hmem
    have hsame := holding_same hrow admin
    have hnodup : ((accounts P.state).map Account.id).Nodup := hrows ▸ nodup_stage op adm hids false admin
    obtain rfl : row' = stage op adm false admin row₀ :=
      List.inj_on_of_nodup_map hnodup hrow' hnow (hid'.trans (hid.trans hsame.1))
    have hname : account.name = (op.edit row).name := (congrArg Account.name (hcolumns row) :)
    -- the handler does not hold the row as it is stored
    have hold : row ≠ stage op adm false admin row₀ := by
      intro hrow
      refine hchanged ?_
      rw [← hrow, hcolumns, hname]
      rfl
    have hread : row = row₀ := hrow.resolve_right hold
    have hfinished : ∃ a, admin = true ∧ p₁ = .ret a := by
      cases hadmin with
      | before => exact absurd hread hold
      | after a => exact ⟨a, rfl, rfl⟩
      | apart _ _ hadm _ =>
        refine absurd (hread.trans ?_) hold
        cases admin <;> simp [stage, hadm]
    obtain ⟨a₁, rfl, rfl⟩ := hfinished
    obtain ⟨a₀, ha₀⟩ := hdone ((server cfg).step (.db (.registry (.updateAccount account))) P.state).1
    have hstep : P.step (server cfg) 0 =
        P.advance (server cfg) 0 (.db (.registry (.updateAccount account))) k := by
      simp [Pool.step, Pool.advance, hthreads]
    have hcomplete : (P.step (server cfg) 0).Complete := by
      rw [hstep]
      intro j q hj
      simp only [Pool.advance, hthreads, List.set_cons_zero, ha₀] at hj
      rcases j with _ | _ | j
      · exact ⟨a₀, (Option.some.inj hj).symm⟩
      · exact ⟨a₁, (Option.some.inj hj).symm⟩
      · cases hj
    rw [hcomplete.run, hstep]
    intro hend
    have hstored : accounts ((server cfg).step (.db (.registry (.updateAccount account))) P.state).2 =
        (accounts P.state).map op.edit := by
      refine hend.trans ?_
      rw [hrows, List.map_map]
      rfl
    rw [accounts_step cfg h.calm] at hstored
    have hrow' := List.map_inj_left.1 hstored _ hnow
    rw [if_pos hid'] at hrow'
    refine hchanged ?_
    rw [hrow', op.edit_eq, hname, op.edit_name_congr hsame.1 hsame.2]

/-- What both orders leave is what the two threads leave, exactly if every write back is fresh. -/
theorem Running.serial_iff {member admin : Bool} {P : Pool ServerCmd World Answer}
    (h : Running pw op adm rows₀ member admin P) (hids : (rows₀.map Account.id).Nodup)
    (sched : List ℕ) (hdone : (P.run (server cfg) sched).Complete) :
    accounts (P.run (server cfg) sched).state = rows₀.map (fun row => op.edit (adm.edit row)) ↔
      Pool.EachStep (server cfg) Fresh P sched := by
  induction sched generalizing member admin P with
  | nil => exact iff_of_true (h.final hids hdone) trivial
  | cons i sched ih =>
    by_cases hfresh : Fresh P i
    · obtain ⟨member', admin', hnext⟩ := h.step cfg hids hfresh
      exact (ih hnext hdone).trans (and_iff_right hfresh).symm
    · exact iff_of_false (h.stale hids hfresh sched) fun hall => hfresh hall.1

end Together

/-- **No update of the account row is lost exactly if every write back is fresh**: in every complete
interleaving of a member's operation with an administrator's, the account rows are those that the
two leave one after the other if and only if no handler writes back a row that has changed since it
was read. -/
theorem final_serial_iff (cfg : Config) (pw : Passwords) (op : MemberOp) (adm : AdminOp) (w : World)
    (hw : Calm w) (hids : ((accounts w).map Account.id).Nodup) (sched : List ℕ)
    (hdone : ((together pw op adm w).run (server cfg) sched).Complete) :
    Serial cfg pw op adm w ((together pw op adm w).run (server cfg) sched).state ↔
      Pool.EachStep (server cfg) Fresh (together pw op adm w) sched := by
  rw [serial_iff cfg pw op adm hw hids]
  exact (running_start hw).serial_iff hids sched hdone

/-! ## A suspension -/

/-- A hash function that keeps the password, and the classes of the ASCII characters. -/
def plainPasswords : Passwords where
  compare hash password := hash = password
  generate _ password := .ok password
  isUpper := Char.isUpper
  isLower := Char.isLower
  isDigit := Char.isDigit
  isPunctOrSymbol c := !c.isAlphanum && !c.isWhitespace
  toLower := Char.toLower

/-- A member's account. -/
def memberAccount : Account where
  id := "account-1"
  name := "Asha"
  email := "asha@example.com"
  passwordHash := "Correct-horse-7"
  planID := "free"
  retentionDays := 90
  verified := true
  status := .active
  riskScore := 0

/-- A server with one account. -/
def oneAccount : World where
  db := ⟨[], [], [], [], [], [], [], [], [], [], { Registry.empty with accounts := [memberAccount] }⟩
  redis _ := none
  streams _ := Stream.empty
  antiStarvationCnt := 0
  breakers _ := none
  history _ := []
  flags := []
  clock := 0
  env := []

/-- The member gives the account another name. -/
def newName : MemberOp := .updateProfile ⟨"account-1", false⟩ (some "Asha Rao")

/-- Both updates stand if the account is suspended after the name has been written. -/
theorem final_serial_inTurn : Serial .default plainPasswords newName (.suspend "account-1") oneAccount
    ((together plainPasswords newName (.suspend "account-1") oneAccount).run
      (server .default) [0, 0, 1]).state :=
  (final_serial_iff .default plainPasswords newName (.suspend "account-1") oneAccount
    (fun t ht => by cases ht) (by decide) [0, 0, 1]
    (Pool.complete_of_returned (by decide))).2 (by decide)

/-- The suspension is lost if it comes between the reading of the row and the write back. -/
theorem suspension_lost :
    ((together plainPasswords newName (.suspend "account-1") oneAccount).run
      (server .default) [0, 1, 0]).Complete ∧
    ¬ Serial .default plainPasswords newName (.suspend "account-1") oneAccount
      ((together plainPasswords newName (.suspend "account-1") oneAccount).run
        (server .default) [0, 1, 0]).state := by
  refine ⟨Pool.complete_of_returned (by decide), ?_⟩
  unfold Serial
  decide

end AeroxeBee.Accounts
