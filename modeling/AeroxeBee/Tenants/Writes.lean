import AeroxeBee.Accounts.Concurrent
import AeroxeBee.Tenants.Devices

/-!
# What a request writes in the rows of others

The handlers of the device endpoints write the rows that a request names, whoever owns them.

* `rows_run`: what a statement of these handlers does to a table;
* `untouched_iff`: the rows of the other accounts are as they were exactly if every statement
  addresses rows of the account alone.
-/

namespace AeroxeBee.Tenants

open Foundations Accounts Api Status

/-! ## Tables -/

/-- The tables with rows that belong to accounts. -/
inductive Table where
  | devices
  | physicalDevices
  | messages
  | apiKeys
  | mqttCredentials
deriving DecidableEq

/-- The rows of a table. -/
abbrev Table.Row : Table → Type
  | devices => Device
  | physicalDevices => PhysicalDevice
  | messages => Message
  | apiKeys => APIKey
  | mqttCredentials => MQTTCredential

instance : (t : Table) → DecidableEq t.Row
  | .devices => inferInstanceAs (DecidableEq Device)
  | .physicalDevices => inferInstanceAs (DecidableEq PhysicalDevice)
  | .messages => inferInstanceAs (DecidableEq Message)
  | .apiKeys => inferInstanceAs (DecidableEq APIKey)
  | .mqttCredentials => inferInstanceAs (DecidableEq MQTTCredential)

/-- The rows that a table has. -/
def rows (db : Database) : (t : Table) → List t.Row
  | .devices => db.devices
  | .physicalDevices => db.physicalDevices
  | .messages => db.messages
  | .apiKeys => db.apiKeys
  | .mqttCredentials => db.mqttCredentials

/-- Whether a row belongs to an account: a message belongs to the account of its API key, and a
credential to that of its device. -/
def owned (db : Database) (accountID : String) : (t : Table) → t.Row → Bool
  | .devices, d => d.accountID = accountID
  | .physicalDevices, p => p.accountID = accountID
  | .messages, m => db.apiKeys.any fun k => k.id = m.apiKeyID && k.accountID = accountID
  | .apiKeys, k => k.accountID = accountID
  | .mqttCredentials, c => db.devices.any fun d => d.id = c.deviceID && d.accountID = accountID

/-- The rows that do not belong to an account are where they were, and as they were. -/
def Untouched (accountID : String) (db db' : Database) : Prop :=
  ∀ (t : Table) (n : ℕ) (row : t.Row), (rows db t)[n]? = some row →
    owned db accountID t row = false → (rows db' t)[n]? = some row

/-! ## Statements -/

/-- The table whose rows a command may change. -/
def rewrites : {β : Type} → ServerCmd β → Option Table
  | _, .db (.createDevice _) | _, .db (.updateStatus _ _ _) | _, .db (.updatePong _ _) =>
    some .devices
  | _, .db (.upsertPhysicalDevice _) => some .physicalDevices
  | _, .db (.updateDeliveryStatus _ _ _ _) | _, .db (.markFailed _ _) => some .messages
  | _, .db (.revokeAPIKey _ _) => some .apiKeys
  | _, .db (.revokeByDeviceID _ _) => some .mqttCredentials
  | _, _ => none

/-- The rows that a statement addresses. -/
def addresses : {β : Type} → ServerCmd β → (t : Table) → t.Row → Bool
  | _, .db (.createDevice device), .devices, d =>
    d.physicalDeviceID = device.physicalDeviceID && d.simSlot = device.simSlot
  | _, .db (.updateStatus id _ _), .devices, d => d.id = id
  | _, .db (.updatePong id _), .devices, d => d.id = id
  | _, .db (.upsertPhysicalDevice phone), .physicalDevices, p => p.id = phone.id
  | _, .db (.updateDeliveryStatus id _ _ _), .messages, m => m.id = id
  | _, .db (.markFailed id _), .messages, m => m.id = id
  | _, .db (.revokeAPIKey id _), .apiKeys, k => k.id = id
  | _, .db (.revokeByDeviceID deviceID _), .mqttCredentials, c =>
    c.deviceID = deviceID && c.revokedAt = none
  | _, _, _, _ => false

/-- What a statement makes of a row that it addresses. -/
def write : {β : Type} → ServerCmd β → (t : Table) → t.Row → t.Row
  | _, .db (.createDevice device), .devices, d =>
    { d with status := device.status, phoneNumber := device.phoneNumber }
  | _, .db (.updateStatus _ status now), .devices, d => { d with status := status, lastSeen := some now }
  | _, .db (.updatePong _ now), .devices, d => { d with lastPongAt := some now, status := .online }
  | _, .db (.upsertPhysicalDevice phone), .physicalDevices, p => { phone with accountID := p.accountID }
  | _, .db (.updateDeliveryStatus _ status confidence now), .messages, m =>
    { m with
      deliveryStatus := status
      confidenceScore := confidence
      status := "delivered"
      deliveredAt := some now }
  | _, .db (.markFailed _ reason), .messages, m =>
    { m with status := "failed", deliveryStatus := .failed, errorReason := some reason }
  | _, .db (.revokeAPIKey _ now), .apiKeys, k => { k with revokedAt := some now }
  | _, .db (.revokeByDeviceID _ now), .mqttCredentials, c => { c with revokedAt := some now }
  | _, _, _, row => row

/-- What the handlers of the device endpoints ask of the database. -/
def DeviceCommand : {β : Type} → ServerCmd β → Prop
  | _, .db (.deviceByID _) | _, .db (.messageByID _) | _, .db (.apiKeyByHash _) => True
  | _, .db (.registry (.accountByEmail _)) => True
  | _, .db (.createDevice _) | _, .db (.updateStatus _ _ _) | _, .db (.updatePong _ _) => True
  | _, .db (.upsertPhysicalDevice _) => True
  | _, .db (.updateDeliveryStatus _ _ _ _) | _, .db (.markFailed _ _) => True
  | _, .db (.revokeAPIKey _ _) => True
  | _, .db (.revokeByDeviceID _ _) | _, .db (.createCredential _) => True
  | _, .db _ => False
  | _, _ => True

/-- If the command is executed, then the rows it addresses belong to the account, or have the values
that are written already. -/
def OwnRows (accountID : String) (db : Database) {β : Type} (e : ServerCmd β) (w : World) : Prop :=
  w.next.fault.isRefused = false → ∀ t ∈ rewrites e, ∀ row ∈ rows w.db t, addresses e t row = true →
    owned db accountID t row = true ∨ write e t row = row

section Statements

variable (db : Database)

/-- The table after the rows that a command addresses have been rewritten. -/
def rewritten {β : Type} (e : ServerCmd β) (t : Table) : List t.Row :=
  (rows db t).map fun row => if addresses e t row then write e t row else row

theorem rewritten_of_not_addressed {β : Type} {e : ServerCmd β} {t : Table}
    (h : ∀ row ∈ rows db t, addresses e t row = false) : rewritten db e t = rows db t := by
  unfold rewritten
  rw [List.map_congr_left fun row hrow => if_neg (by simp [h row hrow]), List.map_id']

/-- A device that is inserted either changes the one in its slot, or is added at the end. -/
theorem upsertDevice_rows (device : Device) :
    ∃ added, (replaced db.devices (db.upsertDevice device)).2 =
      rewritten db (.db (.createDevice device)) .devices ++ added := by
  unfold Database.upsertDevice
  dsimp only
  by_cases hslot : db.devices.any fun d =>
      decide (d.physicalDeviceID = device.physicalDeviceID) && decide (d.simSlot = device.simSlot)
  · rw [if_pos hslot]
    exact ⟨[], (List.append_nil _).symm⟩
  · rw [if_neg hslot]
    have hnone : rewritten db (.db (.createDevice device)) .devices = db.devices := by
      refine rewritten_of_not_addressed db fun d hd => ?_
      exact Bool.eq_false_iff.2 fun h => hslot (List.any_eq_true.2 ⟨d, hd, h⟩)
    rw [hnone]
    split_ifs
    · exact ⟨[], (List.append_nil _).symm⟩
    · exact ⟨[], (List.append_nil _).symm⟩
    · exact ⟨_, rfl⟩

theorem upsertPhone_rows (phone : PhysicalDevice) :
    ∃ added, (replaced db.physicalDevices (db.upsertPhone phone)).2 =
      rewritten db (.db (.upsertPhysicalDevice phone)) .physicalDevices ++ added := by
  unfold Database.upsertPhone
  by_cases hid : db.physicalDevices.any (·.id = phone.id)
  · rw [if_pos hid]
    refine ⟨[], ?_⟩
    rw [List.append_nil]
    refine List.map_congr_left fun p _ => ?_
    simp only [addresses, decide_eq_true_eq]
    rfl
  · rw [if_neg hid]
    have hnone : rewritten db (.db (.upsertPhysicalDevice phone)) .physicalDevices =
        db.physicalDevices := by
      refine rewritten_of_not_addressed db fun p hp => ?_
      exact Bool.eq_false_iff.2 fun h => hid (List.any_eq_true.2 ⟨p, hp, h⟩)
    rw [hnone]
    split_ifs
    · exact ⟨[], (List.append_nil _).symm⟩
    · exact ⟨_, rfl⟩

theorem insertCredential_rows (cred : MQTTCredential) :
    ∃ added, (replaced db.mqttCredentials (db.insertCredential cred)).2 =
      db.mqttCredentials ++ added := by
  unfold Database.insertCredential
  split_ifs
  · exact ⟨[], (List.append_nil _).symm⟩
  · exact ⟨[], (List.append_nil _).symm⟩
  · exact ⟨_, rfl⟩

/-- **What a statement does to a table**: it rewrites the rows it addresses, and may add rows at the
end. -/
theorem rows_run {β : Type} {q : Query β} (hq : DeviceCommand (.db q)) (t : Table) :
    ∃ added, rows (q.run db).2 t = rewritten db (.db q) t ++ added := by
  have hplain (h : ∀ row ∈ rows db t, addresses (.db q) t row = false)
      (hrows : rows (q.run db).2 t = rows db t) :
      ∃ added, rows (q.run db).2 t = rewritten db (.db q) t ++ added :=
    ⟨[], by rw [rewritten_of_not_addressed db h, hrows, List.append_nil]⟩
  have hupdate (h : rows (q.run db).2 t = rewritten db (.db q) t) :
      ∃ added, rows (q.run db).2 t = rewritten db (.db q) t ++ added :=
    ⟨[], by rw [h, List.append_nil]⟩
  cases q with
  | createDevice device =>
    cases t with
    | devices => exact upsertDevice_rows db device
    | _ => exact hplain (fun _ _ => rfl) rfl
  | upsertPhysicalDevice phone =>
    cases t with
    | physicalDevices => exact upsertPhone_rows db phone
    | _ => exact hplain (fun _ _ => rfl) rfl
  | createCredential cred =>
    cases t with
    | mqttCredentials =>
      obtain ⟨added, h⟩ := insertCredential_rows db cred
      exact ⟨added, by rw [rewritten_of_not_addressed db fun _ _ => rfl]; exact h⟩
    | _ => exact hplain (fun _ _ => rfl) rfl
  | updateStatus id status now =>
    cases t with
    | devices =>
      exact hupdate (List.map_congr_left fun d _ => by simp [addresses, write])
    | _ => exact hplain (fun _ _ => rfl) rfl
  | updatePong id now =>
    cases t with
    | devices =>
      exact hupdate (List.map_congr_left fun d _ => by simp [addresses, write])
    | _ => exact hplain (fun _ _ => rfl) rfl
  | updateDeliveryStatus id status confidence now =>
    cases t with
    | messages =>
      exact hupdate (List.map_congr_left fun m _ => by simp [addresses, write])
    | _ => exact hplain (fun _ _ => rfl) rfl
  | markFailed id reason =>
    cases t with
    | messages =>
      exact hupdate (List.map_congr_left fun m _ => by simp [addresses, write])
    | _ => exact hplain (fun _ _ => rfl) rfl
  | revokeAPIKey id now =>
    cases t with
    | apiKeys =>
      exact hupdate (List.map_congr_left fun k _ => by simp [addresses, write])
    | _ => exact hplain (fun _ _ => rfl) rfl
  | revokeByDeviceID deviceID now =>
    cases t with
    | mqttCredentials =>
      exact hupdate (List.map_congr_left fun c _ => by simp [addresses, write])
    | _ => exact hplain (fun _ _ => rfl) rfl
  | deviceByID | messageByID | apiKeyByHash =>
    cases t <;> exact hplain (fun _ _ => rfl) rfl
  | registry q =>
    cases q with
    | accountByEmail email => cases t <;> exact hplain (fun _ _ => rfl) rfl
    | _ => exact hq.elim
  | _ => exact hq.elim

end Statements

/-! ## Requests -/

/-- The table that a command may change or add to. -/
def touches {β : Type} (e : ServerCmd β) : Option Table :=
  match e with
  | .db (.createCredential _) => some .mqttCredentials
  | e => rewrites e

/-- The command changes no row of the table. -/
def Keeps (t : Table) {β : Type} (e : ServerCmd β) : Prop := DeviceCommand e ∧ t ∉ rewrites e

/-- The command changes no row of any table. -/
def Quiet {β : Type} (e : ServerCmd β) : Prop := DeviceCommand e ∧ rewrites e = none

/-- The command leaves the tables alone. -/
def Reads {β : Type} (e : ServerCmd β) : Prop := DeviceCommand e ∧ touches e = none

/-- The program has commands of the device endpoints alone, and after a command that may change or
add to a table it changes no row of that table any more. -/
def RewritesOnce {α : Type} : ServerProg α → Prop
  | .ret _ => True
  | .act e k => DeviceCommand e ∧ ∀ b, (∀ t ∈ touches e, (k b).Only (Keeps t)) ∧ RewritesOnce (k b)

section Once

variable {α γ : Type} {p : ServerProg α}

theorem Quiet.keeps {β : Type} {e : ServerCmd β} (h : Quiet e) (t : Table) : Keeps t e :=
  ⟨h.1, by rw [h.2]; nofun⟩

theorem RewritesOnce.of_quiet (h : p.Only Quiet) : RewritesOnce p := by
  induction p with
  | ret a => trivial
  | act e k ih =>
    exact ⟨h.1.1, fun b => ⟨fun t _ => (h.2 b).mono fun _ he => he.keeps t, ih b (h.2 b)⟩⟩

theorem RewritesOnce.bind_reads {f : α → ServerProg γ} (hp : p.Only Reads)
    (hf : ∀ a, RewritesOnce (f a)) : RewritesOnce (p >>= f) := by
  induction p with
  | ret a => exact hf a
  | act e k ih =>
    refine ⟨hp.1.1, fun b => ⟨fun t ht => ?_, ih b (hp.2 b)⟩⟩
    rw [hp.1.2] at ht
    cases ht

theorem RewritesOnce.map (hp : RewritesOnce p) (f : α → γ) :
    RewritesOnce (p >>= fun a => .ret (f a)) := by
  induction p with
  | ret a => trivial
  | act e k ih =>
    refine ⟨hp.1, fun b => ⟨fun t ht => ?_, ih b (hp.2 b).2⟩⟩
    exact ((hp.2 b).1 t ht).bind fun _ => trivial

/-- A command after which no row is changed any more. -/
theorem RewritesOnce.last {β : Type} {e : ServerCmd β} {k : β → ServerProg α} (he : DeviceCommand e)
    (hk : ∀ b, (k b).Only Quiet) : RewritesOnce (.act e k) :=
  ⟨he, fun b => ⟨fun t _ => (hk b).mono fun _ h => h.keeps t, .of_quiet (hk b)⟩⟩

end Once

section Run

variable (cfg : Config) {accountID : String} {db₀ : Database} {w : World} {β α : Type}

/-- After a command a table is as it was, or its rows have been rewritten and others added. -/
theorem rows_step (hw : Alone w) {e : ServerCmd β} (he : DeviceCommand e) (t : Table) :
    ∃ added, rows ((server cfg).step e w).2.db t = rows w.db t ++ added ∨
      (w.next.fault.isRefused = false ∧
        rows ((server cfg).step e w).2.db t = rewritten w.db e t ++ added) := by
  cases e with
  | db q =>
    obtain ⟨added, hrows⟩ := rows_run w.db he t
    rcases hw.step_query cfg q with ⟨hfault, -, hdb⟩ | ⟨e, -, -, hdb⟩ | ⟨e, hfault, -, hdb⟩
    · exact ⟨added, .inr ⟨by rw [hfault]; rfl, by rw [hdb, hrows]⟩⟩
    · exact ⟨[], .inl (by rw [hdb, List.append_nil])⟩
    · exact ⟨added, .inr ⟨by rw [hfault]; rfl, by rw [hdb, hrows]⟩⟩
  | publish topic payload =>
    refine ⟨[], .inl ?_⟩
    rw [step_db, List.append_nil]
    exact congrArg (fun db => rows db t) hw.tick_db
  | _ => exact ⟨[], .inl ((congrArg (fun db => rows db t) hw.tick_db).trans (List.append_nil _).symm)⟩

/-- A command addresses rows of the table that it may change. -/
theorem not_addresses {e : ServerCmd β} {t : Table} (h : t ∉ rewrites e) (row : t.Row) :
    addresses e t row = false := by
  cases e with
  | db q => cases q <;> cases t <;> first | rfl | exact absurd (Option.mem_def.2 rfl) h
  | _ => cases t <;> rfl

theorem touches_of_rewrites {e : ServerCmd β} {t : Table} (h : t ∈ rewrites e) : t ∈ touches e := by
  cases e with
  | db q =>
    cases q with
    | createCredential cred => cases h
    | _ => exact h
  | _ => exact h

/-- A table that a command does not touch stays as it is. -/
theorem rows_of_not_touches (hw : Alone w) {e : ServerCmd β} (he : DeviceCommand e) {t : Table}
    (ht : t ∉ touches e) : rows ((server cfg).step e w).2.db t = rows w.db t := by
  cases e with
  | db q =>
    have hrun : rows (q.run w.db).2 t = rows w.db t := by
      cases q with
      | registry q =>
        cases q with
        | accountByEmail email => rfl
        | _ => exact he.elim
      | _ => cases t <;> first | rfl | exact he.elim | exact absurd (Option.mem_def.2 rfl) ht
    rcases hw.step_query cfg q with ⟨-, -, hdb⟩ | ⟨e, -, -, hdb⟩ | ⟨e, -, -, hdb⟩
    · rw [hdb, hrun]
    · rw [hdb]
    · rw [hdb, hrun]
  | publish topic payload =>
    rw [step_db]
    exact congrArg (fun db => rows db t) hw.tick_db
  | _ => exact congrArg (fun db => rows db t) hw.tick_db

/-- A row of a table that a command does not rewrite stays where it is, and as it is. -/
theorem Keeps.row (hw : Alone w) {e : ServerCmd β} {t : Table} (he : Keeps t e) {n : ℕ}
    {row : t.Row} (hrow : (rows w.db t)[n]? = some row) :
    (rows ((server cfg).step e w).2.db t)[n]? = some row := by
  have hlt : n < (rows w.db t).length := (List.getElem?_eq_some_iff.1 hrow).1
  obtain ⟨added, h | ⟨-, h⟩⟩ := rows_step cfg hw he.1 t
  · rw [h, List.getElem?_append_left hlt, hrow]
  · rw [h, rewritten_of_not_addressed w.db fun row _ => not_addresses he.2 row,
      List.getElem?_append_left hlt, hrow]

/-- A row of a table that a program does not rewrite stays where it is, and as it is. -/
theorem exec_row {p : ServerProg α} {t : Table} (hp : p.Only (Keeps t)) (hw : Alone w) {n : ℕ}
    {row : t.Row} (hrow : (rows w.db t)[n]? = some row) :
    (rows (p.exec (server cfg) w).state.db t)[n]? = some row := by
  refine (hp.exec_inv (I := fun w => Alone w ∧ (rows w.db t)[n]? = some row) ?_ ⟨hw, hrow⟩).2
  rintro β e w he ⟨hw, hrow⟩
  exact ⟨hw.step e, he.row cfg hw hrow⟩

/-- **What a command preserves** if it addresses rows of the account alone. -/
theorem Untouched.step (h : Untouched accountID db₀ w.db) (hw : Alone w) {e : ServerCmd β}
    (he : DeviceCommand e) (hown : OwnRows accountID db₀ e w) :
    Untouched accountID db₀ ((server cfg).step e w).2.db := by
  intro t n row hrow hforeign
  have hnow := h t n row hrow hforeign
  have hlt : n < (rows w.db t).length := (List.getElem?_eq_some_iff.1 hnow).1
  obtain ⟨added, hrows | ⟨hexecuted, hrows⟩⟩ := rows_step cfg hw he t
  · rw [hrows, List.getElem?_append_left hlt, hnow]
  · have hkept : (if addresses e t row then write e t row else row) = row := by
      split_ifs with haddr
      · have ht : t ∈ rewrites e := by
          by_contra hnot
          cases (not_addresses hnot row).symm.trans haddr
        refine (hown hexecuted t ht row (List.mem_of_getElem? hnow) haddr).resolve_left ?_
        rw [hforeign]
        nofun
      · rfl
    rw [hrows, List.getElem?_append_left (by simpa [rewritten] using hlt)]
    simp [rewritten, hnow, hkept]

/-- **A command that addresses a row of another account changes it.** -/
theorem exists_changed (hw : Alone w) {e : ServerCmd β} (he : DeviceCommand e)
    (hnot : ¬ OwnRows accountID db₀ e w) :
    ∃ t ∈ rewrites e, ∃ (n : ℕ) (row row' : t.Row), (rows w.db t)[n]? = some row ∧
      owned db₀ accountID t row = false ∧ row' ≠ row ∧
        (rows ((server cfg).step e w).2.db t)[n]? = some row' := by
  unfold OwnRows at hnot
  push Not at hnot
  obtain ⟨hexecuted, t, ht, row, hmem, haddr, hforeign, hchanged⟩ := hnot
  obtain ⟨n, hn⟩ := List.mem_iff_getElem?.1 hmem
  refine ⟨t, ht, n, row, write e t row, hn, by simpa using hforeign, hchanged, ?_⟩
  have hlt : n < (rows w.db t).length := (List.getElem?_eq_some_iff.1 hn).1
  cases e with
  | db q =>
    obtain ⟨added, hrows⟩ := rows_run w.db he t
    have hstep : ((server cfg).step (.db q) w).2.db = (q.run w.db).2 := by
      rcases hw.step_query cfg q with ⟨-, -, hdb⟩ | ⟨e, hfault, -, -⟩ | ⟨e, -, -, hdb⟩
      · exact hdb
      · rw [hfault] at hexecuted
        cases hexecuted
      · exact hdb
    rw [hstep, hrows, List.getElem?_append_left (by simpa [rewritten] using hlt)]
    simp [rewritten, hn, haddr]
  | _ => cases ht

/-- What a program leaves untouched, if it rewrites each table at most once and so far has changed
no row of a table that it may still rewrite. -/
theorem untouched_exec_iff {p : ServerProg α} (hp : RewritesOnce p) (hw : Alone w)
    (h : Untouched accountID db₀ w.db)
    (hfirst : ∀ t, p.Only (Keeps t) ∨ rows w.db t = rows db₀ t) :
    Untouched accountID db₀ (p.exec (server cfg) w).state.db ↔
      p.EachStep (server cfg) (OwnRows accountID db₀) w := by
  induction p generalizing w with
  | ret a => exact iff_of_true h trivial
  | act e k ih =>
    obtain ⟨he, hrest⟩ := hp
    obtain ⟨hlast, honce⟩ := hrest ((server cfg).step e w).1
    by_cases hown : OwnRows accountID db₀ e w
    · have hnext : ∀ t, (k ((server cfg).step e w).1).Only (Keeps t) ∨
          rows ((server cfg).step e w).2.db t = rows db₀ t := by
        intro t
        by_cases ht : t ∈ touches e
        · exact .inl (hlast t ht)
        · rw [rows_of_not_touches cfg hw he ht]
          exact (hfirst t).imp_left fun honly => honly.2 _
      exact (ih _ honce (hw.step e) (h.step cfg hw he hown) hnext).trans (and_iff_right hown).symm
    · refine iff_of_false (fun hend => ?_) fun hall => hown hall.1
      obtain ⟨t, ht, n, row, row', hrow, hforeign, hne, hrow'⟩ :=
        exists_changed cfg hw he hown
      have hsame : rows w.db t = rows db₀ t :=
        (hfirst t).resolve_left fun honly => honly.1.2 ht
      have hfinal := exec_row cfg (hlast t (touches_of_rewrites ht)) (hw.step e) hrow'
      have hkept := hend t n row (hsame ▸ hrow) hforeign
      exact hne (Option.some.inj (hfinal.symm.trans hkept))

end Run

/-! ## Handlers -/

section Handlers

variable (svc : DeviceServices)

/-- What the check of a key issues. -/
theorem validate_only {A : ∀ {β : Type}, ServerCmd β → Prop} {rawKey : String}
    (hlookup : A (.db (.apiKeyByHash (svc.sha256 rawKey)))) (hnow : A .now) :
    (validate svc rawKey).Only A := by
  refine ⟨hlookup, fun reply => ?_⟩
  rcases reply with e | (_ | key)
  · trivial
  · trivial
  · change Prog.Only _ (ite _ _ _)
    split_ifs
    · trivial
    · cases key.expiresAt with
      | none => trivial
      | some expiresAt =>
        refine ⟨hnow, fun now => ?_⟩
        change Prog.Only _ (ite _ _ _)
        split_ifs <;> trivial

theorem validate_reads (rawKey : String) : (validate svc rawKey).Only Reads :=
  validate_only svc ⟨trivial, rfl⟩ ⟨trivial, rfl⟩

theorem generatePassword_quiet : generatePassword.Only Quiet := by
  refine ⟨⟨trivial, rfl⟩, fun reply => ?_⟩
  cases reply <;> trivial

theorem create_quiet (deviceID : String) : (create svc deviceID).Only Quiet := by
  refine ⟨⟨trivial, rfl⟩, fun id => ?_⟩
  refine generatePassword_quiet.bind fun password => ?_
  exact ⟨⟨trivial, rfl⟩, fun now => ⟨⟨trivial, rfl⟩, fun _ => trivial⟩⟩

theorem createWithEncryptedPassword_quiet (cipher : Cipher) (deviceID : String) :
    (createWithEncryptedPassword svc cipher deviceID).Only Quiet := by
  refine ⟨⟨trivial, rfl⟩, fun id => ?_⟩
  refine generatePassword_quiet.bind fun password => ⟨⟨trivial, rfl⟩, fun nonce => ?_⟩
  cases nonce with
  | error e => trivial
  | ok nonce => exact ⟨⟨trivial, rfl⟩, fun now => ⟨⟨trivial, rfl⟩, fun _ => trivial⟩⟩

theorem withToken_quiet (accountID email : String) (fields : String → List (String × String)) :
    (withToken svc accountID email fields).Only Quiet := by
  refine ⟨⟨trivial, rfl⟩, fun now => ?_⟩
  dsimp only [Prog.bind]
  cases svc.generateToken accountID email false now <;> trivial

theorem registerFor_once (accountID : String) (req : DeviceRegisterRequest) :
    RewritesOnce (DeviceHandler.registerFor svc accountID req) := by
  refine .last trivial fun reply => ?_
  cases reply with
  | error e => trivial
  | ok =>
    refine (create_quiet svc _).bind fun reply => ?_
    cases reply with
    | error e => trivial
    | ok => exact withToken_quiet svc _ _ _

theorem register_once (body : Option DeviceRegisterRequest) :
    RewritesOnce (DeviceHandler.register svc body) := by
  cases body with
  | none => trivial
  | some req =>
    change RewritesOnce (ite _ _ (ite _ _ _))
    split_ifs
    · trivial
    · trivial
    · refine .bind_reads (validate_reads svc req.apiKey) fun reply => ?_
      rcases reply with e | (_ | key)
      · trivial
      · trivial
      · exact registerFor_once svc key.accountID req

theorem issue_quiet (cipher : Cipher) (account : Account) (req : DeviceLoginRequest)
    (deviceID : String) (isNewDevice : Bool) (device : Device) :
    (DeviceHandler.issue svc cipher account req deviceID isNewDevice device).Only Quiet := by
  refine (createWithEncryptedPassword_quiet svc cipher _).bind fun reply => ?_
  cases reply with
  | error e => trivial
  | ok => exact withToken_quiet svc _ _ _

theorem connect_once (cipher : Cipher) (account : Account) (req : DeviceLoginRequest)
    (deviceID : String) (isNewDevice : Bool) (device : Device) :
    RewritesOnce (DeviceHandler.connect svc cipher account req deviceID isNewDevice device) :=
  .bind_reads (p := Prog.call .now) ⟨⟨trivial, rfl⟩, fun _ => trivial⟩ fun _ =>
    .last trivial fun _ => issue_quiet svc cipher account req deviceID isNewDevice device

/-- The end of a login changes credentials alone. -/
theorem connect_keeps (cipher : Cipher) (account : Account) (req : DeviceLoginRequest)
    (deviceID : String) (isNewDevice : Bool) (device : Device) :
    (DeviceHandler.connect svc cipher account req deviceID isNewDevice device).Only
      (Keeps .devices) := by
  refine ⟨⟨trivial, nofun⟩, fun now => ⟨⟨trivial, nofun⟩, fun reply => ?_⟩⟩
  exact (issue_quiet svc cipher account req deviceID isNewDevice device).mono fun _ h => h.keeps _

theorem loginAs_once (cipher : Cipher) (account : Account) (req : DeviceLoginRequest) :
    RewritesOnce (DeviceHandler.loginAs svc cipher account req) := by
  refine ⟨trivial, fun reply => ⟨nofun, ?_⟩⟩
  rcases reply with e | (_ | device)
  · trivial
  · refine ⟨trivial, fun reply => ⟨fun t ht => ?_, ?_⟩⟩
    · obtain rfl : Table.devices = t := Option.some.inj ht
      cases reply with
      | error e => trivial
      | ok => exact connect_keeps svc cipher account req _ _ _
    · cases reply with
      | error e => trivial
      | ok => exact connect_once svc cipher account req _ _ _
  · refine ⟨trivial, fun now => ⟨nofun, trivial, fun reply => ⟨fun t ht => ?_, ?_⟩⟩⟩
    · obtain rfl : Table.devices = t := Option.some.inj ht
      exact connect_keeps svc cipher account req _ _ _
    · exact connect_once svc cipher account req _ _ _

theorem deviceLogin_once (body : Option DeviceLoginRequest) :
    RewritesOnce (DeviceHandler.deviceLogin svc body) := by
  cases body with
  | none => trivial
  | some req =>
    change RewritesOnce (ite _ _ _)
    split_ifs
    · trivial
    · cases svc.cipher with
      | none => trivial
      | some cipher =>
        refine ⟨trivial, fun reply => ⟨nofun, ?_⟩⟩
        rcases reply with e | (_ | account)
        · trivial
        · trivial
        · change RewritesOnce (ite _ _ (ite _ _ _))
          split_ifs
          · trivial
          · trivial
          · exact loginAs_once svc cipher account req

theorem registerDeprecated_once (who : Principal) (body : Option DeprecatedRegisterRequest) :
    RewritesOnce (DeviceHandler.registerDeprecated who body) := by
  cases body with
  | none => trivial
  | some req =>
    refine .last trivial fun reply => ?_
    cases reply <;> trivial

theorem handleDeviceInfo_once (who : Principal) (body : Option DeviceInfoRequest) :
    RewritesOnce (DeviceHandler.handleDeviceInfo who body) := by
  cases body with
  | none => trivial
  | some req =>
    change RewritesOnce (ite _ _ _)
    split_ifs
    · trivial
    · refine .last trivial fun reply => ?_
      cases reply <;> trivial

theorem revokeAPIKey_once (keyID : String) : RewritesOnce (revokeAPIKey keyID) := by
  refine ⟨trivial, fun now => ⟨nofun, ?_⟩⟩
  refine .last trivial fun reply => ?_
  cases reply <;> trivial

/-- What a report says about the device comes after what it says about the message. -/
theorem report_once {β : Type} {e : ServerCmd β} (he : DeviceCommand e)
    (htable : touches e = some .messages) (deviceID : String)
    {p : String → ServerProg (Except String Unit)}
    (hp : ∀ id, RewritesOnce (p id) ∧ (p id).Only (Keeps .messages)) :
    RewritesOnce (.act e fun _ => forDevice deviceID p) := by
  refine ⟨he, fun b => ⟨fun t ht => ?_, ?_⟩⟩
  · obtain rfl : Table.messages = t := Option.some.inj (htable ▸ ht)
    unfold forDevice
    split_ifs
    · exact (hp deviceID).2.bind fun _ => trivial
    · trivial
  · unfold forDevice
    split_ifs
    · exact (hp deviceID).1.map fun _ => ()
    · trivial

theorem updatePong_once (id : String) :
    RewritesOnce (updatePong id) ∧ (updatePong id).Only (Keeps .messages) := by
  refine ⟨⟨trivial, fun now => ⟨nofun, .last trivial fun _ => trivial⟩⟩, ?_⟩
  exact ⟨⟨trivial, nofun⟩, fun now => ⟨⟨trivial, nofun⟩, fun _ => trivial⟩⟩

theorem updateStatus_once (id : String) (status : DeviceStatus) :
    RewritesOnce (updateStatus id status) ∧ (updateStatus id status).Only (Keeps .messages) := by
  refine ⟨⟨trivial, fun now => ⟨nofun, .last trivial fun _ => trivial⟩⟩, ?_⟩
  exact ⟨⟨trivial, nofun⟩, fun now => ⟨⟨trivial, nofun⟩, fun _ => trivial⟩⟩

theorem recordReport_once (req : StatusUpdateRequest) : RewritesOnce (recordReport req) := by
  unfold recordReport
  split_ifs
  · exact ⟨trivial, fun now => ⟨nofun, report_once (by exact trivial) (by rfl) _ updatePong_once⟩⟩
  · exact report_once (by exact trivial) (by rfl) _ fun id => updateStatus_once id .offline
  · trivial

theorem mqttStatus_once (payload : Option StatusUpdateRequest) :
    RewritesOnce (Status.mqttStatus payload) := by
  cases payload with
  | none => trivial
  | some report =>
    change RewritesOnce (ite _ _ (ite _ _ _))
    split_ifs
    · exact ⟨trivial, fun now => ⟨nofun, report_once (by exact trivial) (by rfl) _ updatePong_once⟩⟩
    · exact report_once (by exact trivial) (by rfl) _ updatePong_once
    · trivial

theorem handleStatusUpdate_once (body : Option StatusUpdateRequest) :
    RewritesOnce (Status.handleStatusUpdate body) := by
  cases body with
  | none => trivial
  | some req =>
    change RewritesOnce (ite _ _ _)
    split_ifs
    · trivial
    · refine ⟨trivial, fun existing => ⟨nofun, ?_⟩⟩
      have hrecord : RewritesOnce (do
          recordReport req
          return .ok () : ServerProg (Except HttpError Unit)) :=
        (recordReport_once req).map fun _ => (.ok () : Except HttpError Unit)
      rcases existing with e | (_ | existing)
      · exact hrecord
      · exact hrecord
      · change RewritesOnce (ite _ _ _)
        split_ifs
        · trivial
        · exact hrecord

/-- **Every handler of the device endpoints changes the rows of a table once at most.** -/
theorem handle_once (req : DeviceRequest) : RewritesOnce (req.handle svc) := by
  cases req with
  | register body => exact register_once svc body
  | deviceLogin body => exact deviceLogin_once svc body
  | registerDeprecated who body => exact registerDeprecated_once who body
  | handleDeviceInfo who body => exact handleDeviceInfo_once who body
  | handleStatusUpdate who body => exact (handleStatusUpdate_once body).map _
  | mqttStatus payload => exact (mqttStatus_once payload).map _
  | revokeAPIKey who keyID => exact revokeAPIKey_once keyID

end Handlers

/-- **A request leaves the rows of the other accounts untouched exactly if it addresses rows of its
own account alone**, whatever the account and the tables are, whatever fails on the way, and
whichever endpoint of the devices the request is sent to. -/
theorem untouched_iff (svc : DeviceServices) (accountID : String) (req : DeviceRequest) (w : World)
    (hw : Alone w) :
    Untouched accountID w.db ((req.handle svc).exec (server svc.cfg) w).state.db ↔
      (req.handle svc).EachStep (server svc.cfg) (OwnRows accountID w.db) w :=
  untouched_exec_iff svc.cfg (handle_once svc req) hw (fun _ _ _ hrow _ => hrow) fun _ => .inr rfl

/-! ## A key of another account -/

/-- Services for which every text is its own digest. -/
def plainDeviceServices : DeviceServices where
  cfg := .default
  passwords := plainPasswords
  cipher := none
  sha256 := id
  generateToken accountID _ _ _ := .ok ("token of " ++ accountID)
  mqttBrokerURL := "tcp://broker:1883"
  mqttDevicePassword := "dev-device-password"

/-- A member revokes an API key. -/
def revocation (accountID keyID : String) : DeviceRequest := .revokeAPIKey ⟨accountID, false⟩ keyID

/-- A member who revokes a key of the own account changes no row of another. -/
theorem untouched_ownKey :
    Untouched "account-1" (Dispatch.onePhone []).db
      (((revocation "account-1" "key-1").handle plainDeviceServices).exec
        (server plainDeviceServices.cfg) (Dispatch.onePhone [])).state.db := by
  refine (untouched_iff plainDeviceServices "account-1" (revocation "account-1" "key-1")
    (Dispatch.onePhone []) (fun t ht => by cases ht)).2 ⟨fun _ t ht => (by cases ht), ?_, trivial⟩
  intro _ t ht row hrow _
  obtain rfl : Table.apiKeys = t := Option.some.inj ht
  obtain rfl : row = ⟨"key-1", "account-1", "hash-1", none, none⟩ := List.mem_singleton.1 hrow
  exact .inl rfl

/-- A member can revoke the key of another account. -/
theorem otherKey_touched :
    ¬ Untouched "account-2" (Dispatch.onePhone []).db
      (((revocation "account-2" "key-1").handle plainDeviceServices).exec
        (server plainDeviceServices.cfg) (Dispatch.onePhone [])).state.db := by
  intro h
  have hkept := h .apiKeys 0 ⟨"key-1", "account-1", "hash-1", none, none⟩ rfl rfl
  have hrevoked : (rows (((revocation "account-2" "key-1").handle plainDeviceServices).exec
      (server plainDeviceServices.cfg) (Dispatch.onePhone [])).state.db .apiKeys)[0]? =
        some ⟨"key-1", "account-1", "hash-1", none, some 0⟩ := by
    decide
  cases hkept.symm.trans hrevoked

end AeroxeBee.Tenants
