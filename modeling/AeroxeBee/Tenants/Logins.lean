import AeroxeBee.Runs
import AeroxeBee.Tenants.Pairing

/-!
# Logins of phones

A phone becomes a device of an account in three ways: with the password of the account, with a token
that the member shows, and with an API key. The id of the device is made from the phone and the slot
of its SIM card, but the rows are unique by phone and slot, and a row that is there already keeps its
id and its account.

* `deviceLogin_runs`, `qrLogin_runs`, `register_runs`: what a login that succeeds has done;
* `returnsDevice_iff`: when the device that is returned is there as it should be;
* `repeatable_iff`: no login leaves the one credential that it should.
-/

namespace AeroxeBee.Tenants

open Foundations Accounts Api Status Admin
open Pairing (pairingServices twoPhones)

/-! ## Logins -/

/-- A login of a phone, with a body that can be read. -/
inductive Login where
  | deviceLogin (req : DeviceLoginRequest)
  | qrLogin (req : QRLoginRequest)
  | register (req : DeviceRegisterRequest)

namespace Login

/-- The handler of a login. -/
def handle (svc : PairingServices) : Login → ServerProg Answer
  | deviceLogin req => DeviceHandler.deviceLogin svc.toDeviceServices (some req)
  | qrLogin req => QRPairingHandler.qrLogin svc (some req)
  | register req => DeviceHandler.register svc.toDeviceServices (some req)

/-- The phone that logs in. -/
def phone : Login → String
  | deviceLogin req => req.deviceID
  | qrLogin req => req.deviceID
  | register req => req.physicalDeviceID

/-- The slot that the request asks for; the first two handlers take a slot below 1 for 1. -/
def slot : Login → ℤ
  | deviceLogin req => if req.simSlot < 1 then 1 else req.simSlot
  | qrLogin req => if req.simSlot < 1 then 1 else req.simSlot
  | register req => req.simSlot

/-- The id of the device. -/
def deviceID (l : Login) : String := slotID l.phone l.slot

/-- The account that the phone logs in to. -/
def owner (svc : PairingServices) (db : Database) : Login → Option String
  | deviceLogin req => (db.registry.accounts.find? (·.email = req.email)).map (·.id)
  | qrLogin req => (db.registry.pairingTokens.find? (·.token = req.pairingToken)).map (·.accountID)
  | register req => (db.apiKeys.find? (·.keyHash = svc.sha256 req.apiKey)).map (·.accountID)

end Login

/-! ## What a login does -/

/-- A command that is no statement. -/
def Plain : {β : Type} → ServerCmd β → Prop
  | _, .db _ => False
  | _, _ => True

theorem plain_tables {β : Type} {e : ServerCmd β} {w : World} (h : Plain e) : e.tables w = w.tick.db := by
  cases e with
  | db q => exact h.elim
  | _ => rfl

theorem generatePassword_plain : generatePassword.Only Plain := by
  refine ⟨trivial, fun b => ?_⟩
  cases b <;> trivial

/-- The tables after the credentials of a device have been revoked, unless that was refused. -/
def revoking (refused : Bool) (deviceID : String) (now : ℤ) (db : Database) : Database :=
  if refused then db else ((Query.revokeByDeviceID deviceID now).run db).2

/-- A login has stored a credential and answered. -/
structure Connected (db : Database) (credDevice username deviceID : String) (fields : List (String × String))
    (db' : Database) : Prop where
  devices_eq : db'.devices = db.devices
  /-- The device of the credential exists, and the credential is the last one. -/
  credential : db.devices.any (·.id = credDevice) = true ∧ ∃ cred : MQTTCredential,
    cred.deviceID = credDevice ∧ cred.username = username ∧ cred.revokedAt = none ∧
      db'.mqttCredentials = db.mqttCredentials ++ [cred]
  device_id : fields.lookup "device_id" = some deviceID
  username : fields.lookup "mqtt.username" = some deviceID

section Spec

variable {svc : PairingServices} {w w' : World} {fields : List (String × String)}

/-- What an insertion of a credential that succeeds has done. -/
theorem insertCredential_ok {db : Database} {cred : MQTTCredential}
    (h : ((Query.createCredential cred).run db).1 = .ok ()) :
    db.devices.any (·.id = cred.deviceID) = true ∧
      ((Query.createCredential cred).run db).2 =
        { db with mqttCredentials := db.mqttCredentials ++ [cred] } := by
  simp only [Query.run, Database.insertCredential] at h ⊢
  split_ifs at h ⊢ with hunique hdevice
  · cases h
  · cases h
  · simp only [Bool.not_eq_true', Bool.not_eq_false] at hdevice
    exact ⟨hdevice, rfl⟩

theorem createCredential_runs (halone : Alone w) {credDevice username encrypted password : String}
    {id : UUID} (h : Runs svc.cfg (createCredential svc.toDeviceServices credDevice username encrypted
      password id) w (.ok ()) w') :
    Alone w' ∧ w.db.devices.any (·.id = credDevice) = true ∧ ∃ cred : MQTTCredential,
      cred.deviceID = credDevice ∧ cred.username = username ∧ cred.revokedAt = none ∧
        w'.db = { w.db with mqttCredentials := w.db.mqttCredentials ++ [cred] } := by
  unfold createCredential at h
  simp only [Prog.call_bind] at h
  obtain ⟨now, w₁, h₁, h⟩ := h.other halone rfl
  obtain ⟨u, w₂, hok, h₂, h⟩ := h.query h₁.alone fun _ => ⟨_, rfl⟩
  obtain ⟨-, rfl⟩ := Runs.ret_iff.1 h
  rw [h₁.db_eq] at hok
  obtain ⟨hdevice, hdb⟩ := insertCredential_ok hok
  rw [h₁.db_eq] at h₂
  refine ⟨h₂.alone, hdevice, ⟨id.text, credDevice, username, svc.sha256 password, encrypted, now, none⟩,
    rfl, rfl, rfl, ?_⟩
  rw [h₂.db_eq, hdb]

theorem withToken_runs (halone : Alone w) {accountID email : String}
    {shown : String → List (String × String)}
    (h : Runs svc.cfg (withToken svc.toDeviceServices accountID email shown) w (.ok fields) w') :
    w'.db = w.db ∧ ∃ token, fields = shown token := by
  unfold withToken at h
  simp only [Prog.call_bind] at h
  obtain ⟨now, w₁, h₁, h⟩ := h.other halone rfl
  cases hgen : svc.generateToken accountID email false now with
  | error e =>
    rw [hgen] at h
    cases (Runs.ret_iff.1 h).1
  | ok token =>
    rw [hgen] at h
    obtain ⟨hval, rfl⟩ := Runs.ret_iff.1 h
    exact ⟨h₁.db_eq, token, Except.ok.inj hval⟩

theorem createWithEncryptedPassword_runs (halone : Alone w) {cipher : Cipher} {credDevice : String}
    (h : Runs svc.cfg (createWithEncryptedPassword svc.toDeviceServices cipher credDevice) w (.ok ())
      w') :
    Alone w' ∧ w.db.devices.any (·.id = credDevice) = true ∧ ∃ cred : MQTTCredential,
      cred.deviceID = credDevice ∧ cred.username = credDevice ∧ cred.revokedAt = none ∧
        w'.db = { w.db with mqttCredentials := w.db.mqttCredentials ++ [cred] } := by
  unfold createWithEncryptedPassword at h
  simp only [Prog.call_bind] at h
  obtain ⟨id, w₁, h₁, h⟩ := h.other halone rfl
  obtain ⟨password, w₂, hpassword, h⟩ := h.bind
  obtain ⟨halone₂, hdb₂⟩ := hpassword.of_only h₁.alone generatePassword_plain fun _ _ he => plain_tables he
  obtain ⟨nonce, w₃, h₃, h⟩ := h.other halone₂ rfl
  have hdb : w₃.db = w.db := h₃.db_eq.trans (hdb₂.trans h₁.db_eq)
  cases nonce with
  | error e => cases (Runs.ret_iff.1 h).1
  | ok nonce =>
    have hend := createCredential_runs h₃.alone h
    rwa [hdb] at hend

/-- **The end of a login**: the credentials of the device are revoked unless the statement is refused,
and one is stored under the id of the phone. -/
theorem connect_runs (halone : Alone w) {cipher : Cipher} {account : Account} {req : DeviceLoginRequest}
    {deviceID : String} {isNew : Bool} {device : Device}
    (h : Runs svc.cfg (DeviceHandler.connect svc.toDeviceServices cipher account req deviceID isNew
      device) w (.ok fields) w') :
    fields.lookup "account.id" = some account.id ∧ ∃ now,
      Connected (revoking (w.later 1).fault.isRefused deviceID now w.db) req.deviceID req.deviceID
        deviceID fields w'.db := by
  unfold DeviceHandler.connect revokeByDeviceID at h
  simp only [Prog.call_bind, Prog.act_bind] at h
  obtain ⟨now, w₁, h₁, h⟩ := h.other halone rfl
  obtain ⟨u, w₂, h₂, h⟩ := Runs.dropped h₁.alone h
  unfold DeviceHandler.issue at h
  obtain ⟨created, w₃, hcreated, h⟩ := Runs.bind (p := createWithEncryptedPassword _ _ _) h
  cases created with
  | error e => cases (Runs.ret_iff.1 h).1
  | ok v =>
    obtain ⟨h₃, hdevice, cred, hid, hname, hnew, hdb⟩ :=
      createWithEncryptedPassword_runs h₂.alone hcreated
    obtain ⟨hdb', token, rfl⟩ := withToken_runs h₃ h
    have hstart : w₂.db = revoking (w.later 1).fault.isRefused deviceID now w.db := by
      rw [h₂.db_eq, h₁.later, h₁.db_eq, revoking]
    rw [hstart] at hdevice hdb
    refine ⟨rfl, now, ?_, ⟨hdevice, cred, hid, hname, hnew, ?_⟩, rfl, rfl⟩
    · rw [hdb', hdb]
    · rw [hdb', hdb]

theorem revoking_devices (refused : Bool) (deviceID : String) (now : ℤ) (db : Database) :
    (revoking refused deviceID now db).devices = db.devices := by
  cases refused <;> rfl

/-- How the row of the device comes about: it is inserted, or it was there. -/
inductive Rowed (l : Login) (refused : Bool) (db : Database) (inserted : Device) :
    List Device → Prop
  | insert {devices : List Device} (hnone : db.device? l.deviceID = none)
      (hupsert : db.upsertDevice inserted = .ok devices) : Rowed l refused db inserted devices
  | wake (d : Device) (now : ℤ) (hsome : db.device? l.deviceID = some d) :
      Rowed l refused db inserted
        (if refused then db.devices
        else (db.updateDevice l.deviceID fun d => { d with status := .online, lastSeen := some now }).devices)

/-- The device that a login with a password inserts. -/
def loginDevice (accountID : String) (req : DeviceLoginRequest) (deviceID : String) : Device :=
  { newDevice deviceID req.deviceID accountID 1 with name := req.deviceID }

/-- What an insertion of a device that succeeds has done. -/
theorem createDevice_ok {db : Database} {device : Device}
    (h : ((Query.createDevice device).run db).1 = .ok ()) :
    ∃ devices, db.upsertDevice device = .ok devices ∧
      ((Query.createDevice device).run db).2 = { db with devices := devices } := by
  simp only [Query.run] at h ⊢
  cases hdevices : db.upsertDevice device with
  | error e =>
    rw [hdevices] at h
    cases h
  | ok devices => exact ⟨devices, rfl, rfl⟩

theorem updateStatus_runs {α : Type} (halone : Alone w) {deviceID : String} {status : DeviceStatus}
    {k : Except String Unit → ServerProg α} {a : α}
    (h : Runs svc.cfg (updateStatus deviceID status >>= k) w a w') :
    ∃ b now w₁, After w (if (w.later 1).fault.isRefused then w.db
        else w.db.updateDevice deviceID fun d => { d with status := status, lastSeen := some now }) 2 w₁ ∧
      Runs svc.cfg (k b) w₁ a w' := by
  unfold updateStatus at h
  simp only [Prog.call_bind, Prog.act_bind] at h
  obtain ⟨now, w₁, h₁, h⟩ := h.other halone rfl
  obtain ⟨b, w₂, h₂, h⟩ := Runs.dropped h₁.alone h
  refine ⟨b, now, w₂, ?_, h⟩
  have htrans := h₁.trans h₂
  rw [h₁.later, h₁.db_eq] at htrans
  exact htrans

/-- A login has found or inserted the row of its device, and is connected. -/
structure LoggedIn (l : Login) (w : World) (wakes : ℕ) (inserted : Device) (credDevice username : String)
    (fields : List (String × String)) (db' : Database) : Prop where
  rowed : ∃ devices, Rowed l (w.later wakes).fault.isRefused w.db inserted devices ∧ ∃ n now,
    Connected (revoking (w.later n).fault.isRefused l.deviceID now { w.db with devices := devices })
      credDevice username l.deviceID fields db'

theorem connect_loggedIn {l : Login} {w₁ : World} {n wakes : ℕ} {inserted : Device}
    {devices : List Device} (h₁ : After w { w.db with devices := devices } n w₁)
    (hrowed : Rowed l (w.later wakes).fault.isRefused w.db inserted devices) {cipher : Cipher}
    {account : Account} {req : DeviceLoginRequest} {isNew : Bool} {device : Device}
    (h : Runs svc.cfg (DeviceHandler.connect svc.toDeviceServices cipher account req l.deviceID isNew
      device) w₁ (.ok fields) w') :
    fields.lookup "account.id" = some account.id ∧
      LoggedIn l w wakes inserted req.deviceID req.deviceID fields w'.db := by
  obtain ⟨haccount, now, hconnected⟩ := connect_runs h₁.alone h
  rw [h₁.later, h₁.db_eq] at hconnected
  exact ⟨haccount, devices, hrowed, _, now, hconnected⟩

theorem wake_after {w₁ : World} {refused : Bool} {n : ℕ} {id : String} {f : Device → Device}
    (h : After w (if refused then w.db else w.db.updateDevice id f) n w₁) :
    After w { w.db with devices := if refused then w.db.devices else (w.db.updateDevice id f).devices }
      n w₁ := by
  cases refused
  · exact h
  · exact h

/-- **What a login with a password that succeeds has done.** -/
theorem deviceLogin_runs (halone : Alone w) {req : DeviceLoginRequest}
    (h : Runs svc.cfg ((Login.deviceLogin req).handle svc) w (.ok fields) w') :
    ∃ account, w.db.registry.accounts.find? (·.email = req.email) = some account ∧
      fields.lookup "account.id" = some account.id ∧
      LoggedIn (.deviceLogin req) w 3 (loginDevice account.id req (Login.deviceLogin req).deviceID)
        req.deviceID req.deviceID fields w'.db := by
  unfold Login.handle DeviceHandler.deviceLogin at h
  dsimp only at h
  split_ifs at h with hempty
  · cases (Runs.ret_iff.1 h).1
  · cases hcipher : svc.cipher with
    | none =>
      rw [hcipher] at h
      cases (Runs.ret_iff.1 h).1
    | some cipher =>
      rw [hcipher] at h
      simp only [Prog.call_bind] at h
      obtain ⟨found, w₁, hfound, h₁, h⟩ := h.query halone fun _ => ⟨_, rfl⟩
      cases found with
      | none => cases (Runs.ret_iff.1 h).1
      | some account =>
        refine ⟨account, Except.ok.inj hfound, ?_⟩
        dsimp only at h
        split_ifs at h with hactive hpassword
        · cases (Runs.ret_iff.1 h).1
        · cases (Runs.ret_iff.1 h).1
        · unfold DeviceHandler.loginAs at h
          simp only [Prog.call_bind] at h
          obtain ⟨existing, w₂, hexisting, h₂, h⟩ := h.query h₁.alone fun _ => ⟨_, rfl⟩
          have h₂ : After w w.db 2 w₂ := h₁.trans (h₁.db_eq ▸ h₂)
          rw [h₁.db_eq] at hexisting
          have hdevice : w.db.device? (Login.deviceLogin req).deviceID = existing :=
            Except.ok.inj hexisting
          cases existing with
          | none =>
            obtain ⟨u, w₃, hcreated, h₃, h⟩ := Runs.query h₂.alone h fun _ => ⟨_, rfl⟩
            rw [h₂.db_eq] at hcreated h₃
            obtain ⟨devices, hupsert, hdb⟩ := createDevice_ok hcreated
            rw [hdb] at h₃
            exact connect_loggedIn (h₂.trans h₃) (.insert hdevice hupsert) h
          | some device =>
            obtain ⟨b, now, w₃, h₃, h⟩ := updateStatus_runs h₂.alone h
            rw [h₂.later, h₂.db_eq] at h₃
            have hafter := wake_after (h₂.trans h₃)
            have hrowed : Rowed (.deviceLogin req) (w.later 3).fault.isRefused w.db
                (loginDevice account.id req (Login.deviceLogin req).deviceID) _ := .wake device now hdevice
            exact connect_loggedIn hafter hrowed h

/-- What a login has done depends on the devices and the credentials only. -/
theorem LoggedIn.of_registry {l : Login} {w₁ : World} {r : Registry} {n wakes : ℕ} {inserted : Device}
    {devices : List Device} {credDevice username : String} {db' : Database}
    (hrowed : Rowed l (w.later wakes).fault.isRefused w.db inserted devices)
    (h : ∃ now, Connected (revoking (w₁.later n).fault.isRefused l.deviceID now
      { w.db with registry := r, devices := devices }) credDevice username l.deviceID fields db')
    {m : ℕ} (hlater : w₁.later n = w.later m) :
    LoggedIn l w wakes inserted credDevice username fields db' := by
  obtain ⟨now, h⟩ := h
  rw [hlater] at h
  refine ⟨devices, hrowed, m, now, ?_⟩
  obtain ⟨hdevices, hcred, hid, hname⟩ := h
  cases hrefused : (w.later m).fault.isRefused with
  | true =>
    rw [hrefused] at hdevices hcred
    exact ⟨hdevices, hcred, hid, hname⟩
  | false =>
    rw [hrefused] at hdevices hcred
    exact ⟨hdevices, hcred, hid, hname⟩

/-- The end of a login with a token. -/
theorem qrConnect_runs (halone : Alone w) {account : Account} {req : QRLoginRequest}
    {deviceID : String} {isNew : Bool} {device : Device}
    (h : Runs svc.cfg (QRPairingHandler.connect svc account req deviceID isNew device) w (.ok fields)
      w') :
    fields.lookup "account.id" = some account.id ∧ ∃ now,
      Connected (revoking (w.later 1).fault.isRefused deviceID now w.db) req.deviceID req.deviceID
        deviceID fields w'.db := by
  unfold QRPairingHandler.connect at h
  cases hcipher : svc.cipher with
  | none =>
    rw [hcipher] at h
    obtain ⟨u, w₁, -, h⟩ := h.bind
    obtain ⟨id, w₂, -, h⟩ := h.bind
    obtain ⟨password, w₃, -, h⟩ := h.bind
    cases (Runs.ret_iff.1 h).1
  | some cipher =>
    rw [hcipher] at h
    exact connect_runs halone h

/-- The phone of a token that has been marked becomes a device of the account. -/
theorem pair_runs {w₁ : World} {n : ℕ} {r : Registry} (hr : r.accounts = w.db.registry.accounts)
    (h₁ : After w { w.db with registry := r } n w₁) {account : Account} {req : QRLoginRequest}
    (h : Runs svc.cfg (QRPairingHandler.pair svc account account.id req) w₁ (.ok fields) w') :
    fields.lookup "account.id" = some account.id ∧
      (∀ d, w.db.device? (Login.qrLogin req).deviceID = some d → d.accountID = account.id) ∧
      LoggedIn (.qrLogin req) w (n + 2)
        (QRPairingHandler.pairedDevice account.id req (Login.qrLogin req).slot) req.deviceID req.deviceID
        fields w'.db := by
  unfold QRPairingHandler.pair at h
  simp only [Prog.call_bind] at h
  obtain ⟨existing, w₂, hexisting, h₂, h⟩ := h.query h₁.alone fun _ => ⟨_, rfl⟩
  rw [h₁.db_eq] at hexisting h₂
  have h₂ : After w { w.db with registry := r } (n + 1) w₂ := h₁.trans h₂
  have hdevice : w.db.device? (Login.qrLogin req).deviceID = existing := Except.ok.inj hexisting
  rw [hdevice]
  cases existing with
  | none =>
    obtain ⟨u, w₃, hcreated, h₃, h⟩ := Runs.query h₂.alone h fun _ => ⟨_, rfl⟩
    rw [h₂.db_eq] at hcreated h₃
    obtain ⟨devices, hupsert, hdb⟩ := createDevice_ok hcreated
    have hupsert : w.db.upsertDevice
        (QRPairingHandler.pairedDevice account.id req (Login.qrLogin req).slot) = .ok devices := by
      rw [← hupsert]
      unfold Database.upsertDevice
      rw [← hr]
      rfl
    rw [hdb] at h₃
    obtain ⟨haccount, hconnected⟩ := qrConnect_runs h₃.alone h
    rw [h₃.db_eq] at hconnected
    refine ⟨haccount, fun d hd => ?_, LoggedIn.of_registry (.insert hdevice hupsert) hconnected
      ((h₂.trans h₃).later 1)⟩
    cases hd
  | some device =>
    dsimp only at h
    by_cases hother : device.accountID ≠ account.id
    · rw [if_pos hother] at h
      cases (Runs.ret_iff.1 h).1
    · rw [if_neg hother] at h
      obtain ⟨b, now, w₃, h₃, h⟩ := updateStatus_runs h₂.alone h
      rw [h₂.later, h₂.db_eq] at h₃
      obtain ⟨haccount, hconnected⟩ := qrConnect_runs h₃.alone h
      rw [h₃.db_eq] at hconnected
      refine ⟨haccount, fun d hd => ?_, LoggedIn.of_registry (r := r) (.wake device now hdevice) ?_
        ((h₂.trans h₃).later 1)⟩
      · rw [← Option.some.inj hd]
        exact not_not.1 hother
      · obtain ⟨time, hconnected⟩ := hconnected
        refine ⟨time, ?_⟩
        rw [show n + 1 + 1 = n + 2 from rfl] at hconnected
        cases hwake : (w.later (n + 2)).fault.isRefused with
        | true =>
          rw [hwake] at hconnected
          exact hconnected
        | false =>
          rw [hwake] at hconnected
          exact hconnected

/-- **What a login with a token that succeeds has done.** -/
theorem qrLogin_runs (halone : Alone w) {req : QRLoginRequest}
    (h : Runs svc.cfg ((Login.qrLogin req).handle svc) w (.ok fields) w') :
    ∃ accountID, (Login.qrLogin req).owner svc w.db = some accountID ∧
      fields.lookup "account.id" = some accountID ∧
      (∀ d, w.db.device? (Login.qrLogin req).deviceID = some d → d.accountID = accountID) ∧
      LoggedIn (.qrLogin req) w 6
        (QRPairingHandler.pairedDevice accountID req (Login.qrLogin req).slot) req.deviceID req.deviceID
        fields w'.db := by
  unfold Login.handle QRPairingHandler.qrLogin at h
  dsimp only at h
  split_ifs at h with hempty
  · cases (Runs.ret_iff.1 h).1
  · simp only [Prog.call_bind] at h
    obtain ⟨found, w₁, hfound, h₁, h⟩ := h.query halone fun _ => ⟨_, rfl⟩
    cases found with
    | none => cases (Runs.ret_iff.1 h).1
    | some row =>
      have hrow : w.db.registry.pairingTokens.find? (·.token = req.pairingToken) = some row :=
        Except.ok.inj hfound
      unfold QRPairingHandler.loginWith at h
      dsimp only at h
      split_ifs at h with hused
      · cases (Runs.ret_iff.1 h).1
      · simp only [Prog.call_bind] at h
        obtain ⟨now, w₂, h₂, h⟩ := h.other h₁.alone rfl
        split_ifs at h with hexpired
        · cases (Runs.ret_iff.1 h).1
        · obtain ⟨b, w₃, h₃, h⟩ := Runs.dropped h₂.alone h
          have h₂ : After w w.db 2 w₂ := h₁.trans (h₁.db_eq ▸ h₂)
          rw [h₂.db_eq] at h₃
          obtain ⟨r, hr, h₃⟩ : ∃ r : Registry, r.accounts = w.db.registry.accounts ∧
              After w₂ { w.db with registry := r } 1 w₃ := by
            cases hrefused : (w₂.later 0).fault.isRefused with
            | true =>
              rw [hrefused] at h₃
              exact ⟨w.db.registry, rfl, h₃⟩
            | false =>
              rw [hrefused] at h₃
              exact ⟨((RegistryQuery.markPairingToken row.id req.deviceID).run w.db.registry).2, rfl, h₃⟩
          obtain ⟨account, w₄, haccount, h₄, h⟩ := Runs.query h₃.alone h fun _ => ⟨_, rfl⟩
          rw [h₃.db_eq] at haccount h₄
          cases account with
          | none => cases (Runs.ret_iff.1 h).1
          | some account =>
            have hid : account.id = row.accountID := by
              simpa using List.find?_some (Except.ok.inj haccount)
            dsimp only at h
            split_ifs at h with hactive
            · cases (Runs.ret_iff.1 h).1
            · rw [← hid] at h
              have hafter : After w { w.db with registry := r } 4 w₄ := (h₂.trans h₃).trans h₄
              obtain ⟨hlookup, howned, hlogged⟩ := pair_runs hr hafter h
              refine ⟨account.id, ?_, hlookup, howned, hlogged⟩
              rw [Login.owner, hrow, Option.map_some, hid]

/-- The API key of a registration. -/
theorem validate_runs (halone : Alone w) {rawKey : String} {key : APIKey}
    (h : Runs svc.cfg (validate svc.toDeviceServices rawKey) w (.ok (some key)) w') :
    w.db.apiKeys.find? (·.keyHash = svc.sha256 rawKey) = some key ∧ Alone w' ∧ w'.db = w.db := by
  unfold validate at h
  simp only [Prog.call_bind] at h
  obtain ⟨found, w₁, hfound, h₁, h⟩ := h.query halone fun _ => ⟨_, rfl⟩
  rw [Except.ok.inj hfound]
  cases found with
  | none => cases (Runs.ret_iff.1 h).1
  | some row =>
    dsimp only at h
    split_ifs at h with hrevoked
    · cases (Runs.ret_iff.1 h).1
    · cases hexpires : row.expiresAt with
      | none =>
        rw [hexpires] at h
        obtain ⟨hval, rfl⟩ := Runs.ret_iff.1 h
        exact ⟨(Except.ok.inj hval).symm, h₁.alone, h₁.db_eq⟩
      | some expiresAt =>
        rw [hexpires] at h
        obtain ⟨now, w₂, h₂, h⟩ := Runs.other h₁.alone rfl h
        split_ifs at h with hexpired
        · cases (Runs.ret_iff.1 h).1
        · obtain ⟨hval, rfl⟩ := Runs.ret_iff.1 h
          exact ⟨(Except.ok.inj hval).symm, h₂.alone, h₂.db_eq.trans h₁.db_eq⟩

/-- A new credential under a name of its own. -/
theorem create_runs (halone : Alone w) {deviceID : String}
    (h : Runs svc.cfg (create svc.toDeviceServices deviceID) w (.ok ()) w') :
    Alone w' ∧ w.db.devices.any (·.id = deviceID) = true ∧ ∃ cred : MQTTCredential,
      cred.deviceID = deviceID ∧ cred.username = "device-" ++ deviceID ∧ cred.revokedAt = none ∧
        w'.db = { w.db with mqttCredentials := w.db.mqttCredentials ++ [cred] } := by
  unfold create at h
  rw [Prog.call_bind] at h
  obtain ⟨id, w₁, h₁, h⟩ := h.other halone rfl
  obtain ⟨password, w₂, hpassword, h⟩ := h.bind
  obtain ⟨halone₂, hdb₂⟩ := hpassword.of_only h₁.alone generatePassword_plain fun _ _ he => plain_tables he
  have hend := createCredential_runs halone₂ h
  rwa [hdb₂.trans h₁.db_eq] at hend

theorem registerFor_runs {w₁ : World} (halone : Alone w₁) (hdb : w₁.db = w.db) {accountID : String}
    {req : DeviceRegisterRequest}
    (h : Runs svc.cfg (DeviceHandler.registerFor svc.toDeviceServices accountID req) w₁ (.ok fields)
      w') :
    fields.lookup "account.id" = none ∧ ∃ inserted devices,
      inserted.id = (Login.register req).deviceID ∧ inserted.physicalDeviceID = req.physicalDeviceID ∧
      inserted.accountID = accountID ∧ inserted.simSlot = req.simSlot ∧ inserted.status = .online ∧
      w.db.upsertDevice inserted = .ok devices ∧
      Connected { w.db with devices := devices } (Login.register req).deviceID
        ("device-" ++ (Login.register req).deviceID) (Login.register req).deviceID fields w'.db := by
  unfold DeviceHandler.registerFor at h
  simp only [Prog.call_bind] at h
  obtain ⟨u, w₂, hcreated, h₂, h⟩ := h.query halone fun _ => ⟨_, rfl⟩
  obtain ⟨devices, hupsert, hdb₂⟩ := createDevice_ok hcreated
  rw [hdb₂, hdb] at h₂
  rw [hdb] at hupsert
  obtain ⟨created, w₃, hcreated, h⟩ := Runs.bind (p := create _ _) h
  cases created with
  | error e => cases (Runs.ret_iff.1 h).1
  | ok v =>
    obtain ⟨h₃, hdevice, cred, hid, hname, hnew, hdb₃⟩ := create_runs h₂.alone hcreated
    obtain ⟨hdb', token, rfl⟩ := withToken_runs h₃ h
    rw [h₂.db_eq] at hdevice hdb₃
    refine ⟨rfl, _, devices, rfl, rfl, rfl, rfl, rfl, hupsert, ?_, ⟨hdevice, cred, hid, hname, hnew, ?_⟩,
      rfl, rfl⟩
    · rw [hdb', hdb₃]
    · rw [hdb', hdb₃]

/-- **What a registration that succeeds has done.** -/
theorem register_runs (halone : Alone w) {req : DeviceRegisterRequest}
    (h : Runs svc.cfg ((Login.register req).handle svc) w (.ok fields) w') :
    ∃ accountID, (Login.register req).owner svc w.db = some accountID ∧
      fields.lookup "account.id" = none ∧ ∃ inserted devices,
        inserted.id = (Login.register req).deviceID ∧ inserted.physicalDeviceID = req.physicalDeviceID ∧
        inserted.accountID = accountID ∧ inserted.simSlot = req.simSlot ∧ inserted.status = .online ∧
        w.db.upsertDevice inserted = .ok devices ∧
        Connected { w.db with devices := devices } (Login.register req).deviceID
          ("device-" ++ (Login.register req).deviceID) (Login.register req).deviceID fields w'.db := by
  unfold Login.handle DeviceHandler.register at h
  dsimp only at h
  split_ifs at h with hphone hkey
  · cases (Runs.ret_iff.1 h).1
  · cases (Runs.ret_iff.1 h).1
  · obtain ⟨validated, w₁, hvalidated, h⟩ := h.bind
    cases validated with
    | error e => cases (Runs.ret_iff.1 h).1
    | ok found =>
      cases found with
      | none => cases (Runs.ret_iff.1 h).1
      | some key =>
        obtain ⟨hkey, halone₁, hdb₁⟩ := validate_runs halone hvalidated
        refine ⟨key.accountID, ?_, registerFor_runs halone₁ hdb₁ h⟩
        rw [Login.owner, hkey, Option.map_some]

end Spec

/-! ## The device that is returned -/

namespace Login

/-- Whether a row is another slot of the phone. -/
def other (l : Login) (d : Device) : Bool := d.physicalDeviceID = l.phone && d.simSlot ≠ l.slot

/-- The slot in which a new device is inserted: a login with a password always takes the first. -/
def inserted : Login → ℤ
  | deviceLogin _ => 1
  | qrLogin req => (qrLogin req).slot
  | register req => req.simSlot

/-- Whether a device that is there is set on line. The first two handlers drop an error of the
update; a registration updates the row of the phone and the slot. -/
def wakes (w : World) (d : Device) : Login → Prop
  | deviceLogin _ => (w.later 3).fault.isRefused = false
  | qrLogin _ => (w.later 6).fault.isRefused = false
  | register req => d.physicalDeviceID = req.physicalDeviceID

end Login

/-- The rows after a login are as they should be: the device is there and on line, and the other
slots of the phone are as they were. -/
structure Placed (l : Login) (accountID : String) (before after : List Device) : Prop where
  device : ∃ d ∈ after, d.id = l.deviceID ∧ d.accountID = accountID ∧ d.status = .online ∧
    d.simSlot = l.slot
  others : after.filter l.other = before.filter l.other

section Rows

variable {db : Database} {l : Login} {d inserted : Device} {accountID : String}

/-- A row in a table that has been changed row by row. -/
theorem exists_mapped {rows : List Device} (hids : (rows.map Device.id).Nodup) {f : Device → Device}
    (hf : ∀ row, (f row).id = row.id) {id : String} (hd : rows.find? (·.id = id) = some d)
    {P : Device → Prop} : (∃ row ∈ rows.map f, row.id = id ∧ P row) ↔ P (f d) := by
  have hid : d.id = id := by simpa using List.find?_some hd
  constructor
  · rintro ⟨row, hmem, hrow, hP⟩
    obtain ⟨row₀, hmem₀, rfl⟩ := List.mem_map.1 hmem
    rw [hf] at hrow
    have hfind := Database.find?_of_mem hids hmem₀
    rw [hrow, hd] at hfind
    rwa [Option.some.inj hfind]
  · exact fun hP => ⟨f d, List.mem_map_of_mem (List.mem_of_find?_eq_some hd), (hf d).trans hid, hP⟩

/-- A change of rows that are not looked at. -/
theorem filter_mapped {rows : List Device} {f : Device → Device} {p : Device → Bool}
    (hkeeps : ∀ row ∈ rows, p (f row) = p row) (hsame : ∀ row ∈ rows, p row = true → f row = row) :
    (rows.map f).filter p = rows.filter p := by
  have hfilter : rows.filter (p ∘ f) = rows.filter p := List.filter_congr hkeeps
  rw [List.filter_map, hfilter]
  refine (List.map_congr_left fun row hrow => ?_).trans (List.map_id _)
  exact hsame row (List.mem_filter.1 hrow).1 (List.mem_filter.1 hrow).2

/-- What an upsert that succeeds leaves. -/
theorem upsertDevice_ok {devices : List Device} (h : db.upsertDevice inserted = .ok devices) :
    ((∃ d ∈ db.devices, d.physicalDeviceID = inserted.physicalDeviceID ∧
        d.simSlot = inserted.simSlot) ∧
      devices = db.devices.map fun d =>
        if d.physicalDeviceID = inserted.physicalDeviceID ∧ d.simSlot = inserted.simSlot then
          { d with status := inserted.status, phoneNumber := inserted.phoneNumber }
        else d) ∨
    ((∀ d ∈ db.devices, ¬(d.physicalDeviceID = inserted.physicalDeviceID ∧
        d.simSlot = inserted.simSlot)) ∧
      (∀ d ∈ db.devices, d.id ≠ inserted.id) ∧
      devices = db.devices ++ [{ inserted with name := "" }]) := by
  unfold Database.upsertDevice at h
  dsimp only at h
  split_ifs at h with hslot hid hforeign
  · refine .inl ⟨by simpa using hslot, ?_⟩
    simpa using (Except.ok.inj h).symm
  · exact .inr ⟨by simpa using hslot, by simpa using hid, (Except.ok.inj h).symm⟩

/-- The rows after the device of a login has been set on line, unless that was refused. -/
theorem placed_wake_iff (hids : (db.devices.map Device.id).Nodup)
    (hd : db.device? l.deviceID = some d) (refused : Bool) (now : ℤ) :
    Placed l accountID db.devices
        (if refused then db.devices
        else (db.updateDevice l.deviceID fun d => { d with status := .online, lastSeen := some now }).devices) ↔
      d.accountID = accountID ∧ d.simSlot = l.slot ∧ (d.status = .online ∨ refused = false) := by
  have hid : d.id = l.deviceID := by simpa using List.find?_some hd
  cases refused with
  | true =>
    have hmapped := exists_mapped hids (f := id) (fun _ => rfl) hd
      (P := fun d => d.accountID = accountID ∧ d.status = .online ∧ d.simSlot = l.slot)
    rw [List.map_id] at hmapped
    constructor
    · intro h
      obtain ⟨haccount, hstatus, hslot⟩ := hmapped.1 h.device
      exact ⟨haccount, hslot, .inl hstatus⟩
    · rintro ⟨haccount, hslot, hstatus⟩
      have hstatus : d.status = .online := hstatus.resolve_right (by simp)
      exact ⟨hmapped.2 ⟨haccount, hstatus, hslot⟩, rfl⟩
  | false =>
    have hmapped := exists_mapped hids
      (f := fun d => if d.id = l.deviceID then { d with status := .online, lastSeen := some now } else d)
      (fun row => by split_ifs <;> rfl) hd
      (P := fun d => d.accountID = accountID ∧ d.status = .online ∧ d.simSlot = l.slot)
    rw [if_pos hid] at hmapped
    constructor
    · intro h
      obtain ⟨haccount, -, hslot⟩ := hmapped.1 h.device
      exact ⟨haccount, hslot, .inr rfl⟩
    · rintro ⟨haccount, hslot, -⟩
      refine ⟨hmapped.2 ⟨haccount, rfl, hslot⟩, filter_mapped (fun row _ => ?_) fun row hrow hother => ?_⟩
      · dsimp only
        split_ifs <;> rfl
      · dsimp only
        refine if_neg fun hrowid => ?_
        have hfind := Database.find?_of_mem hids hrow
        rw [hrowid] at hfind
        cases hfind.symm.trans hd
        simp [Login.other, hslot] at hother

/-- The rows after a new device of a login has been inserted. -/
theorem placed_insert_iff (hnone : db.device? l.deviceID = none) {devices : List Device}
    (hupsert : db.upsertDevice inserted = .ok devices) (hid : inserted.id = l.deviceID)
    (hphone : inserted.physicalDeviceID = l.phone) (haccount : inserted.accountID = accountID)
    (honline : inserted.status = .online) :
    Placed l accountID db.devices devices ↔ inserted.simSlot = l.slot ∧
      ∀ d ∈ db.devices, ¬(d.physicalDeviceID = l.phone ∧ d.simSlot = l.slot) := by
  have hnew : ∀ d ∈ db.devices, d.id ≠ l.deviceID := by
    simpa [Database.device?, List.find?_eq_none] using hnone
  rcases upsertDevice_ok hupsert with ⟨⟨d, hmem, hsame⟩, rfl⟩ | ⟨hfree, -, rfl⟩
  · constructor
    · rintro ⟨⟨row, hrow, hrowid, -⟩, -⟩
      obtain ⟨row₀, hrow₀, rfl⟩ := List.mem_map.1 hrow
      refine absurd ?_ (hnew row₀ hrow₀)
      rw [← hrowid]
      split_ifs <;> rfl
    · rintro ⟨hslot, hfree⟩
      rw [hphone, hslot] at hsame
      exact absurd hsame (hfree d hmem)
  · rw [hphone] at hfree
    constructor
    · rintro ⟨⟨row, hrow, hrowid, -, -, hslot⟩, -⟩
      rcases List.mem_append.1 hrow with hrow | hrow
      · exact absurd hrowid (hnew row hrow)
      · rw [List.mem_singleton.1 hrow] at hslot
        have hslot : inserted.simSlot = l.slot := hslot
        exact ⟨hslot, hslot ▸ hfree⟩
    · rintro ⟨hslot, -⟩
      refine ⟨⟨{ inserted with name := "" }, by simp, hid, haccount, honline, hslot⟩, ?_⟩
      simp [Login.other, hslot]

/-- The rows after a registration of a device that is there. -/
theorem placed_register_iff (hids : (db.devices.map Device.id).Nodup)
    (hd : db.device? l.deviceID = some d) {devices : List Device}
    (hupsert : db.upsertDevice inserted = .ok devices) (hid : inserted.id = l.deviceID)
    (hphone : inserted.physicalDeviceID = l.phone) (hslot : inserted.simSlot = l.slot)
    (honline : inserted.status = .online) :
    Placed l accountID db.devices devices ↔
      d.accountID = accountID ∧ d.simSlot = l.slot ∧
        (d.status = .online ∨ d.physicalDeviceID = l.phone) := by
  have hdid : d.id = l.deviceID := by simpa using List.find?_some hd
  rcases upsertDevice_ok hupsert with ⟨-, rfl⟩ | ⟨-, hnew, -⟩
  · have hmapped := exists_mapped hids
      (f := fun d => if d.physicalDeviceID = inserted.physicalDeviceID ∧ d.simSlot = inserted.simSlot then
          { d with status := inserted.status, phoneNumber := inserted.phoneNumber }
        else d)
      (fun row => by split_ifs <;> rfl) hd
      (P := fun d => d.accountID = accountID ∧ d.status = .online ∧ d.simSlot = l.slot)
    rw [hphone, hslot] at hmapped ⊢
    constructor
    · intro h
      have hrow := hmapped.1 h.device
      split_ifs at hrow with hsame
      · exact ⟨hrow.1, hrow.2.2, .inr hsame.1⟩
      · exact ⟨hrow.1, hrow.2.2, .inl hrow.2.1⟩
    · rintro ⟨haccount, hdslot, hstatus⟩
      refine ⟨hmapped.2 ?_, filter_mapped (fun row _ => ?_) fun row _ hother => ?_⟩
      · split_ifs with hsame
        · exact ⟨haccount, honline, hdslot⟩
        · exact ⟨haccount, hstatus.resolve_right fun h => hsame ⟨h, hdslot⟩, hdslot⟩
      · split_ifs <;> rfl
      · refine if_neg fun hsame => ?_
        simp [Login.other, hsame.2] at hother
  · exact absurd (hdid.trans hid.symm) (hnew d (List.mem_of_find?_eq_some hd))

end Rows

/-- A login that answered with these fields has returned a device of the account, and has left the
other slots of the phone alone. -/
def ReturnsDevice (svc : PairingServices) (l : Login) (before after : Database)
    (fields : List (String × String)) : Prop :=
  ∃ deviceID accountID, fields.lookup "device_id" = some deviceID ∧
    l.owner svc before = some accountID ∧ (fields.lookup "account.id").getD accountID = accountID ∧
    (∃ d ∈ after.devices, d.id = deviceID ∧ d.accountID = accountID ∧ d.status = .online ∧
      d.simSlot = l.slot) ∧
    after.devices.filter l.other = before.devices.filter l.other

/-- When a login that succeeds returns a device as it should. The row with the id of the device belongs
to the account, is in the slot, and is on line or set on line; or there is none, the phone has no row
for the slot either, and the new device is inserted in that slot. -/
def Sound (svc : PairingServices) (l : Login) (w : World) : Prop :=
  match w.db.device? l.deviceID with
  | some d => l.owner svc w.db = some d.accountID ∧ d.simSlot = l.slot ∧
      (d.status = .online ∨ l.wakes w d)
  | none => l.inserted = l.slot ∧
      ∀ d ∈ w.db.devices, ¬(d.physicalDeviceID = l.phone ∧ d.simSlot = l.slot)

section Returned

variable {svc : PairingServices} {w w' : World} {l : Login} {fields : List (String × String)}
  {accountID credDevice username : String} {inserted : Device}

/-- Whether the device is returned can be read off its rows. -/
theorem returnsDevice_iff_placed {before after : Database} (howner : l.owner svc before = some accountID)
    (haccount : (fields.lookup "account.id").getD accountID = accountID)
    (hdevice : fields.lookup "device_id" = some l.deviceID) :
    ReturnsDevice svc l before after fields ↔ Placed l accountID before.devices after.devices := by
  constructor
  · rintro ⟨deviceID, owner, hid, hsome, -, hrow, hothers⟩
    cases hdevice.symm.trans hid
    cases howner.symm.trans hsome
    exact ⟨hrow, hothers⟩
  · exact fun h => ⟨_, _, hdevice, howner, haccount, h.device, h.others⟩

/-- The device of a login that finds or inserts its row. -/
theorem returnsDevice_iff_of_loggedIn (hids : (w.db.devices.map Device.id).Nodup) {wakes : ℕ}
    (howner : l.owner svc w.db = some accountID)
    (haccount : fields.lookup "account.id" = some accountID)
    (h : LoggedIn l w wakes inserted credDevice username fields w'.db)
    (hwakes : ∀ d, l.wakes w d ↔ (w.later wakes).fault.isRefused = false)
    (hid : inserted.id = l.deviceID) (hphone : inserted.physicalDeviceID = l.phone)
    (hinserted : inserted.accountID = accountID) (honline : inserted.status = .online)
    (hslot : inserted.simSlot = l.inserted) :
    ReturnsDevice svc l w.db w'.db fields ↔ Sound svc l w := by
  obtain ⟨devices, hrowed, n, now, hconnected⟩ := h.rowed
  have haccount : (fields.lookup "account.id").getD accountID = accountID := by
    rw [haccount, Option.getD_some]
  rw [returnsDevice_iff_placed howner haccount hconnected.device_id, hconnected.devices_eq,
    revoking_devices, Sound, howner]
  cases hrowed with
  | insert hnone hupsert =>
    rw [hnone]
    dsimp only
    rw [placed_insert_iff hnone hupsert hid hphone hinserted honline, hslot]
  | wake d time hsome =>
    rw [hsome]
    dsimp only
    rw [placed_wake_iff hids hsome, hwakes, Option.some.injEq, eq_comm]

/-- **When a login returns a device as it should**: when the row with the id of the device belongs to
the account, is in the slot, and is on line or set on line, or when there is no such row, none for the
phone and the slot either, and the new device is inserted in that slot. -/
theorem returnsDevice_iff (hids : (w.db.devices.map Device.id).Nodup) (halone : Alone w)
    (hok : ((l.handle svc).exec (server svc.cfg) w).val = .ok fields) :
    ReturnsDevice svc l w.db ((l.handle svc).exec (server svc.cfg) w).state.db fields ↔
      Sound svc l w := by
  have hruns : Runs svc.cfg (l.handle svc) w (.ok fields) _ := ⟨hok, rfl⟩
  cases l with
  | deviceLogin req =>
    obtain ⟨account, hfound, haccount, hlogged⟩ := deviceLogin_runs halone hruns
    have howner : (Login.deviceLogin req).owner svc w.db = some account.id := by
      rw [Login.owner, hfound, Option.map_some]
    exact returnsDevice_iff_of_loggedIn hids howner haccount hlogged (fun _ => Iff.rfl) rfl rfl rfl rfl rfl
  | qrLogin req =>
    obtain ⟨accountID, howner, haccount, -, hlogged⟩ := qrLogin_runs halone hruns
    exact returnsDevice_iff_of_loggedIn hids howner haccount hlogged (fun _ => Iff.rfl) rfl rfl rfl rfl rfl
  | register req =>
    obtain ⟨accountID, howner, haccount, inserted, devices, hid, hphone, hinserted, hslot, honline,
      hupsert, hconnected⟩ := register_runs halone hruns
    have hget : (fields.lookup "account.id").getD accountID = accountID := by
      rw [haccount, Option.getD_none]
    rw [returnsDevice_iff_placed howner hget hconnected.device_id, hconnected.devices_eq, Sound,
      howner]
    cases hdevice : w.db.device? (Login.register req).deviceID with
    | none =>
      dsimp only
      rw [placed_insert_iff hdevice hupsert hid hphone hinserted honline, hslot]
      rfl
    | some d =>
      dsimp only
      rw [placed_register_iff hids hdevice hupsert hid hphone hslot honline, Option.some.injEq, eq_comm]
      rfl

end Returned

/-- A phone registers with an API key of the first account. -/
def registration : Login := .register ⟨"phone", "", "", 1, "secret"⟩

/-- A server on which the phone is a device of an account already. -/
def phoneOf (accountID : String) : World :=
  { twoPhones [] with
    db := { (twoPhones []).db with
      devices := [newDevice "phone-sim1" "phone" accountID 1]
      apiKeys := [⟨"key-1", "account-1", "secret", none, none⟩]
      registry := { (twoPhones []).db.registry with
        accounts := [memberAccount, { memberAccount with id := "account-2", email := "ravi@example.com" }] } } }

/-- What the phone is answered. -/
def registered : List (String × String) :=
  [("device_id", "phone-sim1"), ("token", "token of account-1"),
    ("mqtt_broker_url", "tcp://broker:1883"), ("mqtt.username", "phone-sim1"),
    ("mqtt.password", "dev-device-password")]

/-- The phone registers again with its account, and its device is returned. -/
theorem returnsDevice_registered :
    ReturnsDevice pairingServices registration (phoneOf "account-1").db
      ((registration.handle pairingServices).exec (server pairingServices.cfg)
        (phoneOf "account-1")).state.db registered :=
  (returnsDevice_iff (w := phoneOf "account-1") (by decide) (fun _ ht => absurd ht List.not_mem_nil)
    (by decide)).2 ⟨by decide, by decide, .inl rfl⟩

/-- The phone is a device of another account, and registers with an API key of the first: it is given
a token of the first account for a device that stays with the other. -/
theorem registered_elsewhere :
    ((registration.handle pairingServices).exec (server pairingServices.cfg)
        (phoneOf "account-2")).val = .ok registered ∧
      ¬ReturnsDevice pairingServices registration (phoneOf "account-2").db
        ((registration.handle pairingServices).exec (server pairingServices.cfg)
          (phoneOf "account-2")).state.db registered := by
  refine ⟨by decide, ?_⟩
  rintro ⟨deviceID, accountID, -, howner, -, ⟨d, hd, -, haccount, -⟩, -⟩
  have hkey : registration.owner pairingServices (phoneOf "account-2").db = some "account-1" := by
    decide
  have hrows : ∀ d ∈ ((registration.handle pairingServices).exec (server pairingServices.cfg)
      (phoneOf "account-2")).state.db.devices, d.accountID ≠ "account-1" := by decide
  cases hkey.symm.trans howner
  exact hrows d hd haccount

/-! ## The credential that a login leaves -/

/-- A request about a phone. -/
inductive PhoneRequest where
  | login (l : Login)
  | deregister (who : Principal) (deviceID : String)

/-- The handler of a request. -/
def PhoneRequest.handle (svc : PairingServices) : PhoneRequest → ServerProg Answer
  | login l => l.handle svc
  | deregister who deviceID => DeviceHandler.deregister who (some deviceID)

/-- The credentials of a device that have not been revoked. -/
def unrevoked (db : Database) (deviceID : String) : List MQTTCredential :=
  db.mqttCredentials.filter fun c => c.deviceID = deviceID ∧ c.revokedAt = none

/-- The world after some requests, one at a time. -/
def served (svc : PairingServices) (w : World) (reqs : List PhoneRequest) : World :=
  reqs.foldl (fun w r => ((r.handle svc).exec (server svc.cfg) w).state) w

/-- What a request should come to. A login succeeds and leaves one credential of the device, under the
name that it answered with; the deregistration of a device of the member leaves none. -/
def Kept (svc : PairingServices) (w : World) (r : PhoneRequest) : Prop :=
  let ran := (r.handle svc).exec (server svc.cfg) w
  match r with
  | .login l => ∃ fields username, ran.val = .ok fields ∧
      fields.lookup "mqtt.username" = some username ∧
      ∃ cred, unrevoked ran.state.db l.deviceID = [cred] ∧ cred.username = username
  | .deregister who deviceID =>
      (∃ d, w.db.device? deviceID = some d ∧ d.accountID = who.accountID) →
        ran.val.isOk = true ∧ unrevoked ran.state.db deviceID = []

/-- Every request of a sequence comes to what it should. -/
def Repeatable (svc : PairingServices) (w : World) (reqs : List PhoneRequest) : Prop :=
  ∀ n r, reqs[n]? = some r → Kept svc (served svc w (reqs.take n)) r

/-- A request that is no login. -/
def PhoneRequest.Leaves : PhoneRequest → Prop
  | login _ => False
  | deregister _ _ => True

section Credentials

variable {svc : PairingServices} {w : World}

theorem unrevoked_revoked (db : Database) (deviceID : String) (now : ℤ) :
    unrevoked ((Query.revokeByDeviceID deviceID now).run db).2 deviceID = [] := by
  simp only [unrevoked, Query.run, List.filter_eq_nil_iff, List.mem_map]
  rintro c ⟨c₀, -, rfl⟩
  split_ifs with hc
  · simp
  · simpa using hc

theorem phone_ne_slotID (phone : String) (slot : ℤ) : phone ≠ slotID phone slot := by
  intro h
  have hlength := congrArg String.length h
  simp only [slotID, String.length_append] at hlength
  have hsim : "-sim".length = 4 := rfl
  omega

/-- The credentials of the device after a login. -/
theorem unrevoked_connected {db db' : Database} {credDevice username deviceID : String}
    {fields : List (String × String)} (h : Connected db credDevice username deviceID fields db') :
    ∃ cred : MQTTCredential, cred.username = username ∧
      unrevoked db' deviceID = unrevoked db deviceID ++ if credDevice = deviceID then [cred] else [] := by
  obtain ⟨-, cred, hid, hname, hnew, hcreds⟩ := h.credential
  refine ⟨cred, hname, ?_⟩
  rw [unrevoked, hcreds, List.filter_append]
  congr 1
  by_cases hdevice : credDevice = deviceID
  · simp [hid, hnew, hdevice]
  · simp [hid, hdevice]

/-- A login that stores its credential under the id of the phone leaves the device without one. -/
theorem unrevoked_loggedIn (hcalm : Calm w) {l : Login} {wakes : ℕ} {inserted : Device}
    {username : String} {fields : List (String × String)} {db' : Database}
    (h : LoggedIn l w wakes inserted l.phone username fields db') : unrevoked db' l.deviceID = [] := by
  obtain ⟨devices, -, n, now, hconnected⟩ := h.rowed
  obtain ⟨cred, -, hcreds⟩ := unrevoked_connected hconnected
  have hexecuted : (w.later n).fault.isRefused = false := by
    rw [hcalm.fault_later]
    rfl
  have hne : l.phone ≠ l.deviceID := phone_ne_slotID l.phone l.slot
  rw [hcreds, if_neg hne, List.append_nil, hexecuted]
  exact unrevoked_revoked _ l.deviceID now

/-- **No login leaves the one credential that it should**: two handlers store it under the id of the
phone, and the third under a name that it does not answer with. -/
theorem not_kept_login (hcalm : Calm w) (l : Login) : ¬Kept svc w (.login l) := by
  rintro ⟨fields, username, hok, husername, cred, hone, hname⟩
  have hruns : Runs svc.cfg (l.handle svc) w (.ok fields) _ := ⟨hok, rfl⟩
  cases l with
  | deviceLogin req =>
    obtain ⟨account, -, -, hlogged⟩ := deviceLogin_runs hcalm.alone hruns
    cases (unrevoked_loggedIn hcalm hlogged).symm.trans hone
  | qrLogin req =>
    obtain ⟨accountID, -, -, -, hlogged⟩ := qrLogin_runs hcalm.alone hruns
    cases (unrevoked_loggedIn hcalm hlogged).symm.trans hone
  | register req =>
    obtain ⟨-, -, -, -, devices, -, -, -, -, -, -, hconnected⟩ := register_runs hcalm.alone hruns
    obtain ⟨stored, hstored, hcreds⟩ := unrevoked_connected hconnected
    rw [if_pos rfl] at hcreds
    have hlast : cred = stored := by
      have hlasts := congrArg List.getLast? (hone.symm.trans hcreds)
      simpa using hlasts
    cases hconnected.username.symm.trans husername
    rw [hlast, hstored] at hname
    have hlength := congrArg String.length hname
    rw [String.length_append] at hlength
    have hprefix : "device-".length = 7 := rfl
    omega

/-- The deregistration of a device of the member leaves it without a credential. -/
theorem kept_deregister (hcalm : Calm w) (who : Principal) (deviceID : String) :
    Kept svc w (.deregister who deviceID) := by
  rintro ⟨d, hdevice, howned⟩
  have hdevice : ((Query.deviceByID deviceID).run w.db).1 = .ok (some d) := congrArg Except.ok hdevice
  change Reaches svc.cfg ((PhoneRequest.deregister who deviceID).handle svc) w
    fun answer w' => answer.isOk = true ∧ unrevoked w'.db deviceID = []
  unfold PhoneRequest.handle DeviceHandler.deregister revokeByDeviceID updateStatus
  simp only [Prog.call_bind, Prog.act_bind]
  refine hcalm.query fun w₁ h₁ hdb₁ => ?_
  rw [hdevice]
  dsimp only
  rw [if_neg (not_not.2 howned)]
  refine h₁.other rfl fun now w₂ h₂ hdb₂ => h₂.query fun w₃ h₃ hdb₃ => ?_
  refine h₃.other rfl fun time w₄ h₄ hdb₄ => h₄.query fun w₅ _ hdb₅ => ⟨rfl, ?_⟩
  have hcredentials : w₅.db.mqttCredentials =
      ((Query.revokeByDeviceID deviceID now).run w₂.db).2.mqttCredentials := by
    rw [hdb₅, hdb₄, hdb₃]
    rfl
  change w₅.db.mqttCredentials.filter _ = []
  rw [hcredentials]
  exact unrevoked_revoked w₂.db deviceID now

theorem calm_served (hcalm : Calm w) (reqs : List PhoneRequest) : Calm (served svc w reqs) := by
  unfold served
  induction reqs generalizing w with
  | nil => exact hcalm
  | cons r rs ih => exact ih (hcalm.exec _)

/-- **When logins are repeatable**: when the sequence has no login in it. -/
theorem repeatable_iff (hcalm : Calm w) (reqs : List PhoneRequest) :
    Repeatable svc w reqs ↔ ∀ r ∈ reqs, r.Leaves := by
  constructor
  · intro h r hr
    obtain ⟨n, hn⟩ := List.mem_iff_getElem?.1 hr
    cases r with
    | login l => exact not_kept_login (calm_served hcalm _) l (h n _ hn)
    | deregister who deviceID => trivial
  · intro h n r hr
    have hleaves := h r (List.mem_of_getElem? hr)
    cases r with
    | login l => exact hleaves.elim
    | deregister who deviceID => exact kept_deregister (calm_served hcalm _) who deviceID

end Credentials

/-- A member deregisters the phone, and it has no credential. -/
theorem repeatable_deregister :
    Repeatable pairingServices (phoneOf "account-1")
      [.deregister ⟨"account-1", false⟩ "phone-sim1"] :=
  (repeatable_iff (w := phoneOf "account-1") (fun _ ht => absurd ht List.not_mem_nil) _).2 (by
    intro r hr
    rw [List.mem_singleton.1 hr]
    trivial)

/-- The phone registers twice: the second time the name of its credential is taken, and the
registration fails. -/
theorem registered_twice :
    ((registration.handle pairingServices).exec (server pairingServices.cfg)
        (served pairingServices (phoneOf "account-1") [.login registration])).val =
      .error ⟨500, "failed to create MQTT credentials"⟩ ∧
    ¬Repeatable pairingServices (phoneOf "account-1") [.login registration, .login registration] := by
  have hfails : ((registration.handle pairingServices).exec (server pairingServices.cfg)
      (served pairingServices (phoneOf "account-1") [.login registration])).val =
        .error ⟨500, "failed to create MQTT credentials"⟩ := by decide
  refine ⟨hfails, fun h => ?_⟩
  obtain ⟨fields, -, hok, -⟩ := h 1 (.login registration) rfl
  cases hfails.symm.trans hok

end AeroxeBee.Tenants
