import AeroxeBee.Accounts.Profile
import AeroxeBee.Api.Messages
import AeroxeBee.Status.Reports

/-!
# The handlers of the device endpoints

A phone logs in with the password of an account or registers with an API key, reports what it is
and what became of its messages, and a member revokes API keys. The rows are addressed by the ids
that the request names.
-/

namespace AeroxeBee.Tenants

open Foundations Accounts Api Status

/-- What the handlers of the device endpoints are given when the server starts. -/
structure DeviceServices where
  cfg : Config
  passwords : Passwords
  cipher : Option Cipher
  /-- The digest of a text, in hexadecimal digits. -/
  sha256 : String → String
  generateToken (accountID email : String) (admin : Bool) (now : ℤ) : Except String String
  mqttBrokerURL : String
  mqttDevicePassword : String

variable (svc : DeviceServices)

/-! ## Bodies -/

/-- The body of a registration with an API key. -/
structure DeviceRegisterRequest where
  physicalDeviceID : String
  phoneNumber : String
  carrier : String
  simSlot : ℤ
  apiKey : String

/-- The body of a registration without credentials. -/
structure DeprecatedRegisterRequest where
  physicalDeviceID : String
  simSlot : ℤ
  carrier : String
  countryCode : String
  region : String

/-- The body of a login. -/
structure DeviceLoginRequest where
  email : String
  password : String
  deviceID : String
  simSlot : ℤ

/-- The body of a report about the phone. -/
structure DeviceInfoRequest where
  physicalDeviceID : String
  model : String
  osVersion : String
  appVersion : String
  batteryLevel : ℚ
  networkType : String
  deviceState : String

/-! ## Countries -/

/-- The countries by the prefix of a number; no prefix begins with another. -/
def countryPrefixes : List (String × String) :=
  [("1", "US"), ("44", "GB"), ("91", "IN"), ("86", "CN"), ("81", "JP"), ("82", "KR"), ("49", "DE"),
    ("33", "FR"), ("39", "IT"), ("34", "ES"), ("61", "AU"), ("55", "BR"), ("7", "RU"), ("52", "MX"),
    ("971", "AE"), ("855", "KH")]

/-- The region of a country. -/
def regionOf (country : String) : String :=
  if country = "US" then "NA"
  else if country ∈ ["GB", "DE", "FR", "IT", "ES", "RU"] then "EU"
  else if country ∈ ["BR", "MX"] then "LATAM"
  else "APAC"

/-- The country and the region of a phone number. -/
def detectCountryFromPhone (phone : String) : String × String :=
  if phone.utf8ByteSize < 3 then ("", "")
  else
    let digits := if phone.toList.head? = some '+' then phone.toList.tail else phone.toList
    match countryPrefixes.find? fun entry => entry.1.toList.isPrefixOf digits with
    | some (_, country) => (country, regionOf country)
    | none => ("", "")

/-! ## Services -/

/-- The id of the device in a slot of a phone. -/
def slotID (physicalDeviceID : String) (simSlot : ℤ) : String :=
  physicalDeviceID ++ "-sim" ++ toString simSlot

/-- The API key that a text is, unless it has been revoked or has expired. -/
def validate (rawKey : String) : ServerProg (Except String (Option APIKey)) := do
  match ← Prog.call (.db (.apiKeyByHash (svc.sha256 rawKey))) with
  | .error e => return .error e
  | .ok none => return .ok none
  | .ok (some key) =>
    if key.revokedAt.isSome then return .error "api key revoked"
    else
      match key.expiresAt with
      | none => return .ok (some key)
      | some expiresAt =>
        let now ← Prog.call .now
        if expiresAt < now then return .error "api key expired"
        else return .ok (some key)

/-- A random password; a failure of the generator goes unnoticed. -/
def generatePassword : ServerProg String := do
  match ← Prog.call .nonce with
  | .ok password => return password
  | .error _ => return "00000000000000000000000000000000"

/-- Store a new credential of a device. -/
def createCredential (deviceID username encrypted password : String) (id : UUID) :
    ServerProg (Except String Unit) := do
  let now ← Prog.call .now
  Prog.call (.db (.createCredential
    { id := id.text
      deviceID := deviceID
      username := username
      credentialHash := svc.sha256 password
      encryptedPassword := encrypted
      issuedAt := now
      revokedAt := none }))

/-- A new credential under a name of its own. -/
def create (deviceID : String) : ServerProg (Except String Unit) := do
  let id ← Prog.call .uuid
  let password ← generatePassword
  createCredential svc deviceID ("device-" ++ deviceID) "" password id

/-- A new credential under the id of the device, with the password to be read again. -/
def createWithEncryptedPassword (cipher : Cipher) (deviceID : String) :
    ServerProg (Except String Unit) := do
  let id ← Prog.call .uuid
  let password ← generatePassword
  match ← Prog.call .nonce with
  | .error e => return .error e
  | .ok nonce => createCredential svc deviceID deviceID (cipher.encrypt nonce password) password id

/-- Revoke the credentials of a device. -/
def revokeByDeviceID (deviceID : String) : ServerProg (Except String Unit) := do
  let now ← Prog.call .now
  Prog.call (.db (.revokeByDeviceID deviceID now))

/-- The row of a device that has just connected for the first time. -/
def newDevice (id physicalDeviceID accountID : String) (simSlot : ℤ) : Device where
  id := id
  physicalDeviceID := physicalDeviceID
  accountID := accountID
  simSlot := simSlot
  carrier := ""
  phoneNumber := ""
  name := ""
  status := .online
  simHealthStatus := .healthy
  healthTrendSlope := 0
  lastSeen := none
  lastPongAt := none
  messagesSentCount := 0
  lastUsedAt := none
  reliabilityScore := 1 / 2
  reputationScore := 1 / 2
  successRate24h := 1
  uptimeRatio24h := 1
  avgLatencyMs := 0
  countryCode := ""
  region := ""
  maxPerMinute := 10
  maxPerHour := 100
  circuitBreakerState := .closed

/-! ## Handlers -/

/-- The token that a response carries, and what else it carries. -/
def withToken (accountID email : String) (fields : String → List (String × String)) :
    ServerProg Answer := do
  let now ← Prog.call .now
  match svc.generateToken accountID email false now with
  | .error _ => return .error ⟨500, "failed to generate token"⟩
  | .ok token => return .ok (fields token)

namespace DeviceHandler

/-- A registration, once the account is known. -/
def registerFor (accountID : String) (req : DeviceRegisterRequest) : ServerProg Answer := do
  let (countryCode, region) := detectCountryFromPhone req.phoneNumber
  let deviceID := slotID req.physicalDeviceID req.simSlot
  let device :=
    { newDevice deviceID req.physicalDeviceID accountID req.simSlot with
      carrier := req.carrier
      phoneNumber := req.phoneNumber
      countryCode := countryCode
      region := region }
  match ← Prog.call (.db (.createDevice device)) with
  | .error _ => return .error ⟨500, "failed to register device"⟩
  | .ok _ =>
    match ← create svc deviceID with
    | .error _ => return .error ⟨500, "failed to create MQTT credentials"⟩
    | .ok _ =>
      withToken svc accountID "" fun token =>
        [("device_id", deviceID), ("token", token), ("mqtt_broker_url", svc.mqttBrokerURL),
          ("mqtt.username", deviceID), ("mqtt.password", svc.mqttDevicePassword)]

/-- `POST /api/v1/devices/register`. -/
def register : Option DeviceRegisterRequest → ServerProg Answer
  | none => return .error ⟨400, "invalid request body"⟩
  | some req =>
    if req.physicalDeviceID = "" then return .error ⟨400, "physical_device_id is required"⟩
    else if req.apiKey = "" then return .error ⟨400, "api_key is required"⟩
    else do
      match ← validate svc req.apiKey with
      | .error _ | .ok none => return .error ⟨401, "invalid API key"⟩
      | .ok (some key) => registerFor svc key.accountID req

/-- New credentials and a token. -/
def issue (cipher : Cipher) (account : Account) (req : DeviceLoginRequest) (deviceID : String)
    (isNewDevice : Bool) (device : Device) : ServerProg Answer := do
  match ← createWithEncryptedPassword svc cipher req.deviceID with
  | .error _ => return .error ⟨500, "failed to create MQTT credentials"⟩
  | .ok _ =>
    withToken svc account.id account.email fun token =>
      [("device_id", deviceID), ("is_new_device", toString isNewDevice), ("token", token),
        ("mqtt.broker_url", svc.mqttBrokerURL), ("mqtt.username", deviceID),
        ("mqtt.password", svc.mqttDevicePassword), ("device.id", device.id),
        ("device.name", device.name), ("device.sim_slot", toString device.simSlot),
        ("device.status", if device.status = .online then "ONLINE" else "OFFLINE"),
        ("device.carrier", device.carrier), ("account.id", account.id),
        ("account.email", account.email), ("account.name", account.name)]

/-- The end of a login: the credentials of the device are revoked, and new ones issued. -/
def connect (cipher : Cipher) (account : Account) (req : DeviceLoginRequest) (deviceID : String)
    (isNewDevice : Bool) (device : Device) : ServerProg Answer := do
  let _ ← revokeByDeviceID deviceID
  issue svc cipher account req deviceID isNewDevice device

/-- A login, once the account is known: the phone becomes a device, or the device comes on line. A
new device is in slot 1, whatever slot its id names. -/
def loginAs (cipher : Cipher) (account : Account) (req : DeviceLoginRequest) :
    ServerProg Answer := do
  let simSlot := if req.simSlot < 1 then 1 else req.simSlot
  let deviceID := slotID req.deviceID simSlot
  match ← Prog.call (.db (.deviceByID deviceID)) with
  | .error _ => return .error ⟨500, "database error"⟩
  | .ok none =>
    let device := { newDevice deviceID req.deviceID account.id 1 with name := req.deviceID }
    match ← Prog.call (.db (.createDevice device)) with
    | .error _ => return .error ⟨500, "failed to register device"⟩
    | .ok _ => connect svc cipher account req deviceID true device
  | .ok (some device) =>
    let _ ← updateStatus deviceID .online
    connect svc cipher account req deviceID false device

/-- `POST /api/v1/devices/login`. -/
def deviceLogin : Option DeviceLoginRequest → ServerProg Answer
  | none => return .error ⟨400, "invalid request body"⟩
  | some req =>
    if req.email = "" ∨ req.password = "" ∨ req.deviceID = "" then
      return .error ⟨400, "email, password, and device_id are required"⟩
    else
      match svc.cipher with
      | none => return .error ⟨500, "encryption not configured on server"⟩
      | some cipher => do
        match ← Prog.call (.db (.registry (.accountByEmail req.email))) with
        | .error _ => return .error ⟨500, "database error"⟩
        | .ok none => return .error ⟨401, "invalid email or password"⟩
        | .ok (some account) =>
          if account.status ≠ .active then
            return .error ⟨403, "account is " ++ account.status.name⟩
          else if !svc.passwords.compare account.passwordHash req.password then
            return .error ⟨401, "invalid email or password"⟩
          else loginAs svc cipher account req

/-- `POST /api/v1/devices`. -/
def registerDeprecated (who : Principal) : Option DeprecatedRegisterRequest → ServerProg Answer
  | none => return .error ⟨400, "invalid request"⟩
  | some req => do
    let deviceID := slotID req.physicalDeviceID req.simSlot
    let device :=
      { newDevice deviceID req.physicalDeviceID who.accountID req.simSlot with
        carrier := req.carrier
        countryCode := req.countryCode
        region := req.region }
    match ← Prog.call (.db (.createDevice device)) with
    | .error _ => return .error ⟨500, "failed to register device"⟩
    | .ok _ => return .ok [("device_id", deviceID), ("status", "registered")]

/-- `POST /api/v1/devices/info`. -/
def handleDeviceInfo (who : Principal) : Option DeviceInfoRequest → ServerProg Answer
  | none => return .error ⟨400, "invalid request body"⟩
  | some req =>
    if req.physicalDeviceID = "" then return .error ⟨400, "physical_device_id is required"⟩
    else do
      match ← Prog.call (.db (.upsertPhysicalDevice
        { id := req.physicalDeviceID
          accountID := who.accountID
          model := req.model
          osVersion := req.osVersion
          appVersion := req.appVersion
          batteryLevel := req.batteryLevel
          networkType := req.networkType
          deviceState := req.deviceState })) with
      | .error _ => return .error ⟨500, "failed to update device info"⟩
      | .ok _ => return .ok []

end DeviceHandler

/-- `DELETE /api/v1/account/api-keys/{id}`. -/
def revokeAPIKey (keyID : String) : ServerProg Answer := do
  let now ← Prog.call .now
  match ← Prog.call (.db (.revokeAPIKey keyID now)) with
  | .error _ => return .error ⟨500, "failed to revoke key"⟩
  | .ok _ => return .ok []

/-- The requests of devices, and the revocation of an API key. -/
inductive DeviceRequest where
  | register (body : Option DeviceRegisterRequest)
  | deviceLogin (body : Option DeviceLoginRequest)
  | registerDeprecated (who : Principal) (body : Option DeprecatedRegisterRequest)
  | handleDeviceInfo (who : Principal) (body : Option DeviceInfoRequest)
  | handleStatusUpdate (who : Principal) (body : Option StatusUpdateRequest)
  | mqttStatus (payload : Option StatusUpdateRequest)
  | revokeAPIKey (who : Principal) (keyID : String)

/-- The handler of a request. -/
def DeviceRequest.handle : DeviceRequest → ServerProg Answer
  | register body => DeviceHandler.register svc body
  | deviceLogin body => DeviceHandler.deviceLogin svc body
  | registerDeprecated who body => DeviceHandler.registerDeprecated who body
  | handleDeviceInfo who body => DeviceHandler.handleDeviceInfo who body
  | handleStatusUpdate _ body => do return (← Status.handleStatusUpdate body).map fun _ => []
  | mqttStatus payload => do
    Status.mqttStatus payload
    return .ok []
  | revokeAPIKey _ keyID => Tenants.revokeAPIKey keyID

end AeroxeBee.Tenants
