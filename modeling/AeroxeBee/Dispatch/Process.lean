import AeroxeBee.Dispatch.Fraud
import AeroxeBee.Dispatch.Routing

/-!
# Processing a message

The handler of the queue consumers. `processMessage` first chooses devices (`candidates`), then
goes through them (`sendLoop`) until one has been sent the command. For each device `attempt`
checks the circuit breaker, the rates (`checkRates`) and the SIM card (`checkHealth`), and then
publishes the command (`trySend`).
-/

namespace AeroxeBee.Dispatch

open Foundations

/-! ## Services -/

/-- The devices that pass a filter. -/
def getEligibleDevices (opts : DeviceFilterOptions) :
    ServerProg (Except String (List Device)) := do
  match ← Prog.call (.db (.eligibleDevices opts)) with
  | .error e => return .error ("query devices: " ++ e)
  | .ok devices => return .ok devices

/-- The costs of some devices; a device without a profile has a default cost. -/
def getCostMap : List String → ServerProg (Except String (List (String × ℚ)))
  | [] => return .ok []
  | id :: ids => do
    match ← Prog.call (.db (.deviceCostProfile id)) with
    | .error e => return .error e
    | .ok profile =>
      let cost := match profile with
        | some p => p.simCostPerSMS * p.regionCostMultiplier
        | none => 1 / 100
      match ← getCostMap ids with
      | .error e => return .error e
      | .ok costMap => return .ok ((id, cost) :: costMap)

/-- Count a message of an account today. -/
def incrementUsage (accountID : String) : ServerProg (Except String Unit) := do
  let now ← Prog.call .now
  Prog.call (.db (.incrementUsage accountID (now / 86400000000000)))

/-- The topic on which a device receives its commands. -/
def commandTopic (deviceID : String) : String := "devices/" ++ deviceID ++ "/commands"

/-- Tell a device to send a message. -/
def sendSMSCommand (deviceID msgID accountID recipient message priority : String) :
    ServerProg (Except String Unit) := do
  let now ← Prog.call .now
  Prog.call (.publish (commandTopic deviceID)
    { action := "send_sms"
      id := msgID
      accountID := accountID
      recipient := recipient
      message := message
      priority := priority
      timestamp := now / 1000000000 })

/-- The country calling codes that are known. -/
def countryPrefixes : List (String × String) :=
  [("1", "US"), ("44", "GB"), ("91", "IN"), ("86", "CN"), ("81", "JP"), ("82", "KR"), ("49", "DE"),
    ("33", "FR"), ("39", "IT"), ("34", "ES"), ("61", "AU"), ("55", "BR"), ("7", "RU"),
    ("52", "MX"), ("971", "AE"), ("855", "KH")]

/-- The country of a phone number. No calling code begins with another one, so the order in which
they are tried does not matter. -/
def detectCountryFromPhone (phone : String) : String :=
  if phone.utf8ByteSize < 3 then ""
  else
    let digits := if phone.toList.head? = some '+' then phone.toList.tail else phone.toList
    match countryPrefixes.find? fun p => p.1.toList.isPrefixOf digits with
    | some p => p.2
    | none => ""

/-! ## The choice of devices -/

variable (cfg : Config) (scan : ContentScan) (msg : QueueMessage)

/-- The filter for the devices of a message. -/
def eligibility : DeviceFilterOptions where
  accountID := msg.accountID
  status := some .online
  excludeBlocked := true
  excludeDegraded := false
  carrier := ""
  countryCode := ""
  circuitBreakerClosed := true
  limit := 10

/-- The routing options of a message. -/
def routingOptions : Selector.DeviceOptions where
  strategy := msg.routingStrategy
  recipientCountry := detectCountryFromPhone msg.recipient
  maxResults := 3
  excludeBlocked := true
  excludeDegraded := false
  requireOnline := true

/-- The devices for a message, the best first, or the reason why there is none. -/
def candidates : ServerProg (Except String (List ScoredDevice)) := do
  if ← Prog.call (.isOpen .account msg.accountID) then
    return .error ("account circuit breaker open: " ++ msg.accountID)
  else
    let result ← Fraud.analyze scan ⟨msg.accountID, msg.recipient, msg.sender, msg.message⟩
    if result.flagged then
      let flagID ← Prog.call .uuid
      let now ← Prog.call .now
      Prog.call (.addFraudFlag
        { id := flagID.text
          accountID := msg.accountID
          flagType := result.reason
          description :=
            "Message " ++ msg.id ++ " blocked by fraud detection: " ++ result.reason
          severity := "high"
          weight := result.weight
          createdAt := now })
      return .error ("fraud blocked: " ++ result.reason)
    else
      match ← getEligibleDevices (eligibility msg) with
      | .error e => return .error ("get eligible devices: " ++ e)
      | .ok [] => return .error ("no eligible devices for account " ++ msg.accountID)
      | .ok devices =>
        match ← getCostMap (devices.map Device.id) with
        | .error e => return .error ("get cost map: " ++ e)
        | .ok costMap =>
          let scored ← Selector.filterAndScore devices (routingOptions msg) costMap
          if scored.length = 0 then return .error "no device passed routing gates"
          else return .ok scored

/-! ## One device -/

/-- What came of a device: it was skipped without an error, it could not be used, or it was sent
the command. -/
inductive Attempt where
  | skipped
  | failed (err : String)
  | sent
deriving DecidableEq

/-- Whether the carrier and the device admit another message. -/
def checkRates (device : Device) : ServerProg (Except String Unit) := do
  match ← RateControl.checkGlobalThrottle "carrier" device.carrier with
  | .error e => return .error ("throttle check failed: " ++ e.text)
  | .ok false => return .error ("carrier throttled: " ++ device.carrier)
  | .ok true =>
    match ← RateControl.checkDeviceRate cfg.rateLimit device.id with
    | .error e => return .error ("rate check failed: " ++ e.text)
    | .ok false => return .error ("device rate exceeded: " ++ device.id)
    | .ok true => return .ok ()

/-- Judge the SIM card. A blocked card ends the attempt before its status is stored; any other
change is stored. -/
def checkHealth (device : Device) : ServerProg (Except String Unit) := do
  let (simStatus, slope) ← Prog.call (.evaluateDevice device.id device.simHealthStatus)
  if simStatus = .blocked then return .error ("sim blocked: " ++ device.id)
  else if simStatus ≠ device.simHealthStatus ∨ slope ≠ device.healthTrendSlope then
    let _ ← Prog.call (.db (.updateHealthStatus device.id simStatus slope))
    return .ok ()
  else return .ok ()

/-- Count a failed delivery. -/
def recordFailed (device : Device) : ServerProg Unit := do
  Prog.call (.recordFailure .device device.id)
  Prog.call (.recordDelivery device.id false)

/-- The carriers that return receipts. -/
def returnsReceipts (carrier : String) : Bool :=
  carrier = "AT&T" || carrier = "Verizon" || carrier = "T-Mobile"

/-- What the webhooks of the account are told when a device has been sent the command. -/
def deliveredPayload (result : DeliveryConf.ConfidenceResult) : WebhookPayload where
  event := "message.delivered"
  messageID := msg.id
  recipient := msg.recipient
  sender := msg.sender
  messageType := msg.messageType
  deliveryStatus := result.deliveryStatus
  confidenceScore := result.score

/-- Everything that is recorded once a device has been sent the command. Errors are only
logged. -/
def recordSent (device : Device) : ServerProg Unit := do
  Prog.call (.recordDelivery device.id true)
  let hasDeliveryReport := device.lastPongAt.isSome && decide (0 < device.successRate24h)
  let confidence := DeliveryConf.calculateFromDevice cfg.delivery device hasDeliveryReport
    (returnsReceipts device.carrier)
  let deliveredAt ← Prog.call .now
  let _ ← Prog.call
    (.db (.updateDeliveryStatus msg.id confidence.deliveryStatus confidence.score deliveredAt))
  let _ ← Prog.call (.db (.updateDeviceID msg.id device.id))
  let _ ← RateControl.incrementDeviceCounters device.id
  let _ ← RateControl.incrementGlobalThrottle "carrier" device.carrier
  let usedAt ← Prog.call .now
  let _ ← Prog.call (.db (.recordSent device.id usedAt))
  let _ ← incrementUsage msg.accountID
  Prog.call (.recordSuccess .device device.id)
  Prog.call (.dispatchWebhooks msg.accountID (deliveredPayload msg confidence))

/-- The priority of a lane on the device. -/
def priorityOf (lane : PriorityLane) : String :=
  if lane = .otp then "HIGH" else if lane = .marketing then "LOW" else "NORMAL"

/-- Publish the command and record what came of it. -/
def trySend (device : Device) : ServerProg (Except String Unit) := do
  if ← Prog.call .isConnected then
    match ← sendSMSCommand device.id msg.id msg.accountID msg.recipient msg.message
        (priorityOf msg.priority) with
    | .error e => do
      recordFailed device
      return .error ("mqtt send failed: " ++ e)
    | .ok () => do
      recordSent cfg msg device
      return .ok ()
  else
    recordFailed device
    return .error "mqtt broker not connected, cannot send SMS"

/-- The attempt with a device whose breaker lets it through. -/
def attemptClosed (device : Device) : ServerProg Attempt := do
  match ← checkRates cfg device with
  | .error e => return .failed e
  | .ok () =>
    match ← checkHealth device with
    | .error e => return .failed e
    | .ok () =>
      match ← trySend cfg msg device with
      | .error e => return .failed e
      | .ok () => return .sent

/-- The attempt with one device. An open breaker leaves no error behind. -/
def attempt (device : Device) : ServerProg Attempt := do
  if ← Prog.call (.isOpen .device device.id) then return .skipped
  else attemptClosed cfg msg device

/-! ## The message -/

/-- The loop over the chosen devices, with the last error so far. -/
def sendLoop : Option String → List ScoredDevice → ServerProg (Except String Unit)
  | none, [] => return .ok ()
  | some e, [] => return .error e
  | lastErr, scored :: rest => do
    match ← attempt cfg msg scored.device with
    | .skipped => sendLoop lastErr rest
    | .failed e => sendLoop (some e) rest
    | .sent => return .ok ()

/-- Dispatch a message. -/
def processMessage : ServerProg (Except String Unit) := do
  match ← candidates scan msg with
  | .error e => return .error e
  | .ok scored => sendLoop cfg msg none scored

end AeroxeBee.Dispatch
