import AeroxeBee.Columns
import AeroxeBee.Dispatch.Process

/-!
# The query for eligible devices

`GetEligibleDevices` glues the text of a query together: a condition for each option that is set, with a
placeholder for the argument if it has one, an order and a limit.

* `mayList_eligible_iff`: whatever options are set, the text with its arguments lists the first of the
  devices that the options admit, in the order of their scores;
* `mayList_run`: what the model of the database lists is what the text may list.
-/

namespace AeroxeBee.Dispatch

open Foundations Foundations.Selecting
open Foundations.Statement (placeholder)

/-! ## The text -/

/-- A query that is glued together, with its arguments and the number of the next one. -/
structure Building where
  query : String
  args : List Arg
  argIdx : ℕ

/-- Put a condition on an argument to the query in some cases. -/
def Building.and (b : Building) (p : Prop) [Decidable p] (pre : String) (a : Arg) : Building :=
  if p then ⟨b.query ++ " AND " ++ (pre ++ placeholder b.argIdx), b.args ++ [a], b.argIdx + 1⟩ else b

/-- Put a condition to the query in some cases. -/
def Building.andText (b : Building) (p : Prop) [Decidable p] (text : String) : Building :=
  if p then { b with query := b.query ++ " AND " ++ text } else b

/-- The text of a status. -/
def statusText : DeviceStatus → String
  | .online => "ONLINE"
  | .offline => "OFFLINE"

/-- The text of a health of a SIM card. -/
def healthText : SIMHealthStatus → String
  | .healthy => "HEALTHY"
  | .degraded => "DEGRADED"
  | .blocked => "BLOCKED"

/-- The text of a state of a circuit breaker. -/
def breakerText : CircuitBreakerState → String
  | .closed => "CLOSED"
  | .opened => "OPEN"
  | .halfOpen => "HALF_OPEN"

/-- The columns that are selected, in the order in which they are read. -/
def deviceColumns : List String :=
  ["id", "physical_device_id", "account_id", "sim_slot", "carrier", "phone_number", "status",
    "sim_health_status", "health_trend_slope", "last_seen", "last_ping_at", "last_pong_at",
    "messages_sent_count", "last_used_at", "mqtt_credential_id", "reliability_score", "reputation_score",
    "complaint_count", "block_event_count", "fraud_flag_weight", "name", "success_rate_24h",
    "uptime_ratio_24h", "avg_latency_ms", "country_code", "region", "max_per_minute", "max_per_hour",
    "isolated_pool_id", "circuit_breaker_state", "created_at", "updated_at"]

/-- The query before its conditions. -/
def selectDevices : String :=
  String.join [
    "SELECT id, physical_device_id, account_id, sim_slot, carrier, phone_number, status,",
    " sim_health_status,",
    "\n\t\thealth_trend_slope, last_seen, last_ping_at, last_pong_at, messages_sent_count, last_used_at,",
    "\n\t\tmqtt_credential_id, reliability_score, reputation_score, complaint_count, block_event_count,",
    "\n\t\tfraud_flag_weight, name, success_rate_24h, uptime_ratio_24h, avg_latency_ms, country_code, region,",
    "\n\t\tmax_per_minute, max_per_hour, isolated_pool_id, circuit_breaker_state, created_at, updated_at",
    "\n\t\tFROM devices"]

/-- The query with its conditions. -/
def eligibleConditions (opts : DeviceFilterOptions) : Building :=
  let status := opts.status.elim "" statusText
  let b : Building := ⟨selectDevices ++ " WHERE " ++ "1=1", [], 1⟩
  let b := b.and (opts.accountID ≠ "") "account_id = " (.text opts.accountID)
  let b := b.and (status ≠ "") "status = " (.text status)
  let b := b.andText opts.excludeBlocked "sim_health_status != 'BLOCKED'"
  let b := b.andText opts.excludeDegraded "sim_health_status != 'DEGRADED'"
  let b := b.and (opts.carrier ≠ "") "carrier = " (.text opts.carrier)
  let b := b.and (opts.countryCode ≠ "") "country_code = " (.text opts.countryCode)
  b.andText opts.circuitBreakerClosed "circuit_breaker_state != 'OPEN'"

/-- The text that `GetEligibleDevices` sends, and the arguments. -/
def eligibleQuery (opts : DeviceFilterOptions) : String × List Arg :=
  let b := eligibleConditions opts
  (b.query ++ " ORDER BY reliability_score DESC, reputation_score DESC LIMIT " ++
    placeholder b.argIdx, b.args ++ [.int opts.limit])

/-! ## Rows -/

/-- What stands in the columns that conditions and the order are about. -/
def deviceCell (column : String) (d : Device) : Option Cell :=
  [("id", .text d.id), ("account_id", .text d.accountID), ("carrier", .text d.carrier),
    ("status", .text (statusText d.status)), ("sim_health_status", .text (healthText d.simHealthStatus)),
    ("reliability_score", .number d.reliabilityScore), ("reputation_score", .number d.reputationScore),
    ("country_code", .text d.countryCode),
    ("circuit_breaker_state", Cell.text (breakerText d.circuitBreakerState))].lookup column

/-- The table of devices. -/
def deviceRows : Source Device Cell where
  words := [.word "devices"]
  columns := deviceColumns
  cell := deviceCell

theorem isHead_selectDevices : IsHead selectDevices (columnTokens deviceColumns) [.word "devices"] [] where
  words := by
    rw [selectDevices]
    exact (lex_lines rfl (by repeat constructor) (by decide)).trans (by decide)
  what := by decide
  source := by decide

/-! ## Conditions that are glued on -/

/-- A query consists of its beginning and of the conditions that have been collected. -/
structure Building.Joins (b : Building) (head : String) (d : Where Arg) : Prop where
  query : b.query = head ++ " AND ".intercalate d.conditions
  args : b.args = d.args
  argIdx : b.argIdx = d.argIdx
  some : d.conditions ≠ []

variable {b : Building} {head : String} {d : Where Arg} {p : Prop} [Decidable p]

theorem glue_append {l : List String} (hl : l ≠ []) (text : String) :
    head ++ " AND ".intercalate l ++ " AND " ++ text = head ++ " AND ".intercalate (l ++ [text]) := by
  rw [String.intercalate_append_of_ne_nil hl (by simp), String.append_assoc, String.append_assoc]
  congr 1
  rw [← String.append_assoc]
  simp

theorem Building.Joins.and (h : b.Joins head d) (pre : String) (a : Arg) :
    (b.and p pre a).Joins head (d.addIf p (fun n => pre ++ placeholder n) a) := by
  by_cases hp : p
  · rw [Building.and, Where.addIf, if_pos hp, if_pos hp, Where.add, h.query, h.args, h.argIdx,
      glue_append h.some]
    exact ⟨rfl, rfl, rfl, by simp⟩
  · rw [Building.and, Where.addIf, if_neg hp, if_neg hp]
    exact h

theorem Building.Joins.andText (h : b.Joins head d) (text : String) :
    (b.andText p text).Joins head (d.addText p text) := by
  by_cases hp : p
  · rw [Building.andText, Where.addText, if_pos hp, if_pos hp, h.query, glue_append h.some]
    exact ⟨rfl, h.args, h.argIdx, by simp⟩
  · rw [Building.andText, Where.addText, if_neg hp, if_neg hp]
    exact h

/-- The conditions of the query, one by one. -/
def eligibleWhere (opts : DeviceFilterOptions) : Where Arg :=
  let status := opts.status.elim "" statusText
  let d : Where Arg := ⟨["1=1"], [], 1⟩
  let d := d.addIf (opts.accountID ≠ "") (fun n => "account_id = " ++ placeholder n)
    (.text opts.accountID)
  let d := d.addIf (status ≠ "") (fun n => "status = " ++ placeholder n) (.text status)
  let d := d.addText opts.excludeBlocked "sim_health_status != 'BLOCKED'"
  let d := d.addText opts.excludeDegraded "sim_health_status != 'DEGRADED'"
  let d := d.addIf (opts.carrier ≠ "") (fun n => "carrier = " ++ placeholder n) (.text opts.carrier)
  let d := d.addIf (opts.countryCode ≠ "") (fun n => "country_code = " ++ placeholder n)
    (.text opts.countryCode)
  d.addText opts.circuitBreakerClosed "circuit_breaker_state != 'OPEN'"

theorem eligibleConditions_joins (opts : DeviceFilterOptions) :
    (eligibleConditions opts).Joins (selectDevices ++ " WHERE ") (eligibleWhere opts) := by
  have hbegin : (⟨selectDevices ++ " WHERE " ++ "1=1", [], 1⟩ : Building).Joins
      (selectDevices ++ " WHERE ") ⟨["1=1"], [], 1⟩ :=
    ⟨by simp, rfl, rfl, by simp⟩
  exact ((((((hbegin.and _ _).and _ _).andText _).andText _).and _ _).and _ _).andText _

/-! ## What the conditions mean -/

/-- A text stands in a column. -/
def hasText (column s : String) (d : Device) : Bool := (deviceCell column d).any (· = .text s)

/-- Another text stands in a column. -/
def hasOther (column s : String) (d : Device) : Bool := (deviceCell column d).any (· ≠ .text s)

/-- What the conditions ask of a device, one by one. -/
def eligibleTests (opts : DeviceFilterOptions) : List (Device → Bool) :=
  let status := opts.status.elim "" statusText
  [fun _ => true] ++ (if opts.accountID ≠ "" then [hasText "account_id" opts.accountID] else []) ++
    (if status ≠ "" then [hasText "status" status] else []) ++
    (if opts.excludeBlocked then [hasOther "sim_health_status" "BLOCKED"] else []) ++
    (if opts.excludeDegraded then [hasOther "sim_health_status" "DEGRADED"] else []) ++
    (if opts.carrier ≠ "" then [hasText "carrier" opts.carrier] else []) ++
    (if opts.countryCode ≠ "" then [hasText "country_code" opts.countryCode] else []) ++
    (if opts.circuitBreakerClosed then [hasOther "circuit_breaker_state" "OPEN"] else [])

section Meaning

variable (collate : String → String → Bool) (lower : String → String)

/-- A column of texts is compared with an argument. -/
theorem means_hasText {pre column : String} (hpre : IsPrefix pre column .eq)
    (hcolumn : column ∈ deviceColumns) (htimes : holdsTimes column = false) (s : String) :
    Means deviceRows (values collate lower) (fun n => pre ++ placeholder n) (.text s)
      (hasText column s) :=
  Means.arg hpre hcolumn (by simp [values, htimes])

/-- A column is compared with a text. -/
theorem means_hasOther {pre post column w : String} (hpre : IsPrefix pre column .ne)
    (hcolumn : column ∈ deviceColumns)
    (hlex : lex post = [.sign quote, .word w, .sign quote]) (hw : w ≠ "AND" ∧ w ≠ "ORDER") :
    MeansAlways deviceRows (values collate lower) (pre ++ post) (hasOther column w) :=
  MeansAlways.compare hpre hlex hw hcolumn

/-- **The conditions ask this of devices**, whatever options are set. -/
theorem eligibleWhere_selects (opts : DeviceFilterOptions) :
    (eligibleWhere opts).Selects deviceRows (values collate lower) (eligibleTests opts) := by
  have hblocked : MeansAlways deviceRows (values collate lower) ("sim_health_status != " ++ "'BLOCKED'")
      (hasOther "sim_health_status" "BLOCKED") :=
    means_hasOther collate lower (isPrefix_plain (by decide) (by decide) (by decide)) (by decide)
      (by decide) (by decide)
  have hdegraded : MeansAlways deviceRows (values collate lower) ("sim_health_status != " ++ "'DEGRADED'")
      (hasOther "sim_health_status" "DEGRADED") :=
    means_hasOther collate lower (isPrefix_plain (by decide) (by decide) (by decide)) (by decide)
      (by decide) (by decide)
  have hopen : MeansAlways deviceRows (values collate lower) ("circuit_breaker_state != " ++ "'OPEN'")
      (hasOther "circuit_breaker_state" "OPEN") :=
    means_hasOther collate lower (isPrefix_plain (by decide) (by decide) (by decide)) (by decide)
      (by decide) (by decide)
  have heq : ∀ {pre column : String}, lex pre = [.word column, .sign '='] → EndsApart pre →
      (column ≠ "1" ∧ column ≠ "AND" ∧ column ≠ "ORDER") → column ∈ deviceColumns →
      holdsTimes column = false → ∀ s, Means deviceRows (values collate lower)
        (fun n => pre ++ placeholder n) (.text s) (hasText column s) :=
    fun hlex hend hne hmem htimes s =>
      means_hasText collate lower (isPrefix_plain hlex hend hne) hmem htimes s
  exact ((((((Where.Selects.always.addIf fun _ =>
    heq (by decide) (by decide) (by decide) (by decide) (by decide) _).addIf fun _ =>
    heq (by decide) (by decide) (by decide) (by decide) (by decide) _).addText hblocked).addText
    hdegraded).addIf fun _ =>
    heq (by decide) (by decide) (by decide) (by decide) (by decide) _).addIf fun _ =>
    heq (by decide) (by decide) (by decide) (by decide) (by decide) _).addText hopen

end Meaning

/-- What is asked by a condition that is put in some cases. -/
theorem all_ite (p : Prop) [Decidable p] (f : Device → Bool) (d : Device) :
    ((if p then [f] else []).all fun g => g d) = (!decide p || f d) := by
  by_cases hp : p <;> simp [hp]

theorem statusText_eq_iff (a b : DeviceStatus) : statusText a = statusText b ↔ a = b := by
  cases a <;> cases b <;> decide

theorem statusText_ne_empty (a : DeviceStatus) : statusText a ≠ "" := by
  cases a <;> decide

theorem healthText_eq_iff (a b : SIMHealthStatus) : healthText a = healthText b ↔ a = b := by
  cases a <;> cases b <;> decide

theorem breakerText_eq_iff (a b : CircuitBreakerState) : breakerText a = breakerText b ↔ a = b := by
  cases a <;> cases b <;> decide

theorem hasText_text {column s t : String} {d : Device} (h : deviceCell column d = some (.text t)) :
    hasText column s d = decide (t = s) := by
  simp [hasText, h]

theorem hasOther_text {column s t : String} {d : Device} (h : deviceCell column d = some (.text t)) :
    hasOther column s d = decide (t ≠ s) := by
  simp [hasOther, h]

/-- **What the conditions ask is what the options admit.** -/
theorem all_eligibleTests (opts : DeviceFilterOptions) (d : Device) :
    ((eligibleTests opts).all fun f => f d) = opts.admits d := by
  have hstatus : ∀ s, hasText "status" s d = decide (statusText d.status = s) := fun s => hasText_text rfl
  have hblocked : hasOther "sim_health_status" "BLOCKED" d = decide (d.simHealthStatus ≠ .blocked) := by
    rw [hasOther_text rfl]
    exact decide_eq_decide.2 (healthText_eq_iff _ .blocked).not
  have hdegraded : hasOther "sim_health_status" "DEGRADED" d = decide (d.simHealthStatus ≠ .degraded) := by
    rw [hasOther_text rfl]
    exact decide_eq_decide.2 (healthText_eq_iff _ .degraded).not
  have hopen : hasOther "circuit_breaker_state" "OPEN" d = decide (d.circuitBreakerState ≠ .opened) := by
    rw [hasOther_text rfl]
    exact decide_eq_decide.2 (breakerText_eq_iff _ .opened).not
  have haccount : hasText "account_id" opts.accountID d = decide (d.accountID = opts.accountID) :=
    hasText_text rfl
  have hcarrier : hasText "carrier" opts.carrier d = decide (d.carrier = opts.carrier) := hasText_text rfl
  have hcountry : hasText "country_code" opts.countryCode d = decide (d.countryCode = opts.countryCode) :=
    hasText_text rfl
  simp only [eligibleTests, List.all_append, all_ite, haccount, hcarrier, hcountry, hblocked, hdegraded,
    hopen, hstatus, DeviceFilterOptions.admits]
  cases opts.status with
  | none => simp
  | some s =>
    have hne := statusText_ne_empty s
    have hcomm : d.status = s ↔ s = d.status := eq_comm
    simp [hne, statusText_eq_iff, hcomm]

/-- The order of the query is that of the scores. -/
theorem before_eq_ranksBefore (collate : String → String → Bool) (lower : String → String) (a b : Device) :
    Before deviceRows (values collate lower) [("reliability_score", true), ("reputation_score", true)] a b =
      a.ranksBefore b := by
  have hreliability : ∀ d : Device,
      deviceRows.cell "reliability_score" d = some (.number d.reliabilityScore) :=
    fun _ => rfl
  have hreputation : ∀ d : Device,
      deviceRows.cell "reputation_score" d = some (.number d.reputationScore) :=
    fun _ => rfl
  simp only [Before, hreliability, hreputation, cellLe, values, if_true, Device.ranksBefore]
  grind

theorem isOrder_scores : IsOrder " ORDER BY reliability_score DESC, reputation_score DESC LIMIT "
    [("reliability_score", true), ("reputation_score", true)] where
  starts := by decide
  ends := by decide
  read := ⟨[.word "reliability_score", .word "DESC", .sign ',', .word "reputation_score", .word "DESC"],
    by decide, by decide, by decide⟩

/-! ## What is listed -/

/-- The devices that the database may list: the first of those that the options admit, in the order of their
scores. Devices with the same scores may stand in any order. -/
def MayChoose (opts : DeviceFilterOptions) (devices listed : List Device) : Prop :=
  ∃ found : List Device, found.Perm (devices.filter opts.admits) ∧
    found.Pairwise (fun a b => a.ranksBefore b) ∧ listed = found.take opts.limit

/-- **The text with its arguments lists the eligible devices**, whatever options are set. -/
theorem mayList_eligible_iff (collate : String → String → Bool) (lower : String → String)
    (opts : DeviceFilterOptions) (devices listed : List Device) :
    MayList (eligibleQuery opts).1 (columnTokens deviceColumns) deviceRows (values collate lower)
      (eligibleQuery opts).2 devices listed ↔ MayChoose opts devices listed := by
  have hjoins := eligibleConditions_joins opts
  have hlists : MayList (selectDevices ++ " WHERE " ++
      " AND ".intercalate (eligibleWhere opts).conditions ++
      " ORDER BY reliability_score DESC, reputation_score DESC LIMIT " ++
      placeholder (eligibleWhere opts).argIdx) (columnTokens deviceColumns) deviceRows
      (values collate lower) ((eligibleWhere opts).args ++ [.int opts.limit]) devices listed ↔ _ :=
    (eligibleWhere_selects collate lower opts).mayList_limit
      (isHead_selectDevices.where (.inl (by decide)) (by decide)) (EndsApart.append (by decide))
      (by simp [eligibleTests]) isOrder_scores (by decide) rfl
  have htest : (fun d => (eligibleTests opts).all fun f => f d) = opts.admits :=
    funext (all_eligibleTests opts)
  have hbefore : Before deviceRows (values collate lower)
      [("reliability_score", true), ("reputation_score", true)] = Device.ranksBefore := by
    funext a b
    exact before_eq_ranksBefore collate lower a b
  simp only [eligibleQuery, hjoins.query, hjoins.args, hjoins.argIdx]
  rw [hlists, htest, hbefore]
  simp [Selecting.Part, MayChoose]

/-- What the model of the database lists is what the text may list. -/
theorem mayList_run (collate : String → String → Bool) (lower : String → String)
    (opts : DeviceFilterOptions) (db : Database) :
    ∃ listed, ((Query.eligibleDevices opts).run db).1 = .ok listed ∧
      MayList (eligibleQuery opts).1 (columnTokens deviceColumns) deviceRows (values collate lower)
        (eligibleQuery opts).2 db.devices listed := by
  refine ⟨_, rfl, (mayList_eligible_iff collate lower opts db.devices _).2 ⟨_, ?_, ?_, rfl⟩⟩
  · exact List.perm_insertionSort _ _
  · have htotal : Std.Total fun a b : Device => a.ranksBefore b := by
      constructor
      intro a b
      simp only [Device.ranksBefore]
      grind
    have htrans : IsTrans Device fun a b => a.ranksBefore b := by
      constructor
      intro a b c
      simp only [Device.ranksBefore]
      grind
    exact List.pairwise_insertionSort _ _

end AeroxeBee.Dispatch
