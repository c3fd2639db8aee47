import AeroxeBee.Foundations.Prog
import AeroxeBee.Foundations.Redis
import AeroxeBee.Foundations.Upserts

/-!
# Remote configuration

The administrators change the settings of the phones, one or many at a time. `BulkUpdate` writes the
entries of a list one by one, each in a statement of its own, and stops at the first that fails.

* `exec_bulkUpdate`: what is left of the table, and what is answered;
* `bulkUpdate_allOrNothing_iff`: a list is written as a whole or not at all exactly if none of its
  statements fails, or those before the error wrote what the table held already.
-/

namespace AeroxeBee.Admin

open Foundations

/-! ## The table -/

/-- A setting of the phones. -/
structure FirebaseConfigEntry where
  configKey : String
  configValue : String
  valueType : String
  category : String
  description : String
  isSensitive : Bool
  updatedBy : Option String
  updatedByName : String
  createdAt : ℤ
  updatedAt : ℤ
deriving DecidableEq

/-- What the environment contributes to one statement. -/
structure StoreTick where
  elapsed : ℕ
  fault : Fault

/-- The table of the settings, the users who may change them, and the ticks to come. -/
structure ConfigStore where
  rows : List FirebaseConfigEntry
  users : List String
  clock : ℤ
  env : List StoreTick

/-- The tick that the next statement takes. -/
def ConfigStore.next (s : ConfigStore) : StoreTick := s.env.headD ⟨0, .none⟩

/-- What a column of at most so many characters holds of a text. Blanks in excess are cut off. -/
def varchar (n : ℕ) (s : String) : Except String String :=
  if s.length ≤ n then .ok s
  else if (s.toList.drop n).all (· = ' ') then .ok (String.ofList (s.toList.take n))
  else .error "value too long for type character varying"

/-- The columns of an entry. The user who wrote it has to exist. -/
def FirebaseConfigEntry.columns (users : List String) (e : FirebaseConfigEntry) :
    Except String FirebaseConfigEntry := do
  let configKey ← varchar 100 e.configKey
  let valueType ← varchar 20 e.valueType
  let category ← varchar 50 e.category
  let updatedByName ← varchar 255 e.updatedByName
  if e.updatedBy.all (· ∈ users) then
    return { e with
      configKey := configKey
      valueType := valueType
      category := category
      updatedByName := updatedByName }
  else
    .error "insert or update on table \"firebase_config\" violates foreign key constraint"

/-- `INSERT INTO firebase_config ... ON CONFLICT (config_key) DO UPDATE`, at a time. -/
def firebaseConfig : Writing FirebaseConfigEntry (ℤ × FirebaseConfigEntry) String where
  key := (·.configKey)
  target b := b.2.configKey
  create b := { b.2 with createdAt := b.1, updatedAt := b.1 }
  overwrite b row :=
    { b.2 with configKey := row.configKey, createdAt := row.createdAt, updatedAt := b.1 }
  key_create _ := rfl
  key_overwrite _ _ := rfl
  overwrite_overwrite _ _ _ := rfl

/-! ## The service -/

/-- What the service asks of the table. -/
inductive ConfigStatement : Type → Type
  | upsert (e : FirebaseConfigEntry) : ConfigStatement (Except String Unit)

/-- The table after an upsert that is executed, and its result. -/
def ConfigStore.upsert (e : FirebaseConfigEntry) (s : ConfigStore) :
    Except String Unit × ConfigStore :=
  match e.columns s.users with
  | .error err => (.error err, s)
  | .ok row => (.ok (), { s with rows := firebaseConfig.upsert s.rows (s.clock, row) })

/-- The table when the next statement begins. -/
def ConfigStore.tick (s : ConfigStore) : ConfigStore :=
  { s with clock := s.clock + s.next.elapsed, env := s.env.tail }

/-- The meaning of the statements. -/
def configStore : Sem ConfigStatement ConfigStore where
  step
    | .upsert e, s => s.next.fault.apply id id (ConfigStore.upsert e) s.tick

namespace FirebaseConfigService

/-- Create or update an entry. -/
def upsert (e : FirebaseConfigEntry) : Prog ConfigStatement (Except String Unit) :=
  Prog.call (.upsert e)

/-- Update entries, each in a statement of its own. -/
def bulkUpdate (entries : List FirebaseConfigEntry) (updatedBy updatedByName : String) :
    Prog ConfigStatement (Except String Unit) :=
  match entries with
  | [] => return .ok ()
  | e :: entries => do
    match ← upsert { e with updatedBy := some updatedBy, updatedByName := updatedByName } with
    | .error err => return .error ("update key " ++ e.configKey ++ ": " ++ err)
    | .ok () => bulkUpdate entries updatedBy updatedByName

end FirebaseConfigService

/-! ## What is asked of an update -/

section Updates

variable (updatedBy updatedByName : String)

/-- The columns that are written for an entry. -/
def columnsOf (users : List String) (e : FirebaseConfigEntry) : Except String FirebaseConfigEntry :=
  { e with updatedBy := some updatedBy, updatedByName := updatedByName }.columns users

/-- The table holds every entry; of those with the same key it holds the last. -/
def Stored (users : List String) (entries : List FirebaseConfigEntry)
    (rows : List FirebaseConfigEntry) : Prop :=
  ∃ writes : List (ℤ × FirebaseConfigEntry),
    List.Forall₂ (fun e b => columnsOf updatedBy updatedByName users e = .ok b.2) entries writes ∧
      ∀ key b, firebaseConfig.last writes key = some b → ∃ row ∈ rows, row.configKey = key ∧
        { row with createdAt := b.2.createdAt, updatedAt := b.2.updatedAt } = b.2

/-- **A list is written as a whole or not at all**: either every entry is stored and no error
returned, or the table is as it was and an error is returned. -/
def FirebaseConfigService.AllOrNothing (entries : List FirebaseConfigEntry) (s : ConfigStore) :
    Prop :=
  let o := (FirebaseConfigService.bulkUpdate entries updatedBy updatedByName).exec configStore s
  (o.val = .ok () ∧ Stored updatedBy updatedByName s.users entries o.state.rows) ∨
    (∃ err, o.val = .error err) ∧ o.state.rows = s.rows

/-- The statements of an update: what those that are executed write and when, and whether one of them
fails. A statement can fail because the entry does not fit into the columns, because it is not
executed, and because its result does not arrive. -/
def statements (users : List String) :
    List FirebaseConfigEntry → List StoreTick → ℤ → List (ℤ × FirebaseConfigEntry) × Bool
  | [], _, _ => ([], false)
  | e :: entries, env, clock =>
    let t := env.headD ⟨0, .none⟩
    let now := clock + t.elapsed
    match columnsOf updatedBy updatedByName users e, t.fault with
    | .error _, _ => ([], true)
    | .ok _, .refused _ => ([], true)
    | .ok row, .lost _ => ([(now, row)], true)
    | .ok row, .none =>
      let rest := statements users entries env.tail now
      ((now, row) :: rest.1, rest.2)

/-- Writes of what the table holds already. -/
structure Idle (rows : List FirebaseConfigEntry) (writes : List (ℤ × FirebaseConfigEntry)) :
    Prop where
  keys : ∀ b ∈ writes, ∃ row ∈ rows, row.configKey = b.2.configKey
  last : ∀ row ∈ rows, ∀ b, firebaseConfig.last writes row.configKey = some b →
    { b.2 with configKey := row.configKey, createdAt := row.createdAt, updatedAt := b.1 } = row

/-- No statement of an update fails, or those that are executed write what the table holds
already. -/
def Unharmed (entries : List FirebaseConfigEntry) (s : ConfigStore) : Prop :=
  let all := statements updatedBy updatedByName s.users entries s.env s.clock
  all.2 = true → Idle s.rows all.1

variable {updatedBy updatedByName}

theorem foldl_eq_self_iff_idle {rows : List FirebaseConfigEntry}
    {writes : List (ℤ × FirebaseConfigEntry)} :
    writes.foldl firebaseConfig.upsert rows = rows ↔ Idle rows writes := by
  rw [Writing.foldl_upsert_eq_self_iff]
  constructor
  · rintro ⟨hkeys, hlast⟩
    exact ⟨fun b hb => List.mem_map.1 (hkeys b hb), hlast⟩
  · rintro ⟨hkeys, hlast⟩
    exact ⟨fun b hb => List.mem_map.2 (hkeys b hb), hlast⟩

/-- **What an update leaves of the table, and what it answers.** -/
theorem exec_bulkUpdate (entries : List FirebaseConfigEntry) (s : ConfigStore) :
    let o := (FirebaseConfigService.bulkUpdate entries updatedBy updatedByName).exec configStore s
    let all := statements updatedBy updatedByName s.users entries s.env s.clock
    o.state.rows = all.1.foldl firebaseConfig.upsert s.rows ∧
      (o.val = .ok () ∧ all.2 = false ∨ (∃ err, o.val = .error err) ∧ all.2 = true) := by
  induction entries generalizing s with
  | nil => exact ⟨rfl, .inl ⟨rfl, rfl⟩⟩
  | cons e entries ih =>
    set e' := { e with updatedBy := some updatedBy, updatedByName := updatedByName } with he
    have hstep : configStore.step (.upsert e') s =
        s.next.fault.apply id id (ConfigStore.upsert e') s.tick := rfl
    have hnext : s.env.headD ⟨0, .none⟩ = s.next := rfl
    dsimp only
    rw [FirebaseConfigService.bulkUpdate, FirebaseConfigService.upsert, Prog.call_bind,
      Prog.exec_act, ← he, hstep, statements, columnsOf, ← he, hnext]
    dsimp only
    cases hcolumns : e'.columns s.users with
    | error err =>
      have hrun : ConfigStore.upsert e' s.tick = (.error err, s.tick) := by
        rw [ConfigStore.upsert, show s.tick.users = s.users from rfl, hcolumns]
      cases s.next.fault <;> simp only [Fault.apply, hrun] <;> exact ⟨rfl, .inr ⟨⟨_, rfl⟩, trivial⟩⟩
    | ok row =>
      have hrun : ConfigStore.upsert e' s.tick =
          (.ok (), { s.tick with rows := firebaseConfig.upsert s.rows (s.tick.clock, row) }) := by
        rw [ConfigStore.upsert, show s.tick.users = s.users from rfl, hcolumns]
        rfl
      cases s.next.fault with
      | refused text => exact ⟨rfl, .inr ⟨⟨_, rfl⟩, rfl⟩⟩
      | lost text =>
        simp only [Fault.apply, hrun]
        exact ⟨rfl, .inr ⟨⟨_, rfl⟩, trivial⟩⟩
      | none =>
        simp only [Fault.apply, hrun]
        exact ih { s.tick with rows := firebaseConfig.upsert s.rows (s.tick.clock, row) }

/-- An update of which no statement fails stores every entry. -/
theorem stored_of_statements (users : List String) (entries : List FirebaseConfigEntry)
    (env : List StoreTick) (clock : ℤ) (rows : List FirebaseConfigEntry)
    (h : (statements updatedBy updatedByName users entries env clock).2 = false) :
    Stored updatedBy updatedByName users entries
      ((statements updatedBy updatedByName users entries env clock).1.foldl firebaseConfig.upsert
        rows) := by
  refine ⟨(statements updatedBy updatedByName users entries env clock).1, ?_,
    fun key b hlast => ?_⟩
  · clear rows
    induction entries generalizing env clock with
    | nil => exact .nil
    | cons e entries ih =>
      rw [statements] at h ⊢
      dsimp only at h ⊢
      split at h
      · cases h
      · cases h
      · cases h
      · exact .cons ‹_› (ih _ _ h)
  · obtain ⟨row, hrow, hkey, hwritten⟩ := Writing.exists_of_last rows hlast
    refine ⟨row, hrow, hkey, ?_⟩
    rcases hwritten with rfl | ⟨row', rfl⟩
    · rfl
    · have htarget : b.2.configKey = key := Writing.target_of_last hlast
      have hkey' : row'.configKey = key := hkey
      simp only [firebaseConfig, hkey', ← htarget]

/-- **A list is written as a whole or not at all** exactly if no statement fails, or those that are
executed before the error write what the table holds already. -/
theorem bulkUpdate_allOrNothing_iff (entries : List FirebaseConfigEntry) (s : ConfigStore) :
    FirebaseConfigService.AllOrNothing updatedBy updatedByName entries s ↔
      Unharmed updatedBy updatedByName entries s := by
  obtain ⟨hrows, hval⟩ := @exec_bulkUpdate updatedBy updatedByName entries s
  unfold FirebaseConfigService.AllOrNothing Unharmed
  dsimp only
  rw [hrows]
  rcases hval with ⟨hok, hall⟩ | ⟨⟨err, herror⟩, hfails⟩
  · refine iff_of_true (.inl ⟨hok, stored_of_statements _ _ _ _ _ hall⟩) fun hfails => ?_
    rw [hall] at hfails
    cases hfails
  · rw [foldl_eq_self_iff_idle, hfails, herror]
    constructor
    · rintro (⟨hok, -⟩ | ⟨-, hidle⟩)
      · cases hok
      · exact fun _ => hidle
    · exact fun hidle => .inr ⟨⟨err, rfl⟩, hidle rfl⟩

end Updates

/-- The second of two entries does not fit into its column: an error is returned, and the first entry
is stored. -/
theorem not_allOrNothing_second_fails :
    ¬ FirebaseConfigService.AllOrNothing "admin" "admin"
      [⟨"min_app_version_code", "12", "integer", "update", "", false, none, "", 0, 0⟩,
        ⟨"max_sms_parts", "9", "a number of at most two digits", "general", "", false, none, "", 0, 0⟩]
      ⟨[], ["admin"], 1700000000, []⟩ := by
  rintro (⟨hok, -⟩ | ⟨-, hrows⟩)
  · cases hok
  · cases hrows

end AeroxeBee.Admin
