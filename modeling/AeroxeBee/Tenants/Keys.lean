import AeroxeBee.Foundations.Heeding
import AeroxeBee.Api.Checks
import AeroxeBee.Extended

/-!
# API keys

A member has API keys made and revoked, and whoever presents the text of a key acts for its account. Only
the digest of the text is stored.

* `Granting`: which rows of the table are good, and why;
* `run_authenticated`: in every run of any requests, whoever is let in with a text presents one that was
  given to a member of the account, in a key that had not been revoked since and had not expired.
-/

namespace AeroxeBee.Tenants

open Foundations Accounts Api

/-! ## Statements -/

/-- A row as the store gives it back. -/
structure NewKey where
  key : APIKey
  label : String
  scopes : List String

/-- The statement that makes keys. -/
inductive KeyStatement : Type → Type
  | insert (accountID keyHash label : String) (scopes : Option (List String)) (expiresAt : Option ℤ) :
      KeyStatement NewKey

/-- What the statement makes of the tables. The store draws the id. -/
def keyStatements : Executor KeyStatement
  | _, t, .insert accountID keyHash label scopes expiresAt, db =>
    match scopes with
    | none =>
      (.error "null value in column \"scopes\" of relation \"api_keys\" violates not-null constraint", db)
    | some scopes =>
      if 255 < label.length then
        (.error "value too long for type character varying(255)", db)
      else if db.apiKeys.any (·.id = t.uuid.text) then
        (.error "duplicate key value violates unique constraint \"api_keys_pkey\"", db)
      else if !db.registry.accounts.any (·.id = accountID) then
        (.error "insert or update on table \"api_keys\" violates foreign key constraint", db)
      else
        let key : APIKey := ⟨t.uuid.text, accountID, keyHash, expiresAt, none⟩
        (.ok ⟨key, label, scopes⟩, { db with apiKeys := db.apiKeys ++ [key] })

/-- Routines that may make keys. -/
abbrev KeyProg := Prog (Extended KeyStatement)

/-! ## Requests -/

/-- The body of a request for a key. The duration is none if the text is empty or is no duration. A list
of scopes that is left out is none. -/
structure CreateAPIKeyRequest where
  label : String
  scopes : Option (List String)
  expiresIn : Option ℤ

/-- What comes of a request. -/
inductive KeyAnswer where
  | created (rawKey : String) (key : NewKey)
  | answered (a : Answer)
  | authenticated (r : Except Response APIKey)
  | done

variable (svc : DeviceServices)

/-- Make a key. Its text is drawn at random, and is told once. -/
def generate (accountID label : String) (scopes : Option (List String)) (expiresAt : Option ℤ) :
    KeyProg (Except String (String × NewKey)) := do
  match ← Prog.call (.server .nonce) with
  | .error e => return .error ("generate key: " ++ e)
  | .ok rawKey =>
    match ← Prog.call (.statement (.insert accountID (svc.sha256 rawKey) label scopes expiresAt)) with
    | .error e => return .error ("save api key: " ++ e)
    | .ok key => return .ok (rawKey, key)

/-- When a key expires. -/
def expiry : Option ℤ → KeyProg (Option ℤ)
  | none => return none
  | some d => do
    let now ← Prog.call (.server .now)
    return some (now + d)

/-- `POST /api/v1/account/api-keys`. -/
def createAPIKey (who : Principal) (body : Option CreateAPIKeyRequest) : KeyProg KeyAnswer :=
  match body with
  | none => return .answered (.error ⟨400, "invalid request"⟩)
  | some req => do
    let expiresAt ← expiry req.expiresIn
    match ← generate svc who.accountID req.label req.scopes expiresAt with
    | .error _ => return .answered (.error ⟨500, "failed to generate key"⟩)
    | .ok (rawKey, key) => return .created rawKey key

/-- The command may delete keys, but neither makes nor changes any. -/
def SparesKeys : {β : Type} → ServerCmd β → Prop
  | _, e => ∀ w, (e.tables w).apiKeys ⊆ w.tick.db.apiKeys

/-- Requests about keys, requests that present one, and whatever else the server does. -/
inductive KeyRequest where
  | create (who : Principal) (body : Option CreateAPIKeyRequest)
  | revoke (who : Principal) (keyID : String)
  | authenticate (headers : KeyHeaders)
  | other (p : ServerProg Unit) (spares : p.Only SparesKeys)

/-- The handler of a request. -/
def KeyRequest.handle : KeyRequest → KeyProg KeyAnswer
  | .create who body => createAPIKey svc who body
  | .revoke _ keyID => .answered <$> (revokeAPIKey keyID).embed .server
  | .authenticate headers => .authenticated <$> (apiKeyAuth svc headers).embed .server
  | .other p _ => (fun _ => .done) <$> p.embed .server

/-- The server on which keys are made. -/
def keyServer (cfg : Config) : Sem (Extended KeyStatement) World := extended cfg keyStatements

/-! ## What a request issues -/

/-- A text that was drawn at random has this digest. -/
def Drawn (evs : List (Event (Extended KeyStatement))) (keyHash : String) : Prop :=
  ∃ rawKey, (⟨.server .nonce, .ok rawKey⟩ : Event (Extended KeyStatement)) ∈ evs ∧
    keyHash = svc.sha256 rawKey

/-- What a request may issue. Keys are revoked, and besides that neither made nor changed, by commands of
the server; keys are made for the account of the member that asks, with the digest of a new text. -/
def KeyRequest.Allows (r : KeyRequest) (evs : List (Event (Extended KeyStatement))) :
    {β : Type} → Extended KeyStatement β → Prop
  | _, .server (.db (.revokeAPIKey _ _)) => True
  | _, .server e => SparesKeys e
  | _, .statement (.insert accountID keyHash _ _ _) =>
    (∃ who body, r = .create who body ∧ who.accountID = accountID) ∧ Drawn svc evs keyHash

section Heeds

variable {svc} {r : KeyRequest} {evs : List (Event (Extended KeyStatement))}

theorem sparesKeys_of_reads {β : Type} {e : ServerCmd β} (he : e.Reads) : SparesKeys e := by
  intro w
  rw [he w]
  exact fun _ h => h

/-- A command of the server that spares the keys may be issued. -/
theorem allows_of_spares {β : Type} {e : ServerCmd β} (he : SparesKeys e) :
    r.Allows svc evs (.server e) := by
  cases e with
  | db q =>
    cases q with
    | revokeAPIKey id now => trivial
    | _ => exact he
  | _ => exact he

/-- A routine of the server may be performed if each of its commands may be issued. -/
theorem heeds_embed {α : Type} {p : ServerProg α} (f : α → KeyAnswer)
    (hp : p.Only fun e => ∀ evs, r.Allows svc evs (.server e)) :
    (f <$> p.embed Extended.server : KeyProg KeyAnswer).Heeds (r.Allows svc) (fun _ _ => True) evs := by
  have hembed : (p.embed Extended.server : KeyProg α).Only fun e => ∀ evs, r.Allows svc evs e :=
    hp.embed fun e he => he
  rw [← bind_pure_comp]
  exact (Prog.Heeds.performs hembed fun evs β e he => he evs).bind fun _ _ _ => trivial

theorem validate_spares (rawKey : String) :
    (validate svc rawKey).Only fun e => ∀ evs, r.Allows svc evs (.server e) := by
  have hlookup : (ServerCmd.db (.apiKeyByHash (svc.sha256 rawKey))).Reads := reads_of_query fun _ => rfl
  exact validate_only svc (fun _ => allows_of_spares (sparesKeys_of_reads hlookup))
    fun _ => allows_of_spares fun w => fun _ h => h

theorem apiKeyAuth_spares (h : KeyHeaders) :
    (apiKeyAuth svc h).Only fun e => ∀ evs, r.Allows svc evs (.server e) := by
  unfold apiKeyAuth
  dsimp only
  split_ifs
  · trivial
  · trivial
  · refine (validate_spares _).bind fun reply => ?_
    rcases reply with e | (_ | key) <;> trivial

theorem revokeAPIKey_allowed (keyID : String) :
    (revokeAPIKey keyID).Only fun e => ∀ evs, r.Allows svc evs (.server e) := by
  refine ⟨fun _ => allows_of_spares fun w => fun _ h => h, fun now => ⟨fun _ => trivial, fun reply => ?_⟩⟩
  cases reply <;> trivial

theorem createAPIKey_heeds (who : Principal) (body : Option CreateAPIKeyRequest) :
    (createAPIKey svc who body).Heeds ((KeyRequest.create who body).Allows svc) (fun _ _ => True) [] := by
  cases body with
  | none => trivial
  | some req =>
    have hexpiry : (expiry req.expiresIn).Heeds ((KeyRequest.create who (some req)).Allows svc)
        (fun _ _ => True) [] := by
      cases req.expiresIn with
      | none => trivial
      | some d => exact ⟨allows_of_spares fun w => fun _ h => h, fun _ => trivial⟩
    refine hexpiry.bind fun evs expiresAt _ => ?_
    refine ⟨allows_of_spares fun w => fun _ h => h, fun reply => ?_⟩
    rcases reply with e | rawKey
    · trivial
    · refine ⟨⟨⟨who, some req, rfl, rfl⟩, rawKey, by simp, rfl⟩, fun reply => ?_⟩
      cases reply <;> trivial

/-- **What a request has done before it makes a key**, whatever the replies are. -/
theorem handle_heeds (r : KeyRequest) :
    (r.handle svc).Heeds (r.Allows svc) (fun _ _ => True) [] := by
  cases r with
  | create who body => exact createAPIKey_heeds who body
  | revoke who keyID => exact heeds_embed _ (revokeAPIKey_allowed keyID)
  | authenticate headers => exact heeds_embed _ (apiKeyAuth_spares headers)
  | other p hp => exact heeds_embed _ (hp.mono fun e he evs => allows_of_spares he)

end Heeds

/-! ## Every run -/

section Run

variable (calls : List KeyRequest)

/-- The events of a run. -/
abbrev KeyLog := List (ℕ × Event (Extended KeyStatement))

/-- The command is a revocation. -/
def Revokes : {β : Type} → Extended KeyStatement β → Prop
  | _, .server (.db (.revokeAPIKey _ _)) => True
  | _, _ => False

/-- A revocation of a key has been answered. -/
def Revoked (log : KeyLog) (id : String) : Prop :=
  ∃ i now, (i, (⟨.server (.db (.revokeAPIKey id now)), .ok ()⟩ : Event (Extended KeyStatement))) ∈ log

/-- A member of the account has had the key made, with the digest of a text drawn by that request, and no
revocation of it has been answered since. -/
def Made (log : KeyLog) (key : APIKey) : Prop :=
  ∃ past i label scopes reply more,
    log = past ++ (i, ⟨.statement (.insert key.accountID key.keyHash label scopes key.expiresAt), reply⟩) ::
      more ∧
    (∃ who body, calls[i]? = some (.create who body) ∧ who.accountID = key.accountID) ∧
    Drawn svc (Pool.eventsOf i past) key.keyHash ∧ ¬ Revoked more key.id

/-- The key may be presented: it was there in the beginning and no revocation of it has been answered, or
it was made. -/
def Good (before : List APIKey) (log : KeyLog) (key : APIKey) : Prop :=
  key ∈ before ∧ ¬ Revoked log key.id ∨ Made svc calls log key

/-- What is told of a key is true: it has the digest that was asked for, and if it is shown as not
revoked then it may be presented. -/
def Told (before : List APIKey) (past : KeyLog) (x : ℕ × Event (Extended KeyStatement)) : Prop :=
  ∀ i keyHash key, x = (i, ⟨.server (.db (.apiKeyByHash keyHash)), .ok (some key)⟩) →
    key.keyHash = keyHash ∧ (key.revokedAt = none → Good svc calls before past key)

/-- What holds while the requests are served. -/
structure Granting (before : List APIKey) (P : Pool (Extended KeyStatement) World KeyAnswer) : Prop where
  alone : Alone P.state
  good : ∀ key ∈ P.state.db.apiKeys, key.revokedAt = none → Good svc calls before P.log key
  told : Justified (Told svc calls before) P.log

variable {svc calls} {before : List APIKey} {log past : KeyLog} {key : APIKey} {id : String}
  {P : Pool (Extended KeyStatement) World KeyAnswer} {i : ℕ} {β : Type}

theorem revoked_concat {x : ℕ × Event (Extended KeyStatement)} :
    Revoked (log ++ [x]) id ↔ Revoked log id ∨ Revoked [x] id := by
  simp only [Revoked, List.mem_append, exists_or]

/-- A key stays good as long as no revocation of it is answered. -/
theorem Good.concat {x : ℕ × Event (Extended KeyStatement)} (h : Good svc calls before log key)
    (hx : ¬ Revoked [x] key.id) : Good svc calls before (log ++ [x]) key := by
  rcases h with ⟨hmem, hnot⟩ | ⟨past, i, label, scopes, reply, more, rfl, hwho, hdrawn, hnot⟩
  · refine .inl ⟨hmem, ?_⟩
    rw [revoked_concat]
    exact not_or.2 ⟨hnot, hx⟩
  · refine .inr ⟨past, i, label, scopes, reply, more ++ [x], by simp, hwho, hdrawn, ?_⟩
    rw [revoked_concat]
    exact not_or.2 ⟨hnot, hx⟩

/-- What is no revocation revokes nothing. -/
theorem not_revoked_of {e : Extended KeyStatement β} (he : ¬ Revokes e) (b : β) (id : String) :
    ¬ Revoked [(i, (⟨e, b⟩ : Event (Extended KeyStatement)))] id := by
  rintro ⟨j, now, hmem⟩
  have hev := (Prod.mk.inj (List.mem_singleton.1 hmem)).2
  have hrevokes := congrArg (fun ev : Event (Extended KeyStatement) => Revokes ev.cmd) hev
  exact he (hrevokes.mp trivial)

/-- A revocation that fails is not answered. -/
theorem not_revoked_error {e : Extended KeyStatement (Except String Unit)} (text id : String) :
    ¬ Revoked [(i, (⟨e, .error text⟩ : Event (Extended KeyStatement)))] id := by
  rintro ⟨j, now, hmem⟩
  cases (Prod.mk.inj (List.mem_singleton.1 hmem)).2

variable {cfg : Config}

/-- A lookup tells what is in the table. -/
theorem Granting.told_step (h : Granting svc calls before P) (e : Extended KeyStatement β) :
    Told svc calls before P.log (i, ⟨e, ((keyServer cfg).step e P.state).1⟩) := by
  intro j keyHash key hx
  have hreply : ((keyServer cfg).step (.server (.db (.apiKeyByHash keyHash))) P.state).1 =
      .ok (some key) := step_of_event_eq (Prod.mk.inj hx).2.symm
  have hfind : P.state.db.apiKeys.find? (·.keyHash = keyHash) = some key :=
    Except.ok.inj (h.alone.lookup_reply hreply)
  exact ⟨by simpa using List.find?_some hfind, h.good key (List.mem_of_find?_eq_some hfind)⟩

/-- A command after which the good keys are still good. -/
theorem Granting.advance_of (h : Granting svc calls before P) (e : Extended KeyStatement β)
    (k : β → KeyProg KeyAnswer)
    (hgood : ∀ key ∈ ((keyServer cfg).step e P.state).2.db.apiKeys, key.revokedAt = none →
      Good svc calls before (P.log ++ [(i, ⟨e, ((keyServer cfg).step e P.state).1⟩)]) key) :
    Granting svc calls before (P.advance (keyServer cfg) i e k) :=
  ⟨h.alone.step_extended _, hgood, h.told.concat (h.told_step e)⟩

theorem Granting.spares (h : Granting svc calls before P) {e : ServerCmd β} (he : SparesKeys e)
    (hother : ¬ Revokes (.server e : Extended KeyStatement β)) (k : β → KeyProg KeyAnswer) :
    Granting svc calls before (P.advance (keyServer cfg) i (.server e) k) := by
  refine h.advance_of _ _ fun key hkey hlive => ?_
  have hmem : key ∈ (e.tables P.state).apiKeys := by
    rw [← step_db cfg]
    exact hkey
  have hold := he P.state hmem
  rw [h.alone.tick_db] at hold
  exact (h.good key hold hlive).concat (not_revoked_of hother _ _)

/-- A key that is shown as not revoked after the revocation of another is a key of before. -/
theorem mem_of_mem_revoked {id : String} {now : ℤ} {db : Database}
    (h : key ∈ ((Query.revokeAPIKey id now).run db).2.apiKeys) (hlive : key.revokedAt = none) :
    key ∈ db.apiKeys ∧ key.id ≠ id := by
  obtain ⟨old, hold, rfl⟩ := List.mem_map.1 h
  by_cases hid : old.id = id
  · simp [hid] at hlive
  · simp only [hid, if_false]
    exact ⟨hold, hid⟩

theorem Granting.revokes (h : Granting svc calls before P) (id : String) (now : ℤ)
    (k : Except String Unit → KeyProg KeyAnswer) :
    Granting svc calls before (P.advance (keyServer cfg) i (.server (.db (.revokeAPIKey id now))) k) := by
  refine h.advance_of _ _ fun key hkey hlive => ?_
  change key ∈ ((server cfg).step (.db (.revokeAPIKey id now)) P.state).2.db.apiKeys at hkey
  change Good svc calls before (P.log ++ [(i, ⟨.server (.db (.revokeAPIKey id now)),
    ((server cfg).step (.db (.revokeAPIKey id now)) P.state).1⟩)]) key
  rcases h.alone.step_query cfg (.revokeAPIKey id now) with ⟨-, -, hdb⟩ | ⟨e, -, hval, hdb⟩ | ⟨e, -, hval, hdb⟩
  · rw [hdb] at hkey
    obtain ⟨hold, hid⟩ := mem_of_mem_revoked hkey hlive
    refine (h.good key hold hlive).concat ?_
    rintro ⟨j, t, hmem⟩
    have hev := (Prod.mk.inj (List.mem_singleton.1 hmem)).2
    generalize ((server cfg).step (.db (.revokeAPIKey id now)) P.state).1 = reply at hev
    cases hev
    exact hid rfl
  · rw [hdb] at hkey
    rw [hval]
    exact (h.good key hkey hlive).concat (not_revoked_error e _)
  · rw [hdb] at hkey
    rw [hval]
    exact (h.good key (mem_of_mem_revoked hkey hlive).1 hlive).concat
      (not_revoked_error e _)

/-- A key that is made is good. -/
theorem Granting.makes (h : Granting svc calls before P) {r : KeyRequest} (hr : calls[i]? = some r)
    {q : KeyStatement β} (hallows : r.Allows svc (Pool.eventsOf i P.log) (.statement q))
    (k : Except String β → KeyProg KeyAnswer) :
    Granting svc calls before (P.advance (keyServer cfg) i (.statement q) k) := by
  refine h.advance_of _ _ fun key hkey hlive => ?_
  have hother : ¬ Revokes (Extended.statement q) := fun hrevokes => hrevokes
  have hnot : ¬ Revoked [(i, ⟨.statement q, ((keyServer cfg).step (.statement q) P.state).1⟩)] key.id :=
    not_revoked_of hother _ key.id
  have hdb : ((keyServer cfg).step (.statement q) P.state).2.db = P.state.db ∨
      ((keyServer cfg).step (.statement q) P.state).2.db =
        (keyStatements P.state.next q P.state.db).2 := h.alone.statement_db q
  rcases hdb with hsame | hrun
  · rw [hsame] at hkey
    exact (h.good key hkey hlive).concat hnot
  · rw [hrun] at hkey
    cases q with
    | insert accountID keyHash label scopes expiresAt =>
      obtain ⟨hwho, hdrawn⟩ := hallows
      have hmade (id : String) (reply : Except String NewKey) : Good svc calls before
          (P.log ++ [(i, ⟨.statement (.insert accountID keyHash label scopes expiresAt), reply⟩)])
          ⟨id, accountID, keyHash, expiresAt, none⟩ := by
        obtain ⟨who, body, rfl, haccount⟩ := hwho
        refine .inr ⟨P.log, i, label, scopes, reply, [], rfl, ⟨who, body, hr, haccount⟩, hdrawn, ?_⟩
        rintro ⟨_, _, hmem⟩
        cases hmem
      cases scopes with
      | none => exact (h.good key hkey hlive).concat hnot
      | some scopes =>
        simp only [keyStatements] at hkey
        split_ifs at hkey
        · exact (h.good key hkey hlive).concat hnot
        · exact (h.good key hkey hlive).concat hnot
        · exact (h.good key hkey hlive).concat hnot
        · rcases List.mem_append.1 hkey with hold | hnew
          · exact (h.good key hold hlive).concat hnot
          · obtain rfl := List.mem_singleton.1 hnew
            exact hmade _ _

theorem Granting.advance (h : Granting svc calls before P) {r : KeyRequest} (hr : calls[i]? = some r)
    (e : Extended KeyStatement β) (hallows : r.Allows svc (Pool.eventsOf i P.log) e)
    (k : β → KeyProg KeyAnswer) : Granting svc calls before (P.advance (keyServer cfg) i e k) := by
  cases e with
  | statement q => exact h.makes hr hallows k
  | server e =>
    cases e with
    | db q =>
      cases q with
      | revokeAPIKey id now => exact h.revokes id now k
      | _ => exact h.spares hallows (fun hrevokes => hrevokes) k
    | _ => exact h.spares hallows (fun hrevokes => hrevokes) k

theorem granting_run {w : World} (halone : Alone w) (sched : List ℕ) :
    Granting svc calls w.db.apiKeys
      ((Pool.start (calls.map (KeyRequest.handle svc)) w).run (keyServer cfg) sched) := by
  refine Pool.run_labelled_inv (KeyRequest.handle svc) calls w sched ⟨halone, fun key hkey _ => ?_, ?_⟩
    fun P i r β e k hr hf h => ?_
  · refine .inl ⟨hkey, ?_⟩
    rintro ⟨_, _, hmem⟩
    cases hmem
  · exact justified_nil _
  · have hallows := ((handle_heeds r).of_follows hf).1
    rw [List.nil_append] at hallows
    exact h.advance hr e hallows k

variable (svc calls) in
/-- What has been found out about a request that was let in with a key. -/
structure LetIn (before : List APIKey) (log : KeyLog) (i : ℕ) (headers : KeyHeaders) (key : APIKey) :
    Prop where
  bearer : headers.authorization ≠ "" ∧ trimPrefix headers.authorization "Bearer " ≠ headers.authorization
  digest : key.keyHash = svc.sha256 (trimPrefix headers.authorization "Bearer ")
  good : ∃ past more, log = past ++ (i, ⟨.server (.db (.apiKeyByHash key.keyHash)), .ok (some key)⟩) :: more ∧
    Good svc calls before past key
  unexpired : ∀ expiresAt, key.expiresAt = some expiresAt →
    ∃ t, (i, (⟨.server .now, t⟩ : Event (Extended KeyStatement))) ∈ log ∧ t ≤ expiresAt

/-- **Whoever is let in presents a key that is good**: in every run of any requests, and of whatever else
the server does, a request that is let in for an account has presented a text whose digest is that of a
key of the account; that key was there in the beginning, or a request of a member of the account has had
it made, with the digest of a text that this request has drawn; no revocation of it had been answered
when it was looked up, since it was made; and the request has seen a time at which it had not expired. -/
theorem run_authenticated {w : World} (halone : Alone w) (sched : List ℕ) {headers : KeyHeaders}
    (hi : calls[i]? = some (.authenticate headers))
    (hret : ((Pool.start (calls.map (KeyRequest.handle svc)) w).run (keyServer cfg) sched).threads[i]? =
      some (.ret (.authenticated (.ok key)))) :
    LetIn svc calls w.db.apiKeys
      ((Pool.start (calls.map (KeyRequest.handle svc)) w).run (keyServer cfg) sched).log i headers key := by
  obtain ⟨r, hr, hf⟩ := Pool.follows (KeyRequest.handle svc) calls w sched hret
  rw [hi] at hr
  cases hr
  obtain ⟨a, hval, hembed⟩ := Prog.Follows.of_map hf
  cases hval
  obtain ⟨evs, hevs, hauth⟩ := hembed.of_embed
  obtain ⟨hpresent, hformat, hlookup, hlive, hexpires⟩ := apiKeyAuth_follows hauth
  have hlift {β : Type} {e : ServerCmd β} {b : β} (h : (⟨e, b⟩ : Event ServerCmd) ∈ evs) :
      (i, (⟨.server e, b⟩ : Event (Extended KeyStatement))) ∈
        ((Pool.start (calls.map (KeyRequest.handle svc)) w).run (keyServer cfg) sched).log := by
    rw [← Pool.mem_eventsOf, hevs]
    exact List.mem_map_of_mem h
  obtain ⟨past, more, hlog⟩ := List.append_of_mem (hlift hlookup)
  have htold := (@granting_run svc calls cfg w halone sched).told
  rw [hlog] at htold
  obtain ⟨hdigest, hgood⟩ := htold.of_append i _ key rfl
  refine ⟨⟨hpresent, hformat⟩, hdigest, ⟨past, more, ?_, hgood hlive⟩, fun expiresAt hexpiry => ?_⟩
  · rw [hlog, hdigest]
  · obtain ⟨t, ht, hle⟩ := hexpires expiresAt hexpiry
    exact ⟨t, hlift ht, hle⟩

/-- The key that a request is let in with. -/
def KeyAnswer.key? : KeyAnswer → Option APIKey
  | .authenticated (.ok key) => some key
  | _ => none

theorem returned_of_key? {p : Option (KeyProg KeyAnswer)}
    (h : (p.bind Pool.returned).bind KeyAnswer.key? = some key) :
    p = some (.ret (.authenticated (.ok key))) := by
  rcases p with _ | (a | ⟨e, k⟩)
  · cases h
  · rcases a with _ | _ | (r | found) | _
    · cases h
    · cases h
    · cases h
    · cases h
      rfl
    · cases h
  · cases h

/-- The digest of one text. -/
def oneDigest (text : String) : String :=
  if text = "00112233445566778899aabbccddeeff00112233445566778899aabbccddeeff" then
    "2a8abfa8cb9906290437854193ca6bca41d4d4e26d1d454bd66a35158095e737"
  else text

/-- A server on which that text is drawn. -/
def drawing : World :=
  { oneAccount with
    env := [.quiet,
      { Tick.quiet with nonce := .ok "00112233445566778899aabbccddeeff00112233445566778899aabbccddeeff" }] }

/-- A member has a key made for an hour, and uses it. -/
def useNewKey : List KeyRequest :=
  [.create ⟨"account-1", false⟩ (some ⟨"Shop", some ["send"], some 3600000000000⟩),
    .authenticate ⟨"", "Bearer 00112233445566778899aabbccddeeff00112233445566778899aabbccddeeff"⟩]

theorem newKey_letIn :
    let svc := { plainDeviceServices with sha256 := oneDigest }
    LetIn svc useNewKey []
      ((Pool.start (useNewKey.map (KeyRequest.handle svc)) drawing).run (keyServer .default)
        [0, 0, 0, 1, 1]).log 1
      ⟨"", "Bearer 00112233445566778899aabbccddeeff00112233445566778899aabbccddeeff"⟩
      ⟨"00000000-0000-4000-8000-000000000000", "account-1",
        "2a8abfa8cb9906290437854193ca6bca41d4d4e26d1d454bd66a35158095e737", some 3600000000000, none⟩ := by
  intro svc
  refine @run_authenticated svc useNewKey _ _ .default drawing ?_ _ _ rfl ?_
  · intro t ht
    rcases List.mem_cons.1 ht with rfl | ht
    · rfl
    · rw [List.mem_singleton.1 ht]
      rfl
  · exact returned_of_key? (by decide)

end Run

end AeroxeBee.Tenants
