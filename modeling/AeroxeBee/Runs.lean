import AeroxeBee.Server

/-!
# Runs that succeed

A routine that runs alone and succeeds has gone through its statements one by one: each of them was
executed and its reply arrived, apart from those whose errors are dropped. The lemmas of this module
peel such a run from its first command on.
-/

namespace AeroxeBee

open Foundations

variable (cfg : Config) {α β γ ε : Type}

/-- The run of a routine ends with a value and in a world. -/
structure Runs (p : ServerProg α) (w : World) (a : α) (w' : World) : Prop where
  val : (p.exec (server cfg) w).val = a
  state : (p.exec (server cfg) w).state = w'

/-- After some commands of a routine that runs alone, the tables are these. -/
structure After (w : World) (db : Database) (n : ℕ) (w' : World) : Prop where
  alone : Alone w'
  db_eq : w'.db = db
  later : ∀ m, w'.later m = w.later (n + m)

theorem After.trans {w w₁ w₂ : World} {db db' : Database} {n m : ℕ} (h : After w db n w₁)
    (h' : After w₁ db' m w₂) : After w db' (n + m) w₂ :=
  ⟨h'.alone, h'.db_eq, fun l => by rw [h'.later, h.later, Nat.add_assoc]⟩

theorem After.start {w : World} (h : Alone w) : After w w.db 0 w :=
  ⟨h, rfl, fun m => by rw [Nat.zero_add]⟩

namespace Runs

variable {cfg} {w w' : World}

theorem ret_iff {a b : α} : Runs cfg (.ret a) w b w' ↔ b = a ∧ w' = w :=
  ⟨fun h => ⟨h.val.symm, h.state.symm⟩, fun h => ⟨h.1.symm, h.2.symm⟩⟩

/-- A run takes the first command. -/
theorem act {e : ServerCmd β} {k : β → ServerProg α} {a : α} (h : Runs cfg (.act e k) w a w') :
    Runs cfg (k ((server cfg).step e w).1) ((server cfg).step e w).2 a w' :=
  ⟨h.val, h.state⟩

/-- A run of a composed routine is a run of the first part and one of the second. -/
theorem bind {p : ServerProg β} {f : β → ServerProg α} {a : α} (h : Runs cfg (p >>= f) w a w') :
    ∃ b w₁, Runs cfg p w b w₁ ∧ Runs cfg (f b) w₁ a w' := by
  obtain ⟨hval, hstate⟩ := h
  rw [Prog.exec_bind] at hval hstate
  exact ⟨_, _, ⟨rfl, rfl⟩, ⟨hval, hstate⟩⟩

/-- A command that is no statement leaves the tables alone. -/
theorem other (halone : Alone w) {e : ServerCmd β} (he : e.tables w = w.tick.db)
    {k : β → ServerProg α} {a : α} (h : Runs cfg (.act e k) w a w') :
    ∃ b w₁, After w w.db 1 w₁ ∧ Runs cfg (k b) w₁ a w' := by
  refine ⟨_, _, ⟨halone.step e, ?_, fun m => ?_⟩, h.act⟩
  · rw [step_db, he, halone.tick_db]
  · rw [step_later, Nat.add_comm]

/-- A routine without statements leaves the tables alone. -/
theorem of_only (halone : Alone w) {p : ServerProg α} {P : ∀ {β : Type}, ServerCmd β → Prop}
    (hp : p.Only P) (htables : ∀ {β : Type} (e : ServerCmd β) (w : World), P e → e.tables w = w.tick.db)
    {a : α} (h : Runs cfg p w a w') : Alone w' ∧ w'.db = w.db := by
  obtain ⟨-, rfl⟩ := h
  refine hp.exec_inv (I := fun w₁ => Alone w₁ ∧ w₁.db = w.db) (fun e w₁ he hw => ?_) ⟨halone, rfl⟩
  refine ⟨hw.1.step e, ?_⟩
  rw [step_db, htables e w₁ he, hw.1.tick_db, hw.2]

/-- A statement whose error ends the routine was executed. -/
theorem query (halone : Alone w) {q : Query β} {k : Except String β → ServerProg (Except ε γ)} {a : γ}
    (h : Runs cfg (.act (.db q) k) w (.ok a) w')
    (herror : ∀ text, ∃ e, k (.error text) = .ret (.error e)) :
    ∃ b w₁, (q.run w.db).1 = .ok b ∧ After w (q.run w.db).2 1 w₁ ∧
      Runs cfg (k (.ok b)) w₁ (.ok a) w' := by
  have hact := h.act
  have hlater : ∀ m, ((server cfg).step (.db q) w).2.later m = w.later (1 + m) := fun m => by
    rw [step_later, Nat.add_comm]
  have hfailed : ∀ text, ((server cfg).step (.db q) w).1 ≠ .error text := by
    intro text htext
    rw [htext] at hact
    obtain ⟨e, he⟩ := herror text
    rw [he, ret_iff] at hact
    cases hact.1
  rcases halone.step_query cfg q with ⟨-, hval, hdb⟩ | ⟨e, -, hval, -⟩ | ⟨e, -, hval, -⟩
  · rw [hval] at hact hfailed
    cases hr : (q.run w.db).1 with
    | error text => exact absurd hr (hfailed text)
    | ok b =>
      rw [hr] at hact
      exact ⟨b, _, rfl, ⟨halone.step _, hdb, hlater⟩, hact⟩
  · exact absurd hval (hfailed e)
  · exact absurd hval (hfailed e)

/-- A statement whose error is dropped was executed or refused. -/
theorem dropped (halone : Alone w) {q : Query β} {k : Except String β → ServerProg α} {a : α}
    (h : Runs cfg (.act (.db q) k) w a w') :
    ∃ b w₁, After w (if (w.later 0).fault.isRefused then w.db else (q.run w.db).2) 1 w₁ ∧
      Runs cfg (k b) w₁ a w' := by
  refine ⟨_, _, ⟨halone.step _, ?_, fun m => ?_⟩, h.act⟩
  · rw [← next_eq_later]
    rcases halone.step_query cfg q with ⟨hf, -, hdb⟩ | ⟨e, hf, -, hdb⟩ | ⟨e, hf, -, hdb⟩
    · rw [hf, hdb]
      rfl
    · rw [hf, hdb]
      rfl
    · rw [hf, hdb]
      rfl
  · rw [step_later, Nat.add_comm]

end Runs

/-- The run of a routine ends as it should. -/
def Reaches (p : ServerProg α) (w : World) (ends : α → World → Prop) : Prop :=
  ends (p.exec (server cfg) w).val (p.exec (server cfg) w).state

namespace Calm

variable {cfg} {w : World} {ends : α → World → Prop}

/-- On a calm server a statement is executed and its reply arrives. -/
theorem query (h : Calm w) {q : Query β} {k : Except String β → ServerProg α}
    (hk : ∀ w₁, Calm w₁ → w₁.db = (q.run w.db).2 → Reaches cfg (k (q.run w.db).1) w₁ ends) :
    Reaches cfg (.act (.db q) k) w ends := by
  obtain ⟨hval, hdb⟩ := h.step_query cfg q
  have hrun := hk _ (h.step _) hdb
  rw [← hval] at hrun
  exact hrun

/-- A command that is no statement leaves the tables of a calm server alone. -/
theorem other (h : Calm w) {e : ServerCmd β} (he : e.tables w = w.tick.db) {k : β → ServerProg α}
    (hk : ∀ b w₁, Calm w₁ → w₁.db = w.db → Reaches cfg (k b) w₁ ends) :
    Reaches cfg (.act e k) w ends :=
  hk _ _ (h.step e) (by rw [step_db, he, h.alone.tick_db])

/-- A routine leaves a calm server calm. -/
theorem exec (h : Calm w) (p : ServerProg α) : Calm (p.exec (server cfg) w).state :=
  (Prog.only_of_forall (P := fun _ => True) (fun _ => trivial) p).exec_inv
    (fun e _ _ hw => hw.step e) h

end Calm

end AeroxeBee
