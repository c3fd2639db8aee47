import AeroxeBee.Server

/-!
# Further statements

The statements of a few handlers are executed by no other routine of the server. `Extended` adds such
statements to its commands, and `extended` is the server that executes them: like any statement they
can be refused, or be executed without a reply.
-/

namespace AeroxeBee

open Foundations

/-- The commands of the server and some further statements. -/
inductive Extended (Q : Type → Type) : Type → Type 1
  | server {β : Type} (e : ServerCmd β) : Extended Q β
  | statement {β : Type} (q : Q β) : Extended Q (Except String β)

/-- What statements make of the tables. A statement may take an id from the tick. -/
abbrev Executor (Q : Type → Type) :=
  {β : Type} → Tick → Q β → Database → Except String β × Database

variable {Q : Type → Type}

/-- What a command does. -/
def serveExtended (cfg : Config) (run : Executor Q) (w : World) : {β : Type} → Extended Q β → β × World
  | _, .server e => (server cfg).step e w
  | _, .statement q =>
    let r := w.next.fault.apply id id (run w.next q) w.tick.db
    (r.1, { w.tick with db := r.2 })

/-- The server with further statements. -/
def extended (cfg : Config) (run : Executor Q) : Sem (Extended Q) World where
  step e w := serveExtended cfg run w e

/-- A command of the server that changes no table. -/
def ServerCmd.Reads {β : Type} (e : ServerCmd β) : Prop := ∀ w, e.tables w = w.tick.db

/-- A command that changes no table, and is no further statement. -/
def Extended.Reads : {β : Type} → Extended Q β → Prop
  | _, .server e => e.Reads
  | _, .statement _ => False

/-- The command is a further statement. -/
def Extended.IsStatement : {β : Type} → Extended Q β → Prop
  | _, .server _ => False
  | _, .statement _ => True

/-- An event is not one of both kinds. -/
theorem server_ne_statement {β γ : Type} {e : ServerCmd β} {b : β} {q : Q γ} {c : Except String γ} :
    (⟨.server e, b⟩ : Event (Extended Q)) ≠ ⟨.statement q, c⟩ := by
  intro h
  have hkind := congrArg (fun ev : Event (Extended Q) => ev.cmd.IsStatement) h
  exact hkind.mpr trivial

theorem reads_of_query {β : Type} {q : Query β} (h : ∀ db, (q.run db).2 = db) : (ServerCmd.db q).Reads := by
  intro w
  simp only [ServerCmd.tables]
  rcases Fault.apply_snd w.next.fault id id (fun db => q.run db) w.tick.db with hsame | hrun
  · exact hsame
  · rw [hrun, h]

section Alone

variable {cfg : Config} {run : Executor Q} {w : World} {β : Type}

theorem Alone.step_extended (h : Alone w) (e : Extended Q β) : Alone ((extended cfg run).step e w).2 := by
  cases e with
  | server e => exact h.step e
  | statement q => exact fun t ht => h t (List.mem_of_mem_tail ht)

theorem Alone.step_reads (h : Alone w) {e : ServerCmd β} (he : e.Reads) :
    ((extended cfg run).step (.server e) w).2.db = w.db := by
  show ((server cfg).step e w).2.db = w.db
  rw [step_db, he, h.tick_db]

/-- What a further statement can come to when nothing else runs. -/
theorem Alone.step_statement (h : Alone w) (q : Q β) :
    let r := (extended cfg run).step (.statement q) w
    (r.1 = (run w.next q w.db).1 ∧ r.2.db = (run w.next q w.db).2) ∨
      ∃ e, r.1 = .error e ∧ (r.2.db = w.db ∨ r.2.db = (run w.next q w.db).2) := by
  intro r
  have hr : r = ((w.next.fault.apply id id (run w.next q) w.tick.db).1,
      { w.tick with db := (w.next.fault.apply id id (run w.next q) w.tick.db).2 }) := rfl
  rw [h.tick_db] at hr
  cases hfault : w.next.fault with
  | none =>
    rw [hfault] at hr
    exact .inl ⟨by rw [hr]; rfl, by rw [hr]; rfl⟩
  | refused text =>
    rw [hfault] at hr
    exact .inr ⟨text, by rw [hr]; rfl, .inl (by rw [hr]; rfl)⟩
  | lost text =>
    rw [hfault] at hr
    exact .inr ⟨text, by rw [hr]; rfl, .inr (by rw [hr]; rfl)⟩

/-- After a further statement the tables are as they were, or as the statement leaves them. -/
theorem Alone.statement_db (h : Alone w) (q : Q β) :
    ((extended cfg run).step (.statement q) w).2.db = w.db ∨
      ((extended cfg run).step (.statement q) w).2.db = (run w.next q w.db).2 := by
  rcases h.step_statement q with ⟨-, hdb⟩ | ⟨e, -, hdb⟩
  · exact .inr hdb
  · exact hdb

/-- A lookup that is answered tells what is in the tables. -/
theorem Alone.lookup_reply (h : Alone w) {q : Query β} {b : β}
    (hreply : ((extended cfg run).step (.server (.db q)) w).1 = .ok b) : (q.run w.db).1 = .ok b := by
  change ((server cfg).step (.db q) w).1 = .ok b at hreply
  rcases h.step_query cfg q with ⟨-, hval, -⟩ | ⟨e, -, hval, -⟩ | ⟨e, -, hval, -⟩
  · rw [← hval, hreply]
  · rw [hval] at hreply
    cases hreply
  · rw [hval] at hreply
    cases hreply

end Alone

end AeroxeBee
