import Mathlib.Data.List.Induction
import Mathlib.Logic.Function.Basic

/-!
# Programs over commands

A server routine is a sequence of commands to the outside (a store, a broker, a clock, a
variable shared with other routines) with pure computation between them. This module gives such
routines a syntax and two meanings, over an arbitrary family of commands:

* `Prog C α`, the trees of commands of `C` that end in a value of `α`;
* `Prog.exec`, the run of one program alone, with its value, final state and trace;
* `Pool.run`, the runs of any number of programs whose commands interleave;
* `Prog.Follows`, what a program may do whatever its environment answers.

The main results are the rules by which facts about single commands are carried to runs:

* `Prog.Only.exec_inv`: what every command of a program preserves, the run preserves;
* `Pool.run_inv`: what every step of a pool preserves, the runs of the pool preserve;
* `Pool.follows`: in every run of a pool each thread follows its own program.
-/

namespace Foundations

universe u v v'

variable {C : Type → Type v} {α β γ : Type} {σ : Type u}

/-! ## Programs -/

/-- A program: a value, or a command whose reply selects the rest of the program. -/
inductive Prog (C : Type → Type v) (α : Type) : Type (max 1 v)
  | ret (a : α) : Prog C α
  | act {β : Type} (e : C β) (k : β → Prog C α) : Prog C α

namespace Prog

/-- Run the second program on the value of the first. -/
def bind : Prog C α → (α → Prog C γ) → Prog C γ
  | ret a, f => f a
  | act e k, f => act e fun b => (k b).bind f

instance : Monad (Prog C) where
  pure := ret
  bind := bind

/-- The program of one command. -/
def call (e : C β) : Prog C β := act e ret

@[simp] theorem pure_eq (a : α) : (pure a : Prog C α) = ret a := rfl

@[simp] theorem ret_bind (a : α) (f : α → Prog C γ) : ret a >>= f = f a := rfl

@[simp] theorem act_bind (e : C β) (k : β → Prog C α) (f : α → Prog C γ) :
    act e k >>= f = act e fun b => k b >>= f := rfl

@[simp] theorem call_bind (e : C β) (f : β → Prog C γ) : call e >>= f = act e f := rfl

/-- The same program over a larger family of commands. -/
def embed {D : Type → Type v'} (f : {β : Type} → C β → D β) : Prog C α → Prog D α
  | ret a => ret a
  | act e k => act (f e) fun b => (k b).embed f

theorem bind_ret (p : Prog C α) : p.bind ret = p := by
  induction p with
  | ret a => rfl
  | act e k ih => exact congrArg (act e) (funext ih)

theorem bind_bind {δ : Type} (p : Prog C α) (f : α → Prog C γ) (g : γ → Prog C δ) :
    (p.bind f).bind g = p.bind fun a => (f a).bind g := by
  induction p with
  | ret a => rfl
  | act e k ih => exact congrArg (act e) (funext ih)

instance : LawfulMonad (Prog C) :=
  LawfulMonad.mk' (Prog C) bind_ret (fun _ _ => rfl) bind_bind

end Prog

/-! ## Running one program -/

/-- What the commands do: the reply and the new state. Whatever the environment contributes
(faults, time, random bytes) is a component of the state. -/
structure Sem (C : Type → Type v) (σ : Type u) where
  step : {β : Type} → C β → σ → β × σ

/-- A command together with the reply it received. -/
structure Event (C : Type → Type v) : Type (max 1 v) where
  {reply : Type}
  cmd : C reply
  val : reply

/-- The end of a run: the value, the state left behind, and the events in order. -/
structure Outcome (C : Type → Type v) (σ : Type u) (α : Type) : Type (max 1 u v) where
  val : α
  state : σ
  trace : List (Event C)

namespace Prog

/-- The run of a program from a state. -/
def exec (M : Sem C σ) : Prog C α → σ → Outcome C σ α
  | ret a, s => ⟨a, s, []⟩
  | act e k, s =>
    let r := M.step e s
    let o := (k r.1).exec M r.2
    ⟨o.val, o.state, ⟨e, r.1⟩ :: o.trace⟩

variable (M : Sem C σ)

@[simp] theorem exec_ret (a : α) (s : σ) : (ret a : Prog C α).exec M s = ⟨a, s, []⟩ := rfl

@[simp] theorem exec_act (e : C β) (k : β → Prog C α) (s : σ) :
    (act e k).exec M s =
      ⟨((k (M.step e s).1).exec M (M.step e s).2).val,
        ((k (M.step e s).1).exec M (M.step e s).2).state,
        ⟨e, (M.step e s).1⟩ :: ((k (M.step e s).1).exec M (M.step e s).2).trace⟩ := rfl

@[simp] theorem exec_call (e : C β) (s : σ) :
    (call e).exec M s = ⟨(M.step e s).1, (M.step e s).2, [⟨e, (M.step e s).1⟩]⟩ := rfl

/-- A sequential composition runs its parts one after the other. -/
theorem exec_bind (p : Prog C α) (f : α → Prog C γ) (s : σ) :
    (p >>= f).exec M s =
      ⟨((f (p.exec M s).val).exec M (p.exec M s).state).val,
        ((f (p.exec M s).val).exec M (p.exec M s).state).state,
        (p.exec M s).trace ++ ((f (p.exec M s).val).exec M (p.exec M s).state).trace⟩ := by
  induction p generalizing s with
  | ret a => rfl
  | act e k ih => simp [ih]

/-! ## Programs that issue only some of the commands -/

/-- Every command the program can reach, whatever the replies, satisfies `P`. -/
def Only (P : ∀ {β : Type}, C β → Prop) : Prog C α → Prop
  | ret _ => True
  | act e k => P e ∧ ∀ b, (k b).Only P

variable {P : ∀ {β : Type}, C β → Prop} {M}

theorem Only.bind {p : Prog C α} {f : α → Prog C γ} (hp : p.Only P) (hf : ∀ a, (f a).Only P) :
    (p >>= f).Only P := by
  induction p with
  | ret a => exact hf a
  | act e k ih => exact ⟨hp.1, fun b => ih b (hp.2 b)⟩

theorem Only.mono {Q : ∀ {β : Type}, C β → Prop} {p : Prog C α} (hp : p.Only P)
    (h : ∀ {β : Type} (e : C β), P e → Q e) : p.Only Q := by
  induction p with
  | ret a => trivial
  | act e k ih => exact ⟨h e hp.1, fun b => ih b (hp.2 b)⟩

/-- A program that issues only some of the commands, and only some others, issues only those that are
both. -/
theorem Only.and {Q : ∀ {β : Type}, C β → Prop} {p : Prog C α} (hP : p.Only P) (hQ : p.Only Q) :
    p.Only fun e => P e ∧ Q e := by
  induction p with
  | ret a => trivial
  | act e k ih => exact ⟨⟨hP.1, hQ.1⟩, fun b => ih b (hP.2 b) (hQ.2 b)⟩

theorem Only.embed {D : Type → Type v'} {f : {β : Type} → C β → D β}
    {Q : ∀ {β : Type}, D β → Prop} {p : Prog C α} (hp : p.Only P)
    (hf : ∀ {β : Type} (e : C β), P e → Q (f e)) : (p.embed f).Only Q := by
  induction p with
  | ret a => trivial
  | act e k ih => exact ⟨hf e hp.1, fun b => ih b (hp.2 b)⟩

/-- The run of a program issues only the commands that the program can reach. -/
theorem Only.exec_trace {p : Prog C α} (hp : p.Only P) (M : Sem C σ) (s : σ) :
    ∀ ev ∈ (p.exec M s).trace, P ev.cmd := by
  induction p generalizing s with
  | ret a => simp
  | act e k ih =>
    rw [exec_act]
    exact List.forall_mem_cons.2 ⟨hp.1, ih _ (hp.2 _) _⟩

/-- Every value the program can return, whatever the replies, satisfies `Q`. -/
def Returns (Q : α → Prop) : Prog C α → Prop
  | ret a => Q a
  | act _ k => ∀ b, (k b).Returns Q

theorem Returns.bind {Q : α → Prop} {Q' : γ → Prop} {p : Prog C α} {f : α → Prog C γ}
    (hp : p.Returns Q) (hf : ∀ a, Q a → (f a).Returns Q') : (p >>= f).Returns Q' := by
  induction p with
  | ret a => exact hf a hp
  | act e k ih => exact fun b => ih b (hp b)

theorem Returns.mono {Q Q' : α → Prop} {p : Prog C α} (hp : p.Returns Q) (h : ∀ a, Q a → Q' a) :
    p.Returns Q' := by
  induction p with
  | ret a => exact h a hp
  | act e k ih => exact fun b => ih b (hp b)

/-- Sequential composition where the second program relies on what the first can return. -/
theorem Only.bind_of_returns {Q : α → Prop} {p : Prog C α} {f : α → Prog C γ} (hp : p.Only P)
    (hret : p.Returns Q) (hf : ∀ a, Q a → (f a).Only P) : (p >>= f).Only P := by
  induction p with
  | ret a => exact hf a hret
  | act e k ih => exact ⟨hp.1, fun b => ih b (hp.2 b) (hret b)⟩

theorem Returns.of_forall {Q : α → Prop} (h : ∀ a, Q a) (p : Prog C α) : p.Returns Q := by
  induction p with
  | ret a => exact h a
  | act e k ih => exact ih

theorem Returns.exec {Q : α → Prop} {p : Prog C α} (hp : p.Returns Q) (M : Sem C σ) (s : σ) :
    Q (p.exec M s).val := by
  induction p generalizing s with
  | ret a => exact hp
  | act e k ih => exact ih _ (hp _) _

/-- With some of the events `A` the program can return a value that satisfies `Q`. -/
def Can (A : Event C → Prop) (Q : α → Prop) : Prog C α → Prop
  | ret a => Q a
  | act e k => ∃ b, A ⟨e, b⟩ ∧ (k b).Can A Q

theorem Can.bind {A : Event C → Prop} {Q : α → Prop} {Q' : γ → Prop} {p : Prog C α}
    {f : α → Prog C γ} (hp : p.Can A Q) (hf : ∀ a, Q a → (f a).Can A Q') : (p >>= f).Can A Q' := by
  induction p with
  | ret a => exact hf a hp
  | act e k ih =>
    obtain ⟨b, hb, hk⟩ := hp
    exact ⟨b, hb, ih b hk⟩

/-- What a program can return it returns in some run, if each of the events comes about when the
environment `env` of the state begins with the right contribution. -/
theorem Can.exec {τ : Type*} {A : Event C → Prop} {Q : α → Prop} {state : List τ → σ}
    {R : τ → Prop} {M : Sem C σ}
    (hstep : ∀ {β : Type} (e : C β) (b : β), A ⟨e, b⟩ →
      ∃ t, R t ∧ ∀ env, M.step e (state (t :: env)) = (b, state env))
    {p : Prog C α} (hp : p.Can A Q) :
    ∃ env, (∀ t ∈ env, R t) ∧ Q (p.exec M (state env)).val := by
  induction p with
  | ret a => exact ⟨[], by simp, hp⟩
  | act e k ih =>
    obtain ⟨b, hb, hk⟩ := hp
    obtain ⟨t, ht, hreply⟩ := hstep e b hb
    obtain ⟨env, henv, hQ⟩ := ih b hk
    refine ⟨t :: env, List.forall_mem_cons.2 ⟨ht, henv⟩, ?_⟩
    rw [exec_act, hreply]
    exact hQ

/-- **What every command preserves, the run preserves.** -/
theorem Only.exec_inv {I : σ → Prop}
    (hstep : ∀ {β : Type} (e : C β) (s : σ), P e → I s → I (M.step e s).2)
    {p : Prog C α} (hp : p.Only P) {s : σ} (hs : I s) : I (p.exec M s).state := by
  induction p generalizing s with
  | ret a => exact hs
  | act e k ih => exact ih _ (hp.2 _) (hstep e s hp.1 hs)

/-- Every command of the run meets a condition on the state before it. -/
def EachStep (M : Sem C σ) (G : ∀ {β : Type}, C β → σ → Prop) : Prog C α → σ → Prop
  | ret _, _ => True
  | act e k, s => G e s ∧ (k (M.step e s).1).EachStep M G (M.step e s).2

theorem eachStep_bind {G : ∀ {β : Type}, C β → σ → Prop} (p : Prog C α) (f : α → Prog C γ) (s : σ) :
    (p >>= f).EachStep M G s ↔
      p.EachStep M G s ∧ (f (p.exec M s).val).EachStep M G (p.exec M s).state := by
  induction p generalizing s with
  | ret a => exact (iff_of_eq (true_and _)).symm
  | act e k ih =>
    rw [act_bind]
    exact (and_congr_right' (ih _ _)).trans and_assoc.symm

/-- A program each of whose commands meets the condition wherever an invariant holds. -/
theorem Only.eachStep {G : ∀ {β : Type}, C β → σ → Prop} {I : σ → Prop}
    (hG : ∀ {β : Type} (e : C β) (s : σ), P e → I s → G e s)
    (hstep : ∀ {β : Type} (e : C β) (s : σ), I s → I (M.step e s).2)
    {p : Prog C α} (hp : p.Only P) {s : σ} (hs : I s) : p.EachStep M G s := by
  induction p generalizing s with
  | ret a => trivial
  | act e k ih => exact ⟨hG e s hp.1 hs, ih _ (hp.2 _) (hstep e s hs)⟩

/-- What the condition tells of a command wherever an invariant holds, it tells of every command of
the run. -/
theorem EachStep.forall_trace {G : ∀ {β : Type}, C β → σ → Prop} {I : σ → Prop}
    {Q : ∀ {β : Type}, C β → Prop}
    (hQ : ∀ {β : Type} (e : C β) (s : σ), I s → G e s → Q e)
    (hstep : ∀ {β : Type} (e : C β) (s : σ), I s → I (M.step e s).2)
    {p : Prog C α} {s : σ} (h : p.EachStep M G s) (hs : I s) :
    ∀ ev ∈ (p.exec M s).trace, Q ev.cmd := by
  induction p generalizing s with
  | ret a => simp
  | act e k ih =>
    rw [exec_act]
    exact List.forall_mem_cons.2 ⟨hQ e s hs h.1, ih _ h.2 (hstep e s hs)⟩

theorem only_of_forall (h : ∀ {β : Type} (e : C β), P e) (p : Prog C α) : p.Only P := by
  induction p with
  | ret a => trivial
  | act e k ih => exact ⟨h e, ih⟩

instance decidableEachStep (M : Sem C σ) (G : ∀ {β : Type}, C β → σ → Prop)
    [∀ {β : Type} (e : C β) (s : σ), Decidable (G e s)] :
    (p : Prog C α) → (s : σ) → Decidable (p.EachStep M G s)
  | ret _, _ => inferInstanceAs (Decidable True)
  | act e k, s =>
    have := decidableEachStep M G (k (M.step e s).1) (M.step e s).2
    inferInstanceAs (Decidable (_ ∧ _))

end Prog

/-! ## What a program does under arbitrary replies -/

namespace Prog

/-- `p.Follows evs q`: the program `p` can issue exactly the commands of `evs`, receive their
replies, and be left with `q` to do. Nothing is assumed of the replies. -/
inductive Follows : Prog C α → List (Event C) → Prog C α → Prop
  | refl (p : Prog C α) : Follows p [] p
  | step {β : Type} (e : C β) (k : β → Prog C α) (b : β) {evs : List (Event C)} {q : Prog C α}
      (h : Follows (k b) evs q) : Follows (act e k) (⟨e, b⟩ :: evs) q

@[simp] theorem follows_ret {a : α} {evs : List (Event C)} {q : Prog C α} :
    Follows (ret a) evs q ↔ evs = [] ∧ q = ret a := by
  constructor
  · intro h
    cases h
    exact ⟨rfl, rfl⟩
  · rintro ⟨rfl, rfl⟩
    exact .refl _

/-- A program that has returned after a command received a reply and went on from there. -/
theorem follows_act {e : C β} {k : β → Prog C α} {evs : List (Event C)} {a : α} :
    Follows (act e k) evs (ret a) ↔ ∃ b rest, evs = ⟨e, b⟩ :: rest ∧ Follows (k b) rest (ret a) := by
  constructor
  · intro h
    cases h with
    | step _ _ b h => exact ⟨b, _, rfl, h⟩
  · rintro ⟨b, rest, rfl, h⟩
    exact .step e k b h

/-- A composed program that has returned followed its first part and then its second. -/
theorem Follows.of_bind {p : Prog C α} {f : α → Prog C γ} {evs : List (Event C)} {b : γ}
    (h : Follows (p >>= f) evs (ret b)) :
    ∃ a evs₁ evs₂, evs = evs₁ ++ evs₂ ∧ Follows p evs₁ (ret a) ∧ Follows (f a) evs₂ (ret b) := by
  induction p generalizing evs with
  | ret a => exact ⟨a, [], evs, rfl, .refl _, h⟩
  | act e k ih =>
    obtain ⟨r, rest, rfl, hk⟩ := follows_act.1 h
    obtain ⟨a, evs₁, evs₂, rfl, hp, hf⟩ := ih r hk
    exact ⟨a, ⟨e, r⟩ :: evs₁, evs₂, rfl, .step e k r hp, hf⟩

/-- A mapped program that has returned followed the program it was mapped from. -/
theorem Follows.of_map {f : α → γ} {p : Prog C α} {evs : List (Event C)} {b : γ}
    (h : Follows (f <$> p) evs (ret b)) : ∃ a, b = f a ∧ Follows p evs (ret a) := by
  induction p generalizing evs with
  | ret a =>
    obtain ⟨rfl, hb⟩ := follows_ret.1 h
    cases hb
    exact ⟨a, rfl, .refl _⟩
  | act e k ih =>
    obtain ⟨r, rest, rfl, hk⟩ := follows_act.1 h
    obtain ⟨a, hb, ha⟩ := ih r hk
    exact ⟨a, hb, .step e k r ha⟩

/-- The run of a program follows it. -/
theorem follows_exec (M : Sem C σ) (p : Prog C α) (s : σ) :
    Follows p (p.exec M s).trace (ret (p.exec M s).val) := by
  induction p generalizing s with
  | ret a => exact .refl _
  | act e k ih => exact .step e k (M.step e s).1 (ih _ _)

/-- A value that a program returns after any events at all is one it can return. -/
theorem returns_of_follows {Q : α → Prop} {p : Prog C α}
    (h : ∀ evs a, p.Follows evs (.ret a) → Q a) : p.Returns Q := by
  induction p with
  | ret a => exact h [] a (.refl _)
  | act e k ih => exact fun b => ih b fun evs a hf => h _ a (.step e k b hf)

/-- A program that issues only some of the commands continues with such commands. -/
theorem Follows.only {A : ∀ {β : Type}, C β → Prop} {p q : Prog C α} {evs : List (Event C)}
    (h : Follows p evs q) (hp : p.Only A) : q.Only A := by
  induction h with
  | refl p => exact hp
  | step e k b _ ih => exact ih (hp.2 b)

/-- The commands a program has issued are among those it can issue. -/
theorem Follows.forall_mem {A : ∀ {β : Type}, C β → Prop} {p q : Prog C α} {evs : List (Event C)}
    (h : p.Follows evs q) (hp : p.Only A) : ∀ ev ∈ evs, A ev.cmd := by
  induction h with
  | refl p => simp
  | step e k b _ ih => exact List.forall_mem_cons.2 ⟨hp.1, ih (hp.2 b)⟩

theorem Follows.snoc {p : Prog C α} {evs : List (Event C)} {e : C β} {k : β → Prog C α}
    (h : Follows p evs (act e k)) (b : β) : Follows p (evs ++ [⟨e, b⟩]) (k b) := by
  generalize hq : act e k = q at h
  induction h with
  | refl p =>
    subst hq
    exact .step e k b (.refl _)
  | step e' k' b' _ ih => exact .step e' k' b' (ih hq)

end Prog

/-! ## Logs -/

section Justified

variable {X : Type u} {Φ : List X → X → Prop} {log : List X}

/-- Every element of a list is related to the elements before it. -/
def Justified (Φ : List X → X → Prop) (log : List X) : Prop :=
  ∀ n x, log[n]? = some x → Φ (log.take n) x

theorem justified_nil (Φ : List X → X → Prop) : Justified Φ [] := by
  simp [Justified]

theorem justified_concat {x : X} : Justified Φ (log ++ [x]) ↔ Justified Φ log ∧ Φ log x := by
  constructor
  · refine fun h => ⟨fun n y hn => ?_, ?_⟩
    · have hlt := (List.getElem?_eq_some_iff.1 hn).1
      have hy := h n y (by rw [List.getElem?_append_left hlt, hn])
      rwa [List.take_append_of_le_length (Nat.le_of_lt hlt)] at hy
    · have hx := h log.length x (by simp)
      rwa [List.take_left] at hx
  · rintro ⟨h, hx⟩ n y hn
    rcases Nat.lt_or_ge n log.length with hlt | hge
    · rw [List.getElem?_append_left hlt] at hn
      rw [List.take_append_of_le_length (Nat.le_of_lt hlt)]
      exact h n y hn
    · have hlt : n < (log ++ [x]).length := (List.getElem?_eq_some_iff.1 hn).1
      obtain rfl : n = log.length := by
        rw [List.length_append, List.length_singleton] at hlt
        omega
      obtain rfl : x = y := by simpa using hn
      rw [List.take_left]
      exact hx

theorem Justified.concat {x : X} (h : Justified Φ log) (hx : Φ log x) :
    Justified Φ (log ++ [x]) :=
  justified_concat.2 ⟨h, hx⟩

end Justified

/-! ## Interleaved programs -/

/-- Programs that run concurrently over one state. `log` holds the events of all threads in the
order in which they took effect, each with the number of its thread; `done` holds the values
the threads returned, in the order in which they returned them. -/
structure Pool (C : Type → Type v) (σ : Type u) (α : Type) : Type (max 1 u v) where
  threads : List (Prog C α)
  state : σ
  log : List (ℕ × Event C)
  done : List (ℕ × α)

namespace Pool

/-- The pool of the programs `ps`, none of which has moved yet. -/
def start (ps : List (Prog C α)) (s : σ) : Pool C σ α := ⟨ps, s, [], []⟩

/-- What a thread that has just become `p` returns at once. -/
def returned : Prog C α → Option α
  | .ret a => some a
  | .act _ _ => none

/-- Thread `i` takes its next command; its pure computation up to the command after it belongs
to the same step. A thread that has returned, or does not exist, does nothing. -/
def step (M : Sem C σ) (P : Pool C σ α) (i : ℕ) : Pool C σ α :=
  match P.threads[i]? with
  | some (.act e k) =>
    let r := M.step e P.state
    { threads := P.threads.set i (k r.1)
      state := r.2
      log := P.log ++ [(i, ⟨e, r.1⟩)]
      done := P.done ++ ((returned (k r.1)).map (i, ·)).toList }
  | _ => P

/-- The run of the pool under a schedule: which thread moves at each step. -/
def run (M : Sem C σ) (P : Pool C σ α) (sched : List ℕ) : Pool C σ α := sched.foldl (step M) P

/-- The events of thread `i`, in order. -/
def eventsOf (i : ℕ) (log : List (ℕ × Event C)) : List (Event C) :=
  log.filterMap fun x => if x.1 = i then some x.2 else none

variable {M : Sem C σ} {P : Pool C σ α} {i : ℕ}

/-- **What a step of a pool can do.** Either nothing, or the next command of one thread. -/
theorem step_cases (M : Sem C σ) (P : Pool C σ α) (i : ℕ) :
    P.step M i = P ∨
      ∃ (β : Type) (e : C β) (k : β → Prog C α), P.threads[i]? = some (.act e k) ∧
        P.step M i =
          { threads := P.threads.set i (k (M.step e P.state).1)
            state := (M.step e P.state).2
            log := P.log ++ [(i, ⟨e, (M.step e P.state).1⟩)]
            done := P.done ++ ((returned (k (M.step e P.state).1)).map (i, ·)).toList } := by
  cases h : P.threads[i]? with
  | none => exact .inl (by simp [step, h])
  | some p =>
    cases p with
    | ret a => exact .inl (by simp [step, h])
    | act e k => exact .inr ⟨_, e, k, rfl, by simp [step, h]⟩

@[simp] theorem run_nil (M : Sem C σ) (P : Pool C σ α) : P.run M [] = P := rfl

@[simp] theorem run_cons (M : Sem C σ) (P : Pool C σ α) (i : ℕ) (sched : List ℕ) :
    P.run M (i :: sched) = (P.step M i).run M sched := rfl

theorem run_concat (M : Sem C σ) (P : Pool C σ α) (sched : List ℕ) (i : ℕ) :
    P.run M (sched ++ [i]) = (P.run M sched).step M i := by
  simp [run]

/-- **The invariant rule**: what every step preserves, every run preserves. -/
theorem run_inv {I : Pool C σ α → Prop} (hstep : ∀ P i, I P → I (P.step M i)) (h : I P)
    (sched : List ℕ) : I (P.run M sched) := by
  induction sched generalizing P with
  | nil => exact h
  | cons i sched ih => exact ih (hstep P i h)

/-- Every step of the run meets a condition on the pool before it and the thread that moves. -/
def EachStep (M : Sem C σ) (G : Pool C σ α → ℕ → Prop) : Pool C σ α → List ℕ → Prop
  | _, [] => True
  | P, i :: sched => G P i ∧ EachStep M G (P.step M i) sched

instance decidableEachStep (M : Sem C σ) (G : Pool C σ α → ℕ → Prop) [∀ P i, Decidable (G P i)]
    (P : Pool C σ α) : (sched : List ℕ) → Decidable (EachStep M G P sched)
  | [] => inferInstanceAs (Decidable True)
  | i :: sched =>
    have := decidableEachStep M G (P.step M i) sched
    inferInstanceAs (Decidable (_ ∧ _))

/-- **The invariant rule for runs that meet a condition at each step.** -/
theorem run_inv_of {I : Pool C σ α → Prop} {G : Pool C σ α → ℕ → Prop}
    (hstep : ∀ P i, I P → G P i → I (P.step M i)) {sched : List ℕ} (h : I P)
    (hG : EachStep M G P sched) : I (P.run M sched) := by
  induction sched generalizing P with
  | nil => exact h
  | cons i sched ih => exact ih (hstep P i h hG.1) hG.2

theorem EachStep.and {G G' : Pool C σ α → ℕ → Prop} {sched : List ℕ} (h : EachStep M G P sched)
    (h' : EachStep M G' P sched) : EachStep M (fun P i => G P i ∧ G' P i) P sched := by
  induction sched generalizing P with
  | nil => trivial
  | cons i sched ih => exact ⟨⟨h.1, h'.1⟩, ih h.2 h'.2⟩

theorem EachStep.mono {G G' : Pool C σ α → ℕ → Prop} (hG : ∀ P i, G P i → G' P i) {sched : List ℕ}
    (h : EachStep M G P sched) : EachStep M G' P sched := by
  induction sched generalizing P with
  | nil => trivial
  | cons i sched ih => exact ⟨hG P i h.1, ih h.2⟩

/-- The steps of a run are those of its parts. -/
theorem eachStep_append {G : Pool C σ α → ℕ → Prop} {sched more : List ℕ} :
    EachStep M G P (sched ++ more) ↔ EachStep M G P sched ∧ EachStep M G (P.run M sched) more := by
  induction sched generalizing P with
  | nil => exact (iff_of_eq (true_and _)).symm
  | cons i sched ih => exact (and_congr_right fun _ => ih).trans and_assoc.symm

/-- The last step of the run meets the condition. -/
theorem EachStep.last {G : Pool C σ α → ℕ → Prop} {sched : List ℕ} {i : ℕ}
    (h : EachStep M G P (sched ++ [i])) : G (P.run M sched) i := by
  induction sched generalizing P with
  | nil => exact h.1
  | cons j sched ih => exact ih h.2

/-- What a step that meets a condition does, as far as an invariant tells it, is done at each step. -/
theorem EachStep.of_inv {I : Pool C σ α → Prop} {G : Pool C σ α → ℕ → Prop}
    {R : Pool C σ α → Pool C σ α → Prop}
    (hstep : ∀ P i, I P → G P i → I (P.step M i) ∧ R P (P.step M i)) {sched : List ℕ} (h : I P)
    (hG : EachStep M G P sched) : EachStep M (fun P i => R P (P.step M i)) P sched := by
  induction sched generalizing P with
  | nil => trivial
  | cons i sched ih =>
    have hnext := hstep P i h hG.1
    exact ⟨hnext.2, ih hnext.1 hG.2⟩

@[simp] theorem eventsOf_append (i : ℕ) (l₁ l₂ : List (ℕ × Event C)) :
    eventsOf i (l₁ ++ l₂) = eventsOf i l₁ ++ eventsOf i l₂ := by
  simp [eventsOf]

theorem eventsOf_singleton (i j : ℕ) (v : Event C) :
    eventsOf i [(j, v)] = if j = i then [v] else [] := by
  by_cases h : j = i <;> simp [eventsOf, h]

theorem mem_eventsOf {i : ℕ} {ev : Event C} {log : List (ℕ × Event C)} :
    ev ∈ eventsOf i log ↔ (i, ev) ∈ log := by
  simp only [eventsOf, List.mem_filterMap, Prod.exists]
  constructor
  · rintro ⟨j, ev', hmem, h⟩
    split_ifs at h with hj
    obtain rfl := Option.some.inj h
    exact hj ▸ hmem
  · intro h
    exact ⟨i, ev, h, if_pos rfl⟩

/-- The step of a pool leaves the number of threads as it is. -/
@[simp] theorem length_step (M : Sem C σ) (P : Pool C σ α) (i : ℕ) :
    (P.step M i).threads.length = P.threads.length := by
  rcases step_cases M P i with h | ⟨β, e, k, -, h⟩ <;> rw [h]
  simp

@[simp] theorem length_run (M : Sem C σ) (P : Pool C σ α) (sched : List ℕ) :
    (P.run M sched).threads.length = P.threads.length :=
  run_inv (I := fun Q => Q.threads.length = P.threads.length)
    (fun Q i h => (length_step M Q i).trans h) rfl sched

theorem run_append (M : Sem C σ) (P : Pool C σ α) (sched more : List ℕ) :
    P.run M (sched ++ more) = (P.run M sched).run M more := by
  simp [run]

/-- Every thread has returned. -/
def Complete (P : Pool C σ α) : Prop :=
  ∀ (i : ℕ) (p : Prog C α), P.threads[i]? = some p → ∃ a, p = .ret a

theorem complete_of_returned (h : P.threads.all fun p => (returned p).isSome) : P.Complete := by
  intro i p hp
  have hret := List.all_eq_true.1 h p (List.mem_of_getElem? hp)
  cases p with
  | ret a => exact ⟨a, rfl⟩
  | act e k => cases hret

/-- When every thread has returned, nothing moves any more. -/
theorem Complete.run (h : P.Complete) (sched : List ℕ) : P.run M sched = P := by
  induction sched with
  | nil => rfl
  | cons i sched ih =>
    rcases step_cases M P i with hs | ⟨β, e, k, hi, -⟩
    · rw [run_cons, hs, ih]
    · obtain ⟨a, ha⟩ := h i _ hi
      cases ha

/-- A thread that runs by itself does what its program does. -/
theorem run_alone {p : Prog C α} (h : P.threads[i]? = some p) :
    ∃ sched, (P.run M sched).threads = P.threads.set i (.ret (p.exec M P.state).val) ∧
      (P.run M sched).state = (p.exec M P.state).state := by
  induction p generalizing P with
  | ret a =>
    refine ⟨[], ?_, rfl⟩
    obtain ⟨hlt, hi⟩ := List.getElem?_eq_some_iff.1 h
    rw [run_nil, Prog.exec_ret, ← hi, List.set_getElem_self]
  | act e k ih =>
    have hlt : i < P.threads.length := (List.getElem?_eq_some_iff.1 h).1
    have hthreads : (P.step M i).threads = P.threads.set i (k (M.step e P.state).1) := by
      simp [step, h]
    have hstate : (P.step M i).state = (M.step e P.state).2 := by simp [step, h]
    obtain ⟨sched, hrun, hend⟩ := ih (M.step e P.state).1 (P := P.step M i) (by
      rw [hthreads, List.getElem?_set_self hlt])
    refine ⟨i :: sched, ?_, ?_⟩
    · rw [run_cons, hrun, hthreads, hstate, List.set_set]
      rfl
    · rw [run_cons, hend, hstate]
      rfl

/-- The state after some of the threads have run one after the other. -/
def afterThreads (M : Sem C σ) (P : Pool C σ α) : List ℕ → σ → σ
  | [], s => s
  | i :: order, s => afterThreads M P order (P.threads[i]?.elim s fun p => (p.exec M s).state)

theorem afterThreads_concat (order : List ℕ) (s : σ) :
    P.afterThreads M (order ++ [i]) s =
      P.threads[i]?.elim (P.afterThreads M order s) fun p =>
        (p.exec M (P.afterThreads M order s)).state := by
  induction order generalizing s with
  | nil => rfl
  | cons j order ih => exact ih _

/-- **The threads can run one after the other**, in any order. -/
theorem run_inOrder {order : List ℕ} (horder : order.Nodup) :
    ∃ sched, (P.run M sched).state = P.afterThreads M order P.state ∧
      ∀ j p, (P.run M sched).threads[j]? = some p →
        if j ∈ order then ∃ a, p = .ret a else P.threads[j]? = some p := by
  induction order using List.reverseRecOn with
  | nil => exact ⟨[], rfl, fun j p hj => by simpa using hj⟩
  | append_singleton order i ih =>
    obtain ⟨hnodup, -, hi⟩ := List.nodup_append.1 horder
    obtain ⟨sched, hstate, hthreads⟩ := ih hnodup
    have hnot : i ∉ order := fun hmem => hi i hmem i (List.mem_singleton_self i) rfl
    rw [afterThreads_concat]
    cases hp : (P.run M sched).threads[i]? with
    | none =>
      have hnone : P.threads[i]? = none := by
        rw [List.getElem?_eq_none_iff] at hp ⊢
        rwa [length_run] at hp
      refine ⟨sched, by rw [hnone, hstate]; rfl, fun j p hj => ?_⟩
      have hji : j ≠ i := by
        rintro rfl
        cases hp.symm.trans hj
      simpa [hji] using hthreads j p hj
    | some p =>
      have hsome : P.threads[i]? = some p := by simpa [hnot] using hthreads i p hp
      obtain ⟨more, hset, hmore⟩ := run_alone (M := M) hp
      refine ⟨sched ++ more, ?_, fun j q hj => ?_⟩
      · rw [run_append, hmore, hsome, hstate]
        rfl
      · rw [run_append, hset] at hj
        by_cases hji : j = i
        · subst hji
          have hlt : j < (P.run M sched).threads.length := (List.getElem?_eq_some_iff.1 hp).1
          rw [List.getElem?_set_self hlt] at hj
          rw [if_pos (by simp)]
          exact ⟨_, (Option.some.inj hj).symm⟩
        · rw [List.getElem?_set_ne (Ne.symm hji)] at hj
          simpa [hji] using hthreads j q hj

/-- What has happened stays in the log. -/
theorem mem_log_run {x : ℕ × Event C} (h : x ∈ P.log) (sched : List ℕ) :
    x ∈ (P.run M sched).log := by
  refine run_inv (I := fun Q => x ∈ Q.log) (fun Q i hQ => ?_) h sched
  rcases step_cases M Q i with hs | ⟨β, e, k, -, hs⟩
  · rw [hs]
    exact hQ
  · rw [hs]
    exact List.mem_append_left _ hQ

section Labelled

/-! Threads that run the programs of a list of labels, such as the calls of an interface. -/

variable {ι : Type*} (prog : ι → Prog C α) (calls : List ι) (s : σ) (sched : List ℕ)

/-- Each thread has followed its own program so far. -/
def Tracks (P : Pool C σ α) : Prop :=
  ∀ i p, P.threads[i]? = some p →
    ∃ c, calls[i]? = some c ∧ (prog c).Follows (eventsOf i P.log) p

theorem tracks_start : Tracks prog calls (start (calls.map prog) s) := by
  intro i p hp
  obtain ⟨c, hc, rfl⟩ : ∃ c, calls[i]? = some c ∧ prog c = p := by simpa [start] using hp
  exact ⟨c, hc, .refl _⟩

variable {prog calls} in
theorem Tracks.step {P : Pool C σ α} (hP : Tracks prog calls P) (j : ℕ) :
    Tracks prog calls (P.step M j) := by
  intro i p hp
  rcases step_cases M P j with hs | ⟨β, e, k, hj, hs⟩
  · rw [hs] at hp ⊢
    exact hP i p hp
  · rw [hs] at hp ⊢
    by_cases hji : j = i
    · subst hji
      have hlt : j < P.threads.length := (List.getElem?_eq_some_iff.1 hj).1
      obtain rfl : k (M.step e P.state).1 = p := by simpa [hlt] using hp
      obtain ⟨c, hc, hf⟩ := hP _ _ hj
      exact ⟨c, hc, by simpa [eventsOf_singleton] using hf.snoc (M.step e P.state).1⟩
    · obtain ⟨c, hc, hf⟩ := hP i p (by simpa [List.getElem?_set_ne hji] using hp)
      exact ⟨c, hc, by simpa [eventsOf_singleton, hji] using hf⟩

/-- **Each thread follows its own program**, whatever the other threads do. -/
theorem follows {p : Prog C α}
    (hp : ((start (calls.map prog) s).run M sched).threads[i]? = some p) :
    ∃ c, calls[i]? = some c ∧
      (prog c).Follows (eventsOf i ((start (calls.map prog) s).run M sched).log) p :=
  run_inv (I := Tracks prog calls) (fun _ j hP => hP.step j) (tracks_start prog calls s) sched i p hp

/-- The state of the pool after thread `i` has taken the command `e` and gone on with `k`. -/
def advance (M : Sem C σ) (P : Pool C σ α) (i : ℕ) (e : C β) (k : β → Prog C α) : Pool C σ α where
  threads := P.threads.set i (k (M.step e P.state).1)
  state := (M.step e P.state).2
  log := P.log ++ [(i, ⟨e, (M.step e P.state).1⟩)]
  done := P.done ++ ((returned (k (M.step e P.state).1)).map (i, ·)).toList

/-- **The invariant rule for labelled threads**: at each step it is known which program the
moving thread has followed so far. -/
theorem run_labelled_inv {I : Pool C σ α → Prop} (h : I (start (calls.map prog) s))
    (hstep : ∀ (P : Pool C σ α) (i : ℕ) (c : ι) {β : Type} (e : C β) (k : β → Prog C α),
      calls[i]? = some c → (prog c).Follows (eventsOf i P.log) (.act e k) → I P →
        I (P.advance M i e k)) :
    I ((start (calls.map prog) s).run M sched) := by
  induction sched using List.reverseRecOn with
  | nil => exact h
  | append_singleton sched i ih =>
    rw [run_concat]
    rcases step_cases M ((start (calls.map prog) s).run M sched) i with hs | ⟨β, e, k, hi, hs⟩
    · rw [hs]
      exact ih
    · obtain ⟨c, hc, hf⟩ := follows prog calls s sched hi
      rw [hs]
      exact hstep _ i c e k hc hf ih

variable {prog calls sched} in
/-- **The invariant rule for labelled threads and runs that meet a condition at each step**, from any
pool in which each thread has followed its own program. -/
theorem run_tracked_inv_of {I : Pool C σ α → Prop} {G : Pool C σ α → ℕ → Prop}
    (htracks : Tracks prog calls P) (h : I P) (hG : EachStep M G P sched)
    (hstep : ∀ (P : Pool C σ α) (i : ℕ) (c : ι) {β : Type} (e : C β) (k : β → Prog C α),
      calls[i]? = some c → P.threads[i]? = some (.act e k) →
        (prog c).Follows (eventsOf i P.log) (.act e k) → I P → G P i → I (P.advance M i e k)) :
    I (P.run M sched) := by
  refine (run_inv_of (I := fun P => Tracks prog calls P ∧ I P) (fun P i hP hGP => ?_)
    ⟨htracks, h⟩ hG).2
  refine ⟨hP.1.step i, ?_⟩
  rcases step_cases M P i with hs | ⟨β, e, k, hi, hs⟩
  · rw [hs]
    exact hP.2
  · obtain ⟨c, hc, hf⟩ := hP.1 i _ hi
    rw [hs]
    exact hstep P i c e k hc hi hf hP.2 hGP

/-- The rule for runs from the start. -/
theorem run_labelled_inv_of {I : Pool C σ α → Prop} {G : Pool C σ α → ℕ → Prop}
    (h : I (start (calls.map prog) s)) (hG : EachStep M G (start (calls.map prog) s) sched)
    (hstep : ∀ (P : Pool C σ α) (i : ℕ) (c : ι) {β : Type} (e : C β) (k : β → Prog C α),
      calls[i]? = some c → P.threads[i]? = some (.act e k) →
        (prog c).Follows (eventsOf i P.log) (.act e k) → I P → G P i → I (P.advance M i e k)) :
    I ((start (calls.map prog) s).run M sched) :=
  run_tracked_inv_of (tracks_start prog calls s) h hG hstep

/-- What the steps of labelled threads do, in runs that meet a condition at each step. -/
theorem eachStep_labelled {I : Pool C σ α → Prop} {G : Pool C σ α → ℕ → Prop}
    {R : Pool C σ α → Pool C σ α → Prop} (hrefl : ∀ P, R P P) (h : I (start (calls.map prog) s))
    (hG : EachStep M G (start (calls.map prog) s) sched)
    (hstep : ∀ (P : Pool C σ α) (i : ℕ) (c : ι) {β : Type} (e : C β) (k : β → Prog C α),
      calls[i]? = some c → P.threads[i]? = some (.act e k) →
        (prog c).Follows (eventsOf i P.log) (.act e k) → I P → G P i →
          I (P.advance M i e k) ∧ R P (P.advance M i e k)) :
    EachStep M (fun P i => R P (P.step M i)) (start (calls.map prog) s) sched := by
  refine EachStep.of_inv (I := fun P => Tracks prog calls P ∧ I P) (fun P i hP hGP => ?_)
    ⟨tracks_start prog calls s, h⟩ hG
  have htracks := hP.1.step (M := M) i
  rcases step_cases M P i with hs | ⟨β, e, k, hi, hs⟩
  · rw [hs]
    exact ⟨hP, hrefl P⟩
  · rw [hs] at htracks ⊢
    obtain ⟨c, hc, hf⟩ := hP.1 i _ hi
    have hadvance := hstep P i c e k hc hi hf hP.2 hGP
    exact ⟨⟨htracks, hadvance.1⟩, hadvance.2⟩

end Labelled

/-- A thread that returned a value is left with it. -/
theorem done_threads (ps : List (Prog C α)) (s : σ) (sched : List ℕ) {i : ℕ} {a : α}
    (h : (i, a) ∈ ((start ps s).run M sched).done) :
    ((start ps s).run M sched).threads[i]? = some (.ret a) := by
  refine run_inv (I := fun P : Pool C σ α => ∀ i a, (i, a) ∈ P.done →
    P.threads[i]? = some (.ret a)) (fun P j hP i a hdone => ?_) (by simp [start]) sched i a h
  rcases step_cases M P j with hs | ⟨β, e, k, hj, hs⟩
  · rw [hs] at hdone ⊢
    exact hP i a hdone
  · rw [hs] at hdone ⊢
    have hlt : j < P.threads.length := (List.getElem?_eq_some_iff.1 hj).1
    rcases List.mem_append.1 hdone with hold | hnew
    · have hi := hP i a hold
      have hji : j ≠ i := by
        rintro rfl
        cases hj.symm.trans hi
      simpa [List.getElem?_set_ne hji] using hi
    · cases hk : k (M.step e P.state).1 with
      | act e' k' => simp [returned, hk] at hnew
      | ret b =>
        obtain ⟨rfl, rfl⟩ : i = j ∧ a = b := by simpa [returned, hk] using hnew
        simp [hlt]

end Pool

end Foundations
