import AeroxeBee.Foundations.Prog

/-!
# Middleware

A handler is a program that depends on the context of a request. A middleware stands in front of
a handler: in a given context it is a program (a `Front`) that hands the request on, perhaps in
another context, or answers the request itself, whatever the handler is.

* `Passes.comp`, `Passes.answers`, `Answers.comp`: what two middlewares do, one behind the other;
* `Answers.not_reaches`: a request that is answered does not reach the handler;
* `Decides`: the condition under which a request is handed on, with rules for what a front
  consists of (`decides_next`, `decides_answer`, `Decides.act`) and for what follows it
  (`Decides.comp`).

A middleware that only checks the request before it hands it on is told by the check alone (`ofCheck`);
`passed_of_follows` says what is known of a request that has passed several checks.
-/

namespace Foundations

universe u v

variable {C : Type → Type v} {σ : Type u} {X R : Type}

/-- A program for each context. -/
abbrev Handler (C : Type → Type v) (X R : Type) := X → Prog C R

/-- What stands in front of a handler is a handler again. -/
abbrev Middleware (C : Type → Type v) (X R : Type) := Handler C X R → Handler C X R

/-- A middleware in a given context. -/
abbrev Front (C : Type → Type v) (X R : Type) := Handler C X R → Prog C R

namespace Middleware

variable (M : Sem C σ)

/-- The request is handed on in the context `x'`, after the events `evs`, in the state `s'`. -/
def Passes (f : Front C X R) (s : σ) (x' : X) (s' : σ) (evs : List (Event C)) : Prop :=
  ∀ next : Handler C X R, (f next).exec M s =
    ⟨((next x').exec M s').val, ((next x').exec M s').state, evs ++ ((next x').exec M s').trace⟩

/-- The request is answered, whatever the handler is. -/
def Answers (f : Front C X R) (s : σ) (o : Outcome C σ R) : Prop :=
  ∀ next : Handler C X R, (f next).exec M s = o

/-- The request reaches the handler, whatever that is. -/
def Reaches (f : Front C X R) (s : σ) : Prop := ∃ x' s' evs, Passes M f s x' s' evs

variable {M} {f : Front C X R} {m : Middleware C X R} {x' x'' : X} {s s' s'' : σ}
  {evs evs' : List (Event C)} {o : Outcome C σ R}

theorem Passes.reaches (h : Passes M f s x' s' evs) : Reaches M f s := ⟨x', s', evs, h⟩

/-- What both hand on, the two together hand on. -/
theorem Passes.comp (h : Passes M f s x' s' evs)
    (h' : Passes M (fun next => m next x') s' x'' s'' evs') :
    Passes M (fun next => f (m next)) s x'' s'' (evs ++ evs') := by
  intro next
  rw [h (m next), h' next, List.append_assoc]

/-- What is handed on and then answered is answered. -/
theorem Passes.answers (h : Passes M f s x' s' evs)
    (h' : Answers M (fun next => m next x') s' o) :
    Answers M (fun next => f (m next)) s ⟨o.val, o.state, evs ++ o.trace⟩ := by
  intro next
  rw [h (m next), h' next]

/-- What has been answered does not come to the next middleware. -/
theorem Answers.comp (h : Answers M f s o) (m : Middleware C X R) :
    Answers M (fun next => f (m next)) s o :=
  fun next => h (m next)

/-- **A request that is answered does not reach the handler.** -/
theorem Answers.not_reaches [Nontrivial R] (h : Answers M f s o) : ¬ Reaches M f s := by
  rintro ⟨x', s', evs, hpasses⟩
  obtain ⟨a, b, hab⟩ := exists_pair_ne R
  -- two handlers that do not agree on the answer
  have hval : ∀ r : R, o.val = r := by
    intro r
    have hr := (h fun _ => .ret r).symm.trans (hpasses fun _ => .ret r)
    exact congrArg Outcome.val hr
  exact hab ((hval a).symm.trans (hval b))

/-! ## Conditions -/

variable (M) in
/-- The request is handed on if `p`, in the context `x'` and the state `s'`, and is answered
otherwise. -/
def Decides (f : Front C X R) (s : σ) (p : Prop) (x' : X) (s' : σ) : Prop :=
  (p → ∃ evs, Passes M f s x' s' evs) ∧ (¬ p → ∃ o, Answers M f s o)

variable {p q : Prop}

/-- The handler itself. -/
theorem decides_next (hp : p) : Decides M (fun next => next x' : Front C X R) s p x' s := by
  refine ⟨fun _ => ⟨[], fun next => ?_⟩, fun hnot => absurd hp hnot⟩
  rw [List.nil_append]

/-- An answer. -/
theorem decides_answer (hp : ¬ p) (r : R) :
    Decides M (fun _ => .ret r : Front C X R) s p x' s' :=
  ⟨fun h => absurd h hp, fun _ => ⟨⟨r, s, []⟩, fun _ => rfl⟩⟩

/-- A program that comes first. -/
theorem Decides.bind {α : Type} {prog : Prog C α} {k : α → Front C X R}
    (h : Decides M (k (prog.exec M s).val) (prog.exec M s).state p x' s') :
    Decides M (fun next => prog >>= fun a => k a next) s p x' s' := by
  constructor
  · intro hp
    obtain ⟨evs, hpasses⟩ := h.1 hp
    refine ⟨(prog.exec M s).trace ++ evs, fun next => ?_⟩
    rw [Prog.exec_bind, hpasses next, List.append_assoc]
  · intro hp
    obtain ⟨o, hanswers⟩ := h.2 hp
    refine ⟨⟨o.val, o.state, (prog.exec M s).trace ++ o.trace⟩, fun next => ?_⟩
    rw [Prog.exec_bind, hanswers next]

/-- What two middlewares hand on has to meet both conditions. -/
theorem Decides.comp (h : Decides M f s p x' s')
    (h' : Decides M (fun next => m next x') s' q x'' s'') :
    Decides M (fun next => f (m next)) s (p ∧ q) x'' s'' := by
  constructor
  · rintro ⟨hp, hq⟩
    obtain ⟨evs, hpasses⟩ := h.1 hp
    obtain ⟨evs', hpasses'⟩ := h'.1 hq
    exact ⟨evs ++ evs', hpasses.comp hpasses'⟩
  · intro hnot
    by_cases hp : p
    · obtain ⟨evs, hpasses⟩ := h.1 hp
      obtain ⟨o, hanswers⟩ := h'.2 fun hq => hnot ⟨hp, hq⟩
      exact ⟨_, hpasses.answers hanswers⟩
    · obtain ⟨o, hanswers⟩ := h.2 hp
      exact ⟨o, hanswers.comp m⟩

/-- **The request reaches the handler exactly if the condition is met.** -/
theorem Decides.reaches_iff [Nontrivial R] (h : Decides M f s p x' s') : Reaches M f s ↔ p := by
  constructor
  · intro hreaches
    by_contra hp
    obtain ⟨o, hanswers⟩ := h.2 hp
    exact hanswers.not_reaches hreaches
  · intro hp
    obtain ⟨evs, hpasses⟩ := h.1 hp
    exact hpasses.reaches

/-! ## Checks -/

/-- The middleware that hands on what passes a check, and answers what does not. -/
def ofCheck (check : X → Prog C (Except R X)) : Middleware C X R := fun next x => do
  match ← check x with
  | .error r => return r
  | .ok x' => next x'

/-- The checks of a list, one behind the other. -/
def checkAll {E : Type} : List (X → Prog C (Except E X)) → X → Prog C (Except E X)
  | [], x => return .ok x
  | check :: checks, x => do
    match ← check x with
    | .error e => return .error e
    | .ok x' => checkAll checks x'

/-- Checks one behind the other are middlewares one behind the other. -/
theorem ofCheck_checkAll (checks : List (X → Prog C (Except R X))) :
    ofCheck (checkAll checks) = fun next => checks.foldr ofCheck next := by
  funext next
  induction checks with
  | nil => rfl
  | cons check checks ih =>
    funext x
    rw [List.foldr_cons, ← ih]
    simp only [ofCheck, checkAll, bind_assoc]
    congr 1
    funext reply
    cases reply <;> rfl

section Passed

variable {G E : Type} {P : G → X → X → Prop} {run : G → X → Prog C (Except E X)}

/-- The context has gone through some guards, one after the other. -/
inductive Passed (P : G → X → X → Prop) : List G → X → X → Prop
  | nil (x : X) : Passed P [] x x
  | cons {g : G} {gs : List G} {x x' x'' : X} (h : P g x x') (hrest : Passed P gs x' x'') :
      Passed P (g :: gs) x x''

@[simp] theorem passed_nil {x x' : X} : Passed P [] x x' ↔ x' = x := by
  constructor
  · intro h
    cases h
    rfl
  · rintro rfl
    exact .nil _

@[simp] theorem passed_cons {g : G} {gs : List G} {x x'' : X} :
    Passed P (g :: gs) x x'' ↔ ∃ x', P g x x' ∧ Passed P gs x' x'' := by
  constructor
  · intro h
    cases h with
    | cons h hrest => exact ⟨_, h, hrest⟩
  · rintro ⟨x', h, hrest⟩
    exact .cons h hrest

/-- What every guard preserves, all of them preserve. -/
theorem Passed.inv {I : X → Prop} {gs : List G} {x x' : X} (h : Passed P gs x x')
    (hstep : ∀ g ∈ gs, ∀ x x', P g x x' → I x → I x') (hx : I x) : I x' := by
  induction h with
  | nil x => exact hx
  | cons h _ ih =>
    exact ih (fun g hg => hstep g (List.mem_cons_of_mem _ hg)) (hstep _ List.mem_cons_self _ _ h hx)

/-- **What has passed the checks of some guards has gone through the guards**, whatever the
environment answered. -/
theorem passed_of_follows {all evs : List (Event C)} {gs : List G} {x x' : X} (hevs : evs ⊆ all)
    (hP : ∀ g x x' evs, evs ⊆ all → (run g x).Follows evs (.ret (.ok x')) → P g x x')
    (h : (checkAll (gs.map run) x).Follows evs (.ret (.ok x'))) : Passed P gs x x' := by
  induction gs generalizing x evs with
  | nil =>
    obtain ⟨-, hx⟩ := Prog.follows_ret.1 h
    cases hx
    exact .nil _
  | cons g gs ih =>
    obtain ⟨reply, evs₁, evs₂, rfl, hcheck, hrest⟩ := Prog.Follows.of_bind h
    cases reply with
    | error e => cases (Prog.follows_ret.1 hrest).2
    | ok x₁ =>
      exact .cons (hP g x x₁ evs₁ (fun ev hev => hevs (List.mem_append_left _ hev)) hcheck)
        (ih (fun ev hev => hevs (List.mem_append_right _ hev)) hrest)

end Passed

end Middleware

end Foundations
