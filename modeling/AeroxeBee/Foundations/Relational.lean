import AeroxeBee.Foundations.Prog

/-!
# Two runs compared

A relational logic for programs over commands. `Relates M R p p' Q` says that the runs of `p` and
`p'` from states related by `R` end with values and states related by `Q`. With `p = p'` this is
how one states that a program does not depend on what `R` leaves open: `Agrees` is the case in
which the values are equal and the states are again related.

* `Relates.bind`: runs are compared part by part;
* `Only.agrees`: it is enough to compare the commands that a program issues;
* `Pool.feed_threads_eq`: programs that run among others do not depend on which others these are.
-/

namespace Foundations.Prog

universe u v

variable {C : Type → Type v} {σ : Type u} {α γ : Type}

/-- The runs of two programs from related states end with related values and states. -/
def Relates (M : Sem C σ) (R : σ → σ → Prop) (p p' : Prog C α) (Q : α → σ → α → σ → Prop) : Prop :=
  ∀ s s', R s s' → Q (p.exec M s).val (p.exec M s).state (p'.exec M s').val (p'.exec M s').state

/-- The runs of a program from related states have equal values and end in related states. -/
def Agrees (M : Sem C σ) (R : σ → σ → Prop) (p : Prog C α) : Prop :=
  Relates M R p p fun a s a' s' => a = a' ∧ R s s'

variable {M : Sem C σ} {R : σ → σ → Prop} {p p' : Prog C α} {Q : α → σ → α → σ → Prop}

/-- Composed programs are compared part by part. -/
theorem Relates.bind {f f' : α → Prog C γ} {T : γ → σ → γ → σ → Prop} (hp : Relates M R p p' Q)
    (hf : ∀ a a', Relates M (fun s s' => Q a s a' s') (f a) (f' a') T) :
    Relates M R (p >>= f) (p' >>= f') T := by
  intro s s' h
  rw [exec_bind, exec_bind]
  exact hf _ _ _ _ (hp s s' h)

theorem Agrees.bind {f : α → Prog C γ} (hp : Agrees M R p) (hf : ∀ a, Agrees M R (f a)) :
    Agrees M R (p >>= f) := by
  refine Relates.bind hp fun a a' s s' h => ?_
  obtain ⟨rfl, hs⟩ := h
  exact hf a s s' hs

theorem agrees_ret (a : α) : Agrees M R (ret a) := fun _ _ h => ⟨rfl, h⟩

/-- **It is enough to compare the commands** that a program can issue. -/
theorem Only.agrees {P : ∀ {β : Type}, C β → Prop} (hp : p.Only P)
    (hstep : ∀ {β : Type} (e : C β) (s s' : σ), P e → R s s' →
      (M.step e s).1 = (M.step e s').1 ∧ R (M.step e s).2 (M.step e s').2) :
    Agrees M R p := by
  induction p with
  | ret a => exact agrees_ret a
  | act e k ih =>
    intro s s' h
    obtain ⟨hval, hstate⟩ := hstep e s s' hp.1 h
    have hk := ih (M.step e s).1 (hp.2 _) _ _ hstate
    rw [exec_act, exec_act, ← hval]
    exact hk

end Foundations.Prog

/-! ## Programs among others -/

namespace Foundations.Pool

universe u v

variable {C : Type → Type v} {σ : Type u} {α X : Type}

/-- The run of a pool in which every step is given an input before it is taken. -/
def feed (M : Sem C σ) (put : X → σ → σ) (P : Pool C σ α) (sched : List (ℕ × X)) : Pool C σ α :=
  sched.foldl (fun P x => { P with state := put x.2 P.state }.step M x.1) P

/-- A relation of states that some commands respect, seeing no more of the state than it compares,
and that others do not affect. -/
structure Separates (M : Sem C σ) (put : X → σ → σ) (R : σ → σ → Prop)
    (own foreign : ∀ {β : Type}, C β → Prop) : Prop where
  symm : ∀ {s s'}, R s s' → R s' s
  put_left : ∀ {x s s'}, R s s' → R (put x s) s'
  step_own : ∀ {β : Type} {e : C β} {x s s'}, own e → R s s' →
    (M.step e (put x s)).1 = (M.step e (put x s')).1 ∧
      R (M.step e (put x s)).2 (M.step e (put x s')).2
  step_foreign : ∀ {β : Type} {e : C β} {x s s'}, foreign e → R s s' →
    R (M.step e (put x s)).2 s'

variable {M : Sem C σ} {put : X → σ → σ} {R : σ → σ → Prop}
  {own foreign : ∀ {β : Type}, C β → Prop}

/-- The programs in a pool from a number on issue only commands of a kind. -/
def From (foreign : ∀ {β : Type}, C β → Prop) (n : ℕ) (P : Pool C σ α) : Prop :=
  ∀ i, n ≤ i → ∀ p, P.threads[i]? = some p → p.Only foreign

/-- Two pools whose first threads are the same, and issue only some of the commands. -/
structure Alike (R : σ → σ → Prop) (own foreign : ∀ {β : Type}, C β → Prop) (n : ℕ)
    (P P' : Pool C σ α) : Prop where
  related : R P.state P'.state
  threads : ∀ i < n, P.threads[i]? = P'.threads[i]?
  own : ∀ i < n, ∀ p, P.threads[i]? = some p → p.Only own
  left : P.From foreign n
  right : P'.From foreign n

variable {n i : ℕ} {P P' : Pool C σ α} {x : X}

theorem Alike.symm (hsep : Separates M put R own foreign) (h : Alike R own foreign n P P') :
    Alike R own foreign n P' P :=
  ⟨hsep.symm h.related, fun i hi => (h.threads i hi).symm,
    fun i hi p hp => h.own i hi p ((h.threads i hi).trans hp), h.right, h.left⟩

/-- A step of one of the other threads. -/
theorem Alike.step_foreign (hsep : Separates M put R own foreign)
    (h : Alike R own foreign n P P') (hi : n ≤ i) :
    Alike R own foreign n ({ P with state := put x P.state }.step M i) P' := by
  rcases step_cases M { P with state := put x P.state } i with hs | ⟨β, e, k, hthread, hs⟩
  · rw [hs]
    exact ⟨hsep.put_left h.related, h.threads, h.own, h.left, h.right⟩
  · rw [hs]
    have honly := h.left i hi _ hthread
    have hother {j : ℕ} (hj : j < n) : i ≠ j := by omega
    refine ⟨hsep.step_foreign honly.1 h.related, fun j hj => ?_, fun j hj p hp => ?_,
      fun j hj p hp => ?_, h.right⟩
    · rw [List.getElem?_set_ne (hother hj)]
      exact h.threads j hj
    · rw [List.getElem?_set_ne (hother hj)] at hp
      exact h.own j hj p hp
    · by_cases hji : i = j
      · subst hji
        have hlt : i < P.threads.length := (List.getElem?_eq_some_iff.1 hthread).1
        rw [List.getElem?_set_self hlt] at hp
        obtain rfl := Option.some.inj hp
        exact honly.2 _
      · rw [List.getElem?_set_ne hji] at hp
        exact h.left j hj p hp

/-- A step of one of the first threads. -/
theorem Alike.step_own (hsep : Separates M put R own foreign)
    (h : Alike R own foreign n P P') (hi : i < n) :
    Alike R own foreign n ({ P with state := put x P.state }.step M i)
      ({ P' with state := put x P'.state }.step M i) := by
  have hput : R (put x P.state) (put x P'.state) :=
    hsep.put_left (hsep.symm (hsep.put_left (hsep.symm h.related)))
  have hidle (hstep : { P with state := put x P.state }.step M i = { P with state := put x P.state })
      (hstep' : { P' with state := put x P'.state }.step M i = { P' with state := put x P'.state }) :
      Alike R own foreign n ({ P with state := put x P.state }.step M i)
        ({ P' with state := put x P'.state }.step M i) := by
    rw [hstep, hstep']
    exact ⟨hput, h.threads, h.own, h.left, h.right⟩
  have hsame := h.threads i hi
  cases hthread : P.threads[i]? with
  | none =>
    rw [hthread] at hsame
    exact hidle (by simp [step, hthread]) (by simp [step, ← hsame])
  | some p =>
    rw [hthread] at hsame
    cases p with
    | ret a => exact hidle (by simp [step, hthread]) (by simp [step, ← hsame])
    | act e k =>
      have honly := h.own i hi _ hthread
      obtain ⟨hreply, hstate⟩ := hsep.step_own (x := x) honly.1 h.related
      have hlt : i < P.threads.length := (List.getElem?_eq_some_iff.1 hthread).1
      have hlt' : i < P'.threads.length := (List.getElem?_eq_some_iff.1 hsame.symm).1
      have hother {j : ℕ} (hj : n ≤ j) : i ≠ j := by omega
      simp only [step, hthread, ← hsame]
      refine ⟨hstate, fun j hj => ?_, fun j hj p hp => ?_, fun j hj p hp => ?_, fun j hj p hp => ?_⟩
      · by_cases hji : i = j
        · subst hji
          rw [List.getElem?_set_self hlt, List.getElem?_set_self hlt', hreply]
        · rw [List.getElem?_set_ne hji, List.getElem?_set_ne hji]
          exact h.threads j hj
      · by_cases hji : i = j
        · subst hji
          rw [List.getElem?_set_self hlt] at hp
          obtain rfl := Option.some.inj hp
          exact honly.2 _
        · rw [List.getElem?_set_ne hji] at hp
          exact h.own j hj p hp
      · rw [List.getElem?_set_ne (hother hj)] at hp
        exact h.left j hj p hp
      · rw [List.getElem?_set_ne (hother hj)] at hp
        exact h.right j hj p hp

/-- **Programs among others do not depend on which others these are.** -/
theorem feed_threads_eq (hsep : Separates M put R own foreign) (h : Alike R own foreign n P P')
    (sched : List (ℕ × X)) (hi : i < n) :
    (P.feed M put sched).threads[i]? = (P'.feed M put sched).threads[i]? := by
  suffices hrun : Alike R own foreign n (P.feed M put sched) (P'.feed M put sched) from
    hrun.threads i hi
  induction sched generalizing P P' with
  | nil => exact h
  | cons x sched ih =>
    refine ih ?_
    by_cases hx : x.1 < n
    · exact h.step_own hsep hx
    · have hx := Nat.le_of_not_lt hx
      have hleft := h.step_foreign (x := x.2) hsep hx
      exact ((hleft.symm hsep).step_foreign (x := x.2) hsep hx).symm hsep

end Foundations.Pool
