import AeroxeBee.Foundations.Prog
import Mathlib.Algebra.BigOperators.Group.Finset.Basic
import Mathlib.Tactic.Ring

/-!
# Programs that keep to a protocol

A protocol is an automaton over the commands of a program: it has states, says which commands may
be issued in each of them, and moves on with every event. Only the events it expects have to be
dealt with, so that a protocol can be one for runs in which nothing fails.

`Prog.Keeps` says that a program keeps to a protocol whatever the expected replies are;
`Prog.Keeps.of_follows` carries this to what is left of the program in the middle of a run.

Threads that each keep to a protocol are each in a phase, the state of their protocol.
`Pool.run_phases_inv` is the invariant rule for them, and `Pool.sum_of_eq_off` says how a quantity
that is summed over the threads changes with a step.
-/

namespace Foundations

universe u v

variable {C : Type → Type v} {α β γ S : Type}

/-- What may be issued in which state, which events are reckoned with, and how they are taken
account of. -/
structure Protocol (C : Type → Type v) (S : Type) where
  allows : S → {β : Type} → C β → Prop
  expects : Event C → Prop
  next : S → Event C → S

/-- A state that notes whether an event of some kind has occurred. -/
theorem foldl_note (f : Event C → Bool) (evs : List (Event C)) (s : Bool) :
    evs.foldl (fun s ev => s || f ev) s = (s || evs.any f) := by
  induction evs generalizing s with
  | nil => simp
  | cons ev evs ih => rw [List.foldl_cons, ih, List.any_cons, ← Bool.or_assoc]

/-- The protocol that allows everything and notes whether an event of some kind has occurred. -/
def Protocol.noting (f : Event C → Bool) : Protocol C Bool where
  allows _ := fun _ => True
  expects _ := True
  next s ev := s || f ev

namespace Prog

variable (R : Protocol C S)

/-- The program keeps to the protocol from a state on, and ends in states related to its value. -/
def Keeps (Q : S → α → Prop) : Prog C α → S → Prop
  | ret a, s => Q s a
  | act e k, s => R.allows s e ∧ ∀ b, R.expects ⟨e, b⟩ → (k b).Keeps Q (R.next s ⟨e, b⟩)

variable {R} {Q : S → α → Prop} {Q' : S → γ → Prop} {s : S}

theorem Keeps.bind {p : Prog C α} {f : α → Prog C γ} (hp : p.Keeps R Q s)
    (hf : ∀ s a, Q s a → (f a).Keeps R Q' s) : (p >>= f).Keeps R Q' s := by
  induction p generalizing s with
  | ret a => exact hf s a hp
  | act e k ih => exact ⟨hp.1, fun b hb => ih b (hp.2 b hb)⟩

/-- A program whose commands are all allowed and make no difference to the protocol. -/
theorem Keeps.of_only {A : ∀ {β : Type}, C β → Prop} {p : Prog C α} (hp : p.Only A)
    (hallows : ∀ {β : Type} (e : C β), A e → R.allows s e)
    (hnext : ∀ {β : Type} (e : C β) (b : β), A e → R.next s ⟨e, b⟩ = s) :
    p.Keeps R (fun s' _ => s' = s) s := by
  induction p with
  | ret a => rfl
  | act e k ih =>
    refine ⟨hallows e hp.1, fun b _ => ?_⟩
    rw [hnext e b hp.1]
    exact ih b (hp.2 b)

/-- A program whose commands are allowed in every state. -/
theorem keeps_of_only_forall {A : ∀ {β : Type}, C β → Prop} {p : Prog C α} (hp : p.Only A)
    (hallows : ∀ (s : S) {β : Type} (e : C β), A e → R.allows s e) (hQ : ∀ s a, Q s a) :
    p.Keeps R Q s := by
  induction p generalizing s with
  | ret a => exact hQ s a
  | act e k ih => exact ⟨hallows s e hp.1, fun b _ => ih b (hp.2 b)⟩

/-- A program whose commands are always allowed and preserve a property of the states. -/
theorem keeps_of_only_inv {A : ∀ {β : Type}, C β → Prop} {I : S → Prop} {p : Prog C α}
    (hp : p.Only A) (hallows : ∀ (s : S) {β : Type} (e : C β), A e → R.allows s e)
    (hnext : ∀ (s : S) {β : Type} (e : C β) (b : β), A e → I s → I (R.next s ⟨e, b⟩)) (hs : I s) :
    p.Keeps R (fun s' _ => I s') s := by
  induction p generalizing s with
  | ret a => exact hs
  | act e k ih => exact ⟨hallows s e hp.1, fun b _ => ih b (hp.2 b) (hnext s e b hp.1 hs)⟩

/-- **What is left of a program keeps to the protocol** from the state its events led to. -/
theorem Keeps.of_follows {p q : Prog C α} {evs : List (Event C)} (h : p.Follows evs q)
    (hp : p.Keeps R Q s) (hevs : ∀ ev ∈ evs, R.expects ev) :
    q.Keeps R Q (evs.foldl R.next s) := by
  induction h generalizing s with
  | refl p => exact hp
  | step e k b _ ih =>
    exact ih (hp.2 b (hevs _ List.mem_cons_self)) fun ev hev => hevs ev (List.mem_cons_of_mem _ hev)

/-- The run of a program that keeps to the protocol ends as the protocol says. -/
theorem Keeps.exec {σ : Type u} {p : Prog C α} (hp : p.Keeps R Q s) (M : Sem C σ) (w : σ)
    (hevs : ∀ ev ∈ (p.exec M w).trace, R.expects ev) :
    Q ((p.exec M w).trace.foldl R.next s) (p.exec M w).val :=
  Keeps.of_follows (follows_exec M p w) hp hevs

/-- A program no command of which brings an event that is noted. -/
theorem Keeps.noting_of_only {f : Event C → Bool} {p : Prog C α}
    (hp : p.Only fun e => ∀ b, f ⟨e, b⟩ = false) (s : Bool) :
    p.Keeps (.noting f) (fun s' _ => s' = s) s := by
  refine Keeps.of_only hp (fun _ _ => trivial) fun e b he => ?_
  change (s || f ⟨e, b⟩) = s
  rw [he b, Bool.or_false]

/-- What is noted of a run is whether such an event has occurred. -/
theorem Keeps.exec_noting {σ : Type u} {f : Event C → Bool} {Q : Bool → α → Prop} {p : Prog C α}
    (hp : p.Keeps (.noting f) Q false) (M : Sem C σ) (w : σ) :
    Q ((p.exec M w).trace.any f) (p.exec M w).val := by
  have hnoted := hp.exec M w fun _ _ => trivial
  have hfold : (p.exec M w).trace.foldl (Protocol.noting f).next false =
      (false || (p.exec M w).trace.any f) := foldl_note f _ false
  rwa [hfold, Bool.false_or] at hnoted

/-- The run of a program that keeps to the protocol ends as the protocol says, if from the states of a
kind the commands it allows bring expected events and lead to such states. -/
theorem Keeps.exec_of {σ : Type u} {M : Sem C σ} {I : σ → Prop}
    (hstep : ∀ (s : S) {β : Type} (e : C β) (w : σ), R.allows s e → I w →
      R.expects ⟨e, (M.step e w).1⟩ ∧ I (M.step e w).2)
    {p : Prog C α} (hp : p.Keeps R Q s) {w : σ} (hw : I w) :
    (∃ s', Q s' (p.exec M w).val) ∧ I (p.exec M w).state := by
  induction p generalizing s w with
  | ret a => exact ⟨⟨s, hp⟩, hw⟩
  | act e k ih =>
    obtain ⟨hexpected, hnext⟩ := hstep s e w hp.1 hw
    exact ih _ (hp.2 _ hexpected) hnext

/-- What a program can return with expected events is also as its protocol says. -/
theorem Can.and_keeps {A : Event C → Prop} {P : α → Prop} {p : Prog C α} (h : p.Can A P)
    (hp : p.Keeps R Q s) (hA : ∀ ev, A ev → R.expects ev) :
    p.Can A fun a => P a ∧ ∃ s', Q s' a := by
  induction p generalizing s with
  | ret a => exact ⟨h, s, hp⟩
  | act e k ih =>
    obtain ⟨b, hb, hk⟩ := h
    exact ⟨b, hb, ih b hk (hp.2 b (hA _ hb))⟩

/-- A program that keeps to a protocol issues only what the protocol allows. -/
theorem Keeps.only {A : ∀ {β : Type}, C β → Prop}
    (hallows : ∀ (s : S) {β : Type} (e : C β), R.allows s e → A e) (hevs : ∀ ev, R.expects ev)
    {p : Prog C α} (hp : p.Keeps R Q s) : p.Only A := by
  induction p generalizing s with
  | ret a => trivial
  | act e k ih => exact ⟨hallows s e hp.1, fun b => ih b (hp.2 b (hevs _))⟩

theorem Keeps.mono {Q₁ Q₂ : S → α → Prop} (h : ∀ s a, Q₁ s a → Q₂ s a) {p : Prog C α}
    (hp : p.Keeps R Q₁ s) : p.Keeps R Q₂ s := by
  induction p generalizing s with
  | ret a => exact h s a hp
  | act e k ih => exact ⟨hp.1, fun b hb => ih b (hp.2 b hb)⟩

/-- What a program can return holds at its end. -/
theorem Keeps.and_returns {P : α → Prop} {p : Prog C α} (hp : p.Keeps R Q s) (hret : p.Returns P) :
    p.Keeps R (fun s a => Q s a ∧ P a) s := by
  induction p generalizing s with
  | ret a => exact ⟨hp, hret⟩
  | act e k ih => exact ⟨hp.1, fun b hb => ih b (hp.2 b hb) (hret b)⟩

end Prog

/-! ## Threads in phases -/

namespace Pool

open Finset

variable {σ : Type u} {M : Sem C σ} (next : S → Event C → S) (s₀ : S)

/-- The state of the protocol of a thread. -/
def phase (P : Pool C σ α) (i : ℕ) : S := (eventsOf i P.log).foldl next s₀

variable {next s₀} {P : Pool C σ α} {i j : ℕ} {e : C β} {k : β → Prog C α}

/-- A step moves one thread on. -/
theorem phase_advance :
    (P.advance M i e k).phase next s₀ =
      Function.update (P.phase next s₀) i
        (next (P.phase next s₀ i) ⟨e, (M.step e P.state).1⟩) := by
  funext j
  by_cases h : j = i
  · subst h
    simp [phase, advance, eventsOf_singleton]
  · simp [phase, advance, eventsOf_singleton, h, Ne.symm h]

/-- A sum in which a step changes one summand. -/
theorem sum_of_eq_off {n : ℕ} (hi : i < n) {f g : ℕ → ℤ} (h : ∀ j, j ≠ i → g j = f j) :
    ∑ j ∈ range n, g j = ∑ j ∈ range n, f j + g i - f i := by
  rw [← add_sum_erase _ g (mem_range.2 hi), ← add_sum_erase _ f (mem_range.2 hi)]
  have hrest : ∑ j ∈ (range n).erase i, g j = ∑ j ∈ (range n).erase i, f j :=
    sum_congr rfl fun j hj => h j (ne_of_mem_erase hj)
  rw [hrest]
  ring

/-- A quantity that no command lessens is at each step at most what it is in the end. -/
theorem eachStep_le_run {f : σ → ℤ} {sched : List ℕ}
    (hmono : ∀ {β : Type} (e : C β) (s : σ), f s ≤ f (M.step e s).2) :
    EachStep M (fun Q i => f (Q.step M i).state ≤ f (P.run M sched).state) P sched := by
  have hstep (Q : Pool C σ α) (i : ℕ) : f Q.state ≤ f (Q.step M i).state := by
    rcases step_cases M Q i with h | ⟨β, e, k, -, h⟩
    · rw [h]
    · rw [h]
      exact hmono e Q.state
  have hrun (Q : Pool C σ α) (sched : List ℕ) : f Q.state ≤ f (Q.run M sched).state := by
    induction sched generalizing Q with
    | nil => exact le_refl _
    | cons i sched ih => exact (hstep Q i).trans (ih _)
  induction sched generalizing P with
  | nil => trivial
  | cons i sched ih => exact ⟨hrun _ sched, ih⟩

/-- The next command of a thread meets a condition. -/
def Meets (G : Pool C σ α → ℕ → ∀ {β : Type}, C β → Prop) (P : Pool C σ α) (i : ℕ) : Prop :=
  match P.threads[i]? with
  | some (.act e _) => G P i e
  | _ => True

theorem meets_of_act {G : Pool C σ α → ℕ → ∀ {β : Type}, C β → Prop} (h : Meets G P i)
    (hi : P.threads[i]? = some (.act e k)) : G P i e := by
  rw [Meets, hi] at h
  exact h

theorem meets_mono {G G' : Pool C σ α → ℕ → ∀ {β : Type}, C β → Prop}
    (hG : ∀ {β : Type} {e : C β}, G P i e → G' P i e) (h : Meets G P i) : Meets G' P i := by
  unfold Meets at h ⊢
  split at h
  · exact hG h
  · trivial

instance decidableMeets (G : Pool C σ α → ℕ → ∀ {β : Type}, C β → Prop)
    [∀ P i {β : Type} (e : C β), Decidable (G P i e)] (P : Pool C σ α) (i : ℕ) :
    Decidable (Meets G P i) := by
  unfold Meets
  split <;> infer_instance

section Labelled

variable {ι : Type*} {prog : ι → Prog C α} {calls : List ι} {s : σ} {sched : List ℕ}
  {R : ι → Protocol C S} {Q : ι → S → α → Prop}

/-- Every program keeps to its protocol, and the protocols differ only in what they allow. -/
structure Phased (prog : ι → Prog C α) (R : ι → Protocol C S) (Q : ι → S → α → Prop)
    (next : S → Event C → S) (s₀ : S) : Prop where
  next_eq : ∀ c, (R c).next = next
  expects : ∀ c ev, (R c).expects ev
  keeps : ∀ c, (prog c).Keeps (R c) (Q c) s₀

/-- What is left of a thread keeps to its protocol. -/
theorem Phased.of_follows (h : Phased prog R Q next s₀) {c : ι} {p : Prog C α}
    {evs : List (Event C)} (hf : (prog c).Follows evs p) :
    p.Keeps (R c) (Q c) (evs.foldl next s₀) := by
  have hkeeps := Prog.Keeps.of_follows hf (h.keeps c) fun ev _ => h.expects c ev
  rwa [h.next_eq c] at hkeeps

/-- A thread that has returned ended as its protocol says. -/
theorem Phased.returned (h : Phased prog R Q next s₀) {c : ι} {a : α} (hc : calls[i]? = some c)
    (hi : ((start (calls.map prog) s).run M sched).threads[i]? = some (.ret a)) :
    Q c (((start (calls.map prog) s).run M sched).phase next s₀ i) a := by
  obtain ⟨c', hc', hf⟩ := follows prog calls s sched hi
  obtain rfl := Option.some.inj (hc.symm.trans hc')
  exact h.of_follows hf

/-- **The invariant rule for threads that keep to protocols**, in runs that meet a condition at each
step, from any pool in which each thread has followed its own program. -/
theorem run_phases_inv_of_tracks (h : Phased prog R Q next s₀) {I : Pool C σ α → Prop}
    {G : Pool C σ α → ℕ → Prop} (htracks : Tracks prog calls P) (hP : I P)
    (hG : EachStep M G P sched)
    (hstep : ∀ (P : Pool C σ α) (i : ℕ) (c : ι) {β : Type} (e : C β) (k : β → Prog C α),
      calls[i]? = some c → P.threads[i]? = some (.act e k) →
        (R c).allows (P.phase next s₀ i) e →
        (∀ b, (k b).Keeps (R c) (Q c) (next (P.phase next s₀ i) ⟨e, b⟩)) → I P → G P i →
          I (P.advance M i e k)) :
    I (P.run M sched) := by
  refine run_tracked_inv_of htracks hP hG fun P i c β e k hc hi hf hP hGP => ?_
  have hkeeps := h.of_follows hf
  refine hstep P i c e k hc hi hkeeps.1 (fun b => ?_) hP hGP
  have hrest := hkeeps.2 b (h.expects c _)
  rwa [h.next_eq c] at hrest

/-- The rule for runs from the start. -/
theorem run_phases_inv (h : Phased prog R Q next s₀) {I : Pool C σ α → Prop}
    {G : Pool C σ α → ℕ → Prop} (hstart : I (start (calls.map prog) s))
    (hG : EachStep M G (start (calls.map prog) s) sched)
    (hstep : ∀ (P : Pool C σ α) (i : ℕ) (c : ι) {β : Type} (e : C β) (k : β → Prog C α),
      calls[i]? = some c → P.threads[i]? = some (.act e k) →
        (R c).allows (P.phase next s₀ i) e →
        (∀ b, (k b).Keeps (R c) (Q c) (next (P.phase next s₀ i) ⟨e, b⟩)) → I P → G P i →
          I (P.advance M i e k)) :
    I ((start (calls.map prog) s).run M sched) :=
  run_phases_inv_of_tracks h (tracks_start prog calls s) hstart hG hstep

/-- What the steps of threads that keep to protocols do, in runs that meet a condition at each step. -/
theorem eachStep_phases (h : Phased prog R Q next s₀) {I : Pool C σ α → Prop}
    {G : Pool C σ α → ℕ → Prop} {T : Pool C σ α → Pool C σ α → Prop} (hrefl : ∀ P, T P P)
    (hstart : I (start (calls.map prog) s)) (hG : EachStep M G (start (calls.map prog) s) sched)
    (hstep : ∀ (P : Pool C σ α) (i : ℕ) (c : ι) {β : Type} (e : C β) (k : β → Prog C α),
      calls[i]? = some c → P.threads[i]? = some (.act e k) →
        (R c).allows (P.phase next s₀ i) e → I P → G P i →
          I (P.advance M i e k) ∧ T P (P.advance M i e k)) :
    EachStep M (fun P i => T P (P.step M i)) (start (calls.map prog) s) sched := by
  refine eachStep_labelled prog calls s sched hrefl hstart hG fun P i c β e k hc hi hf hP hGP => ?_
  exact hstep P i c e k hc hi (h.of_follows hf).1 hP hGP

end Labelled

end Pool

end Foundations
