import AeroxeBee.Foundations.Prog

/-!
# Programs that heed what happened

What a program may issue can depend on all that has happened in its run: a command that must not be
issued before something else has been found out. `Prog.Heeds` says that a program keeps to such a rule
whatever the replies are.

* `Heeds.bind`, `Heeds.performs`: rules for programs that are composed, and for those that the rule
  allows everything;
* `Heeds.justified`: in every run each command is allowed by what happened before it.
-/

namespace Foundations

universe u v

/-- What the event says is the reply is the reply. -/
theorem step_of_event_eq {C : Type → Type v} {σ : Type u} {β γ : Type} {M : Sem C σ} {e : C β} {e' : C γ}
    {b : γ} {s : σ} (h : (⟨e', b⟩ : Event C) = ⟨e, (M.step e s).1⟩) : (M.step e' s).1 = b := by
  generalize hx : (M.step e s).1 = x at h
  cases h
  exact hx

/-- An element of a justified list is related to what stands before it. -/
theorem Justified.of_append {X : Type u} {Φ : List X → X → Prop} {past more : List X} {x : X}
    (h : Justified Φ (past ++ x :: more)) : Φ past x := by
  have hx := h past.length x (by simp)
  rwa [List.take_left] at hx

namespace Prog

variable {C : Type → Type v} {α β γ : Type}

/-- An embedded program that has returned has followed the program. -/
theorem Follows.of_embed {D : Type → Type u} {f : {β : Type} → C β → D β} {p : Prog C α}
    {evs : List (Event D)} {a : α} (h : (p.embed f).Follows evs (.ret a)) :
    ∃ evs', evs = evs'.map (fun ev : Event C => ⟨f ev.cmd, ev.val⟩) ∧ p.Follows evs' (.ret a) := by
  induction p generalizing evs with
  | ret b =>
    obtain ⟨rfl, hret⟩ := follows_ret.1 h
    cases hret
    exact ⟨[], rfl, .refl _⟩
  | act e k ih =>
    obtain ⟨b, rest, rfl, hk⟩ := follows_act.1 h
    obtain ⟨evs', rfl, hp⟩ := ih b hk
    exact ⟨⟨e, b⟩ :: evs', rfl, .step e k b hp⟩

/-! ## What has been done -/

/-- Among the events is a run of the program, with a result. -/
def Performed (evs : List (Event C)) (p : Prog C α) (a : α) : Prop :=
  ∃ before during after, evs = before ++ during ++ after ∧ p.Follows during (.ret a)

theorem Performed.surround {evs : List (Event C)} {p : Prog C α} {a : α} (h : Performed evs p a)
    (before after : List (Event C)) : Performed (before ++ evs ++ after) p a := by
  obtain ⟨before', during, after', rfl, hf⟩ := h
  exact ⟨before ++ before', during, after' ++ after, by simp only [List.append_assoc], hf⟩

theorem Performed.append {evs : List (Event C)} {p : Prog C α} {a : α} (h : Performed evs p a)
    (more : List (Event C)) : Performed (evs ++ more) p a :=
  h.surround [] more

theorem performed_of_follows {evs during : List (Event C)} {p : Prog C α} {a : α}
    (h : p.Follows during (.ret a)) : Performed (evs ++ during) p a :=
  ⟨evs, during, [], (List.append_nil _).symm, h⟩

/-- A command has been performed if it has received its reply. -/
theorem performed_call {evs : List (Event C)} {e : C β} {b : β} :
    Performed evs (call e) b ↔ (⟨e, b⟩ : Event C) ∈ evs := by
  constructor
  · rintro ⟨before, during, after, rfl, hf⟩
    obtain ⟨b', rest, rfl, hret⟩ := follows_act.1 hf
    cases (follows_ret.1 hret).2
    simp
  · intro h
    obtain ⟨before, after, rfl⟩ := List.append_of_mem h
    exact ⟨before, [⟨e, b⟩], after, by simp, .step e _ b (.refl _)⟩

/-! ## Rules about what has been done -/

/-- Every command of the program is allowed by what happened before it, and in the end the events are
related to the value. -/
def Heeds (allows : List (Event C) → {β : Type} → C β → Prop) (Q : List (Event C) → α → Prop) :
    Prog C α → List (Event C) → Prop
  | ret a, evs => Q evs a
  | act e k, evs => allows evs e ∧ ∀ b, (k b).Heeds allows Q (evs ++ [⟨e, b⟩])

variable {allows : List (Event C) → {β : Type} → C β → Prop} {evs : List (Event C)}
  {Q : List (Event C) → α → Prop} {Q' : List (Event C) → γ → Prop} {p : Prog C α}

theorem Heeds.bind {f : α → Prog C γ} (hp : p.Heeds allows Q evs)
    (hf : ∀ evs a, Q evs a → (f a).Heeds allows Q' evs) : (p >>= f).Heeds allows Q' evs := by
  induction p generalizing evs with
  | ret a => exact hf evs a hp
  | act e k ih => exact ⟨hp.1, fun b => ih b (hp.2 b)⟩

theorem Heeds.mono {Q₁ Q₂ : List (Event C) → α → Prop} (h : ∀ evs a, Q₁ evs a → Q₂ evs a)
    (hp : p.Heeds allows Q₁ evs) : p.Heeds allows Q₂ evs := by
  induction p generalizing evs with
  | ret a => exact h evs a hp
  | act e k ih => exact ⟨hp.1, fun b => ih b (hp.2 b)⟩

/-- A program whose commands are always allowed is performed. -/
theorem Heeds.performs {A : ∀ {β : Type}, C β → Prop} (hp : p.Only A)
    (hallows : ∀ (evs : List (Event C)) {β : Type} (e : C β), A e → allows evs e) :
    p.Heeds allows (fun evs' a => ∃ during, evs' = evs ++ during ∧ p.Follows during (.ret a)) evs := by
  induction p generalizing evs with
  | ret a => exact ⟨[], (List.append_nil evs).symm, .refl _⟩
  | act e k ih =>
    refine ⟨hallows evs e hp.1, fun b => ?_⟩
    refine (ih b (hp.2 b)).mono ?_
    rintro evs' a ⟨during, rfl, hf⟩
    exact ⟨⟨e, b⟩ :: during, by simp, .step e k b hf⟩

/-- What is left of a program heeds the rule too. -/
theorem Heeds.of_follows {q : Prog C α} {more : List (Event C)} (hf : p.Follows more q)
    (hp : p.Heeds allows Q evs) : q.Heeds allows Q (evs ++ more) := by
  induction hf generalizing evs with
  | refl p =>
    rw [List.append_nil]
    exact hp
  | step e k b _ ih =>
    have hrest := ih (hp.2 b)
    rwa [List.append_assoc, List.singleton_append] at hrest

theorem Heeds.getElem_of_follows {q : Prog C α} {more : List (Event C)} (hf : p.Follows more q)
    (hp : p.Heeds allows Q evs) (n : ℕ) (ev : Event C) (hn : more[n]? = some ev) :
    allows (evs ++ more.take n) ev.cmd := by
  induction hf generalizing evs n with
  | refl p => simp at hn
  | step e k b _ ih =>
    cases n with
    | zero =>
      obtain rfl := Option.some.inj hn
      simpa using hp.1
    | succ n => simpa using ih (hp.2 b) n hn

/-- **Each command is allowed by what happened before it**, whatever the environment answers. -/
theorem Heeds.justified {q : Prog C α} {all : List (Event C)} (hp : p.Heeds allows Q [])
    (hf : p.Follows all q) : Justified (fun earlier ev => allows earlier ev.cmd) all :=
  fun n ev hn => hp.getElem_of_follows hf n ev hn

end Prog

end Foundations
