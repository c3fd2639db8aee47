import AeroxeBee.Foundations.Protocol

/-!
# What is noted along a run

Some laws about threads are about more than the state and the log hold: what a step did to the
state, or what became of a command whose reply was lost. `Pool.noted` keeps a note of it along the
run, which the threads do not see. A condition on the steps of a run may refer to the note;
`Pool.run_noted_inv` is the invariant rule for such runs of threads that keep to protocols.
-/

namespace Foundations

namespace Pool

universe u v

variable {C : Type → Type v} {α β S : Type} {σ : Type u} {H : Type} (M : Sem C σ)
  (note : ℕ → {β : Type} → C β → σ → H → H)

/-- What is noted when a thread takes its next command. -/
def noteStep (P : Pool C σ α) (h : H) (i : ℕ) : H :=
  match P.threads[i]? with
  | some (.act e _) => note i e P.state h
  | _ => h

/-- What has been noted after a run. -/
def noted (P : Pool C σ α) (h : H) : List ℕ → H
  | [] => h
  | i :: sched => noted (P.step M i) (noteStep note P h i) sched

/-- Every step of the run meets a condition on the pool and the note before it, the thread that
moves, and its command. -/
def EachNoted (G : Pool C σ α → H → ℕ → {β : Type} → C β → Prop) (P : Pool C σ α) (h : H) :
    List ℕ → Prop
  | [] => True
  | i :: sched => Meets (fun P i {_} e => G P h i e) P i ∧
      EachNoted G (P.step M i) (noteStep note P h i) sched

instance decidableEachNoted (G : Pool C σ α → H → ℕ → {β : Type} → C β → Prop)
    [∀ P h i {β : Type} (e : C β), Decidable (G P h i e)] (P : Pool C σ α) (h : H) :
    (sched : List ℕ) → Decidable (EachNoted M note G P h sched)
  | [] => inferInstanceAs (Decidable True)
  | i :: sched =>
    have := decidableEachNoted G (P.step M i) (noteStep note P h i) sched
    inferInstanceAs (Decidable (_ ∧ _))

variable {M note} {P : Pool C σ α} {i : ℕ} {e : C β} {k : β → Prog C α}

theorem step_of_act (hi : P.threads[i]? = some (.act e k)) : P.step M i = P.advance M i e k := by
  simp [step, hi, advance]

theorem noteStep_of_act (hi : P.threads[i]? = some (.act e k)) (h : H) :
    noteStep note P h i = note i e P.state h := by
  simp [noteStep, hi]

/-- A thread that has no command to take leaves the pool and the note as they are. -/
theorem step_of_not_act (hi : ∀ (β : Type) (e : C β) (k : β → Prog C α),
    P.threads[i]? ≠ some (.act e k)) (h : H) : P.step M i = P ∧ noteStep note P h i = h := by
  cases hp : P.threads[i]? with
  | none => simp [step, noteStep, hp]
  | some p =>
    cases p with
    | ret a => simp [step, noteStep, hp]
    | act e k => exact absurd hp (hi _ e k)

/-- **The invariant rule for runs of which a note is kept.** -/
theorem run_inv_noted {I : Pool C σ α → H → Prop}
    {G : Pool C σ α → H → ℕ → {β : Type} → C β → Prop}
    (hstep : ∀ (P : Pool C σ α) (h : H) (i : ℕ) {β : Type} (e : C β) (k : β → Prog C α),
      P.threads[i]? = some (.act e k) → I P h → G P h i e →
        I (P.advance M i e k) (note i e P.state h))
    {h : H} {sched : List ℕ} (hI : I P h) (hG : EachNoted M note G P h sched) :
    I (P.run M sched) (noted M note P h sched) := by
  induction sched generalizing P h with
  | nil => exact hI
  | cons i sched ih =>
    refine ih ?_ hG.2
    by_cases hact : ∃ (β : Type) (e : C β) (k : β → Prog C α), P.threads[i]? = some (.act e k)
    · obtain ⟨β, e, k, hi⟩ := hact
      rw [step_of_act hi, noteStep_of_act hi]
      exact hstep P h i e k hi hI (meets_of_act hG.1 hi)
    · push Not at hact
      have hstill : P.step M i = P ∧ noteStep note P h i = h := step_of_not_act hact h
      obtain ⟨hs, hn⟩ := hstill
      rw [hs, hn]
      exact hI

/-- What has been noted after two parts of a run. -/
theorem noted_append (P : Pool C σ α) (h : H) (past rest : List ℕ) :
    noted M note P h (past ++ rest) = noted M note (P.run M past) (noted M note P h past) rest := by
  induction past generalizing P h with
  | nil => rfl
  | cons i past ih => exact ih _ _

/-- A condition on the steps of a run is one on the steps of its parts. -/
theorem eachNoted_append {G : Pool C σ α → H → ℕ → {β : Type} → C β → Prop} (P : Pool C σ α) (h : H)
    (past rest : List ℕ) :
    EachNoted M note G P h (past ++ rest) ↔ EachNoted M note G P h past ∧
      EachNoted M note G (P.run M past) (noted M note P h past) rest := by
  induction past generalizing P h with
  | nil => exact (iff_of_eq (true_and _)).symm
  | cons i past ih =>
    rw [List.cons_append, EachNoted, ih]
    exact and_assoc.symm

variable (note) in
/-- A condition on the steps of a run that does not refer to the note. -/
theorem eachNoted_iff {G : Pool C σ α → ℕ → {β : Type} → C β → Prop} (P : Pool C σ α) (h : H)
    (sched : List ℕ) :
    EachNoted M note (fun P _ i {_} e => G P i e) P h sched ↔ EachStep M (Meets G) P sched := by
  induction sched generalizing P h with
  | nil => exact Iff.rfl
  | cons i sched ih => exact and_congr_right' (ih _ _)

/-- **What a step keeps exactly if it meets a condition**, holds along a run exactly if every step
meets it. -/
theorem forall_past_iff {J : Pool C σ α → Prop} {I : Pool C σ α → H → Prop}
    {G : Pool C σ α → H → ℕ → {β : Type} → C β → Prop}
    (hJ : ∀ (P : Pool C σ α) (i : ℕ) {β : Type} (e : C β) (k : β → Prog C α),
      P.threads[i]? = some (.act e k) → J P → J (P.advance M i e k))
    (hstep : ∀ (P : Pool C σ α) (h : H) (i : ℕ) {β : Type} (e : C β) (k : β → Prog C α),
      P.threads[i]? = some (.act e k) → J P → I P h →
        (I (P.advance M i e k) (note i e P.state h) ↔ G P h i e))
    {h : H} (hP : J P) (hI : I P h) (sched : List ℕ) :
    (∀ past rest, sched = past ++ rest → I (P.run M past) (noted M note P h past)) ↔
      EachNoted M note G P h sched := by
  induction sched generalizing P h with
  | nil =>
    refine iff_of_true (fun past rest hsched => ?_) trivial
    obtain ⟨rfl, -⟩ := List.append_eq_nil_iff.1 hsched.symm
    exact hI
  | cons i sched ih =>
    have hsplit : (∀ past rest, i :: sched = past ++ rest →
        I (P.run M past) (noted M note P h past)) ↔ ∀ past rest, sched = past ++ rest →
          I ((P.step M i).run M past) (noted M note (P.step M i) (noteStep note P h i) past) := by
      constructor
      · exact fun hall past rest hsched => hall (i :: past) rest (congrArg (i :: ·) hsched)
      · intro hall past rest hsched
        cases past with
        | nil => exact hI
        | cons j past =>
          obtain ⟨rfl, hrest⟩ := List.cons.inj hsched
          exact hall past rest hrest
    rw [hsplit, EachNoted]
    by_cases hact : ∃ (β : Type) (e : C β) (k : β → Prog C α), P.threads[i]? = some (.act e k)
    · obtain ⟨β, e, k, hi⟩ := hact
      have hmeets : Meets (fun P i {_} e => G P h i e) P i ↔ G P h i e :=
        ⟨fun hG => meets_of_act hG hi, fun hG => by simpa [Meets, hi] using hG⟩
      rw [hmeets, ← hstep P h i e k hi hP hI, step_of_act hi, noteStep_of_act hi]
      constructor
      · intro hall
        have hnow := hall [] sched rfl
        exact ⟨hnow, (ih (hJ P i e k hi hP) hnow).1 hall⟩
      · exact fun hboth => (ih (hJ P i e k hi hP) hboth.1).2 hboth.2
    · push Not at hact
      have hstill : P.step M i = P ∧ noteStep note P h i = h := step_of_not_act hact h
      obtain ⟨hs, hn⟩ := hstill
      rw [hs, hn, ih hP hI]
      refine ⟨fun hall => ⟨?_, hall⟩, And.right⟩
      unfold Meets
      split
      · exact absurd ‹_› (hact _ _ _)
      · trivial

/-- The same for programs that issue only some of the commands: a fact about the state and the note,
beside what these commands keep in the state. -/
theorem forall_past_iff_of_only {A : {β : Type} → C β → Prop} {ps : List (Prog C α)} {s : σ}
    (honly : ∀ p ∈ ps, p.Only A) {J : σ → Prop} {I : σ → H → Prop} {G : {β : Type} → C β → σ → Prop}
    (hJ : ∀ {β : Type} (e : C β) (s : σ), A e → J s → J (M.step e s).2)
    (hstep : ∀ {β : Type} (e : C β) (s : σ) (h : H) (i : ℕ), A e → J s → I s h →
      (I (M.step e s).2 (note i e s h) ↔ G e s))
    {h : H} (hs : J s) (hI : I s h) (sched : List ℕ) :
    (∀ past rest, sched = past ++ rest →
        I ((start ps s).run M past).state (noted M note (start ps s) h past)) ↔
      EachNoted M note (fun P _ _ {_} e => G e P.state) (start ps s) h sched := by
  refine forall_past_iff (I := fun P h => I P.state h)
    (J := fun P => (∀ p ∈ P.threads, p.Only A) ∧ J P.state) ?_ ?_ ⟨honly, hs⟩ hI sched
  · intro P i β e k hi hP
    have hthread : (Prog.act e k).Only A := hP.1 _ (List.mem_of_getElem? hi)
    refine ⟨fun p hp => ?_, hJ e P.state hthread.1 hP.2⟩
    rcases List.mem_or_eq_of_mem_set hp with hp | rfl
    · exact hP.1 p hp
    · exact hthread.2 _
  · intro P h i β e k hi hP hI
    have hthread : (Prog.act e k).Only A := hP.1 _ (List.mem_of_getElem? hi)
    exact hstep e P.state h i hthread.1 hP.2 hI

section Labelled

variable {ι : Type*} {prog : ι → Prog C α} {calls : List ι} {s : σ} {sched : List ℕ}
  {R : ι → Protocol C S} {Q : ι → S → α → Prop} {next : S → Event C → S} {s₀ : S}

/-- What is left of each thread keeps to its protocol. -/
def Keeping (R : ι → Protocol C S) (Q : ι → S → α → Prop) (next : S → Event C → S) (s₀ : S)
    (calls : List ι) (P : Pool C σ α) : Prop :=
  ∀ (j : ℕ) (p : Prog C α), P.threads[j]? = some p →
    ∃ c, calls[j]? = some c ∧ p.Keeps (R c) (Q c) (P.phase next s₀ j)

/-- The invariant rule for threads that keep to protocols, from the middle of a run on. -/
theorem run_tracked_inv (hphased : Phased prog R Q next s₀) {I : Pool C σ α → H → Prop}
    {G : Pool C σ α → H → ℕ → {β : Type} → C β → Prop} {h : H} (htracks : Tracks prog calls P)
    (hP : I P h) (hG : EachNoted M note G P h sched)
    (hstep : ∀ (P : Pool C σ α) (h : H) (i : ℕ) (c : ι) {β : Type} (e : C β) (k : β → Prog C α),
      calls[i]? = some c → P.threads[i]? = some (.act e k) → Keeping R Q next s₀ calls P →
        I P h → G P h i e → I (P.advance M i e k) (note i e P.state h)) :
    I (P.run M sched) (noted M note P h sched) := by
  refine (run_inv_noted (I := fun P h => Tracks prog calls P ∧ I P h)
    (fun P h i β e k hi hP hGP => ?_) ⟨htracks, hP⟩ hG).2
  have hkeeping : Keeping R Q next s₀ calls P := by
    intro j p hj
    obtain ⟨c, hc, hf⟩ := hP.1 j p hj
    exact ⟨c, hc, hphased.of_follows hf⟩
  obtain ⟨c, hc, -⟩ := hP.1 i _ hi
  refine ⟨?_, hstep P h i c e k hc hi hkeeping hP.2 hGP⟩
  have htracks := hP.1.step (M := M) i
  rwa [step_of_act hi] at htracks

/-- **The invariant rule for threads that keep to protocols**, in runs of which a note is kept and
which meet a condition at each step. -/
theorem run_noted_inv (hphased : Phased prog R Q next s₀) {I : Pool C σ α → H → Prop}
    {G : Pool C σ α → H → ℕ → {β : Type} → C β → Prop} {h : H}
    (hstart : I (start (calls.map prog) s) h)
    (hG : EachNoted M note G (start (calls.map prog) s) h sched)
    (hstep : ∀ (P : Pool C σ α) (h : H) (i : ℕ) (c : ι) {β : Type} (e : C β) (k : β → Prog C α),
      calls[i]? = some c → P.threads[i]? = some (.act e k) → Keeping R Q next s₀ calls P →
        I P h → G P h i e → I (P.advance M i e k) (note i e P.state h)) :
    I ((start (calls.map prog) s).run M sched)
      (noted M note (start (calls.map prog) s) h sched) :=
  run_tracked_inv hphased (tracks_start prog calls s) hstart hG hstep

end Labelled

end Pool

end Foundations
