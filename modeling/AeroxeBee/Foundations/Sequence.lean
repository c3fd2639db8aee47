import AeroxeBee.Foundations.Prog

/-!
# Programs that run one after the other

A server that handles its requests one at a time runs the program of each request in the state
that the programs before it left behind. Here the programs are given by labels, such as the
requests themselves.

* `Prog.Preserves`: the run of a program keeps a property of the state;
* `Prog.after_inv`: what every program preserves, the whole sequence preserves;
* `Prog.history_later`: what one program established and all of them preserve still holds where
  a later program starts.
-/

namespace Foundations.Prog

universe u v

variable {C : Type → Type v} {σ : Type u} {α ι : Type}

/-- The state after the programs have run one after the other. -/
def after (M : Sem C σ) (prog : ι → Prog C α) : σ → List ι → σ
  | s, [] => s
  | s, c :: cs => after M prog ((prog c).exec M s).state cs

/-- The labels of the programs, each with the state its program started in. -/
def history (M : Sem C σ) (prog : ι → Prog C α) : σ → List ι → List (ι × σ)
  | _, [] => []
  | s, c :: cs => (c, s) :: history M prog ((prog c).exec M s).state cs

/-- The run of the program keeps a property of the state. -/
def Preserves (M : Sem C σ) (I : σ → Prop) (p : Prog C α) : Prop :=
  ∀ s, I s → I (p.exec M s).state

variable {M : Sem C σ} {prog : ι → Prog C α} {I : σ → Prop} {cs : List ι} {s : σ}

theorem after_append (cs cs' : List ι) :
    after M prog s (cs ++ cs') = after M prog (after M prog s cs) cs' := by
  induction cs generalizing s with
  | nil => rfl
  | cons c cs ih => exact ih

theorem history_append (cs cs' : List ι) :
    history M prog s (cs ++ cs') = history M prog s cs ++ history M prog (after M prog s cs) cs' := by
  induction cs generalizing s with
  | nil => rfl
  | cons c cs ih => exact congrArg ((c, s) :: ·) ih

/-- Each of the programs has started in some state. -/
theorem mem_of_history {x : ι × σ} (h : x ∈ history M prog s cs) : x.1 ∈ cs := by
  induction cs generalizing s with
  | nil => cases h
  | cons c cs ih =>
    obtain rfl | h := List.mem_cons.1 h
    · exact List.mem_cons_self
    · exact List.mem_cons_of_mem c (ih h)

theorem preserves_ret (a : α) : Preserves M I (ret a) := fun _ h => h

theorem Preserves.bind {γ : Type} {p : Prog C α} {f : α → Prog C γ} (hp : Preserves M I p)
    (hf : ∀ a, Preserves M I (f a)) : Preserves M I (p >>= f) := by
  intro s h
  rw [exec_bind]
  exact hf _ _ (hp s h)

/-- **What every program preserves, the sequence preserves.** -/
theorem after_inv (hI : ∀ c ∈ cs, Preserves M I (prog c)) (h : I s) :
    I (after M prog s cs) := by
  induction cs generalizing s with
  | nil => exact h
  | cons c cs ih =>
    exact ih (fun c' hc' => hI c' (List.mem_cons_of_mem c hc')) (hI c List.mem_cons_self s h)

/-- What every program preserves holds wherever a program starts. -/
theorem history_inv (hI : ∀ c, Preserves M I (prog c)) (h : I s) :
    ∀ x ∈ history M prog s cs, I x.2 := by
  induction cs generalizing s with
  | nil => simp [history]
  | cons c cs ih => exact List.forall_mem_cons.2 ⟨h, ih (hI c s h)⟩

/-- What holds after one of the programs and is preserved by all of them holds where a later
program starts. -/
theorem history_later (hI : ∀ c, Preserves M I (prog c)) {n : ℕ} {x y : ι × σ}
    (hx : (history M prog s cs)[n]? = some x) (hy : y ∈ (history M prog s cs).take n)
    (h : I ((prog y.1).exec M y.2).state) : I x.2 := by
  induction cs generalizing s n with
  | nil => simp [history] at hx
  | cons c cs ih =>
    cases n with
    | zero => simp at hy
    | succ n =>
      rw [history, List.getElem?_cons_succ] at hx
      rw [history, List.take_succ_cons, List.mem_cons] at hy
      obtain rfl | hy := hy
      · exact history_inv hI h x (List.mem_of_getElem? hx)
      · exact ih hx hy

end Foundations.Prog
