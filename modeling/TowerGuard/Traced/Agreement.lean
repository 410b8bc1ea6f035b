import TowerGuard.Traced.Checklist
import Mathlib.Data.Option.Basic

/-!
# Programs that agree

Two programs agree over a relation of states when from related states they end alike, with
related values, and leave related states. What they observe may differ. The rules follow the
constructors, so that agreement is read off the text of two programs of one shape.
-/

namespace Traced

variable {σ τ ε ε' α α' β β' ι χ : Type}

/-- Two endings of one kind, with values related by `V`. -/
inductive Flow.Alike (V : α → β → Prop) : Flow ε α → Flow ε β → Prop
  | pass {a : α} {b : β} : V a b → Flow.Alike V (.pass a) (.pass b)
  | exit (e : ε) : Flow.Alike V (.exit e) (.exit e)
  | unwound : Flow.Alike V .unwound .unwound

theorem Flow.Alike.eq {f f' : Flow ε α} (h : Flow.Alike Eq f f') : f = f' := by
  cases h with
  | pass same => rw [same]
  | exit e => rfl
  | unwound => rfl

theorem rel_of_eq {a b : Option α} (h : a = b) : Option.Rel Eq a b := by
  rw [h]
  cases b with
  | none => exact .none
  | some b => exact .some rfl

theorem eq_of_rel {a b : Option α} (h : Option.Rel Eq a b) : a = b := by
  cases h with
  | none => rfl
  | some same => rw [same]

theorem rel_mono {U V : α → β → Prop} (h : ∀ a b, U a b → V a b) {a : Option α} {b : Option β}
    (related : Option.Rel U a b) : Option.Rel V a b := by
  cases related with
  | none => exact .none
  | some related => exact .some (h _ _ related)

/-! ### Calls -/

/-- From states related by `R` the calls answer alike and leave related states. -/
def Call.Agree (R : σ → σ → Prop) (V : α → β → Prop) (c : Call σ α) (c' : Call σ β) : Prop :=
  ∀ s s', R s s' → Option.Rel V (c s).1 (c' s').1 ∧ R (c s).2 (c' s').2

namespace Call

variable {R : σ → σ → Prop} {V : α → β → Prop}

/-- Calls with the same answers agree. -/
theorem agree_of_eq {c c' : Call σ α}
    (h : ∀ s s', R s s' → (c s).1 = (c' s').1 ∧ R (c s).2 (c' s').2) : Agree R Eq c c' := by
  intro s s' same
  obtain ⟨answers, left⟩ := h s s' same
  exact ⟨rel_of_eq answers, left⟩

theorem Agree.mono {U : α → β → Prop} {c : Call σ α} {c' : Call σ β} (agree : Agree R U c c')
    (h : ∀ a b, U a b → V a b) : Agree R V c c' := by
  intro s s' same
  obtain ⟨answers, left⟩ := agree s s' same
  exact ⟨rel_mono h answers, left⟩

theorem Agree.returning {a : α} {b : β} (h : V a b) :
    Agree R V (Call.returning a) (Call.returning b) := fun _ _ same => ⟨.some h, same⟩

end Call

/-! ### Programs -/

/-- Two runs end alike and leave related states. -/
structure Run.Alike (R : σ → σ → Prop) (V : α → β → Prop) (r : Run σ τ ε α) (r' : Run σ τ ε β) :
    Prop where
  flow : r.flow.Alike V r'.flow
  state : R r.state r'.state

/-- From states related by `R` the programs run alike. -/
def Prog.Agree (R : σ → σ → Prop) (V : α → β → Prop) (m : Prog σ τ ε α) (m' : Prog σ τ ε β) :
    Prop :=
  ∀ s s', R s s' → Run.Alike R V (m s) (m' s')

namespace Prog

variable {R : σ → σ → Prop} {V : α → β → Prop} {V' : α' → β' → Prop}

theorem Agree.pure {a : α} {b : β} (h : V a b) :
    Agree R V (Pure.pure a : Prog σ τ ε α) (Pure.pure b) := fun _ _ same => ⟨.pass h, same⟩

theorem Agree.exit {e : ε} : Agree R V (Prog.exit e : Prog σ τ ε α) (Prog.exit e) :=
  fun _ _ same => ⟨.exit e, same⟩

theorem Agree.reads {f : σ → α} {g : σ → β} (h : ∀ s s', R s s' → V (f s) (g s')) :
    Agree R V (Prog.reads f : Prog σ τ ε α) (Prog.reads g) :=
  fun s s' same => ⟨.pass (h s s' same), same⟩

theorem alike_ask {note : Option α → τ} {note' : Option β → τ} {c : Call σ α} {c' : Call σ β}
    {s s' : σ} (answers : Option.Rel V (c s).1 (c' s').1) (left : R (c s).2 (c' s').2) :
    Run.Alike R V (Prog.ask note c s : Run σ τ ε α) (Prog.ask note' c' s') := by
  rcases said : c s with ⟨answer, s₁⟩
  rcases said' : c' s' with ⟨answer', s₁'⟩
  rw [said, said'] at answers left
  simp only [Prog.ask, said, said']
  cases answers with
  | none => exact ⟨.unwound, left⟩
  | some related => exact ⟨.pass related, left⟩

theorem Agree.ask {note : Option α → τ} {note' : Option β → τ} {c : Call σ α} {c' : Call σ β}
    (agree : Call.Agree R V c c') :
    Agree R V (Prog.ask note c : Prog σ τ ε α) (Prog.ask note' c') := by
  intro s s' same
  obtain ⟨answers, left⟩ := agree s s' same
  exact alike_ask answers left

theorem Agree.expect {a : Option α} {b : Option β} (h : Option.Rel V a b) :
    Agree R V (Prog.expect a : Prog σ τ ε α) (Prog.expect b) := by
  cases h with
  | none => exact fun _ _ same => ⟨.unwound, same⟩
  | some related => exact .pure related

/-- Both first halves pass, and the rest decides, or both stop. -/
theorem alike_bind {m : Prog σ τ ε α} {m' : Prog σ τ ε β} {f : α → Prog σ τ ε α'}
    {f' : β → Prog σ τ ε β'} {s s' : σ} (first : Run.Alike R V (m s) (m' s'))
    (rest : ∀ a b s₁ s₁' t, m s = ⟨.pass a, s₁, t⟩ → V a b → R s₁ s₁' →
      Run.Alike R V' (f a s₁) (f' b s₁')) : Run.Alike R V' ((m >>= f) s) ((m' >>= f') s') := by
  obtain ⟨flows, left⟩ := first
  rcases run : m s with ⟨flow, s₁, t⟩
  rcases run' : m' s' with ⟨flow', s₁', t'⟩
  rw [run, run'] at flows left
  cases flows with
  | pass related =>
    rw [bind_pass run, bind_pass run']
    obtain ⟨flows, left⟩ := rest _ _ s₁ s₁' t run related left
    exact ⟨flows, left⟩
  | exit e => rw [bind_exit run, bind_exit run']; exact ⟨.exit e, left⟩
  | unwound => rw [bind_unwound run, bind_unwound run']; exact ⟨.unwound, left⟩

theorem Agree.bind {m : Prog σ τ ε α} {m' : Prog σ τ ε β} {f : α → Prog σ τ ε α'}
    {f' : β → Prog σ τ ε β'} (first : Agree R V m m')
    (rest : ∀ a b, V a b → Agree R V' (f a) (f' b)) : Agree R V' (m >>= f) (m' >>= f') :=
  fun s s' same => alike_bind (first s s' same) fun a b s₁ s₁' _ _ related =>
    rest a b related s₁ s₁'

theorem Agree.caught {m : Prog σ τ ε α} {m' : Prog σ τ ε β} (agree : Agree R V m m') :
    Agree R (Option.Rel V) m.caught m'.caught := by
  intro s s' same
  obtain ⟨flows, left⟩ := agree s s' same
  unfold Prog.caught
  rcases run : m s with ⟨flow, s₁, t⟩
  rcases run' : m' s' with ⟨flow', s₁', t'⟩
  rw [run, run'] at flows left
  cases flows with
  | pass related => exact ⟨.pass (.some related), left⟩
  | exit e => exact ⟨.exit e, left⟩
  | unwound => exact ⟨.pass .none, left⟩

theorem alike_settle {m : Prog σ τ ε α} {m' : Prog σ τ ε β} {onPass : α → Prog σ τ ε' α'}
    {onPass' : β → Prog σ τ ε' β'} {onExit : ε → Prog σ τ ε' α'} {onExit' : ε → Prog σ τ ε' β'}
    {s s' : σ} (first : Run.Alike R V (m s) (m' s'))
    (pass : ∀ a b, V a b → Agree R V' (onPass a) (onPass' b))
    (exit : ∀ e, Agree R V' (onExit e) (onExit' e)) :
    Run.Alike R V' (m.settle onPass onExit s) (m'.settle onPass' onExit' s') := by
  obtain ⟨flows, left⟩ := first
  rcases run : m s with ⟨flow, s₁, t⟩
  rcases run' : m' s' with ⟨flow', s₁', t'⟩
  rw [run, run'] at flows left
  cases flows with
  | pass related =>
    rw [settle_pass run, settle_pass run']
    obtain ⟨flows, left⟩ := pass _ _ related s₁ s₁' left
    exact ⟨flows, left⟩
  | exit e =>
    rw [settle_exit run, settle_exit run']
    obtain ⟨flows, left⟩ := exit e s₁ s₁' left
    exact ⟨flows, left⟩
  | unwound => rw [settle_unwound run, settle_unwound run']; exact ⟨.unwound, left⟩

end Prog

/-! ### Checklists -/

/-- Checklists run alike when the steps do that the first of them reaches. -/
theorem Checklist.run_alike {R : σ → σ → Prop} {step step' : ι → χ → Prog σ τ ε χ}
    {cs : List ι} {x : χ} {s s' : σ}
    (steps : ∀ c x₁ s₁ s₁', Reaches step cs x s c x₁ s₁ → R s₁ s₁' →
      Run.Alike R Eq (step c x₁ s₁) (step' c x₁ s₁'))
    (start : R s s') : Run.Alike R Eq (run step cs x s) (run step' cs x s') := by
  induction cs generalizing x s s' with
  | nil => exact ⟨.pass rfl, start⟩
  | cons c cs ih =>
    refine Prog.alike_bind (steps c x s s' .here start) ?_
    rintro y _ s₁ s₁' t here rfl left
    exact ih (fun d x₂ s₂ s₂' reached => steps d x₂ s₂ s₂' (reached.later here)) left

/-- A passing run is followed, from locals `φ` makes of its own, where the steps it reaches are
followed. -/
theorem Checklist.run_followed {R : σ → σ → Prop} {φ : χ → χ} {step step' : ι → χ → Prog σ τ ε χ}
    {cs : List ι} {x x' : χ} {s s₁ s' : σ} {t : List τ}
    (steps : ∀ c y s₂ y' s₃ t s₂', Reaches step cs x s c y s₂ → R s₂ s₂' →
      step c y s₂ = ⟨.pass y', s₃, t⟩ →
      ∃ s₃' t', step' c (φ y) s₂' = ⟨.pass (φ y'), s₃', t'⟩ ∧ R s₃ s₃')
    (start : R s s') (passed : run step cs x s = ⟨.pass x', s₁, t⟩) :
    ∃ s₁' t', run step' cs (φ x) s' = ⟨.pass (φ x'), s₁', t'⟩ ∧ R s₁ s₁' := by
  induction cs generalizing x s s' t with
  | nil =>
    obtain ⟨rfl, rfl, -⟩ := Prog.pure_pass_iff.mp passed
    exact ⟨s', [], rfl, start⟩
  | cons c cs ih =>
    obtain ⟨y, s₂, t₁, t₂, first, rest, -⟩ := Prog.bind_pass_iff.mp passed
    obtain ⟨s₂', t₁', first', left⟩ := steps c x s y s₂ t₁ s' .here start first
    obtain ⟨s₁', t₂', rest', left'⟩ :=
      ih (fun d z s₃ z' s₄ t s₃' reached => steps d z s₃ z' s₄ t s₃' (reached.later first)) left
        rest
    exact ⟨s₁', t₁' ++ t₂', by rw [run_cons, Prog.bind_pass first', rest']; rfl, left'⟩

end Traced
