import TowerGuard.Traced.Program

/-!
# Ordered checklists

A checklist runs one step after another, each on what the one before handed over. A step
passes, leaves early, or unwinds; the run ends with the first step that does not pass.

`Reaches` says which step a run arrives at, with what locals and in which state. The rules
below reduce what a run does to what its reached steps do.
-/

namespace Traced

variable {σ τ ε ι χ : Type}

namespace Checklist

variable (step : ι → χ → Prog σ τ ε χ)

def run : List ι → χ → Prog σ τ ε χ
  | [], x => pure x
  | c :: cs, x => step c x >>= run cs

/-- The run of `cs` arrives at step `c`, with these locals and in this state. -/
def Reaches (cs : List ι) (x : χ) (s : σ) (c : ι) (x' : χ) (s' : σ) : Prop :=
  ∃ pre post t, cs = pre ++ c :: post ∧ run step pre x s = ⟨.pass x', s', t⟩

variable {step} {cs pre post : List ι} {c d : ι} {x x₁ x₂ x' : χ} {s s₁ s₂ s' : σ} {t : List τ}

@[simp] theorem run_nil : run step [] x = pure x := rfl

@[simp] theorem run_cons : run step (c :: cs) x = step c x >>= run step cs := rfl

theorem run_append : run step (pre ++ post) x = run step pre x >>= run step post := by
  induction pre generalizing x with
  | nil => simp
  | cons c pre ih =>
    have later : run step (pre ++ post) = fun y => run step pre y >>= run step post :=
      funext fun y => ih
    rw [List.cons_append, run_cons, run_cons, bind_assoc, later]

variable (step) in
/-- A run passes every step, or ends where its first failing step ends. -/
theorem run_cases (cs : List ι) (x : χ) (s : σ) :
    (∃ x' s' t, run step cs x s = ⟨.pass x', s', t⟩) ∨
    (∃ pre c post x₁ s₁ t₁, cs = pre ++ c :: post ∧ run step pre x s = ⟨.pass x₁, s₁, t₁⟩ ∧
      (step c x₁ s₁).flow.passes = false ∧ run step cs x s = (step c x₁ s₁).after t₁) := by
  induction cs generalizing x s with
  | nil => exact .inl ⟨x, s, [], rfl⟩
  | cons c cs ih =>
    rcases first : step c x s with ⟨y | e | _, s₁, t₁⟩
    · -- The first step passes, so that the rest of the list decides, from where `c` left off.
      rcases ih y s₁ with ⟨x', s', t, rest⟩ |
          ⟨pre, d, post, x₂, s₂, t₂, split, before, stops, rest⟩
      · left
        exact ⟨x', s', t₁ ++ t, by rw [run_cons, Prog.bind_pass first, rest]; rfl⟩
      · right
        refine ⟨c :: pre, d, post, x₂, s₂, t₁ ++ t₂, by rw [split]; rfl, ?_, stops, ?_⟩
        · rw [run_cons, Prog.bind_pass first, before]; rfl
        · rw [run_cons, Prog.bind_pass first, rest, Run.after_after]
    · right
      -- The first step is itself the one that fails.
      refine ⟨[], c, cs, x, s, [], rfl, rfl, by rw [first]; rfl, ?_⟩
      rw [run_cons, Prog.bind_exit first, first]; rfl
    · right
      refine ⟨[], c, cs, x, s, [], rfl, rfl, by rw [first]; rfl, ?_⟩
      rw [run_cons, Prog.bind_unwound first, first]; rfl

/-! ### Reaching a step -/

theorem Reaches.here : Reaches step (c :: cs) x s c x s := ⟨[], cs, [], rfl, rfl⟩

theorem Reaches.later {y : χ} (first : step c x s = ⟨.pass y, s₁, t⟩)
    (rest : Reaches step cs y s₁ d x' s') : Reaches step (c :: cs) x s d x' s' := by
  obtain ⟨pre, post, t', rfl, passed⟩ := rest
  refine ⟨c :: pre, post, t ++ t', rfl, ?_⟩
  rw [run_cons, Prog.bind_pass first, passed]
  rfl

/-- A longer list reaches what its front reaches. -/
theorem Reaches.append (h : Reaches step pre x s c x' s') :
    Reaches step (pre ++ post) x s c x' s' := by
  obtain ⟨front, back, t, rfl, before⟩ := h
  exact ⟨front, back ++ post, t, by simp, before⟩

theorem Reaches.mem (h : Reaches step cs x s c x' s') : c ∈ cs := by
  obtain ⟨pre, post, -, rfl, -⟩ := h
  simp

/-- In a list without repetition a step is reached in one way. -/
theorem Reaches.unique (nodup : cs.Nodup) (h : Reaches step cs x s c x₁ s₁)
    (h' : Reaches step cs x s c x₂ s₂) : x₁ = x₂ ∧ s₁ = s₂ := by
  obtain ⟨pre, post, t, rfl, passed⟩ := h
  obtain ⟨pre', post', t', split, passed'⟩ := h'
  -- The two prefixes agree: both end ahead of `c`, and `c` is in the list only once. The
  -- induction carries the locals and the state along, since both runs take the same steps.
  obtain rfl : pre = pre' := by
    induction pre generalizing pre' x s t t' with
    | nil =>
      cases pre' with
      | nil => rfl
      | cons d pre' =>
        obtain ⟨rfl, rfl⟩ := List.cons_eq_cons.mp split
        -- `c` would stand at the front and again further back.
        simp at nodup
    | cons d pre ih =>
      cases pre' with
      | nil =>
        obtain ⟨rfl, rfl⟩ := List.cons_eq_cons.mp split
        simp at nodup
      | cons d' pre' =>
        obtain ⟨rfl, tails⟩ := List.cons_eq_cons.mp split
        obtain ⟨y, s₃, t₃, t₄, first, rest, -⟩ := Prog.bind_pass_iff.mp passed
        obtain ⟨y', s₃', t₃', t₄', first', rest', -⟩ := Prog.bind_pass_iff.mp passed'
        rw [first] at first'
        simp only [Run.mk.injEq, Flow.pass.injEq] at first'
        obtain ⟨rfl, rfl, rfl⟩ := first'
        rw [ih t₄ rest (List.nodup_cons.mp nodup).2 pre' t₄' tails rest']
  rw [passed] at passed'
  simp only [Run.mk.injEq, Flow.pass.injEq] at passed'
  exact ⟨passed'.1, passed'.2.1⟩

/-- What a reached step observes, the run observes. -/
theorem Reaches.trace_subset (h : Reaches step cs x s c x' s') :
    (step c x' s').trace ⊆ (run step cs x s).trace := by
  obtain ⟨pre, post, t, rfl, passed⟩ := h
  rw [run_append, Prog.bind_pass passed, run_cons]
  intro e member
  apply List.mem_append_right
  -- However the step ends, its own observations stand behind those of the prefix.
  rcases here : step c x' s' with ⟨y | e' | _, s₁, t₁⟩
  · rw [Prog.bind_pass here]
    rw [here] at member
    exact List.mem_append_left _ member
  · rw [Prog.bind_exit here]; rwa [here] at member
  · rw [Prog.bind_unwound here]; rwa [here] at member

/-- Everything a run observes, one of its reached steps observed. -/
theorem exists_reaches_of_mem_trace {e : τ} (h : e ∈ (run step cs x s).trace) :
    ∃ c x' s', Reaches step cs x s c x' s' ∧ e ∈ (step c x' s').trace := by
  induction cs generalizing x s with
  | nil => simp [Prog.pure_run] at h
  | cons c cs ih =>
    rcases first : step c x s with ⟨y | e' | _, s₁, t₁⟩
    · rw [run_cons, Prog.bind_pass first] at h
      rcases List.mem_append.mp h with here | there
      · exact ⟨c, x, s, .here, by rw [first]; exact here⟩
      · obtain ⟨d, x', s', reached, member⟩ := ih there
        exact ⟨d, x', s', reached.later first, member⟩
    · rw [run_cons, Prog.bind_exit first] at h
      exact ⟨c, x, s, .here, by rw [first]; exact h⟩
    · rw [run_cons, Prog.bind_unwound first] at h
      exact ⟨c, x, s, .here, by rw [first]; exact h⟩

/-- A passing run reaches all its steps and passes them. -/
theorem Reaches.of_pass (passed : run step cs x s = ⟨.pass x', s', t⟩) (member : c ∈ cs) :
    ∃ x₁ s₁ x₂ s₂ t₂, Reaches step cs x s c x₁ s₁ ∧ step c x₁ s₁ = ⟨.pass x₂, s₂, t₂⟩ := by
  obtain ⟨pre, post, rfl⟩ := List.append_of_mem member
  rw [run_append] at passed
  obtain ⟨x₁, s₁, t₁, _, before, rest, -⟩ := Prog.bind_pass_iff.mp passed
  obtain ⟨x₂, s₂, t₂, _, here, -, -⟩ := Prog.bind_pass_iff.mp rest
  exact ⟨x₁, s₁, x₂, s₂, t₂, ⟨pre, post, t₁, rfl, before⟩, here⟩

/-- A run passes when every step it reaches does. -/
theorem passes_iff : (run step cs x s).flow.passes = true ↔
    ∀ c x' s', Reaches step cs x s c x' s' → (step c x' s').flow.passes = true := by
  constructor
  · intro passes c x' s' reached
    obtain ⟨pre, post, t, rfl, before⟩ := reached
    rw [run_append, Prog.bind_pass before, run_cons] at passes
    rcases here : step c x' s' with ⟨y | e | _, s₁, t₁⟩
    · rfl
    · rw [Prog.bind_exit here] at passes; simp [Flow.passes] at passes
    · rw [Prog.bind_unwound here] at passes; simp [Flow.passes] at passes
  · intro all
    rcases run_cases step cs x s with ⟨x', s', t, passed⟩ |
        ⟨pre, c, post, x₁, s₁, t₁, split, before, stops, -⟩
    · rw [passed]; rfl
    · have := all c x₁ s₁ ⟨pre, post, t₁, split, before⟩
      rw [stops] at this
      simp at this

/-! ### Invariants -/

section Invariant

variable {I : χ → σ → Prop}
  (preserved : ∀ c ∈ cs, ∀ x s x' s' t, I x s → step c x s = ⟨.pass x', s', t⟩ → I x' s')

include preserved

/-- What every step preserves, a run preserves. -/
theorem run_invariant (start : I x s) (passed : run step cs x s = ⟨.pass x', s', t⟩) :
    I x' s' := by
  induction cs generalizing x s t with
  | nil =>
    obtain ⟨rfl, rfl, -⟩ := Prog.pure_pass_iff.mp passed
    exact start
  | cons c cs ih =>
    obtain ⟨x₁, s₁, t₁, t₂, first, rest, -⟩ := Prog.bind_pass_iff.mp passed
    refine ih (fun d member => preserved d (List.mem_cons_of_mem c member)) ?_ rest
    exact preserved c List.mem_cons_self x s x₁ s₁ t₁ start first

end Invariant

section Reached

variable {I : χ → σ → Prop}

/-- What the steps it reaches preserve, a run preserves. -/
theorem run_invariant_of_reached
    (preserved : ∀ d y s₂ y' s₂' t, Reaches step cs x s d y s₂ → I y s₂ →
      step d y s₂ = ⟨.pass y', s₂', t⟩ → I y' s₂')
    (start : I x s) (passed : run step cs x s = ⟨.pass x', s', t⟩) : I x' s' := by
  induction cs generalizing x s t with
  | nil =>
    obtain ⟨rfl, rfl, -⟩ := Prog.pure_pass_iff.mp passed
    exact start
  | cons c cs ih =>
    obtain ⟨x₁, s₁, t₁, t₂, first, rest, -⟩ := Prog.bind_pass_iff.mp passed
    refine ih ?_ (preserved c x s x₁ s₁ t₁ .here start first) rest
    intro d y s₂ y' s₂' t reached
    exact preserved d y s₂ y' s₂' t (reached.later first)

theorem Reaches.invariant
    (preserved : ∀ d y s₂ y' s₂' t, Reaches step cs x s d y s₂ → I y s₂ →
      step d y s₂ = ⟨.pass y', s₂', t⟩ → I y' s₂')
    (start : I x s) (h : Reaches step cs x s c x' s') : I x' s' := by
  obtain ⟨pre, post, t, rfl, passed⟩ := h
  refine run_invariant_of_reached ?_ start passed
  intro d y s₂ y' s₂' t' reached
  exact preserved d y s₂ y' s₂' t' reached.append

end Reached

/-! ### A value with one writer -/

section Writer

variable {κ : Type} {f : χ → κ} {j : ι}
  (only : ∀ c, c ≠ j → ∀ x s x' s' t, step c x s = ⟨.pass x', s', t⟩ → f x' = f x)

include only

/-- Without its writer the value stays. -/
theorem run_unwritten (absent : j ∉ cs) (passed : run step cs x s = ⟨.pass x', s', t⟩) :
    f x' = f x := by
  -- Every step of the list is one of the others, and those keep the value.
  refine run_invariant (I := fun y _ => f y = f x) ?_ rfl passed
  intro c member y s₁ y' s₁' t' held here
  rw [only c (fun same => absent (same ▸ member)) y s₁ y' s₁' t' here, held]

/-- With its writer once in the list, the value is the one the writer left. -/
theorem run_written (nodup : cs.Nodup) (member : j ∈ cs)
    (passed : run step cs x s = ⟨.pass x', s', t⟩) :
    ∃ front back x₀ s₀ t₀ x₁ s₁ t₁, cs = front ++ j :: back ∧
      run step front x s = ⟨.pass x₀, s₀, t₀⟩ ∧ f x₀ = f x ∧
      step j x₀ s₀ = ⟨.pass x₁, s₁, t₁⟩ ∧ f x' = f x₁ := by
  obtain ⟨front, back, rfl⟩ := List.append_of_mem member
  -- The list is cut at the writer: it occurs on neither side.
  have ahead : j ∉ front := fun twice =>
    (List.nodup_append.mp nodup).2.2 j twice j List.mem_cons_self rfl
  have behind : j ∉ back := (List.nodup_cons.mp (List.nodup_append.mp nodup).2.1).1
  rw [run_append] at passed
  obtain ⟨x₀, s₀, t₀, _, before, rest, -⟩ := Prog.bind_pass_iff.mp passed
  obtain ⟨x₁, s₁, t₁, t₂, here, after, -⟩ := Prog.bind_pass_iff.mp rest
  exact ⟨front, back, x₀, s₀, t₀, x₁, s₁, t₁, rfl, before, run_unwritten only ahead before, here,
    run_unwritten only behind after⟩

end Writer

end Checklist

end Traced
