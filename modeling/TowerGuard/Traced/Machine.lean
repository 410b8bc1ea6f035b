import Mathlib.Logic.Basic

/-!
# Machines that are observed

A machine takes a state and an action to the next state and what the step shows, or
refuses the action. What every step keeps, every run keeps, and a property of all a run
shows comes down to a condition on its steps.
-/

namespace Traced

/-- One step of a machine, or the refusal of the action. -/
abbrev Machine (σ α τ : Type) := σ → α → Option (σ × List τ)

variable {σ α τ : Type}

namespace Machine

/-- A whole run: the state it ends in and all it shows, in order. -/
def run (step : Machine σ α τ) : σ → List α → Option (σ × List τ)
  | s, [] => some (s, [])
  | s, a :: rest =>
    (step s a).bind fun (s', shown) =>
      (run step s' rest).map fun (final, later) => (final, shown ++ later)

/-- Every action of the run meets the condition `C` in the state it is taken in. -/
def Along (step : Machine σ α τ) (C : σ → α → Prop) : σ → List α → Prop
  | _, [] => True
  | s, a :: rest => C s a ∧ ∀ s' shown, step s a = some (s', shown) → Along step C s' rest

/-- The machine that also remembers all it has shown. -/
def remembering (step : Machine σ α τ) : Machine (σ × List τ) α τ
  | (s, past), a => (step s a).map fun (s', shown) => ((s', past ++ shown), shown)

variable {step : Machine σ α τ} {s s' final : σ} {a : α} {rest actions : List α}
  {shown later : List τ}

theorem run_cons_iff : run step s (a :: rest) = some (final, shown) ↔
    ∃ s' here later, step s a = some (s', here) ∧ run step s' rest = some (final, later) ∧
      shown = here ++ later := by
  simp only [run, Option.bind_eq_some_iff, Option.map_eq_some_iff, Prod.exists, Prod.mk.injEq]
  constructor
  · rintro ⟨s', here, taken, _, later, behind, rfl, rfl⟩
    exact ⟨s', here, later, taken, behind, rfl⟩
  · rintro ⟨s', here, later, taken, behind, rfl⟩
    exact ⟨s', here, taken, final, later, behind, rfl, rfl⟩

theorem run_singleton (taken : step s a = some (final, shown)) :
    run step s [a] = some (final, shown) :=
  run_cons_iff.mpr ⟨final, shown, [], taken, rfl, (List.append_nil shown).symm⟩

theorem along_cons_iff {C : σ → α → Prop} (taken : step s a = some (s', shown)) :
    Along step C s (a :: rest) ↔ C s a ∧ Along step C s' rest := by
  apply and_congr_right
  intro _
  constructor
  · intro rest
    exact rest s' shown taken
  · -- There is one next state, since the step is a function.
    intro rest s₁ shown₁ taken₁
    rw [taken] at taken₁
    cases taken₁
    exact rest

theorem along_of_forall {C : σ → α → Prop} (all : ∀ s a, C s a) : Along step C s actions := by
  induction actions generalizing s with
  | nil => trivial
  | cons a rest ih => exact ⟨all s a, fun _ _ _ => ih⟩

theorem along_of_mem {C : σ → α → Prop} (all : ∀ a ∈ actions, ∀ s, C s a) :
    Along step C s actions := by
  induction actions generalizing s with
  | nil => trivial
  | cons a rest ih =>
    exact ⟨all a List.mem_cons_self s, fun _ _ _ => ih fun b member =>
      all b (List.mem_cons_of_mem a member)⟩

theorem Along.and {C D : σ → α → Prop} (first : Along step C s actions)
    (second : Along step D s actions) : Along step (fun s a => C s a ∧ D s a) s actions := by
  induction actions generalizing s with
  | nil => trivial
  | cons a rest ih =>
    exact ⟨⟨first.1, second.1⟩, fun s' shown taken =>
      ih (first.2 s' shown taken) (second.2 s' shown taken)⟩

theorem Along.mono {C D : σ → α → Prop} (h : ∀ s a, C s a → D s a)
    (along : Along step C s actions) : Along step D s actions := by
  induction actions generalizing s with
  | nil => trivial
  | cons a rest ih =>
    obtain ⟨here, later⟩ := along
    exact ⟨h s a here, fun s' shown taken => ih (later s' shown taken)⟩

variable {I : σ → Prop}

/-- A run keeps what its steps keep. -/
theorem run_keeps (keeps : ∀ s a s' shown, I s → step s a = some (s', shown) → I s')
    (start : I s) (ran : run step s actions = some (final, shown)) : I final := by
  -- The induction is on the actions, with the invariant carried to the next state.
  induction actions generalizing s shown with
  | nil => cases ran; exact start
  | cons a rest ih =>
    obtain ⟨s', here, later, taken, behind, -⟩ := run_cons_iff.mp ran
    exact ih (keeps s a s' here start taken) behind

/-- What the steps keep of the state and all that was shown, a run keeps. -/
theorem run_keeps_shown {C : σ → α → Prop} {I : σ → List τ → Prop}
    (keeps : ∀ s past a s' shown, I s past → C s a → step s a = some (s', shown) →
      I s' (past ++ shown)) {past : List τ} (start : I s past)
    (along : Along step C s actions) (ran : run step s actions = some (final, shown)) :
    I final (past ++ shown) := by
  induction actions generalizing s shown past with
  | nil =>
    cases ran
    rw [List.append_nil]
    exact start
  | cons a rest ih =>
    obtain ⟨s', here, later, taken, behind, rfl⟩ := run_cons_iff.mp ran
    obtain ⟨meets, further⟩ := (along_cons_iff taken).mp along
    rw [← List.append_assoc]
    exact ih (keeps s past a s' here start meets taken) further behind

/-- All a run shows has a property exactly when every step meets the condition under which
what it shows has it. -/
theorem run_shows_iff {C : σ → α → Prop} {P : τ → Prop}
    (keeps : ∀ s a s' shown, I s → step s a = some (s', shown) → I s')
    (shows : ∀ s a s' shown, I s → step s a = some (s', shown) →
      ((∀ e ∈ shown, P e) ↔ C s a))
    (start : I s) (ran : run step s actions = some (final, shown)) :
    (∀ e ∈ shown, P e) ↔ Along step C s actions := by
  induction actions generalizing s shown with
  | nil => cases ran; exact iff_of_true (fun e member => nomatch member) trivial
  | cons a rest ih =>
    obtain ⟨s', here, later, taken, behind, rfl⟩ := run_cons_iff.mp ran
    -- What the first step shows comes down to its own condition, the rest to the rest of the run.
    rw [List.forall_mem_append, shows s a s' here start taken,
      ih (keeps s a s' here start taken) behind, along_cons_iff taken]

/-- Two conditions that agree wherever the invariant holds hold along the same runs. -/
theorem along_congr {C D : σ → α → Prop}
    (keeps : ∀ s a s' shown, I s → step s a = some (s', shown) → I s')
    (same : ∀ s a, I s → (C s a ↔ D s a)) (start : I s) :
    Along step C s actions ↔ Along step D s actions := by
  induction actions generalizing s with
  | nil => exact Iff.rfl
  | cons a rest ih =>
    -- Past the first action the conditions are compared where that action led to.
    apply and_congr (same s a start)
    refine forall_congr' fun s' => forall_congr' fun shown => forall_congr' fun taken => ?_
    exact ih (keeps s a s' shown start taken)

theorem run_append_iff {before after : List α} :
    run step s (before ++ after) = some (final, shown) ↔
      ∃ s' here later, run step s before = some (s', here) ∧
        run step s' after = some (final, later) ∧ shown = here ++ later := by
  induction before generalizing s shown with
  | nil =>
    constructor
    · intro ran
      exact ⟨s, [], shown, rfl, ran, rfl⟩
    · rintro ⟨_, _, later, ⟨⟩, ran, rfl⟩
      exact ran
  | cons a before ih =>
    rw [List.cons_append, run_cons_iff]
    constructor
    · rintro ⟨s₁, here, later, taken, behind, rfl⟩
      obtain ⟨s₂, between, last, ran, ran', rfl⟩ := ih.mp behind
      exact ⟨s₂, here ++ between, last, run_cons_iff.mpr ⟨s₁, here, between, taken, ran, rfl⟩, ran',
        (List.append_assoc ..).symm⟩
    · rintro ⟨s₂, seen, last, front, ran', rfl⟩
      obtain ⟨s₁, here, between, taken, ran, rfl⟩ := run_cons_iff.mp front
      exact ⟨s₁, here, between ++ last, taken, ih.mpr ⟨s₂, between, last, ran, ran', rfl⟩,
        List.append_assoc ..⟩

/-- A machine whose steps along the run another one matches by a run, showing the same, is matched
by it over the whole run. -/
theorem run_simulated {σ' β : Type} {step' : Machine σ' β τ} {project : α → List β}
    {R : σ → σ' → Prop} {C : σ → α → Prop}
    (simulates : ∀ s t a s₁ shown, R s t → C s a → step s a = some (s₁, shown) →
      ∃ t₁, run step' t (project a) = some (t₁, shown) ∧ R s₁ t₁)
    {t : σ'} (start : R s t) (along : Along step C s actions)
    (ran : run step s actions = some (final, shown)) :
    ∃ final', run step' t (actions.flatMap project) = some (final', shown) ∧ R final final' := by
  induction actions generalizing s t shown with
  | nil =>
    cases ran
    exact ⟨t, rfl, start⟩
  | cons a rest ih =>
    obtain ⟨s₁, here, later, taken, behind, rfl⟩ := run_cons_iff.mp ran
    obtain ⟨meets, further⟩ := (along_cons_iff taken).mp along
    obtain ⟨t₁, matched, related⟩ := simulates s t a s₁ here start meets taken
    obtain ⟨final', matched', ended⟩ := ih related further behind
    exact ⟨final', run_append_iff.mpr ⟨t₁, here, later, matched, matched', rfl⟩, ended⟩

end Machine

end Traced
