import Mathlib.Logic.Basic

/-!
# Traced programs

A program over a state `σ` that records what it does as a list of observations `τ`
and ends in one of three ways: it passes with a value, it leaves early, or it unwinds
(a panic). The state and the observations made so far survive all three.

The module is about the programs themselves: the monad, its laws, and the inversion
lemmas that take a run of a sequence apart.
-/

namespace Traced

/-- How a program ends. -/
inductive Flow (ε α : Type) where
  | pass (value : α)
  | exit (early : ε)
  | unwound

def Flow.passes {ε α : Type} : Flow ε α → Bool
  | .pass _ => true
  | .exit _ | .unwound => false

/-- One complete run: the ending, the final state, and the observations in order. -/
structure Run (σ τ ε α : Type) where
  flow : Flow ε α
  state : σ
  trace : List τ

/-- A program with early exits `ε` and result `α`. -/
def Prog (σ τ ε α : Type) := σ → Run σ τ ε α

/-- Foreign code over the state: it returns (`some`) or unwinds (`none`). -/
abbrev Call (σ α : Type) := σ → Option α × σ

variable {σ τ ε ε' α β γ : Type}

namespace Call

/-- A call that depends on its arguments only. -/
def returning (a : α) : Call σ α := fun s => (some a, s)

/-- A call whose answer is read through `f`. -/
def map (f : α → β) (c : Call σ α) : Call σ β := fun s => ((c s).1.map f, (c s).2)

@[simp, grind =] theorem returning_run (a : α) (s : σ) : returning a s = (some a, s) := rfl

@[simp, grind =] theorem map_answer (f : α → β) (c : Call σ α) (s : σ) :
    (map f c s).1 = (c s).1.map f := rfl

@[simp, grind =] theorem map_state (f : α → β) (c : Call σ α) (s : σ) :
    (map f c s).2 = (c s).2 := rfl

end Call

namespace Run

/-- Put the observations `before` in front of a run. -/
def after (before : List τ) (r : Run σ τ ε α) : Run σ τ ε α :=
  { r with trace := before ++ r.trace }

@[simp] theorem after_flow (before : List τ) (r : Run σ τ ε α) :
    (r.after before).flow = r.flow := rfl

@[simp] theorem after_state (before : List τ) (r : Run σ τ ε α) :
    (r.after before).state = r.state := rfl

@[simp] theorem after_trace (before : List τ) (r : Run σ τ ε α) :
    (r.after before).trace = before ++ r.trace := rfl

/-- A run with the ending named. -/
theorem of_flow {r : Run σ τ ε α} {flow : Flow ε α} (h : r.flow = flow) :
    r = ⟨flow, r.state, r.trace⟩ := by
  rw [← h]

@[simp] theorem after_nil (r : Run σ τ ε α) : r.after [] = r := rfl

@[simp] theorem after_after (first second : List τ) (r : Run σ τ ε α) :
    (r.after second).after first = r.after (first ++ second) := by
  simp [after]

end Run

namespace Prog

def pure (a : α) : Prog σ τ ε α := fun s => ⟨.pass a, s, []⟩

def bind (m : Prog σ τ ε α) (f : α → Prog σ τ ε β) : Prog σ τ ε β := fun s =>
  match m s with
  | ⟨.pass a, s', t⟩ => (f a s').after t
  | ⟨.exit e, s', t⟩ => ⟨.exit e, s', t⟩
  | ⟨.unwound, s', t⟩ => ⟨.unwound, s', t⟩

instance : Monad (Prog σ τ ε) where
  pure := pure
  bind := bind

theorem pure_run (a : α) (s : σ) : (Pure.pure a : Prog σ τ ε α) s = ⟨.pass a, s, []⟩ := rfl

theorem bind_run (m : Prog σ τ ε α) (f : α → Prog σ τ ε β) (s : σ) :
    (m >>= f) s = match m s with
      | ⟨.pass a, s', t⟩ => (f a s').after t
      | ⟨.exit e, s', t⟩ => ⟨.exit e, s', t⟩
      | ⟨.unwound, s', t⟩ => ⟨.unwound, s', t⟩ := rfl

theorem bind_pass {m : Prog σ τ ε α} {f : α → Prog σ τ ε β} {s s' : σ} {a : α} {t : List τ}
    (h : m s = ⟨.pass a, s', t⟩) : (m >>= f) s = (f a s').after t := by
  simp only [bind_run, h]

theorem bind_exit {m : Prog σ τ ε α} {f : α → Prog σ τ ε β} {s s' : σ} {e : ε} {t : List τ}
    (h : m s = ⟨.exit e, s', t⟩) : (m >>= f) s = ⟨.exit e, s', t⟩ := by
  simp only [bind_run, h]

theorem bind_unwound {m : Prog σ τ ε α} {f : α → Prog σ τ ε β} {s s' : σ} {t : List τ}
    (h : m s = ⟨.unwound, s', t⟩) : (m >>= f) s = ⟨.unwound, s', t⟩ := by
  simp only [bind_run, h]

/-- Observations in front of the first half stand in front of the whole. -/
theorem bind_after {m n : Prog σ τ ε α} {f : α → Prog σ τ ε β} {s s' : σ} {t : List τ}
    (h : m s = (n s').after t) : (m >>= f) s = ((n >>= f) s').after t := by
  rcases run : n s' with ⟨a | e | _, s₁, t₁⟩
  · rw [bind_pass run, Run.after_after, bind_pass (t := t ++ t₁) (by rw [h, run]; rfl)]
  · rw [bind_exit run, bind_exit (t := t ++ t₁) (by rw [h, run]; rfl)]
    rfl
  · rw [bind_unwound run, bind_unwound (t := t ++ t₁) (by rw [h, run]; rfl)]
    rfl

/-- A value in place of another is no observation. -/
theorem bind_pure_trace (m : Prog σ τ ε α) (f : α → β) (s : σ) :
    ((m >>= fun a => Pure.pure (f a)) s).trace = (m s).trace := by
  rcases run : m s with ⟨a | e | _, s', t⟩
  · rw [bind_pass run, Run.after_trace, pure_run, List.append_nil]
  · rw [bind_exit run]
  · rw [bind_unwound run]

theorem bind_pure_state (m : Prog σ τ ε α) (f : α → β) (s : σ) :
    ((m >>= fun a => Pure.pure (f a)) s).state = (m s).state := by
  rcases run : m s with ⟨a | e | _, s', t⟩
  · rw [bind_pass run, Run.after_state, pure_run]
  · rw [bind_exit run]
  · rw [bind_unwound run]

/-- What does not pass is not continued. -/
theorem bind_of_stop {m : Prog σ τ ε α} {f : α → Prog σ τ ε α} {s : σ}
    (h : (m s).flow.passes = false) : (m >>= f) s = m s := by
  rcases run : m s with ⟨a | e | _, s', t⟩
  · rw [run] at h; cases h
  · exact bind_exit run
  · exact bind_unwound run

instance : LawfulMonad (Prog σ τ ε) := LawfulMonad.mk' _
  (by
    intro α m
    funext s
    change (m >>= fun a => Pure.pure a) s = m s
    rcases h : m s with ⟨_ | _ | _, s', t⟩
    · rw [bind_pass h]; simp [pure_run, Run.after]
    · exact bind_exit h
    · exact bind_unwound h)
  (by
    intro α β a f
    funext s
    exact bind_pass (pure_run a s))
  (by
    intro α β γ m f g
    funext s
    -- Only a pass of both leaves anything to `g`; what stops is the ending of either grouping.
    rcases h : m s with ⟨a | e | _, s', t⟩
    · rw [bind_pass h (f := fun a => f a >>= g)]
      rcases h' : f a s' with ⟨b | e | _, s'', t'⟩
      · have both : (m >>= f) s = ⟨.pass b, s'', t ++ t'⟩ := by rw [bind_pass h, h']; rfl
        rw [bind_pass both, bind_pass h', Run.after_after]
      · have both : (m >>= f) s = ⟨.exit e, s'', t ++ t'⟩ := by rw [bind_pass h, h']; rfl
        rw [bind_exit both, bind_exit h']; rfl
      · have both : (m >>= f) s = ⟨.unwound, s'', t ++ t'⟩ := by rw [bind_pass h, h']; rfl
        rw [bind_unwound both, bind_unwound h']; rfl
    · rw [bind_exit (bind_exit h), bind_exit h]
    · rw [bind_unwound (bind_unwound h), bind_unwound h])

/-! ### Primitive programs -/

/-- Leave early with `e`. -/
def exit (e : ε) : Prog σ τ ε α := fun s => ⟨.exit e, s, []⟩

/-- Panic. -/
def unwind : Prog σ τ ε α := fun s => ⟨.unwound, s, []⟩

/-- Record one observation. -/
def emit (t : τ) : Prog σ τ ε Unit := fun s => ⟨.pass (), s, [t]⟩

/-- Read from the state. -/
def reads (f : σ → α) : Prog σ τ ε α := fun s => ⟨.pass (f s), s, []⟩

/-- Run foreign code and record one observation about how it ended. -/
def ask (note : Option α → τ) (c : Call σ α) : Prog σ τ ε α := fun s =>
  match c s with
  | (some a, s') => ⟨.pass a, s', [note (some a)]⟩
  | (none, s') => ⟨.unwound, s', [note none]⟩

theorem ask_pass {note : Option α → τ} {c : Call σ α} {s s' : σ} {a : α}
    (h : c s = (some a, s')) :
    (ask note c : Prog σ τ ε α) s = ⟨.pass a, s', [note (some a)]⟩ := by
  simp only [ask, h]

theorem ask_unwound {note : Option α → τ} {c : Call σ α} {s s' : σ} (h : c s = (none, s')) :
    (ask note c : Prog σ τ ε α) s = ⟨.unwound, s', [note none]⟩ := by
  simp only [ask, h]

/-- The value of an option, or a panic (`expect`). -/
def expect : Option α → Prog σ τ ε α
  | some a => Pure.pure a
  | none => unwind

/-- Recover from a panic (`catch_unwind`). -/
def caught (m : Prog σ τ ε α) : Prog σ τ ε (Option α) := fun s =>
  match m s with
  | ⟨.pass a, s', t⟩ => ⟨.pass (some a), s', t⟩
  | ⟨.exit e, s', t⟩ => ⟨.exit e, s', t⟩
  | ⟨.unwound, s', t⟩ => ⟨.pass none, s', t⟩

theorem caught_pass {m : Prog σ τ ε α} {s s' : σ} {a : α} {t : List τ}
    (h : m s = ⟨.pass a, s', t⟩) : m.caught s = ⟨.pass (some a), s', t⟩ := by
  simp only [caught, h]

theorem caught_unwound {m : Prog σ τ ε α} {s s' : σ} {t : List τ}
    (h : m s = ⟨.unwound, s', t⟩) : m.caught s = ⟨.pass none, s', t⟩ := by
  simp only [caught, h]

/-- Continue from a pass with `onPass` and from an early exit with `onExit`. -/
def settle (m : Prog σ τ ε α) (onPass : α → Prog σ τ ε' β) (onExit : ε → Prog σ τ ε' β) :
    Prog σ τ ε' β := fun s =>
  match m s with
  | ⟨.pass a, s', t⟩ => (onPass a s').after t
  | ⟨.exit e, s', t⟩ => (onExit e s').after t
  | ⟨.unwound, s', t⟩ => ⟨.unwound, s', t⟩

theorem settle_pass {m : Prog σ τ ε α} {onPass : α → Prog σ τ ε' β} {onExit : ε → Prog σ τ ε' β}
    {s s' : σ} {a : α} {t : List τ} (h : m s = ⟨.pass a, s', t⟩) :
    m.settle onPass onExit s = (onPass a s').after t := by
  simp only [settle, h]

theorem settle_exit {m : Prog σ τ ε α} {onPass : α → Prog σ τ ε' β} {onExit : ε → Prog σ τ ε' β}
    {s s' : σ} {e : ε} {t : List τ} (h : m s = ⟨.exit e, s', t⟩) :
    m.settle onPass onExit s = (onExit e s').after t := by
  simp only [settle, h]

theorem settle_unwound {m : Prog σ τ ε α} {onPass : α → Prog σ τ ε' β}
    {onExit : ε → Prog σ τ ε' β} {s s' : σ} {t : List τ} (h : m s = ⟨.unwound, s', t⟩) :
    m.settle onPass onExit s = ⟨.unwound, s', t⟩ := by
  simp only [settle, h]

/-! ### Taking a run of a sequence apart -/

theorem pure_pass_iff {a b : α} {s s' : σ} {t : List τ} :
    (Pure.pure a : Prog σ τ ε α) s = ⟨.pass b, s', t⟩ ↔ a = b ∧ s = s' ∧ t = [] := by
  simp [pure_run, eq_comm]

/-- A sequence passes when both halves do, and the observations are appended. -/
theorem bind_pass_iff {m : Prog σ τ ε α} {f : α → Prog σ τ ε β} {s s' : σ} {b : β}
    {t : List τ} : (m >>= f) s = ⟨.pass b, s', t⟩ ↔
      ∃ a s₁ t₁ t₂, m s = ⟨.pass a, s₁, t₁⟩ ∧ f a s₁ = ⟨.pass b, s', t₂⟩ ∧ t = t₁ ++ t₂ := by
  constructor
  · intro h
    rcases hm : m s with ⟨a | e | _, s₁, t₁⟩
    · rw [bind_pass hm] at h
      -- The second half starts where the first one left the state.
      rcases hf : f a s₁ with ⟨flow, s₂, t₂⟩
      rw [hf] at h
      simp only [Run.after, Run.mk.injEq] at h
      obtain ⟨rfl, rfl, rfl⟩ := h
      exact ⟨a, s₁, t₁, t₂, rfl, hf, rfl⟩
    -- A first half that stops is no pass.
    · rw [bind_exit hm] at h; simp at h
    · rw [bind_unwound hm] at h; simp at h
  · rintro ⟨a, s₁, t₁, t₂, hm, hf, rfl⟩
    rw [bind_pass hm, hf]
    rfl

end Prog

end Traced
