import TowerGuard.Traced.Program

/-!
# Effects of a traced program

`Emits P` bounds what a program observes, `Keeps f` what it changes in the state, `Returns`
says that it ends with a value and `Yields P` with what value, `Shows p n` counts
observations and `Tells g l` reads them. All of them are closed under the constructors, so
that they are read off a program's text.
-/

namespace Traced

variable {σ τ ε ε' α β κ : Type}

namespace Prog

/-- Every observation of the program satisfies `P`, however it ends. -/
def Emits (P : τ → Prop) (m : Prog σ τ ε α) : Prop := ∀ s, ∀ e ∈ (m s).trace, P e

/-- The program leaves `f` of the state as it is, however it ends. -/
def Keeps (f : σ → κ) (m : Prog σ τ ε α) : Prop := ∀ s, f (m s).state = f s

section Emits

variable {P Q : τ → Prop} {m : Prog σ τ ε α}

theorem Emits.pure {a : α} : Emits P (Pure.pure a : Prog σ τ ε α) :=
  fun _ _ member => nomatch member

theorem Emits.exit {e : ε} : Emits P (Prog.exit e : Prog σ τ ε α) :=
  fun _ _ member => nomatch member

theorem Emits.reads {f : σ → α} : Emits P (Prog.reads f : Prog σ τ ε α) :=
  fun _ _ member => nomatch member

theorem Emits.ask {note : Option α → τ} {c : Call σ α} (h : ∀ a, P (note a)) :
    Emits P (Prog.ask note c : Prog σ τ ε α) := by
  intro s e member
  unfold Prog.ask at member
  split at member
  · obtain rfl := List.mem_singleton.mp member
    exact h _
  · obtain rfl := List.mem_singleton.mp member
    exact h _

theorem Emits.expect {a : Option α} : Emits P (Prog.expect a : Prog σ τ ε α) := by
  cases a <;> exact fun _ _ member => nomatch member

theorem Emits.bind {f : α → Prog σ τ ε β} (first : Emits P m) (rest : ∀ a, Emits P (f a)) :
    Emits P (m >>= f) := by
  intro s e member
  have here := first s
  -- What stops adds nothing behind the observations of `m`.
  rcases run : m s with ⟨a | e' | _, s', t⟩
  · rw [run] at here
    rw [bind_pass run] at member
    rcases List.mem_append.mp member with before | after
    · exact here e before
    · exact rest a s' e after
  · rw [run] at here; rw [bind_exit run] at member; exact here e member
  · rw [run] at here; rw [bind_unwound run] at member; exact here e member

/-- What follows an expected value is only reached with one. -/
theorem Emits.bind_expect {a : Option α} {f : α → Prog σ τ ε β}
    (rest : ∀ b, a = some b → Emits P (f b)) : Emits P (Prog.expect a >>= f) := by
  intro s
  cases a with
  | none => exact fun _ member => nomatch member
  | some b =>
    have passed : (Prog.expect (some b) : Prog σ τ ε α) s = ⟨.pass b, s, []⟩ := rfl
    rw [bind_pass passed]
    exact rest b rfl s

theorem Emits.caught (h : Emits P m) : Emits P m.caught := by
  intro s e member
  apply h s e
  unfold Prog.caught at member
  split at member <;> rename_i run <;> rw [run] <;> exact member

end Emits

section Keeps

variable {f : σ → κ} {m : Prog σ τ ε α}

theorem Keeps.pure {a : α} : Keeps f (Pure.pure a : Prog σ τ ε α) := fun _ => rfl

theorem Keeps.reads {g : σ → α} : Keeps f (Prog.reads g : Prog σ τ ε α) := fun _ => rfl

/-- A question leaves the state the foreign code leaves. -/
theorem ask_state {note : Option α → τ} {c : Call σ α} {s : σ} :
    (Prog.ask note c s : Run σ τ ε α).state = (c s).2 := by
  unfold Prog.ask
  split <;> rename_i run <;> rw [run]

theorem Keeps.ask {note : Option α → τ} {c : Call σ α} (h : ∀ s, f (c s).2 = f s) :
    Keeps f (Prog.ask note c : Prog σ τ ε α) := by
  intro s
  rw [ask_state]
  exact h s

theorem Keeps.expect {a : Option α} : Keeps f (Prog.expect a : Prog σ τ ε α) := by
  cases a <;> exact fun _ => rfl

/-- What the rest keeps is as the first half left it. -/
theorem bind_state {g : α → Prog σ τ ε β} (rest : ∀ a, Keeps f (g a)) (s : σ) :
    f ((m >>= g) s).state = f (m s).state := by
  rcases run : m s with ⟨a | e | _, s', t⟩
  · rw [bind_pass run, Run.after_state, rest a s']
  · rw [bind_exit run]
  · rw [bind_unwound run]

theorem Keeps.bind {g : α → Prog σ τ ε β} (first : Keeps f m) (rest : ∀ a, Keeps f (g a)) :
    Keeps f (m >>= g) :=
  fun s => (bind_state rest s).trans (first s)

theorem Keeps.caught (h : Keeps f m) : Keeps f m.caught := by
  intro s
  have here := h s
  unfold Prog.caught
  split <;> rename_i run <;> rw [run] at here <;> exact here

end Keeps

/-- The program passes, from every state. -/
def Returns (m : Prog σ τ ε α) : Prop := ∀ s, (m s).flow.passes = true

section Returns

variable {m : Prog σ τ ε α}

theorem Returns.pure {a : α} : Returns (Pure.pure a : Prog σ τ ε α) := fun _ => rfl

theorem Returns.reads {f : σ → α} : Returns (Prog.reads f : Prog σ τ ε α) := fun _ => rfl

theorem Returns.ask {note : Option α → τ} {c : Call σ α} (h : ∀ s, (c s).1.isSome = true) :
    Returns (Prog.ask note c : Prog σ τ ε α) := by
  intro s
  have answers := h s
  unfold Prog.ask
  split <;> rename_i run
  · rfl
  · rw [run] at answers
    cases answers

theorem Returns.expect {a : Option α} (h : a.isSome = true) :
    Returns (Prog.expect a : Prog σ τ ε α) := by
  cases a with
  | none => cases h
  | some a => exact .pure

theorem Returns.bind {f : α → Prog σ τ ε β} (first : Returns m) (rest : ∀ a, Returns (f a)) :
    Returns (m >>= f) := by
  intro s
  have here := first s
  rcases run : m s with ⟨a | e | _, s', t⟩ <;> rw [run] at here
  · rw [bind_pass run]
    exact rest a s'
  · cases here
  · cases here

/-- A recovered question passes whatever its collaborator does. -/
theorem Returns.caught_ask {note : Option α → τ} {c : Call σ α} :
    Returns (Prog.caught (Prog.ask note c) : Prog σ τ ε (Option α)) := by
  intro s
  unfold Prog.caught Prog.ask
  rcases c s with ⟨_ | a, s'⟩ <;> rfl

end Returns

/-- A pass of the program makes `n` observations that satisfy `p`. -/
def Shows (p : τ → Bool) (n : Nat) (m : Prog σ τ ε α) : Prop :=
  ∀ s a s' t, m s = ⟨.pass a, s', t⟩ → t.countP p = n

section Shows

variable {p : τ → Bool} {m : Prog σ τ ε α} {n k : Nat}

theorem Shows.of_emits (silent : Emits (fun e => p e = false) m) : Shows p 0 m := by
  intro s a s' t passed
  have here := silent s
  rw [passed] at here
  rw [List.countP_eq_zero]
  intro e member satisfied
  rw [here e member] at satisfied
  cases satisfied

theorem Shows.pure {a : α} : Shows p 0 (Pure.pure a : Prog σ τ ε α) := .of_emits .pure

theorem Shows.expect {a : Option α} : Shows p 0 (Prog.expect a : Prog σ τ ε α) :=
  .of_emits .expect

theorem Shows.reads {f : σ → α} : Shows p 0 (Prog.reads f : Prog σ τ ε α) := .of_emits .reads

theorem Shows.ask {note : Option α → τ} {c : Call σ α} {b : Bool}
    (h : ∀ a, p (note (some a)) = b) :
    Shows p b.toNat (Prog.ask note c : Prog σ τ ε α) := by
  intro s a s' t passed
  unfold Prog.ask at passed
  split at passed <;> cases passed
  cases b <;> simp [h a]

/-- A recovered question is observed however it ended. -/
theorem Shows.caught_ask {note : Option α → τ} {c : Call σ α} {b : Bool}
    (h : ∀ a, p (note a) = b) :
    Shows p b.toNat (Prog.caught (Prog.ask note c) : Prog σ τ ε (Option α)) := by
  intro s a s' t passed
  rcases called : c s with ⟨answer | a', s₁⟩ <;>
    simp only [Prog.caught, Prog.ask, called, Run.mk.injEq] at passed <;>
    obtain ⟨-, -, rfl⟩ := passed <;> cases b <;> simp [h]

theorem Shows.bind {f : α → Prog σ τ ε β} (first : Shows p n m) (rest : ∀ a, Shows p k (f a)) :
    Shows p (n + k) (m >>= f) := by
  intro s b s' t passed
  obtain ⟨a, s₁, t₁, t₂, here, there, rfl⟩ := bind_pass_iff.mp passed
  rw [List.countP_append, first s a s₁ t₁ here, rest a s₁ b s' t₂ there]

end Shows

/-- A pass of the program ends with a value that satisfies `P`. -/
def Yields (P : α → Prop) (m : Prog σ τ ε α) : Prop := ∀ s a s' t, m s = ⟨.pass a, s', t⟩ → P a

section Yields

variable {P : α → Prop} {Q : β → Prop} {m : Prog σ τ ε α}

theorem Yields.pure {a : α} (h : P a) : Yields P (Pure.pure a : Prog σ τ ε α) := by
  intro s b s' t passed
  obtain ⟨rfl, -, -⟩ := pure_pass_iff.mp passed
  exact h

theorem Yields.expect {a : Option α} (h : ∀ b, a = some b → P b) :
    Yields P (Prog.expect a : Prog σ τ ε α) := by
  cases a with
  | none => exact fun _ _ _ _ passed => nomatch passed
  | some a => exact .pure (h a rfl)

theorem Yields.ask {note : Option α → τ} {c : Call σ α} (h : ∀ s a, (c s).1 = some a → P a) :
    Yields P (Prog.ask note c : Prog σ τ ε α) := by
  intro s a s' t passed
  have said := h s a
  unfold Prog.ask at passed
  split at passed <;> rename_i run <;> rw [run] at said <;> cases passed
  exact said rfl

/-- A recovered program yields what the program yields, where it passes. -/
theorem Yields.caught (h : Yields P m) : Yields (fun a => ∀ b, a = some b → P b) m.caught := by
  intro s a s' t passed b same
  subst same
  unfold Prog.caught at passed
  split at passed <;> rename_i run <;> cases passed
  exact h s b _ _ run

theorem Yields.any : Yields (fun _ => True) m := fun _ _ _ _ _ => trivial

theorem Yields.bind {f : α → Prog σ τ ε β} (first : Yields P m)
    (rest : ∀ a, P a → Yields Q (f a)) : Yields Q (m >>= f) := by
  intro s b s' t passed
  obtain ⟨a, s₁, t₁, t₂, here, there, -⟩ := bind_pass_iff.mp passed
  exact rest a (first s a s₁ t₁ here) s₁ b s' t₂ there

end Yields

/-- What `g` reads off the observations of the program is `l`, however it ends. -/
def Tells (g : τ → Option κ) (l : List κ) (m : Prog σ τ ε α) : Prop :=
  ∀ s, (m s).trace.filterMap g = l

section Tells

variable {g : τ → Option κ} {m : Prog σ τ ε α} {l l' : List κ}

theorem Tells.of_emits (silent : Emits (fun e => g e = none) m) : Tells g [] m := by
  intro s
  rw [List.filterMap_eq_nil_iff]
  exact silent s

theorem Tells.pure {a : α} : Tells g [] (Pure.pure a : Prog σ τ ε α) := .of_emits .pure

theorem Tells.ask {note : Option α → τ} {c : Call σ α} {k : κ} (h : ∀ a, g (note a) = some k) :
    Tells g [k] (Prog.ask note c : Prog σ τ ε α) := by
  intro s
  unfold Prog.ask
  split <;> simp [h]

/-- Behind a first half that tells something the rest tells nothing. -/
theorem Tells.bind {f : α → Prog σ τ ε β} (first : Tells g l m)
    (rest : ∀ a, Tells g [] (f a)) : Tells g l (m >>= f) := by
  intro s
  have here := first s
  rcases run : m s with ⟨a | e | _, s', t⟩ <;> rw [run] at here
  · rw [bind_pass run, Run.after_trace, List.filterMap_append, rest a s', here, List.append_nil]
  · rw [bind_exit run, here]
  · rw [bind_unwound run, here]

/-- Behind a first half that returns and tells nothing the rest is heard. -/
theorem Tells.bind_returns {f : α → Prog σ τ ε β} (first : Tells g [] m) (returns : Returns m)
    (rest : ∀ a, Tells g l (f a)) : Tells g l (m >>= f) := by
  intro s
  have here := first s
  have passes := returns s
  rcases run : m s with ⟨a | e | _, s', t⟩ <;> rw [run] at here passes
  · rw [bind_pass run, Run.after_trace, List.filterMap_append, here, rest a s', List.nil_append]
  · cases passes
  · cases passes

end Tells

end Prog

end Traced
