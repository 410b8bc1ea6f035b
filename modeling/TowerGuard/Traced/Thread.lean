import TowerGuard.Traced.Agreement

/-!
# Programs run step by step

A thread is a program that other code may run in between: each of its steps is one act on the
state as it finds it, and where it waits it says what it holds. `alone` is the program it is
when nothing interferes.

`Ensures` is proved once for a thread, over every state its steps may find, and says what the
steps do, what is held while waiting, and how the thread ends, all in terms of what the thread
itself has observed so far.
-/

namespace Traced

/-- A program over `σ` in steps, holding some `ρ` while it waits. -/
inductive Thread (σ τ ρ ε α : Type) where
  | pass (value : α)
  | exit (early : ε)
  | unwound
  | act (effect : σ → σ × List τ) (rest : σ → Thread σ τ ρ ε α)
  | wait (held : ρ) (rest : Thread σ τ ρ ε α)

/-- What is asked of a thread that has observed `past`: what a step may do to the state it finds,
and what may be held while waiting. -/
structure Promise (σ τ ρ : Type) where
  acts : (past : List τ) → σ → σ × List τ → Prop
  holds : (past : List τ) → ρ → Prop

/-- The promise that says nothing. -/
def Promise.vacuous {σ τ ρ : Type} : Promise σ τ ρ where
  acts _ _ _ := True
  holds _ _ := True

variable {σ τ ρ ε ε' α β : Type}

namespace Thread

def bind : Thread σ τ ρ ε α → (α → Thread σ τ ρ ε β) → Thread σ τ ρ ε β
  | .pass a, f => f a
  | .exit e, _ => .exit e
  | .unwound, _ => .unwound
  | .act effect rest, f => .act effect fun s => bind (rest s) f
  | .wait held rest, f => .wait held (bind rest f)

instance : Monad (Thread σ τ ρ ε) where
  pure := .pass
  bind := bind

/-- Continue from a pass with `onPass` and from an early exit with `onExit`. -/
def settle : Thread σ τ ρ ε α → (α → Thread σ τ ρ ε' β) → (ε → Thread σ τ ρ ε' β) →
    Thread σ τ ρ ε' β
  | .pass a, onPass, _ => onPass a
  | .exit e, _, onExit => onExit e
  | .unwound, _, _ => .unwound
  | .act effect rest, onPass, onExit => .act effect fun s => settle (rest s) onPass onExit
  | .wait held rest, onPass, onExit => .wait held (settle rest onPass onExit)

def ofFlow : Flow ε α → Thread σ τ ρ ε α
  | .pass a => .pass a
  | .exit e => .exit e
  | .unwound => .unwound

/-- A program as one step. -/
def atomically (m : Prog σ τ ε α) : Thread σ τ ρ ε α :=
  .act (fun s => ((m s).state, (m s).trace)) fun s => ofFlow (m s).flow

/-- Threads that go through a list, each from where the one before left off. -/
def checklist {ι χ : Type} (step : ι → χ → Thread σ τ ρ ε χ) : List ι → χ → Thread σ τ ρ ε χ
  | [], x => .pass x
  | c :: cs, x => (step c x).bind (checklist step cs)

theorem bind_eq (t : Thread σ τ ρ ε α) (f : α → Thread σ τ ρ ε β) : t >>= f = t.bind f := rfl

theorem pure_eq (a : α) : (Pure.pure a : Thread σ τ ρ ε α) = .pass a := rfl

/-! ### Without interference -/

/-- The thread run to its end, with nothing in between. -/
def alone : Thread σ τ ρ ε α → Prog σ τ ε α
  | .pass a => pure a
  | .exit e => Prog.exit e
  | .unwound => Prog.unwind
  | .act effect rest => fun s => (alone (rest s) (effect s).1).after (effect s).2
  | .wait _ rest => alone rest

/-- How many steps that takes from this state. -/
def steps : Thread σ τ ρ ε α → σ → Nat
  | .pass _, _ | .exit _, _ | .unwound, _ => 0
  | .act effect rest, s => steps (rest s) (effect s).1 + 1
  | .wait _ rest, s => steps rest s + 1

@[simp] theorem alone_pass (a : α) : (pass a : Thread σ τ ρ ε α).alone = pure a := rfl

@[simp] theorem alone_pure (a : α) : (Pure.pure a : Thread σ τ ρ ε α).alone = pure a := rfl

@[simp] theorem alone_wait (held : ρ) (t : Thread σ τ ρ ε α) : (wait held t).alone = t.alone :=
  rfl

theorem alone_act (effect : σ → σ × List τ) (rest : σ → Thread σ τ ρ ε α) (s : σ) :
    (act effect rest).alone s = ((rest s).alone (effect s).1).after (effect s).2 := rfl

@[simp] theorem alone_atomically (m : Prog σ τ ε α) :
    (atomically m : Thread σ τ ρ ε α).alone = m := by
  funext s
  simp only [atomically, alone_act]
  rcases m s with ⟨a | e | _, s', t⟩ <;>
    simp [ofFlow, alone, Prog.pure_run, Prog.exit, Prog.unwind, Run.after]

@[simp] theorem alone_bind (t : Thread σ τ ρ ε α) (f : α → Thread σ τ ρ ε β) :
    (t >>= f).alone = t.alone >>= fun a => (f a).alone := by
  rw [bind_eq]
  -- Along the thread: whatever a step observes stands in front of both sides.
  induction t with
  | pass a => rfl
  | exit e => rfl
  | unwound => rfl
  | act effect rest ih =>
    funext s
    simp only [bind, alone_act, ih]
    exact (Prog.bind_after (n := (rest s).alone) rfl).symm
  | wait held rest ih => exact ih

theorem alone_settle (t : Thread σ τ ρ ε α) (onPass : α → Thread σ τ ρ ε' β)
    (onExit : ε → Thread σ τ ρ ε' β) : (t.settle onPass onExit).alone =
      t.alone.settle (fun a => (onPass a).alone) fun e => (onExit e).alone := by
  induction t with
  | pass a => rfl
  | exit e => rfl
  | unwound => rfl
  | act effect rest ih =>
    funext s
    simp only [settle, alone_act, ih, Prog.settle]
    rcases (rest s).alone (effect s).1 with ⟨a | e | _, s', t⟩ <;> simp [Run.after]
  | wait held rest ih => exact ih

theorem alone_checklist {ι χ : Type} (step : ι → χ → Thread σ τ ρ ε χ) (cs : List ι) (x : χ) :
    (checklist step cs x).alone = Checklist.run (fun c y => (step c y).alone) cs x := by
  induction cs generalizing x with
  | nil => rfl
  | cons c cs ih =>
    have later : (fun y => (checklist step cs y).alone) =
        Checklist.run (fun c y => (step c y).alone) cs := funext ih
    rw [Checklist.run_cons, ← later]
    exact alone_bind (step c x) (checklist step cs)

/-! ### With interference -/

/-- One step, from the state it finds. -/
def next : Thread σ τ ρ ε α → σ → Option (Thread σ τ ρ ε α × σ × List τ)
  | .pass _, _ | .exit _, _ | .unwound, _ => none
  | .act effect rest, s => some (rest s, effect s)
  | .wait _ rest, s => some (rest, s, [])

/-- What the thread holds, if it waits. -/
def held? : Thread σ τ ρ ε α → Option ρ
  | .wait held _ => some held
  | .pass _ | .exit _ | .unwound | .act _ _ => none

/-- The thread keeps the promise and ends as `Q` says, whatever its steps find. -/
def Ensures (P : Promise σ τ ρ) : Thread σ τ ρ ε α → (List τ → Flow ε α → Prop) → List τ → Prop
  | .pass a, Q, past => Q past (.pass a)
  | .exit e, Q, past => Q past (.exit e)
  | .unwound, Q, past => Q past .unwound
  | .act effect rest, Q, past => ∀ s, P.acts past s (effect s) ∧
      Ensures P (rest s) Q (past ++ (effect s).2)
  | .wait held rest, Q, past => P.holds past held ∧ Ensures P rest Q past

/-- A pass goes on, and every other ending is the ending of the whole. -/
def onward (next : List τ → α → Prop) (Q : List τ → Flow ε β → Prop) : List τ → Flow ε α → Prop
  | past, .pass a => next past a
  | past, .exit e => Q past (.exit e)
  | past, .unwound => Q past .unwound

section Rules

variable {P : Promise σ τ ρ} {Q Q' : List τ → Flow ε α → Prop} {past : List τ}

theorem Ensures.mono {t : Thread σ τ ρ ε α} (ensures : Ensures P t Q past)
    (weaker : ∀ past flow, Q past flow → Q' past flow) : Ensures P t Q' past := by
  induction t generalizing past with
  | pass a => exact weaker _ _ ensures
  | exit e => exact weaker _ _ ensures
  | unwound => exact weaker _ _ ensures
  | act effect rest ih => exact fun s => ⟨(ensures s).1, ih s (ensures s).2⟩
  | wait held rest ih => exact ⟨ensures.1, ih ensures.2⟩

/-- A promise may be weakened step by step. -/
theorem Ensures.weaken {P' : Promise σ τ ρ} {t : Thread σ τ ρ ε α} (ensures : Ensures P t Q past)
    (acts : ∀ past s after, P.acts past s after → P'.acts past s after)
    (holds : ∀ past held, P.holds past held → P'.holds past held) : Ensures P' t Q past := by
  induction t generalizing past with
  | pass a => exact ensures
  | exit e => exact ensures
  | unwound => exact ensures
  | act effect rest ih => exact fun s => ⟨acts _ _ _ (ensures s).1, ih s (ensures s).2⟩
  | wait held rest ih => exact ⟨holds _ _ ensures.1, ih ensures.2⟩

theorem Ensures.bind {t : Thread σ τ ρ ε α} {f : α → Thread σ τ ρ ε β}
    {Q : List τ → Flow ε β → Prop}
    (first : Ensures P t (onward (fun past a => Ensures P (f a) Q past) Q) past) :
    Ensures P (t.bind f) Q past := by
  induction t generalizing past with
  | pass a => exact first
  | exit e => exact first
  | unwound => exact first
  | act effect rest ih => exact fun s => ⟨(first s).1, ih s (first s).2⟩
  | wait held rest ih => exact ⟨first.1, ih first.2⟩

theorem Ensures.settle {t : Thread σ τ ρ ε α} {onPass : α → Thread σ τ ρ ε' β}
    {onExit : ε → Thread σ τ ρ ε' β} {Q : List τ → Flow ε' β → Prop} {past : List τ}
    {Q₁ : List τ → Flow ε α → Prop} (first : Ensures P t Q₁ past)
    (pass : ∀ past a, Q₁ past (.pass a) → Ensures P (onPass a) Q past)
    (exit : ∀ past e, Q₁ past (.exit e) → Ensures P (onExit e) Q past)
    (unwound : ∀ past, Q₁ past .unwound → Q past .unwound) :
    Ensures P (t.settle onPass onExit) Q past := by
  induction t generalizing past with
  | pass a => exact pass _ _ first
  | exit e => exact exit _ _ first
  | unwound => exact unwound _ first
  | act effect rest ih => exact fun s => ⟨(first s).1, ih s (first s).2⟩
  | wait held rest ih => exact ⟨first.1, ih first.2⟩

theorem ensures_vacuous {t : Thread σ τ ρ ε α} : Ensures .vacuous t (fun _ _ => True) past := by
  induction t generalizing past with
  | pass a => trivial
  | exit e => trivial
  | unwound => trivial
  | act effect rest ih => exact fun s => ⟨trivial, ih s⟩
  | wait held rest ih => exact ⟨trivial, ih⟩

theorem ensures_ofFlow_iff {flow : Flow ε α} : Ensures P (ofFlow flow) Q past ↔ Q past flow := by
  cases flow <;> exact Iff.rfl

/-- A program taken as one step is judged by its runs. -/
theorem ensures_atomically_iff {m : Prog σ τ ε α} :
    Ensures P (atomically m) Q past ↔
      ∀ s, P.acts past s ((m s).state, (m s).trace) ∧ Q (past ++ (m s).trace) (m s).flow := by
  exact forall_congr' fun s => and_congr_right fun _ => ensures_ofFlow_iff

/-- A list keeps an invariant of what is left of it, the value and the past that its steps keep. -/
theorem Ensures.checklist {ι χ : Type} {step : ι → χ → Thread σ τ ρ ε χ}
    {Q : List τ → Flow ε χ → Prop} {I : List ι → χ → List τ → Prop}
    (steps : ∀ c cs x past, I (c :: cs) x past →
      Ensures P (step c x) (onward (fun past y => I cs y past) Q) past)
    (done : ∀ x past, I [] x past → Q past (.pass x)) {cs : List ι} {x : χ}
    (start : I cs x past) : Ensures P (Thread.checklist step cs x) Q past := by
  induction cs generalizing x past with
  | nil => exact done x past start
  | cons c cs ih =>
    refine .bind ((steps c cs x past start).mono ?_)
    intro past flow ended
    cases flow with
    | pass y => exact ih ended
    | exit e => exact ended
    | unwound => exact ended

end Rules

/-! ### Checklists with interference -/

/-- The steps `cs` have passed one after the other from `x₀`, each in some state of its own, and
have observed `past`. -/
inductive Cleared {ι χ : Type} (step : ι → χ → Prog σ τ ε χ) (x₀ : χ) :
    List ι → List τ → χ → Prop
  | nil : Cleared step x₀ [] [] x₀
  | snoc {cs : List ι} {c : ι} {past t : List τ} {x x' : χ} {s s' : σ} :
      Cleared step x₀ cs past x → step c x s = ⟨.pass x', s', t⟩ →
      Cleared step x₀ (cs ++ [c]) (past ++ t) x'

section Cleared

variable {ι χ : Type} {step : ι → χ → Prog σ τ ε χ} {x₀ x : χ} {cs : List ι} {past : List τ}

theorem cleared_nil_iff : Cleared step x₀ [] past x ↔ past = [] ∧ x = x₀ := by
  constructor
  · generalize none : ([] : List ι) = cs
    intro cleared
    cases cleared with
    | nil => exact ⟨rfl, rfl⟩
    | snoc _ _ => simp at none
  · rintro ⟨rfl, rfl⟩
    exact .nil

theorem Cleared.invariant {I : χ → Prop} (cleared : Cleared step x₀ cs past x)
    (preserved : ∀ c x s x' s' t, I x → step c x s = ⟨.pass x', s', t⟩ → I x') (start : I x₀) :
    I x := by
  induction cleared with
  | nil => exact start
  | snoc _ passed ih => exact preserved _ _ _ _ _ _ ih passed

/-- What was observed, a step observed that passed. -/
theorem Cleared.observed {e : τ} (cleared : Cleared step x₀ cs past x) (member : e ∈ past) :
    ∃ c ∈ cs, ∃ y s y' s' t, step c y s = ⟨.pass y', s', t⟩ ∧ e ∈ t := by
  induction cleared with
  | nil => cases member
  | snoc _ passed ih =>
    rcases List.mem_append.mp member with before | here
    · obtain ⟨c, inside, found⟩ := ih before
      exact ⟨c, List.mem_append_left _ inside, found⟩
    · exact ⟨_, by simp, _, _, _, _, _, passed, here⟩

/-- Every step of the list was cleared behind those ahead of it. -/
theorem Cleared.passed {c : ι} (cleared : Cleared step x₀ cs past x) (member : c ∈ cs) :
    ∃ front earlier y s y' s' t, Cleared step x₀ front earlier y ∧
      step c y s = ⟨.pass y', s', t⟩ ∧ (earlier ++ t) <+: past := by
  induction cleared with
  | nil => cases member
  | snoc before here ih =>
    rcases List.mem_append.mp member with front | last
    · obtain ⟨front, earlier, y, s, y', s', t, cleared, found, ahead⟩ := ih front
      exact ⟨front, earlier, y, s, y', s', t, cleared, found,
        ahead.trans (List.prefix_append _ _)⟩
    · obtain rfl := List.mem_singleton.mp last
      exact ⟨_, _, _, _, _, _, _, before, here, List.prefix_rfl⟩

/-- What only `j` writes is as it was where `j` has not been cleared. -/
theorem Cleared.unwritten {κ : Type} {f : χ → κ} {j : ι} (cleared : Cleared step x₀ cs past x)
    (only : ∀ c, c ≠ j → ∀ x s x' s' t, step c x s = ⟨.pass x', s', t⟩ → f x' = f x)
    (absent : j ∉ cs) : f x = f x₀ := by
  induction cleared with
  | nil => rfl
  | @snoc cs c past t x x' s s' before here ih =>
    have other : c ≠ j := fun same => absent (List.mem_append_right _ (by rw [same]; simp))
    exact (only c other _ _ _ _ _ here).trans
      (ih fun member => absent (List.mem_append_left _ member))

end Cleared

/-! ### Threads that run alike -/

/-- Step by step, from states related by `R`, the threads leave related states and go on alike;
they wait together and end alike, with values related by `V`. -/
inductive Alike (R : σ → σ → Prop) (V : α → β → Prop) :
    Thread σ τ ρ ε α → Thread σ τ ρ ε β → Prop
  | pass {a : α} {b : β} : V a b → Alike R V (.pass a) (.pass b)
  | exit (e : ε) : Alike R V (.exit e) (.exit e)
  | unwound : Alike R V .unwound .unwound
  | act {effect effect' : σ → σ × List τ} {rest : σ → Thread σ τ ρ ε α}
      {rest' : σ → Thread σ τ ρ ε β} :
      (∀ s s', R s s' → R (effect s).1 (effect' s').1) →
      (∀ s s', R s s' → Alike R V (rest s) (rest' s')) →
      Alike R V (.act effect rest) (.act effect' rest')
  | wait (held : ρ) {rest : Thread σ τ ρ ε α} {rest' : Thread σ τ ρ ε β} :
      Alike R V rest rest' → Alike R V (.wait held rest) (.wait held rest')

section Alike

variable {α' β' : Type} {R : σ → σ → Prop} {V : α → β → Prop} {V' : α' → β' → Prop}

theorem alike_ofFlow {f : Flow ε α} {f' : Flow ε β} (alike : f.Alike V f') :
    Alike R V (ofFlow f : Thread σ τ ρ ε α) (ofFlow f') := by
  cases alike with
  | pass related => exact .pass related
  | exit e => exact .exit e
  | unwound => exact .unwound

/-- What is like an ended thread has ended alike. -/
theorem Alike.ended {f : Flow ε α} {t : Thread σ τ ρ ε β} (alike : Alike R V (ofFlow f) t) :
    ∃ f', t = ofFlow f' ∧ f.Alike V f' := by
  cases f with
  | pass a => cases alike with | @pass _ b related => exact ⟨.pass b, rfl, .pass related⟩
  | exit e => cases alike; exact ⟨.exit e, rfl, .exit e⟩
  | unwound => cases alike; exact ⟨.unwound, rfl, .unwound⟩

theorem alike_atomically {m : Prog σ τ ε α} {m' : Prog σ τ ε β} (agree : Prog.Agree R V m m') :
    Alike R V (atomically m : Thread σ τ ρ ε α) (atomically m') :=
  .act (fun s s' same => (agree s s' same).state) fun s s' same =>
    alike_ofFlow (agree s s' same).flow

theorem Alike.bind {t : Thread σ τ ρ ε α} {t' : Thread σ τ ρ ε β}
    {f : α → Thread σ τ ρ ε α'} {f' : β → Thread σ τ ρ ε β'} (first : Alike R V t t')
    (rest : ∀ a b, V a b → Alike R V' (f a) (f' b)) : Alike R V' (t.bind f) (t'.bind f') := by
  induction first with
  | pass related => exact rest _ _ related
  | exit e => exact .exit e
  | unwound => exact .unwound
  | act states _ ih => exact .act states ih
  | wait held _ ih => exact .wait held ih

theorem Alike.settle {t : Thread σ τ ρ ε α} {t' : Thread σ τ ρ ε β}
    {onPass : α → Thread σ τ ρ ε' α'} {onPass' : β → Thread σ τ ρ ε' β'}
    {onExit : ε → Thread σ τ ρ ε' α'} {onExit' : ε → Thread σ τ ρ ε' β'} (first : Alike R V t t')
    (pass : ∀ a b, V a b → Alike R V' (onPass a) (onPass' b))
    (exit : ∀ e, Alike R V' (onExit e) (onExit' e)) :
    Alike R V' (t.settle onPass onExit) (t'.settle onPass' onExit') := by
  induction first with
  | pass related => exact pass _ _ related
  | exit e => exact exit e
  | unwound => exact .unwound
  | act states _ ih => exact .act states ih
  | wait held _ ih => exact .wait held ih

/-- Lists are gone through alike where each step is, on the values `I` holds of. -/
theorem Alike.checklist {ι χ : Type} {step step' : ι → χ → Thread σ τ ρ ε χ} {I : χ → Prop}
    (steps : ∀ c x, I x → Alike R (fun y y' => y = y' ∧ I y) (step c x) (step' c x))
    {cs : List ι} {x : χ} (start : I x) :
    Alike R (fun y y' => y = y' ∧ I y) (Thread.checklist step cs x)
      (Thread.checklist step' cs x) := by
  induction cs generalizing x with
  | nil => exact .pass ⟨rfl, start⟩
  | cons c cs ih =>
    refine .bind (steps c x start) ?_
    rintro y _ ⟨rfl, held⟩
    exact ih held

end Alike

/-! ### Steps -/

/-- The thread ends within `n` steps, whatever they find. -/
def Within : Thread σ τ ρ ε α → Nat → Prop
  | .pass _, _ | .exit _, _ | .unwound, _ => True
  | .act _ _, 0 | .wait _ _, 0 => False
  | .act _ rest, n + 1 => ∀ s, Within (rest s) n
  | .wait _ rest, n + 1 => Within rest n

section Within

variable {m n : Nat}

theorem Within.mono {t : Thread σ τ ρ ε α} (within : t.Within m) (le : m ≤ n) : t.Within n := by
  induction t generalizing m n with
  | pass a => trivial
  | exit e => trivial
  | unwound => trivial
  | act effect rest ih =>
    cases m with
    | zero => cases within
    | succ m =>
      obtain ⟨n, rfl⟩ : ∃ k, n = k + 1 := ⟨n - 1, by omega⟩
      exact fun s => ih s (within s) (by omega)
  | wait held rest ih =>
    cases m with
    | zero => cases within
    | succ m =>
      obtain ⟨n, rfl⟩ : ∃ k, n = k + 1 := ⟨n - 1, by omega⟩
      exact ih within (by omega)

theorem Within.wait {t : Thread σ τ ρ ε α} {held : ρ} (within : t.Within n) :
    (Thread.wait held t).Within (n + 1) := within

theorem within_ofFlow (flow : Flow ε α) : (ofFlow flow : Thread σ τ ρ ε α).Within n := by
  cases flow <;> trivial

theorem within_atomically (m : Prog σ τ ε α) : (atomically m : Thread σ τ ρ ε α).Within 1 :=
  fun s => within_ofFlow (m s).flow

/-- The steps of a sequence add up, and the second half may count on the values the first passes
on. -/
theorem Within.bind_values {t : Thread σ τ ρ ε α} {f : α → Thread σ τ ρ ε β} {V : α → Prop}
    {past : List τ} (first : t.Within m)
    (values : Ensures .vacuous t (onward (fun _ a => V a) fun _ (_ : Flow ε β) => True) past)
    (second : ∀ a, V a → (f a).Within n) : (t.bind f).Within (m + n) := by
  induction t generalizing m past with
  | pass a => exact (second a values).mono (by omega)
  | exit e => trivial
  | unwound => trivial
  | act effect rest ih =>
    cases m with
    | zero => cases first
    | succ m =>
      rw [Nat.add_right_comm]
      exact fun s => ih s (first s) (values s).2
  | wait held rest ih =>
    cases m with
    | zero => cases first
    | succ m =>
      rw [Nat.add_right_comm]
      exact ih first values.2

theorem Within.bind {t : Thread σ τ ρ ε α} {f : α → Thread σ τ ρ ε β} (first : t.Within m)
    (second : ∀ a, (f a).Within n) : (t.bind f).Within (m + n) := by
  have values : Ensures .vacuous t
      (onward (fun _ _ => True) fun _ (_ : Flow ε β) => True) [] := by
    refine ensures_vacuous.mono fun past flow _ => ?_
    cases flow <;> trivial
  exact first.bind_values values fun a _ => second a

theorem Within.settle {t : Thread σ τ ρ ε α} {onPass : α → Thread σ τ ρ ε' β}
    {onExit : ε → Thread σ τ ρ ε' β} (first : t.Within m) (pass : ∀ a, (onPass a).Within n)
    (exit : ∀ e, (onExit e).Within n) : (t.settle onPass onExit).Within (m + n) := by
  induction t generalizing m with
  | pass a => exact (pass a).mono (by omega)
  | exit e => exact (exit e).mono (by omega)
  | unwound => trivial
  | act effect rest ih =>
    cases m with
    | zero => cases first
    | succ m =>
      rw [Nat.add_right_comm]
      exact fun s => ih s (first s)
  | wait held rest ih =>
    cases m with
    | zero => cases first
    | succ m =>
      rw [Nat.add_right_comm]
      exact ih first

theorem Within.checklist {ι χ : Type} {step : ι → χ → Thread σ τ ρ ε χ} {V : χ → Prop}
    {cost : ι → Nat}
    (steps : ∀ c x, V x → (step c x).Within (cost c) ∧
      Ensures .vacuous (step c x) (onward (fun _ y => V y) fun _ (_ : Flow ε χ) => True) [])
    {cs : List ι} {x : χ} (start : V x) :
    (Thread.checklist step cs x).Within (cs.foldr (cost · + ·) 0) := by
  induction cs generalizing x with
  | nil => trivial
  | cons c cs ih => exact .bind_values (steps c x start).1 (steps c x start).2 fun y held => ih held

end Within

end Thread

end Traced
