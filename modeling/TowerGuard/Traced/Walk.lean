import TowerGuard.Traced.Effects
import TowerGuard.Traced.Pool

/-!
# Walks

What a thread does in a run of its pool comes down to its acts, each with the state it found and
the one it left. A walk is the thread with these acts, whatever lies between them. `run_walks` reads
the walk of a finished task off a run, at moments in order, and `walks_run` makes a run of any walk.
-/

namespace Traced

variable {ι χ σ τ ρ ε ε' α β : Type}

/-- The state an act has found, and the one it has left. -/
structure Act (σ : Type) where
  found : σ
  left : σ

/-- The program is run once, in some state, and is the one act. -/
def Prog.Once (m : Prog σ τ ε α) (acts : List (Act σ)) (trace : List τ) (flow : Flow ε α) : Prop :=
  ∃ s, acts = [⟨s, (m s).state⟩] ∧ trace = (m s).trace ∧ flow = (m s).flow

namespace Thread

/-- With these acts the thread observes the trace and ends so. -/
inductive Walks : Thread σ τ ρ ε α → List (Act σ) → List τ → Flow ε α → Prop
  | pass (a : α) : Walks (.pass a) [] [] (.pass a)
  | exit (e : ε) : Walks (.exit e) [] [] (.exit e)
  | unwound : Walks .unwound [] [] .unwound
  | act {effect : σ → σ × List τ} {rest : σ → Thread σ τ ρ ε α} {s : σ} {acts : List (Act σ)}
      {trace : List τ} {flow : Flow ε α} : Walks (rest s) acts trace flow →
      Walks (.act effect rest) (⟨s, (effect s).1⟩ :: acts) ((effect s).2 ++ trace) flow
  | wait {held : ρ} {rest : Thread σ τ ρ ε α} {acts : List (Act σ)} {trace : List τ}
      {flow : Flow ε α} : Walks rest acts trace flow → Walks (.wait held rest) acts trace flow

section Walks

variable {acts : List (Act σ)} {trace : List τ} {flow : Flow ε α}

theorem walks_ofFlow_iff {ended : Flow ε α} :
    (ofFlow ended : Thread σ τ ρ ε α).Walks acts trace flow ↔
      acts = [] ∧ trace = [] ∧ flow = ended := by
  cases ended with
  | pass a =>
    constructor
    · rintro ⟨⟩
      exact ⟨rfl, rfl, rfl⟩
    · rintro ⟨rfl, rfl, rfl⟩
      exact .pass a
  | exit e =>
    constructor
    · rintro ⟨⟩
      exact ⟨rfl, rfl, rfl⟩
    · rintro ⟨rfl, rfl, rfl⟩
      exact .exit e
  | unwound =>
    constructor
    · rintro ⟨⟩
      exact ⟨rfl, rfl, rfl⟩
    · rintro ⟨rfl, rfl, rfl⟩
      exact .unwound

theorem walks_pass_iff {a : α} : (pass a : Thread σ τ ρ ε α).Walks acts trace flow ↔
    acts = [] ∧ trace = [] ∧ flow = .pass a := by
  have ended : (ofFlow (.pass a) : Thread σ τ ρ ε α).Walks acts trace flow ↔ _ :=
    walks_ofFlow_iff
  exact ended

theorem walks_wait_iff {held : ρ} {rest : Thread σ τ ρ ε α} :
    (wait held rest).Walks acts trace flow ↔ rest.Walks acts trace flow := by
  constructor
  · rintro ⟨⟩
    assumption
  · exact .wait

theorem walks_act_iff {effect : σ → σ × List τ} {rest : σ → Thread σ τ ρ ε α} :
    (act effect rest).Walks acts trace flow ↔ ∃ s later trace',
      acts = ⟨s, (effect s).1⟩ :: later ∧ trace = (effect s).2 ++ trace' ∧
      (rest s).Walks later trace' flow := by
  constructor
  · rintro ⟨⟩
    exact ⟨_, _, _, rfl, rfl, by assumption⟩
  · rintro ⟨s, later, trace', rfl, rfl, walks⟩
    exact .act walks

/-- A program taken as one step is one act, its run in some state. -/
theorem walks_atomically_iff {m : Prog σ τ ε α} :
    (atomically m : Thread σ τ ρ ε α).Walks acts trace flow ↔ m.Once acts trace flow := by
  unfold atomically Prog.Once
  simp only [walks_act_iff, walks_ofFlow_iff]
  constructor
  · rintro ⟨s, _, _, rfl, rfl, rfl, rfl, rfl⟩
    exact ⟨s, rfl, List.append_nil _, rfl⟩
  · rintro ⟨s, rfl, rfl, rfl⟩
    exact ⟨s, [], [], rfl, (List.append_nil _).symm, rfl, rfl, rfl⟩

/-- The walk of a thread that is settled goes on where the thread has ended. -/
theorem walks_settle_iff {t : Thread σ τ ρ ε α} {onPass : α → Thread σ τ ρ ε' β}
    {onExit : ε → Thread σ τ ρ ε' β} {flow : Flow ε' β} :
    (t.settle onPass onExit).Walks acts trace flow ↔ ∃ ended s₁ s₂ t₁ t₂,
      t.Walks s₁ t₁ ended ∧
        ((ofFlow ended : Thread σ τ ρ ε α).settle onPass onExit).Walks s₂ t₂ flow ∧
        acts = s₁ ++ s₂ ∧ trace = t₁ ++ t₂ := by
  have of_ended (ended : Flow ε α) {acts : List (Act σ)} {trace : List τ} :
      ((ofFlow ended : Thread σ τ ρ ε α).settle onPass onExit).Walks acts trace flow ↔
        ∃ ended' s₁ s₂ t₁ t₂, (ofFlow ended : Thread σ τ ρ ε α).Walks s₁ t₁ ended' ∧
          ((ofFlow ended' : Thread σ τ ρ ε α).settle onPass onExit).Walks s₂ t₂ flow ∧
          acts = s₁ ++ s₂ ∧ trace = t₁ ++ t₂ := by
    constructor
    · intro walks
      exact ⟨ended, [], acts, [], trace, walks_ofFlow_iff.mpr ⟨rfl, rfl, rfl⟩, walks, rfl, rfl⟩
    · rintro ⟨ended', s₁, s₂, t₁, t₂, begins, walks, rfl, rfl⟩
      obtain ⟨rfl, rfl, rfl⟩ := walks_ofFlow_iff.mp begins
      exact walks
  induction t generalizing acts trace with
  | pass a => exact of_ended (.pass a)
  | exit e => exact of_ended (.exit e)
  | unwound => exact of_ended .unwound
  | act effect rest ih =>
    constructor
    · intro walks
      obtain ⟨s, later, trace', rfl, rfl, onward⟩ := walks_act_iff.mp walks
      obtain ⟨ended, s₁, s₂, t₁, t₂, begins, goes, rfl, rfl⟩ := (ih s).mp onward
      exact ⟨ended, _ :: s₁, s₂, (effect s).2 ++ t₁, t₂, .act begins, goes, rfl,
        (List.append_assoc ..).symm⟩
    · rintro ⟨ended, _, s₂, _, t₂, begins, goes, rfl, rfl⟩
      obtain ⟨s, later, trace', rfl, rfl, onward⟩ := walks_act_iff.mp begins
      rw [List.cons_append, List.append_assoc]
      exact .act ((ih s).mpr ⟨ended, later, s₂, trace', t₂, onward, goes, rfl, rfl⟩)
  | wait held rest ih =>
    constructor
    · intro walks
      obtain ⟨ended, s₁, s₂, t₁, t₂, begins, onward⟩ := ih.mp (walks_wait_iff.mp walks)
      exact ⟨ended, s₁, s₂, t₁, t₂, .wait begins, onward⟩
    · rintro ⟨ended, s₁, s₂, t₁, t₂, begins, onward⟩
      exact .wait (ih.mpr ⟨ended, s₁, s₂, t₁, t₂, walks_wait_iff.mp begins, onward⟩)

theorem bind_eq_settle (t : Thread σ τ ρ ε α) (f : α → Thread σ τ ρ ε β) :
    t.bind f = t.settle f .exit := by
  induction t with
  | pass a => rfl
  | exit e => rfl
  | unwound => rfl
  | act effect rest ih => simp only [bind, settle, ih]
  | wait held rest ih => simp only [bind, settle, ih]

theorem bind_assoc {γ : Type} (t : Thread σ τ ρ ε α) (f : α → Thread σ τ ρ ε β)
    (g : β → Thread σ τ ρ ε γ) : (t.bind f).bind g = t.bind fun a => (f a).bind g := by
  induction t with
  | pass a => rfl
  | exit e => rfl
  | unwound => rfl
  | act effect rest ih => simp only [bind, ih]
  | wait held rest ih => simp only [bind, ih]

/-- A sequence walks on from a pass, and ends with its first half otherwise. -/
theorem walks_bind_iff {t : Thread σ τ ρ ε α} {f : α → Thread σ τ ρ ε β} {flow : Flow ε β} :
    (t.bind f).Walks acts trace flow ↔ ∃ ended s₁ s₂ t₁ t₂, t.Walks s₁ t₁ ended ∧
      ((ofFlow ended : Thread σ τ ρ ε α).bind f).Walks s₂ t₂ flow ∧
      acts = s₁ ++ s₂ ∧ trace = t₁ ++ t₂ := by
  simp only [bind_eq_settle]
  exact walks_settle_iff

/-- A first half that finds nothing and observes nothing only hands on its value. -/
theorem walks_silent_bind_iff {t : Thread σ τ ρ ε α} {a : α} {f : α → Thread σ τ ρ ε β}
    (silent : ∀ {acts : List (Act σ)} {trace : List τ} {flow : Flow ε α},
      t.Walks acts trace flow ↔ acts = [] ∧ trace = [] ∧ flow = .pass a)
    {flow : Flow ε β} : (t.bind f).Walks acts trace flow ↔ (f a).Walks acts trace flow := by
  rw [walks_bind_iff]
  constructor
  · rintro ⟨ended, s₁, s₂, t₁, t₂, begins, onward, rfl, rfl⟩
    obtain ⟨rfl, rfl, rfl⟩ := silent.mp begins
    exact onward
  · intro onward
    exact ⟨.pass a, [], acts, [], trace, silent.mpr ⟨rfl, rfl, rfl⟩, onward, rfl, rfl⟩

/-- A first step finds one state, and the rest walks on from its ending. -/
theorem walks_atomically_bind_iff {m : Prog σ τ ε α} {f : α → Thread σ τ ρ ε β}
    {flow : Flow ε β} : ((atomically m : Thread σ τ ρ ε α).bind f).Walks acts trace flow ↔
      ∃ s later trace', acts = ⟨s, (m s).state⟩ :: later ∧ trace = (m s).trace ++ trace' ∧
        ((ofFlow (m s).flow : Thread σ τ ρ ε α).bind f).Walks later trace' flow :=
  walks_act_iff

/-- A value in place of another makes no step of its own. -/
theorem walks_atomically_map_iff {m : Prog σ τ ε α} {f : α → β} {flow : Flow ε β} :
    ((atomically m : Thread σ τ ρ ε α).bind fun a => .pass (f a)).Walks acts trace flow ↔
      (m >>= fun a => Pure.pure (f a)).Once acts trace flow := by
  rw [walks_atomically_bind_iff]
  constructor
  · rintro ⟨s, later, trace', rfl, rfl, onward⟩
    refine ⟨s, ?_⟩
    rw [Prog.bind_pure_trace, Prog.bind_pure_state]
    rcases ran : m s with ⟨a | e | _, s', t⟩ <;> rw [ran] at onward
    · cases onward
      rw [Prog.bind_pass ran]
      exact ⟨rfl, List.append_nil t, rfl⟩
    · cases onward
      rw [Prog.bind_exit ran]
      exact ⟨rfl, List.append_nil t, rfl⟩
    · cases onward
      rw [Prog.bind_unwound ran]
      exact ⟨rfl, List.append_nil t, rfl⟩
  · rintro ⟨s, rfl, rfl, rfl⟩
    refine ⟨s, [], [], ?_, ?_, ?_⟩
    · rw [Prog.bind_pure_state]
    · rw [Prog.bind_pure_trace, List.append_nil]
    · rcases ran : m s with ⟨a | e | _, s', t⟩
      · rw [Prog.bind_pass ran]
        exact .pass (f a)
      · rw [Prog.bind_exit ran]
        exact .exit e
      · rw [Prog.bind_unwound ran]
        exact .unwound

/-- Every thread walks somehow, such as with each act in this one state. -/
theorem exists_walks (s : σ) (t : Thread σ τ ρ ε α) : ∃ acts trace flow,
    t.Walks acts trace flow := by
  induction t with
  | pass a => exact ⟨[], [], _, .pass a⟩
  | exit e => exact ⟨[], [], _, .exit e⟩
  | unwound => exact ⟨[], [], _, .unwound⟩
  | act effect rest ih =>
    obtain ⟨acts, trace, flow, walks⟩ := ih s
    exact ⟨_ :: acts, _, flow, .act walks⟩
  | wait held rest ih =>
    obtain ⟨acts, trace, flow, walks⟩ := ih
    exact ⟨acts, trace, flow, .wait walks⟩

/-- What a thread ensures holds where it has walked to its end. -/
theorem Ensures.walks {P : Promise σ τ ρ} {Q : List τ → Flow ε α → Prop} {t : Thread σ τ ρ ε α}
    {past : List τ} (ensures : t.Ensures P Q past) (walks : t.Walks acts trace flow) :
    Q (past ++ trace) flow := by
  induction walks generalizing past with
  | pass a => rw [List.append_nil]; exact ensures
  | exit e => rw [List.append_nil]; exact ensures
  | unwound => rw [List.append_nil]; exact ensures
  | @act effect rest s acts trace flow _ ih =>
    have onward := ih (ensures s).2
    rw [List.append_assoc] at onward
    exact onward
  | wait _ ih => exact ih ensures.2

end Walks

/-- Every walk that passes makes `n` observations that satisfy `p`. -/
def Shows (p : τ → Bool) (n : Nat) (t : Thread σ τ ρ ε α) : Prop :=
  ∀ acts trace a, t.Walks acts trace (.pass a) → trace.countP p = n

section Shows

variable {p : τ → Bool} {n k : Nat} {t : Thread σ τ ρ ε α}

theorem Shows.pass (a : α) : (Thread.pass a : Thread σ τ ρ ε α).Shows p 0 := by
  rintro _ _ _ ⟨⟩
  rfl

theorem Shows.unwound : (Thread.unwound : Thread σ τ ρ ε α).Shows p n := by
  rintro _ _ _ ⟨⟩

theorem Shows.atomically {m : Prog σ τ ε α} (shows : Prog.Shows p n m) :
    (atomically m : Thread σ τ ρ ε α).Shows p n := by
  intro acts trace a walks
  obtain ⟨s, -, rfl, came⟩ := walks_atomically_iff.mp walks
  exact shows s a _ _ (Run.of_flow came.symm)

theorem Shows.bind {f : α → Thread σ τ ρ ε β} (first : t.Shows p n)
    (rest : ∀ a, (f a).Shows p k) : (t.bind f).Shows p (n + k) := by
  intro acts trace b walks
  obtain ⟨ended, s₁, s₂, t₁, t₂, begins, onward, -, rfl⟩ := walks_bind_iff.mp walks
  cases ended with
  | pass a => rw [List.countP_append, first _ _ a begins, rest a _ _ b onward]
  | exit e => cases onward
  | unwound => cases onward

end Shows

end Thread

/-! ### Lists -/

namespace Checklist

/-- Each step is one act, its run in some state, up to the first that does not pass. -/
inductive Walks (step : ι → χ → Prog σ τ ε χ) :
    List ι → χ → List (Act σ) → List τ → Flow ε χ → Prop
  | nil (x : χ) : Walks step [] x [] [] (.pass x)
  | pass {c : ι} {cs : List ι} {x x' : χ} {s : σ} {acts : List (Act σ)} {trace : List τ}
      {flow : Flow ε χ} : (step c x s).flow = .pass x' → Walks step cs x' acts trace flow →
      Walks step (c :: cs) x (⟨s, (step c x s).state⟩ :: acts) ((step c x s).trace ++ trace) flow
  | exit {c : ι} {cs : List ι} {x : χ} {s : σ} {e : ε} : (step c x s).flow = .exit e →
      Walks step (c :: cs) x [⟨s, (step c x s).state⟩] (step c x s).trace (.exit e)
  | unwound {c : ι} {cs : List ι} {x : χ} {s : σ} : (step c x s).flow = .unwound →
      Walks step (c :: cs) x [⟨s, (step c x s).state⟩] (step c x s).trace .unwound

/-- Threads whose steps are those of a list walk as the list does. -/
theorem walks_iff {thread : ι → χ → Thread σ τ ρ ε χ} {step : ι → χ → Prog σ τ ε χ}
    (steps : ∀ c x acts trace flow, (thread c x).Walks acts trace flow ↔
      (step c x).Once acts trace flow)
    {cs : List ι} {x : χ} {acts : List (Act σ)} {trace : List τ} {flow : Flow ε χ} :
    (Thread.checklist thread cs x).Walks acts trace flow ↔
      Walks step cs x acts trace flow := by
  induction cs generalizing x acts trace with
  | nil =>
    constructor
    · rintro ⟨⟩
      exact .nil x
    · rintro ⟨⟩
      exact .pass x
  | cons c cs ih =>
    refine Thread.walks_bind_iff.trans ?_
    constructor
    · rintro ⟨ended, s₁, s₂, t₁, t₂, begins, onward, rfl, rfl⟩
      obtain ⟨s, rfl, rfl, rfl⟩ := (steps c x _ _ _).mp begins
      cases came : (step c x s).flow with
      | pass x' =>
        rw [came] at onward
        exact .pass came (ih.mp onward)
      | exit e =>
        rw [came] at onward
        cases onward
        rw [List.append_nil, List.append_nil]
        exact .exit came
      | unwound =>
        rw [came] at onward
        cases onward
        rw [List.append_nil, List.append_nil]
        exact .unwound came
    · intro walks
      cases walks with
      | @pass _ _ _ x' s acts trace _ came onward =>
        exact ⟨.pass x', [_], acts, _, trace, (steps c x _ _ _).mpr ⟨s, rfl, rfl, came.symm⟩,
          ih.mpr onward, rfl, rfl⟩
      | @exit _ _ _ s e came =>
        exact ⟨.exit e, [_], [], _, [], (steps c x _ _ _).mpr ⟨s, rfl, rfl, came.symm⟩, .exit e,
          rfl, (List.append_nil _).symm⟩
      | @unwound _ _ _ s came =>
        exact ⟨.unwound, [_], [], _, [], (steps c x _ _ _).mpr ⟨s, rfl, rfl, came.symm⟩, .unwound,
          rfl, (List.append_nil _).symm⟩

section Writer

variable {κ : Type} {f : χ → κ} {j : ι} {step : ι → χ → Prog σ τ ε χ} {cs : List ι} {x x' : χ}
  {acts : List (Act σ)} {trace : List τ}
  (only : ∀ c, c ≠ j → ∀ x s x' s' t, step c x s = ⟨.pass x', s', t⟩ → f x' = f x)

include only

/-- What only `j` writes is as it was where `j` is not in the list. -/
theorem Walks.unwritten (walks : Walks step cs x acts trace (.pass x')) (absent : j ∉ cs) :
    f x' = f x := by
  generalize passed : Flow.pass x' = flow at walks
  induction walks with
  | nil x => cases passed; rfl
  | @pass c cs x x₁ s acts trace flow came _ ih =>
    have other : c ≠ j := fun same => absent (List.mem_cons.mpr (.inl same.symm))
    exact (ih (fun member => absent (List.mem_cons_of_mem _ member)) passed).trans
      (only c other x s x₁ _ _ (Run.of_flow came))
  | exit came => cases passed
  | unwound came => cases passed

/-- With its writer once in the list, the value is the one the writer's act has left, on a value
that still met the invariant. -/
theorem Walks.written {I : χ → Prop}
    (keeps : ∀ c x s x' s' t, I x → step c x s = ⟨.pass x', s', t⟩ → I x') (start : I x)
    (walks : Walks step cs x acts trace (.pass x')) (nodup : cs.Nodup) (member : j ∈ cs) :
    ∃ y act y' s' t, act ∈ acts ∧ I y ∧ f y = f x ∧ step j y act.found = ⟨.pass y', s', t⟩ ∧
      f x' = f y' := by
  generalize passed : Flow.pass x' = flow at walks
  induction walks with
  | nil x => cases member
  | @pass c cs x x₁ s acts trace flow came onward ih =>
    obtain ⟨fresh, nodup⟩ := List.nodup_cons.mp nodup
    have here := Run.of_flow came
    by_cases own : c = j
    · subst own
      refine ⟨x, _, x₁, _, _, List.mem_cons_self, start, rfl, here, ?_⟩
      subst passed
      exact Walks.unwritten only onward fresh
    · obtain ⟨y, act, y', s', t, among, held, same, wrote, after⟩ :=
        ih (keeps c x s x₁ _ _ start here) nodup
          ((List.mem_cons.mp member).resolve_left fun same => own same.symm) passed
      exact ⟨y, act, y', s', t, List.mem_cons_of_mem _ among, held,
        same.trans (only c own x s x₁ _ _ here), wrote, after⟩
  | exit came => cases passed
  | unwound came => cases passed

end Writer

/-- Steps that have all passed have been cleared. -/
theorem Walks.cleared {step : ι → χ → Prog σ τ ε χ} {cs front : List ι} {x₀ x x' : χ}
    {acts : List (Act σ)} {trace past : List τ} (walks : Walks step cs x acts trace (.pass x'))
    (ahead : Thread.Cleared step x₀ front past x) :
    Thread.Cleared step x₀ (front ++ cs) (past ++ trace) x' := by
  generalize passed : Flow.pass x' = flow at walks
  induction walks generalizing front past with
  | nil x =>
    cases passed
    rw [List.append_nil, List.append_nil]
    exact ahead
  | @pass c cs x x₁ s acts trace flow came _ ih =>
    have next : Thread.Cleared step x₀ (front ++ [c]) (past ++ (step c x s).trace) x₁ :=
      .snoc ahead (Run.of_flow came)
    have rest := ih next passed
    rw [List.append_assoc, List.append_assoc] at rest
    exact rest
  | exit came => cases passed
  | unwound came => cases passed

end Checklist

/-! ### Readings -/

namespace Thread

/-- One reading of the state for each item, at moments of their own. -/
def readings (reading : ι → σ → α) : List ι → Thread σ τ ρ ε (List α)
  | [] => Pure.pure []
  | i :: is => do
    let a ← atomically (Prog.reads (reading i))
    let rest ← readings reading is
    Pure.pure (a :: rest)

/-- With nothing in between all items are read off one state. -/
theorem alone_readings (reading : ι → σ → α) (is : List ι) :
    (readings reading is : Thread σ τ ρ ε (List α)).alone =
      Prog.reads fun s => is.map fun i => reading i s := by
  induction is with
  | nil => rfl
  | cons i is ih =>
    simp only [readings, alone_bind, alone_atomically, ih]
    rfl

/-- Each item is read off the state its own moment has found, and left. -/
theorem walks_readings_iff {reading : ι → σ → α} {is : List ι} {acts : List (Act σ)}
    {trace : List τ} {flow : Flow ε (List α)} :
    (readings reading is : Thread σ τ ρ ε (List α)).Walks acts trace flow ↔
      acts.length = is.length ∧ (∀ act ∈ acts, act.left = act.found) ∧ trace = [] ∧
        flow = .pass (List.zipWith reading is (acts.map Act.found)) := by
  induction is generalizing acts trace flow with
  | nil =>
    refine walks_pass_iff.trans ⟨?_, ?_⟩
    · rintro ⟨rfl, rfl, rfl⟩
      exact ⟨rfl, List.forall_mem_nil _, rfl, rfl⟩
    · rintro ⟨none, -, rfl, rfl⟩
      exact ⟨List.length_eq_zero_iff.mp none, rfl, rfl⟩
  | cons i is ih =>
    have onward (s : σ) {later : List (Act σ)} {trace : List τ} {flow : Flow ε (List α)} :
        ((readings reading is : Thread σ τ ρ ε (List α)).bind fun rest =>
            .pass (reading i s :: rest)).Walks later trace flow ↔
          later.length = is.length ∧ (∀ act ∈ later, act.left = act.found) ∧ trace = [] ∧
            flow = .pass (reading i s :: List.zipWith reading is (later.map Act.found)) := by
      rw [walks_bind_iff]
      constructor
      · rintro ⟨ended, s₁, s₂, t₁, t₂, begins, rest, rfl, rfl⟩
        obtain ⟨count, left, rfl, rfl⟩ := ih.mp begins
        obtain ⟨rfl, rfl, rfl⟩ := walks_pass_iff.mp rest
        rw [List.append_nil]
        exact ⟨count, left, rfl, rfl⟩
      · rintro ⟨count, left, rfl, rfl⟩
        exact ⟨_, later, [], [], [], ih.mpr ⟨count, left, rfl, rfl⟩, .pass _,
          (List.append_nil _).symm, rfl⟩
    refine walks_atomically_bind_iff.trans ⟨?_, ?_⟩
    · rintro ⟨s, later, trace', rfl, rfl, rest⟩
      obtain ⟨count, left, rfl, rfl⟩ := (onward s).mp rest
      exact ⟨by rw [List.length_cons, List.length_cons, count],
        List.forall_mem_cons.mpr ⟨rfl, left⟩, rfl, rfl⟩
    · rintro ⟨count, left, rfl, rfl⟩
      cases acts with
      | nil => cases count
      | cons act later =>
        obtain ⟨s, s'⟩ := act
        obtain ⟨same, kept⟩ := List.forall_mem_cons.mp left
        obtain rfl : s' = s := same
        exact ⟨s', later, [], rfl, rfl,
          (onward s').mpr ⟨Nat.succ.inj count, kept, rfl, rfl⟩⟩

end Thread

/-! ### As far as a thread has come -/

namespace Thread

/-- With these acts the thread observes the trace and goes on as `t'`. -/
inductive Goes : Thread σ τ ρ ε α → List (Act σ) → List τ → Thread σ τ ρ ε α → Prop
  | refl (t : Thread σ τ ρ ε α) : Goes t [] [] t
  | act {effect : σ → σ × List τ} {rest : σ → Thread σ τ ρ ε α} {s : σ} {acts : List (Act σ)}
      {trace : List τ} {t' : Thread σ τ ρ ε α} : Goes (rest s) acts trace t' →
      Goes (.act effect rest) (⟨s, (effect s).1⟩ :: acts) ((effect s).2 ++ trace) t'
  | wait {held : ρ} {rest : Thread σ τ ρ ε α} {acts : List (Act σ)} {trace : List τ}
      {t' : Thread σ τ ρ ε α} : Goes rest acts trace t' → Goes (.wait held rest) acts trace t'

variable {t t' t'' : Thread σ τ ρ ε α} {acts acts' : List (Act σ)} {trace trace' seen : List τ}
  {s s' : σ} {flow : Flow ε α}

theorem Goes.trans (first : Goes t acts trace t') (second : Goes t' acts' trace' t'') :
    Goes t (acts ++ acts') (trace ++ trace') t'' := by
  induction first with
  | refl t => exact second
  | act _ ih =>
    rw [List.cons_append, List.append_assoc]
    exact .act (ih second)
  | wait _ ih => exact .wait (ih second)

/-- A step is an act, or it only resumes. -/
theorem goes_of_next (stepped : t.next s = some (t', s', seen)) :
    Goes t [⟨s, s'⟩] seen t' ∨ Goes t [] seen t' := by
  cases t with
  | pass a => cases stepped
  | exit e => cases stepped
  | unwound => cases stepped
  | act effect rest =>
    obtain ⟨rfl, left⟩ := Prod.mk.inj (Option.some.inj stepped)
    obtain rfl : (effect s).2 = seen := congrArg Prod.snd left
    obtain rfl : (effect s).1 = s' := congrArg Prod.fst left
    refine .inl ?_
    rw [← List.append_nil (effect s).2]
    exact .act (.refl _)
  | wait held rest =>
    cases stepped
    exact .inr (.wait (.refl _))

/-- What has ended waits no more. -/
theorem Goes.of_ofFlow (goes : (ofFlow flow).Goes acts trace t') : t'.held? = none := by
  cases flow <;> cases goes <;> rfl

/-- Where a thread that waits first has come to wait, it is there still or has gone on. -/
theorem Goes.of_wait {held held' : ρ} (goes : (Thread.wait held t).Goes acts trace t')
    (waits : t'.held? = some held') :
    (acts = [] ∧ trace = [] ∧ held' = held) ∨ t.Goes acts trace t' := by
  cases goes with
  | refl => cases waits; exact .inl ⟨rfl, rfl, rfl⟩
  | wait goes => exact .inr goes

/-- Where a thread has come to wait, it is behind its first step. -/
theorem Goes.of_atomically_bind {m : Prog σ τ ε β} {f : β → Thread σ τ ρ ε α} {held : ρ}
    (goes : ((atomically m : Thread σ τ ρ ε β).bind f).Goes acts trace t')
    (waits : t'.held? = some held) : ∃ s later trace', acts = ⟨s, (m s).state⟩ :: later ∧
      trace = (m s).trace ++ trace' ∧
      ((ofFlow (m s).flow : Thread σ τ ρ ε β).bind f).Goes later trace' t' := by
  unfold atomically at goes
  cases goes with
  | refl => cases waits
  | act goes => exact ⟨_, _, _, rfl, rfl, goes⟩

/-- A settled thread that has come to wait waits within itself, or behind its ending. -/
theorem Goes.of_settle {u : Thread σ τ ρ ε' β} {onPass : α → Thread σ τ ρ ε' β}
    {onExit : ε → Thread σ τ ρ ε' β} {held : ρ}
    (goes : (t.settle onPass onExit).Goes acts trace u) (waits : u.held? = some held) :
    (∃ t', t.Goes acts trace t' ∧ t'.held? = some held) ∨ ∃ ended s₁ s₂ t₁ t₂,
      t.Walks s₁ t₁ ended ∧
      ((ofFlow ended : Thread σ τ ρ ε α).settle onPass onExit).Goes s₂ t₂ u ∧
      acts = s₁ ++ s₂ ∧ trace = t₁ ++ t₂ := by
  induction t generalizing acts trace with
  | pass a => exact .inr ⟨.pass a, [], acts, [], trace, .pass a, goes, rfl, rfl⟩
  | exit e => exact .inr ⟨.exit e, [], acts, [], trace, .exit e, goes, rfl, rfl⟩
  | unwound => exact .inr ⟨.unwound, [], acts, [], trace, .unwound, goes, rfl, rfl⟩
  | act effect rest ih =>
    cases goes with
    | refl => cases waits
    | @act _ _ s acts trace _ onward =>
      rcases ih s onward with ⟨t', within, waits⟩ | ⟨ended, s₁, s₂, t₁, t₂, walks, on, rfl, rfl⟩
      · exact .inl ⟨t', .act within, waits⟩
      · exact .inr ⟨ended, _ :: s₁, s₂, _ ++ t₁, t₂, .act walks, on, rfl,
          (List.append_assoc ..).symm⟩
  | wait held' rest ih =>
    cases goes with
    | refl => exact .inl ⟨.wait held' rest, .refl _, waits⟩
    | wait onward =>
      rcases ih onward with ⟨t', within, waits⟩ | ⟨ended, s₁, s₂, t₁, t₂, walks, on, rfl, rfl⟩
      · exact .inl ⟨t', .wait within, waits⟩
      · exact .inr ⟨ended, s₁, s₂, t₁, t₂, .wait walks, on, rfl, rfl⟩

/-- The same of a sequence. -/
theorem Goes.of_bind {u : Thread σ τ ρ ε β} {f : α → Thread σ τ ρ ε β} {held : ρ}
    (goes : (t.bind f).Goes acts trace u) (waits : u.held? = some held) :
    (∃ t', t.Goes acts trace t' ∧ t'.held? = some held) ∨ ∃ ended s₁ s₂ t₁ t₂,
      t.Walks s₁ t₁ ended ∧ ((ofFlow ended : Thread σ τ ρ ε α).bind f).Goes s₂ t₂ u ∧
      acts = s₁ ++ s₂ ∧ trace = t₁ ++ t₂ := by
  simp only [bind_eq_settle] at goes ⊢
  exact goes.of_settle waits

/-- What a thread ensures it ensures as far as it has come. -/
theorem Ensures.goes {P : Promise σ τ ρ} {Q : List τ → Flow ε α → Prop} {past : List τ}
    (ensures : t.Ensures P Q past) (goes : t.Goes acts trace t') :
    t'.Ensures P Q (past ++ trace) := by
  induction goes generalizing past with
  | refl t => rw [List.append_nil]; exact ensures
  | @act effect rest s acts trace t' _ ih =>
    have onward := ih (ensures s).2
    rw [List.append_assoc] at onward
    exact onward
  | wait _ ih => exact ih ensures.2

/-- What has ended has walked. -/
theorem Goes.walks (goes : Goes t acts trace (.ofFlow flow)) : t.Walks acts trace flow := by
  generalize ended : ofFlow flow = t' at goes
  induction goes with
  | refl t =>
    subst ended
    exact walks_ofFlow_iff.mpr ⟨rfl, rfl, rfl⟩
  | act _ ih => exact .act (ih ended)
  | wait _ ih => exact .wait (ih ended)

end Thread

/-! ### Walks and runs -/

namespace Pool

/-- The pools before and behind a step. -/
abbrev Stepped (ι σ τ ρ ε α : Type) := Pool ι σ τ ρ ε α × Pool ι σ τ ρ ε α

/-- What the step did to the shared state. -/
def act (stepped : Stepped ι σ τ ρ ε α) : Act σ := ⟨stepped.1.state, stepped.2.state⟩

/-- Some of the steps that the task at place `i` takes, in order. -/
inductive Moments (thread : ι → Thread σ τ ρ ε α) (s : σ) (i : Nat) :
    List (Move ι σ) → List (Stepped ι σ τ ρ ε α) → Prop
  | nil : Moments thread s i [] []
  | other {moves : List (Move ι σ)} {mv : Move ι σ} {heres : List (Stepped ι σ τ ρ ε α)} :
      Moments thread s i moves heres → Moments thread s i (moves ++ [mv]) heres
  | here {moves : List (Move ι σ)} {heres : List (Stepped ι σ τ ρ ε α)}
      {here there : Pool ι σ τ ρ ε α} {shown seen : List (Nat × τ)} :
      Moments thread s i moves heres →
      Machine.run (move thread) (empty s) moves = some (here, shown) →
      move thread here (.step i) = some (there, seen) →
      Moments thread s i (moves ++ [.step i]) (heres ++ [(here, there)])

theorem moments_nil (thread : ι → Thread σ τ ρ ε α) (s : σ) (i : Nat) (moves : List (Move ι σ)) :
    Moments thread s i moves [] := by
  induction moves using List.reverseRecOn with
  | nil => exact .nil
  | append_singleton moves mv ih => exact .other ih

variable {thread : ι → Thread σ τ ρ ε α} {s : σ} {i : Nat} {moves : List (Move ι σ)}
  {heres : List (Stepped ι σ τ ρ ε α)} {pool here : Pool ι σ τ ρ ε α} {shown : List (Nat × τ)}

theorem Moments.sublist {fewer : List (Stepped ι σ τ ρ ε α)}
    (moments : Moments thread s i moves heres) (sublist : fewer.Sublist heres) :
    Moments thread s i moves fewer := by
  induction moments generalizing fewer with
  | nil =>
    rw [List.sublist_nil.mp sublist]
    exact .nil
  | other _ ih => exact .other (ih sublist)
  | here _ ran moved ih =>
    obtain ⟨front, last, rfl, ahead, here⟩ := List.sublist_append_iff.mp sublist
    rcases List.sublist_cons_iff.mp here with none | ⟨rest, rfl, none⟩
    · rw [List.sublist_nil.mp none, List.append_nil]
      exact .other (ih ahead)
    · rw [List.sublist_nil.mp none]
      exact .here (ih ahead) ran moved

/-- Each of the steps is taken at a moment of the run. -/
theorem Moments.moment {stepped : Stepped ι σ τ ρ ε α} (moments : Moments thread s i moves heres)
    (member : stepped ∈ heres) : Moment thread s moves i stepped.1 := by
  induction moments with
  | nil => cases member
  | other _ ih => exact (ih member).later _
  | @here moves heres here there shown seen _ ran moved ih =>
    rcases List.mem_append.mp member with old | new
    · exact (ih old).later _
    · obtain rfl := List.mem_singleton.mp new
      exact ⟨moves, [], shown, rfl, ran⟩

/-- The task has come as far as its thread goes with these acts, or was given up there. -/
def Trailed (thread : ι → Thread σ τ ρ ε α) (acts : List (Act σ)) (task : Task ι σ τ ρ ε α) :
    Prop :=
  ∃ t, (thread task.job).Goes acts task.past t ∧
    (task.progress = .running t ∨ ∃ held, task.progress = .dropped held ∧ t.held? = some held)

/-- Every task of a run has come as far as its thread goes with the acts of its own steps. -/
theorem run_trailed (ran : Machine.run (move thread) (empty s) moves = some (pool, shown))
    {task : Task ι σ τ ρ ε α} (found : pool.tasks[i]? = some task) :
    ∃ heres, Moments thread s i moves heres ∧ Trailed thread (heres.map act) task := by
  induction moves using List.reverseRecOn generalizing pool shown task with
  | nil => cases ran; cases found
  | append_singleton moves mv ih =>
    obtain ⟨before, seen₀, later, ran₀, last, -⟩ := Machine.run_append_iff.mp ran
    obtain ⟨pool', here, rest, moved, ended, -⟩ := Machine.run_cons_iff.mp last
    cases ended
    have kept (found₀ : before.tasks[i]? = some task) : ∃ heres,
        Moments thread s i (moves ++ [mv]) heres ∧
          Trailed thread (heres.map act) task := by
      obtain ⟨heres, moments, trailed⟩ := ih ran₀ found₀
      exact ⟨heres, .other moments, trailed⟩
    cases moves_of_move moved with
    | start job =>
      rcases Nat.lt_or_ge i before.tasks.length with old | new
      · rw [List.getElem?_append_left old] at found
        exact kept found
      · rw [List.getElem?_append_right new] at found
        obtain rfl := List.mem_singleton.mp (List.mem_of_getElem? found)
        exact ⟨[], moments_nil thread s i _, thread job, .refl _, .inl rfl⟩
    | @step j job t t' past seen taken s' found₀ stepped =>
      by_cases own : j = i
      · subst own
        rw [List.getElem?_set_self (List.getElem?_eq_some_iff.mp found₀).1] at found
        cases found
        obtain ⟨heres, moments, u, goes, progress⟩ := ih ran₀ found₀
        obtain rfl : t = u := by
          rcases progress with ⟨⟨⟩⟩ | ⟨held, ⟨⟩, -⟩
          rfl
        rcases Thread.goes_of_next stepped with acts | resumes
        · refine ⟨heres ++ [_], .here moments ran₀ moved, t', ?_, .inl rfl⟩
          rw [List.map_append]
          exact goes.trans acts
        · refine ⟨heres, .other moments, t', ?_, .inl rfl⟩
          rw [← List.append_nil (heres.map _)]
          exact goes.trans resumes
      · rw [List.getElem?_set_ne own] at found
        exact kept found
    | @drop j job t past taken held found₀ waits =>
      by_cases own : j = i
      · subst own
        rw [List.getElem?_set_self (List.getElem?_eq_some_iff.mp found₀).1] at found
        cases found
        obtain ⟨heres, moments, u, goes, progress⟩ := ih ran₀ found₀
        obtain rfl : t = u := by
          rcases progress with ⟨⟨⟩⟩ | ⟨held, ⟨⟩, -⟩
          rfl
        exact ⟨heres, .other moments, t, goes, .inr ⟨held, rfl, waits⟩⟩
      · rw [List.getElem?_set_ne own] at found
        exact kept found
    | elsewhere s => exact kept found

/-- A task that holds something, waiting or given up, has come to where its thread holds it. -/
theorem run_holding (ran : Machine.run (move thread) (empty s) moves = some (pool, shown))
    {task : Task ι σ τ ρ ε α} (found : pool.tasks[i]? = some task) {held : ρ}
    (holds : holding task = some held) : ∃ heres, Moments thread s i moves heres ∧
      ∃ t, (thread task.job).Goes (heres.map act) task.past t ∧ t.held? = some held := by
  obtain ⟨heres, moments, t, goes, progress⟩ := run_trailed ran found
  refine ⟨heres, moments, t, goes, ?_⟩
  obtain ⟨job, progress', past, taken⟩ := task
  rcases progress with running | ⟨held', dropped, waits⟩
  · cases running
    exact holds
  · cases dropped
    cases holds
    exact waits

/-- What has ended has walked, with the acts of its own steps. -/
theorem run_walks (ran : Machine.run (move thread) (empty s) moves = some (pool, shown))
    {task : Task ι σ τ ρ ε α} (found : pool.tasks[i]? = some task) {flow : Flow ε α}
    (ended : outcome task = some flow) : ∃ heres, Moments thread s i moves heres ∧
      (thread task.job).Walks (heres.map act) task.past flow := by
  obtain ⟨heres, moments, t, goes, progress⟩ := run_trailed ran found
  rw [progress_of_outcome ended] at progress
  obtain rfl : Thread.ofFlow flow = t := by
    rcases progress with ⟨⟨⟩⟩ | ⟨held, ⟨⟩, -⟩
    rfl
  exact ⟨heres, moments, goes.walks⟩

/-- A task can be led along any walk of its thread, the states coming from elsewhere. -/
theorem walks_run {t : Thread σ τ ρ ε α} {acts : List (Act σ)} {trace : List τ} {flow : Flow ε α}
    (walks : t.Walks acts trace flow) (pool : Pool ι σ τ ρ ε α) {job : ι} {past : List τ}
    {taken : Nat} (found : pool.tasks[i]? = some ⟨job, .running t, past, taken⟩) :
    ∃ moves pool' shown taken', Machine.run (move thread) pool moves = some (pool', shown) ∧
      pool'.tasks[i]? = some ⟨job, .running (.ofFlow flow), past ++ trace, taken'⟩ := by
  induction walks generalizing pool past taken with
  | pass a => exact ⟨[], pool, [], taken, rfl, by rw [found, List.append_nil]; rfl⟩
  | exit e => exact ⟨[], pool, [], taken, rfl, by rw [found, List.append_nil]; rfl⟩
  | unwound => exact ⟨[], pool, [], taken, rfl, by rw [found, List.append_nil]; rfl⟩
  | @act effect rest s acts trace flow _ ih =>
    have inside : i < pool.tasks.length := (List.getElem?_eq_some_iff.mp found).1
    let after := pool.tasks.set i ⟨job, .running (rest s), past ++ (effect s).2, taken + 1⟩
    obtain ⟨moves, pool', shown, taken', ran, here⟩ :=
      ih ⟨(effect s).1, after⟩ (List.getElem?_set_self inside)
    have stepped : move thread { pool with state := s } (.step i) =
        some (⟨(effect s).1, after⟩, (effect s).2.map fun e => (i, e)) :=
      move_step found rfl
    refine ⟨.elsewhere s :: .step i :: moves, pool', _, taken', Machine.run_cons_iff.mpr
      ⟨_, _, _, rfl, Machine.run_cons_iff.mpr ⟨_, _, _, stepped, ran, rfl⟩, rfl⟩, ?_⟩
    rw [here, List.append_assoc]
  | @wait held rest acts trace flow _ ih =>
    have inside : i < pool.tasks.length := (List.getElem?_eq_some_iff.mp found).1
    let after := pool.tasks.set i ⟨job, .running rest, past ++ [], taken + 1⟩
    obtain ⟨moves, pool', shown, taken', ran, here⟩ :=
      ih ⟨pool.state, after⟩ (List.getElem?_set_self inside)
    have stepped : move thread pool (.step i) = some (⟨pool.state, after⟩, []) :=
      move_step found rfl
    refine ⟨.step i :: moves, pool', _, taken', Machine.run_cons_iff.mpr
      ⟨_, _, _, stepped, ran, rfl⟩, ?_⟩
    rw [here, List.append_nil]

/-- Every walk of a job's thread is all that some run of the pool shows of it. -/
theorem exists_run_of_walks {job : ι} {acts : List (Act σ)} {trace : List τ} {flow : Flow ε α}
    (walks : (thread job).Walks acts trace flow) (s : σ) :
    ∃ moves pool shown task, Machine.run (move thread) (empty s) moves = some (pool, shown) ∧
      pool.tasks[0]? = some task ∧ task.job = job ∧ outcome task = some flow ∧
      own 0 shown = trace := by
  have first : (⟨s, [⟨job, .running (thread job), [], 0⟩]⟩ : Pool ι σ τ ρ ε α).tasks[0]? =
      some ⟨job, .running (thread job), [], 0⟩ := rfl
  obtain ⟨moves, pool, shown, taken, ran, found⟩ := walks_run walks _ first
  have whole : Machine.run (move thread) (empty s) (.start job :: moves) = some (pool, shown) :=
    Machine.run_cons_iff.mpr ⟨_, _, _, rfl, ran, rfl⟩
  refine ⟨_, pool, shown, _, whole, found, rfl, ?_, (past_eq_own whole found).symm⟩
  cases flow <;> rfl

end Pool

end Traced
