import Mathlib.Data.List.Induction
import TowerGuard.Traced.Machine
import TowerGuard.Traced.Thread

/-!
# Pools of threads

Threads that share one state. A move starts the thread of a job, lets one thread take a step,
gives up a thread that waits, or changes the state from elsewhere. What is proved of each
thread by itself holds of every task in every run of the pool.
-/

namespace Traced

variable {ι σ τ ρ ε α : Type}

/-- The thread as far as it has come, or what it held when it was given up. -/
inductive Progress (σ τ ρ ε α : Type) where
  | running (thread : Thread σ τ ρ ε α)
  | dropped (held : ρ)

/-- A job with its progress, what it has observed and how many steps it has taken. -/
structure Task (ι σ τ ρ ε α : Type) where
  job : ι
  progress : Progress σ τ ρ ε α
  past : List τ
  taken : Nat

structure Pool (ι σ τ ρ ε α : Type) where
  state : σ
  tasks : List (Task ι σ τ ρ ε α)

inductive Move (ι σ : Type) where
  | start (job : ι)
  | step (i : Nat)
  | drop (i : Nat)
  | elsewhere (state : σ)

namespace Pool

/-- No task, in some state. -/
def empty (s : σ) : Pool ι σ τ ρ ε α := ⟨s, []⟩

variable (thread : ι → Thread σ τ ρ ε α)

/-- One move. What it shows carries the place of the task. -/
def move : Machine (Pool ι σ τ ρ ε α) (Move ι σ) (Nat × τ)
  | pool, .start job =>
    some ({ pool with tasks := pool.tasks ++ [⟨job, .running (thread job), [], 0⟩] }, [])
  | pool, .step i =>
    match pool.tasks[i]? with
    | some ⟨job, .running t, past, taken⟩ =>
      (t.next pool.state).map fun (t', s', seen) =>
        (⟨s', pool.tasks.set i ⟨job, .running t', past ++ seen, taken + 1⟩⟩,
          seen.map fun e => (i, e))
    | _ => none
  | pool, .drop i =>
    match pool.tasks[i]? with
    | some ⟨job, .running t, past, taken⟩ =>
      t.held?.map fun held =>
        ({ pool with tasks := pool.tasks.set i ⟨job, .dropped held, past, taken⟩ }, [])
    | _ => none
  | pool, .elsewhere s => some ({ pool with state := s }, [])

/-- What a move can do. -/
inductive Moves (pool : Pool ι σ τ ρ ε α) :
    Move ι σ → Pool ι σ τ ρ ε α → List (Nat × τ) → Prop
  | start (job : ι) : Moves pool (.start job)
      { pool with tasks := pool.tasks ++ [⟨job, .running (thread job), [], 0⟩] } []
  | step {i : Nat} {job : ι} {t t' : Thread σ τ ρ ε α} {past seen : List τ} {taken : Nat}
      {s' : σ} : pool.tasks[i]? = some ⟨job, .running t, past, taken⟩ →
      t.next pool.state = some (t', s', seen) →
      Moves pool (.step i) ⟨s', pool.tasks.set i ⟨job, .running t', past ++ seen, taken + 1⟩⟩
        (seen.map fun e => (i, e))
  | drop {i : Nat} {job : ι} {t : Thread σ τ ρ ε α} {past : List τ} {taken : Nat} {held : ρ} :
      pool.tasks[i]? = some ⟨job, .running t, past, taken⟩ → t.held? = some held →
      Moves pool (.drop i)
        { pool with tasks := pool.tasks.set i ⟨job, .dropped held, past, taken⟩ } []
  | elsewhere (s : σ) : Moves pool (.elsewhere s) { pool with state := s } []

variable {thread} {pool pool' : Pool ι σ τ ρ ε α} {mv : Move ι σ} {moves : List (Move ι σ)}
  {shown : List (Nat × τ)} {s : σ}

theorem moves_of_move (moved : move thread pool mv = some (pool', shown)) :
    Moves thread pool mv pool' shown := by
  cases mv with
  | start job => cases moved; exact .start job
  | step i =>
    simp only [move] at moved
    split at moved
    next job t past taken found =>
      obtain ⟨⟨t', s', seen⟩, stepped, made⟩ := Option.map_eq_some_iff.mp moved
      cases made
      exact .step found stepped
    next => cases moved
  | drop i =>
    simp only [move] at moved
    split at moved
    next job t past taken found =>
      obtain ⟨held, waits, made⟩ := Option.map_eq_some_iff.mp moved
      cases made
      exact .drop found waits
    next => cases moved
  | elsewhere s => cases moved; exact .elsewhere s

theorem move_step {i : Nat} {job : ι} {t t' : Thread σ τ ρ ε α} {past seen : List τ}
    {taken : Nat} {s' : σ} (found : pool.tasks[i]? = some ⟨job, .running t, past, taken⟩)
    (stepped : t.next pool.state = some (t', s', seen)) :
    move thread pool (.step i) =
      some (⟨s', pool.tasks.set i ⟨job, .running t', past ++ seen, taken + 1⟩⟩,
        seen.map fun e => (i, e)) := by
  simp only [move, found, stepped, Option.map_some]

section Tasks

variable {I : Task ι σ τ ρ ε α → Prop}
  (start : ∀ job, I ⟨job, .running (thread job), [], 0⟩)
  (step : ∀ job t past taken s t' s' seen, I ⟨job, .running t, past, taken⟩ →
    t.next s = some (t', s', seen) → I ⟨job, .running t', past ++ seen, taken + 1⟩)
  (drop : ∀ job t past taken held, I ⟨job, .running t, past, taken⟩ → t.held? = some held →
    I ⟨job, .dropped held, past, taken⟩)

include start step drop

/-- What holds of a task when it starts, and is kept by its own steps and its drop, every move
keeps. -/
theorem move_tasks (held : ∀ task ∈ pool.tasks, I task)
    (moved : move thread pool mv = some (pool', shown)) : ∀ task ∈ pool'.tasks, I task := by
  intro task member
  cases moves_of_move moved with
  | start job =>
    rcases List.mem_append.mp member with old | new
    · exact held task old
    · obtain rfl := List.mem_singleton.mp new
      exact start job
  | step found stepped =>
    rcases List.mem_or_eq_of_mem_set member with old | rfl
    · exact held task old
    · exact step _ _ _ _ _ _ _ _ (held _ (List.mem_of_getElem? found)) stepped
  | drop found waits =>
    rcases List.mem_or_eq_of_mem_set member with old | rfl
    · exact held task old
    · exact drop _ _ _ _ _ (held _ (List.mem_of_getElem? found)) waits
  | elsewhere s => exact held task member

/-- So it holds of every task in every run. -/
theorem run_tasks (ran : Machine.run (move thread) (empty s) moves = some (pool, shown)) :
    ∀ task ∈ pool.tasks, I task :=
  Machine.run_keeps (I := fun pool => ∀ task ∈ pool.tasks, I task)
    (fun _ _ _ _ held moved => move_tasks start step drop held moved)
    (fun _ member => by cases member) ran

end Tasks

end Pool

/-! ### What the threads ensure -/

namespace Thread

variable {P : Promise σ τ ρ} {Q : List τ → Flow ε α → Prop} {t t' : Thread σ τ ρ ε α}
  {past seen : List τ} {s s' : σ}

/-- A step keeps what its thread ensures, and does what was promised or only resumes. -/
theorem Ensures.next (ensures : t.Ensures P Q past) (stepped : t.next s = some (t', s', seen)) :
    t'.Ensures P Q (past ++ seen) ∧ (P.acts past s (s', seen) ∨ s' = s ∧ seen = []) := by
  cases t with
  | pass a => cases stepped
  | exit e => cases stepped
  | unwound => cases stepped
  | act effect rest =>
    obtain ⟨rfl, left⟩ := Prod.mk.inj (Option.some.inj stepped)
    obtain rfl : (effect s).2 = seen := congrArg Prod.snd left
    rw [← left]
    exact ⟨(ensures s).2, .inl (ensures s).1⟩
  | wait held rest =>
    cases stepped
    rw [List.append_nil]
    exact ⟨ensures.2, .inr ⟨rfl, rfl⟩⟩

theorem Ensures.holds {held : ρ} (ensures : t.Ensures P Q past) (waits : t.held? = some held) :
    P.holds past held := by
  cases t with
  | wait held rest => cases waits; exact ensures.1
  | _ => cases waits

/-- What a step observes stands in front of what the rest observes alone. -/
theorem alone_next (stepped : t.next s = some (t', s', seen)) :
    t.alone s = (t'.alone s').after seen := by
  cases t with
  | pass a => cases stepped
  | exit e => cases stepped
  | unwound => cases stepped
  | act effect rest =>
    obtain ⟨rfl, left⟩ := Prod.mk.inj (Option.some.inj stepped)
    rw [alone_act, left]
  | wait held rest => cases stepped; rfl

/-- Threads that run alike step alike. -/
theorem Alike.next {R : σ → σ → Prop} {u : Thread σ τ ρ ε α} {r : σ} (alike : t.Alike R Eq u)
    (same : R s r) (stepped : t.next s = some (t', s', seen)) :
    ∃ u' r' seen', u.next r = some (u', r', seen') ∧ t'.Alike R Eq u' ∧ R s' r' := by
  cases alike with
  | pass related => cases stepped
  | exit e => cases stepped
  | unwound => cases stepped
  | @act effect effect' rest rest' states alike =>
    obtain ⟨rfl, left⟩ := Prod.mk.inj (Option.some.inj stepped)
    obtain rfl : (effect s).1 = s' := congrArg Prod.fst left
    exact ⟨rest' r, _, _, rfl, alike s r same, states s r same⟩
  | wait held alike =>
    cases stepped
    exact ⟨_, r, [], rfl, alike, same⟩

theorem ended_or_next (t : Thread σ τ ρ ε α) :
    (∃ flow, t = .ofFlow flow) ∨ ∀ s, (t.next s).isSome = true := by
  cases t with
  | pass a => exact .inl ⟨.pass a, rfl⟩
  | exit e => exact .inl ⟨.exit e, rfl⟩
  | unwound => exact .inl ⟨.unwound, rfl⟩
  | act effect rest => exact .inr fun s => rfl
  | wait held rest => exact .inr fun s => rfl

theorem Within.ended (within : t.Within 0) : ∃ flow, t = .ofFlow flow := by
  cases t with
  | pass a => exact ⟨.pass a, rfl⟩
  | exit e => exact ⟨.exit e, rfl⟩
  | unwound => exact ⟨.unwound, rfl⟩
  | act effect rest => cases within
  | wait held rest => cases within

theorem Within.next {n : Nat} (within : t.Within n) (stepped : t.next s = some (t', s', seen)) :
    ∃ m, n = m + 1 ∧ t'.Within m := by
  cases t with
  | pass a => cases stepped
  | exit e => cases stepped
  | unwound => cases stepped
  | act effect rest =>
    cases n with
    | zero => cases within
    | succ m =>
      obtain ⟨rfl, -⟩ := Prod.mk.inj (Option.some.inj stepped)
      exact ⟨m, rfl, within s⟩
  | wait held rest =>
    cases n with
    | zero => cases within
    | succ m => cases stepped; exact ⟨m, rfl, within⟩

end Thread

namespace Pool

variable {thread : ι → Thread σ τ ρ ε α} {pool pool' : Pool ι σ τ ρ ε α} {mv : Move ι σ}
  {moves : List (Move ι σ)} {shown : List (Nat × τ)} {s : σ} {P : ι → Promise σ τ ρ}
  {Q : ι → List τ → Flow ε α → Prop}

/-- A running task still ensures what its thread did, and a dropped one held what it promised. -/
def Meets (P : ι → Promise σ τ ρ) (Q : ι → List τ → Flow ε α → Prop) :
    Task ι σ τ ρ ε α → Prop
  | ⟨job, .running t, past, _⟩ => t.Ensures (P job) (Q job) past
  | ⟨job, .dropped held, past, _⟩ => (P job).holds past held

/-- A step does what the task promised, given what the task has observed. -/
def Keeps (P : ι → Promise σ τ ρ) (thread : ι → Thread σ τ ρ ε α) (pool : Pool ι σ τ ρ ε α)
    (mv : Move ι σ) : Prop :=
  ∀ i pool' shown, mv = .step i → move thread pool mv = some (pool', shown) →
    ∃ task seen, pool.tasks[i]? = some task ∧ shown = seen.map (fun e => (i, e)) ∧
      ((P task.job).acts task.past pool.state (pool'.state, seen) ∨
        pool'.state = pool.state ∧ seen = [])

section Ensures

variable (ensures : ∀ job, (thread job).Ensures (P job) (Q job) [])

include ensures

theorem move_meets (meets : ∀ task ∈ pool.tasks, Meets P Q task)
    (moved : move thread pool mv = some (pool', shown)) : ∀ task ∈ pool'.tasks, Meets P Q task :=
  move_tasks ensures
    (fun _ _ _ _ _ _ _ _ meets stepped => (Thread.Ensures.next meets stepped).1)
    (fun _ _ _ _ _ meets waits => Thread.Ensures.holds meets waits) meets moved

theorem run_meets (ran : Machine.run (move thread) (empty s) moves = some (pool, shown)) :
    ∀ task ∈ pool.tasks, Meets P Q task :=
  Machine.run_keeps (I := fun pool => ∀ task ∈ pool.tasks, Meets P Q task)
    (fun _ _ _ _ meets moved => move_meets ensures meets moved)
    (fun _ member => by cases member) ran

/-- What the promised steps keep of the past holds of the past of every task. -/
theorem run_past {H : ι → List τ → Prop} (fresh : ∀ job, H job [])
    (acts : ∀ job past s after, H job past → (P job).acts past s after → H job (past ++ after.2))
    (ran : Machine.run (move thread) (empty s) moves = some (pool, shown)) :
    ∀ task ∈ pool.tasks, H task.job task.past := by
  have both := run_tasks (I := fun task => Meets P Q task ∧ H task.job task.past)
    (fun job => ⟨ensures job, fresh job⟩) ?_ ?_ ran
  · exact fun task member => (both task member).2
  · rintro job t past taken s t' s' seen ⟨meets, held⟩ stepped
    obtain ⟨onward, acted | ⟨-, rfl⟩⟩ := Thread.Ensures.next meets stepped
    · exact ⟨onward, acts job past s _ held acted⟩
    · rw [List.append_nil] at onward ⊢
      exact ⟨onward, held⟩
  · rintro job t past taken held ⟨meets, kept⟩ waits
    exact ⟨Thread.Ensures.holds meets waits, kept⟩

theorem run_keeps (s : σ) (moves : List (Move ι σ)) :
    Machine.Along (move thread) (Keeps P thread) (empty s) moves := by
  refine (Machine.along_congr (C := fun _ _ => True)
    (I := fun pool => ∀ task ∈ pool.tasks, Meets P Q task)
    (fun _ _ _ _ meets moved => move_meets ensures meets moved) ?_
    (fun _ member => by cases member)).mp (Machine.along_of_forall fun _ _ => trivial)
  intro pool mv meets
  refine iff_of_true trivial ?_
  rintro i pool' shown rfl moved
  cases moves_of_move moved with
  | step found stepped =>
    have ensured : Thread.Ensures _ _ _ _ := meets _ (List.mem_of_getElem? found)
    exact ⟨_, _, found, rfl, (ensured.next stepped).2⟩

end Ensures

/-- A task that observes more counts once more at most, if it has observed such an event. -/
theorem countP_any_set {p : τ → Bool} {tasks : List (Task ι σ τ ρ ε α)} {i : Nat}
    {task task' : Task ι σ τ ρ ε α} (found : tasks[i]? = some task) (seen : List τ)
    (past : task'.past = task.past ++ seen) :
    (tasks.set i task').countP (fun task => task.past.any p) ≤
      tasks.countP (fun task => task.past.any p) + seen.countP p := by
  obtain ⟨inside, here⟩ := List.getElem?_eq_some_iff.mp found
  have counted : (if task.past.any p then 1 else 0) ≤
      tasks.countP fun task => task.past.any p := by
    have member := List.boole_getElem_le_countP (p := fun task => task.past.any p) inside
    rw [here] at member
    exact member
  have observed : seen.any p = true → 0 < seen.countP p := by
    intro any
    obtain ⟨e, member, holds⟩ := List.any_eq_true.mp any
    exact List.countP_pos_iff.mpr ⟨e, member, holds⟩
  -- A task that had not observed such an event counts once more only if it does now.
  have once : (if (task.past.any p || seen.any p) = true then 1 else 0) ≤
      (if task.past.any p = true then 1 else 0) + seen.countP p := by
    cases task.past.any p
    · cases any : seen.any p
      · simp
      · simpa using observed any
    · simp
  rw [List.countP_set inside, here, past, List.any_append]
  omega

/-- As many tasks at most have observed such an event as were shown. -/
theorem run_countP_le {p : τ → Bool}
    (ran : Machine.run (move thread) (empty s) moves = some (pool, shown)) :
    pool.tasks.countP (fun task => task.past.any p) ≤ shown.countP fun e => p e.2 := by
  have none : (empty s : Pool ι σ τ ρ ε α).tasks.countP (fun task => task.past.any p) ≤
      ([] : List (Nat × τ)).countP fun e => p e.2 := Nat.le_refl _
  refine Machine.run_keeps_shown (C := fun _ _ => True)
    (I := fun pool past => pool.tasks.countP (fun task => task.past.any p) ≤
      past.countP fun e => p e.2) ?_ none (Machine.along_of_forall fun _ _ => trivial) ran
  intro pool past mv pool' shown held _ moved
  rw [List.countP_append]
  cases moves_of_move moved with
  | start job => simpa [List.countP_append] using held
  | elsewhere s => exact held
  | drop found waits =>
    exact Nat.le_trans (countP_any_set found [] (List.append_nil _).symm) held
  | @step i job t t' past' seen taken s' found stepped =>
    refine Nat.le_trans (countP_any_set found seen rfl) (Nat.add_le_add held ?_)
    rw [List.countP_map]
    exact Nat.le_refl _

/-! ### Moments -/

/-- At a moment of the run the task at place `i` takes a step, in the pool `here`. -/
def Moment (thread : ι → Thread σ τ ρ ε α) (s : σ) (moves : List (Move ι σ)) (i : Nat)
    (here : Pool ι σ τ ρ ε α) : Prop :=
  ∃ earlier later shown, moves = earlier ++ .step i :: later ∧
    Machine.run (move thread) (empty s) earlier = some (here, shown)

/-- `held` was so in the state of some moment. -/
def During (thread : ι → Thread σ τ ρ ε α) (s : σ) (moves : List (Move ι σ)) (i : Nat)
    (held : σ → Prop) : Prop :=
  ∃ here, Moment thread s moves i here ∧ held here.state

theorem During.mono {i : Nat} {held held' : σ → Prop} (during : During thread s moves i held)
    (weaker : ∀ s, held s → held' s) : During thread s moves i held' := by
  obtain ⟨here, moment, was⟩ := during
  exact ⟨here, moment, weaker _ was⟩

theorem Moment.later {i : Nat} {here : Pool ι σ τ ρ ε α} (moment : Moment thread s moves i here)
    (more : List (Move ι σ)) : Moment thread s (moves ++ more) i here := by
  obtain ⟨earlier, later, shown, rfl, ran⟩ := moment
  exact ⟨earlier, later ++ more, shown, by rw [List.append_assoc, List.cons_append], ran⟩

/-- A task is where it was, new, given up, or one step further. -/
theorem task_of_move (moved : move thread pool mv = some (pool', shown)) {i : Nat}
    {task : Task ι σ τ ρ ε α} (found : pool'.tasks[i]? = some task) :
    (∃ before, pool.tasks[i]? = some before ∧ before.job = task.job ∧ before.past = task.past) ∨
      task.past = [] ∨
      ∃ t t' past seen taken, mv = .step i ∧
        pool.tasks[i]? = some ⟨task.job, .running t, past, taken⟩ ∧
        t.next pool.state = some (t', pool'.state, seen) ∧ task.past = past ++ seen := by
  cases moves_of_move moved with
  | start job =>
    rcases Nat.lt_or_ge i pool.tasks.length with old | new
    · rw [List.getElem?_append_left old] at found
      exact .inl ⟨task, found, rfl, rfl⟩
    · rw [List.getElem?_append_right new] at found
      obtain rfl := List.mem_singleton.mp (List.mem_of_getElem? found)
      exact .inr (.inl rfl)
  | @step j job t t' past seen taken s' here stepped =>
    by_cases own : j = i
    · subst own
      rw [List.getElem?_set_self (List.getElem?_eq_some_iff.mp here).1] at found
      cases found
      exact .inr (.inr ⟨t, t', past, seen, taken, rfl, here, stepped, rfl⟩)
    · rw [List.getElem?_set_ne own] at found
      exact .inl ⟨task, found, rfl, rfl⟩
  | @drop j job t past taken held here waits =>
    by_cases own : j = i
    · subst own
      rw [List.getElem?_set_self (List.getElem?_eq_some_iff.mp here).1] at found
      cases found
      exact .inl ⟨_, here, rfl, rfl⟩
    · rw [List.getElem?_set_ne own] at found
      exact .inl ⟨task, found, rfl, rfl⟩
  | elsewhere s => exact .inl ⟨task, found, rfl, rfl⟩

/-- What a task holds: its thread where it waits, or what it held when it was given up. -/
def holding : Task ι σ τ ρ ε α → Option ρ
  | ⟨_, .running t, _, _⟩ => t.held?
  | ⟨_, .dropped held, _, _⟩ => some held

theorem Meets.holds {task : Task ι σ τ ρ ε α} {held : ρ} (meets : Meets P Q task)
    (holds : holding task = some held) : (P task.job).holds task.past held := by
  obtain ⟨job, t | dropped, past, taken⟩ := task
  · exact Thread.Ensures.holds meets holds
  · cases holds
    exact meets

/-- How a task has ended, if it has. -/
def outcome : Task ι σ τ ρ ε α → Option (Flow ε α)
  | ⟨_, .running (.pass a), _, _⟩ => some (.pass a)
  | ⟨_, .running (.exit e), _, _⟩ => some (.exit e)
  | ⟨_, .running .unwound, _, _⟩ => some .unwound
  | _ => none

theorem progress_of_outcome {task : Task ι σ τ ρ ε α} {flow : Flow ε α}
    (ended : outcome task = some flow) : task.progress = .running (.ofFlow flow) := by
  obtain ⟨job, t | dropped, past, taken⟩ := task
  · cases t <;> cases ended <;> rfl
  · cases ended

theorem Meets.outcome {task : Task ι σ τ ρ ε α} {flow : Flow ε α} (meets : Meets P Q task)
    (ended : Pool.outcome task = some flow) : Q task.job task.past flow := by
  have running := progress_of_outcome ended
  obtain ⟨job, progress, past, taken⟩ := task
  cases running
  exact Thread.ensures_ofFlow_iff.mp meets

/-- A task has taken at most the steps its thread ends within, and has the rest of them left. -/
theorem run_within {n : ι → Nat} (within : ∀ job, (thread job).Within (n job))
    (ran : Machine.run (move thread) (empty s) moves = some (pool, shown)) :
    ∀ task ∈ pool.tasks, task.taken ≤ n task.job ∧
      ∀ t, task.progress = .running t → t.Within (n task.job - task.taken) := by
  refine run_tasks (fun job => ⟨Nat.zero_le _, ?_⟩) ?_ ?_ ran
  · rintro _ ⟨⟩
    exact within job
  · rintro job t past taken s t' s' seen ⟨le, left⟩ stepped
    obtain ⟨m, budget, rest⟩ := (left t rfl).next stepped
    dsimp only at le budget ⊢
    refine ⟨by omega, ?_⟩
    rintro _ ⟨⟩
    exact rest.mono (by omega)
  · rintro job t past taken held ⟨le, -⟩ -
    exact ⟨le, fun t running => by cases running⟩

/-! ### What a task has observed -/

/-- What the task at place `i` shows, of all that is shown. -/
def own (i : Nat) (shown : List (Nat × τ)) : List τ :=
  shown.filterMap fun (j, e) => if j = i then some e else none

theorem own_append (i : Nat) (shown later : List (Nat × τ)) :
    own i (shown ++ later) = own i shown ++ own i later := List.filterMap_append

theorem own_map (i j : Nat) (seen : List τ) :
    own i (seen.map fun e => (j, e)) = if j = i then seen else [] := by
  unfold own
  rw [List.filterMap_map, Function.comp_def]
  split <;> rename_i here
  · simp only [here, if_true]
    exact List.filterMap_some
  · simp only [here, if_false]
    exact List.filterMap_eq_nil_iff.mpr fun _ _ => rfl

/-- The past of the task at place `i`, if there is one. -/
def pastAt (pool : Pool ι σ τ ρ ε α) (i : Nat) : List τ :=
  (pool.tasks[i]?.map Task.past).getD []

theorem move_pastAt (moved : move thread pool mv = some (pool', shown)) (i : Nat) :
    pool'.pastAt i = pool.pastAt i ++ own i shown := by
  cases moves_of_move moved with
  | start job =>
    simp only [pastAt, List.getElem?_append, own, List.filterMap_nil, List.append_nil]
    split
    next => rfl
    next beyond =>
      -- Behind the last task there is the new one, which has observed nothing, or none.
      have absent : pool.tasks[i]? = none := List.getElem?_eq_none (Nat.le_of_not_lt beyond)
      rw [absent]
      cases i - pool.tasks.length <;> rfl
  | @step j job t t' past seen taken s' found stepped =>
    rw [own_map]
    simp only [pastAt, List.getElem?_set]
    split
    next here =>
      subst here
      rw [found, if_pos (List.getElem?_eq_some_iff.mp found).1]
      rfl
    next => simp
  | @drop j job t past taken held found waits =>
    simp only [pastAt, List.getElem?_set, own, List.filterMap_nil, List.append_nil]
    split
    next here =>
      subst here
      rw [found, if_pos (List.getElem?_eq_some_iff.mp found).1]
      rfl
    next => rfl
  | elsewhere s => simp [pastAt, own]

/-- The past of a task is what it has shown in the run. -/
theorem run_pastAt (ran : Machine.run (move thread) pool moves = some (pool', shown)) (i : Nat) :
    pool'.pastAt i = pool.pastAt i ++ own i shown := by
  induction moves generalizing pool shown with
  | nil => cases ran; simp [own]
  | cons mv moves ih =>
    obtain ⟨pool₁, here, later, moved, rest, rfl⟩ := Machine.run_cons_iff.mp ran
    rw [ih rest, move_pastAt moved, own_append, List.append_assoc]

/-- In a run from the empty pool a task has observed what the run shows of it. -/
theorem past_eq_own (ran : Machine.run (move thread) (empty s) moves = some (pool, shown)) {i : Nat}
    {task : Task ι σ τ ρ ε α} (found : pool.tasks[i]? = some task) : task.past = own i shown := by
  have past := run_pastAt ran i
  have none : (empty s : Pool ι σ τ ρ ε α).pastAt i = [] := rfl
  rw [none, List.nil_append] at past
  rw [← past, pastAt, found]
  rfl

/-- The task at place `i` takes the step that shows `e` in the pool `here`, behind what the run has
shown `before`. -/
def ShownAt (thread : ι → Thread σ τ ρ ε α) (s : σ) (moves : List (Move ι σ)) (i : Nat)
    (here : Pool ι σ τ ρ ε α) (before : List (Nat × τ)) (e : τ) : Prop :=
  ∃ earlier later there seen, moves = earlier ++ .step i :: later ∧
    Machine.run (move thread) (empty s) earlier = some (here, before) ∧
    move thread here (.step i) = some (there, seen) ∧ (i, e) ∈ seen

theorem ShownAt.moment {i : Nat} {here : Pool ι σ τ ρ ε α} {before : List (Nat × τ)} {e : τ}
    (shows : ShownAt thread s moves i here before e) : Moment thread s moves i here := by
  obtain ⟨earlier, later, there, seen, split, ran, -, -⟩ := shows
  exact ⟨earlier, later, before, split, ran⟩

theorem ShownAt.later {i : Nat} {here : Pool ι σ τ ρ ε α} {before : List (Nat × τ)} {e : τ}
    (shows : ShownAt thread s moves i here before e) (more : List (Move ι σ)) :
    ShownAt thread s (moves ++ more) i here before e := by
  obtain ⟨earlier, later, there, seen, rfl, ran⟩ := shows
  exact ⟨earlier, later ++ more, there, seen, by rw [List.append_assoc, List.cons_append], ran⟩

/-- What a task has observed, a step of its own has shown, doing what was promised in the state it
found, behind what the task had observed by then. -/
theorem run_when (ensures : ∀ job, (thread job).Ensures (P job) (Q job) [])
    (ran : Machine.run (move thread) (empty s) moves = some (pool, shown)) {i : Nat}
    {task : Task ι σ τ ρ ε α} (found : pool.tasks[i]? = some task) {e : τ}
    (member : e ∈ task.past) : ∃ here before after, ShownAt thread s moves i here before e ∧
      (P task.job).acts (own i before) here.state after ∧ e ∈ after.2 := by
  induction moves using List.reverseRecOn generalizing pool shown task with
  | nil => cases ran; cases found
  | append_singleton moves mv ih =>
    obtain ⟨pool₀, seen₀, later, ran₀, last, -⟩ := Machine.run_append_iff.mp ran
    obtain ⟨pool', here, rest, moved, ended, -⟩ := Machine.run_cons_iff.mp last
    cases ended
    have earlier : ∀ task₀, pool₀.tasks[i]? = some task₀ → task₀.job = task.job →
        e ∈ task₀.past → ∃ here before after,
          ShownAt thread s (moves ++ [mv]) i here before e ∧
          (P task.job).acts (own i before) here.state after ∧ e ∈ after.2 := by
      intro task₀ found₀ same seen
      obtain ⟨here, before, after, shows, acts, observed⟩ := ih ran₀ found₀ seen
      rw [same] at acts
      exact ⟨here, before, after, shows.later _, acts, observed⟩
    rcases task_of_move moved found with ⟨task₀, found₀, same, past⟩ | none |
      ⟨t, t', past, seen, taken, rfl, found₀, stepped, whole⟩
    · exact earlier task₀ found₀ same (past ▸ member)
    · rw [none] at member
      cases member
    · rw [whole] at member
      rcases List.mem_append.mp member with old | new
      · exact earlier _ found₀ rfl old
      · have ensured : Thread.Ensures _ _ _ _ :=
          run_meets ensures ran₀ _ (List.mem_of_getElem? found₀)
        have behind : past = own i seen₀ := past_eq_own ran₀ found₀
        rcases (ensured.next stepped).2 with acts | ⟨-, rfl⟩
        · rw [behind] at acts
          exact ⟨pool₀, seen₀, _, ⟨moves, [], _, _, rfl, ran₀, move_step found₀ stepped,
            List.mem_map_of_mem new⟩, acts, new⟩
        · cases new

/-! ### One task by itself -/

/-- The pool in which the task at place `i` has ended as the run `r` says. -/
def ended (pool : Pool ι σ τ ρ ε α) (i : Nat) (job : ι) (past : List τ) (taken : Nat)
    (r : Run σ τ ε α) : Pool ι σ τ ρ ε α :=
  ⟨r.state, pool.tasks.set i ⟨job, .running (.ofFlow r.flow), past ++ r.trace, taken⟩⟩

variable (thread) in
/-- With nothing in between, a task running `t` takes its steps to the end `t` has alone. -/
def Finishes (i : Nat) (job : ι) (t : Thread σ τ ρ ε α) : Prop :=
  ∀ (pool : Pool ι σ τ ρ ε α) past taken,
    pool.tasks[i]? = some ⟨job, .running t, past, taken⟩ →
      Machine.run (move thread) pool (List.replicate (t.steps pool.state) (.step i)) =
        some (pool.ended i job past (taken + t.steps pool.state) (t.alone pool.state),
          (t.alone pool.state).trace.map fun e => (i, e))

theorem finishes_ofFlow (i : Nat) (job : ι) (flow : Flow ε α) :
    Finishes thread i job (.ofFlow flow) := by
  intro pool past taken found
  -- What has ended takes no step, and its task stays as it is.
  have alone : (Thread.ofFlow flow : Thread σ τ ρ ε α).alone pool.state =
      ⟨flow, pool.state, []⟩ := by
    cases flow <;> rfl
  have none : (Thread.ofFlow flow : Thread σ τ ρ ε α).steps pool.state = 0 := by
    cases flow <;> rfl
  obtain ⟨inside, here⟩ := List.getElem?_eq_some_iff.mp found
  rw [alone, none, ended, List.append_nil, Nat.add_zero, ← here, List.set_getElem_self]
  rfl

theorem Finishes.of_next {i : Nat} {job : ι} {t : Thread σ τ ρ ε α}
    (steps : ∀ s, ∃ t' s' seen, t.next s = some (t', s', seen) ∧ t.steps s = t'.steps s' + 1 ∧
      t.alone s = (t'.alone s').after seen ∧ Finishes thread i job t') :
    Finishes thread i job t := by
  intro pool past taken found
  obtain ⟨t', s', seen, stepped, count, same, rest⟩ := steps pool.state
  have inside : i < pool.tasks.length := (List.getElem?_eq_some_iff.mp found).1
  have ran := rest ⟨s', pool.tasks.set i ⟨job, .running t', past ++ seen, taken + 1⟩⟩
    (past ++ seen) (taken + 1) (List.getElem?_set_self inside)
  -- The rest overwrites the place once more, behind what the first step has shown.
  have landed : pool.ended i job past (taken + t.steps pool.state) (t.alone pool.state) =
      ended ⟨s', pool.tasks.set i ⟨job, .running t', past ++ seen, taken + 1⟩⟩ i job
        (past ++ seen) (taken + 1 + t'.steps s') (t'.alone s') := by
    simp only [ended, same, count, Run.after_state, Run.after_flow, Run.after_trace, List.set_set,
      List.append_assoc]
    rw [Nat.add_right_comm taken 1, Nat.add_assoc]
  rw [landed, count]
  refine Machine.run_cons_iff.mpr ⟨_, _, (t'.alone s').trace.map fun e => (i, e),
    move_step found stepped, ran, ?_⟩
  rw [same, Run.after_trace, List.map_append]

theorem finishes (i : Nat) (job : ι) (t : Thread σ τ ρ ε α) : Finishes thread i job t := by
  induction t with
  | pass a => exact finishes_ofFlow i job (.pass a)
  | exit e => exact finishes_ofFlow i job (.exit e)
  | unwound => exact finishes_ofFlow i job .unwound
  | act effect rest ih => exact .of_next fun s => ⟨rest s, _, _, rfl, rfl, rfl, ih s⟩
  | wait held rest ih => exact .of_next fun s => ⟨rest, s, [], rfl, rfl, rfl, ih⟩

/-- The task of a job that was left alone from state `s`. -/
def servedTask (thread : ι → Thread σ τ ρ ε α) (job : ι) (s : σ) : Task ι σ τ ρ ε α :=
  ⟨job, .running (.ofFlow ((thread job).alone s).flow), ((thread job).alone s).trace,
    (thread job).steps s⟩

/-- A job started and left alone ends as its thread does alone. -/
theorem run_alone (thread : ι → Thread σ τ ρ ε α) (pool : Pool ι σ τ ρ ε α) (job : ι) :
    Machine.run (move thread) pool
      (.start job :: List.replicate ((thread job).steps pool.state) (.step pool.tasks.length)) =
        some (⟨((thread job).alone pool.state).state,
          pool.tasks ++ [servedTask thread job pool.state]⟩,
          ((thread job).alone pool.state).trace.map fun e => (pool.tasks.length, e)) := by
  have alone : Finishes thread pool.tasks.length job (thread job) := finishes _ _ _
  have ran := alone { pool with tasks := pool.tasks ++ [⟨job, .running (thread job), [], 0⟩] } [] 0
    (by simp)
  refine Machine.run_cons_iff.mpr ⟨_, [], _, rfl, ran.trans ?_, rfl⟩
  simp [ended, servedTask]

/-! ### One task among others -/

section Apart

variable {R : σ → σ → Prop}

variable (R) in
/-- Every step leaves the state as far as `R` sees. -/
def leaving : Promise σ τ ρ where
  acts _ s := fun (s', _) => R s s'
  holds _ _ := True

variable (R) in
/-- What comes from elsewhere leaves the state as far as `R` sees. -/
def Undisturbed (pool : Pool ι σ τ ρ ε α) (mv : Move ι σ) : Prop :=
  ∀ s, mv = .elsewhere s → R pool.state s

/-- A job that may run beside the one at place `i`: that one itself, the same to `R`, or one that
leaves the state as far as `R` sees. -/
def Apart (R : σ → σ → Prop) (thread : ι → Thread σ τ ρ ε α) (i j : Nat) (job : ι) : Prop :=
  (j = i → (thread job).Alike R Eq (thread job)) ∧
    (j ≠ i → (thread job).Ensures (leaving R) (fun _ _ => True) [])

/-- The task at place `i` goes on as it would have alone from `s`, and the other tasks leave the
state as far as `R` sees. -/
structure Shadowed (R : σ → σ → Prop) (thread : ι → Thread σ τ ρ ε α) (s : σ) (i : Nat)
    (pool : Pool ι σ τ ρ ε α) : Prop where
  ahead : pool.tasks.length ≤ i → R pool.state s
  own : ∀ job t past taken, pool.tasks[i]? = some ⟨job, .running t, past, taken⟩ →
    ∃ t' s' seen, t.Alike R Eq t' ∧ R pool.state s' ∧
      (thread job).alone s = (t'.alone s').after seen
  others : ∀ j job t past taken, j ≠ i →
    pool.tasks[j]? = some ⟨job, .running t, past, taken⟩ →
      t.Ensures (leaving R) (fun _ _ => True) past

/-- The task at `i` stays where it is, and so does the view. -/
private theorem Shadowed.besides {i : Nat} (same : Equivalence R)
    (shadowed : Shadowed R thread s i pool) (left : R pool.state pool'.state)
    (shorter : pool.tasks.length ≤ pool'.tasks.length)
    (here : pool'.tasks[i]? = pool.tasks[i]?)
    (others : ∀ j job t past taken, j ≠ i →
      pool'.tasks[j]? = some ⟨job, .running t, past, taken⟩ →
        t.Ensures (leaving R) (fun _ _ => True) past) : Shadowed R thread s i pool' where
  ahead outside := same.trans (same.symm left) (shadowed.ahead (Nat.le_trans shorter outside))
  own job t past taken found := by
    obtain ⟨u, r, before, alike, related, ends⟩ := shadowed.own job t past taken (here ▸ found)
    exact ⟨u, r, before, alike, same.trans (same.symm left) related, ends⟩
  others := others

/-- A new task at place `i` starts as its own shadow, one elsewhere leaves the view. -/
private theorem Shadowed.start {i : Nat} {job : ι} (same : Equivalence R)
    (shadowed : Shadowed R thread s i pool) (fresh : Apart R thread i pool.tasks.length job) :
    Shadowed R thread s i
      { pool with tasks := pool.tasks ++ [⟨job, .running (thread job), [], 0⟩] } := by
  have others : ∀ j job' t past taken, j ≠ i →
      (pool.tasks ++ [⟨job, .running (thread job), [], 0⟩])[j]? =
        some ⟨job', .running t, past, taken⟩ →
      t.Ensures (leaving R) (fun _ _ => True) past := by
    intro j job' t past taken away found
    rcases Nat.lt_trichotomy j pool.tasks.length with old | rfl | beyond
    · rw [List.getElem?_append_left old] at found
      exact shadowed.others j job' t past taken away found
    · rw [List.getElem?_concat_length] at found
      cases found
      exact fresh.2 away
    · rw [List.getElem?_eq_none (by simp; omega)] at found
      cases found
  rcases Nat.lt_trichotomy i pool.tasks.length with old | rfl | beyond
  · exact shadowed.besides same (same.refl _) (by simp) (List.getElem?_append_left old) others
  · refine ⟨fun outside => ?_, fun job' t past taken found => ?_, others⟩
    · simp only [List.length_append, List.length_singleton] at outside
      omega
    · rw [List.getElem?_concat_length] at found
      cases found
      exact ⟨_, s, [], fresh.1 rfl, shadowed.ahead (Nat.le_refl _), rfl⟩
  · refine shadowed.besides same (same.refl _) (by simp) ?_ others
    rw [List.getElem?_eq_none (by simp; omega), List.getElem?_eq_none (by omega)]

/-- What the task at place `i` does its shadow does, and any other leaves the view. -/
private theorem Shadowed.step {i j : Nat} {job : ι} {t t' : Thread σ τ ρ ε α}
    {past seen : List τ} {taken : Nat} {s' : σ} (same : Equivalence R)
    (shadowed : Shadowed R thread s i pool)
    (found : pool.tasks[j]? = some ⟨job, .running t, past, taken⟩)
    (stepped : t.next pool.state = some (t', s', seen)) :
    Shadowed R thread s i
      ⟨s', pool.tasks.set j ⟨job, .running t', past ++ seen, taken + 1⟩⟩ := by
  have inside : j < pool.tasks.length := (List.getElem?_eq_some_iff.mp found).1
  have others : ∀ k job₁ t₁ past₁ taken₁, k ≠ i →
      (pool.tasks.set j ⟨job, .running t', past ++ seen, taken + 1⟩)[k]? =
        some ⟨job₁, .running t₁, past₁, taken₁⟩ →
      t₁.Ensures (leaving R) (fun _ _ => True) past₁ := by
    intro k job₁ t₁ past₁ taken₁ away found₁
    by_cases here : j = k
    · subst here
      rw [List.getElem?_set_self inside] at found₁
      cases found₁
      exact (Thread.Ensures.next (shadowed.others j _ _ _ _ away found) stepped).1
    · rw [List.getElem?_set_ne here] at found₁
      exact shadowed.others k _ _ _ _ away found₁
  by_cases own : j = i
  · subst own
    refine ⟨fun outside => ?_, fun job₁ t₁ past₁ taken₁ found₁ => ?_, others⟩
    · simp only [List.length_set] at outside
      omega
    · rw [List.getElem?_set_self inside] at found₁
      cases found₁
      obtain ⟨u, r, before, alike, related, ends⟩ := shadowed.own _ _ _ _ found
      obtain ⟨u', r', seen', stepped', alike', related'⟩ := alike.next related stepped
      rw [Thread.alone_next stepped', Run.after_after] at ends
      exact ⟨u', r', before ++ seen', alike', related', ends⟩
  · refine shadowed.besides same ?_ (by simp) (List.getElem?_set_ne own) others
    rcases (Thread.Ensures.next (shadowed.others j _ _ _ _ own found) stepped).2 with
      left | ⟨rfl, -⟩
    · exact left
    · exact same.refl _

/-- A task that is given up goes on no more. -/
private theorem Shadowed.drop {i j : Nat} {job : ι} {past : List τ} {taken : Nat} {held : ρ}
    (shadowed : Shadowed R thread s i pool) (inside : j < pool.tasks.length) :
    Shadowed R thread s i
      { pool with tasks := pool.tasks.set j ⟨job, .dropped held, past, taken⟩ } := by
  have kept : ∀ (k : Nat) (job₁ : ι) (t₁ : Thread σ τ ρ ε α) (past₁ : List τ) (taken₁ : Nat),
      (pool.tasks.set j ⟨job, .dropped held, past, taken⟩)[k]? =
        some ⟨job₁, .running t₁, past₁, taken₁⟩ →
      pool.tasks[k]? = some ⟨job₁, .running t₁, past₁, taken₁⟩ := by
    intro k job₁ t₁ past₁ taken₁ found
    by_cases here : j = k
    · subst here
      rw [List.getElem?_set_self inside] at found
      cases found
    · rw [List.getElem?_set_ne here] at found
      exact found
  refine ⟨fun outside => shadowed.ahead ?_, ?_, ?_⟩
  · rw [List.length_set] at outside
    exact outside
  · intro job₁ t₁ past₁ taken₁ found
    exact shadowed.own job₁ t₁ past₁ taken₁ (kept i _ _ _ _ found)
  · intro k job₁ t₁ past₁ taken₁ away found
    exact shadowed.others k job₁ t₁ past₁ taken₁ away (kept k _ _ _ _ found)

theorem move_shadowed (same : Equivalence R) {i : Nat} (shadowed : Shadowed R thread s i pool)
    (fresh : ∀ job, mv = .start job → Apart R thread i pool.tasks.length job)
    (undisturbed : Undisturbed R pool mv) (moved : move thread pool mv = some (pool', shown)) :
    Shadowed R thread s i pool' := by
  cases moves_of_move moved with
  | start job => exact shadowed.start same (fresh job rfl)
  | step found stepped => exact shadowed.step same found stepped
  | drop found waits => exact shadowed.drop (List.getElem?_eq_some_iff.mp found).1
  | elsewhere s' =>
    exact shadowed.besides same (undisturbed s' rfl) (Nat.le_refl _) rfl shadowed.others

/-- A task keeps its place and its job. -/
theorem run_job {j : Nat} {job : ι} (ran : Machine.run (move thread) pool moves =
    some (pool', shown)) (found : pool.tasks[j]?.map Task.job = some job) :
    pool'.tasks[j]?.map Task.job = some job := by
  refine Machine.run_keeps (I := fun pool => pool.tasks[j]?.map Task.job = some job) ?_ found ran
  intro pool mv pool' shown held moved
  obtain ⟨task, found, -⟩ := Option.map_eq_some_iff.mp held
  have inside : j < pool.tasks.length := (List.getElem?_eq_some_iff.mp found).1
  cases moves_of_move moved with
  | start job => rw [List.getElem?_append_left inside]; exact held
  | @step i job t t' past seen taken s' here _ | @drop i job t past taken dropped here _ =>
    by_cases own : i = j
    · subst own
      rw [here] at held
      rw [List.getElem?_set_self inside]
      exact held
    · rw [List.getElem?_set_ne own]
      exact held
  | elsewhere s => exact held

theorem run_shadowed (same : Equivalence R) {i : Nat} (shadowed : Shadowed R thread s i pool)
    (undisturbed : Machine.Along (move thread) (Undisturbed R) pool moves)
    (ran : Machine.run (move thread) pool moves = some (pool', shown))
    (apart : ∀ j job, pool'.tasks[j]?.map Task.job = some job → Apart R thread i j job) :
    Shadowed R thread s i pool' := by
  induction moves generalizing pool shown with
  | nil => cases ran; exact shadowed
  | cons mv moves ih =>
    obtain ⟨pool₁, here, later, moved, behind, -⟩ := Machine.run_cons_iff.mp ran
    obtain ⟨meets, further⟩ := (Machine.along_cons_iff moved).mp undisturbed
    refine ih (move_shadowed same shadowed ?_ meets moved) further behind
    rintro job rfl
    -- Its place and its job are those of a task at the end.
    cases moved
    refine apart _ job (run_job behind ?_)
    rw [List.getElem?_concat_length]
    rfl

/-- A task among others that leave what it looks at ends as its thread does alone, and leaves what
it looks at as the thread does. -/
theorem run_apart (same : Equivalence R)
    (ran : Machine.run (move thread) (empty s) moves = some (pool, shown))
    (undisturbed : Machine.Along (move thread) (Undisturbed R) (empty s) moves) {i : Nat}
    (apart : ∀ j job, pool.tasks[j]?.map Task.job = some job → Apart R thread i j job)
    {task : Task ι σ τ ρ ε α} (found : pool.tasks[i]? = some task) {flow : Flow ε α}
    (ended : outcome task = some flow) : ((thread task.job).alone s).flow = flow ∧
      R pool.state ((thread task.job).alone s).state := by
  have none : Shadowed R thread s i (empty s) := by
    refine ⟨fun _ => same.refl s, ?_, ?_⟩
    · intro job t past taken found
      cases found
    · intro j job t past taken _ found
      cases found
  have shadowed := run_shadowed same none undisturbed ran apart
  have running := progress_of_outcome ended
  obtain ⟨job, progress, past, taken⟩ := task
  cases running
  obtain ⟨u, r, before, alike, related, ends⟩ := shadowed.own job _ past taken found
  obtain ⟨flow', rfl, flows⟩ := alike.ended
  rw [ends, Run.after_flow, Run.after_state, flows.eq]
  cases flow' <;> exact ⟨rfl, related⟩

end Apart

end Pool

end Traced
