import TowerGuard.Rules
import TowerGuard.Rendering

/-!
# Runs of the pipeline

`GuardService::call` in terms of the run of the ordered list: how a run of the list goes on
to an answer or a forward, that it follows the reference semantics `Check.ending`, and what
it leaves unchanged on the way to a check.
-/

namespace TowerGuard

open Text Traced

variable {W : World} {E : Engine W} {service : GuardService W} {request : Request W}
  {k j : Check} {cs : List Check} {χ χ' : Locals W} {s s' : Store W} {t : List (Event W)}
  {early : Early W}

variable (E service) in
/-- The list's step: one check on the locals. -/
abbrev Check.step : Check → Locals W → Guarded W (Locals W) := fun k χ => k.run E service χ

/-! ### From the list to the call -/

theorem call_of_pass (h : Check.runPipeline E service request s = ⟨.pass χ, s', t⟩) :
    service.call E request s =
      (forward E service.layer (.extract request.toParts) χ.parts χ.buffered service.inner
        s').after t := by
  -- The pair the async block ends with is read off the last locals.
  refine Prog.settle_pass (a := (χ.parts, χ.buffered)) ?_
  rw [screening_eq, Prog.bind_pass h]
  simp [Prog.pure_run, Run.after]

theorem call_of_exit (h : Check.runPipeline E service request s = ⟨.exit early, s', t⟩) :
    service.call E request s =
      (service.conclude E (.extract request.toParts) early s').after t := by
  refine Prog.settle_exit ?_
  rw [screening_eq, Prog.bind_exit h]

theorem call_of_unwound (h : Check.runPipeline E service request s = ⟨.unwound, s', t⟩) :
    service.call E request s = ⟨.unwound, s', t⟩ := by
  refine Prog.settle_unwound ?_
  rw [screening_eq, Prog.bind_unwound h]

/-! ### Observations of the list -/

/-- A check that applies observes its question first, and then at most the block hook. -/
theorem run_trace {trial : Trial W} (applies : k.trial E service χ = some trial) :
    ∃ rest, (k.run E service χ s).trace =
        ⟨trial.question, .ofRuling (trial.ruling s).1⟩ :: rest ∧ ∀ event ∈ rest, event.aside := by
  rcases ruled : trial.ruling s with ⟨_ | ruling, s₁⟩
  · -- A panicking collaborator is the last thing the check observes.
    exact ⟨[], by rw [run_of_panicked applies ruled]; rfl, by simp⟩
  · refine ⟨(Check.proceed E service ruling s₁).trace, by rw [run_of_ruled applies ruled]; rfl, ?_⟩
    cases ruling with
    | pass next => simp [Check.proceed, Prog.pure_run]
    | flag next => simp [Check.proceed, Prog.pure_run]
    | recover early => simp [Check.proceed, Prog.exit]
    | deny early payload =>
      -- Only a denial goes on to observe something, and that is the block hook.
      exact Prog.Emits.bind (fireBlock_emits E service.layer fun _ aside => aside)
        (fun _ => .exit) s₁

theorem run_event {event : Event W} (h : event ∈ (k.run E service χ s).trace) :
    (∃ trial, k.trial E service χ = some trial ∧
      event = ⟨trial.question, .ofRuling (trial.ruling s).1⟩) ∨ event.aside := by
  cases applies : k.trial E service χ with
  | none => rw [run_of_absent applies] at h; cases h
  | some trial =>
    obtain ⟨rest, trace, aside⟩ := run_trace (s := s) applies
    rw [trace] at h
    rcases List.mem_cons.mp h with own | later
    · exact .inl ⟨trial, rfl, own⟩
    · exact .inr (aside event later)

/-! ### The reference semantics -/

variable (E service) in
/-- The run an ending stands for, its questions aside. -/
def Check.finish : Ending W × Store W → Run (Store W) (Event W) (Early W) (Locals W)
  | (.forward final, s) => ⟨.pass final, s, []⟩
  | (.denied _ early payload, s) =>
    (do fireBlock E service.layer payload; Prog.exit early : Guarded W (Locals W)) s
  | (.panicked _, s) => ⟨.unwound, s, []⟩

/-- The checks an ending has come to: those up to the one that ended the list. -/
def Check.Ending.consulted (cs : List Check) : Ending W → List Check → Prop
  | .forward _, seen => seen = cs
  | .denied k _ _, seen | .panicked k, seen => ∃ pre post, cs = pre ++ k :: post ∧ seen = pre ++ [k]

variable (E service) in
/-- A run of the list is its ending, behind questions of the checks it came to. -/
theorem checklist_ending (cs : List Check) (χ : Locals W) (s : Store W) :
    ∃ t seen, Checklist.run (Check.step E service) cs χ s =
        (Check.finish E service (Check.ending E service cs χ s)).after t ∧
      (Check.ending E service cs χ s).1.consulted cs seen ∧
      ∀ event ∈ t, ∃ k ∈ seen, event.consult.check = some k := by
  -- By induction on the list, for all locals and states it may be entered with.
  induction cs generalizing χ s with
  | nil => exact ⟨[], [], rfl, rfl, by simp⟩
  | cons k cs ih =>
    -- The rest of the list, behind what `k` observed when it passed.
    have onward : ∀ {χ' s' t₀}, k.run E service χ s = ⟨.pass χ', s', t₀⟩ →
        (∀ event ∈ t₀, event.consult.check = some k) →
        Check.ending E service (k :: cs) χ s = Check.ending E service cs χ' s' →
        ∃ t seen, Checklist.run (Check.step E service) (k :: cs) χ s =
            (Check.finish E service (Check.ending E service (k :: cs) χ s)).after t ∧
          (Check.ending E service (k :: cs) χ s).1.consulted (k :: cs) seen ∧
          ∀ event ∈ t, ∃ k' ∈ seen, event.consult.check = some k' := by
      intro χ' s' t₀ passed own same
      obtain ⟨t, seen, rest, came, questions⟩ := ih χ' s'
      rw [same]
      refine ⟨t₀ ++ t, k :: seen, ?_, ?_, ?_⟩
      · rw [Checklist.run_cons, Prog.bind_pass passed, rest, Run.after_after]
      · revert came
        cases (Check.ending E service cs χ' s').1 with
        | forward final => rintro rfl; rfl
        | denied j early payload => rintro ⟨pre, post, rfl, rfl⟩; exact ⟨k :: pre, post, rfl, rfl⟩
        | panicked j => rintro ⟨pre, post, rfl, rfl⟩; exact ⟨k :: pre, post, rfl, rfl⟩
      · intro event member
        rcases List.mem_append.mp member with before | after
        · exact ⟨k, List.mem_cons_self, own event before⟩
        · obtain ⟨j, seen_j, question⟩ := questions event after
          exact ⟨j, List.mem_cons_of_mem k seen_j, question⟩
    cases applies : k.trial E service χ with
    | none =>
      -- The check does not apply: it asks nothing and hands the locals on.
      exact onward (run_pass_iff.mpr (.inl ⟨applies, rfl, rfl, rfl⟩)) (by simp)
        (by simp only [Check.ending, applies])
    | some trial =>
      have own := trial_question applies
      rcases ruled : trial.ruling s with ⟨_ | ruling, s'⟩
      · -- The collaborator panicked, and the list ends here.
        refine ⟨[⟨trial.question, .panicked⟩], [k], ?_, ?_, ?_⟩
        · rw [Checklist.run_cons, Prog.bind_unwound (run_of_panicked applies ruled)]
          simp only [Check.ending, applies, ruled, Check.finish, Run.after, List.append_nil]
        · simp only [Check.ending, applies, ruled]
          exact ⟨[], cs, rfl, rfl⟩
        · simpa using own
      · have question : ∀ event ∈ [(⟨trial.question, .ofRuling (some ruling)⟩ : Event W)],
            event.consult.check = some k := by simpa using own
        cases next : ruling.next? with
        | some χ' =>
          refine onward (run_pass_iff.mpr (.inr ⟨trial, ruling, applies, ruled, next, rfl⟩))
            question ?_
          cases ruling <;> cases next <;> simp only [Check.ending, applies, ruled]
        | none =>
          -- The ruling stops: what follows the question is the finish of the denial.
          refine ⟨[⟨trial.question, .ofRuling (some ruling)⟩], [k], ?_, ?_, by simpa using own⟩
          · rw [Checklist.run_cons, Prog.bind_of_stop, Check.step, run_of_ruled applies ruled]
            · congr 1
              cases ruling with
              | pass _ | flag _ => cases next
              | deny early payload =>
                simp only [Check.ending, applies, ruled, Check.finish, Check.proceed]
              | recover early =>
                simp only [Check.ending, applies, ruled, Check.finish, Check.proceed]
                rfl
            · rw [Check.step, run_of_ruled applies ruled, Run.after_flow]
              exact proceed_not_pass E service _ next
          · cases ruling <;> cases next <;> simp only [Check.ending, applies, ruled] <;>
              exact ⟨[], cs, rfl, rfl⟩

theorem ending_append (front back : List Check) (χ : Locals W) (s : Store W) :
    Check.ending E service (front ++ back) χ s =
      match Check.ending E service front χ s with
      | (.forward χ', s') => Check.ending E service back χ' s'
      | ended => ended := by
  induction front generalizing χ s with
  | nil => rfl
  | cons k front ih =>
    simp only [List.cons_append, Check.ending]
    cases k.trial E service χ with
    | none => exact ih χ s
    | some trial =>
      dsimp only
      rcases trial.ruling s with ⟨_ | ruling, s'⟩
      · rfl
      · cases ruling with
        | pass next => exact ih next s'
        | flag next => exact ih next s'
        | deny early payload => rfl
        | recover early => rfl

/-- A list passes when its ending is the forward. -/
theorem ending_forward_iff : Check.ending E service cs χ s = (.forward χ', s') ↔
    ∃ t, Checklist.run (Check.step E service) cs χ s = ⟨.pass χ', s', t⟩ := by
  obtain ⟨t, -, ran, -, -⟩ := checklist_ending E service cs χ s
  rw [ran]
  constructor
  · intro forwarded
    rw [forwarded]
    exact ⟨t, by simp [Check.finish, Run.after]⟩
  · rintro ⟨t', passed⟩
    rcases ended : Check.ending E service cs χ s with ⟨final | ⟨j, early, payload⟩ | j, s₁⟩ <;>
      rw [ended] at passed
    · cases passed
      rfl
    · -- A denial leaves early, whether its block hook returns or panics.
      simp only [Check.finish] at passed
      obtain ⟨s₂, t₂, -, fired | fired⟩ := fireBlock_cases E service.layer payload s₁
      · rw [Prog.bind_pass (fired _)] at passed; cases passed
      · rw [Prog.bind_unwound (fired _)] at passed; cases passed
    · cases passed

/-- Where a check is reached, the list ends as its rest does from there. -/
theorem ending_of_reaches
    (reached : Checklist.Reaches (Check.step E service) cs χ s k χ' s') :
    ∃ back, Check.ending E service cs χ s = Check.ending E service (k :: back) χ' s' := by
  obtain ⟨front, back, t, rfl, passed⟩ := reached
  exact ⟨back, by rw [ending_append, ending_forward_iff.mpr ⟨t, passed⟩]⟩

/-- How a list ends, by the check that ended it. -/
inductive Check.Ends (E : Engine W) (service : GuardService W) (cs : List Check) (χ : Locals W)
    (s : Store W) : Ending W × Store W → Prop
  | forward {final : Locals W} {s' : Store W} {t : List (Event W)} :
      Checklist.run (Check.step E service) cs χ s = ⟨.pass final, s', t⟩ →
      Check.Ends E service cs χ s (.forward final, s')
  | denied {k : Check} {χ₁ : Locals W} {s₁ s' : Store W} {trial : Trial W} {early : Early W}
      {payload : Option BlockPayload} :
      Checklist.Reaches (Check.step E service) cs χ s k χ₁ s₁ →
      k.trial E service χ₁ = some trial → trial.ruling s₁ = (some (.deny early payload), s') →
      Check.Ends E service cs χ s (.denied k early payload, s')
  | recovered {k : Check} {χ₁ : Locals W} {s₁ s' : Store W} {trial : Trial W} {early : Early W} :
      Checklist.Reaches (Check.step E service) cs χ s k χ₁ s₁ →
      k.trial E service χ₁ = some trial → trial.ruling s₁ = (some (.recover early), s') →
      Check.Ends E service cs χ s (.denied k early none, s')
  | panicked {k : Check} {χ₁ : Locals W} {s₁ s' : Store W} {trial : Trial W} :
      Checklist.Reaches (Check.step E service) cs χ s k χ₁ s₁ →
      k.trial E service χ₁ = some trial → trial.ruling s₁ = (none, s') →
      Check.Ends E service cs χ s (.panicked k, s')

private theorem Check.Ends.later {ended : Ending W × Store W}
    (passed : k.run E service χ s = ⟨.pass χ', s', t⟩)
    (rest : Check.Ends E service cs χ' s' ended) : Check.Ends E service (k :: cs) χ s ended := by
  cases rest with
  | forward ran => exact .forward (by rw [Checklist.run_cons, Prog.bind_pass passed, ran]; rfl)
  | denied reached applies ruled => exact .denied (reached.later passed) applies ruled
  | recovered reached applies ruled => exact .recovered (reached.later passed) applies ruled
  | panicked reached applies ruled => exact .panicked (reached.later passed) applies ruled

variable (E service) in
theorem ending_ends (cs : List Check) (χ : Locals W) (s : Store W) :
    Check.Ends E service cs χ s (Check.ending E service cs χ s) := by
  induction cs generalizing χ s with
  | nil => exact .forward rfl
  | cons k cs ih =>
    simp only [Check.ending]
    cases applies : k.trial E service χ with
    | none => exact .later (run_pass_iff.mpr (.inl ⟨applies, rfl, rfl, rfl⟩)) (ih χ s)
    | some trial =>
      dsimp only
      rcases ruled : trial.ruling s with ⟨_ | ruling, s'⟩
      · exact .panicked .here applies ruled
      · cases ruling with
        | pass next =>
          exact .later (run_pass_iff.mpr (.inr ⟨trial, _, applies, ruled, rfl, rfl⟩)) (ih next s')
        | flag next =>
          exact .later (run_pass_iff.mpr (.inr ⟨trial, _, applies, ruled, rfl, rfl⟩)) (ih next s')
        | deny early payload => exact .denied .here applies ruled
        | recover early => exact .recovered .here applies ruled

/-- A list whose collaborators leave the counters alone ends with the counters it had. -/
theorem ending_limits
    (keeps : ∀ k ∈ cs, ∀ χ trial, k.trial E service χ = some trial → KeepsLimits trial.ruling) :
    (Check.ending E service cs χ s).2.limits = s.limits := by
  induction cs generalizing χ s with
  | nil => rfl
  | cons k cs ih =>
    have rest := fun χ s => @ih χ s fun j member => keeps j (List.mem_cons_of_mem k member)
    simp only [Check.ending]
    cases applies : k.trial E service χ with
    | none => exact rest χ s
    | some trial =>
      have here := keeps k List.mem_cons_self χ trial applies s
      dsimp only
      rcases ruled : trial.ruling s with ⟨_ | ruling, s'⟩ <;> rw [ruled] at here
      · exact here
      · cases ruling with
        | pass next => exact (rest next s').trans here
        | flag next => exact (rest next s').trans here
        | deny early payload => exact here
        | recover early => exact here

end TowerGuard
