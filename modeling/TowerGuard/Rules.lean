import TowerGuard.Refinement

/-!
# What a check can do

`trial_shape` goes through the checks once and says of each what its question is, whose
state it touches and what a pass changes in the locals. Everything the properties need of
the pipeline follows from it: a check asks its own question, changes its own local, and
leaves the counters alone unless it is one of the three that run against them.
-/

namespace TowerGuard

open Text Traced

variable {W : World}

/-- The parts without the gate's decision, the one extension the guard writes. -/
def Parts.withoutDecision (parts : Parts W) : Parts W :=
  { parts with extensions := { parts.extensions with gateDecision := none } }

/-- What a pass of check `k` leaves unchanged. -/
structure Frame (k : Check) (χ χ' : Locals W) : Prop where
  facts : χ'.facts = χ.facts
  body : χ'.body = χ.body
  carried : χ'.parts.withoutDecision = χ.parts.withoutDecision
  parts : k ≠ .ipGate → χ'.parts = χ.parts
  route : k ≠ .routeCarrier → χ'.route = χ.route
  skipGlobalIpLists : k ≠ .routeIpLists → χ'.skipGlobalIpLists = χ.skipGlobalIpLists
  skipGlobalCountries : k ≠ .routeCountries → χ'.skipGlobalCountries = χ.skipGlobalCountries
  buffered : k ≠ .bodyBuffering → χ'.buffered = χ.buffered
  verdict : k ≠ .scan → χ'.verdict = χ.verdict

theorem Frame.refl (k : Check) (χ : Locals W) : Frame k χ χ :=
  ⟨rfl, rfl, rfl, fun _ => rfl, fun _ => rfl, fun _ => rfl, fun _ => rfl, fun _ => rfl,
    fun _ => rfl⟩

/-- The checks whose collaborators run against the counters of the engine stage. -/
def Check.counting : Check → Bool
  | .bans | .userAgent | .rateLimit => true
  | _ => false

/-- A call that leaves the counters of the engine stage as they are. -/
def KeepsLimits {α : Type} (call : Call (Store W) α) : Prop := ∀ s, (call s).2.limits = s.limits

/-- What a denial of check `k` returns: an answer, or for an excluded path the forward past
the pipeline, with the parts as they are. -/
inductive Early.Of (k : Check) (χ : Locals W) : Early W → Prop
  | answered (answer : Answer) : Early.Of k χ (.answered χ.parts answer)
  | excluded : k = .excludePaths → Early.Of k χ (.excluded χ.parts)

/-- The forms a check's question takes. -/
inductive Shape (k : Check) (χ : Locals W) : Trial W → Prop
  | screen {α : Type} {next : Locals W} {question : Consult W}
      {decision : Call (Store W) (Option α)} {early : α → Early W} :
      question.check = some k → Frame k χ next →
      (k.counting = false → KeepsLimits decision) → (∀ denial, (early denial).Of k χ) →
      Shape k χ (.screen next question decision early)
  | compose {α : Type} {question : Consult W} {call : Call W.Other α} {next : α → Locals W} :
      question.check = some k → (∀ answer, Frame k χ (next answer)) →
      Shape k χ (.compose question call next)
  | settled {question : Consult W} {ruling : Ruling W} :
      question.check = some k →
      ((∃ next, ruling = .pass next ∧ Frame k χ next) ∨
        ∃ answer payload, ruling = .deny (.answered χ.parts answer) payload) →
      Shape k χ (.settled question ruling)
  | scan {trial : Trial W} : k = .scan → trial.question.check = some .scan →
      KeepsLimits trial.ruling →
      (∀ s ruling next, (trial.ruling s).1 = some ruling → ruling.next? = some next →
        Frame .scan χ next) →
      (∀ s ruling, (trial.ruling s).1 = some ruling → ruling.next? = none →
        ruling = .recover (.answered χ.parts .failure)) →
      Shape k χ trial

private theorem Shape.refused {k : Check} {χ : Locals W} {question : Consult W}
    {answer : Answer} {payload : Option BlockPayload} (own : question.check = some k) :
    Shape k χ (.settled question (.deny (.answered χ.parts answer) payload)) :=
  .settled own (.inr ⟨answer, payload, rfl⟩)

private theorem Shape.other {k : Check} {χ : Locals W} {α : Type} {question : Consult W}
    {call : Call W.Other (Option α)} {early : α → Early W} (own : question.check = some k)
    (denies : ∀ denial, (early denial).Of k χ) :
    Shape k χ (.screen χ question (onOther call) early) :=
  .screen own (.refl k χ) (fun _ s => onOther_limits call s) denies

private theorem Shape.returning {k : Check} {χ : Locals W} {α : Type} {question : Consult W}
    {answer : Option α} {early : α → Early W} (own : question.check = some k)
    (denies : ∀ denial, (early denial).Of k χ) :
    Shape k χ (.screen χ question (Call.returning answer) early) :=
  .screen own (.refl k χ) (fun _ _ => rfl) denies

variable {E : Engine W} {service : GuardService W} {k : Check} {χ χ' : Locals W}
  {trial : Trial W} {s s' : Store W} {ruling : Ruling W}

theorem trial_shape (h : k.trial E service χ = some trial) : Shape k χ trial := by
  -- One case for each check, in the order of the pipeline. The checks that write a local say which.
  cases k with
  | excludePaths => cases h; exact .returning rfl fun _ => .excluded rfl
  | corsPreflight =>
    obtain ⟨processor, -, -, ⟨⟩⟩ := bind_guard_iff.mp h
    exact .screen rfl (.refl _ χ) (fun _ _ => rfl) fun _ => .answered _
  | routeCarrier =>
    simp only [Check.trial] at h
    split at h
    · cases h
    · obtain ⟨resolver, -, rfl⟩ := Option.map_eq_some_iff.mp h
      exact .compose rfl fun answer => { Frame.refl .routeCarrier χ with
        route := fun changed => absurd rfl changed }
  | usageRules =>
    obtain ⟨processor, -, -, ⟨⟩⟩ := bind_guard_iff.mp h
    exact .screen rfl (.refl _ χ) (fun _ _ => rfl) fun _ => .answered _
  | routeIpLists =>
    obtain ⟨carrier, -, -, h⟩ := bind_guard_iff.mp h
    split at h
    · cases h
      exact .screen rfl { Frame.refl .routeIpLists χ with
        skipGlobalIpLists := fun changed => absurd rfl changed } (fun _ _ => rfl)
        fun _ => .answered _
    · cases h
      exact .refused rfl
  | routeCountries =>
    simp only [Check.trial, Option.bind_eq_bind, Option.bind_eq_some_iff,
      Option.ite_none_right_eq_some] at h
    obtain ⟨carrier, -, ip, -, handler, -, -, ⟨⟩⟩ := h
    exact .screen rfl { Frame.refl .routeCountries χ with
      skipGlobalCountries := fun changed => absurd rfl changed } (fun _ _ => rfl)
      fun _ => .answered _
  | ipGate =>
    simp only [Check.trial, Option.bind_eq_bind, Option.bind_eq_some_iff,
      Option.ite_none_right_eq_some] at h
    obtain ⟨gate, -, ip, -, -, ⟨⟩⟩ := h
    refine .settled rfl ?_
    split
    · exact .inl ⟨_, rfl, { Frame.refl .ipGate χ with
        carried := rfl
        parts := fun changed => absurd rfl changed }⟩
    · split
      · exact .inl ⟨χ, rfl, .refl _ χ⟩
      · exact .inr ⟨_, _, rfl⟩
  | emergencyMode =>
    obtain ⟨stage, -, rfl⟩ := Option.map_eq_some_iff.mp h
    exact .other rfl fun _ => .answered _
  | httpsEnforcement =>
    simp only [Check.trial] at h
    split at h
    · cases h; exact .other rfl fun _ => .answered _
    · cases h; exact .other rfl fun _ => .answered _
    · obtain ⟨-, ⟨⟩⟩ := Option.ite_none_right_eq_some.mp h
      exact .returning rfl fun _ => .answered _
    · cases h
  | requestLogging =>
    obtain ⟨stage, -, rfl⟩ := Option.map_eq_some_iff.mp h
    exact .compose rfl fun _ => .refl _ χ
  | countryLog =>
    simp only [Check.trial, Option.bind_eq_bind, Option.bind_eq_some_iff] at h
    obtain ⟨observability, -, stage, -, ⟨⟩⟩ := h
    exact .compose rfl fun _ => .refl _ χ
  | bodyBuffering =>
    simp only [Check.trial, Option.some.injEq] at h
    split at h
    · subst h
      exact .settled rfl (.inl ⟨_, rfl, { Frame.refl .bodyBuffering χ with
        buffered := fun changed => absurd rfl changed }⟩)
    · subst h; exact .refused rfl
    · subst h; exact .refused rfl
  | routeHeadersAuth =>
    obtain ⟨carrier, -, -, ⟨⟩⟩ := bind_guard_iff.mp h
    exact .other rfl fun _ => .answered _
  | headersAuth =>
    obtain ⟨stage, -, rfl⟩ := Option.map_eq_some_iff.mp h
    exact .other rfl (by rintro ⟨name, answer⟩; exact .answered _)
  | routeReferrer =>
    obtain ⟨domains, -, rfl⟩ := Option.map_eq_some_iff.mp h
    exact .returning rfl fun _ => .answered _
  | referrerGate =>
    obtain ⟨stage, -, rfl⟩ := Option.map_eq_some_iff.mp h
    exact .other rfl fun _ => .answered _
  | routeValidators =>
    simp only [Check.trial, Option.ite_none_left_eq_some] at h
    obtain ⟨-, ⟨⟩⟩ := h
    exact .screen rfl (.refl _ χ) (fun _ _ => rfl) fun _ => .answered _
  | customValidators =>
    obtain ⟨stage, -, rfl⟩ := Option.map_eq_some_iff.mp h
    exact .other rfl fun _ => .answered _
  | routeTimeWindow =>
    obtain ⟨restrictions, -, rfl⟩ := Option.map_eq_some_iff.mp h
    exact .screen rfl (.refl _ χ) (fun _ _ => rfl) fun _ => .answered _
  | timeWindowGate =>
    obtain ⟨stage, -, rfl⟩ := Option.map_eq_some_iff.mp h
    exact .other rfl fun _ => .answered _
  | scan =>
    simp only [Check.trial, Option.ite_none_left_eq_some] at h
    obtain ⟨-, ⟨⟩⟩ := h
    -- The scan rules by hand: a threat flags, a clean scan passes, a panic is recovered.
    refine .scan rfl rfl (fun s => ?_) (fun s ruling next ruled passes => ?_)
      fun s ruling ruled denies => ?_
    · dsimp only
      split
      next verdict s' ran => split <;> exact (congrArg (·.2.limits) ran).symm.trans rfl
      next s' ran => exact (congrArg (·.2.limits) ran).symm.trans rfl
    · dsimp only at ruled
      split at ruled
      · split at ruled
        · cases ruled; cases passes
          exact { Frame.refl .scan χ with verdict := fun changed => absurd rfl changed }
        · cases ruled; cases passes; exact .refl _ χ
      · cases ruled; cases passes
    · dsimp only at ruled
      split at ruled
      · split at ruled <;> cases ruled <;> cases denies
      · cases ruled; rfl
  | bans =>
    obtain ⟨-, ⟨⟩⟩ := Option.ite_none_left_eq_some.mp h
    exact .screen rfl (.refl _ χ) (by intro counts; cases counts) fun _ => .answered _
  | geo =>
    obtain ⟨stage, -, -, ⟨⟩⟩ := bind_guard_iff.mp h
    exact .other rfl fun _ => .answered _
  | cloud =>
    obtain ⟨-, h⟩ := Option.ite_none_left_eq_some.mp h
    split at h
    · split at h
      · cases h; exact .other rfl fun _ => .answered _
      · cases h
      · cases h; exact .refused rfl
    · obtain ⟨stage, -, rfl⟩ := Option.map_eq_some_iff.mp h
      exact .other rfl fun _ => .answered _
  | routeUserAgents =>
    obtain ⟨patterns, -, rfl⟩ := Option.map_eq_some_iff.mp h
    exact .returning rfl fun _ => .answered _
  | userAgent =>
    obtain ⟨stage, -, rfl⟩ := Option.map_eq_some_iff.mp h
    exact .screen rfl (.refl _ χ) (by intro counts; cases counts) fun _ => .answered _
  | rateLimit =>
    simp only [Check.trial] at h
    split at h
    · cases h; exact .refused rfl
    · obtain ⟨-, ⟨⟩⟩ := Option.ite_none_left_eq_some.mp h
      exact .screen rfl (.refl _ χ) (by intro counts; cases counts) fun _ => .answered _
  | detection =>
    obtain ⟨verdict, -, rfl⟩ := Option.map_eq_some_iff.mp h
    refine .settled rfl ?_
    split
    · exact .inl ⟨χ, rfl, .refl _ χ⟩
    · exact .inr ⟨_, _, rfl⟩
  | customRequest =>
    obtain ⟨stage, -, rfl⟩ := Option.map_eq_some_iff.mp h
    exact .other rfl fun _ => .answered _

/-! ### Consequences of the shape -/

theorem trial_question (h : k.trial E service χ = some trial) :
    trial.question.check = some k := by
  cases trial_shape h with
  | screen own _ _ _ => exact own
  | compose own _ => exact own
  | settled own _ => exact own
  | scan is_scan own _ _ _ => rw [is_scan]; exact own

theorem trial_keepsLimits (h : k.trial E service χ = some trial) (aside : k.counting = false) :
    KeepsLimits trial.ruling := by
  cases trial_shape h with
  | screen _ _ keeps _ => exact keeps aside
  | compose _ _ => exact fun s => rfl
  | settled _ _ => exact fun s => rfl
  | scan _ _ keeps _ _ => exact keeps

theorem trial_frame (h : k.trial E service χ = some trial)
    (ruled : (trial.ruling s).1 = some ruling) (passes : ruling.next? = some χ') :
    Frame k χ χ' := by
  cases trial_shape h with
  | screen _ frame _ _ =>
    -- A screen that denies does not pass, and one that passes goes on with its own next locals.
    obtain ⟨_ | denial, -, rfl⟩ := Option.map_eq_some_iff.mp ruled
    · cases passes; exact frame
    · cases passes
  | compose _ frame =>
    obtain ⟨answer, -, rfl⟩ := Option.map_eq_some_iff.mp ruled
    cases passes
    exact frame answer
  | settled _ rules =>
    cases ruled
    rcases rules with ⟨next, rfl, frame⟩ | ⟨_, _, rfl⟩
    · cases passes; exact frame
    · cases passes
  | scan is_scan _ _ frame _ => rw [is_scan]; exact frame s ruling χ' ruled passes

/-- A check that stops denies with one of its early returns, or is the scan recovered. -/
theorem trial_stops (h : k.trial E service χ = some trial)
    (ruled : (trial.ruling s).1 = some ruling) (stops : ruling.next? = none) :
    (∃ early payload, ruling = .deny early payload ∧ early.Of k χ) ∨
      k = .scan ∧ ruling = .recover (.answered χ.parts .failure) := by
  cases trial_shape h with
  | screen _ _ _ denies =>
    obtain ⟨_ | denial, -, rfl⟩ := Option.map_eq_some_iff.mp ruled
    · cases stops
    · exact .inl ⟨_, none, rfl, denies denial⟩
  | compose _ _ =>
    obtain ⟨answer, -, rfl⟩ := Option.map_eq_some_iff.mp ruled
    cases stops
  | settled _ rules =>
    cases ruled
    rcases rules with ⟨next, rfl, -⟩ | ⟨answer, payload, rfl⟩
    · cases stops
    · exact .inl ⟨_, payload, rfl, .answered answer⟩
  | scan is_scan _ _ _ denies => exact .inr ⟨is_scan, denies s ruling ruled stops⟩

theorem trial_denies (h : k.trial E service χ = some trial) {early : Early W}
    {payload : Option BlockPayload} (ruled : trial.ruling s = (some (.deny early payload), s')) :
    early.Of k χ := by
  rcases trial_stops h (congrArg Prod.fst ruled) rfl with ⟨_, _, ⟨⟩, returns⟩ | ⟨-, ⟨⟩⟩
  exact returns

theorem trial_recovers (h : k.trial E service χ = some trial) {early : Early W}
    (ruled : trial.ruling s = (some (.recover early), s')) :
    k = .scan ∧ early = .answered χ.parts .failure := by
  rcases trial_stops h (congrArg Prod.fst ruled) rfl with ⟨_, _, ⟨⟩, -⟩ | ⟨scans, ⟨⟩⟩
  exact ⟨scans, rfl⟩

theorem run_of_absent (h : k.trial E service χ = none) : k.run E service χ = pure χ := by
  simp only [Check.run, h]

theorem run_of_ruled (h : k.trial E service χ = some trial)
    (ruled : trial.ruling s = (some ruling, s')) :
    k.run E service χ s = (Check.proceed E service ruling s').after
      [⟨trial.question, .ofRuling (some ruling)⟩] := by
  simp only [Check.run, h]
  exact Prog.bind_pass (Prog.ask_pass ruled)

theorem run_of_panicked (h : k.trial E service χ = some trial)
    (ruled : trial.ruling s = (none, s')) :
    k.run E service χ s = ⟨.unwound, s', [⟨trial.question, .panicked⟩]⟩ := by
  simp only [Check.run, h]
  exact Prog.bind_unwound (Prog.ask_unwound ruled)

theorem proceed_of_next (h : ruling.next? = some χ') :
    Check.proceed E service ruling s = ⟨.pass χ', s, []⟩ := by
  cases ruling <;> cases h <;> rfl

/-- The block hook returns or panics; either way the counters stay. -/
theorem fireBlock_cases (E : Engine W) (layer : GuardLayer W) (payload : Option BlockPayload)
    (s : Store W) : ∃ s' t, s'.limits = s.limits ∧
      ((∀ ε, fireBlock E layer payload s = (⟨.pass (), s', t⟩ : Run _ (Event W) ε _)) ∨
        (∀ ε, fireBlock E layer payload s = (⟨.unwound, s', t⟩ : Run _ (Event W) ε _))) := by
  cases payload with
  | none => exact ⟨s, [], rfl, .inl fun _ => rfl⟩
  | some payload =>
    -- The hook sees the other half of the store only.
    rcases fired : E.fireBlockHook layer.onBlock payload s.other with ⟨_ | _, o⟩
    · exact ⟨{ s with other := o }, _, rfl, .inr fun _ => notify_unwound fired⟩
    · exact ⟨{ s with other := o }, _, rfl, .inl fun _ => notify_pass fired⟩

variable (E service s) in
theorem proceed_not_pass (h : ruling.next? = none) :
    (Check.proceed E service ruling s).flow.passes = false := by
  cases ruling with
  | pass next => cases h
  | flag next => cases h
  | recover early => rfl
  | deny early payload =>
    simp only [Check.proceed]
    obtain ⟨s', t, -, fired | fired⟩ := fireBlock_cases E service.layer payload s
    · rw [Prog.bind_pass (fired _)]; rfl
    · rw [Prog.bind_unwound (fired _)]; rfl

/-- A check passes by not applying, or by a question that passes. -/
theorem run_pass_iff {t : List (Event W)} : k.run E service χ s = ⟨.pass χ', s', t⟩ ↔
    (k.trial E service χ = none ∧ χ' = χ ∧ s' = s ∧ t = []) ∨
    ∃ trial ruling, k.trial E service χ = some trial ∧ trial.ruling s = (some ruling, s') ∧
      ruling.next? = some χ' ∧ t = [⟨trial.question, .ofRuling (some ruling)⟩] := by
  constructor
  · intro h
    cases applies : k.trial E service χ with
    | none =>
      rw [run_of_absent applies] at h
      obtain ⟨rfl, rfl, rfl⟩ := Prog.pure_pass_iff.mp h
      exact .inl ⟨rfl, rfl, rfl, rfl⟩
    | some trial =>
      rcases ruled : trial.ruling s with ⟨_ | ruling, s₁⟩
      · rw [run_of_panicked applies ruled] at h
        cases h
      · rw [run_of_ruled applies ruled] at h
        cases passes : ruling.next? with
        | none =>
          -- A ruling without next locals leaves early or unwinds, so that it cannot have passed.
          have stops := proceed_not_pass E service s₁ passes
          rw [← Run.after_flow [⟨trial.question, .ofRuling (some ruling)⟩], h] at stops
          cases stops
        | some next =>
          rw [proceed_of_next passes] at h
          cases h
          exact .inr ⟨trial, ruling, rfl, ruled, passes, rfl⟩
  · rintro (⟨absent, rfl, rfl, rfl⟩ | ⟨trial, ruling, applies, ruled, passes, rfl⟩)
    · rw [run_of_absent absent]; rfl
    · rw [run_of_ruled applies ruled, proceed_of_next passes]; rfl

end TowerGuard
