import TowerGuard.Answers

/-!
# Arriving at a check

What the locals are where a request arrives: every local has one check that writes it, so
that it is the request's own ahead of that check and what the check left behind it.
-/

namespace TowerGuard

open Text Traced

variable {W : World} {E : Engine W} {service : GuardService W} {request : Request W}
  {k j : Check} {cs : List Check} {χ χ' : Locals W} {s s' : Store W} {t : List (Event W)}

/-! ### Places in the pipeline -/

/-- Where the pipeline is cut at `k`, the cut gives the place of `k`. -/
theorem Check.position_of_split {front back : List Check}
    (split : Check.pipeline = front ++ k :: back) : k.position = front.length := by
  have nodup := Check.pipeline_nodup
  unfold Check.position
  rw [split] at nodup ⊢
  -- The pipeline names `k` once, so that the cut is at its first occurrence.
  have absent : k ∉ front := fun member =>
    (List.nodup_append.mp nodup).2.2 k member k List.mem_cons_self rfl
  rw [List.idxOf_append, if_neg absent, List.idxOf_cons_self, Nat.zero_add]

/-- The checks ahead of the cut are those of an earlier place. -/
theorem Check.position_lt_iff {front back : List Check}
    (split : Check.pipeline = front ++ k :: back) : j.position < k.position ↔ j ∈ front := by
  rw [Check.position_of_split split]
  unfold Check.position
  rw [split, List.idxOf_append]
  -- The place of a member of the front is a place in the front, and of any other not.
  by_cases member : j ∈ front
  · have place : front.idxOf j < front.length := List.idxOf_lt_length_of_mem member
    rw [if_pos member]
    exact iff_of_true place member
  · rw [if_neg member]
    refine iff_of_false ?_ member
    omega

theorem Check.position_le_iff {front back : List Check}
    (split : Check.pipeline = front ++ k :: back) :
    j.position ≤ k.position ↔ j ∈ front ∨ j = k := by
  rw [Nat.le_iff_lt_or_eq, Check.position_lt_iff split]
  have injective : j.position = k.position ↔ j = k := by
    constructor
    · intro same
      rw [← List.getElem_idxOf (List.idxOf_lt_length_of_mem (Check.mem_pipeline j)),
        ← List.getElem_idxOf (List.idxOf_lt_length_of_mem (Check.mem_pipeline k))]
      congr 1
    · intro same
      rw [same]
  rw [injective]

variable (E service request s) in
/-- The request arrives at check `k`, with these locals and in this state. -/
abbrev Check.Arrives (k : Check) (χ : Locals W) (s' : Store W) : Prop :=
  Checklist.Reaches (Check.step E service) Check.pipeline (.start request) s k χ s'

variable (E service request s) in
/-- Whoever passes the front of the pipeline arrives behind it. -/
theorem Check.arrives_of_passes {front back : List Check}
    (split : Check.pipeline = front ++ k :: back)
    (passes : (Checklist.run (Check.step E service) front (.start request) s).flow.passes = true) :
    ∃ χ, k.Arrives E service request s χ
      (Checklist.run (Check.step E service) front (.start request) s).state := by
  rcases passed : Checklist.run (Check.step E service) front (.start request) s with
    ⟨χ | early | _, s', t⟩ <;> rw [passed] at passes
  · exact ⟨χ, front, back, t, split, passed⟩
  · cases passes
  · cases passes

/-- A call asks what the checks it arrives at ask, and nothing else. -/
theorem call_asks_iff {event : Event W} (own : event.consult.check = some k) :
    event ∈ (service.call E request s).trace ↔
      ∃ χ s' trial, k.Arrives E service request s χ s' ∧ k.trial E service χ = some trial ∧
        event = ⟨trial.question, .ofRuling (trial.ruling s').1⟩ := by
  rw [call_question_iff own]
  constructor
  · intro member
    obtain ⟨j, χ, s', arrives, here⟩ := Checklist.exists_reaches_of_mem_trace member
    -- What a reached check observes is its own question or the block hook, which is no check's.
    rcases run_event here with ⟨trial, applies, rfl⟩ | aside
    · obtain rfl : j = k := Option.some.inj ((trial_question applies).symm.trans own)
      exact ⟨χ, s', trial, arrives, applies, rfl⟩
    · rw [aside.1] at own
      cases own
  · rintro ⟨χ, s', trial, arrives, applies, rfl⟩
    obtain ⟨rest, trace, -⟩ := run_trace (s := s') applies
    exact arrives.trace_subset (by rw [Check.step, trace]; exact List.mem_cons_self)

/-- Where a request arrives, the check's question is asked. -/
theorem Check.Arrives.asks (arrives : k.Arrives E service request s χ s') {trial : Trial W}
    (applies : k.trial E service χ = some trial) :
    ⟨trial.question, .ofRuling (trial.ruling s').1⟩ ∈ (service.call E request s).trace :=
  (call_asks_iff (trial_question applies)).mpr ⟨χ, s', trial, arrives, applies, rfl⟩

/-! ### One writer each -/

theorem run_frame (passed : k.run E service χ s = ⟨.pass χ', s', t⟩) : Frame k χ χ' := by
  rcases run_pass_iff.mp passed with ⟨-, rfl, -, -⟩ | ⟨trial, ruling, applies, ruled, passes, -⟩
  · exact .refl k χ'
  · exact trial_frame applies (congrArg Prod.fst ruled) passes

/-- What all locals of one request agree on. -/
structure Locals.Of (request : Request W) (χ : Locals W) : Prop where
  facts : χ.facts = .extract request.toParts
  body : χ.body = request.body
  carried : χ.parts.withoutDecision = request.toParts.withoutDecision

theorem Locals.Of.frame (held : χ.Of request) (frame : Frame k χ χ') : χ'.Of request :=
  ⟨frame.facts.trans held.facts, frame.body.trans held.body, frame.carried.trans held.carried⟩

theorem run_of (passed : Checklist.run (Check.step E service) cs (.start request) s =
    ⟨.pass χ, s', t⟩) : χ.Of request := by
  -- The invariant is what no check writes; its frame keeps it across every step.
  exact Checklist.run_invariant (I := fun χ _ => χ.Of request)
    (fun k _ χ s χ' s' t held here => held.frame (run_frame here)) ⟨rfl, rfl, rfl⟩ passed

theorem Check.Arrives.of (arrives : k.Arrives E service request s χ s') : χ.Of request := by
  obtain ⟨front, back, t, -, passed⟩ := arrives
  exact run_of passed

/-- What the checks ahead keep of the state when they pass holds where a request arrives. -/
theorem Check.Arrives.invariant {I : Store W → Prop}
    (arrives : k.Arrives E service request s χ s')
    (kept : ∀ j : Check, j.position < k.position → ∀ (χ χ' : Locals W) (trial : Trial W),
      j.trial E service χ = some trial → ∀ s s' ruling, trial.ruling s = (some ruling, s') →
      ruling.next? = some χ' → I s → I s')
    (start : I s) : I s' := by
  obtain ⟨front, back, t, split, passed⟩ := arrives
  refine Checklist.run_invariant (I := fun _ s => I s) ?_ start passed
  intro j member χ s χ' s' t held here
  have ahead := (Check.position_lt_iff split).mpr member
  rcases run_pass_iff.mp here with ⟨-, -, rfl, -⟩ | ⟨trial, ruling, applies, ruled, passes, -⟩
  · exact held
  · exact kept j ahead χ χ' trial applies s s' ruling ruled passes held

section Writer

variable {κ : Type} {f : Locals W → κ}
  (only : ∀ k, k ≠ j → ∀ χ χ' : Locals W, Frame k χ χ' → f χ' = f χ)

include only

/-- Behind its writer a local is as the writer left it. -/
theorem Check.Arrives.written (arrives : k.Arrives E service request s χ s')
    (behind : j.position < k.position) :
    ∃ χ₀ s₀ χ₁ s₁ t₁, j.Arrives E service request s χ₀ s₀ ∧ f χ₀ = f (.start request) ∧
      j.run E service χ₀ s₀ = ⟨.pass χ₁, s₁, t₁⟩ ∧ f χ = f χ₁ := by
  obtain ⟨front, back, t, split, passed⟩ := arrives
  have nodup := Check.pipeline_nodup
  rw [split] at nodup
  have member : j ∈ front := (Check.position_lt_iff split).mp behind
  obtain ⟨first, rest, χ₀, s₀, t₀, χ₁, s₁, t₁, rfl, before, start, here, after⟩ :=
    Checklist.run_written (j := j)
      (fun k other χ s χ' s' t here => only k other χ χ' (run_frame here))
      (List.nodup_append.mp nodup).1 member passed
  exact ⟨χ₀, s₀, χ₁, s₁, t₁, ⟨first, rest ++ k :: back, t₀, by simp [split], before⟩, start, here,
    after⟩

end Writer

/-! ### The locals one by one -/

/-- The route carrier of a request: the extension it brings along, or the installed
resolver's answer. -/
def GuardService.carrier (service : GuardService W) (request : Request W) (s : Store W) :
    Option (RouteConfig W) :=
  match request.extensions.routeConfig with
  | some route => some route
  | none => service.layer.routeConfigs.bind fun resolver =>
      (resolver request.method request.uri.path s.other).1.join

/-- The two checks ahead of the carrier ask no collaborator that has a state. -/
theorem Check.Arrives.state_of_early (arrives : k.Arrives E service request s χ s')
    (early : k.position ≤ Check.routeCarrier.position) : s' = s := by
  refine arrives.invariant (I := fun s' => s' = s) ?_ rfl
  intro j before χ χ' trial applies s₁ s₂ ruling ruled passes held
  have ahead := Nat.lt_of_lt_of_le before early
  have after : s₂ = (trial.ruling s₁).2 := (congrArg Prod.snd ruled).symm
  rw [after, ← held]
  -- Both of these arms answer from the request and the configuration alone.
  cases j with
  | excludePaths => cases applies; rfl
  | corsPreflight =>
    obtain ⟨processor, -, -, ⟨⟩⟩ := bind_guard_iff.mp applies
    rfl
  | _ => exact absurd ahead (by decide)

/-- The carrier check leaves the carrier as it is resolved on the store it finds. -/
theorem route_of_pass {χ' : Locals W} {t : List (Event W)} (held : χ.Of request)
    (start : χ.route = request.extensions.routeConfig)
    (passed : Check.routeCarrier.run E service χ s = ⟨.pass χ', s', t⟩) :
    χ'.route = service.carrier request s := by
  have attached : χ.parts.withoutDecision.extensions.routeConfig =
      request.withoutDecision.extensions.routeConfig :=
    congrArg (fun parts => parts.extensions.routeConfig) held.carried
  have facts := held.facts
  simp only [Parts.withoutDecision] at attached
  rw [GuardService.carrier]
  -- A carrier the request brings along was there from the start; otherwise the resolver answered.
  rcases run_pass_iff.mp passed with
    ⟨absent, rfl, -, -⟩ | ⟨trial, ruling, applies, ruled, passes, -⟩
  · simp only [Check.trial] at absent
    split at absent
    next route carried =>
      rw [start, ← attached, carried]
    next detached =>
      rw [start, ← attached, detached, Option.map_eq_none_iff.mp absent]
      rfl
  · simp only [Check.trial] at applies
    split at applies
    · cases applies
    next detached =>
      obtain ⟨resolver, installed, rfl⟩ := Option.map_eq_some_iff.mp applies
      rw [← attached, detached, installed]
      have answered := congrArg Prod.fst ruled
      simp only [Trial.compose_ruling, onOther_answer] at answered
      obtain ⟨answer, resolved, rfl⟩ := Option.map_eq_some_iff.mp answered
      cases passes
      rw [facts] at resolved
      simp only [RequestFacts.extract] at resolved
      simp [resolved]

/-- Behind the carrier check the route is the resolved carrier. -/
theorem Check.Arrives.route (arrives : k.Arrives E service request s χ s')
    (behind : Check.routeCarrier.position < k.position) :
    χ.route = service.carrier request s := by
  obtain ⟨χ₀, s₀, χ₁, s₁, t₁, early, start, here, same⟩ :=
    arrives.written (f := Locals.route) (fun k other χ χ' frame => frame.route other) behind
  obtain rfl : s₀ = s := early.state_of_early (Nat.le_refl _)
  rw [same, route_of_pass early.of start here]

/-- Behind the body check the buffer reads back as the client's data. -/
theorem Check.Arrives.buffered (arrives : k.Arrives E service request s χ s')
    (behind : Check.bodyBuffering.position < k.position) :
    χ.buffered.getD [] = request.body.content := by
  obtain ⟨χ₀, s₀, χ₁, s₁, t₁, early, -, here, same⟩ :=
    arrives.written (f := Locals.buffered) (fun k other χ χ' frame => frame.buffered other) behind
  rw [same]
  -- The check always applies, and it passes only with the body read to its end.
  rcases run_pass_iff.mp here with ⟨absent, -⟩ | ⟨trial, ruling, applies, ruled, passes, -⟩
  · cases absent
  · simp only [Check.trial, Option.some.injEq] at applies
    split at applies
    next buffered unread read =>
      subst applies
      cases ruled
      cases passes
      rw [← early.of.body]
      exact (bufferBody_ok read).1
    · subst applies; cases ruled; cases passes
    · subst applies; cases ruled; cases passes

section Forwarded

variable {final : Locals W}
  (forwarded : Check.ending E service Check.pipeline (.start request) s = (.forward final, s'))

include forwarded

/-- A forwarded request arrived at every check, -/
theorem Check.arrives_of_forward (k : Check) : ∃ χ s₁, k.Arrives E service request s χ s₁ := by
  obtain ⟨t, passed⟩ := ending_forward_iff.mp forwarded
  obtain ⟨χ, s₁, -, -, -, arrives, -⟩ := Checklist.Reaches.of_pass passed (Check.mem_pipeline k)
  exact ⟨χ, s₁, arrives⟩

/-- and every question it was put passed. -/
theorem Check.Arrives.ruling_of_forward {χ : Locals W} {s₁ : Store W} {trial : Trial W}
    (arrives : k.Arrives E service request s χ s₁) (applies : k.trial E service χ = some trial) :
    ∃ ruling s₂ next, trial.ruling s₁ = (some ruling, s₂) ∧ ruling.next? = some next := by
  obtain ⟨t, passed⟩ := ending_forward_iff.mp forwarded
  have passes := (Checklist.passes_iff.mp (by rw [passed]; rfl)) k χ s₁ arrives
  rcases ruled : trial.ruling s₁ with ⟨_ | ruling, s₂⟩
  · rw [Check.step, run_of_panicked applies ruled] at passes
    cases passes
  · cases onward : ruling.next? with
    | some next => exact ⟨ruling, s₂, next, rfl, onward⟩
    | none =>
      rw [Check.step, run_of_ruled applies ruled, Run.after_flow,
        proceed_not_pass E service _ onward] at passes
      cases passes

end Forwarded

/-- A forward comes from the last check, which changes none of the locals. -/
theorem Check.Arrives.of_forward {final : Locals W}
    (forwarded : Check.ending E service Check.pipeline (.start request) s = (.forward final, s')) :
    ∃ χ s₁, Check.customRequest.Arrives E service request s χ s₁ ∧
      Frame .customRequest χ final := by
  obtain ⟨t, passed⟩ := ending_forward_iff.mp forwarded
  have split : Check.pipeline = Check.pipeline.dropLast ++ [.customRequest] := by decide
  -- The run is cut ahead of its last check, which it therefore arrives at and passes.
  rw [split, Checklist.run_append] at passed
  obtain ⟨χ, s₁, t₁, _, before, last, -⟩ := Prog.bind_pass_iff.mp passed
  obtain ⟨χ', s₂, t₂, _, here, nothing, -⟩ := Prog.bind_pass_iff.mp last
  obtain ⟨rfl, -, -⟩ := Prog.pure_pass_iff.mp nothing
  exact ⟨χ, s₁, ⟨_, [], t₁, split, before⟩, run_frame here⟩

end TowerGuard
