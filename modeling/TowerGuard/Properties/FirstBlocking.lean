import TowerGuard.Arrival

/-!
# The first blocking check wins

`GuardService::call` answers with the first check of the ordered list that denies, and puts
no question of a later one. The body is read behind the transport checks only, and an answer
ahead of the rate-limit tiers leaves the counters of the engine stage as they were.
-/

namespace TowerGuard

open Text Traced

variable {W : World}

/-- The checks the body is read behind. -/
def Check.beforeBody : List Check := pipeline.takeWhile (· ≠ .bodyBuffering)

/-- The checks ahead of the rate-limit tiers. -/
def Check.beforeTiers : List Check := pipeline.takeWhile (· ≠ .rateLimit)

/-- An ending has come as far as check `k`. -/
def Check.Ending.cameTo : Check.Ending W → Check → Prop
  | .forward _, _ => True
  | .denied j _ _, k | .panicked j, k => k.position ≤ j.position

/-! ### How far a run comes -/

/-- A consulted check is one the ending has come to. -/
private theorem cameTo_of_consulted {ended : Check.Ending W} {seen : List Check} {k : Check}
    (came : ended.consulted Check.pipeline seen) (member : k ∈ seen) : ended.cameTo k := by
  cases ended with
  | forward final => trivial
  | denied j early payload =>
    obtain ⟨pre, post, split, rfl⟩ := came
    exact (Check.position_le_iff split).mpr (by simpa using member)
  | panicked j =>
    obtain ⟨pre, post, split, rfl⟩ := came
    exact (Check.position_le_iff split).mpr (by simpa using member)

section Segments

variable {E : Engine W} {service : GuardService W} {χ : Locals W} {s : Store W}
  {front back : List Check} {k : Check}

/-- Where an ending has come to `k`, everything ahead of `k` passed. -/
private theorem front_passed (split : Check.pipeline = front ++ k :: back)
    (came : (Check.ending E service Check.pipeline χ s).1.cameTo k) :
    ∃ χ' s', Check.ending E service front χ s = (.forward χ', s') := by
  -- An ending ahead of `k` would have come to an earlier place than `k`.
  have late : ∀ j ∈ front, ¬k.position ≤ j.position := fun j member =>
    Nat.not_le_of_lt ((Check.position_lt_iff split).mpr member)
  obtain ⟨-, seen, -, consulted, -⟩ :=
    checklist_ending E service front χ s
  rw [split, ending_append] at came
  rcases ended : Check.ending E service front χ s with ⟨final | ⟨j, early, payload⟩ | j, s'⟩
  · exact ⟨final, s', rfl⟩
  · rw [ended] at came consulted
    obtain ⟨pre, post, rfl, -⟩ := consulted
    exact absurd came (late j (by simp))
  · rw [ended] at came consulted
    obtain ⟨pre, post, rfl, -⟩ := consulted
    exact absurd came (late j (by simp))

end Segments

/-! ### Counters -/

section Counters

variable {E : Engine W} {service : GuardService W} {χ χ' : Locals W} {s s' : Store W}
  {k : Check} {early : Early W} {payload : Option BlockPayload}

/-- The ban arm and the user-agent stage leave the counters alone. -/
structure GuardService.LooksOnly (service : GuardService W) : Prop where
  bans : ∀ ip observation, KeepsLimits (service.stage.decideBansObserved ip observation)
  userAgent : ∀ stage, service.layer.userAgent = some stage → ∀ ip gate path userAgent finding,
    KeepsLimits (stage.decide ip gate path userAgent finding)

/-- Then no check ahead of the tiers touches them. -/
theorem GuardService.LooksOnly.trial_keeps (h : service.LooksOnly) {trial : Trial W}
    (applies : k.trial E service χ = some trial) (ahead : k ≠ .rateLimit) :
    KeepsLimits trial.ruling := by
  cases counts : k.counting with
  | false => exact trial_keepsLimits applies counts
  | true =>
    -- Of the three checks that run against the counters, two are known to look only.
    cases k with
    | bans =>
      obtain ⟨-, ⟨⟩⟩ := Option.ite_none_left_eq_some.mp applies
      exact h.bans _ _
    | userAgent =>
      obtain ⟨stage, installed, rfl⟩ := Option.map_eq_some_iff.mp applies
      exact h.userAgent stage installed _ _ _ _ _
    | rateLimit => exact absurd rfl ahead
    | _ => cases counts

/-- A denial ahead of the tiers was reached without the tiers. -/
theorem GuardService.LooksOnly.ending_limits_of_denied (h : service.LooksOnly)
    (denied : Check.ending E service Check.pipeline χ s = (.denied k early payload, s'))
    (ahead : k.position < Check.rateLimit.position) : s'.limits = s.limits := by
  -- The list is cut at the tiers; no check of the front touches the counters.
  have split : Check.pipeline =
      Check.beforeTiers ++ Check.rateLimit :: [.detection, .customRequest] := by
    decide
  have kept : (Check.ending E service Check.beforeTiers χ s).2.limits = s.limits :=
    ending_limits fun j member χ trial applies => h.trial_keeps applies fun tiers => by
      subst tiers
      revert member
      decide
  rw [split, ending_append] at denied
  rcases front : Check.ending E service Check.beforeTiers χ s with ⟨final | _ | _, s₁⟩ <;>
    rw [front] at denied kept
  · -- Everything ahead of the tiers passed, so that the denial is the tiers' or a later one.
    have behind : k ∈ [Check.rateLimit, .detection, .customRequest] := by
      have ends := ending_ends E service
        [Check.rateLimit, .detection, .customRequest] final s₁
      dsimp only at denied
      rw [denied] at ends
      cases ends with
      | denied reached _ _ => exact reached.mem
      | recovered reached _ _ => exact reached.mem
    simp only [List.mem_cons, List.not_mem_nil, or_false] at behind
    rcases behind with rfl | rfl | rfl <;> exact absurd ahead (by decide)
  · cases denied
    exact kept
  · cases denied

end Counters

/-- Answering leaves the counters alone; a forward leaves them to the wrapped service. -/
theorem answerTo_limits {E : Engine W} {service : GuardService W} {facts : RequestFacts}
    {k : Check} {early : Early W} {payload : Option BlockPayload} {s : Store W}
    (excluded : ∀ parts, early = .excluded parts →
      KeepsLimits (service.inner.call (service.inner.rebuild parts none))) :
    (service.answerTo E facts (.denied k early payload, s)).state.limits = s.limits := by
  -- The block hook first, then the forward past the pipeline or the rendering.
  refine Prog.Keeps.bind (f := Store.limits) (fireBlock_keeps E service.layer) (fun _ => ?_) s
  cases early with
  | excluded parts =>
    intro s
    exact (forward_keeps E service.layer facts parts none service.inner s (.limits _) trivial).trans
      (excluded parts rfl s)
  | answered parts answer =>
    exact .bind (render_keeps E service.layer (.limits _) trivial) fun _ => .pure

/-! ### The simulation -/

/-- `GuardService::call` is the first denial of the ordered list. -/
theorem call_first_blocking_check (E : Engine W) (service : GuardService W)
    (request : Request W) (s : Store W) :
    let ended := Check.ending E service Check.pipeline (.start request) s
    let run := service.call E request s
    -- The answer is that of the first check that denies, or the forward;
    (∃ questions, run = (service.answerTo E (.extract request.toParts) ended).after questions) ∧
    -- no check behind it is consulted;
    (∀ event ∈ run.trace, ∀ k, event.consult.check = some k → ended.1.cameTo k) ∧
    -- the body is polled only when everything up to HTTPS passed;
    ((∃ event ∈ run.trace, event.consult.check = some .bodyBuffering) →
      ∃ χ' s', Check.ending E service Check.beforeBody (.start request) s =
        (.forward χ', s')) ∧
    -- and a denial ahead of the tiers leaves windows and counters alone. On an excluded path
    -- the wrapped service runs, with whatever it does to them.
    (service.LooksOnly → ∀ k early payload s', ended = (.denied k early payload, s') →
      k.position < Check.rateLimit.position →
      s'.limits = s.limits ∧
      ((∀ parts, early = .excluded parts →
          KeepsLimits (service.inner.call (service.inner.rebuild parts none))) →
        run.state.limits = s.limits)) := by
  intro ended run
  obtain ⟨t, seen, answered, -, came, questions⟩ := call_ending E service request s
  have consulted : ∀ event ∈ run.trace, ∀ k, event.consult.check = some k →
      ended.1.cameTo k := by
    intro event member k own
    change event ∈ (service.call E request s).trace at member
    rw [answered, Run.after_trace] at member
    -- A question of a check is one of the list's; the answer asks none.
    rcases List.mem_append.mp member with before | after
    · obtain ⟨j, seen_j, question⟩ := questions event before
      obtain rfl := Option.some.inj (own.symm.trans question)
      exact cameTo_of_consulted came seen_j
    · rw [answerTo_event _ after] at own
      cases own
  refine ⟨⟨t, answered⟩, consulted, ?_, ?_⟩
  · rintro ⟨event, member, own⟩
    -- The body is the twelfth place, and it was consulted.
    exact front_passed (by decide : _ = _ ++ _ :: Check.pipeline.drop 12)
      (consulted event member _ own)
  · intro looksOnly k early payload s' denied ahead
    have kept : s'.limits = s.limits := looksOnly.ending_limits_of_denied denied ahead
    refine ⟨kept, fun excluded => ?_⟩
    change (service.call E request s).state.limits = s.limits
    rw [answered, Run.after_state, ← kept]
    change (service.answerTo E _ ended).state.limits = s'.limits
    rw [denied]
    exact answerTo_limits excluded

end TowerGuard
