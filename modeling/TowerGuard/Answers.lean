import TowerGuard.Pipeline

/-!
# From the list to the answer

`GuardService::call` is its ending: the questions of the checks the list came to, then the
answer of the check that stopped it, or the forward. What is handed to the wrapped service
can be read off the ending.
-/

namespace TowerGuard

open Text Traced

variable {W : World}

/-- What the guard makes of an ending: the answer of the check that denied, or the forward. -/
def GuardService.answerTo (E : Engine W) (service : GuardService W) (facts : RequestFacts) :
    Check.Ending W × Store W →
      Run (Store W) (Event W) Empty (Except W.InnerError (Response W))
  | (.forward final, s) =>
    forward E service.layer facts final.parts final.buffered service.inner s
  | (.denied _ early payload, s) =>
    (do fireBlock E service.layer payload; service.conclude E facts early : Prog _ _ _ _) s
  | (.panicked _, s) => ⟨.unwound, s, []⟩

/-- Everything the guard does on an ending is on the response side, but for a forward. -/
theorem answerTo_event {E : Engine W} {service : GuardService W} {facts : RequestFacts}
    (ended : Check.Ending W × Store W) {event : Event W}
    (h : event ∈ (service.answerTo E facts ended).trace) : event.consult.check = none := by
  have forwarded : ∀ parts buffered s, ∀ event ∈ (forward E service.layer facts parts buffered
      service.inner s : Run _ (Event W) Empty _).trace, event.consult.check = none := by
    intro parts buffered s event member
    obtain ⟨verdict, rest, trace, aside⟩ :=
      forward_trace (ε := Empty) E service.layer facts parts buffered service.inner s
    rw [trace] at member
    rcases List.mem_cons.mp member with rfl | later
    · rfl
    · exact (aside event later).1
  -- A denial fires the block hook and then forwards past the pipeline or renders.
  obtain ⟨_ | ⟨j, early, payload⟩ | _, s⟩ := ended
  · exact forwarded _ _ _ _ h
  · refine Prog.Emits.bind (P := fun event => event.consult.check = none)
      (fireBlock_emits E service.layer fun _ aside => aside.1) (fun _ => ?_) s event h
    cases early with
    | excluded parts => exact forwarded parts none
    | answered parts answer =>
      exact .bind (render_emits E service.layer fun _ aside => aside.1) fun _ => .pure
  · cases h

/-- The call is its ending, behind questions of the checks the ending has come to. -/
theorem call_ending (E : Engine W) (service : GuardService W) (request : Request W)
    (s : Store W) : ∃ t seen, service.call E request s =
        (service.answerTo E (.extract request.toParts)
          (Check.ending E service Check.pipeline (.start request) s)).after t ∧
      Check.runPipeline E service request s = (Check.finish E service
        (Check.ending E service Check.pipeline (.start request) s)).after t ∧
      (Check.ending E service Check.pipeline (.start request) s).1.consulted
        Check.pipeline seen ∧
      ∀ event ∈ t, ∃ k ∈ seen, event.consult.check = some k := by
  obtain ⟨t, seen, ran, came, questions⟩ :=
    checklist_ending E service Check.pipeline (.start request) s
  refine ⟨t, seen, ?_, ran, came, questions⟩
  rcases ended : Check.ending E service Check.pipeline (.start request) s with
    ⟨final | ⟨k, early, payload⟩ | k, s'⟩
  · rw [ended] at ran
    rw [call_of_pass ran]
    simp [GuardService.answerTo, Check.finish]
  · rw [ended] at ran
    simp only [Check.finish, GuardService.answerTo] at ran ⊢
    -- The list and the call fire the same hook: it returns in both, and then the early answer
    -- leaves the list, or it panics in both.
    obtain ⟨s₁, t₁, -, fired | fired⟩ := fireBlock_cases E service.layer payload s'
    · rw [Prog.bind_pass (fired _)] at ran ⊢
      rw [Run.after_after] at ran ⊢
      have left : Check.runPipeline E service request s = ⟨.exit early, s₁, t ++ t₁⟩ := by
        rw [Check.runPipeline, ran]
        simp [Prog.exit, Run.after]
      exact call_of_exit left
    · rw [Prog.bind_unwound (fired _)] at ran ⊢
      exact call_of_unwound ran
  · rw [ended] at ran
    exact call_of_unwound ran

/-- The questions of the checks in a call are those of the list. -/
theorem call_question_iff {E : Engine W} {service : GuardService W} {request : Request W}
    {s : Store W} {event : Event W} {k : Check} (own : event.consult.check = some k) :
    event ∈ (service.call E request s).trace ↔
      event ∈ (Check.runPipeline E service request s).trace := by
  obtain ⟨t, seen, answered, ran, -, -⟩ := call_ending E service request s
  rw [answered, ran, Run.after_trace, Run.after_trace, List.mem_append, List.mem_append]
  -- The questions ahead are shared; behind them neither side asks a check.
  refine or_congr_right (iff_of_false (fun member => ?_) fun member => ?_)
  · rw [answerTo_event _ member] at own
    cases own
  · have aside : event.consult.check = none := by
      rcases ended : Check.ending E service Check.pipeline (.start request) s with
        ⟨final | ⟨j, early, payload⟩ | j, s'⟩ <;> rw [ended] at member
      · cases member
      · exact Prog.Emits.bind (P := fun event => event.consult.check = none)
          (fireBlock_emits E service.layer fun _ aside => aside.1) (fun _ => .exit) s' event member
      · cases member
    rw [aside] at own
    cases own

/-! ### What is handed over -/

/-- The request an observation hands to the wrapped service. -/
def Event.handed : Event W → Option (Request W)
  | ⟨.inner request, _⟩ => some request
  | _ => none

theorem Event.handed_inner (request : Request W) (verdict : Verdict) :
    (Event.mk (.inner request) verdict).handed = some request := rfl

/-- The requests a trace hands to the wrapped service, in order. -/
def handedOver (trace : List (Event W)) : List (Request W) := trace.filterMap Event.handed

theorem handedOver_append (t t' : List (Event W)) :
    handedOver (t ++ t') = handedOver t ++ handedOver t' := List.filterMap_append

/-- The request an ending hands over. -/
def GuardService.handsOver (service : GuardService W) : Check.Ending W → List (Request W)
  | .forward final => [service.inner.rebuild final.parts final.buffered]
  | .denied _ (.excluded parts) _ => [service.inner.rebuild parts none]
  | .denied _ (.answered _ _) _ | .panicked _ => []

theorem Event.handed_of_check {event : Event W} {k : Check}
    (own : event.consult.check = some k) : event.handed = none := by
  obtain ⟨consult, verdict⟩ := event
  cases consult with
  | inner request => cases own
  | _ => rfl

theorem Event.handed_of_aside {event : Event W} (aside : event.aside) : event.handed = none := by
  obtain ⟨consult, verdict⟩ := event
  cases consult with
  | inner request => cases aside.2
  | _ => rfl

theorem handedOver_eq_nil {t : List (Event W)} (h : ∀ event ∈ t, event.handed = none) :
    handedOver t = [] := List.filterMap_eq_nil_iff.mpr h

theorem forward_handedOver (E : Engine W) (layer : GuardLayer W) (facts : RequestFacts)
    (parts : Parts W) (buffered : Option Bytes) (inner : InnerService W) (s : Store W) :
    handedOver (forward E layer facts parts buffered inner s :
      Run _ (Event W) Empty _).trace = [inner.rebuild parts buffered] := by
  obtain ⟨verdict, rest, trace, aside⟩ :=
    forward_trace (ε := Empty) E layer facts parts buffered inner s
  rw [trace, ← List.singleton_append, handedOver_append,
    handedOver_eq_nil fun event member => Event.handed_of_aside (aside event member)]
  rfl

/-- Only an excluded path is denied by a forward, and its denial reports no block. -/
theorem ending_excluded {E : Engine W} {service : GuardService W} {cs : List Check}
    {χ : Locals W} {s s' : Store W} {k : Check} {parts : Parts W} {payload : Option BlockPayload}
    (h : Check.ending E service cs χ s = (.denied k (.excluded parts) payload, s')) :
    k = .excludePaths ∧ payload = none := by
  have ends := ending_ends E service cs χ s
  rw [h] at ends
  cases ends with
  | denied reached applies ruled =>
    cases trial_denies applies ruled with
    | excluded first =>
      subst first
      cases applies
      simp only [Trial.screen_ruling, Call.returning_run] at ruled
      split at ruled
      · cases ruled; exact ⟨rfl, rfl⟩
      · cases ruled
  | recovered reached applies ruled =>
    obtain ⟨-, ⟨⟩⟩ := trial_recovers applies ruled

/-- A call hands over what its ending hands over, and nothing else. -/
theorem call_handedOver (E : Engine W) (service : GuardService W) (request : Request W)
    (s : Store W) : handedOver (service.call E request s).trace =
      service.handsOver (Check.ending E service Check.pipeline (.start request) s).1 := by
  obtain ⟨t, seen, answered, -, -, questions⟩ := call_ending E service request s
  have silent : handedOver t = [] := handedOver_eq_nil fun event member => by
    obtain ⟨k, -, own⟩ := questions event member
    exact Event.handed_of_check own
  rw [answered, Run.after_trace, handedOver_append, silent, List.nil_append]
  rcases ended : Check.ending E service Check.pipeline (.start request) s with
    ⟨final | ⟨k, parts | ⟨parts, answer⟩, payload⟩ | k, s'⟩
  · exact forward_handedOver E service.layer _ _ _ service.inner s'
  · -- An excluded path has no payload, so that nothing but the forward follows.
    obtain ⟨-, rfl⟩ := ending_excluded ended
    exact forward_handedOver E service.layer _ parts none service.inner s'
  · refine handedOver_eq_nil fun event member => Event.handed_of_aside ?_
    exact Prog.Emits.bind (fireBlock_emits E service.layer fun _ aside => aside)
      (fun _ => .bind (render_emits E service.layer fun _ aside => aside) fun _ => .pure)
      s' event member
  · rfl

end TowerGuard
