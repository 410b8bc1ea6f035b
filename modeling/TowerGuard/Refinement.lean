import TowerGuard.Reference

/-!
# The source is the ordered list

Each arm of `GuardService::call` is the check of the same name, and the request path is
the run of the whole list.
-/

namespace TowerGuard

open Text Traced

variable {W : World}

section Arms

open Check

variable (E : Engine W) (service : GuardService W) (χ : Locals W)

section Runs

variable {E service χ} {k : Check} {question : Consult W} {next : Locals W} {early : Early W}

/-- A check whose question is a screen runs as the screen. -/
private theorem run_of_screen {α : Type} {decision : Call (Store W) (Option α)}
    {early : α → Early W}
    (h : k.trial E service χ = some (.screen next question decision early)) :
    k.run E service χ = (do screen question decision early; pure next) := by
  funext s
  simp only [run, h, Trial.screen, screen, judge, Prog.bind_run, Prog.ask, Call.map]
  -- The two runs agree on each way the decision may end: a panic, a pass, a denial.
  rcases decision s with ⟨_ | _ | denial, s'⟩ <;> rfl

private theorem run_of_compose {α : Type} {call : Call W.Other α} {next : α → Locals W}
    (h : k.trial E service χ = some (.compose question call next)) :
    k.run E service χ = (do let answer ← notify question call; pure (next answer)) := by
  funext s
  simp only [run, h, Trial.compose, notify, Prog.bind_run, Prog.ask, Call.map]
  rcases onOther call s with ⟨_ | answer, s'⟩ <;> rfl

private theorem run_of_settled
    (h : k.trial E service χ = some (.settled question (.pass next))) :
    k.run E service χ = (do Prog.emit ⟨question, .passed⟩; pure next) := by
  simp only [run, h]
  rfl

private theorem run_of_refused {α : Type} {f : α → Guarded W (Locals W)}
    (h : k.trial E service χ = some (.settled question (.deny early none))) :
    k.run E service χ = refuse question early >>= f := by
  simp only [run, h]
  rfl

private theorem run_of_denied {payload : Option BlockPayload}
    (h : k.trial E service χ = some (.settled question (.deny early payload))) :
    k.run E service χ = (do
      Prog.emit ⟨question, .denied⟩
      fireBlock E service.layer payload
      Prog.exit early) := by
  simp only [run, h]
  rfl

private theorem run_of_none (h : k.trial E service χ = none) :
    k.run E service χ = pure χ := by
  simp only [run, h]

end Runs

theorem run_excludePaths : Check.excludePaths.run E service χ =
    (do excludePaths service.layer χ.facts χ.parts; pure χ) :=
  run_of_screen rfl

theorem run_corsPreflight : Check.corsPreflight.run E service χ =
    (do corsPreflight E service.layer χ.facts χ.parts; pure χ) := by
  unfold corsPreflight
  split
  next options =>
    split
    next processor installed =>
      split
      next enabled => exact run_of_screen (by simp [trial, installed, options, enabled])
      next disabled => exact run_of_none (by simp [trial, installed, disabled])
    next absent => exact run_of_none (by simp [trial, absent])
  next other =>
    refine run_of_none ?_
    -- The list asks for the processor first and the source for the method, which is the same.
    cases installed : service.layer.responseProcessor <;> simp [trial, installed, other]

theorem run_routeCarrier (fresh : χ.route = χ.parts.extensions.routeConfig) :
    Check.routeCarrier.run E service χ =
      (do let route ← routeCarrier service.layer χ.facts χ.parts; pure { χ with route }) := by
  unfold routeCarrier
  split
  next route attached =>
    -- A carrier the request brings along is in the locals from the start.
    rw [run_of_none (by simp [trial, attached]), pure_bind, ← attached, ← fresh]
  next detached =>
    split
    next resolver installed => exact run_of_compose (by simp [trial, detached, installed])
    next absent =>
      rw [run_of_none (by simp [trial, detached, absent]), pure_bind, ← detached, ← fresh]

theorem run_usageRules : Check.usageRules.run E service χ =
    (do usageRules E service.layer χ.facts χ.parts χ.route; pure χ) := by
  unfold usageRules
  dsimp only
  split
  next rules =>
    split
    next processor installed => exact run_of_screen (by simp [trial, installed, rules])
    next absent => exact run_of_none (by simp [trial, absent])
  next empty =>
    refine run_of_none ?_
    cases installed : service.layer.responseProcessor <;> simp [trial, installed, empty]

theorem run_routeIpLists (fresh : χ.skipGlobalIpLists = false) :
    Check.routeIpLists.run E service χ =
      (do let skipGlobalIpLists ← routeIpLists E χ.facts χ.parts χ.route
          pure { χ with skipGlobalIpLists }) := by
  -- Where the check does not apply, the flag is still the one it started with.
  have absent : Check.routeIpLists.trial E service χ = none →
      Check.routeIpLists.run E service χ = pure { χ with skipGlobalIpLists := false } := by
    intro nothing
    rw [run_of_none nothing, ← fresh]
  unfold routeIpLists
  cases carried : χ.route with
  | none =>
    rw [absent (by simp [trial, carried])]
    simp only [carried]
    rfl
  | some carrier =>
    dsimp only
    split
    next applies =>
      split
      next gate valid =>
        rw [bind_assoc, ← carried]
        refine run_of_screen ?_
        simp only [trial, carried, Option.bind_eq_bind, Option.bind_some, applies, if_true, valid]
      next error invalid =>
        refine run_of_refused ?_
        simp only [trial, carried, Option.bind_eq_bind, Option.bind_some, applies, if_true,
          invalid]
    next skipped =>
      rw [absent ?_, pure_bind, ← carried]
      simp only [trial, carried, Option.bind_eq_bind, Option.bind_some, skipped]
      rfl

theorem run_routeCountries (fresh : χ.skipGlobalCountries = false) :
    Check.routeCountries.run E service χ =
      (do let skipGlobalCountries ← routeCountries E service.layer χ.facts χ.parts χ.route
          pure { χ with skipGlobalCountries }) := by
  -- The same for the country flag.
  have absent : Check.routeCountries.trial E service χ = none →
      Check.routeCountries.run E service χ = pure { χ with skipGlobalCountries := false } := by
    intro nothing
    rw [run_of_none nothing, ← fresh]
  unfold routeCountries
  cases carried : χ.route with
  | none =>
    rw [absent (by simp [trial, carried])]
    simp only [carried]
    rfl
  | some carrier =>
    -- The source asks for the lists first, the list for the address and the handler.
    cases attributed : χ.facts.ip with
    | none =>
      rw [absent (by simp [trial, carried, attributed])]
      simp only [carried]
      split <;> rfl
    | some ip =>
      cases installed : service.layer.geoHandler with
      | none =>
        rw [absent (by simp [trial, carried, attributed, installed])]
        simp only [carried]
        split <;> rfl
      | some handler =>
        dsimp only
        split
        next applies =>
          rw [bind_assoc, ← carried]
          refine run_of_screen ?_
          simp only [trial, carried, attributed, installed, Option.bind_eq_bind,
            Option.bind_some, applies, if_true]
        next skipped =>
          rw [absent ?_, pure_bind, ← carried]
          simp only [trial, carried, attributed, installed, Option.bind_eq_bind,
            Option.bind_some, skipped]
          rfl

theorem run_ipGate : Check.ipGate.run E service χ =
    (do let parts ← ipGate E service.layer χ.parts χ.route χ.skipGlobalIpLists
        pure { χ with parts }) := by
  unfold ipGate
  split
  next applies =>
    unfold enforceIpGate
    split
    next gate ip installed attributed =>
      split
      next decision allowed =>
        rw [bind_assoc]
        refine run_of_settled ?_
        simp only [trial, installed, attributed, Option.bind_eq_bind, Option.bind_some, applies,
          if_true, allowed]
      next denial denied =>
        split
        -- Passive: the denial passes, and the parts stay as they are.
        next passive =>
          rw [bind_assoc]
          refine run_of_settled ?_
          simp only [trial, installed, attributed, Option.bind_eq_bind, Option.bind_some,
            applies, passive, if_true, denied]
        -- Active: the block hook fires ahead of the answer.
        next active =>
          simp only [bind_assoc]
          refine run_of_denied ?_
          simp only [trial, installed, attributed, Option.bind_eq_bind, Option.bind_some,
            applies, active, if_true, denied]
          rfl
    next missing =>
      rw [run_of_none ?_]
      · rfl
      · simp only [trial]
        cases installed : service.layer.ipGate with
        | none => rfl
        | some gate =>
          cases attributed : χ.parts.extensions.clientIp with
          | none => rfl
          | some ip => exact absurd attributed (missing gate ip installed)
  next skipped =>
    rw [run_of_none ?_]
    · rfl
    · simp only [trial, skipped]
      cases service.layer.ipGate <;> cases χ.parts.extensions.clientIp <;> rfl

theorem run_emergencyMode : Check.emergencyMode.run E service χ =
    (do emergencyMode service.layer χ.facts χ.parts; pure χ) := by
  unfold emergencyMode
  split
  next stage installed => exact run_of_screen (by simp [trial, installed])
  next absent => exact run_of_none (by simp [trial, absent])

theorem run_httpsEnforcement : Check.httpsEnforcement.run E service χ =
    (do httpsEnforcement service.layer χ.facts χ.parts χ.route; pure χ) := by
  unfold httpsEnforcement
  dsimp only
  split
  next stage carrier installed carried =>
    exact run_of_screen (by simp only [trial, installed, carried])
  next stage installed carried =>
    exact run_of_screen (by simp only [trial, installed, carried])
  next carrier absent carried =>
    split
    next required =>
      exact run_of_screen (by simp only [trial, absent, carried, required, if_true])
    next free =>
      refine run_of_none ?_
      simp only [trial, absent, carried, free]
      rfl
  next absent carried => exact run_of_none (by simp only [trial, absent, carried])

theorem run_requestLogging : Check.requestLogging.run E service χ =
    (do requestLogging service.layer χ.facts; pure χ) := by
  unfold requestLogging
  split
  next stage installed =>
    simp only [bind_assoc, pure_bind]
    exact run_of_compose (by simp only [trial, installed, Option.map_some])
  next absent => exact run_of_none (by simp [trial, absent])

theorem run_countryLog : Check.countryLog.run E service χ =
    (do countryLog service.layer χ.facts; pure χ) := by
  unfold countryLog
  split
  next observability stage observed installed =>
    simp only [bind_assoc, pure_bind]
    exact run_of_compose (by
      simp only [trial, observed, installed, Option.bind_eq_bind, Option.bind_some])
  next missing =>
    refine run_of_none ?_
    cases observed : service.layer.observability with
    | none => simp [trial, observed]
    | some observability =>
      cases installed : service.layer.geoBlocking with
      | none => simp [trial, observed, installed]
      | some stage => exact absurd installed (missing observability stage observed)

theorem run_bodyBuffering : Check.bodyBuffering.run E service χ =
    (do let buffered ← bodyBuffering E service.layer χ.parts χ.body χ.route
        pure { χ with buffered }) := by
  unfold bodyBuffering
  dsimp only
  split
  next buffered unread read =>
    rw [bind_assoc]
    exact run_of_settled (by simp only [trial, read])
  next unread read => exact run_of_refused (by simp only [trial, read])
  next unread read => exact run_of_refused (by simp only [trial, read])

theorem run_routeHeadersAuth : Check.routeHeadersAuth.run E service χ =
    (do routeHeadersAuth E χ.parts χ.route; pure χ) := by
  unfold routeHeadersAuth
  split
  next carrier carried =>
    split
    next rules => exact run_of_screen (by simp [trial, carried, rules])
    next free => exact run_of_none (by simp [trial, carried, free])
  next absent => exact run_of_none (by simp [trial, absent])

theorem run_headersAuth : Check.headersAuth.run E service χ =
    (do headersAuth service.layer χ.facts χ.parts; pure χ) := by
  unfold headersAuth
  split
  next stage installed => exact run_of_screen (by simp [trial, installed])
  next absent => exact run_of_none (by simp [trial, absent])

theorem run_routeReferrer : Check.routeReferrer.run E service χ =
    (do routeReferrer E χ.facts χ.parts χ.route; pure χ) := by
  unfold routeReferrer
  split
  next domains required => exact run_of_screen (by simp only [trial, required, Option.map_some])
  next absent => exact run_of_none (by simp only [trial, absent, Option.map_none])

theorem run_referrerGate : Check.referrerGate.run E service χ =
    (do referrerGate service.layer χ.facts χ.parts; pure χ) := by
  unfold referrerGate
  split
  next stage installed => exact run_of_screen (by simp [trial, installed])
  next absent => exact run_of_none (by simp [trial, absent])

theorem run_routeValidators : Check.routeValidators.run E service χ =
    (do routeValidators E χ.facts χ.parts χ.route χ.buffered; pure χ) := by
  unfold routeValidators
  dsimp only
  split
  next empty => exact run_of_none (by simp only [trial, empty, if_true])
  next some => exact run_of_screen (by simp only [trial, some]; rfl)

theorem run_customValidators : Check.customValidators.run E service χ =
    (do customValidators service.layer χ.facts χ.parts χ.buffered; pure χ) := by
  unfold customValidators
  split
  next stage installed => exact run_of_screen (by simp [trial, installed])
  next absent => exact run_of_none (by simp [trial, absent])

theorem run_routeTimeWindow : Check.routeTimeWindow.run E service χ =
    (do routeTimeWindow E χ.parts χ.route; pure χ) := by
  unfold routeTimeWindow
  split
  next restrictions restricted =>
    exact run_of_screen (by simp only [trial, restricted, Option.map_some])
  next absent => exact run_of_none (by simp only [trial, absent, Option.map_none])

theorem run_timeWindowGate : Check.timeWindowGate.run E service χ =
    (do timeWindowGate service.layer χ.facts χ.parts; pure χ) := by
  unfold timeWindowGate
  split
  next stage installed => exact run_of_screen (by simp [trial, installed])
  next absent => exact run_of_none (by simp [trial, absent])

theorem run_scan (fresh : χ.verdict = none) : Check.scan.run E service χ =
    (do let verdict ← scan E service.layer χ.parts χ.route χ.buffered
        pure { χ with verdict }) := by
  -- No verdict has been written yet, so that a clean scan changes nothing.
  have unchanged : { χ with verdict := none } = χ := by rw [← fresh]
  unfold scan
  split
  next off =>
    rw [run_of_none (by simp [trial, off]), pure_bind, unchanged]
  next on =>
    funext s
    simp only [run, trial, on, Bool.false_eq_true, if_false, scanRequest, scanViews, Prog.bind_run,
      Prog.ask, Prog.caught]
    -- A panic is caught inside the scan; the list has it as a recovered ruling.
    rcases onOther _ s with ⟨_ | verdict, s'⟩
    · rfl
    · cases threat : verdict.isThreat with
      | true =>
        simp only [proceed, Prog.pure_run, Run.after, threat, if_true, Verdict.ofScan,
          Verdict.ofRuling, List.append_nil]
      | false =>
        simp only [proceed, Prog.pure_run, Run.after, threat, Verdict.ofScan,
          Verdict.ofRuling, List.append_nil, Bool.false_eq_true, if_false, unchanged]

theorem run_bans : Check.bans.run E service χ =
    (do bans service.stage χ.facts χ.parts χ.route; pure χ) := by
  unfold bans
  split
  next bypass => exact run_of_none (by simp only [trial, bypass, if_true])
  next checked => exact run_of_screen (by simp only [trial, checked]; rfl)

theorem run_geo : Check.geo.run E service χ =
    (do geo service.layer χ.facts χ.parts χ.route χ.skipGlobalCountries; pure χ) := by
  unfold geo
  split
  next stage installed =>
    split
    next applies =>
      exact run_of_screen (by
        simp only [trial, installed, Option.bind_eq_bind, Option.bind_some, applies, if_true])
    next skipped =>
      refine run_of_none ?_
      simp only [trial, installed, Option.bind_eq_bind, Option.bind_some, skipped]
      rfl
  next absent => exact run_of_none (by simp [trial, absent])

theorem run_cloud : Check.cloud.run E service χ =
    (do cloud E service.layer χ.facts χ.parts χ.route; pure χ) := by
  unfold cloud
  split
  next bypass => exact run_of_none (by simp only [trial, bypass, if_true])
  next checked =>
    split
    next providers listed =>
      split
      next selectors stage parsed installed =>
        exact run_of_screen (by simp only [trial, checked, listed, parsed, installed]; rfl)
      next selectors parsed absent =>
        exact run_of_none (by simp only [trial, checked, listed, parsed, absent]; rfl)
      next error invalid =>
        exact run_of_refused (by simp only [trial, checked, listed, invalid]; rfl)
    next global =>
      split
      next stage installed =>
        exact run_of_screen (by simp only [trial, checked, global, installed]; rfl)
      next absent => exact run_of_none (by simp only [trial, checked, global, absent]; rfl)

theorem run_routeUserAgents : Check.routeUserAgents.run E service χ =
    (do routeUserAgents E χ.facts χ.parts χ.route; pure χ) := by
  unfold routeUserAgents
  split
  next patterns listed => exact run_of_screen (by simp only [trial, listed, Option.map_some])
  next absent => exact run_of_none (by simp only [trial, absent, Option.map_none])

theorem run_userAgent : Check.userAgent.run E service χ =
    (do userAgent service.layer χ.facts χ.parts (threatFinding χ.verdict); pure χ) := by
  unfold userAgent
  split
  next stage installed => exact run_of_screen (by simp [trial, installed])
  next absent => exact run_of_none (by simp [trial, absent])

theorem run_rateLimit : Check.rateLimit.run E service χ =
    (do rateLimit service.stage χ.facts χ.parts χ.route (threatFinding χ.verdict); pure χ) := by
  unfold rateLimit
  split
  next error invalid => exact run_of_refused (by simp only [trial, invalid])
  next tiers valid =>
    dsimp only
    split
    next bypass => exact run_of_none (by simp only [trial, valid, bypass, if_true])
    next checked => exact run_of_screen (by simp only [trial, valid, checked]; rfl)

theorem run_detection : Check.detection.run E service χ =
    (do detection E service.layer service.stage χ.facts χ.parts χ.verdict; pure χ) := by
  unfold detection
  cases found : χ.verdict with
  | none => exact run_of_none (by simp [trial, found])
  | some verdict =>
    dsimp only
    split
    next passive =>
      exact run_of_settled (by simp only [trial, found, Option.map_some, passive, if_true])
    next active =>
      simp only [bind_assoc]
      exact run_of_denied (by simp only [trial, found, Option.map_some, active]; rfl)

theorem run_customRequest : Check.customRequest.run E service χ =
    (do customRequest service.layer χ.facts χ.parts χ.buffered; pure χ) := by
  unfold customRequest
  split
  next stage installed => exact run_of_screen (by simp [trial, installed])
  next absent => exact run_of_none (by simp [trial, absent])

end Arms

/-- The whole list, from the locals at the start of `call`. -/
def Check.runPipeline (E : Engine W) (service : GuardService W) (request : Request W) :
    Guarded W (Locals W) :=
  Checklist.run (fun k χ => k.run E service χ) pipeline (.start request)

/-- The request path of the source is the run of the ordered list. -/
theorem screening_eq (E : Engine W) (service : GuardService W) (request : Request W) :
    service.screening E request =
      (do let χ ← Check.runPipeline E service request; pure (χ.parts, χ.buffered)) := by
  -- Every arm is replaced by its check. The flags an arm expects to be fresh are those of
  -- `Locals.start`, since no check ahead of it writes them.
  simp only [Check.runPipeline, Check.pipeline, Checklist.run_cons, Checklist.run_nil,
    run_excludePaths, run_corsPreflight, run_routeCarrier, run_usageRules, run_routeIpLists,
    run_routeCountries, run_ipGate, run_emergencyMode, run_httpsEnforcement, run_requestLogging,
    run_countryLog, run_bodyBuffering, run_routeHeadersAuth, run_headersAuth, run_routeReferrer,
    run_referrerGate, run_routeValidators, run_customValidators, run_routeTimeWindow,
    run_timeWindowGate, run_scan, run_bans, run_geo, run_cloud, run_routeUserAgents,
    run_userAgent, run_rateLimit, run_detection, run_customRequest, bind_assoc, pure_bind,
    Locals.start]
  rfl

end TowerGuard
