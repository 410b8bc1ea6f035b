import TowerGuard.Facts

/-!
# Consulting a check

The request path is a program that asks one collaborator after another and may leave
early with an answer. Every question is recorded with the arguments it was asked with and
how it ended, so that what a run did can be read off its trace.
-/

namespace TowerGuard

open Text Traced

variable (W : World)

/-- The checks of the pipeline, and the two steps between them that only compose. -/
inductive Check where
  | excludePaths
  | corsPreflight
  | routeCarrier
  | usageRules
  | routeIpLists
  | routeCountries
  | ipGate
  | emergencyMode
  | httpsEnforcement
  | requestLogging
  | countryLog
  | bodyBuffering
  | routeHeadersAuth
  | headersAuth
  | routeReferrer
  | referrerGate
  | routeValidators
  | customValidators
  | routeTimeWindow
  | timeWindowGate
  | scan
  | bans
  | geo
  | cloud
  | routeUserAgents
  | userAgent
  | rateLimit
  | detection
  | customRequest
  deriving DecidableEq

/-- A question with its arguments: the checks', and those the guard asks outside them. -/
inductive Consult where
  | excludePaths (path : String)
  | corsPreflight (method : String)
  | routeConfigs (method path : String)
  | usageRules (endpoint client : String) (rules : List BehaviorRule)
  | routeIpLists (ip : Option IpAddr)
  | routeCountries (ip : IpAddr)
  | ipGate (ip : IpAddr)
  | emergencyMode (ip : Option String)
  | httpsEnforcement (clientHost forwardedProto : Option String) (route : Option Bool)
  | requestLogging
  | countryLog (ip : Option IpAddr)
  | bodyBuffering (cap : Nat) (unread : Body)
  | routeHeadersAuth (rules : HeaderAuthRules)
  | headersAuth (path : String)
  | routeReferrer (referer : Option String) (domains : List String)
  | referrerGate (path : String) (referer : Option String)
  | routeValidators (ctx : CustomRequestContext)
  | customValidators (ctx : CustomRequestContext)
  | routeTimeWindow (window : TimeWindow)
  | timeWindowGate (path : String)
  | scan (surfaces : RequestSurfaces) (exclusions : W.ResolvedExclusions)
  | bans (ip : Option IpAddr)
  | geo (ip : Option IpAddr) (gate : Option IpGateDecision)
  | cloud (ip : Option IpAddr) (gate : Option IpGateDecision)
  | routeCloud (ip : Option IpAddr) (gate : Option IpGateDecision) (providers : List String)
  | routeCloudSelectors (providers : List String)
  | routeUserAgents (patterns : List String) (gate : Option IpGateDecision)
  | userAgent (ip : Option IpAddr) (gate : Option IpGateDecision)
      (finding : Option ThreatFinding)
  | routeRateLimits
  | rateLimit (ip : Option IpAddr) (gate : Option IpGateDecision)
      (finding : Option ThreatFinding)
  | detection (reason : String)
  | customRequest (ctx : CustomRequestContext)
  | blockHook (payload : BlockPayload)
  | process (request : RequestBits) (status : Nat)
  | headersEvent (event : HeadersAppliedEvent)
  | responseModifier
  | onError
  | inner (request : Request W)

/-- The check a question belongs to. -/
def Consult.check {W : World} : Consult W → Option Check
  | .excludePaths _ => some .excludePaths
  | .corsPreflight _ => some .corsPreflight
  | .routeConfigs _ _ => some .routeCarrier
  | .usageRules _ _ _ => some .usageRules
  | .routeIpLists _ => some .routeIpLists
  | .routeCountries _ => some .routeCountries
  | .ipGate _ => some .ipGate
  | .emergencyMode _ => some .emergencyMode
  | .httpsEnforcement _ _ _ => some .httpsEnforcement
  | .requestLogging => some .requestLogging
  | .countryLog _ => some .countryLog
  | .bodyBuffering _ _ => some .bodyBuffering
  | .routeHeadersAuth _ => some .routeHeadersAuth
  | .headersAuth _ => some .headersAuth
  | .routeReferrer _ _ => some .routeReferrer
  | .referrerGate _ _ => some .referrerGate
  | .routeValidators _ => some .routeValidators
  | .customValidators _ => some .customValidators
  | .routeTimeWindow _ => some .routeTimeWindow
  | .timeWindowGate _ => some .timeWindowGate
  | .scan _ _ => some .scan
  | .bans _ => some .bans
  | .geo _ _ => some .geo
  | .cloud _ _ | .routeCloud _ _ _ | .routeCloudSelectors _ => some .cloud
  | .routeUserAgents _ _ => some .routeUserAgents
  | .userAgent _ _ _ => some .userAgent
  | .routeRateLimits | .rateLimit _ _ _ => some .rateLimit
  | .detection _ => some .detection
  | .customRequest _ => some .customRequest
  | .blockHook _ | .process _ _ | .headersEvent _ | .responseModifier | .onError | .inner _ =>
    none

def Consult.isInner {W : World} : Consult W → Bool
  | .inner _ => true
  | _ => false

/-- How a question ended. A `flagged` one passes and leaves a finding or a ban behind. -/
inductive Verdict where
  | passed | flagged | denied | panicked
  deriving DecidableEq

/-- One observation of a run. -/
structure Event where
  consult : Consult W
  verdict : Verdict

/-- An observation of the response side: no check's question and no forward. -/
def Event.aside {W : World} (event : Event W) : Prop :=
  event.consult.check = none ∧ event.consult.isInner = false

/-- What the guard answers, before the response-side pass. `gate` is the IP gate's denial,
which renders through a pass of its own. -/
inductive Answer where
  | preflight (answer : PreflightAnswer)
  | block (status : Nat) (body : String)
  | gate (body : String)
  | stage (response : StageResponse)
  | redirect (answer : HttpsRedirectAnswer)
  | oversize
  | failure

/-- An early return with the request parts at that point: the forward past the whole
pipeline, or an answer. -/
inductive Early where
  | excluded (parts : Parts W)
  | answered (parts : Parts W) (answer : Answer)

/-- Programs of the request path. -/
abbrev Guarded (α : Type) := Prog (Store W) (Event W) (Early W) α

variable {W} {ε α : Type}

/-- Run a collaborator that answers no yes-or-no question. -/
def notify (c : Consult W) (call : Call W.Other α) : Prog (Store W) (Event W) ε α :=
  Prog.ask (fun answer => ⟨c, if answer.isSome then .passed else .panicked⟩) (onOther call)

theorem notify_pass {c : Consult W} {call : Call W.Other α} {s : Store W} {a : α} {o : W.Other}
    (h : call s.other = (some a, o)) : (notify c call : Prog (Store W) (Event W) ε α) s =
      ⟨.pass a, { s with other := o }, [⟨c, .passed⟩]⟩ := by
  have answered : onOther call s = (some a, { s with other := o }) := by rw [onOther, h]
  exact Prog.ask_pass answered

theorem notify_unwound {c : Consult W} {call : Call W.Other α} {s : Store W} {o : W.Other}
    (h : call s.other = (none, o)) : (notify c call : Prog (Store W) (Event W) ε α) s =
      ⟨.unwound, { s with other := o }, [⟨c, .panicked⟩]⟩ := by
  have panicked : onOther call s = (none, { s with other := o }) := by rw [onOther, h]
  exact Prog.ask_unwound panicked

def Verdict.ofDenial : Option (Option α) → Verdict
  | none => .panicked
  | some none => .passed
  | some (some _) => .denied

/-- The processor's answer with the action of a crossed rule. -/
def Verdict.ofAction : Option (α × Option BehaviorAction) → Verdict
  | none => .panicked
  | some (_, action) => if action.any BehaviorAction.isBan then .flagged else .passed

/-- Ask a check for its denial. -/
def judge (c : Consult W) (decision : Call (Store W) (Option α)) :
    Prog (Store W) (Event W) ε (Option α) :=
  Prog.ask (fun answer => ⟨c, .ofDenial answer⟩) decision

theorem judge_pass {c : Consult W} {decision : Call (Store W) (Option α)} {s s' : Store W}
    {denial : Option α} (h : decision s = (some denial, s')) :
    (judge c decision : Prog (Store W) (Event W) ε (Option α)) s =
      ⟨.pass denial, s', [⟨c, .ofDenial (some denial)⟩]⟩ :=
  Prog.ask_pass h

theorem judge_unwound {c : Consult W} {decision : Call (Store W) (Option α)} {s s' : Store W}
    (h : decision s = (none, s')) :
    (judge c decision : Prog (Store W) (Event W) ε (Option α)) s =
      ⟨.unwound, s', [⟨c, .panicked⟩]⟩ :=
  Prog.ask_unwound h

/-- Ask a check and return its denial early. -/
def screen (c : Consult W) (decision : Call (Store W) (Option α)) (early : α → Early W) :
    Guarded W Unit := do
  match ← judge c decision with
  | some denial => Prog.exit (early denial)
  | none => pure ()

end TowerGuard
