import TowerGuard.Following
import TowerGuard.Exits
import TowerGuard.Headers
import TowerGuard.StageService
import TowerGuard.Engine.Bench

/-!
# Trust in the forwarded protocol

The HTTPS stage compares its trusted proxies with a host the client names. Two requests that
differ in nothing else are redirected alike exactly where the comparison comes out alike, or
decides nothing.
-/

namespace TowerGuard

open Text Traced

variable {W : World}

/-! ### Policies -/

/-- What an HTTPS stage decides by: whether it trusts proxies at all, which, and with what status
it redirects a path, a scheme, the `require_https` of a carrier and the protocol it believes. -/
structure TrustPolicy where
  trust : Bool
  isProxy : String → Bool
  redirects : (path scheme : String) → (route : Option Bool) → (forwardedProto : Option String) →
    Option Nat

namespace TrustPolicy

variable (policy : TrustPolicy)

def trusts (clientHost : Option String) : Bool := policy.trust && clientHost.any policy.isProxy

/-- The status of the redirect, if there is one; the protocol counts from a trusted proxy only. -/
def decides (path scheme : String) (route : Option Bool)
    (clientHost forwardedProto : Option String) : Option Nat :=
  policy.redirects path scheme route (if policy.trusts clientHost then forwardedProto else none)

/-- The hosts are trusted alike, or the forwarded protocol makes no difference. -/
def HostsAlike (facts facts' : RequestFacts) (route : Option Bool) : Prop :=
  policy.trusts (facts.host.map hostOfAuthority) =
      policy.trusts (facts'.host.map hostOfAuthority) ∨
    policy.redirects facts.path facts.scheme route facts.xForwardedProto =
      policy.redirects facts.path facts.scheme route none

/-- Where the host is all that differs, so much decides alike. -/
theorem decides_eq_iff {facts facts' : RequestFacts} {route : Option Bool} :
    policy.decides facts.path facts.scheme route (facts.host.map hostOfAuthority)
        facts.xForwardedProto =
      policy.decides facts.path facts.scheme route (facts'.host.map hostOfAuthority)
        facts.xForwardedProto ↔ policy.HostsAlike facts facts' route := by
  unfold decides HostsAlike
  cases policy.trusts (facts.host.map hostOfAuthority) <;>
    cases policy.trusts (facts'.host.map hostOfAuthority) <;> simp [eq_comm]

end TrustPolicy

/-- A stage whose decision is the policy's, and redirects to the URL it is given. -/
structure HttpsEnforcementStage.Follows (stage : HttpsEnforcementStage W) (policy : TrustPolicy) :
    Prop where
  decide : ∀ path scheme clientHost forwardedProto httpsUrl,
    stage.decide path scheme clientHost forwardedProto httpsUrl = Call.returning
      ((policy.decides path scheme none clientHost forwardedProto).map fun status =>
        { status, location := httpsUrl })
  decideRoute : ∀ path scheme clientHost forwardedProto httpsUrl route,
    stage.decideRoute path scheme clientHost forwardedProto httpsUrl route = Call.returning
      ((policy.decides path scheme route clientHost forwardedProto).map fun status =>
        { status, location := httpsUrl })

/-! ### Requests that differ in the host -/

/-- The requests differ in the `Host` header and the URI authority at most. -/
structure Request.DiffersInHost (request request' : Request W) : Prop where
  method : request'.method = request.method
  scheme : request'.uri.scheme = request.uri.scheme
  path : request'.uri.path = request.uri.path
  query : request'.uri.query = request.uri.query
  version : request'.version = request.version
  headers : request.headers.SameBut "host" request'.headers
  extensions : request'.extensions = request.extensions
  body : request'.body = request.body

/-- The engine finds a preflight request without looking at the host. -/
def Engine.PreflightIgnoresHost (E : Engine W) : Prop :=
  ∀ method headers headers', (headers'.filter fun entry => entry.1 ≠ "host") =
    (headers.filter fun entry : String × String => entry.1 ≠ "host") →
    E.isPreflight method headers' = E.isPreflight method headers

/-- The locals of the one request, with the host of the other. -/
def Locals.hosted (request' : Request W) (χ : Locals W) : Locals W :=
  { χ with
    parts := { χ.parts with
      uri := { χ.parts.uri with authority := request'.uri.authority }
      headers := request'.headers }
    facts := { χ.facts with host := (RequestFacts.extract request'.toParts).host } }

section Hosts

variable {E : Engine W} {service : GuardService W} {request request' : Request W} {s s' : Store W}
  {k : Check} {χ : Locals W}

theorem Request.DiffersInHost.symm (same : request.DiffersInHost request') :
    request'.DiffersInHost request where
  method := same.method.symm
  scheme := same.scheme.symm
  path := same.path.symm
  query := same.query.symm
  version := same.version.symm
  headers := same.headers.symm
  extensions := same.extensions.symm
  body := same.body.symm

theorem Request.DiffersInHost.facts (same : request.DiffersInHost request') :
    RequestFacts.extract request'.toParts = { RequestFacts.extract request.toParts with
      host := (RequestFacts.extract request'.toParts).host } := by
  have field : ∀ name, "host" ≠ name →
      headerValue request'.headers name = headerValue request.headers name := fun name other => by
    rw [headerValue, headerValue, HeaderMap.get_eq_of_filter other same.headers]
  simp only [RequestFacts.extract, same.method, same.scheme, same.path, same.query,
    same.extensions, field _ (show "host" ≠ "referer" by decide),
    field _ (show "host" ≠ "user-agent" by decide),
    field _ (show "host" ≠ "x-forwarded-proto" by decide),
    field _ (show "host" ≠ "origin" by decide)]

theorem Request.DiffersInHost.start (same : request.DiffersInHost request') :
    Locals.start request' = (Locals.start request).hosted request' := by
  have parts : request'.toParts = { request.toParts with
      uri := { request.uri with authority := request'.uri.authority }
      headers := request'.headers } := by
    dsimp only
    rw [← same.method, ← same.scheme, ← same.path, ← same.query, ← same.version,
      ← same.extensions]
  simp only [Locals.start, Locals.hosted, same.body, same.extensions]
  rw [same.facts, parts]

theorem Request.DiffersInHost.carrier (same : request.DiffersInHost request') :
    service.carrier request' s = service.carrier request s := by
  simp only [GuardService.carrier, same.extensions, same.method, same.path]

/-! ### Up to the HTTPS check -/

/-- A preflight that is none for the one request is none for the other. -/
theorem preflightAnswer_passesToo (blind : E.PreflightIgnoresHost) {parts parts' : Parts W}
    (method : parts'.method = parts.method)
    (headers : parts.headers.SameBut "host" parts'.headers) (cors : Option CorsConfig) :
    PassesToo Eq (preflightAnswer E cors parts) (preflightAnswer E cors parts') := by
  rintro s _ s₁ rfl passed
  have unasked : E.isPreflight parts'.method
        (parts'.headers.map fun entry => (entry.1, entry.2.toStr.getD "")) =
      E.isPreflight parts.method
        (parts.headers.map fun entry => (entry.1, entry.2.toStr.getD "")) := by
    rw [method]
    refine blind _ _ _ ?_
    rw [List.filter_map, List.filter_map]
    exact congrArg _ headers
  obtain ⟨said, rfl⟩ := Prod.mk.inj passed
  refine ⟨s, Prod.ext ?_ rfl, rfl⟩
  obtain ⟨config, rfl, answer⟩ := Option.map_eq_some_iff.mp said
  simp only [preflightAnswer, Option.map_some, Option.some.injEq, unasked]
  split at answer
  next => cases answer
  next other => exact if_neg other

theorem PassesToo.refl {α : Type} (decision : Call (Store W) (Option α)) :
    PassesToo Eq decision decision := by
  rintro s _ s₁ rfl passed
  exact ⟨s₁, passed, rfl⟩

/-- Ahead of the HTTPS check no check but that of the preflight sees the host. -/
theorem host_follows (blind : E.PreflightIgnoresHost) (same : request.DiffersInHost request')
    (held : χ.Of request) (ahead : k.position < Check.httpsEnforcement.position) :
    Option.Rel (Trial.Follows Eq (Locals.hosted request')) (k.trial E service χ)
      (k.trial E service (χ.hosted request')) := by
  cases k with
  | excludePaths => exact .some (Trial.screen_follows .returning rfl)
  | corsPreflight =>
    have headers : χ.parts.headers = request.headers :=
      congrArg (fun parts => parts.headers) held.carried
    simp only [Check.trial]
    cases service.layer.responseProcessor with
    | none => exact .none
    | some processor =>
      refine rel_ite (fun _ => .some (Trial.screen_follows ?_ rfl)) fun _ => .none
      have differs : χ.parts.headers.SameBut "host" (χ.hosted request').parts.headers := by
        rw [headers]
        exact same.headers
      have method : (χ.hosted request').parts.method = χ.parts.method := rfl
      exact preflightAnswer_passesToo blind method differs processor.cors
  | routeCarrier =>
    simp only [Check.trial, Locals.hosted]
    cases carried : χ.parts.extensions.routeConfig with
    | some brought => exact .none
    | none =>
      refine rel_map fun resolver _ => Trial.compose_follows (V := Eq) ?_ ?_
      · rintro s _ rfl
        exact ⟨rel_of_eq rfl, rfl⟩
      · rintro answer _ rfl
        rfl
  | usageRules =>
    simp only [Check.trial]
    cases service.layer.responseProcessor with
    | none => exact .none
    | some processor =>
      exact rel_ite (fun _ => .some (Trial.screen_follows (.refl _) rfl)) fun _ => .none
  | routeIpLists =>
    have route : (χ.hosted request').route = χ.route := rfl
    simp only [Check.trial, route]
    cases routed : χ.route with
    | none => exact .none
    | some carrier =>
      simp only [Option.bind_eq_bind, Option.bind_some]
      refine rel_ite (fun _ => ?_) fun _ => .none
      cases E.routeIpGate (carrier.ipWhitelist.getD []) (carrier.ipBlacklist.getD []) with
      | ok gate => exact .some (Trial.screen_follows .returning rfl)
      | error _ => exact .some Trial.denied_follows
  | routeCountries =>
    have route : (χ.hosted request').route = χ.route := rfl
    have client : (χ.hosted request').facts.ip = χ.facts.ip := rfl
    simp only [Check.trial, route, client]
    cases χ.route with
    | none => exact .none
    | some carrier =>
      cases χ.facts.ip with
      | none => exact .none
      | some ip =>
        cases service.layer.geoHandler with
        | none => exact .none
        | some handler =>
          exact rel_ite (fun _ => .some (Trial.screen_follows (.refl _) rfl)) fun _ => .none
  | ipGate =>
    have client : (χ.hosted request').parts.extensions.clientIp = χ.parts.extensions.clientIp := rfl
    simp only [Check.trial, client]
    cases service.layer.ipGate with
    | none => exact .none
    | some gate =>
      cases χ.parts.extensions.clientIp with
      | none => exact .none
      | some ip =>
        refine rel_ite (fun _ => .some (Trial.settled_follows ?_)) fun _ => .none
        intro χ₁ passed
        cases said : gate.evaluate ip with
        | allowed decision =>
          simp only [said] at passed ⊢
          cases passed
          rfl
        | denied denial =>
          simp only [said] at passed ⊢
          split at passed
          next passive =>
            cases passed
            exact congrArg Ruling.next? (if_pos passive)
          next active => cases passed
  | emergencyMode =>
    exact rel_map fun stage _ => Trial.screen_follows (.refl _) rfl
  | _ => exact absurd ahead (by decide)

/-- The requests arrive at the HTTPS check alike. -/
theorem Check.Arrives.hosted (blind : E.PreflightIgnoresHost)
    (same : request.DiffersInHost request')
    (arrives : Check.httpsEnforcement.Arrives E service request s χ s') :
    Check.httpsEnforcement.Arrives E service request' s (χ.hosted request') s' := by
  obtain ⟨_, there, rfl⟩ := arrives.follow same.start rfl
    fun j y s₂ ahead here => host_follows blind same here.of ahead
  exact there

end Hosts

/-! ### Redirects -/

/-- The responses differ in the location at most. -/
structure Response.DiffersInLocation (response response' : Response W) : Prop where
  status : response'.status = response.status
  headers : response.headers.SameBut "location" response'.headers
  body : response'.body = response.body

structure InnerResponse.DiffersInLocation (response response' : InnerResponse W) : Prop where
  status : response'.status = response.status
  headers : response.headers.SameBut "location" response'.headers
  body : response'.body = response.body

/-- Both are responses, related by `V`. -/
inductive BothOk {δ α : Type} (V : α → α → Prop) : Except δ α → Except δ α → Prop
  | ok {a b : α} : V a b → BothOk V (.ok a) (.ok b)

/-- The status the guard redirects the request with, if it does. -/
def GuardService.redirects (E : Engine W) (service : GuardService W) (request : Request W)
    (s : Store W) : Option Nat :=
  match (Check.ending E service Check.pipeline (.start request) s).1.answered with
  | some (.httpsEnforcement, .redirect answer) => some answer.status
  | _ => none

/-- The guard redirects both requests or neither, and only the location may differ. -/
structure GuardService.RedirectsAlike (E : Engine W) (service : GuardService W)
    (request request' : Request W) (s : Store W) : Prop where
  status : service.redirects E request s = service.redirects E request' s
  response : ∀ status, service.redirects E request s = some status →
    Flow.Alike (BothOk Response.DiffersInLocation) (service.call E request s).flow
      (service.call E request' s).flow

/-- The status the standalone layer redirects the request with, if it does. -/
def HttpsEnforcementStage.redirects (stage : HttpsEnforcementStage W) (request : Request W)
    (s : Store W) : Option Nat :=
  match ((GuardStageLayer.https stage).decide (.extract request.toParts)
    (headerPairs request.headers) s).1 with
  | some (some (.redirect answer)) => some answer.status
  | _ => none

/-- The standalone layer redirects both requests or neither, and only the location may differ. -/
structure HttpsEnforcementStage.RedirectsAlike (stage : HttpsEnforcementStage W)
    (request request' : Request W) (s : Store W) : Prop where
  status : stage.redirects request s = stage.redirects request' s
  response : ∀ status, stage.redirects request s = some status → ∀ inner : StageInner W,
    Flow.Alike (BothOk InnerResponse.DiffersInLocation)
      (((GuardStageLayer.https stage).wrap inner).call request s : Run _ (Event W) Empty _).flow
      (((GuardStageLayer.https stage).wrap inner).call request' s : Run _ (Event W) Empty _).flow

section Rendered

variable {ε : Type} {E : Engine W} {layer : GuardLayer W} {headers headers' : HeaderMap}
  {name : String}

theorem agree_eq {α : Type} (m : Prog (Store W) (Event W) ε α) : Prog.Agree Eq Eq m m := by
  rintro s _ rfl
  refine ⟨?_, rfl⟩
  cases (m s).flow with
  | pass a => exact .pass rfl
  | exit e => exact .exit e
  | unwound => exact .unwound

/-- The response pass treats header maps alike but for the fields they differ in. -/
theorem applyResponseProcessor_sameBut (same : headers.SameBut name headers') (input : RequestBits)
    (status : Nat) (lane : ResponseLane) :
    Prog.Agree Eq (fun (modified, passed) (modified', passed') =>
        modified' = modified ∧ HeaderMap.SameBut name passed passed')
      (applyResponseProcessor E layer input status headers lane :
        Prog (Store W) (Event W) ε (Option Nat × HeaderMap))
      (applyResponseProcessor E layer input status headers' lane) := by
  unfold applyResponseProcessor
  split
  next => exact .pure ⟨rfl, same⟩
  next processor _ =>
    refine .bind (agree_eq _) ?_
    rintro now _ rfl
    refine .bind (agree_eq _) ?_
    rintro ⟨bits, action⟩ _ rfl
    refine .bind (agree_eq _) ?_
    rintro _ _ rfl
    refine .bind (agree_eq _) ?_
    rintro bits _ rfl
    exact .pure ⟨rfl, same.mergeHeaders _⟩

/-- Redirects with one status render alike but for the location. -/
theorem render_redirect_differs {parts parts' : Parts W} {answer answer' : HttpsRedirectAnswer}
    (input : RequestBits.fromParts parts' = RequestBits.fromParts parts)
    (status : answer'.status = answer.status) :
    Prog.Agree Eq Response.DiffersInLocation
      (render E layer parts (.redirect answer) : Prog (Store W) (Event W) ε (Response W))
      (render E layer parts' (.redirect answer')) := by
  have shaped : Option.Rel (fun (generated generated' : Generated) =>
      generated'.status = generated.status ∧ generated'.body = generated.body ∧
        generated.headers.SameBut "location" generated'.headers)
      (Generated.redirect answer) (Generated.redirect answer') := by
    unfold Generated.redirect
    rw [status]
    exact rel_map fun _ _ => ⟨rfl, rfl, HeaderMap.SameBut.insertText_self rfl
      headerName_location _ _⟩
  refine .bind (.expect shaped) ?_
  rintro generated generated' ⟨status, body, headers⟩
  simp only [finishGenerated, passGenerated, status, input]
  refine .bind (V := fun passed passed' => passed'.status = passed.status ∧
    passed'.body = passed.body ∧ passed.headers.SameBut "location" passed'.headers)
    (.bind (applyResponseProcessor_sameBut headers _ _ _) ?_) ?_
  · rintro ⟨modified, passed⟩ ⟨_, passed'⟩ ⟨rfl, same⟩
    exact .pure ⟨rfl, body, same⟩
  · rintro passed passed' ⟨status, body, same⟩
    exact .pure ⟨status, same, congrArg GuardBody.generated body⟩

theorem answerTo_redirect_alike {service : GuardService W} {facts facts' : RequestFacts}
    {parts parts' : Parts W} {answer answer' : HttpsRedirectAnswer} {k : Check} {s : Store W}
    (input : RequestBits.fromParts parts' = RequestBits.fromParts parts)
    (status : answer'.status = answer.status) :
    Run.Alike Eq (BothOk Response.DiffersInLocation)
      (service.answerTo E facts (.denied k (.answered parts (.redirect answer)) none, s))
      (service.answerTo E facts' (.denied k (.answered parts' (.redirect answer')) none, s)) := by
  refine Prog.Agree.bind (V := Eq) (agree_eq _) (fun _ _ _ => ?_) s s rfl
  exact .bind (render_redirect_differs input status) fun _ _ differs => .pure (.ok differs)

end Rendered

section Decided

variable {E : Engine W} {service : GuardService W} {stage : HttpsEnforcementStage W}
  {policy : TrustPolicy} {request request' : Request W} {χ : Locals W} {s s' : Store W}

/-- What the policy decides of a request on its facts and its carrier. -/
def TrustPolicy.judges (policy : TrustPolicy) (request : Request W) (route : Option Bool) :
    Option Nat :=
  let facts := RequestFacts.extract request.toParts
  policy.decides facts.path facts.scheme route (facts.host.map hostOfAuthority)
    facts.xForwardedProto

theorem TrustPolicy.judges_eq_iff (same : request.DiffersInHost request') {route : Option Bool} :
    policy.judges request route = policy.judges request' route ↔
      policy.HostsAlike (.extract request.toParts) (.extract request'.toParts) route := by
  rw [← policy.decides_eq_iff, judges, judges, same.facts]

/-- Where the stage is installed the check is put to it, and rules as the policy decides. -/
theorem httpsEnforcement_ruling (installed : service.layer.httpsEnforcement = some stage)
    (follows : stage.Follows policy)
    (arrives : Check.httpsEnforcement.Arrives E service request s χ s') :
    ∃ trial, Check.httpsEnforcement.trial E service χ = some trial ∧
      trial.ruling s' = (some (Ruling.ofDenial χ (fun answer => .answered χ.parts
        (.redirect answer)) ((policy.judges request
          ((service.carrier request s).map RouteConfig.requireHttps)).map fun status =>
            { status, location := (RequestFacts.extract request.toParts).httpsUrl })), s') := by
  have routed := arrives.route (by decide)
  simp only [Check.trial, installed, arrives.of.facts]
  rw [routed]
  cases service.carrier request s with
  | some carrier =>
    refine ⟨_, rfl, ?_⟩
    rw [follows.decideRoute]
    rfl
  | none =>
    refine ⟨_, rfl, ?_⟩
    rw [follows.decide]
    rfl

/-- A request that arrives at the check ends there as the policy decides. -/
theorem ending_of_judged (installed : service.layer.httpsEnforcement = some stage)
    (follows : stage.Follows policy)
    (arrives : Check.httpsEnforcement.Arrives E service request s χ s') {status : Nat}
    (judged : policy.judges request ((service.carrier request s).map RouteConfig.requireHttps) =
      some status) :
    Check.ending E service Check.pipeline (.start request) s =
      (.denied .httpsEnforcement (.answered χ.parts (.redirect
        { status, location := (RequestFacts.extract request.toParts).httpsUrl })) none, s') := by
  obtain ⟨trial, applies, ruled⟩ := httpsEnforcement_ruling installed follows arrives
  obtain ⟨back, ended⟩ := ending_of_reaches arrives
  rw [judged] at ruled
  rw [ended]
  simp only [Check.ending, applies, ruled, Option.map_some, Ruling.ofDenial]

theorem GuardService.redirects_denies {status : Nat}
    (redirected : service.redirects E request s = some status) :
    ∃ answer, service.Denies E request s .httpsEnforcement (.redirect answer) ∧
      answer.status = status := by
  unfold GuardService.redirects at redirected
  split at redirected
  next answer answered => exact ⟨answer, answered, Option.some.inj redirected⟩
  next => cases redirected

/-- The guard redirects what arrives at the check and is redirected by the policy. -/
theorem redirects_eq_some_iff (installed : service.layer.httpsEnforcement = some stage)
    (follows : stage.Follows policy) {status : Nat} :
    service.redirects E request s = some status ↔
      (∃ χ s', Check.httpsEnforcement.Arrives E service request s χ s') ∧
        policy.judges request ((service.carrier request s).map RouteConfig.requireHttps) =
          some status := by
  constructor
  · intro redirected
    obtain ⟨answer, denied, rfl⟩ := GuardService.redirects_denies redirected
    obtain ⟨χ, s₁, trial, payload, s', arrives, applies, ruled, -⟩ :=
      denies_ruled denied (.inl (by decide))
    refine ⟨⟨_, _, arrives⟩, ?_⟩
    obtain ⟨trial', applies', ruled'⟩ := httpsEnforcement_ruling installed follows arrives
    obtain rfl := Option.some.inj (applies.symm.trans applies')
    rw [ruled] at ruled'
    cases judged : policy.judges request
      ((service.carrier request s).map RouteConfig.requireHttps) with
    | none => rw [judged] at ruled'; cases ruled'
    | some status => rw [judged] at ruled'; cases ruled'; rfl
  · rintro ⟨⟨χ, s', arrives⟩, judged⟩
    unfold GuardService.redirects
    rw [ending_of_judged installed follows arrives judged]
    rfl

theorem redirects_of_arrives (installed : service.layer.httpsEnforcement = some stage)
    (follows : stage.Follows policy)
    (arrives : Check.httpsEnforcement.Arrives E service request s χ s') :
    service.redirects E request s =
      policy.judges request ((service.carrier request s).map RouteConfig.requireHttps) := by
  ext status
  rw [redirects_eq_some_iff installed follows]
  exact and_iff_right ⟨χ, s', arrives⟩

/-- What differs in the host only is redirected alike where its hosts are alike to the policy. -/
theorem redirects_eq_iff (installed : service.layer.httpsEnforcement = some stage)
    (follows : stage.Follows policy) (blind : E.PreflightIgnoresHost)
    (same : request.DiffersInHost request') :
    service.redirects E request s = service.redirects E request' s ↔
      ((∃ χ s', Check.httpsEnforcement.Arrives E service request s χ s') →
        policy.HostsAlike (.extract request.toParts) (.extract request'.toParts)
          ((service.carrier request s).map RouteConfig.requireHttps)) := by
  by_cases arrived : ∃ χ s', Check.httpsEnforcement.Arrives E service request s χ s'
  · obtain ⟨χ, s', arrives⟩ := arrived
    rw [redirects_of_arrives installed follows arrives,
      redirects_of_arrives installed follows (arrives.hosted blind same), same.carrier,
      policy.judges_eq_iff same]
    exact ⟨fun alike _ => alike, fun alike => alike ⟨χ, s', arrives⟩⟩
  · refine iff_of_true ?_ fun here => absurd here arrived
    -- Neither request comes to the check, and neither is redirected.
    have absent : service.redirects E request s = none := by
      rw [Option.eq_none_iff_forall_ne_some]
      intro status redirected
      exact arrived ((redirects_eq_some_iff installed follows).mp redirected).1
    have absent' : service.redirects E request' s = none := by
      rw [Option.eq_none_iff_forall_ne_some]
      intro status redirected
      obtain ⟨⟨χ, s', arrives⟩, -⟩ := (redirects_eq_some_iff installed follows).mp redirected
      exact arrived ⟨_, _, arrives.hosted blind same.symm⟩
    rw [absent, absent']

theorem Request.DiffersInHost.input (same : request.DiffersInHost request')
    (held : χ.Of request) :
    RequestBits.fromParts (χ.hosted request').parts = RequestBits.fromParts χ.parts := by
  have headers : χ.parts.headers = request.headers :=
    congrArg (fun parts => parts.headers) held.carried
  have origin : headerValue request'.headers "origin" = headerValue request.headers "origin" := by
    rw [headerValue, headerValue, HeaderMap.get_eq_of_filter (by decide) same.headers]
  simp only [RequestBits.fromParts, Locals.hosted, headers, origin]

/-- Redirected with one status, the requests leave with responses that differ in the location. -/
theorem redirected_alike (installed : service.layer.httpsEnforcement = some stage)
    (follows : stage.Follows policy) (blind : E.PreflightIgnoresHost)
    (same : request.DiffersInHost request') {status : Nat}
    (redirected : service.redirects E request s = some status)
    (redirected' : service.redirects E request' s = some status) :
    Flow.Alike (BothOk Response.DiffersInLocation) (service.call E request s).flow
      (service.call E request' s).flow := by
  obtain ⟨⟨χ, s', arrives⟩, judged⟩ := (redirects_eq_some_iff installed follows).mp redirected
  obtain ⟨-, judged'⟩ := (redirects_eq_some_iff installed follows).mp redirected'
  obtain ⟨t, -, answered, -⟩ := call_ending E service request s
  obtain ⟨t', -, answered', -⟩ := call_ending E service request' s
  rw [answered, answered', ending_of_judged installed follows arrives judged,
    ending_of_judged installed follows (arrives.hosted blind same) judged', Run.after_flow,
    Run.after_flow]
  -- No block hook fires, and both responses are rendered in one state.
  refine (answerTo_redirect_alike (same.input arrives.of) ?_).flow
  rfl

/-! ### The standalone layer -/

theorem standalone_decision (follows : stage.Follows policy) :
    (GuardStageLayer.https stage).decide (.extract request.toParts) (headerPairs request.headers)
        s = (some ((policy.judges request none).map fun status => .redirect
          { status, location := (RequestFacts.extract request.toParts).httpsUrl }), s) := by
  simp only [GuardStageLayer.decide, follows.decide]
  rw [Call.map, onOther]
  simp only [Call.returning_run, Option.map_some, Option.map_map]
  rfl

theorem standalone_redirects (follows : stage.Follows policy) :
    stage.redirects request s = policy.judges request none := by
  unfold HttpsEnforcementStage.redirects
  rw [standalone_decision follows]
  cases policy.judges request none <;> rfl

theorem renderRedirect_differs {inner : StageInner W} {answer answer' : HttpsRedirectAnswer}
    (status : answer'.status = answer.status) :
    Option.Rel InnerResponse.DiffersInLocation (inner.renderRedirect answer)
      (inner.renderRedirect answer') := by
  unfold StageInner.renderRedirect
  rw [status]
  exact rel_map fun _ _ => ⟨rfl, HeaderMap.SameBut.insertText_self rfl headerName_location _ _, rfl⟩

theorem standalone_alike (follows : stage.Follows policy) {status : Nat}
    (redirected : stage.redirects request s = some status)
    (redirected' : stage.redirects request' s = some status) (inner : StageInner W) :
    Flow.Alike (BothOk InnerResponse.DiffersInLocation)
      (((GuardStageLayer.https stage).wrap inner).call request s : Run _ (Event W) Empty _).flow
      (((GuardStageLayer.https stage).wrap inner).call request' s :
        Run _ (Event W) Empty _).flow := by
  have decided : ∀ request : Request W, stage.redirects request s = some status →
      (GuardStageLayer.https stage).decide (.extract request.toParts) (headerPairs request.headers)
          s = (some (some (.redirect
            ⟨status, (RequestFacts.extract request.toParts).httpsUrl⟩)), s) := by
    intro request redirected
    rw [standalone_redirects follows] at redirected
    rw [standalone_decision follows, redirected]
    rfl
  rw [GuardStageService.call_of_denial ((GuardStageLayer.https stage).wrap inner)
      (decided request redirected),
    GuardStageService.call_of_denial ((GuardStageLayer.https stage).wrap inner)
      (decided request' redirected'), Run.after_flow, Run.after_flow]
  have rendered : Prog.Agree Eq (BothOk InnerResponse.DiffersInLocation)
      (do let response ← Prog.expect (inner.renderRedirect
            ⟨status, (RequestFacts.extract request.toParts).httpsUrl⟩); pure (.ok response))
      (do let response ← Prog.expect (inner.renderRedirect
            ⟨status, (RequestFacts.extract request'.toParts).httpsUrl⟩); pure (.ok response) :
        Prog (Store W) (Event W) Empty (Except W.InnerError (InnerResponse W))) :=
    .bind (.expect (renderRedirect_differs rfl)) fun _ _ differs => .pure (.ok differs)
  exact (rendered s s rfl).flow

end Decided

/-- Requests that differ in the host are redirected alike exactly when they do not come to the
HTTPS check, or the policy trusts their hosts alike, or the forwarded protocol makes no difference
to it. -/
theorem redirects_alike_iff (E : Engine W) (service : GuardService W)
    (stage : HttpsEnforcementStage W) (policy : TrustPolicy) (request request' : Request W)
    (s : Store W) (installed : service.layer.httpsEnforcement = some stage)
    (follows : stage.Follows policy) (blind : E.PreflightIgnoresHost)
    (same : request.DiffersInHost request') :
    (service.RedirectsAlike E request request' s ↔
      ((∃ χ s', Check.httpsEnforcement.Arrives E service request s χ s') →
        policy.HostsAlike (.extract request.toParts) (.extract request'.toParts)
          ((service.carrier request s).map RouteConfig.requireHttps))) ∧
    (stage.RedirectsAlike request request' s ↔
      policy.HostsAlike (.extract request.toParts) (.extract request'.toParts) none) := by
  constructor
  · rw [← redirects_eq_iff installed follows blind same]
    constructor
    · rintro ⟨alike, -⟩
      exact alike
    · intro alike
      exact ⟨alike, fun status redirected =>
        redirected_alike installed follows blind same redirected (alike ▸ redirected)⟩
  · rw [← policy.judges_eq_iff same, ← standalone_redirects (s := s) follows,
      ← standalone_redirects (s := s) follows]
    constructor
    · rintro ⟨alike, -⟩
      exact alike
    · intro alike
      exact ⟨alike, fun status redirected =>
        standalone_alike follows redirected (alike ▸ redirected)⟩

/-! ### A named proxy -/

/-- A request over http that says it was https, to this host. -/
def forwardedRequest (host : HeaderValue) : Request Bench.world :=
  { Bench.request "GET" "/items" none [] with
    headers := [("host", host), ("x-forwarded-proto", ⟨bytesOf "https", by decide +kernel⟩)] }

/-- The request to the address of a trusted proxy. -/
def proxyHost : Request Bench.world := forwardedRequest ⟨bytesOf "10.0.0.1", by decide +kernel⟩

def siteHost : Request Bench.world := forwardedRequest ⟨bytesOf "guard.example", by decide +kernel⟩

/-- The same site behind a port. -/
def portHost : Request Bench.world :=
  forwardedRequest ⟨bytesOf "guard.example:80", by decide +kernel⟩

/-- One trusted proxy; whatever is not https is redirected. -/
def proxyPolicy : TrustPolicy where
  trust := true
  isProxy := fun host => host = "10.0.0.1"
  redirects := fun _ scheme _ forwardedProto =>
    if forwardedProto.getD scheme = "https" then none else some 301

def proxyStage : HttpsEnforcementStage Bench.world where
  decide := fun path scheme clientHost forwardedProto httpsUrl => Call.returning
    ((proxyPolicy.decides path scheme none clientHost forwardedProto).map fun status =>
      { status, location := httpsUrl })
  decideRoute := fun path scheme clientHost forwardedProto httpsUrl route => Call.returning
    ((proxyPolicy.decides path scheme route clientHost forwardedProto).map fun status =>
      { status, location := httpsUrl })

theorem proxyStage_follows : proxyStage.Follows proxyPolicy where
  decide := fun _ _ _ _ _ => rfl
  decideRoute := fun _ _ _ _ _ _ => rfl

def proxied : GuardService Bench.world :=
  GuardLayer.wrap Bench.engine { Bench.layer with httpsEnforcement := some proxyStage } Bench.ok

theorem bench_preflightIgnoresHost : Bench.engine.PreflightIgnoresHost := by
  intro method headers headers' same
  have asked : ∀ headers : List (String × String),
      headers.any (fun entry => entry.1 = "access-control-request-method") =
        (headers.filter fun entry => entry.1 ≠ "host").any
          fun entry => entry.1 = "access-control-request-method" := by
    intro headers
    rw [List.any_filter]
    congr 1
    funext entry
    by_cases own : entry.1 = "host"
    · simp [own]
    · simp [own]
  simp only [Bench.engine]
  rw [asked headers, asked headers', same]

theorem forwarded_differs (host host' : HeaderValue) :
    (forwardedRequest host).DiffersInHost (forwardedRequest host') where
  method := rfl
  scheme := rfl
  path := rfl
  query := rfl
  version := rfl
  headers := by simp [HeaderMap.SameBut, forwardedRequest]
  extensions := rfl
  body := rfl

/-- A port makes no difference: both requests are redirected. -/
theorem port_redirected_alike :
    proxied.RedirectsAlike Bench.engine siteHost portHost Bench.start ∧
      proxied.redirects Bench.engine siteHost Bench.start = some 301 :=
  ⟨(redirects_alike_iff Bench.engine proxied proxyStage proxyPolicy siteHost portHost Bench.start
    rfl proxyStage_follows bench_preflightIgnoresHost (forwarded_differs _ _)).1.mpr
    fun _ => .inl (by decide +kernel), by decide +kernel⟩

/-- Who names the trusted proxy as the host is not redirected, and who names the site is. -/
theorem named_proxy_not_redirected :
    proxyStage.Follows proxyPolicy ∧ siteHost.DiffersInHost proxyHost ∧
    ¬proxied.RedirectsAlike Bench.engine siteHost proxyHost Bench.start ∧
    ¬proxyStage.RedirectsAlike siteHost proxyHost Bench.start := by
  refine ⟨proxyStage_follows, forwarded_differs _ _, fun alike => ?_, fun alike => ?_⟩
  · exact absurd alike.status (by decide +kernel)
  · exact absurd alike.status (by decide +kernel)

end TowerGuard
