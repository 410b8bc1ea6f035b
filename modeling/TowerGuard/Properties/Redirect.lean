import TowerGuard.Exits
import TowerGuard.Composition
import TowerGuard.Headers
import TowerGuard.Engine.Bench
import TowerGuard.Text.Uri

/-!
# The redirect target

The `Location` of the HTTPS redirect against the resource the request is for: the target is the
authority, the path and the query put together, whatever they are made of.
-/

namespace TowerGuard

open Text Traced

variable {W : World}

/-- Visible ASCII can be a header value. -/
theorem isHeaderByte_of_visible {text : String}
    (visible : ∀ c ∈ text.toList, Rfc3986.isVisible c = true) :
    (bytesOf text).all isHeaderByte = true := by
  rw [List.all_eq_true]
  intro b member
  obtain ⟨c, inside, encoded⟩ := List.mem_flatMap.mp member
  have range := visible c inside
  simp only [Rfc3986.isVisible, Bool.and_eq_true, decide_eq_true_eq] at range
  rw [encodeChar_of_ascii (by omega), List.mem_singleton] at encoded
  rw [encoded, isHeaderByte, toNat_ofNat (by omega), decide_eq_true_eq]
  omega

/-! ### Targets -/

/-- The resource behind this authority, over https. -/
def Uri.secured (uri : Uri) (authority : String) : Rfc3986.Uri where
  scheme := "https".toList
  authority := some authority.toList
  path := uri.path.toList
  query := uri.query.map String.toList
  fragment := none

/-- The headers carry a `Location` that reads as this URI. -/
def HeaderMap.Targets (headers : HeaderMap) (target : Rfc3986.Uri) : Prop :=
  ∃ value location, headers.get "location" = some value ∧ bytesOf location = value.bytes ∧
    Rfc3986.parse location.toList = some target

/-- Authority, path and query are what RFC 3986 says they are. -/
structure Uri.Conforms (uri : Uri) (authority : String) : Prop where
  authority : Rfc3986.isAuthority authority.toList = true
  path : Rfc3986.isPathAbempty uri.path.toList = true
  query : ∀ query, uri.query = some query → Rfc3986.isQuery query.toList = true

theorem Uri.conforms_iff {uri : Uri} {authority : String} :
    uri.Conforms authority ↔ (uri.secured authority).isValid = true := by
  have scheme : Rfc3986.isScheme "https".toList = true := by decide
  simp only [secured, Rfc3986.Uri.isValid, scheme, Option.all_some, Option.isSome_some, if_true,
    Option.all_none, Bool.and_true, Bool.true_and, Bool.and_eq_true]
  constructor
  · rintro ⟨authority, path, query⟩
    refine ⟨⟨authority, path⟩, ?_⟩
    cases own : uri.query with
    | none => rfl
    | some text => exact query text own
  · rintro ⟨⟨authority, path⟩, query⟩
    refine ⟨authority, path, fun text own => ?_⟩
    simpa [own] using query

/-- The redirect target of a request is the text of the secured resource. -/
theorem httpsUrl_toList {parts : Parts W} {authority : String}
    (own : (RequestFacts.extract parts).host = some authority) :
    (RequestFacts.extract parts).httpsUrl.toList = (parts.uri.secured authority).render := by
  simp only [RequestFacts.httpsUrl, own, Option.getD_some, String.toList_append]
  cases query : parts.uri.query <;>
    simp [RequestFacts.extract, query, Uri.secured, Rfc3986.Uri.render, Rfc3986.glue]

/-- A `Location` made of a target names the resource exactly when its components conform. -/
theorem targets_iff {headers : HeaderMap} {parts : Parts W} {authority : String}
    (own : (RequestFacts.extract parts).host = some authority)
    (composed : headers.get "location" =
      HeaderValue.fromStr (RequestFacts.extract parts).httpsUrl) :
    headers.Targets (parts.uri.secured authority) ↔ parts.uri.Conforms authority := by
  rw [Uri.conforms_iff]
  have text := httpsUrl_toList own
  constructor
  · rintro ⟨value, location, carried, bytes, read⟩
    exact (Rfc3986.parse_eq_some_iff.mp read).1
  · intro valid
    have visible := Rfc3986.Uri.isVisible_render valid
    rw [← text] at visible
    -- Visible ASCII is a header value, so that the field is there.
    have accepted := isHeaderByte_of_visible visible
    refine ⟨⟨bytesOf (RequestFacts.extract parts).httpsUrl, accepted⟩,
      (RequestFacts.extract parts).httpsUrl, ?_, rfl, ?_⟩
    · rw [composed, HeaderValue.fromStr, dif_pos accepted]
    · exact Rfc3986.parse_eq_some_iff.mpr ⟨valid, text.symm⟩

/-! ### The two redirects -/

/-- The guard's redirect carries its location, where that is a header value. -/
theorem redirect_get {answer : HttpsRedirectAnswer} {generated : Generated}
    (shaped : Generated.redirect answer = some generated) :
    generated.headers.get "location" = HeaderValue.fromStr answer.location := by
  obtain ⟨status, -, rfl⟩ := Option.map_eq_some_iff.mp shaped
  have plain : (Generated.plainText status "").headers.get "location" = none := by
    simp [HeaderMap.get, Generated.plainText]
  exact HeaderMap.get_insertText_self headerName_location plain

/-- And so does the redirect of the standalone layer. -/
theorem renderRedirect_get {inner : StageInner W} {answer : HttpsRedirectAnswer}
    {response : InnerResponse W} (shaped : inner.renderRedirect answer = some response) :
    response.headers.get "location" = HeaderValue.fromStr answer.location := by
  obtain ⟨status, -, rfl⟩ := Option.map_eq_some_iff.mp shaped
  exact HeaderMap.get_insertText_self headerName_location rfl

/-- A stage redirects to the URL it is given. -/
structure HttpsEnforcementStage.RedirectsToGiven (stage : HttpsEnforcementStage W) : Prop where
  decide : ∀ path scheme clientHost forwardedProto httpsUrl s answer,
    (stage.decide path scheme clientHost forwardedProto httpsUrl s).1 = some (some answer) →
    answer.location = httpsUrl
  decideRoute : ∀ path scheme clientHost forwardedProto httpsUrl route s answer,
    (stage.decideRoute path scheme clientHost forwardedProto httpsUrl route s).1 =
      some (some answer) →
    answer.location = httpsUrl

/-- No rendered field has this name. -/
def ResponseBits.Lacks (bits : ResponseBits) (name : String) : Prop :=
  ∀ entry ∈ bits.headers, headerName entry.1 ≠ some name

/-- Neither the processor nor the modifier renders a field of this name. -/
structure GuardLayer.RendersNo (layer : GuardLayer W) (name : String) : Prop where
  process : ∀ processor, layer.responseProcessor = some processor → ∀ request bits now s answer,
    bits.Lacks name → (processor.process request bits now s).1 = some answer → answer.1.Lacks name
  modifier : ∀ modifier, layer.responseModifier = some modifier → ∀ bits s answer,
    bits.Lacks name → (modifier bits s).1 = some answer → answer.Lacks name

section Pass

variable {ε : Type} {E : Engine W} {layer : GuardLayer W} {name : String}
  (silent : layer.RendersNo name)

include silent

theorem runModifier_lacks {input : RequestBits} {bits : ResponseBits} (lacks : bits.Lacks name) :
    Prog.Yields (fun bits => bits.Lacks name)
      (runModifier layer input bits : Prog (Store W) (Event W) ε ResponseBits) := by
  unfold runModifier
  split
  next => exact .pure lacks
  next modifier installed =>
    have asked : Prog.Yields (fun bits => bits.Lacks name)
        (notify .responseModifier (modifier bits) :
          Prog (Store W) (Event W) ε ResponseBits) :=
      .ask fun s answer said =>
        silent.modifier modifier installed bits s.other answer lacks said
    refine .bind (.caught asked) fun outcome kept => ?_
    split
    next modified => exact .pure (kept modified rfl)
    next =>
      split
      · exact .bind .any fun _ _ => .pure lacks
      · exact .pure lacks

theorem applyResponseProcessor_get {input : RequestBits} {status : Nat} {headers : HeaderMap}
    {lane : ResponseLane} :
    Prog.Yields (fun (_, passed) => passed.get name = headers.get name)
      (applyResponseProcessor E layer input status headers lane :
        Prog (Store W) (Event W) ε (Option Nat × HeaderMap)) := by
  unfold applyResponseProcessor
  split
  next => exact .pure rfl
  next processor installed =>
    refine .bind .any fun now _ => .bind (P := fun answer => answer.1.Lacks name)
      (.ask fun s answer said => ?_) fun answer lacks => ?_
    · have fresh : ResponseBits.Lacks { status, body := none, headers := [] } name := by
        simp [ResponseBits.Lacks]
      exact silent.process processor installed input _ now s.other answer fresh said
    · exact .bind .any fun _ _ => .bind (runModifier_lacks silent lacks) fun bits kept =>
        .pure (HeaderMap.get_mergeHeaders kept)

theorem finishGenerated_get {parts : Parts W} {generated : Generated} :
    Prog.Yields (fun response => response.headers.get name = generated.headers.get name)
      (finishGenerated E layer parts generated : Prog (Store W) (Event W) ε (Response W)) :=
  .bind (P := fun passed => passed.headers.get name = generated.headers.get name)
    (.bind (applyResponseProcessor_get silent) fun _ same => .pure same)
    fun _ same => .pure same

end Pass

section Redirects

variable {E : Engine W} {service : GuardService W} {request : Request W} {s : Store W}
  {answer : HttpsRedirectAnswer} {authority : String}

/-- The guard's redirect goes to the URL of the request. -/
theorem denied_location
    (given : ∀ stage, service.layer.httpsEnforcement = some stage → stage.RedirectsToGiven)
    (denied : service.Denies E request s .httpsEnforcement (.redirect answer)) :
    answer.location = (RequestFacts.extract request.toParts).httpsUrl := by
  obtain ⟨χ, s₁, trial, payload, s', arrives, applies, ruled, -⟩ :=
    denies_ruled denied (.inl (by decide))
  have facts := arrives.of.facts
  simp only [Check.trial, facts] at applies
  split at applies
  next stage carrier installed _ =>
    cases applies
    obtain ⟨said, decided, ⟨⟩, -⟩ := Trial.screen_denies ruled
    exact (given stage installed).decideRoute _ _ _ _ _ _ _ _ decided
  next stage installed _ =>
    cases applies
    obtain ⟨said, decided, ⟨⟩, -⟩ := Trial.screen_denies ruled
    exact (given stage installed).decide _ _ _ _ _ _ _ decided
  next =>
    obtain ⟨-, ⟨⟩⟩ := Option.ite_none_right_eq_some.mp applies
    obtain ⟨said, decided, ⟨⟩, -⟩ := Trial.screen_denies ruled
    simp only [Call.returning_run, Option.some.injEq, Option.ite_none_right_eq_some] at decided
    obtain ⟨-, rfl⟩ := decided
    rfl
  next => cases applies

/-- The redirect leaves with the location of its answer. -/
theorem denied_redirect_get (silent : service.layer.RendersNo "location") {response : Response W}
    (denied : service.Denies E request s .httpsEnforcement (.redirect answer))
    (leaves : (service.call E request s).flow = .pass (.ok response)) :
    response.headers.get "location" = HeaderValue.fromStr answer.location := by
  obtain ⟨parts, payload, s', ended⟩ := denies_iff.mp denied
  obtain ⟨t, -, answered, -⟩ := call_ending E service request s
  rw [answered, ended, Run.after_flow] at leaves
  obtain ⟨_, s₁, t₁, t₂, -, concluded, -⟩ := Prog.bind_pass_iff.mp (Run.of_flow leaves)
  obtain ⟨rendered, s₂, t₃, t₄, here, same, -⟩ := Prog.bind_pass_iff.mp concluded
  obtain ⟨⟨⟩, -, -⟩ := Prog.pure_pass_iff.mp same
  obtain ⟨generated, s₃, t₅, t₆, shaped, finished, -⟩ := Prog.bind_pass_iff.mp here
  rw [finishGenerated_get silent _ _ _ _ finished]
  exact Prog.Yields.expect (fun _ => redirect_get) _ _ _ _ shaped

/-- The standalone layer's redirect carries its location as well. -/
theorem standalone_redirect_get {stage : HttpsEnforcementStage W} {inner : StageInner W}
    {response : InnerResponse W}
    (denied : ((GuardStageLayer.https stage).decide (.extract request.toParts)
      (headerPairs request.headers) s).1 = some (some (.redirect answer)))
    (leaves : (((GuardStageLayer.https stage).wrap inner).call request s : Run _ _ Empty _).flow =
      .pass (.ok response)) :
    response.headers.get "location" = HeaderValue.fromStr answer.location := by
  have called := GuardStageService.asInner_call inner (.https stage) request s
  have shown : (((GuardStageLayer.https stage).wrap inner).asInner.call request s).1 =
      some (.ok response) := by
    simp only [GuardStageService.asInner]
    rw [leaves]
  rcases decided : (GuardStageLayer.https stage).decide (.extract request.toParts)
    (headerPairs request.headers) s with ⟨said, s'⟩
  rw [decided] at denied called
  dsimp only at denied
  subst denied
  rw [called] at shown
  obtain ⟨rendered, shaped, ⟨⟩⟩ := Option.map_eq_some_iff.mp shown
  exact renderRedirect_get shaped

end Redirects

/-- The redirect of the guard and of the standalone layer names the resource of the request, over
https, exactly when its authority, path and query conform to RFC 3986. -/
theorem redirect_targets_iff (E : Engine W) (request : Request W) (s : Store W)
    (authority : String)
    (own : (RequestFacts.extract request.toParts).host = some authority) :
    (∀ (service : GuardService W) (answer : HttpsRedirectAnswer) (response : Response W),
      (∀ stage, service.layer.httpsEnforcement = some stage → stage.RedirectsToGiven) →
      service.layer.RendersNo "location" →
      service.Denies E request s .httpsEnforcement (.redirect answer) →
      (service.call E request s).flow = .pass (.ok response) →
      (response.headers.Targets (request.uri.secured authority) ↔
        request.uri.Conforms authority)) ∧
    (∀ (stage : HttpsEnforcementStage W) (inner : StageInner W) (answer : HttpsRedirectAnswer)
      (response : InnerResponse W),
      stage.RedirectsToGiven →
      ((GuardStageLayer.https stage).decide (.extract request.toParts)
        (headerPairs request.headers) s).1 = some (some (.redirect answer)) →
      (((GuardStageLayer.https stage).wrap inner).call request s : Run _ _ Empty _).flow =
        .pass (.ok response) →
      (response.headers.Targets (request.uri.secured authority) ↔
        request.uri.Conforms authority)) := by
  refine ⟨fun service answer response given silent denied leaves => ?_,
    fun stage inner answer response given denied leaves => ?_⟩
  · refine targets_iff own ?_
    rw [denied_redirect_get silent denied leaves, denied_location given denied]
  · refine targets_iff own ?_
    rw [standalone_redirect_get denied leaves]
    obtain ⟨said, decided, mapped⟩ := Option.map_eq_some_iff.mp denied
    obtain ⟨_, rfl, ⟨⟩⟩ := Option.map_eq_some_iff.mp mapped
    rw [given.decide _ _ _ _ _ _ _ decided]

/-! ### Hosts -/

/-- A request for a path that is to be redirected, with this host. -/
def hostRequest (host : String) (valid : (bytesOf host).all isHeaderByte = true) :
    Request Bench.world :=
  { Bench.request "GET" "/items" (some { Bench.openRoute with requireHttps := true }) [] with
    headers := [("host", ⟨bytesOf host, valid⟩)] }

def plainHost : Request Bench.world := hostRequest "guard.example:8080" (by decide +kernel)

/-- A host that ends the authority of the target before the path. -/
def fragmentHost : Request Bench.world := hostRequest "guard.example#" (by decide +kernel)

def redirecting : GuardService Bench.world := Bench.layer.wrap Bench.engine Bench.ok

theorem redirecting_silent : redirecting.layer.RendersNo "location" where
  process := fun _ installed => nomatch installed
  modifier := fun _ installed => nomatch installed

/-- The guard redirects the request, to the URL put together from its host. -/
theorem redirecting_denies (request : Request Bench.world)
    (denied : (Check.ending Bench.engine redirecting Check.pipeline (.start request)
      Bench.start).1.answered = some (.httpsEnforcement,
        .redirect ⟨301, (RequestFacts.extract request.toParts).httpsUrl⟩))
    (answers : Bench.answers (redirecting.call Bench.engine request Bench.start) = true) :
    ∃ response, redirecting.Denies Bench.engine request Bench.start .httpsEnforcement
        (.redirect ⟨301, (RequestFacts.extract request.toParts).httpsUrl⟩) ∧
      (redirecting.call Bench.engine request Bench.start).flow = .pass (.ok response) := by
  obtain ⟨response, leaves⟩ := Bench.response_of_answers answers
  exact ⟨response, denied, leaves⟩

/-- A host with a port is redirected to. -/
theorem plain_host_targeted :
    ∃ response, (redirecting.call Bench.engine plainHost Bench.start).flow =
        .pass (.ok response) ∧
      response.headers.Targets (plainHost.uri.secured "guard.example:8080") := by
  obtain ⟨response, denied, leaves⟩ :=
    redirecting_denies plainHost (by decide +kernel) (by decide +kernel)
  exact ⟨response, leaves, ((redirect_targets_iff Bench.engine plainHost Bench.start
    "guard.example:8080" (by decide +kernel)).1 redirecting _ response
    (fun _ installed => nomatch installed) redirecting_silent denied leaves).mpr
    ⟨by decide +kernel, by decide +kernel, fun _ none_ => nomatch none_⟩⟩

/-- A host that ends in `#` turns the path of the target into a fragment. -/
theorem fragment_host_not_targeted :
    ∃ response, (redirecting.call Bench.engine fragmentHost Bench.start).flow =
        .pass (.ok response) ∧
      redirecting.Denies Bench.engine fragmentHost Bench.start .httpsEnforcement
        (.redirect ⟨301, "https://guard.example#/items"⟩) ∧
      ¬response.headers.Targets (fragmentHost.uri.secured "guard.example#") := by
  have url : (RequestFacts.extract fragmentHost.toParts).httpsUrl =
      "https://guard.example#/items" := by decide +kernel
  obtain ⟨response, denied, leaves⟩ :=
    redirecting_denies fragmentHost (by decide +kernel) (by decide +kernel)
  refine ⟨response, leaves, url ▸ denied, fun targets => ?_⟩
  have composed := denied_redirect_get redirecting_silent denied leaves
  have conforms := (targets_iff (by decide +kernel) composed).mp targets
  exact absurd conforms.authority (by decide +kernel)

end TowerGuard
