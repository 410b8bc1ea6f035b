import TowerGuard.Consult

/-!
# Responses and the response-side pass

The shapes of the guard's own answers, and the pass every response but a preflight answer
goes through: the processor, the `security_headers_applied` event, the response modifier,
and the merge of what they rendered.
-/

namespace TowerGuard

open Text Traced

variable {W : World} {ε : Type}

def blockedMessage : String := "Suspicious activity detected"
def forbiddenMessage : String := "Forbidden"
def bannedMessage : String := "IP address banned"
def activityBannedMessage : String := "IP has been banned"
def oversizeMessage : String := "Payload too large"
def failureMessage : String := "Security check failed"

/-- A guard answer before it becomes a `GuardBody::Generated`: `Response<Full<Bytes>>`. -/
structure Generated where
  status : StatusCode
  headers : HeaderMap
  body : Bytes

namespace Generated

def plainTextType : HeaderValue := ⟨bytesOf "text/plain; charset=utf-8", by decide +kernel⟩

/-- `plain_text` and `plain_text_owned`. -/
def plainText (status : StatusCode) (message : String) : Generated where
  status := status
  headers := [("content-type", plainTextType)]
  body := bytesOf message

def oversize : Generated := plainText ⟨413, by decide⟩ oversizeMessage

def failure : Generated := plainText ⟨500, by decide⟩ failureMessage

/-- `blocked_with_body`: a status that is no HTTP status panics (`expect`). -/
def blockedWithBody (status : Nat) (message : String) : Option Generated :=
  (StatusCode.fromU16 status).map fun status => plainText status message

def redirect (answer : HttpsRedirectAnswer) : Option Generated :=
  (StatusCode.fromU16 answer.status).map fun status =>
    let shaped := plainText status ""
    { shaped with headers := shaped.headers.insertText "location" answer.location }

def stage (response : StageResponse) : Generated :=
  let shaped := plainText response.status (response.customBody.getD response.body)
  match response.retryAfter with
  | some seconds =>
    { shaped with headers := shaped.headers.insertText "retry-after" (toString seconds) }
  | none => shaped

/-- The rendering half of `preflight_answer`. -/
def preflight (answer : PreflightAnswer) : Option Generated :=
  (blockedWithBody answer.statusCode answer.body).map fun generated =>
    { generated with
      headers := answer.headers.foldl (fun headers (name, value) =>
        headers.insertText name value) generated.headers }

end Generated

/-! ### The response-side pass -/

inductive ResponseLane where
  | forwarded | generated
  deriving DecidableEq

/-- `emit_headers_applied_event`. -/
def emitHeadersAppliedEvent (E : Engine W) (layer : GuardLayer W)
    (processor : ResponseProcessor W) (input : RequestBits) (lane : ResponseLane) :
    Prog (Store W) (Event W) ε Unit :=
  -- A guard answer gets the headers without the event.
  if lane = .forwarded then
    match processor.securityHeaders.filter SecurityHeadersConfig.enabled, layer.events with
    | some config, some bus =>
      let set := E.securityHeaders config
      let event : HeadersAppliedEvent :=
        { path := input.urlPath
          headersCount := set.length
          hasCsp := set.any (·.1 = "Content-Security-Policy")
          hasHsts := set.any (·.1 = "Strict-Transport-Security")
          clientIp := input.clientIp }
      notify (.headersEvent event) (bus.sendEvent event)
    | _, _ => pure ()
  else pure ()

/-- The modifier's turn: a panic restores the view and is reported to the hook. -/
def runModifier (layer : GuardLayer W) (input : RequestBits) (bits : ResponseBits) :
    Prog (Store W) (Event W) ε ResponseBits :=
  match layer.responseModifier with
  | none => pure bits
  | some modifier => do
    match ← Prog.caught (notify .responseModifier (modifier bits)) with
    | some modified => pure modified
    | none =>
      match layer.onError with
      | some hook => do
        -- The hook itself runs outside `catch_unwind`.
        notify .onError (hook "custom_response_modifier"
          "the response modifier panicked; returning unmodified response"
          [("path", input.urlPath)])
        pure bits
      | none => pure bits

/-- The rendered headers land on the response; an invalid name or value drops out. -/
def mergeHeaders (headers : HeaderMap) (rendered : List (String × String)) : HeaderMap :=
  rendered.foldl (fun headers (name, value) => headers.insertText name value) headers

/-- `apply_response_processor`: the status change, if any, and the headers. -/
def applyResponseProcessor (E : Engine W) (layer : GuardLayer W) (input : RequestBits)
    (status : Nat) (headers : HeaderMap) (lane : ResponseLane) :
    Prog (Store W) (Event W) ε (Option Nat × HeaderMap) :=
  match layer.responseProcessor with
  | none => pure (none, headers)
  | some processor => do
    let now ← Prog.reads fun s => E.now s.other
    -- The body is never captured, so that only `status:` rules can match.
    let (bits, _action) ← Prog.ask (fun answer => ⟨.process input status, .ofAction answer⟩)
      (onOther (processor.process input { status, body := none, headers := [] } now))
    emitHeadersAppliedEvent E layer processor input lane
    let bits ← runModifier layer input bits
    -- Reported only when it differs; the headers land in either case.
    let modifiedStatus := if bits.status ≠ status then some bits.status else none
    pure (modifiedStatus, mergeHeaders headers bits.headers)

/-- A modified status that is no HTTP status leaves the response's own. -/
def overrideStatus (status : StatusCode) (modified : Option Nat) : StatusCode :=
  (modified.bind StatusCode.fromU16).getD status

/-- The pass over a guard answer; `block_response_owned` ends here. -/
def passGenerated (E : Engine W) (layer : GuardLayer W) (parts : Parts W)
    (generated : Generated) : Prog (Store W) (Event W) ε Generated := do
  let (modified, headers) ← applyResponseProcessor E layer (.fromParts parts)
    generated.status.asU16 generated.headers .generated
  pure { generated with status := overrideStatus generated.status modified, headers }

def Generated.response (generated : Generated) : Response W where
  status := generated.status
  headers := generated.headers
  body := .generated generated.body

/-- `finish_generated`. -/
def finishGenerated (E : Engine W) (layer : GuardLayer W) (parts : Parts W)
    (generated : Generated) : Prog (Store W) (Event W) ε (Response W) := do
  let finished ← passGenerated E layer parts generated
  pure finished.response

/-- `block_response`. -/
def blockResponse (E : Engine W) (layer : GuardLayer W) (parts : Parts W) (status : Nat)
    (body : String) : Prog (Store W) (Event W) ε (Response W) := do
  let generated ← Prog.expect (Generated.blockedWithBody status body)
  finishGenerated E layer parts generated

end TowerGuard
