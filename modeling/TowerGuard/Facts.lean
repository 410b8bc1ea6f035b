import TowerGuard.Layer

/-!
# Request facts

What the guard reads off a request once, before any check: `RequestFacts`, the header
pairs, the observation the engine stage logs, and the input of the response-side pass.
-/

namespace TowerGuard

open Text Traced

variable {W : World}

/-- `header_value`: the first value under the name, when it is visible ASCII. -/
def headerValue (headers : HeaderMap) (name : String) : Option String :=
  (headers.get name).bind HeaderValue.toStr

/-- `header_pairs`: every header whose value reads as a string, in order. -/
def headerPairs (headers : HeaderMap) : List (String × String) :=
  headers.filterMap fun (name, value) => value.toStr.map fun text => (name, text)

structure RequestFacts where
  ip : Option IpAddr
  gate : Option IpGateDecision
  ipString : String
  path : String
  method : String
  scheme : String
  referer : Option String
  userAgent : Option String
  host : Option String
  xForwardedProto : Option String
  origin : Option String
  query : String

namespace RequestFacts

def extract (parts : Parts W) : RequestFacts where
  ip := parts.extensions.clientIp
  gate := parts.extensions.gateDecision
  ipString := (parts.extensions.clientIp.map IpAddr.display).getD ""
  path := parts.uri.path
  method := parts.method
  scheme := parts.uri.scheme.getD "http"
  referer := headerValue parts.headers "referer"
  userAgent := headerValue parts.headers "user-agent"
  host := parts.uri.authority.or (headerValue parts.headers "host")
  xForwardedProto := headerValue parts.headers "x-forwarded-proto"
  origin := headerValue parts.headers "origin"
  query := (parts.uri.query.map ("?" ++ ·)).getD ""

def httpsUrl (facts : RequestFacts) : String :=
  "https://" ++ facts.host.getD "" ++ facts.path ++ facts.query

/-- The client IP string of an attributed request. -/
def attributed (facts : RequestFacts) : Option String := facts.ip.map fun _ => facts.ipString

end RequestFacts

/-- `split_once`: what stands before and behind the first separator. -/
def splitOnce (separator : Char) (text : List Char) : Option (List Char × List Char) :=
  if separator ∈ text then
    some (text.takeWhile (· ≠ separator), (text.dropWhile (· ≠ separator)).drop 1)
  else none

theorem splitOnce_append {separator : Char} {before : List Char} (behind : List Char)
    (first : separator ∉ before) :
    splitOnce separator (before ++ separator :: behind) = some (before, behind) := by
  have ahead : ∀ c ∈ before, decide (c ≠ separator) = true := by
    intro c member
    exact decide_eq_true fun same => first (same ▸ member)
  rw [splitOnce, if_pos (by simp), List.takeWhile_append_of_pos ahead,
    List.dropWhile_append_of_pos ahead]
  simp

/-- `host_of_authority`: userinfo and port stripped, IPv6 brackets removed. -/
def hostOfAuthority (value : String) : String :=
  -- `rsplit`: userinfo ends at the last `@`.
  let hostPort := (value.toList.reverse.takeWhile (· ≠ '@')).reverse
  match hostPort with
  | '[' :: rest => String.ofList (rest.takeWhile (· ≠ ']'))
  | _ =>
    match splitOnce ':' hostPort with
    | some (host, port) =>
      -- What stands behind the first colon is a port only when it is all digits.
      if port ≠ [] ∧ port.all Char.isDigit then String.ofList host else String.ofList hostPort
    | none => String.ofList hostPort

example : hostOfAuthority "user@guard.example:8443" = "guard.example" := by decide +kernel

/-- `request_observation`: method, path with query, and user agent. -/
def requestObservation (parts : Parts W) : RequestObservation where
  method := some parts.method
  url := some (parts.uri.path ++ (parts.uri.query.map ("?" ++ ·)).getD "")
  userAgent := headerValue parts.headers "user-agent"

/-- `threat_finding`. -/
def threatFinding (verdict : Option RequestScanVerdict) : Option ThreatFinding :=
  verdict.map fun verdict =>
    { isThreat := true, categories := verdict.categories, triggerInfo := verdict.reason }

/-- `ProcessorInput::from_facts`, as the pass hands it to the processor. -/
def RequestBits.fromFacts (facts : RequestFacts) : RequestBits where
  method := facts.method
  urlPath := facts.path
  clientIp := facts.ipString
  origin := facts.origin

/-- `ProcessorInput::from_parts`. -/
def RequestBits.fromParts (parts : Parts W) : RequestBits where
  method := parts.method
  urlPath := parts.uri.path
  clientIp := (parts.extensions.clientIp.map IpAddr.display).getD ""
  origin := headerValue parts.headers "origin"

/-- Both lanes of the response-side pass see the same request. -/
theorem RequestBits.fromFacts_extract (parts : Parts W) :
    RequestBits.fromFacts (RequestFacts.extract parts) = RequestBits.fromParts parts := rfl

end TowerGuard
