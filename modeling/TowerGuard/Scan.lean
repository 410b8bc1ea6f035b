import TowerGuard.Consult
import TowerGuard.Text.Hex

/-!
# The detection scan

The request views one engine pass judges, and the pass itself under its panic guard.
-/

namespace TowerGuard

open Text Traced

variable {W : World} {ε : Type}

/-! ### Query decoding -/

/-- `u8::from_str_radix(_, 16)`: digits after at most one plus sign, in range. -/
def u8FromHex (text : Bytes) : Option UInt8 :=
  let digits := match text with
    | 43 :: rest => rest
    | _ => text
  if digits = [] then none
  else
    match digits.mapM fun digit => hexValue digit.toNat with
    | some values =>
      let n := values.foldl (fun n d => n * 16 + d) 0
      if n < 256 then some (UInt8.ofNat n) else none
    | none => none

/-- The escape at the front of `%` followed by two bytes; a split character reads as `""`. -/
def escapedByte (high low : UInt8) : Option UInt8 :=
  u8FromHex (bytesOf ((fromUtf8 [high, low]).getD ""))

/-- The decoding loop: `%` (37) starts an escape when two bytes follow and they decode. -/
def unescape : Bytes → Bytes
  | [] => []
  -- An escape that does not decode stays literal, and its bytes are read again.
  | 37 :: high :: low :: rest =>
    match escapedByte high low with
    | some b => b :: unescape rest
    | none => 37 :: unescape (high :: low :: rest)
  | b :: rest => b :: unescape rest

/-- One turn of the loop as the code indexes it: the byte pushed and the next index. An access
out of range has no result. -/
def decodeTurn (bytes : Bytes) (index : Nat) : Option (UInt8 × Nat) := do
  let b ← bytes[index]?
  if b = 37 ∧ index + 2 < bytes.length then
    let high ← bytes[index + 1]?
    let low ← bytes[index + 2]?
    match escapedByte high low with
    | some byte => some (byte, index + 3)
    | none => some (b, index + 1)
  else some (b, index + 1)

/-- The loop, for as many turns as there is fuel; a loop cut short has no result. -/
def decodeLoop (bytes : Bytes) : Nat → Nat → Bytes → Option Bytes
  | fuel + 1, index, out =>
    if index < bytes.length then do
      let (byte, next) ← decodeTurn bytes index
      decodeLoop bytes fuel next (out ++ [byte])
    else some out
  | 0, index, out => if index < bytes.length then none else some out

/-- `decode_query_component`. -/
def decodeQueryComponent (component : List Char) : String :=
  let plusDecoded := component.map fun c => if c = '+' then ' ' else c
  fromUtf8Lossy (unescape (encode plusDecoded))

example : decodeQueryComponent "a%20b+c%zz%4".toList = "a b c%zz%4" := by decide +kernel

/-! ### Surfaces -/

/-- `EXCLUDED_HEADERS`. -/
def excludedHeaders : List String :=
  ["host", "user-agent", "accept", "accept-encoding", "connection", "origin", "referer"]

def isExcludedHeader (name : String) : Bool :=
  "sec-".toList.isPrefixOf name.toList || excludedHeaders.contains name

/-- The non-empty `&`-separated pieces of the query. -/
def queryPairs (query : Option String) : List (List Char) :=
  ((query.getD "").toList.splitOn '&').filter fun pair => !pair.isEmpty

/-- One pair, split at its first `=` and decoded. -/
def decodePair (pair : List Char) : String × String :=
  match splitOnce '=' pair with
  | some (name, value) => (decodeQueryComponent name, decodeQueryComponent value)
  | none => (decodeQueryComponent pair, "")

/-- The views `scan_views` builds. -/
def scanSurfaces (parts : Parts W) (body : Option Bytes) : RequestSurfaces where
  urlPath := if parts.uri.path = "/" then none else some parts.uri.path
  queryParams := (queryPairs parts.uri.query).map decodePair
  -- `to_str` refuses every byte from 0x80 on, so that such a value is not among the surfaces.
  headers := (parts.headers.filter fun (name, _) => !isExcludedHeader name).filterMap
    fun (name, value) => value.toStr.map fun text => (name, text)
  contentType := (headerValue parts.headers "content-type").getD ""
  rawBody := (body.map fromUtf8Lossy).getD ""

inductive ScanOutcome where
  | clean
  | threat (verdict : RequestScanVerdict)
  | failed
  deriving DecidableEq

/-- The exclusions `scan_views` hands to the scan. -/
def scanExclusions (E : Engine W) (layer : GuardLayer W) (parts : Parts W) :
    W.ResolvedExclusions :=
  E.resolve layer.detectionExclusions parts.extensions.detectionExclusions

/-- How a scan ended: a threat is a finding, not a denial. -/
def Verdict.ofScan : Option RequestScanVerdict → Verdict
  | none => .panicked
  | some verdict => if verdict.isThreat then .flagged else .passed

/-- `scan_views`. -/
def scanViews (E : Engine W) (layer : GuardLayer W) (parts : Parts W) (body : Option Bytes) :
    Prog (Store W) (Event W) ε ScanOutcome := do
  let surfaces := scanSurfaces parts body
  let exclusions := scanExclusions E layer parts
  let verdict ← Prog.ask (fun verdict => ⟨.scan surfaces exclusions, .ofScan verdict⟩)
    (onOther (layer.scanFn surfaces exclusions layer.config))
  pure (if verdict.isThreat then .threat verdict else .clean)

/-- `scan_request`: an engine panic is a failed scan. -/
def scanRequest (E : Engine W) (layer : GuardLayer W) (parts : Parts W) (body : Option Bytes) :
    Prog (Store W) (Event W) ε ScanOutcome := do
  match ← Prog.caught (scanViews E layer parts body) with
  | some outcome => pure outcome
  | none => pure .failed

end TowerGuard
