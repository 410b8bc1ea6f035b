import TowerGuard.Text.Utf8

/-!
# HTTP values

The parts of the `http` and `std::net` types the guard reads: status codes, header
values and maps, URIs and addresses. A status code or a header value that the crates
would refuse cannot be built here either.
-/

namespace TowerGuard

open Text

/-- `http::StatusCode`. -/
def StatusCode := { code : Nat // 100 ≤ code ∧ code < 1000 }
  deriving DecidableEq

/-- `StatusCode::from_u16`: only the codes 100 to 999 convert. -/
def StatusCode.fromU16 (code : Nat) : Option StatusCode :=
  if valid : 100 ≤ code ∧ code < 1000 then some ⟨code, valid⟩ else none

def StatusCode.asU16 (status : StatusCode) : Nat := status.val

theorem StatusCode.fromU16_asU16 (status : StatusCode) :
    StatusCode.fromU16 status.asU16 = some status :=
  dif_pos status.property

theorem StatusCode.asU16_fromU16 {code : Nat} {status : StatusCode}
    (converts : fromU16 code = some status) : status.asU16 = code := by
  unfold fromU16 at converts
  split at converts
  · obtain rfl := Option.some.inj converts
    rfl
  · cases converts

/-- A byte a header value may hold: anything but the controls other than tab. -/
def isHeaderByte (b : UInt8) : Bool := b.toNat = 9 ∨ (32 ≤ b.toNat ∧ b.toNat ≠ 127)

/-- Visible ASCII, space or tab: what `HeaderValue::to_str` accepts. -/
def isVisibleAscii (b : UInt8) : Bool := b.toNat = 9 ∨ (32 ≤ b.toNat ∧ b.toNat < 127)

/-- `StatusCode::FORBIDDEN`. -/
def StatusCode.forbidden : StatusCode := ⟨403, by decide⟩

/-- `http::HeaderValue`: opaque bytes, obs-text included. -/
structure HeaderValue where
  bytes : Bytes
  valid : bytes.all isHeaderByte = true
  deriving DecidableEq

/-- `HeaderValue::to_str`. -/
def HeaderValue.toStr (value : HeaderValue) : Option String :=
  if value.bytes.all isVisibleAscii then
    some (String.ofList (value.bytes.map fun b => Char.ofNat b.toNat))
  else none

/-- `HeaderValue::from_str`. -/
def HeaderValue.fromStr (text : String) : Option HeaderValue :=
  if valid : (bytesOf text).all isHeaderByte = true then some ⟨bytesOf text, valid⟩ else none

/-- `to_str` gives the text whose bytes the value holds. -/
theorem HeaderValue.bytesOf_toStr {value : HeaderValue} {text : String}
    (h : value.toStr = some text) : bytesOf text = value.bytes := by
  unfold toStr at h
  split at h
  next visible =>
    obtain rfl := Option.some.inj h
    rw [bytesOf, String.toList_ofList]
    apply encode_ascii
    intro b member
    have seen := List.all_eq_true.mp visible b member
    simp only [isVisibleAscii, decide_eq_true_eq] at seen
    omega
  next => simp at h

theorem HeaderValue.toStr_isSome_iff (value : HeaderValue) :
    value.toStr.isSome = true ↔ ∀ b ∈ value.bytes, isVisibleAscii b = true := by
  unfold toStr
  split <;> simp_all

/-- `http::HeaderMap` in iteration order. Names are lowercase, as the map stores them. -/
abbrev HeaderMap := List (String × HeaderValue)

/-- `HeaderMap::get`: the first value under the name. -/
def HeaderMap.get (headers : HeaderMap) (name : String) : Option HeaderValue :=
  (headers.find? fun entry => entry.1 = name).map Prod.snd

/-- `HeaderMap::insert`: one value takes the place of all values under the name. -/
def HeaderMap.insert (headers : HeaderMap) (name : String) (value : HeaderValue) : HeaderMap :=
  if headers.any fun entry => entry.1 = name then
    let before := headers.takeWhile fun entry => entry.1 ≠ name
    let behind := headers.dropWhile fun entry => entry.1 ≠ name
    before ++ (name, value) :: behind.filter fun entry => entry.1 ≠ name
  else headers ++ [(name, value)]

/-- The characters of a header field name (RFC 9110 `token`). -/
def isTokenChar (c : Char) : Bool :=
  c.isAlphanum || "!#$%&'*+-.^_`|~".toList.contains c

/-- `HeaderName::try_from`: a non-empty token of at most `MAX_HEADER_NAME_LEN` bytes, stored in
lowercase. -/
def headerName (name : String) : Option String :=
  if name.toList ≠ [] ∧ name.toList.length ≤ 0xFFFF ∧ name.toList.all isTokenChar then
    some (String.ofList (name.toList.map Char.toLower))
  else none

/-- Insert a header given as text; a name or value the crate refuses changes nothing. -/
def HeaderMap.insertText (headers : HeaderMap) (name value : String) : HeaderMap :=
  match headerName name, HeaderValue.fromStr value with
  | some name, some value => headers.insert name value
  | _, _ => headers

/-- `http::Version`. -/
inductive HttpVersion where
  | http09 | http10 | http11 | http2 | http3
  deriving DecidableEq

/-- `http::Uri`, through the accessors the guard calls. -/
structure Uri where
  scheme : Option String
  authority : Option String
  path : String
  query : Option String
  deriving DecidableEq

/-- `std::net::IpAddr`. -/
inductive IpAddr where
  | v4 (a b c d : UInt8)
  | v6 (segments : Vector UInt16 8)
  deriving DecidableEq

/-- The first longest run of zero segments: its start and its length. -/
def longestZeros (segments : List UInt16) : Nat × Nat :=
  let scanned := segments.zipIdx.foldl (fun (longest, current) (segment, i) =>
    if segment = 0 then
      -- A run counts from its first zero, and only a longer one takes its place.
      let current := if current.2 = 0 then (i, 1) else (current.1, current.2 + 1)
      (if longest.2 < current.2 then current else longest, current)
    else (longest, (0, 0))) ((0, 0), (0, 0))
  scanned.1

def hexGroups (segments : List UInt16) : String :=
  ":".intercalate (segments.map fun s => String.ofList (Nat.toDigits 16 s.toNat))

def dottedQuad (a b c d : Nat) : String :=
  ".".intercalate [toString a, toString b, toString c, toString d]

/-- `IpAddr::to_string`: dotted quads, and the compressed form of RFC 5952. -/
def IpAddr.display : IpAddr → String
  | .v4 a b c d => dottedQuad a.toNat b.toNat c.toNat d.toNat
  | .v6 segments =>
    let groups := segments.toList
    if groups.take 6 = [0, 0, 0, 0, 0, 0xffff] then
      let high := (groups.getD 6 0).toNat
      let low := (groups.getD 7 0).toNat
      "::ffff:" ++ dottedQuad (high / 256) (high % 256) (low / 256) (low % 256)
    else
      let (start, length) := longestZeros groups
      if 1 < length then
        hexGroups (groups.take start) ++ "::" ++ hexGroups (groups.drop (start + length))
      else hexGroups groups

/-- A separated list of two or more is not empty. -/
private theorem intercalate_ne_empty {separator first second : String} {rest : List String}
    (visible : separator ≠ "") : separator.intercalate (first :: second :: rest) ≠ "" := by
  rw [String.intercalate_cons_cons]
  intro empty
  exact visible (String.append_eq_empty_iff.mp (String.append_eq_empty_iff.mp empty).1).2

/-- No address displays as the empty string. -/
theorem IpAddr.display_ne_empty (ip : IpAddr) : ip.display ≠ "" := by
  cases ip with
  | v4 a b c d => exact intercalate_ne_empty (by decide)
  | v6 segments =>
    have eight : segments.toList.length = 8 := segments.length_toList
    unfold display
    dsimp only
    split
    · simp
    · rcases longestZeros segments.toList with ⟨start, length⟩
      dsimp only
      split
      · simp
      · match segments.toList, eight with
        | _ :: _ :: _, _ => exact intercalate_ne_empty (by decide)

/-- One poll of a request body: the clean end is the end of the list. -/
inductive BodyPoll where
  | pending
  | data (bytes : Bytes)
  | trailers
  | failed
  deriving DecidableEq

/-- What a request body will yield, poll by poll. -/
abbrev Body := List BodyPoll

/-- The bytes of the data frames, in order. -/
def Body.content : Body → Bytes
  | [] => []
  | .data bytes :: rest => bytes ++ Body.content rest
  | .pending :: rest | .trailers :: rest | .failed :: rest => Body.content rest

end TowerGuard
