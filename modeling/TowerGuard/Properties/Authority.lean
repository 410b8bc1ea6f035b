import TowerGuard.StageService
import TowerGuard.Text.Authority

/-!
# The host of an authority

The host that the trusted proxies are compared with is cut out of the request's authority, by one
function in the service and by another in the standalone stages.
-/

namespace TowerGuard

open Text Rfc3986 Traced

/-! ### Behind the last separator -/

theorem afterLast_of_not_mem {c : Char} {text : List Char} (absent : c ∉ text) :
    (text.reverse.takeWhile (· ≠ c)).reverse = text := by
  rw [takeWhile_of_not_mem (by simpa using absent), List.reverse_reverse]

theorem afterLast_append {c : Char} (before : List Char) {behind : List Char}
    (last : c ∉ behind) :
    ((before ++ c :: behind).reverse.takeWhile (· ≠ c)).reverse = behind := by
  rw [List.reverse_append, List.reverse_cons, List.append_assoc, List.singleton_append,
    takeWhile_append before.reverse (by simpa using last), List.reverse_reverse]

/-- The userinfo may hold any delimiter but its own. -/
theorem afterLast_render (authority : Authority) :
    (authority.render.reverse.takeWhile (· ≠ '@')).reverse = authority.hostPort := by
  have last := authority.hostPort_not_mem_at
  rw [Authority.render]
  cases authority.userinfo with
  | none => exact afterLast_of_not_mem last
  | some userinfo =>
    rw [Option.map_some, Option.getD_some, List.append_assoc]
    exact afterLast_append userinfo last

/-! ### The function of the service -/

section service

variable {value : String}

theorem hostOfAuthority_literal {rest : List Char}
    (hostPort : (value.toList.reverse.takeWhile (· ≠ '@')).reverse = '[' :: rest) :
    hostOfAuthority value = String.ofList (rest.takeWhile (· ≠ ']')) := by
  simp only [hostOfAuthority, hostPort]

theorem hostOfAuthority_name {name : List Char}
    (hostPort : (value.toList.reverse.takeWhile (· ≠ '@')).reverse = name)
    (bracket : name.head? ≠ some '[') :
    hostOfAuthority value =
      match splitOnce ':' name with
      | some (host, port) =>
        if port ≠ [] ∧ port.all Char.isDigit then String.ofList host else String.ofList name
      | none => String.ofList name := by
  simp only [hostOfAuthority, hostPort]
  split
  next => simp at bracket
  next => rfl

/-- The port goes with its colon, but an empty port is none, and its colon stays. -/
theorem hostOfAuthority_port {host : List Char} {port : Option (List Char)} (bracket : '[' ∉ host)
    (colon : ':' ∉ host) (digits : port.all isPort = true)
    (hostPort : (value.toList.reverse.takeWhile (· ≠ '@')).reverse = host ++ glue ':' port) :
    hostOfAuthority value =
      String.ofList (if port = some [] then host ++ [':'] else host) := by
  rw [hostOfAuthority_name hostPort (Host.head?_ne_bracket bracket port)]
  cases port with
  | none =>
    rw [glue, Option.map_none, Option.getD_none, List.append_nil, splitOnce, if_neg colon]
    simp
  | some port =>
    rw [glue, Option.map_some, Option.getD_some, splitOnce_append port colon]
    by_cases empty : port = []
    · rw [empty, if_pos rfl]
      rfl
    · rw [if_neg (by simpa using empty)]
      exact if_pos ⟨empty, digits⟩

end service

/-! ### The two copies -/

namespace Stages

theorem splitOn_headD (c : Char) (text other : List Char) :
    (text.splitOn c).headD other = text.takeWhile (· ≠ c) := by
  by_cases member : c ∈ text
  · obtain ⟨before, behind, rfl, first⟩ := List.eq_append_cons_of_mem member
    rw [List.splitOn_append_cons_self_of_not_mem first, takeWhile_append behind first]
    rfl
  · rw [List.splitOn_eq_singleton member, takeWhile_of_not_mem member]
    rfl

theorem rsplit_headD (c : Char) (text other : List Char) :
    (rsplit c text).headD other = (text.reverse.takeWhile (· ≠ c)).reverse := by
  by_cases member : c ∈ text
  · obtain ⟨behind, before, backwards, last⟩ :=
      List.eq_append_cons_of_mem (List.mem_reverse.mpr member)
    have forwards : text = before.reverse ++ c :: behind.reverse := by
      rw [← List.reverse_reverse text, backwards]
      simp
    have last : c ∉ behind.reverse := by simpa using last
    rw [forwards, afterLast_append _ last, rsplit, List.splitOn_append_cons_self,
      List.splitOn_eq_singleton last]
    simp
  · rw [rsplit, List.splitOn_eq_singleton member, afterLast_of_not_mem member]
    rfl

theorem isDigit_eq (c : Char) : c.isDigit = (0x30 ≤ c.toNat && c.toNat ≤ 0x39) := rfl

/-- A digit is a byte, and no byte of a longer character is a digit. -/
theorem all_isAsciiDigit_encodeChar (c : Char) :
    (String.utf8EncodeChar c).all isAsciiDigit = c.isDigit := by
  rcases Nat.lt_or_ge c.toNat 0x80 with ascii | high
  · have byte : (UInt8.ofNat c.toNat).toNat = c.toNat := toNat_ofNat (by omega)
    rw [encodeChar_of_ascii ascii, List.all_cons, List.all_nil, Bool.and_true, isAsciiDigit, byte,
      isDigit_eq]
  · have noDigit : c.isDigit = false := by
      rw [isDigit_eq, Bool.and_eq_false_iff]
      exact .inr (decide_eq_false (by omega))
    obtain ⟨byte, first⟩ := List.exists_mem_of_ne_nil _ (String.utf8EncodeChar_ne_nil (c := c))
    have large := encodeChar_high high byte first
    refine noDigit ▸ List.all_eq_false.mpr ⟨byte, first, ?_⟩
    rw [isAsciiDigit, Bool.and_eq_true, decide_eq_true_eq, decide_eq_true_eq]
    omega

theorem all_isAsciiDigit_encode (text : List Char) :
    (encode text).all isAsciiDigit = text.all Char.isDigit := by
  rw [encode, List.all_flatMap]
  congr 1
  exact funext all_isAsciiDigit_encodeChar

theorem hostOfAuthority_eq (value : String) :
    hostOfAuthority value = TowerGuard.hostOfAuthority value := by
  simp only [hostOfAuthority, rsplit_headD, splitOn_headD, all_isAsciiDigit_encode]
  cases hostPort : (value.toList.reverse.takeWhile (· ≠ '@')).reverse with
  | nil =>
    rw [hostOfAuthority_name hostPort (by simp)]
    rfl
  | cons c rest =>
    by_cases bracket : c = '['
    · rw [bracket] at hostPort
      rw [hostOfAuthority_literal hostPort, stripPrefix, if_pos bracket]
    · rw [stripPrefix, if_neg bracket]
      exact (hostOfAuthority_name hostPort (by simpa using bracket)).symm

end Stages

/-! ### The host of an authority as it is written -/

/-- What is compared: the host alone, and the colon of an empty port behind a host without
brackets. -/
def comparedHost (authority : Authority) : List Char :=
  if authority.host.isBracketed = false ∧ authority.port = some [] then
    authority.host.bare ++ [':']
  else authority.host.bare

theorem hostOfAuthority_render (authority : Authority) :
    hostOfAuthority (String.ofList authority.render) =
      String.ofList (comparedHost authority) := by
  have hostPort : ((String.ofList authority.render).toList.reverse.takeWhile (· ≠ '@')).reverse =
      authority.hostPort := by rw [String.toList_ofList, afterLast_render]
  rw [comparedHost]
  cases bracketed : authority.host.isBracketed with
  | true =>
    have closed : ']' ∉ authority.host.bare := authority.host.bare_not_mem (by simp)
    rw [Authority.hostPort_bracketed bracketed] at hostPort
    rw [hostOfAuthority_literal hostPort, takeWhile_append _ closed]
    simp
  | false =>
    have bracket : '[' ∉ authority.host.bare := authority.host.bare_not_mem (by simp)
    rw [Authority.hostPort_unbracketed bracketed] at hostPort
    rw [hostOfAuthority_port bracket (Host.bare_not_mem_colon bracketed) authority.port_isPort
      hostPort]
    simp

/-- Both copies undo the syntax of authorities, but for the empty port; on any other text, too,
they return the same. -/
theorem hostOfAuthority_inverts :
    (∀ authority : Authority,
      hostOfAuthority (String.ofList authority.render) =
          String.ofList (comparedHost authority) ∧
        Stages.hostOfAuthority (String.ofList authority.render) =
          String.ofList (comparedHost authority)) ∧
      ∀ value, hostOfAuthority value = Stages.hostOfAuthority value := by
  refine ⟨fun authority => ⟨hostOfAuthority_render authority, ?_⟩, fun value =>
    (Stages.hostOfAuthority_eq value).symm⟩
  rw [Stages.hostOfAuthority_eq]
  exact hostOfAuthority_render authority

theorem isWord_guardExample : isWord isRegNameChar "guard.example".toList = true := by
  decide +kernel

/-- `guard.example:`, the delimiter of a port and no digit behind it. -/
def emptyPort : Authority where
  userinfo := none
  host := .regName "guard.example".toList isWord_guardExample
  port := some []
  userinfo_not_mem := nofun
  port_isPort := rfl

theorem hostOfAuthority_emptyPort :
    String.ofList emptyPort.render = "guard.example:" ∧
      hostOfAuthority (String.ofList emptyPort.render) ≠ String.ofList emptyPort.host.bare ∧
      Stages.hostOfAuthority (String.ofList emptyPort.render) ≠
        String.ofList emptyPort.host.bare := by
  decide +kernel

/-- Out of any authority the grammar accepts the host is read so. -/
theorem hostOfAuthority_of_isAuthority {value : String}
    (valid : isAuthority value.toList = true) :
    ∃ authority : Authority, String.ofList authority.render = value ∧
      hostOfAuthority value = String.ofList (comparedHost authority) := by
  obtain ⟨authority, rendered, -⟩ := isAuthority_iff.mp valid
  have text : String.ofList authority.render = value := by rw [rendered, String.ofList_toList]
  exact ⟨authority, text, text ▸ hostOfAuthority_render authority⟩

/-! ### The standalone stage -/

/-- The host the standalone stage decides over may be read by the copy of its own module. -/
theorem GuardStageLayer.decide_https {W : World} (stage : HttpsEnforcementStage W)
    (facts : RequestFacts) (headers : List (String × String)) :
    (GuardStageLayer.https stage).decide facts headers =
      Call.map (Option.map .redirect)
        (onOther (stage.decide facts.path facts.scheme (facts.host.map Stages.hostOfAuthority)
          facts.xForwardedProto facts.httpsUrl)) := by
  rw [funext Stages.hostOfAuthority_eq]
  rfl

end TowerGuard
