import TowerGuard.Text.Rfc3986

/-!
# Authorities

The parts of an authority, each of its own grammar, and the text they are written as. The
userinfo may be any text that ends neither itself nor the authority; where it is of its grammar
too, the text is one that the grammar of authorities accepts, and all of those are written so.
-/

namespace Rfc3986

/-! ### Characters of a cut text -/

/-- A property of a text, by the pieces between delimiters. -/
theorem forall_of_splitOn {P : Char → Prop} {d : Char} (delimiter : P d) {text : List Char}
    (pieces : ∀ piece ∈ text.splitOn d, ∀ c ∈ piece, P c) : ∀ c ∈ text, P c := by
  induction text with
  | nil => simp
  | cons first rest ih =>
    rw [List.splitOn_cons_eq_if_modifyHead] at pieces
    obtain ⟨piece, others, parts⟩ := List.exists_cons_of_ne_nil (List.splitOn_ne_nil d rest)
    rw [parts] at pieces ih
    split at pieces
    next same =>
      refine List.forall_mem_cons.mpr ⟨eq_of_beq same ▸ delimiter, ih fun part member => ?_⟩
      exact pieces part (List.mem_cons_of_mem [] member)
    next =>
      obtain ⟨front, behind⟩ := List.forall_mem_cons.mp pieces
      obtain ⟨here, front⟩ := List.forall_mem_cons.mp front
      exact List.forall_mem_cons.mpr ⟨here, ih (List.forall_mem_cons.mpr ⟨front, behind⟩)⟩

theorem eq_of_cutElision {text before behind : List Char}
    (parts : cutElision text = some (before, behind)) : text = before ++ ':' :: ':' :: behind := by
  fun_induction cutElision text generalizing before with
  | case1 rest =>
    cases parts
    rfl
  | case2 c rest _ ih =>
    obtain ⟨⟨front, later⟩, inner, same⟩ := Option.map_eq_some_iff.mp parts
    cases same
    rw [ih inner]
    rfl
  | case3 => cases parts

/-! ### Characters of the addresses -/

section addresses

variable {P : Char → Prop}

theorem isIPv4Address_forall (digit : ∀ c, c.isDigit = true → P c) (dot : P '.')
    {text : List Char} (valid : isIPv4Address text = true) : ∀ c ∈ text, P c := by
  rw [isIPv4Address, Bool.and_eq_true] at valid
  refine forall_of_splitOn dot fun piece member c inside => ?_
  have octet := List.all_eq_true.mp valid.2 piece member
  rw [isDecOctet, Bool.and_eq_true, Bool.and_eq_true] at octet
  exact digit c (List.all_eq_true.mp octet.1.1 c inside)

theorem isH16_forall (digit : ∀ c, isHexDigit c = true → P c) {text : List Char}
    (valid : isH16 text = true) : ∀ c ∈ text, P c := by
  rw [isH16, Bool.and_eq_true] at valid
  exact fun c member => digit c (List.all_eq_true.mp valid.2 c member)

theorem groups_forall (colon : P ':') {text : List Char}
    (parts : ∀ part ∈ groups text, ∀ c ∈ part, P c) : ∀ c ∈ text, P c := by
  unfold groups at parts
  split at parts
  next empty => simp [empty]
  next => exact forall_of_splitOn colon parts

theorem pieces_forall (digit : ∀ c, isHexDigit c = true → P c) (dot : P '.')
    {parts : List (List Char)} {n : Nat} (counted : pieces parts = some n) :
    ∀ part ∈ parts, ∀ c ∈ part, P c := by
  fun_induction pieces parts generalizing n with
  | case1 => simp
  | case2 last valid => simpa using isH16_forall digit valid
  | case3 last _ valid =>
    simpa using isIPv4Address_forall (fun c own => digit c (by simp [isHexDigit, own])) dot valid
  | case4 => cases counted
  | case5 part rest _ valid ih =>
    obtain ⟨n, inner, -⟩ := Option.map_eq_some_iff.mp counted
    exact List.forall_mem_cons.mpr ⟨isH16_forall digit valid, ih inner⟩
  | case6 => cases counted

theorem isIPv6Address_forall (digit : ∀ c, isHexDigit c = true → P c) (dot : P '.')
    (colon : P ':') {text : List Char} (valid : isIPv6Address text = true) :
    ∀ c ∈ text, P c := by
  unfold isIPv6Address at valid
  split at valid
  next => exact groups_forall colon (pieces_forall digit dot (of_decide_eq_true valid))
  next before behind parts =>
    rw [Bool.and_eq_true] at valid
    obtain ⟨n, counted, -⟩ := (Option.any_eq_true ..).mp valid.2
    have front : ∀ c ∈ before, P c := groups_forall colon fun part member =>
      isH16_forall digit (List.all_eq_true.mp valid.1 part member)
    have back : ∀ c ∈ behind, P c := groups_forall colon (pieces_forall digit dot counted)
    rw [eq_of_cutElision parts, List.forall_mem_append]
    exact ⟨front, List.forall_mem_cons.mpr ⟨colon, List.forall_mem_cons.mpr ⟨colon, back⟩⟩⟩

end addresses

/-! ### Hosts -/

inductive Host where
  | regName (name : List Char) (valid : isWord isRegNameChar name = true)
  | ipv4 (address : List Char) (valid : isIPv4Address address = true)
  | ipv6 (address : List Char) (valid : isIPv6Address address = true)
  | ipvFuture (address : List Char) (valid : isIPvFuture address = true)
    (plain : address.all isUserinfoChar = true)

namespace Host

/-- The host alone, without brackets. -/
def bare : Host → List Char
  | regName name _ => name
  | ipv4 address _ => address
  | ipv6 address _ => address
  | ipvFuture address _ _ => address

def isBracketed : Host → Bool
  | regName .. => false
  | ipv4 .. => false
  | ipv6 .. => true
  | ipvFuture .. => true

def render (host : Host) : List Char :=
  if host.isBracketed then '[' :: host.bare ++ [']'] else host.bare

/-- The characters of a host: the colon is one of them between brackets only. -/
theorem bare_forall (host : Host) :
    ∀ c ∈ host.bare, c = '%' ∨ isRegNameChar c = true ∨ (host.isBracketed = true ∧ c = ':') := by
  have hex : ∀ c, isHexDigit c = true →
      c = '%' ∨ isRegNameChar c = true ∨ (host.isBracketed = true ∧ c = ':') :=
    fun c digit => .inr (.inl (isRegNameChar_of_isHexDigit digit))
  have dot : isRegNameChar '.' = true := by decide
  cases host with
  | regName name valid =>
    exact isWord_forall (.inl rfl) hex (fun c own => .inr (.inl own)) valid
  | ipv4 address valid =>
    exact isIPv4Address_forall (fun c digit => hex c (by simp [isHexDigit, digit]))
      (.inr (.inl dot)) valid
  | ipv6 address valid =>
    exact isIPv6Address_forall hex (.inr (.inl dot)) (.inr (.inr ⟨rfl, rfl⟩)) valid
  | ipvFuture address valid plain =>
    intro c member
    have own := List.all_eq_true.mp plain c member
    rw [isUserinfoChar, Bool.or_eq_true, decide_eq_true_eq] at own
    exact own.elim (fun name => .inr (.inl name)) fun colon => .inr (.inr ⟨rfl, colon⟩)

theorem bare_not_mem (host : Host) {d : Char} (delimiter : d ∈ ['@', '[', ']']) :
    d ∉ host.bare := by
  have outside : ∀ d ∈ ['@', '[', ']'], d ≠ '%' ∧ isRegNameChar d = false ∧ d ≠ ':' := by
    intro d listed
    simp only [List.mem_cons, List.not_mem_nil, or_false] at listed
    rcases listed with rfl | rfl | rfl <;> decide
  obtain ⟨percent, name, colon⟩ := outside d delimiter
  intro member
  rcases host.bare_forall d member with same | own | ⟨-, same⟩
  · exact percent same
  · exact absurd own (by simp [name])
  · exact colon same

theorem bare_not_mem_colon {host : Host} (unbracketed : host.isBracketed = false) :
    ':' ∉ host.bare := by
  intro member
  rcases host.bare_forall ':' member with same | own | ⟨bracketed, -⟩
  · exact absurd same (by decide)
  · exact absurd own (by decide)
  · simp [unbracketed] at bracketed

theorem head?_ne_bracket {host : List Char} (absent : '[' ∉ host) (port : Option (List Char)) :
    (host ++ glue ':' port).head? ≠ some '[' := by
  intro first
  cases host with
  | nil => cases port <;> cases first
  | cons c host => exact List.ne_of_not_mem_cons absent (Option.some.inj first).symm

theorem render_not_mem_at (host : Host) : '@' ∉ host.render := by
  have inside : '@' ∉ host.bare := host.bare_not_mem (by simp)
  unfold render
  split
  · simpa using inside
  · exact inside

end Host

/-! ### Authorities -/

structure Authority where
  userinfo : Option (List Char)
  host : Host
  port : Option (List Char)
  userinfo_not_mem : ∀ text ∈ userinfo, ∀ d ∈ ['@', '/', '?', '#'], d ∉ text
  port_isPort : port.all isPort = true

namespace Authority

variable (authority : Authority)

/-- What stands behind the userinfo. -/
def hostPort : List Char := authority.host.render ++ glue ':' authority.port

def render : List Char :=
  (authority.userinfo.map (· ++ ['@'])).getD [] ++ authority.hostPort

variable {authority} in
theorem hostPort_bracketed (bracketed : authority.host.isBracketed = true) :
    authority.hostPort = '[' :: (authority.host.bare ++ ']' :: glue ':' authority.port) := by
  rw [hostPort, Host.render, if_pos bracketed, List.append_assoc, List.singleton_append,
    List.cons_append]

variable {authority} in
theorem hostPort_unbracketed (unbracketed : authority.host.isBracketed = false) :
    authority.hostPort = authority.host.bare ++ glue ':' authority.port := by
  rw [hostPort, Host.render, if_neg (by simp [unbracketed])]

theorem hostPort_not_mem_at : '@' ∉ authority.hostPort := by
  obtain ⟨userinfo, host, port, -, digits⟩ := authority
  rw [hostPort, List.mem_append]
  rintro (front | behind)
  · exact host.render_not_mem_at front
  · cases port with
    | none => cases behind
    | some port =>
      have member : '@' ∈ port := by simpa [glue] using behind
      exact absurd (List.all_eq_true.mp digits '@' member) (by decide)

end Authority

/-! ### Authorities and their grammar -/

theorem isWord_of_forall {allowed : Char → Bool} {text : List Char}
    (kind : ∀ c ∈ text, c ≠ '%' ∧ allowed c = true) : isWord allowed text = true := by
  fun_induction isWord allowed text with
  | case1 => rfl
  | case2 => exact absurd rfl (kind '%' (by simp)).1
  | case3 c rest _ ih =>
    obtain ⟨⟨percent, own⟩, others⟩ := List.forall_mem_cons.mp kind
    simp [percent, own, ih others]

namespace Host

theorem isWord_bare {host : Host} (unbracketed : host.isBracketed = false) :
    isWord isRegNameChar host.bare = true := by
  cases host with
  | regName name valid => exact valid
  | ipv4 address valid =>
    refine isWord_of_forall (isIPv4Address_forall (fun c digit => ⟨?_, ?_⟩) (by decide) valid)
    · rintro rfl
      exact absurd digit (by decide)
    · exact isRegNameChar_of_isHexDigit (by simp [isHexDigit, digit])
  | ipv6 => cases unbracketed
  | ipvFuture => cases unbracketed

theorem isIPLiteral_bare {host : Host} (bracketed : host.isBracketed = true) :
    isIPLiteral host.bare = true := by
  rw [isIPLiteral, Bool.and_eq_true, Bool.or_eq_true]
  cases host with
  | regName => cases bracketed
  | ipv4 => cases bracketed
  | ipv6 address valid =>
    have hex : ∀ c, isHexDigit c = true → isUserinfoChar c = true := fun c digit => by
      simp [isUserinfoChar, isRegNameChar_of_isHexDigit digit]
    exact ⟨List.all_eq_true.mpr (isIPv6Address_forall hex (by decide) (by decide) valid),
      .inl valid⟩
  | ipvFuture address valid plain => exact ⟨plain, .inr valid⟩

end Host

namespace Authority

theorem isHostPort_hostPort (authority : Authority) :
    isHostPort authority.hostPort = true := by
  have digits := authority.port_isPort
  cases bracketed : authority.host.isBracketed with
  | true =>
    have literal := Host.isIPLiteral_bare bracketed
    have closed : ']' ∉ authority.host.bare := authority.host.bare_not_mem (by simp)
    rw [hostPort_bracketed bracketed, isHostPort, cut_append closed]
    cases written : authority.port with
    | none => exact literal
    | some port =>
      rw [written] at digits
      exact (Bool.and_eq_true _ _).mpr ⟨literal, digits⟩
  | false =>
    have bracket : '[' ∉ authority.host.bare := authority.host.bare_not_mem (by simp)
    rw [hostPort_unbracketed bracketed, isHostPort.eq_def]
    split
    next rest same =>
      exact absurd (congrArg List.head? same) (Host.head?_ne_bracket bracket authority.port)
    next =>
      rw [cut_glue _ (Host.bare_not_mem_colon bracketed), Host.isWord_bare bracketed]
      cases written : authority.port with
      | none => rfl
      | some port =>
        rw [written] at digits
        exact digits

theorem isAuthority_render (authority : Authority)
    (grammar : ∀ text ∈ authority.userinfo, isWord isUserinfoChar text = true) :
    isAuthority authority.render = true := by
  rw [isAuthority, render]
  cases written : authority.userinfo with
  | none =>
    rw [Option.map_none, Option.getD_none, List.nil_append,
      cut_of_not_mem authority.hostPort_not_mem_at]
    exact authority.isHostPort_hostPort
  | some userinfo =>
    have own : '@' ∉ userinfo := authority.userinfo_not_mem userinfo written '@' (by simp)
    rw [Option.map_some, Option.getD_some, List.append_assoc, List.singleton_append,
      cut_append own]
    exact (Bool.and_eq_true _ _).mpr ⟨grammar userinfo written, authority.isHostPort_hostPort⟩

end Authority

theorem exists_of_isIPLiteral {text : List Char} (valid : isIPLiteral text = true) :
    ∃ host : Host, host.render = '[' :: text ++ [']'] := by
  rw [isIPLiteral, Bool.and_eq_true, Bool.or_eq_true] at valid
  obtain ⟨plain, address | future⟩ := valid
  · exact ⟨.ipv6 text address, rfl⟩
  · exact ⟨.ipvFuture text future plain, rfl⟩

theorem exists_of_isHostPort {text : List Char} (valid : isHostPort text = true) :
    ∃ (host : Host) (port : Option (List Char)),
      port.all isPort = true ∧ host.render ++ glue ':' port = text := by
  rw [isHostPort.eq_def] at valid
  split at valid
  next rest =>
    split at valid
    next literal parts =>
      obtain ⟨host, rendered⟩ := exists_of_isIPLiteral valid
      refine ⟨host, none, rfl, ?_⟩
      rw [eq_of_cut parts, rendered]
      simp [glue]
    next literal port parts =>
      rw [Bool.and_eq_true] at valid
      obtain ⟨host, rendered⟩ := exists_of_isIPLiteral valid.1
      refine ⟨host, some port, valid.2, ?_⟩
      rw [eq_of_cut parts, rendered]
      simp [glue]
    next => cases valid
  next =>
    rcases parts : cut ':' text with ⟨name, port⟩
    rw [parts, Bool.and_eq_true] at valid
    refine ⟨.regName name valid.1, port, ?_, (eq_of_cut parts).symm⟩
    cases port with
    | none => rfl
    | some port => exact valid.2

/-- The texts of the grammar are those of the authorities whose userinfo is of the grammar. -/
theorem isAuthority_iff {text : List Char} :
    isAuthority text = true ↔ ∃ authority : Authority, authority.render = text ∧
      ∀ info ∈ authority.userinfo, isWord isUserinfoChar info = true := by
  constructor
  · intro valid
    unfold isAuthority at valid
    split at valid
    next userinfo hostPort parts =>
      rw [Bool.and_eq_true] at valid
      obtain ⟨host, port, digits, rfl⟩ := exists_of_isHostPort valid.2
      have plain : ∀ d ∈ ['@', '/', '?', '#'], d ∉ userinfo := by
        intro d delimiter
        simp only [List.mem_cons, List.not_mem_nil, or_false] at delimiter
        rcases delimiter with rfl | rfl | rfl | rfl <;>
          exact isWord_not_mem valid.1 (by decide) (by decide) (by decide)
      refine ⟨⟨some userinfo, host, port, ?_, digits⟩, ?_, ?_⟩
      · rintro _ ⟨⟩
        exact plain
      · rw [eq_of_cut parts]
        simp [Authority.render, Authority.hostPort, glue]
      · rintro _ ⟨⟩
        exact valid.1
    next hostPort parts =>
      obtain ⟨host, port, digits, rfl⟩ := exists_of_isHostPort valid
      refine ⟨⟨none, host, port, by simp, digits⟩, ?_, by simp⟩
      rw [eq_of_cut parts]
      simp [Authority.render, Authority.hostPort, glue]
  · rintro ⟨authority, rfl, grammar⟩
    exact authority.isAuthority_render grammar

/-- The characters of an authority: those of a path segment, escapes and brackets. -/
theorem isAuthority_forall {P : Char → Prop} (kind : ∀ c, isPchar c = true → P c)
    (others : ∀ c ∈ ['%', '[', ']'], P c) {text : List Char} (valid : isAuthority text = true) :
    ∀ c ∈ text, P c := by
  obtain ⟨authority, rfl, grammar⟩ := isAuthority_iff.mp valid
  have digits : ∀ c, isHexDigit c = true → P c := fun c digit =>
    kind c (isPchar_of_isHexDigit digit)
  have userinfo : ∀ c, isUserinfoChar c = true → P c := fun c own => kind c (by simp [isPchar, own])
  have percent := others '%' (by simp)
  have colon : P ':' := kind ':' (by decide)
  have front : ∀ c ∈ (authority.userinfo.map (· ++ ['@'])).getD [], P c := by
    cases written : authority.userinfo with
    | none => simp
    | some info =>
      have inside := isWord_forall percent digits userinfo (grammar info written)
      exact List.forall_mem_append.mpr ⟨inside, by simpa using kind '@' (by decide)⟩
  have bare : ∀ c ∈ authority.host.bare, P c := by
    intro c member
    rcases authority.host.bare_forall c member with rfl | own | ⟨-, rfl⟩
    · exact percent
    · exact userinfo c (by simp [isUserinfoChar, own])
    · exact colon
  have host : ∀ c ∈ authority.host.render, P c := by
    unfold Host.render
    split
    · simpa using ⟨others '[' (by simp), fun c member => member.elim (bare c) fun same =>
        same ▸ others ']' (by simp)⟩
    · exact bare
  have port : ∀ c ∈ glue ':' authority.port, P c := by
    refine glue_forall colon fun text written c member => ?_
    have all : isPort text = true := by simpa [written] using authority.port_isPort
    exact digits c (by simp [isHexDigit, List.all_eq_true.mp all c member])
  rw [Authority.render, Authority.hostPort, List.forall_mem_append, List.forall_mem_append]
  exact ⟨front, host, port⟩

/-- A delimiter of URIs is no part of an authority. -/
theorem isAuthority_not_mem {text : List Char} (valid : isAuthority text = true) {d : Char}
    (delimiter : d ∈ ['/', '?', '#']) : d ∉ text := by
  intro member
  have outside : ∀ d ∈ ['/', '?', '#'], isPchar d = false ∧ d ∉ ['%', '[', ']'] := by
    intro d listed
    simp only [List.mem_cons, List.not_mem_nil, or_false] at listed
    rcases listed with rfl | rfl | rfl <;> decide
  refine isAuthority_forall (P := (· ≠ d)) ?_ ?_ valid d member rfl
  · rintro c own rfl
    exact absurd own (by simp [(outside c delimiter).1])
  · rintro c own rfl
    exact (outside c delimiter).2 own

end Rfc3986
