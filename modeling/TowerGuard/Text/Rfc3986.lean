import Mathlib.Data.List.TakeWhile

/-!
# RFC 3986

The generic syntax of URIs: the grammar of each component, how a text is cut at a delimiter, and
which characters the components are made of.
-/

namespace Rfc3986

/-! ### Characters -/

def isHexDigit (c : Char) : Bool := c.isDigit || "abcdefABCDEF".toList.contains c

def isUnreserved (c : Char) : Bool := c.isAlphanum || "-._~".toList.contains c

def isSubDelim (c : Char) : Bool := "!$&'()*+,;=".toList.contains c

def isRegNameChar (c : Char) : Bool := isUnreserved c || isSubDelim c

def isUserinfoChar (c : Char) : Bool := isRegNameChar c || c = ':'

def isPchar (c : Char) : Bool := isUserinfoChar c || c = '@'

def isPathChar (c : Char) : Bool := isPchar c || c = '/'

def isQueryChar (c : Char) : Bool := isPathChar c || c = '?'

/-- Characters of this kind and escapes. -/
def isWord (allowed : Char → Bool) : List Char → Bool
  | [] => true
  | '%' :: high :: low :: rest => isHexDigit high && isHexDigit low && isWord allowed rest
  | c :: rest => c ≠ '%' && allowed c && isWord allowed rest

/-! ### Cutting at a delimiter -/

/-- What stands before the first `c`, and what stands behind it where there is one. -/
def cut (c : Char) (text : List Char) : List Char × Option (List Char) :=
  match text.dropWhile (· ≠ c) with
  | [] => (text, none)
  | _ :: behind => (text.takeWhile (· ≠ c), some behind)

/-- A component behind its delimiter, where there is one. -/
def glue (c : Char) (component : Option (List Char)) : List Char :=
  (component.map (c :: ·)).getD []

/-! ### Components -/

def isScheme : List Char → Bool
  | [] => false
  | c :: rest => c.isAlpha && rest.all fun c => c.isAlphanum || "+-.".toList.contains c

def isDecOctet (text : List Char) : Bool :=
  text.all Char.isDigit && (text.length = 1 || (text ≠ [] && text.head? ≠ some '0')) &&
    text.foldl (fun n c => n * 10 + (c.toNat - '0'.toNat)) 0 ≤ 255

def isIPv4Address (text : List Char) : Bool :=
  (text.splitOn '.').length = 4 && (text.splitOn '.').all isDecOctet

def isH16 (text : List Char) : Bool :=
  1 ≤ text.length && text.length ≤ 4 && text.all isHexDigit

/-- The groups of an address, none of an empty part. -/
def groups (text : List Char) : List (List Char) := if text = [] then [] else text.splitOn ':'

/-- How many 16-bit pieces the groups write; an IPv4 address at the end writes two. -/
def pieces : List (List Char) → Option Nat
  | [] => some 0
  | [last] => if isH16 last then some 1 else if isIPv4Address last then some 2 else none
  | group :: rest => if isH16 group then (pieces rest).map (· + 1) else none

/-- What stands before and behind the first `::`. -/
def cutElision : List Char → Option (List Char × List Char)
  | ':' :: ':' :: behind => some ([], behind)
  | c :: rest => (cutElision rest).map fun (before, behind) => (c :: before, behind)
  | [] => none

/-- Eight pieces, or fewer where `::` stands for the others. -/
def isIPv6Address (text : List Char) : Bool :=
  match cutElision text with
  | none => pieces (groups text) = some 8
  | some (before, behind) => (groups before).all isH16 &&
      (pieces (groups behind)).any fun n => (groups before).length + n ≤ 7

def isIPvFuture : List Char → Bool
  | v :: rest => (v = 'v' || v = 'V') &&
      match cut '.' rest with
      | (version, some address) => version ≠ [] && version.all isHexDigit && address ≠ []
      | (_, none) => false
  | [] => false

/-- What stands between the brackets of an IP literal. -/
def isIPLiteral (text : List Char) : Bool :=
  text.all isUserinfoChar && (isIPv6Address text || isIPvFuture text)

def isPort (text : List Char) : Bool := text.all Char.isDigit

def isHostPort : List Char → Bool
  | '[' :: rest =>
    match cut ']' rest with
    | (literal, some []) => isIPLiteral literal
    | (literal, some (':' :: port)) => isIPLiteral literal && isPort port
    | _ => false
  | text => isWord isRegNameChar (cut ':' text).1 && isPort ((cut ':' text).2.getD [])

def isAuthority (text : List Char) : Bool :=
  match cut '@' text with
  | (userinfo, some hostPort) => isWord isUserinfoChar userinfo && isHostPort hostPort
  | (hostPort, none) => isHostPort hostPort

/-- `path-abempty`: the path behind an authority. -/
def isPathAbempty (path : List Char) : Bool :=
  (path = [] || path.head? = some '/') && isWord isPathChar path

/-- The path where there is no authority. -/
def isPathAlone (path : List Char) : Bool :=
  !(['/', '/'].isPrefixOf path) && isWord isPathChar path

def isQuery (query : List Char) : Bool := isWord isQueryChar query

/-! ### What the characters are -/

theorem isRegNameChar_of_isHexDigit {c : Char} (digit : isHexDigit c = true) :
    isRegNameChar c = true := by
  have letter : c.isAlphanum = true := by
    rcases (Bool.or_eq_true _ _).mp digit with decimal | listed
    · simp [Char.isAlphanum, decimal]
    · have among : ∀ d ∈ "abcdefABCDEF".toList, d.isAlphanum = true :=
        List.all_eq_true.mp (by decide)
      exact among c (by simpa using listed)
  simp [isRegNameChar, isUnreserved, letter]

theorem isPchar_of_isHexDigit {c : Char} (digit : isHexDigit c = true) : isPchar c = true := by
  simp [isPchar, isUserinfoChar, isRegNameChar_of_isHexDigit digit]

/-- A property of a component's characters, where `%` has it and every character of the kind. -/
theorem isWord_forall {allowed : Char → Bool} {P : Char → Prop} (percent : P '%')
    (digit : ∀ c, isHexDigit c = true → P c) (kind : ∀ c, allowed c = true → P c)
    {text : List Char} (word : isWord allowed text = true) : ∀ c ∈ text, P c := by
  fun_induction isWord allowed text with
  | case1 => simp
  | case2 high low rest ih =>
    simp only [Bool.and_eq_true] at word
    obtain ⟨⟨upper, lower⟩, behind⟩ := word
    simpa using ⟨percent, digit high upper, digit low lower, ih behind⟩
  | case3 c rest _ ih =>
    simp only [Bool.and_eq_true] at word
    obtain ⟨⟨-, here⟩, behind⟩ := word
    simpa using ⟨kind c here, ih behind⟩

/-! ### Cut and glue -/

theorem ne_of_not_mem {c : Char} {text : List Char} (absent : c ∉ text) :
    ∀ d ∈ text, decide (d ≠ c) = true :=
  fun _ member => decide_eq_true fun same => absent (same ▸ member)

theorem takeWhile_of_not_mem {c : Char} {text : List Char} (absent : c ∉ text) :
    text.takeWhile (· ≠ c) = text :=
  List.takeWhile_eq_self_iff.mpr (ne_of_not_mem absent)

theorem takeWhile_append {c : Char} {before : List Char} (behind : List Char)
    (absent : c ∉ before) : (before ++ c :: behind).takeWhile (· ≠ c) = before := by
  rw [List.takeWhile_append_of_pos (ne_of_not_mem absent)]
  simp

theorem cut_of_not_mem {c : Char} {text : List Char} (absent : c ∉ text) :
    cut c text = (text, none) := by
  rw [cut, List.dropWhile_eq_nil_iff.mpr (ne_of_not_mem absent)]

theorem cut_append {c : Char} {before behind : List Char} (absent : c ∉ before) :
    cut c (before ++ c :: behind) = (before, some behind) := by
  rw [cut, List.dropWhile_append_of_pos (ne_of_not_mem absent), takeWhile_append behind absent]
  simp

/-- A component is cut off where nothing ahead of it has the delimiter. -/
theorem cut_glue {c : Char} {before : List Char} (component : Option (List Char))
    (absent : c ∉ before) : cut c (before ++ glue c component) = (before, component) := by
  cases component with
  | none => simpa [glue] using cut_of_not_mem absent
  | some behind => exact cut_append absent

theorem glue_cut (c : Char) (text : List Char) :
    (cut c text).1 ++ glue c (cut c text).2 = text := by
  unfold cut
  split
  next => simp [glue]
  next first behind rest =>
    have front : first = c := by
      have stopped := List.head?_dropWhile_not (· ≠ c) text
      rw [rest] at stopped
      simpa using stopped
    have whole := List.takeWhile_append_dropWhile (p := (· ≠ c)) (l := text)
    rw [rest, front] at whole
    exact whole

theorem eq_of_cut {c : Char} {text before : List Char} {component : Option (List Char)}
    (parts : cut c text = (before, component)) : text = before ++ glue c component := by
  rw [← glue_cut c text, parts]

/-- A property of a component and of the delimiter it stands behind. -/
theorem glue_forall {P : Char → Prop} {d : Char} (delimiter : P d)
    {component : Option (List Char)}
    (behind : ∀ text, component = some text → ∀ c ∈ text, P c) :
    ∀ c ∈ glue d component, P c := by
  cases component with
  | none => simp [glue]
  | some text => exact List.forall_mem_cons.mpr ⟨delimiter, behind text rfl⟩

/-! ### What the components are made of -/

theorem isScheme_forall {P : Char → Prop} (letter : ∀ c, c.isAlphanum = true → P c)
    (others : ∀ c ∈ "+-.".toList, P c) {text : List Char} (valid : isScheme text = true) :
    ∀ c ∈ text, P c := by
  cases text with
  | nil => cases valid
  | cons first rest =>
    rw [isScheme, Bool.and_eq_true] at valid
    refine List.forall_mem_cons.mpr ⟨letter first (by simp [Char.isAlphanum, valid.1]), ?_⟩
    intro c member
    have own := List.all_eq_true.mp valid.2 c member
    rw [Bool.or_eq_true, List.contains_iff_mem] at own
    exact own.elim (letter c) (others c)

theorem isScheme_not_mem_colon {text : List Char} (valid : isScheme text = true) :
    ':' ∉ text := by
  intro member
  refine isScheme_forall (P := (· ≠ ':')) ?_ (by simp) valid ':' member rfl
  rintro c letter rfl
  exact absurd letter (by decide)

/-- A character that is neither of the kind nor of an escape is no part of a component. -/
theorem isWord_not_mem {allowed : Char → Bool} {text : List Char} {d : Char}
    (word : isWord allowed text = true) (percent : d ≠ '%') (digit : isHexDigit d = false)
    (kind : allowed d = false) : d ∉ text := by
  intro member
  refine isWord_forall (P := (· ≠ d)) percent.symm ?_ ?_ word d member rfl
  · rintro c own rfl
    exact absurd own (by simp [digit])
  · rintro c own rfl
    exact absurd own (by simp [kind])

end Rfc3986
