import TowerGuard.Text.Authority

/-!
# URIs

The text a URI is written as, and the reading of a text. A text is read as the one valid URI that
is written so, and as none otherwise.
-/

namespace Rfc3986

/-! ### URIs -/

structure Uri where
  scheme : List Char
  authority : Option (List Char)
  path : List Char
  query : Option (List Char)
  fragment : Option (List Char)
  deriving DecidableEq

namespace Uri

def isValid (uri : Uri) : Bool :=
  isScheme uri.scheme && uri.authority.all isAuthority &&
    (if uri.authority.isSome then isPathAbempty uri.path else isPathAlone uri.path) &&
    uri.query.all isQuery && uri.fragment.all isQuery

def render (uri : Uri) : List Char :=
  uri.scheme ++ ':' :: ((uri.authority.map fun authority => '/' :: '/' :: authority).getD [] ++
    uri.path ++ glue '?' uri.query ++ glue '#' uri.fragment)

end Uri

/-- The components of a text, valid or not. -/
def split (text : List Char) : Option Uri :=
  let (scheme, rest) := cut ':' text
  rest.map fun rest =>
    let (rest, fragment) := cut '#' rest
    let (rest, query) := cut '?' rest
    match rest with
    | '/' :: '/' :: rest =>
      { scheme, authority := some (rest.takeWhile (· ≠ '/')), path := rest.dropWhile (· ≠ '/')
        query, fragment }
    | path => { scheme, authority := none, path, query, fragment }

/-- The URI a text writes. -/
def parse (text : List Char) : Option Uri := (split text).filter Uri.isValid

example : parse "https://[2001:db8::1]:8443/a%20b?x=1#top".toList = some
    { scheme := "https".toList, authority := some "[2001:db8::1]:8443".toList
      path := "/a%20b".toList, query := some "x=1".toList, fragment := some "top".toList } := by
  decide +kernel

/-! ### Reading back -/

/-- A text is written as the components it is split into. -/
theorem render_of_split {text : List Char} {uri : Uri} (read : split text = some uri) :
    uri.render = text := by
  unfold split at read
  rcases colon : cut ':' text with ⟨scheme, rest⟩
  rw [colon] at read
  obtain ⟨rest, rfl, parts⟩ := Option.map_eq_some_iff.mp read
  rcases hash : cut '#' rest with ⟨fore, fragment⟩
  rcases question : cut '?' fore with ⟨hier, query⟩
  simp only [hash, question] at parts
  rw [eq_of_cut colon, eq_of_cut hash, eq_of_cut question]
  split at parts
  next behind =>
    subst parts
    simp only [Uri.render, Option.map_some, Option.getD_some, List.cons_append,
      List.takeWhile_append_dropWhile]
    rfl
  next path _ =>
    subst parts
    rfl

/-- What stands between the scheme and the query has none of the later delimiters. -/
theorem hier_not_mem {authority : Option (List Char)} {path : List Char} {d : Char}
    (valid : authority.all isAuthority = true) (word : isWord isPathChar path = true)
    (delimiter : d ∈ ['?', '#']) :
    d ∉ (authority.map fun authority => '/' :: '/' :: authority).getD [] ++ path := by
  have outside : ∀ d ∈ ['?', '#'], d ≠ '%' ∧ d ≠ '/' ∧ isHexDigit d = false ∧
      isPathChar d = false := by
    intro d listed
    simp only [List.mem_cons, List.not_mem_nil, or_false] at listed
    rcases listed with rfl | rfl <;> decide
  obtain ⟨percent, slash, digit, kind⟩ := outside d delimiter
  rw [List.mem_append]
  rintro (front | behind)
  · cases authority with
    | none => cases front
    | some authority =>
      have inside := isAuthority_not_mem valid (List.mem_cons_of_mem '/' delimiter)
      simp [slash, inside] at front
  · exact isWord_not_mem word percent digit kind behind

/-- A valid URI is what its text is split into. -/
theorem split_render {uri : Uri} (valid : uri.isValid = true) : split uri.render = some uri := by
  obtain ⟨scheme, authority, path, query, fragment⟩ := uri
  simp only [Uri.isValid, Bool.and_eq_true] at valid
  obtain ⟨⟨⟨⟨schemeValid, authorityValid⟩, pathValid⟩, queryValid⟩, -⟩ := valid
  have word : isWord isPathChar path = true := by
    split at pathValid
    · exact ((Bool.and_eq_true _ _).mp pathValid).2
    · exact ((Bool.and_eq_true _ _).mp pathValid).2
  have noQuestion := hier_not_mem authorityValid word (d := '?') (by simp)
  have noHash : '#' ∉ (authority.map fun authority => '/' :: '/' :: authority).getD [] ++ path ++
      glue '?' query := by
    rw [List.mem_append]
    rintro (front | behind)
    · exact hier_not_mem authorityValid word (by simp) front
    · cases query with
      | none => cases behind
      | some query =>
        have inside : '#' ∉ query :=
          isWord_not_mem queryValid (by decide) (by decide) (by decide)
        simp [glue, inside] at behind
  simp only [split, Uri.render, cut_append (isScheme_not_mem_colon schemeValid),
    Option.map_some, cut_glue _ noHash, cut_glue _ noQuestion, Option.some.injEq]
  cases authority with
  | some authority =>
    -- The authority ends where the path starts.
    have inside := ne_of_not_mem (isAuthority_not_mem authorityValid (d := '/') (by simp))
    have starts : path.takeWhile (· ≠ '/') = [] ∧ path.dropWhile (· ≠ '/') = path := by
      rw [Option.isSome_some, if_pos rfl, isPathAbempty, Bool.and_eq_true] at pathValid
      cases path with
      | nil => exact ⟨rfl, rfl⟩
      | cons c path =>
        have slash : c = '/' := by simpa using pathValid.1
        simp [slash]
    simp only [Option.map_some, Option.getD_some, List.cons_append,
      List.takeWhile_append_of_pos inside, List.dropWhile_append_of_pos inside, starts,
      List.append_nil]
  | none =>
    rw [Option.isSome_none, if_neg (by decide), isPathAlone, Bool.and_eq_true] at pathValid
    simp only [Option.map_none, Option.getD_none, List.nil_append]
    split
    next rest => exact absurd pathValid.1 (by simp)
    next => rfl

/-- The text of a valid URI reads as that URI, and every text that is read is its text. -/
theorem parse_eq_some_iff {text : List Char} {uri : Uri} :
    parse text = some uri ↔ uri.isValid = true ∧ uri.render = text := by
  rw [parse, Option.filter_eq_some_iff]
  constructor
  · rintro ⟨read, valid⟩
    exact ⟨valid, render_of_split read⟩
  · rintro ⟨valid, rfl⟩
    exact ⟨split_render valid, valid⟩

/-! ### Visible characters -/

/-- Visible ASCII. -/
def isVisible (c : Char) : Bool := 0x20 < c.toNat && c.toNat < 0x7F

theorem isVisible_of_isAlphanum {c : Char} (letter : c.isAlphanum = true) :
    isVisible c = true := by
  change ((decide ('A'.val ≤ c.val ∧ c.val ≤ 'Z'.val) ||
    (decide ('a'.val ≤ c.val) && decide (c.val ≤ 'z'.val))) ||
    (decide ('0'.val ≤ c.val) && decide (c.val ≤ '9'.val))) = true at letter
  simp only [Bool.or_eq_true, Bool.and_eq_true, decide_eq_true_eq,
    UInt32.le_iff_toNat_le] at letter
  change ((65 ≤ c.toNat ∧ c.toNat ≤ 90) ∨ (97 ≤ c.toNat ∧ c.toNat ≤ 122)) ∨
    (48 ≤ c.toNat ∧ c.toNat ≤ 57) at letter
  simp only [isVisible, Bool.and_eq_true, decide_eq_true_eq]
  omega

theorem isVisible_of_isPchar {c : Char} (own : isPchar c = true) : isVisible c = true := by
  have marks : ∀ d ∈ "-._~".toList, isVisible d = true := List.all_eq_true.mp (by decide)
  have delimiters : ∀ d ∈ "!$&'()*+,;=".toList, isVisible d = true :=
    List.all_eq_true.mp (by decide)
  simp only [isPchar, isUserinfoChar, isRegNameChar, isUnreserved, isSubDelim, Bool.or_eq_true,
    decide_eq_true_eq, List.contains_iff_mem] at own
  rcases own with (((letter | mark) | delimiter) | rfl) | rfl
  · exact isVisible_of_isAlphanum letter
  · exact marks c mark
  · exact delimiters c delimiter
  · decide
  · decide

theorem isVisible_of_isQueryChar {c : Char} (own : isQueryChar c = true) :
    isVisible c = true := by
  simp only [isQueryChar, isPathChar, Bool.or_eq_true, decide_eq_true_eq] at own
  rcases own with (own | rfl) | rfl
  · exact isVisible_of_isPchar own
  · decide
  · decide

/-- A word is visible where its characters are. -/
theorem isVisible_of_isWord {allowed : Char → Bool}
    (kind : ∀ c, allowed c = true → isVisible c = true) {text : List Char}
    (word : isWord allowed text = true) : ∀ c ∈ text, isVisible c = true :=
  isWord_forall (by decide) (fun _ digit => isVisible_of_isPchar (isPchar_of_isHexDigit digit))
    kind word

/-- The text of a valid URI is visible ASCII. -/
theorem Uri.isVisible_render {uri : Uri} (valid : uri.isValid = true) :
    ∀ c ∈ uri.render, isVisible c = true := by
  obtain ⟨scheme, authority, path, query, fragment⟩ := uri
  simp only [isValid, Bool.and_eq_true] at valid
  obtain ⟨⟨⟨⟨schemeValid, authorityValid⟩, pathValid⟩, queryValid⟩, fragmentValid⟩ := valid
  have path_ : ∀ c ∈ path, isVisible c = true := by
    have kind : ∀ c, isPathChar c = true → isVisible c = true := fun c own =>
      isVisible_of_isQueryChar (by simp [isQueryChar, own])
    split at pathValid
    · exact isVisible_of_isWord kind ((Bool.and_eq_true _ _).mp pathValid).2
    · exact isVisible_of_isWord kind ((Bool.and_eq_true _ _).mp pathValid).2
  have scheme_ : ∀ c ∈ scheme, isVisible c = true :=
    isScheme_forall (fun _ => isVisible_of_isAlphanum) (List.all_eq_true.mp (by decide)) schemeValid
  have authority_ : ∀ c ∈ (authority.map fun authority => '/' :: '/' :: authority).getD [],
      isVisible c = true := by
    cases authority with
    | none => simp
    | some authority =>
      have inside := isAuthority_forall (fun _ => isVisible_of_isPchar)
        (List.all_eq_true.mp (by decide)) authorityValid
      simpa using ⟨by decide, inside⟩
  intro c member
  simp only [render, List.mem_append, List.mem_cons] at member
  rcases member with own | rfl | ((own | own) | own) | own
  · exact scheme_ c own
  · decide
  · exact authority_ c own
  · exact path_ c own
  · refine glue_forall (P := (isVisible · = true)) (by decide) (fun text some_ => ?_) c own
    subst some_
    exact isVisible_of_isWord (fun _ => isVisible_of_isQueryChar) queryValid
  · refine glue_forall (P := (isVisible · = true)) (by decide) (fun text some_ => ?_) c own
    subst some_
    exact isVisible_of_isWord (fun _ => isVisible_of_isQueryChar) fragmentValid

end Rfc3986
