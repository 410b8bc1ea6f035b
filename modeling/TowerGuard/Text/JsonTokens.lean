import Mathlib.Data.List.TakeWhile
import TowerGuard.Text.Hex

/-!
# The tokens of JSON

The numbers and strings of RFC 8259 with what they stand for, and readers of both.
-/

namespace Json

/-! ### Numbers -/

def isDigits (text : List Char) : Bool := text ≠ [] && text.all Char.isDigit

/-- A number by its parts: the exponent with its letter and its sign. -/
structure Numeral where
  negative : Bool
  int : List Char
  frac : Option (List Char)
  exp : Option (Char × Option Char × List Char)

namespace Numeral

/-- Digits in every part that is there, and no leading zero. -/
def isValid (n : Numeral) : Bool :=
  isDigits n.int && (n.int.length = 1 || n.int.head? ≠ some '0') && n.frac.all isDigits &&
    n.exp.all fun (letter, sign, digits) => (letter = 'e' || letter = 'E') &&
      sign.all (fun c => c = '+' || c = '-') && isDigits digits

def fracText : Option (List Char) → List Char
  | none => []
  | some digits => '.' :: digits

def expText : Option (Char × Option Char × List Char) → List Char
  | none => []
  | some (letter, sign, digits) => letter :: (sign.toList ++ digits)

def render (n : Numeral) : List Char :=
  (if n.negative then ['-'] else []) ++ n.int ++ fracText n.frac ++ expText n.exp

def exponent (n : Numeral) : Int :=
  match n.exp with
  | none => 0
  | some (_, sign, digits) =>
    let magnitude : Int := Nat.ofDigitChars 10 digits 0
    if sign = some '-' then -magnitude else magnitude

def value (n : Numeral) : Rat :=
  let digits := n.frac.getD []
  let magnitude : Rat := Nat.ofDigitChars 10 (n.int ++ digits) 0 *
    (10 : Rat) ^ (n.exponent - digits.length)
  if n.negative then -magnitude else magnitude

def readFrac : List Char → Option (List Char) × List Char
  | '.' :: text => (some (text.takeWhile Char.isDigit), text.dropWhile Char.isDigit)
  | text => (none, text)

def readSign : List Char → Option Char × List Char
  | '+' :: text => (some '+', text)
  | '-' :: text => (some '-', text)
  | text => (none, text)

def readExp : List Char → Option (Char × Option Char × List Char) × List Char
  | [] => (none, [])
  | c :: text =>
    if c = 'e' || c = 'E' then
      let (sign, text) := readSign text
      (some (c, sign, text.takeWhile Char.isDigit), text.dropWhile Char.isDigit)
    else (none, c :: text)

def readMinus : List Char → Bool × List Char
  | '-' :: text => (true, text)
  | text => (false, text)

/-- The number at the start of a text, and what follows it. -/
def read (text : List Char) : Option (Numeral × List Char) :=
  let (negative, text) := readMinus text
  let int := text.takeWhile Char.isDigit
  let (frac, text) := readFrac (text.dropWhile Char.isDigit)
  let (exp, text) := readExp text
  let n : Numeral := { negative, int, frac, exp }
  if n.isValid then some (n, text) else none

end Numeral

/-- A number ends before this text: nothing in front of it is read on. -/
def Stops (text : List Char) : Prop :=
  ∀ c ∈ text.head?, c.isDigit = false ∧ c ≠ '.' ∧ c ≠ 'e' ∧ c ≠ 'E'

theorem span_digits {digits rest : List Char} (all : digits.all Char.isDigit = true)
    (stops : ∀ c ∈ rest.head?, c.isDigit = false) :
    (digits ++ rest).takeWhile Char.isDigit = digits ∧
      (digits ++ rest).dropWhile Char.isDigit = rest := by
  have every : ∀ c ∈ digits, c.isDigit = true := List.all_eq_true.mp all
  rw [List.takeWhile_append_of_pos every, List.dropWhile_append_of_pos every]
  cases rest with
  | nil => simp
  | cons c rest => simp [stops c rfl]

namespace Numeral

theorem readSign_append {sign : Option Char} {digits rest : List Char}
    (signed : sign.all (fun c => c = '+' || c = '-') = true) (digits_ : isDigits digits = true) :
    readSign (sign.toList ++ (digits ++ rest)) = (sign, digits ++ rest) := by
  cases sign with
  | some c =>
    simp only [Option.all_some, Bool.or_eq_true, decide_eq_true_eq] at signed
    rcases signed with rfl | rfl <;> rfl
  | none =>
    simp only [isDigits, Bool.and_eq_true, decide_eq_true_eq] at digits_
    obtain ⟨d, digits, rfl⟩ := List.exists_cons_of_ne_nil digits_.1
    have first : d.isDigit = true := (List.all_eq_true.mp digits_.2) d List.mem_cons_self
    unfold readSign
    split
    next same => cases same; cases first
    next same => cases same; cases first
    next => rfl

/-- What stands behind the fraction is no digit and no point. -/
theorem expText_stops {exp : Option (Char × Option Char × List Char)} {rest : List Char}
    (valid : exp.all (fun (letter, sign, digits) => (letter = 'e' || letter = 'E') &&
      sign.all (fun c => c = '+' || c = '-') && isDigits digits) = true) (stops : Stops rest) :
    ∀ c ∈ (expText exp ++ rest).head?, c.isDigit = false ∧ c ≠ '.' := by
  cases exp with
  | none => exact fun c head => ⟨(stops c head).1, (stops c head).2.1⟩
  | some parts =>
    obtain ⟨letter, sign, digits⟩ := parts
    simp only [Option.all_some, Bool.and_eq_true, Bool.or_eq_true, decide_eq_true_eq] at valid
    rintro c ⟨⟩
    rcases valid.1.1 with rfl | rfl <;> decide

theorem readExp_append {exp : Option (Char × Option Char × List Char)} {rest : List Char}
    (valid : exp.all (fun (letter, sign, digits) => (letter = 'e' || letter = 'E') &&
      sign.all (fun c => c = '+' || c = '-') && isDigits digits) = true) (stops : Stops rest) :
    readExp (expText exp ++ rest) = (exp, rest) := by
  cases exp with
  | none =>
    cases rest with
    | nil => rfl
    | cons c rest =>
      have head := stops c rfl
      simp [expText, readExp, head.2.2.1, head.2.2.2]
  | some parts =>
    obtain ⟨letter, sign, digits⟩ := parts
    simp only [Option.all_some, Bool.and_eq_true] at valid
    obtain ⟨⟨letter_, signed⟩, digits_⟩ := valid
    have all := digits_
    simp only [isDigits, Bool.and_eq_true] at all
    obtain ⟨taken, dropped⟩ := span_digits all.2 fun c head => (stops c head).1
    simp only [expText, List.cons_append, readExp, letter_, if_true, List.append_assoc,
      readSign_append signed digits_, taken, dropped]

theorem readFrac_append {frac : Option (List Char)} {rest : List Char}
    (valid : frac.all isDigits = true)
    (stops : ∀ c ∈ rest.head?, c.isDigit = false ∧ c ≠ '.') :
    readFrac (fracText frac ++ rest) = (frac, rest) := by
  cases frac with
  | none =>
    unfold readFrac
    split
    next text same =>
      simp only [fracText, List.nil_append] at same
      exact absurd rfl (stops '.' (by rw [same]; rfl)).2
    next => rfl
  | some digits =>
    simp only [Option.all_some, isDigits, Bool.and_eq_true] at valid
    obtain ⟨taken, dropped⟩ := span_digits valid.2 fun c head => (stops c head).1
    simp only [fracText, List.cons_append, readFrac, taken, dropped]

theorem readMinus_append {digits rest : List Char} (negative : Bool)
    (digits_ : isDigits digits = true) :
    readMinus ((if negative then ['-'] else []) ++ (digits ++ rest)) =
      (negative, digits ++ rest) := by
  cases negative with
  | true => rfl
  | false =>
    simp only [isDigits, Bool.and_eq_true, decide_eq_true_eq] at digits_
    obtain ⟨d, digits, rfl⟩ := List.exists_cons_of_ne_nil digits_.1
    have first : d.isDigit = true := (List.all_eq_true.mp digits_.2) d List.mem_cons_self
    unfold readMinus
    split
    next same => cases same; cases first
    next => rfl

/-- A number is read back where nothing behind it reads on. -/
theorem read_render {n : Numeral} {rest : List Char} (valid : n.isValid = true)
    (stops : Stops rest) : read (n.render ++ rest) = some (n, rest) := by
  have parts := valid
  simp only [isValid, Bool.and_eq_true] at parts
  obtain ⟨⟨⟨int, -⟩, frac⟩, exp⟩ := parts
  have digits := int
  simp only [isDigits, Bool.and_eq_true] at digits
  have behind := expText_stops exp stops
  have first : ∀ c ∈ (fracText n.frac ++ (expText n.exp ++ rest)).head?, c.isDigit = false := by
    cases n.frac with
    | none => exact fun c head => (behind c head).1
    | some digits => rintro c ⟨⟩; decide
  obtain ⟨taken, dropped⟩ := span_digits digits.2 first
  simp only [read, render, List.append_assoc, readMinus_append n.negative int, taken, dropped,
    readFrac_append frac behind, readExp_append exp stops, valid, if_true]

end Numeral

theorem Numeral.render_head {n : Numeral} (valid : n.isValid = true) :
    ∃ c more, n.render = c :: more ∧ (c = '-' ∨ c.isDigit = true) := by
  simp only [isValid, isDigits, Bool.and_eq_true, decide_eq_true_eq] at valid
  obtain ⟨⟨⟨⟨some_, all⟩, -⟩, -⟩, -⟩ := valid
  obtain ⟨d, digits, int⟩ := List.exists_cons_of_ne_nil some_
  have first : d.isDigit = true := (List.all_eq_true.mp all) d (int ▸ List.mem_cons_self)
  unfold render
  rw [int]
  cases n.negative with
  | true => exact ⟨'-', _, rfl, .inl rfl⟩
  | false => exact ⟨d, _, rfl, .inr first⟩

/-! ### Integers -/

/-- An integer as it is written. -/
def Numeral.ofInt (n : Int) : Numeral :=
  { negative := n < 0, int := Nat.toDigits 10 n.natAbs, frac := none, exp := none }

theorem head_toDigits {n : Nat} (positive : 0 < n) :
    (Nat.toDigits 10 n).head? ≠ some '0' := by
  induction n using Nat.base_induction 10 (by decide) with
  | single n small =>
    have digit : ∀ d < 10, 0 < d → [Nat.digitChar d].head? ≠ some '0' := by decide
    rw [Nat.toDigits_of_lt_base small]
    exact digit n small positive
  | digit n d small leading ih =>
    rw [← Nat.toDigits_append_toDigits (by decide) leading small]
    have first := ih leading
    have some_ : Nat.toDigits 10 n ≠ [] := Nat.toDigits_ne_nil
    obtain ⟨c, digits, same⟩ := List.exists_cons_of_ne_nil some_
    rw [same] at first ⊢
    exact first

theorem isDigits_toDigits (n : Nat) : isDigits (Nat.toDigits 10 n) = true := by
  simp only [isDigits, Bool.and_eq_true, decide_eq_true_eq, List.all_eq_true]
  exact ⟨Nat.toDigits_ne_nil, fun c member =>
    Nat.isDigit_of_mem_toDigits (by decide) (by decide) member⟩

theorem Numeral.isValid_ofInt (n : Int) : (ofInt n).isValid = true := by
  have lead : (Nat.toDigits 10 n.natAbs).length = 1 ∨
      (Nat.toDigits 10 n.natAbs).head? ≠ some '0' := by
    rcases Nat.eq_zero_or_pos n.natAbs with zero | positive
    · rw [zero]
      exact .inl rfl
    · exact .inr (head_toDigits positive)
  simp only [isValid, Bool.and_eq_true, Bool.or_eq_true, decide_eq_true_eq]
  exact ⟨⟨⟨isDigits_toDigits _, lead⟩, rfl⟩, rfl⟩

theorem Numeral.render_ofInt (n : Int) : (ofInt n).render = (toString n).toList := by
  cases n with
  | ofNat n | negSucc n => simp [render, ofInt, fracText, expText, Int.repr]

theorem Numeral.value_ofInt (n : Int) : (ofInt n).value = n := by
  have digits : Nat.ofDigitChars 10 (Nat.toDigits 10 n.natAbs) 0 = n.natAbs :=
    Nat.ofDigitChars_ten_toDigits
  have magnitude : (ofInt n).value = if n < 0 then -(n.natAbs : Rat) else n.natAbs := by
    simp [value, ofInt, exponent, digits]
  rw [magnitude]
  split
  next negative =>
    rw [← Rat.intCast_natCast, ← Rat.intCast_neg, show -(n.natAbs : Int) = n by omega]
  next => rw [← Rat.intCast_natCast, show (n.natAbs : Int) = n by omega]

/-! ### Strings -/

/-- `4HEXDIG`. -/
def hex4 : List Char → Option Nat
  | [a, b, c, d] => do
    let a ← Text.hexValue a.toNat
    let b ← Text.hexValue b.toNat
    let c ← Text.hexValue c.toNat
    let d ← Text.hexValue d.toNat
    some (((a * 16 + b) * 16 + c) * 16 + d)
  | _ => none

/-- The escapes of one letter. -/
def shortEscape : Char → Option Char
  | '"' => some '"'
  | '\\' => some '\\'
  | '/' => some '/'
  | 'b' => some '\x08'
  | 'f' => some '\x0c'
  | 'n' => some '\n'
  | 'r' => some '\r'
  | 't' => some '\t'
  | _ => none

def isHighSurrogate (n : Nat) : Bool := 0xD800 ≤ n && n < 0xDC00

def isLowSurrogate (n : Nat) : Bool := 0xDC00 ≤ n && n < 0xE000

/-- The character of a surrogate pair. -/
def pairChar (high low : Nat) : Char :=
  Char.ofNat (0x10000 + (high - 0xD800) * 0x400 + (low - 0xDC00))

/-- How a character is written in a string. A surrogate that stands alone writes none. -/
inductive CharText : List Char → Char → Prop
  | plain {c : Char} : 0x20 ≤ c.toNat → c ≠ '"' → c ≠ '\\' → CharText [c] c
  | short {e c : Char} : shortEscape e = some c → CharText ['\\', e] c
  | unit {hex : List Char} {n : Nat} : hex4 hex = some n → isHighSurrogate n = false →
      isLowSurrogate n = false → CharText ('\\' :: 'u' :: hex) (Char.ofNat n)
  | pair {hex hex' : List Char} {high low : Nat} : hex4 hex = some high → hex4 hex' = some low →
      isHighSurrogate high = true → isLowSurrogate low = true →
      CharText ('\\' :: 'u' :: hex ++ '\\' :: 'u' :: hex') (pairChar high low)

inductive Chars : List Char → List Char → Prop
  | nil : Chars [] []
  | cons {text more : List Char} {c : Char} {cs : List Char} : CharText text c → Chars more cs →
      Chars (text ++ more) (c :: cs)

/-- The text writes this string. -/
def IsString (text : List Char) (value : String) : Prop :=
  ∃ body, text = '"' :: (body ++ ['"']) ∧ Chars body value.toList

/-- The character at the start of a text, and what follows it. -/
def readChar : List Char → Option (Char × List Char)
  | '\\' :: 'u' :: text => do
    let n ← hex4 (text.take 4)
    if isHighSurrogate n then
      match text.drop 4 with
      | '\\' :: 'u' :: more => do
        let m ← hex4 (more.take 4)
        if isLowSurrogate m then some (pairChar n m, more.drop 4) else none
      | _ => none
    else if isLowSurrogate n then none
    else some (Char.ofNat n, text.drop 4)
  | '\\' :: e :: text => (shortEscape e).map fun c => (c, text)
  | c :: text => if 0x20 ≤ c.toNat ∧ c ≠ '"' ∧ c ≠ '\\' then some (c, text) else none
  | [] => none

/-- The characters up to the closing quote, and what follows it. -/
def readChars : Nat → List Char → Option (List Char × List Char)
  | 0, _ => none
  | _ + 1, '"' :: text => some ([], text)
  | fuel + 1, text => do
    let (c, text) ← readChar text
    let (cs, text) ← readChars fuel text
    some (c :: cs, text)

def readString : List Char → Option (String × List Char)
  | '"' :: text => (readChars (text.length + 1) text).map fun (cs, rest) => (String.ofList cs, rest)
  | _ => none

theorem length_of_hex4 {hex : List Char} {n : Nat} (h : hex4 hex = some n) : hex.length = 4 := by
  unfold hex4 at h
  split at h
  · rfl
  · cases h

theorem take_hex4 {hex : List Char} {n : Nat} (h : hex4 hex = some n) (rest : List Char) :
    (hex ++ rest).take 4 = hex ∧ (hex ++ rest).drop 4 = rest := by
  have four := length_of_hex4 h
  constructor
  · rw [List.take_append_of_le_length (by omega), List.take_of_length_le (by omega)]
  · rw [← four, List.drop_left]

theorem readChar_append {text : List Char} {c : Char} (h : CharText text c) (rest : List Char) :
    readChar (text ++ rest) = some (c, rest) := by
  cases h with
  | plain visible quote escape =>
    unfold readChar
    split
    next same => cases same; exact absurd rfl escape
    next same => cases same; exact absurd rfl escape
    next same => cases same; exact if_pos ⟨visible, quote, escape⟩
    next same => cases same
  | short known =>
    unfold readChar
    split
    next same => cases same; cases known
    next same => cases same; rw [known]; rfl
    next other same => cases same; exact (other _ _ rfl rfl).elim
    next same => cases same
  | unit known high low =>
    obtain ⟨taken, dropped⟩ := take_hex4 known rest
    simp [readChar, taken, dropped, known, high, low]
  | @pair hex hex' _ _ known known' high low =>
    obtain ⟨taken, dropped⟩ := take_hex4 known ('\\' :: 'u' :: hex' ++ rest)
    obtain ⟨taken', dropped'⟩ := take_hex4 known' rest
    simp only [List.cons_append] at taken dropped
    simp [readChar, taken, dropped, taken', dropped', known, known', high, low]

theorem CharText.head {text : List Char} {c : Char} (h : CharText text c) :
    ∃ first more, text = first :: more ∧ first ≠ '"' := by
  cases h with
  | plain _ quote _ => exact ⟨_, _, rfl, quote⟩
  | short _ | unit _ _ _ | pair _ _ _ _ => exact ⟨_, _, rfl, by decide⟩

theorem readChars_append {text cs : List Char} (h : Chars text cs) (rest : List Char) :
    ∀ fuel, text.length < fuel → readChars fuel (text ++ '"' :: rest) = some (cs, rest) := by
  induction h with
  | nil =>
    intro fuel enough
    obtain ⟨fuel, rfl⟩ := Nat.exists_eq_add_of_lt enough
    simp [readChars]
  | @cons text more c cs first _ ih =>
    intro fuel enough
    obtain ⟨d, tail, rfl, other⟩ := first.head
    cases fuel with
    | zero => cases enough
    | succ fuel =>
      have read := readChar_append first (more ++ '"' :: rest)
      have onward := ih fuel (by simp at enough; omega)
      simp only [List.cons_append, List.append_assoc] at read ⊢
      unfold readChars
      split
      next same => cases same
      next same => cases same; exact absurd rfl other
      next count _ =>
        cases count
        simp [read, onward]

/-- A string is read back, whatever follows it. -/
theorem readString_append {text : List Char} {value : String} (h : IsString text value)
    (rest : List Char) : readString (text ++ rest) = some (value, rest) := by
  obtain ⟨body, rfl, chars⟩ := h
  have read := readChars_append chars rest ((body ++ '"' :: rest).length + 1) (by
    rw [List.length_append]
    omega)
  simp only [List.cons_append, List.append_assoc, List.nil_append, readString, read,
    Option.map_some, String.ofList_toList]

end Json
