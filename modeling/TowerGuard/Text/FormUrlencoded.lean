import TowerGuard.Text.Hex
import TowerGuard.Text.Utf8

/-!
# Form encoding

The grammar of `application/x-www-form-urlencoded`: `unquotePlus` reads a component as bytes, and
`WritesPairs` says which texts write a list of pairs. A text has one reading, a list of pairs many
ways to be written.
-/

namespace Text

/-- The byte two hexadecimal digits stand for. -/
def hexPair (high low : UInt8) : Option UInt8 := do
  let a ← hexValue high.toNat
  let b ← hexValue low.toNat
  some (UInt8.ofNat (a * 16 + b))

/-- A component from left to right: `+` (43) is a space, `%` (37) with two hexadecimal digits a
byte, and every other byte itself. -/
def unquotePlus : Bytes → Bytes
  | [] => []
  | 43 :: rest => 32 :: unquotePlus rest
  | 37 :: high :: low :: rest =>
    match hexPair high low with
    | some b => b :: unquotePlus rest
    | none => 37 :: unquotePlus (high :: low :: rest)
  | b :: rest => b :: unquotePlus rest

theorem unquotePlus_escape {high low b : UInt8} {rest : Bytes} (read : hexPair high low = some b) :
    unquotePlus (37 :: high :: low :: rest) = b :: unquotePlus rest := by
  rw [unquotePlus, read]

/-- Bytes that neither escape nor stand for a space are themselves. -/
theorem unquotePlus_append {bytes : Bytes} (plain : ∀ b ∈ bytes, b ≠ 43 ∧ b ≠ 37) (rest : Bytes) :
    unquotePlus (bytes ++ rest) = bytes ++ unquotePlus rest := by
  induction bytes with
  | nil => rfl
  | cons b bytes ih =>
    obtain ⟨notPlus, notPercent⟩ := plain b List.mem_cons_self
    rw [List.cons_append, List.cons_append, ← ih fun b member => plain b (.tail _ member)]
    exact unquotePlus.eq_4 b _ notPlus fun _ _ _ percent => absurd percent notPercent

/-! ### Written forms -/

/-- Bytes written as escapes. -/
inductive WritesBytes : Bytes → List Char → Prop
  | nil : WritesBytes [] []
  | cons {b : UInt8} {high low : Char} {bytes : Bytes} {written : List Char} :
      hexValue high.toNat = some (b.toNat / 16) → hexValue low.toNat = some (b.toNat % 16) →
      WritesBytes bytes written → WritesBytes (b :: bytes) ('%' :: high :: low :: written)

/-- The characters a component never holds as themselves. -/
def isFormReserved (c : Char) : Bool := c = '%' || c = '+' || c = '&' || c = '='

/-- The ways to write the characters of a component. -/
inductive WritesText : List Char → List Char → Prop
  | nil : WritesText [] []
  | literal {c : Char} {text written : List Char} :
      isFormReserved c = false → WritesText text written → WritesText (c :: text) (c :: written)
  | plus {text written : List Char} :
      WritesText text written → WritesText (' ' :: text) ('+' :: written)
  | escaped {c : Char} {escapes text written : List Char} :
      WritesBytes (String.utf8EncodeChar c) escapes → WritesText text written →
      WritesText (c :: text) (escapes ++ written)

/-- The ways to write a pair: the name may stand alone where there is no value. -/
inductive WritesPair : String × String → List Char → Prop
  | full {name value : String} {left right : List Char} :
      WritesText name.toList left → WritesText value.toList right →
      WritesPair (name, value) (left ++ '=' :: right)
  | bare {name : String} {left : List Char} :
      name ≠ "" → WritesText name.toList left → WritesPair (name, "") left

/-- The ways to write a list of pairs: `&` stands between two of them, and any number of further
`&` anywhere between pieces. -/
inductive WritesPairs : List (String × String) → List Char → Prop
  | nil : WritesPairs [] []
  | ampersand {pairs : List (String × String)} {query : List Char} :
      WritesPairs pairs query → WritesPairs pairs ('&' :: query)
  | last {pair : String × String} {piece : List Char} :
      WritesPair pair piece → WritesPairs [pair] piece
  | pair {pair : String × String} {pairs : List (String × String)} {piece query : List Char} :
      WritesPair pair piece → WritesPairs pairs query →
      WritesPairs (pair :: pairs) (piece ++ '&' :: query)

/-! ### Reading a written form back -/

/-- Escapes read back as the bytes they were written for. -/
theorem WritesBytes.read {bytes : Bytes} {written : List Char} (form : WritesBytes bytes written)
    (rest : Bytes) : unquotePlus (encode written ++ rest) = bytes ++ unquotePlus rest := by
  induction form with
  | nil => rfl
  | @cons b high low bytes written upper lower _ ih =>
    have first := (hexValue_ascii upper).2
    have second := (hexValue_ascii lower).2
    have percent : String.utf8EncodeChar '%' = [37] := by decide
    have digits : hexPair (UInt8.ofNat high.toNat) (UInt8.ofNat low.toNat) = some b := by
      rw [hexPair, toNat_ofNat (by omega), toNat_ofNat (by omega), upper, lower]
      simp only [Option.bind_eq_bind, Option.bind_some, Nat.div_add_mod', UInt8.ofNat_toNat]
    rw [encode_cons, encode_cons, encode_cons, percent, encodeChar_of_ascii first,
      encodeChar_of_ascii second]
    exact (unquotePlus_escape digits).trans (congrArg (b :: ·) ih)

/-- A component reads back as the text it was written for. -/
theorem WritesText.read {text written : List Char} (form : WritesText text written)
    (rest : Bytes) : unquotePlus (encode written ++ rest) = encode text ++ unquotePlus rest := by
  induction form with
  | nil => rfl
  | @literal c text written plain _ ih =>
    rw [encode_cons, encode_cons, List.append_assoc, List.append_assoc, ← ih]
    refine unquotePlus_append (fun b member => ⟨?_, ?_⟩) _
    -- A reserved byte would be the encoding of a reserved character.
    · rintro rfl
      rw [eq_of_mem_encodeChar member (by decide)] at plain
      exact absurd plain (by decide)
    · rintro rfl
      rw [eq_of_mem_encodeChar member (by decide)] at plain
      exact absurd plain (by decide)
  | plus _ ih =>
    rw [encode_cons, encode_cons, List.append_assoc, List.append_assoc, ← ih]
    rfl
  | escaped escapes _ ih =>
    rw [encode_append, encode_cons, List.append_assoc, List.append_assoc, escapes.read, ih]

/-- Escapes are made of `%` and hexadecimal digits. -/
theorem WritesBytes.unreserved {bytes : Bytes} {written : List Char}
    (form : WritesBytes bytes written) {c : Char} (member : c ∈ written) :
    c = '%' ∨ (hexValue c.toNat).isSome = true := by
  induction form with
  | nil => cases member
  | cons upper lower _ ih =>
    rcases List.mem_cons.mp member with rfl | member
    · exact .inl rfl
    rcases List.mem_cons.mp member with rfl | member
    · exact .inr (by rw [upper]; rfl)
    rcases List.mem_cons.mp member with rfl | member
    · exact .inr (by rw [lower]; rfl)
    · exact ih member

/-- No separator of a query is in a written component. -/
theorem WritesText.separated {text written : List Char} (form : WritesText text written) :
    '&' ∉ written ∧ '=' ∉ written := by
  induction form with
  | nil => simp
  | @literal c text written plain _ ih =>
    simp only [isFormReserved, Bool.or_eq_false_iff, decide_eq_false_iff_not] at plain
    obtain ⟨⟨-, ampersand⟩, equals⟩ := plain
    exact ⟨List.not_mem_cons_of_ne_of_not_mem (Ne.symm ampersand) ih.1,
      List.not_mem_cons_of_ne_of_not_mem (Ne.symm equals) ih.2⟩
  | plus _ ih => simpa using ih
  | escaped escapes _ ih =>
    constructor
    · intro member
      rcases List.mem_append.mp member with here | behind
      · exact absurd (escapes.unreserved here) (by decide)
      · exact ih.1 behind
    · intro member
      rcases List.mem_append.mp member with here | behind
      · exact absurd (escapes.unreserved here) (by decide)
      · exact ih.2 behind

end Text
