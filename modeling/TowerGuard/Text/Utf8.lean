import Mathlib.Logic.Basic

/-!
# UTF-8 over byte lists

`encode` is the UTF-8 encoding of a list of characters and `decode` the reading of an
arbitrary byte list: one `some` per well-formed sequence and one `none` per maximal
ill-formed part, the policy of the standard "substitution of maximal subparts". Strict
and lossy decoding are two readings of the same list.
-/

namespace Text

abbrev Bytes := List UInt8

/-- The bytes of a list of characters. -/
def encode (cs : List Char) : Bytes := cs.flatMap String.utf8EncodeChar

/-- The bytes of a string. -/
def bytesOf (s : String) : Bytes := encode s.toList

def isContinuation (b : UInt8) : Bool := 0x80 ≤ b.toNat ∧ b.toNat < 0xC0

/-- The second byte of a three-byte sequence: no overlong forms, no surrogates. -/
def secondOfThree (lead b : UInt8) : Bool :=
  isContinuation b ∧ (lead.toNat = 0xE0 → 0xA0 ≤ b.toNat) ∧ (lead.toNat = 0xED → b.toNat < 0xA0)

/-- The second byte of a four-byte sequence: no overlong forms, nothing past U+10FFFF. -/
def secondOfFour (lead b : UInt8) : Bool :=
  isContinuation b ∧ (lead.toNat = 0xF0 → 0x90 ≤ b.toNat) ∧ (lead.toNat = 0xF4 → b.toNat < 0x90)

/-- Read a byte list as UTF-8, one `none` for each maximal ill-formed part. -/
def decode : Bytes → List (Option Char)
  | [] => []
  | b :: rest =>
    if b.toNat < 0x80 then some (Char.ofNat b.toNat) :: decode rest
    -- A stray continuation byte, or a lead byte of overlong forms only.
    else if b.toNat < 0xC2 then none :: decode rest
    else if b.toNat < 0xE0 then
      match rest with
      | [] => [none]
      | c :: rest' =>
        if isContinuation c then
          some (Char.ofNat (b.toNat % 0x20 * 0x40 + c.toNat % 0x40)) :: decode rest'
        -- The lead byte alone is ill formed, and its successor is read anew.
        else none :: decode (c :: rest')
    else if b.toNat < 0xF0 then
      match rest with
      | [] => [none]
      | c :: rest' =>
        if secondOfThree b c then
          match rest' with
          | [] => [none]
          | d :: rest'' =>
            if isContinuation d then
              some (Char.ofNat
                ((b.toNat % 0x10 * 0x40 + c.toNat % 0x40) * 0x40 + d.toNat % 0x40)) ::
                decode rest''
            else none :: decode (d :: rest'')
        else none :: decode (c :: rest')
    else if b.toNat < 0xF5 then
      match rest with
      | [] => [none]
      | c :: rest' =>
        if secondOfFour b c then
          match rest' with
          | [] => [none]
          | d :: rest'' =>
            if isContinuation d then
              match rest'' with
              | [] => [none]
              | e :: rest''' =>
                if isContinuation e then
                  some (Char.ofNat (((b.toNat % 0x08 * 0x40 + c.toNat % 0x40) * 0x40 +
                    d.toNat % 0x40) * 0x40 + e.toNat % 0x40)) :: decode rest'''
                else none :: decode (e :: rest''')
            else none :: decode (d :: rest'')
        else none :: decode (c :: rest')
    -- No character starts with these bytes (0xF5 and up).
    else none :: decode rest

/-- `String::from_utf8_lossy`: each ill-formed part reads as U+FFFD. -/
def fromUtf8Lossy (bs : Bytes) : String :=
  String.ofList ((decode bs).map fun c => c.getD (Char.ofNat 0xFFFD))

/-- `std::str::from_utf8`: the text, when every part is well formed. -/
def fromUtf8 (bs : Bytes) : Option String :=
  ((decode bs).mapM id).map String.ofList

theorem decode_ascii (b : UInt8) (rest : Bytes) (h : b.toNat < 0x80) :
    decode (b :: rest) = some (Char.ofNat b.toNat) :: decode rest := by
  rw [decode.eq_def]
  simp only [h, if_true]

theorem decode_two (b c : UInt8) (rest : Bytes) (lead : 0xC2 ≤ b.toNat ∧ b.toNat < 0xE0)
    (cont : isContinuation c = true) :
    decode (b :: c :: rest) =
      some (Char.ofNat (b.toNat % 0x20 * 0x40 + c.toNat % 0x40)) :: decode rest := by
  rw [decode.eq_def]
  simp only [show ¬b.toNat < 0x80 by omega, show ¬b.toNat < 0xC2 by omega, lead.2, cont,
    if_true, if_false]

theorem decode_three (b c d : UInt8) (rest : Bytes) (lead : 0xE0 ≤ b.toNat ∧ b.toNat < 0xF0)
    (second : secondOfThree b c = true) (cont : isContinuation d = true) :
    decode (b :: c :: d :: rest) =
      some (Char.ofNat ((b.toNat % 0x10 * 0x40 + c.toNat % 0x40) * 0x40 + d.toNat % 0x40)) ::
        decode rest := by
  rw [decode.eq_def]
  simp only [show ¬b.toNat < 0x80 by omega, show ¬b.toNat < 0xC2 by omega,
    show ¬b.toNat < 0xE0 by omega, lead.2, second, cont, if_true, if_false]

theorem decode_four (b c d e : UInt8) (rest : Bytes) (lead : 0xF0 ≤ b.toNat ∧ b.toNat < 0xF5)
    (second : secondOfFour b c = true) (third : isContinuation d = true)
    (fourth : isContinuation e = true) :
    decode (b :: c :: d :: e :: rest) =
      some (Char.ofNat (((b.toNat % 0x08 * 0x40 + c.toNat % 0x40) * 0x40 +
        d.toNat % 0x40) * 0x40 + e.toNat % 0x40)) :: decode rest := by
  rw [decode.eq_def]
  simp only [show ¬b.toNat < 0x80 by omega, show ¬b.toNat < 0xC2 by omega,
    show ¬b.toNat < 0xE0 by omega, show ¬b.toNat < 0xF0 by omega, lead.2, second, third, fourth,
    if_true, if_false]

theorem toNat_ofNat {n : Nat} (h : n < 256) : (UInt8.ofNat n).toNat = n := by
  simp only [UInt8.toNat_ofNat']
  omega

/-- Decoding reads back one encoded character. -/
theorem decode_encodeChar (c : Char) (rest : Bytes) :
    decode (String.utf8EncodeChar c ++ rest) = some c :: decode rest := by
  have valid : c.toNat < 0xD800 ∨ (0xDFFF < c.toNat ∧ c.toNat < 0x110000) := c.valid
  have back : Char.ofNat c.toNat = c := Char.ofNat_toNat c
  have val : c.val.toNat = c.toNat := rfl
  simp only [String.utf8EncodeChar, val]
  split
  next one =>
    rw [List.singleton_append, decode_ascii _ _ (by rw [toNat_ofNat] <;> omega),
      toNat_ofNat (by omega), back]
  next notOne =>
  split
  next two =>
    -- Each written byte is read back, and the digits add up to the character again.
    have lead := toNat_ofNat (n := c.toNat / 64 % 0x20 + 0xC0) (by omega)
    have last := toNat_ofNat (n := c.toNat % 0x40 + 0x80) (by omega)
    rw [List.cons_append, List.singleton_append,
      decode_two _ _ _ (by rw [lead]; omega) (by simp [isContinuation]; omega), lead, last]
    -- Base-64 digits: the lead's five bits, then the six of the continuation.
    rw [show (c.toNat / 64 % 0x20 + 0xC0) % 0x20 * 0x40 + (c.toNat % 0x40 + 0x80) % 0x40 =
      c.toNat by omega, back]
  next notTwo =>
  split
  next three =>
    have lead := toNat_ofNat (n := c.toNat / 4096 % 0x10 + 0xE0) (by omega)
    have second := toNat_ofNat (n := c.toNat / 64 % 0x40 + 0x80) (by omega)
    have last := toNat_ofNat (n := c.toNat % 0x40 + 0x80) (by omega)
    rw [List.cons_append, List.cons_append, List.singleton_append,
      decode_three _ _ _ _ (by rw [lead]; omega)
        (by simp [secondOfThree, isContinuation]; omega)
        (by simp [isContinuation]; omega), lead, second, last]
    rw [show ((c.toNat / 4096 % 0x10 + 0xE0) % 0x10 * 0x40 +
        (c.toNat / 64 % 0x40 + 0x80) % 0x40) * 0x40 + (c.toNat % 0x40 + 0x80) % 0x40 =
      c.toNat by omega, back]
  next notThree =>
    have lead := toNat_ofNat (n := c.toNat / 262144 % 0x08 + 0xF0) (by omega)
    have second := toNat_ofNat (n := c.toNat / 4096 % 0x40 + 0x80) (by omega)
    have third := toNat_ofNat (n := c.toNat / 64 % 0x40 + 0x80) (by omega)
    have last := toNat_ofNat (n := c.toNat % 0x40 + 0x80) (by omega)
    rw [List.cons_append, List.cons_append, List.cons_append, List.singleton_append,
      decode_four _ _ _ _ _ (by rw [lead]; omega)
        (by simp [secondOfFour, isContinuation]; omega)
        (by simp [isContinuation]; omega) (by simp [isContinuation]; omega),
      lead, second, third, last]
    rw [show (((c.toNat / 262144 % 0x08 + 0xF0) % 0x08 * 0x40 +
        (c.toNat / 4096 % 0x40 + 0x80) % 0x40) * 0x40 + (c.toNat / 64 % 0x40 + 0x80) % 0x40) *
        0x40 + (c.toNat % 0x40 + 0x80) % 0x40 = c.toNat by omega, back]

/-- Decoding inverts encoding. -/
theorem decode_encode (cs : List Char) : decode (encode cs) = cs.map some := by
  induction cs with
  | nil => rfl
  | cons c cs ih =>
    rw [encode, List.flatMap_cons, decode_encodeChar, ← encode, ih, List.map_cons]

theorem fromUtf8Lossy_bytesOf (s : String) : fromUtf8Lossy (bytesOf s) = s := by
  rw [fromUtf8Lossy, bytesOf, decode_encode, List.map_map]
  simp [Function.comp_def]

theorem fromUtf8_bytesOf (s : String) : fromUtf8 (bytesOf s) = some s := by
  have whole : (s.toList.map some).mapM id = some s.toList := by
    rw [List.mapM_map]
    exact (List.mapM_pure (m := Option) (f := id)).trans (by simp)
  rw [fromUtf8, bytesOf, decode_encode, whole, Option.map_some, String.ofList_toList]

theorem bytesOf_injective {a b : String} (h : bytesOf a = bytesOf b) : a = b :=
  Option.some.inj
    ((fromUtf8_bytesOf a).symm.trans ((congrArg fromUtf8 h).trans (fromUtf8_bytesOf b)))

/-! ### Strict decoding accepts encodings only -/

theorem toNat_charOfNat {n : Nat} (h : n < 0xD800 ∨ (0xDFFF < n ∧ n < 0x110000)) :
    (Char.ofNat n).val.toNat = n := by
  rw [Char.ofNat, dif_pos h]
  rfl

private theorem ofNat_eq {n : Nat} {b : UInt8} (h : n = b.toNat) : UInt8.ofNat n = b := by
  rw [h, UInt8.ofNat_toNat]

theorem encodeChar_ascii (b : UInt8) (h : b.toNat < 0x80) :
    String.utf8EncodeChar (Char.ofNat b.toNat) = [b] := by
  simp only [String.utf8EncodeChar, toNat_charOfNat (n := b.toNat) (by omega)]
  rw [if_pos (by omega), UInt8.ofNat_toNat]

theorem encodeChar_of_ascii {c : Char} (h : c.toNat < 0x80) :
    String.utf8EncodeChar c = [UInt8.ofNat c.toNat] := by
  have read := encodeChar_ascii (UInt8.ofNat c.toNat) (by rwa [toNat_ofNat (by omega)])
  rwa [toNat_ofNat (by omega), Char.ofNat_toNat] at read

/-- No byte of a character past ASCII is an ASCII byte. -/
theorem encodeChar_high {c : Char} (h : 0x80 ≤ c.toNat) :
    ∀ b ∈ String.utf8EncodeChar c, 0x80 ≤ b.toNat := by
  have valid : c.toNat < 0xD800 ∨ (0xDFFF < c.toNat ∧ c.toNat < 0x110000) := c.valid
  have val : c.val.toNat = c.toNat := rfl
  intro b member
  simp only [String.utf8EncodeChar, val, if_neg (show ¬c.toNat ≤ 0x7F by omega)] at member
  -- Every byte is a tag of at least 0x80 with some bits of the character under it.
  split at member
  · simp only [List.mem_cons, List.not_mem_nil, or_false] at member
    rcases member with rfl | rfl <;> rw [toNat_ofNat (by omega)] <;> omega
  · split at member
    · simp only [List.mem_cons, List.not_mem_nil, or_false] at member
      rcases member with rfl | rfl | rfl <;> rw [toNat_ofNat (by omega)] <;> omega
    · simp only [List.mem_cons, List.not_mem_nil, or_false] at member
      rcases member with rfl | rfl | rfl | rfl <;> rw [toNat_ofNat (by omega)] <;> omega

/-- An ASCII byte is in the encoding of the character it numbers only. -/
theorem eq_of_mem_encodeChar {b : UInt8} {c : Char} (member : b ∈ String.utf8EncodeChar c)
    (ascii : b.toNat < 0x80) : c = Char.ofNat b.toNat := by
  by_cases low : c.toNat < 0x80
  · rw [encodeChar_of_ascii low, List.mem_singleton] at member
    rw [member, toNat_ofNat (by omega), Char.ofNat_toNat]
  · have high := encodeChar_high (by omega) b member
    omega

theorem encodeChar_two (b c : UInt8) (lead : 0xC2 ≤ b.toNat ∧ b.toNat < 0xE0)
    (cont : isContinuation c = true) :
    String.utf8EncodeChar (Char.ofNat (b.toNat % 0x20 * 0x40 + c.toNat % 0x40)) = [b, c] := by
  simp only [isContinuation, decide_eq_true_eq] at cont
  -- The lead is at least 0xC2, so that the value needs its two bytes.
  have val := toNat_charOfNat (n := b.toNat % 0x20 * 0x40 + c.toNat % 0x40) (by omega)
  simp only [String.utf8EncodeChar, val]
  rw [if_neg (by omega), if_pos (by omega), ofNat_eq (b := b) (by omega),
    ofNat_eq (b := c) (by omega)]

theorem encodeChar_three (b c d : UInt8) (lead : 0xE0 ≤ b.toNat ∧ b.toNat < 0xF0)
    (second : secondOfThree b c = true) (cont : isContinuation d = true) :
    String.utf8EncodeChar (Char.ofNat
      ((b.toNat % 0x10 * 0x40 + c.toNat % 0x40) * 0x40 + d.toNat % 0x40)) = [b, c, d] := by
  simp only [secondOfThree, isContinuation, decide_eq_true_eq] at second cont
  have val := toNat_charOfNat
    (n := (b.toNat % 0x10 * 0x40 + c.toNat % 0x40) * 0x40 + d.toNat % 0x40) (by omega)
  simp only [String.utf8EncodeChar, val]
  rw [if_neg (by omega), if_neg (by omega), if_pos (by omega), ofNat_eq (b := b) (by omega),
    ofNat_eq (b := c) (by omega), ofNat_eq (b := d) (by omega)]

theorem encodeChar_four (b c d e : UInt8) (lead : 0xF0 ≤ b.toNat ∧ b.toNat < 0xF5)
    (second : secondOfFour b c = true) (third : isContinuation d = true)
    (fourth : isContinuation e = true) :
    String.utf8EncodeChar (Char.ofNat (((b.toNat % 0x08 * 0x40 + c.toNat % 0x40) * 0x40 +
      d.toNat % 0x40) * 0x40 + e.toNat % 0x40)) = [b, c, d, e] := by
  simp only [secondOfFour, isContinuation, decide_eq_true_eq] at second third fourth
  have val := toNat_charOfNat (n := ((b.toNat % 0x08 * 0x40 + c.toNat % 0x40) * 0x40 +
    d.toNat % 0x40) * 0x40 + e.toNat % 0x40) (by omega)
  simp only [String.utf8EncodeChar, val]
  rw [if_neg (by omega), if_neg (by omega), if_neg (by omega), ofNat_eq (b := b) (by omega),
    ofNat_eq (b := c) (by omega), ofNat_eq (b := d) (by omega), ofNat_eq (b := e) (by omega)]

theorem encode_cons (c : Char) (cs : List Char) :
    encode (c :: cs) = String.utf8EncodeChar c ++ encode cs := List.flatMap_cons

theorem encode_append (cs cs' : List Char) : encode (cs ++ cs') = encode cs ++ encode cs' :=
  List.flatMap_append

private theorem read_some {c : Char} {rest : List (Option Char)} {cs : List Char}
    (h : some c :: rest = cs.map some) : ∃ cs', cs = c :: cs' ∧ rest = cs'.map some := by
  cases cs with
  | nil => cases h
  | cons d cs' =>
    obtain ⟨⟨⟩, tails⟩ := List.cons_eq_cons.mp h
    exact ⟨cs', rfl, tails⟩

private theorem read_none {rest : List (Option Char)} {cs : List Char} :
    none :: rest ≠ cs.map some := by
  cases cs <;> simp

/-- A byte list without ill-formed parts is the encoding of what it decodes to. -/
theorem encode_of_decode {bs : Bytes} {cs : List Char} (h : decode bs = cs.map some) :
    encode cs = bs := by
  -- The cases are those of the reader; only the four well-formed ones read a character.
  fun_induction decode bs generalizing cs
  case case1 =>
    rw [List.map_eq_nil_iff.mp h.symm]
    rfl
  case case2 b rest ascii ih =>
    obtain ⟨cs', rfl, tails⟩ := read_some h
    rw [encode_cons, encodeChar_ascii b ascii, ih tails]
    rfl
  case case5 b _ _ _ c rest cont ih =>
    obtain ⟨cs', rfl, tails⟩ := read_some h
    rw [encode_cons, encodeChar_two b c ⟨by omega, by omega⟩ cont, ih tails]
    rfl
  case case9 b _ _ _ _ c second d rest cont ih =>
    obtain ⟨cs', rfl, tails⟩ := read_some h
    rw [encode_cons, encodeChar_three b c d ⟨by omega, by omega⟩ second cont, ih tails]
    rfl
  case case15 b _ _ _ _ _ c second d third e rest fourth ih =>
    obtain ⟨cs', rfl, tails⟩ := read_some h
    rw [encode_cons, encodeChar_four b c d e ⟨by omega, by omega⟩ second third fourth, ih tails]
    rfl
  -- Every other way to read on starts with an ill-formed part.
  all_goals exact absurd h read_none

private theorem mapM_id_eq_some {cs : List (Option Char)} {text : List Char}
    (h : cs.mapM id = some text) : cs = text.map some := by
  induction cs generalizing text with
  | nil =>
    obtain rfl : [] = text := Option.some.inj h
    rfl
  | cons c cs ih =>
    rw [List.mapM_cons, Option.bind_eq_bind, Option.bind_eq_some_iff] at h
    obtain ⟨c', rfl : c = some c', rest⟩ := h
    obtain ⟨text', tails, whole⟩ := Option.bind_eq_some_iff.mp rest
    obtain rfl : c' :: text' = text := Option.some.inj whole
    rw [ih tails, List.map_cons]

/-- `from_utf8` accepts the bytes of a text, and gives that text. -/
theorem fromUtf8_eq_some_iff (bs : Bytes) (text : String) :
    fromUtf8 bs = some text ↔ bytesOf text = bs := by
  constructor
  · intro read
    obtain ⟨cs, whole, rfl⟩ := Option.map_eq_some_iff.mp read
    rw [bytesOf, String.toList_ofList]
    exact encode_of_decode (mapM_id_eq_some whole)
  · rintro rfl
    exact fromUtf8_bytesOf text

/-- Seven-bit bytes are the encoding of the characters they number. -/
theorem encode_ascii (bs : Bytes) (ascii : ∀ b ∈ bs, b.toNat < 0x80) :
    encode (bs.map fun b => Char.ofNat b.toNat) = bs := by
  induction bs with
  | nil => rfl
  | cons b bs ih =>
    rw [List.map_cons, encode_cons, encodeChar_ascii b (ascii b List.mem_cons_self),
      ih fun x member => ascii x (List.mem_cons_of_mem _ member), List.singleton_append]

/-! ### Lossy decoding keeps the length in bounds -/

/-- The bytes of what was read, ill-formed parts replaced. -/
private abbrev replaced (parts : List (Option Char)) : Bytes :=
  encode (parts.map fun c => c.getD (Char.ofNat 0xFFFD))

private theorem length_replaced_none (parts : List (Option Char)) :
    (replaced (none :: parts)).length = 3 + (replaced parts).length := by
  rw [replaced, List.map_cons, Option.getD_none, encode_cons, List.length_append]
  rfl

private theorem length_replaced_some (c : Char) (parts : List (Option Char)) :
    (replaced (some c :: parts)).length =
      (String.utf8EncodeChar c).length + (replaced parts).length := by
  rw [replaced, List.map_cons, Option.getD_some, encode_cons, List.length_append]

/-- The text a byte list reads as is no shorter than the list, and at most three times as long: an
ill-formed part is of one to three bytes, and reads as a character of three. -/
theorem length_fromUtf8Lossy (bs : Bytes) :
    bs.length ≤ (bytesOf (fromUtf8Lossy bs)).length ∧
      (bytesOf (fromUtf8Lossy bs)).length ≤ 3 * bs.length := by
  rw [fromUtf8Lossy, bytesOf, String.toList_ofList]
  change bs.length ≤ (replaced (decode bs)).length ∧ (replaced (decode bs)).length ≤ 3 * bs.length
  fun_induction decode bs
  case case1 => exact ⟨Nat.le_refl _, Nat.le_refl _⟩
  case case2 b rest ascii ih =>
    rw [length_replaced_some, encodeChar_ascii b ascii]
    simp only [List.length_cons, List.length_nil]
    omega
  case case5 b _ _ _ c rest cont ih =>
    rw [length_replaced_some, encodeChar_two b c ⟨by omega, by omega⟩ cont]
    simp only [List.length_cons, List.length_nil]
    omega
  case case9 b _ _ _ _ c second d rest cont ih =>
    rw [length_replaced_some, encodeChar_three b c d ⟨by omega, by omega⟩ second cont]
    simp only [List.length_cons, List.length_nil]
    omega
  case case15 b _ _ _ _ _ c second d third e rest fourth ih =>
    rw [length_replaced_some,
      encodeChar_four b c d e ⟨by omega, by omega⟩ second third fourth]
    simp only [List.length_cons, List.length_nil]
    omega
  -- Every other way to read on starts with an ill-formed part.
  all_goals
    have nothing : (replaced []).length = 0 := rfl
    simp only [length_replaced_none, List.length_cons, List.length_nil, nothing] at *
    omega

/-- Bytes that start no character read as three bytes each. -/
theorem length_fromUtf8Lossy_replicate (n : Nat) :
    (bytesOf (fromUtf8Lossy (List.replicate n 0xFF))).length = 3 * n := by
  rw [fromUtf8Lossy, bytesOf, String.toList_ofList]
  change (replaced (decode (List.replicate n 0xFF))).length = 3 * n
  induction n with
  | zero => rfl
  | succ n ih =>
    have front : decode (0xFF :: List.replicate n 0xFF) = none :: decode (List.replicate n 0xFF) :=
      decode.eq_def _
    rw [List.replicate_succ, front, length_replaced_none, ih]
    omega

end Text
