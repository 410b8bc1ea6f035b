import Mathlib.Data.List.Forall2
import TowerGuard.Scan
import TowerGuard.Text.FormUrlencoded

/-!
# Decoding a query

What the decoding loop pushes, byte by byte, and how a whole query is cut: the loop reads a
component as the grammar of form encoding does, and the pairs of a query are its pieces in order.
-/

namespace TowerGuard

open Text

/-! ### The loop -/

theorem unescape_escape {high low b : UInt8} {rest : Bytes}
    (read : escapedByte high low = some b) :
    unescape (37 :: high :: low :: rest) = b :: unescape rest := by
  rw [unescape, read]

/-- A byte that starts no escape is copied. -/
theorem unescape_literal {b : UInt8} {rest : Bytes}
    (literal : ∀ high low rest', b = 37 → rest = high :: low :: rest' →
      escapedByte high low = none) :
    unescape (b :: rest) = b :: unescape rest := by
  by_cases percent : b = 37
  · subst percent
    match rest with
    | [] | [_] => rfl
    | high :: low :: rest' =>
      rw [unescape, literal high low rest' rfl rfl]
  · exact unescape.eq_3 b rest fun _ _ _ same => absurd same percent

/-- A turn reads what `unescape` reads at its index, and stays in range. -/
theorem decodeTurn_spec {bytes : Bytes} {index : Nat} (inside : index < bytes.length) :
    ∃ b next, decodeTurn bytes index = some (b, next) ∧ index < next ∧
      unescape (bytes.drop index) = b :: unescape (bytes.drop next) := by
  have first : bytes.drop index = bytes[index] :: bytes.drop (index + 1) :=
    List.drop_eq_getElem_cons inside
  have copied (literal : ∀ high low rest, bytes[index] = 37 →
      bytes.drop (index + 1) = high :: low :: rest → escapedByte high low = none) :
      unescape (bytes.drop index) = bytes[index] :: unescape (bytes.drop (index + 1)) := by
    rw [first, unescape_literal literal]
  by_cases escape : bytes[index] = 37 ∧ index + 2 < bytes.length
  · obtain ⟨percent, behind⟩ := escape
    have ahead : bytes.drop (index + 1) =
        bytes[index + 1] :: bytes[index + 2] :: bytes.drop (index + 3) := by
      rw [List.drop_eq_getElem_cons (by omega : index + 1 < bytes.length),
        List.drop_eq_getElem_cons behind]
    have high : bytes[index + 1]? = some bytes[index + 1] := List.getElem?_eq_getElem (by omega)
    cases read : escapedByte bytes[index + 1] bytes[index + 2] with
    | some byte =>
      refine ⟨byte, index + 3, by simp [decodeTurn, inside, percent, behind, high, read],
        by omega, ?_⟩
      rw [first, percent, ahead, unescape_escape read]
    | none =>
      refine ⟨bytes[index], index + 1, by simp [decodeTurn, inside, percent, behind, high, read],
        by omega, copied fun _ _ _ _ split => ?_⟩
      rw [ahead, List.cons.injEq, List.cons.injEq] at split
      obtain ⟨rfl, rfl, -⟩ := split
      exact read
  · refine ⟨bytes[index], index + 1, by simp [decodeTurn, inside, escape], by omega,
      copied fun high low rest percent split => ?_⟩
    have long := congrArg List.length split
    simp only [List.length_drop, List.length_cons] at long
    exact absurd ⟨percent, by omega⟩ escape

/-- The loop runs to its end, and pushes what `unescape` reads from its index on. -/
theorem decodeLoop_spec (bytes : Bytes) (fuel index : Nat) (out : Bytes)
    (enough : bytes.length ≤ index + fuel) :
    decodeLoop bytes fuel index out = some (out ++ unescape (bytes.drop index)) := by
  induction fuel generalizing index out with
  | zero =>
    have past : ¬index < bytes.length := by omega
    rw [decodeLoop, if_neg past, List.drop_eq_nil_of_le (by omega), unescape, List.append_nil]
  | succ fuel ih =>
    rw [decodeLoop]
    split
    next inside =>
      obtain ⟨b, next, turn, later, reads⟩ := decodeTurn_spec inside
      simp only [turn, Option.bind_eq_bind, Option.bind_some]
      rw [ih next (out ++ [b]) (by omega), reads, List.append_assoc, List.singleton_append]
    next past => rw [List.drop_eq_nil_of_le (by omega), unescape, List.append_nil]

/-! ### The bytes the loop is given -/

/-- What replacing `+` by a space does to one byte. -/
def plusToSpace (b : UInt8) : UInt8 := if b = 43 then 32 else b

theorem plusToSpace_ne_plus (b : UInt8) : plusToSpace b ≠ 43 := by
  unfold plusToSpace
  split <;> simp_all

theorem hexValue_plusToSpace (b : UInt8) : hexValue (plusToSpace b).toNat = hexValue b.toNat := by
  unfold plusToSpace
  split
  next plus =>
    subst plus
    decide
  next => rfl

theorem hexPair_plusToSpace (high low : UInt8) :
    hexPair (plusToSpace high) (plusToSpace low) = hexPair high low := by
  rw [hexPair, hexPair, hexValue_plusToSpace, hexValue_plusToSpace]

theorem encodeChar_plusToSpace (c : Char) :
    String.utf8EncodeChar (if c = '+' then ' ' else c) =
      (String.utf8EncodeChar c).map plusToSpace := by
  by_cases plus : c = '+'
  · subst plus
    decide
  · rw [if_neg plus, List.map_congr_left (g := id), List.map_id]
    intro b member
    refine if_neg fun same => plus ?_
    subst same
    exact eq_of_mem_encodeChar member (by decide)

theorem encode_plusToSpace (component : List Char) :
    encode (component.map fun c => if c = '+' then ' ' else c) =
      (encode component).map plusToSpace := by
  induction component with
  | nil => rfl
  | cons c component ih =>
    rw [List.map_cons, encode_cons, encode_cons, ih, List.map_append, encodeChar_plusToSpace]

/-- Two bytes ahead of which stands no sign are read as hexadecimal digits, and not otherwise. -/
theorem escapedByte_eq_hexPair {high low : UInt8} (unsigned : high ≠ 43) :
    escapedByte high low = hexPair high low := by
  have digits : u8FromHex [high, low] = hexPair high low := by
    unfold u8FromHex hexPair
    split
    next rest same => exact absurd (List.cons.inj same).1 unsigned
    next =>
      simp only [List.mapM_cons, List.mapM_nil]
      cases upper : hexValue high.toNat with
      | none => simp
      | some a =>
        cases lower : hexValue low.toNat with
        | none => simp
        | some b =>
          have small := hexValue_lt upper
          have small' := hexValue_lt lower
          have inside : a * 16 + b < 256 := by omega
          simp [inside]
  unfold escapedByte
  cases read : fromUtf8 [high, low] with
  | some text =>
    rw [Option.getD_some, (fromUtf8_eq_some_iff _ _).mp read, digits]
  | none =>
    -- Hexadecimal digits are ASCII, and two of them are a text.
    rw [Option.getD_none]
    cases pair : hexPair high low with
    | none => rfl
    | some b =>
      simp only [hexPair, Option.bind_eq_bind, Option.bind_eq_some_iff] at pair
      obtain ⟨a, upper, c, lower, -⟩ := pair
      have text := encode_ascii [high, low] (by
        simpa using ⟨(hexValue_ascii upper).2, (hexValue_ascii lower).2⟩)
      rw [(fromUtf8_eq_some_iff _ (String.ofList _)).mpr
        (by rw [bytesOf, String.toList_ofList]; exact text)] at read
      cases read

/-- Replacing `+` ahead of the escapes is reading both at once: no escape has a `+` in it. -/
theorem unescape_plusToSpace (bytes : Bytes) :
    unescape (bytes.map plusToSpace) = unquotePlus bytes := by
  fun_induction unquotePlus bytes with
  | case1 => rfl
  | case2 rest ih =>
    rw [List.map_cons, ← ih]
    exact unescape_literal fun _ _ _ percent => absurd percent (by decide)
  | case3 high low rest b read ih =>
    rw [← hexPair_plusToSpace, ← escapedByte_eq_hexPair (plusToSpace_ne_plus high)] at read
    rw [← ih]
    exact unescape_escape read
  | case4 high low rest unread ih =>
    rw [← hexPair_plusToSpace, ← escapedByte_eq_hexPair (plusToSpace_ne_plus high)] at unread
    rw [← ih]
    refine unescape_literal fun _ _ _ _ split => ?_
    rw [List.map_cons, List.map_cons, List.cons.injEq, List.cons.injEq] at split
    obtain ⟨rfl, rfl, -⟩ := split
    exact unread
  | case5 b rest plain literal ih =>
    rw [List.map_cons, ← ih, plusToSpace, if_neg plain]
    refine unescape_literal fun high low rest' percent split => ?_
    -- Two further bytes would have made this an escape.
    obtain ⟨high', tail, rfl, -, more⟩ := List.map_eq_cons_iff.mp split
    obtain ⟨low', tail', rfl, -, -⟩ := List.map_eq_cons_iff.mp more
    exact absurd rfl (literal high' low' tail' percent)

theorem unescape_component (component : List Char) :
    unescape (encode (component.map fun c => if c = '+' then ' ' else c)) =
      unquotePlus (encode component) := by
  rw [encode_plusToSpace, unescape_plusToSpace]

theorem decodeQueryComponent_eq (component : List Char) :
    decodeQueryComponent component = fromUtf8Lossy (unquotePlus (encode component)) := by
  rw [decodeQueryComponent, unescape_component]

/-! ### The pieces of a query -/

/-- What a piece of a query reads as: it is cut at its first `=`, and its halves are decoded. -/
inductive ReadsPair : List Char → String × String → Prop
  | full {name : List Char} (value : List Char) : '=' ∉ name →
      ReadsPair (name ++ '=' :: value)
        (fromUtf8Lossy (unquotePlus (encode name)), fromUtf8Lossy (unquotePlus (encode value)))
  | bare {name : List Char} : '=' ∉ name →
      ReadsPair name (fromUtf8Lossy (unquotePlus (encode name)), "")

theorem readsPair_decodePair (piece : List Char) : ReadsPair piece (decodePair piece) := by
  by_cases cut : '=' ∈ piece
  · obtain ⟨name, value, rfl, first⟩ := List.eq_append_cons_of_mem cut
    rw [decodePair, splitOnce_append value first]
    simp only [decodeQueryComponent_eq]
    exact .full value first
  · simp only [decodePair, splitOnce, if_neg cut, decodeQueryComponent_eq]
    exact .bare cut

/-- The pairs of a query are its non-empty pieces, in order. -/
theorem queryPairs_pieces {pieces : List (List Char)} {query : Option String}
    (cut : ∀ piece ∈ pieces, '&' ∉ piece)
    (whole : ['&'].intercalate pieces = (query.getD "").toList) :
    List.Forall₂ ReadsPair (pieces.filter fun piece => !piece.isEmpty)
      ((queryPairs query).map decodePair) := by
  have same : queryPairs query = pieces.filter fun piece => !piece.isEmpty := by
    rw [queryPairs, ← whole]
    cases pieces with
    | nil => rfl
    | cons first rest => rw [List.splitOn_intercalate '&' cut (List.cons_ne_nil _ _)]
  rw [same]
  exact List.forall₂_map_right_iff.mpr (List.forall₂_same.mpr fun piece _ =>
    readsPair_decodePair piece)

end TowerGuard
