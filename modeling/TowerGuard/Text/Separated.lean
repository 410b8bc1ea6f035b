import Mathlib.Data.List.TakeWhile

/-!
# Separated pieces

Texts that are pieces with a separator between them, and numbers as the pieces. Such a text is
read back by splitting it at its separator, also where an empty piece between two separators
stands for what has been left out.
-/

namespace Text

/-! ### Digits -/

private theorem digitChar_inj {d e : Nat} (small : d < 16) (small' : e < 16)
    (same : d.digitChar = e.digitChar) : d = e := by
  have all : ∀ d < 16, ∀ e < 16, Nat.digitChar d = Nat.digitChar e → d = e := by decide
  exact all d small e small' same

/-- A number is read back from its digits. -/
theorem toDigits_inj {b n m : Nat} (base : 1 < b) (digits : b ≤ 16)
    (same : Nat.toDigits b n = Nat.toDigits b m) : n = m := by
  -- On the quotients: the last digits are equal, and so are those in front of them.
  induction n using Nat.strongRecOn generalizing m with
  | ind n ih =>
    have some_ (k : Nat) : Nat.toDigits b k ≠ [] := Nat.toDigits_ne_nil
    rw [Nat.toDigits_eq_if base, Nat.toDigits_eq_if (n := m) base] at same
    split at same <;> split at same
    next small small' => exact digitChar_inj (by omega) (by omega) (List.cons.inj same).1
    next small large =>
      have lengths := congrArg List.length same
      have more := List.length_pos_iff.mpr (some_ (m / b))
      simp only [List.length_append, List.length_singleton] at lengths
      omega
    next large small =>
      have lengths := congrArg List.length same
      have more := List.length_pos_iff.mpr (some_ (n / b))
      simp only [List.length_append, List.length_singleton] at lengths
      omega
    next large large' =>
      obtain ⟨front, last⟩ := List.append_inj' same rfl
      have quotient : n / b = m / b :=
        ih (n / b) (Nat.div_lt_self (by omega) base) front
      have remainder : n % b = m % b := by
        have below (k : Nat) : k % b < 16 := Nat.lt_of_lt_of_le (Nat.mod_lt k (by omega)) digits
        exact digitChar_inj (below n) (below m) (List.cons.inj last).1
      rw [← Nat.div_add_mod n b, ← Nat.div_add_mod m b, quotient, remainder]

theorem mem_toDigits {b n : Nat} (base : 1 < b) {c : Char} (member : c ∈ Nat.toDigits b n) :
    ∃ d < b, c = d.digitChar := by
  induction n using Nat.strongRecOn with
  | ind n ih =>
    rw [Nat.toDigits_eq_if base] at member
    split at member
    next small => exact ⟨n, small, List.mem_singleton.mp member⟩
    next large =>
      rcases List.mem_append.mp member with front | last
      · exact ih (n / b) (Nat.div_lt_self (by omega) base) front
      · exact ⟨n % b, Nat.mod_lt n (by omega), List.mem_singleton.mp last⟩

/-- No digit is a dot or a colon. -/
theorem not_mem_toDigits {b n : Nat} (base : 1 < b) (digits : b ≤ 16) :
    '.' ∉ Nat.toDigits b n ∧ ':' ∉ Nat.toDigits b n := by
  have all : ∀ d < 16, Nat.digitChar d ≠ '.' ∧ Nat.digitChar d ≠ ':' := by decide
  constructor <;> intro member <;> obtain ⟨d, below, same⟩ := mem_toDigits base member
  · exact (all d (by omega)).1 same.symm
  · exact (all d (by omega)).2 same.symm

/-! ### Pieces between separators -/

section Intercalate

variable {α : Type} {separator c : α} {pieces : List (List α)}

/-- A text is made of the separator and of what its pieces are made of. -/
theorem mem_intercalate (member : c ∈ [separator].intercalate pieces) :
    c = separator ∨ ∃ piece ∈ pieces, c ∈ piece := by
  induction pieces with
  | nil => cases member
  | cons first rest ih =>
    by_cases last : rest = []
    · rw [last, List.intercalate_singleton] at member
      exact .inr ⟨first, List.mem_cons_self, member⟩
    · rw [List.intercalate_cons_of_ne_nil last, List.mem_append, List.mem_append] at member
      rcases member with (here | between) | later
      · exact .inr ⟨first, List.mem_cons_self, here⟩
      · exact .inl (List.mem_singleton.mp between)
      · refine (ih later).imp_right ?_
        rintro ⟨piece, inside, found⟩
        exact ⟨piece, List.mem_cons_of_mem _ inside, found⟩

/-- Pieces without the separator are read back. -/
theorem intercalate_inj [DecidableEq α] {pieces' : List (List α)}
    (free : ∀ piece ∈ pieces, separator ∉ piece) (free' : ∀ piece ∈ pieces', separator ∉ piece)
    (some_ : pieces ≠ []) (some_' : pieces' ≠ [])
    (same : [separator].intercalate pieces = [separator].intercalate pieces') :
    pieces = pieces' := by
  rw [← List.splitOn_intercalate separator free some_, same,
    List.splitOn_intercalate separator free' some_']

theorem intercalate_append {others : List (List α)} (some_ : pieces ≠ []) (more : others ≠ []) :
    [separator].intercalate (pieces ++ others) =
      [separator].intercalate pieces ++ separator :: [separator].intercalate others := by
  induction pieces with
  | nil => exact absurd rfl some_
  | cons first rest ih =>
    by_cases last : rest = []
    · rw [last, List.singleton_append, List.intercalate_cons_of_ne_nil more,
        List.intercalate_singleton, List.append_assoc]
      rfl
    · rw [List.cons_append, List.intercalate_cons_of_ne_nil (by simp [last]), ih last,
        List.intercalate_cons_of_ne_nil last, List.append_assoc, List.append_assoc,
        List.append_assoc]

end Intercalate

/-! ### Pieces left out -/

variable {α : Type}

/-- The pieces, or one empty piece where there is none. -/
def orBlank (pieces : List (List α)) : List (List α) := if pieces = [] then [[]] else pieces

/-- An empty piece for all that is left out between `front` and `behind`. -/
def elided (front behind : List (List α)) : List (List α) :=
  orBlank front ++ [] :: orBlank behind

theorem orBlank_ne_nil (pieces : List (List α)) : orBlank pieces ≠ [] := by
  unfold orBlank
  split
  · exact List.cons_ne_nil _ _
  next some_ => exact some_

theorem two_le_length_elided (front behind : List (List α)) :
    2 ≤ (elided front behind).length := by
  have ahead := List.length_pos_iff.mpr (orBlank_ne_nil front)
  simp only [elided, List.length_append, List.length_cons]
  omega

theorem nil_mem_elided (front behind : List (List α)) : [] ∈ elided front behind :=
  List.mem_append_right _ List.mem_cons_self

theorem mem_elided {front behind : List (List α)} {piece : List α}
    (member : piece ∈ elided front behind) : piece = [] ∨ piece ∈ front ∨ piece ∈ behind := by
  have blank {pieces : List (List α)} (inside : piece ∈ orBlank pieces) :
      piece = [] ∨ piece ∈ pieces := by
    unfold orBlank at inside
    split at inside
    · exact .inl (List.mem_singleton.mp inside)
    · exact .inr inside
  rcases List.mem_append.mp member with first | rest
  · exact (blank first).imp_right .inl
  · rcases List.mem_cons.mp rest with here | last
    · exact .inl here
    · exact (blank last).imp_right .inr

/-- It stands between two separators. -/
theorem intercalate_elided (separator : α) (front behind : List (List α)) :
    [separator].intercalate (elided front behind) = [separator].intercalate front ++
      separator :: separator :: [separator].intercalate behind := by
  have blank (pieces : List (List α)) :
      [separator].intercalate (orBlank pieces) = [separator].intercalate pieces := by
    unfold orBlank
    split
    next none => rw [none]; rfl
    next => rfl
  rw [elided, intercalate_append (orBlank_ne_nil front) (List.cons_ne_nil _ _), blank,
    List.intercalate_cons_of_ne_nil (orBlank_ne_nil behind), blank]
  rfl

section Elided

variable {front behind front' behind' : List (List α)}

/-- What is in front of the first empty piece. -/
theorem takeWhile_elided (behind : List (List α)) (pieces : ∀ piece ∈ front, piece ≠ []) :
    (elided front behind).takeWhile (!·.isEmpty) = front := by
  unfold elided orBlank
  split
  next none => simp [none]
  next =>
    rw [List.takeWhile_append_of_pos fun piece member => by simp [pieces piece member]]
    simp

theorem reverse_elided : (elided front behind).reverse = elided behind.reverse front.reverse := by
  have blank (pieces : List (List α)) : (orBlank pieces).reverse = orBlank pieces.reverse := by
    unfold orBlank
    simp only [List.reverse_eq_nil_iff]
    split <;> rfl
  simp [elided, blank]

/-- Both sides of what is left out are read back. -/
theorem elided_inj (pieces : ∀ piece ∈ front ++ behind, piece ≠ [])
    (pieces' : ∀ piece ∈ front' ++ behind', piece ≠ [])
    (same : elided front behind = elided front' behind') : front = front' ∧ behind = behind' := by
  obtain ⟨first, last⟩ := List.forall_mem_append.mp pieces
  obtain ⟨first', last'⟩ := List.forall_mem_append.mp pieces'
  constructor
  · rw [← takeWhile_elided behind first, same, takeWhile_elided behind' first']
  · have reversed := congrArg List.reverse same
    rw [reverse_elided, reverse_elided] at reversed
    rw [← List.reverse_inj, ← takeWhile_elided front.reverse fun piece member =>
        last piece (List.mem_reverse.mp member), reversed,
      takeWhile_elided front'.reverse fun piece member => last' piece (List.mem_reverse.mp member)]

end Elided

end Text
