import TowerGuard.Http
import TowerGuard.Text.Separated

/-!
# Addresses as text

A client is known to the behavior rules and the reports by the text of its address. The text of
RFC 5952 leaves zeros out, and writes some addresses like those of another family, but no two
addresses are written the same.
-/

namespace TowerGuard

open Text

/-! ### Dotted quads -/

theorem dottedQuad_toList (a b c d : Nat) : (dottedQuad a b c d).toList =
    ['.'].intercalate ([a, b, c, d].map (Nat.toDigits 10)) := by
  simp [dottedQuad, Nat.toString_eq_repr]

theorem colon_not_mem_dottedQuad (a b c d : Nat) : ':' ∉ (dottedQuad a b c d).toList := by
  rw [dottedQuad_toList]
  intro member
  rcases mem_intercalate member with dot | ⟨piece, inside, digit⟩
  · cases dot
  · obtain ⟨n, -, rfl⟩ := List.mem_map.mp inside
    exact (not_mem_toDigits (by decide) (by decide)).2 digit

theorem dot_mem_dottedQuad (a b c d : Nat) : '.' ∈ (dottedQuad a b c d).toList := by
  rw [dottedQuad_toList, List.map_cons, List.map_cons, List.intercalate_cons_cons]
  simp

theorem dottedQuad_inj {a b c d a' b' c' d' : Nat}
    (same : (dottedQuad a b c d).toList = (dottedQuad a' b' c' d').toList) :
    a = a' ∧ b = b' ∧ c = c' ∧ d = d' := by
  have free (numbers : List Nat) : ∀ piece ∈ numbers.map (Nat.toDigits 10), '.' ∉ piece := by
    rintro piece inside
    obtain ⟨n, -, rfl⟩ := List.mem_map.mp inside
    exact (not_mem_toDigits (by decide) (by decide)).1
  rw [dottedQuad_toList, dottedQuad_toList] at same
  have pieces := intercalate_inj (free _) (free _) (by simp) (by simp) same
  simp only [List.map_cons, List.map_nil, List.cons.injEq, and_true] at pieces
  obtain ⟨first, second, third, fourth⟩ := pieces
  have digits {n m : Nat} := @toDigits_inj 10 n m (by decide) (by decide)
  exact ⟨digits first, digits second, digits third, digits fourth⟩

/-! ### The longest run of zeros -/

/-- The run `(start, length)` of these segments is all zeros. -/
def ZeroRun (segments : List UInt16) (run : Nat × Nat) : Prop :=
  ∃ front behind, segments = front ++ List.replicate run.2 0 ++ behind ∧ front.length = run.1

/-- The run at the end of what has been scanned, if there is one. -/
def ZerosBehind (segments : List UInt16) (run : Nat × Nat) : Prop :=
  run.2 = 0 ∨ ∃ front, segments = front ++ List.replicate run.2 0 ∧ front.length = run.1

/-- One turn of `longestZeros`. -/
def zerosTurn : (Nat × Nat) × (Nat × Nat) → UInt16 × Nat → (Nat × Nat) × (Nat × Nat)
  | (longest, current), (segment, i) =>
    if segment = 0 then
      let current := if current.2 = 0 then (i, 1) else (current.1, current.2 + 1)
      (if longest.2 < current.2 then current else longest, current)
    else (longest, (0, 0))

theorem ZeroRun.snoc {segments : List UInt16} {run : Nat × Nat} (zeros : ZeroRun segments run)
    (segment : UInt16) : ZeroRun (segments ++ [segment]) run := by
  obtain ⟨front, behind, rfl, start⟩ := zeros
  exact ⟨front, behind ++ [segment], by simp only [List.append_assoc], start⟩

theorem ZerosBehind.zeroRun {segments : List UInt16} {run : Nat × Nat}
    (zeros : ZerosBehind segments run) (some_ : run.2 ≠ 0) : ZeroRun segments run := by
  obtain none | ⟨front, rfl, start⟩ := zeros
  · exact absurd none some_
  · exact ⟨front, [], by rw [List.append_nil], start⟩

/-- A turn goes on from zeros to zeros. -/
theorem zerosTurn_zeros {segments : List UInt16} {longest current : Nat × Nat}
    (zeros : ZeroRun segments longest) (behind : ZerosBehind segments current)
    (segment : UInt16) :
    ZeroRun (segments ++ [segment])
        (zerosTurn (longest, current) (segment, segments.length)).1 ∧
      ZerosBehind (segments ++ [segment])
        (zerosTurn (longest, current) (segment, segments.length)).2 := by
  by_cases zero : segment = 0
  · subst zero
    have extended : ZerosBehind (segments ++ [0])
        (if current.2 = 0 then (segments.length, 1) else (current.1, current.2 + 1)) := by
      split
      next fresh => exact .inr ⟨segments, rfl, rfl⟩
      next some_ =>
        obtain none | ⟨front, rfl, start⟩ := behind
        · exact absurd none some_
        · exact .inr ⟨front, by rw [List.replicate_succ', List.append_assoc], start⟩
    simp only [zerosTurn, if_true]
    generalize (if current.2 = 0 then (segments.length, 1) else (current.1, current.2 + 1)) =
      onward at extended ⊢
    refine ⟨?_, extended⟩
    split
    next longer => exact extended.zeroRun (by omega)
    next => exact zeros.snoc 0
  · simp only [zerosTurn, if_neg zero]
    exact ⟨zeros.snoc segment, .inl rfl⟩

theorem longestZeros_zeroRun (segments : List UInt16) :
    ZeroRun segments (longestZeros segments) := by
  have scan (rest seen : List UInt16) (longest current : Nat × Nat)
      (zeros : ZeroRun seen longest) (behind : ZerosBehind seen current) :
      ZeroRun (seen ++ rest)
        ((rest.zipIdx seen.length).foldl zerosTurn (longest, current)).1 := by
    induction rest generalizing seen longest current with
    | nil =>
      rw [List.append_nil]
      exact zeros
    | cons segment rest ih =>
      obtain ⟨zeros', behind'⟩ := zerosTurn_zeros zeros behind segment
      have onward := ih (seen ++ [segment]) _ _ zeros' behind'
      rw [List.append_assoc, List.length_append] at onward
      exact onward
  exact scan segments [] (0, 0) (0, 0) ⟨[], [], rfl, rfl⟩ (.inl rfl)

/-! ### Addresses of the sixth version -/

def hexDigits (segment : UInt16) : List Char := Nat.toDigits 16 segment.toNat

theorem hexDigits_ne_nil (segment : UInt16) : hexDigits segment ≠ [] := Nat.toDigits_ne_nil

theorem map_hexDigits_inj {segments segments' : List UInt16}
    (same : segments.map hexDigits = segments'.map hexDigits) : segments = segments' := by
  refine (List.map_inj_right fun a b digits => ?_).mp same
  exact UInt16.toNat_inj.mp (toDigits_inj (by decide) (by decide) digits)

/-- What stands between the colons, the zeros that are left out as one empty piece. -/
def v6Pieces (segments : List UInt16) : List (List Char) :=
  let (start, length) := longestZeros segments
  if 1 < length then
    elided ((segments.take start).map hexDigits) ((segments.drop (start + length)).map hexDigits)
  else segments.map hexDigits

theorem hexGroups_toList (segments : List UInt16) :
    (hexGroups segments).toList = [':'].intercalate (segments.map hexDigits) := by
  simp only [hexGroups, String.toList_intercalate, List.map_map, Function.comp_def,
    String.toList_ofList]
  rfl

/-- Where zeros are left out, the run is as long as the rest leaves room for. -/
theorem zeros_between {segments : List UInt16} {start length : Nat}
    (zeros : ZeroRun segments (start, length)) : segments = segments.take start ++
      List.replicate (segments.length - (segments.take start).length -
        (segments.drop (start + length)).length) 0 ++ segments.drop (start + length) := by
  obtain ⟨front, behind, rfl, rfl⟩ := zeros
  dsimp only
  have ahead : (front ++ List.replicate length 0 ++ behind).take front.length = front := by
    rw [List.append_assoc, List.take_left]
  have rest : (front ++ List.replicate length (0 : UInt16) ++ behind).drop
      (front.length + length) = behind := by
    have both : front.length + length = (front ++ List.replicate length (0 : UInt16)).length := by
      simp
    rw [both, List.drop_left]
  have room : (front ++ List.replicate length 0 ++ behind).length - front.length -
      behind.length = length := by
    simp only [List.length_append, List.length_replicate]
    omega
  rw [ahead, rest, room]

/-- The segments are read back from their pieces. -/
theorem v6Pieces_inj {segments segments' : List UInt16} (same : segments.length = segments'.length)
    (pieces : v6Pieces segments = v6Pieces segments') : segments = segments' := by
  have some_ (segments : List UInt16) : ∀ piece ∈ segments.map hexDigits, piece ≠ [] := by
    rintro piece member
    obtain ⟨segment, -, rfl⟩ := List.mem_map.mp member
    exact hexDigits_ne_nil segment
  have sides (front behind : List UInt16) :
      ∀ piece ∈ front.map hexDigits ++ behind.map hexDigits, piece ≠ [] := by
    rw [← List.map_append]
    exact some_ _
  -- Pieces with an empty one among them are those of an address that leaves zeros out.
  have apart (front behind whole : List UInt16) :
      elided (front.map hexDigits) (behind.map hexDigits) ≠ whole.map hexDigits := by
    intro same
    exact some_ whole [] (same ▸ nil_mem_elided _ _) rfl
  have zeros := longestZeros_zeroRun segments
  have zeros' := longestZeros_zeroRun segments'
  unfold v6Pieces at pieces
  generalize longestZeros segments = run at zeros pieces
  generalize longestZeros segments' = run' at zeros' pieces
  obtain ⟨start, length⟩ := run
  obtain ⟨start', length'⟩ := run'
  dsimp only at pieces
  split at pieces <;> split at pieces
  · obtain ⟨front, behind⟩ := elided_inj (sides _ _) (sides _ _) pieces
    rw [zeros_between zeros, zeros_between zeros', map_hexDigits_inj front,
      map_hexDigits_inj behind, same]
  · exact absurd pieces (apart _ _ _)
  · exact absurd pieces.symm (apart _ _ _)
  · exact map_hexDigits_inj pieces

theorem not_mem_v6Pieces {segments : List UInt16} {piece : List Char}
    (member : piece ∈ v6Pieces segments) : '.' ∉ piece ∧ ':' ∉ piece := by
  have digits {segments : List UInt16} (inside : piece ∈ segments.map hexDigits) :
      '.' ∉ piece ∧ ':' ∉ piece := by
    obtain ⟨segment, -, rfl⟩ := List.mem_map.mp inside
    exact not_mem_toDigits (by decide) (by decide)
  unfold v6Pieces at member
  split at member
  split at member
  · rcases mem_elided member with rfl | front | behind
    · exact ⟨List.not_mem_nil, List.not_mem_nil⟩
    · exact digits front
    · exact digits behind
  · exact digits member

/-- There are at least two pieces, so a colon between them. -/
theorem two_le_length_v6Pieces (segments : List UInt16) (two : 2 ≤ segments.length) :
    2 ≤ (v6Pieces segments).length := by
  unfold v6Pieces
  split
  split
  · exact two_le_length_elided _ _
  · rw [List.length_map]
    exact two

/-! ### No two the same -/

/-- An address of the fourth version inside one of the sixth. -/
def Mapped (segments : List UInt16) : Prop := segments.take 6 = [0, 0, 0, 0, 0, 0xffff]

theorem display_mapped {segments : Vector UInt16 8} (mapped : Mapped segments.toList) :
    (IpAddr.v6 segments).display =
      "::ffff:" ++ dottedQuad ((segments.toList.getD 6 0).toNat / 256)
        ((segments.toList.getD 6 0).toNat % 256) ((segments.toList.getD 7 0).toNat / 256)
        ((segments.toList.getD 7 0).toNat % 256) := by
  unfold IpAddr.display
  exact if_pos mapped

theorem display_unmapped {segments : Vector UInt16 8} (unmapped : ¬Mapped segments.toList) :
    (IpAddr.v6 segments).display.toList = [':'].intercalate (v6Pieces segments.toList) := by
  -- The same run of zeros decides on both sides.
  have written : (IpAddr.v6 segments).display =
      let (start, length) := longestZeros segments.toList
      if 1 < length then hexGroups (segments.toList.take start) ++ "::" ++
        hexGroups (segments.toList.drop (start + length))
      else hexGroups segments.toList := by
    unfold IpAddr.display
    exact if_neg unmapped
  rw [written]
  unfold v6Pieces
  rcases longestZeros segments.toList with ⟨start, length⟩
  dsimp only
  split
  · rw [intercalate_elided, String.toList_append, String.toList_append, hexGroups_toList,
      hexGroups_toList, List.append_assoc]
    rfl
  · exact hexGroups_toList _

theorem dot_not_mem_unmapped {segments : Vector UInt16 8} (unmapped : ¬Mapped segments.toList) :
    '.' ∉ (IpAddr.v6 segments).display.toList := by
  rw [display_unmapped unmapped]
  intro member
  rcases mem_intercalate member with colon | ⟨piece, inside, dot⟩
  · cases colon
  · exact (not_mem_v6Pieces inside).1 dot

theorem colon_mem_display (segments : Vector UInt16 8) :
    ':' ∈ (IpAddr.v6 segments).display.toList := by
  by_cases mapped : Mapped segments.toList
  · rw [display_mapped mapped, String.toList_append]
    exact List.mem_append_left _ (by decide)
  · have eight : segments.toList.length = 8 := segments.length_toList
    have two := two_le_length_v6Pieces segments.toList (by omega)
    rw [display_unmapped mapped]
    match v6Pieces segments.toList, two with
    | first :: second :: rest, _ =>
      rw [List.intercalate_cons_cons]
      simp

/-- Eight segments are their first six and the two behind. -/
theorem segments_eq {segments segments' : List UInt16} (eight : segments.length = 8)
    (eight' : segments'.length = 8) (six : segments.take 6 = segments'.take 6)
    (seventh : segments.getD 6 0 = segments'.getD 6 0)
    (eighth : segments.getD 7 0 = segments'.getD 7 0) : segments = segments' := by
  match segments, eight, segments', eight' with
  | [_, _, _, _, _, _, _, _], _, [_, _, _, _, _, _, _, _], _ =>
    simp only [List.take_succ_cons, List.take_zero, List.getD_cons_succ, List.getD_cons_zero,
      List.cons.injEq, and_true] at six seventh eighth ⊢
    exact ⟨six.1, six.2.1, six.2.2.1, six.2.2.2.1, six.2.2.2.2.1, six.2.2.2.2.2, seventh, eighth⟩

/-- No two addresses are written the same. -/
theorem IpAddr.display_inj {ip ip' : IpAddr} (same : ip.display = ip'.display) : ip = ip' := by
  have bytes {a a' : UInt8} (equal : a.toNat = a'.toNat) : a = a' := UInt8.toNat_inj.mp equal
  have halves {g g' : UInt16} (high : g.toNat / 256 = g'.toNat / 256)
      (low : g.toNat % 256 = g'.toNat % 256) : g = g' := by
    refine UInt16.toNat_inj.mp ?_
    rw [← Nat.div_add_mod g.toNat 256, ← Nat.div_add_mod g'.toNat 256, high, low]
  have apart (a b c d : UInt8) (segments : Vector UInt16 8) :
      (IpAddr.v4 a b c d).display ≠ (IpAddr.v6 segments).display := by
    intro same
    refine colon_not_mem_dottedQuad a.toNat b.toNat c.toNat d.toNat ?_
    have text : (dottedQuad a.toNat b.toNat c.toNat d.toNat).toList =
        (IpAddr.v6 segments).display.toList := congrArg String.toList same
    rw [text]
    exact colon_mem_display segments
  have text := congrArg String.toList same
  cases ip with
  | v4 a b c d =>
    cases ip' with
    | v4 a' b' c' d' =>
      obtain ⟨first, second, third, fourth⟩ := dottedQuad_inj text
      rw [bytes first, bytes second, bytes third, bytes fourth]
    | v6 segments => exact absurd same (apart a b c d segments)
  | v6 segments =>
    cases ip' with
    | v4 a b c d => exact absurd same.symm (apart a b c d segments)
    | v6 segments' =>
      have eight : segments.toList.length = 8 := segments.length_toList
      have eight' : segments'.toList.length = 8 := segments'.length_toList
      refine congrArg IpAddr.v6 (Vector.toList_inj.mp ?_)
      by_cases mapped : Mapped segments.toList <;> by_cases mapped' : Mapped segments'.toList
      · rw [display_mapped mapped, display_mapped mapped', String.toList_append,
          String.toList_append] at text
        obtain ⟨high, low, high', low'⟩ := dottedQuad_inj (List.append_cancel_left text)
        exact segments_eq eight eight' (mapped.trans mapped'.symm) (halves high low)
          (halves high' low')
      · refine absurd ?_ (dot_not_mem_unmapped mapped')
        rw [← text, display_mapped mapped, String.toList_append]
        exact List.mem_append_right _ (dot_mem_dottedQuad ..)
      · refine absurd ?_ (dot_not_mem_unmapped mapped)
        rw [text, display_mapped mapped', String.toList_append]
        exact List.mem_append_right _ (dot_mem_dottedQuad ..)
      · rw [display_unmapped mapped, display_unmapped mapped'] at text
        have some_ {segments : List UInt16} (eight : segments.length = 8) :
            v6Pieces segments ≠ [] := by
          have two := two_le_length_v6Pieces segments (by omega)
          exact List.length_pos_iff.mp (by omega)
        refine v6Pieces_inj (eight.trans eight'.symm) (intercalate_inj ?_ ?_ (some_ eight)
          (some_ eight') text)
        · exact fun piece member => (not_mem_v6Pieces member).2
        · exact fun piece member => (not_mem_v6Pieces member).2

end TowerGuard
