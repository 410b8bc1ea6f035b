import TowerGuard.Text.JsonTokens

/-!
# JSON

The texts of RFC 8259 with the values they denote, and a reader of texts. What denotes a value
is read as that value, so that no text denotes two.
-/

namespace Json

/-- A JSON value. An object has its members in the order of the text. -/
inductive Value where
  | null
  | bool (value : Bool)
  | num (value : Rat)
  | str (value : String)
  | arr (items : List Value)
  | obj (members : List (String × Value))

def isBlank (c : Char) : Bool := c = ' ' || c = '\t' || c = '\n' || c = '\r'

/-- What a part of a text stands for: a value, the items of an array or the members of an
object. -/
inductive Part where
  | value (v : Value)
  | items (vs : List Value)
  | members (entries : List (String × Value))

/-- The texts of the parts, without their brackets. Blanks stand around every value and name. -/
inductive Denotes : List Char → Part → Prop
  | null : Denotes ['n', 'u', 'l', 'l'] (.value .null)
  | true_ : Denotes ['t', 'r', 'u', 'e'] (.value (.bool true))
  | false_ : Denotes ['f', 'a', 'l', 's', 'e'] (.value (.bool false))
  | num (n : Numeral) : n.isValid = true → Denotes n.render (.value (.num n.value))
  | str {text : List Char} {value : String} : IsString text value →
      Denotes text (.value (.str value))
  | emptyArr {blank : List Char} : blank.all isBlank = true →
      Denotes ('[' :: (blank ++ [']'])) (.value (.arr []))
  | arr {text : List Char} {vs : List Value} : Denotes text (.items vs) →
      Denotes ('[' :: (text ++ [']'])) (.value (.arr vs))
  | emptyObj {blank : List Char} : blank.all isBlank = true →
      Denotes ('{' :: (blank ++ ['}'])) (.value (.obj []))
  | obj {text : List Char} {entries : List (String × Value)} : Denotes text (.members entries) →
      Denotes ('{' :: (text ++ ['}'])) (.value (.obj entries))
  | lastItem {before text behind : List Char} {v : Value} : before.all isBlank = true →
      behind.all isBlank = true → Denotes text (.value v) →
      Denotes (before ++ (text ++ behind)) (.items [v])
  | item {before text behind more : List Char} {v : Value} {vs : List Value} :
      before.all isBlank = true → behind.all isBlank = true → Denotes text (.value v) →
      Denotes more (.items vs) →
      Denotes (before ++ (text ++ (behind ++ ',' :: more))) (.items (v :: vs))
  | lastMember {before name gap gap' text behind : List Char} {key : String} {v : Value} :
      before.all isBlank = true → gap.all isBlank = true → gap'.all isBlank = true →
      behind.all isBlank = true → IsString name key → Denotes text (.value v) →
      Denotes (before ++ (name ++ (gap ++ ':' :: (gap' ++ (text ++ behind))))) (.members [(key, v)])
  | member {before name gap gap' text behind more : List Char} {key : String} {v : Value}
      {entries : List (String × Value)} :
      before.all isBlank = true → gap.all isBlank = true → gap'.all isBlank = true →
      behind.all isBlank = true → IsString name key → Denotes text (.value v) →
      Denotes more (.members entries) →
      Denotes (before ++ (name ++ (gap ++ ':' :: (gap' ++ (text ++ (behind ++ ',' :: more))))))
        (.members ((key, v) :: entries))

/-- A JSON text: a value between blanks. -/
def IsText (text : String) (v : Value) : Prop :=
  ∃ before body behind, text.toList = before ++ (body ++ behind) ∧ before.all isBlank = true ∧
    behind.all isBlank = true ∧ Denotes body (.value v)

/-! ### The reader -/

def skip (text : List Char) : List Char := text.dropWhile isBlank

mutual

/-- The value at the start of a text, and what follows it. -/
def readValue : Nat → List Char → Option (Value × List Char)
  | 0, _ => none
  | _ + 1, 'n' :: 'u' :: 'l' :: 'l' :: text => some (.null, text)
  | _ + 1, 't' :: 'r' :: 'u' :: 'e' :: text => some (.bool true, text)
  | _ + 1, 'f' :: 'a' :: 'l' :: 's' :: 'e' :: text => some (.bool false, text)
  | fuel + 1, '[' :: text =>
    match skip text with
    | ']' :: text => some (.arr [], text)
    | _ => (readItems fuel text).map fun (vs, text) => (.arr vs, text)
  | fuel + 1, '{' :: text =>
    match skip text with
    | '}' :: text => some (.obj [], text)
    | _ => (readMembers fuel text).map fun (entries, text) => (.obj entries, text)
  | _ + 1, '"' :: text => (readString ('"' :: text)).map fun (value, text) => (.str value, text)
  | _ + 1, text => (Numeral.read text).map fun (n, text) => (.num n.value, text)

/-- The items up to the closing bracket. -/
def readItems : Nat → List Char → Option (List Value × List Char)
  | 0, _ => none
  | fuel + 1, text => do
    let (v, text) ← readValue fuel (skip text)
    match skip text with
    | ']' :: text => some ([v], text)
    | ',' :: text => do
      let (vs, text) ← readItems fuel text
      some (v :: vs, text)
    | _ => none

/-- The members up to the closing brace. -/
def readMembers : Nat → List Char → Option (List (String × Value) × List Char)
  | 0, _ => none
  | fuel + 1, text => do
    let (key, text) ← readString (skip text)
    match skip text with
    | ':' :: text => do
      let (v, text) ← readValue fuel (skip text)
      match skip text with
      | '}' :: text => some ([(key, v)], text)
      | ',' :: text => do
        let (entries, text) ← readMembers fuel text
        some ((key, v) :: entries, text)
      | _ => none
    | _ => none

end

/-- The value of a text. -/
def parse (text : String) : Option Value :=
  match readValue (text.toList.length + 1) (skip text.toList) with
  | some (v, rest) => if skip rest = [] then some v else none
  | none => none

/-! ### Reading back -/

theorem skip_append {blank : List Char} (blank_ : blank.all isBlank = true) (text : List Char) :
    skip (blank ++ text) = skip text :=
  List.dropWhile_append_of_pos (List.all_eq_true.mp blank_)

theorem skip_cons {c : Char} (visible : isBlank c = false) (text : List Char) :
    skip (c :: text) = c :: text := by
  simp [skip, visible]

/-- A number ends before a blank. -/
theorem stops_append {blank text : List Char} (blank_ : blank.all isBlank = true)
    (stops : Stops text) : Stops (blank ++ text) := by
  cases blank with
  | nil => exact stops
  | cons c blank =>
    rintro c ⟨⟩
    have first : isBlank c = true := (List.all_eq_true.mp blank_) c List.mem_cons_self
    simp only [isBlank, Bool.or_eq_true, decide_eq_true_eq] at first
    rcases first with ((rfl | rfl) | rfl) | rfl <;> decide

theorem stops_nil : Stops [] := fun _ head => nomatch head

theorem stops_cons {c : Char} (ends : c.isDigit = false ∧ c ≠ '.' ∧ c ≠ 'e' ∧ c ≠ 'E')
    (text : List Char) : Stops (c :: text) := by
  rintro c ⟨⟩
  exact ends

/-- The first character of a value is no blank and closes nothing. -/
theorem Denotes.head {text : List Char} {v : Value} (h : Denotes text (.value v)) :
    ∃ c more, text = c :: more ∧ isBlank c = false ∧ c ≠ ']' ∧ c ≠ '}' := by
  cases h with
  | num n valid =>
    obtain ⟨c, more, render, first⟩ := Numeral.render_head valid
    refine ⟨c, more, render, ?_⟩
    rcases first with rfl | digit
    · decide
    · refine ⟨?_, ?_, ?_⟩
      · by_contra blank
        simp only [isBlank, Bool.not_eq_false, Bool.or_eq_true, decide_eq_true_eq] at blank
        rcases blank with ((rfl | rfl) | rfl) | rfl <;> cases digit
      · rintro rfl; cases digit
      · rintro rfl; cases digit
  | str written =>
    obtain ⟨body, rfl, -⟩ := written
    exact ⟨'"', _, rfl, by decide⟩
  | null | true_ | false_ => exact ⟨_, _, rfl, by decide⟩
  | emptyArr _ | arr _ | emptyObj _ | obj _ => exact ⟨_, _, rfl, by decide⟩

theorem exists_succ_of_lt {n fuel : Nat} (enough : n < fuel) : ∃ less, fuel = less + 1 :=
  ⟨fuel - 1, by omega⟩

/-- What is read of a part, with fuel for its length, is what it stands for. -/
def Part.ReadsBack (text : List Char) : Part → Prop
  | .value v => ∀ fuel rest, text.length < fuel → Stops rest →
      readValue fuel (text ++ rest) = some (v, rest)
  | .items vs => ∀ fuel rest, text.length + 1 < fuel →
      readItems fuel (text ++ ']' :: rest) = some (vs, rest)
  | .members entries => ∀ fuel rest, text.length + 1 < fuel →
      readMembers fuel (text ++ '}' :: rest) = some (entries, rest)

theorem readValue_num {n : Numeral} {rest : List Char} (valid : n.isValid = true)
    (stops : Stops rest) (fuel : Nat) :
    readValue (fuel + 1) (n.render ++ rest) = some (.num n.value, rest) := by
  have read := Numeral.read_render valid stops
  obtain ⟨c, more, render, first⟩ := Numeral.render_head valid
  rw [render] at read ⊢
  have opens : c ≠ 'n' ∧ c ≠ 't' ∧ c ≠ 'f' ∧ c ≠ '[' ∧ c ≠ '{' ∧ c ≠ '"' := by
    rcases first with rfl | digit
    · decide
    · refine ⟨?_, ?_, ?_, ?_, ?_, ?_⟩ <;> (rintro rfl; cases digit)
  obtain ⟨null, true_, false_, arr, obj, str⟩ := opens
  unfold readValue
  split
  next zero => cases zero
  next same => exact absurd (List.cons.inj same).1 null
  next same => exact absurd (List.cons.inj same).1 true_
  next same => exact absurd (List.cons.inj same).1 false_
  next same => exact absurd (List.cons.inj same).1 arr
  next same => exact absurd (List.cons.inj same).1 obj
  next same => exact absurd (List.cons.inj same).1 str
  next => rw [read]; rfl

/-- Between blanks a value is read whole, and what closes or parts it is next. -/
theorem Part.ReadsBack.between {before text behind : List Char} {v : Value}
    (reads : Part.ReadsBack text (.value v)) (value : Denotes text (.value v))
    (before_ : before.all isBlank = true) (behind_ : behind.all isBlank = true) {c : Char}
    (ends : isBlank c = false ∧ c.isDigit = false ∧ c ≠ '.' ∧ c ≠ 'e' ∧ c ≠ 'E')
    (rest : List Char) (fuel : Nat) (enough : text.length < fuel) :
    readValue fuel (skip (before ++ (text ++ (behind ++ c :: rest)))) =
        some (v, behind ++ c :: rest) ∧
      skip (behind ++ c :: rest) = c :: rest := by
  have read := reads fuel (behind ++ c :: rest) enough
    (stops_append behind_ (stops_cons ends.2 rest))
  obtain ⟨first, more, rfl, visible, -⟩ := value.head
  rw [skip_append before_, skip_append behind_, skip_cons ends.1]
  rw [List.cons_append] at read ⊢
  exact ⟨by rw [skip_cons visible, read], rfl⟩

/-- Between blanks a name is read whole. -/
theorem readString_between {before name gap : List Char} {key : String}
    (written : IsString name key) (before_ : before.all isBlank = true)
    (gap_ : gap.all isBlank = true) {c : Char} (visible : isBlank c = false) (rest : List Char) :
    readString (skip (before ++ (name ++ (gap ++ c :: rest)))) = some (key, gap ++ c :: rest) ∧
      skip (gap ++ c :: rest) = c :: rest := by
  have read := readString_append written (gap ++ c :: rest)
  obtain ⟨body, rfl, -⟩ := written
  rw [skip_append before_, skip_append gap_, skip_cons visible]
  rw [List.cons_append] at read ⊢
  exact ⟨by rw [skip_cons (by decide), read], rfl⟩

/-- Items are there: what follows the bracket does not close it. -/
theorem Denotes.opens_items {text : List Char} {vs : List Value} (h : Denotes text (.items vs))
    (rest : List Char) : ∃ c more, skip (text ++ rest) = c :: more ∧ c ≠ ']' := by
  cases h with
  | lastItem before _ value | item before _ value _ =>
    obtain ⟨c, more, rfl, visible, other, -⟩ := value.head
    rw [List.append_assoc, skip_append before, List.append_assoc, List.cons_append,
      skip_cons visible]
    exact ⟨c, _, rfl, other⟩

theorem Denotes.opens_members {text : List Char} {entries : List (String × Value)}
    (h : Denotes text (.members entries)) (rest : List Char) :
    ∃ c more, skip (text ++ rest) = c :: more ∧ c ≠ '}' := by
  cases h with
  | lastMember before _ _ _ name _ | member before _ _ _ name _ _ =>
    obtain ⟨body, rfl, -⟩ := name
    rw [List.append_assoc, skip_append before, List.append_assoc, List.cons_append,
      skip_cons (by decide)]
    exact ⟨'"', _, rfl, by decide⟩

theorem close_ends :
    isBlank ']' = false ∧ ']'.isDigit = false ∧ ']' ≠ '.' ∧ ']' ≠ 'e' ∧ ']' ≠ 'E' := by decide

theorem brace_ends :
    isBlank '}' = false ∧ '}'.isDigit = false ∧ '}' ≠ '.' ∧ '}' ≠ 'e' ∧ '}' ≠ 'E' := by decide

theorem comma_ends :
    isBlank ',' = false ∧ ','.isDigit = false ∧ ',' ≠ '.' ∧ ',' ≠ 'e' ∧ ',' ≠ 'E' := by decide

theorem Denotes.readsBack {text : List Char} {part : Part} (h : Denotes text part) :
    part.ReadsBack text := by
  induction h with
  | null | true_ | false_ =>
    intro fuel rest enough _
    obtain ⟨fuel, rfl⟩ := exists_succ_of_lt enough
    simp [readValue]
  | num n valid =>
    intro fuel rest enough stops
    obtain ⟨fuel, rfl⟩ := exists_succ_of_lt enough
    exact readValue_num valid stops fuel
  | str written =>
    intro fuel rest enough _
    obtain ⟨fuel, rfl⟩ := exists_succ_of_lt enough
    have read := readString_append written rest
    obtain ⟨body, rfl, -⟩ := written
    simp only [List.cons_append, List.append_assoc, List.nil_append] at read ⊢
    simp [readValue, read]
  | emptyArr blank =>
    intro fuel rest enough _
    obtain ⟨fuel, rfl⟩ := exists_succ_of_lt enough
    have closed := skip_append blank (']' :: rest)
    rw [skip_cons (by decide)] at closed
    simp [readValue, closed]
  | arr items ih =>
    intro fuel rest enough _
    obtain ⟨fuel, rfl⟩ := exists_succ_of_lt enough
    have read := ih fuel rest (by simp at enough; omega)
    obtain ⟨c, more, first, other⟩ := items.opens_items (']' :: rest)
    simp [readValue, first, other, read]
  | emptyObj blank =>
    intro fuel rest enough _
    obtain ⟨fuel, rfl⟩ := exists_succ_of_lt enough
    have closed := skip_append blank ('}' :: rest)
    rw [skip_cons (by decide)] at closed
    simp [readValue, closed]
  | obj entries ih =>
    intro fuel rest enough _
    obtain ⟨fuel, rfl⟩ := exists_succ_of_lt enough
    have read := ih fuel rest (by simp at enough; omega)
    obtain ⟨c, more, first, other⟩ := entries.opens_members ('}' :: rest)
    simp [readValue, first, other, read]
  | lastItem before behind value ih =>
    intro fuel rest enough
    obtain ⟨fuel, rfl⟩ := exists_succ_of_lt enough
    simp only [List.length_append] at enough
    obtain ⟨read, next⟩ := ih.between value before behind close_ends rest fuel (by omega)
    simp [readItems, read, next]
  | @item _ _ _ tail _ _ before behind value more ih ih' =>
    intro fuel rest enough
    obtain ⟨fuel, rfl⟩ := exists_succ_of_lt enough
    simp only [List.length_append, List.length_cons] at enough
    obtain ⟨read, next⟩ := ih.between value before behind comma_ends (tail ++ ']' :: rest)
      fuel (by omega)
    simp [readItems, read, next, ih' fuel rest (by omega)]
  | @lastMember _ _ _ blank text_ behind_ _ _ before gap gap' behind name value ih =>
    intro fuel rest enough
    obtain ⟨fuel, rfl⟩ := exists_succ_of_lt enough
    simp only [List.length_append, List.length_cons] at enough
    obtain ⟨read, next⟩ := ih.between value gap' behind brace_ends rest fuel (by omega)
    obtain ⟨named, colon⟩ := readString_between name before gap (c := ':') (by decide)
      (blank ++ (text_ ++ (behind_ ++ '}' :: rest)))
    simp [readMembers, named, colon, read, next]
  | @member _ _ _ blank text_ behind_ tail _ _ _ before gap gap' behind name value more ih
      ih' =>
    intro fuel rest enough
    obtain ⟨fuel, rfl⟩ := exists_succ_of_lt enough
    simp only [List.length_append, List.length_cons] at enough
    obtain ⟨read, next⟩ := ih.between value gap' behind comma_ends (tail ++ '}' :: rest)
      fuel (by omega)
    obtain ⟨named, colon⟩ := readString_between name before gap (c := ':') (by decide)
      (blank ++ (text_ ++ (behind_ ++ ',' :: (tail ++ '}' :: rest))))
    simp [readMembers, named, colon, read, next, ih' fuel rest (by omega)]

/-- A text denotes the value that is read of it, and no other. -/
theorem parse_eq {text : String} {v : Value} (h : IsText text v) : parse text = some v := by
  obtain ⟨before, body, behind, same, before_, behind_, value⟩ := h
  have blank : skip behind = [] := List.dropWhile_eq_nil_iff.mpr (List.all_eq_true.mp behind_)
  have read := value.readsBack (text.toList.length + 1) behind (by
    simp only [same, List.length_append]
    omega) (List.append_nil behind ▸ stops_append behind_ stops_nil)
  obtain ⟨first, more, rfl, visible, -⟩ := value.head
  simp only [same, List.cons_append] at read
  simp only [parse, same, skip_append before_, List.cons_append, skip_cons visible, read, blank,
    if_true]

/-! ### Writing -/

theorem isText_of_denotes {text : String} {v : Value} (h : Denotes text.toList (.value v)) :
    IsText text v :=
  ⟨[], text.toList, [], by simp, rfl, rfl, h⟩

theorem isText_ofList {text : List Char} {v : Value} (h : Denotes text (.value v)) :
    IsText (String.ofList text) v :=
  isText_of_denotes (by rwa [String.toList_ofList])

theorem isText_null : IsText "null" .null := isText_of_denotes .null

theorem isText_int (n : Int) : IsText (toString n) (.num n) := by
  have written := Denotes.num (Numeral.ofInt n) (Numeral.isValid_ofInt n)
  rw [Numeral.render_ofInt, Numeral.value_ofInt] at written
  exact isText_of_denotes written

theorem isText_bool (b : Bool) : IsText (if b then "true" else "false") (.bool b) := by
  cases b with
  | true => exact isText_of_denotes .true_
  | false => exact isText_of_denotes .false_

/-- A member whose value is a text. -/
theorem denotes_member {name text : String} {key : String} {v : Value}
    (named : IsString name.toList key) (value : IsText text v) :
    Denotes (name.toList ++ ':' :: text.toList) (.members [(key, v)]) := by
  obtain ⟨before, body, behind, same, before_, behind_, denotes⟩ := value
  rw [same]
  have member : Denotes ([] ++ (name.toList ++ ([] ++ ':' :: (before ++ (body ++ behind)))))
      (.members [(key, v)]) := .lastMember rfl rfl before_ behind_ named denotes
  exact member

/-- Members behind members, after a comma. -/
theorem Denotes.members_append {text text' : List Char} {entries entries' : List (String × Value)}
    (first : Denotes text (.members entries)) (more : Denotes text' (.members entries')) :
    Denotes (text ++ ',' :: text') (.members (entries ++ entries')) := by
  generalize same : Part.members entries = part at first
  induction first generalizing entries with
  | lastMember before gap gap' behind name value =>
    cases same
    have joined := Denotes.member before gap gap' behind name value more
    simpa only [List.append_assoc, List.cons_append, List.nil_append] using joined
  | member before gap gap' behind name value _ _ ih =>
    cases same
    have joined := Denotes.member before gap gap' behind name value (ih rfl)
    simpa only [List.append_assoc, List.cons_append] using joined
  | _ => cases same

end Json
