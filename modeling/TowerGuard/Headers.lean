import Mathlib.Data.List.TakeWhile
import Mathlib.Tactic.Conv
import TowerGuard.Pass

/-!
# Header lookups

What a field that is inserted, and a row of rendered fields that is merged, does to a lookup.
-/

namespace TowerGuard

open Text Traced

theorem headerName_location : headerName "location" = some "location" := by decide +kernel

namespace HeaderMap

/-- Fields of another name make no difference to a lookup. -/
theorem find?_filter_other {name other : String} (differs : other ≠ name) (headers : HeaderMap) :
    (headers.filter fun entry => entry.1 ≠ other).find? (fun entry => entry.1 = name) =
      headers.find? fun entry => entry.1 = name := by
  rw [List.find?_filter]
  congr 1
  funext entry
  by_cases own : entry.1 = name
  · simp [own, differs.symm]
  · simp [own]

/-- Headers that differ in the fields of one name look alike under the others. -/
theorem get_eq_of_filter {headers headers' : HeaderMap} {name other : String}
    (differs : other ≠ name) (same : (headers.filter fun entry => entry.1 ≠ other) =
      headers'.filter fun entry => entry.1 ≠ other) :
    headers.get name = headers'.get name := by
  rw [get, get, ← find?_filter_other differs headers, same, find?_filter_other differs headers']

/-- An insertion under another name leaves a lookup as it is. -/
theorem get_insert_other {headers : HeaderMap} {name other : String} {value : HeaderValue}
    (differs : other ≠ name) : (headers.insert other value).get name = headers.get name := by
  have whole := List.takeWhile_append_dropWhile (p := fun entry => decide (entry.1 ≠ other))
    (l := headers)
  unfold get insert
  split
  · conv_rhs => rw [← whole]
    rw [List.find?_append, List.find?_append, List.find?_cons_of_neg (by simpa using differs),
      find?_filter_other differs]
  · rw [List.find?_append, List.find?_cons_of_neg (by simpa using differs), List.find?_nil,
      Option.or_none]

/-- A rendered field of another name leaves a lookup as it is. -/
theorem get_insertText_other {headers : HeaderMap} {name other value : String}
    (differs : headerName other ≠ some name) :
    (headers.insertText other value).get name = headers.get name := by
  unfold insertText
  split
  next stored _ lower _ =>
    refine get_insert_other fun same => differs ?_
    rw [lower, same]
  next => rfl

theorem get_mergeHeaders {headers : HeaderMap} {name : String} {rendered : List (String × String)}
    (absent : ∀ entry ∈ rendered, headerName entry.1 ≠ some name) :
    (mergeHeaders headers rendered).get name = headers.get name := by
  induction rendered generalizing headers with
  | nil => rfl
  | cons entry rendered ih =>
    rw [List.forall_mem_cons] at absent
    exact (ih absent.2).trans (get_insertText_other absent.1)

/-- An inserted field is what its name is looked up as, where the value is a header value. -/
theorem get_insertText_self {headers : HeaderMap} {name value : String}
    (lower : headerName name = some name) (absent : headers.get name = none) :
    (headers.insertText name value).get name = HeaderValue.fromStr value := by
  cases valid : HeaderValue.fromStr value with
  | none => simp [insertText, lower, valid, absent]
  | some value =>
    have unlisted : (headers.any fun entry => entry.1 = name) = false := by
      rw [get, Option.map_eq_none_iff, List.find?_eq_none] at absent
      rw [List.any_eq_false]
      exact absent
    have behind : headers.find? (fun entry => entry.1 = name) = none := by
      rwa [get, Option.map_eq_none_iff] at absent
    simp [insertText, lower, valid, insert, unlisted, get, List.find?_append, behind]

/-! ### All other fields -/

/-- The header maps differ in the fields of this name at most. -/
def SameBut (name : String) (headers headers' : HeaderMap) : Prop :=
  (headers'.filter fun entry => entry.1 ≠ name) = headers.filter fun entry => entry.1 ≠ name

theorem filter_insert_self (headers : HeaderMap) (name : String) (value : HeaderValue) :
    ((headers.insert name value).filter fun entry => entry.1 ≠ name) =
      headers.filter fun entry => entry.1 ≠ name := by
  have whole := List.takeWhile_append_dropWhile (p := fun entry => decide (entry.1 ≠ name))
    (l := headers)
  unfold insert
  split
  · conv_rhs => rw [← whole]
    rw [List.filter_append, List.filter_append, List.filter_cons_of_neg (by simp),
      List.filter_filter]
    simp only [Bool.and_self]
  · simp [List.filter_append]

theorem filter_insert_other {headers : HeaderMap} {name other : String} {value : HeaderValue}
    (differs : name ≠ other) :
    ((headers.insert name value).filter fun entry => entry.1 ≠ other) =
      HeaderMap.insert (headers.filter fun entry => entry.1 ≠ other) name value := by
  -- What the filter drops has another name, so that the insertion does not stop at it.
  have past : ∀ entry : String × HeaderValue,
      (!decide (entry.1 ≠ other) || decide (entry.1 ≠ name)) = decide (entry.1 ≠ name) := by
    intro entry
    by_cases own : entry.1 = other
    · simp [own, differs.symm]
    · simp [own]
  have listed : (headers.filter fun entry => entry.1 ≠ other).any (fun entry => entry.1 = name) =
      headers.any fun entry => entry.1 = name := by
    rw [List.any_filter]
    congr 1
    funext entry
    by_cases own : entry.1 = name
    · simp [own, differs]
    · simp [own]
  simp only [insert, listed, List.takeWhile_filter, List.dropWhile_filter, past]
  split
  · simp [List.filter_append, List.filter_filter, differs, Bool.and_comm]
  · simp [List.filter_append, differs]

namespace SameBut

variable {name : String} {headers headers' : HeaderMap}

theorem insertText (same : SameBut name headers headers') (field value : String) :
    SameBut name (headers.insertText field value) (headers'.insertText field value) := by
  unfold HeaderMap.insertText SameBut
  split
  next stored value _ _ =>
    by_cases own : stored = name
    · rw [own, filter_insert_self, filter_insert_self]
      exact same
    · rw [filter_insert_other own, filter_insert_other own, same]
  next => exact same

theorem mergeHeaders (same : SameBut name headers headers') (rendered : List (String × String)) :
    SameBut name (TowerGuard.mergeHeaders headers rendered)
      (TowerGuard.mergeHeaders headers' rendered) := by
  induction rendered generalizing headers headers' with
  | nil => exact same
  | cons entry rendered ih => exact ih (same.insertText entry.1 entry.2)

/-- The fields of the name itself may be inserted with any values. -/
theorem insertText_self (same : SameBut name headers headers') {field : String}
    (lower : headerName field = some name) (value value' : String) :
    SameBut name (headers.insertText field value) (headers'.insertText field value') := by
  have dropped : ∀ (headers : HeaderMap) (value : String),
      ((headers.insertText field value).filter fun entry => entry.1 ≠ name) =
        headers.filter fun entry => entry.1 ≠ name := by
    intro headers value
    unfold HeaderMap.insertText
    rw [lower]
    split
    next stored _ own _ =>
      cases own
      exact filter_insert_self headers name _
    next => rfl
  rw [SameBut, dropped, dropped]
  exact same

end SameBut

/-! ### All values of a name -/

/-- `HeaderMap::get_all`. -/
def getAll (headers : HeaderMap) (name : String) : List HeaderValue :=
  (headers.filter fun entry => entry.1 = name).map Prod.snd

theorem eq_nil_of_getAll {headers : HeaderMap} (absent : ∀ name, headers.getAll name = []) :
    headers = [] := by
  rw [List.eq_nil_iff_forall_not_mem]
  intro entry member
  have none_ := absent entry.1
  rw [getAll, List.map_eq_nil_iff, List.filter_eq_nil_iff] at none_
  exact none_ entry member (decide_eq_true rfl)

/-- Fields of another name make no difference to the values of a name. -/
theorem filter_eq_of_filter_ne {name other : String} (differs : other ≠ name)
    (headers : HeaderMap) :
    ((headers.filter fun entry => entry.1 ≠ other).filter fun entry => entry.1 = name) =
      headers.filter fun entry => entry.1 = name := by
  rw [List.filter_filter]
  congr 1
  funext entry
  by_cases own : entry.1 = name
  · simp [own, differs.symm]
  · simp [own]

theorem getAll_insert_self (headers : HeaderMap) (name : String) (value : HeaderValue) :
    (headers.insert name value).getAll name = [value] := by
  unfold getAll insert
  split
  next listed =>
    have before : (headers.takeWhile fun entry => entry.1 ≠ name).filter
        (fun entry => entry.1 = name) = [] := by
      rw [List.filter_eq_nil_iff]
      intro entry member
      simpa using List.mem_takeWhile_imp member
    rw [List.filter_append, before, List.filter_cons_of_pos (by simp), List.filter_filter]
    simp
  next unlisted =>
    have absent : headers.filter (fun entry => entry.1 = name) = [] := by
      rw [List.filter_eq_nil_iff]
      exact List.any_eq_false.mp (Bool.eq_false_iff.mpr unlisted)
    rw [List.filter_append, absent]
    simp

theorem getAll_insert_other {headers : HeaderMap} {name other : String} {value : HeaderValue}
    (differs : other ≠ name) : (headers.insert other value).getAll name = headers.getAll name := by
  rw [getAll, ← filter_eq_of_filter_ne differs, filter_insert_self,
    filter_eq_of_filter_ne differs, getAll]

/-- A rendered field takes the place of all values of its name, if it is a field at all. -/
theorem getAll_insertText (headers : HeaderMap) (field value name : String) :
    (headers.insertText field value).getAll name =
      if (HeaderMap.insertText [] field value).getAll name = [] then headers.getAll name
      else (HeaderMap.insertText [] field value).getAll name := by
  unfold insertText
  split
  next stored value _ _ =>
    by_cases own : stored = name
    · rw [own, getAll_insert_self, getAll_insert_self]
      simp
    · rw [getAll_insert_other own, getAll_insert_other own]
      simp [getAll]
  next => simp [getAll]

/-- What is rendered lies over the fields that are there, name by name. -/
theorem getAll_mergeHeaders (headers : HeaderMap) (rendered : List (String × String))
    (name : String) :
    (mergeHeaders headers rendered).getAll name =
      if (mergeHeaders [] rendered).getAll name = [] then headers.getAll name
      else (mergeHeaders [] rendered).getAll name := by
  -- The first field lies over the headers, and the rest over both.
  induction rendered generalizing headers with
  | nil => simp [mergeHeaders, getAll]
  | cons entry rendered ih =>
    have onward : ∀ headers : HeaderMap, mergeHeaders headers (entry :: rendered) =
        mergeHeaders (headers.insertText entry.1 entry.2) rendered := fun _ => rfl
    rw [onward headers, onward [], ih, ih (HeaderMap.insertText [] entry.1 entry.2),
      getAll_insertText headers]
    by_cases later : (mergeHeaders [] rendered).getAll name = []
    · simp only [later, if_true]
    · simp only [later, if_false]

end HeaderMap

end TowerGuard
