import TowerGuard.Properties.Views
import TowerGuard.Decoding

/-!
# Query decoding

The decoding loop against the grammar of a component, and the query parameters a scan is given
against the pairs the query writes.
-/

namespace TowerGuard

open Text Traced

variable {W : World}

/-- Every component is decoded as the grammar reads it: the loop ends within as many turns as
there are bytes, indexes none out of range, and pushes what the grammar gives. -/
theorem decodeQueryComponent_unquotePlus (component : List Char) :
    decodeLoop (encode (component.map fun c => if c = '+' then ' ' else c))
        (encode (component.map fun c => if c = '+' then ' ' else c)).length 0 [] =
        some (unquotePlus (encode component)) ∧
      decodeQueryComponent component = fromUtf8Lossy (unquotePlus (encode component)) := by
  constructor
  · rw [decodeLoop_spec _ _ _ _ (by omega), List.drop_zero, List.nil_append, unescape_component]
  · exact decodeQueryComponent_eq component

/-! ### The pairs of a query -/

/-- A written component is decoded to the text it was written for. -/
theorem decodeQueryComponent_read {text : String} {written : List Char}
    (form : WritesText text.toList written) : decodeQueryComponent written = text := by
  have grammar : unquotePlus (encode written) = bytesOf text := by
    rw [← List.append_nil (encode written), form.read, unquotePlus, List.append_nil, bytesOf]
  rw [decodeQueryComponent_eq, grammar, fromUtf8Lossy_bytesOf]

/-- A written pair is decoded to the pair, and stands in one piece of the query. -/
theorem decodePair_read {pair : String × String} {piece : List Char}
    (form : WritesPair pair piece) : piece ≠ [] ∧ '&' ∉ piece ∧ decodePair piece = pair := by
  cases form with
  | @full name value left right nameForm valueForm =>
    refine ⟨by simp, ?_, ?_⟩
    · simpa using ⟨nameForm.separated.1, valueForm.separated.1⟩
    · simp only [decodePair, splitOnce_append _ nameForm.separated.2,
        decodeQueryComponent_read nameForm, decodeQueryComponent_read valueForm]
  | @bare name _ named nameForm =>
    refine ⟨?_, nameForm.separated.1, ?_⟩
    · rintro rfl
      -- Nothing is what the empty name alone is written as.
      have empty : decodeQueryComponent [] = "" := by decide +kernel
      exact named ((decodeQueryComponent_read nameForm).symm.trans empty)
    · simp only [decodePair, splitOnce, if_neg nameForm.separated.2,
        decodeQueryComponent_read nameForm]

/-- The pieces of a written query are the written pairs, in order. -/
theorem queryPairs_read {pairs : List (String × String)} {query : List Char}
    (form : WritesPairs pairs query) :
    ((query.splitOn '&').filter fun piece => !piece.isEmpty).map decodePair = pairs := by
  induction form with
  | nil => rfl
  | @ampersand pairs query _ ih =>
    have front := List.splitOn_append_cons_self (a := '&') [] query
    rw [List.nil_append] at front
    rw [front, List.splitOn_nil]
    exact ih
  | @last pair piece form =>
    obtain ⟨filled, whole, read⟩ := decodePair_read form
    rw [List.splitOn_eq_singleton whole]
    simp [filled, read]
  | @pair pair pairs piece query form _ ih =>
    obtain ⟨filled, whole, read⟩ := decodePair_read form
    rw [List.splitOn_append_cons_self, List.splitOn_eq_singleton whole, List.singleton_append,
      List.filter_cons_of_pos (by simp [filled]), List.map_cons, read, ih]

/-- The query parameters a scan is given are the pairs the query writes, however it writes them. -/
theorem scan_query_pairs (E : Engine W) (service : GuardService W) (request : Request W)
    (s : Store W) (pairs : List (String × String))
    (written : WritesPairs pairs (request.uri.query.getD "").toList) :
    (∀ body, (scanSurfaces request.toParts body).queryParams = pairs) ∧
      ∀ event ∈ (service.call E request s).trace, ∀ surfaces exclusions,
        event.consult = .scan surfaces exclusions → surfaces.queryParams = pairs := by
  have read (parts : Parts W) (same : parts.uri = request.uri) (body : Option Bytes) :
      (scanSurfaces parts body).queryParams = pairs := by
    simp only [scanSurfaces, queryPairs, same]
    exact queryPairs_read written
  refine ⟨read request.toParts rfl, fun event member surfaces exclusions own => ?_⟩
  obtain ⟨χ, s', arrives, -, asked⟩ := scan_asked member (by rw [own]; rfl)
  have uri : χ.parts.uri = request.uri := (congrArg Parts.uri arrives.of.carried :)
  rw [own, Consult.scan.injEq] at asked
  rw [asked.1, read χ.parts uri χ.buffered]

/-- A request with this query. -/
def queryRequest (query : String) : Request Bench.world :=
  { Bench.request "GET" "/items" none [] with uri := ⟨none, none, "/items", some query⟩ }

/-- A repeated name, a sign inside a value and a name alone are all read back. -/
theorem repeated_names_read :
    (∀ body, (scanSurfaces (queryRequest "&a=1&&a+b=%3d%C3%A9&a").toParts body).queryParams =
        [("a", "1"), ("a b", "=é"), ("a", "")]) ∧
      ∀ event ∈ ((Bench.layer.wrap Bench.engine Bench.ok).call Bench.engine
          (queryRequest "&a=1&&a+b=%3d%C3%A9&a") Bench.start).trace,
        ∀ surfaces exclusions, event.consult = .scan surfaces exclusions →
          surfaces.queryParams = [("a", "1"), ("a b", "=é"), ("a", "")] := by
  refine scan_query_pairs Bench.engine (Bench.layer.wrap Bench.engine Bench.ok)
    (queryRequest "&a=1&&a+b=%3d%C3%A9&a") Bench.start
    [("a", "1"), ("a b", "=é"), ("a", "")] ?_
  have a : WritesText "a".toList ['a'] := .literal (by decide) .nil
  have first : WritesPair ("a", "1") (['a'] ++ '=' :: ['1']) :=
    .full a (.literal (by decide) .nil)
  have name : WritesText "a b".toList ['a', '+', 'b'] :=
    .literal (by decide) (.plus (.literal (by decide) .nil))
  have equals : WritesBytes (String.utf8EncodeChar '=') ['%', '3', 'd'] :=
    .cons (by decide) (by decide) .nil
  have accented : WritesBytes (String.utf8EncodeChar 'é') ['%', 'C', '3', '%', 'A', '9'] :=
    .cons (by decide) (by decide) (.cons (by decide) (by decide) .nil)
  have second : WritesPair ("a b", "=é")
      (['a', '+', 'b'] ++ '=' :: (['%', '3', 'd'] ++ (['%', 'C', '3', '%', 'A', '9'] ++ []))) :=
    .full name (.escaped equals (.escaped accented .nil))
  exact .ampersand (.pair first (.ampersand (.pair second (.last (.bare (by decide) a)))))

end TowerGuard
