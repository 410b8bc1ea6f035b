import Mathlib.Data.List.Basic
import TowerGuard.Decoding
import TowerGuard.Properties.Fidelity

/-!
# What the scan is given

The exclusions and the surfaces the detection scan is called with, against what the route
carrier configures and what the request carries.
-/

namespace TowerGuard

open Text Traced

variable {W : World}

/-! ### The carrier's detection view -/

section Exclusions

variable {E : Engine W} {service : GuardService W} {request : Request W} {s s' : Store W}
  {χ : Locals W}

/-- Where the scan applies, its question has the views of the parts at that point. -/
theorem scan_question {trial : Trial W} (applies : Check.scan.trial E service χ = some trial) :
    detectionOff E service.layer χ.route = false ∧
      trial.question = .scan (scanSurfaces χ.parts χ.buffered)
        (scanExclusions E service.layer χ.parts) := by
  simp only [Check.trial, Option.ite_none_left_eq_some] at applies
  obtain ⟨on, ⟨⟩⟩ := applies
  exact ⟨Bool.eq_false_iff.mpr on, rfl⟩

/-- The exclusions of a scan come from the request's own extension, never the carrier. -/
theorem scan_asked {event : Event W} (member : event ∈ (service.call E request s).trace)
    (scans : event.consult.check = some .scan) :
    ∃ χ s', Check.scan.Arrives E service request s χ s' ∧
      detectionOff E service.layer (service.carrier request s) = false ∧
      event.consult = .scan (scanSurfaces χ.parts χ.buffered)
        (E.resolve service.layer.detectionExclusions request.extensions.detectionExclusions) := by
  obtain ⟨χ, s', trial, arrives, applies, rfl⟩ := (call_asks_iff scans).mp member
  obtain ⟨on, question⟩ := scan_question applies
  -- No check writes the exclusions, so that they are still the request's own.
  have carried := congrArg (fun parts => parts.extensions.detectionExclusions) arrives.of.carried
  simp only [Parts.withoutDecision] at carried
  rw [arrives.route (by decide)] at on
  exact ⟨χ, s', arrives, on, by rw [← carried]; exact question⟩

/-- Where a request arrives at the scan and detection is on, the scan is called. -/
theorem scan_asked_of_arrives (arrives : Check.scan.Arrives E service request s χ s')
    (on : detectionOff E service.layer (service.carrier request s) = false) :
    ∃ event ∈ (service.call E request s).trace, event.consult.check = some .scan := by
  rw [← arrives.route (by decide)] at on
  have applies : ∃ trial, Check.scan.trial E service χ = some trial := by
    simp [Check.trial, on]
  obtain ⟨trial, applies⟩ := applies
  exact ⟨_, arrives.asks applies, trial_question applies⟩

/-- The carrier's view is what the scan resolves exactly when it does not matter. -/
theorem scan_exclusions_of_carrier_iff (E : Engine W) (service : GuardService W)
    (request : Request W) (s : Store W) (carrier : RouteConfig W)
    (resolved : service.carrier request s = some carrier)
    (plain : request.extensions.detectionExclusions = none) :
    (∀ event ∈ (service.call E request s).trace, ∀ surfaces exclusions,
        event.consult = .scan surfaces exclusions →
        exclusions = E.resolve service.layer.detectionExclusions (some carrier.exclusions)) ↔
      ((∃ χ s', Check.scan.Arrives E service request s χ s') →
        detectionOff E service.layer (some carrier) = false →
        E.resolve service.layer.detectionExclusions (some carrier.exclusions) =
          E.resolve service.layer.detectionExclusions none) := by
  constructor
  · -- Where the scan is called it resolves without the carrier, so that the two must agree.
    rintro view ⟨χ, s', arrives⟩ on
    rw [← resolved] at on
    obtain ⟨event, member, scans⟩ := scan_asked_of_arrives arrives on
    obtain ⟨χ₁, s₁, -, -, own⟩ := scan_asked member scans
    rw [← view event member _ _ own, plain]
  · intro same event member surfaces exclusions own
    obtain ⟨χ, s', arrives, on, asked⟩ := scan_asked member (by rw [own]; rfl)
    rw [resolved] at on
    rw [own, Consult.scan.injEq] at asked
    rw [asked.2, plain, same ⟨χ, s', arrives⟩ on]

/-- A carrier that excludes a header from detection. -/
def excludingRoute : RouteConfig Bench.world :=
  { Bench.openRoute with exclusions := ⟨some ["x-token"], none, none, none, none⟩ }

/-- A layer that excludes the header already. -/
def excludingService : GuardService Bench.world :=
  (Bench.layer.withDetectionExclusions
    { excludedDetectionHeaders := ["x-token"]
      excludedDetectionParams := []
      excludedDetectionBodyFields := []
      enabledDetectionCategories := none
      detectionScanBody := none }).wrap Bench.engine Bench.ok

/-- A carrier whose view the layer has as well is scanned with its view. -/
theorem agreeing_carrier_view :
    let trace := (excludingService.call Bench.engine
      (Bench.request "GET" "/items" (some excludingRoute) []) Bench.start).trace
    (∃ event ∈ trace, event.consult.check = some .scan) ∧
      ∀ event ∈ trace, ∀ surfaces exclusions, event.consult = .scan surfaces exclusions →
        exclusions = Bench.engine.resolve excludingService.layer.detectionExclusions
          (some excludingRoute.exclusions) :=
  ⟨by decide +kernel,
    (scan_exclusions_of_carrier_iff Bench.engine excludingService
      (Bench.request "GET" "/items" (some excludingRoute) []) Bench.start excludingRoute
      rfl rfl).mpr fun _ _ => rfl⟩

/-- The excluded header of a carrier does not reach the scan. -/
theorem carrier_view_ignored :
    ¬∀ event ∈ ((Bench.layer.wrap Bench.engine Bench.ok).call Bench.engine
        (Bench.request "GET" "/items" (some excludingRoute) []) Bench.start).trace,
      ∀ surfaces exclusions, event.consult = .scan surfaces exclusions →
        exclusions = Bench.engine.resolve none (some excludingRoute.exclusions) := by
  intro view
  have scanned : ((Bench.layer.wrap Bench.engine Bench.ok).call Bench.engine
      (Bench.request "GET" "/items" (some excludingRoute) []) Bench.start).trace.any
      (fun event => event.consult.check = some .scan) = true := by decide +kernel
  obtain ⟨event, member, scans⟩ := List.any_eq_true.mp scanned
  obtain ⟨χ, s', -, -, own⟩ := scan_asked member (of_decide_eq_true scans)
  have same := view event member _ _ own
  revert same
  decide +kernel

end Exclusions

/-! ### Surfaces -/

/-- A name whose values the scan is to see. -/
def Scanned (name : String) : Prop := name ∉ excludedHeaders ∧ ¬∃ rest, name = "sec-" ++ rest

theorem isExcludedHeader_eq_false_iff {name : String} :
    isExcludedHeader name = false ↔ Scanned name := by
  have ahead : "sec-".toList.isPrefixOf name.toList = true ↔ ∃ rest, name = "sec-" ++ rest := by
    rw [List.isPrefixOf_iff_prefix]
    constructor
    · rintro ⟨rest, whole⟩
      exact ⟨String.ofList rest, String.toList_inj.mp (by simp [← whole])⟩
    · rintro ⟨rest, rfl⟩
      exact ⟨rest.toList, by simp⟩
  rw [isExcludedHeader, Bool.or_eq_false_iff, Bool.eq_false_iff, ne_eq, ahead, Scanned, and_comm]
  simp

/-- Every field of the headers that has a scanned name and is text is shown, in order and as often
as it is there. -/
def HeaderMap.ShownIn (headers : HeaderMap) (shown : List (String × String)) : Prop :=
  ∀ fields : List (String × String),
    (fields.map fun field => (field.1, bytesOf field.2)).Sublist
      (headers.map fun entry => (entry.1, entry.2.bytes)) →
    (∀ field ∈ fields, Scanned field.1) → fields.Sublist shown

/-- The surfaces show all of the request and the buffered body: every non-empty piece of the query
in order, the headers, and a body that is text as that text, any other with what is not text
replaced. -/
structure RequestSurfaces.Complete (surfaces : RequestSurfaces) (parts : Parts W)
    (body : Option Bytes) : Prop where
  path : parts.uri.path ≠ "/" → surfaces.urlPath = some parts.uri.path
  query : ∀ pieces : List (List Char), (∀ piece ∈ pieces, '&' ∉ piece) →
    ['&'].intercalate pieces = (parts.uri.query.getD "").toList →
    List.Forall₂ ReadsPair (pieces.filter fun piece => !piece.isEmpty) surfaces.queryParams
  headers : parts.headers.ShownIn surfaces.headers
  rawBody : surfaces.rawBody = fromUtf8Lossy (body.getD [])
  bodyText : ∀ text, bytesOf text = body.getD [] → surfaces.rawBody = text

/-- Every scanned value that is text is visible ASCII. -/
def HeaderMap.PlainText (headers : HeaderMap) : Prop :=
  ∀ name value text, (name, value) ∈ headers → Scanned name →
    bytesOf text = value.bytes → ∀ b ∈ value.bytes, isVisibleAscii b = true

section FilterMap

variable {α β : Type} {f g : α → Option β} (agree : ∀ a b, g a = some b → f a = some b)

include agree

private theorem length_filterMap_le (l : List α) :
    (l.filterMap g).length ≤ (l.filterMap f).length := by
  induction l with
  | nil => exact Nat.le_refl _
  | cons a l ih =>
    cases here : g a with
    | some b => simpa [List.filterMap_cons, here, agree a b here] using ih
    | none => cases other : f a <;> simp [here, other] <;> omega

/-- Where `g` reads no fewer values than `f`, it reads everything `f` reads. -/
private theorem reads_of_length_le {l : List α}
    (long : (l.filterMap f).length ≤ (l.filterMap g).length) :
    ∀ a ∈ l, (f a).isSome = true → (g a).isSome = true := by
  induction l with
  | nil => simp
  | cons a l ih =>
    have shorter := length_filterMap_le agree l
    cases here : g a with
    | some b =>
      simp only [List.filterMap_cons, here, agree a b here, List.length_cons] at long
      simpa [here] using ih (by omega)
    | none =>
      cases other : f a with
      | none =>
        simp only [List.filterMap_cons, here, other] at long
        simpa [other] using ih long
      | some b =>
        simp only [List.filterMap_cons, here, other, List.length_cons] at long
        omega

end FilterMap

/-- The field as text, where its name is scanned. -/
private def textField : String × HeaderValue → Option (String × String)
  | (name, value) =>
    if isExcludedHeader name then none else (fromUtf8 value.bytes).map fun text => (name, text)

/-- The field as the scan reads it. -/
private def visibleField : String × HeaderValue → Option (String × String)
  | (name, value) =>
    if isExcludedHeader name then none else value.toStr.map fun text => (name, text)

private theorem textField_eq_some_iff {entry : String × HeaderValue} {field : String × String} :
    textField entry = some field ↔
      Scanned field.1 ∧ (field.1, bytesOf field.2) = (entry.1, entry.2.bytes) := by
  obtain ⟨name, value⟩ := entry
  obtain ⟨name', text⟩ := field
  rw [textField, Option.ite_none_left_eq_some, Bool.not_eq_true, isExcludedHeader_eq_false_iff,
    Option.map_eq_some_iff, Prod.mk.injEq]
  constructor
  · rintro ⟨scanned, _, read, ⟨⟩⟩
    exact ⟨scanned, rfl, (fromUtf8_eq_some_iff _ _).mp read⟩
  · rintro ⟨scanned, rfl, own⟩
    exact ⟨scanned, text, (fromUtf8_eq_some_iff _ _).mpr own, rfl⟩

/-- The fields that are text are among the headers as they were sent, -/
private theorem textField_sublist (headers : HeaderMap) :
    ((headers.filterMap textField).map fun field => (field.1, bytesOf field.2)).Sublist
      (headers.map fun entry => (entry.1, entry.2.bytes)) := by
  induction headers with
  | nil => exact .slnil
  | cons entry headers ih =>
    cases read : textField entry with
    | none =>
      rw [List.filterMap_cons_none read]
      exact ih.cons _
    | some field =>
      rw [List.filterMap_cons_some read, List.map_cons, List.map_cons,
        (textField_eq_some_iff.mp read).2]
      exact ih.cons_cons _

/-- and fields that are sent as these headers are their text. -/
private theorem filterMap_textField {fields : List (String × String)} {headers : HeaderMap}
    (same : (fields.map fun field => (field.1, bytesOf field.2)) =
      headers.map fun entry => (entry.1, entry.2.bytes))
    (scanned : ∀ field ∈ fields, Scanned field.1) :
    headers.filterMap textField = fields := by
  induction fields generalizing headers with
  | nil =>
    rw [List.map_nil, eq_comm, List.map_eq_nil_iff] at same
    rw [same, List.filterMap_nil]
  | cons field fields ih =>
    obtain ⟨entry, rest, rfl, here, behind⟩ := List.map_eq_cons_iff.mp same.symm
    have read : textField entry = some field :=
      textField_eq_some_iff.mpr ⟨scanned field List.mem_cons_self, here.symm⟩
    rw [List.filterMap_cons_some read,
      ih behind.symm fun field member => scanned field (.tail _ member)]

/-- What is to be shown of the headers, computed. -/
private theorem shownIn_iff {headers : HeaderMap} {shown : List (String × String)} :
    headers.ShownIn shown ↔ (headers.filterMap textField).Sublist shown := by
  constructor
  · intro every
    refine every _ (textField_sublist headers) fun field member => ?_
    obtain ⟨entry, -, read⟩ := List.mem_filterMap.mp member
    exact (textField_eq_some_iff.mp read).1
  · intro sublist fields written scanned
    obtain ⟨entries, among, same⟩ := List.sublist_map_iff.mp written
    rw [← filterMap_textField same scanned]
    exact (among.filterMap _).trans sublist

private theorem scanSurfaces_headers (parts : Parts W) (body : Option Bytes) :
    (scanSurfaces parts body).headers = parts.headers.filterMap visibleField := by
  simp only [scanSurfaces, List.filterMap_filter]
  refine List.filterMap_congr fun entry _ => ?_
  obtain ⟨name, value⟩ := entry
  simp only [visibleField, Bool.not_eq_true', ← ite_not (isExcludedHeader name = true),
    Bool.not_eq_true]

/-- What `to_str` reads is text. -/
theorem HeaderValue.fromUtf8_of_toStr {value : HeaderValue} {text : String}
    (h : value.toStr = some text) : fromUtf8 value.bytes = some text :=
  (fromUtf8_eq_some_iff _ _).mpr (HeaderValue.bytesOf_toStr h)

/-- The scan reads text only. -/
private theorem textField_of_visibleField {entry : String × HeaderValue}
    {field : String × String} (read : visibleField entry = some field) :
    textField entry = some field := by
  obtain ⟨name, value⟩ := entry
  obtain ⟨scanned, seen⟩ := Option.ite_none_left_eq_some.mp read
  obtain ⟨text, visible, rfl⟩ := Option.map_eq_some_iff.mp seen
  rw [textField, if_neg scanned, HeaderValue.fromUtf8_of_toStr visible, Option.map_some]

/-- The scan reads all text exactly where the text is visible ASCII. -/
private theorem plainText_iff {headers : HeaderMap} : headers.PlainText ↔
    ∀ entry ∈ headers, (textField entry).isSome = true → (visibleField entry).isSome = true := by
  have visible {name : String} {value : HeaderValue} (scanned : Scanned name) :
      (visibleField (name, value)).isSome = true ↔ ∀ b ∈ value.bytes, isVisibleAscii b = true := by
    rw [visibleField, if_neg (by simp [isExcludedHeader_eq_false_iff.mpr scanned]),
      Option.isSome_map, HeaderValue.toStr_isSome_iff]
  constructor
  · rintro plain ⟨name, value⟩ member isText
    obtain ⟨⟨name', text⟩, read⟩ := Option.isSome_iff_exists.mp isText
    obtain ⟨scanned, same⟩ := textField_eq_some_iff.mp read
    obtain ⟨rfl, own⟩ := Prod.mk.inj same
    exact (visible scanned).mpr (plain name' value text member scanned own)
  · intro reads name value text member scanned own
    have read : textField (name, value) = some (name, text) :=
      textField_eq_some_iff.mpr ⟨scanned, congrArg (name, ·) own⟩
    exact (visible scanned).mp (reads (name, value) member (by rw [read]; rfl))

/-- Reading as text and reading as the scan does are the same where both read. -/
private theorem headers_of_plainText {parts : Parts W} (plain : parts.headers.PlainText)
    (body : Option Bytes) : parts.headers.ShownIn (scanSurfaces parts body).headers := by
  have same : parts.headers.filterMap textField = parts.headers.filterMap visibleField := by
    refine List.filterMap_congr fun entry member => ?_
    cases isText : textField entry with
    | none =>
      cases seen : visibleField entry with
      | none => rfl
      | some field => rw [textField_of_visibleField seen] at isText; cases isText
    | some field =>
      obtain ⟨field', seen⟩ := Option.isSome_iff_exists.mp
        (plainText_iff.mp plain entry member (by rw [isText]; rfl))
      rw [seen, ← isText, textField_of_visibleField seen]
  rw [shownIn_iff, scanSurfaces_headers, same]

theorem scanSurfaces_rawBody (parts : Parts W) (body : Option Bytes) :
    (scanSurfaces parts body).rawBody = fromUtf8Lossy (body.getD []) := by
  cases body <;> rfl

private theorem scanSurfaces_complete (parts : Parts W) (body : Option Bytes) :
    (scanSurfaces parts body).Complete parts body ↔ parts.headers.PlainText := by
  have shown := scanSurfaces_rawBody parts body
  constructor
  · rintro ⟨-, -, headers, -, -⟩
    -- All text is among the surfaces, so that the scan reads no fewer values.
    rw [shownIn_iff, scanSurfaces_headers] at headers
    exact plainText_iff.mpr
      (reads_of_length_le (fun _ _ => textField_of_visibleField) headers.length_le)
  · intro plain
    exact
      { path := fun other => if_neg other
        query := fun pieces cut whole => queryPairs_pieces cut whole
        headers := headers_of_plainText plain body
        rawBody := shown
        bodyText := fun text own => by rw [shown, ← own, fromUtf8Lossy_bytesOf] }

/-- The scan sees all of a request exactly when its scanned text is visible ASCII; nothing
handed to the wrapped service is then out of its sight. -/
theorem scan_surfaces_complete_iff (E : Engine W) (service : GuardService W)
    (request : Request W) (s : Store W) (body : Option Bytes) :
    ((scanSurfaces request.toParts body).Complete request.toParts body ↔
      request.headers.PlainText) ∧
    (request.headers.PlainText →
      ∀ handed ∈ handedOver (service.call E request s).trace,
      ∀ event ∈ (service.call E request s).trace, ∀ surfaces exclusions,
        event.consult = .scan surfaces exclusions →
        handed.headers.ShownIn surfaces.headers) := by
  refine ⟨scanSurfaces_complete request.toParts body, ?_⟩
  intro plain handed member event asked surfaces exclusions own
  obtain ⟨χ, s', arrives, -, views⟩ := scan_asked asked (by rw [own]; rfl)
  rw [own, Consult.scan.injEq] at views
  have sent : handed.headers = request.headers := (congrArg Parts.headers (handed_parts member) :)
  have scanned : χ.parts.headers = request.headers := (congrArg Parts.headers arrives.of.carried :)
  rw [views.1, sent, ← scanned]
  exact ((scanSurfaces_complete χ.parts χ.buffered).mpr (by rwa [scanned])).headers

/-- A request with one scanned header of these bytes. -/
def headerRequest (bytes : Bytes) (valid : bytes.all isHeaderByte = true) :
    Request Bench.world :=
  { Bench.request "GET" "/items" none [] with headers := [("x-note", ⟨bytes, valid⟩)] }

/-- A note that spells a word with an accent is valid UTF-8, and the scan does not see it. -/
theorem accented_header_unseen :
    ¬(scanSurfaces (headerRequest (bytesOf "café") (by decide +kernel)).toParts none).Complete
      (headerRequest (bytesOf "café") (by decide +kernel)).toParts none := by
  intro complete
  have shown := complete.headers [("x-note", "café")] (.refl _) fun field member => by
    obtain rfl := List.mem_singleton.mp member
    exact isExcludedHeader_eq_false_iff.mp (by decide +kernel)
  exact absurd shown.length_le (by decide +kernel)

end TowerGuard
