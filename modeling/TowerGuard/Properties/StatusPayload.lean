import Mathlib.Data.List.Nodup
import TowerGuard.Status

/-!
# The status document reads back

`json_string` writes JSON strings, and each turn of the loop of `payload` a member behind those
it has. What is written so is a JSON text of the snapshot.
-/

namespace TowerGuard

open Json

/-! ### Strings -/

theorem hex4_lowerHex04 :
    ∀ n < 0x20, hex4 (lowerHex04 n).toList = some n ∧ isHighSurrogate n = false ∧
      isLowSurrogate n = false := by
  decide

/-- A turn writes its character, whatever it is. -/
theorem jsonStringTurn_writes (out : String) (character : Char) :
    ∃ text, (jsonStringTurn out character).toList = out.toList ++ text ∧
      CharText text character := by
  unfold jsonStringTurn
  split
  · exact ⟨['\\', '"'], by simp, .short rfl⟩
  · exact ⟨['\\', '\\'], by simp, .short rfl⟩
  · exact ⟨['\\', 'n'], by simp, .short rfl⟩
  · exact ⟨['\\', 'r'], by simp, .short rfl⟩
  · exact ⟨['\\', 't'], by simp, .short rfl⟩
  next quote escape _ _ _ =>
    split
    next control =>
      obtain ⟨written, high, low⟩ := hex4_lowerHex04 character.toNat control
      refine ⟨'\\' :: 'u' :: (lowerHex04 character.toNat).toList, by simp, ?_⟩
      have escaped := CharText.unit written high low
      rwa [Char.ofNat_toNat] at escaped
    next visible => exact ⟨[character], by simp, .plain (by omega) quote escape⟩

theorem jsonString_loop (cs : List Char) (out : String) :
    ∃ text, (cs.foldl jsonStringTurn out).toList = out.toList ++ text ∧ Chars text cs := by
  induction cs generalizing out with
  | nil => exact ⟨[], by simp, .nil⟩
  | cons c cs ih =>
    obtain ⟨first, turn, written⟩ := jsonStringTurn_writes out c
    obtain ⟨more, run, rest⟩ := ih (jsonStringTurn out c)
    refine ⟨first ++ more, ?_, .cons written rest⟩
    rw [List.foldl_cons, run, turn, List.append_assoc]

theorem isString_jsonString (value : String) : IsString (jsonString value).toList value := by
  obtain ⟨body, run, written⟩ := jsonString_loop value.toList ("".push '"')
  refine ⟨body, ?_, written⟩
  rw [jsonString, String.toList_push, run]
  rfl

theorem isText_jsonString (value : String) : IsText (jsonString value) (.str value) :=
  isText_of_denotes (.str (isString_jsonString value))

/-! ### Rows -/

def stampText : Option Int → String
  | some stamp => toString stamp
  | none => "null"

theorem isText_stampText (stamp : Option Int) : IsText (stampText stamp) (stampJson stamp) := by
  cases stamp with
  | some stamp => exact isText_int stamp
  | none => exact isText_null

/-- What a turn writes behind the name. -/
def ProviderStatus.text (row : ProviderStatus) : String :=
  "\x7b\"ready\":" ++ (if row.ready then "true" else "false") ++ ",\"last_refreshed\":" ++
    stampText row.lastRefreshed ++ ",\"entries\":" ++ toString row.entries ++ "\x7d"

/-- A name without escapes. -/
theorem isString_of_plain (name : String) (plain : jsonString name = "\"" ++ name ++ "\"") :
    IsString ("\"" ++ name ++ "\"").toList name :=
  plain ▸ isString_jsonString name

theorem ProviderStatus.isText_text (row : ProviderStatus) : IsText row.text row.toJson := by
  have ready := denotes_member (isString_of_plain "ready" (by decide)) (isText_bool row.ready)
  have refreshed := denotes_member (isString_of_plain "last_refreshed" (by decide))
    (isText_stampText row.lastRefreshed)
  have entries := denotes_member (isString_of_plain "entries" (by decide))
    (isText_int row.entries)
  have object := Denotes.obj (ready.members_append (refreshed.members_append entries))
  apply isText_of_denotes
  simpa [text, toJson] using object

/-- The document up to a row: its opening, and the members it has. -/
inductive Rows (opening : List Char) : String × Bool → List (String × Value) → Prop
  | none {payload : String} : payload.toList = opening → Rows opening (payload, true) []
  | some {payload : String} {text : List Char} {entries : List (String × Value)} :
      payload.toList = opening ++ text → Denotes text (.members entries) →
      Rows opening (payload, false) entries

theorem payloadTurn_eq (payload : String) (first : Bool) (provider : String)
    (row : ProviderStatus) :
    GuardStatus.payloadTurn (payload, first) (provider, row) =
      ((if first then payload else payload.push ',') ++ (jsonString provider ++ ":" ++ row.text),
        false) := by
  obtain ⟨ready, stamp, entries⟩ := row
  refine Prod.ext (String.toList_inj.mp ?_) rfl
  cases stamp with
  | some _ | none => simp [GuardStatus.payloadTurn, ProviderStatus.text, stampText]

/-- A turn writes its row behind the others. -/
theorem payloadTurn_writes {opening : List Char} {state : String × Bool}
    {entries : List (String × Value)} (rows : Rows opening state entries) (provider : String)
    (row : ProviderStatus) :
    Rows opening (GuardStatus.payloadTurn state (provider, row))
      (entries ++ [(provider, row.toJson)]) := by
  have member := denotes_member (isString_jsonString provider) row.isText_text
  cases rows with
  | none same =>
    rw [payloadTurn_eq]
    exact .some (by simp [same]) member
  | some same denotes =>
    rw [payloadTurn_eq]
    exact .some (by simp [same]) (denotes.members_append member)

theorem payload_loop {opening : List Char} (table : List (String × ProviderStatus)) :
    ∀ {state : String × Bool} {entries : List (String × Value)}, Rows opening state entries →
      Rows opening (table.foldl GuardStatus.payloadTurn state)
        (entries ++ table.map fun (provider, row) => (provider, row.toJson)) := by
  induction table with
  | nil =>
    intro state entries rows
    rwa [List.map_nil, List.append_nil]
  | cons head table ih =>
    intro state entries rows
    have run := ih (payloadTurn_writes rows head.1 head.2)
    rwa [List.append_assoc] at run

/-- Closed, the rows are an object. -/
theorem Rows.closed {opening : List Char} {state : String × Bool}
    {entries : List (String × Value)} (rows : Rows opening state entries) :
    ∃ text, state.1.toList = opening ++ text ∧
      Denotes ('{' :: (text ++ ['}'])) (.value (.obj entries)) := by
  cases rows with
  | none same => exact ⟨[], by rw [List.append_nil, same], .emptyObj rfl⟩
  | some same denotes => exact ⟨_, same, .obj denotes⟩

/-! ### The document -/

/-- `serde_json` renders the manager's object as JSON. -/
def GuardStatus.ManagerRenders (objectToString : List (String × Value) → String)
    (status : GuardStatus) : Prop :=
  ∀ manager, status.geoManager = some manager →
    IsText (objectToString manager.getStatus) (.obj manager.getStatus)

/-- The geo-ip component as it stands in the document. -/
def GuardStatus.geoIpText (status : GuardStatus)
    (objectToString : List (String × Value) → String) : String :=
  (status.geoIpStatus objectToString).getD "null"

theorem isText_configured :
    IsText "\x7b\"configured\":true\x7d" (.obj [("configured", .bool true)]) := by
  have object := Denotes.obj (denotes_member (isString_of_plain "configured" (by decide))
    (isText_bool true))
  apply isText_of_denotes
  simpa using object

theorem GuardStatus.isText_geoIpText {objectToString : List (String × Value) → String}
    {status : GuardStatus} (renders : status.ManagerRenders objectToString) :
    IsText (status.geoIpText objectToString) status.geoIpJson := by
  unfold geoIpText geoIpStatus geoIpJson
  cases installed : status.geoManager with
  | some manager => exact renders manager installed
  | none =>
    cases status.geoConfigured with
    | true => exact isText_configured
    | false => exact isText_null

theorem GuardStatus.payload_eq (status : GuardStatus) (providers : List String)
    (objectToString : List (String × Value) → String) :
    status.payload providers objectToString =
      ((status.cloudProviderStatus providers).foldl payloadTurn
        ("\x7b\"cloud_providers\":\x7b", true)).1 ++
          ("\x7d,\"geo_ip\":" ++ status.geoIpText objectToString ++ "\x7d") := by
  apply String.toList_inj.mp
  unfold payload document geoIpText
  cases status.geoIpStatus objectToString with
  | some geo | none => simp

theorem GuardStatus.isText_payload (status : GuardStatus) (providers : List String)
    {objectToString : List (String × Value) → String}
    (renders : status.ManagerRenders objectToString) :
    IsText (status.payload providers objectToString) (status.toJson providers) := by
  have start : Rows "\x7b\"cloud_providers\":\x7b".toList
      ("\x7b\"cloud_providers\":\x7b", true) [] := .none rfl
  obtain ⟨text, same, rows⟩ := (payload_loop (status.cloudProviderStatus providers) start).closed
  have geo := denotes_member (isString_of_plain "geo_ip" (by decide))
    (GuardStatus.isText_geoIpText renders)
  have named := denotes_member (isString_of_plain "cloud_providers" (by decide))
    (isText_ofList rows)
  have object := Denotes.obj (named.members_append geo)
  apply isText_of_denotes
  rw [payload_eq]
  simpa [same, toJson, providerRows] using object

theorem GuardStatus.names_providerRows (status : GuardStatus) (providers : List String) :
    (status.providerRows providers).map Prod.fst = providers := by
  rw [providerRows, cloudProviderStatus, List.map_map, List.map_map]
  exact List.map_id providers

/-- A name that is listed once has one row. -/
theorem GuardStatus.filter_providerRows (status : GuardStatus) {providers : List String}
    (distinct : providers.Nodup) {provider : String} (member : provider ∈ providers) :
    (status.providerRows providers).filter (fun row => row.1 = provider) =
      [(provider, (status.providerRow provider).toJson)] := by
  have once : providers.filter (fun name => name = provider) = [provider] := by
    rw [List.filter_eq, List.count_eq_one_of_mem distinct member]
    rfl
  rw [providerRows, cloudProviderStatus, List.map_map, List.filter_map]
  exact congrArg _ once

/-- The document is the JSON of the snapshot, with one row for every provider of the list. -/
theorem payload_reads_back (providers : List String)
    (objectToString : List (String × Value) → String) (status : GuardStatus)
    (distinct : providers.Nodup) (renders : status.ManagerRenders objectToString) :
    IsText (status.payload providers objectToString) (status.toJson providers) ∧
      parse (status.payload providers objectToString) = some (status.toJson providers) ∧
      (status.providerRows providers).map Prod.fst = providers ∧
      (∀ provider ∈ providers,
        (status.providerRows providers).filter (fun member => member.1 = provider) =
          [(provider, (status.providerRow provider).toJson)]) ∧
      ∀ name, parse (jsonString name) = some (.str name) := by
  have written := status.isText_payload providers renders
  exact ⟨written, parse_eq written, status.names_providerRows providers,
    fun provider member => status.filter_providerRows distinct member,
    fun name => parse_eq (isText_jsonString name)⟩

/-- A table that loaded one provider, and a manager that is not ready. -/
def halfReady : GuardStatus :=
  (GuardStatus.new.withCloudTable
    ⟨fun provider => if provider = "AWS" then ⟨true, some 1760000000, 2⟩ else ⟨false, none, 0⟩⟩)
    |>.withGeoManager ⟨[("entries", .num 0), ("last_refreshed", .null), ("ready", .bool false)]⟩

/-- `serde_json` on the readout of a manager that is not ready. -/
def unreadyManager (_ : List (String × Value)) : String :=
  "\x7b\"entries\":0,\"last_refreshed\":null,\"ready\":false\x7d"

theorem halfReady_renders : halfReady.ManagerRenders unreadyManager := by
  rintro _ ⟨⟩
  have zero : toString (0 : Int) = "0" := by decide
  have entries := denotes_member (isString_of_plain "entries" (by decide)) (isText_int 0)
  have refreshed := denotes_member (isString_of_plain "last_refreshed" (by decide)) isText_null
  have ready := denotes_member (isString_of_plain "ready" (by decide)) (isText_bool false)
  have object := Denotes.obj (entries.members_append (refreshed.members_append ready))
  rw [zero] at object
  apply isText_of_denotes
  simpa [unreadyManager] using object

theorem half_ready_reads_back :
    parse (halfReady.payload ["AWS", "GCP"] unreadyManager) =
      some (.obj
        [("cloud_providers", .obj
          [("AWS", .obj [("ready", .bool true), ("last_refreshed", .num 1760000000),
            ("entries", .num 2)]),
          ("GCP", .obj [("ready", .bool false), ("last_refreshed", .null),
            ("entries", .num 0)])]),
        ("geo_ip", .obj [("entries", .num 0), ("last_refreshed", .null),
          ("ready", .bool false)])]) :=
  (payload_reads_back ["AWS", "GCP"] unreadyManager halfReady (by decide) halfReady_renders).2.1

end TowerGuard
