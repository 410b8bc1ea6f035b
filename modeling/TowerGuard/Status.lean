import TowerGuard.Text.Json

/-!
# The status document

`GuardStatus` and the JSON it writes by hand: a row for every cloud provider and the geo-ip
component.
-/

namespace TowerGuard

structure ProviderStatus where
  ready : Bool
  lastRefreshed : Option Int
  entries : Int
  deriving DecidableEq

/-- `CloudIpTable`, through what it answers about each provider while the document is written. -/
structure CloudIpTable where
  providerStatus : String → ProviderStatus

/-- `IpInfoManager`, through its readout. -/
structure IpInfoManager where
  getStatus : List (String × Json.Value)

structure GuardStatus where
  cloud : Option CloudIpTable
  geoConfigured : Bool
  geoManager : Option IpInfoManager

/-- `{:04x}` -/
def lowerHex04 (n : Nat) : String :=
  let digits := Nat.toDigits 16 n
  String.ofList (List.replicate (4 - digits.length) '0' ++ digits)

/-- One character of `json_string`. -/
def jsonStringTurn (out : String) (character : Char) : String :=
  match character with
  | '"' => out ++ "\\\""
  | '\\' => out ++ "\\\\"
  | '\n' => out ++ "\\n"
  | '\r' => out ++ "\\r"
  | '\t' => out ++ "\\t"
  | other =>
    if other.toNat < 0x20 then out ++ ("\\u" ++ lowerHex04 other.toNat) else out.push other

def jsonString (value : String) : String :=
  (value.toList.foldl jsonStringTurn ("".push '"')).push '"'

namespace GuardStatus

def new : GuardStatus := { cloud := none, geoConfigured := false, geoManager := none }

def withCloudTable (status : GuardStatus) (cloud : CloudIpTable) : GuardStatus :=
  { status with cloud := some cloud }

def withGeoConfigured (status : GuardStatus) (geoConfigured : Bool) : GuardStatus :=
  { status with geoConfigured := geoConfigured }

def withGeoManager (status : GuardStatus) (geoManager : IpInfoManager) : GuardStatus :=
  { status with geoManager := some geoManager }

/- `VALID_CLOUD_PROVIDERS`, and `serde_json::Value::Object(..).to_string()`. -/
variable (validCloudProviders : List String)
  (objectToString : List (String × Json.Value) → String)

def geoIpStatus (status : GuardStatus) : Option String :=
  match status.geoManager with
  | some manager => some (objectToString manager.getStatus)
  | none => if status.geoConfigured then some "\x7b\"configured\":true\x7d" else none

/-- The row of a provider: what the table answers, or the never-initialized shape. -/
def providerRow (status : GuardStatus) (provider : String) : ProviderStatus :=
  match status.cloud with
  | none => { ready := false, lastRefreshed := none, entries := 0 }
  | some table => table.providerStatus provider

def cloudProviderStatus (status : GuardStatus) : List (String × ProviderStatus) :=
  validCloudProviders.map fun provider => (provider, status.providerRow provider)

/-- One turn of the loop of `payload`: the document so far, and whether no row is in it yet. -/
def payloadTurn : String × Bool → String × ProviderStatus → String × Bool
  | (payload, first), (provider, row) =>
    let payload := if first then payload else payload.push ','
    let payload := payload ++ jsonString provider
    let payload := payload ++ ":\x7b\"ready\":"
    let payload := payload ++ if row.ready then "true" else "false"
    let payload := payload ++ ",\"last_refreshed\":"
    let payload := match row.lastRefreshed with
      | some stamp => payload ++ toString stamp
      | none => payload ++ "null"
    let payload := payload ++ ",\"entries\":"
    let payload := payload ++ toString row.entries
    (payload.push '}', false)

/-- `payload`, from what it has read on. -/
def document (rows : List (String × ProviderStatus)) (geo : Option String) : String :=
  let payload := "\x7b\"cloud_providers\":\x7b"
  let (payload, _) := rows.foldl payloadTurn (payload, true)
  let payload := payload ++ "\x7d,"
  let payload := match geo with
    | some geo => payload ++ "\"geo_ip\":" ++ geo
    | none => payload ++ "\"geo_ip\":null"
  payload.push '}'

def payload (status : GuardStatus) : String :=
  document (status.cloudProviderStatus validCloudProviders) (status.geoIpStatus objectToString)

end GuardStatus

/-! ### What the document says -/

def stampJson : Option Int → Json.Value
  | some stamp => .num stamp
  | none => .null

/-- The row as the document has it. -/
def ProviderStatus.toJson (row : ProviderStatus) : Json.Value :=
  .obj [("ready", .bool row.ready), ("last_refreshed", stampJson row.lastRefreshed),
    ("entries", .num row.entries)]

/-- The geo-ip component: the manager's object, the configured object or null. -/
def GuardStatus.geoIpJson (status : GuardStatus) : Json.Value :=
  match status.geoManager with
  | some manager => .obj manager.getStatus
  | none => if status.geoConfigured then .obj [("configured", .bool true)] else .null

def GuardStatus.providerRows (status : GuardStatus) (validCloudProviders : List String) :
    List (String × Json.Value) :=
  (status.cloudProviderStatus validCloudProviders).map fun (provider, row) =>
    (provider, row.toJson)

/-- The snapshot as the document has it. -/
def GuardStatus.toJson (status : GuardStatus) (validCloudProviders : List String) : Json.Value :=
  .obj [("cloud_providers", .obj (status.providerRows validCloudProviders)),
    ("geo_ip", status.geoIpJson)]

end TowerGuard
