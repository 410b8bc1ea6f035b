import TowerGuard.Pass
import TowerGuard.Status
import TowerGuard.Traced.Walk

/-!
# The status route

`GuardStatusService` answers every request with the status document. The rows are read off the
live table one by one, and the geo-ip component off the manager behind them: a refresher may come
in between.

`status_alone` says that on a store that keeps still the service answers with the snapshot.
-/

namespace TowerGuard

open Text Traced

variable {σ τ ρ : Type}

/-- The handles of a `GuardStatus`. They answer from the live store. -/
structure LiveStatus (σ : Type) where
  cloud : Option (σ → CloudIpTable)
  geoConfigured : Bool
  geoManager : Option (σ → IpInfoManager)

/-- What the handles answer in one state. -/
def LiveStatus.read (status : LiveStatus σ) (s : σ) : GuardStatus where
  cloud := status.cloud.map fun table => table s
  geoConfigured := status.geoConfigured
  geoManager := status.geoManager.map fun manager => manager s

namespace GuardStatus

def jsonType : HeaderValue := ⟨bytesOf "application/json", by decide +kernel⟩

theorem isStatus_ok : 100 ≤ 200 ∧ 200 < 1000 := by decide

/-- The parts of `response`, around its document. -/
def answer (document : String) : Generated where
  status := ⟨200, isStatus_ok⟩
  headers := [("content-type", jsonType)]
  body := bytesOf document

variable (validCloudProviders : List String)
  (objectToString : List (String × Json.Value) → String)

def response (status : GuardStatus) : Generated :=
  answer (status.payload validCloudProviders objectToString)

end GuardStatus

structure GuardStatusService (σ : Type) where
  status : LiveStatus σ

namespace GuardStatusService

variable (validCloudProviders : List String)
  (objectToString : List (String × Json.Value) → String) (service : GuardStatusService σ)

/-- `call`, whatever the request. It waits for nothing. -/
def call : Thread σ τ ρ Empty Generated := do
  let rows ← Thread.readings (fun provider s => (provider, (service.status.read s).providerRow
    provider)) validCloudProviders
  let geo ← Thread.atomically
    (Prog.reads fun s => (service.status.read s).geoIpStatus objectToString)
  pure (GuardStatus.answer (GuardStatus.document rows geo))

/-- With nothing in between the answer is that of the snapshot. -/
theorem status_alone (s : σ) :
    ((service.call validCloudProviders objectToString : Thread σ τ ρ _ _).alone s).flow =
      .pass ((service.status.read s).response validCloudProviders objectToString) := by
  simp only [call, Thread.alone_bind, Thread.alone_atomically, Thread.alone_readings]
  rfl

end GuardStatusService

end TowerGuard
