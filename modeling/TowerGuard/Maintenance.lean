import TowerGuard.Layer

/-!
# Maintenance

`reset` on a layer and on a service, and the windows it is about.
-/

namespace TowerGuard

open Text Traced

variable {W : World}

section Reset

/- `RateLimiter::reset`. -/
variable (resetLimiter : RateLimiter → W.Limits → W.Limits)

/-- `GuardLayer::reset`. -/
def GuardLayer.reset (layer : GuardLayer W) (s : Store W) : Store W :=
  match layer.rateLimiter with
  | some limiter => { s with limits := resetLimiter limiter s.limits }
  | none => s

/-- `GuardService::reset`. -/
def GuardService.reset (service : GuardService W) (s : Store W) : Store W :=
  service.layer.reset resetLimiter s

/-- Bans, the cloud table and the distributed stores are out of its reach. -/
@[simp] theorem GuardLayer.reset_other (layer : GuardLayer W) (s : Store W) :
    (layer.reset resetLimiter s).other = s.other := by
  unfold reset
  split <;> rfl

theorem GuardLayer.wrap_reset (E : Engine W) (layer : GuardLayer W) (inner : InnerService W) :
    (layer.wrap E inner).reset resetLimiter = layer.reset resetLimiter := rfl

end Reset

/-! ### Windows -/

variable (W) in
/-- Where the engine keeps the hits of an identity: in the limiter's own store, or recorded in
the distributed store under the prefix. -/
structure WindowStores where
  Hit : Type
  memory : W.Limits → (limiter : Nat) → (identity : IpAddr) → List Hit
  remote : W.Other → (store : Nat) → (redisPrefix : String) → (identity : IpAddr) → List Hit

/-- The hits the tiers of this layer hold against an identity. The tiers ride the limiter, and a
distributed store takes the place of its windows. -/
def WindowStores.held (windows : WindowStores W) (layer : GuardLayer W) (s : Store W)
    (identity : IpAddr) : List windows.Hit :=
  match layer.rateLimiter, layer.distributed with
  | none, _ => []
  | some limiter, none => windows.memory s.limits limiter.store identity
  | some _, some (window, redisPrefix, _) =>
    windows.remote s.other window.store redisPrefix identity

end TowerGuard
