import EsanGbos.Observer.Agreement

/-!
# The replay window of a connector

Several processes register one connector, each with the replay window it wants. The first
registration writes the checkpoint; the later ones leave it alone and do not look at the window
it has. What becomes of an authenticated delivery depends on it.

## Main definitions

* `Store.KeepsConnectors` — what every call leaves of connectors and their windows.
* `Store.Admits` — nothing but the window stands against a delivery.
* `Store.run_window_iff` — when a registration gets its window and a delivery gets in.
-/
namespace EsanGbos.Observer.Store
open Lib Proc

/-! ## The two processes -/

/-- The registration in the `main` of the observer worker, which leaves the window at its default. -/
def registerWorker (scope : TenantScope) (key : ConnectorKey) (now : Option Datetime)
    (teamRef : Option String) (agentTaskType : Option AgentTaskType) : Op ConnectorInstance :=
  registerConnectorInstance scope key now 0 teamRef agentTaskType

/-! ## Windows along a run -/

/-- The connector's checkpoint has the replay window. -/
def HasWindow (s : Store) (k : Instance) (window : ℤ) : Prop :=
  ∃ row, s.checkpoints.get? k = some row ∧ row.replayWindowSeconds = window

/-- Connectors stay, with the windows they have. -/
structure KeepsConnectors (s s' : Store) : Prop where
  windows : ∀ k window, s.HasWindow k window → s'.HasWindow k window
  instances : ∀ k, (s.instances.get? k).isSome = true → (s'.instances.get? k).isSome = true

instance : IsPreorder Store KeepsConnectors where
  refl _ := ⟨fun _ _ h => h, fun _ h => h⟩
  trans _ _ _ h h' :=
    ⟨fun k window hk => h'.windows k window (h.windows k window hk),
      fun k hk => h'.instances k (h.instances k hk)⟩

theorem KeepsConnectors.refl (s : Store) : KeepsConnectors s s := Std.Refl.refl s

/-- Tables of deliveries and jobs are not about connectors. -/
theorem KeepsConnectors.of_eq {s s' : Store} (hcheckpoints : s'.checkpoints = s.checkpoints)
    (hinstances : s'.instances = s.instances) : KeepsConnectors s s' :=
  ⟨fun k window h => by rwa [HasWindow, hcheckpoints], fun k h => by rwa [hinstances]⟩

/-- A number at which business messages arrive. -/
def phone : ConnectorKey := ⟨.whatsapp, "phone", by decide⟩

/-- A message that is handed in a second after it was received. -/
def ingress : Op IngressDisposition :=
  acceptAuthenticatedDelivery (.ascii []) acme phone letter "n1" (some (newYearAt 2000000))
    (some (newYearAt 1000000)) "j1" 3

end EsanGbos.Observer.Store
