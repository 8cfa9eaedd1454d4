import EsanGbos.Observer.Models

/-!
# Items of a connector

A connector hands on what it has read as items. The constructor of an item has checks of its own.

## Main definitions

* `ConnectorItem` — an item with its payload, and what its constructor refuses.
-/
namespace EsanGbos.Observer
open Lib

/-- An item of a connector. -/
structure ConnectorItem (π : Type) where
  providerEventId : String
  occurredAt : Datetime
  sourceCursor : String
  payload : π

/-- `__post_init__`, which says what it refuses. -/
def ConnectorItem.refusal {π : Type} (item : ConnectorItem π) : Option String :=
  if !isIdentifier 512 item.providerEventId then some "invalid provider_event_id"
  else if 4096 < item.sourceCursor.length ∨ item.sourceCursor = "" then some "invalid source_cursor"
  else none

theorem ConnectorItem.refusal_eq_none {π : Type} {item : ConnectorItem π} :
    item.refusal = none ↔ isIdentifier 512 item.providerEventId = true ∧
      item.sourceCursor.length ≤ 4096 ∧ item.sourceCursor ≠ "" := by
  unfold refusal
  split
  next h => simpa using fun hid => absurd hid (by simpa using h)
  next h =>
    split
    next hcursor =>
      refine iff_of_false nofun ?_
      rintro ⟨-, hlength, hempty⟩
      exact hcursor.elim (fun hlong => absurd hlength (not_le.mpr hlong)) hempty
    next hcursor =>
      push Not at hcursor
      exact iff_of_true rfl ⟨by simpa using h, hcursor⟩

end EsanGbos.Observer
