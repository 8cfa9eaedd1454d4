import EsanGbos.Lib.Proc
import EsanGbos.Lib.Table
import EsanGbos.Stdlib

/-!
# Scopes, connectors and deliveries

The values that the observer's storage is called with, and the checks that storage makes
on its arguments. An aware datetime reaches the database as its instant; a datetime
argument that is `none` is naive.

## Main definitions

* `Raise` — the exceptions of the observer, with their messages.
* `TenantScope`, `ConnectorKey`, `RawDelivery` — values checked by their constructors.
* `requireAware`, `requireIdentifier` and their companions — the argument checks.
-/
namespace EsanGbos.Observer
open Lib

/-- An exception, by its class. `integrityError` comes from a constraint or a trigger of the
database and `operationalError` from the connection to it. -/
inductive Raise where
  | valueError (message : String)
  | lookupError (message : String)
  | runtimeError (message : String)
  | overflowError
  | integrityError
  | operationalError
  | deliveryConflict (message : String)
  | checkpointConflict (message : String)
  | leaseConflict (message : String)
  | jobConflict (message : String)
  | normalizedBatchConflict (message : String)
  | outboxConflict (message : String)
  | nonceReplay (message : String)
  | ingressExpired (message : String)
  | connectorRoutingConflict (message : String)
  | revisionConflict (message : String)
  | idempotencyConflict (message : String)
  | connectorNotFound (message : String)
  | projectionLeaseConflict (message : String)
  | typeError
deriving DecidableEq, Repr

/-- The exception that an operation ended with. -/
def raised {α : Type} : Except Raise α → Option Raise
  | .error e => some e
  | .ok _ => none

theorem raised_eq_some {α : Type} {r : Except Raise α} {e : Raise} :
    raised r = some e ↔ r = .error e := by
  cases r <;> simp [raised]

/-! ## Values -/

/-- `_SITE_ID.fullmatch`. -/
def isSiteId (s : String) : Bool :=
  match s.toList with
  | [] => false
  | c :: cs => c.isAlphanum && cs.length ≤ 139 && cs.all fun c => c.isAlphanum || c == '.' || c == '-'

inductive ProcessingPurpose where
  | businessOperations | observationProcessing | entityResolution | customerService
  | salesFollowUp | procurementCoordination | productSampleManagement | riskReview
  | metricReporting | auditCompliance
deriving DecidableEq, Repr

structure TenantScope where
  siteId : String
  processingPurpose : ProcessingPurpose
  siteId_ok : isSiteId siteId = true
deriving DecidableEq, Repr

inductive ConnectorName where
  | email | wecom | whatsapp | phone | meeting | file | manualImport | wechatWorkphone
deriving DecidableEq, Repr

/-- The text of a connector in keys and digests. -/
def ConnectorName.text : ConnectorName → String
  | email => "email"
  | wecom => "wecom"
  | whatsapp => "whatsapp"
  | phone => "phone"
  | meeting => "meeting"
  | file => "file"
  | manualImport => "manual_import"
  | wechatWorkphone => "wechat_workphone"

theorem ConnectorName.text_injective : Function.Injective ConnectorName.text := by
  intro a b h
  cases a <;> cases b <;> first | rfl | exact absurd h (by decide)

structure ConnectorKey where
  connector : ConnectorName
  instanceId : String
  instanceId_ok : isIdentifier 256 instanceId = true
deriving DecidableEq, Repr

structure RawDelivery where
  deliveryId : String
  exactBytes : List UInt8
  mediaType : String
  receivedAt : Datetime
  deliveryId_ok : isIdentifier 512 deliveryId = true
  mediaType_ok : isIdentifier 255 mediaType = true
deriving DecidableEq

/-- A site with a mailbox. -/
def acme : TenantScope := ⟨"acme", .observationProcessing, by decide⟩
def mailbox : ConnectorKey := ⟨.email, "inbox", by decide⟩

/-- The values of the column `status` of connectors and checkpoints. -/
inductive ConnectorStatus where
  | healthy | paused | degraded | failed
deriving DecidableEq, Repr

/-! ## Checks -/

/-- `_require_aware`. -/
def requireAware (value : Option Datetime) (name : String) : Except Raise Datetime :=
  match value with
  | some d => .ok d
  | none => .error (.valueError s!"{name} must be timezone-aware")

/-- `_require_identifier`. -/
def requireIdentifier (value name : String) (maximum : ℕ) : Except Raise Unit :=
  if isIdentifier maximum value then .ok () else .error (.valueError s!"invalid {name}")

/-- `_require_lease_seconds`. -/
def requireLeaseSeconds (leaseSeconds : ℤ) : Except Raise Unit :=
  if 1 ≤ leaseSeconds ∧ leaseSeconds ≤ 86400 then .ok ()
  else .error (.valueError "lease_seconds must be a positive bounded integer")

/-- `_require_attempts`. -/
def requireAttempts (maxAttempts : ℤ) : Except Raise Unit :=
  if 1 ≤ maxAttempts ∧ maxAttempts ≤ 100 then .ok ()
  else .error (.valueError "max_attempts must be a positive bounded integer")

/-- `value + duration`. -/
def plus (value : Datetime) (duration : Timedelta) : Except Raise Datetime :=
  match value.add duration with
  | some d => .ok d
  | none => .error .overflowError

/-- The instant of an optional aware datetime; a naive one is refused. -/
def requireAwareIfAny (value : Option (Option Datetime)) (name : String) :
    Except Raise (Option Timestamptz) :=
  match value with
  | none => .ok none
  | some value => (requireAware value name).map fun d => some d.instant

section Checks
variable {name : String} {maximum : ℕ}

@[simp] theorem requireAware_some (d : Datetime) : requireAware (some d) name = .ok d := rfl

theorem requireIdentifier_ok {value : String} {u : Unit} :
    requireIdentifier value name maximum = .ok u ↔ isIdentifier maximum value = true := by
  unfold requireIdentifier
  split <;> simp [*]

theorem requireAttempts_ok {maxAttempts : ℤ} {u : Unit} :
    requireAttempts maxAttempts = .ok u ↔ 1 ≤ maxAttempts ∧ maxAttempts ≤ 100 := by
  unfold requireAttempts
  split <;> simp [*]

theorem requireLeaseSeconds_ok {leaseSeconds : ℤ} {u : Unit} :
    requireLeaseSeconds leaseSeconds = .ok u ↔ 1 ≤ leaseSeconds ∧ leaseSeconds ≤ 86400 := by
  unfold requireLeaseSeconds
  split <;> simp [*]

theorem requireAware_ok {value : Option Datetime} {d : Datetime} :
    requireAware value name = .ok d ↔ value = some d := by
  cases value <;> simp [requireAware]

theorem plus_ok {value d : Datetime} {duration : Timedelta} (h : plus value duration = .ok d) :
    d.instant = value.instant + duration := by
  unfold plus at h
  split at h
  next d' hadd =>
    obtain rfl := Except.ok.inj h
    exact (Datetime.of?_eq_some hadd).1
  next => cases h

/-- A shorter way ahead does not leave the calendar either. -/
theorem plus_ok_of_le {value d : Datetime} {duration shorter : ℤ}
    (h : plus value duration = .ok d) (hpositive : 0 ≤ shorter) (hle : shorter ≤ duration) :
    ∃ d', plus value shorter = .ok d' := by
  unfold plus at h ⊢
  split at h
  next d' hadd =>
    obtain ⟨hinstant, hoffset⟩ := Datetime.of?_eq_some hadd
    have hwall := d'.wall_mem
    have hlow := value.wall_mem.1
    rw [hinstant, hoffset] at hwall
    have hsum : value.add shorter = some ⟨value.instant + shorter, value.utcoffset, value.offset_lt,
        by omega, by omega⟩ := by
      rw [Datetime.add, Datetime.of?, dif_pos ⟨value.offset_lt, by omega, by omega⟩]
    exact ⟨_, by rw [hsum]⟩
  next => cases h

end Checks

end EsanGbos.Observer
