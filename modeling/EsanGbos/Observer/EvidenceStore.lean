import EsanGbos.Observer.Models

/-!
# The content-addressed evidence store

The bytes of an object lie in a file whose path is the partition of the site and the digest of
the bytes, so that equal contents of a site share one file. A reference names a site's partition
and a digest. The directories `sha256` and `digest[:2]` between partition and file follow from
the digest, and a path without a file is `none`.

## Main definitions

* `Objects` — the files of the store.
* `EvidenceStore.put`, `EvidenceStore.read`, `EvidenceStore.delete` — the operations.

## Main results

* `EvidenceStore.parseRef_eq_ok` — a reference is accepted for the site it was made for.
* `EvidenceStore.read_eq_ok` — what is read has the digest of its reference.
* `EvidenceStore.put_spec` — the receipt of an object refers to it.
-/
namespace EsanGbos.Observer
open Lib

/-- The exceptions of the store and of the lifecycle over it. -/
inductive EvidenceError where
  | valueError (message : String)
  | fileNotFoundError (message : String)
  | evidenceStoreError (message : String)
  | siteIsolationError (message : String)
  | evidenceIntegrityError (message : String)
  | lifecycleError (message : String)
  | legalHoldError (message : String)
  | evidenceNotFound (message : String)
  | typeError
  | overflowError
deriving DecidableEq, Repr

structure StoredObject where
  objectRef : String
  sha256 : String
  size : ℕ
  mediaType : String
deriving DecidableEq, Repr

structure Path where
  partition : String
  digest : String
deriving DecidableEq, Repr

/-- The files below the root of the store. -/
abbrev Objects := Path → Option (List UInt8)

namespace EvidenceStore
-- `hashlib.sha256(content).hexdigest()`
variable (sha256 : List UInt8 → String)

/-- `hexdigest` writes 64 hexadecimal digits. -/
def HexDigests : Prop := ∀ content, isDigest (sha256 content) = true

/-- `_partition`. -/
def partition (scope : TenantScope) : String :=
  String.ofList ((sha256 ("site:" ++ scope.siteId).toUTF8.data.toList).toList.take 32)

/-- `_object_ref`. -/
def objectRef (scope : TenantScope) (digest : String) : String :=
  String.ofList ([':'].intercalate ["obs".toList, "v1".toList, (partition sha256 scope).toList,
    "sha256".toList, digest.toList])

/-- `_parse_ref`: the digest of a reference. -/
def parseRef (scope : TenantScope) (ref : String) : Except EvidenceError String :=
  match ref.toList.splitOn ':' with
  | [obs, version, site, algorithm, digest] =>
      if obs ≠ "obs".toList ∨ version ≠ "v1".toList ∨ algorithm ≠ "sha256".toList then
        .error (.evidenceStoreError "invalid opaque object reference")
      else if site ≠ (partition sha256 scope).toList then
        .error (.siteIsolationError "object reference belongs to another site")
      else if isDigest (String.ofList digest) then .ok (String.ofList digest)
      else .error (.evidenceStoreError "invalid object digest")
  | _ => .error (.evidenceStoreError "invalid opaque object reference")

/-- `_path`. -/
def path (scope : TenantScope) (digest : String) : Path := ⟨partition sha256 scope, digest⟩

/-- `_verify`, of the bytes at a path. -/
def verify (content : List UInt8) (expectedDigest : String) : Except EvidenceError (List UInt8) :=
  if sha256 content = expectedDigest then .ok content
  else .error (.evidenceIntegrityError "stored object sha256 verification failed")

/-- `ContentAddressedEvidenceStore.put`. -/
def put (scope : TenantScope) (content : List UInt8) (mediaType : String) :
    Proc EvidenceError Objects StoredObject := do
  if mediaType = "" then throw (.valueError "media_type is required")
  let digest := sha256 content
  match (← get) (path sha256 scope digest) with
  | some existing => do
      let _ ← verify sha256 existing digest
      pure ⟨objectRef sha256 scope digest, digest, content.length, mediaType⟩
  | none => do
      modify fun objects => Function.update objects (path sha256 scope digest) (some content)
      pure ⟨objectRef sha256 scope digest, digest, content.length, mediaType⟩

/-- `ContentAddressedEvidenceStore.read`. -/
def read (scope : TenantScope) (ref : String) : Proc EvidenceError Objects (List UInt8) := do
  let digest ← parseRef sha256 scope ref
  match (← get) (path sha256 scope digest) with
  | none => throw (.fileNotFoundError "evidence object not found")
  | some content => verify sha256 content digest

/-- `ContentAddressedEvidenceStore.delete`. -/
def delete (scope : TenantScope) (ref : String) : Proc EvidenceError Objects Unit := do
  let digest ← parseRef sha256 scope ref
  match (← get) (path sha256 scope digest) with
  | none => pure ()
  | some content => do
      let _ ← verify sha256 content digest
      modify fun objects => Function.update objects (path sha256 scope digest) none

/-! ## References -/

variable {sha256}

theorem colon_notMem {digest : String} (h : isDigest digest = true) : ':' ∉ digest.toList := by
  simp only [isDigest, Bool.and_eq_true, List.all_eq_true] at h
  intro hmem
  have hchar := h.2 ':' hmem
  revert hchar
  decide

theorem colon_notMem_partition (hhex : HexDigests sha256) (scope : TenantScope) :
    ':' ∉ (partition sha256 scope).toList := by
  rw [partition, String.toList_ofList]
  exact fun hmem => colon_notMem (hhex _) (List.mem_of_mem_take hmem)

/-- The parts of a reference. -/
theorem splitOn_objectRef (hhex : HexDigests sha256) (scope : TenantScope) {digest : String}
    (hdigest : isDigest digest = true) :
    (objectRef sha256 scope digest).toList.splitOn ':' = ["obs".toList, "v1".toList,
      (partition sha256 scope).toList, "sha256".toList, digest.toList] := by
  rw [objectRef, String.toList_ofList, List.splitOn_intercalate]
  · intro part hpart
    simp only [List.mem_cons, List.not_mem_nil, or_false] at hpart
    rcases hpart with rfl | rfl | rfl | rfl | rfl
    · decide
    · decide
    · exact colon_notMem_partition hhex scope
    · decide
    · exact colon_notMem hdigest
  · exact List.cons_ne_nil _ _

/-- A reference is accepted exactly if it was made for the site, and it has one digest. -/
theorem parseRef_eq_ok (hhex : HexDigests sha256) {scope : TenantScope} {ref digest : String} :
    parseRef sha256 scope ref = .ok digest ↔
      ref = objectRef sha256 scope digest ∧ isDigest digest = true := by
  constructor
  · intro h
    have hjoin : [':'].intercalate (ref.toList.splitOn ':') = ref.toList :=
      List.intercalate_splitOn ':'
    unfold parseRef at h
    split at h
    next obs version site algorithm last hsplit =>
      split at h
      · cases h
      next hshape =>
        split at h
        · cases h
        next hsite =>
          split at h
          next hlast =>
            obtain rfl := Except.ok.inj h
            simp only [ne_eq, not_or, not_not] at hshape hsite
            obtain ⟨rfl, rfl, rfl⟩ := hshape
            subst hsite
            refine ⟨?_, hlast⟩
            rw [objectRef, String.toList_ofList (l := last), ← hsplit, hjoin, String.ofList_toList]
          · cases h
    · cases h
  · rintro ⟨rfl, hdigest⟩
    unfold parseRef
    rw [splitOn_objectRef hhex scope hdigest]
    simp [hdigest]

/-- The reference of a digest names the partition and the digest. -/
theorem objectRef_inj (hhex : HexDigests sha256) {scope scope' : TenantScope}
    {digest digest' : String} (hdigest : isDigest digest = true)
    (hdigest' : isDigest digest' = true) :
    objectRef sha256 scope digest = objectRef sha256 scope' digest' ↔
      path sha256 scope digest = path sha256 scope' digest' := by
  constructor
  · intro h
    have hsplit := splitOn_objectRef hhex scope hdigest
    rw [h, splitOn_objectRef hhex scope' hdigest'] at hsplit
    simp only [List.cons.injEq, and_true, true_and] at hsplit
    rw [path, path, String.toList_inj.mp hsplit.1, String.toList_inj.mp hsplit.2]
  · intro h
    obtain ⟨hpartition, rfl⟩ := Path.mk.inj h
    rw [objectRef, objectRef, hpartition]

/-! ## Reading and writing -/

variable (sha256) in
/-- Every file holds bytes with the digest in its path. -/
def Intact (objects : Objects) : Prop :=
  ∀ path content, objects path = some content → sha256 content = path.digest

theorem Intact.digest (hhex : HexDigests sha256) {objects : Objects} (h : Intact sha256 objects)
    {scope : TenantScope} {digest : String} (hfile : objects (path sha256 scope digest) ≠ none) :
    isDigest digest = true := by
  obtain ⟨content, hcontent⟩ := Option.ne_none_iff_exists'.mp hfile
  have hsha : sha256 content = digest := h _ content hcontent
  rw [← hsha]
  exact hhex content

theorem verify_intact {objects : Objects} (h : Intact sha256 objects) {path : Path}
    {content : List UInt8} (hpath : objects path = some content) :
    verify sha256 content path.digest = .ok content := by
  rw [verify, if_pos (h path content hpath)]

/-- Reading leaves the files alone. -/
theorem read_snd (scope : TenantScope) (ref : String) (objects : Objects) :
    ((read sha256 scope ref).run objects).2 = objects := by
  rw [read, Proc.run_lift_bind]
  cases parseRef sha256 scope ref with
  | error e => rfl
  | ok digest =>
      simp only [Proc.run_get_bind]
      split <;> rfl

/-- In an intact store a reference is read exactly if it names a file, and gives the bytes with the
digest of the reference. -/
theorem read_eq_ok (hhex : HexDigests sha256) {objects : Objects} (h : Intact sha256 objects)
    {scope : TenantScope} {ref digest : String} :
    (∃ content, ((read sha256 scope ref).run objects).1 = .ok content ∧
        sha256 content = digest) ↔
      ref = objectRef sha256 scope digest ∧ objects (path sha256 scope digest) ≠ none := by
  rw [read, Proc.run_lift_bind]
  constructor
  · rintro ⟨content, hread, rfl⟩
    cases hparse : parseRef sha256 scope ref with
    | error e => rw [hparse] at hread; cases hread
    | ok digest =>
        obtain ⟨rfl, hdigest⟩ := (parseRef_eq_ok hhex).mp hparse
        rw [hparse] at hread
        simp only [Proc.run_get_bind] at hread
        cases hfile : objects (path sha256 scope digest) with
        | none => rw [hfile] at hread; cases hread
        | some stored =>
            rw [hfile] at hread
            simp only [Proc.run_lift] at hread
            have hverify := verify_intact h hfile
            obtain rfl := Except.ok.inj (hverify.symm.trans hread)
            have hsha : sha256 stored = digest := h _ _ hfile
            rw [hsha]
            exact ⟨rfl, by rw [hfile]; exact Option.some_ne_none _⟩
  · rintro ⟨rfl, hfile⟩
    have hdigest : isDigest digest = true := h.digest hhex hfile
    obtain ⟨content, hcontent⟩ := Option.ne_none_iff_exists'.mp hfile
    refine ⟨content, ?_, h _ _ hcontent⟩
    rw [(parseRef_eq_ok hhex).mpr ⟨rfl, hdigest⟩]
    simp only [Proc.run_get_bind, hcontent, Proc.run_lift]
    exact verify_intact h hcontent

/-- Storing adds at most the object, and its receipt refers to a file. -/
theorem put_spec {objects : Objects} (h : Intact sha256 objects) (scope : TenantScope)
    (content : List UInt8) (mediaType : String) :
    let after := ((put sha256 scope content mediaType).run objects).2
    Intact sha256 after ∧ (∀ path, objects path ≠ none → after path = objects path) ∧
      ∀ stored, ((put sha256 scope content mediaType).run objects).1 = .ok stored →
        stored.objectRef = objectRef sha256 scope stored.sha256 ∧
          after (path sha256 scope stored.sha256) ≠ none := by
  unfold put
  by_cases hmedia : mediaType = ""
  · simp only [if_pos hmedia, Proc.run_throw_bind]
    refine ⟨h, fun _ _ => trivial, ?_⟩
    intro stored hstored
    cases hstored
  simp only [if_neg hmedia, Proc.run_get_bind]
  cases hfile : objects (path sha256 scope (sha256 content)) with
  | some existing =>
      have hverify := verify_intact h hfile
      rw [path] at hverify
      simp only [Proc.run_lift_bind, hverify, Proc.run_pure]
      refine ⟨h, fun _ _ => trivial, ?_⟩
      intro stored hstored
      obtain rfl := Except.ok.inj hstored
      exact ⟨rfl, by rw [hfile]; exact Option.some_ne_none _⟩
  | none =>
      simp only [Proc.run_modify_bind, Proc.run_pure]
      refine ⟨?_, ?_, ?_⟩
      · intro place bytes hplace
        rw [Function.update_apply] at hplace
        split at hplace
        next heq =>
          obtain rfl := Option.some.inj hplace
          rw [heq, path]
        next => exact h place bytes hplace
      · intro place hplace
        rw [Function.update_of_ne]
        rintro rfl
        exact hplace hfile
      · intro stored hstored
        obtain rfl := Except.ok.inj hstored
        exact ⟨rfl, by simp⟩

/-- Deleting takes the file of the reference away, or raises at what is no reference of the site. -/
theorem delete_cases (hhex : HexDigests sha256) {objects : Objects} (h : Intact sha256 objects)
    (scope : TenantScope) (ref : String) :
    (∃ e, (delete sha256 scope ref).run objects = (.error e, objects) ∧
        ∀ digest, isDigest digest = true → ref ≠ objectRef sha256 scope digest) ∨
      ∃ digest, ref = objectRef sha256 scope digest ∧ isDigest digest = true ∧
        (delete sha256 scope ref).run objects =
          (.ok (), Function.update objects (path sha256 scope digest) none) := by
  unfold delete
  simp only [Proc.run_lift_bind]
  cases hparse : parseRef sha256 scope ref with
  | error e =>
      refine .inl ⟨e, rfl, fun digest hdigest href => ?_⟩
      rw [(parseRef_eq_ok hhex).mpr ⟨href, hdigest⟩] at hparse
      cases hparse
  | ok digest =>
      obtain ⟨href, hdigest⟩ := (parseRef_eq_ok hhex).mp hparse
      refine .inr ⟨digest, href, hdigest, ?_⟩
      simp only [Proc.run_get_bind]
      cases hfile : objects (path sha256 scope digest) with
      | none =>
          rw [Proc.run_pure, ← hfile, Function.update_eq_self]
      | some content =>
          have hverify := verify_intact h hfile
          rw [path] at hverify
          simp only [Proc.run_lift_bind, hverify, Proc.run_modify]

theorem Intact.update_none {objects : Objects} (h : Intact sha256 objects) (place : Path) :
    Intact sha256 (Function.update objects place none) := by
  intro path content hpath
  rw [Function.update_apply] at hpath
  split at hpath
  · cases hpath
  · exact h path content hpath

end EvidenceStore
end EsanGbos.Observer
