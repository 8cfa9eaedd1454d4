import Mathlib.Data.List.Destutter
import EsanGbos.App.Documents

/-!
# The history of a document

Sessions load versions of documents, edit their copies and save them. A save is atomic: the
database serialises the saves of one document.

## Main definitions

* `step` — one action of a session.
* `Linear` — what the committed versions of a document look like.

## Main results

* `history_linear` — the versions are linear, and each was made from the one before it.
-/
namespace EsanGbos.App
open Lib

/-! ## Sessions -/

/-- A document that a session holds, and the number of the version that it was loaded as or last
saved as; a new document has none. -/
structure Copy where
  document : Document
  loaded : Option ℕ

/-- The database and the copies of the sessions. -/
structure Sessions (ι : Type) where
  db : DocumentStore
  copies : ι → Option Copy

/-- What a session does. The snapshot that it reads may be older than the current version, and an
edit leaves the revision alone. A save may be refused after its checks, or its transaction may not
be committed; a session whose save is refused still has the document as it was before. -/
inductive Action (ι : Type) where
  | create (session : ι) (document : Document)
  | load (session : ι) (key : WorkflowDoctype × String) (version : ℕ)
  | edit (session : ι) (document : Document)
  | save (session : ι) (request : Request) (committed : Bool)

/-- The save loads a fixture. -/
def Action.seeds {ι : Type} : Action ι → Bool
  | save _ request _ => request.flags.gbosFixtureSeed
  | _ => false

def Document.key (doc : Document) : WorkflowDoctype × String := (doc.doctype, doc.name)

/-- The document that `doc.save()` writes. -/
def Copy.save (platform : Platform) (db : DocumentStore) (request : Request) (copy : Copy) :
    Except FrappeError Document :=
  match copy.loaded with
  | none => do
      let name := makeGbosName copy.document.doctype.prefixes request.drawn
      let doc := { copy.document with name := name, modified := request.now }
      let saved ← doc.validate platform db request none
      Proc.rejectIf (db.versions saved.key ≠ []) .duplicateEntry
      return saved
  | some _ =>
      match db.current copy.document.key with
      | none => .error .doesNotExist
      | some before =>
          let doc := { copy.document with modified := request.now }
          doc.validate platform db request (some before)

/-- The database after a document has been committed. -/
def DocumentStore.commit (db : DocumentStore) (saved : Document) : DocumentStore where
  keys := if db.versions saved.key = [] then db.keys ++ [saved.key] else db.keys
  versions := Function.update db.versions saved.key (db.versions saved.key ++ [saved])

section Steps
variable {ι : Type} [DecidableEq ι] (platform : Platform)

/-- One action of a session. -/
def step (s : Sessions ι) : Action ι → Except FrappeError Unit × Sessions ι
  | .create session document =>
      (.ok (), { s with copies := Function.update s.copies session (some ⟨document, none⟩) })
  | .load session key version =>
      match (s.db.versions key)[version]? with
      | none => (.error .doesNotExist, s)
      | some document =>
          let copy : Copy := ⟨document, some (version + 1)⟩
          (.ok (), { s with copies := Function.update s.copies session (some copy) })
  | .edit session document =>
      match s.copies session with
      | none => (.error .doesNotExist, s)
      | some copy =>
          let edited := { document with
            doctype := copy.document.doctype
            name := copy.document.name
            revision := copy.document.revision }
          let copy : Copy := ⟨edited, copy.loaded⟩
          (.ok (), { s with copies := Function.update s.copies session (some copy) })
  | .save session request committed =>
      match s.copies session with
      | none => (.error .doesNotExist, s)
      | some copy =>
          match copy.save platform s.db request with
          | .error e => (.error e, s)
          | .ok saved =>
              if committed then
                let copy : Copy := ⟨saved, some ((s.db.versions saved.key).length + 1)⟩
                (.ok (), ⟨s.db.commit saved, Function.update s.copies session (some copy)⟩)
              else (.error .rolledBack, s)

/-- The sessions and the database they share. -/
def sessions : Machine (Sessions ι) (Action ι) (Except FrappeError Unit) := ⟨step platform⟩

/-- No document has been saved yet. -/
def noDocuments : Sessions ι := ⟨⟨[], fun _ => []⟩, fun _ => none⟩

end Steps

/-! ## Linear histories -/

/-- The statuses that the versions go through; one that keeps the status adds none. -/
def statusSequence (versions : List Document) : List String :=
  (versions.map (·.businessStatus)).destutter (· ≠ ·)

/-- The versions of a document are numbered, and their statuses follow the workflow. -/
structure Linear (key : WorkflowDoctype × String) (versions : List Document) : Prop where
  key_eq : ∀ doc ∈ versions, doc.key = key
  revision_eq : ∀ (k : ℕ) doc, versions[k]? = some doc → doc.revision = k + 1
  initial : ∀ status ∈ (statusSequence versions).head?,
    initialStatuses.lookup key.1.workflow = some status
  allowed : (statusSequence versions).IsChain (Allowed key.1.workflow)

/-- Where every element stays or moves along `R`, the changes move along `R`. -/
theorem isChain_destutter_of_stays {α : Type} [DecidableEq α] {R : α → α → Prop} {l : List α}
    (h : l.IsChain fun a b => a = b ∨ R a b) : (l.destutter (· ≠ ·)).IsChain R := by
  have hcons : ∀ (l : List α) (a c : α), (a :: l).IsChain (fun a b => a = b ∨ R a b) → R c a →
      (c :: l.destutter' (· ≠ ·) a).IsChain R := by
    intro l
    induction l with
    | nil =>
        intro a c _ hca
        exact List.IsChain.cons_cons hca (List.IsChain.singleton a)
    | cons b l ih =>
        intro a c hchain hca
        obtain ⟨hab, hrest⟩ := List.isChain_cons_cons.mp hchain
        by_cases hsame : a = b
        · subst hsame
          rw [List.destutter'_cons_neg _ (not_not.mpr rfl)]
          exact ih a c hrest hca
        · rw [List.destutter'_cons_pos _ hsame]
          exact List.IsChain.cons_cons hca (ih b a hrest (hab.resolve_left hsame))
  cases l with
  | nil => exact List.IsChain.nil
  | cons a l =>
      induction l generalizing a with
      | nil => exact List.IsChain.singleton a
      | cons b l ih =>
          obtain ⟨hab, hrest⟩ := List.isChain_cons_cons.mp h
          rw [List.destutter_cons_cons]
          by_cases hsame : a = b
          · subst hsame
            rw [if_neg (not_not.mpr rfl)]
            exact ih a hrest
          · rw [if_pos hsame]
            exact hcons l b a hrest (hab.resolve_left hsame)

theorem head?_statusSequence (versions : List Document) :
    (statusSequence versions).head? = versions.head?.map (·.businessStatus) := by
  cases versions with
  | nil => rfl
  | cons doc versions =>
      have hhead : ∀ (l : List String) a, (l.destutter' (· ≠ ·) a).head? = some a := by
        intro l
        induction l with
        | nil => intro a; rfl
        | cons b l ih =>
            intro a
            by_cases hsame : a = b
            · subst hsame
              rw [List.destutter'_cons_neg _ (not_not.mpr rfl)]
              exact ih a
            · rw [List.destutter'_cons_pos _ hsame]
              rfl
      exact hhead _ _

/-- A linear history, told by its versions one by one. -/
structure Numbered (key : WorkflowDoctype × String) (versions : List Document) : Prop where
  key_eq : ∀ doc ∈ versions, doc.key = key
  revision_eq : ∀ (k : ℕ) doc, versions[k]? = some doc → doc.revision = k + 1
  initial : ∀ doc ∈ versions.head?,
    initialStatuses.lookup key.1.workflow = some doc.businessStatus
  allowed : (versions.map (·.businessStatus)).IsChain fun before after =>
    before = after ∨ Allowed key.1.workflow before after

variable {key : WorkflowDoctype × String} {versions : List Document}

theorem Numbered.linear (h : Numbered key versions) : Linear key versions := by
  refine ⟨h.key_eq, h.revision_eq, ?_, isChain_destutter_of_stays h.allowed⟩
  intro status hstatus
  rw [head?_statusSequence] at hstatus
  obtain ⟨doc, hdoc, rfl⟩ := Option.map_eq_some_iff.mp hstatus
  exact h.initial doc hdoc

theorem Numbered.nil : Numbered key [] := by
  refine ⟨?_, ?_, ?_, List.IsChain.nil⟩
  · intro doc hdoc
    cases hdoc
  · intro k doc hdoc
    cases hdoc
  · intro doc hdoc
    cases hdoc

theorem Numbered.singleton {saved : Document} (hrevision : saved.revision = 1)
    (hstatus : initialStatuses.lookup saved.doctype.workflow = some saved.businessStatus) :
    Numbered saved.key [saved] := by
  refine ⟨?_, ?_, ?_, List.IsChain.singleton _⟩
  · intro doc hdoc
    rw [List.mem_singleton.mp hdoc]
  · intro k doc hdoc
    cases k with
    | zero =>
        obtain rfl := Option.some.inj hdoc
        simpa using hrevision
    | succ k => cases hdoc
  · intro doc hdoc
    obtain rfl := Option.some.inj hdoc
    exact hstatus

/-- The last version has the number of the versions. -/
theorem Numbered.revision_getLast (h : Numbered key versions) {before : Document}
    (hbefore : versions.getLast? = some before) : before.revision = versions.length := by
  have hne : versions ≠ [] := by
    rintro rfl
    cases hbefore
  have hpos := List.length_pos_iff.mpr hne
  rw [List.getLast?_eq_getElem?] at hbefore
  rw [h.revision_eq _ _ hbefore]
  omega

theorem Numbered.append (h : Numbered key versions) {before saved : Document}
    (hbefore : versions.getLast? = some before) (hkey : saved.key = key)
    (hrevision : saved.revision = before.revision + 1)
    (hstatus : before.businessStatus = saved.businessStatus ∨
      Allowed key.1.workflow before.businessStatus saved.businessStatus) :
    Numbered key (versions ++ [saved]) := by
  have hlast := h.revision_getLast hbefore
  refine ⟨?_, ?_, ?_, ?_⟩
  · intro doc hdoc
    rcases List.mem_append.mp hdoc with hdoc | hdoc
    · exact h.key_eq doc hdoc
    · rw [List.mem_singleton.mp hdoc, hkey]
  · intro k doc hdoc
    rw [List.getElem?_append] at hdoc
    by_cases hk : k < versions.length
    · rw [if_pos hk] at hdoc
      exact h.revision_eq k doc hdoc
    · rw [if_neg hk] at hdoc
      rw [List.getElem?_singleton] at hdoc
      by_cases hzero : k - versions.length = 0
      · rw [if_pos hzero] at hdoc
        rw [← Option.some.inj hdoc, hrevision, hlast]
        omega
      · rw [if_neg hzero] at hdoc
        cases hdoc
  · intro doc hdoc
    rw [List.head?_append] at hdoc
    cases versions with
    | nil => cases hbefore
    | cons first versions => exact h.initial doc hdoc
  · rw [List.map_append, List.isChain_append]
    refine ⟨h.allowed, List.IsChain.singleton _, ?_⟩
    intro status hlast status' hhead
    rw [List.getLast?_map, hbefore] at hlast
    obtain rfl := Option.some.inj hlast
    obtain rfl := Option.some.inj hhead
    exact hstatus

/-! ## Saves -/

section Saves
variable {platform : Platform} {db : DocumentStore} {request : Request} {copy : Copy} {saved : Document}

/-- A new document is the first of its name, and another follows the version in the database. -/
theorem Copy.save_cases (h : copy.save platform db request = .ok saved) :
    (copy.loaded = none ∧ db.versions saved.key = [] ∧ saved.revision = 1 ∧
      ((request.flags.gbosFixtureSeed = true ∧ saved.origin = "Fixture") ∨
        initialStatuses.lookup saved.doctype.workflow = some saved.businessStatus)) ∨
    ∃ n before, copy.loaded = some n ∧ saved.key = copy.document.key ∧
      db.current saved.key = some before ∧ copy.document.revision = before.revision ∧
      saved.revision = before.revision + 1 ∧ (before.businessStatus = saved.businessStatus ∨
        Allowed saved.doctype.workflow before.businessStatus saved.businessStatus) := by
  unfold Copy.save at h
  split at h
  next hloaded =>
    obtain ⟨checked, hchecked, h⟩ := Proc.bind_eq_ok.mp h
    obtain ⟨_, hfresh, h⟩ := Proc.bind_eq_ok.mp h
    obtain rfl := Except.ok.inj h
    obtain ⟨-, -, hrevision, hstatus⟩ := Document.validate_insert hchecked
    exact .inl ⟨hloaded, not_not.mp (Proc.rejectIf_eq_ok.mp hfresh), hrevision, hstatus⟩
  next n hloaded =>
    split at h
    next => cases h
    next before hbefore =>
      obtain ⟨hdoctype, hname, hexpected, hrevision, hstatus⟩ := Document.validate_update h
      have hkey : saved.key = copy.document.key := by rw [Document.key, hdoctype, hname, Document.key]
      refine .inr ⟨n, before, hloaded, hkey, ?_, hexpected, hrevision, hstatus⟩
      rw [hkey, hbefore]

theorem DocumentStore.versions_commit_self :
    (db.commit saved).versions saved.key = db.versions saved.key ++ [saved] :=
  Function.update_self ..

theorem DocumentStore.versions_commit_ne {key : WorkflowDoctype × String} (h : key ≠ saved.key) :
    (db.commit saved).versions key = db.versions key :=
  Function.update_of_ne h ..

/-- A save adds a version to a history that is linear, and it was made from the last one. -/
theorem Copy.save_numbered (h : copy.save platform db request = .ok saved)
    (hseed : request.flags.gbosFixtureSeed = false)
    (hnumbered : Numbered saved.key (db.versions saved.key))
    (hloaded : ∀ n : ℕ, copy.loaded = some n → copy.document.revision = n) :
    Numbered saved.key (db.versions saved.key ++ [saved]) ∧
      copy.loaded = if db.versions saved.key = [] then none
        else some (db.versions saved.key).length := by
  rcases Copy.save_cases h with ⟨hnew, hempty, hrevision, hstatus⟩ |
    ⟨n, before, hn, -, hbefore, hexpected, hrevision, hstatus⟩
  · rw [hempty, if_pos rfl]
    rcases hstatus with ⟨hfixture, -⟩ | hstatus
    · rw [hseed] at hfixture
      cases hfixture
    · exact ⟨Numbered.singleton hrevision hstatus, hnew⟩
  · have hne : db.versions saved.key ≠ [] := by
      intro hempty
      rw [DocumentStore.current, hempty] at hbefore
      cases hbefore
    have hlength := hnumbered.revision_getLast hbefore
    have hcurrent := hloaded n hn
    refine ⟨hnumbered.append hbefore rfl hrevision hstatus, ?_⟩
    rw [if_neg hne, hn]
    congr 1
    omega

end Saves

/-! ## Runs -/

section Runs
variable {ι : Type} [DecidableEq ι] {platform : Platform} {s : Sessions ι}

/-- The histories are linear, and a copy carries the number of the version it was loaded as. -/
structure Sound (s : Sessions ι) : Prop where
  numbered : ∀ key, Numbered key (s.db.versions key)
  loaded : ∀ session copy, s.copies session = some copy → ∀ n : ℕ, copy.loaded = some n →
    copy.document.revision = n

/-- A session that gets another copy leaves the other sessions alone. -/
theorem Sound.update (h : Sound s) {session : ι} {copy : Copy}
    (hcopy : ∀ n : ℕ, copy.loaded = some n → copy.document.revision = n) {db : DocumentStore}
    (hdb : ∀ key, Numbered key (db.versions key)) :
    Sound (⟨db, Function.update s.copies session (some copy)⟩ : Sessions ι) := by
  refine ⟨hdb, ?_⟩
  intro other held hheld
  dsimp only at hheld
  by_cases hother : other = session
  · subst hother
    rw [Function.update_self] at hheld
    obtain rfl := Option.some.inj hheld
    exact hcopy
  · rw [Function.update_of_ne hother] at hheld
    exact h.loaded other held hheld

omit [DecidableEq ι] in
theorem Sound.commit (h : Sound s) {saved : Document}
    (hsaved : Numbered saved.key (s.db.versions saved.key ++ [saved]))
    (key : WorkflowDoctype × String) : Numbered key ((s.db.commit saved).versions key) := by
  by_cases hkey : key = saved.key
  · subst hkey
    rw [DocumentStore.versions_commit_self]
    exact hsaved
  · rw [DocumentStore.versions_commit_ne hkey]
    exact h.numbered key

/-- Every action keeps the histories linear. -/
theorem sound_step (action : Action ι) (h : Sound s) (hseed : action.seeds = false) :
    Sound (step platform s action).2 := by
  cases action with
  | create session document =>
      refine h.update ?_ h.numbered
      intro n hn
      cases hn
  | load session key version =>
      unfold step
      dsimp only
      split
      next => exact h
      next document hdocument =>
        refine h.update ?_ h.numbered
        intro n hn
        rw [(h.numbered key).revision_eq version document hdocument, ← Option.some.inj hn]
        rfl
  | edit session document =>
      unfold step
      dsimp only
      split
      next => exact h
      next copy hcopy =>
        refine h.update ?_ h.numbered
        exact h.loaded session copy hcopy
  | save session request committed =>
      unfold step
      dsimp only
      split
      next => exact h
      next copy hcopy =>
        split
        next => exact h
        next saved hsaved =>
          have hnumbered := (Copy.save_numbered hsaved hseed (h.numbered _)
            (h.loaded session copy hcopy)).1
          cases committed with
          | false => exact h
          | true =>
              refine h.update ?_ (h.commit hnumbered)
              intro n hn
              have hlast := hnumbered.revision_eq (s.db.versions saved.key).length saved
                (by simp)
              rw [hlast, ← Option.some.inj hn]
              rfl

/-- A save that is committed adds one version, which was made from the current one. -/
theorem save_committed (h : Sound s) {session : ι} {request : Request} {committed : Bool}
    (hseed : request.flags.gbosFixtureSeed = false)
    (hok : (step platform s (.save session request committed)).1 = .ok ()) :
    ∃ copy saved, s.copies session = some copy ∧
      copy.loaded = (if s.db.versions saved.key = [] then none
        else some (s.db.versions saved.key).length) ∧
      (step platform s (.save session request committed)).2.db.versions =
        Function.update s.db.versions saved.key (s.db.versions saved.key ++ [saved]) := by
  unfold step at hok ⊢
  dsimp only at hok ⊢
  split at hok
  next => cases hok
  next copy hcopy =>
    split at hok
    next => cases hok
    next saved hsaved =>
      cases committed with
      | false => cases hok
      | true =>
          have hcurrent := (Copy.save_numbered hsaved hseed (h.numbered _)
            (h.loaded session copy hcopy)).2
          exact ⟨copy, saved, hcopy, hcurrent, rfl⟩

end Runs

theorem sound_noDocuments {ι : Type} : Sound (noDocuments : Sessions ι) := by
  refine ⟨fun key => Numbered.nil, ?_⟩
  intro session copy hcopy
  cases hcopy

/-- In every run of sessions that load no fixture, the versions of each document are numbered from
1, its statuses start at the initial one and follow the workflow, and a save is committed only if
the session had loaded the current version. -/
theorem history_linear {ι : Type} [DecidableEq ι] (platform : Platform) (actions : List (Action ι))
    (hseed : ∀ action ∈ actions, action.seeds = false) :
    (∀ key, Linear key (((sessions platform).final noDocuments actions).db.versions key)) ∧
    ∀ (session : ι) (request : Request) (committed : Bool),
      request.flags.gbosFixtureSeed = false →
      ((sessions platform).step ((sessions platform).final noDocuments actions)
        (.save session request committed)).1 = .ok () →
      ∃ copy saved,
        ((sessions platform).final noDocuments actions).copies session = some copy ∧
        copy.loaded =
          (if ((sessions platform).final noDocuments actions).db.versions saved.key = [] then none
          else some
            (((sessions platform).final noDocuments actions).db.versions saved.key).length) ∧
        ((sessions platform).step ((sessions platform).final noDocuments actions)
            (.save session request committed)).2.db.versions =
          Function.update ((sessions platform).final noDocuments actions).db.versions saved.key
            (((sessions platform).final noDocuments actions).db.versions saved.key ++ [saved]) := by
  have hsound : Sound ((sessions platform).final noDocuments actions) := by
    refine Machine.Guarded.invariant (G := fun _ action => action.seeds = false) ?_
      (Machine.Guarded.of_forall (fun action hmem _ => hseed action hmem) _) sound_noDocuments
    intro s action hs haction
    exact sound_step action hs haction
  refine ⟨fun key => (hsound.numbered key).linear, ?_⟩
  intro session request committed hrequest hok
  exact save_committed hsound hrequest hok

/-! ## Two sessions -/

theorem midnight_lt : 0 < 3652059 * 86400000000 := by decide

theorem blind_text : ∀ d : Naive, (fun _ : List Char => true) d.text = true := fun _ => rfl

/-- A platform that parses nothing; no check of a work item asks it. -/
def blind : Platform := ⟨fun _ => true, blind_text, fun _ => none, fun _ => ""⟩

/-- A work item without any field of its own. -/
def workItem (businessStatus : String) : Document :=
  ⟨.workItem, "", ⟨0, midnight_lt⟩, "Manual", businessStatus, "Pending", 0, fun _ => .null⟩

def itemKey : WorkflowDoctype × String := (.workItem, makeGbosName "WRK" 0)

/-- Two sessions hold a work item, and the first one moves it on. -/
def rivals : List (Action Bool) :=
  [.create false (workItem "Open"), .save false { now := ⟨0, midnight_lt⟩ } true,
    .load true itemKey 0, .edit false (workItem "Blocked"),
    .save false { now := ⟨0, midnight_lt⟩ } true]

/-- The history of the item is linear, and the second session can no longer save it. -/
theorem rivals_linear :
    statusSequence (((sessions blind).final noDocuments rivals).db.versions itemKey) =
        ["Open", "Blocked"] ∧
      Linear itemKey (((sessions blind).final noDocuments rivals).db.versions itemKey) ∧
      ((sessions blind).step ((sessions blind).final noDocuments rivals)
        (.save true { now := ⟨0, midnight_lt⟩ } true)).1 ≠ .ok () := by
  have hlinear := history_linear blind rivals (by decide)
  refine ⟨by decide +kernel, hlinear.1 itemKey, ?_⟩
  decide +kernel

end EsanGbos.App
