import EsanGbos.Lib.Prog
import EsanGbos.Observer.Lifecycle

/-!
# Interrupted writes

An object is created under its final name and then written byte by byte. Other requests see it
meanwhile, and for ever if the writer stops. A request that stops is one that makes no further
call.

## Main definitions

* `Request.steps` — the calls of a request to the file system, one after the other.
* `machine` — the interleavings of requests.
* `Survives` — stores succeed, and what was stored is read.

## Main results

* `put_survives` — this holds in every run in which no unfinished object is read.
-/
namespace EsanGbos.Observer.Interruption
open Lib EvidenceStore

inductive FileError where
  | evidence (error : EvidenceError)
  | fileExistsError
  | osError
deriving DecidableEq, Repr

inductive Request where
  | put (scope : TenantScope) (content : List UInt8) (mediaType : String)
  | read (scope : TenantScope) (ref : String)
deriving DecidableEq

inductive Reply where
  | stored (object : StoredObject)
  | bytes (content : List UInt8)
deriving DecidableEq

/-- A request that has ended, with the number of those that had ended when it began. -/
structure Ended where
  request : Request
  result : Except FileError Reply
  begunAt : ℕ

/-! ## The file system -/

/-- The calls of a request. The first and the last one are those of its caller, and an object is
opened or written with what is still to be written to it. -/
inductive FileCall where
  | begin (request : Request)
  | mkdir (path : Path)
  | isThere (path : Path)
  | readBytes (path : Path)
  | openExclusive (path : Path) (content : List UInt8)
  | write (path : Path) (byte : UInt8) (rest : List UInt8)
  | chmod (path : Path)
  | finish (ended : Ended)

abbrev FileCall.Answer : FileCall → Type
  | .begin _ => ℕ
  | .isThere _ => Bool
  | .readBytes _ => List UInt8
  | .mkdir _ | .openExclusive _ _ | .write _ _ _ | .chmod _ | .finish _ => Unit

abbrev Steps := Prog FileCall FileCall.Answer FileError

/-- The files, who is writing which of them, and the requests that have ended. -/
structure Files (ι : Type) where
  objects : Objects
  writer : Path → Option ι
  log : List Ended

section Execution
variable {ι : Type}

/-- Who writes an object that still lacks `rest`. -/
def writerOf (i : ι) (rest : List UInt8) : Option ι := if rest = [] then none else some i

/-- What a call does if there is no I/O error. -/
def perform (i : ι) (s : Files ι) :
    (c : FileCall) → Except FileError c.Answer × Files ι
  | .begin _ => (.ok s.log.length, s)
  | .mkdir _ => (.ok (), s)
  | .isThere path => (.ok (s.objects path).isSome, s)
  | .readBytes path =>
      match s.objects path with
      | some content => (.ok content, s)
      | none => (.error (.evidence (.fileNotFoundError "No such file or directory")), s)
  | .openExclusive path content =>
      match s.objects path with
      | some _ => (.error .fileExistsError, s)
      | none => (.ok (), { s with
          objects := Function.update s.objects path (some [])
          writer := Function.update s.writer path (writerOf i content) })
  | .write path byte rest => (.ok (), { s with
      objects := Function.update s.objects path ((s.objects path).map (· ++ [byte]))
      writer := Function.update s.writer path (writerOf i rest) })
  | .chmod _ => (.ok (), s)
  | .finish ended => (.ok (), { s with log := s.log ++ [ended] })

/-- The effect of a call, which the environment may let fail. -/
def exec : Exec FileCall FileCall.Answer FileError ι Bool (Files ι)
  | i, _, .begin request, s => perform i s (.begin request)
  | i, _, .finish ended, s => perform i s (.finish ended)
  | i, fails, c, s => if fails then (.error .osError, s) else perform i s c

end Execution

/-! ## Requests -/

section Requests
variable (sha256 : List UInt8 → String)

/-- The error of a check as one of the store. -/
def lift {α : Type} : Except EvidenceError α → Steps α
  | .ok a => .done (.ok a)
  | .error e => .done (.error (.evidence e))

/-- `_verify`. -/
def verifyAt (path : Path) : Steps (List UInt8) := do
  let content ← (Prog.invoke (FileCall.readBytes path) : Steps (List UInt8))
  lift (verify sha256 content path.digest)

/-- `handle.write(content)`. -/
def writeAll (path : Path) : List UInt8 → Steps Unit
  | [] => .done (.ok ())
  | byte :: rest => do
      (Prog.invoke (FileCall.write path byte rest) : Steps Unit)
      writeAll path rest

/-- The body of the `try` of `put`. -/
def create (path : Path) (content : List UInt8) : Steps Unit := do
  (Prog.invoke (FileCall.openExclusive path content) : Steps Unit)
  writeAll path content
  (Prog.invoke (FileCall.chmod path) : Steps Unit)

/-- The receipt of an object. -/
def receipt (scope : TenantScope) (content : List UInt8) (mediaType : String) : StoredObject :=
  ⟨objectRef sha256 scope (sha256 content), sha256 content, content.length, mediaType⟩

/-- `put`. The directories are made where they are missing, and there are no links. -/
def put (scope : TenantScope) (content : List UInt8) (mediaType : String) : Steps Reply := do
  if mediaType = "" then .done (.error (.evidence (.valueError "media_type is required")))
  else do
    let place := path sha256 scope (sha256 content)
    (Prog.invoke (FileCall.mkdir place) : Steps Unit)
    let exists_ ← (Prog.invoke (FileCall.isThere place) : Steps Bool)
    if exists_ then do
      let _ ← verifyAt sha256 place
      return .stored (receipt sha256 scope content mediaType)
    else do
      match ← (create place content).attempt with
      | .ok _ => return .stored (receipt sha256 scope content mediaType)
      | .error .fileExistsError => do
          let _ ← verifyAt sha256 place
          return .stored (receipt sha256 scope content mediaType)
      | .error e => .done (.error e)

/-- `read`. -/
def read (scope : TenantScope) (ref : String) : Steps Reply := do
  let digest ← lift (parseRef sha256 scope ref)
  let place := path sha256 scope digest
  let isFile ← (Prog.invoke (FileCall.isThere place) : Steps Bool)
  if isFile then do
    let content ← verifyAt sha256 place
    return .bytes content
  else .done (.error (.evidence (.fileNotFoundError "evidence object not found")))

def Request.body : Request → Steps Reply
  | .put scope content mediaType => Interruption.put sha256 scope content mediaType
  | .read scope ref => Interruption.read sha256 scope ref

/-- A request, from its beginning to its end. -/
def Request.steps (request : Request) : Steps Unit := do
  let begunAt ← (Prog.invoke (FileCall.begin request) : Steps ℕ)
  let result ← (request.body sha256).attempt
  (Prog.invoke (FileCall.finish ⟨request, result, begunAt⟩) : Steps Unit)

/-- The interleavings of requests; nothing else touches the files. -/
abbrev machine {ι : Type} [DecidableEq ι] :=
  Pool.machine (ω := Empty) (ι := ι) (Request.steps sha256) exec fun e _ => e.elim

/-- No object, and no request. -/
def initial {ι : Type} : Pool FileCall FileCall.Answer FileError Unit ι (Files ι) where
  shared := ⟨fun _ => none, fun _ => none, []⟩
  runs _ := none

/-- The object was stored when the request began. -/
def StoredBefore (log : List Ended) (e : Ended) (scope : TenantScope) (content : List UInt8) :
    Prop :=
  ∃ e' ∈ log.take e.begunAt, ∃ mediaType reply,
    e'.request = .put scope content mediaType ∧ e'.result = .ok reply

/-- Every store that has ended without an I/O error has succeeded, and every read has given bytes
of the digest asked for, and those that were stored. -/
structure Survives (log : List Ended) : Prop where
  put : ∀ e ∈ log, ∀ scope content mediaType, e.request = .put scope content mediaType →
    mediaType ≠ "" → e.result = .ok (.stored (receipt sha256 scope content mediaType)) ∨
      e.result = .error .osError
  read : ∀ e ∈ log, ∀ scope ref, e.request = .read scope ref → ∀ content,
    e.result = .ok (.bytes content) → parseRef sha256 scope ref = .ok (sha256 content)
  stored : ∀ e ∈ log, ∀ scope ref, e.request = .read scope ref → ∀ content,
    StoredBefore log e scope content → ref = objectRef sha256 scope (sha256 content) →
      e.result = .ok (.bytes content) ∨ e.result = .error .osError

end Requests

/-! ## The invariant -/

section Invariant
variable {ι : Type} {sha256 : List UInt8 → String} {K : Set (List UInt8)} {s t : Files ι} {i : ι}

/-- The object is there, and all of it. -/
def HasObject (s : Files ι) (place : Path) (content : List UInt8) : Prop :=
  s.objects place = some content ∧ s.writer place = none

/-- What a request may rely on between its calls. -/
structure Relies (i : ι) (s t : Files ι) : Prop where
  own : ∀ place, s.writer place = some i → t.objects place = s.objects place ∧
    t.writer place = some i
  complete : ∀ place content, HasObject s place content → HasObject t place content
  present : ∀ place, s.objects place ≠ none → t.objects place ≠ none
  log : s.log <+: t.log

/-- The objects that are not being written have their digests, and what has ended has ended well;
`K` are the contents that are stored. -/
structure Sound (sha256 : List UInt8 → String) (K : Set (List UInt8)) (s : Files ι) : Prop where
  intact : ∀ place content, HasObject s place content →
    sha256 content = place.digest ∧ content ∈ K
  written : ∀ place, s.writer place ≠ none → s.objects place ≠ none
  stored : ∀ e ∈ s.log, ∀ scope content mediaType reply,
    e.request = .put scope content mediaType → e.result = .ok reply →
      HasObject s (path sha256 scope (sha256 content)) content
  begun : ∀ e ∈ s.log, e.begunAt ≤ s.log.length
  survives : Survives sha256 s.log

theorem Relies.refl (i : ι) (s : Files ι) : Relies i s s :=
  ⟨fun _ h => ⟨rfl, h⟩, fun _ _ h => h, fun _ h => h, List.prefix_rfl⟩

theorem Relies.trans {u : Files ι} (h : Relies i s t) (h' : Relies i t u) : Relies i s u := by
  refine ⟨fun place hplace => ?_, fun place content hplace => ?_, fun place hplace => ?_,
    h.log.trans h'.log⟩
  · obtain ⟨hobject, hwriter⟩ := h.own place hplace
    obtain ⟨hobject', hwriter'⟩ := h'.own place hwriter
    exact ⟨hobject'.trans hobject, hwriter'⟩
  · exact h'.complete place content (h.complete place content hplace)
  · exact h'.present place (h.present place hplace)

/-- What the environment does not do: it lets nobody read an object that is being written, and
stores the contents `K`. -/
def Served (K : Set (List UInt8)) (s : Files ι) : FileCall → Prop
  | .begin (.put _ content _) => content ∈ K
  | .readBytes place => s.writer place = none
  | _ => True

variable (sha256 K) in
def contract : Contract FileCall ι Bool (Files ι) where
  rely := Relies
  guar i s t := Sound sha256 K t ∧ s.log <+: t.log ∧ ∀ j, j ≠ i → Relies j s t
  allowed _ _ c s := Sound sha256 K s ∧ Served K s c
  rely_refl := Relies.refl
  rely_trans _ _ _ _ := Relies.trans

variable (sha256 K) in
abbrev Keeps {α : Type} (i : ι) (Q : Except FileError α → Files ι → Prop) (p : Steps α)
    (s : Files ι) : Prop :=
  p.Holds exec (contract sha256 K) i Q s

theorem guar_refl (h : Sound sha256 K s) (i : ι) : (contract sha256 K).guar i s s :=
  ⟨h, List.prefix_rfl, fun j _ => Relies.refl j s⟩

/-- The files after a byte is written, or an object is created. -/
def updated (s : Files ι) (i : ι) (place : Path) (done rest : List UInt8) : Files ι :=
  { s with
    objects := Function.update s.objects place (some done)
    writer := Function.update s.writer place (writerOf i rest) }

theorem hasObject_updated {place place' : Path} {done rest content : List UInt8} :
    HasObject (updated s i place done rest) place' content ↔
      (place' = place ∧ rest = [] ∧ done = content) ∨
        (place' ≠ place ∧ HasObject s place' content) := by
  by_cases hplace : place' = place
  · subst hplace
    by_cases hrest : rest = []
    · simp [HasObject, updated, writerOf, hrest]
    · simp [HasObject, updated, writerOf, hrest]
  · simp [HasObject, updated, hplace]

/-- Only its writer changes an object that is being written. -/
theorem guar_updated (h : Sound sha256 K s) {place : Path} {done rest : List UInt8}
    (hfree : s.objects place = none ∨ s.writer place = some i)
    (hdigest : sha256 (done ++ rest) = place.digest) (hK : done ++ rest ∈ K) :
    (contract sha256 K).guar i s (updated s i place done rest) := by
  -- nothing complete was there
  have hnot : ∀ content, ¬HasObject s place content := by
    rintro content ⟨hobject, hwriter⟩
    rcases hfree with hnone | hown
    · rw [hnone] at hobject
      cases hobject
    · rw [hwriter] at hown
      cases hown
  have hkeep : ∀ place' content, HasObject s place' content →
      HasObject (updated s i place done rest) place' content := by
    intro place' content hobject
    refine hasObject_updated.mpr (.inr ⟨?_, hobject⟩)
    rintro rfl
    exact hnot content hobject
  refine ⟨⟨?_, ?_, ?_, h.begun, h.survives⟩, List.prefix_rfl,
    fun j hj => ⟨?_, hkeep, ?_, List.prefix_rfl⟩⟩
  · intro place' content hobject
    rcases hasObject_updated.mp hobject with ⟨rfl, rfl, rfl⟩ | ⟨-, hold⟩
    · rw [List.append_nil] at hdigest hK
      exact ⟨hdigest, hK⟩
    · exact h.intact place' content hold
  · intro place' hwriter
    by_cases hplace : place' = place
    · subst hplace
      simp [updated]
    · simp only [updated, Function.update_of_ne hplace] at hwriter ⊢
      exact h.written place' hwriter
  · intro e he scope content mediaType reply hrequest hresult
    exact hkeep _ _ (h.stored e he scope content mediaType reply hrequest hresult)
  · intro place' hwriter
    have hplace : place' ≠ place := by
      rintro rfl
      rcases hfree with hnone | hown
      · exact h.written place' (by rw [hwriter]; exact Option.some_ne_none _) hnone
      · rw [hwriter] at hown
        exact hj (Option.some.inj hown)
    simp only [updated, Function.update_of_ne hplace]
    exact ⟨trivial, hwriter⟩
  · intro place' hobject
    by_cases hplace : place' = place
    · subst hplace
      simp [updated]
    · simp only [updated, Function.update_of_ne hplace]
      exact hobject

end Invariant

/-! ## The calls of a request -/

section Calls
variable {ι : Type} {sha256 : List UInt8 → String} {K : Set (List UInt8)} {s : Files ι} {i : ι}
  {place : Path} {content : List UInt8}

/-- A call that leaves the files alone. -/
theorem keeps_observe {c : FileCall} {Q : Except FileError c.Answer → Files ι → Prop}
    (hsame : ∀ fails t, (exec i fails c t).2 = t)
    (hQ : ∀ fails t, Relies i s t → Sound sha256 K t → Served K t c →
      Q (exec i fails c t).1 t) : Keeps sha256 K i Q (Prog.invoke c) s := by
  refine Prog.Holds.invoke fun t ht fails hallowed => ?_
  rw [hsame fails t]
  exact ⟨guar_refl hallowed.1 i, hQ fails t ht hallowed.1 hallowed.2⟩

/-- A question whether an object is there. -/
theorem keeps_isThere (place : Path) (s : Files ι) :
    Keeps sha256 K i (fun r t => Relies i s t ∧ (r = .ok (t.objects place).isSome ∨
      r = .error .osError)) (Prog.invoke (FileCall.isThere place)) s := by
  refine keeps_observe (fun fails t => ?_) (fun fails t ht _ _ => ⟨ht, ?_⟩)
  · cases fails <;> rfl
  · cases fails
    · exact .inl rfl
    · exact .inr rfl

/-- A read that is served gives the object. -/
theorem keeps_verifyAt (hpresent : s.objects place ≠ none) :
    Keeps sha256 K i (fun r t => Relies i s t ∧ ((∃ content, r = .ok content ∧
      HasObject t place content ∧ sha256 content = place.digest ∧ content ∈ K) ∨
        r = .error .osError)) (verifyAt sha256 place) s := by
  have hread : Keeps sha256 K i
      (fun r t => Relies i s t ∧ ((∃ content, r = .ok content ∧
        HasObject t place content ∧ sha256 content = place.digest ∧ content ∈ K) ∨
          r = .error .osError)) (Prog.invoke (FileCall.readBytes place)) s := by
    refine keeps_observe (fun fails t => ?_) (fun fails t ht hsound hserved => ⟨ht, ?_⟩)
    · cases fails
      · simp only [exec, perform]
        cases t.objects place <;> rfl
      · rfl
    · cases fails
      · obtain ⟨content, hcontent⟩ := Option.ne_none_iff_exists'.mp (ht.present place hpresent)
        have hobject : HasObject t place content := ⟨hcontent, hserved⟩
        refine .inl ⟨content, ?_, hobject, hsound.intact place content hobject⟩
        simp only [exec, perform, hcontent]
        rfl
      · exact .inr rfl
  refine hread.bind (fun content t hok => ?_) fun e t herror => ?_
  · obtain ⟨ht, ⟨content', heq, hobject, hdigest, hK⟩ | hnot⟩ := hok
    · obtain rfl := Except.ok.inj heq
      rw [verify, if_pos hdigest]
      exact ⟨ht, .inl ⟨content, rfl, hobject, hdigest, hK⟩⟩
    · cases hnot
  · obtain ⟨ht, ⟨_, heq, -⟩ | heq⟩ := herror
    · cases heq
    · exact ⟨ht, .inr heq⟩

/-- The writer of an object writes all of it, or meets an I/O error. -/
theorem keeps_writeAll {done rest : List UInt8} (hobject : s.objects place = some done)
    (hwriter : s.writer place = writerOf i rest)
    (hdigest : sha256 (done ++ rest) = place.digest) (hK : done ++ rest ∈ K) :
    Keeps sha256 K i (fun r t => (r = .ok () ∧ HasObject t place (done ++ rest)) ∨
      r = .error .osError) (writeAll place rest) s := by
  induction rest generalizing s done with
  | nil =>
      refine .inl ⟨rfl, ?_, hwriter⟩
      rw [hobject, List.append_nil]
  | cons byte rest ih =>
      have happend : done ++ byte :: rest = (done ++ [byte]) ++ rest := by simp
      have hwrite : Keeps sha256 K i
          (fun r t => (r = .ok () ∧ t.objects place = some (done ++ [byte]) ∧
            t.writer place = writerOf i rest) ∨ r = .error .osError)
          (Prog.invoke (FileCall.write place byte rest)) s := by
        refine Prog.Holds.invoke fun t ht fails hallowed => ?_
        cases fails
        · obtain ⟨hsame, hown⟩ := ht.own place (by rw [hwriter, writerOf, if_neg (List.cons_ne_nil _ _)])
          have hnext : (exec i false (.write place byte rest) t).2 =
              updated t i place (done ++ [byte]) rest := by
            simp only [exec, perform, updated, Bool.false_eq_true, if_false, hsame, hobject,
              Option.map_some]
          rw [hnext]
          refine ⟨guar_updated hallowed.1 (.inr hown) (by rw [← happend, hdigest])
            (by rw [← happend]; exact hK), .inl ⟨rfl, ?_, ?_⟩⟩
          · simp [updated]
          · simp [updated]
        · exact ⟨guar_refl hallowed.1 i, .inr rfl⟩
      refine hwrite.bind (fun _ t hok => ?_) fun e t herror => ?_
      · rcases hok with ⟨-, hobject', hwriter'⟩ | hnot
        · rw [happend]
          exact ih hobject' hwriter' (by rw [← happend, hdigest]) (by rw [← happend]; exact hK)
        · cases hnot
      · rcases herror with ⟨heq, -⟩ | heq
        · cases heq
        · exact .inr heq

/-- An object is created and written, or is there already, or there is an I/O error. -/
theorem keeps_create (hdigest : sha256 content = place.digest) (hK : content ∈ K) :
    Keeps sha256 K i (fun r t => (r = .ok () ∧ HasObject t place content) ∨
      (r = .error .fileExistsError ∧ t.objects place ≠ none) ∨ r = .error .osError)
      (create place content) s := by
  have hopen : Keeps sha256 K i
      (fun r t => (r = .ok () ∧ t.objects place = some [] ∧ t.writer place = writerOf i content) ∨
        (r = .error .fileExistsError ∧ t.objects place ≠ none) ∨ r = .error .osError)
      (Prog.invoke (FileCall.openExclusive place content)) s := by
    refine Prog.Holds.invoke fun t ht fails hallowed => ?_
    cases fails
    · cases hobject : t.objects place with
      | some existing =>
          have hexec : exec i false (.openExclusive place content) t =
              (.error .fileExistsError, t) := by
            simp only [exec, perform, Bool.false_eq_true, if_false, hobject]
          rw [hexec]
          refine ⟨guar_refl hallowed.1 i, .inr (.inl ⟨rfl, ?_⟩)⟩
          rw [hobject]
          exact Option.some_ne_none _
      | none =>
          have hexec : exec i false (.openExclusive place content) t =
              (.ok (), updated t i place [] content) := by
            simp only [exec, perform, Bool.false_eq_true, if_false, hobject, updated]
          rw [hexec]
          refine ⟨guar_updated hallowed.1 (.inl hobject) hdigest hK, .inl ⟨rfl, ?_, ?_⟩⟩
          · simp [updated]
          · simp [updated]
    · exact ⟨guar_refl hallowed.1 i, .inr (.inr rfl)⟩
  refine hopen.bind (fun _ t hok => ?_) fun e t herror => ?_
  · rcases hok with ⟨-, hobject, hwriter⟩ | ⟨hnot, -⟩ | hnot
    · refine (keeps_writeAll hobject hwriter hdigest hK).bind (fun _ u hok => ?_) fun e u herror => ?_
      · rcases hok with ⟨-, hobject⟩ | hnot
        · refine keeps_observe (fun fails v => ?_) fun fails v hv hsound hserved => ?_
          · cases fails <;> rfl
          · cases fails
            · exact .inl ⟨rfl, hv.complete place content hobject⟩
            · exact .inr (.inr rfl)
        · cases hnot
      · rcases herror with ⟨heq, -⟩ | heq
        · cases heq
        · exact .inr (.inr heq)
    · cases hnot
    · cases hnot
  · rcases herror with ⟨heq, -⟩ | herror | heq
    · cases heq
    · exact .inr (.inl herror)
    · exact .inr (.inr heq)

/-- What a request that began in `s` has come to. -/
def EndsWell (sha256 : List UInt8 → String) (s : Files ι) (r : Except FileError Reply)
    (t : Files ι) : Request → Prop
  | .put scope content mediaType =>
      (mediaType ≠ "" → r = .ok (.stored (receipt sha256 scope content mediaType)) ∨
        r = .error .osError) ∧
      ∀ reply, r = .ok reply → HasObject t (path sha256 scope (sha256 content)) content
  | .read scope ref => ∀ content,
      (r = .ok (.bytes content) → parseRef sha256 scope ref = .ok (sha256 content)) ∧
      (HasObject s (path sha256 scope (sha256 content)) content →
        ref = objectRef sha256 scope (sha256 content) →
          r = .ok (.bytes content) ∨ r = .error .osError)

theorem keeps_body_put (hinj : K.InjOn sha256) {scope : TenantScope} {mediaType : String}
    (hK : content ∈ K) (s₀ : Files ι) :
    Keeps sha256 K i (fun r t => EndsWell sha256 s₀ r t (.put scope content mediaType))
      (put sha256 scope content mediaType) s := by
  unfold put
  by_cases hmedia : mediaType = ""
  · rw [if_pos hmedia]
    refine ⟨fun h => absurd hmedia h, ?_⟩
    intro reply hreply
    cases hreply
  rw [if_neg hmedia]
  have hio : ∀ t, EndsWell sha256 s₀ (.error .osError) t (.put scope content mediaType) := by
    intro t
    refine ⟨fun _ => .inr rfl, ?_⟩
    intro reply hreply
    cases hreply
  have hdone : ∀ t : Files ι, HasObject t (path sha256 scope (sha256 content)) content →
      EndsWell sha256 s₀ (.ok (.stored (receipt sha256 scope content mediaType))) t
        (.put scope content mediaType) :=
    fun t hobject => ⟨fun _ => .inl rfl, fun _ _ => hobject⟩
  -- an object that is there is that of the content
  have hthere : ∀ t : Files ι, t.objects (path sha256 scope (sha256 content)) ≠ none →
      Keeps sha256 K i (fun r u => EndsWell sha256 s₀ r u (.put scope content mediaType))
        (do
          let _ ← verifyAt sha256 (path sha256 scope (sha256 content))
          return .stored (receipt sha256 scope content mediaType)) t := by
    intro t hpresent
    refine (keeps_verifyAt hpresent).bind (fun existing u hok => ?_) fun e u herror => ?_
    · obtain ⟨-, ⟨existing', heq, hobject, hdigest, hmem⟩ | hnot⟩ := hok
      · obtain rfl := Except.ok.inj heq
        obtain rfl : existing = content := hinj hmem hK hdigest
        exact hdone u hobject
      · cases hnot
    · obtain ⟨-, ⟨_, heq, -⟩ | heq⟩ := herror
      · cases heq
      · obtain rfl := Except.error.inj heq
        exact hio u
  have hmkdir : Keeps sha256 K i (fun r _ => r = .ok () ∨ r = .error .osError)
      (Prog.invoke (FileCall.mkdir (path sha256 scope (sha256 content)))) s := by
    refine keeps_observe (fun fails t => ?_) (fun fails t _ _ _ => ?_)
    · cases fails <;> rfl
    · cases fails
      · exact .inl rfl
      · exact .inr rfl
  refine hmkdir.bind (fun _ t _ => ?_) fun e t herror => ?_
  · refine (keeps_isThere _ t).bind (fun exists_ u hok => ?_) fun e u herror => ?_
    · obtain ⟨-, heq | hnot⟩ := hok
      · obtain rfl := Except.ok.inj heq
        cases hobject : u.objects (path sha256 scope (sha256 content)) with
        | some existing =>
            simp only [Option.isSome_some, if_true]
            exact hthere u (by rw [hobject]; exact Option.some_ne_none _)
        | none =>
            simp only [Option.isSome_none, Bool.false_eq_true, if_false]
            refine (keeps_create rfl hK).attempt_bind fun r v hr => ?_
            rcases hr with ⟨rfl, hobject⟩ | ⟨rfl, hpresent⟩ | rfl
            · exact hdone v hobject
            · exact hthere v hpresent
            · exact hio v
      · cases hnot
    · obtain ⟨-, heq | heq⟩ := herror
      · cases heq
      · obtain rfl := Except.error.inj heq
        exact hio u
  · rcases herror with heq | heq
    · cases heq
    · obtain rfl := Except.error.inj heq
      exact hio t

theorem keeps_body_read (hhex : HexDigests sha256) (hinj : K.InjOn sha256) {scope : TenantScope}
    {ref : String} (hs : Sound sha256 K s) :
    Keeps sha256 K i (fun r t => EndsWell sha256 s r t (.read scope ref))
      (read sha256 scope ref) s := by
  have hother : ∀ (e : FileError) (t : Files ι), (e = .osError ∨ ∀ content,
      HasObject s (path sha256 scope (sha256 content)) content →
        ref ≠ objectRef sha256 scope (sha256 content)) →
      EndsWell sha256 s (.error e) t (.read scope ref) := by
    intro e t he content
    refine ⟨fun h => ?_, fun hobject href => ?_⟩
    · cases h
    · rcases he with rfl | hnot
      · exact .inr rfl
      · exact absurd href (hnot content hobject)
  unfold read
  cases hparse : parseRef sha256 scope ref with
  | error e =>
      refine hother _ s (.inr fun content _ href => ?_)
      rw [(parseRef_eq_ok hhex).mpr ⟨href, hhex content⟩] at hparse
      cases hparse
  | ok digest =>
      obtain ⟨href, -⟩ := (parseRef_eq_ok hhex).mp hparse
      have hof : ∀ content, ref = objectRef sha256 scope (sha256 content) →
          digest = sha256 content := by
        intro content href'
        rw [(parseRef_eq_ok hhex).mpr ⟨href', hhex content⟩] at hparse
        exact (Except.ok.inj hparse).symm
      refine (keeps_isThere (path sha256 scope digest) s).bind (fun isFile t hok => ?_)
        fun e t herror => ?_
      · obtain ⟨ht, heq | hnot⟩ := hok
        · obtain rfl := Except.ok.inj heq
          cases hobject : t.objects (path sha256 scope digest) with
          | none =>
              simp only [Option.isSome_none, Bool.false_eq_true, if_false]
              refine hother _ t (.inr fun content hcontent href' => ?_)
              rw [← hof content href'] at hcontent
              rw [(ht.complete _ _ hcontent).1] at hobject
              cases hobject
          | some existing =>
              simp only [Option.isSome_some, if_true]
              refine (keeps_verifyAt (by rw [hobject]; exact Option.some_ne_none _)).bind
                (fun read u hok => ?_) fun e u herror => ?_
              · obtain ⟨hu, ⟨read', heq, hread, hdigest, hmem⟩ | hnot⟩ := hok
                · obtain rfl := Except.ok.inj heq
                  intro content
                  refine ⟨fun h => ?_, fun hcontent href' => .inl ?_⟩
                  · injection h with h
                    injection h with h
                    rw [← h, hparse]
                    exact congrArg Except.ok hdigest.symm
                  · have hsame : sha256 read = sha256 content := hdigest.trans (hof content href')
                    rw [hinj hmem (hs.intact _ _ hcontent).2 hsame]
                · cases hnot
              · obtain ⟨-, ⟨_, heq, -⟩ | heq⟩ := herror
                · cases heq
                · obtain rfl := Except.error.inj heq
                  exact hother _ s (.inl rfl)
        · cases hnot
      · obtain ⟨-, heq | heq⟩ := herror
        · cases heq
        · obtain rfl := Except.error.inj heq
          exact hother _ s (.inl rfl)

/-! ## Requests that end -/

/-- What holds of a request goes on to hold. -/
theorem EndsWell.relies {s₀ t : Files ι} {request : Request} {r : Except FileError Reply}
    (h : EndsWell sha256 s₀ r s request) (ht : Relies i s t) :
    EndsWell sha256 s₀ r t request := by
  cases request with
  | put scope content mediaType =>
      exact ⟨h.1, fun reply hreply => ht.complete _ _ (h.2 reply hreply)⟩
  | read scope ref => exact h

/-- Requests that began earlier count the same requests before them. -/
theorem storedBefore_append {log : List Ended} {e last : Ended} {scope : TenantScope}
    (hbegun : e.begunAt ≤ log.length) :
    StoredBefore (log ++ [last]) e scope content ↔ StoredBefore log e scope content := by
  rw [StoredBefore, StoredBefore, List.take_append_of_le_length hbegun]

/-- A request that has ended well is one more. -/
theorem Sound.finish {s₀ : Files ι} {request : Request} {r : Except FileError Reply}
    (hs₀ : Sound sha256 K s₀) (hs : Sound sha256 K s) (hlog : s₀.log <+: s.log)
    (h : EndsWell sha256 s₀ r s request) :
    Sound sha256 K { s with log := s.log ++ [⟨request, r, s₀.log.length⟩] } := by
  have hlength : s₀.log.length ≤ s.log.length := hlog.length_le
  have htake : List.take s₀.log.length (s.log ++ [⟨request, r, s₀.log.length⟩]) = s₀.log := by
    rw [List.take_append_of_le_length hlength]
    exact (List.prefix_iff_eq_take.mp hlog).symm
  refine ⟨hs.intact, hs.written, ?_, ?_, ?_, ?_, ?_⟩
  · intro e he scope content mediaType reply hrequest hresult
    rcases List.mem_append.mp he with hold | hnew
    · exact hs.stored e hold scope content mediaType reply hrequest hresult
    · obtain rfl := List.mem_singleton.mp hnew
      subst hrequest
      exact h.2 reply hresult
  · intro e he
    rw [List.length_append]
    rcases List.mem_append.mp he with hold | hnew
    · exact (hs.begun e hold).trans (Nat.le_add_right _ _)
    · obtain rfl := List.mem_singleton.mp hnew
      exact hlength.trans (Nat.le_add_right _ _)
  · intro e he scope content mediaType hrequest hmedia
    rcases List.mem_append.mp he with hold | hnew
    · exact hs.survives.put e hold scope content mediaType hrequest hmedia
    · obtain rfl := List.mem_singleton.mp hnew
      subst hrequest
      exact h.1 hmedia
  · intro e he scope ref hrequest content hresult
    rcases List.mem_append.mp he with hold | hnew
    · exact hs.survives.read e hold scope ref hrequest content hresult
    · obtain rfl := List.mem_singleton.mp hnew
      subst hrequest
      exact (h content).1 hresult
  · intro e he scope ref hrequest content hstored href
    rcases List.mem_append.mp he with hold | hnew
    · rw [storedBefore_append (hs.begun e hold)] at hstored
      exact hs.survives.stored e hold scope ref hrequest content hstored href
    · obtain rfl := List.mem_singleton.mp hnew
      subst hrequest
      obtain ⟨e', he', mediaType, reply, hput, hok⟩ := hstored
      rw [htake] at he'
      exact (h content).2 (hs₀.stored e' he' scope content mediaType reply hput hok) href

/-- A request keeps its side from its beginning to its end. -/
theorem keeps_steps (hhex : HexDigests sha256) (hinj : K.InjOn sha256) (request : Request)
    (s : Files ι) :
    Keeps sha256 K i (fun _ _ => True) (request.steps sha256) s := by
  have hbegin : Keeps sha256 K i (fun r t => r = .ok t.log.length ∧ Sound sha256 K t ∧
      Served K t (.begin request)) (Prog.invoke (FileCall.begin request)) s :=
    keeps_observe (fun _ _ => rfl) fun _ _ _ hsound hserved => ⟨rfl, hsound, hserved⟩
  refine hbegin.bind (fun begunAt s₀ hok => ?_) fun _ _ _ => trivial
  obtain ⟨heq, hsound, hserved⟩ := hok
  obtain rfl := Except.ok.inj heq
  have hbody : Keeps sha256 K i (fun r t => EndsWell sha256 s₀ r t request)
      (request.body sha256) s₀ := by
    cases request with
    | put scope content mediaType => exact keeps_body_put hinj hserved s₀
    | read scope ref => exact keeps_body_read hhex hinj hsound
  have hlogged := hbody.along (R := fun s t => s.log <+: t.log) (fun _ => List.prefix_rfl)
    (fun _ _ _ => List.IsPrefix.trans) (fun _ _ h => h.log) (fun _ _ h => h.2.1)
  refine hlogged.attempt_bind fun r t ht => ?_
  refine Prog.Holds.invoke fun u hu _ hallowed => ⟨⟨?_, ?_, fun j _ => ?_⟩, trivial⟩
  · exact hsound.finish hallowed.1 (ht.2.trans hu.log) (ht.1.relies hu)
  · exact List.prefix_append _ _
  · exact ⟨fun _ h => ⟨rfl, h⟩, fun _ _ h => h, fun _ h => h, List.prefix_append _ _⟩

end Calls

/-! ## Runs -/

section Runs
variable {ι : Type} [DecidableEq ι] {sha256 : List UInt8 → String} {K : Set (List UInt8)}

/-- A choice of the environment under which nobody reads an object that is being written. -/
def NoneUnfinished (K : Set (List UInt8))
    (s : Pool FileCall FileCall.Answer FileError Unit ι (Files ι)) :
    Event ι Request Bool Empty → Prop
  | .step i _ =>
      match s.runs i with
      | some (.call c _) => Served K s.shared c
      | _ => True
  | _ => True

instance [DecidablePred (· ∈ K)] (s : Files ι) (c : FileCall) : Decidable (Served K s c) :=
  match c with
  | .begin (.put _ content _) => inferInstanceAs (Decidable (content ∈ K))
  | .readBytes place => inferInstanceAs (Decidable (s.writer place = none))
  | .begin (.read _ _) | .mkdir _ | .isThere _ | .openExclusive _ _ | .write _ _ _ | .chmod _
  | .finish _ => inferInstanceAs (Decidable True)

instance [DecidablePred (· ∈ K)]
    (s : Pool FileCall FileCall.Answer FileError Unit ι (Files ι))
    (e : Event ι Request Bool Empty) : Decidable (NoneUnfinished K s e) :=
  match e with
  | .step i _ =>
      match h : s.runs i with
      | some (.call c _) => decidable_of_iff (Served K s.shared c) (by simp only [NoneUnfinished, h])
      | some (.done _) => isTrue (by simp only [NoneUnfinished, h])
      | none => isTrue (by simp only [NoneUnfinished, h])
  | .start _ _ | .other _ => inferInstanceAs (Decidable True)

variable (sha256 K) in
/-- Every request keeps its side of the contract, and the files are sound. -/
def Orderly (s : Pool FileCall FileCall.Answer FileError Unit ι (Files ι)) : Prop :=
  Pool.AllHold exec (contract sha256 K) s ∧ Sound sha256 K s.shared

theorem Orderly.step (hhex : HexDigests sha256) (hinj : K.InjOn sha256)
    {s : Pool FileCall FileCall.Answer FileError Unit ι (Files ι)}
    {e : Event ι Request Bool Empty} (h : Orderly sha256 K s) (he : NoneUnfinished K s e) :
    Orderly sha256 K ((machine sha256).step s e).2 := by
  obtain ⟨hall, hsound⟩ := h
  have hallowed : Pool.Allowed (contract sha256 K) (fun _ _ => True) s e := by
    cases e with
    | start i request => trivial
    | step i fails =>
        intro c next hrun
        simp only [NoneUnfinished, hrun] at he
        exact ⟨hsound, he⟩
    | other nothing => exact nothing.elim
  refine ⟨hall.step (fun request i s => keeps_steps hhex hinj request s)
    (fun i j s t hij hguar => hguar.2.2 i hij) (fun _ nothing => nothing.elim) hallowed, ?_⟩
  cases e with
  | start i request => exact Pool.shared_start (P := Sound sha256 K) i request hsound
  | step i fails =>
      exact Pool.shared_step (P := Sound sha256 K) i fails hsound fun c next hrun =>
        (hall.guar hrun (hallowed c next hrun)).1
  | other nothing => exact nothing.elim

omit [DecidableEq ι] in
theorem orderly_initial : Orderly sha256 K (initial (ι := ι)) := by
  refine ⟨?_, ⟨?_, ?_, List.forall_mem_nil _, List.forall_mem_nil _,
    ⟨List.forall_mem_nil _, List.forall_mem_nil _, List.forall_mem_nil _⟩⟩⟩
  · intro i p hp
    cases hp
  · intro place content hobject
    cases hobject.1
  · intro place hwriter
    exact absurd rfl hwriter

/-- While nobody reads an object that another request has created and not finished, every store
that meets no I/O error succeeds, and what it stored is read. -/
theorem put_survives (hhex : HexDigests sha256) (hinj : K.InjOn sha256)
    (events : List (Event ι Request Bool Empty))
    (hevents : (machine sha256).Guarded (NoneUnfinished K) initial events) :
    Survives sha256 ((machine sha256).final initial events).shared.log :=
  (hevents.invariant (fun _ _ hs he => Orderly.step hhex hinj hs he) orderly_initial).2.survives

end Runs

/-! ## A store that is interrupted -/

open Lifecycle (hi sampleSha256 hexDigests_sampleSha256)

/-- The first request stores `hi`, the second stores it again, and the third reads it. -/
def storeAndRead : List (Event ℕ Request Bool Empty) :=
  .start 0 (.put acme hi "text/plain") :: List.replicate 8 (.step 0 false) ++
    .start 1 (.put acme hi "text/plain") :: List.replicate 5 (.step 1 false) ++
    .start 2 (.read acme (objectRef sampleSha256 acme (sampleSha256 hi))) ::
      List.replicate 4 (.step 2 false)

theorem put_survives_read :
    Survives sampleSha256 ((machine sampleSha256).final initial storeAndRead).shared.log :=
  put_survives hexDigests_sampleSha256 (Set.injOn_singleton sampleSha256 hi) storeAndRead
    (by decide +kernel)

/-- The first request creates the object of `hi` and stops; the second stores `hi`. -/
def storeAfterStop : List (Event ℕ Request Bool Empty) :=
  .start 0 (.put acme hi "text/plain") :: List.replicate 4 (.step 0 false) ++
    .start 1 (.put acme hi "text/plain") :: List.replicate 5 (.step 1 false)

/-- The object that was not finished is in the way of its content. -/
theorem put_blocked :
    ¬ Survives sampleSha256 ((machine sampleSha256).final initial storeAfterStop).shared.log := by
  intro h
  have hblocked : ∃ e ∈ ((machine sampleSha256).final initial storeAfterStop).shared.log,
      e.request = .put acme hi "text/plain" ∧ e.result = .error (.evidence
        (.evidenceIntegrityError "stored object sha256 verification failed")) := by
    decide +kernel
  obtain ⟨e, he, hrequest, hresult⟩ := hblocked
  rcases h.put e he acme hi "text/plain" hrequest (by decide) with hok | hio
  · rw [hresult] at hok
    cases hok
  · rw [hresult] at hio
    cases hio

end EsanGbos.Observer.Interruption
