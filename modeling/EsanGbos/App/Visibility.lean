import EsanGbos.App.Permissions

/-!
# List visibility and record visibility

The queries and the predicates agree on members of teams, on reviewers of open cases and on global
readers. They part ways for a reviewer: the query of the team-scoped doctypes asks for no role that
reads the doctype, and the queries of work items and observations count cases that are decided.

## Main results

* `listed_opens_iff` — exactly which listed rows open.
* `stranger_refused`, `decided_refused` — a listed row of each kind that does not.
-/
namespace EsanGbos.App

variable (db : Database) (roles : List Role) (actor : String)

/-- Frappe's check of the doctype, which a list makes first. -/
def hasDoctypePermission (doctype : Doctype) : Bool :=
  roles.any fun role => roleHasDoctypePermission role doctype .read ||
    roleHasCrmDoctypePermission role doctype .read

/-- The row satisfies the permission query of its doctype. -/
def isListed (record : Record) : Bool :=
  (permissionQuery roles actor record.doctype).any fun condition => condition.holds db record

/-- A role of the user reads the doctype for his teams. -/
def readsForTeam (doctype : Doctype) : Bool := roles.any fun role => doctype ∈ teamRead role

/-- The doctypes whose query is `team_scoped_permission_query`. -/
def teamScopedDoctypes : List Doctype :=
  [.partyProfile, .productBrief, .sampleProject, .sampleIteration, .sampleShipment,
    .sampleFeedback, .demandSignal, .sourcingEvent]

/-- What a reviewer needs for a listed row to open: a role of his team that reads the doctype, or an
open review of the record; without them the row must not be his team's, or not a case of his. -/
def opensForReviewer (record : Record) : Bool :=
  isAssignedReviewSubject db actor record.doctype record.name ||
    (inMemberSubquery db actor record.team && readsForTeam roles record.doctype) ||
    if record.doctype ∈ teamScopedDoctypes then !inMemberSubquery db actor record.team
    else if record.doctype ∈ [Doctype.workItem, .informalObservation] then
      !(Condition.reviewSubject actor record.doctype).holds db record
    else true

/-- Whether a listed row of the user opens. -/
def opensWhatIsListed (record : Record) : Bool :=
  isInternalMaterializer roles || isGlobalReader roles || !roles.contains .reviewer ||
    opensForReviewer db roles actor record

/-! ## Roles -/

variable {db roles actor} {record : Record} {mode : Option MaterializationMode}

theorem readsForTeam_of_common {doctype : Doctype}
    (h : doctype ∈ [Doctype.workItem, .reviewCase, .team]) :
    readsForTeam roles doctype = teamListRoles.any roles.contains := by
  have hrole : ∀ role, doctype ∈ teamRead role ↔ role ∈ teamListRoles := by
    intro role
    simp only [List.mem_cons, List.not_mem_nil, or_false] at h
    rcases h with rfl | rfl | rfl <;> cases role <;>
      simp [teamRead, teamListRoles, salesDoctypes, productDoctypes, purchaseReadDoctypes]
  rw [Bool.eq_iff_iff]
  simp only [readsForTeam, List.any_eq_true, decide_eq_true_eq, hrole, List.contains_eq_mem]
  constructor
  · rintro ⟨role, hmem, hlist⟩
    exact ⟨role, hlist, hmem⟩
  · rintro ⟨role, hlist, hmem⟩
    exact ⟨role, hmem, hlist⟩

theorem notMem_of_isGlobalReader_eq_false (h : isGlobalReader roles = false) {role : Role}
    (hrole : role ∈ globalListRoles) : role ∉ roles := by
  intro hmem
  have hglobal : isGlobalReader roles = true :=
    List.any_eq_true.mpr ⟨role, hrole, by simpa using hmem⟩
  rw [h] at hglobal
  cases hglobal

/-- Without a global role a doctype of the business is read as a reviewer or for a team. -/
theorem hasDoctypePermission_cases (hmaterializer : isInternalMaterializer roles = false)
    (hglobal : isGlobalReader roles = false) {doctype : Doctype}
    (hdoctype : doctype ∈ businessDoctypes ++ [.team])
    (h : hasDoctypePermission roles doctype = true) :
    (doctype ∈ businessDoctypes ∧ roles.contains .reviewer = true) ∨
      readsForTeam roles doctype = true := by
  have hcrm : ∀ role, roleHasCrmDoctypePermission role doctype .read = false := by
    intro role
    have hother : doctype ∉ crmDoctypes := by
      have hdisjoint : ∀ d ∈ businessDoctypes ++ [.team], d ∉ crmDoctypes := by decide
      exact hdisjoint doctype hdoctype
    rw [roleHasCrmDoctypePermission, if_pos hother]
  have hnoIntegration : doctype ∉ integrationDoctypes := by
    have hdisjoint : ∀ d ∈ businessDoctypes ++ [.team], d ∉ integrationDoctypes := by decide
    exact hdisjoint doctype hdoctype
  obtain ⟨role, hmem, hpermission⟩ := List.any_eq_true.mp h
  rw [hcrm, Bool.or_false] at hpermission
  have hparent : doctype ∈ allParentDoctypes := by
    rw [List.mem_append] at hdoctype
    simp only [allParentDoctypes, List.mem_append]
    exact hdoctype.elim (fun h => .inl (.inl h)) .inr
  cases role with
  | trustedMaterializer => simp [isInternalMaterializer, hmem] at hmaterializer
  | gbosAdmin => exact absurd hmem (notMem_of_isGlobalReader_eq_false hglobal (by decide))
  | ceo => exact absurd hmem (notMem_of_isGlobalReader_eq_false hglobal (by decide))
  | integrationAdmin => simp [roleHasDoctypePermission, hnoIntegration] at hpermission
  | reviewer =>
    refine .inl ⟨?_, by simpa using hmem⟩
    simpa [roleHasDoctypePermission, hparent] using hpermission
  | _ =>
    refine .inr (List.any_eq_true.mpr ⟨_, hmem, ?_⟩)
    simpa [roleHasDoctypePermission, hparent] using hpermission

/-! ## Members -/

/-- A team has a name, so Python's test of it changes nothing. -/
theorem isTeamMember_eq (team : Option String) :
    isTeamMember db actor team = inMemberSubquery db actor team := by
  cases team with
  | none => rfl
  | some team =>
    by_cases hne : team = ""
    · have hempty : inMemberSubquery db actor (some team) = false := by
        rw [inMemberSubquery, Option.any_some, List.any_eq_false]
        intro m _
        simp [hne, m.parent_ne]
      rw [isTeamMember, hempty, Bool.and_false]
    · simp [isTeamMember, hne]

/-! ## By doctype -/

theorem isListed_of_isInternalMaterializer (h : isInternalMaterializer roles = true) :
    isListed db roles actor record = false := by
  cases hdoctype : record.doctype <;>
    simp [isListed, permissionQuery, hdoctype, teamPermissionQuery, teamScopedPermissionQuery,
      integrationPermissionQuery, reviewCasePermissionQuery, workItemPermissionQuery,
      informalObservationPermissionQuery, crmPermissionQuery, guarded, h, Condition.holds]

/-- What a record of the business asks for. -/
theorem hasPermission_read (hmaterializer : isInternalMaterializer roles = false)
    (hdoctype : record.doctype ∈ businessDoctypes) :
    hasPermission db roles actor mode record .read = (roles.contains .gbosAdmin ||
      roles.contains .ceo ||
      (roles.contains .reviewer && ((record.doctype = .reviewCase &&
        record.assignedReviewer = some actor) ||
        isAssignedReviewSubject db actor record.doctype record.name)) ||
      (inMemberSubquery db actor record.team && readsForTeam roles record.doctype)) := by
  have hteam : record.doctype ≠ .team := by
    intro h
    rw [h] at hdoctype
    revert hdoctype
    decide
  have hcrm : record.doctype ∉ crmDoctypes := by
    have hdisjoint : ∀ d ∈ businessDoctypes, d ∉ crmDoctypes := by decide
    exact hdisjoint _ hdoctype
  have hintegration : record.doctype ∉ integrationDoctypes := by
    have hdisjoint : ∀ d ∈ businessDoctypes, d ∉ integrationDoctypes := by decide
    exact hdisjoint _ hdoctype
  have hparent : record.doctype ∈ allParentDoctypes := by
    simp [allParentDoctypes, hdoctype]
  rw [hasPermission, if_neg hcrm]
  simp [hasGbosPermission, internalGbosPermission, hmaterializer, hteam, hintegration,
    canAccessRecord, hparent, hdoctype, isTeamMember_eq, readsForTeam]

theorem isGlobalReader_eq :
    isGlobalReader roles = (roles.contains .gbosAdmin || roles.contains .ceo) := by
  simp [isGlobalReader, globalListRoles]

/-- The query of a record of the business, without a global role. -/
theorem isListed_business (hmaterializer : isInternalMaterializer roles = false)
    (hglobal : isGlobalReader roles = false) (hdoctype : record.doctype ∈ businessDoctypes) :
    isListed db roles actor record =
      if record.doctype ∈ teamScopedDoctypes then inMemberSubquery db actor record.team
      else if record.doctype = .informalObservation then roles.contains .reviewer &&
        ((Condition.reviewSubject actor .informalObservation).holds db record ||
          (Condition.workReference actor .informalObservation).holds db record)
      else (teamListRoles.any roles.contains && inMemberSubquery db actor record.team) ||
        (roles.contains .reviewer && if record.doctype = .reviewCase then
          record.assignedReviewer = some actor
        else (Condition.reviewSubject actor .workItem).holds db record) := by
  have hteams : ∀ review : Condition, (teamOrReview roles actor review).holds db record =
      (teamListRoles.any roles.contains && inMemberSubquery db actor record.team ||
        roles.contains .reviewer && review.holds db record) := by
    intro review
    unfold teamOrReview
    cases teamListRoles.any roles.contains <;> cases roles.contains .reviewer <;>
      simp [Condition.holds]
  simp only [businessDoctypes, List.mem_cons, List.not_mem_nil, or_false] at hdoctype
  rcases hdoctype with h | h | h | h | h | h | h | h | h | h | h
  all_goals
    simp [isListed, permissionQuery, h, teamScopedPermissionQuery, guarded, hmaterializer, hglobal,
      teamScopedDoctypes, Condition.holds, workItemPermissionQuery, reviewCasePermissionQuery,
      informalObservationPermissionQuery, hteams]
  by_cases hreviewer : Role.reviewer ∈ roles
  · simp [hreviewer, Condition.holds]
  · simp [hreviewer, Condition.holds]

/-- A review subject, or the reference of a work item, has a case or a work item about it. -/
theorem isAssignedReviewSubject_eq {doctype : Doctype} {name : String} (hname : name ≠ "") :
    isAssignedReviewSubject db actor doctype name =
      ((db.reviewCases.any fun c => c.assignedReviewer = some actor &&
        c.subjectDoctype = some doctype && c.subjectName = some name && c.isPending) ||
      (doctype = .informalObservation && db.workItems.any fun w => w.assignedTo = some actor &&
        w.referenceDoctype = some doctype && w.referenceName = some name)) := by
  simp [isAssignedReviewSubject, hname]

theorem opens_of_mem_integrationDoctypes (hmaterializer : isInternalMaterializer roles = false)
    (hdoctype : record.doctype ∈ integrationDoctypes)
    (hlisted : isListed db roles actor record = true) :
    hasPermission db roles actor mode record .read = true := by
  have hadmin : roles.contains .gbosAdmin = true ∨ roles.contains .integrationAdmin = true := by
    simp only [integrationDoctypes, List.mem_cons, List.not_mem_nil, or_false] at hdoctype
    have hquery : (integrationPermissionQuery roles).holds db record = true := by
      rcases hdoctype with h | h <;> simpa [isListed, permissionQuery, h] using hlisted
    rw [integrationPermissionQuery, hmaterializer, if_neg Bool.false_ne_true] at hquery
    split at hquery
    next h => simpa using h
    next => cases hquery
  have hcrm : record.doctype ∉ crmDoctypes := by
    have hdisjoint : ∀ d ∈ integrationDoctypes, d ∉ crmDoctypes := by decide
    exact hdisjoint _ hdoctype
  have hteam : record.doctype ≠ .team := by
    rintro h
    rw [h] at hdoctype
    revert hdoctype
    decide
  have hcase : record.doctype ≠ .reviewCase := by
    rintro h
    rw [h] at hdoctype
    revert hdoctype
    decide
  have hparent : record.doctype ∈ allParentDoctypes := by simp [allParentDoctypes, hdoctype]
  rw [hasPermission, if_neg hcrm]
  by_cases hintegrator : Role.integrationAdmin ∈ roles
  · simp [hasGbosPermission, internalGbosPermission, hmaterializer, hintegrator, hdoctype, hteam]
  · have hadmin : Role.gbosAdmin ∈ roles := by simpa [hintegrator] using hadmin
    simp [hasGbosPermission, internalGbosPermission, hmaterializer, hintegrator, hteam, hcase,
      canAccessRecord, hparent, hadmin]

theorem opens_of_mem_crmDoctypes (hmaterializer : isInternalMaterializer roles = false)
    (hdoctype : record.doctype ∈ crmDoctypes) (hlisted : isListed db roles actor record = true) :
    hasPermission db roles actor mode record .read = true := by
  have hquery : (crmPermissionQuery roles actor record.doctype).holds db record = true := by
    have hcases := hdoctype
    simp only [crmDoctypes, List.mem_cons, List.not_mem_nil, or_false] at hcases
    rcases hcases with h | h | h | h <;> simpa [isListed, permissionQuery, h] using hlisted
  rw [hasPermission, if_pos hdoctype, hasCrmPermission, hmaterializer, Bool.not_false,
    Bool.true_and, canAccessCrmRecord, if_neg (not_not_intro hdoctype), isTeamMember_eq]
  by_cases hglobal : isGlobalReader roles = true
  · simp [hglobal]
  · have hglobal : isGlobalReader roles = false := by simpa using hglobal
    rw [crmPermissionQuery, guarded, hmaterializer, hglobal, if_neg Bool.false_ne_true,
      if_neg Bool.false_ne_true] at hquery
    split at hquery
    next hreads =>
      have hmember : inMemberSubquery db actor record.customEsanTeam = true := hquery
      obtain ⟨role, hmem, hrole⟩ := List.any_eq_true.mp hreads
      have hadmin : role ≠ .gbosAdmin := by
        rintro rfl
        exact notMem_of_isGlobalReader_eq_false hglobal (by decide) hmem
      have hceo : role ≠ .ceo := by
        rintro rfl
        exact notMem_of_isGlobalReader_eq_false hglobal (by decide) hmem
      rw [roleHasCrmDoctypePermission, if_neg (not_not_intro hdoctype), if_neg hadmin,
        if_neg hceo] at hrole
      rw [hmember, hglobal]
      split at hrole
      next hteam =>
        have hany : crmTeamRoles.any roles.contains = true :=
          List.any_eq_true.mpr ⟨role, hteam, by simpa using hmem⟩
        simp [hany]
      next =>
        simp only [Bool.and_eq_true, decide_eq_true_eq] at hrole
        obtain ⟨⟨rfl, -⟩, hproduct⟩ := hrole
        simp [hmem, hproduct]
    next => cases hquery

/-- The listed rows of the doctypes that are not the business's open. -/
theorem opens_of_notMem_businessDoctypes (hdoctype : record.doctype ∉ businessDoctypes)
    (hpermission : hasDoctypePermission roles record.doctype = true)
    (hlisted : isListed db roles actor record = true) :
    hasPermission db roles actor mode record .read = true := by
  have hmaterializer : isInternalMaterializer roles = false := by
    by_contra h
    rw [isListed_of_isInternalMaterializer (by simpa using h)] at hlisted
    cases hlisted
  by_cases hteam : record.doctype = .team
  · have hread : hasPermission db roles actor mode record .read = (isGlobalReader roles ||
        (inMemberSubquery db actor (some record.name) && readsForTeam roles .team)) := by
      have hcrm : Doctype.team ∉ crmDoctypes := by decide
      have hintegration : Doctype.team ∉ integrationDoctypes := by decide
      have hbusiness : Doctype.team ∉ businessDoctypes := by decide
      have hparent : Doctype.team ∈ allParentDoctypes := by decide
      rw [hasPermission, hteam, if_neg hcrm]
      simp [hasGbosPermission, internalGbosPermission, hmaterializer, hteam, hintegration,
        canAccessRecord, hparent, hbusiness, isTeamMember_eq, readsForTeam, isGlobalReader_eq]
    rw [hread]
    by_cases hglobal : isGlobalReader roles = true
    · rw [hglobal, Bool.true_or]
    · have hglobal : isGlobalReader roles = false := by simpa using hglobal
      have hmember : inMemberSubquery db actor (some record.name) = true := by
        simpa [isListed, permissionQuery, hteam, teamPermissionQuery, guarded, hmaterializer,
          hglobal, Condition.holds] using hlisted
      rw [hteam] at hpermission
      rcases hasDoctypePermission_cases hmaterializer hglobal (by decide) hpermission with
        ⟨hbusiness, -⟩ | hreads
      · exact absurd hbusiness (by decide)
      · rw [hmember, hreads, Bool.and_self, Bool.or_true]
  · by_cases hintegration : record.doctype ∈ integrationDoctypes
    · exact opens_of_mem_integrationDoctypes hmaterializer hintegration hlisted
    · by_cases hcrm : record.doctype ∈ crmDoctypes
      · exact opens_of_mem_crmDoctypes hmaterializer hcrm hlisted
      · cases hother : record.doctype with
        | other name => simp [isListed, permissionQuery, hother] at hlisted
        | _ =>
          rw [hother] at hdoctype hteam hintegration hcrm
          exfalso
          revert hdoctype hteam hintegration hcrm
          decide

/-- A reviewer reads every doctype of the business. -/
theorem hasDoctypePermission_of_reviewer (hreviewer : roles.contains .reviewer = true)
    {doctype : Doctype} (hdoctype : doctype ∈ businessDoctypes) :
    hasDoctypePermission roles doctype = true := by
  have hparent : doctype ∈ allParentDoctypes := by simp [allParentDoctypes, hdoctype]
  refine List.any_eq_true.mpr ⟨.reviewer, by simpa using hreviewer, ?_⟩
  simp [roleHasDoctypePermission, hparent, hdoctype]

/-- Who is no reviewer opens every record of the business that his lists show. -/
theorem opens_of_not_reviewer (hmaterializer : isInternalMaterializer roles = false)
    (hglobal : isGlobalReader roles = false) (hreviewer : roles.contains .reviewer = false)
    (hdoctype : record.doctype ∈ businessDoctypes)
    (hpermission : hasDoctypePermission roles record.doctype = true)
    (hlisted : isListed db roles actor record = true) :
    hasPermission db roles actor mode record .read = true := by
  have hreads : readsForTeam roles record.doctype = true := by
    rcases hasDoctypePermission_cases hmaterializer hglobal (by simp [hdoctype]) hpermission with
      ⟨-, h⟩ | h
    · rw [hreviewer] at h
      cases h
    · exact h
  have hmember : inMemberSubquery db actor record.team = true := by
    rw [isListed_business hmaterializer hglobal hdoctype, hreviewer] at hlisted
    split at hlisted
    · exact hlisted
    · split at hlisted
      · cases hlisted
      · simp only [Bool.false_and, Bool.or_false, Bool.and_eq_true] at hlisted
        exact hlisted.2
  rw [hasPermission_read hmaterializer hdoctype, hmember, hreads, Bool.and_self, Bool.or_true]

/-- What a reviewer opens of the records of the business that his lists show. -/
theorem reviewer_opens_iff (hmaterializer : isInternalMaterializer roles = false)
    (hglobal : isGlobalReader roles = false) (hreviewer : roles.contains .reviewer = true)
    (hdoctype : record.doctype ∈ businessDoctypes) :
    (isListed db roles actor record = true →
      hasPermission db roles actor mode record .read = true) ↔
      opensForReviewer db roles actor record = true := by
  have hroles : (roles.contains .gbosAdmin || roles.contains .ceo) = false := by
    rw [← isGlobalReader_eq, hglobal]
  rw [hasPermission_read hmaterializer hdoctype, isListed_business hmaterializer hglobal hdoctype,
    hroles, hreviewer, opensForReviewer]
  by_cases hscoped : record.doctype ∈ teamScopedDoctypes
  · have hcase : record.doctype ≠ .reviewCase := by
      intro h
      rw [h] at hscoped
      revert hscoped
      decide
    simp only [hscoped, hcase, if_true, decide_false, Bool.false_and, Bool.false_or, Bool.true_and]
    cases isAssignedReviewSubject db actor record.doctype record.name <;>
      cases inMemberSubquery db actor record.team <;> simp
  · have hkinds : record.doctype = .informalObservation ∨ record.doctype = .workItem ∨
        record.doctype = .reviewCase := by
      have hrest : ∀ d ∈ businessDoctypes, d ∉ teamScopedDoctypes →
          d = .informalObservation ∨ d = .workItem ∨ d = .reviewCase := by decide
      exact hrest _ hdoctype hscoped
    rcases hkinds with h | h | h
    · have hwork : (Condition.workReference actor .informalObservation).holds db record = true →
          isAssignedReviewSubject db actor .informalObservation record.name = true := by
        intro hwork
        rw [isAssignedReviewSubject_eq record.name_ne, Bool.or_eq_true]
        exact .inr (by simpa [Condition.holds] using hwork)
      have hnot : Doctype.informalObservation ∉ teamScopedDoctypes := by decide
      simp only [h, hnot, if_false, if_true, List.mem_cons, true_or, or_true]
      revert hwork
      cases isAssignedReviewSubject db actor .informalObservation record.name <;>
        cases (Condition.workReference actor .informalObservation).holds db record <;>
        cases (Condition.reviewSubject actor .informalObservation).holds db record <;> simp
    · have hnot : Doctype.workItem ∉ teamScopedDoctypes := by decide
      simp only [h, hnot, readsForTeam_of_common (List.mem_cons_self), if_false, if_true,
        List.mem_cons, true_or, reduceCtorEq, decide_false, Bool.false_and, Bool.false_or]
      cases isAssignedReviewSubject db actor .workItem record.name <;>
        cases (Condition.reviewSubject actor .workItem).holds db record <;>
        cases inMemberSubquery db actor record.team <;> simp
    · have hnot : Doctype.reviewCase ∉ teamScopedDoctypes := by decide
      have hreads : readsForTeam roles .reviewCase = teamListRoles.any roles.contains :=
        readsForTeam_of_common (by decide)
      simp only [h, hnot, hreads, if_false, if_true, reduceCtorEq, decide_true, Bool.true_and]
      cases decide (record.assignedReviewer = some actor) <;>
        cases inMemberSubquery db actor record.team <;>
        cases teamListRoles.any roles.contains <;> simp

/-- Outside the business a reviewer needs nothing. -/
theorem opensForReviewer_of_notMem (hdoctype : record.doctype ∉ businessDoctypes) :
    opensForReviewer db roles actor record = true := by
  have hscoped : record.doctype ∉ teamScopedDoctypes := by
    have hsub : ∀ d ∈ teamScopedDoctypes, d ∈ businessDoctypes := by decide
    exact mt (hsub _) hdoctype
  have hdrafts : record.doctype ∉ [Doctype.workItem, .informalObservation] := by
    have hsub : ∀ d ∈ [Doctype.workItem, .informalObservation], d ∈ businessDoctypes := by decide
    exact mt (hsub _) hdoctype
  rw [opensForReviewer, if_neg hscoped, if_neg hdrafts, Bool.or_true]

/-! ## All doctypes -/

/-- A listed row opens, exactly where its reader is no reviewer or has what a reviewer needs. -/
theorem listed_opens_iff (db : Database) (roles : List Role) (actor : String)
    (mode : Option MaterializationMode) (record : Record) :
    (hasDoctypePermission roles record.doctype = true → isListed db roles actor record = true →
      hasPermission db roles actor mode record .read = true) ↔
      opensWhatIsListed db roles actor record = true := by
  by_cases hmaterializer : isInternalMaterializer roles = true
  · simp [opensWhatIsListed, hmaterializer, isListed_of_isInternalMaterializer hmaterializer]
  have hmaterializer : isInternalMaterializer roles = false := by simpa using hmaterializer
  by_cases hdoctype : record.doctype ∈ businessDoctypes
  · rw [opensWhatIsListed, hmaterializer, Bool.false_or]
    by_cases hglobal : isGlobalReader roles = true
    · have hopens : hasPermission db roles actor mode record .read = true := by
        rw [hasPermission_read hmaterializer hdoctype, ← isGlobalReader_eq, hglobal, Bool.true_or,
          Bool.true_or]
      simp [hglobal, hopens]
    have hglobal : isGlobalReader roles = false := by simpa using hglobal
    rw [hglobal, Bool.false_or]
    by_cases hreviewer : roles.contains .reviewer = true
    · have hopens : (isListed db roles actor record = true →
          hasPermission db roles actor mode record .read = true) ↔
          opensForReviewer db roles actor record = true :=
        reviewer_opens_iff hmaterializer hglobal hreviewer hdoctype
      have hpermission := hasDoctypePermission_of_reviewer hreviewer hdoctype
      rw [hreviewer, Bool.not_true, Bool.false_or, ← hopens]
      exact ⟨fun h => h hpermission, fun h _ => h⟩
    · have hreviewer : roles.contains .reviewer = false := by simpa using hreviewer
      rw [hreviewer, Bool.not_false, Bool.true_or]
      exact ⟨fun _ => rfl,
        fun _ => opens_of_not_reviewer hmaterializer hglobal hreviewer hdoctype⟩
  · rw [opensWhatIsListed, opensForReviewer_of_notMem hdoctype, Bool.or_true]
    exact ⟨fun _ => rfl, fun _ => opens_of_notMem_businessDoctypes hdoctype⟩

/-! ## Rows that do not open -/

theorem sales_ne : "Sales" ≠ "" := by decide

theorem signal_ne : "DS-1" ≠ "" := by decide

theorem item_ne : "WI-1" ≠ "" := by decide

/-- Mei is a member of Sales, and holds the role of a reviewer only. -/
def salesTeam : Database where
  members := [⟨"Sales", "mei@esan.example", true, sales_ne⟩]
  reviewCases := [⟨some "mei@esan.example", some .workItem, some "WI-1", false⟩]
  workItems := []

/-- A signal of her team. -/
def salesSignal : Record :=
  ⟨.demandSignal, "DS-1", some "Sales", none, none, signal_ne⟩

/-- A work item of another team that she has reviewed. -/
def reviewedItem : Record :=
  ⟨.workItem, "WI-1", some "Buyers", none, none, item_ne⟩

theorem stranger_refused : ¬ ∀ (db : Database) (roles : List Role) (actor : String)
    (mode : Option MaterializationMode) (record : Record),
    hasDoctypePermission roles record.doctype = true → isListed db roles actor record = true →
      hasPermission db roles actor mode record .read = true := by
  intro h
  have hopens := h salesTeam [.reviewer] "mei@esan.example" none salesSignal (by decide) (by decide)
  revert hopens
  decide

theorem decided_refused : hasDoctypePermission [.reviewer] reviewedItem.doctype = true ∧
    isListed salesTeam [.reviewer] "mei@esan.example" reviewedItem = true ∧
      hasPermission salesTeam [.reviewer] "mei@esan.example" none reviewedItem .read = false := by
  decide

end EsanGbos.App
