import Mathlib.Data.List.Basic

/-!
# Permissions of the Frappe app

A row is visible in a list when it satisfies the condition that the permission query of its doctype
writes for the user. A record opens when the Python predicate of its doctype admits the user. Both
read the same tables of team members, review cases and work items.

Names of users, teams and records are compared alike by the database and by Python: a link field
holds the name as the linked record spells it.

## Main definitions

* `Condition`, `Condition.holds` — the conditions that permission queries write, and their meaning.
* `permissionQuery` — the condition of each registered doctype.
* `hasGbosPermission`, `hasCrmPermission` — the predicates on a record.
-/
namespace EsanGbos.App

/-- The roles that the app knows; a user may hold others too. -/
inductive Role where
  | gbosAdmin | integrationAdmin | privacyAudit | ceo | salesManager | salesUser
  | purchaseManager | buyer | productRd | reviewer | financeReadonly | trustedMaterializer
  | other (name : String)
deriving DecidableEq, Repr

/-- The doctypes with a permission query of the app, next to those without. -/
inductive Doctype where
  | team | partyProfile | externalIdentity | externalCrosswalk | productBrief | sampleProject
  | sampleIteration | sampleShipment | sampleFeedback | demandSignal | sourcingEvent | workItem
  | reviewCase | informalObservation | crmOrganization | crmLead | crmDeal | contact
  | other (name : String)
deriving DecidableEq, Repr

inductive PermissionType where
  | read | write | create | delete | approve
  | other (name : String)
deriving DecidableEq, Repr

/-! ## Roles and doctypes -/

/-- `_BUSINESS_DOCTYPES`. -/
def businessDoctypes : List Doctype :=
  [.partyProfile, .productBrief, .sampleProject, .sampleIteration, .sampleShipment,
    .sampleFeedback, .demandSignal, .sourcingEvent, .workItem, .reviewCase, .informalObservation]

/-- `_INTEGRATION_DOCTYPES`. -/
def integrationDoctypes : List Doctype := [.externalIdentity, .externalCrosswalk]

/-- `_ALL_PARENT_DOCTYPES`. -/
def allParentDoctypes : List Doctype := businessDoctypes ++ integrationDoctypes ++ [.team]

/-- `INTERNAL_MATERIALIZATION_SUBJECT_DOCTYPES`. -/
def internalMaterializationSubjectDoctypes : List Doctype :=
  [.demandSignal, .partyProfile, .productBrief, .sampleFeedback, .sampleIteration,
    .sampleProject, .sampleShipment, .sourcingEvent, .workItem]

/-- `INTERNAL_MATERIALIZATION_DRAFT_DOCTYPES`. -/
def internalMaterializationDraftDoctypes : List Doctype :=
  [.workItem, .reviewCase, .informalObservation]

/-- `_SALES_DOCTYPES`. -/
def salesDoctypes : List Doctype :=
  [.partyProfile, .productBrief, .sampleProject, .sampleIteration, .sampleShipment,
    .sampleFeedback, .demandSignal, .workItem]

/-- `_PRODUCT_DOCTYPES`. -/
def productDoctypes : List Doctype := salesDoctypes

/-- `_PURCHASE_READ_DOCTYPES`. -/
def purchaseReadDoctypes : List Doctype := [.demandSignal, .sourcingEvent, .workItem]

/-- `_PURCHASE_WRITE_DOCTYPES`. -/
def purchaseWriteDoctypes : List Doctype := [.sourcingEvent, .workItem]

/-- `_TEAM_READ.get(role, frozenset())`. -/
def teamRead : Role → List Doctype
  | .salesManager | .salesUser => salesDoctypes ++ [.reviewCase, .team]
  | .purchaseManager | .buyer => purchaseReadDoctypes ++ [.reviewCase, .team]
  | .productRd => productDoctypes ++ [.reviewCase, .team]
  | _ => []

/-- `_TEAM_WRITE.get(role, frozenset())`. -/
def teamWrite : Role → List Doctype
  | .salesManager | .salesUser => salesDoctypes
  | .purchaseManager | .buyer => purchaseWriteDoctypes
  | .productRd => productDoctypes
  | _ => []

/-- `_CRM_DOCTYPES`. -/
def crmDoctypes : List Doctype := [.crmOrganization, .contact, .crmLead, .crmDeal]

/-- `_CRM_TEAM_READ` and `_CRM_TEAM_WRITE`. -/
def crmTeamRoles : List Role := [.salesManager, .salesUser]

/-- `_PRODUCT_CRM_READ`. -/
def productCrmRead : List Doctype := [.crmOrganization, .crmDeal]

/-- `GLOBAL_LIST_ROLES`. -/
def globalListRoles : List Role := [.gbosAdmin, .ceo]

/-- `TEAM_LIST_ROLES`. -/
def teamListRoles : List Role := [.salesManager, .salesUser, .purchaseManager, .buyer, .productRd]

/-- The action of the internal materializer, `apply` included where it is open. -/
def materializerAction (doctype : Doctype) : PermissionType → Bool
  | .read => doctype ∈ internalMaterializationSubjectDoctypes ++ [.team]
  | .create => doctype ∈ internalMaterializationDraftDoctypes
  | .write => doctype = .workItem || doctype = .reviewCase
  | _ => false

/-- `role_has_doctype_permission`. -/
def roleHasDoctypePermission (role : Role) (doctype : Doctype) (permissionType : PermissionType) :
    Bool :=
  if doctype ∉ allParentDoctypes then false
  else match role with
    | .trustedMaterializer => materializerAction doctype permissionType
    | .gbosAdmin => [PermissionType.read, .write, .create, .delete].contains permissionType
    | .ceo => permissionType = .read && doctype ∈ businessDoctypes ++ [.team]
    | .integrationAdmin =>
        [PermissionType.read, .write, .create].contains permissionType &&
          doctype ∈ integrationDoctypes
    | .reviewer => permissionType = .read && doctype ∈ businessDoctypes
    | _ => match permissionType with
      | .read => doctype ∈ teamRead role
      | .write | .create => doctype ∈ teamWrite role
      | _ => false

/-- `role_has_crm_doctype_permission`. -/
def roleHasCrmDoctypePermission (role : Role) (doctype : Doctype)
    (permissionType : PermissionType) : Bool :=
  if doctype ∉ crmDoctypes then false
  else if role = .gbosAdmin then
    [PermissionType.read, .write, .create, .delete].contains permissionType
  else if role = .ceo then permissionType = .read
  else if role ∈ crmTeamRoles then
    [PermissionType.read, .write, .create].contains permissionType
  else role = .productRd && permissionType = .read && doctype ∈ productCrmRead

/-! ## The tables -/

/-- A row of a team's child table; its parent is a team. -/
structure TeamMember where
  parent : String
  user : String
  enabled : Bool
  parent_ne : parent ≠ ""

/-- What the queries read of a review case. -/
structure ReviewAssignment where
  assignedReviewer : Option String
  subjectDoctype : Option Doctype
  subjectName : Option String
  isPending : Bool

/-- What the queries read of a work item. -/
structure WorkAssignment where
  assignedTo : Option String
  referenceDoctype : Option Doctype
  referenceName : Option String

structure Database where
  members : List TeamMember
  reviewCases : List ReviewAssignment
  workItems : List WorkAssignment

/-- What the checks read of a record. -/
structure Record where
  doctype : Doctype
  name : String
  team : Option String
  customEsanTeam : Option String
  assignedReviewer : Option String
  name_ne : name ≠ ""

/-! ## Permission queries -/

/-- The conditions that permission queries write. The subqueries name the user in them. -/
inductive Condition where
  /-- No condition. -/
  | any
  /-- `1=0` -/
  | nothing
  /-- The name is one of the user's teams. -/
  | teamName (user : String)
  /-- `team` is one of them. -/
  | team (user : String)
  /-- `custom_esan_team` is one of them. -/
  | customEsanTeam (user : String)
  | assignedReviewer (user : String)
  /-- The name is the subject of a review case of the user. -/
  | reviewSubject (user : String) (doctype : Doctype)
  /-- The name is the reference of a work item of the user. -/
  | workReference (user : String) (doctype : Doctype)
  | or (left right : Condition)
deriving DecidableEq, Repr

/-- The team is in the member subquery; a null never is. -/
def inMemberSubquery (db : Database) (user : String) (team : Option String) : Bool :=
  team.any fun team => db.members.any fun m => m.parent = team && m.user = user && m.enabled

/-- The row satisfies the condition. -/
def Condition.holds (db : Database) (record : Record) : Condition → Bool
  | any => true
  | nothing => false
  | teamName user => inMemberSubquery db user (some record.name)
  | team user => inMemberSubquery db user record.team
  | customEsanTeam user => inMemberSubquery db user record.customEsanTeam
  | assignedReviewer user => record.assignedReviewer = some user
  | reviewSubject user doctype => db.reviewCases.any fun c => c.assignedReviewer = some user &&
      c.subjectDoctype = some doctype && c.subjectName = some record.name
  | workReference user doctype => db.workItems.any fun w => w.assignedTo = some user &&
      w.referenceDoctype = some doctype && w.referenceName = some record.name
  | or left right => left.holds db record || right.holds db record

section Queries
variable (roles : List Role) (actor : String)

def isGlobalReader : Bool := globalListRoles.any roles.contains

def isInternalMaterializer : Bool := roles.contains .trustedMaterializer

/-- The shape of every query: nothing for the materializer, everything for a global reader. -/
def guarded (condition : Condition) : Condition :=
  if isInternalMaterializer roles then .nothing
  else if isGlobalReader roles then .any
  else condition

/-- `team_permission_query`. -/
def teamPermissionQuery : Condition := guarded roles (.teamName actor)

/-- `team_scoped_permission_query`. -/
def teamScopedPermissionQuery : Condition := guarded roles (.team actor)

/-- `integration_permission_query`; a CEO is no global reader here. -/
def integrationPermissionQuery : Condition :=
  if isInternalMaterializer roles then .nothing
  else if roles.contains .gbosAdmin || roles.contains .integrationAdmin then .any
  else .nothing

/-- The conditions of the teams and of the reviews of a user, where his roles give them. -/
def teamOrReview (review : Condition) : Condition :=
  if teamListRoles.any roles.contains then
    if roles.contains .reviewer then .or (.team actor) review else .team actor
  else if roles.contains .reviewer then review else .nothing

/-- `review_case_permission_query`. -/
def reviewCasePermissionQuery : Condition :=
  guarded roles (teamOrReview roles actor (.assignedReviewer actor))

/-- `work_item_permission_query`. -/
def workItemPermissionQuery : Condition :=
  guarded roles (teamOrReview roles actor (.reviewSubject actor .workItem))

/-- `informal_observation_permission_query`. -/
def informalObservationPermissionQuery : Condition :=
  guarded roles (if roles.contains .reviewer then
    .or (.reviewSubject actor .informalObservation) (.workReference actor .informalObservation)
  else .nothing)

/-- `_crm_permission_query`. -/
def crmPermissionQuery (doctype : Doctype) : Condition :=
  guarded roles (if roles.any fun role => roleHasCrmDoctypePermission role doctype .read then
    .customEsanTeam actor
  else .nothing)

/-- `permission_query_conditions`. -/
def permissionQuery : Doctype → Option Condition
  | .team => some (teamPermissionQuery roles actor)
  | .externalIdentity | .externalCrosswalk => some (integrationPermissionQuery roles)
  | .reviewCase => some (reviewCasePermissionQuery roles actor)
  | .workItem => some (workItemPermissionQuery roles actor)
  | .informalObservation => some (informalObservationPermissionQuery roles actor)
  | .crmOrganization => some (crmPermissionQuery roles actor .crmOrganization)
  | .crmLead => some (crmPermissionQuery roles actor .crmLead)
  | .crmDeal => some (crmPermissionQuery roles actor .crmDeal)
  | .contact => some (crmPermissionQuery roles actor .contact)
  | .other _ => none
  | _ => some (teamScopedPermissionQuery roles actor)

end Queries

/-! ## Predicates on a record -/

/-- `can_access_record`. -/
def canAccessRecord (roles : List Role) (doctype : Doctype) (permissionType : PermissionType)
    (isTeamMember isAssignedReviewer isAssignedReviewSubject : Bool) : Bool :=
  if doctype ∉ allParentDoctypes then false
  else if roles.contains .reviewer && isAssignedReviewSubject &&
      [PermissionType.write, .create, .delete].contains permissionType then false
  else match permissionType with
    | .read => roles.contains .gbosAdmin ||
        (roles.contains .ceo && doctype ∈ businessDoctypes ++ [.team]) ||
        (roles.contains .integrationAdmin && doctype ∈ integrationDoctypes) ||
        (roles.contains .reviewer && ((doctype = .reviewCase && isAssignedReviewer) ||
          (doctype ∈ businessDoctypes && isAssignedReviewSubject))) ||
        (isTeamMember && roles.any fun role => doctype ∈ teamRead role)
    | .approve => doctype = .reviewCase && isAssignedReviewer && roles.contains .reviewer
    | .write | .create =>
        if permissionType = .write ∧ doctype = .reviewCase then roles.contains .gbosAdmin
        else roles.contains .gbosAdmin ||
          (roles.contains .integrationAdmin && doctype ∈ integrationDoctypes) ||
          (isTeamMember && roles.any fun role => doctype ∈ teamWrite role)
    | .delete => roles.contains .gbosAdmin
    | .other _ => false

/-- `can_access_crm_record`. -/
def canAccessCrmRecord (roles : List Role) (doctype : Doctype) (permissionType : PermissionType)
    (isTeamMember : Bool) : Bool :=
  if doctype ∉ crmDoctypes then false
  else match permissionType with
    | .read => isGlobalReader roles || (isTeamMember && crmTeamRoles.any roles.contains) ||
        (isTeamMember && roles.contains .productRd && doctype ∈ productCrmRead)
    | .write | .create => roles.contains .gbosAdmin ||
        (isTeamMember && crmTeamRoles.any roles.contains)
    | .delete => roles.contains .gbosAdmin
    | _ => false

/-- The mode of the permission scope that is open for the user, where one is. -/
inductive MaterializationMode where
  | resolve | apply
deriving DecidableEq, Repr

/-- `_internal_gbos_permission`. -/
def internalGbosPermission (roles : List Role) (mode : Option MaterializationMode)
    (doctype : Doctype) (permissionType : PermissionType) : Option Bool :=
  if !isInternalMaterializer roles then none
  else some (mode.any fun mode =>
    (permissionType = .read || mode = .apply) && materializerAction doctype permissionType)

/-- `_is_team_member`. -/
def isTeamMember (db : Database) (user : String) (team : Option String) : Bool :=
  team.any (· ≠ "") && inMemberSubquery db user team

/-- `_is_assigned_review_subject`. -/
def isAssignedReviewSubject (db : Database) (user : String) (doctype : Doctype) (name : String) :
    Bool :=
  name ≠ "" && ((db.reviewCases.any fun c => c.assignedReviewer = some user &&
      c.subjectDoctype = some doctype && c.subjectName = some name && c.isPending) ||
    (doctype = .informalObservation && db.workItems.any fun w => w.assignedTo = some user &&
      w.referenceDoctype = some doctype && w.referenceName = some name))

/-- `has_gbos_permission`. -/
def hasGbosPermission (db : Database) (roles : List Role) (actor : String)
    (mode : Option MaterializationMode) (record : Record) (action : PermissionType) : Bool :=
  match internalGbosPermission roles mode record.doctype action with
  | some allowed => allowed
  | none =>
      if record.doctype = .team ∧ action ≠ .read then roles.contains .gbosAdmin
      else if roles.contains .integrationAdmin ∧ record.doctype ∈ integrationDoctypes then
        [PermissionType.read, .write, .create].contains action
      else if record.doctype ∈ integrationDoctypes ∧ action ≠ .read then roles.contains .gbosAdmin
      else if record.doctype = .reviewCase ∧ action ≠ .read then roles.contains .gbosAdmin
      else canAccessRecord roles record.doctype action
        (isTeamMember db actor
          (if record.doctype = .team then some record.name else record.team))
        (record.doctype = .reviewCase && record.assignedReviewer = some actor)
        (isAssignedReviewSubject db actor record.doctype record.name)

/-- `has_crm_permission`. -/
def hasCrmPermission (db : Database) (roles : List Role) (actor : String) (record : Record)
    (action : PermissionType) : Bool :=
  !isInternalMaterializer roles && canAccessCrmRecord roles record.doctype action
    (isTeamMember db actor record.customEsanTeam)

/-- `has_permission`, for the registered doctypes. -/
def hasPermission (db : Database) (roles : List Role) (actor : String)
    (mode : Option MaterializationMode) (record : Record) (action : PermissionType) : Bool :=
  if record.doctype ∈ crmDoctypes then hasCrmPermission db roles actor record action
  else hasGbosPermission db roles actor mode record action

end EsanGbos.App
