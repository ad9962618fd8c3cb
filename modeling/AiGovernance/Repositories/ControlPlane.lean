import AiGovernance.Domain.Tenancy
import AiGovernance.Std.Dict

/-!
# The in-memory control-plane store

`InMemoryControlPlaneRepository` of `tenancy/repository.py`. Projects and
memberships stand under their organization; role assignments stand in one map
under their identifier, whatever organization they are for. The log of
authorization decisions is written only and left out.
-/

namespace AiGovernance.Tenancy

open AiGovernance.Std Domain

/-- The tables, every record under its own key. `issued` keeps every assignment identifier ever stored; no
operation reads it. -/
structure ControlPlane where
  organizations : Dict String Organization
  projects : Dict (String × String) Project
  memberships : Dict (String × String) OrganizationMembership
  assignments : Dict String RoleAssignment
  issued : List String
  organizationKeyed : ∀ {organizationId organization}, organizations.get? organizationId = some organization →
    organization.record.organizationId = organizationId
  projectKeyed : ∀ {key project}, projects.get? key = some project →
    (project.record.organizationId, project.record.projectId) = key
  membershipKeyed : ∀ {key membership}, memberships.get? key = some membership →
    (membership.organizationId, membership.actorId) = key
  keyed : ∀ {assignmentId assignment}, assignments.get? assignmentId = some assignment →
    assignment.assignmentId = assignmentId
  filed : ∀ {assignmentId assignment}, assignments.get? assignmentId = some assignment → assignmentId ∈ issued

namespace ControlPlane

/-- A new store. -/
def empty : ControlPlane :=
  ⟨.empty, .empty, .empty, .empty, [], by simp, by simp, by simp, by simp, by simp⟩

/-! ## Writes without their checks -/

/-- Store an organization under its identifier. -/
def putOrganization (plane : ControlPlane) (organization : Organization) : ControlPlane :=
  { plane with
    organizations := plane.organizations.set organization.record.organizationId organization
    organizationKeyed := plane.organizations.keyed_set plane.organizationKeyed rfl }

/-- Store a project under its organization. -/
def putProject (plane : ControlPlane) (project : Project) : ControlPlane :=
  { plane with
    projects := plane.projects.set (project.record.organizationId, project.record.projectId) project
    projectKeyed := plane.projects.keyed_set plane.projectKeyed rfl }

/-- Store a membership under its organization. -/
def putMembership (plane : ControlPlane) (membership : OrganizationMembership) : ControlPlane :=
  { plane with
    memberships := plane.memberships.set (membership.organizationId, membership.actorId) membership
    membershipKeyed := plane.memberships.keyed_set plane.membershipKeyed rfl }

/-- Store an assignment under its identifier. -/
def putAssignment (plane : ControlPlane) (assignment : RoleAssignment) : ControlPlane :=
  { plane with
    assignments := plane.assignments.set assignment.assignmentId assignment
    issued := assignment.assignmentId :: plane.issued
    keyed := plane.assignments.keyed_set plane.keyed rfl
    filed := by
      intro assignmentId stored found
      rw [Dict.get?_set] at found
      split at found
      · rename_i same
        rw [same]
        exact List.mem_cons_self
      · exact List.mem_cons_of_mem _ (plane.filed found) }

/-- Remove an assignment. -/
def dropAssignment (plane : ControlPlane) (assignmentId : String) : ControlPlane :=
  { plane with
    assignments := plane.assignments.erase assignmentId
    keyed := by
      intro other stored found
      rw [Dict.get?_erase] at found
      split at found
      · cases found
      · exact plane.keyed found
    filed := by
      intro other stored found
      rw [Dict.get?_erase] at found
      split at found
      · cases found
      · exact plane.filed found }

/-! ## Reads -/

variable (plane : ControlPlane)

/-- `get_organization`. -/
def getOrganization (organizationId : String) : Except Raised Organization :=
  match plane.organizations.get? organizationId with
  | some organization => .ok organization
  | none => .error ⟨.organizationNotFound, organizationId⟩

/-- `get_project`. -/
def getProject (organizationId projectId : String) : Except Raised Project :=
  match plane.projects.get? (organizationId, projectId) with
  | some project => .ok project
  | none => .error ⟨.projectNotFound, projectId⟩

/-- `get_membership`. -/
def getMembership (organizationId actorId : String) : Except Raised OrganizationMembership :=
  match plane.memberships.get? (organizationId, actorId) with
  | some membership => .ok membership
  | none => .error ⟨.membershipNotFound, actorId⟩

/-- `get_assignment`. -/
def getAssignment (organizationId assignmentId : String) : Except Raised RoleAssignment :=
  match plane.assignments.get? assignmentId with
  | some assignment =>
    if assignment.organizationId ≠ organizationId then .error ⟨.roleAssignmentNotFound, assignmentId⟩
    else .ok assignment
  | none => .error ⟨.roleAssignmentNotFound, assignmentId⟩

/-- `list_assignments`; a project also lists what is granted for the whole organization. -/
def listAssignments (organizationId : String) (actorId projectId : Option String) : List RoleAssignment :=
  plane.assignments.values.filter fun item =>
    item.organizationId = organizationId && actorId.all (item.actorId = ·) &&
      (projectId.isNone || item.projectId = none || item.projectId = projectId)

/-! ## Checked writes -/

/-- `create_organization`. -/
def createOrganization (organization : Organization) : Except Raised ControlPlane :=
  if (plane.organizations.get? organization.record.organizationId).isSome ||
      plane.organizations.values.any (·.record.slug = organization.record.slug) then
    .error ⟨.organizationSlugConflict, organization.record.slug⟩
  else .ok (plane.putOrganization organization)

/-- `update_organization`. -/
def updateOrganization (organization : Organization) : Except Raised ControlPlane := do
  let _ ← plane.getOrganization organization.record.organizationId
  if plane.organizations.values.any fun item =>
      item.record.slug = organization.record.slug &&
        item.record.organizationId ≠ organization.record.organizationId then
    .error ⟨.organizationSlugConflict, organization.record.slug⟩
  else .ok (plane.putOrganization organization)

/-- `create_project`. -/
def createProject (project : Project) : Except Raised ControlPlane := do
  let _ ← plane.getOrganization project.record.organizationId
  if (plane.projects.get? (project.record.organizationId, project.record.projectId)).isSome ||
      plane.projects.values.any fun item =>
        item.record.organizationId = project.record.organizationId && item.record.slug = project.record.slug then
    .error ⟨.projectSlugConflict, project.record.slug⟩
  else .ok (plane.putProject project)

/-- `update_project`. -/
def updateProject (project : Project) : Except Raised ControlPlane := do
  let _ ← plane.getProject project.record.organizationId project.record.projectId
  if plane.projects.values.any fun item =>
      item.record.organizationId = project.record.organizationId && item.record.slug = project.record.slug &&
        item.record.projectId ≠ project.record.projectId then
    .error ⟨.projectSlugConflict, project.record.slug⟩
  else .ok (plane.putProject project)

/-- `create_membership`. -/
def createMembership (membership : OrganizationMembership) : Except Raised ControlPlane := do
  let _ ← plane.getOrganization membership.organizationId
  if (plane.memberships.get? (membership.organizationId, membership.actorId)).isSome then
    .error ⟨.membershipConflict, membership.actorId⟩
  else .ok (plane.putMembership membership)

/-- `update_membership`. -/
def updateMembership (membership : OrganizationMembership) : Except Raised ControlPlane := do
  let _ ← plane.getMembership membership.organizationId membership.actorId
  .ok (plane.putMembership membership)

/-- The project of an assignment exists, where it names one. -/
def requireProject (organizationId : String) : Option String → Except Raised Unit
  | some projectId => (plane.getProject organizationId projectId).map fun _ => ()
  | none => .ok ()

/-- `create_assignment`. -/
def createAssignment (assignment : RoleAssignment) : Except Raised ControlPlane := do
  let _ ← plane.getMembership assignment.organizationId assignment.actorId
  plane.requireProject assignment.organizationId assignment.projectId
  if plane.assignments.values.any (·.sameGrant assignment) then
    .error ⟨.roleAssignmentConflict, assignment.actorId⟩
  else .ok (plane.putAssignment assignment)

/-- `delete_assignment`. -/
def deleteAssignment (organizationId assignmentId : String) : Except Raised (RoleAssignment × ControlPlane) := do
  let assignment ← plane.getAssignment organizationId assignmentId
  .ok (assignment, plane.dropAssignment assignmentId)

/-! ## What they do -/

variable {plane}

variable {organization : Organization} {organizationId : String}

theorem getOrganization_ok (given : plane.getOrganization organizationId = .ok organization) :
    plane.organizations.get? organizationId = some organization := by
  unfold getOrganization at given
  split at given
  · rename_i found
    cases given
    exact found
  · cases given

variable {project : Project}

theorem getProject_ok {projectId : String} (given : plane.getProject organizationId projectId = .ok project) :
    plane.projects.get? (organizationId, projectId) = some project := by
  unfold getProject at given
  split at given
  · rename_i found
    cases given
    exact found
  · cases given

variable {membership : OrganizationMembership}

theorem getMembership_ok {actorId : String} :
    plane.getMembership organizationId actorId = .ok membership ↔
      plane.memberships.get? (organizationId, actorId) = some membership := by
  unfold getMembership
  cases plane.memberships.get? (organizationId, actorId) with
  | none => simp
  | some found => simp

variable {assignment : RoleAssignment}

theorem getAssignment_ok {assignmentId : String}
    (given : plane.getAssignment organizationId assignmentId = .ok assignment) :
    plane.assignments.get? assignmentId = some assignment ∧ assignment.organizationId = organizationId := by
  unfold getAssignment at given
  split at given
  · rename_i found
    split at given
    · cases given
    · rename_i here
      cases given
      exact ⟨found, not_not.mp here⟩
  · cases given

theorem mem_listAssignments {actorId projectId : Option String} :
    assignment ∈ plane.listAssignments organizationId actorId projectId ↔
      plane.assignments.get? assignment.assignmentId = some assignment ∧
        assignment.organizationId = organizationId ∧ (∀ actor ∈ actorId, assignment.actorId = actor) ∧
        (projectId = none ∨ assignment.projectId = none ∨ assignment.projectId = projectId) := by
  unfold listAssignments
  rw [List.mem_filter, Dict.mem_values_iff]
  have stored : (∃ key, plane.assignments.get? key = some assignment) ↔
      plane.assignments.get? assignment.assignmentId = some assignment := by
    constructor
    · rintro ⟨key, found⟩
      rw [plane.keyed found]
      exact found
    · exact fun found => ⟨_, found⟩
  rw [stored]
  cases actorId <;> simp [and_assoc, or_assoc]

variable {after : ControlPlane}

theorem createOrganization_ok (given : plane.createOrganization organization = .ok after) :
    plane.organizations.get? organization.record.organizationId = none ∧
      after = plane.putOrganization organization := by
  unfold createOrganization at given
  split at given
  · cases given
  · rename_i free
    cases given
    simp only [Bool.or_eq_true, not_or, Bool.not_eq_true, Option.isSome_eq_false_iff] at free
    exact ⟨Option.isNone_iff_eq_none.mp free.1, rfl⟩

theorem updateOrganization_ok (given : plane.updateOrganization organization = .ok after) :
    (∃ current, plane.organizations.get? organization.record.organizationId = some current) ∧
      after = plane.putOrganization organization := by
  obtain ⟨current, read, rest⟩ := bind_ok given
  split at rest
  · cases rest
  · cases rest
    exact ⟨⟨current, getOrganization_ok read⟩, rfl⟩

theorem createProject_ok (given : plane.createProject project = .ok after) : after = plane.putProject project := by
  obtain ⟨_, -, rest⟩ := bind_ok given
  split at rest
  · cases rest
  · cases rest
    rfl

theorem updateProject_ok (given : plane.updateProject project = .ok after) : after = plane.putProject project := by
  obtain ⟨_, -, rest⟩ := bind_ok given
  split at rest
  · cases rest
  · cases rest
    rfl

theorem createMembership_ok (given : plane.createMembership membership = .ok after) :
    plane.memberships.get? (membership.organizationId, membership.actorId) = none ∧
      after = plane.putMembership membership := by
  obtain ⟨_, -, rest⟩ := bind_ok given
  split at rest
  · cases rest
  · rename_i free
    cases rest
    rw [Bool.not_eq_true, Option.isSome_eq_false_iff] at free
    exact ⟨Option.isNone_iff_eq_none.mp free, rfl⟩

theorem updateMembership_ok (given : plane.updateMembership membership = .ok after) :
    (∃ current, plane.memberships.get? (membership.organizationId, membership.actorId) = some current) ∧
      after = plane.putMembership membership := by
  obtain ⟨current, read, rest⟩ := bind_ok given
  cases rest
  exact ⟨⟨current, getMembership_ok.mp read⟩, rfl⟩

theorem createAssignment_ok (given : plane.createAssignment assignment = .ok after) :
    (∃ membership, plane.memberships.get? (assignment.organizationId, assignment.actorId) = some membership) ∧
      (∀ assignmentId stored, plane.assignments.get? assignmentId = some stored →
        stored.sameGrant assignment = false) ∧
      after = plane.putAssignment assignment := by
  obtain ⟨membership, read, rest⟩ := bind_ok given
  obtain ⟨_, -, checked⟩ := bind_ok rest
  split at checked
  · cases checked
  · rename_i free
    cases checked
    refine ⟨⟨membership, getMembership_ok.mp read⟩, fun assignmentId stored found => ?_, rfl⟩
    rw [Bool.not_eq_true, List.any_eq_false] at free
    simpa using free stored ((Dict.mem_values_iff _ _).mpr ⟨assignmentId, found⟩)

/-- An assignment is refused as a conflict where an equal grant stands. -/
theorem createAssignment_conflict {raised : Raised} (given : plane.createAssignment assignment = .error raised)
    (conflict : raised.kind = .roleAssignmentConflict) :
    ∃ assignmentId stored, plane.assignments.get? assignmentId = some stored ∧
      stored.sameGrant assignment = true := by
  rcases bind_error given with unread | ⟨_, -, rest⟩
  · unfold getMembership at unread
    split at unread
    · cases unread
    · cases unread
      cases conflict
  · rcases bind_error rest with unread | ⟨_, -, checked⟩
    · unfold requireProject getProject at unread
      split at unread
      · split at unread
        · cases unread
        · cases unread
          cases conflict
      · cases unread
    · split at checked
      · rename_i granted
        obtain ⟨stored, listed, same⟩ := List.any_eq_true.mp granted
        obtain ⟨assignmentId, found⟩ := (Dict.mem_values_iff _ _).mp listed
        exact ⟨assignmentId, stored, found, same⟩
      · cases checked

theorem deleteAssignment_ok {assignmentId : String}
    (given : plane.deleteAssignment organizationId assignmentId = .ok (assignment, after)) :
    plane.assignments.get? assignmentId = some assignment ∧ assignment.organizationId = organizationId ∧
      after = plane.dropAssignment assignmentId := by
  obtain ⟨stored, read, rest⟩ := bind_ok given
  cases rest
  obtain ⟨found, here⟩ := getAssignment_ok read
  exact ⟨found, here, rfl⟩

end ControlPlane

end AiGovernance.Tenancy
