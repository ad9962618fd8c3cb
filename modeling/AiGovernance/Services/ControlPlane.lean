import AiGovernance.Repositories.ControlPlane
import AiGovernance.Semantics.Program

/-!
# The control plane

`AuthorizationService.authorize` (`tenancy/authorization.py`), the operations of
`ControlPlaneService` and the `provision_*` functions (`tenancy/services.py`) as
programs over the store. A repository method is one command; so is each of the
two sections of the service that hold `repository.lock`. Clock readings, random
identifiers and environment variables are arguments.
-/

namespace AiGovernance.Tenancy

open AiGovernance.Std Domain Semantics

variable {command : ControlPlaneCommand}

namespace ControlPlane

/-! ## Sections under the lock -/

/-- The condition on one assignment in the set of `_protect_last_admin`. -/
def isOtherAdmin (plane : ControlPlane) (organizationId actorId : String) (excluded : Option String)
    (item : RoleAssignment) : Except Raised Bool :=
  if item.role = .organizationAdmin && item.projectId = none && excluded ≠ some item.assignmentId then do
    let membership ← plane.getMembership organizationId item.actorId
    .ok (membership.status = .active && item.actorId ≠ actorId)
  else .ok false

/-- `active_admins`. -/
def otherAdmins (plane : ControlPlane) (organizationId actorId : String) (excluded : Option String) :
    List RoleAssignment → Except Raised (List RoleAssignment)
  | [] => .ok []
  | item :: rest => do
      let kept ← plane.isOtherAdmin organizationId actorId excluded item
      let others ← plane.otherAdmins organizationId actorId excluded rest
      .ok (if kept then item :: others else others)

/-- `_protect_last_admin`. -/
def protectLastAdmin (plane : ControlPlane) (organizationId actorId : String) (excluded : Option String) :
    Except Raised Unit := do
  let admins ← plane.otherAdmins organizationId actorId excluded (plane.listAssignments organizationId none none)
  if admins.isEmpty then .error ⟨.lastOrganizationAdministrator, actorId⟩ else .ok ()

/-- `_protect_last_admin` where a change asks for it. -/
def protectIf (plane : ControlPlane) (asked : Bool) (organizationId actorId : String) (excluded : Option String) :
    Except Raised Unit :=
  if asked then plane.protectLastAdmin organizationId actorId excluded else .ok ()

/-- The locked section of `update_membership`. -/
def changeMembership (plane : ControlPlane) (organizationId actorId : String) (status : MembershipStatus)
    (now : Instant) : Except Raised (OrganizationMembership × ControlPlane) := do
  let current ← plane.getMembership organizationId actorId
  plane.protectIf (status ≠ .active) organizationId actorId none
  let changed := { current with status, updatedAt := now }
  let after ← plane.updateMembership changed
  .ok (changed, after)

/-- The locked section of `remove_assignment`. -/
def withdrawAssignment (plane : ControlPlane) (organizationId assignmentId : String) :
    Except Raised (RoleAssignment × ControlPlane) := do
  let assignment ← plane.getAssignment organizationId assignmentId
  plane.protectIf (assignment.role = .organizationAdmin && assignment.projectId = none) organizationId
    assignment.actorId (some assignmentId)
  plane.deleteAssignment organizationId assignmentId

end ControlPlane

/-- The repository calls of the control plane. -/
inductive ControlPlaneCommand where
  | getOrganization (organizationId : String)
  | createOrganization (organization : Organization)
  | updateOrganization (organization : Organization)
  | getProject (organizationId projectId : String)
  | createProject (project : Project)
  | updateProject (project : Project)
  | getMembership (organizationId actorId : String)
  | createMembership (membership : OrganizationMembership)
  | updateMembership (membership : OrganizationMembership)
  | changeMembership (organizationId actorId : String) (status : MembershipStatus) (now : Instant)
  | createAssignment (assignment : RoleAssignment)
  | getAssignment (organizationId assignmentId : String)
  | listAssignments (organizationId : String) (actorId projectId : Option String)
  | deleteAssignment (organizationId assignmentId : String)
  | withdrawAssignment (organizationId assignmentId : String)

/-- The control-plane store as an interface. -/
abbrev controlPlaneRepository : Interface where
  Command := ControlPlaneCommand
  Answer
    | .getOrganization _ | .createOrganization _ | .updateOrganization _ => Organization
    | .getProject _ _ | .createProject _ | .updateProject _ => Project
    | .getMembership _ _ | .createMembership _ | .updateMembership _ | .changeMembership .. => OrganizationMembership
    | .createAssignment _ | .getAssignment _ _ | .deleteAssignment _ _ | .withdrawAssignment _ _ => RoleAssignment
    | .listAssignments .. => List RoleAssignment
  Exception := Raised

namespace ControlPlane

/-- A write that returns what it was given. -/
def stored {α : Type} (plane : ControlPlane) (value : α) : Except Raised ControlPlane → Except Raised α × ControlPlane
  | .ok after => (.ok value, after)
  | .error raised => (.error raised, plane)

/-- A write that returns what it found. -/
def changed {α : Type} (plane : ControlPlane) :
    Except Raised (α × ControlPlane) → Except Raised α × ControlPlane
  | .ok (value, after) => (.ok value, after)
  | .error raised => (.error raised, plane)

/-- `InMemoryControlPlaneRepository`, one call at a time. -/
def handle : Handler controlPlaneRepository ControlPlane
  | .getOrganization organizationId, plane => (plane.getOrganization organizationId, plane)
  | .createOrganization organization, plane => plane.stored organization (plane.createOrganization organization)
  | .updateOrganization organization, plane => plane.stored organization (plane.updateOrganization organization)
  | .getProject organizationId projectId, plane => (plane.getProject organizationId projectId, plane)
  | .createProject project, plane => plane.stored project (plane.createProject project)
  | .updateProject project, plane => plane.stored project (plane.updateProject project)
  | .getMembership organizationId actorId, plane => (plane.getMembership organizationId actorId, plane)
  | .createMembership membership, plane => plane.stored membership (plane.createMembership membership)
  | .updateMembership membership, plane => plane.stored membership (plane.updateMembership membership)
  | .changeMembership organizationId actorId status now, plane =>
    plane.changed (plane.changeMembership organizationId actorId status now)
  | .createAssignment assignment, plane => plane.stored assignment (plane.createAssignment assignment)
  | .getAssignment organizationId assignmentId, plane => (plane.getAssignment organizationId assignmentId, plane)
  | .listAssignments organizationId actorId projectId, plane =>
    (.ok (plane.listAssignments organizationId actorId projectId), plane)
  | .deleteAssignment organizationId assignmentId, plane =>
    plane.changed (plane.deleteAssignment organizationId assignmentId)
  | .withdrawAssignment organizationId assignmentId, plane =>
    plane.changed (plane.withdrawAssignment organizationId assignmentId)

/-! ## What a command does -/

variable {plane : ControlPlane}

theorem changeMembership_ok {organizationId actorId : String} {status : MembershipStatus} {now : Instant}
    {changed : OrganizationMembership} {after : ControlPlane}
    (given : plane.changeMembership organizationId actorId status now = .ok (changed, after)) :
    after = plane.putMembership changed ∧ changed.status = status ∧
      (∃ current, plane.memberships.get? (organizationId, actorId) = some current ∧
        changed = { current with status, updatedAt := now }) ∧
      (status ≠ .active → plane.protectLastAdmin organizationId actorId none = .ok ()) := by
  obtain ⟨current, read, rest⟩ := bind_ok given
  obtain ⟨⟨⟩, guarded, written⟩ := bind_ok rest
  obtain ⟨stored, saved, built⟩ := bind_ok written
  cases built
  refine ⟨(updateMembership_ok saved).2, rfl, ⟨current, getMembership_ok.mp read, rfl⟩, fun inactive => ?_⟩
  simpa [protectIf, inactive] using guarded

theorem withdrawAssignment_ok {organizationId assignmentId : String} {assignment : RoleAssignment}
    {after : ControlPlane} (given : plane.withdrawAssignment organizationId assignmentId = .ok (assignment, after)) :
    plane.assignments.get? assignmentId = some assignment ∧ assignment.organizationId = organizationId ∧
      after = plane.dropAssignment assignmentId ∧
      (assignment.role = .organizationAdmin → assignment.projectId = none →
        plane.protectLastAdmin organizationId assignment.actorId (some assignmentId) = .ok ()) := by
  obtain ⟨current, read, rest⟩ := bind_ok given
  obtain ⟨⟨⟩, guarded, deleted⟩ := bind_ok rest
  obtain ⟨found, here, rfl⟩ := deleteAssignment_ok deleted
  obtain ⟨foundCurrent, -⟩ := getAssignment_ok read
  obtain rfl := Option.some.inj (foundCurrent.symm.trans found)
  refine ⟨found, here, rfl, fun role wide => ?_⟩
  simpa [protectIf, role, wide] using guarded

/-- Everything a command can do to the tables, with what it found there. -/
inductive Effect (plane : ControlPlane) : ControlPlaneCommand → ControlPlane → Prop where
  | unchanged {command : ControlPlaneCommand} : Effect plane command plane
  | organizationCreated {organization : Organization}
      (absent : plane.organizations.get? organization.record.organizationId = none) :
      Effect plane (.createOrganization organization) (plane.putOrganization organization)
  | organizationUpdated {organization current : Organization}
      (found : plane.organizations.get? organization.record.organizationId = some current) :
      Effect plane (.updateOrganization organization) (plane.putOrganization organization)
  | projectCreated {project : Project} : Effect plane (.createProject project) (plane.putProject project)
  | projectUpdated {project : Project} : Effect plane (.updateProject project) (plane.putProject project)
  | membershipCreated {membership : OrganizationMembership}
      (absent : plane.memberships.get? (membership.organizationId, membership.actorId) = none) :
      Effect plane (.createMembership membership) (plane.putMembership membership)
  | membershipUpdated {membership current : OrganizationMembership}
      (found : plane.memberships.get? (membership.organizationId, membership.actorId) = some current) :
      Effect plane (.updateMembership membership) (plane.putMembership membership)
  | membershipChanged {organizationId actorId : String} {status : MembershipStatus} {now : Instant}
      {current : OrganizationMembership}
      (found : plane.memberships.get? (organizationId, actorId) = some current)
      (guarded : status ≠ .active → plane.protectLastAdmin organizationId actorId none = .ok ()) :
      Effect plane (.changeMembership organizationId actorId status now)
        (plane.putMembership { current with status, updatedAt := now })
  | assignmentCreated {assignment : RoleAssignment}
      (member : ∃ membership,
        plane.memberships.get? (assignment.organizationId, assignment.actorId) = some membership)
      (distinct : ∀ assignmentId stored, plane.assignments.get? assignmentId = some stored →
        stored.sameGrant assignment = false) :
      Effect plane (.createAssignment assignment) (plane.putAssignment assignment)
  | assignmentDeleted {organizationId assignmentId : String} {assignment : RoleAssignment}
      (found : plane.assignments.get? assignmentId = some assignment)
      (here : assignment.organizationId = organizationId) :
      Effect plane (.deleteAssignment organizationId assignmentId) (plane.dropAssignment assignmentId)
  | assignmentWithdrawn {organizationId assignmentId : String} {assignment : RoleAssignment}
      (found : plane.assignments.get? assignmentId = some assignment)
      (here : assignment.organizationId = organizationId)
      (guarded : assignment.role = .organizationAdmin → assignment.projectId = none →
        plane.protectLastAdmin organizationId assignment.actorId (some assignmentId) = .ok ()) :
      Effect plane (.withdrawAssignment organizationId assignmentId) (plane.dropAssignment assignmentId)

theorem stored_effect {α : Type} {value : α} {result : Except Raised ControlPlane}
    (effect : ∀ after, result = .ok after → plane.Effect command after) :
    plane.Effect command (plane.stored value result).2 := by
  cases result with
  | ok after => exact effect after rfl
  | error raised => exact .unchanged

theorem changed_effect {α : Type} {result : Except Raised (α × ControlPlane)}
    (effect : ∀ value after, result = .ok (value, after) → plane.Effect command after) :
    plane.Effect command (plane.changed result).2 := by
  rcases result with raised | ⟨value, after⟩
  · exact .unchanged
  · exact effect value after rfl

theorem handle_effect (plane : ControlPlane) (command : ControlPlaneCommand) :
    plane.Effect command (handle command plane).2 := by
  cases command with
  | getOrganization => exact .unchanged
  | getProject => exact .unchanged
  | getMembership => exact .unchanged
  | getAssignment => exact .unchanged
  | listAssignments => exact .unchanged
  | createOrganization organization =>
    refine stored_effect fun after given => ?_
    obtain ⟨absent, rfl⟩ := createOrganization_ok given
    exact .organizationCreated absent
  | updateOrganization organization =>
    refine stored_effect fun after given => ?_
    obtain ⟨⟨current, found⟩, rfl⟩ := updateOrganization_ok given
    exact .organizationUpdated found
  | createProject project =>
    refine stored_effect fun after given => ?_
    rw [createProject_ok given]
    exact .projectCreated
  | updateProject project =>
    refine stored_effect fun after given => ?_
    rw [updateProject_ok given]
    exact .projectUpdated
  | createMembership membership =>
    refine stored_effect fun after given => ?_
    obtain ⟨absent, rfl⟩ := createMembership_ok given
    exact .membershipCreated absent
  | updateMembership membership =>
    refine stored_effect fun after given => ?_
    obtain ⟨⟨current, found⟩, rfl⟩ := updateMembership_ok given
    exact .membershipUpdated found
  | changeMembership organizationId actorId status now =>
    refine changed_effect fun value after given => ?_
    obtain ⟨rfl, -, ⟨current, found, rfl⟩, guarded⟩ := changeMembership_ok given
    exact .membershipChanged found guarded
  | createAssignment assignment =>
    refine stored_effect fun after given => ?_
    obtain ⟨member, distinct, rfl⟩ := createAssignment_ok given
    exact .assignmentCreated member distinct
  | deleteAssignment organizationId assignmentId =>
    refine changed_effect fun value after given => ?_
    obtain ⟨found, here, rfl⟩ := deleteAssignment_ok given
    exact .assignmentDeleted found here
  | withdrawAssignment organizationId assignmentId =>
    refine changed_effect fun value after given => ?_
    obtain ⟨found, here, rfl, guarded⟩ := withdrawAssignment_ok given
    exact .assignmentWithdrawn found here guarded

end ControlPlane

/-- A computation over the control-plane store. -/
abbrev ControlPlaneOperation := Program controlPlaneRepository

/-- Issue a repository call. -/
def request (command : ControlPlaneCommand) : ControlPlaneOperation (controlPlaneRepository.Answer command) :=
  Program.call (I := controlPlaneRepository) command

/-- Issue a repository call under `try`. -/
def tryRequest (command : ControlPlaneCommand) :
    ControlPlaneOperation (Except Raised (controlPlaneRepository.Answer command)) :=
  Program.attempt (I := controlPlaneRepository) command

/-! ## Authorization -/

/-- `TenantContext`; what only audit records read is left out. -/
structure TenantContext where
  organizationId : String
  projectId : Option String
  actorId : String
deriving DecidableEq

/-- `AuthorizationResource`, where it is compared with the context. -/
structure AuthorizationResource where
  organizationId : Option String
  projectId : Option String
deriving DecidableEq

/-- `AuthorizationReasonCode`. -/
inductive AuthorizationReasonCode where
  | allowedByRole
  | actorNotMember
  | membershipInactive
  | noRoleAssignment
  | permissionNotGranted
  | organizationInactive
  | projectInactive
  | tenantScopeMismatch
deriving DecidableEq

/-- `AuthorizationDecision`. -/
structure AuthorizationDecision where
  allowed : Bool
  permission : PermissionName
  matchedRoles : List BuiltInRole
  reasonCode : AuthorizationReasonCode
deriving DecidableEq

/-- The permissions that stay in a suspended organization. -/
def keptWhenSuspended : List Permission :=
  [.organizationRead, .organizationUpdate, .projectRead, .membershipRead, .roleAssignmentRead, .auditRead]

/-- The status of an organization closes it for a permission. -/
def closes (permission : PermissionName) : OrganizationStatus → Bool
  | .archived => permission ≠ .builtIn .organizationRead
  | .suspended => !(keptWhenSuspended.map Permission.value).contains permission.text
  | .active => false

/-- A resource belongs to another tenant than the context. -/
def AuthorizationResource.foreign (resource : AuthorizationResource) (context : TenantContext) : Bool :=
  (resource.organizationId.any fun organizationId =>
    organizationId ≠ "" && organizationId ≠ context.organizationId) ||
  (resource.projectId.any fun projectId => projectId ≠ "" && some projectId ≠ context.projectId)

/-- The roles that assignments give in a context, in the order of their texts. -/
def rolesOf (context : TenantContext) (assignments : List RoleAssignment) : List BuiltInRole :=
  BuiltInRole.sorted.filter fun role =>
    assignments.any fun item =>
      item.role = role && (item.projectId = none || item.projectId = context.projectId)

section Authorize

variable (extensions : List String) (context : TenantContext) (permission : PermissionName)

/-- `denied`. -/
def denied (reason : AuthorizationReasonCode) : AuthorizationDecision := ⟨false, permission, [], reason⟩

/-- The end of `authorize`, on the assignments of the actor. -/
def decideRoles (assignments : List RoleAssignment) : AuthorizationDecision :=
  if assignments.isEmpty then denied permission .noRoleAssignment
  else
    let roles := rolesOf context assignments
    let matched := roles.filter (·.grants extensions permission)
    if matched.isEmpty then ⟨false, permission, roles, .permissionNotGranted⟩
    else ⟨true, permission, matched, .allowedByRole⟩

/-- The part of `authorize` after the project was found to be active. -/
def authorizeRoles : ControlPlaneOperation AuthorizationDecision := do
  let assignments ← request (.listAssignments context.organizationId (some context.actorId) context.projectId)
  return decideRoles extensions context permission assignments

/-- The part of `authorize` about the project of the context. -/
def authorizeProject : ControlPlaneOperation AuthorizationDecision :=
  match Text.orElse context.projectId none with
  | none => authorizeRoles extensions context permission
  | some projectId => do
      match ← tryRequest (.getProject context.organizationId projectId) with
      | .error raised =>
        if raised.kind = .projectNotFound then return denied permission .tenantScopeMismatch else .raise raised
      | .ok project =>
        if project.record.status ≠ .active then return denied permission .projectInactive
        else authorizeRoles extensions context permission

/-- The part of `authorize` about the membership of the actor. -/
def authorizeMember (resource : Option AuthorizationResource) : ControlPlaneOperation AuthorizationDecision := do
  match ← tryRequest (.getMembership context.organizationId context.actorId) with
  | .error raised =>
    if raised.kind = .membershipNotFound then return denied permission .actorNotMember else .raise raised
  | .ok membership =>
    if membership.status ≠ .active then return denied permission .membershipInactive
    else if resource.any (·.foreign context) then return denied permission .tenantScopeMismatch
    else authorizeProject extensions context permission

/-- `authorize`. -/
def authorize (resource : Option AuthorizationResource) : ControlPlaneOperation AuthorizationDecision := do
  match ← tryRequest (.getOrganization context.organizationId) with
  | .error raised =>
    if raised.kind = .organizationNotFound then return denied permission .tenantScopeMismatch else .raise raised
  | .ok organization =>
    if closes permission organization.record.status then return denied permission .organizationInactive
    else authorizeMember extensions context permission resource

end Authorize

/-- `require`. -/
def require (extensions : List String) (context : TenantContext) (permission : Permission) :
    ControlPlaneOperation Unit := do
  let decision ← authorize extensions context (.builtIn permission) none
  if decision.allowed then return ()
  else .raise ⟨.authorizationDenied, "Actor is not authorized for this operation"⟩

/-- The commands that change nothing. -/
def Reads : ControlPlaneCommand → Prop
  | .getOrganization _ | .getProject _ _ | .getMembership _ _ | .getAssignment _ _ | .listAssignments .. => True
  | _ => False

theorem Reads.unchanged (reads : Reads command) (plane : ControlPlane) :
    (ControlPlane.handle command plane).2 = plane := by
  cases command with
  | getOrganization | getProject | getMembership | getAssignment | listAssignments => rfl
  | createOrganization | updateOrganization | createProject | updateProject | createMembership | updateMembership
  | changeMembership | createAssignment | deleteAssignment | withdrawAssignment => exact reads.elim

section Authorize

variable (extensions : List String) (context : TenantContext)

theorem within_authorizeRoles (permission : PermissionName) :
    (authorizeRoles extensions context permission).Within Reads fun _ => True :=
  Program.within_call_bind trivial fun _ => trivial

theorem within_authorizeProject (permission : PermissionName) :
    (authorizeProject extensions context permission).Within Reads fun _ => True := by
  unfold authorizeProject
  split
  · exact within_authorizeRoles extensions context permission
  · refine Program.within_attempt_bind trivial fun answer => ?_
    cases answer with
    | error raised =>
      dsimp only
      split
      · trivial
      · trivial
    | ok project =>
      dsimp only
      split
      · trivial
      · exact within_authorizeRoles extensions context permission

theorem within_authorizeMember (permission : PermissionName) (resource : Option AuthorizationResource) :
    (authorizeMember extensions context permission resource).Within Reads fun _ => True := by
  refine Program.within_attempt_bind trivial fun answer => ?_
  cases answer with
  | error raised =>
    dsimp only
    split
    · trivial
    · trivial
  | ok membership =>
    dsimp only
    split
    · trivial
    · split
      · trivial
      · exact within_authorizeProject extensions context permission

theorem within_authorize (permission : PermissionName) (resource : Option AuthorizationResource) :
    (authorize extensions context permission resource).Within Reads fun _ => True := by
  refine Program.within_attempt_bind trivial fun answer => ?_
  cases answer with
  | error raised =>
    dsimp only
    split
    · trivial
    · trivial
  | ok organization =>
    dsimp only
    split
    · trivial
    · exact within_authorizeMember extensions context permission resource

theorem within_require (permission : Permission) :
    (require extensions context permission).Within Reads fun _ => True := by
  refine Program.within_bind.mpr ((within_authorize extensions context (.builtIn permission) none).mono
    (fun _ reads => reads) fun decision _ => ?_)
  split
  · trivial
  · trivial

/-- A permission check changes nothing: what follows it starts from the same tables. -/
theorem require_then {α : Type} {permission : Permission} {next : Unit → ControlPlaneOperation α}
    {plane : ControlPlane} {post : Except Raised α → ControlPlane → Prop}
    (allowed : (next ()).Ensures ControlPlane.handle plane post) (refused : ∀ raised, post (.error raised) plane) :
    (require extensions context permission >>= next).Ensures ControlPlane.handle plane post := by
  obtain ⟨same, -⟩ := (within_require extensions context permission).ensures ControlPlane.handle
    (fun before after => after = before) (fun _ => rfl) (fun first second => second.trans first)
    (fun command state reads => Reads.unchanged reads state) plane
  rw [Program.ensures_bind]
  unfold Program.Ensures
  rw [same]
  cases ((require extensions context permission).run ControlPlane.handle plane).1 with
  | ok => exact allowed
  | error raised => exact refused raised

end Authorize

/-! ## Operations of the service -/

/-- `name.strip() if name else current`. -/
def renamed (name : Option String) (current : String) : String :=
  match Text.orElse name none with
  | some given => Text.strip given
  | none => current

/-- `validate_slug(slug) if slug else current`. -/
def reslugged (slug : Option String) (current : String) : Except Raised String :=
  match Text.orElse slug none with
  | some given => validateSlug given
  | none => .ok current

/-- `create_organization`. -/
def createOrganization (organizationId name slug actorId : String) (actorName : Option String) (now : Instant)
    (uuid : Uuid) : ControlPlaneOperation Organization := do
  let slug ← Program.ofExcept (validateSlug slug)
  let organization : Organization ← Program.ofExcept (Checked.create
    { organizationId, name := Text.strip name, slug, status := .active, createdAt := now, updatedAt := now })
  let created ← request (.createOrganization organization)
  let _ ← request (.createMembership ⟨organizationId, actorId, .active, now, now, actorName⟩)
  let _ ← request (.createAssignment
    ⟨uuid.roleId, organizationId, none, actorId, .organizationAdmin, now, actorId⟩)
  return created

section Operations

variable (extensions : List String) (context : TenantContext)

/-- `update_organization`. -/
def updateOrganization (name slug : Option String) (status : Option OrganizationStatus) (now : Instant) :
    ControlPlaneOperation Organization := do
  require extensions context .organizationUpdate
  let current ← request (.getOrganization context.organizationId)
  if current.record.status = .archived then
    .raise ⟨.organizationInactive, current.record.organizationId⟩
  else do
    let slug ← Program.ofExcept (reslugged slug current.record.slug)
    let organization : Organization ← Program.ofExcept (Checked.create { current.record with
      name := renamed name current.record.name
      slug
      status := status.getD current.record.status
      updatedAt := now })
    request (.updateOrganization organization)

/-- `create_project`. -/
def createProject (projectId name slug : String) (description : Option String) (now : Instant) :
    ControlPlaneOperation Project := do
  require extensions context .projectCreate
  let slug ← Program.ofExcept (validateSlug slug)
  let project : Project ← Program.ofExcept (Checked.create
    { projectId, organizationId := context.organizationId, name := Text.strip name, slug, description,
      status := .active, createdAt := now, updatedAt := now })
  request (.createProject project)

/-- `update_project`. -/
def updateProject (projectId : String) (name slug description : Option String) (status : Option ProjectStatus)
    (now : Instant) : ControlPlaneOperation Project := do
  require extensions context (if status = some .archived then .projectArchive else .projectUpdate)
  let current ← request (.getProject context.organizationId projectId)
  if current.record.status = .archived then .raise ⟨.organizationInactive, projectId⟩
  else do
    let slug ← Program.ofExcept (reslugged slug current.record.slug)
    let project : Project ← Program.ofExcept (Checked.create { current.record with
      name := renamed name current.record.name
      slug
      description := description <|> current.record.description
      status := status.getD current.record.status
      updatedAt := now })
    request (.updateProject project)

/-- `add_membership`. -/
def addMembership (actorId : String) (displayName : Option String) (now : Instant) :
    ControlPlaneOperation OrganizationMembership := do
  require extensions context .membershipManage
  request (.createMembership ⟨context.organizationId, actorId, .active, now, now, displayName⟩)

/-- `update_membership`. -/
def updateMembership (actorId : String) (status : MembershipStatus) (now : Instant) :
    ControlPlaneOperation OrganizationMembership := do
  require extensions context .membershipManage
  request (.changeMembership context.organizationId actorId status now)

/-- `assign_role`. -/
def assignRole (actorId : String) (role : BuiltInRole) (projectId : Option String) (now : Instant) (uuid : Uuid) :
    ControlPlaneOperation RoleAssignment := do
  require extensions context .roleAssignmentManage
  request (.createAssignment
    ⟨uuid.roleId, context.organizationId, projectId, actorId, role, now, context.actorId⟩)

/-- `remove_assignment`. -/
def removeAssignment (assignmentId : String) : ControlPlaneOperation RoleAssignment := do
  require extensions context .roleAssignmentManage
  request (.withdrawAssignment context.organizationId assignmentId)

end Operations

/-! ## Provisioning -/

/-- The arguments of `_provision_service_account`. -/
structure ServiceAccount where
  organizationId : String
  projectId : Option String
  displayName : String
  rolePrefix : String
  role : BuiltInRole

/-- The assignment a service account is given. -/
def ServiceAccount.assignment (account : ServiceAccount) (actorId : String) (now : Instant) : RoleAssignment where
  assignmentId := provisionedRoleId account.rolePrefix account.role actorId
  organizationId := account.organizationId
  projectId := account.projectId
  actorId
  role := account.role
  createdAt := now
  createdBy := actorId

/-- The body of the `try` over the membership of a service account. -/
def reactivate (account : ServiceAccount) (actorId : String) (now : Instant) : ControlPlaneOperation Unit := do
  let membership ← request (.getMembership account.organizationId actorId)
  if membership.status ≠ .active then do
    let _ ← request (.updateMembership { membership with status := .active, updatedAt := now })
    return ()
  else return ()

/-- The membership of a service account is made active, or created. -/
def admitMember (account : ServiceAccount) (actorId : String) (now : Instant) : ControlPlaneOperation Unit := do
  match ← Program.caught (reactivate account actorId now) with
  | .ok _ => return ()
  | .error raised =>
    if raised.kind = .membershipNotFound then do
      let _ ← request (.createMembership
        ⟨account.organizationId, actorId, .active, now, now, some account.displayName⟩)
      return ()
    else .raise raised

/-- The role of a service account is assigned where it is missing. -/
def admitRole (account : ServiceAccount) (actorId : String) (now : Instant) : ControlPlaneOperation Unit := do
  let held ← request (.listAssignments account.organizationId (some actorId) none)
  if held.any fun item => item.projectId = account.projectId && item.role = account.role then return ()
  else do
    match ← tryRequest (.createAssignment (account.assignment actorId now)) with
    | .ok _ => return ()
    | .error raised => if raised.kind = .roleAssignmentConflict then return () else .raise raised

/-- `_provision_service_account`. -/
def provisionServiceAccount (account : ServiceAccount) (actorId : Option String) (now : Instant) :
    ControlPlaneOperation Unit :=
  match Text.orElse actorId none with
  | none => return ()
  | some actorId => do
      admitMember account actorId now
      admitRole account actorId now

/-- The account of `provision_mcp_service_account`. -/
def mcpAccount (organizationId : String) : ServiceAccount :=
  ⟨organizationId, none, "AI Governance Control Plane MCP service account", "mcp", .platformOperator⟩

/-- The account of `provision_walkthrough_service_account`. -/
def walkthroughAccount (organizationId : String) : ServiceAccount :=
  ⟨organizationId, none, "AI Governance Control Plane walkthrough service account", "walkthrough", .governanceAdmin⟩

/-- The account of `provision_external_runtime_service_account`. -/
def externalRuntimeAccount (organizationId projectId : String) (grantTestSettingsManage : Bool) : ServiceAccount :=
  ⟨organizationId, some projectId, "Synthetic Agent Runtime service account", "external_runtime",
    if grantTestSettingsManage then .externalRuntimeTestOperator else .externalRuntimeOperator⟩

/-- The account of `provision_causal_audit_validator_service_account`. -/
def causalAuditValidatorAccount (organizationId projectId : String) : ServiceAccount :=
  ⟨organizationId, some projectId, "Causal Audit validator service account", "causal_audit_validator",
    .externalRuntimeOperator⟩

/-- `provision_mcp_service_account`; the environment names the subject that is not given. -/
def provisionMcp (organizationId : String) (actorId environment : Option String) (now : Instant) :
    ControlPlaneOperation Unit :=
  provisionServiceAccount (mcpAccount organizationId) (Text.orElse actorId environment) now

/-- `f"role_walkthrough_{actor_id.replace('-', '')}"`. -/
def legacyAssignmentId (actorId : String) : String :=
  "role_walkthrough_" ++ String.ofList (actorId.toList.filter (· ≠ '-'))

/-- The older assignment of a walkthrough subject is withdrawn. -/
def retireLegacy (organizationId actorId : String) : ControlPlaneOperation Unit := do
  match ← tryRequest (.getAssignment organizationId (legacyAssignmentId actorId)) with
  | .error raised => if raised.kind = .roleAssignmentNotFound then return () else .raise raised
  | .ok legacy =>
    if legacy.role = .platformOperator then do
      let _ ← request (.deleteAssignment organizationId (legacyAssignmentId actorId))
      return ()
    else return ()

/-- `provision_walkthrough_service_account`. -/
def provisionWalkthrough (organizationId : String) (actorId environment : Option String) (now : Instant) :
    ControlPlaneOperation Unit := do
  provisionServiceAccount (walkthroughAccount organizationId) (Text.orElse actorId environment) now
  match Text.orElse (Text.orElse actorId environment) none with
  | none => return ()
  | some actorId => retireLegacy organizationId actorId

/-- The assignments of a project that `provision_external_runtime_service_account` replaces by the role. -/
def replaced (projectId : String) (role : BuiltInRole) (item : RoleAssignment) : Bool :=
  item.projectId = some projectId &&
    (item.role = .externalRuntimeOperator || item.role = .externalRuntimeTestOperator) && item.role ≠ role

/-- The loop over the listed assignments. -/
def withdrawReplaced (organizationId projectId : String) (role : BuiltInRole) :
    List RoleAssignment → ControlPlaneOperation Unit
  | [] => return ()
  | item :: rest => do
      if replaced projectId role item then do
        let _ ← request (.deleteAssignment organizationId item.assignmentId)
        withdrawReplaced organizationId projectId role rest
      else withdrawReplaced organizationId projectId role rest

/-- `provision_external_runtime_service_account`. -/
def provisionExternalRuntime (organizationId projectId : String) (actorId environment : Option String)
    (grantTestSettingsManage : Bool) (now : Instant) : ControlPlaneOperation Unit := do
  let account := externalRuntimeAccount organizationId projectId grantTestSettingsManage
  provisionServiceAccount account (Text.orElse actorId environment) now
  match Text.orElse (Text.orElse actorId environment) none with
  | none => return ()
  | some actorId => do
      let held ← request (.listAssignments organizationId (some actorId) none)
      withdrawReplaced organizationId projectId account.role held

/-- `provision_causal_audit_validator_service_account`. -/
def provisionCausalAuditValidator (organizationId projectId : String) (actorId environment : Option String)
    (now : Instant) : ControlPlaneOperation Unit :=
  provisionServiceAccount (causalAuditValidatorAccount organizationId projectId) (Text.orElse actorId environment) now

/-! ## Calls -/

/-- One call of the control plane with everything it draws from outside the store. -/
inductive ControlPlaneCall where
  | createOrganization (organizationId name slug actorId : String) (actorName : Option String) (now : Instant)
      (uuid : Uuid)
  | updateOrganization (context : TenantContext) (name slug : Option String) (status : Option OrganizationStatus)
      (now : Instant)
  | createProject (context : TenantContext) (projectId name slug : String) (description : Option String)
      (now : Instant)
  | updateProject (context : TenantContext) (projectId : String) (name slug description : Option String)
      (status : Option ProjectStatus) (now : Instant)
  | addMembership (context : TenantContext) (actorId : String) (displayName : Option String) (now : Instant)
  | updateMembership (context : TenantContext) (actorId : String) (status : MembershipStatus) (now : Instant)
  | assignRole (context : TenantContext) (actorId : String) (role : BuiltInRole) (projectId : Option String)
      (now : Instant) (uuid : Uuid)
  | removeAssignment (context : TenantContext) (assignmentId : String)
  | provisionMcp (organizationId : String) (actorId environment : Option String) (now : Instant)
  | provisionWalkthrough (organizationId : String) (actorId environment : Option String) (now : Instant)
  | provisionExternalRuntime (organizationId projectId : String) (actorId environment : Option String)
      (grantTestSettingsManage : Bool) (now : Instant)
  | provisionCausalAuditValidator (organizationId projectId : String) (actorId environment : Option String)
      (now : Instant)

/-- What a call returns. -/
inductive ControlPlaneResponse where
  | organization (organization : Organization)
  | project (project : Project)
  | membership (membership : OrganizationMembership)
  | assignment (assignment : RoleAssignment)
  | provisioned

/-- The program of a call. -/
def ControlPlaneCall.program (extensions : List String) : ControlPlaneCall → ControlPlaneOperation ControlPlaneResponse
  | .createOrganization organizationId name slug actorId actorName now uuid => do
      return .organization (← Tenancy.createOrganization organizationId name slug actorId actorName now uuid)
  | .updateOrganization context name slug status now => do
      return .organization (← Tenancy.updateOrganization extensions context name slug status now)
  | .createProject context projectId name slug description now => do
      return .project (← Tenancy.createProject extensions context projectId name slug description now)
  | .updateProject context projectId name slug description status now => do
      return .project (← Tenancy.updateProject extensions context projectId name slug description status now)
  | .addMembership context actorId displayName now => do
      return .membership (← Tenancy.addMembership extensions context actorId displayName now)
  | .updateMembership context actorId status now => do
      return .membership (← Tenancy.updateMembership extensions context actorId status now)
  | .assignRole context actorId role projectId now uuid => do
      return .assignment (← Tenancy.assignRole extensions context actorId role projectId now uuid)
  | .removeAssignment context assignmentId => do
      return .assignment (← Tenancy.removeAssignment extensions context assignmentId)
  | .provisionMcp organizationId actorId environment now => do
      Tenancy.provisionMcp organizationId actorId environment now
      return .provisioned
  | .provisionWalkthrough organizationId actorId environment now => do
      Tenancy.provisionWalkthrough organizationId actorId environment now
      return .provisioned
  | .provisionExternalRuntime organizationId projectId actorId environment grantTestSettingsManage now => do
      Tenancy.provisionExternalRuntime organizationId projectId actorId environment grantTestSettingsManage now
      return .provisioned
  | .provisionCausalAuditValidator organizationId projectId actorId environment now => do
      Tenancy.provisionCausalAuditValidator organizationId projectId actorId environment now
      return .provisioned

end AiGovernance.Tenancy
