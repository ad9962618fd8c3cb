import AiGovernance.Services.ControlPlane

/-!
# Grants of one tenant and calls for another

What a call for one organization, or for one project of it, does to the
permissions of other organizations and projects. `allows_iff` says what
`authorize` looks at; `Apart` and `Aside` are the frames of a call for another
organization and for another project. All assignments stand in one map, so a
provisioned identifier that is already taken elsewhere is the way a call reaches
out of its tenant.
-/

namespace AiGovernance.Tenancy

open AiGovernance.Std Domain Semantics ControlPlane Program

variable {plane : ControlPlane} {context : TenantContext} {call : ControlPlaneCall} {account : ServiceAccount}

section Frames

variable {after : ControlPlane} {command : ControlPlaneCommand} {organizationId : String}

/-! ## What a permission depends on -/

/-- `authorize` allows a permission. -/
def Allows (extensions : List String) (plane : ControlPlane) (context : TenantContext) (permission : PermissionName)
    (resource : Option AuthorizationResource) : Prop :=
  ∃ decision, ((authorize extensions context permission resource).run handle plane).1 = .ok decision ∧
    decision.allowed = true

/-- An active member holds a role in a project, or in the whole organization. -/
def Holds (plane : ControlPlane) (organizationId : String) (projectId : Option String) (actorId : String)
    (role : BuiltInRole) : Prop :=
  (∃ membership, plane.memberships.get? (organizationId, actorId) = some membership ∧ membership.status = .active) ∧
    ∃ assignmentId assignment, plane.assignments.get? assignmentId = some assignment ∧
      assignment.organizationId = organizationId ∧ assignment.actorId = actorId ∧
      (assignment.projectId = none ∨ assignment.projectId = projectId) ∧ assignment.role = role

theorem mem_sorted (role : BuiltInRole) : role ∈ BuiltInRole.sorted := by
  cases role <;> decide

theorem mem_rolesOf {assignments : List RoleAssignment} {role : BuiltInRole} :
    role ∈ rolesOf context assignments ↔ ∃ item ∈ assignments, item.role = role ∧
      (item.projectId = none ∨ item.projectId = context.projectId) := by
  simp [rolesOf, mem_sorted]

theorem decideRoles_allowed {extensions : List String} {permission : PermissionName}
    {assignments : List RoleAssignment} :
    (decideRoles extensions context permission assignments).allowed = true ↔
      ∃ role ∈ rolesOf context assignments, role.grants extensions permission = true := by
  unfold decideRoles
  by_cases none : assignments.isEmpty = true
  · rw [if_pos none]
    obtain rfl := List.isEmpty_iff.mp none
    simp [denied, rolesOf]
  · rw [if_neg none]
    dsimp only
    split
    · rename_i unmatched
      simp only [List.isEmpty_iff, List.filter_eq_nil_iff] at unmatched
      simp only [Bool.false_eq_true, false_iff, not_exists, not_and]
      exact fun role held => unmatched role held
    · rename_i matched
      rw [List.isEmpty_iff] at matched
      simp only [true_iff]
      obtain ⟨role, member⟩ := List.exists_mem_of_ne_nil _ matched
      obtain ⟨held, grants⟩ := List.mem_filter.mp member
      exact ⟨role, held, grants⟩

section Allows

variable (extensions : List String) (plane : ControlPlane) (context : TenantContext) (permission : PermissionName)

/-- The context names no project, or an active one. -/
def ProjectOpen (plane : ControlPlane) (context : TenantContext) : Prop :=
  ∀ projectId, Text.orElse context.projectId none = some projectId → ∃ project,
    plane.projects.get? (context.organizationId, projectId) = some project ∧ project.record.status = .active

/-- The organization is there and open for a permission. -/
def OrganizationOpen (plane : ControlPlane) (context : TenantContext) (permission : PermissionName) : Prop :=
  ∃ organization, plane.organizations.get? context.organizationId = some organization ∧
    closes permission organization.record.status = false

theorem authorizeRoles_run :
    (authorizeRoles extensions context permission).run handle plane =
      (.ok (decideRoles extensions context permission
        (plane.listAssignments context.organizationId (some context.actorId) context.projectId)), plane) := rfl

theorem authorizeRoles_allows :
    (∃ decision, ((authorizeRoles extensions context permission).run handle plane).1 = .ok decision ∧
      decision.allowed = true) ↔
      ∃ assignmentId assignment, plane.assignments.get? assignmentId = some assignment ∧
        assignment.organizationId = context.organizationId ∧ assignment.actorId = context.actorId ∧
        (assignment.projectId = none ∨ assignment.projectId = context.projectId) ∧
        assignment.role.grants extensions permission = true := by
  rw [authorizeRoles_run]
  simp only [Except.ok.injEq, exists_eq_left', decideRoles_allowed, mem_rolesOf]
  constructor
  · rintro ⟨role, ⟨item, listed, rfl, scope⟩, grants⟩
    obtain ⟨found, here, actor, -⟩ := mem_listAssignments.mp listed
    exact ⟨item.assignmentId, item, found, here, actor context.actorId rfl, scope, grants⟩
  · rintro ⟨assignmentId, item, found, here, actor, scope, grants⟩
    refine ⟨item.role, ⟨item, mem_listAssignments.mpr ⟨?_, here, ?_, Or.inr scope⟩, rfl, scope⟩, grants⟩
    · rw [plane.keyed found]
      exact found
    · rintro _ ⟨⟩
      exact actor

theorem authorizeProject_allows :
    (∃ decision, ((authorizeProject extensions context permission).run handle plane).1 = .ok decision ∧
      decision.allowed = true) ↔
      ProjectOpen plane context ∧
        ∃ decision, ((authorizeRoles extensions context permission).run handle plane).1 = .ok decision ∧
          decision.allowed = true := by
  unfold authorizeProject ProjectOpen
  cases named : Text.orElse context.projectId none with
  | none => simp
  | some projectId =>
    dsimp only
    rw [run_bind, tryRequest, run_attempt]
    simp only [handle, getProject]
    cases found : plane.projects.get? (context.organizationId, projectId) with
    | none => simp [denied, found]
    | some project =>
      simp only [found, Option.some.injEq, forall_eq', exists_eq_left']
      by_cases active : project.record.status = .active
      · simp [active]
      · simp [active, denied]

theorem authorizeMember_allows (resource : Option AuthorizationResource) :
    (∃ decision, ((authorizeMember extensions context permission resource).run handle plane).1 = .ok decision ∧
      decision.allowed = true) ↔
      (∃ membership, plane.memberships.get? (context.organizationId, context.actorId) = some membership ∧
        membership.status = .active) ∧
      resource.any (·.foreign context) = false ∧
        ∃ decision, ((authorizeProject extensions context permission).run handle plane).1 = .ok decision ∧
          decision.allowed = true := by
  unfold authorizeMember
  rw [run_bind, tryRequest, run_attempt]
  simp only [handle, getMembership]
  cases found : plane.memberships.get? (context.organizationId, context.actorId) with
  | none => simp [denied]
  | some membership =>
    simp only [Option.some.injEq, exists_eq_left']
    by_cases active : membership.status = .active
    · by_cases foreign : resource.any (·.foreign context) = true
      · simp [active, foreign, denied]
      · simp [active, foreign]
    · simp [active, denied]

/-- What `authorize` looks at. -/
theorem allows_iff (resource : Option AuthorizationResource) :
    Allows extensions plane context permission resource ↔
      OrganizationOpen plane context permission ∧ resource.any (·.foreign context) = false ∧
        ProjectOpen plane context ∧
        ∃ role, Holds plane context.organizationId context.projectId context.actorId role ∧
          role.grants extensions permission = true := by
  unfold Allows authorize OrganizationOpen
  rw [run_bind, tryRequest, run_attempt]
  simp only [handle, getOrganization]
  cases found : plane.organizations.get? context.organizationId with
  | none => simp [denied]
  | some organization =>
    simp only [Option.some.injEq, exists_eq_left']
    by_cases closed : closes permission organization.record.status = true
    · simp [closed, denied]
    · simp only [closed, Bool.false_eq_true, if_false, true_and]
      rw [authorizeMember_allows, authorizeProject_allows, authorizeRoles_allows]
      unfold Holds
      constructor
      · rintro ⟨member, own, active, assignmentId, assignment, stored, here, actor, scope, grants⟩
        exact ⟨own, active, assignment.role, ⟨member, assignmentId, assignment, stored, here, actor, scope, rfl⟩,
          grants⟩
      · rintro ⟨own, active, _, ⟨member, assignmentId, assignment, stored, here, actor, scope, rfl⟩, grants⟩
        exact ⟨member, own, active, assignmentId, assignment, stored, here, actor, scope, grants⟩

end Allows

/-! ## Frames -/

/-- Whoever is assigned a role is a member. -/
def Enrolled (plane : ControlPlane) : Prop :=
  ∀ assignmentId assignment, plane.assignments.get? assignmentId = some assignment →
    (plane.memberships.get? (assignment.organizationId, assignment.actorId)).isSome

theorem isSome_set {K V : Type} [DecidableEq K] {dict : Dict K V} {key other : K} {value : V}
    (found : (dict.get? other).isSome) : ((dict.set key value).get? other).isSome := by
  rw [Dict.get?_set]
  split
  · rfl
  · exact found

theorem Enrolled.effect (enrolled : Enrolled plane) (effect : plane.Effect command after) : Enrolled after := by
  cases effect with
  | unchanged | organizationCreated | organizationUpdated | projectCreated | projectUpdated => exact enrolled
  | membershipCreated | membershipUpdated | membershipChanged =>
    exact fun assignmentId assignment found => isSome_set (enrolled assignmentId assignment found)
  | assignmentCreated member =>
    intro assignmentId assignment found
    rw [show (plane.putAssignment _).assignments.get? assignmentId = _ from Dict.get?_set ..] at found
    split at found
    · cases found
      exact Option.isSome_iff_exists.mpr member
    · exact enrolled assignmentId assignment found
  | assignmentDeleted | assignmentWithdrawn =>
    intro assignmentId assignment found
    rw [show (plane.dropAssignment _).assignments.get? assignmentId = _ from Dict.get?_erase ..] at found
    split at found
    · cases found
    · exact enrolled assignmentId assignment found

/-- Nothing of an organization has changed. -/
structure Apart (organizationId : String) (plane after : ControlPlane) : Prop where
  organizations : after.organizations.get? organizationId = plane.organizations.get? organizationId
  projects : ∀ projectId, after.projects.get? (organizationId, projectId) =
    plane.projects.get? (organizationId, projectId)
  memberships : ∀ actorId, after.memberships.get? (organizationId, actorId) =
    plane.memberships.get? (organizationId, actorId)
  assignments : ∀ assignmentId assignment, assignment.organizationId = organizationId →
    (after.assignments.get? assignmentId = some assignment ↔ plane.assignments.get? assignmentId = some assignment)

namespace Apart

variable {organizationId : String}

theorem refl (plane : ControlPlane) : Apart organizationId plane plane :=
  ⟨rfl, fun _ => rfl, fun _ => rfl, fun _ _ _ => Iff.rfl⟩

theorem trans {first second third : ControlPlane} (before : Apart organizationId first second)
    (next : Apart organizationId second third) : Apart organizationId first third where
  organizations := next.organizations.trans before.organizations
  projects := fun projectId => (next.projects projectId).trans (before.projects projectId)
  memberships := fun actorId => (next.memberships actorId).trans (before.memberships actorId)
  assignments := fun assignmentId assignment here =>
    (next.assignments assignmentId assignment here).trans (before.assignments assignmentId assignment here)

theorem allows (apart : Apart organizationId plane after) {extensions : List String}
    (here : context.organizationId = organizationId) {permission : PermissionName}
    {resource : Option AuthorizationResource} :
    Allows extensions after context permission resource ↔ Allows extensions plane context permission resource := by
  subst here
  simp only [allows_iff, OrganizationOpen, ProjectOpen, Holds, apart.organizations, apart.projects,
    apart.memberships]
  have held : ∀ role, (∃ assignmentId assignment, after.assignments.get? assignmentId = some assignment ∧
      assignment.organizationId = context.organizationId ∧ assignment.actorId = context.actorId ∧
      (assignment.projectId = none ∨ assignment.projectId = context.projectId) ∧ assignment.role = role) ↔
      ∃ assignmentId assignment, plane.assignments.get? assignmentId = some assignment ∧
        assignment.organizationId = context.organizationId ∧ assignment.actorId = context.actorId ∧
        (assignment.projectId = none ∨ assignment.projectId = context.projectId) ∧ assignment.role = role := by
    intro role
    refine exists_congr fun assignmentId => exists_congr fun assignment => ?_
    constructor
    · rintro ⟨found, here, rest⟩
      exact ⟨(apart.assignments assignmentId assignment here).mp found, here, rest⟩
    · rintro ⟨found, here, rest⟩
      exact ⟨(apart.assignments assignmentId assignment here).mpr found, here, rest⟩
  simp only [held]

end Apart

/-- A grant would be written over an assignment outside its tenant: the identifier is taken, and no assignment
grants the same yet. -/
def Overwrites (plane : ControlPlane) (grant : RoleAssignment) (outside : RoleAssignment → Prop) : Prop :=
  (∃ stored, plane.assignments.get? grant.assignmentId = some stored ∧ outside stored) ∧
    ∀ assignmentId stored, plane.assignments.get? assignmentId = some stored → stored.sameGrant grant = false

/-- The commands of an organization. -/
def IsFor (organizationId : String) : ControlPlaneCommand → Prop
  | .createOrganization organization | .updateOrganization organization =>
    organization.record.organizationId = organizationId
  | .createProject project | .updateProject project => project.record.organizationId = organizationId
  | .createMembership membership | .updateMembership membership => membership.organizationId = organizationId
  | .createAssignment assignment => assignment.organizationId = organizationId
  | .changeMembership here _ _ _ | .deleteAssignment here _ | .withdrawAssignment here _ => here = organizationId
  | _ => True

/-- A command of another organization leaves this one as it was, unless it overwrites an assignment of it. -/
theorem apart_of_effect {here there : String} (different : there ≠ here) (effect : plane.Effect command after)
    (isFor : IsFor here command)
    (kept : ∀ grant, command = .createAssignment grant → ¬ Overwrites plane grant (·.organizationId = there)) :
    Apart there plane after := by
  cases effect with
  | unchanged => exact .refl plane
  | organizationCreated | organizationUpdated =>
    refine { Apart.refl plane with organizations := Dict.get?_set_of_ne _ ?_ }
    rw [show _ = here from isFor]
    exact different
  | projectCreated | projectUpdated =>
    refine { Apart.refl plane with projects := fun projectId => Dict.get?_set_of_ne _ ?_ }
    rw [show _ = here from isFor]
    exact fun same => different (Prod.mk.inj same).1
  | membershipCreated | membershipUpdated =>
    refine { Apart.refl plane with memberships := fun actorId => Dict.get?_set_of_ne _ ?_ }
    rw [show _ = here from isFor]
    exact fun same => different (Prod.mk.inj same).1
  | membershipChanged found =>
    refine { Apart.refl plane with memberships := fun actorId => Dict.get?_set_of_ne _ ?_ }
    rw [(Prod.mk.inj (plane.membershipKeyed found)).1, show _ = here from isFor]
    exact fun same => different (Prod.mk.inj same).1
  | @assignmentCreated grant member distinct =>
    refine { Apart.refl plane with assignments := fun assignmentId assignment isThere => ?_ }
    rw [show (plane.putAssignment grant).assignments.get? assignmentId = _ from Dict.get?_set ..]
    split
    · rename_i same
      subst same
      constructor
      · rintro ⟨⟩
        exact absurd (isThere.symm.trans isFor) different
      · exact fun found => absurd ⟨⟨assignment, found, isThere⟩, distinct⟩ (kept grant rfl)
    · exact Iff.rfl
  | assignmentDeleted found owned | assignmentWithdrawn found owned =>
    refine { Apart.refl plane with assignments := fun assignmentId assignment isThere => ?_ }
    rw [show (plane.dropAssignment _).assignments.get? assignmentId = _ from Dict.get?_erase ..]
    split
    · rename_i same
      subst same
      constructor
      · rintro ⟨⟩
      · intro stands
        obtain rfl := Option.some.inj (stands.symm.trans found)
        exact absurd (isThere.symm.trans (owned.trans isFor)) different
    · exact Iff.rfl

/-- Nothing that matters in a project has changed. -/
structure Aside (organizationId projectId : String) (plane after : ControlPlane) : Prop where
  organizations : after.organizations.get? organizationId = plane.organizations.get? organizationId
  projects : after.projects.get? (organizationId, projectId) = plane.projects.get? (organizationId, projectId)
  holds : ∀ actorId role, Holds after organizationId (some projectId) actorId role ↔
    Holds plane organizationId (some projectId) actorId role

namespace Aside

variable {organizationId projectId : String}

theorem refl (plane : ControlPlane) : Aside organizationId projectId plane plane :=
  ⟨rfl, rfl, fun _ _ => Iff.rfl⟩

theorem trans {first second third : ControlPlane} (before : Aside organizationId projectId first second)
    (next : Aside organizationId projectId second third) : Aside organizationId projectId first third where
  organizations := next.organizations.trans before.organizations
  projects := next.projects.trans before.projects
  holds := fun actorId role => (next.holds actorId role).trans (before.holds actorId role)

theorem allows (aside : Aside organizationId projectId plane after) {extensions : List String}
    (here : context.organizationId = organizationId) (inProject : context.projectId = some projectId)
    {permission : PermissionName} {resource : Option AuthorizationResource} :
    Allows extensions after context permission resource ↔ Allows extensions plane context permission resource := by
  subst here
  have opened : ProjectOpen after context ↔ ProjectOpen plane context := by
    unfold ProjectOpen
    rw [inProject]
    refine forall_congr' fun named => imp_congr_right fun same => ?_
    have named : named = projectId := by
      unfold Text.orElse at same
      split at same
      · exact (Option.some.inj same).symm
      · cases same
    rw [named, aside.projects]
  rw [allows_iff, allows_iff, opened, inProject]
  unfold OrganizationOpen
  simp only [aside.organizations, aside.holds]

end Aside

/-- The commands of one project, where they are issued. -/
def IsBeside (organizationId projectId : String) (plane : ControlPlane) : ControlPlaneCommand → Prop
  | .createOrganization _ | .updateOrganization _ | .changeMembership .. => False
  | .createProject project | .updateProject project =>
    project.record.organizationId = organizationId ∧ project.record.projectId = projectId
  | .updateMembership membership => membership.status = .active
  | .createAssignment assignment => assignment.projectId = some projectId
  | .deleteAssignment here assignmentId | .withdrawAssignment here assignmentId =>
    ∀ stored, plane.assignments.get? assignmentId = some stored → stored.organizationId = here →
      stored.projectId = some projectId
  | _ => True

/-- The assignments that count in a project. -/
def CountsIn (organizationId projectId : String) (assignment : RoleAssignment) : Prop :=
  assignment.organizationId = organizationId ∧ (assignment.projectId = none ∨ assignment.projectId = some projectId)

/-- What is held in a project depends on the assignments that count there. -/
theorem holds_congr {projectId actorId : String} {role : BuiltInRole}
    (memberships : after.memberships = plane.memberships)
    (assignments : ∀ assignmentId assignment, CountsIn organizationId projectId assignment →
      (after.assignments.get? assignmentId = some assignment ↔
        plane.assignments.get? assignmentId = some assignment)) :
    Holds after organizationId (some projectId) actorId role ↔
      Holds plane organizationId (some projectId) actorId role := by
  unfold Holds
  rw [memberships]
  refine and_congr_right fun _ => exists_congr fun assignmentId => exists_congr fun assignment => ?_
  constructor
  · rintro ⟨found, here, actor, scope, same⟩
    exact ⟨(assignments assignmentId assignment ⟨here, scope⟩).mp found, here, actor, scope, same⟩
  · rintro ⟨found, here, actor, scope, same⟩
    exact ⟨(assignments assignmentId assignment ⟨here, scope⟩).mpr found, here, actor, scope, same⟩

/-- A membership that is entered, or stays active, changes nothing that is held. -/
theorem holds_putMembership {projectId actorId : String} {role : BuiltInRole} (enrolled : Enrolled plane)
    {membership : OrganizationMembership}
    (unchanged : plane.memberships.get? (membership.organizationId, membership.actorId) = none ∨
      ∃ current, plane.memberships.get? (membership.organizationId, membership.actorId) = some current ∧
        current.status = .active ∧ membership.status = .active) :
    Holds (plane.putMembership membership) organizationId (some projectId) actorId role ↔
      Holds plane organizationId (some projectId) actorId role := by
  unfold Holds
  have read : (plane.putMembership membership).memberships.get? (organizationId, actorId) =
      if (organizationId, actorId) = (membership.organizationId, membership.actorId) then some membership
      else plane.memberships.get? (organizationId, actorId) := Dict.get?_set ..
  rw [read]
  split
  · rename_i same
    rw [same]
    rcases unchanged with absent | ⟨current, found, active, stays⟩
    · rw [absent]
      constructor
      · -- nobody is assigned a role before they are a member
        rintro ⟨-, assignmentId, assignment, found, here, actor, -⟩
        have member := enrolled assignmentId assignment found
        rw [here, actor, same, absent] at member
        cases member
      · rintro ⟨⟨_, ⟨⟩, -⟩, -⟩
    · rw [found]
      simp only [Option.some.injEq, exists_eq_left', active, stays]
      rfl
  · rfl

/-- A command of another project leaves what is held in this one, unless it overwrites an assignment that counts
here or lets a member back in. -/
theorem aside_of_effect {here there : String} (different : there ≠ here) (enrolled : Enrolled plane)
    (effect : plane.Effect command after) (beside : IsBeside organizationId here plane command)
    (welcomed : ∀ membership, command = .updateMembership membership → ∀ current,
      plane.memberships.get? (membership.organizationId, membership.actorId) = some current →
        current.status = .active)
    (kept : ∀ grant, command = .createAssignment grant → ¬ Overwrites plane grant (CountsIn organizationId there)) :
    Aside organizationId there plane after := by
  have elsewhere : ∀ assignment, CountsIn organizationId there assignment → assignment.projectId ≠ some here := by
    rintro assignment ⟨-, wide | inThere⟩ inHere
    · rw [wide] at inHere
      cases inHere
    · rw [inThere] at inHere
      exact different (Option.some.inj inHere)
  have dropped : ∀ assignmentId owner stored, plane.assignments.get? assignmentId = some stored →
      stored.organizationId = owner →
      (∀ stored, plane.assignments.get? assignmentId = some stored → stored.organizationId = owner →
        stored.projectId = some here) →
      Aside organizationId there plane (plane.dropAssignment assignmentId) := by
    intro assignmentId owner stored found owned inHere
    refine { Aside.refl plane with holds := fun actorId role => holds_congr rfl fun otherId assignment counts => ?_ }
    rw [show (plane.dropAssignment assignmentId).assignments.get? otherId = _ from Dict.get?_erase ..]
    split
    · rename_i same
      subst same
      constructor
      · rintro ⟨⟩
      · intro stands
        obtain rfl := Option.some.inj (stands.symm.trans found)
        exact absurd (inHere _ found owned) (elsewhere _ counts)
    · exact Iff.rfl
  cases effect with
  | unchanged => exact .refl plane
  | organizationCreated | organizationUpdated | membershipChanged => exact beside.elim
  | projectCreated | projectUpdated =>
    refine { Aside.refl plane with projects := Dict.get?_set_of_ne _ ?_ }
    rw [beside.1, beside.2]
    exact fun same => different (Prod.mk.inj same).2
  | membershipCreated absent =>
    refine { Aside.refl plane with holds := fun _ _ => ?_ }
    exact holds_putMembership enrolled (Or.inl absent)
  | membershipUpdated found =>
    refine { Aside.refl plane with holds := fun _ _ => ?_ }
    exact holds_putMembership enrolled (Or.inr ⟨_, found, welcomed _ rfl _ found, beside⟩)
  | @assignmentCreated grant member distinct =>
    refine { Aside.refl plane with holds := fun actorId role => holds_congr rfl fun otherId assignment counts => ?_ }
    rw [show (plane.putAssignment grant).assignments.get? otherId = _ from Dict.get?_set ..]
    split
    · rename_i same
      subst same
      constructor
      · rintro ⟨⟩
        exact absurd beside (elsewhere _ counts)
      · exact fun found => absurd ⟨⟨assignment, found, counts⟩, distinct⟩ (kept grant rfl)
    · exact Iff.rfl
  | assignmentDeleted found owned => exact dropped _ _ _ found owned beside
  | assignmentWithdrawn found owned => exact dropped _ _ _ found owned beside

/-! ## What a call is for -/

/-- The organization a call is for. -/
def ControlPlaneCall.organization : ControlPlaneCall → String
  | .createOrganization organizationId .. | .provisionMcp organizationId .. | .provisionWalkthrough organizationId ..
  | .provisionExternalRuntime organizationId .. | .provisionCausalAuditValidator organizationId .. => organizationId
  | .updateOrganization context .. | .createProject context .. | .updateProject context .. | .addMembership context ..
  | .updateMembership context .. | .assignRole context .. | .removeAssignment context _ => context.organizationId

/-- The project a call is for, if it is for one. -/
def ControlPlaneCall.project (plane : ControlPlane) : ControlPlaneCall → Option String
  | .createProject _ projectId .. | .updateProject _ projectId .. | .provisionExternalRuntime _ projectId ..
  | .provisionCausalAuditValidator _ projectId .. => some projectId
  | .assignRole _ _ _ projectId .. => projectId
  | .removeAssignment _ assignmentId => (plane.assignments.get? assignmentId).bind (·.projectId)
  | _ => none

/-- The account and the subject a call provisions. -/
def ControlPlaneCall.provisions : ControlPlaneCall → Option (ServiceAccount × String)
  | .provisionMcp organizationId actorId environment _ =>
    (Text.orElse (Text.orElse actorId environment) none).map (mcpAccount organizationId, ·)
  | .provisionWalkthrough organizationId actorId environment _ =>
    (Text.orElse (Text.orElse actorId environment) none).map (walkthroughAccount organizationId, ·)
  | .provisionExternalRuntime organizationId projectId actorId environment grantTestSettingsManage _ =>
    (Text.orElse (Text.orElse actorId environment) none).map
      (externalRuntimeAccount organizationId projectId grantTestSettingsManage, ·)
  | .provisionCausalAuditValidator organizationId projectId actorId environment _ =>
    (Text.orElse (Text.orElse actorId environment) none).map
      (causalAuditValidatorAccount organizationId projectId, ·)
  | _ => none

/-- The clock reading of a call. -/
def ControlPlaneCall.now : ControlPlaneCall → Instant
  | .createOrganization _ _ _ _ _ now _ | .updateOrganization _ _ _ _ now | .createProject _ _ _ _ _ now
  | .updateProject _ _ _ _ _ _ now | .addMembership _ _ _ now | .updateMembership _ _ _ now
  | .assignRole _ _ _ _ now _ | .provisionMcp _ _ _ now | .provisionWalkthrough _ _ _ now
  | .provisionExternalRuntime _ _ _ _ _ now | .provisionCausalAuditValidator _ _ _ _ now => now
  | .removeAssignment .. => ⟨0⟩

/-- The assignment a call is about to write. -/
def ControlPlaneCall.grants : ControlPlaneCall → Option RoleAssignment
  | .createOrganization organizationId _ _ actorId _ now uuid =>
    some ⟨uuid.roleId, organizationId, none, actorId, .organizationAdmin, now, actorId⟩
  | .assignRole context actorId role projectId now uuid =>
    some ⟨uuid.roleId, context.organizationId, projectId, actorId, role, now, context.actorId⟩
  | call => call.provisions.map fun (account, actorId) => account.assignment actorId call.now

/-! ## What a call does -/

/-- What a call may do to the tables, with where it started. -/
structure Ruled (call : ControlPlaneCall) (start plane : ControlPlane) (command : ControlPlaneCommand) : Prop where
  isFor : IsFor call.organization command
  /-- The grant of the call is written before any assignment has changed. -/
  grants : ∀ grant, command = .createAssignment grant →
    call.grants = some grant ∧ plane.assignments = start.assignments
  /-- A membership is updated for the provisioned subject, before any membership has changed. -/
  welcomes : ∀ membership, command = .updateMembership membership → (∃ account, call.provisions =
    some (account, membership.actorId) ∧ account.organizationId = membership.organizationId) ∧
      plane.memberships = start.memberships
  beside : ∀ projectId, call.project start = some projectId → IsBeside call.organization projectId plane command

/-- Tables that ruled commands lead to. -/
inductive Changes (call : ControlPlaneCall) (start : ControlPlane) : ControlPlane → Prop where
  | refl : Changes call start start
  | step {plane after : ControlPlane} {command : ControlPlaneCommand} (before : Changes call start plane)
      (ruled : Ruled call start plane command) (effect : plane.Effect command after) : Changes call start after

theorem Changes.enrolled {start : ControlPlane} (changes : Changes call start after) (enrolled : Enrolled start) :
    Enrolled after := by
  induction changes with
  | refl => exact enrolled
  | step _ _ effect ih => exact ih.effect effect

theorem Changes.apart {start : ControlPlane} (changes : Changes call start after) {there : String}
    (different : there ≠ call.organization)
    (kept : ∀ grant, call.grants = some grant → ¬ Overwrites start grant (·.organizationId = there)) :
    Apart there start after := by
  induction changes with
  | refl => exact .refl start
  | @step plane after command _ ruled effect ih =>
    refine ih.trans (apart_of_effect different effect ruled.isFor fun grant same => ?_)
    obtain ⟨granted, unchanged⟩ := ruled.grants grant same
    have intact := kept grant granted
    unfold Overwrites at intact ⊢
    rw [unchanged]
    exact intact

theorem Changes.aside {start : ControlPlane} (changes : Changes call start after) (enrolled : Enrolled start)
    {here there : String} (inProject : call.project start = some here) (different : there ≠ here)
    (kept : ∀ grant, call.grants = some grant → ¬ Overwrites start grant (CountsIn call.organization there))
    (welcome : ∀ account actorId membership, call.provisions = some (account, actorId) →
      start.memberships.get? (account.organizationId, actorId) = some membership → membership.status = .active) :
    Aside call.organization there start after := by
  induction changes with
  | refl => exact .refl start
  | @step plane after command before ruled effect ih =>
    refine ih.trans (aside_of_effect different (before.enrolled enrolled) effect
      (ruled.beside here inProject) (fun membership same current found => ?_) fun grant same => ?_)
    · obtain ⟨⟨account, provisioned, owner⟩, unchanged⟩ := ruled.welcomes membership same
      rw [unchanged, ← owner] at found
      exact welcome account _ current provisioned found
    · obtain ⟨granted, unchanged⟩ := ruled.grants grant same
      have intact := kept grant granted
      unfold Overwrites at intact ⊢
      rw [unchanged]
      exact intact

section Specs

variable {call : ControlPlaneCall} {start : ControlPlane} {account : ServiceAccount} {actorId : String}
  (now : Instant)

/-- An active member of the organization. -/
def ActiveMember (plane : ControlPlane) (organizationId actorId : String) : Prop :=
  ∃ membership, plane.memberships.get? (organizationId, actorId) = some membership ∧ membership.status = .active

theorem reactivate_run :
    (reactivate account actorId now).run handle start =
      match start.memberships.get? (account.organizationId, actorId) with
      | none => (.error ⟨.membershipNotFound, actorId⟩, start)
      | some membership =>
        if membership.status ≠ .active then
          (.ok (), start.putMembership { membership with status := .active, updatedAt := now })
        else (.ok (), start) := by
  unfold reactivate request
  rw [run_bind, run_call]
  simp only [handle, getMembership]
  cases found : start.memberships.get? (account.organizationId, actorId) with
  | none => rfl
  | some membership =>
    dsimp only
    by_cases inactive : membership.status ≠ .active
    · obtain ⟨sameOrganization, sameActor⟩ := Prod.mk.inj (start.membershipKeyed found)
      have written : start.updateMembership { membership with status := .active, updatedAt := now } =
          .ok (start.putMembership { membership with status := .active, updatedAt := now }) := by
        have read : start.getMembership membership.organizationId membership.actorId = .ok membership := by
          rw [sameOrganization, sameActor]
          exact getMembership_ok.mpr found
        simp only [ControlPlane.updateMembership, read]
        rfl
      rw [if_pos inactive, if_pos inactive, run_bind, run_call]
      simp only [handle, written, stored]
      rfl
    · rw [if_neg inactive, if_neg inactive]
      rfl

/-- The membership a subject is entered with. -/
def entered (account : ServiceAccount) (actorId : String) (now : Instant) : OrganizationMembership :=
  ⟨account.organizationId, actorId, .active, now, now, some account.displayName⟩

theorem admitMember_run :
    (admitMember account actorId now).run handle start =
      match start.memberships.get? (account.organizationId, actorId) with
      | none =>
        match start.createMembership (entered account actorId now) with
        | .ok after => (.ok (), after)
        | .error raised => (.error raised, start)
      | some membership =>
        if membership.status ≠ .active then
          (.ok (), start.putMembership { membership with status := .active, updatedAt := now })
        else (.ok (), start) := by
  unfold admitMember
  rw [run_bind, run_caught, reactivate_run]
  cases found : start.memberships.get? (account.organizationId, actorId) with
  | none =>
    dsimp only
    rw [if_pos rfl, run_bind, request, run_call]
    simp only [handle]
    unfold entered
    cases start.createMembership ⟨account.organizationId, actorId, .active, now, now, some account.displayName⟩ with
    | ok after => rfl
    | error raised => rfl
  | some membership =>
    dsimp only
    by_cases inactive : membership.status ≠ .active
    · rw [if_pos inactive]
      rfl
    · rw [if_neg inactive]
      rfl

/-- A command of the organization that neither grants nor lets a member back in. -/
theorem ruled_other (isFor : IsFor call.organization command) (grants : ∀ grant, command ≠ .createAssignment grant)
    (welcomes : ∀ membership, command ≠ .updateMembership membership)
    (beside : ∀ projectId, call.project start = some projectId → IsBeside call.organization projectId plane command) :
    Ruled call start plane command :=
  ⟨isFor, fun grant same => absurd same (grants grant), fun membership same => absurd same (welcomes membership),
    beside⟩

theorem admitMember_spec (owner : account.organizationId = call.organization)
    (provisions : call.provisions = some (account, actorId)) :
    (admitMember account actorId now).Ensures handle start fun result after =>
      Changes call start after ∧ after.assignments = start.assignments ∧
        (result = .ok () → ActiveMember after account.organizationId actorId) := by
  unfold Program.Ensures
  rw [admitMember_run]
  cases found : start.memberships.get? (account.organizationId, actorId) with
  | none =>
    dsimp only
    cases written : start.createMembership (entered account actorId now) with
    | error raised => exact ⟨.refl, rfl, by rintro ⟨⟩⟩
    | ok after =>
      obtain ⟨absent, rfl⟩ := createMembership_ok written
      have ruled : Ruled call start start (.createMembership (entered account actorId now)) :=
        ruled_other owner (by rintro _ ⟨⟩) (by rintro _ ⟨⟩) fun _ _ => trivial
      exact ⟨.step .refl ruled (.membershipCreated absent), rfl, fun _ => ⟨_, Dict.get?_set_self .., rfl⟩⟩
  | some membership =>
    obtain ⟨sameOrganization, sameActor⟩ := Prod.mk.inj (start.membershipKeyed found)
    by_cases inactive : membership.status ≠ .active
    · -- the membership is made active again
      let again : OrganizationMembership := { membership with status := .active, updatedAt := now }
      have ruled : Ruled call start start (.updateMembership again) := by
        refine ⟨sameOrganization.trans owner, by rintro _ ⟨⟩, ?_, fun _ _ => rfl⟩
        rintro _ ⟨⟩
        refine ⟨⟨account, ?_, sameOrganization.symm⟩, rfl⟩
        rw [show again.actorId = actorId from sameActor]
        exact provisions
      have stands : start.memberships.get? (again.organizationId, again.actorId) = some membership := by
        rw [show again.organizationId = account.organizationId from sameOrganization,
          show again.actorId = actorId from sameActor]
        exact found
      dsimp only
      rw [if_pos inactive]
      refine ⟨.step .refl ruled (.membershipUpdated stands), rfl, fun _ => ⟨again, ?_, rfl⟩⟩
      rw [← sameOrganization, ← sameActor]
      exact Dict.get?_set_self ..
    · dsimp only
      rw [if_neg inactive]
      exact ⟨.refl, rfl, fun _ => ⟨membership, found, not_not.mp inactive⟩⟩

/-- The subject of an account holds its role where the account is for. -/
def Provisioned (plane : ControlPlane) (account : ServiceAccount) (actorId : String) : Prop :=
  ActiveMember plane account.organizationId actorId ∧
    ∃ assignmentId assignment, plane.assignments.get? assignmentId = some assignment ∧
      assignment.organizationId = account.organizationId ∧ assignment.actorId = actorId ∧
      assignment.projectId = account.projectId ∧ assignment.role = account.role

theorem admitRole_run :
    (admitRole account actorId now).run handle start =
      if (start.listAssignments account.organizationId (some actorId) none).any fun item =>
          item.projectId = account.projectId && item.role = account.role then (.ok (), start)
      else
        match start.createAssignment (account.assignment actorId now) with
        | .ok after => (.ok (), after)
        | .error raised => (if raised.kind = .roleAssignmentConflict then .ok () else .error raised, start) := by
  unfold admitRole
  rw [run_bind, request, run_call]
  simp only [handle]
  split
  · rfl
  · rw [run_bind, tryRequest, run_attempt]
    simp only [handle]
    cases start.createAssignment (account.assignment actorId now) with
    | ok after => rfl
    | error raised =>
      simp only [stored]
      split
      · rfl
      · rfl

theorem admitRole_spec (owner : account.organizationId = call.organization)
    (grants : call.grants = some (account.assignment actorId now))
    (inProject : ∀ projectId, call.project start = some projectId → account.projectId = some projectId)
    (before : Changes call start plane) (unchanged : plane.assignments = start.assignments)
    (active : ActiveMember plane account.organizationId actorId) :
    (admitRole account actorId now).Ensures handle plane fun result after =>
      Changes call start after ∧ (result = .ok () → Provisioned after account actorId) := by
  unfold Program.Ensures
  rw [admitRole_run]
  by_cases held : ((plane.listAssignments account.organizationId (some actorId) none).any fun item =>
      item.projectId = account.projectId && item.role = account.role) = true
  · rw [if_pos held]
    refine ⟨before, fun _ => ⟨active, ?_⟩⟩
    obtain ⟨item, listed, same⟩ := List.any_eq_true.mp held
    obtain ⟨found, here, actor, -⟩ := mem_listAssignments.mp listed
    simp only [Bool.and_eq_true, decide_eq_true_eq] at same
    exact ⟨_, item, found, here, actor actorId rfl, same.1, same.2⟩
  · rw [if_neg held]
    cases written : plane.createAssignment (account.assignment actorId now) with
    | ok after =>
      obtain ⟨member, distinct, rfl⟩ := createAssignment_ok written
      have ruled : Ruled call start plane (.createAssignment (account.assignment actorId now)) := by
        refine ⟨owner, ?_, by rintro _ ⟨⟩, fun projectId isFor => inProject projectId isFor⟩
        rintro _ ⟨⟩
        exact ⟨grants, unchanged⟩
      exact ⟨.step before ruled (.assignmentCreated member distinct),
        fun _ => ⟨active, _, _, Dict.get?_set_self .., rfl, rfl, rfl, rfl⟩⟩
    | error raised =>
      refine ⟨before, fun returned => ⟨active, ?_⟩⟩
      dsimp only at returned
      split at returned
      · rename_i conflict
        obtain ⟨assignmentId, stored, found, same⟩ := createAssignment_conflict written conflict
        simp only [RoleAssignment.sameGrant, Bool.and_eq_true, decide_eq_true_eq] at same
        exact ⟨assignmentId, stored, found, same.1.1.1, same.1.2, same.1.1.2, same.2⟩
      · cases returned

/-- Both parts of `_provision_service_account`. -/
theorem provisionSubject_spec (owner : account.organizationId = call.organization)
    (provisions : call.provisions = some (account, actorId))
    (grants : call.grants = some (account.assignment actorId now))
    (inProject : ∀ projectId, call.project start = some projectId → account.projectId = some projectId) :
    (admitMember account actorId now >>= fun _ => admitRole account actorId now).Ensures handle start
      fun result after => Changes call start after ∧ (result = .ok () → Provisioned after account actorId) := by
  rw [ensures_bind]
  refine (admitMember_spec now owner provisions).mono fun result plane admitted => ?_
  obtain ⟨changes, unchanged, active⟩ := admitted
  cases result with
  | error raised => exact ⟨changes, by rintro ⟨⟩⟩
  | ok => exact admitRole_spec now owner grants inProject changes unchanged (active rfl)

/-- A deleted assignment that grants something else leaves what an account holds. -/
theorem Provisioned.deleted (provisioned : Provisioned plane account actorId) {assignmentId : String}
    (effect : plane.Effect (.deleteAssignment organizationId assignmentId) after)
    (other : ∀ stored, plane.assignments.get? assignmentId = some stored → stored.role ≠ account.role) :
    Provisioned after account actorId := by
  cases effect with
  | unchanged => exact provisioned
  | assignmentDeleted found owned =>
    obtain ⟨active, heldId, held, stands, here, actor, project, role⟩ := provisioned
    refine ⟨active, heldId, held, ?_, here, actor, project, role⟩
    have apart : heldId ≠ assignmentId := by
      rintro rfl
      exact other held stands role
    exact (Dict.get?_erase ..).trans ((if_neg apart).trans stands)

theorem retireLegacy_spec (owner : organizationId = call.organization) (wide : call.project start = none)
    (before : Changes call start plane) (provisioned : Provisioned plane account actorId)
    (role : account.role ≠ .platformOperator) :
    (retireLegacy organizationId actorId).Ensures handle plane fun _ after =>
      Changes call start after ∧ Provisioned after account actorId := by
  unfold retireLegacy
  refine ensures_attempt_bind ?_
  simp only [handle]
  cases read : plane.getAssignment organizationId (legacyAssignmentId actorId) with
  | error raised =>
    dsimp only
    split
    · exact ⟨before, provisioned⟩
    · exact ⟨before, provisioned⟩
  | ok legacy =>
    obtain ⟨found, -⟩ := getAssignment_ok read
    dsimp only
    split
    · rename_i retired
      have effect := handle_effect plane (.deleteAssignment organizationId (legacyAssignmentId actorId))
      have ruled : Ruled call start plane (.deleteAssignment organizationId (legacyAssignmentId actorId)) := by
        refine ruled_other owner (by rintro _ ⟨⟩) (by rintro _ ⟨⟩) fun projectId isFor => ?_
        rw [wide] at isFor
        cases isFor
      have other : ∀ stored, plane.assignments.get? (legacyAssignmentId actorId) = some stored →
          stored.role ≠ account.role := by
        intro stored stands
        obtain rfl := Option.some.inj (stands.symm.trans found)
        rw [retired]
        exact role.symm
      have done := And.intro (Changes.step before ruled effect) (provisioned.deleted effect other)
      refine ensures_call_bind ?_ ?_
      · intro answer after outcome
        rw [show (handle _ plane).2 = after from congrArg Prod.snd outcome] at done
        exact done
      · intro raised after outcome
        rw [show (handle _ plane).2 = after from congrArg Prod.snd outcome] at done
        exact done
    · exact ⟨before, provisioned⟩

theorem withdrawReplaced_spec {projectId : String} (owner : organizationId = call.organization)
    (inProject : ∀ named, call.project start = some named → named = projectId) {listed : List RoleAssignment}
    (stands : ∀ item ∈ listed, replaced projectId account.role item = true → ∀ stored,
      plane.assignments.get? item.assignmentId = some stored →
        stored.projectId = some projectId ∧ stored.role ≠ account.role)
    (before : Changes call start plane) (provisioned : Provisioned plane account actorId) :
    (withdrawReplaced organizationId projectId account.role listed).Ensures handle plane fun _ after =>
      Changes call start after ∧ Provisioned after account actorId := by
  induction listed generalizing plane with
  | nil => exact ⟨before, provisioned⟩
  | cons item rest ih =>
    unfold withdrawReplaced
    split
    · rename_i asked
      have effect := handle_effect plane (.deleteAssignment organizationId item.assignmentId)
      have ruled : Ruled call start plane (.deleteAssignment organizationId item.assignmentId) := by
        refine ruled_other owner (by rintro _ ⟨⟩) (by rintro _ ⟨⟩) fun named isFor stored found _ => ?_
        rw [inProject named isFor]
        exact (stands item List.mem_cons_self asked stored found).1
      have kept := provisioned.deleted effect fun stored found =>
        (stands item List.mem_cons_self asked stored found).2
      have changes := Changes.step before ruled effect
      refine ensures_call_bind ?_ ?_
      · intro answer after outcome
        rw [show (handle _ plane).2 = after from congrArg Prod.snd outcome] at changes kept effect
        refine ih (fun other member wanted stored found => ?_) changes kept
        refine stands other (List.mem_cons_of_mem _ member) wanted stored ?_
        cases effect with
        | unchanged => exact found
        | assignmentDeleted =>
          rw [show (plane.dropAssignment _).assignments.get? _ = _ from Dict.get?_erase ..] at found
          split at found
          · cases found
          · exact found
      · intro raised after outcome
        rw [show (handle _ plane).2 = after from congrArg Prod.snd outcome] at changes kept
        exact ⟨changes, kept⟩
    · exact ih (fun other member => stands other (List.mem_cons_of_mem _ member)) before provisioned

end Specs

section Calls

variable {start : ControlPlane} (extensions : List String) {projectId actorId : String} {environment : Option String} {now : Instant}
  {uuid : Uuid}

/-- A program that changes what its call may change. -/
abbrev Behaves {α : Type} (call : ControlPlaneCall) (start : ControlPlane) (program : ControlPlaneOperation α)
    (plane : ControlPlane) : Prop :=
  program.Ensures handle plane fun _ after => Changes call start after

theorem behaves_request (before : Changes call start plane) (ruled : Ruled call start plane command) :
    Behaves call start (request command) plane :=
  ensures_call.mpr (.step before ruled (handle_effect plane command))

theorem behaves_request_bind {β : Type} {next : controlPlaneRepository.Answer command → ControlPlaneOperation β}
    (before : Changes call start plane) (ruled : Ruled call start plane command)
    (continues : ∀ answer after, plane.Effect command after → Changes call start after →
      Behaves call start (next answer) after) : Behaves call start (request command >>= next) plane := by
  have effect := handle_effect plane command
  refine ensures_call_bind ?_ ?_
  · intro answer after outcome
    rw [show (handle command plane).2 = after from congrArg Prod.snd outcome] at effect
    exact continues answer after effect (.step before ruled effect)
  · intro raised after outcome
    rw [show (handle command plane).2 = after from congrArg Prod.snd outcome] at effect
    exact .step before ruled effect

theorem behaves_ofExcept_bind {α β : Type} {result : Except Raised α} {next : α → ControlPlaneOperation β}
    (before : Changes call start plane)
    (continues : ∀ value, result = .ok value → Behaves call start (next value) plane) :
    Behaves call start (Program.ofExcept result >>= next) plane :=
  ensures_ofExcept_bind continues fun _ _ => before

theorem createOrganization_behaves (name slug : String) (actorName : Option String) :
    Behaves (.createOrganization organizationId name slug actorId actorName now uuid) start
      (Tenancy.createOrganization organizationId name slug actorId actorName now uuid) start := by
  unfold Tenancy.createOrganization
  refine behaves_ofExcept_bind .refl fun slug _ => behaves_ofExcept_bind .refl fun organization built => ?_
  have named : organization.record.organizationId = organizationId := by
    rw [Checked.create_eq_ok_iff.mp built]
  refine behaves_request_bind .refl (ruled_other named (by rintro _ ⟨⟩) (by rintro _ ⟨⟩) (by rintro _ ⟨⟩))
    fun created first effect changes => ?_
  have unchanged : first.assignments = start.assignments := by
    cases effect with
    | unchanged | organizationCreated => rfl
  refine behaves_request_bind changes (ruled_other rfl (by rintro _ ⟨⟩) (by rintro _ ⟨⟩) (by rintro _ ⟨⟩))
    fun entered second effect changes => ?_
  have unchanged : second.assignments = start.assignments := by
    cases effect with
    | unchanged | membershipCreated => exact unchanged
  refine behaves_request_bind changes ⟨rfl, ?_, by rintro _ ⟨⟩, by rintro _ ⟨⟩⟩ fun granted third _ changes => changes
  rintro _ ⟨⟩
  exact ⟨rfl, unchanged⟩

theorem updateOrganization_behaves (name slug : Option String) (status : Option OrganizationStatus) :
    Behaves (.updateOrganization context name slug status now) start
      (Tenancy.updateOrganization extensions context name slug status now) start := by
  refine require_then extensions context ?_ fun _ => .refl
  refine ensures_call_bind ?_ fun _ after outcome => ?_
  · intro current after outcome
    have found := getOrganization_ok (congrArg Prod.fst outcome)
    obtain rfl : start = after := congrArg Prod.snd outcome
    split
    · exact .refl
    · refine behaves_ofExcept_bind .refl fun slug _ => behaves_ofExcept_bind .refl fun organization built => ?_
      refine behaves_request .refl (ruled_other ?_ (by rintro _ ⟨⟩) (by rintro _ ⟨⟩) (by rintro _ ⟨⟩))
      have same := Checked.create_eq_ok_iff.mp built
      have named : organization.record.organizationId = current.record.organizationId := by rw [same]
      exact named.trans (start.organizationKeyed found)
  · obtain rfl : start = after := congrArg Prod.snd outcome
    exact .refl

theorem createProject_behaves (name slug : String) (description : Option String) :
    Behaves (.createProject context projectId name slug description now) start
      (Tenancy.createProject extensions context projectId name slug description now) start := by
  refine require_then extensions context ?_ fun _ => .refl
  refine behaves_ofExcept_bind .refl fun slug _ => behaves_ofExcept_bind .refl fun project built => ?_
  have same := Checked.create_eq_ok_iff.mp built
  refine behaves_request .refl (ruled_other ?_ (by rintro _ ⟨⟩) (by rintro _ ⟨⟩) ?_)
  · rw [IsFor, same]
    rfl
  · rintro _ ⟨⟩
    rw [IsBeside, same]
    exact ⟨rfl, rfl⟩

theorem updateProject_behaves (name slug description : Option String) (status : Option ProjectStatus) :
    Behaves (.updateProject context projectId name slug description status now) start
      (Tenancy.updateProject extensions context projectId name slug description status now) start := by
  refine require_then extensions context ?_ fun _ => .refl
  refine ensures_call_bind ?_ fun _ after outcome => ?_
  · intro current after outcome
    have found := getProject_ok (congrArg Prod.fst outcome)
    obtain rfl : start = after := congrArg Prod.snd outcome
    obtain ⟨sameOrganization, sameProject⟩ := Prod.mk.inj (start.projectKeyed found)
    split
    · exact .refl
    · refine behaves_ofExcept_bind .refl fun slug _ => behaves_ofExcept_bind .refl fun project built => ?_
      have same := Checked.create_eq_ok_iff.mp built
      refine behaves_request .refl (ruled_other ?_ (by rintro _ ⟨⟩) (by rintro _ ⟨⟩) ?_)
      · rw [IsFor, same]
        exact sameOrganization
      · rintro _ ⟨⟩
        rw [IsBeside, same]
        exact ⟨sameOrganization, sameProject⟩
  · obtain rfl : start = after := congrArg Prod.snd outcome
    exact .refl

theorem addMembership_behaves (displayName : Option String) :
    Behaves (.addMembership context actorId displayName now) start
      (Tenancy.addMembership extensions context actorId displayName now) start := by
  refine require_then extensions context ?_ fun _ => .refl
  exact behaves_request .refl (ruled_other rfl (by rintro _ ⟨⟩) (by rintro _ ⟨⟩) (by rintro _ ⟨⟩))

theorem updateMembership_behaves (status : MembershipStatus) :
    Behaves (.updateMembership context actorId status now) start
      (Tenancy.updateMembership extensions context actorId status now) start := by
  refine require_then extensions context ?_ fun _ => .refl
  exact behaves_request .refl (ruled_other rfl (by rintro _ ⟨⟩) (by rintro _ ⟨⟩) (by rintro _ ⟨⟩))

theorem assignRole_behaves (role : BuiltInRole) (projectId : Option String) :
    Behaves (.assignRole context actorId role projectId now uuid) start
      (Tenancy.assignRole extensions context actorId role projectId now uuid) start := by
  refine require_then extensions context ?_ fun _ => .refl
  refine behaves_request .refl ⟨rfl, ?_, by rintro _ ⟨⟩, fun _ isFor => isFor⟩
  rintro _ ⟨⟩
  exact ⟨rfl, rfl⟩

theorem removeAssignment_behaves (assignmentId : String) :
    Behaves (.removeAssignment context assignmentId) start
      (Tenancy.removeAssignment extensions context assignmentId) start := by
  refine require_then extensions context ?_ fun _ => .refl
  refine behaves_request .refl (ruled_other rfl (by rintro _ ⟨⟩) (by rintro _ ⟨⟩) fun projectId isFor => ?_)
  intro stored found _
  rw [ControlPlaneCall.project, found] at isFor
  exact isFor

/-- What a provisioning call does, and what its subject holds when it returns. -/
abbrev Provisions (call : ControlPlaneCall) (start : ControlPlane) (program : ControlPlaneOperation Unit) : Prop :=
  program.Ensures handle start fun result after => Changes call start after ∧ (result = .ok () →
    ∀ account actorId, call.provisions = some (account, actorId) → Provisioned after account actorId)

theorem provisionServiceAccount_provisions {subject : Option String}
    (owner : account.organizationId = call.organization)
    (provisions : call.provisions = (Text.orElse subject none).map (account, ·))
    (grants : call.grants = call.provisions.map fun (account, actorId) => account.assignment actorId now)
    (inProject : ∀ projectId, call.project start = some projectId → account.projectId = some projectId) :
    Provisions call start (provisionServiceAccount account subject now) := by
  unfold provisionServiceAccount
  cases named : Text.orElse subject none with
  | none =>
    rw [named] at provisions
    refine ⟨.refl, fun _ account actorId provisioned => ?_⟩
    rw [provisions] at provisioned
    cases provisioned
  | some actorId =>
    rw [named] at provisions
    rw [provisions] at grants
    refine (provisionSubject_spec now owner provisions grants inProject).mono fun result after spec => ?_
    refine ⟨spec.1, fun returned _ _ provisioned => ?_⟩
    rw [provisions] at provisioned
    cases provisioned
    exact spec.2 returned

theorem provisionMcp_provisions (actorId : Option String) :
    Provisions (.provisionMcp organizationId actorId environment now) start
      (Tenancy.provisionMcp organizationId actorId environment now) :=
  provisionServiceAccount_provisions rfl rfl rfl (by rintro _ ⟨⟩)

theorem provisionCausalAuditValidator_provisions (actorId : Option String) :
    Provisions (.provisionCausalAuditValidator organizationId projectId actorId environment now) start
      (Tenancy.provisionCausalAuditValidator organizationId projectId actorId environment now) :=
  provisionServiceAccount_provisions rfl rfl rfl fun _ isFor => isFor

theorem provisionWalkthrough_provisions (actorId : Option String) :
    Provisions (.provisionWalkthrough organizationId actorId environment now) start
      (Tenancy.provisionWalkthrough organizationId actorId environment now) := by
  unfold Tenancy.provisionWalkthrough
  have head : Provisions (.provisionWalkthrough organizationId actorId environment now) start
      (provisionServiceAccount (walkthroughAccount organizationId) (Text.orElse actorId environment) now) :=
    provisionServiceAccount_provisions rfl rfl rfl (by rintro _ ⟨⟩)
  unfold Provisions
  rw [ensures_bind]
  refine head.mono fun result plane spec => ?_
  obtain ⟨changes, provisioned⟩ := spec
  cases result with
  | error raised => exact ⟨changes, by rintro ⟨⟩⟩
  | ok =>
    simp only [ControlPlaneCall.provisions] at provisioned ⊢
    cases named : Text.orElse (Text.orElse actorId environment) none with
    | none => exact ⟨changes, by rintro _ _ _ ⟨⟩⟩
    | some subject =>
      rw [named] at provisioned
      have held := provisioned trivial _ _ rfl
      refine (retireLegacy_spec rfl rfl changes held (by rintro ⟨⟩)).mono fun _ after spec => ?_
      refine ⟨spec.1, ?_⟩
      rintro - _ _ ⟨⟩
      exact spec.2

theorem provisionExternalRuntime_provisions (actorId : Option String) (grantTestSettingsManage : Bool) :
    Provisions (.provisionExternalRuntime organizationId projectId actorId environment grantTestSettingsManage now)
      start (Tenancy.provisionExternalRuntime organizationId projectId actorId environment grantTestSettingsManage
        now) := by
  unfold Tenancy.provisionExternalRuntime
  have head : Provisions
      (.provisionExternalRuntime organizationId projectId actorId environment grantTestSettingsManage now) start
      (provisionServiceAccount (externalRuntimeAccount organizationId projectId grantTestSettingsManage)
        (Text.orElse actorId environment) now) :=
    provisionServiceAccount_provisions rfl rfl rfl fun _ isFor => isFor
  unfold Provisions
  rw [ensures_bind]
  refine head.mono fun result plane spec => ?_
  obtain ⟨changes, provisioned⟩ := spec
  cases result with
  | error raised => exact ⟨changes, by rintro ⟨⟩⟩
  | ok =>
    simp only [ControlPlaneCall.provisions] at provisioned ⊢
    cases named : Text.orElse (Text.orElse actorId environment) none with
    | none => exact ⟨changes, by rintro _ _ _ ⟨⟩⟩
    | some subject =>
      rw [named] at provisioned
      have held := provisioned trivial _ _ rfl
      refine ensures_read_bind rfl ?_
      have stands : ∀ item ∈ plane.listAssignments organizationId (some subject) none,
          replaced projectId (externalRuntimeAccount organizationId projectId grantTestSettingsManage).role item =
            true → ∀ stored, plane.assignments.get? item.assignmentId = some stored →
            stored.projectId = some projectId ∧
              stored.role ≠ (externalRuntimeAccount organizationId projectId grantTestSettingsManage).role := by
        intro item listed asked stored found
        obtain ⟨stood, -⟩ := mem_listAssignments.mp listed
        obtain rfl := Option.some.inj (stood.symm.trans found)
        simp only [replaced, Bool.and_eq_true, decide_eq_true_eq] at asked
        exact ⟨asked.1.1, asked.2⟩
      refine (withdrawReplaced_spec rfl ?_ stands changes held).mono fun _ after spec => ?_
      · rintro _ ⟨⟩
        rfl
      · refine ⟨spec.1, ?_⟩
        rintro - _ _ ⟨⟩
        exact spec.2

theorem call_behaves (call : ControlPlaneCall) :
    (call.program extensions).Ensures handle start fun result after => Changes call start after ∧
      ((∃ response, result = .ok response) → ∀ account actorId, call.provisions = some (account, actorId) →
        Provisioned after account actorId) := by
  have other : ∀ {call : ControlPlaneCall} {α : Type} {program : ControlPlaneOperation α}
      {relabel : α → ControlPlaneResponse}, Behaves call start program start → call.provisions = none →
      (program >>= fun value => Program.done (relabel value)).Ensures handle start fun result after =>
        Changes call start after ∧ ((∃ response, result = .ok response) → ∀ account actorId,
          call.provisions = some (account, actorId) → Provisioned after account actorId) := by
    intro call α program relabel behaves none
    unfold Program.Ensures
    rw [run_map, none]
    exact ⟨behaves, by rintro _ _ _ ⟨⟩⟩
  have provisioning : ∀ {call : ControlPlaneCall} {program : ControlPlaneOperation Unit},
      Provisions call start program →
      (program >>= fun _ => Program.done ControlPlaneResponse.provisioned).Ensures handle start fun result after =>
        Changes call start after ∧ ((∃ response, result = .ok response) → ∀ account actorId,
          call.provisions = some (account, actorId) → Provisioned after account actorId) := by
    rintro call program ⟨changes, provisioned⟩
    unfold Program.Ensures
    rw [run_map]
    refine ⟨changes, ?_⟩
    rintro ⟨response, returned⟩
    cases given : (program.run handle start).1 with
    | ok => exact provisioned given
    | error raised =>
      rw [given] at returned
      cases returned
  cases call with
  | createOrganization organizationId name slug actorId actorName now uuid =>
    exact other (createOrganization_behaves name slug actorName) rfl
  | updateOrganization context name slug status now =>
    exact other (updateOrganization_behaves extensions name slug status) rfl
  | createProject context projectId name slug description now =>
    exact other (createProject_behaves extensions name slug description) rfl
  | updateProject context projectId name slug description status now =>
    exact other (updateProject_behaves extensions name slug description status) rfl
  | addMembership context actorId displayName now =>
    exact other (addMembership_behaves extensions displayName) rfl
  | updateMembership context actorId status now =>
    exact other (updateMembership_behaves extensions status) rfl
  | assignRole context actorId role projectId now uuid =>
    exact other (assignRole_behaves extensions role projectId) rfl
  | removeAssignment context assignmentId =>
    exact other (removeAssignment_behaves extensions assignmentId) rfl
  | provisionMcp organizationId actorId environment now =>
    exact provisioning (provisionMcp_provisions actorId)
  | provisionWalkthrough organizationId actorId environment now =>
    exact provisioning (provisionWalkthrough_provisions actorId)
  | provisionExternalRuntime organizationId projectId actorId environment grantTestSettingsManage now =>
    exact provisioning (provisionExternalRuntime_provisions actorId
      grantTestSettingsManage)
  | provisionCausalAuditValidator organizationId projectId actorId environment now =>
    exact provisioning (provisionCausalAuditValidator_provisions actorId)

end Calls

end Frames

/-! ## Every run -/

/-- The tables after a call. -/
def ControlPlaneCall.after (call : ControlPlaneCall) (extensions : List String) (plane : ControlPlane) : ControlPlane :=
  ((call.program extensions).run handle plane).2

/-- `uuid4` draws no identifier a second time. -/
def ControlPlaneCall.IsFresh (call : ControlPlaneCall) (plane : ControlPlane) : Prop :=
  ∀ grant, call.grants = some grant → call.provisions = none → grant.assignmentId ∉ plane.issued

/-- Tables that a run of calls leads to. -/
inductive Served (extensions : List String) : ControlPlane → Prop where
  | start : Served extensions .empty
  | call {plane : ControlPlane} (before : Served extensions plane) (call : ControlPlaneCall)
      (fresh : call.IsFresh plane) : Served extensions (call.after extensions plane)

theorem Served.enrolled {extensions : List String} (served : Served extensions plane) : Enrolled plane := by
  induction served with
  | start =>
    rintro _ _ ⟨⟩
  | call _ call _ ih =>
    exact run_keeps handle (fun command state enrolled => enrolled.effect (handle_effect state command)) _
      ih

/-- A provisioning call writes its derived identifier over an assignment outside its tenant. -/
def ControlPlaneCall.SpillsInto (call : ControlPlaneCall) (plane : ControlPlane) (outside : RoleAssignment → Prop) :
    Prop :=
  ∃ account actorId, call.provisions = some (account, actorId) ∧
    Overwrites plane (account.assignment actorId call.now) outside

/-- A provisioning call makes a suspended or removed member active again. -/
def ControlPlaneCall.Readmits (call : ControlPlaneCall) (plane : ControlPlane) : Prop :=
  ∃ account actorId membership, call.provisions = some (account, actorId) ∧
    plane.memberships.get? (account.organizationId, actorId) = some membership ∧ membership.status ≠ .active

/-- A provisioning call writes the assignment of its account. -/
theorem ControlPlaneCall.grants_of_provisions {actorId : String}
    (provisioned : call.provisions = some (account, actorId)) :
    call.grants = some (account.assignment actorId call.now) := by
  cases call with
  | createOrganization | assignRole | updateOrganization | createProject | updateProject | addMembership
  | updateMembership | removeAssignment => cases provisioned
  | provisionMcp | provisionWalkthrough | provisionExternalRuntime | provisionCausalAuditValidator =>
    exact congrArg (Option.map _) provisioned

/-- A call overwrites an assignment elsewhere only as a provisioning call does. -/
theorem not_overwrites (fresh : call.IsFresh plane) {outside : RoleAssignment → Prop}
    (kept : ¬ call.SpillsInto plane outside) {grant : RoleAssignment} (granted : call.grants = some grant) :
    ¬ Overwrites plane grant outside := by
  intro overwrites
  cases provisioned : call.provisions with
  | none =>
    obtain ⟨⟨stored, found, -⟩, -⟩ := overwrites
    exact fresh grant granted provisioned (plane.filed found)
  | some subject =>
    obtain rfl := Option.some.inj (granted.symm.trans (ControlPlaneCall.grants_of_provisions provisioned))
    exact kept ⟨_, _, provisioned, overwrites⟩

/-- In every run, a call leaves every permission of another organization as it was, unless it provisions a subject
under an identifier that is taken there; a call for a project leaves every permission of another project of the
organization, unless it does that or makes a member active again; and a provisioning call that returns leaves its
subject with its role where the account is for. -/
theorem grants_isolated (extensions : List String) {plane : ControlPlane} (served : Served extensions plane)
    (call : ControlPlaneCall) (fresh : call.IsFresh plane) :
    (∀ context permission resource, context.organizationId ≠ call.organization →
      ¬ call.SpillsInto plane (·.organizationId = context.organizationId) →
        (Allows extensions (call.after extensions plane) context permission resource ↔
          Allows extensions plane context permission resource)) ∧
    (∀ context permission resource here there, context.organizationId = call.organization →
      call.project plane = some here → context.projectId = some there → there ≠ here →
      ¬ call.SpillsInto plane (CountsIn call.organization there) → ¬ call.Readmits plane →
        (Allows extensions (call.after extensions plane) context permission resource ↔
          Allows extensions plane context permission resource)) ∧
    ((∃ response, ((call.program extensions).run handle plane).1 = .ok response) →
      ∀ account actorId, call.provisions = some (account, actorId) →
        Provisioned (call.after extensions plane) account actorId) := by
  obtain ⟨changes, provisioned⟩ := @call_behaves plane extensions call
  refine ⟨fun context permission resource different kept => ?_, ?_, provisioned⟩
  · exact (changes.apart different fun grant granted => not_overwrites fresh kept granted).allows rfl
  · intro context permission resource here there same inProject inThere different kept welcome
    have aside := changes.aside served.enrolled inProject different
      (fun grant granted => not_overwrites fresh kept granted)
      (fun account actorId membership provisioned found => ?_)
    · exact aside.allows same inThere
    · by_contra inactive
      exact welcome ⟨account, actorId, membership, provisioned, found, inactive⟩

/-! ## Two organizations and one service subject -/

private def creates (organizationId digits : String) (hex : digits.toList.all Text.isHex = true) : ControlPlaneCall :=
  .createOrganization organizationId "Name" organizationId "root" none ⟨0⟩ ⟨digits, hex⟩

private def provisionsService (organizationId : String) : ControlPlaneCall :=
  .provisionMcp organizationId (some "svc") none ⟨0⟩

/-- Two organizations. -/
private def twoOrganizations : ControlPlane :=
  (creates "globex" "02" (by decide)).after [] ((creates "acme" "01" (by decide)).after [] .empty)

theorem served_twoOrganizations : Served [] twoOrganizations := by
  refine .call (.call .start _ ?_) _ ?_
  · rintro _ ⟨⟩ -
    decide +kernel
  · rintro _ ⟨⟩ -
    decide +kernel

/-- A test of `authorize`. -/
private def allowsTest (plane : ControlPlane) (context : TenantContext) (permission : PermissionName) : Bool :=
  match ((authorize [] context permission none).run handle plane).1 with
  | .ok decision => decision.allowed
  | .error _ => false

theorem allows_iff_test {permission : PermissionName} :
    Allows [] plane context permission none ↔ allowsTest plane context permission = true := by
  unfold Allows allowsTest
  cases ((authorize [] context permission none).run handle plane).1 with
  | ok decision => simp
  | error raised => simp

/-- A subject provisioned in one organization, with nothing of the other one lost. -/
theorem grants_isolated_firstProvisioning :
    Provisioned ((provisionsService "globex").after [] twoOrganizations) (mcpAccount "globex") "svc" ∧
      (Allows [] ((provisionsService "globex").after [] twoOrganizations) ⟨"acme", none, "root"⟩
          (.builtIn .jobSubmit) none ↔
        Allows [] twoOrganizations ⟨"acme", none, "root"⟩ (.builtIn .jobSubmit) none) := by
  obtain ⟨apart, -, provisioned⟩ :=
    grants_isolated [] served_twoOrganizations (provisionsService "globex") (by rintro _ - ⟨⟩)
  constructor
  · refine provisioned ?_ _ _ rfl
    have returned : (((provisionsService "globex").program []).run handle twoOrganizations).1.toBool = true := by
      decide +kernel
    cases given : (((provisionsService "globex").program []).run handle twoOrganizations).1 with
    | ok response => exact ⟨response, rfl⟩
    | error raised =>
      rw [given] at returned
      cases returned
  · refine apart ⟨"acme", none, "root"⟩ _ none (by decide +kernel) ?_
    rintro ⟨account, actorId, ⟨⟩, ⟨stored, found, -⟩, -⟩
    have absent : (twoOrganizations.assignments.get?
        ((mcpAccount "globex").assignment "svc" ⟨0⟩).assignmentId).isNone = true := by decide +kernel
    rw [Option.isNone_iff_eq_none] at absent
    cases absent.symm.trans found

/-- The same subject provisioned in a second organization takes the place of its assignment in the first one. -/
theorem grants_isolated_broken :
    ¬ ∀ plane, Served [] plane → ∀ call : ControlPlaneCall, call.IsFresh plane →
      ∀ context permission resource, context.organizationId ≠ call.organization →
        (Allows [] (call.after [] plane) context permission resource ↔
          Allows [] plane context permission resource) := by
  intro claimed
  have served : Served [] ((provisionsService "acme").after [] twoOrganizations) :=
    .call served_twoOrganizations _ (by rintro _ - ⟨⟩)
  have same := claimed _ served (provisionsService "globex") (by rintro _ - ⟨⟩) ⟨"acme", none, "svc"⟩
    (.builtIn .jobSubmit) none (by decide +kernel)
  rw [allows_iff_test, allows_iff_test] at same
  have before : allowsTest ((provisionsService "acme").after [] twoOrganizations) ⟨"acme", none, "svc"⟩
      (.builtIn .jobSubmit) = true := by decide +kernel
  have lost : allowsTest ((provisionsService "globex").after [] ((provisionsService "acme").after [] twoOrganizations))
      ⟨"acme", none, "svc"⟩ (.builtIn .jobSubmit) = false := by decide +kernel
  rw [before, lost] at same
  exact absurd (same.mpr rfl) (by decide)

end AiGovernance.Tenancy
