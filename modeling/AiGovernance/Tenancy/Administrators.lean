import AiGovernance.Semantics.Pool
import AiGovernance.Services.ControlPlane

/-!
# Organizations keep an administrator

Any number of control-plane calls in flight over one store, their repository
calls interleaved in any order. `Sound` is what holds of the tables in every
state; `Frame` is what no call of another takes away. From both,
`administered`: once no call is in flight, every organization has an active
administrator, as long as nobody enters the creator of an organization as a
member between the two first writes of `create_organization`.
-/

namespace AiGovernance.Tenancy

open AiGovernance.Std Domain Semantics List Program

variable {command : ControlPlaneCommand} {listed : List RoleAssignment} {first after : ControlPlane}

/-- An identifier of the form the service draws. -/
def Drawn (assignmentId : String) : Prop := ∃ uuid : Uuid, assignmentId = uuid.roleId

theorem not_drawn_legacyAssignmentId (actorId : String) : ¬ Drawn (legacyAssignmentId actorId) := by
  rintro ⟨uuid, same⟩
  have texts : ("role_walkthrough_" ++ String.ofList (actorId.toList.filter (· ≠ '-'))).toList.drop 5 =
      ("role_" ++ uuid.hex).toList.drop 5 := congrArg (List.drop 5 ∘ String.toList) same
  rw [String.toList_append, String.toList_append] at texts
  have start : "role_walkthrough_".toList = "role_".toList ++ "walkthrough_".toList := by decide +kernel
  have length : "role_".toList.length = 5 := by decide +kernel
  rw [start, append_assoc, ← length, drop_left, drop_left] at texts
  have underscore : '_' ∈ uuid.hex.toList := by
    rw [← texts]
    simp
  have digit := all_eq_true.mp uuid.digits '_' underscore
  exact absurd digit (by decide)

namespace ControlPlane

/-- An active member of the organization holds its organization-wide administration. -/
def HasAdministrator (plane : ControlPlane) (organizationId : String) : Prop :=
  ∃ assignmentId assignment membership, plane.assignments.get? assignmentId = some assignment ∧
    assignment.organizationId = organizationId ∧ assignment.projectId = none ∧
    assignment.role = .organizationAdmin ∧
    plane.memberships.get? (organizationId, assignment.actorId) = some membership ∧ membership.status = .active

/-- What holds of the tables in every state. -/
structure Sound (plane : ControlPlane) : Prop where
  /-- Whoever is assigned a role is a member. -/
  member : ∀ {assignmentId assignment}, plane.assignments.get? assignmentId = some assignment →
    ∃ membership, plane.memberships.get? (assignment.organizationId, assignment.actorId) = some membership
  /-- No two assignments grant the same. -/
  single : ∀ {assignmentId otherId assignment other}, plane.assignments.get? assignmentId = some assignment →
    plane.assignments.get? otherId = some other → assignment.sameGrant other = true → assignmentId = otherId
  /-- Administration is assigned under drawn identifiers only. -/
  drawn : ∀ {assignmentId assignment}, plane.assignments.get? assignmentId = some assignment →
    assignment.role = .organizationAdmin → Drawn assignmentId

/-- What is assigned under an identifier, if anything, is no administration. -/
def Plain (plane : ControlPlane) (assignmentId : String) : Prop :=
  ∀ assignment, plane.assignments.get? assignmentId = some assignment → assignment.role ≠ .organizationAdmin

/-- What a step of any call leaves in place. -/
structure Frame (plane after : ControlPlane) : Prop where
  organizations : ∀ organizationId, (plane.organizations.get? organizationId).isSome →
    (after.organizations.get? organizationId).isSome
  memberships : ∀ key, (plane.memberships.get? key).isSome → (after.memberships.get? key).isSome
  active : ∀ {organizationId actorId membership},
    plane.memberships.get? (organizationId, actorId) = some membership → membership.status = .active →
      (∃ later, after.memberships.get? (organizationId, actorId) = some later ∧ later.status = .active) ∨
        after.HasAdministrator organizationId
  administrator : ∀ {organizationId}, plane.HasAdministrator organizationId → after.HasAdministrator organizationId
  issued : ∀ {assignmentId}, assignmentId ∈ plane.issued → assignmentId ∈ after.issued
  plain : ∀ {assignmentId}, assignmentId ∈ plane.issued → plane.Plain assignmentId → after.Plain assignmentId

theorem Frame.refl (plane : ControlPlane) : Frame plane plane where
  organizations := fun _ found => found
  memberships := fun _ found => found
  active := fun found active => Or.inl ⟨_, found, active⟩
  administrator := fun found => found
  issued := fun member => member
  plain := fun _ plain => plain

theorem Frame.trans {second third : ControlPlane} (before : Frame first second) (next : Frame second third) :
    Frame first third where
  organizations := fun organizationId found => next.organizations _ (before.organizations organizationId found)
  memberships := fun key found => next.memberships _ (before.memberships key found)
  active := by
    intro organizationId actorId membership found active
    rcases before.active found active with ⟨later, kept, still⟩ | administered
    · exact next.active kept still
    · exact Or.inr (next.administrator administered)
  administrator := fun found => next.administrator (before.administrator found)
  issued := fun member => next.issued (before.issued member)
  plain := fun member plain => next.plain (before.issued member) (before.plain member plain)

theorem sound_empty : Sound empty where
  member := fun found => by cases found
  single := fun found => by cases found
  drawn := fun found => by cases found

/-! ## What each write keeps -/

variable {plane : ControlPlane}

theorem Sound.putOrganization (sound : plane.Sound) (organization : Organization) :
    (plane.putOrganization organization).Sound ∧ plane.Frame (plane.putOrganization organization) := by
  refine ⟨⟨sound.member, sound.single, sound.drawn⟩, ?_⟩
  refine { Frame.refl plane with organizations := fun organizationId found => ?_ }
  show ((plane.organizations.set _ _).get? _).isSome
  rw [Dict.get?_set]
  split
  · rfl
  · exact found

theorem Sound.putProject (sound : plane.Sound) (project : Project) :
    (plane.putProject project).Sound ∧ plane.Frame (plane.putProject project) :=
  ⟨⟨sound.member, sound.single, sound.drawn⟩, { Frame.refl plane with }⟩

/-- A membership may be taken from an administrator who is not the last one. -/
theorem Sound.putMembership (sound : plane.Sound) {membership : OrganizationMembership}
    (safe : membership.status = .active ∨
      (plane.putMembership membership).HasAdministrator membership.organizationId) :
    (plane.putMembership membership).Sound ∧ plane.Frame (plane.putMembership membership) := by
  have persists : ∀ key, (plane.memberships.get? key).isSome →
      ((plane.putMembership membership).memberships.get? key).isSome := by
    intro key found
    show ((plane.memberships.set _ _).get? _).isSome
    rw [Dict.get?_set]
    split
    · rfl
    · exact found
  have active : ∀ {organizationId actorId current},
      plane.memberships.get? (organizationId, actorId) = some current → current.status = .active →
      (∃ later, (plane.putMembership membership).memberships.get? (organizationId, actorId) = some later ∧
        later.status = .active) ∨ (plane.putMembership membership).HasAdministrator organizationId := by
    intro organizationId actorId current found isActive
    by_cases here : (organizationId, actorId) = (membership.organizationId, membership.actorId)
    · obtain ⟨rfl, rfl⟩ := Prod.mk.inj here
      rcases safe with stays | administered
      · exact Or.inl ⟨membership, Dict.get?_set_self .., stays⟩
      · exact Or.inr administered
    · exact Or.inl ⟨current, (Dict.get?_set_of_ne _ here).trans found, isActive⟩
  refine ⟨⟨fun found => ?_, sound.single, sound.drawn⟩,
    { Frame.refl plane with memberships := persists, active := active, administrator := ?_ }⟩
  · obtain ⟨current, member⟩ := sound.member found
    exact Option.isSome_iff_exists.mp (persists _ (by rw [member]; rfl))
  · rintro organizationId ⟨assignmentId, assignment, current, found, here, wide, role, member, isActive⟩
    rcases active member isActive with ⟨later, kept, still⟩ | administered
    · exact ⟨assignmentId, assignment, later, found, here, wide, role, kept, still⟩
    · exact administered

/-- A new assignment overwrites no administration: drawn identifiers are new, the derived ones carry none. -/
theorem Sound.putAssignment (sound : plane.Sound) {assignment : RoleAssignment}
    (member : ∃ membership, plane.memberships.get? (assignment.organizationId, assignment.actorId) = some membership)
    (distinct : ∀ assignmentId stored, plane.assignments.get? assignmentId = some stored →
      stored.sameGrant assignment = false)
    (drawn : assignment.role = .organizationAdmin → Drawn assignment.assignmentId)
    (fresh : Drawn assignment.assignmentId → assignment.assignmentId ∉ plane.issued) :
    (plane.putAssignment assignment).Sound ∧ plane.Frame (plane.putAssignment assignment) := by
  have read : ∀ assignmentId, (plane.putAssignment assignment).assignments.get? assignmentId =
      if assignmentId = assignment.assignmentId then some assignment else plane.assignments.get? assignmentId :=
    fun assignmentId => Dict.get?_set ..
  refine ⟨⟨?_, ?_, ?_⟩, { Frame.refl plane with
    active := fun found active => Or.inl ⟨_, found, active⟩, administrator := ?_, issued := ?_, plain := ?_ }⟩
  · intro assignmentId stored found
    rw [read] at found
    split at found
    · cases found
      exact member
    · exact sound.member found
  · intro assignmentId otherId stored other found foundOther same
    rw [read] at found foundOther
    split at found <;> split at foundOther
    · rename_i here there
      rw [here, there]
    · cases found
      have differs := distinct otherId other foundOther
      rw [RoleAssignment.sameGrant_comm, same] at differs
      cases differs
    · cases foundOther
      rw [distinct assignmentId stored found] at same
      cases same
    · exact sound.single found foundOther same
  · intro assignmentId stored found role
    rw [read] at found
    split at found
    · rename_i here
      cases found
      rw [here]
      exact drawn role
    · exact sound.drawn found role
  · rintro organizationId ⟨assignmentId, stored, membership, found, rest⟩
    refine ⟨assignmentId, stored, membership, ?_, rest⟩
    rw [read, if_neg, found]
    rintro rfl
    exact fresh (sound.drawn found rest.2.2.1) (plane.filed found)
  · exact fun known => mem_cons_of_mem _ known
  · intro assignmentId known plain stored found role
    rw [read] at found
    split at found
    · rename_i here
      cases found
      subst here
      exact fresh (drawn role) known
    · exact plain stored found role

theorem Sound.dropAssignment (sound : plane.Sound) {assignmentId : String}
    (safe : ∀ assignment, plane.assignments.get? assignmentId = some assignment →
      assignment.role = .organizationAdmin → assignment.projectId = none →
      (plane.dropAssignment assignmentId).HasAdministrator assignment.organizationId) :
    (plane.dropAssignment assignmentId).Sound ∧ plane.Frame (plane.dropAssignment assignmentId) := by
  have read : ∀ otherId, (plane.dropAssignment assignmentId).assignments.get? otherId =
      if otherId = assignmentId then none else plane.assignments.get? otherId :=
    fun otherId => Dict.get?_erase ..
  have before : ∀ {otherId stored}, (plane.dropAssignment assignmentId).assignments.get? otherId = some stored →
      plane.assignments.get? otherId = some stored := by
    intro otherId stored found
    rw [read] at found
    split at found
    · cases found
    · exact found
  refine ⟨⟨fun found => sound.member (before found), fun found other => sound.single (before found) (before other),
    fun found => sound.drawn (before found)⟩, { Frame.refl plane with
      active := fun found active => Or.inl ⟨_, found, active⟩, administrator := ?_, plain := ?_ }⟩
  · rintro organizationId ⟨otherId, stored, membership, found, here, wide, role, rest⟩
    by_cases same : otherId = assignmentId
    · subst same
      rw [← here]
      exact safe stored found role wide
    · refine ⟨otherId, stored, membership, ?_, here, wide, role, rest⟩
      rw [read, if_neg same, found]
  · exact fun _ plain stored found => plain stored (before found)

/-! ## The locked sections -/

variable {actorId organizationId : String} {excluded : Option String}

theorem otherAdmins_ok {admins : List RoleAssignment}
    (given : plane.otherAdmins organizationId actorId excluded listed = .ok admins) {item : RoleAssignment}
    (kept : item ∈ admins) :
    item ∈ listed ∧ item.role = .organizationAdmin ∧ item.projectId = none ∧ excluded ≠ some item.assignmentId ∧
      item.actorId ≠ actorId ∧ ∃ membership,
        plane.memberships.get? (organizationId, item.actorId) = some membership ∧ membership.status = .active := by
  induction listed generalizing admins with
  | nil =>
    cases given
    cases kept
  | cons head rest ih =>
    obtain ⟨wanted, tested, next⟩ := bind_ok given
    obtain ⟨others, collected, built⟩ := bind_ok next
    cases built
    by_cases here : item ∈ others
    · obtain ⟨listed, facts⟩ := ih collected here
      exact ⟨mem_cons_of_mem _ listed, facts⟩
    · cases wanted with
      | false => exact absurd kept here
      | true =>
        rcases mem_cons.mp kept with rfl | other
        · unfold isOtherAdmin at tested
          split at tested
          · rename_i asked
            obtain ⟨membership, read, decided⟩ := bind_ok tested
            simp only [Except.ok.injEq, Bool.and_eq_true, decide_eq_true_eq] at decided asked
            exact ⟨mem_cons_self, asked.1.1, asked.1.2, asked.2, decided.2, membership,
              getMembership_ok.mp read, decided.1⟩
          · cases tested
        · exact absurd other here

/-- Whoever is protected leaves another active administrator behind. -/
theorem protectLastAdmin_ok (given : plane.protectLastAdmin organizationId actorId excluded = .ok ()) :
    ∃ assignment membership, plane.assignments.get? assignment.assignmentId = some assignment ∧
      assignment.organizationId = organizationId ∧ assignment.projectId = none ∧
      assignment.role = .organizationAdmin ∧ excluded ≠ some assignment.assignmentId ∧
      assignment.actorId ≠ actorId ∧
      plane.memberships.get? (organizationId, assignment.actorId) = some membership ∧
      membership.status = .active := by
  obtain ⟨admins, collected, rest⟩ := bind_ok given
  split at rest
  · cases rest
  · rename_i some
    obtain ⟨assignment, kept⟩ := exists_mem_of_ne_nil admins fun empty => some (by rw [empty]; rfl)
    obtain ⟨listed, role, wide, other, different, membership, member, active⟩ := otherAdmins_ok collected kept
    obtain ⟨found, here, -⟩ := mem_listAssignments.mp listed
    exact ⟨assignment, membership, found, here, wide, role, other, different, member, active⟩

/-- Where everybody with a role is a member, looking for other administrators does not fail. -/
theorem Sound.otherAdmins (sound : plane.Sound) (organizationId actorId : String) (excluded : Option String)
    (stored : ∀ item ∈ listed, item ∈ plane.listAssignments organizationId none none) :
    ∃ admins, plane.otherAdmins organizationId actorId excluded listed = .ok admins := by
  induction listed with
  | nil => exact ⟨[], rfl⟩
  | cons head rest ih =>
    obtain ⟨others, collected⟩ := ih fun item member => stored item (mem_cons_of_mem _ member)
    obtain ⟨found, here, -⟩ := mem_listAssignments.mp (stored head mem_cons_self)
    obtain ⟨membership, member⟩ := sound.member found
    rw [here] at member
    have tested : ∃ wanted, plane.isOtherAdmin organizationId actorId excluded head = .ok wanted := by
      unfold isOtherAdmin
      split
      · rw [getMembership_ok.mpr member]
        exact ⟨_, rfl⟩
      · exact ⟨false, rfl⟩
    obtain ⟨wanted, tested⟩ := tested
    refine ⟨if wanted then head :: others else others, ?_⟩
    rw [ControlPlane.otherAdmins, tested, collected]
    rfl

/-- The protection of the last administrator raises nothing else. -/
theorem Sound.protectLastAdmin_error (sound : plane.Sound) {raised : Raised}
    (given : plane.protectLastAdmin organizationId actorId excluded = .error raised) :
    raised = ⟨.lastOrganizationAdministrator, actorId⟩ := by
  obtain ⟨admins, collected⟩ := @Sound.otherAdmins (plane.listAssignments organizationId none none) plane sound
    organizationId actorId excluded fun _ member => member
  rw [protectLastAdmin, collected] at given
  change (if admins.isEmpty then _ else _) = _ at given
  split at given
  · cases given
    rfl
  · cases given

/-! ## One command -/

/-- What a command must be, where it is issued, to take no administration away. -/
def Harmless (plane : ControlPlane) : ControlPlaneCommand → Prop
  | .createMembership membership | .updateMembership membership => membership.status = .active
  | .createAssignment assignment => assignment.role = .organizationAdmin → Drawn assignment.assignmentId
  | .deleteAssignment _ assignmentId => plane.Plain assignmentId
  | _ => True

/-- `uuid4` draws no identifier a second time. -/
def Fresh (plane : ControlPlane) : ControlPlaneCommand → Prop
  | .createAssignment assignment => Drawn assignment.assignmentId → assignment.assignmentId ∉ plane.issued
  | _ => True

/-- What every call relies on the others to keep. -/
def Kept (plane after : ControlPlane) : Prop := plane.Sound → after.Sound ∧ plane.Frame after

theorem Kept.refl (plane : ControlPlane) : Kept plane plane := fun sound => ⟨sound, Frame.refl plane⟩

theorem Kept.trans {second third : ControlPlane} (before : Kept first second) (next : Kept second third) :
    Kept first third := by
  intro sound
  obtain ⟨soundSecond, frame⟩ := before sound
  obtain ⟨soundThird, after⟩ := next soundSecond
  exact ⟨soundThird, frame.trans after⟩

/-- Another administrator stays when a protected membership is changed. -/
theorem administrator_of_changeMembership {status : MembershipStatus} {now : Instant} {current : OrganizationMembership}
    (found : plane.memberships.get? (organizationId, actorId) = some current)
    (guarded : plane.protectLastAdmin organizationId actorId none = .ok ()) :
    (plane.putMembership { current with status, updatedAt := now }).HasAdministrator current.organizationId := by
  obtain ⟨assignment, membership, stored, here, wide, role, -, different, member, isActive⟩ :=
    protectLastAdmin_ok guarded
  obtain ⟨sameOrganization, sameActor⟩ := Prod.mk.inj (plane.membershipKeyed found)
  have apart : (organizationId, assignment.actorId) ≠ (current.organizationId, current.actorId) := by
    intro same
    exact different ((Prod.mk.inj same).2.trans sameActor)
  rw [← sameOrganization] at here member apart
  exact ⟨assignment.assignmentId, assignment, membership, stored, here, wide, role,
    (Dict.get?_set_of_ne _ apart).trans member, isActive⟩

/-- Another administrator stays when a protected assignment is withdrawn. -/
theorem administrator_of_withdrawAssignment {assignmentId : String}
    (guarded : plane.protectLastAdmin organizationId actorId (some assignmentId) = .ok ()) :
    (plane.dropAssignment assignmentId).HasAdministrator organizationId := by
  obtain ⟨other, membership, found, here, wide, role, different, -, member, active⟩ := protectLastAdmin_ok guarded
  refine ⟨other.assignmentId, other, membership, ?_, here, wide, role, member, active⟩
  have apart : other.assignmentId ≠ assignmentId := fun same => different (by rw [same])
  exact (Dict.get?_erase ..).trans ((if_neg apart).trans found)

/-- A harmless command with fresh identifiers keeps the tables sound and every administrator. -/
theorem Effect.kept (effect : plane.Effect command after) (harmless : plane.Harmless command)
    (fresh : plane.Fresh command) : Kept plane after := by
  intro sound
  cases effect with
  | unchanged => exact ⟨sound, Frame.refl _⟩
  | organizationCreated absent => exact sound.putOrganization _
  | organizationUpdated found => exact sound.putOrganization _
  | projectCreated => exact sound.putProject _
  | projectUpdated => exact sound.putProject _
  | membershipCreated absent => exact sound.putMembership (Or.inl harmless)
  | membershipUpdated found => exact sound.putMembership (Or.inl harmless)
  | @membershipChanged organizationId actorId status now current found guarded =>
    refine sound.putMembership ?_
    by_cases active : status = .active
    · exact Or.inl active
    · exact Or.inr (administrator_of_changeMembership found (guarded active))
  | assignmentCreated member distinct => exact sound.putAssignment member distinct harmless fresh
  | assignmentDeleted found here =>
    exact sound.dropAssignment fun stored stands role => absurd role (harmless stored stands)
  | assignmentWithdrawn found here guarded =>
    refine sound.dropAssignment fun stored stands role wide => ?_
    obtain rfl := Option.some.inj (stands.symm.trans found)
    rw [here]
    exact administrator_of_withdrawAssignment (guarded role wide)

/-- An organization is entered by `create_organization` only. -/
theorem Effect.organizations (effect : plane.Effect command after)
    (other : ∀ organization, command ≠ .createOrganization organization)
    (absent : plane.organizations.get? organizationId = none) : after.organizations.get? organizationId = none := by
  cases effect with
  | organizationCreated => exact absurd rfl (other _)
  | organizationUpdated found =>
    refine (Dict.get?_set_of_ne _ ?_).trans absent
    rintro rfl
    rw [absent] at found
    cases found
  | unchanged | projectCreated | projectUpdated | membershipCreated | membershipUpdated | membershipChanged
  | assignmentCreated | assignmentDeleted | assignmentWithdrawn => exact absent

end ControlPlane

/-! ## The calls in flight -/

open ControlPlane

/-- What a call has done to the store. -/
abbrev ControlPlaneLog := CommandLog controlPlaneRepository ControlPlane

/-- Nobody has entered the creator of an organization as a member when `create_organization` does. -/
def Uncontested (plane : ControlPlane) (log : ControlPlaneLog) : ControlPlaneCommand → Prop
  | .createMembership membership =>
    (∃ entry ∈ log, ∃ organization, entry.2 = .createOrganization organization) →
      plane.memberships.get? (membership.organizationId, membership.actorId) = none
  | _ => True

/-- Any calls over one store, on the schedules that are considered. -/
def controlPlanePool (extensions : List String)
    (considered : ControlPlane → ControlPlaneLog → ControlPlaneCommand → Prop) :
    Pool controlPlaneRepository ControlPlane ControlPlaneCall ControlPlaneResponse where
  handler := handle
  body := ControlPlaneCall.program extensions
  offered := fun _ => True
  environment := fun _ _ => False
  admits := fun plane log command => plane.Fresh command ∧ considered plane log command

/-- The interference every call tolerates. -/
def keeping : Discipline controlPlaneRepository ControlPlane where
  handler := handle
  admits := fun plane log command => plane.Fresh command ∧ Uncontested plane log command
  rely := Kept
  refl := Kept.refl
  trans := Kept.trans

/-- Every organization a call has created has an administrator. -/
def Administered {α : Type} (log : ControlPlaneLog) (_result : Except Raised α) (plane : ControlPlane) : Prop :=
  ∀ entry ∈ log, ∀ organizationId, entry.1.organizations.get? organizationId = none →
    (handle entry.2 entry.1).2.organizations.get? organizationId ≠ none → plane.HasAdministrator organizationId

/-- No command of a log has created an organization. -/
def CreatesNone (log : ControlPlaneLog) : Prop :=
  ∀ entry ∈ log, ∀ organization, entry.2 ≠ .createOrganization organization

variable {plane : ControlPlane} {log : ControlPlaneLog} {command : controlPlaneRepository.Command}
  {organizationId projectId actorId : String} {actorName subject environment : Option String} {organization : Organization}
  {role : BuiltInRole} {now : Instant} {uuid : Uuid}

theorem CreatesNone.append (none : CreatesNone log)
    (other : ∀ organization, command ≠ .createOrganization organization) : CreatesNone (log ++ [(plane, command)]) := by
  intro entry member
  rcases mem_append.mp member with earlier | last
  · exact none entry earlier
  · obtain rfl := mem_singleton.mp last
    exact other

theorem CreatesNone.leavesAdministered {α : Type} (none : CreatesNone log) (result : Except Raised α) :
    Administered log result plane := by
  intro entry member organizationId absent present
  exact absurd ((handle_effect entry.1 entry.2).organizations (none entry member) absent) present

/-- The commands that take no administration away wherever they are issued, and create no organization. -/
def Allowed : ControlPlaneCommand → Prop
  | .createOrganization _ => False
  | .createMembership membership | .updateMembership membership => membership.status = .active
  | .createAssignment assignment => assignment.role = .organizationAdmin → Drawn assignment.assignmentId
  | .deleteAssignment _ assignmentId => ¬ Drawn assignmentId
  | _ => True

theorem Allowed.harmless (allowed : Allowed command) (sound : plane.Sound) : plane.Harmless command := by
  cases command with
  | createOrganization => exact allowed.elim
  | createMembership => exact allowed
  | updateMembership => exact allowed
  | createAssignment => exact allowed
  | deleteAssignment organizationId assignmentId =>
    exact fun assignment found role => allowed (sound.drawn found role)
  | getOrganization | updateOrganization | getProject | createProject | updateProject | getMembership
  | changeMembership | getAssignment | listAssignments | withdrawAssignment => trivial

theorem Allowed.other (allowed : Allowed command) (organization : Organization) :
    command ≠ .createOrganization organization := by
  rintro rfl
  exact allowed

theorem Allowed.kept (allowed : Allowed command) (fresh : plane.Fresh command) : Kept plane (handle command plane).2 :=
  fun sound => (handle_effect plane command).kept (allowed.harmless sound) fresh sound

section Programs

variable {α : Type} {log : ControlPlaneLog} {plane : ControlPlane}

/-- A call of allowed commands keeps every administrator and creates no organization. -/
theorem upholds_of_allowed {program : ControlPlaneOperation α} {returns : α → Prop}
    (within : program.Within Allowed returns) (none : CreatesNone log) :
    keeping.Upholds (fun log _ _ => CreatesNone log) program log plane := by
  have grows : ∀ log state command, CreatesNone log → Allowed command → CreatesNone (log ++ [(state, command)]) :=
    fun _ _ _ none allowed => none.append allowed.other
  refine Discipline.upholds_of_within within ?_ grows none fun _ _ _ none => none
  intro command _ state allowed _ admitted
  exact Allowed.kept allowed admitted.1

/-! ## Programs of allowed commands -/

variable {command : ControlPlaneCommand} {β : Type}

theorem within_request {next : controlPlaneRepository.Answer command → ControlPlaneOperation β} {returns : β → Prop}
    (permitted : Allowed command) (rest : ∀ answer, (next answer).Within Allowed returns) :
    (request command >>= next).Within Allowed returns :=
  within_call_bind permitted rest

theorem within_last (permitted : Allowed command) : (request command).Within Allowed fun _ => True :=
  within_call.mpr ⟨permitted, fun _ => trivial⟩

theorem within_tryRequest {next : Except Raised (controlPlaneRepository.Answer command) → ControlPlaneOperation β}
    {returns : β → Prop} (permitted : Allowed command) (rest : ∀ answer, (next answer).Within Allowed returns) :
    (tryRequest command >>= next).Within Allowed returns :=
  within_attempt_bind permitted rest

theorem within_then {program : ControlPlaneOperation β} {next : β → ControlPlaneOperation α} {returns : α → Prop}
    (first : program.Within Allowed fun _ => True) (rest : ∀ value, (next value).Within Allowed returns) :
    (program >>= next).Within Allowed returns :=
  within_bind.mpr (first.mono (fun _ permitted => permitted) (fun value _ => rest value))

end Programs

section Calls

variable (extensions : List String) (context : TenantContext)

theorem allowed_require (permission : Permission) :
    (require extensions context permission).Within Allowed fun _ => True := by
  refine (within_require extensions context permission).mono (fun command reads => ?_) fun _ _ => trivial
  cases command with
  | getOrganization | getProject | getMembership | getAssignment | listAssignments => trivial
  | createOrganization | updateOrganization | createProject | updateProject | createMembership | updateMembership
  | changeMembership | createAssignment | deleteAssignment | withdrawAssignment => exact reads.elim

theorem within_updateOrganization (name slug : Option String) (status : Option OrganizationStatus) :
    (updateOrganization extensions context name slug status now).Within Allowed fun _ => True := by
  refine within_then (allowed_require extensions context _) fun _ => within_request trivial fun current => ?_
  dsimp only
  split
  · trivial
  · rw [within_bind, within_ofExcept]
    intro slug _
    rw [within_bind, within_ofExcept]
    intro written _
    exact within_last trivial

theorem within_createProject (name slug : String) (description : Option String) :
    (createProject extensions context projectId name slug description now).Within Allowed fun _ => True := by
  refine within_then (allowed_require extensions context _) fun _ => ?_
  rw [within_bind, within_ofExcept]
  intro slug _
  rw [within_bind, within_ofExcept]
  intro project _
  exact within_last trivial

theorem within_updateProject (name slug description : Option String) (status : Option ProjectStatus) :
    (updateProject extensions context projectId name slug description status now).Within Allowed fun _ => True := by
  refine within_then (allowed_require extensions context _) fun _ => within_request trivial fun current => ?_
  dsimp only
  split
  · trivial
  · rw [within_bind, within_ofExcept]
    intro slug _
    rw [within_bind, within_ofExcept]
    intro written _
    exact within_last trivial

theorem within_addMembership (displayName : Option String) :
    (addMembership extensions context actorId displayName now).Within Allowed fun _ => True :=
  within_then (allowed_require extensions context _) fun _ => within_last rfl

theorem within_updateMembership (status : MembershipStatus) :
    (updateMembership extensions context actorId status now).Within Allowed fun _ => True :=
  within_then (allowed_require extensions context _) fun _ => within_last trivial

theorem within_assignRole (projectId : Option String) :
    (assignRole extensions context actorId role projectId now uuid).Within Allowed fun _ => True :=
  within_then (allowed_require extensions context _) fun _ => within_last fun _ => ⟨uuid, rfl⟩

theorem within_removeAssignment (assignmentId : String) :
    (removeAssignment extensions context assignmentId).Within Allowed fun _ => True :=
  within_then (allowed_require extensions context _) fun _ => within_last trivial

end Calls

/-! ## Provisioning -/

section Provisioning

variable (account : ServiceAccount) (actorId : String) (now : Instant)

theorem within_admitMember : (admitMember account actorId now).Within Allowed fun _ => True := by
  have tried : (reactivate account actorId now).caught.Within Allowed fun _ => True := by
    refine Program.Within.caught (within_request trivial fun membership => ?_) fun _ => trivial
    split
    · exact within_request rfl fun _ => trivial
    · trivial
  refine within_then tried fun found => ?_
  cases found with
  | ok => trivial
  | error raised =>
    dsimp only
    split
    · exact within_request rfl fun _ => trivial
    · trivial

theorem within_admitRole (plain : account.role ≠ .organizationAdmin) :
    (admitRole account actorId now).Within Allowed fun _ => True := by
  refine within_request trivial fun held => ?_
  split
  · trivial
  · refine within_tryRequest (fun role => absurd role plain) fun answer => ?_
    cases answer with
    | ok => trivial
    | error raised =>
      dsimp only
      split
      · trivial
      · trivial

theorem within_provisionServiceAccount (subject : Option String) (plain : account.role ≠ .organizationAdmin) :
    (provisionServiceAccount account subject now).Within Allowed fun _ => True := by
  unfold provisionServiceAccount
  split
  · trivial
  · rename_i actorId _
    exact within_then (within_admitMember account actorId now) fun _ => within_admitRole account actorId now plain

theorem within_retireLegacy (organizationId : String) :
    (retireLegacy organizationId actorId).Within Allowed fun _ => True := by
  refine within_tryRequest trivial fun answer => ?_
  cases answer with
  | error raised =>
    dsimp only
    split
    · trivial
    · trivial
  | ok legacy =>
    dsimp only
    split
    · exact within_request (not_drawn_legacyAssignmentId actorId) fun _ => trivial
    · trivial

theorem within_provisionWalkthrough (organizationId : String) (subject environment : Option String) :
    (provisionWalkthrough organizationId subject environment now).Within Allowed fun _ => True := by
  refine within_then (within_provisionServiceAccount (walkthroughAccount organizationId) now _ (by rintro ⟨⟩))
    fun _ => ?_
  split
  · trivial
  · exact within_retireLegacy _ organizationId

end Provisioning

/-- The identifiers of the listed assignments that are replaced hold no administration, now and later. -/
def Replaceable (plane : ControlPlane) (projectId : String) (role : BuiltInRole) (listed : List RoleAssignment) :
    Prop :=
  ∀ item ∈ listed, replaced projectId role item = true →
    item.assignmentId ∈ plane.issued ∧ plane.Plain item.assignmentId

theorem Replaceable.frame {projectId : String} {role : BuiltInRole}
    (replaceable : Replaceable plane projectId role listed) (frame : plane.Frame after) :
    Replaceable after projectId role listed := by
  intro item member asked
  obtain ⟨known, plain⟩ := replaceable item member asked
  exact ⟨frame.issued known, frame.plain known plain⟩

theorem replaceable_listAssignments (actorId : Option String) :
    Replaceable plane projectId role (plane.listAssignments organizationId actorId none) := by
  intro item member asked
  obtain ⟨found, -⟩ := mem_listAssignments.mp member
  refine ⟨plane.filed found, fun stored stands administers => ?_⟩
  obtain rfl := Option.some.inj (stands.symm.trans found)
  simp only [replaced, administers] at asked
  simp at asked

theorem upholds_withdrawReplaced (sound : plane.Sound) (replaceable : Replaceable plane projectId role listed)
    (none : CreatesNone log) :
    keeping.Upholds (fun log _ _ => CreatesNone log) (withdrawReplaced organizationId projectId role listed)
      log plane := by
  induction listed generalizing log plane with
  | nil => exact fun _ _ => none
  | cons item rest ih =>
    have later : Replaceable plane projectId role rest :=
      fun other member => replaceable other (mem_cons_of_mem _ member)
    unfold withdrawReplaced
    split
    · rename_i asked
      have kept : ∀ state, Kept plane state → state.Fresh (.deleteAssignment organizationId item.assignmentId) →
          Kept state (handle (.deleteAssignment organizationId item.assignmentId) state).2 := by
        intro state related fresh soundState
        obtain ⟨-, frame⟩ := related sound
        obtain ⟨-, plain⟩ := replaceable.frame frame item mem_cons_self asked
        exact (handle_effect state _).kept plain fresh soundState
      have logged : ∀ state, CreatesNone
          (log ++ [(state, ControlPlaneCommand.deleteAssignment organizationId item.assignmentId)]) :=
        fun state => none.append (by rintro organization ⟨⟩)
      refine Discipline.upholds_call_bind ?_ ?_ ?_
      · exact fun state related admitted => kept state related admitted.1
      · intro state answer after related admitted outcome
        have continues := kept state related admitted.1
        rw [show (handle (.deleteAssignment organizationId item.assignmentId) state).2 = after from
          congrArg Prod.snd outcome] at continues
        obtain ⟨soundAfter, frame⟩ := related.trans continues sound
        exact ih soundAfter (later.frame frame) (logged state)
      · exact fun state _ _ _ _ _ _ _ => logged state
    · exact ih sound later none

theorem upholds_provisionExternalRuntime (grantTestSettingsManage : Bool) (sound : plane.Sound) :
    keeping.Upholds (fun log _ _ => CreatesNone log)
      (provisionExternalRuntime organizationId projectId subject environment grantTestSettingsManage now) [] plane := by
  have plain : (externalRuntimeAccount organizationId projectId grantTestSettingsManage).role ≠
      .organizationAdmin := by
    cases grantTestSettingsManage <;> rintro ⟨⟩
  have provisioned := (@upholds_of_allowed _ [] plane _ _ (within_provisionServiceAccount
    (externalRuntimeAccount organizationId projectId grantTestSettingsManage) now
    (Text.orElse subject environment) plain) (by rintro _ ⟨⟩)).related (Kept.refl plane)
  refine Discipline.upholds_bind (provisioned.mono fun log result state => ?_)
  rintro ⟨related, none⟩
  cases result with
  | error raised => exact none
  | ok =>
    dsimp only
    split
    · exact fun _ _ => none
    · rename_i actorId _
      refine Discipline.upholds_call_bind (fun later _ _ => Kept.refl later) ?_ ?_
      · intro later answer after before admitted outcome
        cases outcome
        obtain ⟨soundLater, -⟩ := (related.trans before) sound
        exact upholds_withdrawReplaced soundLater
          (replaceable_listAssignments (some actorId))
          (none.append (by rintro organization ⟨⟩))
      · intro later exception after before admitted outcome
        cases outcome

/-! ## Creation -/

/-- The grant of a new organization leaves it with an administrator, also where it is refused: then somebody
has made the creator an administrator before. -/
theorem administrator_of_createAssignment (sound : plane.Sound) (fresh : uuid.roleId ∉ plane.issued)
    (member : (∃ membership, plane.memberships.get? (organizationId, actorId) = some membership ∧
      membership.status = .active) ∨ plane.HasAdministrator organizationId) :
    (handle (.createAssignment ⟨uuid.roleId, organizationId, none, actorId, .organizationAdmin, now, actorId⟩)
      plane).2.HasAdministrator organizationId := by
  have kept := (handle_effect plane (.createAssignment
    ⟨uuid.roleId, organizationId, none, actorId, .organizationAdmin, now, actorId⟩)).kept
    (fun _ => ⟨uuid, rfl⟩) (fun _ => fresh) sound
  rcases member with ⟨membership, found, active⟩ | administered
  · have read : plane.getMembership organizationId actorId = .ok membership := getMembership_ok.mpr found
    by_cases granted : plane.assignments.values.any (·.sameGrant
        ⟨uuid.roleId, organizationId, none, actorId, .organizationAdmin, now, actorId⟩) = true
    · -- an equal grant stands already
      obtain ⟨stored, listed, same⟩ := any_eq_true.mp granted
      obtain ⟨assignmentId, stands⟩ := (Dict.mem_values_iff _ _).mp listed
      simp only [RoleAssignment.sameGrant, Bool.and_eq_true, decide_eq_true_eq] at same
      obtain ⟨⟨⟨sameOrganization, wide⟩, sameActor⟩, role⟩ := same
      refine kept.2.administrator ⟨assignmentId, stored, membership, stands, sameOrganization, wide, role, ?_, active⟩
      rw [sameActor]
      exact found
    · have created : plane.createAssignment
          ⟨uuid.roleId, organizationId, none, actorId, .organizationAdmin, now, actorId⟩ =
            .ok (plane.putAssignment
              ⟨uuid.roleId, organizationId, none, actorId, .organizationAdmin, now, actorId⟩) := by
        rw [ControlPlane.createAssignment, read]
        exact if_neg granted
      rw [handle, created]
      exact ⟨uuid.roleId, _, membership, Dict.get?_set_self .., rfl, rfl, rfl, found, active⟩
  · exact kept.2.administrator administered

/-- A log that creates one organization, which has an administrator. -/
theorem administered_of_created {α : Type} {rest : ControlPlaneLog} {result : Except Raised α}
    (others : CreatesNone rest) (administrator : plane.HasAdministrator organization.record.organizationId) :
    Administered ((first, ControlPlaneCommand.createOrganization organization) :: rest) result plane := by
  intro entry member organizationId absent present
  rcases mem_cons.mp member with rfl | later
  · have effect := handle_effect first (.createOrganization organization)
    generalize (handle (.createOrganization organization) first).2 = after at effect present
    cases effect with
    | unchanged => exact absurd absent present
    | organizationCreated =>
      by_cases same : organizationId = organization.record.organizationId
      · rw [same]
        exact administrator
      · exact absurd ((Dict.get?_set_of_ne _ same).trans absent) present
  · exact others.leavesAdministered result entry later organizationId absent present

theorem createOrganization_outcome {organization : Organization} {result : Except Raised Organization}
    (outcome : handle (.createOrganization organization) plane = (result, after)) :
    (∃ raised, result = .error raised ∧ after = plane) ∨
      (result = .ok organization ∧ after = plane.putOrganization organization) := by
  rw [handle] at outcome
  cases given : plane.createOrganization organization with
  | error raised =>
    rw [given] at outcome
    cases outcome
    exact Or.inl ⟨raised, rfl, rfl⟩
  | ok stored =>
    rw [given] at outcome
    cases outcome
    exact Or.inr ⟨rfl, (createOrganization_ok given).2⟩

/-- The membership of the creator is entered where the organization stands and nobody entered it before. -/
theorem createMembership_outcome {membership : OrganizationMembership}
    (stands : (plane.organizations.get? membership.organizationId).isSome)
    (absent : plane.memberships.get? (membership.organizationId, membership.actorId) = none) :
    handle (.createMembership membership) plane = (.ok membership, plane.putMembership membership) := by
  obtain ⟨organization, found⟩ := Option.isSome_iff_exists.mp stands
  have created : plane.createMembership membership = .ok (plane.putMembership membership) := by
    simp only [ControlPlane.createMembership, getOrganization, found, absent, Option.isSome_none]
    rfl
  rw [handle, created]
  rfl

/-- The last two steps of `create_organization`, once the organization stands. -/
theorem upholds_enterCreator (sound : plane.Sound)
    (stands : (plane.organizations.get? organization.record.organizationId).isSome) :
    keeping.Upholds Administered (do
      let _ ← request (.createMembership
        ⟨organization.record.organizationId, actorId, .active, now, now, actorName⟩)
      let _ ← request (.createAssignment
        ⟨uuid.roleId, organization.record.organizationId, none, actorId, .organizationAdmin, now, actorId⟩)
      return organization : ControlPlaneOperation Organization)
      [(first, ControlPlaneCommand.createOrganization organization)] plane := by
  let membership : OrganizationMembership :=
    ⟨organization.record.organizationId, actorId, .active, now, now, actorName⟩
  let grant : RoleAssignment :=
    ⟨uuid.roleId, organization.record.organizationId, none, actorId, .organizationAdmin, now, actorId⟩
  have logged : ∀ second third, CreatesNone
      [(second, ControlPlaneCommand.createMembership membership), (third, ControlPlaneCommand.createAssignment grant)] := by
    intro second third entry member created
    rcases mem_cons.mp member with rfl | last
    · rintro ⟨⟩
    · obtain rfl := mem_singleton.mp last
      rintro ⟨⟩
  have entered : ∀ second, Kept plane second →
      keeping.admits second [(first, ControlPlaneCommand.createOrganization organization)]
        (.createMembership membership) →
      handle (.createMembership membership) second = (.ok membership, second.putMembership membership) := by
    intro second before admitted
    obtain ⟨-, frame⟩ := before sound
    exact createMembership_outcome (frame.organizations _ stands)
      (admitted.2 ⟨_, mem_singleton.mpr rfl, organization, rfl⟩)
  -- granting makes an administrator, whatever it answers
  have granted : ∀ second third, Kept plane second → Kept (second.putMembership membership) third →
      third.Fresh (.createAssignment grant) →
      (handle (.createAssignment grant) third).2.Sound ∧
        (handle (.createAssignment grant) third).2.HasAdministrator organization.record.organizationId := by
    intro second third before after fresh
    obtain ⟨soundSecond, -⟩ := before sound
    obtain ⟨soundEntered, -⟩ := soundSecond.putMembership (Or.inl rfl : membership.status = .active ∨ _)
    obtain ⟨soundThird, frame⟩ := after soundEntered
    refine ⟨((handle_effect third (.createAssignment grant)).kept (fun _ => ⟨uuid, rfl⟩) fresh soundThird).1, ?_⟩
    exact administrator_of_createAssignment soundThird (fresh ⟨uuid, rfl⟩)
      (frame.active (Dict.get?_set_self ..) rfl)
  refine Discipline.upholds_call_bind ?_ ?_ ?_
  · exact fun second _ admitted => (handle_effect second _).kept rfl admitted.1
  · intro second answer third before admitted outcome
    have same := (entered second before admitted).symm.trans outcome
    cases same
    refine Discipline.upholds_call_bind ?_ ?_ ?_
    · exact fun third _ admitted =>
        (handle_effect third (.createAssignment grant)).kept (fun _ => ⟨uuid, rfl⟩) admitted.1
    · intro third answer fourth after admitted outcome final related
      obtain ⟨soundFourth, administrator⟩ := granted second third before after admitted.1
      rw [show (handle (.createAssignment grant) third).2 = fourth from congrArg Prod.snd outcome] at *
      exact administered_of_created (logged second third) ((related soundFourth).2.administrator administrator)
    · intro third raised fourth after admitted outcome final related
      obtain ⟨soundFourth, administrator⟩ := granted second third before after admitted.1
      rw [show (handle (.createAssignment grant) third).2 = fourth from congrArg Prod.snd outcome] at *
      exact administered_of_created (logged second third) ((related soundFourth).2.administrator administrator)
  · intro second raised third before admitted outcome
    have same := (entered second before admitted).symm.trans outcome
    cases same

/-- What is left of `create_organization` once its arguments are checked. -/
theorem upholds_enterOrganization (sound : plane.Sound) :
    keeping.Upholds Administered (do
      let created ← request (.createOrganization organization)
      let _ ← request (.createMembership
        ⟨organization.record.organizationId, actorId, .active, now, now, actorName⟩)
      let _ ← request (.createAssignment
        ⟨uuid.roleId, organization.record.organizationId, none, actorId, .organizationAdmin, now, actorId⟩)
      return created : ControlPlaneOperation Organization) [] plane := by
  refine Discipline.upholds_call_bind ?_ ?_ ?_
  · exact fun first _ admitted => (handle_effect first _).kept trivial admitted.1
  · intro first answer second before admitted outcome
    rcases createOrganization_outcome outcome with ⟨raised, ⟨⟩, -⟩ | ⟨same, rfl⟩
    cases same
    obtain ⟨soundFirst, -⟩ := before sound
    refine upholds_enterCreator
      (soundFirst.putOrganization organization).1 ?_
    rw [putOrganization, Dict.get?_set_self]
    rfl
  · intro first raised second before admitted outcome final related entry member organizationId absent present
    obtain rfl := mem_singleton.mp member
    rcases createOrganization_outcome outcome with ⟨_, -, rfl⟩ | ⟨⟨⟩, -⟩
    have unchanged : (handle (.createOrganization organization) second).2 = second := congrArg Prod.snd outcome
    rw [unchanged] at present
    exact absurd absent present

theorem upholds_createOrganization (name slug : String) (sound : plane.Sound) :
    keeping.Upholds Administered
      (Tenancy.createOrganization organizationId name slug actorId actorName now uuid) [] plane := by
  unfold Tenancy.createOrganization
  generalize validateSlug slug = checked
  refine Discipline.upholds_ofExcept_bind ?_ ?_
  · intro slug _
    generalize built : (Checked.create _ : Except Raised Organization) = result
    refine Discipline.upholds_ofExcept_bind ?_ ?_
    · rintro organization rfl
      have same := Checked.create_eq_ok_iff.mp built
      have named : organization.record.organizationId = organizationId := by rw [same]
      subst named
      exact upholds_enterOrganization sound
    · rintro _ _ _ _ _ ⟨⟩
  · rintro _ _ _ _ _ ⟨⟩

/-! ## Every run -/

theorem upholds_call (extensions : List String) (call : ControlPlaneCall) (sound : plane.Sound) :
    keeping.Upholds Administered (call.program extensions) [] plane := by
  have quiet : ∀ {α : Type} {program : ControlPlaneOperation α} {relabel : α → ControlPlaneResponse},
      program.Within Allowed (fun _ => True) →
      keeping.Upholds Administered (program >>= fun value => pure (relabel value)) [] plane := by
    intro α program relabel within
    exact (upholds_of_allowed within (by rintro _ ⟨⟩)).map (fun _ _ state none => none.leavesAdministered _)
      (fun _ _ state none => none.leavesAdministered _)
  cases call with
  | createOrganization organizationId name slug actorId actorName now uuid =>
    exact (upholds_createOrganization name slug sound).map
      (fun _ _ _ administered => administered) (fun _ _ _ administered => administered)
  | updateOrganization context name slug status now =>
    exact quiet (within_updateOrganization extensions context name slug status)
  | createProject context projectId name slug description now =>
    exact quiet (within_createProject extensions context name slug description)
  | updateProject context projectId name slug description status now =>
    exact quiet (within_updateProject extensions context name slug description status)
  | addMembership context actorId displayName now =>
    exact quiet (within_addMembership extensions context displayName)
  | updateMembership context actorId status now =>
    exact quiet (within_updateMembership extensions context status)
  | assignRole context actorId role projectId now uuid =>
    exact quiet (within_assignRole extensions context projectId)
  | removeAssignment context assignmentId => exact quiet (within_removeAssignment extensions context assignmentId)
  | provisionMcp organizationId actorId environment now =>
    exact quiet (within_provisionServiceAccount (mcpAccount organizationId) now _ (by rintro ⟨⟩))
  | provisionWalkthrough organizationId actorId environment now =>
    exact quiet (within_provisionWalkthrough now organizationId actorId environment)
  | provisionExternalRuntime organizationId projectId actorId environment grantTestSettingsManage now =>
    exact (upholds_provisionExternalRuntime grantTestSettingsManage
      sound).map (fun _ _ state none => none.leavesAdministered _)
        (fun _ _ state none => none.leavesAdministered _)
  | provisionCausalAuditValidator organizationId projectId actorId environment now =>
    exact quiet (within_provisionServiceAccount (causalAuditValidatorAccount organizationId projectId) now _
      (by rintro ⟨⟩))

/-- No call is in flight. -/
def Quiescent (config : Config controlPlaneRepository ControlPlane ControlPlaneCall ControlPlaneResponse) : Prop :=
  ∀ thread ∈ config.threads, ∃ result, thread.Finished result

/-- In every run on uncontested schedules, every organization has an active administrator once no call is in
flight; whoever is assigned a role is a member, no two assignments grant the same, and the protection of the last
administrator fails only as such. -/
theorem administered (extensions : List String)
    {final : Config controlPlaneRepository ControlPlane ControlPlaneCall ControlPlaneResponse}
    (reaches : (controlPlanePool extensions Uncontested).Reaches ⟨.empty, []⟩ final) :
    (Quiescent final → ∀ organizationId organization,
      final.state.organizations.get? organizationId = some organization →
        final.state.HasAdministrator organizationId) ∧
    (∀ assignmentId assignment, final.state.assignments.get? assignmentId = some assignment →
      ∃ membership,
        final.state.memberships.get? (assignment.organizationId, assignment.actorId) = some membership) ∧
    (∀ assignmentId otherId assignment other, final.state.assignments.get? assignmentId = some assignment →
      final.state.assignments.get? otherId = some other → assignment.sameGrant other = true →
        assignmentId = otherId) ∧
    (∀ organizationId actorId excluded raised,
      final.state.protectLastAdmin organizationId actorId excluded = .error raised →
        raised = ⟨.lastOrganizationAdministrator, actorId⟩) := by
  obtain ⟨related, upholding⟩ := Pool.upholds_of_reaches keeping (fun _ => Administered) Sound rfl rfl
    (fun related sound => (related sound).1)
    (fun call plane sound _ => upholds_call extensions call sound) (fun changed => False.elim changed) reaches
    sound_empty (by rintro _ ⟨⟩)
  obtain ⟨sound, -⟩ := related sound_empty
  refine ⟨fun quiescent organizationId organization found => ?_, fun _ _ found => sound.member found,
    fun _ _ _ _ found other same => sound.single found other same,
    fun _ _ _ _ given => sound.protectLastAdmin_error given⟩
  -- the organization was entered by a logged command of a call that has ended
  obtain ⟨thread, member, entry, logged, absent, present⟩ := Pool.logged_of_reaches
    (fun plane => plane.organizations.get? organizationId ≠ none) (fun changed => False.elim changed) reaches
    (not_not.mpr rfl) (by rw [found]; exact Option.some_ne_none _)
  obtain ⟨result, finished⟩ := quiescent thread member
  exact (upholding thread member).finished finished entry logged organizationId (not_not.mp absent) present

/-! ## Fixed schedules -/

/-- A call has returned or raised. -/
def ended (thread : Thread controlPlaneRepository ControlPlane ControlPlaneCall ControlPlaneResponse) : Bool :=
  match thread.program with
  | .perform _ _ => false
  | _ => true

theorem quiescent_of_ended {config : Config controlPlaneRepository ControlPlane ControlPlaneCall ControlPlaneResponse}
    (all : config.threads.all ended = true) : Quiescent config := by
  intro thread member
  have done := all_eq_true.mp all thread member
  unfold ended at done
  unfold Thread.Finished
  cases program : thread.program with
  | done value => exact ⟨.ok value, rfl⟩
  | raise exception => exact ⟨.error exception, rfl⟩
  | perform command next =>
    rw [program] at done
    cases done

/-- A test of a command that implies it is fresh. -/
def freshTest (plane : ControlPlane) (_log : ControlPlaneLog) : ControlPlaneCommand → Bool
  | .createAssignment assignment => !plane.issued.contains assignment.assignmentId
  | _ => true

/-- A test of a command that implies it is uncontested. -/
def uncontestedTest (plane : ControlPlane) : ControlPlaneCommand → Bool
  | .createMembership membership =>
    (plane.memberships.get? (membership.organizationId, membership.actorId)).isNone
  | _ => true

theorem fresh_of_freshTest (passes : freshTest plane log command = true) : plane.Fresh command := by
  cases command with
  | createAssignment assignment =>
    intro _ member
    simp [freshTest, member] at passes
  | getOrganization | createOrganization | updateOrganization | getProject | createProject | updateProject
  | getMembership | createMembership | updateMembership | changeMembership | getAssignment | listAssignments
  | deleteAssignment | withdrawAssignment => trivial

theorem uncontested_of_uncontestedTest (passes : uncontestedTest plane command = true) (log : ControlPlaneLog) :
    Uncontested plane log command := by
  cases command with
  | createMembership membership => exact fun _ => Option.isNone_iff_eq_none.mp passes
  | getOrganization | createOrganization | updateOrganization | getProject | createProject | updateProject
  | getMembership | updateMembership | changeMembership | createAssignment | getAssignment | listAssignments
  | deleteAssignment | withdrawAssignment => trivial

/-- The calls of the schedules below: an organization is created for a subject that is also provisioned. -/
private def createAcme : ControlPlaneCall :=
  .createOrganization "acme" "Acme" "acme" "ops" none ⟨0⟩ ⟨"0123456789abcdef", by decide⟩

private def provisionAcme : ControlPlaneCall := .provisionMcp "acme" (some "ops") none ⟨0⟩

private def alone : List (Pool.Move ControlPlaneCall) :=
  [.enter createAcme, .issue 0, .issue 0, .issue 0, .enter provisionAcme, .issue 1, .issue 1, .issue 1]

private def contested : List (Pool.Move ControlPlaneCall) :=
  [.enter createAcme, .issue 0, .enter provisionAcme, .issue 1, .issue 1, .issue 1, .issue 1, .issue 0]

/-- An organization created and then provisioned for its creator. -/
theorem administered_afterProvisioning :
    ∃ final, (controlPlanePool [] Uncontested).Reaches ⟨.empty, []⟩ final ∧ Quiescent final ∧
      (∃ organization, final.state.organizations.get? "acme" = some organization) ∧
      final.state.HasAdministrator "acme" := by
  have passes : (controlPlanePool [] Uncontested).tested (fun _ => true)
      (fun plane log command => freshTest plane log command && uncontestedTest plane command) alone ⟨.empty, []⟩ =
        true := by decide +kernel
  have legal : (controlPlanePool [] Uncontested).Legal alone ⟨.empty, []⟩ := by
    refine Pool.legal_of_tested (fun _ _ => trivial) (fun plane log command both => ?_) passes
    obtain ⟨fresh, uncontested⟩ := (Bool.and_eq_true ..).mp both
    exact ⟨fresh_of_freshTest fresh, uncontested_of_uncontestedTest uncontested log⟩
  have done : ((controlPlanePool [] Uncontested).play alone ⟨.empty, []⟩).threads.all ended = true := by
    decide +kernel
  have stands : (((controlPlanePool [] Uncontested).play alone ⟨.empty, []⟩).state.organizations.get?
      "acme").isSome := by decide +kernel
  obtain ⟨organization, found⟩ := Option.isSome_iff_exists.mp stands
  exact ⟨_, Pool.reaches_play legal, quiescent_of_ended done, ⟨organization, found⟩,
    (administered [] (Pool.reaches_play legal)).1 (quiescent_of_ended done) "acme" organization found⟩

/-- A subject that is provisioned between the two first writes of `create_organization` leaves the organization
without an administrator for good. -/
theorem administered_contested :
    ¬ ∀ final, (controlPlanePool [] fun _ _ _ => True).Reaches ⟨.empty, []⟩ final → Quiescent final →
      ∀ organizationId organization, final.state.organizations.get? organizationId = some organization →
        final.state.HasAdministrator organizationId := by
  intro claimed
  have passes : (controlPlanePool [] fun _ _ _ => True).tested (fun _ => true) freshTest contested ⟨.empty, []⟩ =
      true := by decide +kernel
  have legal : (controlPlanePool [] fun _ _ _ => True).Legal contested ⟨.empty, []⟩ := by
    refine Pool.legal_of_tested (fun _ _ => trivial) (fun plane log command fresh => ?_) passes
    exact ⟨fresh_of_freshTest fresh, trivial⟩
  have done : ((controlPlanePool [] fun _ _ _ => True).play contested ⟨.empty, []⟩).threads.all ended = true := by
    decide +kernel
  have stands : (((controlPlanePool [] fun _ _ _ => True).play contested ⟨.empty, []⟩).state.organizations.get?
      "acme").isSome := by decide +kernel
  obtain ⟨organization, found⟩ := Option.isSome_iff_exists.mp stands
  obtain ⟨assignmentId, assignment, membership, granted, -, -, role, -⟩ :=
    claimed _ (Pool.reaches_play legal) (quiescent_of_ended done) "acme" organization found
  have none : ((controlPlanePool [] fun _ _ _ => True).play contested ⟨.empty, []⟩).state.assignments.values.all
      (·.role ≠ .organizationAdmin) = true := by decide +kernel
  have other := all_eq_true.mp none assignment ((Dict.mem_values_iff _ _).mpr ⟨assignmentId, granted⟩)
  exact of_decide_eq_true other role

end AiGovernance.Tenancy
