import AiGovernance.Decisions.Reasoning
import AiGovernance.Std.Latest

/-!
# The summary and the policy context

The summary stored with a decision and the context its policies were evaluated
on are two loops over the same evidence nodes. In both the last node that has
something to say decides; they describe the same evidence exactly when the nodes
that decide in the one decide alike in the other.
-/

namespace AiGovernance.Decisions

open AiGovernance.Std Domain GovernancePolicyEvaluator
open Ontology (EntityType)

variable {evidenceGraph : DecisionEvidenceGraph} {node : EvidenceNode}

/-! ## The property -/

/-- The number a value is to the language; a boolean is one. -/
def numberOf : Json → Option Rat
  | .bool value => some (if value then 1 else 0)
  | .int value => some value
  | .float value => some value
  | .null | .str _ | .arr _ | .obj _ => none

/-- `metric_scores[key]`. -/
def ReasoningEvidenceSummary.score (summary : ReasoningEvidenceSummary) (key : String) : Option Rat :=
  Dict.lookup summary.record.metricScores key

/-- The value at a path of a context. -/
def PolicyEvaluationContext.value (context : PolicyEvaluationContext) (path : List String) : Option Json :=
  GovernancePolicyEvaluator.resolveSegments path (.obj context.record.evidence)

/-- A summarised status is the upper-cased status of the context; without one there is none. -/
def SameStatus (casing : Casing) (summarized : Option String) : Option Json → Prop
  | none | some .null => summarized = none
  | some (.str status) => summarized = some (casing.upper status)
  | some _ => False

/-- A summary and a context describe the same evidence. -/
structure SameEvidence (casing : Casing) (summary : ReasoningEvidenceSummary) (context : PolicyEvaluationContext) :
    Prop where
  scores : ∀ key score,
    summary.score key = some score ↔ (context.value ["metrics", key, "score"]).bind numberOf = some score
  drift : ∀ severity, context.value ["drift", "severity"] = some (.str severity) → Text.isBlank severity = false →
    summary.record.driftSeverity = some severity
  job : SameStatus casing summary.record.latestJobStatus (context.value ["jobs", "latest_status"])
  audit : SameStatus casing summary.record.latestAuditStatus (context.value ["audit", "latest_status"])

/-! ## What nodes say -/

namespace EvidenceNode

/-- The node projects an entity of a type. -/
def OfType (node : EvidenceNode) (entityType : EntityType) : Prop := node.record.entityType = entityType.value

instance (node : EvidenceNode) (entityType : EntityType) : Decidable (node.OfType entityType) :=
  inferInstanceAs (Decidable (_ = _))

/-- The score of a metric node. -/
def score (node : EvidenceNode) : Option Json :=
  firstPresent node.record.attributes node.record.metadata ["score", "value", "metric_value"]

/-- The severity of a drift node. -/
def severity (node : EvidenceNode) : Option Json :=
  firstPresent node.record.attributes node.record.metadata ["severity", "drift_severity"]

/-- The status of a job or an audit node, apart from its lifecycle. -/
def status (node : EvidenceNode) : Option Json :=
  firstPresent node.record.attributes node.record.metadata ["status", "lifecycle"]

/-- The key a metric node is summarised under. -/
def summaryKey (casing : Casing) (node : EvidenceNode) : String := normalizeKey casing.lower (nodeName node)

/-- The key a metric node has in the context. -/
def contextKey (casing : Casing) (node : EvidenceNode) : String :=
  normalizeKey casing.lower ((firstString node.record.attributes node.record.metadata
    ["metric_name", "name", "label"]).getD node.record.entityId)

end EvidenceNode

/-- The nodes of a type, each as what is asked of it. -/
def ofType {T : Type} (entityType : EntityType) (asked : EvidenceNode → T) (node : EvidenceNode) : Option T :=
  if node.OfType entityType then some (asked node) else none

/-- The score a metric node is summarised with, as a double, if it is summarised under a key. -/
def summarizedScore (casing : Casing) (key : String) (node : EvidenceNode) : Option Rat :=
  if node.OfType .metric ∧ node.summaryKey casing = key then
    node.score.bind fun score => ((numericScore score).toOption).join
  else none

/-- The score of a metric node, there or not, if the context has the node under a key. -/
def contextScore (casing : Casing) (key : String) (node : EvidenceNode) : Option (Option Json) :=
  if node.OfType .metric ∧ node.contextKey casing = key then some node.score else none

/-- The status of a node is text, or its lifecycle stands for it. -/
def Settled (casing : Casing) (node : EvidenceNode) : Prop :=
  match node.status with
  | none => True
  | some (.str status) =>
    Text.isBlank status = false ∨ node.record.lifecycle.map casing.upper = some (casing.upper status)
  | some _ => False

/-- The nodes that decide in the summary and in the context decide alike. -/
structure Concordant (casing : Casing) (nodes : List EvidenceNode) : Prop where
  /-- Every integer score of a metric node is within the range of doubles. -/
  bounded : ∀ node ∈ nodes, node.OfType .metric → ∀ score, node.score = some (.int score) →
    (Double.ofInt score).isSome = true
  /-- The last number summarised under a key is the number of the last node the context has under it. -/
  scores : ∀ key,
    latest (summarizedScore casing key) nodes = ((latest (contextScore casing key) nodes).join).bind numberOf
  /-- If the last severity there is is text, the last drift node has one. -/
  drift : ∀ node severity, latest (ofType .driftAnalysis id) nodes = some node →
    latest (fun node => (ofType .driftAnalysis EvidenceNode.severity node).join) nodes = some (.str severity) →
    Text.isBlank severity = false → node.severity ≠ none
  job : ∀ node, latest (ofType .job id) nodes = some node → Settled casing node
  audit : ∀ node, latest (ofType .mcpAuditRecord id) nodes = some node → Settled casing node

theorem latest_ofType {T : Type} (entityType : EntityType) (asked : EvidenceNode → T) (nodes : List EvidenceNode) :
    latest (ofType entityType asked) nodes = (latest (ofType entityType id) nodes).map asked := by
  rw [← latest_map]
  congr 1
  funext node
  unfold ofType
  split <;> rfl

/-! ## The context -/

section Context

variable {casing : Casing} {nodes : List EvidenceNode}

theorem field_eq_lookup (fields : Metadata) (key : String) : Json.field fields key = Dict.lookup fields key := by
  induction fields with
  | nil => rfl
  | cons entry rest ih => simp only [Json.field, Dict.lookup, ih]

theorem field_write (fields : Metadata) (key other : String) (value : Json) :
    Json.field (Dict.write fields key value) other = if other = key then some value else Json.field fields other := by
  rw [field_eq_lookup, field_eq_lookup, Dict.lookup_write]

/-- The types the context is built from are told apart. -/
theorem mapNode_parts (mapped : MappedEvidence) :
    (mapNode casing.lower mapped node).metrics =
        (if node.OfType .metric then mapMetric casing.lower mapped.metrics node else mapped.metrics) ∧
      (mapNode casing.lower mapped node).drift =
        (if node.OfType .driftAnalysis then mapDrift mapped.drift node else mapped.drift) ∧
      (mapNode casing.lower mapped node).jobs =
        (if node.OfType .job then mapLatestStatus mapped.jobs node else mapped.jobs) ∧
      (mapNode casing.lower mapped node).audit =
        (if node.OfType .mcpAuditRecord then mapLatestStatus mapped.audit node else mapped.audit) := by
  unfold mapNode EvidenceNode.OfType
  by_cases metric : node.record.entityType = EntityType.metric.value
  · simp [metric, EntityType.value]
  · by_cases drift : node.record.entityType = EntityType.driftAnalysis.value
    · simp [drift, EntityType.value]
    · by_cases job : node.record.entityType = EntityType.job.value
      · simp [job, EntityType.value]
      · simp [metric, drift, job]
        split <;> simp_all

/-- The status the context takes from a node. -/
def contextStatus (node : EvidenceNode) : Json := node.status.getD (node.record.lifecycle.elim .null .str)

theorem field_metrics (key : String) (metrics : Metadata) :
    (Json.field (mapMetric casing.lower metrics node) key).bind (resolveSegments ["score"]) =
      if node.contextKey casing = key then node.score
      else (Json.field metrics key).bind (resolveSegments ["score"]) := by
  unfold mapMetric EvidenceNode.contextKey EvidenceNode.score
  rw [field_write]
  by_cases same : key = normalizeKey casing.lower ((firstString node.record.attributes node.record.metadata
      ["metric_name", "name", "label"]).getD node.record.entityId)
  · rw [if_pos same, if_pos same.symm, Option.bind_some]
    cases firstPresent node.record.attributes node.record.metadata ["score", "value", "metric_value"] <;>
      simp [resolveSegments]
  · rw [if_neg same, if_neg (Ne.symm same)]

theorem metrics_value (key : String) :
    (Json.field (nodes.foldl (mapNode casing.lower) {}).metrics key).bind
      (resolveSegments ["score"]) = (latest (contextScore casing key) nodes).join := by
  refine (foldl_latest (contextScore casing key) (fun mapped : MappedEvidence => (Json.field mapped.metrics key).bind
    (resolveSegments ["score"])) (fun mapped node => ?_) nodes {}).trans ?_
  · rw [(mapNode_parts mapped).1]
    unfold contextScore
    by_cases metric : node.OfType .metric
    · rw [if_pos metric, field_metrics]
      by_cases same : node.contextKey casing = key
      · rw [if_pos same, if_pos ⟨metric, same⟩]
        rfl
      · rw [if_neg same, if_neg fun both => same both.2]
        rfl
    · rw [if_neg metric, if_neg fun both => metric both.1]
      rfl
  · cases latest (contextScore casing key) nodes <;> rfl

variable (casing) in
theorem drift_value : Json.field (nodes.foldl (mapNode casing.lower) {}).drift "severity" =
    latest (fun node => (ofType .driftAnalysis EvidenceNode.severity node).join) nodes := by
  refine (foldl_latest (fun node => ((ofType .driftAnalysis EvidenceNode.severity node).join).map some)
    (fun mapped : MappedEvidence => Json.field mapped.drift "severity") (fun mapped node => ?_) nodes {}).trans ?_
  · rw [(mapNode_parts mapped).2.1]
    unfold ofType
    by_cases drift : node.OfType .driftAnalysis
    · rw [if_pos drift, if_pos drift]
      unfold mapDrift EvidenceNode.severity
      rw [field_write, if_neg (by decide)]
      cases firstPresent node.record.attributes node.record.metadata ["severity", "drift_severity"] with
      | none => rfl
      | some severity =>
        dsimp only
        rw [field_write, if_pos rfl]
        rfl
    · rw [if_neg drift, if_neg drift]
      rfl
  · rw [latest_map]
    cases latest (fun node => (ofType .driftAnalysis EvidenceNode.severity node).join) nodes <;> rfl

theorem field_latestStatus (context : Metadata) :
    Json.field (mapLatestStatus context node) "latest_status" = some (contextStatus node) := by
  unfold mapLatestStatus contextStatus EvidenceNode.status
  rw [field_write, if_neg (by decide), field_write, if_pos rfl]

variable (casing) in
theorem status_value (part : MappedEvidence → Metadata) {entityType : EntityType} (empty : part {} = [])
    (taken : ∀ mapped node, part (mapNode casing.lower mapped node) =
      if node.OfType entityType then mapLatestStatus (part mapped) node else part mapped) :
    Json.field (part (nodes.foldl (mapNode casing.lower) {})) "latest_status" =
      (latest (ofType entityType id) nodes).map contextStatus := by
  refine (foldl_latest (fun node => (ofType entityType id node).map fun node => some (contextStatus node))
    (fun mapped => Json.field (part mapped) "latest_status") (fun mapped node => ?_) nodes {}).trans ?_
  · rw [taken]
    unfold ofType
    by_cases typed : node.OfType entityType
    · rw [if_pos typed, if_pos typed, field_latestStatus]
      rfl
    · rw [if_neg typed, if_neg typed]
      rfl
  · rw [latest_map, empty]
    cases latest (ofType entityType id) nodes <;> rfl

/-- What a context says of the evidence it is built from. -/
theorem context_values {context : PolicyEvaluationContext}
    (built : buildPolicyContext casing.lower evidenceGraph = .ok context) :
    (∀ key, context.value ["metrics", key, "score"] =
      (latest (contextScore casing key) evidenceGraph.record.nodes).join) ∧
    context.value ["drift", "severity"] =
      latest (fun node => (ofType .driftAnalysis EvidenceNode.severity node).join) evidenceGraph.record.nodes ∧
    context.value ["jobs", "latest_status"] =
      (latest (ofType .job id) evidenceGraph.record.nodes).map contextStatus ∧
    context.value ["audit", "latest_status"] =
      (latest (ofType .mcpAuditRecord id) evidenceGraph.record.nodes).map contextStatus := by
  have same := Checked.create_eq_ok_iff.mp built
  unfold PolicyEvaluationContext.value
  rw [same]
  refine ⟨fun key => ?_, ?_, ?_, ?_⟩
  · rw [← metrics_value]
    simp [resolveSegments]
  · rw [← drift_value casing]
    simp [resolveSegments]
  · rw [← status_value casing MappedEvidence.jobs rfl fun mapped node => (mapNode_parts mapped).2.2.1]
    simp [resolveSegments]
  · rw [← status_value casing MappedEvidence.audit rfl fun mapped node => (mapNode_parts mapped).2.2.2]
    simp [resolveSegments]

end Context

/-! ## The summary -/

section Summary

variable {casing : Casing} {nodes : List EvidenceNode}

/-- A score is summarised unless it is an integer beyond the doubles. -/
theorem numericScore_ok (score : Json) :
    (∃ number, numericScore score = .ok number) ↔ ∀ value, score = .int value → (Double.ofInt value).isSome = true := by
  cases score with
  | int value =>
    unfold numericScore
    cases rounded : Double.ofInt value with
    | none => simp [rounded]
    | some number => simp [rounded]
  | _ => exact ⟨fun _ _ same => (by cases same), fun _ => ⟨_, rfl⟩⟩

theorem summarizeScore_ok (scores : Dict String Rat) :
    (∃ next, summarizeScore casing scores node = .ok next) ↔
      ∀ value, node.score = some (.int value) → (Double.ofInt value).isSome = true := by
  unfold summarizeScore EvidenceNode.score
  cases firstPresent node.record.attributes node.record.metadata ["score", "value", "metric_value"] with
  | none => simp
  | some score =>
    have numeric := numericScore_ok score
    simp only [Option.some.injEq]
    rw [← numeric]
    cases numericScore score with
    | error raised => simp [bind, Except.bind]
    | ok number => cases number <;> simp [bind, Except.bind, pure, Except.pure]

theorem get?_summarizeScore {scores next : Dict String Rat} (key : String)
    (scored : summarizeScore casing scores node = .ok next) : next.get? key =
      (if node.summaryKey casing = key then node.score.bind fun score => ((numericScore score).toOption).join
        else none).or (scores.get? key) := by
  unfold summarizeScore at scored
  unfold EvidenceNode.score
  cases found : firstPresent node.record.attributes node.record.metadata ["score", "value", "metric_value"] with
  | none =>
    rw [found] at scored
    cases scored
    simp
  | some score =>
    rw [found] at scored
    dsimp only at scored
    cases read : numericScore score with
    | error raised =>
      rw [read] at scored
      cases scored
    | ok number =>
      rw [read] at scored
      cases number with
      | none =>
        cases scored
        simp [read, Except.toOption]
      | some value =>
        cases scored
        rw [Dict.get?_set]
        change (if key = node.summaryKey casing then _ else _) = _
        by_cases same : key = node.summaryKey casing
        · simp [same, read, Except.toOption]
        · rw [if_neg same, if_neg (Ne.symm same)]
          rfl

/-- The types the summary is built from are told apart. -/
theorem summarizeNode_parts {summarized next : Summarized} (goes : summarizeNode casing summarized node = .ok next) :
    (if node.OfType .metric then summarizeScore casing summarized.metricScores node = .ok next.metricScores
      else next.metricScores = summarized.metricScores) ∧
    next.driftSeverity = (if node.OfType .driftAnalysis then node.severity.bind textOf? else summarized.driftSeverity) ∧
    next.latestJobStatus = (if node.OfType .job then nodeStatus casing node else summarized.latestJobStatus) ∧
    next.latestAuditStatus =
      (if node.OfType .mcpAuditRecord then nodeStatus casing node else summarized.latestAuditStatus) := by
  unfold summarizeNode at goes
  unfold EvidenceNode.OfType
  by_cases metric : node.record.entityType = EntityType.metric.value
  · rw [if_pos metric] at goes
    obtain ⟨scores, scored, goes⟩ := bind_ok goes
    cases goes
    simp [metric, EntityType.value, scored]
  · rw [if_neg metric] at goes
    by_cases drift : node.record.entityType = EntityType.driftAnalysis.value
    · rw [if_pos drift] at goes
      cases goes
      simp [drift, EntityType.value, EvidenceNode.severity, firstString]
    · rw [if_neg drift] at goes
      by_cases job : node.record.entityType = EntityType.job.value
      · rw [if_pos job] at goes
        cases goes
        simp [job, EntityType.value]
      · rw [if_neg job] at goes
        by_cases audit : node.record.entityType = EntityType.mcpAuditRecord.value
        · rw [if_pos audit] at goes
          cases goes
          simp [audit, EntityType.value]
        · rw [if_neg audit] at goes
          cases goes
          simp [metric, drift, job, audit]

theorem summarizeNode_ok {summarized : Summarized} :
    (∃ next, summarizeNode casing summarized node = .ok next) ↔
      (node.OfType .metric → ∀ value, node.score = some (.int value) → (Double.ofInt value).isSome = true) := by
  unfold summarizeNode EvidenceNode.OfType
  by_cases metric : node.record.entityType = EntityType.metric.value
  · rw [if_pos metric, forall_prop_of_true metric, ← summarizeScore_ok summarized.metricScores]
    cases summarizeScore casing summarized.metricScores node <;> simp [bind, Except.bind, pure, Except.pure]
  · rw [if_neg metric]
    refine ⟨fun _ typed => absurd typed metric, fun _ => ?_⟩
    split
    · exact ⟨_, rfl⟩
    · split
      · exact ⟨_, rfl⟩
      · split <;> exact ⟨_, rfl⟩

variable {final : Summarized} (ends : nodes.foldlM (summarizeNode casing) {} = .ok final)
include ends

theorem scores_summarized (key : String) :
    final.metricScores.get? key = latest (summarizedScore casing key) nodes := by
  refine (foldlM_latest (fun node => (summarizedScore casing key node).map some)
    (fun summarized : Summarized => summarized.metricScores.get? key) (fun summarized node next goes => ?_)
    nodes ends).trans ?_
  · have scored := (summarizeNode_parts goes).1
    unfold summarizedScore
    by_cases metric : node.OfType .metric
    · rw [if_pos metric] at scored
      rw [get?_summarizeScore key scored]
      by_cases same : node.summaryKey casing = key
      · rw [if_pos same, if_pos ⟨metric, same⟩]
        cases node.score.bind fun score => ((numericScore score).toOption).join <;> rfl
      · rw [if_neg same, if_neg fun both => same both.2]
        rfl
    · rw [if_neg metric] at scored
      rw [if_neg fun both => metric both.1, scored]
      rfl
  · rw [latest_map]
    cases latest (summarizedScore casing key) nodes <;> rfl

theorem drift_summarized :
    final.driftSeverity = (latest (ofType .driftAnalysis id) nodes).bind fun node => node.severity.bind textOf? := by
  refine (foldlM_latest (ofType .driftAnalysis fun node => node.severity.bind textOf?) Summarized.driftSeverity
    (fun summarized node next goes => ?_) nodes ends).trans ?_
  · rw [(summarizeNode_parts goes).2.1]
    unfold ofType
    split <;> rfl
  · rw [latest_ofType]
    cases latest (ofType .driftAnalysis id) nodes <;> rfl

variable (casing) in
theorem status_summarized (part : Summarized → Option String) {entityType : EntityType} (empty : part {} = none)
    (taken : ∀ {summarized node next}, summarizeNode casing summarized node = .ok next →
      part next = if node.OfType entityType then nodeStatus casing node else part summarized) :
    part final = (latest (ofType entityType id) nodes).bind (nodeStatus casing) := by
  refine (foldlM_latest (ofType entityType (nodeStatus casing)) part (fun summarized node next goes => ?_)
    nodes ends).trans ?_
  · rw [taken goes]
    unfold ofType
    split <;> rfl
  · rw [latest_ofType, empty]
    cases latest (ofType entityType id) nodes <;> rfl

omit ends in
theorem lookup_ascending (scores : Dict String Rat) (key : String) :
    Dict.lookup (Ranking.ascending Prod.fst scores.entries) key = scores.get? key := by
  have arranged : (Ranking.ascending Prod.fst scores.entries).Perm scores.entries := Ranking.perm_ascending
  have nodup : ((Ranking.ascending Prod.fst scores.entries).map Prod.fst).Nodup :=
    (arranged.map Prod.fst).nodup_iff.mpr scores.nodup
  apply Option.ext
  intro score
  constructor
  · intro found
    have listed : Dict.get? ⟨_, nodup⟩ key = some score := found
    exact Dict.get?_of_mem (arranged.mem_iff.mp (Dict.mem_of_get? listed))
  · intro found
    exact @Dict.get?_of_mem _ _ _ ⟨_, nodup⟩ _ (arranged.mem_iff.mpr (Dict.mem_of_get? found))

omit ends in
/-- A graph is summarised exactly when its integer scores are within the doubles. -/
theorem summarize_ok_iff :
    (∃ summary, summarize casing evidenceGraph = .ok summary) ↔ ∀ node ∈ evidenceGraph.record.nodes,
      node.OfType .metric → ∀ score, node.score = some (.int score) → (Double.ofInt score).isSome = true := by
  rw [← foldlM_succeeds (summarizeNode casing) (fun node => node.OfType .metric → ∀ score, node.score = some (.int score) →
    (Double.ofInt score).isSome = true) (fun _ _ => summarizeNode_ok) {}]
  unfold summarize
  constructor
  · rintro ⟨summary, made⟩
    obtain ⟨final, folded, -⟩ := bind_ok made
    exact ⟨final, folded⟩
  · rintro ⟨final, folded⟩
    dsimp only
    rw [folded]
    exact ⟨⟨_, by
      have named := firstViolation_eq_none.mp evidenceGraph.valid _ List.mem_cons_self
      exact requireNonEmpty_eq_none.mpr (requireNonEmpty_eq_none.mp named)⟩, Checked.create_eq_ok_iff.mpr rfl⟩

omit ends in
/-- What a summary says of the evidence it is made from. -/
theorem summary_values {summary : ReasoningEvidenceSummary} (made : summarize casing evidenceGraph = .ok summary) :
    (∀ key, summary.score key = latest (summarizedScore casing key) evidenceGraph.record.nodes) ∧
    summary.record.driftSeverity =
      ((latest (ofType .driftAnalysis id) evidenceGraph.record.nodes).bind fun node => node.severity.bind textOf?) ∧
    summary.record.latestJobStatus =
      (latest (ofType .job id) evidenceGraph.record.nodes).bind (nodeStatus casing) ∧
    summary.record.latestAuditStatus =
      (latest (ofType .mcpAuditRecord id) evidenceGraph.record.nodes).bind (nodeStatus casing) := by
  obtain ⟨final, folded, created⟩ := bind_ok made
  have same := Checked.create_eq_ok_iff.mp created
  unfold ReasoningEvidenceSummary.score
  rw [same]
  refine ⟨fun key => ?_, drift_summarized folded, ?_, ?_⟩
  · exact (lookup_ascending _ key).trans (scores_summarized folded key)
  · exact status_summarized casing folded Summarized.latestJobStatus rfl fun goes => (summarizeNode_parts goes).2.2.1
  · exact status_summarized casing folded Summarized.latestAuditStatus rfl fun goes => (summarizeNode_parts goes).2.2.2

end Summary

/-! ## Results -/

section Results

variable {casing : Casing} {nodes : List EvidenceNode}

theorem firstPresent_ne_null {attributes metadata : Metadata} {names : List String} :
    firstPresent attributes metadata names ≠ some .null := by
  intro found
  obtain ⟨mapping, -, found⟩ := List.exists_of_findSome?_eq_some found
  obtain ⟨name, -, found⟩ := List.exists_of_findSome?_eq_some found
  obtain ⟨-, present⟩ := Option.filter_eq_some_iff.mp found
  simp at present

theorem sameStatus_node :
    SameStatus casing (nodeStatus casing node) (some (contextStatus node)) ↔ Settled casing node := by
  have stated : nodeStatus casing node = ((node.status.bind textOf?).or node.record.lifecycle).map casing.upper := rfl
  have present : node.status ≠ some .null := firstPresent_ne_null
  unfold Settled contextStatus
  rw [stated]
  cases status : node.status with
  | none => cases node.record.lifecycle <;> simp [SameStatus]
  | some value =>
    cases value with
    | null => exact absurd status present
    | str text => cases blank : Text.isBlank text <;> simp [SameStatus, textOf?, blank]
    | _ => simp [SameStatus]

/-- A status agrees exactly when the last node of its type is settled. -/
theorem sameStatus_iff (entityType : EntityType) :
    SameStatus casing ((latest (ofType entityType id) nodes).bind (nodeStatus casing))
        ((latest (ofType entityType id) nodes).map contextStatus) ↔
      ∀ node, latest (ofType entityType id) nodes = some node → Settled casing node := by
  cases latest (ofType entityType id) nodes with
  | none => simp [SameStatus]
  | some node => simpa using sameStatus_node

/-- The severity agrees exactly when the last drift node has one, if the last there is is text. -/
theorem sameDrift_iff :
    (∀ severity, latest (fun node => (ofType .driftAnalysis EvidenceNode.severity node).join) nodes =
        some (.str severity) → Text.isBlank severity = false →
      ((latest (ofType .driftAnalysis id) nodes).bind fun node => node.severity.bind textOf?) = some severity) ↔
    ∀ node severity, latest (ofType .driftAnalysis id) nodes = some node →
      latest (fun node => (ofType .driftAnalysis EvidenceNode.severity node).join) nodes = some (.str severity) →
      Text.isBlank severity = false → node.severity ≠ none := by
  constructor
  · intro agrees node severity last said solid silent
    have same := agrees severity said solid
    rw [last, Option.bind_some, silent] at same
    cases same
  · intro speaks severity said solid
    cases last : latest (ofType .driftAnalysis id) nodes with
    | none =>
      obtain ⟨node, member, reads⟩ := mem_of_latest said
      have absent := latest_eq_none.mp last node member
      unfold ofType at absent reads
      split at absent
      · cases absent
      · rename_i other
        rw [if_neg other] at reads
        cases reads
    | some node =>
      obtain ⟨value, found⟩ := Option.ne_none_iff_exists'.mp (speaks node severity last said solid)
      have spoken : latest (ofType .driftAnalysis EvidenceNode.severity) nodes = some (some value) := by
        rw [latest_ofType, last, Option.map_some, found]
      rw [latest_join spoken] at said
      cases said
      rw [Option.bind_some, found, Option.bind_some, textOf?, if_neg (by simp [solid])]

/-- The summary of a graph and its policy context describe the same evidence exactly when the
nodes that decide in them decide alike. -/
theorem summary_agrees_with_context_iff (casing : Casing) (evidenceGraph : DecisionEvidenceGraph) :
    (∃ summary context, summarize casing evidenceGraph = .ok summary ∧
        buildPolicyContext casing.lower evidenceGraph = .ok context ∧ SameEvidence casing summary context) ↔
      Concordant casing evidenceGraph.record.nodes := by
  constructor
  · rintro ⟨summary, context, made, built, agrees⟩
    obtain ⟨scores, drift, job, audit⟩ := summary_values made
    obtain ⟨contextScores, contextDrift, contextJob, contextAudit⟩ := context_values built
    refine ⟨summarize_ok_iff.mp ⟨summary, made⟩, fun key => ?_, ?_, ?_, ?_⟩
    · apply Option.ext
      intro score
      have same := agrees.scores key score
      rwa [scores, contextScores] at same
    · have same := agrees.drift
      rw [contextDrift, drift] at same
      exact sameDrift_iff.mp same
    · have same := agrees.job
      rw [job, contextJob] at same
      exact (sameStatus_iff .job).mp same
    · have same := agrees.audit
      rw [audit, contextAudit] at same
      exact (sameStatus_iff .mcpAuditRecord).mp same
  · intro concordant
    obtain ⟨summary, made⟩ := summarize_ok_iff.mpr concordant.bounded
    obtain ⟨context, built⟩ : ∃ context, buildPolicyContext casing.lower evidenceGraph = .ok context := by
      refine ⟨⟨_, firstViolation_eq_none.mpr fun test member => ?_⟩, Checked.create_eq_ok_iff.mpr rfl⟩
      obtain rfl := List.mem_singleton.mp member
      have named := firstViolation_eq_none.mp evidenceGraph.valid _ List.mem_cons_self
      exact requireNonEmpty_eq_none.mpr (requireNonEmpty_eq_none.mp named)
    obtain ⟨scores, drift, job, audit⟩ := summary_values made
    obtain ⟨contextScores, contextDrift, contextJob, contextAudit⟩ := context_values built
    refine ⟨summary, context, made, built, fun key score => ?_, ?_, ?_, ?_⟩
    · rw [scores, contextScores, concordant.scores key]
    · rw [contextDrift, drift]
      exact sameDrift_iff.mpr concordant.drift
    · rw [job, contextJob]
      exact (sameStatus_iff .job).mpr concordant.job
    · rw [audit, contextAudit]
      exact (sameStatus_iff .mcpAuditRecord).mpr concordant.audit

end Results

/-! ## Evidence described twice -/

/-- Case conversions for ASCII text. -/
def asciiCasing : Casing where
  lower text := String.ofList (text.toList.map Char.toLower)
  upper text := String.ofList (text.toList.map Char.toUpper)

/-- A metric that is named by its label alone. -/
def labelledMetric : EvidenceNode where
  record :=
    { entityType := "Metric", entityId := "metric-1", label := some "Latency", lifecycle := some "ACTIVE"
      attributes := [("display_name", .str "Latency"), ("score", .float (9 / 10))] }
  valid := rfl

/-- The first of two drift analyses, with a severity. -/
def severeDrift : EvidenceNode where
  record :=
    { entityType := "DriftAnalysis", entityId := "drift-1", lifecycle := some "ACTIVE"
      attributes := [("severity", .str "HIGH")] }
  valid := rfl

/-- The second, without one. -/
def silentDrift : EvidenceNode where
  record := { entityType := "DriftAnalysis", entityId := "drift-2", lifecycle := some "ACTIVE" }
  valid := rfl

/-- A graph of some nodes for a candidate. -/
def evidenceOf (nodes : List EvidenceNode) : DecisionEvidenceGraph where
  record := { targetType := .candidate, targetId := "candidate-1", nodes }
  valid := firstViolation_eq_none.mpr fun test member => by
    obtain rfl := List.mem_singleton.mp member
    exact requireNonEmpty_eq_none.mpr (show Text.isBlank "candidate-1" = false by decide)

/-- The score of a metric known by its label and a severity of an earlier analysis are each
told by one of the two alone. -/
theorem labelled_metric_told_apart :
    (¬ ∃ summary context, summarize asciiCasing (evidenceOf [labelledMetric]) = .ok summary ∧
      buildPolicyContext asciiCasing.lower (evidenceOf [labelledMetric]) = .ok context ∧
      SameEvidence asciiCasing summary context) ∧
    ¬ ∃ summary context, summarize asciiCasing (evidenceOf [severeDrift, silentDrift]) = .ok summary ∧
      buildPolicyContext asciiCasing.lower (evidenceOf [severeDrift, silentDrift]) = .ok context ∧
      SameEvidence asciiCasing summary context := by
  constructor
  · rintro ⟨summary, context, made, built, agrees⟩
    have same := agrees.scores "latency" (9 / 10)
    rw [(summary_values made).1, (context_values built).1] at same
    revert same
    decide +kernel
  · rintro ⟨summary, context, made, built, agrees⟩
    have same := agrees.drift "HIGH"
    rw [(summary_values made).2.1, (context_values built).2.1] at same
    revert same
    decide +kernel

end AiGovernance.Decisions
