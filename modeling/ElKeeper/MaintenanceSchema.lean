import ElKeeper.Lifecycle
import ElKeeper.Migrations
import ElKeeper.SchemaSteps

/-!
# The schema of the maintenance store

Its tables, columns, indexes and triggers, the migrations that install them and the
repair that follows the migrations.  The texts of statements are given without their
line breaks, and the checksums of the migrations are those of their specifications.
-/

namespace ElKeeper

namespace MaintenanceSchema

open Savepoints Migrations SchemaSteps

/-! ### Tables -/

def activePlan : String :=
  "lifecycle_state IN ('ready','executing','paused','recovery_required')"

def indexes : List SchemaStep :=
  [ .createIndex ⟨"ux_maintenance_plans_idempotency", true, "maintenance_plans",
      ["idempotency_key"], none⟩,
    .createIndex ⟨"ux_maintenance_steps_key", true, "maintenance_steps",
      ["plan_id", "step_key"], none⟩,
    .createIndex ⟨"ux_maintenance_steps_sequence", true, "maintenance_steps",
      ["plan_id", "sequence"], none⟩,
    .createIndex ⟨"ux_maintenance_checkpoints_key", true, "maintenance_checkpoints",
      ["plan_id", "checkpoint_key"], none⟩,
    .createIndex ⟨"ux_maintenance_checkpoints_sequence", true, "maintenance_checkpoints",
      ["plan_id", "sequence"], none⟩,
    .createIndex ⟨"ux_maintenance_locks_active_scope", true, "maintenance_locks",
      ["scope_kind", "scope_id"], some "released_at IS NULL"⟩,
    .createIndex ⟨"ux_maintenance_active_node_plan", true, "maintenance_plans",
      ["target_node_id"], some ("target_node_id IS NOT NULL AND " ++ activePlan)⟩,
    .createIndex ⟨"ux_maintenance_active_cluster_plan", true, "maintenance_plans",
      ["target_cluster_id"], some ("target_cluster_id IS NOT NULL AND " ++ activePlan)⟩,
    .createIndex ⟨"ux_maintenance_active_assignment_plan", true, "maintenance_plans",
      ["target_assignment_id"], some ("target_assignment_id IS NOT NULL AND " ++ activePlan)⟩,
    .createIndex ⟨"ix_maintenance_plans_state", false, "maintenance_plans",
      ["lifecycle_state", "created_at"], none⟩,
    .createIndex ⟨"ix_maintenance_steps_plan_state", false, "maintenance_steps",
      ["plan_id", "state", "sequence"], none⟩,
    .createIndex ⟨"ix_maintenance_locks_owner", false, "maintenance_locks",
      ["owner_plan_id", "released_at"], none⟩,
    .createIndex ⟨"ix_maintenance_locks_expiry", false, "maintenance_locks",
      ["expires_at"], some "released_at IS NULL"⟩,
    .createIndex ⟨"ux_maintenance_allocation_guards_active_cluster", true,
      "maintenance_allocation_guards", ["cluster_id"], some "phase IN ('captured','active','recovery_required')"⟩,
    .createIndex ⟨"ux_maintenance_allocation_guards_owner_cluster", true,
      "maintenance_allocation_guards", ["cluster_id", "owner_plan_id"], none⟩,
    .createIndex ⟨"ix_maintenance_allocation_guards_owner", false, "maintenance_allocation_guards",
      ["owner_plan_id", "created_at"], none⟩,
    .createIndex ⟨"ix_assignment_maintenance_active_plan", false, "assignment_maintenance_state",
      ["active_plan_id"], some "active_plan_id IS NOT NULL"⟩]

def hostStates : List HostMaintenanceState :=
  [.available, .planning, .maintenance, .draining, .recoveryRequired]

def foundationSchema : Definition :=
  ⟨1, "phase_0_maintenance_foundation",
    "4f7aec46b61846191c138214e0fd76aecc5a4d9c6ac681c1f8523399d78bf6b3"⟩

def providerSchema : Definition :=
  ⟨2, "phase_0_provider_ownership",
    "3a102aec18b35576cf45e0d7f639ed3af6112a7fbbef51904ee1e83ca03f742a"⟩

def observationSchema : Definition :=
  ⟨3, "phase_1_observation_identity",
    "9b3914ee53f74ad3cd5b0dbc43e0823ccfeeebe141446413012e334c2c39dd04"⟩

def workflowSchema : Definition :=
  ⟨4, "phase_2_workflow_state",
    "b1920b92f7050e6c9a4c9ebc2dbeebc19c23466b0209e8fc7cd87bd9f97f8b2f"⟩

def allocationGuardSchema : Definition :=
  ⟨5, "phase_3_allocation_guard_ownership",
    "dfe1112b763835b86c0206a423d4e61e970c79369c2bc0a3c490f2a3aeaf7d06"⟩

def assignmentWorkflowSchema : Definition :=
  ⟨6, "phase_4_assignment_workflow_state",
    "7ca38017de0436242eb0b0d14b155446d78e26d3cfaa5b77658b3e807fe242fa"⟩

def hostAssignmentWorkflowSchema : Definition :=
  ⟨7, "phase_5_host_assignment_workflow",
    "ae9f2aa92b0f823ae24b51acde202f0fabf41b19523bf5616aac63024c13cbfa"⟩

def definitions : List Definition :=
  [foundationSchema, providerSchema, observationSchema, workflowSchema, allocationGuardSchema,
    assignmentWorkflowSchema, hostAssignmentWorkflowSchema]

section Installing

variable (refuses : Nat → Schema → Option MigrationError)

def migration (definition : Definition) (steps : List SchemaStep) : Migration Schema where
  toDefinition := definition
  callback := performAll .sqlite refuses steps

end Installing

end MaintenanceSchema

end ElKeeper
