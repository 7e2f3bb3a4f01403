import RouterPlanner.Query

/-!
# Distribution metadata, placements and plans

**Metadata.** A distributed table's cache entry (`DistTableCacheEntry`) gives its partition
method, its partition column (none for a reference table), its sorted shard intervals and its
replication model. A shard has placements on workers; only finalized ones are used.

**Plans.** The planner's output is a `MultiPlan` holding a `Job`, which holds `Task`s; a
task names an anchor shard, the placements it may run on and the shard each relation was
pruned to.

**Collaborators** (`Env`). Everything `multi_router_planner.c` calls but does not define: the
metadata cache, the placement catalog, the pruning and implication utilities, and the
deparser. Each is a field, so that every result holds for every catalog.
-/

namespace RouterPlanner

/-! ## Distribution metadata -/

/-- `DISTRIBUTE_BY_HASH`, `DISTRIBUTE_BY_RANGE`, `DISTRIBUTE_BY_APPEND`, `DISTRIBUTE_BY_NONE`. -/
inductive PartitionMethod where
  | distributeByHash
  | distributeByRange
  | distributeByAppend
  | distributeByNone
deriving DecidableEq, Repr

/-- `REPLICATION_MODEL_*`. -/
inductive ReplicationModel where
  | coordinator
  | streaming
  | invalid
deriving DecidableEq, Repr

/-- `ShardInterval`; its boundaries are read only by the pruning utilities. -/
structure ShardInterval where
  relationId : Nat
  shardId : Nat
deriving DecidableEq, Repr

/-- `DistTableCacheEntry`. `partitionColumn` is the attribute number of the column that
`PartitionColumn` returns, `none` where it returns `NULL`; `partitionColumnName` is what
`ColumnNameToColumn` makes of `partitionKeyString`. -/
structure DistTableCacheEntry where
  relationId : Nat
  partitionMethod : PartitionMethod
  partitionColumn : Option Nat
  partitionColumnName : String
  sortedShardIntervalArray : List ShardInterval
  replicationModel : ReplicationModel
deriving DecidableEq, Repr

/-- `shardIntervalArrayLength`. -/
def DistTableCacheEntry.shardIntervalArrayLength (entry : DistTableCacheEntry) : Nat :=
  entry.sortedShardIntervalArray.length

/-- `ShardPlacement`. -/
structure ShardPlacement where
  shardId : Nat
  nodeName : String
  nodePort : Nat
  groupId : Nat
deriving DecidableEq, Repr

/-- `WorkerNode`. -/
structure WorkerNode where
  workerName : String
  workerPort : Nat
  groupId : Nat
deriving DecidableEq, Repr

/-- `RelationShard`: a relation and the one shard it is pruned to. -/
structure RelationShard where
  relationId : Nat
  shardId : Nat
deriving DecidableEq, Repr

/-- `INVALID_SHARD_ID`. -/
def invalidShardId : Nat := 0

/-! ## Relation restrictions -/

/-- `RestrictInfo`. -/
structure RestrictInfo where
  clause : Node
  pseudoconstant : Bool
deriving Repr

/-- `RelationRestriction`: one base relation of the planned query, with the clauses the
planner attached to it (`relOptInfo->baserestrictinfo` and `relOptInfo->joininfo`). -/
structure RelationRestriction where
  index : Nat
  relationId : Nat
  rte : RangeTblEntry
  baserestrictinfo : List RestrictInfo
  joininfo : List RestrictInfo
deriving Repr

/-- `get_all_actual_clauses`. -/
def getAllActualClauses (restrictinfoList : List RestrictInfo) : List Node :=
  restrictinfoList.map (·.clause)

/-- `extract_actual_clauses`: the clauses whose `pseudoconstant` flag is `pseudoconstant`. -/
def extractActualClauses (restrictinfoList : List RestrictInfo) (pseudoconstant : Bool) :
    List Node :=
  (restrictinfoList.filter (·.pseudoconstant == pseudoconstant)).map (·.clause)

/-! ## Plans -/

/-- `TaskType`. -/
inductive TaskType where
  | routerTask
  | modifyTask
deriving DecidableEq, Repr

/-- `Task`. -/
structure Task where
  taskType : TaskType
  queryString : Option String
  anchorShardId : Nat
  taskPlacementList : List ShardPlacement
  relationShardList : List RelationShard
  upsertQuery : Bool
  replicationModel : ReplicationModel
deriving Repr

/-- `CreateTask`. -/
def createTask (taskType : TaskType) : Task where
  taskType := taskType
  queryString := none
  anchorShardId := invalidShardId
  taskPlacementList := []
  relationShardList := []
  upsertQuery := false
  replicationModel := .invalid

/-- `Job`. -/
structure Job where
  jobQuery : Query
  taskList : List Task
  requiresMasterEvaluation : Bool
  deferredPruning : Bool
deriving Repr

/-- `CreateJob`. -/
def createJob (query : Query) : Job where
  jobQuery := query
  taskList := []
  requiresMasterEvaluation := false
  deferredPruning := false

/-- `MultiPlan`. -/
structure MultiPlan where
  operation : CmdType
  planningError : Option DeferredErrorMessage
  workerJob : Option Job
  routerExecutable : Bool
  hasReturning : Bool
deriving Repr

/-! ## Collaborators -/

/-- What the router planner reads from outside `multi_router_planner.c`. -/
structure Env where
  /-- The metadata cache: `none` for a relation that is not distributed. -/
  distTable : Nat → Option DistTableCacheEntry
  /-- The cache entry of a relation is that relation's. -/
  distTable_relationId : ∀ relationId entry, distTable relationId = some entry →
    entry.relationId = relationId
  /-- `get_rel_name`. -/
  getRelName : Nat → String
  /-- `IsCoordinator()`. -/
  isCoordinator : Bool
  /-- `citus.enable_router_execution`. -/
  enableRouterExecution : Bool
  /-- `FinalizedShardPlacementList`. -/
  finalizedShardPlacementList : Nat → List ShardPlacement
  /-- `WORKER_LENGTH`, the size of a worker-name buffer. -/
  workerLength : Nat
  /-- `ActivePrimaryNodeList()`. -/
  activePrimaryNodeList : List WorkerNode
  /-- `FindShardInterval`: the interval that holds a partition value. -/
  findShardInterval : Nat → DistTableCacheEntry → Option ShardInterval
  /-- `PruneShards(relationId, tableId, clauses)`. -/
  pruneShards : Nat → Nat → List Node → List ShardInterval
  /-- `predicate_implied_by(predicates, clauses)`. -/
  predicateImpliedBy : List Node → List Node → Bool
  /-- `ContainsFalseClause`. -/
  containsFalseClause : List Node → Bool
  /-- `pg_get_query_def`. -/
  pgGetQueryDef : Query → String
  /-- The query text of a task on one shard, as `RebuildQueryStrings` deparses it. -/
  deparseShardQuery : Query → Nat → String

/-- `IsDistributedTable`. -/
def isDistributedTable (env : Env) (relationId : Nat) : Bool :=
  (env.distTable relationId).isSome

/-- `DistributedTableCacheEntry`, which errors out for a relation that is not distributed. -/
def distributedTableCacheEntry (env : Env) (relationId : Nat) : Planning DistTableCacheEntry :=
  match env.distTable relationId with
  | some entry => .ok entry
  | none =>
    .error { code := .internalError, message := "relation " ++ toString relationId ++ " is not distributed" }

theorem distributedTableCacheEntry_eq_ok {env : Env} {relationId : Nat}
    {entry : DistTableCacheEntry} :
    distributedTableCacheEntry env relationId = .ok entry ↔
      env.distTable relationId = some entry := by
  unfold distributedTableCacheEntry
  split <;> simp_all

/-- `PartitionColumn(relationId, rangeTableId)`: the partition column as a `Var` of the given
range-table entry, `none` for a reference table. -/
def partitionColumn (env : Env) (relationId rangeTableId : Nat) : Planning (Option Var) := do
  let entry ← distributedTableCacheEntry env relationId
  return entry.partitionColumn.map (Var.mk rangeTableId)

theorem partitionColumn_of_distTable {env : Env} {relationId : Nat} {entry : DistTableCacheEntry}
    (h : env.distTable relationId = some entry) (rangeTableId : Nat) :
    partitionColumn env relationId rangeTableId =
      .ok (entry.partitionColumn.map (Var.mk rangeTableId)) := by
  simp [partitionColumn, distributedTableCacheEntry_eq_ok.mpr h]

/-- `PartitionMethod`. -/
def partitionMethod (env : Env) (relationId : Nat) : Planning PartitionMethod := do
  let entry ← distributedTableCacheEntry env relationId
  return entry.partitionMethod

/-- `ExtractFirstDistributedTableId`: `InvalidOid` (0) when no entry is distributed. -/
def extractFirstDistributedTableId (env : Env) (query : Query) : Nat :=
  match query.rtable.find? (fun rte => isDistributedTable env rte.relid) with
  | some rte => rte.relid
  | none => 0

end RouterPlanner
