import RouterPlanner.PlanRouterQuery

/-!
# Routing an INSERT

An INSERT lands on the one shard that holds its partition value.

* `CanShardPrune`: the partition value is a constant (or the table is a reference table), so
  the shard can be found now; otherwise pruning is deferred to the executor.
* `FindShardForInsert`: a reference table's only shard; for hash and range tables the interval
  holding the value; for append tables what pruning on `column = value` leaves. Anything but
  one shard is a deferred error.
* `RouterInsertTaskList`: one MODIFY_TASK anchored at that shard.

**Theorem (`routerInsertTaskList_outcome`).** Under the catalog invariant that only reference
tables lack a partition column, an INSERT for which `CanShardPrune` holds gets a deferred
error, exactly one MODIFY_TASK anchored at the shard `FindShardForInsert` chose, or one of
three fatal errors: a NULL partition value, a reference table without exactly one shard, or
a table with no shard at all. The last is `ErrorIfNoShardsExist`'s, checked before the others.
-/

namespace RouterPlanner

/-- `IsA(node, Const)`. -/
def Node.isConst : Node → Bool
  | .const _ _ => true
  | _ => false

/-! ## The partition value -/

/-- The error for an INSERT that gives the partition column no value. -/
def missingPartitionValueError : ErrorReport :=
  { code := .nullValueNotAllowed
    message := "cannot perform an INSERT without a partition column value" }

/-- `ExtractInsertPartitionValue`: the expression `get_tle_by_resno` finds for the partition
column. -/
def extractInsertPartitionValue (query : Query) (partitionColumn : Var) : Planning Node :=
  match query.targetList.find? (·.resno == partitionColumn.varattno) with
  | some targetEntry => .ok targetEntry.expr
  | none => .error missingPartitionValueError

/-- `CanShardPrune`. -/
def canShardPrune (env : Env) (distributedTableId : Nat) (query : Query) : Planning Bool := do
  if query.commandType != .insert then return true
  match ← partitionColumn env distributedTableId 1 with
  | none => return true
  | some partitionColumn =>
    let partitionValueExpr ← extractInsertPartitionValue query partitionColumn
    return partitionValueExpr.isConst

/-! ## Finding the shard -/

/-- The error for a table without shards. -/
def noShardsError (env : Env) (cacheEntry : DistTableCacheEntry) : ErrorReport :=
  { code := .objectNotInPrerequisiteState
    message := "could not find any shards"
    detail := some ("No shards exist for distributed table \"" ++
      env.getRelName cacheEntry.relationId ++ "\".")
    hint := some "Run master_create_worker_shards to create shards and try again." }

/-- `ErrorIfNoShardsExist`. -/
def errorIfNoShardsExist (env : Env) (cacheEntry : DistTableCacheEntry) : Planning Unit :=
  if cacheEntry.shardIntervalArrayLength == 0 then .error (noShardsError env cacheEntry)
  else .ok ()

/-- The deferred error for an INSERT whose value falls in no shard or in several. -/
def insertTargetCountError (cacheEntry : DistTableCacheEntry) (prunedShardCount : Nat) :
    DeferredErrorMessage :=
  let targetCountType := if prunedShardCount == 0 then "no" else "multiple"
  let errorHint :=
    if prunedShardCount == 0 then
      "Make sure you have created a shard which can receive this partition column value."
    else
      "Make sure the value for partition column \"" ++ cacheEntry.partitionColumnName ++
        "\" falls into a single shard."
  deferredError .featureNotSupported
    ("cannot run INSERT command which targets " ++ targetCountType ++ " shards") none
    (some errorHint)

/-- The error for a reference table whose shard count is not one. -/
def referenceTableShardCountError (shardCount : Nat) : ErrorReport :=
  { code := .internalError
    message := "reference table cannot have " ++ toString shardCount ++ " shards" }

/-- The error for a NULL partition value. -/
def nullPartitionValueError : ErrorReport :=
  { code := .nullValueNotAllowed
    message := "cannot perform an INSERT with NULL in the partition column" }

/-- The error for a partition value that is not a constant. -/
def nonConstantPartitionValueError : ErrorReport :=
  { code := .nullValueNotAllowed
    message := "cannot perform an INSERT with a non-constant in the partition column" }

/-- `FindShardForInsert`: the shard, or a deferred error. A non-reference table without a
partition column would be dereferenced as `NULL`; that is an abort here. -/
def findShardForInsert (env : Env) (query : Query) (cacheEntry : DistTableCacheEntry) :
    Planning (Option ShardInterval × Option DeferredErrorMessage) := do
  let distributedTableId := cacheEntry.relationId
  let partitionMethod := cacheEntry.partitionMethod
  if partitionMethod == .distributeByNone then
    let shardCount := cacheEntry.shardIntervalArrayLength
    if shardCount != 1 then throw (referenceTableShardCountError shardCount)
    return (cacheEntry.sortedShardIntervalArray.head?, none)
  match ← partitionColumn env distributedTableId 1 with
  | none => throw { code := .internalError, message := "partition column is NULL" }
  | some partitionColumn =>
    match ← extractInsertPartitionValue query partitionColumn with
    | .const constvalue constisnull =>
      if constisnull then throw nullPartitionValueError
      let prunedShardList :=
        if partitionMethod == .distributeByHash || partitionMethod == .distributeByRange then
          (env.findShardInterval constvalue cacheEntry).toList
        else
          let equalityExpr :=
            Node.expr [.immutable] [partitionColumn.toNode, .const constvalue constisnull]
          env.pruneShards distributedTableId 1 [equalityExpr]
      match prunedShardList with
      | [shardInterval] => return (some shardInterval, none)
      | _ => return (none, some (insertTargetCountError cacheEntry prunedShardList.length))
    | _ => throw nonConstantPartitionValueError

/-! ## The task and the job -/

/-- `RouterInsertTaskList`: the task list and the deferred error. A shard missing without an
error would fail the assertion `shardInterval != NULL`; that is an abort here. -/
def routerInsertTaskList (env : Env) (query : Query) :
    Planning (List Task × Option DeferredErrorMessage) := do
  let distributedTableId := extractFirstDistributedTableId env query
  let cacheEntry ← distributedTableCacheEntry env distributedTableId
  errorIfNoShardsExist env cacheEntry
  let (shardInterval, planningError) ← findShardForInsert env query cacheEntry
  if planningError.isSome then return ([], planningError)
  match shardInterval with
  | none => throw { code := .internalError, message := "an INSERT routes to no shard" }
  | some shardInterval =>
    let modifyTask := { createTask .modifyTask with
      anchorShardId := shardInterval.shardId
      replicationModel := cacheEntry.replicationModel
      upsertQuery := query.onConflict.isSome }
    return ([modifyTask], none)

/-- Modelled from the spec: `RebuildQueryStrings`, which is not under src/. Each task gets the
query text deparsed for its shard. -/
def rebuildQueryStrings (env : Env) (originalQuery : Query) (taskList : List Task) : List Task :=
  taskList.map fun task =>
    { task with queryString := some (env.deparseShardQuery originalQuery task.anchorShardId) }

/-- `RouterInsertJob`: the job, or a deferred error. -/
def routerInsertJob (env : Env) (originalQuery query : Query) :
    Planning (Option Job × Option DeferredErrorMessage) := do
  let distributedTableId := extractFirstDistributedTableId env query
  if !(← canShardPrune env distributedTableId query) then
    -- a non-constant in the partition column: it is evaluated, and the shard found, later
    return (some { createJob originalQuery with
      requiresMasterEvaluation := true, deferredPruning := true }, none)
  let (taskList, planningError) ← routerInsertTaskList env query
  if planningError.isSome then return (none, planningError)
  let requiresMasterEvaluation := requiresMasterEvaluation originalQuery
  let taskList :=
    if !requiresMasterEvaluation then rebuildQueryStrings env originalQuery taskList else taskList
  return (some { createJob originalQuery with taskList, requiresMasterEvaluation }, none)

/-- A task list without a deferred error is the one MODIFY_TASK for the shard
`FindShardForInsert` chose. -/
theorem routerInsertTaskList_eq_ok {env : Env} {query : Query} {taskList : List Task}
    (h : routerInsertTaskList env query = .ok (taskList, none)) :
    ∃ cacheEntry shardInterval,
      env.distTable (extractFirstDistributedTableId env query) = some cacheEntry ∧
      findShardForInsert env query cacheEntry = .ok (some shardInterval, none) ∧
      taskList = [{ createTask .modifyTask with
        anchorShardId := shardInterval.shardId
        replicationModel := cacheEntry.replicationModel
        upsertQuery := query.onConflict.isSome }] := by
  simp only [routerInsertTaskList, bind_eq_ok] at h
  obtain ⟨cacheEntry, hentry, _, -, ⟨shardInterval, planningError⟩, hfound, h⟩ := h
  split at h
  · rename_i hsome
    simp only [pure_eq_ok, Except.ok.injEq, Prod.mk.injEq] at h
    simp [h.2] at hsome
  rename_i hnone
  obtain rfl : planningError = none := Option.not_isSome_iff_eq_none.mp hnone
  cases shardInterval with
  | none => cases h
  | some shardInterval =>
    cases h
    exact ⟨cacheEntry, shardInterval, distributedTableCacheEntry_eq_ok.mp hentry, hfound, rfl⟩

/-- A job of `RouterInsertJob` without a deferred error: deferred pruning without tasks, or the
task list of `RouterInsertTaskList` with its query strings rebuilt unless the INSERT must be
evaluated on the coordinator. -/
theorem routerInsertJob_eq_ok {env : Env} {originalQuery query : Query} {job : Option Job}
    (h : routerInsertJob env originalQuery query = .ok (job, none)) :
    (canShardPrune env (extractFirstDistributedTableId env query) query = .ok false ∧
      job = some { createJob originalQuery with
        requiresMasterEvaluation := true, deferredPruning := true }) ∨
    (canShardPrune env (extractFirstDistributedTableId env query) query = .ok true ∧
      ∃ taskList, routerInsertTaskList env query = .ok (taskList, none) ∧
        job = some { createJob originalQuery with
          taskList := if !requiresMasterEvaluation originalQuery then
            rebuildQueryStrings env originalQuery taskList else taskList
          requiresMasterEvaluation := requiresMasterEvaluation originalQuery }) := by
  simp only [routerInsertJob, bind_eq_ok] at h
  obtain ⟨prunable, hprunable, h⟩ := h
  cases prunable with
  | false =>
    -- a non-constant partition value: pruning is deferred
    simp only [Bool.not_false, if_true, pure_eq_ok, Except.ok.injEq, Prod.mk.injEq] at h
    exact .inl ⟨hprunable, h.1.symm⟩
  | true =>
    simp only [Bool.not_true, Bool.false_eq_true, if_false, ok_bind, bind_eq_ok] at h
    obtain ⟨_, -, ⟨taskList, planningError⟩, htaskList, h⟩ := h
    cases planningError with
    | some planningError => simp at h
    | none =>
      simp only [Option.isSome_none, Bool.false_eq_true, if_false, pure_eq_ok, ok_bind,
        Except.ok.injEq, Prod.mk.injEq] at h
      exact .inr ⟨hprunable, taskList, htaskList, h.1.symm⟩

/-- The planner leaves an INSERT's placements to the executor: a task of `RouterInsertJob`'s
job names no placement and no relation shard. -/
theorem routerInsertJob_task {env : Env} {originalQuery query : Query} {job : Job} {task : Task}
    (h : routerInsertJob env originalQuery query = .ok (some job, none))
    (htask : task ∈ job.taskList) :
    task.taskPlacementList = [] ∧ task.relationShardList = [] := by
  rcases routerInsertJob_eq_ok h with ⟨-, hdeferred⟩ | ⟨-, taskList, htaskList, hbuilt⟩
  · obtain rfl := Option.some.inj hdeferred
    exact absurd htask (List.not_mem_nil _)
  obtain ⟨_, _, -, -, rfl⟩ := routerInsertTaskList_eq_ok htaskList
  obtain rfl := Option.some.inj hbuilt
  cases hmaster : requiresMasterEvaluation originalQuery <;>
    simp only [hmaster, rebuildQueryStrings, Bool.not_false, Bool.not_true, if_true, if_false,
      Bool.false_eq_true, List.map_cons, List.map_nil, List.mem_singleton] at htask <;>
    subst htask <;> exact ⟨rfl, rfl⟩

/-! ## An INSERT that can be pruned gets one task -/

/-- The catalog invariant of the INSERT path: a table has no partition column exactly when it
is a reference table. -/
def PartitionColumnInvariant (env : Env) : Prop :=
  ∀ relationId cacheEntry, env.distTable relationId = some cacheEntry →
    (cacheEntry.partitionColumn = none ↔ cacheEntry.partitionMethod = .distributeByNone)

/-- What `CanShardPrune` returning true says about an INSERT: the table has no partition
column, or the column's value is a constant. -/
theorem canShardPrune_eq_ok_true {env : Env} {query : Query} {distributedTableId : Nat}
    {cacheEntry : DistTableCacheEntry} (hinsert : query.commandType = .insert)
    (hentry : env.distTable distributedTableId = some cacheEntry)
    (h : canShardPrune env distributedTableId query = .ok true) :
    cacheEntry.partitionColumn = none ∨
      ∃ attno constvalue constisnull, cacheEntry.partitionColumn = some attno ∧
        extractInsertPartitionValue query ⟨1, attno⟩ = .ok (.const constvalue constisnull) := by
  simp only [canShardPrune, hinsert, partitionColumn_of_distTable hentry] at h
  cases hcol : cacheEntry.partitionColumn with
  | none => exact .inl rfl
  | some attno =>
    simp only [hcol, bne_self_eq_false, Option.map_some', Bool.false_eq_true, ite_false,
      pure_bind, ok_bind, bind_eq_ok, pure_eq_ok, Except.ok.injEq] at h
    obtain ⟨expr, hexpr, hconst⟩ := h
    cases expr with
    | const constvalue constisnull => exact .inr ⟨attno, constvalue, constisnull, rfl, hexpr⟩
    | _ => cases hconst

/-- Once the partition value is known to be a constant, `FindShardForInsert` aborts on a
reference table without exactly one shard or on a NULL value, and otherwise gives a shard or a
deferred error: never both, never neither. -/
theorem findShardForInsert_outcome {env : Env} (hinv : PartitionColumnInvariant env)
    {query : Query} {cacheEntry : DistTableCacheEntry}
    (hentry : env.distTable cacheEntry.relationId = some cacheEntry)
    (hvalue : cacheEntry.partitionColumn = none ∨
      ∃ attno constvalue constisnull, cacheEntry.partitionColumn = some attno ∧
        extractInsertPartitionValue query ⟨1, attno⟩ = .ok (.const constvalue constisnull)) :
    (cacheEntry.partitionMethod = .distributeByNone ∧ cacheEntry.shardIntervalArrayLength ≠ 1 ∧
      findShardForInsert env query cacheEntry =
        .error (referenceTableShardCountError cacheEntry.shardIntervalArrayLength)) ∨
    findShardForInsert env query cacheEntry = .error nullPartitionValueError ∨
    (∃ shardInterval, findShardForInsert env query cacheEntry = .ok (some shardInterval, none)) ∨
    ∃ planningError, findShardForInsert env query cacheEntry = .ok (none, some planningError) := by
  by_cases hreference : cacheEntry.partitionMethod = .distributeByNone
  · by_cases hcount : cacheEntry.shardIntervalArrayLength = 1
    · obtain ⟨shardInterval, hshards⟩ := List.length_eq_one.mp hcount
      exact .inr (.inr (.inl ⟨shardInterval,
        by simp [findShardForInsert, hreference, hcount, hshards]⟩))
    · exact .inl ⟨hreference, hcount, by simp [findShardForInsert, hreference, hcount]⟩
  obtain hcol | ⟨attno, constvalue, constisnull, hcol, hexpr⟩ := hvalue
  · exact absurd ((hinv _ _ hentry).mp hcol) hreference
  simp only [findShardForInsert, beq_iff_eq, hreference, ite_false,
    partitionColumn_of_distTable hentry, hcol, hexpr, Option.map_some', pure_bind, ok_bind]
  cases constisnull with
  | true => exact .inr (.inl rfl)
  | false =>
    simp only [Bool.false_eq_true, ite_false, pure_bind]
    split
    · exact .inr (.inr (.inl ⟨_, rfl⟩))
    · exact .inr (.inr (.inr ⟨_, rfl⟩))

theorem errorIfNoShardsExist_eq_ok {env : Env} {cacheEntry : DistTableCacheEntry}
    (h : cacheEntry.shardIntervalArrayLength ≠ 0) :
    errorIfNoShardsExist env cacheEntry = .ok () := by
  simp [errorIfNoShardsExist, h]

/-- **An INSERT routes to one shard.** -/
theorem routerInsertTaskList_outcome (env : Env) (hinv : PartitionColumnInvariant env)
    (query : Query) (hinsert : query.commandType = .insert) (cacheEntry : DistTableCacheEntry)
    (hentry : env.distTable (extractFirstDistributedTableId env query) = some cacheEntry)
    (hprune : canShardPrune env (extractFirstDistributedTableId env query) query = .ok true) :
    findShardForInsert env query cacheEntry ≠ .error nonConstantPartitionValueError ∧
    findShardForInsert env query cacheEntry ≠ .ok (none, none) ∧
    ((cacheEntry.shardIntervalArrayLength = 0 ∧
        routerInsertTaskList env query = .error (noShardsError env cacheEntry)) ∨
      routerInsertTaskList env query = .error nullPartitionValueError ∨
      (cacheEntry.partitionMethod = .distributeByNone ∧ 1 < cacheEntry.shardIntervalArrayLength ∧
        routerInsertTaskList env query =
          .error (referenceTableShardCountError cacheEntry.shardIntervalArrayLength)) ∨
      (∃ planningError, routerInsertTaskList env query = .ok ([], some planningError)) ∨
      ∃ shardInterval, findShardForInsert env query cacheEntry = .ok (some shardInterval, none) ∧
        ∃ task, routerInsertTaskList env query = .ok ([task], none) ∧
          task.taskType = .modifyTask ∧ task.anchorShardId = shardInterval.shardId) := by
  have hkey : env.distTable cacheEntry.relationId = some cacheEntry := by
    rwa [env.distTable_relationId _ _ hentry]
  have houtcome :=
    findShardForInsert_outcome hinv hkey (canShardPrune_eq_ok_true hinsert hentry hprune)
  refine ⟨?_, ?_, ?_⟩
  · rcases houtcome with ⟨-, -, h⟩ | h | ⟨_, h⟩ | ⟨_, h⟩ <;> rw [h] <;>
      simp [referenceTableShardCountError, nullPartitionValueError, nonConstantPartitionValueError]
  · rcases houtcome with ⟨-, -, h⟩ | h | ⟨_, h⟩ | ⟨_, h⟩ <;> rw [h] <;> simp
  by_cases hshards : cacheEntry.shardIntervalArrayLength = 0
  · exact .inl ⟨hshards, by
      simp only [routerInsertTaskList, distributedTableCacheEntry_eq_ok.mpr hentry,
        errorIfNoShardsExist, beq_iff_eq, pure_eq_ok, throw_eq_error, ok_bind, hshards, ↓reduceIte,
        error_bind]⟩
  simp only [routerInsertTaskList, distributedTableCacheEntry_eq_ok.mpr hentry,
    errorIfNoShardsExist_eq_ok hshards, ok_bind]
  rcases houtcome with ⟨hreference, hcount, h⟩ | h | ⟨shardInterval, h⟩ | ⟨planningError, h⟩ <;>
    rw [h]
  · exact .inr (.inr (.inl ⟨hreference, by omega, rfl⟩))
  · exact .inr (.inl rfl)
  · exact .inr (.inr (.inr (.inr ⟨shardInterval, rfl, _, rfl, rfl, rfl⟩)))
  · exact .inr (.inr (.inr (.inl ⟨planningError, rfl⟩)))

/-! ## Examples -/

theorem ordersEnv_partitionColumnInvariant : PartitionColumnInvariant ordersEnv := by
  intro relationId cacheEntry h
  dsimp only [ordersEnv] at h
  split at h <;> cases h <;> decide

/-- `INSERT INTO orders (customer_id, total) VALUES (42, 1)`; `ACL_INSERT` is 1. -/
def ordersInsert : Query where
  commandType := .insert
  rtable := [⟨.relation, 1, .relation, 1, none⟩]
  resultRelation := 1
  targetList := [⟨.const 42 false, 1, false⟩, ⟨.const 1 false, 2, false⟩]
  jointree := none
  returningList := []
  onConflict := none
  cteList := []
  hasSubLinks := false
  hasForUpdate := false

theorem routerInsertTaskList_outcome_ordersInsert :
    let cacheEntry : DistTableCacheEntry :=
      ⟨1, .distributeByHash, some 1, "customer_id", [⟨1, 10⟩, ⟨1, 11⟩], .coordinator⟩
    PartitionColumnInvariant ordersEnv ∧ ordersInsert.commandType = .insert ∧
    ordersEnv.distTable (extractFirstDistributedTableId ordersEnv ordersInsert) = some cacheEntry ∧
    canShardPrune ordersEnv (extractFirstDistributedTableId ordersEnv ordersInsert) ordersInsert =
      .ok true ∧
    findShardForInsert ordersEnv ordersInsert cacheEntry ≠ .error nonConstantPartitionValueError ∧
    findShardForInsert ordersEnv ordersInsert cacheEntry ≠ .ok (none, none) ∧
    ((cacheEntry.shardIntervalArrayLength = 0 ∧
        routerInsertTaskList ordersEnv ordersInsert = .error (noShardsError ordersEnv cacheEntry)) ∨
      routerInsertTaskList ordersEnv ordersInsert = .error nullPartitionValueError ∨
      (cacheEntry.partitionMethod = .distributeByNone ∧ 1 < cacheEntry.shardIntervalArrayLength ∧
        routerInsertTaskList ordersEnv ordersInsert =
          .error (referenceTableShardCountError cacheEntry.shardIntervalArrayLength)) ∨
      (∃ planningError, routerInsertTaskList ordersEnv ordersInsert = .ok ([], some planningError)) ∨
      ∃ shardInterval,
        findShardForInsert ordersEnv ordersInsert cacheEntry = .ok (some shardInterval, none) ∧
        ∃ task, routerInsertTaskList ordersEnv ordersInsert = .ok ([task], none) ∧
          task.taskType = .modifyTask ∧ task.anchorShardId = shardInterval.shardId) :=
  ⟨ordersEnv_partitionColumnInvariant, rfl, rfl, rfl,
    routerInsertTaskList_outcome ordersEnv ordersEnv_partitionColumnInvariant ordersInsert rfl _ rfl
      rfl⟩

/-- `INSERT INTO events (event_id) VALUES (7)`, into a table whose shards were never created. -/
def eventsInsert : Query :=
  { ordersInsert with
    rtable := [⟨.relation, 3, .relation, 1, none⟩]
    targetList := [⟨.const 7 false, 1, false⟩] }

theorem routerInsertTaskList_eventsInsert_noShards :
    PartitionColumnInvariant ordersEnv ∧ extractFirstDistributedTableId ordersEnv eventsInsert = 3 ∧
    canShardPrune ordersEnv 3 eventsInsert = .ok true ∧
    routerInsertTaskList ordersEnv eventsInsert =
      .error
        { code := .objectNotInPrerequisiteState
          message := "could not find any shards"
          detail := some "No shards exist for distributed table \"events\"."
          hint := some "Run master_create_worker_shards to create shards and try again." } :=
  ⟨ordersEnv_partitionColumnInvariant, rfl, rfl, rfl⟩

end RouterPlanner
