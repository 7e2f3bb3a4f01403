import RouterPlanner.Insert
import RouterPlanner.ModifyQuerySupported
import RouterPlanner.RouterJob

/-!
# Router plans

The entry points of the router planner.

* `CreateModifyPlan`: an INSERT, UPDATE or DELETE that `ModifyQuerySupported` accepts gets
  the job of `RouterJob` (UPDATE, DELETE) or of `RouterInsertJob` (INSERT); any deferred
  error is returned in the plan.
* `CreateRouterPlan`: a SELECT that `MultiRouterPlannableQuery` allows, and that has no
  data-modifying common table expression, gets the job of `RouterJob`, or no plan at all if
  `RouterJob` deferred an error.

Each works on the caller's query tree, which `PlanRouterQuery` rewrites in place; each
returns the tree as it leaves it.

**Theorem (`createModifyPlan_modifyTask`).** Every task of an UPDATE or DELETE plan carries the
relation shard list of the restrictions in order, is anchored at the first shard of that list,
and runs exactly on the workers that hold a finalized placement of every shard in it. A
replica of the target's shard on a worker that lacks another joined shard is not written.

**Theorem (`originalQuery_unchanged_on_rejection`).** When `PlanRouterQuery`, `CreateModifyPlan`
or `CreateSingleTaskRouterPlan` rejects a statement, the caller's query is left as it was.

**Theorem (`createRouterPlan_routerTask`).** The job of a SELECT router plan has one task,
unless the first entry of the walk with UPDATE or DELETE permission (a relation locked
`FOR UPDATE` in a sub-select) is a sub-query or was pruned away; then it has none. The task is
a ROUTER_TASK with the shard of each restriction that kept one, anchored at the first. Its
query text is the SELECT rewritten to those shards, which is also the query the plan returns.
It runs on the workers that hold every shard or, when every shard was pruned away, on a dummy
placement of the first active worker.

**Theorems (`plannedJob_placementsDistinct`, `plannedJob_placementsOfLastShard`).** Take a task
of any job the planner returns (`PlannedJob`). It names no worker twice when no shard has two
placements on one worker. Its placements are placements of the last shard in its relation shard
list, so in a join they are another relation's than the anchor's: `IntersectPlacementList`
keeps the right-hand placement of each match.
-/

namespace RouterPlanner

/-! ## Plans -/

/-- `CitusMakeNode(MultiPlan)` with its operation set: every other field is zero. -/
def makeMultiPlan (operation : CmdType) : MultiPlan where
  operation := operation
  planningError := none
  workerJob := none
  routerExecutable := false
  hasReturning := false

/-- `CreateModifyPlan`, with `originalQuery` as it is left. -/
def createModifyPlan (env : Env) (originalQuery query : Query)
    (restrictionContext : List RelationRestriction) : Planning (MultiPlan × Query) := do
  let multiPlan := makeMultiPlan query.commandType
  let multiShardQuery := false
  let planningError ← modifyQuerySupported env query multiShardQuery
  if planningError.isSome then return ({ multiPlan with planningError }, originalQuery)
  let (job, planningError, originalQuery) ←
    if updateOrDeleteQuery query then do
      let routerJobResult ← routerJob env originalQuery restrictionContext
      pure (routerJobResult.job, routerJobResult.planningError, routerJobResult.originalQuery)
    else do
      let (job, planningError) ← routerInsertJob env originalQuery query
      pure (job, planningError, originalQuery)
  if planningError.isSome then return ({ multiPlan with planningError }, originalQuery)
  return ({ multiPlan with
    workerJob := job
    routerExecutable := true
    hasReturning := !originalQuery.returningList.isEmpty }, originalQuery)

/-- `ErrorIfQueryHasModifyingCTE`: only the top-level command of each common table expression
is checked, since PostgreSQL keeps data-modifying statements at the top level. -/
def errorIfQueryHasModifyingCTE (queryTree : Query) : Option DeferredErrorMessage :=
  if queryTree.cteList.any (·.ctequeryCommandType != .select) then
    some (deferredError .featureNotSupported
      ("data-modifying statements are not supported in the WITH clauses of distributed " ++
        "queries") none none)
  else none

/-- `CreateSingleTaskRouterPlan`: the plan, or none when `RouterJob` defers an error; with
`originalQuery` as it is left. -/
def createSingleTaskRouterPlan (env : Env) (originalQuery query : Query)
    (restrictionContext : List RelationRestriction) : Planning (Option MultiPlan × Query) := do
  let multiPlan := makeMultiPlan query.commandType
  let planningError := errorIfQueryHasModifyingCTE query
  if planningError.isSome then return (some { multiPlan with planningError }, originalQuery)
  let routerJobResult ← routerJob env originalQuery restrictionContext
  -- the query cannot be handled by this planner
  if routerJobResult.planningError.isSome then return (none, routerJobResult.originalQuery)
  return (some { multiPlan with workerJob := routerJobResult.job, routerExecutable := true },
    routerJobResult.originalQuery)

/-- The loop of `MultiRouterPlannableQuery`: every relation is hash, range or reference
distributed. -/
def relationsRouterPlannable (env : Env) : List RelationRestriction → Planning Bool
  | [] => .ok true
  | relationRestriction :: rest => do
    let rte := relationRestriction.rte
    if rte.rtekind == .relation then
      let partitionMethod ← partitionMethod env rte.relid
      if !(partitionMethod == .distributeByHash || partitionMethod == .distributeByNone ||
          partitionMethod == .distributeByRange) then
        return false
    relationsRouterPlannable env rest

/-- `MultiRouterPlannableQuery`: a modification always is; a SELECT is when router execution
is on, it takes no row locks, and it reads only hash, range and reference tables. -/
def multiRouterPlannableQuery (env : Env) (query : Query)
    (restrictionContext : List RelationRestriction) : Planning Bool := do
  let commandType := query.commandType
  if commandType == .insert || commandType == .update || commandType == .delete then
    return true
  if !env.enableRouterExecution then return false
  if query.hasForUpdate then return false
  relationsRouterPlannable env restrictionContext

/-- `CreateRouterPlan`. -/
def createRouterPlan (env : Env) (originalQuery query : Query)
    (restrictionContext : List RelationRestriction) : Planning (Option MultiPlan × Query) := do
  if ← multiRouterPlannableQuery env query restrictionContext then
    createSingleTaskRouterPlan env originalQuery query restrictionContext
  else return (none, originalQuery)

/-! ## What the plans carry -/

/-- **What `CreateModifyPlan` can do**: defer an error without a job, or pass on what
`RouterJob` or `RouterInsertJob` returned. -/
theorem createModifyPlan_eq_ok {env : Env} {originalQuery query : Query}
    {restrictionContext : List RelationRestriction} {multiPlan : MultiPlan} {originalQuery' : Query}
    (h : createModifyPlan env originalQuery query restrictionContext =
      .ok (multiPlan, originalQuery')) :
    (multiPlan.planningError.isSome ∧ multiPlan.workerJob = none ∧ originalQuery' = originalQuery) ∨
    (updateOrDeleteQuery query = true ∧ ∃ routerJobResult,
      routerJob env originalQuery restrictionContext = .ok routerJobResult ∧
      originalQuery' = routerJobResult.originalQuery ∧
      ((routerJobResult.planningError.isSome ∧
          multiPlan.planningError = routerJobResult.planningError ∧ multiPlan.workerJob = none) ∨
        (routerJobResult.planningError = none ∧ multiPlan.planningError = none ∧
          multiPlan.workerJob = routerJobResult.job))) ∨
    (updateOrDeleteQuery query = false ∧ originalQuery' = originalQuery ∧
      multiPlan.planningError = none ∧
      routerInsertJob env originalQuery query = .ok (multiPlan.workerJob, none)) := by
  simp only [createModifyPlan, bind_eq_ok] at h
  obtain ⟨planningError, -, h⟩ := h
  by_cases hrejected : planningError.isSome = true
  · rw [if_pos hrejected] at h
    cases h
    exact .inl ⟨hrejected, rfl, rfl⟩
  rw [if_neg hrejected, pure_eq_ok, ok_bind] at h
  by_cases hmodify : updateOrDeleteQuery query = true
  · rw [if_pos hmodify] at h
    obtain ⟨routerJobResult, hrouterJob, h⟩ := bind_eq_ok.mp h
    refine .inr (.inl ⟨hmodify, routerJobResult, hrouterJob, ?_⟩)
    rw [pure_eq_ok, ok_bind] at h
    by_cases herr : routerJobResult.planningError.isSome = true
    · rw [if_pos herr] at h
      cases h
      exact ⟨rfl, .inl ⟨herr, rfl, rfl⟩⟩
    rw [if_neg herr] at h
    cases h
    exact ⟨rfl, .inr ⟨Option.not_isSome_iff_eq_none.mp herr, rfl, rfl⟩⟩
  rw [if_neg hmodify] at h
  obtain ⟨⟨insertJob, planningError⟩, hinsertJob, h⟩ := bind_eq_ok.mp h
  rw [pure_eq_ok, ok_bind] at h
  by_cases herr : planningError.isSome = true
  · rw [if_pos herr] at h
    cases h
    exact .inl ⟨herr, rfl, rfl⟩
  rw [if_neg herr] at h
  cases h
  obtain rfl : planningError = none := Option.not_isSome_iff_eq_none.mp herr
  exact .inr (.inr ⟨by simpa using hmodify, rfl, rfl, hinsertJob⟩)

theorem createSingleTaskRouterPlan_eq_none {env : Env} {originalQuery query : Query}
    {restrictionContext : List RelationRestriction} {originalQuery' : Query}
    (h : createSingleTaskRouterPlan env originalQuery query restrictionContext =
      .ok (none, originalQuery')) :
    ∃ routerJobResult, routerJob env originalQuery restrictionContext = .ok routerJobResult ∧
      routerJobResult.planningError.isSome ∧ originalQuery' = routerJobResult.originalQuery := by
  simp only [createSingleTaskRouterPlan, bind_eq_ok] at h
  split at h
  · cases h
  simp only [bind_eq_ok, pure_eq_ok, Except.ok.injEq, true_and, exists_const] at h
  obtain ⟨routerJobResult, hrouterJob, h⟩ := h
  split at h
  · cases h
    exact ⟨routerJobResult, hrouterJob, ‹_›, rfl⟩
  · simp at h

theorem routerJob_originalQuery_of_error {env : Env} {originalQuery : Query}
    {restrictionContext : List RelationRestriction} {r : RouterJobResult}
    (h : routerJob env originalQuery restrictionContext = .ok r) (herr : r.planningError.isSome) :
    r.originalQuery = originalQuery := by
  obtain ⟨result, hresult, hquery, ⟨hrejected, -, -⟩ | ⟨-, hnone, -⟩⟩ := routerJob_eq_ok h
  · exact hquery.trans (planRouterQuery_originalQuery_unchanged hresult (.inl hrejected))
  · simp [hnone] at herr

/-- Every task of a job `CreateModifyPlan` builds for an UPDATE or DELETE carries what
`PlanRouterQuery` found. -/
theorem createModifyPlan_task {env : Env} {originalQuery query : Query}
    {restrictionContext : List RelationRestriction} {multiPlan : MultiPlan}
    {originalQuery' : Query} {job : Job} {task : Task}
    (hmodify : updateOrDeleteQuery query = true)
    (h : createModifyPlan env originalQuery query restrictionContext =
      .ok (multiPlan, originalQuery'))
    (hjob : multiPlan.workerJob = some job) (htask : task ∈ job.taskList) :
    ∃ result, planRouterQuery env originalQuery restrictionContext true = .ok result ∧
      result.planningError = none ∧ task.anchorShardId = result.anchorShardId ∧
      task.taskPlacementList = result.placementList ∧
      task.relationShardList = result.relationShardList := by
  rcases createModifyPlan_eq_ok h with
    ⟨-, hnone, -⟩ | ⟨-, r, hr, -, ⟨-, -, hnone⟩ | ⟨-, -, hsome⟩⟩ | ⟨hinsert, -⟩
  · simp [hnone] at hjob
  · simp [hnone] at hjob
  · obtain ⟨result, hresult, -, ⟨-, hnone, -⟩ | ⟨hok, -, ⟨-, hempty⟩ | ⟨-, t, -, hjob'⟩⟩⟩ :=
      routerJob_eq_ok hr
    · rw [hsome, hnone] at hjob
      cases hjob
    · rw [hjob, hempty, Option.some.injEq] at hsome
      subst hsome
      simp at htask
    · rw [hjob, hjob', Option.some.injEq] at hsome
      subst hsome
      simp only [List.mem_singleton] at htask
      subst htask
      exact ⟨result, hresult, hok, rfl, rfl, rfl⟩
  · simp [hmodify] at hinsert

/-- **The MODIFY_TASK of an UPDATE or DELETE.** -/
theorem createModifyPlan_modifyTask (env : Env) (hfit : NamesFit env)
    (originalQuery query : Query) (restrictionContext : List RelationRestriction)
    (multiPlan : MultiPlan) (originalQuery' : Query) (job : Job) (task : Task)
    (hmodify : updateOrDeleteQuery query = true)
    (h : createModifyPlan env originalQuery query restrictionContext =
      .ok (multiPlan, originalQuery'))
    (hjob : multiPlan.workerJob = some job) (htask : task ∈ job.taskList) :
    task.relationShardList = restrictionContext.filterMap (restrictionRelationShard env) ∧
    task.anchorShardId =
      ((task.relationShardList.map (·.shardId)).find? (· != invalidShardId)).getD
        invalidShardId ∧
    (task.relationShardList ≠ [] → task.taskPlacementList ≠ [] ∧
      ∀ node, node ∈ task.taskPlacementList.map ShardPlacement.node ↔
        ∀ relationShard ∈ task.relationShardList, HostsShard env node relationShard.shardId) := by
  obtain ⟨result, hresult, hok, hanchor, hplacement, hrelationShards⟩ :=
    createModifyPlan_task hmodify h hjob htask
  rw [hanchor, hplacement, hrelationShards]
  exact ⟨planRouterQuery_relationShardList_eq hresult hok,
    planRouterQuery_anchorShardId hresult hok, planRouterQuery_placementList_nodes hfit hresult hok⟩

/-- **The caller's query is rewritten only on success.** -/
theorem originalQuery_unchanged_on_rejection (env : Env) (originalQuery query : Query)
    (restrictionContext : List RelationRestriction) :
    (∀ replacePrunedQueryWithDummy result,
      planRouterQuery env originalQuery restrictionContext replacePrunedQueryWithDummy =
        .ok result →
      result.planningError.isSome ∨ result.placementList = [] →
      result.originalQuery = originalQuery) ∧
    (∀ multiPlan originalQuery',
      createModifyPlan env originalQuery query restrictionContext =
        .ok (multiPlan, originalQuery') →
      multiPlan.planningError.isSome → originalQuery' = originalQuery) ∧
    (∀ originalQuery',
      createSingleTaskRouterPlan env originalQuery query restrictionContext =
        .ok (none, originalQuery') →
      originalQuery' = originalQuery) := by
  refine ⟨fun _ _ h hrejected => planRouterQuery_originalQuery_unchanged h hrejected,
    fun multiPlan originalQuery' h herr => ?_, fun originalQuery' h => ?_⟩
  · rcases createModifyPlan_eq_ok h with ⟨-, -, hquery⟩ |
      ⟨-, r, hr, hquery, ⟨hrejected, -⟩ | ⟨-, hnone, -⟩⟩ | ⟨-, hquery, -⟩
    · exact hquery
    · exact hquery.trans (routerJob_originalQuery_of_error hr hrejected)
    · simp [hnone] at herr
    · exact hquery
  · obtain ⟨r, hr, hrejected, hquery⟩ := createSingleTaskRouterPlan_eq_none h
    exact hquery.trans (routerJob_originalQuery_of_error hr hrejected)

/-! ## Router plans for a SELECT -/

/-- **What `CreateRouterPlan` can return as a plan**: the error for a data-modifying common
table expression without a job, or the job `RouterJob` built without error. -/
theorem createRouterPlan_eq_some {env : Env} {originalQuery query : Query}
    {restrictionContext : List RelationRestriction} {multiPlan : MultiPlan} {originalQuery' : Query}
    (h : createRouterPlan env originalQuery query restrictionContext =
      .ok (some multiPlan, originalQuery')) :
    (multiPlan.planningError.isSome ∧ multiPlan.workerJob = none ∧
        originalQuery' = originalQuery ∧ multiPlan.routerExecutable = false) ∨
    ∃ routerJobResult, routerJob env originalQuery restrictionContext = .ok routerJobResult ∧
      routerJobResult.planningError = none ∧ originalQuery' = routerJobResult.originalQuery ∧
      multiPlan.planningError = none ∧ multiPlan.workerJob = routerJobResult.job ∧
      multiPlan.routerExecutable = true := by
  simp only [createRouterPlan, bind_eq_ok] at h
  obtain ⟨plannable, -, h⟩ := h
  cases plannable with
  | false => cases h
  | true =>
    rw [if_pos rfl] at h
    simp only [createSingleTaskRouterPlan] at h
    by_cases hcte : (errorIfQueryHasModifyingCTE query).isSome = true
    · rw [if_pos hcte] at h
      cases h
      exact .inl ⟨hcte, rfl, rfl, rfl⟩
    rw [if_neg hcte, pure_eq_ok, ok_bind] at h
    obtain ⟨routerJobResult, hrouterJob, h⟩ := bind_eq_ok.mp h
    by_cases herr : routerJobResult.planningError.isSome = true
    · rw [if_pos herr] at h
      cases h
    rw [if_neg herr, pure_eq_ok, ok_bind] at h
    cases h
    exact .inr ⟨routerJobResult, hrouterJob, Option.not_isSome_iff_eq_none.mp herr, rfl, rfl, rfl,
      rfl⟩

/-- A task of a router plan's job is `RouterJob`'s one task. -/
theorem createRouterPlan_task {env : Env} {originalQuery query : Query}
    {restrictionContext : List RelationRestriction} {multiPlan : MultiPlan} {originalQuery' : Query}
    {job : Job} {task : Task}
    (h : createRouterPlan env originalQuery query restrictionContext =
      .ok (some multiPlan, originalQuery'))
    (hjob : multiPlan.workerJob = some job) (htask : task ∈ job.taskList) :
    ∃ result, planRouterQuery env originalQuery restrictionContext true = .ok result ∧
      result.planningError = none ∧ originalQuery' = result.originalQuery ∧
      job.taskList = [task] ∧
      (originalQuery.commandType = .select → task.taskType = .routerTask) ∧
      task.queryString = some (env.pgGetQueryDef result.originalQuery) ∧
      task.anchorShardId = result.anchorShardId ∧ task.taskPlacementList = result.placementList ∧
      task.relationShardList = result.relationShardList := by
  rcases createRouterPlan_eq_some h with ⟨-, hnone, -⟩ | ⟨r, hr, -, hquery, -, hjob', -⟩
  · simp [hnone] at hjob
  obtain ⟨result, hresult, hok, hquery', rest⟩ := routerJob_task hr (hjob' ▸ hjob) htask
  exact ⟨result, hresult, hok, hquery.trans hquery', rest⟩

/-- `SELECT * FROM orders WHERE customer_id = 42`. -/
def ordersSelect : Query :=
  { ordersUpdate with
    commandType := .select
    rtable := [⟨.relation, 1, .relation, 2, none⟩]
    resultRelation := 0
    targetList := [] }

/-- **The task of a SELECT router plan.** -/
theorem createRouterPlan_routerTask (env : Env) (hfit : NamesFit env)
    (originalQuery query : Query) (restrictionContext : List RelationRestriction)
    (multiPlan : MultiPlan) (originalQuery' : Query)
    (hselect : originalQuery.commandType = .select)
    (h : createRouterPlan env originalQuery query restrictionContext =
      .ok (some multiPlan, originalQuery'))
    (hok : multiPlan.planningError = none) :
    ∃ job, multiPlan.workerJob = some job ∧
      (job.taskList = [] ↔ ∃ rte, getUpdateOrDeleteRTE originalQuery.rtable = some rte ∧
        (rte.rtekind = .subquery ∨ rte.rtekind = .relation ∧
          ∀ relationShard ∈ restrictionContext.filterMap (restrictionRelationShard env),
            relationShard.relationId ≠ rte.relid)) ∧
      ∀ task ∈ job.taskList, job.taskList = [task] ∧ task.taskType = .routerTask ∧
        task.relationShardList = restrictionContext.filterMap (restrictionRelationShard env) ∧
        originalQuery' = updateRelationToShardNames originalQuery task.relationShardList ∧
        task.queryString = some (env.pgGetQueryDef originalQuery') ∧
        task.anchorShardId =
          ((task.relationShardList.map (·.shardId)).find? (· != invalidShardId)).getD
            invalidShardId ∧
        (task.relationShardList = [] →
          ∃ workerNode rest, env.activePrimaryNodeList = workerNode :: rest ∧
            task.taskPlacementList =
              [{ shardId := invalidShardId, nodeName := workerNode.workerName,
                 nodePort := workerNode.workerPort, groupId := workerNode.groupId }]) ∧
        (task.relationShardList ≠ [] → task.taskPlacementList ≠ [] ∧
          ∀ node, node ∈ task.taskPlacementList.map ShardPlacement.node ↔
            ∀ relationShard ∈ task.relationShardList,
              HostsShard env node relationShard.shardId) := by
  rcases createRouterPlan_eq_some h with ⟨herr, -⟩ | ⟨r, hr, hrok, -, -, hjob, -⟩
  · simp [hok] at herr
  -- a SELECT is always rewritten, so its job has no task only for a locked entry pruned away
  obtain ⟨job, hjob', -, hnone⟩ := routerJob_taskList hr hrok
  have hnotModify : updateOrDeleteQuery originalQuery = false := by
    simp [updateOrDeleteQuery, hselect]
  simp only [hnotModify, true_or, true_and] at hnone
  refine ⟨job, hjob.trans hjob', hnone, fun task htask => ?_⟩
  obtain ⟨result, hresult, hresok, hquery, hsingle, htype, hstring, hanchor, hplacement,
    hrelationShards⟩ := createRouterPlan_task h (hjob.trans hjob') htask
  -- a SELECT is always rewritten to its shards
  have hrewritten : result.originalQuery =
      updateRelationToShardNames originalQuery result.relationShardList := by
    rw [planRouterQuery_originalQuery_ok hresult hresok]
    simp [updateOrDeleteQuery, hselect]
  rw [hrelationShards, hanchor, hplacement, hstring, hquery, hrewritten]
  exact ⟨hsingle, htype hselect, planRouterQuery_relationShardList_eq hresult hresok, rfl, rfl,
    planRouterQuery_anchorShardId hresult hresok,
    planRouterQuery_placementList_dummy hresult hresok,
    planRouterQuery_placementList_nodes hfit hresult hresok⟩

/-- `SELECT * FROM events`: `events` has no shard, so the SELECT runs on the dummy placement. -/
def eventsSelect : Query :=
  { ordersSelect with rtable := [⟨.relation, 3, .relation, 2, none⟩] }

/-- The relation restriction of `eventsSelect`. -/
def eventsSelectRestrictions : List RelationRestriction :=
  [⟨1, 3, ⟨.relation, 3, .relation, 2, none⟩, [], []⟩]

theorem createRouterPlan_routerTask_eventsSelect :
    ∃ multiPlan originalQuery', NamesFit ordersEnv ∧ eventsSelect.commandType = .select ∧
      createRouterPlan ordersEnv eventsSelect eventsSelect eventsSelectRestrictions =
        .ok (some multiPlan, originalQuery') ∧
      multiPlan.planningError = none ∧
      ∃ job, multiPlan.workerJob = some job ∧
        (job.taskList = [] ↔ ∃ rte, getUpdateOrDeleteRTE eventsSelect.rtable = some rte ∧
          (rte.rtekind = .subquery ∨ rte.rtekind = .relation ∧
            ∀ relationShard ∈
                eventsSelectRestrictions.filterMap (restrictionRelationShard ordersEnv),
              relationShard.relationId ≠ rte.relid)) ∧
        ∀ task ∈ job.taskList, job.taskList = [task] ∧ task.taskType = .routerTask ∧
          task.relationShardList =
            eventsSelectRestrictions.filterMap (restrictionRelationShard ordersEnv) ∧
          originalQuery' = updateRelationToShardNames eventsSelect task.relationShardList ∧
          task.queryString = some (ordersEnv.pgGetQueryDef originalQuery') ∧
          task.anchorShardId =
            ((task.relationShardList.map (·.shardId)).find? (· != invalidShardId)).getD
              invalidShardId ∧
          (task.relationShardList = [] →
            ∃ workerNode rest, ordersEnv.activePrimaryNodeList = workerNode :: rest ∧
              task.taskPlacementList =
                [{ shardId := invalidShardId, nodeName := workerNode.workerName,
                   nodePort := workerNode.workerPort, groupId := workerNode.groupId }]) ∧
          (task.relationShardList ≠ [] → task.taskPlacementList ≠ [] ∧
            ∀ node, node ∈ task.taskPlacementList.map ShardPlacement.node ↔
              ∀ relationShard ∈ task.relationShardList,
                HostsShard ordersEnv node relationShard.shardId) :=
  ⟨_, _, ordersEnv_namesFit, rfl, rfl, rfl,
    createRouterPlan_routerTask ordersEnv ordersEnv_namesFit eventsSelect eventsSelect
      eventsSelectRestrictions _ _ rfl rfl rfl⟩

/-! ## Every planned job -/

/-- A job one of the router planner's entry points returns: `CreateModifyPlan` for an INSERT,
UPDATE or DELETE, `CreateRouterPlan` for a SELECT. -/
def PlannedJob (env : Env) (originalQuery query : Query)
    (restrictionContext : List RelationRestriction) (job : Job) : Prop :=
  (∃ multiPlan originalQuery',
      createModifyPlan env originalQuery query restrictionContext =
        .ok (multiPlan, originalQuery') ∧ multiPlan.workerJob = some job) ∨
    ∃ multiPlan originalQuery',
      createRouterPlan env originalQuery query restrictionContext =
        .ok (some multiPlan, originalQuery') ∧ multiPlan.workerJob = some job

/-- A task of a planned job is an INSERT's, with no placement and no relation shard, or carries
the placements and relation shards of a successful `PlanRouterQuery`. -/
theorem plannedJob_task {env : Env} {originalQuery query : Query}
    {restrictionContext : List RelationRestriction} {job : Job} {task : Task}
    (hjob : PlannedJob env originalQuery query restrictionContext job)
    (htask : task ∈ job.taskList) :
    (task.taskPlacementList = [] ∧ task.relationShardList = []) ∨
    ∃ result, planRouterQuery env originalQuery restrictionContext true = .ok result ∧
      result.planningError = none ∧ task.taskPlacementList = result.placementList ∧
      task.relationShardList = result.relationShardList := by
  rcases hjob with ⟨multiPlan, _, h, hjob⟩ | ⟨multiPlan, _, h, hjob⟩
  · by_cases hmodify : updateOrDeleteQuery query = true
    · obtain ⟨result, hresult, hok, -, hplacement, hrelationShards⟩ :=
        createModifyPlan_task hmodify h hjob htask
      exact .inr ⟨result, hresult, hok, hplacement, hrelationShards⟩
    rcases createModifyPlan_eq_ok h with ⟨-, hnone, -⟩ | ⟨hmodify', -⟩ | ⟨-, -, -, hinsertJob⟩
    · simp [hnone] at hjob
    · exact absurd hmodify' hmodify
    · rw [hjob] at hinsertJob
      exact .inl (routerInsertJob_task hinsertJob htask)
  · obtain ⟨result, hresult, hok, -, -, -, -, -, hplacement, hrelationShards⟩ :=
      createRouterPlan_task h hjob htask
    exact .inr ⟨result, hresult, hok, hplacement, hrelationShards⟩

/-- **No worker twice.** -/
theorem plannedJob_placementsDistinct (env : Env) (hfit : NamesFit env)
    (hdistinct : PlacementsDistinct env) (originalQuery query : Query)
    (restrictionContext : List RelationRestriction) (job : Job)
    (hjob : PlannedJob env originalQuery query restrictionContext job) (task : Task)
    (htask : task ∈ job.taskList) :
    (task.taskPlacementList.map ShardPlacement.node).Nodup := by
  rcases plannedJob_task hjob htask with ⟨hnil, -⟩ | ⟨result, hresult, -, hplacement, -⟩
  · exact hnil ▸ List.nodup_nil
  · exact hplacement ▸ planRouterQuery_placementList_nodup hfit hdistinct hresult

theorem plannedJob_placementsDistinct_ordersUpdate :
    ∃ job task, NamesFit ordersEnv ∧ PlacementsDistinct ordersEnv ∧
      PlannedJob ordersEnv ordersUpdate ordersUpdate ordersUpdateRestrictions job ∧
      task ∈ job.taskList ∧ (task.taskPlacementList.map ShardPlacement.node).Nodup :=
  ⟨_, _, ordersEnv_namesFit, ordersEnv_placementsDistinct, .inl ⟨_, _, rfl, rfl⟩,
    List.mem_singleton_self _,
    plannedJob_placementsDistinct ordersEnv ordersEnv_namesFit ordersEnv_placementsDistinct
      ordersUpdate ordersUpdate ordersUpdateRestrictions _ (.inl ⟨_, _, rfl, rfl⟩) _
      (List.mem_singleton_self _)⟩

/-- **The placements are the last shard's.** -/
theorem plannedJob_placementsOfLastShard (env : Env) (originalQuery query : Query)
    (restrictionContext : List RelationRestriction) (job : Job)
    (hjob : PlannedJob env originalQuery query restrictionContext job) (task : Task)
    (htask : task ∈ job.taskList) (relationShard : RelationShard)
    (hlast : task.relationShardList.getLast? = some relationShard) :
    ∀ p ∈ task.taskPlacementList, p ∈ env.finalizedShardPlacementList relationShard.shardId := by
  rcases plannedJob_task hjob htask with ⟨-, hnil⟩ | ⟨result, hresult, hok, hplacement, hrel⟩
  · cases hnil ▸ hlast
  · exact hplacement ▸ planRouterQuery_placementList_mem_last hresult hok (hrel ▸ hlast)

/-- `ordersUpdate`'s task is anchored at the `orders` shard 10 and runs on placements of the
joined `customers` shard 20. -/
theorem plannedJob_placementsOfLastShard_ordersUpdate :
    ∃ job task, PlannedJob ordersEnv ordersUpdate ordersUpdate ordersUpdateRestrictions job ∧
      task ∈ job.taskList ∧ task.anchorShardId = 10 ∧
      task.relationShardList.getLast? = some ⟨2, 20⟩ ∧
      ∀ p ∈ task.taskPlacementList, p ∈ ordersEnv.finalizedShardPlacementList 20 :=
  ⟨_, _, .inl ⟨_, _, rfl, rfl⟩, List.mem_singleton_self _, rfl, rfl,
    plannedJob_placementsOfLastShard ordersEnv ordersUpdate ordersUpdate ordersUpdateRestrictions _
      (.inl ⟨_, _, rfl, rfl⟩) _ (List.mem_singleton_self _) ⟨2, 20⟩ rfl⟩

/-! ## Examples -/

theorem createModifyPlan_modifyTask_ordersUpdate :
    ∃ multiPlan originalQuery' job task,
      createModifyPlan ordersEnv ordersUpdate ordersUpdate ordersUpdateRestrictions =
        .ok (multiPlan, originalQuery') ∧
      multiPlan.workerJob = some job ∧ task ∈ job.taskList ∧
      NamesFit ordersEnv ∧ updateOrDeleteQuery ordersUpdate = true ∧
      task.relationShardList = ordersUpdateRestrictions.filterMap (restrictionRelationShard ordersEnv) ∧
      task.anchorShardId =
        ((task.relationShardList.map (·.shardId)).find? (· != invalidShardId)).getD
          invalidShardId ∧
      (task.relationShardList ≠ [] → task.taskPlacementList ≠ [] ∧
        ∀ node, node ∈ task.taskPlacementList.map ShardPlacement.node ↔
          ∀ relationShard ∈ task.relationShardList,
            HostsShard ordersEnv node relationShard.shardId) :=
  ⟨_, _, _, _, rfl, rfl, List.mem_singleton_self _, ordersEnv_namesFit, rfl,
    createModifyPlan_modifyTask ordersEnv ordersEnv_namesFit ordersUpdate ordersUpdate
      ordersUpdateRestrictions _ _ _ _ rfl rfl rfl (List.mem_singleton_self _)⟩

/-- `ordersUpdate` modifies `orders`, pruned to shard 10, which `worker2` holds; the task
does not run on `worker2`, which lacks the joined `customers` shard 20. With the restrictions
in the other order the task is anchored at shard 20. -/
theorem createModifyPlan_ordersUpdate_missesReplica :
    (∃ multiPlan originalQuery' job task,
      createModifyPlan ordersEnv ordersUpdate ordersUpdate ordersUpdateRestrictions =
        .ok (multiPlan, originalQuery') ∧
      multiPlan.workerJob = some job ∧ job.taskList = [task] ∧ task.taskType = .modifyTask ∧
      ordersUpdateRestrictions.head?.bind (restrictionRelationShard ordersEnv) = some ⟨1, 10⟩ ∧
      task.anchorShardId = 10 ∧ HostsShard ordersEnv ("worker2", 5432) 10 ∧
      ("worker2", 5432) ∉ task.taskPlacementList.map ShardPlacement.node) ∧
    ∃ multiPlan originalQuery' job task,
      createModifyPlan ordersEnv ordersUpdate ordersUpdate ordersUpdateRestrictions.reverse =
        .ok (multiPlan, originalQuery') ∧
      multiPlan.workerJob = some job ∧ job.taskList = [task] ∧ task.taskType = .modifyTask ∧
      task.anchorShardId = 20 :=
  ⟨⟨_, _, _, _, rfl, rfl, rfl, rfl, rfl, rfl, ⟨⟨10, "worker2", 5432, 2⟩, by decide, rfl⟩,
    by decide⟩, ⟨_, _, _, _, rfl, rfl, rfl, rfl, rfl⟩⟩

end RouterPlanner
