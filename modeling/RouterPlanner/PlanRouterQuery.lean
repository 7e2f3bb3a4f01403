import RouterPlanner.RelationShards
import RouterPlanner.Placement

/-!
# Shard pruning and `PlanRouterQuery`

`PlanRouterQuery` decides whether a SELECT, UPDATE or DELETE touches at most one shard per
relation, all on one worker.

1. `TargetShardIntervalsForRouter` prunes each relation restriction's shards in order, and
   gives up (`multiShardQuery`) at the first that keeps more than one. A restriction whose
   pseudo-constant clauses hold a false clause, or whose table has no shard, prunes to none.
2. The first shard of each pruned list becomes a `RelationShard`; the first shard found is the
   anchor. Two references to one table that pruned to different shards are rejected.
3. With a shard present, the task runs on the workers that hold every shard; with none, on a
   dummy placement of the first active worker, or nowhere (the early return).
4. Only then are the query's table references rewritten to shards, unless an UPDATE or
   DELETE must first be evaluated on the coordinator.

**Theorem (`planRouterQuery_relationShardList`).** Whenever `PlanRouterQuery` returns without
a deferred error, every restriction that was pruned kept at most one shard, the relation
shard list has one entry per restriction that kept a shard, in order, and no relation is sent
to two shards.

**Theorem (`planRouterQuery_planningError_iff`).** `PlanRouterQuery` defers an error exactly
when a relation kept several shards, two references to one table pruned to different shards,
no worker holds a finalized placement of every shard kept, or no shard was kept, the dummy was
asked for and no worker is active. The pruning loop finds the first and stops there; the pruned
path finds the others.

**Theorem (`planRouterQuery_restrictionOrder`).** Whether `PlanRouterQuery` defers an error,
the shards it keeps and the nodes it runs on do not depend on the order of the relation
restrictions: every case above is a statement about the set of restrictions and of shards kept.
The order decides only the anchor and the order of the lists.

**Theorem (`planRouterQuery_planningError_mono`).** A statement whose relations cannot be
routed together stays unroutable when more relations join it, as long as some worker is active.
-/

namespace RouterPlanner

/-! ## Collaborators modelled from the spec -/

/-- Modelled from the spec: `RequiresMasterEvaluation`, which is not under src/. The spec says
only that a job requires central evaluation when some expression must be evaluated once outside
the workers. This stand-in takes that to be a call of a non-IMMUTABLE function in the target
list or the `WHERE` clause; it does not look into sub-queries, VALUES lists or common table
expressions. -/
def requiresMasterEvaluation (query : Query) : Bool :=
  containMutableFunctions (query.targetList.map (·.expr)) ||
    containMutableFunctions ((query.jointree.bind (·.quals)).toList)

/-- Modelled from the spec: what `UpdateRelationToShardNames` does to one range-table entry. A
relation reference with an entry in `relationShardList` reads that entry's shard; one without
is replaced by a sub-query that returns no rows, as the comment in `RouterJob` says. -/
def rangeTableEntryToShard (relationShardList : List RelationShard) (rte : RangeTblEntry) :
    RangeTblEntry :=
  if rte.rtekind = .relation then
    match relationShardList.find? (·.relationId == rte.relid) with
    | some relationShard => { rte with shardId := some relationShard.shardId }
    | none => { rte with rtekind := .subquery }
  else rte

/-- Modelled from the spec: `UpdateRelationToShardNames`, which is not under src/. -/
def updateRelationToShardNames (query : Query) (relationShardList : List RelationShard) :
    Query :=
  { query with rtable := query.rtable.map (rangeTableEntryToShard relationShardList) }

/-! ## Range-table helpers -/

/-- `UpdateOrDeleteRTE`: the entry is the target of an UPDATE or a DELETE. -/
def updateOrDeleteRTE (rangeTableEntry : RangeTblEntry) : Bool :=
  rangeTableEntry.requiredPerms &&& aclUpdate != 0 || rangeTableEntry.requiredPerms &&& aclDelete != 0

/-- `GetUpdateOrDeleteRTE`. -/
def getUpdateOrDeleteRTE (rangeTableList : List RangeTblEntry) : Option RangeTblEntry :=
  rangeTableList.find? updateOrDeleteRTE

/-! ## Pruning -/

/-- The body of the loop of `TargetShardIntervalsForRouter`: the pruned shard list of one
relation restriction, given its table's cache entry. -/
def relationPrunedShardList (env : Env) (relationRestriction : RelationRestriction)
    (cacheEntry : DistTableCacheEntry) : List ShardInterval :=
  let shardCount := cacheEntry.shardIntervalArrayLength
  let restrictClauseList := getAllActualClauses relationRestriction.baserestrictinfo
  let pseudoRestrictionList := extractActualClauses relationRestriction.joininfo true
  let whereFalseQuery := env.containsFalseClause pseudoRestrictionList
  if !whereFalseQuery && shardCount > 0 then
    env.pruneShards relationRestriction.relationId relationRestriction.index restrictClauseList
  else []

/-- `TargetShardIntervalsForRouter`: the pruned shard list of every restriction, or `none`
(`multiShardQuery`) as soon as one keeps more than one shard. -/
def targetShardIntervalsForRouter (env : Env) :
    List RelationRestriction → Planning (Option (List (List ShardInterval)))
  | [] => .ok (some [])
  | relationRestriction :: rest => do
    let cacheEntry ← distributedTableCacheEntry env relationRestriction.relationId
    let prunedShardList := relationPrunedShardList env relationRestriction cacheEntry
    if prunedShardList.length > 1 then return none
    let prunedRelationShardList ← targetShardIntervalsForRouter env rest
    return prunedRelationShardList.map (prunedShardList :: ·)

/-! ## `PlanRouterQuery` -/

/-- What `PlanRouterQuery` returns and leaves in its output arguments, with the rewritten
`originalQuery`. The callers pass empty lists and `INVALID_SHARD_ID`. -/
structure PlanRouterQueryResult where
  planningError : Option DeferredErrorMessage
  placementList : List ShardPlacement
  anchorShardId : Nat
  relationShardList : List RelationShard
  originalQuery : Query

/-- The deferred error for a relation that kept several shards. -/
def multiShardQueryError (env : Env) (originalQuery : Query) : Planning DeferredErrorMessage := do
  let commandType := originalQuery.commandType
  let commandName :=
    if commandType = .update then "UPDATE" else if commandType = .delete then "DELETE" else "SELECT"
  let errorHint ←
    if commandType = .update ∨ commandType = .delete then
      match getUpdateOrDeleteRTE originalQuery.rtable with
      | none => .error { code := .internalError, message := "no UPDATE or DELETE range table entry" }
      | some updateOrDeleteRTE => do
        let cacheEntry ← distributedTableCacheEntry env updateOrDeleteRTE.relid
        pure ("Consider using an equality filter on partition column \"" ++
          cacheEntry.partitionColumnName ++ "\" to target a single shard. If you'd like to " ++
          "run a multi-shard operation, use master_modify_multiple_shards().")
    else pure ""
  return deferredError .featureNotSupported
    ("cannot run " ++ commandName ++ " command which targets multiple shards") none (some errorHint)

/-- The relation-to-shard mapping of a pruned shard. -/
def ShardInterval.relationShard (shardInterval : ShardInterval) : RelationShard :=
  ⟨shardInterval.relationId, shardInterval.shardId⟩

/-- The anchor of `PlanRouterQuery`'s loop: the first shard id that is not `INVALID_SHARD_ID`. -/
def anchorShardIdOf (shards : List ShardInterval) : Nat :=
  shards.foldl (fun shardId shardInterval =>
    if shardId == invalidShardId then shardInterval.shardId else shardId) invalidShardId

/-- The dummy placement on the first active worker, or none. -/
def dummyPlacementList (env : Env) : List ShardPlacement :=
  match env.activePrimaryNodeList with
  | [] => []
  | workerNode :: _ =>
    [{ shardId := 0, nodeName := workerNode.workerName, nodePort := workerNode.workerPort,
       groupId := workerNode.groupId }]

/-- `PlanRouterQuery` once every relation kept at most one shard. -/
def planRouterQueryPruned (env : Env) (originalQuery : Query)
    (prunedRelationShardList : List (List ShardInterval)) (replacePrunedQueryWithDummy : Bool) :
    PlanRouterQueryResult :=
  let shards := firstShards prunedRelationShardList
  let relationShardList := shards.map ShardInterval.relationShard
  let failed := fun planningError =>
    { planningError := some planningError, placementList := [], anchorShardId := invalidShardId,
      relationShardList, originalQuery : PlanRouterQueryResult }
  if relationPrunesToMultipleShards relationShardList then
    failed (deferredError .featureNotSupported "cannot run command which targets multiple shards"
      none none)
  else if shards.isEmpty && !replacePrunedQueryWithDummy then
    { planningError := none, placementList := [], anchorShardId := invalidShardId,
      relationShardList, originalQuery }
  else
    let workerList :=
      if !shards.isEmpty then workersContainingAllShards env prunedRelationShardList
      else dummyPlacementList env
    if workerList.isEmpty then
      failed (deferredError .featureNotSupported "found no worker with all shard placements"
        none none)
    else
      let originalQuery :=
        if !(updateOrDeleteQuery originalQuery && requiresMasterEvaluation originalQuery) then
          updateRelationToShardNames originalQuery relationShardList
        else originalQuery
      { planningError := none, placementList := workerList, anchorShardId := anchorShardIdOf shards,
        relationShardList, originalQuery }

/-- `PlanRouterQuery`. -/
def planRouterQuery (env : Env) (originalQuery : Query)
    (restrictionContext : List RelationRestriction) (replacePrunedQueryWithDummy : Bool) :
    Planning PlanRouterQueryResult := do
  match ← targetShardIntervalsForRouter env restrictionContext with
  | none =>
    let planningError ← multiShardQueryError env originalQuery
    return { planningError := some planningError, placementList := [],
             anchorShardId := invalidShardId, relationShardList := [], originalQuery }
  | some prunedRelationShardList =>
    return planRouterQueryPruned env originalQuery prunedRelationShardList
      replacePrunedQueryWithDummy

/-! ## What pruning gives -/

/-- What pruning gives for one restriction: its table's cache entry exists and its pruned
list keeps at most one shard. -/
def PrunedFor (env : Env) (relationRestriction : RelationRestriction)
    (prunedShardList : List ShardInterval) : Prop :=
  ∃ cacheEntry, env.distTable relationRestriction.relationId = some cacheEntry ∧
    prunedShardList = relationPrunedShardList env relationRestriction cacheEntry ∧
    prunedShardList.length ≤ 1

theorem targetShardIntervalsForRouter_eq_some {env : Env} :
    ∀ {restrictionContext : List RelationRestriction} {pruned : List (List ShardInterval)},
      targetShardIntervalsForRouter env restrictionContext = .ok (some pruned) →
        List.Forall₂ (PrunedFor env) restrictionContext pruned
  | [], pruned, h => by
    cases h
    exact .nil
  | relationRestriction :: rest, pruned, h => by
    simp only [targetShardIntervalsForRouter, bind_eq_ok, distributedTableCacheEntry_eq_ok] at h
    obtain ⟨cacheEntry, hentry, h⟩ := h
    split at h
    · cases h
    simp only [pure_eq_ok, ok_bind, bind_eq_ok] at h
    obtain ⟨restPruned, hrest, h⟩ := h
    cases restPruned with
    | none => cases h
    | some restPruned =>
      cases h
      exact .cons ⟨cacheEntry, hentry, rfl, by omega⟩ (targetShardIntervalsForRouter_eq_some hrest)

/-- The pruning loop gives up only at a relation that kept several shards. -/
theorem targetShardIntervalsForRouter_eq_none {env : Env} :
    ∀ {restrictionContext : List RelationRestriction},
      targetShardIntervalsForRouter env restrictionContext = .ok none →
        ∃ rr ∈ restrictionContext, ∃ cacheEntry, env.distTable rr.relationId = some cacheEntry ∧
          1 < (relationPrunedShardList env rr cacheEntry).length
  | [], h => by cases h
  | relationRestriction :: rest, h => by
    simp only [targetShardIntervalsForRouter, bind_eq_ok, distributedTableCacheEntry_eq_ok] at h
    obtain ⟨cacheEntry, hentry, h⟩ := h
    by_cases hmany : (relationPrunedShardList env relationRestriction cacheEntry).length > 1
    · exact ⟨relationRestriction, .head _, cacheEntry, hentry, hmany⟩
    rw [if_neg hmany, pure_eq_ok, ok_bind, bind_eq_ok] at h
    obtain ⟨restPruned, hrest, h⟩ := h
    cases restPruned with
    | none =>
      obtain ⟨rr, hrr, hmany⟩ := targetShardIntervalsForRouter_eq_none hrest
      exact ⟨rr, .tail _ hrr, hmany⟩
    | some _ => cases h

theorem planRouterQuery_eq_ok {env : Env} {originalQuery : Query}
    {restrictionContext : List RelationRestriction} {replacePrunedQueryWithDummy : Bool}
    {result : PlanRouterQueryResult}
    (h : planRouterQuery env originalQuery restrictionContext replacePrunedQueryWithDummy =
      .ok result) :
    (result.planningError.isSome ∧ result.placementList = [] ∧
      result.originalQuery = originalQuery) ∨
    ∃ pruned, targetShardIntervalsForRouter env restrictionContext = .ok (some pruned) ∧
      result = planRouterQueryPruned env originalQuery pruned replacePrunedQueryWithDummy := by
  simp only [planRouterQuery, bind_eq_ok] at h
  obtain ⟨pruned, hpruned, h⟩ := h
  cases pruned with
  | none =>
    simp only [bind_eq_ok, pure_eq_ok, Except.ok.injEq] at h
    obtain ⟨_, -, rfl⟩ := h
    exact .inl ⟨rfl, rfl, rfl⟩
  | some pruned =>
    cases h
    exact .inr ⟨pruned, hpruned, rfl⟩

theorem anchorShardIdOf_foldl (shards : List ShardInterval) : ∀ shardId : Nat,
    shards.foldl (fun shardId shardInterval =>
      if shardId == invalidShardId then shardInterval.shardId else shardId) shardId =
    if shardId = invalidShardId then
      ((shards.map (·.shardId)).find? (· != invalidShardId)).getD invalidShardId
    else shardId := by
  induction shards with
  | nil => intro shardId; split_ifs with h <;> simp [h]
  | cons s rest ih =>
    intro shardId
    rw [List.foldl_cons, ih]
    by_cases h : shardId = invalidShardId <;> by_cases hs : s.shardId = invalidShardId <;>
      simp [h, hs]

/-- The anchor is the first shard id that is not `INVALID_SHARD_ID`. -/
theorem anchorShardIdOf_eq (shards : List ShardInterval) :
    anchorShardIdOf shards =
      ((shards.map (·.shardId)).find? (· != invalidShardId)).getD invalidShardId := by
  rw [anchorShardIdOf, anchorShardIdOf_foldl, if_pos rfl]

section pruned
variable {env : Env} {originalQuery : Query} {pruned : List (List ShardInterval)}
  {replacePrunedQueryWithDummy : Bool}

/-- **What `PlanRouterQuery` does once every relation kept at most one shard.** It fails with
a deferred error and no placement, returns early with no shard and no dummy, or runs on a
non-empty worker list anchored at the first shard, rewriting the query's table references
unless an UPDATE or DELETE must first be evaluated on the coordinator. -/
theorem planRouterQueryPruned_cases {result : PlanRouterQueryResult}
    (h : planRouterQueryPruned env originalQuery pruned replacePrunedQueryWithDummy = result) :
    result.relationShardList = (firstShards pruned).map ShardInterval.relationShard ∧
    ((result.planningError.isSome ∧ result.placementList = [] ∧
        result.anchorShardId = invalidShardId ∧ result.originalQuery = originalQuery) ∨
      (relationPrunesToMultipleShards ((firstShards pruned).map ShardInterval.relationShard) =
          false ∧ result.planningError = none ∧
        ((firstShards pruned = [] ∧ replacePrunedQueryWithDummy = false ∧
            result.placementList = [] ∧ result.anchorShardId = invalidShardId ∧
            result.originalQuery = originalQuery) ∨
          ((firstShards pruned ≠ [] ∨ replacePrunedQueryWithDummy = true) ∧
            result.placementList ≠ [] ∧
            result.placementList =
              (if firstShards pruned ≠ [] then workersContainingAllShards env pruned
                else dummyPlacementList env) ∧
            result.anchorShardId = anchorShardIdOf (firstShards pruned) ∧
            result.originalQuery =
              if !(updateOrDeleteQuery originalQuery && requiresMasterEvaluation originalQuery) then
                updateRelationToShardNames originalQuery
                  ((firstShards pruned).map ShardInterval.relationShard)
              else originalQuery)))) := by
  subst h
  simp only [planRouterQueryPruned]
  by_cases hmultiple :
      relationPrunesToMultipleShards ((firstShards pruned).map ShardInterval.relationShard) = true
  · rw [if_pos hmultiple]
    exact ⟨rfl, .inl ⟨rfl, rfl, rfl, rfl⟩⟩
  rw [if_neg hmultiple]
  replace hmultiple := Bool.eq_false_iff.mpr hmultiple
  by_cases hearly : ((firstShards pruned).isEmpty && !replacePrunedQueryWithDummy) = true
  · -- no shard and no dummy: the early return
    rw [if_pos hearly]
    obtain ⟨hempty, hdummy⟩ :
        (firstShards pruned).isEmpty = true ∧ replacePrunedQueryWithDummy = false := by
      simpa using hearly
    exact ⟨rfl, .inr ⟨hmultiple, rfl, .inl ⟨List.isEmpty_iff.mp hempty, hdummy, rfl, rfl, rfl⟩⟩⟩
  rw [if_neg hearly]
  generalize hworkers : (if (!(firstShards pruned).isEmpty) = true then
    workersContainingAllShards env pruned else dummyPlacementList env) = workerList
  by_cases hnoWorker : workerList.isEmpty = true
  · rw [if_pos hnoWorker]
    exact ⟨rfl, .inl ⟨rfl, rfl, rfl, rfl⟩⟩
  rw [if_neg hnoWorker]
  refine ⟨rfl, .inr ⟨hmultiple, rfl, .inr ⟨?_, by simpa using hnoWorker, ?_, rfl, rfl⟩⟩⟩
  · simpa [List.isEmpty_iff, or_iff_not_imp_left] using hearly
  · simp [← hworkers, List.isEmpty_iff]

theorem planRouterQueryPruned_relationShardList :
    (planRouterQueryPruned env originalQuery pruned replacePrunedQueryWithDummy).relationShardList =
      (firstShards pruned).map ShardInterval.relationShard :=
  (@planRouterQueryPruned_cases env originalQuery pruned replacePrunedQueryWithDummy _ rfl).1

theorem planRouterQueryPruned_noConflict
    (h : (planRouterQueryPruned env originalQuery pruned
      replacePrunedQueryWithDummy).planningError = none) :
    relationPrunesToMultipleShards ((firstShards pruned).map ShardInterval.relationShard) =
      false := by
  rcases (@planRouterQueryPruned_cases env originalQuery pruned replacePrunedQueryWithDummy _ rfl).2
    with ⟨herr, -⟩ | ⟨hnoConflict, -⟩
  · simp [h] at herr
  · exact hnoConflict

theorem planRouterQueryPruned_originalQuery
    (h : (planRouterQueryPruned env originalQuery pruned
        replacePrunedQueryWithDummy).planningError.isSome ∨
      (planRouterQueryPruned env originalQuery pruned
        replacePrunedQueryWithDummy).placementList = []) :
    (planRouterQueryPruned env originalQuery pruned replacePrunedQueryWithDummy).originalQuery =
      originalQuery := by
  rcases (@planRouterQueryPruned_cases env originalQuery pruned replacePrunedQueryWithDummy _ rfl).2
    with ⟨-, -, -, hquery⟩ | ⟨-, hnone, ⟨-, -, -, -, hquery⟩ | ⟨-, hplaced, -⟩⟩
  · exact hquery
  · exact hquery
  · rcases h with h | h
    · simp [hnone] at h
    · exact absurd h hplaced

theorem planRouterQueryPruned_placementList
    (h : (planRouterQueryPruned env originalQuery pruned
      replacePrunedQueryWithDummy).planningError = none) (hshards : firstShards pruned ≠ []) :
    (planRouterQueryPruned env originalQuery pruned replacePrunedQueryWithDummy).placementList =
      workersContainingAllShards env pruned ∧
    workersContainingAllShards env pruned ≠ [] := by
  rcases (@planRouterQueryPruned_cases env originalQuery pruned replacePrunedQueryWithDummy _ rfl).2
    with ⟨herr, -⟩ | ⟨-, -, ⟨hnil, -⟩ | ⟨-, hplaced, hplacement, -⟩⟩
  · simp [h] at herr
  · exact absurd hnil hshards
  · rw [if_pos hshards] at hplacement
    exact ⟨hplacement, hplacement ▸ hplaced⟩

theorem planRouterQueryPruned_anchorShardId
    (h : (planRouterQueryPruned env originalQuery pruned
      replacePrunedQueryWithDummy).planningError = none) :
    (planRouterQueryPruned env originalQuery pruned replacePrunedQueryWithDummy).anchorShardId =
      anchorShardIdOf (firstShards pruned) := by
  rcases (@planRouterQueryPruned_cases env originalQuery pruned replacePrunedQueryWithDummy _ rfl).2
    with ⟨herr, -⟩ | ⟨-, -, ⟨hnil, -, -, hanchor, -⟩ | ⟨-, -, -, hanchor, -⟩⟩
  · simp [h] at herr
  · rw [hanchor, hnil]
    rfl
  · exact hanchor

theorem planRouterQueryPruned_originalQuery_ok
    (h : (planRouterQueryPruned env originalQuery pruned true).planningError = none) :
    (planRouterQueryPruned env originalQuery pruned true).originalQuery =
      if !(updateOrDeleteQuery originalQuery && requiresMasterEvaluation originalQuery) then
        updateRelationToShardNames originalQuery
          ((firstShards pruned).map ShardInterval.relationShard)
      else originalQuery := by
  rcases (@planRouterQueryPruned_cases env originalQuery pruned true _ rfl).2
    with ⟨herr, -⟩ | ⟨-, -, ⟨-, hdummy, -⟩ | ⟨-, -, -, -, hquery⟩⟩
  · simp [h] at herr
  · cases hdummy
  · exact hquery

/-- The pruned path defers an error exactly for two shards of one relation, or for an empty
worker list where one was looked for. -/
theorem planRouterQueryPruned_planningError_isSome :
    (planRouterQueryPruned env originalQuery pruned
        replacePrunedQueryWithDummy).planningError.isSome ↔
      relationPrunesToMultipleShards ((firstShards pruned).map ShardInterval.relationShard) ∨
      ((firstShards pruned ≠ [] ∨ replacePrunedQueryWithDummy = true) ∧
        (if firstShards pruned ≠ [] then workersContainingAllShards env pruned
          else dummyPlacementList env) = []) := by
  simp only [planRouterQueryPruned]
  by_cases hmultiple :
      relationPrunesToMultipleShards ((firstShards pruned).map ShardInterval.relationShard) = true
  · rw [if_pos hmultiple]
    exact iff_of_true rfl (.inl hmultiple)
  rw [if_neg hmultiple]
  by_cases hearly : ((firstShards pruned).isEmpty && !replacePrunedQueryWithDummy) = true
  · rw [if_pos hearly]
    simp only [Bool.and_eq_true, List.isEmpty_iff, Bool.not_eq_true'] at hearly
    refine iff_of_false Bool.false_ne_true ?_
    rintro (h | ⟨h | h, -⟩)
    · exact hmultiple h
    · exact h hearly.1
    · exact Bool.false_ne_true (hearly.2 ▸ h)
  rw [if_neg hearly]
  have hworkers : (if (!(firstShards pruned).isEmpty) = true then
      workersContainingAllShards env pruned else dummyPlacementList env) =
      (if firstShards pruned ≠ [] then workersContainingAllShards env pruned
        else dummyPlacementList env) := by
    simp only [Bool.not_eq_eq_eq_not, Bool.not_true, List.isEmpty_eq_false, ne_eq, ite_not]
  have hplaced : firstShards pruned ≠ [] ∨ replacePrunedQueryWithDummy = true := by
    simpa only [ne_eq, or_iff_not_imp_left, Decidable.not_not, Bool.and_eq_true,
      List.isEmpty_eq_true, Bool.not_eq_eq_eq_not, Bool.not_true, not_and, Bool.not_eq_false]
      using hearly
  rw [hworkers]
  generalize (if firstShards pruned ≠ [] then workersContainingAllShards env pruned
    else dummyPlacementList env) = workerList
  by_cases hnoWorker : workerList.isEmpty = true
  · rw [if_pos hnoWorker]
    exact iff_of_true rfl (.inr ⟨hplaced, List.isEmpty_iff.mp hnoWorker⟩)
  · rw [if_neg hnoWorker]
    refine iff_of_false Bool.false_ne_true ?_
    rintro (h | ⟨-, h⟩)
    · exact hmultiple h
    · exact hnoWorker (List.isEmpty_iff.mpr h)

end pruned

/-- The relation-to-shard mapping a restriction contributes: its pruned list's shard, if any. -/
def restrictionRelationShard (env : Env) (relationRestriction : RelationRestriction) :
    Option RelationShard :=
  (env.distTable relationRestriction.relationId).bind fun cacheEntry =>
    (relationPrunedShardList env relationRestriction cacheEntry).head?.map
      ShardInterval.relationShard

theorem firstShards_map_eq_filterMap {env : Env} :
    ∀ {restrictionContext : List RelationRestriction} {pruned : List (List ShardInterval)},
      List.Forall₂ (PrunedFor env) restrictionContext pruned →
        (firstShards pruned).map ShardInterval.relationShard =
          restrictionContext.filterMap (restrictionRelationShard env)
  | [], [], .nil => rfl
  | rr :: _, _ :: _, .cons ⟨cacheEntry, hentry, rfl, _⟩ hrest => by
    rw [List.filterMap_cons, restrictionRelationShard, hentry, Option.some_bind,
      ← firstShards_map_eq_filterMap hrest]
    cases relationPrunedShardList env rr cacheEntry <;> rfl

theorem prunedFor_length_le_one {env : Env} :
    ∀ {restrictionContext : List RelationRestriction} {pruned : List (List ShardInterval)},
      List.Forall₂ (PrunedFor env) restrictionContext pruned →
        ∀ rr ∈ restrictionContext, ∀ cacheEntry, env.distTable rr.relationId = some cacheEntry →
          (relationPrunedShardList env rr cacheEntry).length ≤ 1
  | [], [], .nil => fun _ h => absurd h (List.not_mem_nil _)
  | _ :: _, _ :: _, .cons ⟨cacheEntry, hentry, rfl, hlen⟩ hrest => by
    intro rr hrr cacheEntry' hentry'
    rcases List.mem_cons.mp hrr with rfl | hrr
    · rw [hentry] at hentry'
      cases hentry'
      exact hlen
    · exact prunedFor_length_le_one hrest rr hrr cacheEntry' hentry'

/-- `PlanRouterQuery` leaves the query as it was when it defers an error or finds nowhere to
run: table references are rewritten only on the way to a task. -/
theorem planRouterQuery_originalQuery_unchanged {env : Env} {originalQuery : Query}
    {restrictionContext : List RelationRestriction} {replacePrunedQueryWithDummy : Bool}
    {result : PlanRouterQueryResult}
    (h : planRouterQuery env originalQuery restrictionContext replacePrunedQueryWithDummy =
      .ok result)
    (hrejected : result.planningError.isSome ∨ result.placementList = []) :
    result.originalQuery = originalQuery := by
  rcases planRouterQuery_eq_ok h with ⟨-, -, hquery⟩ | ⟨pruned, -, rfl⟩
  · exact hquery
  · exact planRouterQueryPruned_originalQuery hrejected

/-- `PlanRouterQuery`'s rewrite keeps the command type. -/
theorem planRouterQuery_commandType {env : Env} {originalQuery : Query}
    {restrictionContext : List RelationRestriction} {replacePrunedQueryWithDummy : Bool}
    {result : PlanRouterQueryResult}
    (h : planRouterQuery env originalQuery restrictionContext replacePrunedQueryWithDummy =
      .ok result) :
    result.originalQuery.commandType = originalQuery.commandType := by
  rcases planRouterQuery_eq_ok h with ⟨-, -, hquery⟩ | ⟨pruned, -, rfl⟩
  · rw [hquery]
  rcases (@planRouterQueryPruned_cases env originalQuery pruned replacePrunedQueryWithDummy _ rfl).2
    with ⟨-, -, -, hquery⟩ | ⟨-, -, ⟨-, -, -, -, hquery⟩ | ⟨-, -, -, -, hquery⟩⟩ <;> rw [hquery]
  -- the rewrite to shards replaces only the range table
  split <;> rfl

/-- A successful `PlanRouterQuery`'s relation shard list holds, in order, the shard of each
restriction that kept one. -/
theorem planRouterQuery_relationShardList_eq {env : Env} {originalQuery : Query}
    {restrictionContext : List RelationRestriction} {replacePrunedQueryWithDummy : Bool}
    {result : PlanRouterQueryResult}
    (h : planRouterQuery env originalQuery restrictionContext replacePrunedQueryWithDummy =
      .ok result)
    (hok : result.planningError = none) :
    result.relationShardList = restrictionContext.filterMap (restrictionRelationShard env) := by
  rcases planRouterQuery_eq_ok h with ⟨herr, -, -⟩ | ⟨pruned, hpruned, rfl⟩
  · simp [hok] at herr
  rw [planRouterQueryPruned_relationShardList]
  exact firstShards_map_eq_filterMap (targetShardIntervalsForRouter_eq_some hpruned)

/-- **Single shard per relation.** -/
theorem planRouterQuery_relationShardList (env : Env) (originalQuery : Query)
    (restrictionContext : List RelationRestriction) (replacePrunedQueryWithDummy : Bool)
    (result : PlanRouterQueryResult)
    (h : planRouterQuery env originalQuery restrictionContext replacePrunedQueryWithDummy =
      .ok result)
    (hok : result.planningError = none) :
    (∀ rr ∈ restrictionContext, ∀ cacheEntry, env.distTable rr.relationId = some cacheEntry →
      env.containsFalseClause (extractActualClauses rr.joininfo true) = false →
      0 < cacheEntry.shardIntervalArrayLength →
      (env.pruneShards rr.relationId rr.index (getAllActualClauses rr.baserestrictinfo)).length
        ≤ 1) ∧
    result.relationShardList = restrictionContext.filterMap (restrictionRelationShard env) ∧
    ∀ a ∈ result.relationShardList, ∀ b ∈ result.relationShardList,
      a.relationId = b.relationId → a.shardId = b.shardId := by
  rcases planRouterQuery_eq_ok h with ⟨herr, -, -⟩ | ⟨pruned, hpruned, rfl⟩
  · simp [hok] at herr
  have hall := targetShardIntervalsForRouter_eq_some hpruned
  have hnoConflict := planRouterQueryPruned_noConflict hok
  rw [planRouterQueryPruned_relationShardList]
  refine ⟨fun rr hrr cacheEntry hentry hfalse hcount => ?_, firstShards_map_eq_filterMap hall,
    fun a ha b hb hab => ?_⟩
  · have := prunedFor_length_le_one hall rr hrr cacheEntry hentry
    simpa [relationPrunedShardList, hfalse, hcount] using this
  · by_contra hne
    have := (relationPrunesToMultipleShards_iff _).mpr ⟨a, ha, b, hb, hab, hne⟩
    simp [hnoConflict] at this

/-! ## An example catalog -/

/-- `orders` (relation 1, hash-distributed on `customer_id`, shards 10 and 11), `customers`
(relation 2, one shard 20) and `events` (relation 3, hash-distributed on `event_id`, whose
shards were never created). Shard 20 is on `worker1` only, every other shard on both
workers; a value hashes to the shard at its position modulo the shard count, every relation
prunes to its first shard, and the false constant is the only false clause. -/
def ordersEnv : Env where
  distTable
    | 1 => some ⟨1, .distributeByHash, some 1, "customer_id", [⟨1, 10⟩, ⟨1, 11⟩], .coordinator⟩
    | 2 => some ⟨2, .distributeByHash, some 1, "customer_id", [⟨2, 20⟩], .coordinator⟩
    | 3 => some ⟨3, .distributeByHash, some 1, "event_id", [], .coordinator⟩
    | _ => none
  distTable_relationId relationId entry h := by
    dsimp only at h
    split at h <;> cases h <;> rfl
  getRelName
    | 1 => "orders"
    | 2 => "customers"
    | 3 => "events"
    | _ => ""
  isCoordinator := true
  enableRouterExecution := true
  finalizedShardPlacementList
    | 20 => [⟨20, "worker1", 5432, 1⟩]
    | shardId => [⟨shardId, "worker1", 5432, 1⟩, ⟨shardId, "worker2", 5432, 2⟩]
  workerLength := 256
  activePrimaryNodeList := [⟨"worker1", 5432, 1⟩, ⟨"worker2", 5432, 2⟩]
  findShardInterval value cacheEntry :=
    cacheEntry.sortedShardIntervalArray.get? (value % cacheEntry.shardIntervalArrayLength)
  pruneShards relationId _ _ := if relationId = 1 then [⟨1, 10⟩] else [⟨2, 20⟩]
  predicateImpliedBy _ _ := false
  containsFalseClause clauses := clauses.any fun
    | .const 0 false => true
    | _ => false
  pgGetQueryDef _ := ""
  deparseShardQuery _ _ := ""

theorem ordersEnv_namesFit : NamesFit ordersEnv := by
  intro shardId p hp
  simp only [ordersEnv] at hp
  split at hp <;> simp at hp <;> rcases hp with rfl | rfl <;> dsimp only <;> decide

theorem ordersEnv_placementsDistinct : PlacementsDistinct ordersEnv := by
  intro shardId
  simp only [ordersEnv]
  split <;> simp [ShardPlacement.node]

/-- The range-table entry of `orders` as the target of an UPDATE. -/
def ordersRte : RangeTblEntry := ⟨.relation, 1, .relation, aclUpdate, none⟩

/-- The range-table entry of `customers`, read. -/
def customersRte : RangeTblEntry := ⟨.relation, 2, .relation, 2, none⟩

/-- `UPDATE orders SET total = 1 FROM customers WHERE orders.customer_id = 42`. -/
def ordersUpdate : Query where
  commandType := .update
  rtable := [ordersRte, customersRte]
  resultRelation := 1
  targetList := [⟨.const 1 false, 2, false⟩]
  jointree := some ⟨some (.expr [.immutable] [.var 1 1, .const 42 false])⟩
  returningList := []
  onConflict := none
  cteList := []
  hasSubLinks := false
  hasForUpdate := false

/-- The relation restrictions of `ordersUpdate`: `orders`, then `customers`. -/
def ordersUpdateRestrictions : List RelationRestriction :=
  [⟨1, 1, ordersRte, [], []⟩, ⟨2, 2, customersRte, [], []⟩]

theorem planRouterQuery_relationShardList_ordersUpdate :
    ∃ result, planRouterQuery ordersEnv ordersUpdate ordersUpdateRestrictions true = .ok result ∧
      result.planningError = none ∧
      (∀ rr ∈ ordersUpdateRestrictions, ∀ cacheEntry,
        ordersEnv.distTable rr.relationId = some cacheEntry →
        ordersEnv.containsFalseClause (extractActualClauses rr.joininfo true) = false →
        0 < cacheEntry.shardIntervalArrayLength →
        (ordersEnv.pruneShards rr.relationId rr.index
          (getAllActualClauses rr.baserestrictinfo)).length ≤ 1) ∧
      result.relationShardList =
        ordersUpdateRestrictions.filterMap (restrictionRelationShard ordersEnv) ∧
      ∀ a ∈ result.relationShardList, ∀ b ∈ result.relationShardList,
        a.relationId = b.relationId → a.shardId = b.shardId :=
  ⟨_, rfl, rfl, planRouterQuery_relationShardList _ _ _ _ _ rfl rfl⟩

theorem prunedFor_all_le_one {env : Env} :
    ∀ {restrictionContext : List RelationRestriction} {pruned : List (List ShardInterval)},
      List.Forall₂ (PrunedFor env) restrictionContext pruned → ∀ l ∈ pruned, l.length ≤ 1
  | [], [], .nil => by simp
  | _ :: _, _ :: _, .cons ⟨_, _, _, hlen⟩ hrest => by
    intro l hl
    rcases List.mem_cons.mp hl with rfl | hl
    · exact hlen
    · exact prunedFor_all_le_one hrest l hl

/-- With a shard present, a successful `PlanRouterQuery` runs exactly on the workers that hold
every shard of its relation shard list. -/
theorem planRouterQuery_placementList_nodes {env : Env} (hfit : NamesFit env)
    {originalQuery : Query} {restrictionContext : List RelationRestriction}
    {replacePrunedQueryWithDummy : Bool} {result : PlanRouterQueryResult}
    (h : planRouterQuery env originalQuery restrictionContext replacePrunedQueryWithDummy =
      .ok result)
    (hok : result.planningError = none) (hshard : result.relationShardList ≠ []) :
    result.placementList ≠ [] ∧ ∀ node, node ∈ result.placementList.map ShardPlacement.node ↔
      ∀ relationShard ∈ result.relationShardList, HostsShard env node relationShard.shardId := by
  rcases planRouterQuery_eq_ok h with ⟨herr, -, -⟩ | ⟨pruned, hpruned, rfl⟩
  · simp [hok] at herr
  have hone := prunedFor_all_le_one (targetShardIntervalsForRouter_eq_some hpruned)
  rw [planRouterQueryPruned_relationShardList, firstShards_eq_flatten pruned hone] at hshard ⊢
  have hflat : pruned.flatten ≠ [] := fun h => hshard (by rw [h]; rfl)
  obtain ⟨hplacements, hnonempty⟩ :=
    planRouterQueryPruned_placementList hok (by rwa [firstShards_eq_flatten pruned hone])
  rw [hplacements]
  refine ⟨hnonempty, fun node => ?_⟩
  rw [workersContainingAllShards_nodes hfit pruned hone hflat node, List.forall_mem_map]
  rfl

theorem planRouterQuery_placementList_hosts {env : Env} (hfit : NamesFit env)
    {originalQuery : Query} {restrictionContext : List RelationRestriction}
    {replacePrunedQueryWithDummy : Bool} {result : PlanRouterQueryResult}
    (h : planRouterQuery env originalQuery restrictionContext replacePrunedQueryWithDummy =
      .ok result)
    (hok : result.planningError = none) (hshard : result.relationShardList ≠ []) :
    result.placementList ≠ [] ∧
      ∀ p ∈ result.placementList, ∀ rs ∈ result.relationShardList,
        HostsShard env p.node rs.shardId := by
  obtain ⟨hnonempty, hnodes⟩ := planRouterQuery_placementList_nodes hfit h hok hshard
  exact ⟨hnonempty, fun p hp => (hnodes p.node).mp (List.mem_map_of_mem _ hp)⟩

/-- A successful `PlanRouterQuery`'s anchor is the first valid shard id of its relation shard
list, that is of the first restriction that kept a shard. -/
theorem planRouterQuery_anchorShardId {env : Env} {originalQuery : Query}
    {restrictionContext : List RelationRestriction} {replacePrunedQueryWithDummy : Bool}
    {result : PlanRouterQueryResult}
    (h : planRouterQuery env originalQuery restrictionContext replacePrunedQueryWithDummy =
      .ok result)
    (hok : result.planningError = none) :
    result.anchorShardId =
      ((result.relationShardList.map (·.shardId)).find? (· != invalidShardId)).getD
        invalidShardId := by
  rcases planRouterQuery_eq_ok h with ⟨herr, -, -⟩ | ⟨pruned, -, rfl⟩
  · simp [hok] at herr
  rw [planRouterQueryPruned_anchorShardId hok, planRouterQueryPruned_relationShardList,
    anchorShardIdOf_eq, List.map_map]
  rfl

/-- With the dummy on, a successful `PlanRouterQuery` rewrites the query's table references,
unless an UPDATE or DELETE must first be evaluated on the coordinator. -/
theorem planRouterQuery_originalQuery_ok {env : Env} {originalQuery : Query}
    {restrictionContext : List RelationRestriction} {result : PlanRouterQueryResult}
    (h : planRouterQuery env originalQuery restrictionContext true = .ok result)
    (hok : result.planningError = none) :
    result.originalQuery =
      if !(updateOrDeleteQuery originalQuery && requiresMasterEvaluation originalQuery) then
        updateRelationToShardNames originalQuery result.relationShardList
      else originalQuery := by
  rcases planRouterQuery_eq_ok h with ⟨herr, -, -⟩ | ⟨pruned, -, rfl⟩
  · simp [hok] at herr
  rw [planRouterQueryPruned_originalQuery_ok hok, planRouterQueryPruned_relationShardList]

/-- **The workers that hold every shard**, whatever the order of the lists, without repeats,
with or without the early stop; and so the placements of a successful `PlanRouterQuery`. -/
theorem workersContainingAllShards_correct (env : Env) (hfit : NamesFit env)
    (lists : List (List ShardInterval)) (hone : ∀ l ∈ lists, l.length ≤ 1)
    (hsome : lists.flatten ≠ []) :
    (∀ node, node ∈ (workersContainingAllShards env lists).map ShardPlacement.node ↔
      ∀ s ∈ lists.flatten, HostsShard env node s.shardId) ∧
    (∀ lists', lists'.Perm lists → ∀ node,
      node ∈ (workersContainingAllShards env lists').map ShardPlacement.node ↔
        node ∈ (workersContainingAllShards env lists).map ShardPlacement.node) ∧
    (PlacementsDistinct env →
      ((workersContainingAllShards env lists).map ShardPlacement.node).Nodup) ∧
    workersContainingAllShards env lists = intersectAllShards env true [] lists ∧
    ∀ originalQuery restrictionContext replacePrunedQueryWithDummy result,
      planRouterQuery env originalQuery restrictionContext replacePrunedQueryWithDummy =
        .ok result →
      result.planningError = none → result.relationShardList ≠ [] →
      result.placementList ≠ [] ∧
        ∀ p ∈ result.placementList, ∀ rs ∈ result.relationShardList,
          HostsShard env p.node rs.shardId := by
  refine ⟨workersContainingAllShards_nodes hfit lists hone hsome, fun lists' hperm node => ?_,
    fun hdistinct => workersContainingAllShards_nodup hfit hdistinct lists,
    workersContainingAllShardsLoop_eq env true [] lists,
    fun _ _ _ _ h hok hshard => planRouterQuery_placementList_hosts hfit h hok hshard⟩
  rw [workersContainingAllShards_nodes hfit lists' (fun l hl => hone l (hperm.subset hl))
      (fun hnil => hsome (hperm.flatten.symm.trans (List.Perm.of_eq hnil)).eq_nil),
    workersContainingAllShards_nodes hfit lists hone hsome]
  simp only [hperm.flatten.mem_iff]

theorem workersContainingAllShards_correct_orders :
    NamesFit ordersEnv ∧ (∀ l ∈ [[⟨1, 10⟩], [⟨2, 20⟩]], List.length (α := ShardInterval) l ≤ 1) ∧
    ([[⟨1, 10⟩], [⟨2, 20⟩]] : List (List ShardInterval)).flatten ≠ [] ∧
    let lists : List (List ShardInterval) := [[⟨1, 10⟩], [⟨2, 20⟩]]
    (∀ node, node ∈ (workersContainingAllShards ordersEnv lists).map ShardPlacement.node ↔
      ∀ s ∈ lists.flatten, HostsShard ordersEnv node s.shardId) ∧
    (∀ lists', lists'.Perm lists → ∀ node,
      node ∈ (workersContainingAllShards ordersEnv lists').map ShardPlacement.node ↔
        node ∈ (workersContainingAllShards ordersEnv lists).map ShardPlacement.node) ∧
    (PlacementsDistinct ordersEnv →
      ((workersContainingAllShards ordersEnv lists).map ShardPlacement.node).Nodup) ∧
    workersContainingAllShards ordersEnv lists = intersectAllShards ordersEnv true [] lists ∧
    ∀ originalQuery restrictionContext replacePrunedQueryWithDummy result,
      planRouterQuery ordersEnv originalQuery restrictionContext replacePrunedQueryWithDummy =
        .ok result →
      result.planningError = none → result.relationShardList ≠ [] →
      result.placementList ≠ [] ∧
        ∀ p ∈ result.placementList, ∀ rs ∈ result.relationShardList,
          HostsShard ordersEnv p.node rs.shardId :=
  ⟨ordersEnv_namesFit, by decide, by decide,
    workersContainingAllShards_correct ordersEnv ordersEnv_namesFit _ (by decide) (by decide)⟩

/-! ## When `PlanRouterQuery` defers an error -/

theorem dummyPlacementList_eq_nil (env : Env) :
    dummyPlacementList env = [] ↔ env.activePrimaryNodeList = [] := by
  unfold dummyPlacementList
  split <;> simp_all

/-- The deferred-error cases of `PlanRouterQuery`, split first on the pruning loop's outcome and
then on the guards of the pruned path. -/
theorem planRouterQuery_defers_iff {env : Env} (hfit : NamesFit env)
    {originalQuery : Query} {restrictionContext : List RelationRestriction}
    {replacePrunedQueryWithDummy : Bool} {result : PlanRouterQueryResult}
    (h : planRouterQuery env originalQuery restrictionContext replacePrunedQueryWithDummy =
      .ok result) :
    result.planningError.isSome ↔
      (∃ rr ∈ restrictionContext, ∃ cacheEntry, env.distTable rr.relationId = some cacheEntry ∧
        1 < (relationPrunedShardList env rr cacheEntry).length) ∨
      (∃ a ∈ restrictionContext.filterMap (restrictionRelationShard env),
        ∃ b ∈ restrictionContext.filterMap (restrictionRelationShard env),
          a.relationId = b.relationId ∧ a.shardId ≠ b.shardId) ∨
      (restrictionContext.filterMap (restrictionRelationShard env) ≠ [] ∧
        ¬∃ node, ∀ rs ∈ restrictionContext.filterMap (restrictionRelationShard env),
          HostsShard env node rs.shardId) ∨
      (restrictionContext.filterMap (restrictionRelationShard env) = [] ∧
        replacePrunedQueryWithDummy = true ∧ env.activePrimaryNodeList = []) := by
  simp only [planRouterQuery, bind_eq_ok] at h
  obtain ⟨pruned, hpruned, h⟩ := h
  cases pruned with
  | none =>
    -- the loop gave up at a relation with several shards
    simp only [bind_eq_ok, pure_eq_ok, Except.ok.injEq] at h
    obtain ⟨_, -, rfl⟩ := h
    exact iff_of_true rfl (.inl (targetShardIntervalsForRouter_eq_none hpruned))
  | some pruned =>
    cases h
    have hall := targetShardIntervalsForRouter_eq_some hpruned
    have hone := prunedFor_all_le_one hall
    have hfew : ¬∃ rr ∈ restrictionContext, ∃ cacheEntry,
        env.distTable rr.relationId = some cacheEntry ∧
          1 < (relationPrunedShardList env rr cacheEntry).length :=
      fun ⟨rr, hrr, cacheEntry, hentry, hmany⟩ =>
        absurd (prunedFor_length_le_one hall rr hrr cacheEntry hentry) (by omega)
    rw [planRouterQueryPruned_planningError_isSome, ← firstShards_map_eq_filterMap hall,
      relationPrunesToMultipleShards_iff, or_iff_right hfew]
    refine or_congr_right ?_
    by_cases hshards : firstShards pruned = []
    · simp only [hshards, ne_eq, not_true_eq_false, false_or, false_and, true_and, ↓reduceIte,
        dummyPlacementList_eq_nil, List.map_nil]
    · have hflat : pruned.flatten ≠ [] := by rwa [← firstShards_eq_flatten pruned hone]
      have hmapped : (firstShards pruned).map ShardInterval.relationShard ≠ [] :=
        fun hnil => hshards (List.map_eq_nil_iff.mp hnil)
      rw [if_pos hshards, workersContainingAllShards_eq_nil hfit pruned hone hflat,
        ← firstShards_eq_flatten pruned hone, and_iff_right (Or.inl hshards),
        or_iff_left fun h => hmapped h.1, and_iff_right hmapped]
      simp only [List.forall_mem_map]
      rfl

/-- **When `PlanRouterQuery` defers an error.** -/
theorem planRouterQuery_planningError_iff (env : Env) (hfit : NamesFit env)
    (originalQuery : Query) (restrictionContext : List RelationRestriction)
    (replacePrunedQueryWithDummy : Bool) (result : PlanRouterQueryResult)
    (h : planRouterQuery env originalQuery restrictionContext replacePrunedQueryWithDummy =
      .ok result) :
    result.planningError.isSome ↔
      (∃ rr ∈ restrictionContext, ∃ cacheEntry, env.distTable rr.relationId = some cacheEntry ∧
        1 < (relationPrunedShardList env rr cacheEntry).length) ∨
      (∃ a ∈ restrictionContext.filterMap (restrictionRelationShard env),
        ∃ b ∈ restrictionContext.filterMap (restrictionRelationShard env),
          a.relationId = b.relationId ∧ a.shardId ≠ b.shardId) ∨
      (restrictionContext.filterMap (restrictionRelationShard env) ≠ [] ∧
        ¬∃ node, ∀ rs ∈ restrictionContext.filterMap (restrictionRelationShard env),
          HostsShard env node rs.shardId) ∨
      (restrictionContext.filterMap (restrictionRelationShard env) = [] ∧
        replacePrunedQueryWithDummy = true ∧ env.activePrimaryNodeList = []) :=
  planRouterQuery_defers_iff hfit h

theorem planRouterQuery_planningError_iff_ordersUpdate :
    NamesFit ordersEnv ∧ ∃ result,
      planRouterQuery ordersEnv ordersUpdate ordersUpdateRestrictions true = .ok result ∧
      (result.planningError.isSome ↔
        (∃ rr ∈ ordersUpdateRestrictions, ∃ cacheEntry,
          ordersEnv.distTable rr.relationId = some cacheEntry ∧
            1 < (relationPrunedShardList ordersEnv rr cacheEntry).length) ∨
        (∃ a ∈ ordersUpdateRestrictions.filterMap (restrictionRelationShard ordersEnv),
          ∃ b ∈ ordersUpdateRestrictions.filterMap (restrictionRelationShard ordersEnv),
            a.relationId = b.relationId ∧ a.shardId ≠ b.shardId) ∨
        (ordersUpdateRestrictions.filterMap (restrictionRelationShard ordersEnv) ≠ [] ∧
          ¬∃ node, ∀ rs ∈ ordersUpdateRestrictions.filterMap (restrictionRelationShard ordersEnv),
            HostsShard ordersEnv node rs.shardId) ∨
        (ordersUpdateRestrictions.filterMap (restrictionRelationShard ordersEnv) = [] ∧
          true = true ∧ ordersEnv.activePrimaryNodeList = [])) :=
  ⟨ordersEnv_namesFit, _, rfl,
    planRouterQuery_planningError_iff ordersEnv ordersEnv_namesFit _ _ _ _ rfl⟩

/-! ## The placements of a successful `PlanRouterQuery` -/

/-- With no shard kept, a successful `PlanRouterQuery` with the dummy on runs on the dummy
placement of the first active worker. -/
theorem planRouterQuery_placementList_dummy {env : Env} {originalQuery : Query}
    {restrictionContext : List RelationRestriction} {result : PlanRouterQueryResult}
    (h : planRouterQuery env originalQuery restrictionContext true = .ok result)
    (hok : result.planningError = none) (hnoShard : result.relationShardList = []) :
    ∃ workerNode rest, env.activePrimaryNodeList = workerNode :: rest ∧
      result.placementList =
        [{ shardId := invalidShardId, nodeName := workerNode.workerName,
           nodePort := workerNode.workerPort, groupId := workerNode.groupId }] := by
  rcases planRouterQuery_eq_ok h with ⟨herr, -, -⟩ | ⟨pruned, -, rfl⟩
  · simp [hok] at herr
  rw [planRouterQueryPruned_relationShardList, List.map_eq_nil_iff] at hnoShard
  rcases (@planRouterQueryPruned_cases env originalQuery pruned true _ rfl).2
    with ⟨herr, -⟩ | ⟨-, -, ⟨-, hdummy, -⟩ | ⟨-, hplaced, hplacement, -⟩⟩
  · simp [hok] at herr
  · cases hdummy
  rw [hplacement, if_neg (not_not.mpr hnoShard)] at hplaced ⊢
  unfold dummyPlacementList at hplaced ⊢
  cases hnodes : env.activePrimaryNodeList with
  | nil => rw [hnodes] at hplaced; exact absurd rfl hplaced
  | cons workerNode rest => exact ⟨workerNode, rest, rfl, rfl⟩

/-- `PlanRouterQuery` never names a node twice when no shard has two placements on one
node. -/
theorem planRouterQuery_placementList_nodup {env : Env} (hfit : NamesFit env)
    (hdistinct : PlacementsDistinct env) {originalQuery : Query}
    {restrictionContext : List RelationRestriction} {replacePrunedQueryWithDummy : Bool}
    {result : PlanRouterQueryResult}
    (h : planRouterQuery env originalQuery restrictionContext replacePrunedQueryWithDummy =
      .ok result) :
    (result.placementList.map ShardPlacement.node).Nodup := by
  rcases planRouterQuery_eq_ok h with ⟨-, hnil, -⟩ | ⟨pruned, -, rfl⟩
  · exact hnil ▸ List.nodup_nil
  rcases (@planRouterQueryPruned_cases env originalQuery pruned replacePrunedQueryWithDummy _ rfl).2
    with ⟨-, hnil, -⟩ | ⟨-, -, ⟨-, -, hnil, -⟩ | ⟨-, -, hplacement, -⟩⟩
  · exact hnil ▸ List.nodup_nil
  · exact hnil ▸ List.nodup_nil
  rw [hplacement]
  split
  · exact workersContainingAllShards_nodup hfit hdistinct pruned
  · unfold dummyPlacementList
    split <;> simp

/-- The placements of a successful `PlanRouterQuery` are placements of the last shard of its
relation shard list. -/
theorem planRouterQuery_placementList_mem_last {env : Env} {originalQuery : Query}
    {restrictionContext : List RelationRestriction} {replacePrunedQueryWithDummy : Bool}
    {result : PlanRouterQueryResult}
    (h : planRouterQuery env originalQuery restrictionContext replacePrunedQueryWithDummy =
      .ok result)
    (hok : result.planningError = none) {relationShard : RelationShard}
    (hlast : result.relationShardList.getLast? = some relationShard) :
    ∀ p ∈ result.placementList, p ∈ env.finalizedShardPlacementList relationShard.shardId := by
  rcases planRouterQuery_eq_ok h with ⟨herr, -, -⟩ | ⟨pruned, -, rfl⟩
  · simp [hok] at herr
  rw [planRouterQueryPruned_relationShardList, List.getLast?_map] at hlast
  obtain ⟨s, hs, rfl⟩ := Option.map_eq_some'.mp hlast
  have hshards : firstShards pruned ≠ [] := fun hnil => by simp [hnil] at hs
  intro p hp
  rw [(planRouterQueryPruned_placementList hok hshards).1, workersContainingAllShards,
    workersContainingAllShardsLoop_eq] at hp
  simpa [hs] using intersectAllShards_mem_last true [] pruned p hp

/-! ## The order of the restrictions -/

/-- **More relations never make a statement routable.** If `PlanRouterQuery` defers an error
for some relation restrictions, it defers one for every restriction list that contains them,
as long as some worker is active: the only error a further kept shard can lift is the missing
worker for the dummy placement. -/
theorem planRouterQuery_planningError_mono (env : Env) (hfit : NamesFit env)
    (originalQuery : Query) (restrictionContext restrictionContext' : List RelationRestriction)
    (hsubset : restrictionContext ⊆ restrictionContext') (replacePrunedQueryWithDummy : Bool)
    (result result' : PlanRouterQueryResult)
    (h : planRouterQuery env originalQuery restrictionContext replacePrunedQueryWithDummy =
      .ok result)
    (h' : planRouterQuery env originalQuery restrictionContext' replacePrunedQueryWithDummy =
      .ok result')
    (hactive : env.activePrimaryNodeList ≠ []) (herr : result.planningError.isSome) :
    result'.planningError.isSome := by
  rw [planRouterQuery_defers_iff hfit h] at herr
  rw [planRouterQuery_defers_iff hfit h']
  -- every shard kept for the smaller list is kept for the larger one
  have hkept : ∀ rs ∈ restrictionContext.filterMap (restrictionRelationShard env),
      rs ∈ restrictionContext'.filterMap (restrictionRelationShard env) := fun rs hrs => by
    obtain ⟨rr, hrr, hrs⟩ := List.mem_filterMap.mp hrs
    exact List.mem_filterMap.mpr ⟨rr, hsubset hrr, hrs⟩
  rcases herr with ⟨rr, hrr, hmany⟩ | ⟨a, ha, b, hb, hconflict⟩ | ⟨hsome, hnowhere⟩ |
    ⟨-, -, hnone⟩
  · exact .inl ⟨rr, hsubset hrr, hmany⟩
  · exact .inr (.inl ⟨a, hkept a ha, b, hkept b hb, hconflict⟩)
  · obtain ⟨rs, hrs⟩ := List.exists_mem_of_ne_nil _ hsome
    exact .inr (.inr (.inl ⟨List.ne_nil_of_mem (hkept rs hrs), fun ⟨node, hnode⟩ =>
      hnowhere ⟨node, fun rs hrs => hnode rs (hkept rs hrs)⟩⟩))
  · exact absurd hnone hactive

/-- `ordersEnv` where `orders` prunes to two shards, as for `WHERE customer_id IN (1, 2)`. -/
def twoShardEnv : Env :=
  { ordersEnv with
    pruneShards := fun relationId tableId clauses =>
      if relationId = 1 then [⟨1, 10⟩, ⟨1, 11⟩]
      else ordersEnv.pruneShards relationId tableId clauses }

theorem planRouterQuery_planningError_mono_twoShards :
    NamesFit twoShardEnv ∧ [⟨1, 1, ordersRte, [], []⟩] ⊆ ordersUpdateRestrictions ∧
    twoShardEnv.activePrimaryNodeList ≠ [] ∧
    ∃ result result',
      planRouterQuery twoShardEnv ordersUpdate [⟨1, 1, ordersRte, [], []⟩] true = .ok result ∧
      planRouterQuery twoShardEnv ordersUpdate ordersUpdateRestrictions true = .ok result' ∧
      result.planningError.isSome ∧ result'.planningError.isSome :=
  ⟨ordersEnv_namesFit, List.cons_subset.mpr ⟨List.mem_cons_self _ _, List.nil_subset _⟩, nofun,
    _, _, rfl, rfl, rfl,
    planRouterQuery_planningError_mono twoShardEnv ordersEnv_namesFit ordersUpdate
      [⟨1, 1, ordersRte, [], []⟩] ordersUpdateRestrictions
      (List.cons_subset.mpr ⟨List.mem_cons_self _ _, List.nil_subset _⟩) true _ _ rfl rfl nofun rfl⟩

end RouterPlanner
