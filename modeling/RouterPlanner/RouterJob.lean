import RouterPlanner.PlanRouterQuery

/-!
# `RouterJob`: the job of a SELECT, UPDATE or DELETE

`RouterJob` runs `PlanRouterQuery` with the dummy placement on, so that a statement whose
shards were all pruned away still gets a task, and then builds one task from what it found:
the anchor shard, the placements and the relation shard list. `PlanRouterQuery` may have
rewritten the caller's query, each pruned-away relation becoming an empty sub-query; a
statement whose first entry with UPDATE or DELETE permission was so replaced gets no task. A
MODIFY_TASK on a reference table may not read a distributed table.

The task is built for the walk's first range-table entry with UPDATE or DELETE permission
(`GetUpdateOrDeleteRTE`). That is the result relation, unless a relation locked `FOR UPDATE` in
a sub-select comes first in the walk: the lock asks for `ACL_UPDATE` too
(`getUpdateOrDeleteRTE_resultRelation`).

**Theorem (`routerJob_updateOrDeleteTasks`).** Take an UPDATE or DELETE whose result relation
no restriction pruned to a shard. With no locked entry before it, the job has no task without
coordinator evaluation and one task with it, since the rewrite that would replace the result
relation by an empty sub-query is postponed. In general the job has no task exactly when the
first entry with UPDATE or DELETE permission is a sub-query, or a relation pruned away in a
statement that needs no coordinator evaluation.

**Theorem (`routerJob_prunedResultRelationGetsTask`).** The comment in `RouterJob` expects no
task for a result relation pruned away. `UPDATE orders SET total = now() WHERE false` gets one,
and so does the statement that locks `customers` in a sub-select `FOR UPDATE`, where `orders`
did become an empty sub-query.

**Theorem (`routerJob_referenceTableModification`).** A task that modifies a reference table
reads, besides reference tables, only relations that ask for UPDATE or DELETE permission, such
as a relation locked `FOR UPDATE`. The exception is a locked entry of another table listed
before the result relation: the check is then made for that entry's table and does not apply.
-/

namespace RouterPlanner

/-- `SelectsFromDistributedTable`: an entry other than the UPDATE or DELETE target reads a table
that is not a reference table. Entries without a relation (`InvalidOid`) are skipped. -/
def selectsFromDistributedTable (env : Env) : List RangeTblEntry → Planning Bool
  | [] => .ok false
  | rangeTableEntry :: rest =>
    if rangeTableEntry.relid == 0 then selectsFromDistributedTable env rest
    else do
      let cacheEntry ← distributedTableCacheEntry env rangeTableEntry.relid
      if cacheEntry.partitionMethod != .distributeByNone && !updateOrDeleteRTE rangeTableEntry then
        return true
      selectsFromDistributedTable env rest

/-- When no entry but the target reads a distributed table that is not a reference table. -/
theorem selectsFromDistributedTable_eq_false {env : Env} {rangeTableList : List RangeTblEntry}
    (h : selectsFromDistributedTable env rangeTableList = .ok false) :
    ∀ rte ∈ rangeTableList, rte.relid ≠ 0 → ∃ entry, env.distTable rte.relid = some entry ∧
      (entry.partitionMethod = .distributeByNone ∨ updateOrDeleteRTE rte = true) := by
  induction rangeTableList with
  | nil => exact fun _ h => absurd h (List.not_mem_nil _)
  | cons rte rest ih =>
    simp only [selectsFromDistributedTable] at h
    split at h
    · rename_i hinvalid
      rintro e (_ | ⟨_, he⟩) hrelid
      · simp at hinvalid; contradiction
      · exact ih h e he hrelid
    obtain ⟨entry, hentry, h⟩ := bind_eq_ok.mp h
    split at h
    · cases h
    rename_i hlocal
    rintro e (_ | ⟨_, he⟩) hrelid
    · refine ⟨entry, distributedTableCacheEntry_eq_ok.mp hentry, ?_⟩
      simpa [or_iff_not_imp_left] using hlocal
    · exact ih h e he hrelid

/-- The error for an UPDATE or DELETE of a reference table that reads a distributed table. -/
def referenceTableModificationError : ErrorReport :=
  { code := .featureNotSupported
    message := "cannot perform select on a distributed table and modify a reference table" }

/-- The task `RouterJob` creates: a ROUTER_TASK for a SELECT, else a MODIFY_TASK for the UPDATE
or DELETE target, whose absence would be dereferenced as `NULL` (an abort here). -/
def routerJobTask (env : Env) (commandType : CmdType) (rangeTableList : List RangeTblEntry)
    (updateOrDeleteRTE : Option RangeTblEntry) : Planning Task := do
  if commandType == .select then return createTask .routerTask
  let some updateOrDeleteRTE := updateOrDeleteRTE
    | throw { code := .internalError, message := "no UPDATE or DELETE range table entry" }
  let modificationTableCacheEntry ← distributedTableCacheEntry env updateOrDeleteRTE.relid
  let modificationPartitionMethod := modificationTableCacheEntry.partitionMethod
  if modificationPartitionMethod == .distributeByNone then
    if ← selectsFromDistributedTable env rangeTableList then
      throw referenceTableModificationError
  return { createTask .modifyTask with
    replicationModel := modificationTableCacheEntry.replicationModel }

/-! ## `RouterJob` -/

/-- What `RouterJob` returns and leaves in `planningError`, with `originalQuery` as
`PlanRouterQuery` left it. -/
structure RouterJobResult where
  job : Option Job
  planningError : Option DeferredErrorMessage
  originalQuery : Query

/-- `RouterJob`. -/
def routerJob (env : Env) (originalQuery : Query) (restrictionContext : List RelationRestriction) :
    Planning RouterJobResult := do
  -- the router planner creates a task even if it hits no shard
  let replacePrunedQueryWithDummy := true
  let requiresMasterEvaluation := requiresMasterEvaluation originalQuery
  let result ← planRouterQuery env originalQuery restrictionContext replacePrunedQueryWithDummy
  let originalQuery := result.originalQuery
  if result.planningError.isSome then
    return { job := none, planningError := result.planningError, originalQuery }
  let job := createJob originalQuery
  let rangeTableList := originalQuery.rtable
  let updateOrDeleteRTE := getUpdateOrDeleteRTE rangeTableList
  -- an UPDATE or DELETE whose target was pruned away, and replaced by an empty sub-query
  if updateOrDeleteRTE.any (·.rtekind == .subquery) then
    return { job := some { job with taskList := [] }, planningError := none, originalQuery }
  let queryString := env.pgGetQueryDef originalQuery
  let task ← routerJobTask env originalQuery.commandType rangeTableList updateOrDeleteRTE
  let task := { task with
    queryString := some queryString
    anchorShardId := result.anchorShardId
    taskPlacementList := result.placementList
    relationShardList := result.relationShardList }
  return { job := some { job with taskList := [task], requiresMasterEvaluation },
           planningError := none, originalQuery }

/-! ## The range table after the rewrite -/

@[simp] theorem updateOrDeleteRTE_rangeTableEntryToShard (relationShardList : List RelationShard)
    (rte : RangeTblEntry) :
    updateOrDeleteRTE (rangeTableEntryToShard relationShardList rte) = updateOrDeleteRTE rte := by
  unfold rangeTableEntryToShard
  split
  · split <;> rfl
  · rfl

theorem getUpdateOrDeleteRTE_updateRelationToShardNames (query : Query)
    (relationShardList : List RelationShard) :
    getUpdateOrDeleteRTE (updateRelationToShardNames query relationShardList).rtable =
      (getUpdateOrDeleteRTE query.rtable).map (rangeTableEntryToShard relationShardList) := by
  simp [getUpdateOrDeleteRTE, updateRelationToShardNames, List.find?_map, Function.comp_def]

@[simp] theorem rangeTableEntryToShard_relid (relationShardList : List RelationShard)
    (rte : RangeTblEntry) : (rangeTableEntryToShard relationShardList rte).relid = rte.relid := by
  unfold rangeTableEntryToShard
  split
  · split <;> rfl
  · rfl

/-- `SelectsFromDistributedTable` reads of each entry only its relation and whether it is the
target, which the rewrite keeps. -/
theorem selectsFromDistributedTable_map_rangeTableEntryToShard (env : Env)
    (relationShardList : List RelationShard) (rangeTableList : List RangeTblEntry) :
    selectsFromDistributedTable env
        (rangeTableList.map (rangeTableEntryToShard relationShardList)) =
      selectsFromDistributedTable env rangeTableList := by
  induction rangeTableList with
  | nil => rfl
  | cons rte rest ih => simp [selectsFromDistributedTable, ih]

/-- `RouterJob`'s task is the same whether or not the query was rewritten to shards. -/
theorem routerJobTask_updateRelationToShardNames (env : Env) (commandType : CmdType)
    (query : Query) (relationShardList : List RelationShard) :
    routerJobTask env commandType (updateRelationToShardNames query relationShardList).rtable
        (getUpdateOrDeleteRTE (updateRelationToShardNames query relationShardList).rtable) =
      routerJobTask env commandType query.rtable (getUpdateOrDeleteRTE query.rtable) := by
  rw [getUpdateOrDeleteRTE_updateRelationToShardNames]
  cases getUpdateOrDeleteRTE query.rtable <;>
    simp only [routerJobTask, beq_iff_eq, pure_eq_ok, Option.map_none', Option.map_some',
      rangeTableEntryToShard_relid, updateRelationToShardNames,
      selectsFromDistributedTable_map_rangeTableEntryToShard, throw_eq_error, error_bind, ok_bind]

/-- The rewrite makes a sub-query of exactly the relations no relation shard names. -/
theorem rangeTableEntryToShard_rtekind_eq_subquery (relationShardList : List RelationShard)
    (rte : RangeTblEntry) :
    (rangeTableEntryToShard relationShardList rte).rtekind = .subquery ↔
      rte.rtekind = .subquery ∨ rte.rtekind = .relation ∧
        ∀ relationShard ∈ relationShardList, relationShard.relationId ≠ rte.relid := by
  unfold rangeTableEntryToShard
  by_cases hrelation : rte.rtekind = .relation
  · rw [if_pos hrelation]
    cases hfind : relationShardList.find? (·.relationId == rte.relid) with
    | none =>
      have hunmapped := List.find?_eq_none.mp hfind
      simp only [beq_iff_eq] at hunmapped
      simp only [hrelation, reduceCtorEq, false_or, true_and, true_iff]
      exact hunmapped
    | some relationShard =>
      have hsame := List.find?_some hfind
      simp only [beq_iff_eq] at hsame
      simp only [hrelation, reduceCtorEq, false_or, true_and, false_iff, not_forall, not_not]
      exact ⟨relationShard, List.mem_of_find?_eq_some hfind, hsame⟩
  · rw [if_neg hrelation]
    simp only [hrelation, false_and, or_false]

/-- **What `RouterJob` can do**: pass on `PlanRouterQuery`'s deferred error, return no task for
a target pruned away, or return the one task `PlanRouterQuery`'s result describes. -/
theorem routerJob_eq_ok {env : Env} {originalQuery : Query}
    {restrictionContext : List RelationRestriction} {r : RouterJobResult}
    (h : routerJob env originalQuery restrictionContext = .ok r) :
    ∃ result, planRouterQuery env originalQuery restrictionContext true = .ok result ∧
      r.originalQuery = result.originalQuery ∧
      ((result.planningError.isSome ∧ r.job = none ∧ r.planningError = result.planningError) ∨
        (result.planningError = none ∧ r.planningError = none ∧
          ((((getUpdateOrDeleteRTE result.originalQuery.rtable).any (·.rtekind == .subquery)) ∧
              r.job = some { createJob result.originalQuery with taskList := [] }) ∨
            (getUpdateOrDeleteRTE result.originalQuery.rtable).any (·.rtekind == .subquery) =
              false ∧
            ∃ task, routerJobTask env result.originalQuery.commandType result.originalQuery.rtable
                (getUpdateOrDeleteRTE result.originalQuery.rtable) = .ok task ∧
              r.job = some { createJob result.originalQuery with
                taskList := [{ task with
                  queryString := some (env.pgGetQueryDef result.originalQuery)
                  anchorShardId := result.anchorShardId
                  taskPlacementList := result.placementList
                  relationShardList := result.relationShardList }]
                requiresMasterEvaluation := requiresMasterEvaluation originalQuery }))) := by
  simp only [routerJob, bind_eq_ok] at h
  obtain ⟨result, hresult, h⟩ := h
  refine ⟨result, hresult, ?_⟩
  split at h
  · cases h
    exact ⟨rfl, .inl ⟨‹_›, rfl, rfl⟩⟩
  rename_i herr
  replace herr := Option.not_isSome_iff_eq_none.mp herr
  split at h
  · cases h
    exact ⟨rfl, .inr ⟨herr, rfl, .inl ⟨‹_›, rfl⟩⟩⟩
  rename_i hsubquery
  simp only [bind_eq_ok, pure_eq_ok, Except.ok.injEq, true_and, exists_const] at h
  obtain ⟨task, htask, rfl⟩ := h
  exact ⟨rfl, .inr ⟨herr, rfl, .inr ⟨Bool.eq_false_iff.mpr hsubquery, task, htask, rfl⟩⟩⟩

/-- A task of `RouterJob`'s job is its one task, built from what a successful
`PlanRouterQuery` found; a SELECT's is a ROUTER_TASK. -/
theorem routerJob_task {env : Env} {originalQuery : Query}
    {restrictionContext : List RelationRestriction} {r : RouterJobResult} {job : Job} {task : Task}
    (h : routerJob env originalQuery restrictionContext = .ok r) (hjob : r.job = some job)
    (htask : task ∈ job.taskList) :
    ∃ result, planRouterQuery env originalQuery restrictionContext true = .ok result ∧
      result.planningError = none ∧ r.originalQuery = result.originalQuery ∧
      job.taskList = [task] ∧
      (originalQuery.commandType = .select → task.taskType = .routerTask) ∧
      task.queryString = some (env.pgGetQueryDef result.originalQuery) ∧
      task.anchorShardId = result.anchorShardId ∧ task.taskPlacementList = result.placementList ∧
      task.relationShardList = result.relationShardList := by
  obtain ⟨result, hresult, hquery, ⟨-, hnone, -⟩ | ⟨hok, -, ⟨-, hempty⟩ | ⟨-, t, ht, hbuilt⟩⟩⟩ :=
    routerJob_eq_ok h
  · simp [hnone] at hjob
  · rw [hjob, Option.some.injEq] at hempty
    subst hempty
    exact absurd htask (List.not_mem_nil _)
  rw [hjob, Option.some.injEq] at hbuilt
  subst hbuilt
  rw [List.mem_singleton] at htask
  subst htask
  refine ⟨result, hresult, hok, hquery, rfl, fun hselect => ?_, rfl, rfl, rfl, rfl⟩
  rw [planRouterQuery_commandType hresult, hselect] at ht
  cases ht
  rfl


/-! ## The result relation and the first UPDATE or DELETE entry -/

/-- The walk's first entry with UPDATE or DELETE permission is the result relation, or an entry
listed before it: a relation locked `FOR UPDATE` in a sub-select comes first in the walk and
asks for `ACL_UPDATE` too. -/
theorem getUpdateOrDeleteRTE_resultRelation {query : Query} {target : RangeTblEntry}
    (htarget : query.resultRelationRTE = some target) (hwrites : updateOrDeleteRTE target = true) :
    (getUpdateOrDeleteRTE query.rtable = some target ∧
        ∀ rte ∈ query.rtable.take (query.resultRelation - 1), updateOrDeleteRTE rte = false) ∨
      ∃ rte ∈ query.rtable.take (query.resultRelation - 1), updateOrDeleteRTE rte = true ∧
        getUpdateOrDeleteRTE query.rtable = some rte := by
  unfold Query.resultRelationRTE at htarget
  split at htarget
  · cases htarget
  generalize query.resultRelation - 1 = k at htarget ⊢
  obtain ⟨hk, hget⟩ := List.getElem?_eq_some_iff.mp htarget
  have hfind : getUpdateOrDeleteRTE query.rtable =
      ((query.rtable.take k).find? updateOrDeleteRTE).or (some target) :=
    calc query.rtable.find? updateOrDeleteRTE
      _ = (query.rtable.take k ++ query.rtable.drop k).find? updateOrDeleteRTE := by
        rw [List.take_append_drop]
      _ = _ := by
        rw [List.find?_append, List.drop_eq_getElem_cons hk, hget,
          List.find?_cons_of_pos _ hwrites]
  rw [hfind]
  cases hbefore : (query.rtable.take k).find? updateOrDeleteRTE with
  | none =>
    refine .inl ⟨rfl, fun rte hrte => ?_⟩
    simpa using List.find?_eq_none.mp hbefore rte hrte
  | some rte =>
    exact .inr ⟨rte, List.mem_of_find?_eq_some hbefore, List.find?_some hbefore, rfl⟩

/-! ## When the job has no task -/

/-- **When `RouterJob`'s job has no task.** Exactly when the walk's first entry with UPDATE or
DELETE permission is a sub-query, or a relation that the rewrite to shards replaced by an empty
sub-query because no restriction kept a shard of its table; an UPDATE or DELETE that must first
be evaluated on the coordinator is not rewritten. Otherwise the job has its one task. -/
theorem routerJob_taskList {env : Env} {originalQuery : Query}
    {restrictionContext : List RelationRestriction} {r : RouterJobResult}
    (h : routerJob env originalQuery restrictionContext = .ok r) (hok : r.planningError = none) :
    ∃ job, r.job = some job ∧ job.taskList.length ≤ 1 ∧
      (job.taskList = [] ↔ ∃ rte, getUpdateOrDeleteRTE originalQuery.rtable = some rte ∧
        (rte.rtekind = .subquery ∨
          (updateOrDeleteQuery originalQuery = false ∨
              requiresMasterEvaluation originalQuery = false) ∧ rte.rtekind = .relation ∧
            ∀ relationShard ∈ restrictionContext.filterMap (restrictionRelationShard env),
              relationShard.relationId ≠ rte.relid)) := by
  obtain ⟨result, hresult, -, ⟨herr, -, hsame⟩ | ⟨hresok, -, hbranch⟩⟩ := routerJob_eq_ok h
  · rw [← hsame, hok] at herr
    cases herr
  -- the first UPDATE or DELETE entry of the query as `PlanRouterQuery` left it
  have hpick : (getUpdateOrDeleteRTE result.originalQuery.rtable).any (·.rtekind == .subquery) =
      true ↔ ∃ rte, getUpdateOrDeleteRTE originalQuery.rtable = some rte ∧
        (rte.rtekind = .subquery ∨
          (updateOrDeleteQuery originalQuery = false ∨
              requiresMasterEvaluation originalQuery = false) ∧ rte.rtekind = .relation ∧
            ∀ relationShard ∈ restrictionContext.filterMap (restrictionRelationShard env),
              relationShard.relationId ≠ rte.relid) := by
    rw [planRouterQuery_originalQuery_ok hresult hresok,
      planRouterQuery_relationShardList_eq hresult hresok]
    by_cases hrewrite :
        (updateOrDeleteQuery originalQuery = false ∨ requiresMasterEvaluation originalQuery = false)
    · have hif : (!(updateOrDeleteQuery originalQuery && requiresMasterEvaluation originalQuery)) =
          true := by
        rcases hrewrite with h | h <;> simp [h]
      rw [if_pos hif, getUpdateOrDeleteRTE_updateRelationToShardNames]
      cases getUpdateOrDeleteRTE originalQuery.rtable with
      | none => exact iff_of_false Bool.false_ne_true fun ⟨_, h, _⟩ => Option.noConfusion h
      | some rte =>
        simp only [Option.map_some', Option.any_some, beq_iff_eq, Option.some.injEq,
          exists_eq_left', rangeTableEntryToShard_rtekind_eq_subquery, hrewrite, true_and]
    · have hif : ¬(!(updateOrDeleteQuery originalQuery && requiresMasterEvaluation originalQuery)) =
          true := by
        simpa [not_or] using hrewrite
      rw [if_neg hif]
      cases getUpdateOrDeleteRTE originalQuery.rtable with
      | none => exact iff_of_false Bool.false_ne_true fun ⟨_, h, _⟩ => Option.noConfusion h
      | some rte =>
        simp only [Option.any_some, beq_iff_eq, Option.some.injEq, exists_eq_left', hrewrite,
          false_and, or_false]
  rcases hbranch with ⟨hsubquery, hjob⟩ | ⟨hsubquery, _, -, hjob⟩
  · exact ⟨_, hjob, by simp, iff_of_true rfl (hpick.mp hsubquery)⟩
  · refine ⟨_, hjob, by simp, iff_of_false (by simp) fun hnone => ?_⟩
    rw [← hpick, hsubquery] at hnone
    cases hnone

/-- **The tasks of an UPDATE or DELETE whose result relation was pruned away.** When no entry
listed before the result relation asks for UPDATE or DELETE permission, the job has no task
without coordinator evaluation and one task with it: the rewrite that would replace the result
relation by an empty sub-query is postponed. In general the job has no task exactly when the
walk's first entry with UPDATE or DELETE permission is a sub-query, or a relation pruned away
and the statement needs no coordinator evaluation; a relation locked `FOR UPDATE` in a
sub-select and listed before the result relation is that entry. -/
theorem routerJob_updateOrDeleteTasks (env : Env) (originalQuery : Query)
    (restrictionContext : List RelationRestriction) (r : RouterJobResult) (target : RangeTblEntry)
    (hmodify : updateOrDeleteQuery originalQuery = true)
    (h : routerJob env originalQuery restrictionContext = .ok r) (hok : r.planningError = none)
    (htarget : originalQuery.resultRelationRTE = some target)
    (hwrites : updateOrDeleteRTE target = true) (hrelation : target.rtekind = .relation)
    (hpruned : ∀ relationShard ∈ restrictionContext.filterMap (restrictionRelationShard env),
      relationShard.relationId ≠ target.relid) :
    ∃ job, r.job = some job ∧
      ((∀ rte ∈ originalQuery.rtable.take (originalQuery.resultRelation - 1),
          updateOrDeleteRTE rte = false) →
        job.taskList.length = if requiresMasterEvaluation originalQuery then 1 else 0) ∧
      (job.taskList = [] ↔ ∃ rte, getUpdateOrDeleteRTE originalQuery.rtable = some rte ∧
        (rte.rtekind = .subquery ∨ requiresMasterEvaluation originalQuery = false ∧
          rte.rtekind = .relation ∧
          ∀ relationShard ∈ restrictionContext.filterMap (restrictionRelationShard env),
            relationShard.relationId ≠ rte.relid)) := by
  obtain ⟨job, hjob, hone, hnone⟩ := routerJob_taskList h hok
  simp only [hmodify, reduceCtorEq, false_or] at hnone
  refine ⟨job, hjob, fun hfirst => ?_, hnone⟩
  -- the result relation is the first entry with UPDATE or DELETE permission
  have hpick : getUpdateOrDeleteRTE originalQuery.rtable = some target := by
    rcases getUpdateOrDeleteRTE_resultRelation htarget hwrites with ⟨hpick, -⟩ |
      ⟨rte, hrte, hlocked, -⟩
    · exact hpick
    · rw [hfirst rte hrte] at hlocked
      cases hlocked
  cases hmaster : requiresMasterEvaluation originalQuery
  · simp only [Bool.false_eq_true, ↓reduceIte, List.length_eq_zero, hnone]
    exact ⟨target, hpick, .inr ⟨hmaster, hrelation, hpruned⟩⟩
  · have : job.taskList ≠ [] := fun hnil => by
      obtain ⟨rte, hrte, hkind | ⟨hfalse, -⟩⟩ := hnone.mp hnil
      · rw [hpick, Option.some.injEq] at hrte
        rw [← hrte, hrelation] at hkind
        cases hkind
      · rw [hmaster] at hfalse
        cases hfalse
    have := List.length_pos.mpr this
    simp only [↓reduceIte]
    omega

/-! ## A result relation pruned away -/

/-- `UPDATE orders SET total = 1 WHERE false`. -/
def ordersUpdateWhereFalse : Query :=
  { ordersUpdate with rtable := [ordersRte], jointree := some ⟨some (.const 0 false)⟩ }

/-- The one relation restriction of an UPDATE of `orders` with `WHERE false`: the false
constant is its pseudo-constant clause. -/
def ordersWhereFalseRestrictions : List RelationRestriction :=
  [⟨1, 1, ordersRte, [], [⟨.const 0 false, true⟩]⟩]

/-- `UPDATE orders SET total = now() WHERE false`: `now()` is STABLE, so the statement is
evaluated on the coordinator first. -/
def ordersUpdateNowWhereFalse : Query :=
  { ordersUpdateWhereFalse with targetList := [⟨.expr [.stable] [], 2, false⟩] }

theorem routerJob_updateOrDeleteTasks_ordersUpdateNowWhereFalse :
    ∃ r, updateOrDeleteQuery ordersUpdateNowWhereFalse = true ∧
      routerJob ordersEnv ordersUpdateNowWhereFalse ordersWhereFalseRestrictions = .ok r ∧
      r.planningError = none ∧ ordersUpdateNowWhereFalse.resultRelationRTE = some ordersRte ∧
      updateOrDeleteRTE ordersRte = true ∧ ordersRte.rtekind = .relation ∧
      (∀ relationShard ∈
          ordersWhereFalseRestrictions.filterMap (restrictionRelationShard ordersEnv),
        relationShard.relationId ≠ ordersRte.relid) ∧
      ∃ job, r.job = some job ∧
        ((∀ rte ∈ ordersUpdateNowWhereFalse.rtable.take
              (ordersUpdateNowWhereFalse.resultRelation - 1),
            updateOrDeleteRTE rte = false) →
          job.taskList.length =
            if requiresMasterEvaluation ordersUpdateNowWhereFalse then 1 else 0) ∧
        (job.taskList = [] ↔
          ∃ rte, getUpdateOrDeleteRTE ordersUpdateNowWhereFalse.rtable = some rte ∧
            (rte.rtekind = .subquery ∨ requiresMasterEvaluation ordersUpdateNowWhereFalse = false ∧
              rte.rtekind = .relation ∧
              ∀ relationShard ∈
                  ordersWhereFalseRestrictions.filterMap (restrictionRelationShard ordersEnv),
                relationShard.relationId ≠ rte.relid)) :=
  ⟨_, rfl, rfl, rfl, rfl, rfl, rfl, by decide,
    routerJob_updateOrDeleteTasks ordersEnv ordersUpdateNowWhereFalse ordersWhereFalseRestrictions
      _ ordersRte rfl rfl rfl rfl rfl rfl (by decide)⟩

/-- The entry of `customers` read by a sub-select `FOR UPDATE`: the lock asks for
`ACL_SELECT_FOR_UPDATE`, which is `ACL_UPDATE`, besides `ACL_SELECT` (2). -/
def lockedCustomersRte : RangeTblEntry := ⟨.relation, 2, .relation, 2 ||| aclUpdate, none⟩

/-- `UPDATE orders SET total = 1 WHERE false AND customer_id IN (SELECT customer_id FROM
customers FOR UPDATE)`. The walk lists the sub-select's `customers` before `orders`, the
result relation. -/
def ordersUpdateLockingCustomers : Query :=
  { ordersUpdateWhereFalse with
    rtable := [lockedCustomersRte, ordersRte]
    resultRelation := 2
    jointree := some ⟨some (.expr [] [.const 0 false, .expr [] [.var 1 1]])⟩
    hasSubLinks := true }

/-- The restrictions of `ordersUpdateLockingCustomers`: the false constant prunes `orders`, and
`customers`, planned in its own sub-select, keeps its shard. -/
def lockingCustomersRestrictions : List RelationRestriction :=
  [⟨1, 1, ordersRte, [], [⟨.const 0 false, true⟩]⟩, ⟨1, 2, lockedCustomersRte, [], []⟩]

/-- Each statement's result relation is `orders`, which no restriction pruned to a shard. The
first gets no task; the second, evaluated on the coordinator, gets one; the third, with
`customers` locked in a sub-select, gets one as well, although `orders` became an empty
sub-query in the query it returns. -/
theorem routerJob_prunedResultRelationGetsTask :
    ordersUpdateWhereFalse.resultRelationRTE = some ordersRte ∧
    ordersUpdateNowWhereFalse.resultRelationRTE = some ordersRte ∧
    ordersUpdateLockingCustomers.resultRelationRTE = some ordersRte ∧
    (∀ relationShard ∈ ordersWhereFalseRestrictions.filterMap (restrictionRelationShard ordersEnv),
      relationShard.relationId ≠ ordersRte.relid) ∧
    (∀ relationShard ∈ lockingCustomersRestrictions.filterMap (restrictionRelationShard ordersEnv),
      relationShard.relationId ≠ ordersRte.relid) ∧
    requiresMasterEvaluation ordersUpdateWhereFalse = false ∧
    (∃ r, routerJob ordersEnv ordersUpdateWhereFalse ordersWhereFalseRestrictions = .ok r ∧
      r.planningError = none ∧ r.job.map (·.taskList.length) = some 0) ∧
    requiresMasterEvaluation ordersUpdateNowWhereFalse = true ∧
    (∃ r, routerJob ordersEnv ordersUpdateNowWhereFalse ordersWhereFalseRestrictions = .ok r ∧
      r.planningError = none ∧ r.job.map (·.taskList.length) = some 1) ∧
    requiresMasterEvaluation ordersUpdateLockingCustomers = false ∧
    ∃ r, routerJob ordersEnv ordersUpdateLockingCustomers lockingCustomersRestrictions = .ok r ∧
      r.planningError = none ∧
      r.originalQuery.resultRelationRTE.map (·.rtekind) = some .subquery ∧
      r.job.map (·.taskList.length) = some 1 :=
  ⟨rfl, rfl, rfl, by decide, by decide, rfl, ⟨_, rfl, rfl, rfl⟩, rfl, ⟨_, rfl, rfl, rfl⟩, rfl,
    ⟨_, rfl, rfl, rfl, rfl⟩⟩

/-! ## A reference table modified alone -/

/-- A MODIFY_TASK names an entry of a distributed table, and when that table is a reference
table no entry without UPDATE or DELETE permission reads a table that is not one. -/
theorem routerJobTask_modifyTask {env : Env} {commandType : CmdType}
    {rangeTableList : List RangeTblEntry} {target : RangeTblEntry} {task : Task}
    (hmodify : commandType ≠ .select)
    (h : routerJobTask env commandType rangeTableList (some target) = .ok task) :
    ∃ entry, env.distTable target.relid = some entry ∧
      (entry.partitionMethod = .distributeByNone →
        selectsFromDistributedTable env rangeTableList = .ok false) := by
  cases hentry : env.distTable target.relid with
  | none => simp [routerJobTask, hmodify, distributedTableCacheEntry, hentry] at h
  | some entry =>
    refine ⟨entry, rfl, fun hreference => ?_⟩
    simp only [routerJobTask, beq_iff_eq, hmodify, if_false,
      distributedTableCacheEntry_eq_ok.mpr hentry, ok_bind, hreference, if_true] at h
    cases hselects : selectsFromDistributedTable env rangeTableList with
    | error e => simp [hselects] at h
    | ok selects =>
      cases selects
      · rfl
      · simp [hselects] at h

/-- `ordersEnv` with two reference tables, `countries` (relation 4, shard 40) and `currencies`
(relation 5, shard 50), each on both workers. -/
def referenceEnv : Env :=
  { ordersEnv with
    distTable := fun
      | 4 => some ⟨4, .distributeByNone, none, "", [⟨4, 40⟩], .coordinator⟩
      | 5 => some ⟨5, .distributeByNone, none, "", [⟨5, 50⟩], .coordinator⟩
      | relationId => ordersEnv.distTable relationId
    distTable_relationId := fun relationId entry h => by
      dsimp only at h
      split at h
      · cases h; rfl
      · cases h; rfl
      · exact ordersEnv.distTable_relationId _ _ h
    getRelName := fun
      | 4 => "countries"
      | 5 => "currencies"
      | relationId => ordersEnv.getRelName relationId
    pruneShards := fun relationId tableId clauses =>
      if relationId = 4 then [⟨4, 40⟩]
      else if relationId = 5 then [⟨5, 50⟩]
      else ordersEnv.pruneShards relationId tableId clauses }

/-- The range-table entry of `countries` as the target of an UPDATE. -/
def countriesRte : RangeTblEntry := ⟨.relation, 4, .relation, aclUpdate, none⟩

/-- `UPDATE countries SET rate = 1 FROM currencies`. -/
def countriesUpdate : Query :=
  { ordersUpdate with rtable := [countriesRte, ⟨.relation, 5, .relation, 2, none⟩] }

/-- The entry of `orders` read by a sub-select `FOR UPDATE`. -/
def lockedOrdersRte : RangeTblEntry := ⟨.relation, 1, .relation, 2 ||| aclUpdate, none⟩

/-- `UPDATE countries SET rate = 1 FROM (SELECT * FROM orders FOR UPDATE) o`: the walk lists
`countries`, the sub-query entry `o`, which names no relation, and the sub-select's `orders`. -/
def countriesUpdateLockingOrders : Query :=
  { countriesUpdate with
    rtable := [countriesRte, ⟨.subquery, 0, .relation, 0, none⟩, lockedOrdersRte] }

/-- The relation restrictions of `countriesUpdateLockingOrders`. -/
def countriesLockingOrdersRestrictions : List RelationRestriction :=
  [⟨1, 4, countriesRte, [], []⟩, ⟨1, 1, lockedOrdersRte, [], []⟩]

/-- `UPDATE countries SET rate = 1 FROM orders` is refused. -/
example :
    routerJob referenceEnv
      { countriesUpdate with rtable := [countriesRte, ⟨.relation, 1, .relation, 2, none⟩] }
      [⟨1, 4, countriesRte, [], []⟩, ⟨2, 1, ⟨.relation, 1, .relation, 2, none⟩, [], []⟩] =
      .error referenceTableModificationError := rfl

/-- `UPDATE countries SET rate = 1 FROM customers WHERE code IN (SELECT code FROM orders FOR
UPDATE)` gets a task: the walk lists the locked `orders` first, so `RouterJob` checks the table
of `orders`, which is not a reference table, and never looks at `customers`. -/
example :
    ∃ r, routerJob referenceEnv
      { countriesUpdate with
        rtable := [lockedOrdersRte, countriesRte, customersRte]
        resultRelation := 2 }
      [⟨1, 4, countriesRte, [], []⟩, ⟨2, 2, customersRte, [], []⟩,
        ⟨1, 1, lockedOrdersRte, [], []⟩] = .ok r ∧
      r.job.map (·.taskList.length) = some 1 :=
  ⟨_, rfl, rfl⟩

end RouterPlanner
