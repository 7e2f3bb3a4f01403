import RouterPlanner.Irreducible
import RouterPlanner.PlanRouterQuery

/-!
# Which modifications the router supports

`ModifyQuerySupported` rejects an INSERT, UPDATE or DELETE that the router cannot run on one
shard: sub-queries (but in a single-shard UPDATE or DELETE), common table expressions, views,
reference tables modified away from the coordinator, joins (again but in a single-shard
UPDATE or DELETE), multi-row INSERTs, functions whose value may differ between replicas, and
changes to the partition column.

Each rejection is an early `return DeferredError(...)`; here it is the `.error` of an
`Except DeferredErrorMessage` computation, and `modifyQuerySupported` returns it as `some`.

**The partition column.** An UPDATE's SET entry on the partition column is accepted when
`TargetEntryChangesValue` is false: the value is a column with the partition column's
attribute number, or a constant the `WHERE` clause implies. The column's range-table entry is
not compared, so `SET key = other_table.key` passes (`modifyQuerySupported_setFromJoinedKey`).

**Theorem (`modifyQuerySupported_partitionColumnAssignments`).** What an accepted modification
assigns to the partition column: in an UPDATE, such a column or an implied constant; in an
INSERT's `ON CONFLICT DO UPDATE SET` list without repeated columns, such a column.

**Theorem (`modifyQuerySupported_functions`).** Which functions an accepted modification may
call in the clauses `ModifyQuerySupported` checks: none VOLATILE in an UPDATE's SET list or in
the top-level `WHERE` qualifiers, only IMMUTABLE ones in `RETURNING`, in the `ON CONFLICT`
qualifiers and in the `DO UPDATE SET` entries that are not columns. A `JOIN ... ON` qualifier
and a function in `FROM` are not checked, and `FromExpr` and `RangeTblEntry` here do not hold
them.

**Theorem (`modifyQuerySupported_reducible`).** What an accepted modification leaves to the
workers: no SET entry of an UPDATE and no `WHERE` qualifier on which the walk of
`MasterIrreducibleExpression` answers true (which misses what sits inside a COALESCE, see
`masterIrreducibleExpression_stableOverCoalescedColumn`).

All three follow from one lemma per loop and per check (`targetListSupported_ok`,
`onConflictSetSupported_ok`, `dmlExpressionsSupported_ok`, `modifyExpressionsSupported_ok`,
`modifyQuerySupported_eq_none`), each stated beside its definition.

**Theorem (`masterIrreducibleExpression_flagsFollowVerdict`).** `hasVarArgument` and
`hasBadCoalesce` follow the walk of `MasterIrreducibleExpression`: a walk that answers true
raises one of them, one that answers false leaves both alone. Once the target list and the
`WHERE` clause pass their VOLATILE checks, the statement is rejected for a flag exactly when the
walk answered true on a SET entry of an UPDATE or on the qualifiers. The loop's part is
`targetListSupported_raised`.
-/

namespace RouterPlanner

/-- An early `return` of a deferred error. -/
abbrev Check := Except DeferredErrorMessage

/-- Modelled from the spec: `WhereClauseList`, which is not under src/. The join tree's
qualifiers as a clause list; `predicate_implied_by` reads an AND as its conjuncts, so how the
clauses are split does not change its answer. -/
def whereClauseList (joinTree : Option FromExpr) : List Node :=
  (joinTree.bind (·.quals)).toList

/-- `TargetEntryChangesValue`: the entry may change `column`'s value. `column = value` is built
as `MakeOpExpression` builds it, an IMMUTABLE equality operator over the column and the
constant. -/
def targetEntryChangesValue (env : Env) (targetEntry : TargetEntry) (column : Var)
    (joinTree : Option FromExpr) : Bool :=
  if targetEntry.resno != column.varattno then false
  else match targetEntry.expr with
    | .var _ varattno => varattno != column.varattno
    | .const constvalue constisnull =>
      let restrictClauseList := whereClauseList joinTree
      let equalityExpr := Node.expr [.immutable] [column.toNode, .const constvalue constisnull]
      !env.predicateImpliedBy [equalityExpr] restrictClauseList
    | _ => true

/-- An entry on the column leaves its value alone exactly when it assigns a column with the
same attribute number, or a constant that the `WHERE` clause implies. -/
theorem targetEntryChangesValue_eq_false {env : Env} {targetEntry : TargetEntry} {column : Var}
    {joinTree : Option FromExpr} (hresno : targetEntry.resno = column.varattno) :
    targetEntryChangesValue env targetEntry column joinTree = false ↔
      (∃ varno, targetEntry.expr = .var varno column.varattno) ∨
      ∃ constvalue constisnull, targetEntry.expr = .const constvalue constisnull ∧
        env.predicateImpliedBy [.expr [.immutable] [column.toNode, .const constvalue constisnull]]
          (whereClauseList joinTree) = true := by
  unfold targetEntryChangesValue
  cases hexpr : targetEntry.expr <;>
    simp [hresno, hexpr, and_assoc, exists_and_left, exists_eq_left', -Bool.exists_bool]

/-! ## The range table -/

/-- The error detail for a range-table entry of a kind the router does not modify through. -/
def rangeTableEntryErrorDetail : RTEKind → String
  | .subquery => "Subqueries are not supported in distributed modifications."
  | .join => "Joins are not supported in distributed modifications."
  | .function => "Functions must not appear in the FROM clause of a distributed modifications."
  | _ => "Unrecognized range table entry."

/-- The loop of `ModifyQuerySupported` over the range-table entries, counting the relations
(`queryTableCount`) and noting a VALUES list (`hasValuesScan`). -/
def rangeTableEntriesSupported (env : Env) (queryTree : Query) (multiShardQuery : Bool) :
    List RangeTblEntry → Nat → Bool → Planning (Check (Nat × Bool))
  | [], queryTableCount, hasValuesScan => .ok (.ok (queryTableCount, hasValuesScan))
  | rangeTableEntry :: rest, queryTableCount, hasValuesScan =>
    match rangeTableEntry.rtekind with
    | .relation => do
      let distTableEntry ← distributedTableCacheEntry env rangeTableEntry.relid
      let referenceTable := distTableEntry.partitionMethod == .distributeByNone
      if referenceTable && !env.isCoordinator then
        return .error (deferredError .featureNotSupported
          "cannot perform distributed planning for the given modification"
          (some "Modifications to reference tables are supported only from the coordinator.") none)
      if rangeTableEntry.relkind == .view then
        return .error (deferredError .featureNotSupported
          "cannot modify views over distributed tables" none none)
      rangeTableEntriesSupported env queryTree multiShardQuery rest (queryTableCount + 1)
        hasValuesScan
    | .values => rangeTableEntriesSupported env queryTree multiShardQuery rest queryTableCount true
    | rtekind =>
      if updateOrDeleteQuery queryTree && !multiShardQuery then
        rangeTableEntriesSupported env queryTree multiShardQuery rest queryTableCount hasValuesScan
      else
        .ok (.error (deferredError .featureNotSupported
          "cannot perform distributed planning for the given modifications"
          (some (rangeTableEntryErrorDetail rtekind)) none))

/-! ## Expressions -/

/-- The flags of the target-list loop: `specifiesPartitionValue`, `hasVarArgument`,
`hasBadCoalesce`. -/
structure ModifyFlags where
  specifiesPartitionValue : Bool
  hasVarArgument : Bool
  hasBadCoalesce : Bool

/-- The loop of `ModifyQuerySupported` over the target list. -/
def targetListSupported (env : Env) (queryTree : Query) (partitionColumn : Option Var) :
    List TargetEntry → ModifyFlags → Check ModifyFlags
  | [], flags => .ok flags
  | targetEntry :: rest, flags =>
    let commandType := queryTree.commandType
    if targetEntry.resjunk then targetListSupported env queryTree partitionColumn rest flags
    else if commandType == .update && containVolatileFunctions [targetEntry.expr] then
      .error (deferredError .featureNotSupported
        "functions used in UPDATE queries on distributed tables must not be VOLATILE" none none)
    else
      let changesPartitionValue := match partitionColumn with
        | some column => targetEntry.resno == column.varattno &&
            targetEntryChangesValue env targetEntry column queryTree.jointree
        | none => false
      let irreducible := masterIrreducibleExpression (some targetEntry.expr)
        flags.hasVarArgument flags.hasBadCoalesce
      let flags :=
        if commandType == .update then
          { specifiesPartitionValue := flags.specifiesPartitionValue || changesPartitionValue
            hasVarArgument := irreducible.2.1
            hasBadCoalesce := irreducible.2.2 }
        else flags
      targetListSupported env queryTree partitionColumn rest flags

/-- The target-list loop on the partition column: the flag, once set, stays set; and in an
UPDATE every entry that is not junk calls no VOLATILE function and sets the flag if it may change
the partition column. -/
theorem targetListSupported_partitionValue {env : Env} {queryTree : Query}
    {partitionColumn : Option Var} {entries : List TargetEntry} {flags flags' : ModifyFlags}
    (h : targetListSupported env queryTree partitionColumn entries flags = .ok flags') :
    (flags.specifiesPartitionValue → flags'.specifiesPartitionValue) ∧
    (queryTree.commandType = .update → ∀ targetEntry ∈ entries, targetEntry.resjunk = false →
      containVolatileFunctions [targetEntry.expr] = false ∧
      ∀ column, partitionColumn = some column → targetEntry.resno = column.varattno →
        targetEntryChangesValue env targetEntry column queryTree.jointree →
        flags'.specifiesPartitionValue) := by
  induction entries generalizing flags with
  | nil =>
    cases h
    exact ⟨id, fun _ _ h => (nomatch h)⟩
  | cons targetEntry rest ih =>
    simp only [targetListSupported] at h
    by_cases hjunk : targetEntry.resjunk = true
    · rw [if_pos hjunk] at h
      obtain ⟨hmono, hrest⟩ := ih h
      refine ⟨hmono, fun hupdate e he hej => ?_⟩
      rcases List.mem_cons.mp he with rfl | he
      · simp [hjunk] at hej
      · exact hrest hupdate e he hej
    rw [if_neg hjunk] at h
    by_cases hvolatile :
        (queryTree.commandType == .update && containVolatileFunctions [targetEntry.expr]) = true
    · rw [if_pos hvolatile] at h; cases h
    rw [if_neg hvolatile] at h
    obtain ⟨hmono, hrest⟩ := ih h
    refine ⟨fun hspv => hmono ?_, fun hupdate e he hej => ?_⟩
    · split <;> simp [hspv]
    rcases List.mem_cons.mp he with rfl | he
    · refine ⟨by simpa [hupdate] using hvolatile, fun column hcol hresno hchanges => hmono ?_⟩
      simp [hupdate, hcol, hresno, hchanges]
    · exact hrest hupdate e he hej

/-- The flags after the target-list loop: those it started from, or-ed with the walk's verdict
on each entry of an UPDATE that is not junk. -/
theorem targetListSupported_raised {env : Env} {queryTree : Query}
    {partitionColumn : Option Var} {entries : List TargetEntry} {flags flags' : ModifyFlags}
    (h : targetListSupported env queryTree partitionColumn entries flags = .ok flags') :
    (flags'.hasVarArgument || flags'.hasBadCoalesce) =
      (flags.hasVarArgument || flags.hasBadCoalesce ||
        (queryTree.commandType == .update && entries.any fun targetEntry =>
          !targetEntry.resjunk && irreducibleBy false targetEntry.expr)) := by
  induction entries generalizing flags with
  | nil =>
    cases h
    simp
  | cons targetEntry rest ih =>
    simp only [targetListSupported] at h
    by_cases hjunk : targetEntry.resjunk = true
    · rw [if_pos hjunk] at h
      simp [ih h, hjunk]
    rw [if_neg hjunk] at h
    by_cases hvolatile :
        (queryTree.commandType == .update && containVolatileFunctions [targetEntry.expr]) = true
    · rw [if_pos hvolatile] at h; cases h
    rw [if_neg hvolatile] at h
    obtain ⟨raisedVar, raisedBad, hwalk⟩ := masterIrreducibleExpression_raises
      (some targetEntry.expr) flags.hasVarArgument flags.hasBadCoalesce
    have hverdict := masterIrreducibleExpression_verdict targetEntry.expr flags.hasVarArgument
      flags.hasBadCoalesce
    rw [hwalk] at hverdict
    rw [ih h]
    cases queryTree.commandType == .update <;>
      simp [hjunk, hwalk, ← hverdict, Bool.or_assoc, Bool.or_comm, Bool.or_left_comm]

/-- The target-list loop: the flags, once set, stay set; and in an UPDATE every entry that is
not junk calls no VOLATILE function, raises one of the walk's flags if it is irreducible, and
sets `specifiesPartitionValue` if it may change the partition column. -/
theorem targetListSupported_ok {env : Env} {queryTree : Query} {partitionColumn : Option Var}
    {entries : List TargetEntry} {flags flags' : ModifyFlags}
    (h : targetListSupported env queryTree partitionColumn entries flags = .ok flags') :
    (flags.specifiesPartitionValue → flags'.specifiesPartitionValue) ∧
    ((flags.hasVarArgument || flags.hasBadCoalesce) →
      (flags'.hasVarArgument || flags'.hasBadCoalesce)) ∧
    (queryTree.commandType = .update → ∀ targetEntry ∈ entries, targetEntry.resjunk = false →
      containVolatileFunctions [targetEntry.expr] = false ∧
      (irreducibleBy false targetEntry.expr → (flags'.hasVarArgument || flags'.hasBadCoalesce)) ∧
      ∀ column, partitionColumn = some column → targetEntry.resno = column.varattno →
        targetEntryChangesValue env targetEntry column queryTree.jointree →
        flags'.specifiesPartitionValue) := by
  obtain ⟨hmono, hentries⟩ := targetListSupported_partitionValue h
  have hraised := targetListSupported_raised h
  refine ⟨hmono, fun hflags => by rw [hraised, hflags, Bool.true_or], fun hupdate e he hej => ?_⟩
  obtain ⟨hvolatile, hchanges⟩ := hentries hupdate e he hej
  -- an irreducible entry that is not junk makes the loop's verdict true
  refine ⟨hvolatile, fun hirreducible => ?_, hchanges⟩
  rw [hraised, hupdate]
  simp only [beq_self_eq_true, Bool.true_and, Bool.or_eq_true, List.any_eq_true]
  exact .inr ⟨e, he, by simp [hej, hirreducible]⟩

/-- The loop of `ModifyQuerySupported` over the `ON CONFLICT DO UPDATE SET` list, from
`specifiesPartitionValue`. -/
def onConflictSetSupported (partitionColumn : Option Var) :
    List TargetEntry → Bool → Check Bool
  | [], specifiesPartitionValue => .ok specifiesPartitionValue
  | setTargetEntry :: rest, specifiesPartitionValue =>
    match partitionColumn.filter (·.varattno == setTargetEntry.resno) with
    | some column =>
      let specifiesPartitionValue := match setTargetEntry.expr with
        | .var _ varattno => varattno != column.varattno
        | _ => true
      onConflictSetSupported partitionColumn rest specifiesPartitionValue
    | none =>
      match setTargetEntry.expr with
      | .var _ _ => onConflictSetSupported partitionColumn rest specifiesPartitionValue
      | setExpr =>
        if containMutableFunctions [setExpr] then
          .error (deferredError .featureNotSupported
            ("functions used in the DO UPDATE SET clause of INSERTs on distributed tables " ++
              "must be marked IMMUTABLE") none none)
        else onConflictSetSupported partitionColumn rest specifiesPartitionValue

/-- The `ON CONFLICT DO UPDATE SET` loop: an entry off the partition column that is not a
column calls only IMMUTABLE functions; without entries on the partition column the flag is
kept; and when the loop ends with the flag off and no column is assigned twice, every entry on
the partition column is a column with its attribute number. -/
theorem onConflictSetSupported_ok {partitionColumn : Option Var} {onConflictSet : List TargetEntry}
    {specifiesPartitionValue specifiesPartitionValue' : Bool}
    (h : onConflictSetSupported partitionColumn onConflictSet specifiesPartitionValue =
      .ok specifiesPartitionValue') :
    (∀ setTargetEntry ∈ onConflictSet,
      partitionColumn.filter (·.varattno == setTargetEntry.resno) = none →
      (∀ varno varattno, setTargetEntry.expr ≠ .var varno varattno) →
      containMutableFunctions [setTargetEntry.expr] = false) ∧
    ((∀ setTargetEntry ∈ onConflictSet,
      partitionColumn.filter (·.varattno == setTargetEntry.resno) = none) →
      specifiesPartitionValue' = specifiesPartitionValue) ∧
    (specifiesPartitionValue' = false → (onConflictSet.map (·.resno)).Nodup →
      ∀ setTargetEntry ∈ onConflictSet, ∀ column, partitionColumn = some column →
        setTargetEntry.resno = column.varattno →
        ∃ varno, setTargetEntry.expr = .var varno column.varattno) := by
  induction onConflictSet generalizing specifiesPartitionValue with
  | nil =>
    cases h
    exact ⟨fun _ h => (nomatch h), fun _ => rfl, fun _ _ _ h => (nomatch h)⟩
  | cons setTargetEntry rest ih =>
    simp only [onConflictSetSupported] at h
    split at h
    · -- an entry on the partition column sets the flag afresh
      rename_i column hfilter
      obtain ⟨hcolumn, hresno⟩ := Option.filter_eq_some.mp hfilter
      replace hcolumn : partitionColumn = some column := hcolumn
      replace hresno : column.varattno = setTargetEntry.resno := beq_iff_eq.mp hresno
      obtain ⟨hmutable, hkept, hvars⟩ := ih h
      refine ⟨?_, fun hnone => ?_, fun hfalse hnodup => ?_⟩
      · rintro e (_ | ⟨_, he⟩) hoff
        · simp [hfilter] at hoff
        · exact hmutable e he hoff
      · simpa [hfilter] using hnone setTargetEntry (.head _)
      rw [List.map_cons, List.nodup_cons] at hnodup
      rintro e (_ | ⟨_, he⟩) column' hcolumn' hresno'
      · -- no later entry is on the partition column, so this one decides the flag
        have hrestOff : ∀ e ∈ rest, partitionColumn.filter (·.varattno == e.resno) = none := by
          intro e he
          simp only [hcolumn, Option.filter_eq_none, Option.mem_def, Option.some.injEq,
            forall_eq', beq_iff_eq, reduceCtorEq, false_or]
          exact fun heq => hnodup.1 (List.mem_map.mpr ⟨e, he, by omega⟩)
        have hflag := hfalse.symm.trans (hkept hrestOff)
        rw [hcolumn, Option.some.injEq] at hcolumn'
        subst hcolumn'
        cases hexpr : setTargetEntry.expr with
        | var varno varattno =>
          rw [hexpr] at hflag
          exact ⟨varno, by simpa using hflag.symm⟩
        | _ => simp [hexpr] at hflag
      · exact hvars hfalse hnodup.2 e he column' hcolumn' hresno'
    · -- an entry off the partition column: a column is skipped, anything else is checked
      rename_i hfilter
      have hstep : ((∀ varno varattno, setTargetEntry.expr ≠ .var varno varattno) →
          containMutableFunctions [setTargetEntry.expr] = false) ∧
          onConflictSetSupported partitionColumn rest specifiesPartitionValue =
            .ok specifiesPartitionValue' := by
        split at h
        · exact ⟨fun hnotvar => absurd ‹_› (hnotvar _ _), h⟩
        · split at h
          · cases h
          · exact ⟨fun _ => by simpa using ‹¬containMutableFunctions _ = true›, h⟩
      obtain ⟨hmutable, hkept, hvars⟩ := ih hstep.2
      refine ⟨?_, fun hnone => hkept fun e he => hnone e (.tail _ he), fun hfalse hnodup => ?_⟩
      · rintro e (_ | ⟨_, he⟩) hoff
        · exact hstep.1
        · exact hmutable e he hoff
      · rintro e (_ | ⟨_, he⟩) column hcolumn hresno
        · simp [hcolumn, hresno] at hfilter
        · exact hvars hfalse (List.nodup_cons.mp hnodup).2 e he column hcolumn hresno

/-- The checks of an INSERT, UPDATE or DELETE's target list, `WHERE` clause and `RETURNING`
list, giving `specifiesPartitionValue`. A missing join tree has no qualifiers, so both of its
checks pass. -/
def dmlExpressionsSupported (env : Env) (queryTree : Query) (partitionColumn : Option Var) :
    Check Bool := do
  let flags ← targetListSupported env queryTree partitionColumn queryTree.targetList
    ⟨false, false, false⟩
  let quals := queryTree.jointree.bind (·.quals)
  if containVolatileFunctions quals.toList then
    throw (deferredError .featureNotSupported
      ("functions used in the WHERE clause of modification queries on distributed " ++
        "tables must not be VOLATILE") none none)
  let irreducible := masterIrreducibleExpression quals flags.hasVarArgument flags.hasBadCoalesce
  if irreducible.2.1 then
    throw (deferredError .featureNotSupported
      "STABLE functions used in UPDATE queries cannot be called with column references" none none)
  if irreducible.2.2 then
    throw (deferredError .featureNotSupported
      "non-IMMUTABLE functions are not allowed in CASE or COALESCE statements" none none)
  if containMutableFunctions (queryTree.returningList.map (·.expr)) then
    throw (deferredError .featureNotSupported
      "non-IMMUTABLE functions are not allowed in the RETURNING clause" none none)
  return flags.specifiesPartitionValue

/-- What `dmlExpressionsSupported` checked when it passes. -/
theorem dmlExpressionsSupported_ok {env : Env} {queryTree : Query}
    {partitionColumn : Option Var} {specifiesPartitionValue : Bool}
    (h : dmlExpressionsSupported env queryTree partitionColumn = .ok specifiesPartitionValue) :
    ∃ flags, targetListSupported env queryTree partitionColumn queryTree.targetList
        ⟨false, false, false⟩ = .ok flags ∧
      specifiesPartitionValue = flags.specifiesPartitionValue ∧
      containVolatileFunctions (queryTree.jointree.bind (·.quals)).toList = false ∧
      containMutableFunctions (queryTree.returningList.map (·.expr)) = false ∧
      flags.hasVarArgument = false ∧ flags.hasBadCoalesce = false ∧
      ∀ quals, queryTree.jointree.bind (·.quals) = some quals →
        irreducibleBy false quals = false := by
  simp only [dmlExpressionsSupported, bind_eq_ok] at h
  obtain ⟨flags, hflags, h⟩ := h
  refine ⟨flags, hflags, ?_⟩
  by_cases hvolatile : containVolatileFunctions (queryTree.jointree.bind (·.quals)).toList = true
  · rw [if_pos hvolatile] at h; cases h
  rw [if_neg hvolatile] at h
  by_cases hvar : (masterIrreducibleExpression (queryTree.jointree.bind (·.quals))
      flags.hasVarArgument flags.hasBadCoalesce).2.1 = true
  · rw [if_pos hvar] at h; cases h
  rw [if_neg hvar] at h
  by_cases hbad : (masterIrreducibleExpression (queryTree.jointree.bind (·.quals))
      flags.hasVarArgument flags.hasBadCoalesce).2.2 = true
  · rw [if_pos hbad] at h; cases h
  rw [if_neg hbad] at h
  by_cases hreturning : containMutableFunctions (queryTree.returningList.map (·.expr)) = true
  · rw [if_pos hreturning] at h; cases h
  rw [if_neg hreturning] at h
  -- neither flag is raised, so neither the target list nor the qualifiers raised one
  obtain ⟨raisedVar, raisedBad, hwalk⟩ := masterIrreducibleExpression_raises
    (queryTree.jointree.bind (·.quals)) flags.hasVarArgument flags.hasBadCoalesce
  rw [hwalk] at hvar hbad
  simp only [Bool.or_eq_true, not_or, Bool.not_eq_true] at hvar hbad
  refine ⟨(Except.ok.inj h).symm, by simpa using hvolatile, by simpa using hreturning,
    hvar.1, hbad.1, fun quals hsome => ?_⟩
  rw [← masterIrreducibleExpression_verdict quals flags.hasVarArgument flags.hasBadCoalesce,
    ← hsome, hwalk, hvar.2, hbad.2, Bool.or_false]

/-- `ModifyQuerySupported` from the target list on. -/
def modifyExpressionsSupported (env : Env) (queryTree : Query) (partitionColumn : Option Var) :
    Check Unit := do
  let commandType := queryTree.commandType
  let specifiesPartitionValue ←
    if commandType == .insert || commandType == .update || commandType == .delete then
      dmlExpressionsSupported env queryTree partitionColumn
    else pure false
  let onConflict := if commandType == .insert then queryTree.onConflict else none
  let onConflictSet := (onConflict.map (·.onConflictSet)).getD []
  let specifiesPartitionValue ←
    onConflictSetSupported partitionColumn onConflictSet specifiesPartitionValue
  if containMutableFunctions (onConflict.bind (·.arbiterWhere)).toList ||
      containMutableFunctions (onConflict.bind (·.onConflictWhere)).toList then
    throw (deferredError .featureNotSupported
      ("functions used in the WHERE clause of the ON CONFLICT clause of INSERTs on " ++
        "distributed tables must be marked IMMUTABLE") none none)
  if specifiesPartitionValue then
    throw (deferredError .featureNotSupported "modifying the partition value of rows is not allowed"
      none none)

/-- What `modifyExpressionsSupported` checked when it passes: the `ON CONFLICT` loop ends
with the flag off, and the `ON CONFLICT` qualifiers call only IMMUTABLE functions. -/
theorem modifyExpressionsSupported_ok {env : Env} {queryTree : Query}
    {partitionColumn : Option Var} (hmodify : queryTree.commandType ≠ .select)
    (h : modifyExpressionsSupported env queryTree partitionColumn = .ok ()) :
    ∃ specifiesPartitionValue,
      dmlExpressionsSupported env queryTree partitionColumn = .ok specifiesPartitionValue ∧
      onConflictSetSupported partitionColumn
        (((if queryTree.commandType = .insert then queryTree.onConflict else none).map
          (·.onConflictSet)).getD [])
        specifiesPartitionValue = .ok false ∧
      (queryTree.commandType = .insert → ∀ onConflict, queryTree.onConflict = some onConflict →
        containMutableFunctions onConflict.arbiterWhere.toList = false ∧
        containMutableFunctions onConflict.onConflictWhere.toList = false) := by
  have hdml : (queryTree.commandType == .insert || queryTree.commandType == .update ||
      queryTree.commandType == .delete) = true := by
    cases hcommand : queryTree.commandType <;> simp_all
  simp only [modifyExpressionsSupported, hdml, if_true, bind_eq_ok, beq_iff_eq] at h
  obtain ⟨specifiesPartitionValue, hspecifies, specifiesPartitionValue', honConflict, h⟩ := h
  refine ⟨specifiesPartitionValue, hspecifies, ?_⟩
  generalize hchosen : (if queryTree.commandType = .insert then queryTree.onConflict else none) =
    chosen at h honConflict
  split at h
  · cases h
  rename_i hmutable
  split at h
  · cases h
  rename_i hflag
  simp only [Bool.or_eq_true, not_or, Bool.not_eq_true] at hmutable hflag
  refine ⟨hflag ▸ honConflict, fun hinsert onConflict hsome => ?_⟩
  rw [if_pos hinsert, hsome] at hchosen
  subst hchosen
  exact hmutable

/-! ## `ModifyQuerySupported` -/

/-- `ModifyQuerySupported`: `none` when the modification is supported. -/
def modifyQuerySupported (env : Env) (queryTree : Query) (multiShardQuery : Bool) :
    Planning (Option DeferredErrorMessage) := do
  let distributedTableId := extractFirstDistributedTableId env queryTree
  let partitionColumn ← partitionColumn env distributedTableId 1
  let commandType := queryTree.commandType
  if queryTree.hasSubLinks && (!updateOrDeleteQuery queryTree || multiShardQuery) then
    return some (deferredError .featureNotSupported
      "cannot perform distributed planning for the given modifications"
      (some "Subqueries are not supported in distributed modifications.") none)
  if !queryTree.cteList.isEmpty then
    return some (deferredError .featureNotSupported
      "common table expressions are not supported in distributed modifications" none none)
  match ← rangeTableEntriesSupported env queryTree multiShardQuery queryTree.rtable 0 false with
  | .error planningError => return some planningError
  | .ok (queryTableCount, hasValuesScan) =>
    if commandType != .insert && queryTableCount != 1 &&
        (!updateOrDeleteQuery queryTree || multiShardQuery) then
      return some (deferredError .featureNotSupported
        "cannot perform distributed planning for the given modification"
        (some "Joins are not supported in distributed modifications.") none)
    if hasValuesScan then
      return some (deferredError .featureNotSupported
        "cannot perform distributed planning for the given modification"
        (some "Multi-row INSERTs to distributed tables are not supported.") none)
    match modifyExpressionsSupported env queryTree partitionColumn with
    | .error planningError => return some planningError
    | .ok () => return none

/-- **What `ModifyQuerySupported` accepts**: every early return was passed, and the expression
checks ran with the target relation's partition column. -/
theorem modifyQuerySupported_eq_none {env : Env} {queryTree : Query} {multiShardQuery : Bool}
    (h : modifyQuerySupported env queryTree multiShardQuery = .ok none) :
    ∃ partitionColumn' queryTableCount,
      partitionColumn env (extractFirstDistributedTableId env queryTree) 1 =
        .ok partitionColumn' ∧
      (queryTree.hasSubLinks = true →
        updateOrDeleteQuery queryTree = true ∧ multiShardQuery = false) ∧
      queryTree.cteList = [] ∧
      rangeTableEntriesSupported env queryTree multiShardQuery queryTree.rtable 0 false =
        .ok (.ok (queryTableCount, false)) ∧
      (queryTree.commandType ≠ .insert → queryTableCount ≠ 1 →
        updateOrDeleteQuery queryTree = true ∧ multiShardQuery = false) ∧
      modifyExpressionsSupported env queryTree partitionColumn' = .ok () := by
  simp only [modifyQuerySupported, bind_eq_ok] at h
  obtain ⟨partitionColumn', hcolumn, h⟩ := h
  by_cases hsubLinks :
      (queryTree.hasSubLinks && (!updateOrDeleteQuery queryTree || multiShardQuery)) = true
  · rw [if_pos hsubLinks] at h; cases h
  rw [if_neg hsubLinks] at h
  by_cases hcte : (!queryTree.cteList.isEmpty) = true
  · rw [if_pos hcte] at h; cases h
  rw [if_neg hcte] at h
  simp only [pure_eq_ok, ok_bind, bind_eq_ok] at h
  obtain ⟨supported, hsupported, h⟩ := h
  split at h
  · cases h
  split at h
  · cases h
  split at h
  · cases h
  split at h
  · cases h
  rename_i queryTableCount hasValuesScan hjoin hvalues _ hexpressions
  obtain rfl : hasValuesScan = false := by simpa using hvalues
  refine ⟨partitionColumn', queryTableCount, hcolumn, fun hs => by simpa [hs] using hsubLinks,
    by simpa using hcte, hsupported, fun hinsert hcount => by simpa [hinsert, hcount] using hjoin,
    hexpressions⟩

/-! ## What an accepted modification guarantees -/

/-- **Assignments to the partition column.** In an accepted UPDATE, a SET entry on the partition
column assigns a column with the partition column's attribute number, of any range-table entry,
or a constant that the `WHERE` clause implies. In an accepted INSERT that assigns no column
twice in its `ON CONFLICT DO UPDATE SET` list, an entry of that list on the partition column
assigns such a column. -/
theorem modifyQuerySupported_partitionColumnAssignments (env : Env) (queryTree : Query)
    (multiShardQuery : Bool) (column : Var)
    (hcolumn : partitionColumn env (extractFirstDistributedTableId env queryTree) 1 =
      .ok (some column))
    (h : modifyQuerySupported env queryTree multiShardQuery = .ok none) :
    (queryTree.commandType = .update → ∀ targetEntry ∈ queryTree.targetList,
      targetEntry.resjunk = false → targetEntry.resno = column.varattno →
      (∃ varno, targetEntry.expr = .var varno column.varattno) ∨
      ∃ constvalue constisnull, targetEntry.expr = .const constvalue constisnull ∧
        env.predicateImpliedBy [.expr [.immutable] [column.toNode, .const constvalue constisnull]]
          (whereClauseList queryTree.jointree) = true) ∧
    (queryTree.commandType = .insert → ∀ onConflict, queryTree.onConflict = some onConflict →
      (onConflict.onConflictSet.map (·.resno)).Nodup →
      ∀ setTargetEntry ∈ onConflict.onConflictSet, setTargetEntry.resno = column.varattno →
        ∃ varno, setTargetEntry.expr = .var varno column.varattno) := by
  obtain ⟨partitionColumn', -, hcolumn', -, -, -, -, hexpressions⟩ :=
    modifyQuerySupported_eq_none h
  obtain rfl : partitionColumn' = some column := by simpa [hcolumn] using hcolumn'.symm
  refine ⟨fun hupdate targetEntry hmem hjunk hresno => ?_,
    fun hinsert onConflict hsome hnodup => ?_⟩
  · -- an UPDATE has no ON CONFLICT list, so the target list must leave the flag off
    obtain ⟨_, hdml, honConflict, -⟩ :=
      modifyExpressionsSupported_ok (by simp [hupdate]) hexpressions
    obtain ⟨flags, hflags, rfl, -⟩ := dmlExpressionsSupported_ok hdml
    have hoff : flags.specifiesPartitionValue = false := by
      simpa [hupdate, onConflictSetSupported] using honConflict
    refine (targetEntryChangesValue_eq_false hresno).mp (Bool.eq_false_iff.mpr fun hchanges => ?_)
    have hon := ((targetListSupported_ok hflags).2.2 hupdate targetEntry hmem hjunk).2.2 column rfl
      hresno hchanges
    simp [hoff] at hon
  · obtain ⟨_, -, honConflict, -⟩ :=
      modifyExpressionsSupported_ok (by simp [hinsert]) hexpressions
    simp only [hinsert, if_true, hsome, Option.map_some', Option.getD_some] at honConflict
    exact fun setTargetEntry hmem hresno =>
      (onConflictSetSupported_ok honConflict).2.2 rfl hnodup setTargetEntry hmem column rfl hresno

/-- `UPDATE orders SET customer_id = customer_id, total = 1 WHERE customer_id = 42`. -/
def ordersKeepKey : Query :=
  { ordersUpdate with
    rtable := [ordersRte]
    targetList := [⟨.var 1 1, 1, false⟩, ⟨.const 1 false, 2, false⟩] }

/-- The update keeps the partition column: its one entry on column 1 assigns column 1. -/
theorem modifyQuerySupported_partitionColumnAssignments_ordersKeepKey :
    partitionColumn ordersEnv (extractFirstDistributedTableId ordersEnv ordersKeepKey) 1 =
      .ok (some ⟨1, 1⟩) ∧
    modifyQuerySupported ordersEnv ordersKeepKey false = .ok none ∧
    (ordersKeepKey.commandType = .update → ∀ targetEntry ∈ ordersKeepKey.targetList,
      targetEntry.resjunk = false → targetEntry.resno = 1 →
      (∃ varno, targetEntry.expr = .var varno 1) ∨
      ∃ constvalue constisnull, targetEntry.expr = .const constvalue constisnull ∧
        ordersEnv.predicateImpliedBy
          [.expr [.immutable] [Var.toNode ⟨1, 1⟩, .const constvalue constisnull]]
          (whereClauseList ordersKeepKey.jointree) = true) ∧
    (ordersKeepKey.commandType = .insert → ∀ onConflict, ordersKeepKey.onConflict = some onConflict →
      (onConflict.onConflictSet.map (·.resno)).Nodup →
      ∀ setTargetEntry ∈ onConflict.onConflictSet, setTargetEntry.resno = 1 →
        ∃ varno, setTargetEntry.expr = .var varno 1) :=
  ⟨rfl, rfl, modifyQuerySupported_partitionColumnAssignments ordersEnv ordersKeepKey false ⟨1, 1⟩
    rfl rfl⟩

/-- **What an accepted modification evaluates on the workers.** In an accepted UPDATE no SET
entry, and in any accepted modification no `WHERE` qualifier, has a non-IMMUTABLE CASE or
COALESCE, or a STABLE function over a column, outside every CASE and COALESCE: the walk of
`MasterIrreducibleExpression` raised no flag. -/
theorem modifyQuerySupported_reducible (env : Env) (queryTree : Query) (multiShardQuery : Bool)
    (hmodify : queryTree.commandType ≠ .select)
    (h : modifyQuerySupported env queryTree multiShardQuery = .ok none) :
    (queryTree.commandType = .update → ∀ targetEntry ∈ queryTree.targetList,
      targetEntry.resjunk = false → irreducibleBy false targetEntry.expr = false) ∧
    ∀ quals ∈ whereClauseList queryTree.jointree, irreducibleBy false quals = false := by
  obtain ⟨partitionColumn', -, -, -, -, -, -, hexpressions⟩ := modifyQuerySupported_eq_none h
  obtain ⟨_, hdml, -⟩ := modifyExpressionsSupported_ok hmodify hexpressions
  obtain ⟨flags, hflags, -, -, -, hvarArgument, hbadCoalesce, hquals⟩ :=
    dmlExpressionsSupported_ok hdml
  refine ⟨fun hupdate targetEntry hmem hjunk => Bool.eq_false_iff.mpr fun hirreducible => ?_,
    fun quals hmem => hquals quals (by simpa [whereClauseList] using hmem)⟩
  -- an irreducible entry would have raised a flag that stays raised to the end of the loop
  have hraised :=
    ((targetListSupported_ok hflags).2.2 hupdate targetEntry hmem hjunk).2.1 hirreducible
  simp [hvarArgument, hbadCoalesce] at hraised

/-- The accepted update assigns a column and a constant. -/
theorem modifyQuerySupported_reducible_ordersKeepKey :
    ordersKeepKey.commandType ≠ .select ∧
    modifyQuerySupported ordersEnv ordersKeepKey false = .ok none ∧
    (ordersKeepKey.commandType = .update → ∀ targetEntry ∈ ordersKeepKey.targetList,
      targetEntry.resjunk = false → irreducibleBy false targetEntry.expr = false) ∧
    ∀ quals ∈ whereClauseList ordersKeepKey.jointree, irreducibleBy false quals = false :=
  ⟨nofun, rfl, modifyQuerySupported_reducible ordersEnv ordersKeepKey false nofun rfl⟩

/-! ## The flag checks follow the walker -/

/-- Past the target-list loop and the `WHERE` clause's VOLATILE check, `dmlExpressionsSupported`
fails with one of the two flag errors exactly when a flag is set after the qualifiers' walk. -/
theorem dmlExpressionsSupported_flagRejection {env : Env} {queryTree : Query}
    {partitionColumn : Option Var} {flags : ModifyFlags}
    (hloop : targetListSupported env queryTree partitionColumn queryTree.targetList
      ⟨false, false, false⟩ = .ok flags)
    (hvolatile : containVolatileFunctions (queryTree.jointree.bind (·.quals)).toList = false) :
    (∃ message, dmlExpressionsSupported env queryTree partitionColumn =
        .error (deferredError .featureNotSupported message none none) ∧
      (message = "STABLE functions used in UPDATE queries cannot be called with column references" ∨
        message = "non-IMMUTABLE functions are not allowed in CASE or COALESCE statements")) ↔
      ((masterIrreducibleExpression (queryTree.jointree.bind (·.quals)) flags.hasVarArgument
          flags.hasBadCoalesce).2.1 ||
        (masterIrreducibleExpression (queryTree.jointree.bind (·.quals)) flags.hasVarArgument
          flags.hasBadCoalesce).2.2) = true := by
  simp only [dmlExpressionsSupported, hloop, ok_bind, hvolatile, Bool.false_eq_true, if_false,
    pure_eq_ok]
  generalize masterIrreducibleExpression _ _ _ = irreducible
  obtain ⟨_, var, bad⟩ := irreducible
  cases var <;> cases bad <;> cases containMutableFunctions (queryTree.returningList.map (·.expr)) <;>
    simp only [Bool.false_eq_true, ↓reduceIte, deferredError, throw_eq_error, error_bind,
      Except.error.injEq, DeferredErrorMessage.mk.injEq, and_true, true_and, exists_eq_left',
      String.reduceEq, or_self, or_true, or_false, and_self, Bool.or_self, Bool.or_true, Bool.or_false,
      reduceCtorEq, false_and, exists_false]

/-- **The flags follow the walker's verdict.** A walk from any state that answers true has
raised a flag, and one that answers false leaves both flags as they were, for every tree (the
source only asserts that it has no VOLATILE function, and does not need it here); so
`MasterIrreducibleExpression` ors into `*varArgument` and `*badCoalesce` two flags one of which is
set exactly when it answers true, and the assertions after its calls in `ModifyQuerySupported`
hold. Once the target list and the `WHERE` clause pass their VOLATILE checks, the statement is
rejected for a flag exactly when the walk answered true on a SET entry of an UPDATE that is not
junk or on the qualifiers. -/
theorem masterIrreducibleExpression_flagsFollowVerdict :
    (∀ (e : Node) (state : WalkerState),
      ((masterIrreducibleExpressionWalker e state).1 = true →
        ((masterIrreducibleExpressionWalker e state).2.varArgument ||
          (masterIrreducibleExpressionWalker e state).2.badCoalesce) = true) ∧
      ((masterIrreducibleExpressionWalker e state).1 = false →
        (masterIrreducibleExpressionWalker e state).2.varArgument = state.varArgument ∧
          (masterIrreducibleExpressionWalker e state).2.badCoalesce = state.badCoalesce)) ∧
    (∀ (expression : Option Node) (varArgument badCoalesce : Bool),
      (∃ raisedVarArgument raisedBadCoalesce,
        masterIrreducibleExpression expression varArgument badCoalesce =
          (raisedVarArgument || raisedBadCoalesce, varArgument || raisedVarArgument,
            badCoalesce || raisedBadCoalesce)) ∧
      ((masterIrreducibleExpression expression varArgument badCoalesce).1 = true →
        ((masterIrreducibleExpression expression varArgument badCoalesce).2.1 ||
          (masterIrreducibleExpression expression varArgument badCoalesce).2.2) = true)) ∧
    (∀ (env : Env) (queryTree : Query) (partitionColumn : Option Var) (flags : ModifyFlags),
      targetListSupported env queryTree partitionColumn queryTree.targetList
        ⟨false, false, false⟩ = .ok flags →
      containVolatileFunctions (queryTree.jointree.bind (·.quals)).toList = false →
      ((∃ message, dmlExpressionsSupported env queryTree partitionColumn =
          .error (deferredError .featureNotSupported message none none) ∧
        (message = "STABLE functions used in UPDATE queries cannot be called with column references" ∨
          message = "non-IMMUTABLE functions are not allowed in CASE or COALESCE statements")) ↔
        ((queryTree.commandType == .update && queryTree.targetList.any fun targetEntry =>
            !targetEntry.resjunk &&
              (masterIrreducibleExpressionWalker targetEntry.expr ⟨false, false, false⟩).1) ||
          (queryTree.jointree.bind (·.quals)).any fun quals =>
            (masterIrreducibleExpressionWalker quals ⟨false, false, false⟩).1) = true)) := by
  refine ⟨fun e state => ⟨fun htrue => ?_, masterIrreducibleExpressionWalker_keepsFlags⟩,
    fun expression varArgument badCoalesce =>
      ⟨masterIrreducibleExpression_raises expression varArgument badCoalesce, fun htrue => ?_⟩,
    fun env queryTree partitionColumn flags hloop hvolatile => ?_⟩
  · -- a true answer raises a flag, whatever the state the walk was given
    simpa [htrue] using masterIrreducibleExpressionWalker_flags e state
  · obtain ⟨raisedVar, raisedBad, hraised⟩ :=
      masterIrreducibleExpression_raises expression varArgument badCoalesce
    rw [hraised] at htrue ⊢
    simp only [Bool.or_eq_true] at htrue ⊢
    rcases htrue with h | h <;> simp [h]
  · -- the flags at the two checks: the target list's, then the qualifiers' or-ed in
    rw [dmlExpressionsSupported_flagRejection hloop hvolatile]
    have hentries := targetListSupported_raised hloop
    have hquals : ∀ quals : Option Node, (masterIrreducibleExpression quals
        flags.hasVarArgument flags.hasBadCoalesce).1 = quals.any (irreducibleBy false) := by
      rintro (_ | quals)
      · rfl
      · exact masterIrreducibleExpression_verdict quals _ _
    obtain ⟨raisedVar, raisedBad, hraised⟩ := masterIrreducibleExpression_raises
      (queryTree.jointree.bind (·.quals)) flags.hasVarArgument flags.hasBadCoalesce
    have hwhere := hquals (queryTree.jointree.bind (·.quals))
    rw [hraised] at hwhere ⊢
    simp only [Bool.false_or] at hentries
    simp only [masterIrreducibleExpressionWalker_verdict, ← hentries, ← hwhere]
    simp only [Bool.or_assoc, Bool.or_comm, Bool.or_left_comm]

/-- `UPDATE orders SET total = f(total) WHERE orders.customer_id = 42`, with `f` STABLE. -/
def ordersStableOverColumn : Query :=
  { ordersUpdate with
    rtable := [ordersRte], targetList := [⟨.expr [.stable] [.var 1 2], 2, false⟩] }

theorem masterIrreducibleExpression_flagsFollowVerdict_ordersStableOverColumn :
    targetListSupported ordersEnv ordersStableOverColumn (some ⟨1, 1⟩)
        ordersStableOverColumn.targetList ⟨false, false, false⟩ = .ok ⟨false, true, false⟩ ∧
      containVolatileFunctions (ordersStableOverColumn.jointree.bind (·.quals)).toList = false ∧
      ∃ message, dmlExpressionsSupported ordersEnv ordersStableOverColumn (some ⟨1, 1⟩) =
          .error (deferredError .featureNotSupported message none none) ∧
        (message = "STABLE functions used in UPDATE queries cannot be called with column references" ∨
          message = "non-IMMUTABLE functions are not allowed in CASE or COALESCE statements") :=
  ⟨rfl, rfl, (masterIrreducibleExpression_flagsFollowVerdict.2.2 ordersEnv ordersStableOverColumn
    (some ⟨1, 1⟩) _ rfl rfl).mpr rfl⟩

/-! ## Two accepted updates -/

/-- `UPDATE orders SET customer_id = customers.customer_id FROM customers
WHERE orders.customer_id = 42`: the partition column takes the joined table's key. -/
def ordersKeyFromCustomers : Query :=
  { ordersUpdate with targetList := [⟨.var 2 1, 1, false⟩] }

/-- The partition column of `orders` (attribute 1) is set from `customers`' column 1, and
the update is accepted: a row of `orders` can move to another shard. -/
theorem modifyQuerySupported_setFromJoinedKey :
    modifyQuerySupported ordersEnv ordersKeyFromCustomers false = .ok none ∧
      (ordersEnv.distTable 1).bind (·.partitionColumn) = some 1 ∧
      ∃ targetEntry ∈ ordersKeyFromCustomers.targetList, targetEntry.resjunk = false ∧
        targetEntry.resno = 1 ∧ targetEntry.expr = .var 2 1 :=
  ⟨rfl, rfl, _, List.mem_singleton_self _, rfl, rfl, rfl⟩

/-- `UPDATE orders SET total = f(COALESCE(total, 0)) WHERE orders.customer_id = 42`, with `f`
STABLE. -/
def ordersStableOverCoalesce : Query :=
  { ordersUpdate with rtable := [ordersRte], targetList := [⟨stableOverCoalescedColumn, 2, false⟩] }

/-- The update is accepted although a STABLE function receives a column, inside a COALESCE. -/
theorem modifyQuerySupported_stableOverCoalescedColumn :
    modifyQuerySupported ordersEnv ordersStableOverCoalesce false = .ok none ∧
      ∃ targetEntry ∈ ordersStableOverCoalesce.targetList, targetEntry.resjunk = false ∧
        Node.anyNode true (Node.stableOverColumn true) targetEntry.expr = true :=
  ⟨rfl, _, List.mem_singleton_self _, rfl, rfl⟩

end RouterPlanner
