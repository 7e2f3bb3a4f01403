import RouterPlanner.Query

/-!
# Master-irreducible expressions

A statement routed to one shard may run on every replica of it, so an expression whose value
can differ between replicas must be evaluated once on the coordinator.
`MasterIrreducibleExpression` flags the expressions that cannot be: a CASE or COALESCE that
calls a non-IMMUTABLE function (evaluated lazily, so it is not evaluated ahead), and a STABLE
function applied to a column (its value depends on the row).

**The walk.** `masterIrreducibleExpressionWalker` threads a `WalkerState` through the tree.
Under a node whose own functions fold to STABLE it walks the children with a fresh state and
reports a column found there; under any other node it passes its own state down. It does not
enter a CASE or a COALESCE.

**Theorem (`masterIrreducibleExpressionWalker_verdict`).** For every tree and every incoming
state, the walker returns `irreducibleBy false e`: some CASE or COALESCE reachable without
entering another one calls a non-IMMUTABLE function, or some node reachable that way folds to
STABLE and has a column below it, again outside every CASE and COALESCE. The documented
intent is `irreducibleBy true e`, where both searches also look inside conditionals; the two
differ exactly on a STABLE function whose column argument sits in a CASE or COALESCE.

**Theorem (`masterIrreducibleExpression_flags`).** The flags the walk returns are the flags it
was given, or-ed with its verdict; so `Assert(hasVarArgument || hasBadCoalesce)` after a true
answer never fails.

**Theorem (`masterIrreducibleExpressionWalker_frame`).** A walk from any state is the walk from
the fresh state with its findings or-ed into the given state: the state shared with the children
of a node that is not STABLE is only added to. So a walk that answers false leaves both flags
alone (`masterIrreducibleExpressionWalker_keepsFlags`).
-/

namespace RouterPlanner

/-! ## The walker -/

/-- `WalkerState`. -/
structure WalkerState where
  containsVar : Bool
  varArgument : Bool
  badCoalesce : Bool
deriving DecidableEq, Repr

/-- `MasterIrreducibleExpressionFunctionChecker`: fold a function's volatility into the
context (`none` is the initial `0`) and report whether it is VOLATILE. -/
def masterIrreducibleExpressionFunctionChecker (volatileFlag : Volatility)
    (volatileContext : Option Volatility) : Bool × Option Volatility :=
  let volatileContext' :=
    if volatileFlag = .volatile ∨ volatileContext = some .volatile then some .volatile
    else if volatileFlag = .stable ∨ volatileContext = some .stable then some .stable
    else some .immutable
  (volatileFlag == .volatile, volatileContext')

/-- The node's own functions fold to STABLE (`volatileFlag == PROVOLATILE_STABLE`). -/
def stableFlag (funcs : List Volatility) : Bool :=
  (checkFunctionsInNode masterIrreducibleExpressionFunctionChecker funcs none).2 == some .stable

mutual
/-- `MasterIrreducibleExpressionWalker`. A constant or a parameter calls no function and has
no child, so the general case returns false and leaves the state alone. -/
def masterIrreducibleExpressionWalker : Node → WalkerState → Bool × WalkerState
  | .coalesceExpr args, state =>
    if containMutableFunctions args then (true, { state with badCoalesce := true })
    else (false, state)
  | .caseExpr args, state =>
    if containMutableFunctions [.caseExpr args] then (true, { state with badCoalesce := true })
    else (false, state)
  | .var _ _, state => (false, { state with containsVar := true })
  | .const _ _, state => (false, state)
  | .param _, state => (false, state)
  | .expr funcs args, state =>
    let volatileFlag :=
      (checkFunctionsInNode masterIrreducibleExpressionFunctionChecker funcs none).2
    if volatileFlag == some .stable then
      let child := expressionTreeWalker args ⟨false, false, false⟩
      let childState := child.2
      let state := if childState.containsVar then { state with varArgument := true } else state
      let state := { state with badCoalesce := state.badCoalesce || childState.badCoalesce }
      let state := { state with varArgument := state.varArgument || childState.varArgument }
      (child.1 || childState.containsVar, state)
    else expressionTreeWalker args state

/-- `expression_tree_walker` with this walker: visit the children in order and stop at the
first that returns true. -/
def expressionTreeWalker : List Node → WalkerState → Bool × WalkerState
  | [], state => (false, state)
  | e :: es, state =>
    let r := masterIrreducibleExpressionWalker e state
    if r.1 then (true, r.2) else expressionTreeWalker es r.2
end

/-- `MasterIrreducibleExpression(expression, varArgument, badCoalesce)`: the verdict, and the
two flags after the walk's findings are or-ed into them. -/
def masterIrreducibleExpression (expression : Option Node) (varArgument badCoalesce : Bool) :
    Bool × Bool × Bool :=
  let data : WalkerState := ⟨false, false, false⟩
  let result := match expression with
    | none => (false, data)
    | some e => masterIrreducibleExpressionWalker e data
  (result.1, varArgument || result.2.varArgument, badCoalesce || result.2.badCoalesce)

/-! ## What the walker looks for -/

namespace Node

mutual
/-- Some node of the tree satisfies `p`. The search enters a CASE or a COALESCE only when
`throughConditionals` holds. -/
def anyNode (throughConditionals : Bool) (p : Node → Bool) : Node → Bool
  | e@(.coalesceExpr args) => p e || (throughConditionals && anyNodeList throughConditionals p args)
  | e@(.caseExpr args) => p e || (throughConditionals && anyNodeList throughConditionals p args)
  | e@(.expr _ args) => p e || anyNodeList throughConditionals p args
  | e => p e

/-- `anyNode` over a list of trees. -/
def anyNodeList (throughConditionals : Bool) (p : Node → Bool) : List Node → Bool
  | [] => false
  | e :: es => anyNode throughConditionals p e || anyNodeList throughConditionals p es
end

/-- A column reference. -/
def isVar : Node → Bool
  | .var _ _ => true
  | _ => false

/-- A CASE or COALESCE that calls a non-IMMUTABLE function. -/
def badConditional : Node → Bool
  | .coalesceExpr args => containMutableFunctions args
  | .caseExpr args => containMutableFunctions [.caseExpr args]
  | _ => false

/-- A node whose own functions fold to STABLE, with a column below it. -/
def stableOverColumn (throughConditionals : Bool) : Node → Bool
  | .expr funcs args => stableFlag funcs && anyNodeList throughConditionals isVar args
  | _ => false

end Node

open Node

/-- The expression cannot be reduced on the coordinator: it has a bad conditional or a STABLE
function over a column, both searched through conditionals when `throughConditionals`. -/
def irreducibleBy (throughConditionals : Bool) (e : Node) : Bool :=
  anyNode throughConditionals badConditional e ||
    anyNode throughConditionals (stableOverColumn throughConditionals) e

/-- `irreducibleBy` over a list of trees. -/
def irreducibleByList (throughConditionals : Bool) (es : List Node) : Bool :=
  anyNodeList throughConditionals badConditional es ||
    anyNodeList throughConditionals (stableOverColumn throughConditionals) es

@[simp] theorem anyNodeList_nil (t : Bool) (p : Node → Bool) : anyNodeList t p [] = false := rfl

@[simp] theorem anyNodeList_cons (t : Bool) (p : Node → Bool) (e : Node) (es : List Node) :
    anyNodeList t p (e :: es) = (anyNode t p e || anyNodeList t p es) := rfl

@[simp] theorem expressionTreeWalker_nil (state : WalkerState) :
    expressionTreeWalker [] state = (false, state) := rfl

theorem expressionTreeWalker_cons (e : Node) (es : List Node) (state : WalkerState) :
    expressionTreeWalker (e :: es) state =
      if (masterIrreducibleExpressionWalker e state).1
      then (true, (masterIrreducibleExpressionWalker e state).2)
      else expressionTreeWalker es (masterIrreducibleExpressionWalker e state).2 := rfl

/-- At a node that is neither a column nor a conditional, with the three state updates of a
STABLE node merged into one. -/
theorem masterIrreducibleExpressionWalker_expr (funcs : List Volatility) (args : List Node)
    (state : WalkerState) :
    masterIrreducibleExpressionWalker (.expr funcs args) state =
      if stableFlag funcs then
        let child := expressionTreeWalker args ⟨false, false, false⟩
        (child.1 || child.2.containsVar,
          { state with
            varArgument := state.varArgument || child.2.containsVar || child.2.varArgument
            badCoalesce := state.badCoalesce || child.2.badCoalesce })
      else expressionTreeWalker args state := by
  simp only [masterIrreducibleExpressionWalker, stableFlag]
  split
  · cases (expressionTreeWalker args ⟨false, false, false⟩).2.containsVar <;> simp
  · rfl

theorem irreducibleByList_cons (t : Bool) (e : Node) (es : List Node) :
    irreducibleByList t (e :: es) = (irreducibleBy t e || irreducibleByList t es) := by
  simp only [irreducibleByList, irreducibleBy, anyNodeList_cons, Bool.or_assoc, Bool.or_left_comm]

theorem irreducibleBy_expr (funcs : List Volatility) (args : List Node) :
    irreducibleBy false (.expr funcs args) =
      (stableFlag funcs && anyNodeList false isVar args || irreducibleByList false args) := by
  simp only [irreducibleBy, irreducibleByList, anyNode, badConditional, stableOverColumn,
    Bool.false_or, Bool.or_left_comm]

/-! ## The verdict -/

mutual
/-- The walker's verdict, and, when it is false, the columns it saw outside conditionals. -/
theorem masterIrreducibleExpressionWalker_spec (e : Node) (state : WalkerState) :
    (masterIrreducibleExpressionWalker e state).1 = irreducibleBy false e ∧
      ((masterIrreducibleExpressionWalker e state).1 = false →
        (masterIrreducibleExpressionWalker e state).2.containsVar =
          (state.containsVar || anyNode false isVar e)) := by
  match e with
  | .var _ _ | .const _ _ | .param _ =>
    simp [masterIrreducibleExpressionWalker, irreducibleBy, anyNode, isVar, badConditional,
      stableOverColumn]
  | .coalesceExpr args | .caseExpr args =>
    simp only [masterIrreducibleExpressionWalker, irreducibleBy, anyNode, isVar,
      badConditional, stableOverColumn]
    split <;> simp_all
  | .expr funcs args =>
    rw [masterIrreducibleExpressionWalker_expr, irreducibleBy_expr]
    obtain ⟨hpass, hpassVar⟩ := expressionTreeWalker_spec args state
    cases hst : stableFlag funcs
    · exact ⟨hpass, hpassVar⟩
    -- a STABLE node walks its children with a fresh state
    obtain ⟨hfresh, hfreshVar⟩ := expressionTreeWalker_spec args ⟨false, false, false⟩
    cases hc : (expressionTreeWalker args ⟨false, false, false⟩).1
    · have hv := hfreshVar hc
      simp only [Bool.false_or] at hv
      cases hargs : anyNodeList false isVar args <;>
        simp [← hfresh, hc, hv, hargs, anyNode, isVar]
    · simp [← hfresh, hc]

/-- `masterIrreducibleExpressionWalker_spec` over the children of a node. -/
theorem expressionTreeWalker_spec (es : List Node) (state : WalkerState) :
    (expressionTreeWalker es state).1 = irreducibleByList false es ∧
      ((expressionTreeWalker es state).1 = false →
        (expressionTreeWalker es state).2.containsVar =
          (state.containsVar || anyNodeList false isVar es)) := by
  match es with
  | [] => simp [irreducibleByList]
  | e :: es =>
    obtain ⟨he, heVar⟩ := masterIrreducibleExpressionWalker_spec e state
    obtain ⟨hes, hesVar⟩ :=
      expressionTreeWalker_spec es (masterIrreducibleExpressionWalker e state).2
    rw [expressionTreeWalker_cons, irreducibleByList_cons, anyNodeList_cons, ← he]
    cases hw : (masterIrreducibleExpressionWalker e state).1
    · simp only [hw, if_false, Bool.false_or, Bool.false_eq_true]
      refine ⟨hes, fun h => ?_⟩
      rw [hesVar h, heVar hw, Bool.or_assoc]
    · simp
end

/-- **The walker decides `irreducibleBy false`**, whatever state it is given. -/
theorem masterIrreducibleExpressionWalker_verdict (e : Node) (state : WalkerState) :
    (masterIrreducibleExpressionWalker e state).1 = irreducibleBy false e :=
  (masterIrreducibleExpressionWalker_spec e state).1

theorem masterIrreducibleExpression_verdict (e : Node) (varArgument badCoalesce : Bool) :
    (masterIrreducibleExpression (some e) varArgument badCoalesce).1 = irreducibleBy false e :=
  masterIrreducibleExpressionWalker_verdict e _

/-! ## The flags -/

mutual
/-- The walk raises a flag exactly when it answers true: the flags it returns are the flags it
was given, or-ed with its verdict. -/
theorem masterIrreducibleExpressionWalker_flags (e : Node) (state : WalkerState) :
    ((masterIrreducibleExpressionWalker e state).2.varArgument ||
        (masterIrreducibleExpressionWalker e state).2.badCoalesce) =
      (state.varArgument || state.badCoalesce ||
        (masterIrreducibleExpressionWalker e state).1) := by
  match e with
  | .var _ _ | .const _ _ | .param _ => simp [masterIrreducibleExpressionWalker]
  | .coalesceExpr args | .caseExpr args =>
    simp only [masterIrreducibleExpressionWalker]
    split <;> simp
  | .expr funcs args =>
    rw [masterIrreducibleExpressionWalker_expr]
    cases stableFlag funcs
    · exact expressionTreeWalker_flags args state
    -- a STABLE node walks its children with a fresh state
    have hfresh := expressionTreeWalker_flags args ⟨false, false, false⟩
    simp only [Bool.false_or] at hfresh
    simp only [if_true]
    rw [← hfresh]
    simp only [Bool.or_assoc, Bool.or_comm, Bool.or_left_comm]

/-- `masterIrreducibleExpressionWalker_flags` over the children of a node. -/
theorem expressionTreeWalker_flags (es : List Node) (state : WalkerState) :
    ((expressionTreeWalker es state).2.varArgument ||
        (expressionTreeWalker es state).2.badCoalesce) =
      (state.varArgument || state.badCoalesce || (expressionTreeWalker es state).1) := by
  match es with
  | [] => simp
  | e :: es =>
    have he := masterIrreducibleExpressionWalker_flags e state
    have hes := expressionTreeWalker_flags es (masterIrreducibleExpressionWalker e state).2
    rw [expressionTreeWalker_cons]
    cases hw : (masterIrreducibleExpressionWalker e state).1
    · simp only [hw, Bool.or_false] at he
      simp only [hw, if_false, Bool.false_eq_true, hes, he]
    · simp only [hw, Bool.or_true] at he
      simp [he]
end

/-- What a walk adds to the state it is given: the two states or-ed field by field. -/
def WalkerState.merge (state found : WalkerState) : WalkerState :=
  ⟨state.containsVar || found.containsVar, state.varArgument || found.varArgument,
    state.badCoalesce || found.badCoalesce⟩

@[simp] theorem WalkerState.merge_fresh (state : WalkerState) :
    state.merge ⟨false, false, false⟩ = state := by
  simp [WalkerState.merge]

theorem WalkerState.merge_assoc (state found found' : WalkerState) :
    (state.merge found).merge found' = state.merge (found.merge found') := by
  simp [WalkerState.merge, Bool.or_assoc]

mutual
/-- **The walk only adds to the state it is given.** A walk from any state answers as the walk
from the fresh state and returns that walk's findings or-ed into the given state: the state
passed down to the children of a node that is not STABLE is only ever or-ed into, and a STABLE
node walks its children from a fresh state anyway. -/
theorem masterIrreducibleExpressionWalker_frame (e : Node) (state : WalkerState) :
    masterIrreducibleExpressionWalker e state =
      ((masterIrreducibleExpressionWalker e ⟨false, false, false⟩).1,
        state.merge (masterIrreducibleExpressionWalker e ⟨false, false, false⟩).2) := by
  match e with
  | .var _ _ | .const _ _ | .param _ =>
    simp [masterIrreducibleExpressionWalker, WalkerState.merge]
  | .coalesceExpr args | .caseExpr args =>
    simp only [masterIrreducibleExpressionWalker]
    split <;> simp [WalkerState.merge]
  | .expr funcs args =>
    rw [masterIrreducibleExpressionWalker_expr, masterIrreducibleExpressionWalker_expr]
    cases stableFlag funcs
    · exact expressionTreeWalker_frame args state
    · simp [WalkerState.merge, Bool.or_assoc]

/-- `masterIrreducibleExpressionWalker_frame` over the children of a node: the walk stops at
the same child whatever the state, since each child's answer does not depend on it. -/
theorem expressionTreeWalker_frame (es : List Node) (state : WalkerState) :
    expressionTreeWalker es state =
      ((expressionTreeWalker es ⟨false, false, false⟩).1,
        state.merge (expressionTreeWalker es ⟨false, false, false⟩).2) := by
  match es with
  | [] => simp
  | e :: es =>
    rw [expressionTreeWalker_cons, expressionTreeWalker_cons,
      masterIrreducibleExpressionWalker_frame e state]
    cases hw : (masterIrreducibleExpressionWalker e ⟨false, false, false⟩).1
    · simp only [hw, Bool.false_eq_true, if_false]
      rw [expressionTreeWalker_frame es,
        expressionTreeWalker_frame es (masterIrreducibleExpressionWalker e _).2,
        WalkerState.merge_assoc]
    · simp
end

/-- A walk that answers false leaves both flags as it found them. -/
theorem masterIrreducibleExpressionWalker_keepsFlags {e : Node} {state : WalkerState}
    (h : (masterIrreducibleExpressionWalker e state).1 = false) :
    (masterIrreducibleExpressionWalker e state).2.varArgument = state.varArgument ∧
      (masterIrreducibleExpressionWalker e state).2.badCoalesce = state.badCoalesce := by
  have hfresh := masterIrreducibleExpressionWalker_flags e ⟨false, false, false⟩
  rw [masterIrreducibleExpressionWalker_frame] at h ⊢
  dsimp only at h
  simp only [h, Bool.or_self, Bool.or_eq_false_iff] at hfresh
  simp [WalkerState.merge, hfresh]

/-- `MasterIrreducibleExpression` ors one flag into `*varArgument` and one into `*badCoalesce`,
and answers true exactly when one of the two is set. -/
theorem masterIrreducibleExpression_raises (expression : Option Node)
    (varArgument badCoalesce : Bool) :
    ∃ raisedVarArgument raisedBadCoalesce,
      masterIrreducibleExpression expression varArgument badCoalesce =
        (raisedVarArgument || raisedBadCoalesce, varArgument || raisedVarArgument,
          badCoalesce || raisedBadCoalesce) := by
  cases expression with
  | none => exact ⟨false, false, by simp [masterIrreducibleExpression]⟩
  | some e =>
    have hwalk := masterIrreducibleExpressionWalker_flags e ⟨false, false, false⟩
    simp only [Bool.false_or] at hwalk
    exact ⟨(masterIrreducibleExpressionWalker e ⟨false, false, false⟩).2.varArgument,
      (masterIrreducibleExpressionWalker e ⟨false, false, false⟩).2.badCoalesce,
      by simp [masterIrreducibleExpression, hwalk]⟩

/-- A STABLE function over `COALESCE(col, 0)`: a column reaches a STABLE function, yet the walk
stops at the COALESCE and the expression is accepted. -/
def stableOverCoalescedColumn : Node :=
  .expr [.stable] [.coalesceExpr [.var 1 2, .const 0 false]]

theorem masterIrreducibleExpression_stableOverCoalescedColumn :
    containVolatileFunctions [stableOverCoalescedColumn] = false ∧
      irreducibleBy true stableOverCoalescedColumn = true ∧
      masterIrreducibleExpression (some stableOverCoalescedColumn) false false =
        (false, false, false) := by
  decide

end RouterPlanner
