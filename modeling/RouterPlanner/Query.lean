import Mathlib.Data.List.Basic

/-!
# Query trees and planning errors

The part of PostgreSQL's parse tree that `multi_router_planner.c` reads.

**Expressions** (`Node`). A column reference, a constant, a parameter, `COALESCE`, `CASE`, and
every other node kind as one constructor that carries the volatility of each function the
node calls itself (`check_functions_in_node`) and its children. A function is known to the
planner only through `func_volatile`, so it is recorded by its volatility.

**Queries** (`Query`). The command type, the range-table entries (as
`ExtractRangeTableEntryWalker` lists them, sub-queries included), the target list, the
`WHERE` clause, `RETURNING`, `ON CONFLICT`, the common table expressions and two flags.

**Errors.** A `DeferredErrorMessage` is a value the planner returns: the statement is not
routable here and the caller tries another planner. An `ereport(ERROR, ...)` aborts the
statement; it is the `.error` side of `Except ErrorReport`.
-/

namespace RouterPlanner

/-! ## Expressions -/

/-- `PROVOLATILE_IMMUTABLE`, `PROVOLATILE_STABLE`, `PROVOLATILE_VOLATILE`. -/
inductive Volatility where
  | immutable
  | stable
  | volatile
deriving DecidableEq, Repr

/-- An expression tree. -/
inductive Node where
  /-- `Var`: attribute `varattno` of range-table entry `varno`. -/
  | var (varno varattno : Nat)
  /-- `Const`. -/
  | const (constvalue : Nat) (constisnull : Bool)
  /-- `Param`: a value known only at execution. -/
  | param (paramid : Nat)
  /-- `CoalesceExpr`. -/
  | coalesceExpr (args : List Node)
  /-- `CaseExpr`: its test expression, `WHEN` clauses and default, in order. -/
  | caseExpr (args : List Node)
  /-- Any other node (`FuncExpr`, `OpExpr`, `BoolExpr`, ...): the volatilities of the
  functions the node itself calls, and its children. -/
  | expr (funcs : List Volatility) (args : List Node)
deriving Repr

/-- A `Var` on its own, as `PartitionColumn` returns it. -/
structure Var where
  varno : Nat
  varattno : Nat
deriving DecidableEq, Repr

/-- The `Var` as an expression. -/
def Var.toNode (var : Var) : Node := .var var.varno var.varattno

namespace Node

mutual
/-- The volatility of every function called anywhere in the tree. -/
def functions : Node → List Volatility
  | .coalesceExpr args => functionsList args
  | .caseExpr args => functionsList args
  | .expr funcs args => funcs ++ functionsList args
  | _ => []

/-- `functions` over a list of trees. -/
def functionsList : List Node → List Volatility
  | [] => []
  | e :: es => functions e ++ functionsList es
end

/-- The functions `check_functions_in_node` visits: those of the node itself. -/
def ownFunctions : Node → List Volatility
  | .expr funcs _ => funcs
  | _ => []

end Node

/-- `contain_mutable_functions`: some function in the trees is not IMMUTABLE. -/
def containMutableFunctions (nodes : List Node) : Bool :=
  (Node.functionsList nodes).any (· != .immutable)

/-- `contain_volatile_functions`: some function in the trees is VOLATILE. -/
def containVolatileFunctions (nodes : List Node) : Bool :=
  (Node.functionsList nodes).any (· == .volatile)

/-- `check_functions_in_node`: run `checker` over the node's own functions, threading its
context and stopping at the first that returns true. -/
def checkFunctionsInNode {σ : Type} (checker : Volatility → σ → Bool × σ) :
    List Volatility → σ → Bool × σ
  | [], context => (false, context)
  | f :: fs, context =>
    match checker f context with
    | (true, context') => (true, context')
    | (false, context') => checkFunctionsInNode checker fs context'

@[simp] theorem functionsList_nil : Node.functionsList [] = [] := rfl

@[simp] theorem functionsList_cons (e : Node) (es : List Node) :
    Node.functionsList (e :: es) = e.functions ++ Node.functionsList es := rfl

/-! ## Queries -/

/-- `CmdType`, the four commands the router planner sees. -/
inductive CmdType where
  | select
  | insert
  | update
  | delete
deriving DecidableEq, Repr

/-- `RTEKind`. -/
inductive RTEKind where
  | relation
  | subquery
  | join
  | function
  | values
  | cte
deriving DecidableEq, Repr

/-- `relkind` of a relation: only views are told apart. -/
inductive RelKind where
  | relation
  | view
deriving DecidableEq, Repr

/-- `ACL_UPDATE`, PostgreSQL's privilege bit for `UPDATE`. -/
def aclUpdate : Nat := 4

/-- `ACL_DELETE`, PostgreSQL's privilege bit for `DELETE`. -/
def aclDelete : Nat := 8

/-- `RangeTblEntry`. `shardId` is the shard that `UpdateRelationToShardNames` made the entry
read (`CITUS_RTE_SHARD`); it is `none` in a parsed query. -/
structure RangeTblEntry where
  rtekind : RTEKind
  relid : Nat
  relkind : RelKind
  requiredPerms : Nat
  shardId : Option Nat
deriving DecidableEq, Repr

/-- `TargetEntry`: `resno` is the target column's attribute number. -/
structure TargetEntry where
  expr : Node
  resno : Nat
  resjunk : Bool
deriving Repr

/-- `FromExpr`, of which only the qualifiers are read. -/
structure FromExpr where
  quals : Option Node
deriving Repr

/-- `OnConflictExpr`. -/
structure OnConflictExpr where
  onConflictSet : List TargetEntry
  arbiterWhere : Option Node
  onConflictWhere : Option Node
deriving Repr

/-- `CommonTableExpr`, of which only the command of `ctequery` is read. -/
structure CommonTableExpr where
  ctequeryCommandType : CmdType
deriving Repr

/-- `Query`. `rtable` lists every range-table entry of the query and of its sub-queries, in the
order `ExtractRangeTableEntryWalker` finds them: the entries of a sub-select in the target list
or the `WHERE` clause come before the query's own. `resultRelation` counts from 1 in that list
and names the entry the statement writes (PostgreSQL numbers the same entry in the query's own
range table); it is 0 for a SELECT. -/
structure Query where
  commandType : CmdType
  rtable : List RangeTblEntry
  resultRelation : Nat
  targetList : List TargetEntry
  jointree : Option FromExpr
  returningList : List TargetEntry
  onConflict : Option OnConflictExpr
  cteList : List CommonTableExpr
  hasSubLinks : Bool
  hasForUpdate : Bool
deriving Repr

/-- `rt_fetch(resultRelation, rtable)`: the entry the statement writes, `none` for a SELECT. -/
def Query.resultRelationRTE (query : Query) : Option RangeTblEntry :=
  if query.resultRelation = 0 then none else query.rtable[query.resultRelation - 1]?

/-- `UpdateOrDeleteQuery`. -/
def updateOrDeleteQuery (query : Query) : Bool :=
  query.commandType == .update || query.commandType == .delete

/-! ## Errors -/

/-- The SQLSTATE codes the router planner raises. -/
inductive SqlState where
  | featureNotSupported
  | nullValueNotAllowed
  | objectNotInPrerequisiteState
  | internalError
deriving DecidableEq, Repr

/-- `DeferredErrorMessage`: the statement is valid but not routable by this planner. -/
structure DeferredErrorMessage where
  code : SqlState
  message : String
  detail : Option String
  hint : Option String
deriving DecidableEq, Repr

/-- `DeferredError`. -/
def deferredError (code : SqlState) (message : String) (detail hint : Option String) :
    DeferredErrorMessage :=
  ⟨code, message, detail, hint⟩

/-- An `ereport(ERROR, ...)`, which aborts the statement. -/
structure ErrorReport where
  code : SqlState
  message : String
  detail : Option String := none
  hint : Option String := none
deriving DecidableEq, Repr

/-- A computation of the planner that may `ereport(ERROR, ...)`. -/
abbrev Planning := Except ErrorReport

theorem bind_eq_ok {ε α β : Type} {x : Except ε α} {f : α → Except ε β} {b : β} :
    (x >>= f) = .ok b ↔ ∃ a, x = .ok a ∧ f a = .ok b := by
  cases x <;> simp only [bind, Except.bind, reduceCtorEq, false_and, exists_false,
    Except.ok.injEq, exists_eq_left']

@[simp] theorem pure_eq_ok {ε α : Type} (a : α) : (pure a : Except ε α) = .ok a := rfl

@[simp] theorem ok_bind {ε α β : Type} (a : α) (f : α → Except ε β) :
    ((Except.ok a : Except ε α) >>= f) = f a := rfl

@[simp] theorem throw_eq_error {ε α : Type} (e : ε) : (throw e : Except ε α) = .error e :=
  rfl

@[simp] theorem error_bind {ε α β : Type} (e : ε) (f : α → Except ε β) :
    ((Except.error e : Except ε α) >>= f) = .error e := rfl

end RouterPlanner
