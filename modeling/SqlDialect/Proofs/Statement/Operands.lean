import SqlDialect.Proofs.Expr.Operands
import SqlDialect.Statement.Basic

/-!
# The operands and the nodes of statements

The expressions in a statement, the statement with its expressions replaced one by one,
and through them the leaves of a statement and the statement with its leaves replaced.  The
nodes of an expression are the expressions that it is made of, itself included.
-/

namespace SqlDialect

/-- The expressions of a query. -/
def SelectQuery.exprs (q : SelectQuery) : List Expr :=
  q.columns ++ q.condition.toList ++ q.orderBy.map (·.expr) ++ q.limit.toList ++ q.offset.toList
    ++ (q.fetch.map (·.count)).toList

theorem SelectQuery.forall_mem_exprs {P : Expr → Prop} {q : SelectQuery} :
  (∀ e ∈ q.exprs, P e)
    ↔ (∀ e ∈ q.columns, P e) ∧ (∀ e ∈ q.condition, P e) ∧ (∀ key ∈ q.orderBy, P key.expr)
      ∧ (∀ e ∈ q.limit, P e) ∧ (∀ e ∈ q.offset, P e) ∧ ∀ e ∈ q.fetch.map (·.count), P e
  := by
  simp only [exprs, List.forall_mem_append, List.forall_mem_map, Option.mem_toList, Option.mem_def,
    and_assoc]

/-- The query with each expression `e` replaced by `f e`. -/
def SelectQuery.mapExprs (f : Expr → Expr) (q : SelectQuery) : SelectQuery :=
  { q with
    columns := q.columns.map f
    condition := q.condition.map f
    orderBy := q.orderBy.map fun key => { key with expr := f key.expr }
    limit := q.limit.map f
    offset := q.offset.map f
    fetch := q.fetch.map fun fetch => { fetch with count := f fetch.count } }

/-- The insertion with each expression `e` replaced by `f e`. -/
def InsertQuery.mapExprs (f : Expr → Expr) (q : InsertQuery) : InsertQuery :=
  { q with rows := q.rows.map (·.map f) }

/-- The update with each expression `e` replaced by `f e`. -/
def UpdateQuery.mapExprs (f : Expr → Expr) (q : UpdateQuery) : UpdateQuery :=
  { q with
    assignments := q.assignments.map fun (column, value) => (column, f value)
    condition := q.condition.map f }

/-- The deletion with its condition `e` replaced by `f e`. -/
def DeleteQuery.mapExprs (f : Expr → Expr) (q : DeleteQuery) : DeleteQuery :=
  { q with condition := q.condition.map f }

/-- The column with its default `e` replaced by `f e`. -/
def ColumnDef.mapExprs (f : Expr → Expr) (c : ColumnDef) : ColumnDef :=
  { c with default := c.default.map f }

/-- The table definition with each default `e` replaced by `f e`. -/
def TableDef.mapExprs (f : Expr → Expr) (d : TableDef) : TableDef :=
  { d with columns := d.columns.map (ColumnDef.mapExprs f) }

namespace Statement

/-- The expressions of a statement. -/
def exprs : Statement → List Expr
  | select q => q.exprs
  | insert q => q.rows.flatten
  | update q => q.assignments.map (·.2) ++ q.condition.toList
  | delete q => q.condition.toList
  | createTable d => d.columns.filterMap (·.default)
  | dropTable _ => []
  | addConstraint _ => []

/-- The statement with each expression `e` replaced by `f e`. -/
def mapExprs (f : Expr → Expr) : Statement → Statement
  | select q => select (q.mapExprs f)
  | insert q => insert (q.mapExprs f)
  | update q => update (q.mapExprs f)
  | delete q => delete (q.mapExprs f)
  | createTable d => createTable (d.mapExprs f)
  | dropTable t => dropTable t
  | addConstraint c => addConstraint c

/-- The leaves of a statement. -/
def operands (s : Statement) : List Operand :=
  s.exprs.flatMap Expr.operands

/-- The statement with each leaf `o` replaced by `f o`. -/
def mapOperands (f : Operand → Operand) (s : Statement) : Statement :=
  s.mapExprs (Expr.mapOperands f)

end Statement

/-! ## Nodes -/

namespace Expr

mutual

/-- The expressions that an expression is made of, from the outside to the inside. -/
def nodes : Expr → List Expr
  | operand leaf => [operand leaf]
  | unary op argument => unary op argument :: argument.nodes
  | binary op left right => binary op left right :: (left.nodes ++ right.nodes)
  | cast argument target => cast argument target :: (argument.nodes ++ target.nodes)
  | labelled argument label => labelled argument label :: (argument.nodes ++ label.nodes)
  | currentTimestamp => [currentTimestamp]
  | currentDate => [currentDate]
  | call name arguments => call name arguments :: nodesOf arguments
  | nextValue sequence => [nextValue sequence]

/-- The nodes of the expressions, one after the other. -/
def nodesOf : List Expr → List Expr
  | [] => []
  | e :: rest => e.nodes ++ nodesOf rest

end

theorem nodesOf_eq (es : List Expr) :
  nodesOf es = es.flatMap nodes
  := by
  induction es with
  | nil => rfl
  | cons e rest ih => rw [nodesOf, ih, List.flatMap_cons]

end Expr

/-- The expressions that a statement is made of. -/
def Statement.nodes (s : Statement) : List Expr :=
  s.exprs.flatMap Expr.nodes

end SqlDialect
