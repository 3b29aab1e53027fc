import SqlDialect.Proofs.Render.Leaves

/-!
# The expressions that a statement writes

What is written of an expression: the expressions that it is made of, from the outside to
the inside, each in the scope in which it is written.  The labels in an ORDER BY clause are
not written.  The expressions of a statement stand in the order in which they are written.
-/

namespace SqlDialect

namespace Expr

mutual

/-- The expressions that are written of an expression, from the outside to the inside. -/
def written (scope : Scope) : Expr → List (Scope × Expr)
  | operand leaf => [(scope, operand leaf)]
  | unary op argument => (scope, unary op argument) :: argument.written scope
  | binary op left right =>
    (scope, binary op left right) :: (left.written scope ++ right.written scope)
  | cast argument target =>
    (scope, cast argument target)
      :: (argument.written (scope.entering .casting) ++ target.written (scope.entering .casting))
  | labelled argument label =>
    (scope, labelled argument label)
      :: if scope.clause = .selectOrderBy then argument.written scope
        else argument.written scope ++ label.written scope
  | currentTimestamp => [(scope, currentTimestamp)]
  | currentDate => [(scope, currentDate)]
  | call name arguments => (scope, call name arguments) :: writtenOf scope arguments
  | nextValue sequence => [(scope, nextValue sequence)]

/-- What is written of the expressions, one after the other. -/
def writtenOf (scope : Scope) : List Expr → List (Scope × Expr)
  | [] => []
  | e :: rest => e.written scope ++ writtenOf scope rest

end

theorem writtenOf_eq (scope : Scope) (es : List Expr) :
  writtenOf scope es = es.flatMap (written scope)
  := by
  induction es with
  | nil => rfl
  | cons e rest ih => rw [writtenOf, ih, List.flatMap_cons]

/-! ## Properties of what is written -/

section

variable {P : Scope × Expr → Prop} {scope : Scope}

theorem forall_written_unary {op : UnaryOp} {argument : Expr} :
  (∀ node ∈ (unary op argument).written scope, P node)
    ↔ P (scope, unary op argument) ∧ ∀ node ∈ argument.written scope, P node
  := List.forall_mem_cons

theorem forall_written_binary {op : BinaryOp} {left right : Expr} :
  (∀ node ∈ (binary op left right).written scope, P node)
    ↔ P (scope, binary op left right) ∧ (∀ node ∈ left.written scope, P node)
      ∧ ∀ node ∈ right.written scope, P node
  := by
  rw [written, List.forall_mem_cons, List.forall_mem_append]

theorem forall_written_cast {argument target : Expr} :
  (∀ node ∈ (cast argument target).written scope, P node)
    ↔ P (scope, cast argument target)
      ∧ (∀ node ∈ argument.written (scope.entering .casting), P node)
      ∧ ∀ node ∈ target.written (scope.entering .casting), P node
  := by
  rw [written, List.forall_mem_cons, List.forall_mem_append]

/-- Where labels are left out. -/
theorem forall_written_labelled {argument label : Expr} (h : scope.clause = .selectOrderBy) :
  (∀ node ∈ (labelled argument label).written scope, P node)
    ↔ P (scope, labelled argument label) ∧ ∀ node ∈ argument.written scope, P node
  := by
  rw [written, if_pos h, List.forall_mem_cons]

/-- Where labels are written. -/
theorem forall_written_labelled_of_ne {argument label : Expr} (h : scope.clause ≠ .selectOrderBy) :
  (∀ node ∈ (labelled argument label).written scope, P node)
    ↔ P (scope, labelled argument label) ∧ (∀ node ∈ argument.written scope, P node)
      ∧ ∀ node ∈ label.written scope, P node
  := by
  rw [written, if_neg h, List.forall_mem_cons, List.forall_mem_append]

theorem forall_written_call {name : String} {arguments : List Expr} :
  (∀ node ∈ (call name arguments).written scope, P node)
    ↔ P (scope, call name arguments)
      ∧ ∀ e ∈ arguments, ∀ node ∈ e.written scope, P node
  := by
  rw [written, writtenOf_eq, List.forall_mem_cons]
  simp only [List.forall_mem_flatMap]

end

end Expr

/-! ## Statements -/

/-- The expressions in the given scope. -/
def Expr.placed (scope : Scope) (es : List Expr) : List (Scope × Expr) :=
  es.map (scope, ·)

/-- The expressions in the clauses that limit the rows of a query. -/
def SelectQuery.paginationPlaced (style : Style) (scope : Scope) (q : SelectQuery) :
    List (Scope × Expr) :=
  match style, q.fetch with
  | .standard _, some fetch => Expr.placed scope q.offset.toList ++ Expr.placed scope [fetch.count]
  | .standard _, none => Expr.placed scope q.limit.toList ++ Expr.placed scope q.offset.toList
  | .openEdge, some fetch =>
    Expr.placed scope.inlining q.offset.toList ++ Expr.placed scope.inlining [fetch.count]
  | .openEdge, none =>
    Expr.placed scope.inlining q.offset.toList ++ Expr.placed scope.inlining q.limit.toList

/-- The expressions of a query, in the order in which they are written. -/
def SelectQuery.placed (style : Style) (scope : Scope) (q : SelectQuery) : List (Scope × Expr) :=
  Expr.placed (scope.qualifying.entering .select) q.columns
    ++ Expr.placed (scope.qualifying.entering .selectWhere) q.condition.toList
    ++ Expr.placed (scope.qualifying.entering .selectOrderBy) (q.orderBy.map (·.expr))
    ++ q.paginationPlaced style (scope.qualifying.entering .selectPagination)

/-- The expressions of a statement, in the order in which they are written. -/
def Statement.placed (style : Style) (scope : Scope) : Statement → List (Scope × Expr)
  | select q => q.placed style scope
  | insert q => q.rows.flatMap (Expr.placed (scope.entering .insertValues))
  | update q =>
    Expr.placed (scope.entering .updateSet) (q.assignments.map (·.2))
      ++ Expr.placed (scope.entering .updateWhere) q.condition.toList
  | delete q => Expr.placed (scope.entering .deleteWhere) q.condition.toList
  | createTable d =>
    d.columns.flatMap fun c =>
      Expr.placed (scope.entering .createTable).inlining c.default.toList
  | dropTable _ => []
  | addConstraint _ => []

/-! ## Leaves -/

/-- The leaves that expressions in their scopes write. -/
def Expr.leavesAt (places : List (Scope × Expr)) : List (Scope × Operand) :=
  places.flatMap fun place => place.2.leaves place.1

@[simp]
theorem Expr.leavesAt_append (places places' : List (Scope × Expr)) :
  leavesAt (places ++ places') = leavesAt places ++ leavesAt places'
  := List.flatMap_append

@[simp]
theorem Expr.leavesAt_placed (scope : Scope) (es : List Expr) :
  leavesAt (placed scope es) = es.flatMap (leaves scope)
  := List.flatMap_map ..

@[simp]
theorem Expr.leavesAt_flatMap {α : Type} (places : α → List (Scope × Expr)) (xs : List α) :
  leavesAt (xs.flatMap places) = xs.flatMap fun x => leavesAt (places x)
  := List.flatMap_assoc

theorem SelectQuery.leavesAt_paginationPlaced (style : Style) (scope : Scope) (q : SelectQuery) :
  Expr.leavesAt (q.paginationPlaced style scope) = q.paginationLeaves style scope
  := by
  cases style <;> cases hfetch : q.fetch <;>
    simp [paginationPlaced, paginationLeaves, hfetch, Expr.optionLeaves]

/-- A query writes the leaves that its expressions write. -/
theorem SelectQuery.leavesAt_placed (style : Style) (scope : Scope) (q : SelectQuery) :
  Expr.leavesAt (q.placed style scope) = q.leaves style scope
  := by
  simp [placed, leaves, leavesAt_paginationPlaced, Expr.optionLeaves, List.flatMap_map]

/-- A statement writes the leaves that its expressions write. -/
theorem Statement.leavesAt_placed (style : Style) (scope : Scope) (s : Statement) :
  Expr.leavesAt (s.placed style scope) = s.leaves style scope
  := by
  cases s with
  | select q => apply q.leavesAt_placed
  | insert q =>
    rw [placed, leaves, List.flatten_eq_flatMap, List.flatMap_assoc]
    simp
  | update q => simp [placed, leaves, Expr.optionLeaves, List.flatMap_map]
  | delete q => apply Expr.leavesAt_placed
  | createTable d => simp [placed, leaves, Expr.optionLeaves]
  | dropTable t => rfl
  | addConstraint c => rfl

end SqlDialect
