import Mathlib.Data.List.Basic
import SqlDialect.Proofs.Statement.Operands
import SqlDialect.Render.Definition
import SqlDialect.Render.Query

/-!
# The leaves that a statement writes

The leaves of a statement in the order in which they are written, each in the scope in
which it is written.  The labels in an ORDER BY clause are not written, the defaults in a
table definition are written where values are inlined, and so are the row counts of
OpenEdge, which writes the offset first.
-/

namespace SqlDialect

namespace Expr

mutual

/-- The leaves that an expression writes. -/
def leaves (scope : Scope) : Expr → List (Scope × Operand)
  | operand leaf => [(scope, leaf)]
  | unary _ argument => argument.leaves scope
  | binary _ left right => left.leaves scope ++ right.leaves scope
  | cast argument target =>
    argument.leaves (scope.entering .casting) ++ target.leaves (scope.entering .casting)
  | labelled argument label =>
    if scope.clause = .selectOrderBy then argument.leaves scope
    else argument.leaves scope ++ label.leaves scope
  | currentTimestamp => []
  | currentDate => []
  | call name arguments => (scope, .raw name) :: leavesOf scope arguments
  | nextValue _ => []

/-- The leaves that the expressions write, one after the other. -/
def leavesOf (scope : Scope) : List Expr → List (Scope × Operand)
  | [] => []
  | e :: rest => e.leaves scope ++ leavesOf scope rest

end

theorem leavesOf_eq (scope : Scope) (es : List Expr) :
  leavesOf scope es = es.flatMap (leaves scope)
  := by
  induction es with
  | nil => rfl
  | cons e rest ih => rw [leavesOf, ih, List.flatMap_cons]

/-- What is written of an expression is among its leaves. -/
theorem mem_operands_of_mem_leaves {scope : Scope} {e : Expr} {leaf : Scope × Operand}
    (h : leaf ∈ e.leaves scope) :
  leaf.2 ∈ e.operands
  := by
  induction e using induction generalizing scope with
  | operand o =>
    rw [leaves, List.mem_singleton] at h
    simp [operands, h]
  | unary op argument ih => apply ih h
  | binary op left right ihl ihr =>
    rw [operands]
    rw [leaves, List.mem_append] at h
    apply List.mem_append.mpr (h.imp ihl ihr)
  | cast argument target iha iht =>
    rw [operands]
    rw [leaves, List.mem_append] at h
    apply List.mem_append.mpr (h.imp iha iht)
  | labelled argument label iha ihl =>
    rw [operands]
    rw [leaves] at h
    split at h
    · apply List.mem_append_left _ (iha h)
    · rw [List.mem_append] at h
      apply List.mem_append.mpr (h.imp iha ihl)
  | currentTimestamp => cases h
  | currentDate => cases h
  | call name arguments ih =>
    rw [operands, operandsOf_eq]
    rw [leaves, leavesOf_eq] at h
    obtain rfl | h := List.mem_cons.mp h
    · apply List.mem_cons_self
    · obtain ⟨e, he, h⟩ := List.mem_flatMap.mp h
      apply List.mem_cons_of_mem
      apply List.mem_flatMap.mpr ⟨e, he, ih e he h⟩
  | nextValue sequence => cases h

/-- Replacing the leaves replaces what is written. -/
theorem leaves_mapOperands {f : Operand → Operand} (hf : ∀ name, f (.raw name) = .raw name)
    (scope : Scope) (e : Expr) :
  (e.mapOperands f).leaves scope = (e.leaves scope).map (Prod.map id f)
  := by
  induction e using induction generalizing scope with
  | operand leaf => rfl
  | unary op argument ih => apply ih
  | binary op left right ihl ihr => simp [mapOperands, leaves, ihl, ihr]
  | cast argument target iha iht => simp [mapOperands, leaves, iha, iht]
  | labelled argument label iha ihl =>
    rw [mapOperands, leaves, leaves, iha, ihl]
    split
    · rfl
    · rw [List.map_append]
  | currentTimestamp => rfl
  | currentDate => rfl
  | call name arguments ih =>
    rw [mapOperands, mapOperandsOf_eq, leaves, leaves, leavesOf_eq, leavesOf_eq, List.map_cons,
      Prod.map_apply, hf, List.flatMap_map, List.map_flatMap]
    congr 1
    apply List.flatMap_congr
    intro e he
    apply ih e he
  | nextValue sequence => rfl

/-- The leaves that an expression writes, if there is one. -/
def optionLeaves (scope : Scope) (e : Option Expr) : List (Scope × Operand) :=
  e.toList.flatMap (leaves scope)

end Expr

/-- The scope in which the limits on the rows of a query are written. -/
def Scope.pagination : Scope := (Scope.qualifying {}).entering .selectPagination

/-- The leaves of the clauses that limit the rows of a query. -/
def SelectQuery.paginationLeaves (style : Style) (scope : Scope) (q : SelectQuery) :
    List (Scope × Operand) :=
  match style, q.fetch with
  | .standard _, some fetch => Expr.optionLeaves scope q.offset ++ fetch.count.leaves scope
  | .standard _, none => Expr.optionLeaves scope q.limit ++ Expr.optionLeaves scope q.offset
  | .openEdge, some fetch =>
    Expr.optionLeaves scope.inlining q.offset ++ fetch.count.leaves scope.inlining
  | .openEdge, none =>
    Expr.optionLeaves scope.inlining q.offset ++ Expr.optionLeaves scope.inlining q.limit

/-- The leaves of a query. -/
def SelectQuery.leaves (style : Style) (scope : Scope) (q : SelectQuery) :
    List (Scope × Operand) :=
  q.columns.flatMap (Expr.leaves (scope.qualifying.entering .select))
    ++ Expr.optionLeaves (scope.qualifying.entering .selectWhere) q.condition
    ++ q.orderBy.flatMap (fun key => key.expr.leaves (scope.qualifying.entering .selectOrderBy))
    ++ q.paginationLeaves style (scope.qualifying.entering .selectPagination)

/-- The leaves that a statement writes. -/
def Statement.leaves (style : Style) (scope : Scope) : Statement → List (Scope × Operand)
  | select q => q.leaves style scope
  | insert q => q.rows.flatten.flatMap (Expr.leaves (scope.entering .insertValues))
  | update q =>
    q.assignments.flatMap (fun assignment => assignment.2.leaves (scope.entering .updateSet))
      ++ Expr.optionLeaves (scope.entering .updateWhere) q.condition
  | delete q => Expr.optionLeaves (scope.entering .deleteWhere) q.condition
  | createTable d =>
    d.columns.flatMap fun c => Expr.optionLeaves (scope.entering .createTable).inlining c.default
  | dropTable _ => []
  | addConstraint _ => []

/-! ## Replacing leaves -/

theorem flatMap_map_of_forall {α β : Type} {f : α → α} {g : β → β} {leaves : α → List β}
    (h : ∀ x, leaves (f x) = (leaves x).map g) (xs : List α) :
  (xs.map f).flatMap leaves = (xs.flatMap leaves).map g
  := by
  rw [List.flatMap_map, List.map_flatMap]
  apply List.flatMap_congr
  intro x _
  apply h

section Replacing

variable {f : Operand → Operand} (hf : ∀ name, f (.raw name) = .raw name)
include hf

theorem Expr.optionLeaves_map (scope : Scope) (count : Option Expr) :
  optionLeaves scope (count.map (mapOperands f))
    = (optionLeaves scope count).map (Prod.map id f)
  := by
  rw [optionLeaves, Option.toList_map]
  apply flatMap_map_of_forall (leaves_mapOperands hf scope)

theorem SelectQuery.paginationLeaves_mapExprs (style : Style) (scope : Scope) (q : SelectQuery) :
  (q.mapExprs (Expr.mapOperands f)).paginationLeaves style scope
    = (q.paginationLeaves style scope).map (Prod.map id f)
  := by
  have hoption := Expr.optionLeaves_map hf
  have hleaves := Expr.leaves_mapOperands hf
  cases style <;> cases hfetch : q.fetch <;>
    simp only [paginationLeaves, mapExprs, hfetch, Option.map_some, Option.map_none,
      List.map_append, hoption, hleaves]

theorem SelectQuery.leaves_mapExprs (style : Style) (scope : Scope) (q : SelectQuery) :
  (q.mapExprs (Expr.mapOperands f)).leaves style scope
    = (q.leaves style scope).map (Prod.map id f)
  := by
  rw [leaves, leaves, paginationLeaves_mapExprs hf, List.map_append, List.map_append,
    List.map_append]
  congr 1
  congr 1
  · congr 1
    · apply flatMap_map_of_forall (Expr.leaves_mapOperands hf _)
    · apply Expr.optionLeaves_map hf
  · apply flatMap_map_of_forall
    intro key
    apply Expr.leaves_mapOperands hf

/-- Replacing the leaves of a statement replaces what is written. -/
theorem Statement.leaves_mapOperands (style : Style) (scope : Scope) (s : Statement) :
  (s.mapOperands f).leaves style scope = (s.leaves style scope).map (Prod.map id f)
  := by
  cases s with
  | select q => apply SelectQuery.leaves_mapExprs hf
  | insert q =>
    rw [mapOperands, mapExprs, leaves, leaves, InsertQuery.mapExprs, ← List.map_flatten]
    apply flatMap_map_of_forall (Expr.leaves_mapOperands hf _)
  | update q =>
    rw [mapOperands, mapExprs, leaves, leaves, List.map_append, ← Expr.optionLeaves_map hf]
    congr 1
    apply flatMap_map_of_forall
    intro assignment
    apply Expr.leaves_mapOperands hf
  | delete q => apply Expr.optionLeaves_map hf
  | createTable d =>
    apply flatMap_map_of_forall
    intro c
    apply Expr.optionLeaves_map hf
  | dropTable t => rfl
  | addConstraint c => rfl

end Replacing

/-! ## Leaves and operands -/

theorem Expr.mem_operands_of_mem_flatMap {scope : Scope} {es es' : List Expr}
    {leaf : Scope × Operand} (hes : es ⊆ es') (h : leaf ∈ es.flatMap (leaves scope)) :
  ∃ e ∈ es', leaf.2 ∈ e.operands
  := by
  obtain ⟨e, he, hleaf⟩ := List.mem_flatMap.mp h
  use e, hes he, mem_operands_of_mem_leaves hleaf

theorem SelectQuery.mem_operands_of_mem_paginationLeaves {style : Style} {scope : Scope}
    {q : SelectQuery} {leaf : Scope × Operand} (h : leaf ∈ q.paginationLeaves style scope) :
  ∃ e ∈ q.exprs, leaf.2 ∈ e.operands
  := by
  have hlimit : q.limit.toList ⊆ q.exprs := by
    intro e he
    simp only [exprs, List.mem_append, he, true_or, or_true]
  have hoffset : q.offset.toList ⊆ q.exprs := by
    intro e he
    simp only [exprs, List.mem_append, he, true_or, or_true]
  cases hfetch : q.fetch with
  | none =>
    cases style with
    | standard needed =>
      simp only [paginationLeaves, hfetch, List.mem_append] at h
      obtain h | h := h
      · apply Expr.mem_operands_of_mem_flatMap hlimit h
      · apply Expr.mem_operands_of_mem_flatMap hoffset h
    | openEdge =>
      simp only [paginationLeaves, hfetch, List.mem_append] at h
      obtain h | h := h
      · apply Expr.mem_operands_of_mem_flatMap hoffset h
      · apply Expr.mem_operands_of_mem_flatMap hlimit h
  | some fetch =>
    have hcount : fetch.count ∈ q.exprs := by simp [exprs, hfetch]
    cases style with
    | standard needed =>
      simp only [paginationLeaves, hfetch, List.mem_append] at h
      obtain h | h := h
      · apply Expr.mem_operands_of_mem_flatMap hoffset h
      · use fetch.count, hcount, Expr.mem_operands_of_mem_leaves h
    | openEdge =>
      simp only [paginationLeaves, hfetch, List.mem_append] at h
      obtain h | h := h
      · apply Expr.mem_operands_of_mem_flatMap hoffset h
      · use fetch.count, hcount, Expr.mem_operands_of_mem_leaves h

theorem SelectQuery.mem_operands_of_mem_leaves {style : Style} {scope : Scope}
    {q : SelectQuery} {leaf : Scope × Operand} (h : leaf ∈ q.leaves style scope) :
  ∃ e ∈ q.exprs, leaf.2 ∈ e.operands
  := by
  simp only [leaves, List.mem_append] at h
  obtain ((h | h) | h) | h := h
  · apply Expr.mem_operands_of_mem_flatMap _ h
    simp [exprs]
  · apply Expr.mem_operands_of_mem_flatMap _ h
    simp [exprs]
  · rw [← List.flatMap_map (f := OrderKey.expr) (g := Expr.leaves _)] at h
    apply Expr.mem_operands_of_mem_flatMap _ h
    intro e he
    simp only [exprs, List.mem_append, he, true_or, or_true]
  · apply mem_operands_of_mem_paginationLeaves h

/-- What is written of a statement is among its leaves. -/
theorem Statement.mem_operands_of_mem_leaves {style : Style} {scope : Scope} {s : Statement}
    {leaf : Scope × Operand} (h : leaf ∈ s.leaves style scope) :
  leaf.2 ∈ s.operands
  := by
  rw [operands, List.mem_flatMap]
  cases s with
  | select q => apply SelectQuery.mem_operands_of_mem_leaves h
  | insert q => apply Expr.mem_operands_of_mem_flatMap (List.Subset.refl _) h
  | update q =>
    obtain h | h := List.mem_append.mp h
    · rw [← List.flatMap_map (f := Prod.snd) (g := Expr.leaves _)] at h
      apply Expr.mem_operands_of_mem_flatMap _ h
      simp [exprs]
    · apply Expr.mem_operands_of_mem_flatMap _ h
      simp [exprs]
  | delete q => apply Expr.mem_operands_of_mem_flatMap (List.Subset.refl _) h
  | createTable d =>
    obtain ⟨c, hc, h⟩ := List.mem_flatMap.mp h
    apply Expr.mem_operands_of_mem_flatMap _ h
    intro e he
    apply List.mem_filterMap.mpr ⟨c, hc, Option.mem_toList.mp he⟩
  | dropTable t => cases h
  | addConstraint c => cases h

end SqlDialect
