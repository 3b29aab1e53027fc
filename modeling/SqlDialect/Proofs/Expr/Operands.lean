import Mathlib.Tactic.Common
import SqlDialect.Expr.Basic

/-!
# The operands of expressions

The leaves of an expression, from left to right, and the expression with its leaves
replaced one by one.  The name of a function is raw text, and counts as a leaf that is
never replaced.  Expressions are proved about by `Expr.induction`, in which the arguments
of a function come with one hypothesis for each of them.  An expression without its labels is
without them at any depth; one that is not labelled itself binds as strongly then.
-/

namespace SqlDialect.Expr

/-- What holds of the leaves and is kept by every way of combining expressions holds of all. -/
@[elab_as_elim]
theorem induction {P : Expr → Prop}
    (operand : ∀ leaf, P (operand leaf))
    (unary : ∀ op argument, P argument → P (unary op argument))
    (binary : ∀ op left right, P left → P right → P (binary op left right))
    (cast : ∀ argument target, P argument → P target → P (cast argument target))
    (labelled : ∀ argument label, P argument → P label → P (labelled argument label))
    (currentTimestamp : P currentTimestamp)
    (currentDate : P currentDate)
    (call : ∀ name arguments, (∀ e ∈ arguments, P e) → P (call name arguments))
    (nextValue : ∀ sequence, P (nextValue sequence)) (e : Expr) :
  P e
  := by
  refine @Expr.rec P (fun arguments => ∀ e ∈ arguments, P e) operand unary binary cast
    labelled currentTimestamp currentDate call nextValue ?_ ?_ e
  · intro e he
    cases he
  · intro e rest he hrest
    apply List.forall_mem_cons.mpr ⟨he, hrest⟩

mutual

/-- The leaves of an expression, from left to right. -/
def operands : Expr → List Operand
  | operand leaf => [leaf]
  | unary _ argument => argument.operands
  | binary _ left right => left.operands ++ right.operands
  | cast argument target => argument.operands ++ target.operands
  | labelled argument label => argument.operands ++ label.operands
  | currentTimestamp => []
  | currentDate => []
  | call name arguments => .raw name :: operandsOf arguments
  | nextValue _ => []

/-- The leaves of the expressions, one after the other. -/
def operandsOf : List Expr → List Operand
  | [] => []
  | e :: rest => e.operands ++ operandsOf rest

end

theorem operandsOf_eq (es : List Expr) :
  operandsOf es = es.flatMap operands
  := by
  induction es with
  | nil => rfl
  | cons e rest ih => rw [operandsOf, ih, List.flatMap_cons]

mutual

/-- The expression with each leaf `o` replaced by `f o`. -/
def mapOperands (f : Operand → Operand) : Expr → Expr
  | operand leaf => operand (f leaf)
  | unary op argument => unary op (argument.mapOperands f)
  | binary op left right => binary op (left.mapOperands f) (right.mapOperands f)
  | cast argument target => cast (argument.mapOperands f) (target.mapOperands f)
  | labelled argument label => labelled (argument.mapOperands f) (label.mapOperands f)
  | currentTimestamp => currentTimestamp
  | currentDate => currentDate
  | call name arguments => call name (mapOperandsOf f arguments)
  | nextValue sequence => nextValue sequence

/-- The expressions with their leaves replaced. -/
def mapOperandsOf (f : Operand → Operand) : List Expr → List Expr
  | [] => []
  | e :: rest => e.mapOperands f :: mapOperandsOf f rest

end

theorem mapOperandsOf_eq (f : Operand → Operand) (es : List Expr) :
  mapOperandsOf f es = es.map (mapOperands f)
  := by
  induction es with
  | nil => rfl
  | cons e rest ih => rw [mapOperandsOf, ih, List.map_cons]

theorem isNextValue_mapOperands (f : Operand → Operand) (e : Expr) :
  (e.mapOperands f).isNextValue = e.isNextValue
  := by
  induction e using induction with
  | labelled argument label ih _ =>
    rw [mapOperands, isNextValue, isNextValue, ih]
  | _ => rfl

/-! ## Expressions without labels -/

mutual

/-- The expression without its labels. -/
def withoutLabels : Expr → Expr
  | operand leaf => operand leaf
  | unary op argument => unary op argument.withoutLabels
  | binary op left right => binary op left.withoutLabels right.withoutLabels
  | cast argument target => cast argument.withoutLabels target.withoutLabels
  | labelled argument _ => argument.withoutLabels
  | currentTimestamp => currentTimestamp
  | currentDate => currentDate
  | call name arguments => call name (withoutLabelsOf arguments)
  | nextValue sequence => nextValue sequence

/-- The expressions without their labels. -/
def withoutLabelsOf : List Expr → List Expr
  | [] => []
  | e :: rest => e.withoutLabels :: withoutLabelsOf rest

end

theorem withoutLabelsOf_eq (es : List Expr) :
  withoutLabelsOf es = es.map withoutLabels
  := by
  induction es with
  | nil => rfl
  | cons e rest ih => rw [withoutLabelsOf, ih, List.map_cons]

/-- The expression is under a label. -/
def isLabelled : Expr → Bool
  | labelled _ _ => true
  | _ => false

theorem precedence_withoutLabels {e : Expr} (h : e.isLabelled = false) :
  e.withoutLabels.precedence = e.precedence
  := by
  cases e with
  | labelled argument label => cases h
  | _ => rfl

/-- What binds less strongly than an operator between its operands is not under a label. -/
theorem isLabelled_of_precedence_le {e : Expr} {op : BinaryOp} (h : e.precedence ≤ op.precedence) :
  e.isLabelled = false
  := by
  cases e with
  | labelled argument label =>
    change labelPrecedence ≤ op.precedence at h
    cases op <;> cases (by decide : ¬ labelPrecedence ≤ _) h
  | _ => rfl

end SqlDialect.Expr
