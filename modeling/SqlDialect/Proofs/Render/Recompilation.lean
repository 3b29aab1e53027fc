import Mathlib.Data.List.Forall2
import SqlDialect.Proofs.Render.Attempt

/-!
# Compiling a statement again

A compilation changes nothing in a statement, except that OpenEdge gives names to the
constraints that have none.  A name that a constraint has is kept and written, so a second
compilation finds nothing to name: from the first compilation on, the same comes of every
one, be it a query or a failure, and the statement stays as it is.
-/

namespace SqlDialect

/-! ## Names for constraints -/

namespace Constraint

/-- The name for a constraint that has none: its kind, its table and, but for a primary key, its
columns, each behind an underscore. -/
def givenName (c : Constraint) : String :=
  let columns := String.join (c.columns.map fun column => "_" ++ column)
  match c.kind with
  | .primaryKey => "pk_" ++ c.table.name
  | .unique => "uq_" ++ c.table.name ++ columns
  | .foreignKey _ _ _ => "fk_" ++ c.table.name ++ columns

/-- The second constraint is the first one with a name: its own when it has one that is not empty,
and otherwise the name given to it. -/
inductive Named : Constraint → Constraint → Prop
  | kept {c : Constraint} {name : String} (h : c.name = some name) (hne : name ≠ "") : Named c c
  | given {c : Constraint} (h : c.name = none ∨ c.name = some "") :
    Named c { c with name := some c.givenName }

/-- Behind the first text each text has an underscore in front of it. -/
theorem intercalate_underscore (text : String) (texts : List String) :
  "_".intercalate (text :: texts) = text ++ String.join (texts.map fun text => "_" ++ text)
  := by
  induction texts generalizing text with
  | nil => simp
  | cons next rest ih =>
    rw [String.intercalate_cons_cons, ih, List.map_cons, String.join_cons]
    simp only [String.append_assoc]

/-- The name that is made of a constraint is the given one. -/
theorem defaultName_eq (c : Constraint) :
  c.defaultName = c.givenName
  := by
  have hkind : ∀ kind, "_".intercalate (kind :: c.table.name :: c.columns)
      = kind ++ "_" ++ c.table.name ++ String.join (c.columns.map fun column => "_" ++ column) := by
    intro kind
    rw [String.intercalate_cons_cons, intercalate_underscore]
    simp only [String.append_assoc]
  rw [defaultName, givenName]
  cases c.kind with
  | primaryKey => rfl
  | unique => apply hkind
  | foreignKey references referenced onDelete => apply hkind

/-- A given name is not empty. -/
theorem givenName_ne_empty (c : Constraint) :
  c.givenName ≠ ""
  := by
  rw [givenName, ← String.toList_eq_nil_iff.ne]
  cases c.kind <;> simp

/-- The written name is the name of the constraint unless it is empty. -/
theorem writtenName?_eq_some {c : Constraint} {name : String} :
  c.writtenName? = some name ↔ c.name = some name ∧ name ≠ ""
  := by
  rw [writtenName?, Option.filter_eq_some_iff, decide_eq_true_iff]

/-- No name is written of a constraint that has none or an empty one. -/
theorem writtenName?_eq_none {c : Constraint} :
  c.writtenName? = none ↔ c.name = none ∨ c.name = some ""
  := by
  rw [writtenName?]
  cases c.name with
  | none => simp
  | some name => simp [Option.filter_eq_none_iff]

/-- A constraint with a name keeps it. -/
theorem named_of_writtenName? {c : Constraint} {name : String} (h : c.writtenName? = some name) :
  c.named = c
  := by
  rw [named, h]

/-- A constraint without a name gets the given one. -/
theorem named_of_writtenName?_eq_none {c : Constraint} (h : c.writtenName? = none) :
  c.named = { c with name := some c.givenName }
  := by
  rw [named, h, defaultName_eq]

/-- Naming a constraint changes at most its name. -/
theorem named_spec (c : Constraint) :
  Named c c.named
  := by
  cases h : c.writtenName? with
  | some name =>
    rw [named_of_writtenName? h]
    obtain ⟨hname, hne⟩ := writtenName?_eq_some.mp h
    apply Named.kept hname hne
  | none =>
    rw [named_of_writtenName?_eq_none h]
    apply Named.given (writtenName?_eq_none.mp h)

/-- What has been named has a name to write. -/
theorem Named.writtenName? {c c' : Constraint} (h : Named c c') :
  ∃ name, c'.writtenName? = some name
  := by
  cases h with
  | kept h hne => exact ⟨_, writtenName?_eq_some.mpr ⟨h, hne⟩⟩
  | given h => exact ⟨_, writtenName?_eq_some.mpr ⟨rfl, c.givenName_ne_empty⟩⟩

/-- A constraint that was named stays as it is. -/
theorem named_named (c : Constraint) :
  c.named.named = c.named
  := by
  obtain ⟨name, hname⟩ := c.named_spec.writtenName?
  apply named_of_writtenName? hname

/-- A constraint that was prepared stays as it is. -/
theorem prepared_prepared (style : Style) (c : Constraint) :
  (c.prepared style).prepared style = c.prepared style
  := by
  cases style with
  | standard needed => rfl
  | openEdge => apply named_named

end Constraint

/-! ## Statements as they are left -/

namespace Statement

/-- The second statement is the first one with names for the constraints of an addition or of a
table definition that has columns. -/
inductive Named : Statement → Statement → Prop
  | addConstraint {c c' : Constraint} (h : c.Named c') : Named (addConstraint c) (addConstraint c')
  | createTable {d : TableDef} {constraints : List Constraint} (hcolumns : d.columns ≠ [])
    (h : List.Forall₂ Constraint.Named d.constraints constraints) :
    Named (createTable d) (createTable { d with constraints })
  | withoutColumns {d : TableDef} (hcolumns : d.columns = []) :
    Named (createTable d) (createTable d)
  | withoutConstraints {s : Statement} (h : s.constraintNames? = none) : Named s s

/-- OpenEdge gives names to the constraints of a statement. -/
theorem named_prepared (s : Statement) :
  s.Named (s.prepared .openEdge)
  := by
  cases s with
  | createTable d =>
    rw [prepared]
    split
    next h => apply Named.withoutColumns (List.isEmpty_iff.mp h)
    next h =>
      apply Named.createTable
      · simpa using h
      · rw [List.forall₂_map_right_iff, List.forall₂_same]
        intro c _
        apply c.named_spec
  | addConstraint c => apply Named.addConstraint c.named_spec
  | _ => apply Named.withoutConstraints rfl

/-- Standard SQL gives no names to constraints. -/
theorem prepared_standard (fetchNeedsOffset : Bool) (s : Statement) :
  s.prepared (.standard fetchNeedsOffset) = s
  := by
  cases s with
  | createTable d =>
    have hconstraints : d.constraints.map (Constraint.prepared (.standard fetchNeedsOffset))
        = d.constraints := List.map_id _
    rw [prepared, hconstraints, ite_self]
  | _ => rfl

/-- A statement that was prepared stays as it is. -/
theorem prepared_prepared (style : Style) (s : Statement) :
  (s.prepared style).prepared style = s.prepared style
  := by
  cases s with
  | createTable d =>
    rw [prepared]
    split
    next h => rw [prepared, if_pos h]
    next h =>
      have htwice : (Constraint.prepared style) ∘ (Constraint.prepared style)
          = Constraint.prepared style := by
        funext c
        apply c.prepared_prepared style
      rw [prepared, if_neg h, List.map_map, htwice]
  | addConstraint c => rw [prepared, prepared, c.prepared_prepared style]
  | _ => rfl

end Statement

namespace Style

/-- What comes of a statement comes of what is left of it. -/
theorem compileInPlace_prepared (style : Style) (s : Statement) :
  style.compileInPlace (s.prepared style) = style.compileInPlace s
  := by
  rw [compileInPlace, compileInPlace, compile, compile, Statement.attempt, Statement.attempt,
    s.prepared_prepared style]

/-- So many compilations of a statement, each of what the one before it left. -/
def recompile (style : Style) : Nat → Statement → List (Report CompiledQuery) × Statement
  | 0, s => ([], s)
  | n + 1, s =>
    let (report, s) := style.compileInPlace s
    let (reports, s) := recompile style n s
    (report :: reports, s)

/-- A further compilation starts from the statement as it was left. -/
theorem recompile_succ (style : Style) (n : Nat) (s : Statement) :
  style.recompile (n + 1) s
    = ((style.compileInPlace s).1 :: (style.recompile n (style.compileInPlace s).2).1,
      (style.recompile n (style.compileInPlace s).2).2)
  := rfl

/-- The same comes of every compilation. -/
theorem recompile_eq (style : Style) (n : Nat) (s : Statement) :
  style.recompile (n + 1) s
    = (List.replicate (n + 1) (style.compileInPlace s).1, (style.compileInPlace s).2)
  := by
  induction n generalizing s with
  | zero => rfl
  | succ n ih =>
    have hagain : style.compileInPlace (style.compileInPlace s).2 = style.compileInPlace s :=
      style.compileInPlace_prepared s
    rw [recompile_succ, ih, hagain]
    rfl

end Style

/-! ## Names in SQL -/

namespace Constraint

/-- What a constraint demands, in the spelling of OpenEdge. -/
def demand (scope : Scope) (c : Constraint) : String :=
  Piece.textOf (c.kind.attempt .openEdge scope c.table c.columns).written

/-- The text is that of the constraint behind its name. -/
def Introduced (scope : Scope) (c : Constraint) (text : String) : Prop :=
  ∃ name, c.name = some name ∧ name ≠ ""
    ∧ text = "CONSTRAINT " ++ (Style.openEdge.identifier name).text ++ " " ++ c.demand scope

/-- A constraint with a name is introduced by it. -/
theorem introduced_of_attempt {scope : Scope} {c : Constraint} {name : String}
    {pieces : List Piece} (hname : c.writtenName? = some name)
    (h : c.attempt .openEdge scope = .ok pieces) :
  c.Introduced scope (Piece.textOf pieces)
  := by
  rw [attempt, hname] at h
  obtain ⟨-, h⟩ := Attempt.checked_eq_ok.mp h
  obtain ⟨demanded, hdemanded, rfl⟩ := Attempt.ok_append_eq_ok.mp h
  obtain ⟨hname, hne⟩ := writtenName?_eq_some.mp hname
  use name, hname, hne
  rw [demand, hdemanded, Piece.textOf_append, Piece.textOf_cons, Piece.textOf_cons,
    Piece.textOf_cons, Piece.textOf_nil, String.append_empty, ← String.append_assoc]
  rfl

end Constraint

namespace TableDef

/-- What stands before the constraints does not depend on them, and neither does the end. -/
theorem attempt_eq_ok {style : Style} {scope : Scope} {d : TableDef} {pieces : List Piece}
    (h : d.attempt style scope = .ok pieces) :
  ∃ front back, pieces = front ++ back ++ [.plain "\n)"]
    ∧ constraintsAttempt style (scope.entering .createTableConstraint) d.constraints = .ok back
    ∧ attempt style scope { d with constraints := [] } = .ok (front ++ [.plain "\n)"])
  := by
  rw [attempt] at h
  obtain ⟨hcolumns, h⟩ := Attempt.checked_eq_ok.mp h
  obtain ⟨xs, ys, hxs, hys, rfl⟩ := Attempt.append_eq_ok.mp h
  obtain ⟨front, back, hfront, hback, rfl⟩ := Attempt.append_eq_ok.mp hxs
  obtain rfl := Attempt.ok_inj.mp hys
  use front, back, rfl, hback
  rw [attempt, hcolumns, hfront, constraintsAttempt]
  simp [Attempt.checked, Attempt.append_def, Attempt.andThen, Attempt.ok]

/-- Constraints with names are introduced by them one after the other. -/
theorem constraints_introduced {scope : Scope} {constraints : List Constraint}
    {pieces : List Piece} (hnamed : ∀ c ∈ constraints, ∃ name, c.writtenName? = some name)
    (h : constraintsAttempt .openEdge scope constraints = .ok pieces) :
  ∃ texts, List.Forall₂ (Constraint.Introduced scope) constraints texts
    ∧ Piece.textOf pieces = String.join (texts.map fun text => ",\n" ++ text)
  := by
  induction constraints generalizing pieces with
  | nil =>
    obtain rfl := Attempt.ok_inj.mp h
    exact ⟨[], .nil, rfl⟩
  | cons c rest ih =>
    rw [List.forall_mem_cons] at hnamed
    obtain ⟨⟨name, hname⟩, hrest⟩ := hnamed
    rw [constraintsAttempt] at h
    obtain ⟨xs, ys, hxs, hys, rfl⟩ := Attempt.append_eq_ok.mp h
    obtain ⟨written, hwritten, rfl⟩ := Attempt.ok_append_eq_ok.mp hxs
    obtain ⟨texts, htexts, htext⟩ := ih hrest hys
    use Piece.textOf written :: texts
    constructor
    · apply List.Forall₂.cons (Constraint.introduced_of_attempt hname hwritten) htexts
    · rw [Piece.textOf_append, Piece.textOf_append, htext, List.map_cons, String.join_cons,
        Piece.textOf_cons, Piece.textOf_nil, String.append_empty]
      rfl

end TableDef

namespace Statement

/-- In the SQL every constraint of the statement stands behind CONSTRAINT and its name.  Without the
constraints of a table definition the SQL is the same in front of them and behind them. -/
inductive Introduces (sql : String) : Statement → Prop
  | addConstraint {c : Constraint} {text : String}
    (h : c.Introduced { clause := .alterTable } text)
    (hsql : sql = "ALTER TABLE "
      ++ Piece.textOf (c.table.pieces .openEdge { clause := .alterTable }) ++ " ADD " ++ text) :
    Introduces sql (addConstraint c)
  | createTable {d : TableDef} {front : String} {texts : List String} {bare : CompiledQuery}
    (h : List.Forall₂ (Constraint.Introduced { clause := .createTableConstraint }) d.constraints
      texts)
    (hbare : (Style.openEdge.compile (createTable { d with constraints := [] })).result = .ok bare)
    (hfront : bare.sql = front ++ "\n)")
    (hsql : sql = front ++ String.join (texts.map fun text => ",\n" ++ text) ++ "\n)") :
    Introduces sql (createTable d)
  | withoutConstraints {s : Statement} (h : s.constraintNames? = none) : Introduces sql s

/-- A constraint that is added is introduced by its name. -/
theorem introduces_addConstraint {c : Constraint} {pieces : List Piece}
    (h : c.named.additionAttempt .openEdge {} = .ok pieces) :
  Introduces (Piece.textOf pieces) (addConstraint c.named)
  := by
  rw [Constraint.additionAttempt] at h
  obtain ⟨written, hwritten, rfl⟩ := Attempt.ok_append_eq_ok.mp h
  obtain ⟨name, hname⟩ := c.named_spec.writtenName?
  apply Introduces.addConstraint (Constraint.introduced_of_attempt hname hwritten)
  rw [Piece.textOf_append, Piece.textOf_append, Piece.textOf_cons, Piece.textOf_cons,
    Piece.textOf_nil, String.append_empty]
  rfl

/-- The constraints of a table definition are introduced by their names. -/
theorem introduces_createTable {d : TableDef} {pieces : List Piece}
    (hnamed : ∀ c ∈ d.constraints, ∃ name, c.writtenName? = some name)
    (h : d.attempt .openEdge {} = .ok pieces) (hmoment : Piece.momentOf? pieces = none)
    (hrecorded : Piece.failureOf? pieces = none) :
  Introduces (Piece.textOf pieces) (createTable d)
  := by
  obtain ⟨front, back, rfl, hback, hbare⟩ := TableDef.attempt_eq_ok h
  obtain ⟨texts, htexts, htext⟩ := TableDef.constraints_introduced hnamed hback
  have hrest : ∀ {α : Type} {find : Piece → Option α},
      (front ++ back ++ [Piece.plain "\n)"]).findSome? find = none →
      (front ++ [Piece.plain "\n)"]).findSome? find = none := by
    intro α find hnone
    rw [List.findSome?_eq_none_iff] at hnone ⊢
    intro p hp
    apply hnone
    rw [List.mem_append] at hp ⊢
    exact hp.imp_left (List.mem_append_left _)
  have hcompiled : (Style.openEdge.compile (createTable { d with constraints := [] })).result
      = .ok ⟨Piece.textOf (front ++ [.plain "\n)"]),
        Piece.parametersOf (front ++ [.plain "\n)"])⟩ := by
    have hprepared : (createTable { d with constraints := [] }).prepared .openEdge
        = createTable { d with constraints := [] } := ite_self _
    rw [Style.compile, attempt, hprepared]
    apply Attempt.result_compiled_eq_ok.mpr
    exact ⟨_, hbare, hrest hmoment, hrest hrecorded, rfl⟩
  apply Introduces.createTable htexts hcompiled
  · rw [Piece.textOf_append]
    rfl
  · rw [Piece.textOf_append, Piece.textOf_append, htext]
    rfl

/-- The SQL of a statement has the constraints under the names with which the statement is left. -/
theorem introduces_of_compile {s : Statement} {query : CompiledQuery}
    (h : (Style.openEdge.compile s).result = .ok query) :
  (s.prepared .openEdge).Introduces query.sql
  := by
  rw [Style.compile, Attempt.result_compiled_eq_ok] at h
  obtain ⟨pieces, hpieces, hmoment, hrecorded, rfl⟩ := h
  rw [attempt] at hpieces
  cases s with
  | createTable d =>
    rw [prepared] at hpieces ⊢
    split at hpieces
    next hcolumns =>
      rw [rawAttempt, TableDef.attempt, if_pos hcolumns] at hpieces
      cases (Attempt.checked_eq_ok.mp hpieces).1
    next hcolumns =>
      rw [if_neg hcolumns]
      apply introduces_createTable _ hpieces hmoment hrecorded
      rw [List.forall_mem_map]
      intro c _
      apply c.named_spec.writtenName?
  | addConstraint c => apply introduces_addConstraint hpieces
  | _ => apply Introduces.withoutConstraints rfl

end Statement

/-- A compilation for OpenEdge changes nothing in a statement but the missing names of constraints,
and in the SQL every constraint stands behind its name; names that are given to constraints are not
empty.  However often a statement is compiled, the same comes of it as the first time, and it stays
as the first time left it.  Standard SQL leaves every statement as it is. -/
theorem compileInPlace_names_constraints (s : Statement) :
  s.Named (Style.openEdge.compileInPlace s).2
    ∧ (∀ c : Constraint, c.givenName ≠ "")
    ∧ (∀ query, (Style.openEdge.compileInPlace s).1.result = .ok query →
      (Style.openEdge.compileInPlace s).2.Introduces query.sql)
    ∧ (∀ n, Style.openEdge.recompile (n + 1) s
      = (List.replicate (n + 1) (Style.openEdge.compileInPlace s).1,
        (Style.openEdge.compileInPlace s).2))
    ∧ ∀ needed n, ((Style.standard needed).recompile n s).2 = s
  := by
  use s.named_prepared, Constraint.givenName_ne_empty
  constructor
  · intro query
    apply Statement.introduces_of_compile
  constructor
  · intro n
    apply Style.recompile_eq
  · intro needed n
    cases n with
    | zero => rfl
    | succ n =>
      rw [Style.recompile_eq]
      apply s.prepared_standard

/-- Looms in halls: of three constraints one has a name, one an empty name, and one none. -/
def looms : Statement :=
  .createTable
    { table := { name := "looms" }
      columns := [{ name := "id", type := .integer }, { name := "hall", type := .integer }]
      constraints :=
        [{ kind := .primaryKey, table := { name := "looms" }, columns := ["id"] },
          { kind := .foreignKey { name := "halls" } ["id"] none, table := { name := "looms" }
            columns := ["hall"], name := some "" },
          { kind := .unique, table := { name := "looms" }, columns := ["hall", "id"]
            name := some "one_a_hall" }] }

/-- The SQL of the looms, in which every constraint has a name. -/
def loomsQuery : CompiledQuery where
  sql := "CREATE TABLE looms (\nid INTEGER,\nhall INTEGER,\nCONSTRAINT pk_looms PRIMARY KEY (id),"
    ++ "\nCONSTRAINT fk_looms_hall FOREIGN KEY (hall) REFERENCES halls (id),"
    ++ "\nCONSTRAINT one_a_hall UNIQUE (hall, id)\n)"
  parameters := []

/-- The constraints of the looms get the names that are missing, once for all compilations. -/
theorem compileInPlace_names_constraints_looms :
  (Style.openEdge.compileInPlace looms).1.result = .ok loomsQuery
    ∧ (Style.openEdge.compileInPlace looms).2.constraintNames?
      = some [some "pk_looms", some "fk_looms_hall", some "one_a_hall"]
    ∧ (Style.openEdge.compileInPlace looms).2.Introduces loomsQuery.sql
    ∧ Style.openEdge.recompile 3 looms
      = (List.replicate 3 (Style.openEdge.compileInPlace looms).1,
        (Style.openEdge.compileInPlace looms).2)
  := by
  obtain ⟨-, -, hintroduces, hrecompile, -⟩ := compileInPlace_names_constraints looms
  have hquery : (Style.openEdge.compileInPlace looms).1.result = .ok loomsQuery := by decide +kernel
  exact ⟨hquery, rfl, hintroduces _ hquery, hrecompile 2⟩

end SqlDialect
