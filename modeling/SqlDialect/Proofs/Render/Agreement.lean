import SqlDialect.Proofs.Statement.Operands
import SqlDialect.Proofs.Render.Pieces
import SqlDialect.Proofs.Render.Recompilation

/-!
# Agreement of the styles

OpenEdge spells a few things in its own way: reserved words, truth values, the current
timestamp, next values of sequences, three column types, queries without a source or with a
limit, and constraints without a name.  A statement in which none of them occurs is compiled
alike in both styles, to the same query or to the same failure, and is left alike.
-/

namespace SqlDialect

/-! ## What the styles share -/

/-- Both styles quote the name, or neither does. -/
def QuotedAlike (name : String) : Prop :=
  Style.openEdge.needsQuotes name = Style.generic.needsQuotes name

instance (name : String) : Decidable (QuotedAlike name) :=
  inferInstanceAs (Decidable (_ = _))

/-- The identifiers of a column. -/
def Column.identifiers (c : Column) : List String := [c.name, c.table, c.schema]

/-- The identifiers of a table. -/
def Table.identifiers (t : Table) : List String := [t.name, t.schema, t.label]

/-- The identifiers that a constraint of some kind refers to. -/
def ConstraintKind.identifiers : ConstraintKind → List String
  | primaryKey => []
  | unique => []
  | foreignKey references referenced _ => references.identifiers ++ referenced

/-- The identifiers of a constraint, without those of its table. -/
def Constraint.identifiers (c : Constraint) : List String :=
  c.name.toList ++ c.columns ++ c.kind.identifiers

namespace Statement

/-- The constraints of a statement. -/
def constraints : Statement → List Constraint
  | createTable d => d.constraints
  | addConstraint c => [c]
  | _ => []

/-- The types that a statement gives to columns. -/
def columnTypes : Statement → List ColumnType
  | createTable d => d.columns.map (·.type)
  | _ => []

/-- The identifiers of a statement outside of its expressions. -/
def ownIdentifiers : Statement → List String
  | select q => q.source.toList.flatMap Table.identifiers
  | insert q => q.table.identifiers ++ q.columns
  | update q => q.table.identifiers ++ q.assignments.map (·.1)
  | delete q => q.table.identifiers
  | createTable d => d.table.identifiers ++ d.columns.map (·.name)
      ++ d.constraints.flatMap Constraint.identifiers
  | dropTable t => t.identifiers
  | addConstraint c => c.table.identifiers ++ c.identifiers

/-- Nothing in the statement is spelled by OpenEdge in its own way. -/
structure Shared (s : Statement) : Prop where
  /-- Every identifier is quoted in both styles or in neither. -/
  identifiers : ∀ name ∈ s.ownIdentifiers, QuotedAlike name
  columns : ∀ c, .operand (.column c) ∈ s.nodes → ∀ name ∈ c.identifiers, QuotedAlike name
  /-- No truth value is written into the text. -/
  booleans : ∀ x, .operand (.boolean x) ∉ s.nodes
  inlined : ∀ x, .operand (.inline (.boolean (some x))) ∉ s.nodes
  defaults : ∀ d x, s = createTable d → .operand (.bound (.boolean (some x))) ∉ s.nodes
  timestamps : .currentTimestamp ∉ s.nodes
  sequences : ∀ sequence, .nextValue sequence ∉ s.nodes
  /-- No type is boolean, a text type without a length, or a timestamp with a time zone. -/
  types : ∀ type, .operand (.type type) ∈ s.nodes ∨ type ∈ s.columnTypes →
    type ≠ .boolean ∧ type ≠ .varchar none ∧ type ≠ .timestampWithTimeZone
  /-- A query has a source and no limits on its rows. -/
  queries : ∀ q, s = select q →
    q.source.isSome ∧ q.limit = none ∧ q.offset = none ∧ q.fetch = none
  constraints : ∀ c ∈ s.constraints, ∃ name, c.name = some name ∧ name ≠ ""

end Statement

variable (needed : Bool) {scope : Scope}

/-! ## Names -/

/-- A name that is quoted alike is written alike. -/
theorem Style.identifier_eq {name : String} (h : QuotedAlike name) :
  Style.openEdge.identifier name = (Style.standard needed).identifier name
  := by
  have hneeds : (Style.standard needed).needsQuotes name = Style.openEdge.needsQuotes name := by
    rw [h, Style.needsQuotes, Style.needsQuotes]
    cases name.toList <;> rfl
  rw [identifier, identifier, hneeds]

/-- An owner that is quoted alike is written alike. -/
theorem Style.qualifiedBy_eq {owner : String} (h : QuotedAlike owner) (rest : List Piece) :
  Style.openEdge.qualifiedBy owner rest = (Style.standard needed).qualifiedBy owner rest
  := by
  rw [qualifiedBy, qualifiedBy, identifier_eq needed h]

/-- Names that are quoted alike are listed alike. -/
theorem Style.identifiers_eq {names : List String} (h : ∀ name ∈ names, QuotedAlike name) :
  names.map (fun name => [Style.openEdge.identifier name])
    = names.map fun name => [(Style.standard needed).identifier name]
  := by
  apply List.map_congr_left
  intro name hname
  rw [identifier_eq needed (h name hname)]

/-- Names that are quoted alike are written alike in parentheses. -/
theorem Style.nameList_eq {names : List String} (h : ∀ name ∈ names, QuotedAlike name) :
  Style.openEdge.nameList names = (Style.standard needed).nameList names
  := by
  rw [nameList, nameList, identifiers_eq needed h]

/-- A table whose names are quoted alike is written alike. -/
theorem Table.pieces_eq {t : Table} (h : ∀ name ∈ t.identifiers, QuotedAlike name) :
  t.pieces .openEdge scope = t.pieces (.standard needed) scope
  := by
  obtain ⟨hname, hschema, hlabel⟩ : QuotedAlike t.name ∧ QuotedAlike t.schema
      ∧ QuotedAlike t.label := by simpa [identifiers] using h
  rw [pieces, pieces, Style.identifier_eq needed hname, Style.identifier_eq needed hlabel,
    Style.qualifiedBy_eq needed hschema]

/-- A column whose names are quoted alike is written alike. -/
theorem Column.pieces_eq {c : Column} (h : ∀ name ∈ c.identifiers, QuotedAlike name) :
  c.pieces .openEdge scope = c.pieces (.standard needed) scope
  := by
  obtain ⟨hname, htable, hschema⟩ : QuotedAlike c.name ∧ QuotedAlike c.table
      ∧ QuotedAlike c.schema := by simpa [identifiers] using h
  rw [pieces, pieces, Style.identifier_eq needed hname, Style.qualifiedBy_eq needed htable,
    Style.qualifiedBy_eq needed hschema]

/-- A type that OpenEdge has too goes by the same name. -/
theorem Style.typeName_eq {type : ColumnType}
    (h : type ≠ .boolean ∧ type ≠ .varchar none ∧ type ≠ .timestampWithTimeZone) :
  Style.openEdge.typeName type = (Style.standard needed).typeName type
  := by
  obtain ⟨hboolean, hvarchar, htimestamp⟩ := h
  cases type with
  | boolean => cases hboolean rfl
  | varchar length =>
    cases length with
    | none => cases hvarchar rfl
    | some length => rfl
  | timestampWithTimeZone => cases htimestamp rfl
  | _ => rfl

/-- A type that OpenEdge has too is written alike. -/
theorem Style.typePieces_eq {type : ColumnType}
    (h : type ≠ .boolean ∧ type ≠ .varchar none ∧ type ≠ .timestampWithTimeZone) :
  Style.openEdge.typePieces type = (Style.standard needed).typePieces type
  := by
  rw [typePieces, typePieces, typeName_eq needed h]

/-! ## Expressions -/

/-- The styles differ only in the literals of truth values. -/
theorem Value.pieces_eq {value : Value} (h : ∀ x, value ≠ .boolean (some x)) :
  value.pieces .openEdge = value.pieces (.standard needed)
  := by
  cases value with
  | boolean content =>
    cases content with
    | none => rfl
    | some x => cases h x rfl
  | null => rfl
  | decimal content precision scale => cases content <;> rfl
  | smallint content | integer content | bigint content | double content | varchar content
  | date content | timestamp content | moment content => cases content <;> rfl

/-- Nothing in the node itself is spelled by OpenEdge in its own way, where bound values are written
as literals or where they are not. -/
structure Expr.Shared (inline : Bool) (e : Expr) : Prop where
  columns : ∀ c, e = .operand (.column c) → ∀ name ∈ c.identifiers, QuotedAlike name
  booleans : ∀ x, e ≠ .operand (.boolean x)
  inlined : ∀ x, e ≠ .operand (.inline (.boolean (some x)))
  bound : ∀ x, inline → e ≠ .operand (.bound (.boolean (some x)))
  timestamps : e ≠ .currentTimestamp
  sequences : ∀ sequence, e ≠ .nextValue sequence
  types : ∀ type, e = .operand (.type type) →
    type ≠ .boolean ∧ type ≠ .varchar none ∧ type ≠ .timestampWithTimeZone

/-- A leaf that both styles share is written alike. -/
theorem Operand.pieces_eq {leaf : Operand} (h : (Expr.operand leaf).Shared scope.inline) :
  leaf.pieces .openEdge scope = leaf.pieces (.standard needed) scope
  := by
  cases leaf with
  | boolean x => cases h.booleans x rfl
  | column c => rw [pieces_column, pieces_column, Column.pieces_eq needed (h.columns c rfl)]
  | type t => rw [pieces_type, pieces_type, Style.typePieces_eq needed (h.types t rfl)]
  | inline value =>
    rw [pieces_inline, pieces_inline, Value.pieces_eq needed]
    rintro x rfl
    apply h.inlined x rfl
  | bound value =>
    rw [pieces_bound, pieces_bound]
    split
    next hinline =>
      rw [Value.pieces_eq needed]
      rintro x rfl
      apply h.bound x hinline rfl
    next => rfl
  | _ => rfl

namespace Expr

/-- Both styles write an expression alike when they write its nodes alike. -/
theorem pieces_eq {e : Expr} (h : ∀ node ∈ e.nodes, node.Shared scope.inline) :
  e.pieces .openEdge scope = e.pieces (.standard needed) scope
  := by
  induction e using Expr.induction generalizing scope with
  | operand leaf => apply Operand.pieces_eq needed (h _ (List.mem_singleton_self _))
  | unary op argument ih =>
    obtain ⟨-, hargument⟩ := List.forall_mem_cons.mp h
    rw [pieces_unary, pieces_unary, ih hargument]
  | binary op left right ihl ihr =>
    obtain ⟨-, hoperands⟩ := List.forall_mem_cons.mp h
    obtain ⟨hl, hr⟩ := List.forall_mem_append.mp hoperands
    rw [pieces_binary, pieces_binary, ihl hl, ihr hr]
  | cast argument target iha iht =>
    obtain ⟨-, hparts⟩ := List.forall_mem_cons.mp h
    obtain ⟨ha, ht⟩ := List.forall_mem_append.mp hparts
    have hargument : argument.pieces .openEdge (scope.entering .casting) = _ := iha ha
    have htarget : target.pieces .openEdge (scope.entering .casting) = _ := iht ht
    rw [pieces_cast, pieces_cast, hargument, htarget]
  | labelled argument label iha ihl =>
    obtain ⟨-, hparts⟩ := List.forall_mem_cons.mp h
    obtain ⟨ha, hl⟩ := List.forall_mem_append.mp hparts
    rw [pieces_labelled, pieces_labelled, iha ha, ihl hl]
  | currentTimestamp => cases (h _ (List.mem_singleton_self _)).timestamps rfl
  | currentDate => rfl
  | call name arguments ih =>
    obtain ⟨-, harguments⟩ := List.forall_mem_cons.mp h
    rw [nodesOf_eq, List.forall_mem_flatMap] at harguments
    rw [pieces_call, pieces_call, List.map_congr_left]
    intro e he
    apply ih e he (harguments e he)
  | nextValue sequence => cases (h _ (List.mem_singleton_self _)).sequences sequence rfl

/-- Both styles write the expression alike, where bound values are written as literals or where they
are not. -/
def Agrees (inline : Bool) (e : Expr) : Prop :=
  ∀ scope : Scope, scope.inline = inline →
    e.pieces .openEdge scope = e.pieces (.standard needed) scope

variable {needed} {inline : Bool}

/-- Expressions that agree are written alike one by one. -/
theorem separated_eq {es : List Expr} (h : ∀ e ∈ es, e.Agrees needed inline)
    (hscope : scope.inline = inline) :
  es.map (pieces .openEdge scope) = es.map (pieces (.standard needed) scope)
  := by
  apply List.map_congr_left
  intro e he
  apply h e he scope hscope

/-- A condition that agrees is written alike. -/
theorem wherePieces_eq {condition : Option Expr} (h : ∀ e ∈ condition, e.Agrees needed inline)
    (hscope : scope.inline = inline) :
  wherePieces .openEdge scope condition = wherePieces (.standard needed) scope condition
  := by
  cases condition with
  | none => rfl
  | some e => rw [wherePieces, wherePieces, h e rfl scope hscope]

end Expr

/-! ## Statements -/

section Statements

variable {needed}

/-- A query without limits, from a table, is written alike when its names and expressions agree. -/
theorem SelectQuery.attempt_eq {q : SelectQuery}
    (hnames : ∀ t ∈ q.source, ∀ name ∈ t.identifiers, QuotedAlike name)
    (hexprs : ∀ e ∈ q.exprs, e.Agrees needed false)
    (hquery : q.source.isSome ∧ q.limit = none ∧ q.offset = none ∧ q.fetch = none) :
  q.attempt .openEdge {} = q.attempt (.standard needed) {}
  := by
  obtain ⟨hcolumns, hcondition, horder, -⟩ := SelectQuery.forall_mem_exprs.mp hexprs
  obtain ⟨hsource, hlimit, hoffset, hfetch⟩ := hquery
  obtain ⟨t, ht⟩ := Option.isSome_iff_exists.mp hsource
  have htable : ∀ scope,
      q.sourcePieces .openEdge scope = q.sourcePieces (.standard needed) scope := by
    intro scope
    simp only [sourcePieces, ht]
    rw [Table.pieces_eq needed (hnames t ht)]
  have hkeys : ∀ scope : Scope, scope.inline = false →
      q.orderPieces .openEdge scope = q.orderPieces (.standard needed) scope := by
    intro scope hscope
    have hmap : q.orderBy.map (OrderKey.pieces .openEdge (scope.entering .selectOrderBy))
        = q.orderBy.map (OrderKey.pieces (.standard needed) (scope.entering .selectOrderBy)) := by
      apply List.map_congr_left
      intro key hkey
      have hkey := horder key hkey (scope.entering .selectOrderBy) hscope
      rw [OrderKey.pieces, OrderKey.pieces, hkey]
    rw [orderPieces, orderPieces]
    split
    · rfl
    · rw [hmap]
  have hpagination : ∀ style scope, q.paginationAttempt style scope = .ok [] := by
    intro style scope
    rw [paginationAttempt, hfetch, hlimit, hoffset]
  rw [attempt, attempt, hpagination, hpagination, bodyPieces, bodyPieces, htable,
    Expr.separated_eq hcolumns rfl, Expr.wherePieces_eq hcondition rfl, hkeys _ rfl]

/-- An insertion is written alike when its names and values agree. -/
theorem InsertQuery.attempt_eq {q : InsertQuery}
    (hnames : ∀ name ∈ q.table.identifiers ++ q.columns, QuotedAlike name)
    (hexprs : ∀ e ∈ q.rows.flatten, e.Agrees needed false) :
  q.attempt .openEdge {} = q.attempt (.standard needed) {}
  := by
  obtain ⟨htable, hcolumns⟩ := List.forall_mem_append.mp hnames
  have hrows : q.rows.map (rowPieces .openEdge (Scope.entering .insertValues {}))
      = q.rows.map (rowPieces (.standard needed) (Scope.entering .insertValues {})) := by
    apply List.map_congr_left
    intro row hrow
    have hrow : ∀ e ∈ row, e.Agrees needed false := by
      intro e he
      apply hexprs e (List.mem_flatten_of_mem hrow he)
    rw [rowPieces, rowPieces, Expr.separated_eq hrow rfl]
  rw [attempt, attempt, Table.pieces_eq needed htable, Style.identifiers_eq needed hcolumns, hrows]

/-- An update is written alike when its names, assignments and condition agree. -/
theorem UpdateQuery.attempt_eq {q : UpdateQuery}
    (hnames : ∀ name ∈ q.table.identifiers ++ q.assignments.map (·.1), QuotedAlike name)
    (hvalues : ∀ assignment ∈ q.assignments, assignment.2.Agrees needed false)
    (hcondition : ∀ e ∈ q.condition, e.Agrees needed false) :
  q.attempt .openEdge {} = q.attempt (.standard needed) {}
  := by
  obtain ⟨htable, hcolumns⟩ := List.forall_mem_append.mp hnames
  rw [List.forall_mem_map] at hcolumns
  have hassignments : q.assignments.map (assignmentPieces .openEdge (Scope.entering .updateSet {}))
      = q.assignments.map
        (assignmentPieces (.standard needed) (Scope.entering .updateSet {})) := by
    apply List.map_congr_left
    intro assignment h
    rw [assignmentPieces, assignmentPieces, Style.identifier_eq needed (hcolumns assignment h),
      hvalues assignment h _ rfl]
  rw [attempt, attempt, Table.pieces_eq needed htable, hassignments,
    Expr.wherePieces_eq hcondition rfl]

/-- A deletion is written alike when its names and condition agree. -/
theorem DeleteQuery.attempt_eq {q : DeleteQuery}
    (hnames : ∀ name ∈ q.table.identifiers, QuotedAlike name)
    (hcondition : ∀ e ∈ q.condition, e.Agrees needed false) :
  q.attempt .openEdge {} = q.attempt (.standard needed) {}
  := by
  rw [attempt, attempt, Table.pieces_eq needed hnames, Expr.wherePieces_eq hcondition rfl]

/-- What a constraint demands is written alike when its names are quoted alike. -/
theorem ConstraintKind.attempt_eq {kind : ConstraintKind} {table : Table} {columns : List String}
    (hnames : ∀ name ∈ columns ++ kind.identifiers, QuotedAlike name) :
  kind.attempt .openEdge scope table columns = kind.attempt (.standard needed) scope table columns
  := by
  obtain ⟨hcolumns, hkind⟩ := List.forall_mem_append.mp hnames
  cases kind with
  | primaryKey => simp only [attempt, Style.nameList_eq needed hcolumns]
  | unique => simp only [attempt, Style.nameList_eq needed hcolumns]
  | foreignKey references referenced onDelete =>
    obtain ⟨htable, hreferenced⟩ := List.forall_mem_append.mp hkind
    simp only [attempt, Style.nameList_eq needed hcolumns, Table.pieces_eq needed htable,
      Style.nameList_eq needed hreferenced]

/-- A constraint is written alike when its names are quoted alike. -/
theorem Constraint.attempt_eq {c : Constraint}
    (hnames : ∀ name ∈ c.identifiers, QuotedAlike name) :
  c.attempt .openEdge scope = c.attempt (.standard needed) scope
  := by
  rw [identifiers, List.append_assoc] at hnames
  obtain ⟨hname, hrest⟩ := List.forall_mem_append.mp hnames
  rw [attempt, attempt, ConstraintKind.attempt_eq hrest]
  cases hwritten : c.writtenName? with
  | none => rfl
  | some name =>
    have hmem : name ∈ c.name.toList := by
      rw [(writtenName?_eq_some.mp hwritten).1]
      apply List.mem_singleton_self
    dsimp only
    rw [Style.identifier_eq needed (hname name hmem)]

/-- A column of a table definition is written alike when its name, type and default agree. -/
theorem ColumnDef.attempt_eq {c : ColumnDef} (hname : QuotedAlike c.name)
    (htype : c.type ≠ .boolean ∧ c.type ≠ .varchar none ∧ c.type ≠ .timestampWithTimeZone)
    (hdefault : ∀ e ∈ c.default, e.Agrees needed true) :
  c.attempt .openEdge scope = c.attempt (.standard needed) scope
  := by
  have htypes : Style.openEdge.typeAttempt c.type = (Style.standard needed).typeAttempt c.type := by
    rw [Style.typeAttempt, Style.typeAttempt, Style.typeName_eq needed htype]
  rw [attempt, attempt, Style.identifier_eq needed hname, htypes]
  cases hvalue : c.default with
  | none => rfl
  | some e =>
    dsimp only
    rw [hdefault e hvalue _ rfl]

/-- The constraints of a table definition are written alike when their names are quoted alike. -/
theorem TableDef.constraintsAttempt_eq {constraints : List Constraint}
    (hnames : ∀ c ∈ constraints, ∀ name ∈ c.identifiers, QuotedAlike name) :
  constraintsAttempt .openEdge scope constraints
    = constraintsAttempt (.standard needed) scope constraints
  := by
  induction constraints with
  | nil => rfl
  | cons c rest ih =>
    obtain ⟨hc, hrest⟩ := List.forall_mem_cons.mp hnames
    rw [constraintsAttempt, constraintsAttempt, Constraint.attempt_eq hc, ih hrest]

/-- A table definition is written alike when its names, types and defaults agree. -/
theorem TableDef.attempt_eq {d : TableDef}
    (hnames : ∀ name ∈ (Statement.createTable d).ownIdentifiers, QuotedAlike name)
    (htypes : ∀ c ∈ d.columns,
      c.type ≠ .boolean ∧ c.type ≠ .varchar none ∧ c.type ≠ .timestampWithTimeZone)
    (hdefaults : ∀ c ∈ d.columns, ∀ e ∈ c.default, e.Agrees needed true) :
  d.attempt .openEdge {} = d.attempt (.standard needed) {}
  := by
  obtain ⟨hfront, hconstraints⟩ := List.forall_mem_append.mp hnames
  obtain ⟨htable, hcolumns⟩ := List.forall_mem_append.mp hfront
  rw [List.forall_mem_map] at hcolumns
  rw [List.forall_mem_flatMap] at hconstraints
  have hmap : d.columns.map (ColumnDef.attempt .openEdge (Scope.entering .createTable {}))
      = d.columns.map (ColumnDef.attempt (.standard needed) (Scope.entering .createTable {})) := by
    apply List.map_congr_left
    intro c hc
    apply ColumnDef.attempt_eq (hcolumns c hc) (htypes c hc) (hdefaults c hc)
  rw [attempt, attempt, Table.pieces_eq needed htable, hmap, constraintsAttempt_eq hconstraints]

end Statements

namespace Statement

variable {needed} {s : Statement}

/-- In a table definition bound values are written as literals. -/
theorem Shared.expr {inline : Bool} (h : s.Shared) (hinline : inline → ∃ d, s = createTable d)
    {e : Expr} (he : e ∈ s.exprs) :
  e.Agrees needed inline
  := by
  rintro scope rfl
  apply Expr.pieces_eq
  intro node hnode
  have hmem : node ∈ s.nodes := List.mem_flatMap.mpr ⟨e, he, hnode⟩
  constructor
  case columns =>
    rintro c rfl
    apply h.columns c hmem
  case booleans =>
    rintro x rfl
    apply h.booleans x hmem
  case inlined =>
    rintro x rfl
    apply h.inlined x hmem
  case bound =>
    rintro x hscope rfl
    obtain ⟨d, hd⟩ := hinline hscope
    apply h.defaults d x hd hmem
  case timestamps =>
    rintro rfl
    apply h.timestamps hmem
  case sequences =>
    rintro sequence rfl
    apply h.sequences sequence hmem
  case types =>
    rintro type rfl
    apply h.types type (.inl hmem)

/-- Constraints that have names keep them in every style. -/
theorem Shared.prepared (h : s.Shared) (style : Style) :
  s.prepared style = s
  := by
  have hconstraint : ∀ c ∈ s.constraints, c.prepared style = c := by
    intro c hc
    cases style with
    | standard needed => rfl
    | openEdge =>
      obtain ⟨name, hname⟩ := h.constraints c hc
      apply Constraint.named_of_writtenName? (Constraint.writtenName?_eq_some.mpr hname)
  cases s with
  | createTable d =>
    have hmap : d.constraints.map (Constraint.prepared style) = d.constraints := by
      apply (List.map_congr_left hconstraint).trans
      apply List.map_id'
    rw [Statement.prepared, hmap]
    split <;> rfl
  | addConstraint c => rw [Statement.prepared, hconstraint c (List.mem_singleton_self c)]
  | _ => rfl

/-- A statement that both styles share is written alike. -/
theorem Shared.attempt_eq (h : s.Shared) :
  s.attempt .openEdge {} = s.attempt (.standard needed) {}
  := by
  have hnames := h.identifiers
  have hexprs : ∀ e ∈ s.exprs, e.Agrees needed false := by
    intro e he
    apply h.expr _ he
    rintro ⟨⟩
  rw [attempt, attempt, h.prepared, h.prepared]
  cases s with
  | select q =>
    apply SelectQuery.attempt_eq _ hexprs (h.queries q rfl)
    intro t ht name hname
    apply hnames name (List.mem_flatMap.mpr ⟨t, Option.mem_toList.mpr ht, hname⟩)
  | insert q => apply InsertQuery.attempt_eq hnames hexprs
  | update q =>
    obtain ⟨hvalues, hcondition⟩ := List.forall_mem_append.mp hexprs
    rw [List.forall_mem_map] at hvalues
    apply UpdateQuery.attempt_eq hnames hvalues
    simpa using hcondition
  | delete q =>
    apply DeleteQuery.attempt_eq hnames
    simpa [exprs] using hexprs
  | createTable d =>
    apply TableDef.attempt_eq hnames
    · intro c hc
      apply h.types c.type (.inr (List.mem_map_of_mem hc))
    · intro c hc e he
      apply h.expr (fun _ => ⟨d, rfl⟩) (List.mem_filterMap.mpr ⟨c, hc, he⟩)
  | dropTable t =>
    rw [rawAttempt, rawAttempt, Table.removalAttempt, Table.removalAttempt,
      Table.pieces_eq needed hnames]
  | addConstraint c =>
    obtain ⟨htable, hconstraint⟩ := List.forall_mem_append.mp hnames
    rw [rawAttempt, rawAttempt, Constraint.additionAttempt, Constraint.additionAttempt,
      Table.pieces_eq needed htable, Constraint.attempt_eq hconstraint]

end Statement

/-- OpenEdge and standard SQL compile a statement alike when nothing in it is spelled by OpenEdge in
its own way: to the same query or to the same failure, and the statement is left alike. -/
theorem compileInPlace_openEdge_eq (needed : Bool) {s : Statement} (h : s.Shared) :
  Style.openEdge.compileInPlace s = (Style.standard needed).compileInPlace s
  := by
  have hattempt : s.attempt .openEdge {} = s.attempt (.standard needed) {} := h.attempt_eq
  rw [Style.compileInPlace, Style.compileInPlace, Style.compile, Style.compile, hattempt,
    h.prepared, h.prepared]

/-- A table of looms with a quoted name, a default that is converted, and a key with a name. -/
def loomRegister : Statement :=
  .createTable
    { table := { name := "Loom register", schema := "mill" }
      columns :=
        [{ name := "loom", type := .varchar (some 20), nullable := false },
          { name := "picks", type := .bigint
            default := some (.cast (.operand (.bound (.varchar (some "0"))))
              (.operand (.type .bigint))) }]
      constraints :=
        [{ kind := .primaryKey, table := { name := "Loom register", schema := "mill" }
           columns := ["loom"], name := some "pk_looms" }] }

/-- The definition of the loom register is shared by both styles. -/
theorem loomRegister_shared :
  loomRegister.Shared
  := by
  constructor
  case identifiers => decide +kernel
  case types =>
    intro type htype
    obtain rfl | rfl : type = .bigint ∨ type = .varchar (some 20) := by
      simpa [loomRegister, Statement.nodes, Statement.exprs, Expr.nodes,
        Statement.columnTypes, or_comm, or_assoc] using htype
    · simp
    · simp
  case constraints =>
    intro c hc
    obtain rfl := List.mem_singleton.mp hc
    use "pk_looms"
    simp
  all_goals simp [loomRegister, Statement.nodes, Statement.exprs, Expr.nodes]

/-- The loom register is defined alike, with a name that both styles quote. -/
theorem compileInPlace_openEdge_eq_loomRegister :
  (Style.openEdge.compile loomRegister).result
      = .ok ⟨"CREATE TABLE mill.\"Loom register\" (\nloom VARCHAR(20) NOT NULL,\npicks BIGINT"
        ++ " DEFAULT CAST('0' AS BIGINT),\nCONSTRAINT pk_looms PRIMARY KEY (loom)\n)", []⟩
    ∧ Style.openEdge.compileInPlace loomRegister = Style.generic.compileInPlace loomRegister
  := by
  constructor
  · decide +kernel
  · apply compileInPlace_openEdge_eq false loomRegister_shared

end SqlDialect
