import SqlDialect.Proofs.Identifier.Reading
import SqlDialect.Proofs.Render.Literals
import SqlDialect.Proofs.Render.Woven

/-!
# The tables that statements name

Everything but a query names its tables by their aliases where they have one, and by their
names after their schemas otherwise.  The rendering of such a statement is a row of slots
for its tables among pieces that do not depend on their aliases, and each slot shows which
name stands in it.
-/

namespace SqlDialect

/-! ## Tables under other aliases -/

/-- The table under the alias that it is given. -/
def Table.relabelled (label : Table → String) (t : Table) : Table :=
  { t with label := label t }

/-- What is demanded of columns, with the table that is referred to under another alias. -/
def ConstraintKind.relabelled (label : Table → String) : ConstraintKind → ConstraintKind
  | primaryKey => primaryKey
  | unique => unique
  | foreignKey references referenced onDelete =>
    foreignKey (references.relabelled label) referenced onDelete

/-- The constraint with its tables under other aliases. -/
def Constraint.relabelled (label : Table → String) (c : Constraint) : Constraint :=
  { c with kind := c.kind.relabelled label, table := c.table.relabelled label }

/-- The tables that are referred to. -/
def ConstraintKind.tables : ConstraintKind → List Table
  | primaryKey => []
  | unique => []
  | foreignKey references _ _ => [references]

namespace Statement

/-- The tables that a statement names, the source of a query apart. -/
def tables : Statement → List Table
  | select _ => []
  | insert q => [q.table]
  | update q => [q.table]
  | delete q => [q.table]
  | createTable d => d.table :: d.constraints.flatMap (·.kind.tables)
  | dropTable t => [t]
  | addConstraint c => c.table :: c.kind.tables

/-- The statement with these tables under other aliases. -/
def relabelled (label : Table → String) : Statement → Statement
  | select q => select q
  | insert q => insert { q with table := q.table.relabelled label }
  | update q => update { q with table := q.table.relabelled label }
  | delete q => delete { q with table := q.table.relabelled label }
  | createTable d =>
    createTable
      { d with
        table := d.table.relabelled label
        constraints := d.constraints.map (Constraint.relabelled label) }
  | dropTable t => dropTable (t.relabelled label)
  | addConstraint c => addConstraint (c.relabelled label)

/-- The words in front of the first table that a statement names. -/
def opening : Statement → String
  | select _ => "SELECT "
  | insert _ => "INSERT INTO "
  | update _ => "UPDATE "
  | delete _ => "DELETE FROM "
  | createTable _ => "CREATE TABLE "
  | dropTable _ => "DROP TABLE "
  | addConstraint _ => "ALTER TABLE "

end Statement

/-! ## The names of tables -/

/-- The identifiers that a table is named by outside of a FROM clause. -/
def Table.address (t : Table) : List String :=
  if t.label ≠ "" then [t.label] else if t.schema ≠ "" then [t.schema, t.name] else [t.name]

/-- A table goes by at least one name. -/
theorem Table.address_ne_nil (t : Table) :
  t.address ≠ []
  := by
  rw [address]
  split
  · simp
  · split <;> simp

/-- Outside of a FROM clause a table is written as the names that it goes by. -/
theorem Table.pieces_eq_dotted {style : Style} {scope : Scope} (h : scope.clause ≠ .selectFrom)
    (t : Table) :
  t.pieces style scope = style.dotted t.address
  := by
  rw [pieces, address, Style.qualifiedBy]
  by_cases hlabel : t.label = ""
  · by_cases hschema : t.schema = ""
    · simp [hlabel, hschema, Style.dotted]
    · simp [hlabel, hschema, Style.dotted]
  · simp [hlabel, h, Style.dotted]

/-- A table is named by its name exactly when it has no alias, or the name for one and no schema. -/
theorem Table.address_eq_iff (t : Table) :
  t.address = (t.relabelled fun _ => "").address
    ↔ t.label = "" ∨ (t.schema = "" ∧ t.label = t.name)
  := by
  rw [address, address, relabelled]
  by_cases hlabel : t.label = ""
  · simp [hlabel]
  · by_cases hschema : t.schema = ""
    · simp [hlabel, hschema]
    · simp [hlabel, hschema]

/-- Names with points in between are woven from no leaves. -/
theorem Woven.dotted (style : Style) (names : List String) :
  Woven style [] (style.dotted names)
  := by
  induction names with
  | nil => apply nil
  | cons name rest ih =>
    cases rest with
    | nil => apply identifier
    | cons next rest => apply names_join (by decide) (identifier style name) ih

/-! ## Slots -/

/-- A place in a rendering: a piece, or the name of a table. -/
inductive Slot
  | piece (p : Piece)
  | table (t : Table)

namespace Slot

/-- The pieces in a slot when tables go by the given aliases. -/
def pieces (style : Style) (label : Table → String) : Slot → List Piece
  | piece p => [p]
  | table t => style.dotted (t.relabelled label).address

/-- The table that a slot is for. -/
def table? : Slot → Option Table
  | piece _ => none
  | table t => some t

/-- The pieces in the slots, one after the other. -/
def piecesOf (style : Style) (label : Table → String) (slots : List Slot) : List Piece :=
  slots.flatMap (pieces style label)

/-- The tables that slots are for. -/
def tablesOf (slots : List Slot) : List Table :=
  slots.filterMap table?

/-- Every table is followed by a blank. -/
inductive Legible : List Slot → Prop
  | nil : Legible []
  | piece (p : Piece) {slots : List Slot} (h : Legible slots) : Legible (.piece p :: slots)
  | table (t : Table) {text : String} {slots : List Slot}
    (htext : text.toList.head?.any Text.isBlank) (h : Legible slots) :
    Legible (.table t :: .piece (.plain text) :: slots)

section

variable (style : Style) (label : Table → String)

/-- The pieces of the first slot stand in front of those of the others. -/
theorem piecesOf_cons (slot : Slot) (slots : List Slot) :
  piecesOf style label (slot :: slots) = slot.pieces style label ++ piecesOf style label slots
  := List.flatMap_cons

/-- The characters of the first slot stand in front of those of the others. -/
theorem toList_piecesOf_cons (slot : Slot) (slots : List Slot) :
  (Piece.textOf (piecesOf style label (slot :: slots))).toList
    = (Piece.textOf (slot.pieces style label)).toList
      ++ (Piece.textOf (piecesOf style label slots)).toList
  := by
  rw [piecesOf_cons, Piece.toList_textOf_append]

/-- The pieces of slots stand one after the other. -/
theorem piecesOf_append (xs ys : List Slot) :
  piecesOf style label (xs ++ ys) = piecesOf style label xs ++ piecesOf style label ys
  := List.flatMap_append

/-- Slots for pieces alone are these pieces. -/
theorem piecesOf_map_piece (ps : List Piece) :
  piecesOf style label (ps.map piece) = ps
  := by
  rw [piecesOf, List.flatMap_map]
  apply List.flatMap_singleton'

/-- Slots are written alike under two ways of naming tables by which their tables have the same
addresses. -/
theorem piecesOf_congr {style : Style} {f g : Table → String} {slots : List Slot}
    (h : ∀ t ∈ tablesOf slots, (t.relabelled f).address = (t.relabelled g).address) :
  piecesOf style f slots = piecesOf style g slots
  := by
  apply List.flatMap_congr
  intro slot hslot
  cases slot with
  | piece p => rfl
  | table t => rw [pieces, pieces, h t (List.mem_filterMap.mpr ⟨_, hslot, rfl⟩)]

/-- What is found neither in fixed texts nor in names does not depend on aliases. -/
theorem filterMap_piecesOf {α : Type} {find : Piece → Option α}
    (htext : ∀ text, find (.plain text) = none)
    (hname : ∀ content, find (.quoted '"' content) = none) (slots : List Slot) :
  (piecesOf style label slots).filterMap find
    = slots.filterMap fun
      | piece p => find p
      | table _ => none
  := by
  induction slots with
  | nil => rfl
  | cons slot slots ih =>
    rw [piecesOf_cons, List.filterMap_append, ih, List.filterMap_cons]
    cases slot with
    | piece p => cases hfind : find p <;> simp [pieces, hfind]
    | table t =>
      have hfound := (Woven.dotted style (t.relabelled label).address).filterMap_eq htext hname
      rw [pieces, hfound]
      rfl

end

/-- The tables of slots are found one after the other. -/
theorem tablesOf_append (xs ys : List Slot) :
  tablesOf (xs ++ ys) = tablesOf xs ++ tablesOf ys
  := List.filterMap_append

/-- There are no tables in slots for pieces alone. -/
theorem tablesOf_map_piece (ps : List Piece) :
  tablesOf (ps.map piece) = []
  := by
  simp [tablesOf, table?, Function.comp_def]

namespace Legible

/-- Legible slots may stand one after the other. -/
theorem append {xs ys : List Slot} (hxs : Legible xs) (hys : Legible ys) :
  Legible (xs ++ ys)
  := by
  induction hxs with
  | nil => apply hys
  | piece p _ ih => apply piece p ih
  | table t htext _ ih => apply table t htext ih

/-- Slots for pieces alone are legible. -/
theorem map_piece (ps : List Piece) :
  Legible (ps.map Slot.piece)
  := by
  induction ps with
  | nil => apply nil
  | cons p ps ih => apply piece p ih

/-- What starts with a blank goes on with no name in front of it. -/
theorem parts_piecesOf {style : Style} {label : Table → String} {text : String}
    {slots : List Slot} (h : text.toList.head?.any Text.isBlank) :
  Text.EndsName (Piece.textOf (piecesOf style label (.piece (.plain text) :: slots))).toList
    ∧ (Piece.textOf (piecesOf style label (.piece (.plain text) :: slots))).toList.head? ≠ some '.'
  := by
  cases hchars : text.toList with
  | nil => simp [hchars] at h
  | cons c chars =>
    have hblank : Text.isBlank c := by simpa [hchars] using h
    have hhead : (Piece.textOf (piecesOf style label (.piece (.plain text) :: slots))).toList.head?
        = some c := by
      rw [toList_piecesOf_cons]
      simp [pieces, Piece.toList_textOf, Piece.text, hchars]
    rw [Text.EndsName, hhead]
    refine ⟨?_, ?_⟩
    · rintro d hd
      obtain rfl := Option.some.inj hd
      constructor
      · by_contra hword
        rw [Text.isBlank_of_isAnyWord (by simpa using hword)] at hblank
        cases hblank
      · rintro rfl
        cases hblank
    · rintro hdot
      obtain rfl := Option.some.inj hdot
      cases hblank

/-- The text of a rendering shows which names stand in its slots. -/
theorem address_eq {style : Style} {f g : Table → String} {slots : List Slot} (h : Legible slots)
    (htext : (Piece.textOf (piecesOf style f slots)).toList
      = (Piece.textOf (piecesOf style g slots)).toList) :
  ∀ t ∈ tablesOf slots, (t.relabelled f).address = (t.relabelled g).address
  := by
  induction h with
  | nil => simp [tablesOf]
  | piece p h ih =>
    rw [toList_piecesOf_cons style f, toList_piecesOf_cons style g, pieces, pieces,
      List.append_cancel_left_eq] at htext
    apply ih htext
  | table t hblank h ih =>
    rw [toList_piecesOf_cons style f, toList_piecesOf_cons style g] at htext
    obtain ⟨x, xs, hf⟩ := List.exists_cons_of_ne_nil (t.relabelled f).address_ne_nil
    obtain ⟨y, ys, hg⟩ := List.exists_cons_of_ne_nil (t.relabelled g).address_ne_nil
    rw [pieces, pieces, hf, hg] at htext
    obtain ⟨hname, hdot⟩ := parts_piecesOf hblank
    obtain ⟨hname', hdot'⟩ := parts_piecesOf hblank
    obtain ⟨haddress, hrest⟩ := Style.dotted_append_inj hname hdot hname' hdot' htext
    rw [toList_piecesOf_cons style f, toList_piecesOf_cons style g, pieces, pieces,
      List.append_cancel_left_eq] at hrest
    intro u hu
    obtain rfl | hu := List.mem_cons.mp hu
    · rw [hf, hg, haddress]
    · apply ih hrest u hu

end Legible

end Slot

/-! ## Statements in slots -/

/-- Under whatever aliases the given tables go, the attempt fills the slots for them. -/
structure Slotted (style : Style) (tables : List Table) (attempt : (Table → String) → Attempt)
    (slots : List Slot) : Prop where
  legible : Slot.Legible slots
  tables : Slot.tablesOf slots = tables
  attempt : ∀ label, attempt label = .ok (Slot.piecesOf style label slots)

/-- What was written as a whole is followed by what is written as a whole. -/
theorem Attempt.ok_append_ok (xs ys : List Piece) :
  ok xs ++ ok ys = ok (xs ++ ys)
  := rfl

namespace Slotted

variable {style : Style} {scope : Scope} {tables tables' : List Table}
  {attempt attempt' : (Table → String) → Attempt} {slots slots' : List Slot}

/-- What names no table fills slots for its pieces alone. -/
theorem ok (style : Style) (ps : List Piece) :
  Slotted style [] (fun _ => .ok ps) (ps.map .piece)
  where
  legible := .map_piece ps
  tables := Slot.tablesOf_map_piece ps
  attempt label := by rw [Slot.piecesOf_map_piece]

/-- A table with a blank behind it. -/
theorem table (style : Style) (hscope : scope.clause ≠ .selectFrom) (t : Table) (text : String)
    (htext : text.toList.head?.any Text.isBlank) :
  Slotted style [t] (fun label => .ok ((t.relabelled label).pieces style scope ++ [.plain text]))
    [.table t, .piece (.plain text)]
  where
  legible := .table t htext .nil
  tables := rfl
  attempt label := by
    rw [Table.pieces_eq_dotted hscope, Slot.piecesOf_cons, Slot.piecesOf_cons]
    rfl

/-- Attempts one after the other fill slots one after the other. -/
theorem append (h : Slotted style tables attempt slots)
    (h' : Slotted style tables' attempt' slots') :
  Slotted style (tables ++ tables') (fun label => attempt label ++ attempt' label) (slots ++ slots')
  where
  legible := h.legible.append h'.legible
  tables := by rw [Slot.tablesOf_append, h.tables, h'.tables]
  attempt label := by
    rw [h.attempt, h'.attempt, Slot.piecesOf_append]
    rfl

/-- Slots are filled by whatever makes the same attempt under every way of naming tables. -/
theorem congr (h : Slotted style tables attempt slots)
    (heq : ∀ label, attempt' label = attempt label) :
  Slotted style tables attempt' slots
  where
  legible := h.legible
  tables := h.tables
  attempt label := by
    rw [heq]
    apply h.attempt

end Slotted

section

variable {style : Style} {scope : Scope} (hscope : scope.clause ≠ .selectFrom)
include hscope

/-- What a constraint demands fills slots for the table that it refers to. -/
theorem ConstraintKind.slotted {table : Table} {columns : List String} {kind : ConstraintKind}
    {ps : List Piece} (h : kind.attempt style scope table columns = .ok ps) :
  ∃ slots, Slotted style kind.tables
    (fun label => (kind.relabelled label).attempt style scope (table.relabelled label) columns)
    slots
  := by
  cases kind with
  | primaryKey => exact ⟨_, Slotted.ok style _⟩
  | unique => exact ⟨_, Slotted.ok style _⟩
  | foreignKey references referenced onDelete =>
    obtain ⟨hlength, -⟩ := Attempt.checked_eq_ok.mp h
    have hequal : referenced.length = columns.length := by simpa using hlength
    clear h hlength
    have hreferences := (Slotted.ok style (.plain "FOREIGN KEY " :: style.nameList columns
      ++ [.plain " REFERENCES "])).append (Slotted.table style hscope references " " (by decide))
    have hwritten := hreferences.append (Slotted.ok style (style.nameList referenced
      ++ onDelete.elim [] fun action => [.plain " ON DELETE ", .plain action.text]))
    refine ⟨_, hwritten.congr ?_⟩
    intro label
    change Attempt.checked (if referenced.length ≠ columns.length then _ else _) _ = _
    rw [if_neg (by simpa using hequal)]
    cases onDelete <;> simp [Attempt.checked, Attempt.ok_append_ok]

/-- A constraint fills slots for the table that it refers to. -/
theorem Constraint.slotted {c : Constraint} {ps : List Piece}
    (h : c.attempt style scope = .ok ps) :
  ∃ slots, Slotted style c.kind.tables (fun label => (c.relabelled label).attempt style scope) slots
  := by
  obtain ⟨hcolumns, h⟩ := Attempt.checked_eq_ok.mp h
  obtain ⟨ys, hkind, -⟩ := Attempt.ok_append_eq_ok.mp h
  obtain ⟨slots, hslots⟩ := ConstraintKind.slotted hscope hkind
  clear h
  have hne : c.columns ≠ [] := by simpa using hcolumns
  have hname := Slotted.ok style (c.writtenName?.elim [] fun name =>
    [.plain "CONSTRAINT ", style.identifier name, .plain " "])
  refine ⟨_, (hname.append hslots).congr ?_⟩
  intro label
  have hwritten : (c.relabelled label).writtenName? = c.writtenName? := rfl
  change Attempt.checked (if c.columns = [] then _ else _) _ = _
  rw [if_neg hne, hwritten]
  cases c.writtenName? <;> rfl

/-- The constraints of a table definition fill slots for the tables that they refer to. -/
theorem TableDef.constraints_slotted {constraints : List Constraint} {ps : List Piece}
    (h : constraintsAttempt style scope constraints = .ok ps) :
  ∃ slots, Slotted style (constraints.flatMap (·.kind.tables))
    (fun label => constraintsAttempt style scope (constraints.map (Constraint.relabelled label)))
    slots
  := by
  induction constraints generalizing ps with
  | nil => exact ⟨_, Slotted.ok style []⟩
  | cons c rest ih =>
    obtain ⟨xs, ys, hxs, hys, -⟩ := Attempt.append_eq_ok.mp h
    obtain ⟨zs, hzs, -⟩ := Attempt.ok_append_eq_ok.mp hxs
    obtain ⟨slots, hslots⟩ := Constraint.slotted hscope hzs
    obtain ⟨slots', hslots'⟩ := ih hys
    exact ⟨_, ((Slotted.ok style [.plain ",\n"]).append hslots).append hslots'⟩

end

/-- Under whatever aliases its tables go, the statement fills the slots: it starts with its opening
words and the name of a table, and there is one slot for each table that it names. -/
structure Statement.Slotted (style : Style) (s : Statement) (slots : List Slot) : Prop where
  legible : Slot.Legible (slots ++ [.piece (.plain "\n")])
  opening : ∃ table rest, slots = .piece (.plain s.opening) :: .table table :: rest
  tables : Slot.tablesOf slots = s.tables
  attempt : ∀ label,
    (s.relabelled label).rawAttempt style {} = .ok (Slot.piecesOf style label slots)

namespace Statement

variable {style : Style}

/-- A statement is in slots when what follows its opening words and the name of a table is. -/
theorem slotted_of_rest {scope : Scope} (hscope : scope.clause ≠ .selectFrom) {s : Statement}
    {t : Table} (rest : List Slot) (hlegible : Slot.Legible rest)
    (hblank : rest = [] ∨ ∃ text tail, rest = .piece (.plain text) :: tail
      ∧ text.toList.head?.any Text.isBlank)
    (htables : s.tables = t :: Slot.tablesOf rest)
    (hattempt : ∀ label, (s.relabelled label).rawAttempt style {}
      = .ok (.plain s.opening :: (t.relabelled label).pieces style scope
        ++ Slot.piecesOf style label rest)) :
  ∃ slots, s.Slotted style slots
  := by
  use .piece (.plain s.opening) :: .table t :: rest
  refine ⟨?_, ⟨t, rest, rfl⟩, htables.symm, ?_⟩
  · apply Slot.Legible.piece
    obtain rfl | ⟨text, tail, rfl, htext⟩ := hblank
    · apply Slot.Legible.table t (by decide) .nil
    · cases hlegible with
      | piece p htail => apply Slot.Legible.table t htext (htail.append (.piece _ .nil))
  · intro label
    rw [hattempt, Table.pieces_eq_dotted hscope, Slot.piecesOf_cons, Slot.piecesOf_cons]
    rfl

/-- A statement is in slots when it names one table behind its opening words. -/
theorem slotted_of_pieces {scope : Scope} (hscope : scope.clause ≠ .selectFrom) {s : Statement}
    {t : Table} (rest : List Piece)
    (hblank : rest = [] ∨ ∃ text tail, rest = .plain text :: tail
      ∧ text.toList.head?.any Text.isBlank)
    (htables : s.tables = [t])
    (hattempt : ∀ label, (s.relabelled label).rawAttempt style {}
      = .ok (.plain s.opening :: (t.relabelled label).pieces style scope ++ rest)) :
  ∃ slots, s.Slotted style slots
  := by
  apply slotted_of_rest hscope (rest.map .piece) (.map_piece rest)
  · obtain rfl | ⟨text, tail, rfl, htext⟩ := hblank
    · exact .inl rfl
    · exact .inr ⟨text, tail.map .piece, rfl, htext⟩
  · rw [Slot.tablesOf_map_piece, htables]
  · intro label
    rw [Slot.piecesOf_map_piece, hattempt]

/-- A condition is parted by a blank from what stands in front of it. -/
theorem blank_wherePieces (scope : Scope) (condition : Option Expr) :
  wherePieces style scope condition = []
    ∨ ∃ text tail, wherePieces style scope condition = .plain text :: tail
      ∧ text.toList.head?.any Text.isBlank
  := by
  cases condition with
  | none => exact .inl rfl
  | some e => exact .inr ⟨_, _, rfl, by decide⟩

/-- An insertion fills slots, its table behind its opening words. -/
theorem insert_slotted {q : InsertQuery} {ps : List Piece} (h : q.attempt style {} = .ok ps) :
  ∃ slots, (insert q).Slotted style slots
  := by
  have hscope : (({} : Scope).entering .insertInto).clause ≠ .selectFrom := by decide
  obtain ⟨hrows, h⟩ := Attempt.checked_eq_ok.mp h
  apply slotted_of_pieces hscope (.plain " " :: .plain "("
      :: Piece.separated ", " (q.columns.map fun column => [style.identifier column])
    ++ .plain ") VALUES\n" :: Piece.separated ",\n"
      (q.rows.map (InsertQuery.rowPieces style (({} : Scope).entering .insertValues))))
  · exact .inr ⟨_, _, rfl, by decide⟩
  · rfl
  · intro label
    apply Attempt.checked_eq_ok.mpr ⟨hrows, _⟩
    rw [← List.append_assoc]
    rfl

/-- An update fills slots, its table behind its opening words. -/
theorem update_slotted {q : UpdateQuery} {ps : List Piece} (h : q.attempt style {} = .ok ps) :
  ∃ slots, (update q).Slotted style slots
  := by
  have hscope : (({} : Scope).entering .update).clause ≠ .selectFrom := by decide
  obtain ⟨hassignments, h⟩ := Attempt.checked_eq_ok.mp h
  apply slotted_of_pieces hscope (.plain " SET " :: Piece.separated ", "
      (q.assignments.map (UpdateQuery.assignmentPieces style (({} : Scope).entering .updateSet)))
    ++ wherePieces style (({} : Scope).entering .updateWhere) q.condition)
  · exact .inr ⟨_, _, rfl, by decide⟩
  · rfl
  · intro label
    apply Attempt.checked_eq_ok.mpr ⟨hassignments, _⟩
    rw [← List.append_assoc]
    rfl

/-- A deletion fills slots, its table behind its opening words. -/
theorem delete_slotted (style : Style) (q : DeleteQuery) :
  ∃ slots, (delete q).Slotted style slots
  := by
  have hscope : (({} : Scope).entering .deleteFrom).clause ≠ .selectFrom := by decide
  apply slotted_of_pieces hscope
    (wherePieces style (({} : Scope).entering .deleteWhere) q.condition)
  · apply blank_wherePieces
  · rfl
  · intro label
    rfl

/-- A table definition fills slots for its table and those that its constraints refer to. -/
theorem createTable_slotted {d : TableDef} {ps : List Piece} (h : d.attempt style {} = .ok ps) :
  ∃ slots, (createTable d).Slotted style slots
  := by
  have hscope : (({} : Scope).entering .createTable).clause ≠ .selectFrom := by decide
  have hconstraint : (({} : Scope).entering .createTableConstraint).clause ≠ .selectFrom := by
    decide
  obtain ⟨hcolumns, h⟩ := Attempt.checked_eq_ok.mp h
  obtain ⟨xs, -, hxs, -, -⟩ := Attempt.append_eq_ok.mp h
  obtain ⟨us, vs, hus, hvs, -⟩ := Attempt.append_eq_ok.mp hxs
  obtain ⟨zs, hzs, -⟩ := Attempt.ok_append_eq_ok.mp hus
  obtain ⟨slots, hslots⟩ := TableDef.constraints_slotted hconstraint hvs
  have hrest := ((Slotted.ok style (.plain " (\n" :: zs)).append hslots).append
    (Slotted.ok style [.plain "\n)"])
  apply slotted_of_rest hscope _ hrest.legible
  · exact .inr ⟨_, _, rfl, by decide⟩
  · rw [hrest.tables, List.append_nil]
    rfl
  · intro label
    have hempty : d.columns.isEmpty = false := by simpa using hcolumns
    rw [← Attempt.ok_append_ok, ← hrest.attempt]
    change Attempt.checked (if d.columns.isEmpty then _ else _)
      (.ok _ ++ .separated ",\n" (d.columns.map _) ++ _ ++ _) = _
    rw [hempty, if_neg Bool.false_ne_true, hzs, hslots.attempt]
    simp [Attempt.checked, Attempt.ok_append_ok, opening]

/-- The removal of a table fills slots, the table behind its opening words. -/
theorem dropTable_slotted (style : Style) (t : Table) :
  ∃ slots, (dropTable t).Slotted style slots
  := by
  have hscope : (({} : Scope).entering .dropTable).clause ≠ .selectFrom := by decide
  apply slotted_of_pieces hscope []
  · exact .inl rfl
  · rfl
  · intro label
    rw [List.append_nil]
    rfl

/-- The addition of a constraint fills slots for its table and the one that it refers to. -/
theorem addConstraint_slotted {c : Constraint} {ps : List Piece}
    (h : c.additionAttempt style {} = .ok ps) :
  ∃ slots, (addConstraint c).Slotted style slots
  := by
  have hscope : (({} : Scope).entering .alterTable).clause ≠ .selectFrom := by decide
  obtain ⟨ys, hys, -⟩ := Attempt.ok_append_eq_ok.mp h
  obtain ⟨slots, hslots⟩ := Constraint.slotted hscope hys
  apply slotted_of_rest hscope (.piece (.plain " ADD ") :: slots)
  · apply Slot.Legible.piece _ hslots.legible
  · exact .inr ⟨_, _, rfl, by decide⟩
  · rw [tables, ← hslots.tables]
    rfl
  · intro label
    change Attempt.ok _ ++ (c.relabelled label).attempt style _ = _
    rw [hslots.attempt, Slot.piecesOf_cons, Attempt.ok_append_ok, List.append_assoc]
    rfl

/-- A statement that is written as a whole is in slots, unless it is a query. -/
theorem rawAttempt_slotted {s : Statement} (hs : ∀ q, s ≠ select q) {ps : List Piece}
    (h : s.rawAttempt style {} = .ok ps) :
  ∃ slots, s.Slotted style slots
  := by
  cases s with
  | select q => cases hs q rfl
  | insert q => apply insert_slotted h
  | update q => apply update_slotted h
  | delete q => apply delete_slotted
  | createTable d => apply createTable_slotted h
  | dropTable t => apply dropTable_slotted
  | addConstraint c => apply addConstraint_slotted h

end Statement

/-! ## Compiled statements -/

/-- The name that a style gives to a constraint does not depend on aliases. -/
theorem Constraint.prepared_relabelled (style : Style) (label : Table → String) (c : Constraint) :
  (c.relabelled label).prepared style = (c.prepared style).relabelled label
  := by
  cases style with
  | standard needed => rfl
  | openEdge =>
    have hname : (c.relabelled label).writtenName? = c.writtenName? := rfl
    have hdefault : (c.relabelled label).defaultName = c.defaultName := by
      obtain ⟨kind, table, columns, name⟩ := c
      cases kind <;> rfl
    rw [prepared, prepared, named, named, hname, hdefault]
    cases c.writtenName? <;> rfl

namespace Statement

/-- Names are given to constraints alike under whatever aliases the tables go. -/
theorem prepared_relabelled (style : Style) (label : Table → String) (s : Statement) :
  (s.relabelled label).prepared style = (s.prepared style).relabelled label
  := by
  cases s with
  | createTable d =>
    rw [relabelled, prepared, prepared]
    split
    · rfl
    · simp [relabelled, Constraint.prepared_relabelled]
  | addConstraint c =>
    simp only [relabelled, prepared, Constraint.prepared_relabelled]
  | _ => rfl

/-- The names of constraints are no tables of the statement. -/
theorem tables_prepared (style : Style) (s : Statement) :
  (s.prepared style).tables = s.tables
  := by
  have hkind : ∀ c : Constraint, (c.prepared style).kind = c.kind := by
    intro c
    obtain ⟨name, hname⟩ := c.prepared_eq style
    rw [hname]
  cases s with
  | createTable d =>
    rw [prepared]
    split
    · rfl
    · simp [tables, List.flatMap_map, hkind]
  | addConstraint c =>
    obtain ⟨name, hname⟩ := c.prepared_eq style
    rw [prepared, hname]
    rfl
  | _ => rfl

/-- The opening words of a statement do not depend on the names of its constraints. -/
theorem opening_prepared (style : Style) (s : Statement) :
  (s.prepared style).opening = s.opening
  := by
  cases s with
  | createTable d =>
    rw [prepared]
    split <;> rfl
  | _ => rfl

/-- A statement that goes by its own aliases is the statement. -/
theorem relabelled_label (s : Statement) :
  s.relabelled Table.label = s
  := by
  have hconstraint : ∀ c : Constraint, c.relabelled Table.label = c := by
    rintro ⟨kind, table, columns, name⟩
    cases kind <;> rfl
  cases s with
  | createTable d =>
    have hconstraints : d.constraints.map (Constraint.relabelled Table.label) = d.constraints := by
      rw [funext hconstraint, List.map_id']
    rw [relabelled, hconstraints]
    rfl
  | addConstraint c => rw [relabelled, hconstraint]
  | _ => rfl

/-- The SQL of a statement, with a slot for each table that it names: the opening words are followed
by the name of a table, and under whatever other aliases the tables go, the SQL of the statement
differs only in the slots. -/
structure NamesTables (style : Style) (s : Statement) (query : CompiledQuery) (slots : List Slot) :
    Prop where
  opening : ∃ table rest, slots = .piece (.plain s.opening) :: .table table :: rest
  tables : Slot.tablesOf slots = s.tables
  sql : query.sql = Piece.textOf (Slot.piecesOf style Table.label slots)
  compiled : ∀ label, (style.compile (s.relabelled label)).result
    = .ok ⟨Piece.textOf (Slot.piecesOf style label slots), query.parameters⟩

/-- A statement that fills slots and compiles names its tables in them. -/
theorem Slotted.namesTables {style : Style} {s : Statement} {slots : List Slot}
    (hslots : (s.prepared style).Slotted style slots) {query : CompiledQuery}
    (h : (style.compile s).result = .ok query) :
  s.NamesTables style query slots
  := by
  have hattempt : ∀ label, (s.relabelled label).attempt style {}
      = .ok (Slot.piecesOf style label slots) := by
    intro label
    rw [Statement.attempt, prepared_relabelled]
    apply hslots.attempt
  have hsame : ∀ {α : Type} {find : Piece → Option α} (label : Table → String),
      (∀ text, find (.plain text) = none) → (∀ content, find (.quoted '"' content) = none) →
      (Slot.piecesOf style label slots).filterMap find
        = (Slot.piecesOf style Table.label slots).filterMap find := by
    intro α find label htext hname
    rw [Slot.filterMap_piecesOf style label htext hname,
      Slot.filterMap_piecesOf style _ htext hname]
  have hown : s.attempt style {} = .ok (Slot.piecesOf style Table.label slots) := by
    rw [← hattempt, relabelled_label]
  obtain ⟨ps, hps, hmoment, hrecorded, rfl⟩ := Attempt.result_compiled_eq_ok.mp h
  obtain rfl := Attempt.ok_inj.mp (hps.symm.trans hown)
  refine ⟨?_, ?_, rfl, ?_⟩
  · rw [← opening_prepared style]
    apply hslots.opening
  · rw [hslots.tables, tables_prepared]
  · intro label
    apply Attempt.result_compiled_eq_ok.mpr
    refine ⟨_, hattempt label, ?_, ?_, ?_⟩
    · rw [Piece.momentOf?, ← List.head?_filterMap] at hmoment ⊢
      rw [hsame label (fun _ => rfl) (fun _ => rfl), hmoment]
    · rw [Piece.failureOf?, ← List.head?_filterMap] at hrecorded ⊢
      rw [hsame label (fun _ => rfl) (fun _ => rfl), hrecorded]
    · rw [Piece.parametersOf, Piece.parametersOf, hsame label (fun _ => rfl) (fun _ => rfl)]

/-- A statement that is no query shows in the slots of its SQL which names its tables go by: their
aliases where they have one.  So it addresses its tables by their names, after their schemas,
exactly when no alias differs from the name it stands for. -/
theorem tables_addressed_by_label (style : Style) {s : Statement} (hs : ∀ q, s ≠ select q)
    {query : CompiledQuery} (h : (style.compile s).result = .ok query) :
  (∃ slots, s.NamesTables style query slots)
    ∧ ((style.compile (s.relabelled fun _ => "")).result = .ok query
      ↔ ∀ t ∈ s.tables, t.label = "" ∨ (t.schema = "" ∧ t.label = t.name))
  := by
  obtain ⟨ps, hps, -⟩ := Attempt.result_compiled_eq_ok.mp h
  have hprepared : ∀ q, s.prepared style ≠ select q := by
    intro q hq
    cases s with
    | select q => cases hs q rfl
    | createTable d =>
      rw [prepared] at hq
      split at hq <;> cases hq
    | _ => cases hq
  obtain ⟨slots, hslots⟩ := rawAttempt_slotted hprepared hps
  have hnames := hslots.namesTables h
  refine ⟨⟨slots, hnames⟩, ?_⟩
  rw [hnames.compiled, ← hnames.tables]
  constructor
  · intro heq t ht
    obtain ⟨hsql, -⟩ := CompiledQuery.mk.inj (Except.ok.inj heq)
    have htext : (Piece.textOf (Slot.piecesOf style Table.label
          (slots ++ [.piece (.plain "\n")]))).toList
        = (Piece.textOf (Slot.piecesOf style (fun _ => "")
          (slots ++ [.piece (.plain "\n")]))).toList := by
      rw [Slot.piecesOf_append, Slot.piecesOf_append, Piece.toList_textOf_append,
        Piece.toList_textOf_append, ← hnames.sql, hsql]
      rfl
    apply t.address_eq_iff.mp
    apply hslots.legible.address_eq htext t
    rw [Slot.tablesOf_append]
    apply List.mem_append_left _ ht
  · intro hlabel
    have hpieces : Slot.piecesOf style (fun _ => "") slots
        = Slot.piecesOf style Table.label slots := by
      apply Slot.piecesOf_congr
      intro t ht
      exact (t.address_eq_iff.mpr (hlabel t ht)).symm
    rw [hpieces, ← hnames.sql]

/-- A definition of a table whose rows refer to those of another one, under an alias. -/
def milledRolls : Statement :=
  createTable
    { table := { name := "rolls", schema := "PUB" }
      columns := [{ name := "mill", type := .integer }]
      constraints :=
        [{ kind := .foreignKey { name := "mills", schema := "PUB", label := "m" } ["id"] none
           table := { name := "rolls" }
           columns := ["mill"] }] }

/-- The definition refers to the mills by their alias, so it is not what is written without one. -/
theorem tables_addressed_by_label_milledRolls :
  ∃ query, (Style.openEdge.compile milledRolls).result = .ok query
    ∧ (∃ slots, milledRolls.NamesTables .openEdge query slots)
    ∧ (Style.openEdge.compile (milledRolls.relabelled fun _ => "")).result ≠ .ok query
  := by
  have hquery : ∀ q, milledRolls ≠ select q := by
    intro q h
    cases h
  have hcompiled : (Style.openEdge.compile milledRolls).result = .ok
      ⟨"CREATE TABLE PUB.rolls (\nmill INTEGER,\n"
        ++ "CONSTRAINT fk_rolls_mill FOREIGN KEY (mill) REFERENCES m (id)\n)", []⟩ := by
    decide +kernel
  obtain ⟨hslots, hiff⟩ := tables_addressed_by_label .openEdge hquery hcompiled
  refine ⟨_, hcompiled, hslots, ?_⟩
  intro h
  have hmills := hiff.mp h { name := "mills", schema := "PUB", label := "m" }
    (by simp [milledRolls, tables, ConstraintKind.tables])
  simp at hmills

/-- The removal of a table names the alias of the table, and so another table than without it. -/
theorem dropTable_addressed_by_label :
  (Style.openEdge.compile (.dropTable { name := "rolls", schema := "PUB", label := "r" })).result
      = .ok ⟨"DROP TABLE r", []⟩
    ∧ (Style.openEdge.compile (.dropTable { name := "rolls", schema := "PUB" })).result
      = .ok ⟨"DROP TABLE PUB.rolls", []⟩
  := by
  decide +kernel

end Statement

end SqlDialect
