import SqlDialect.Proofs.Session.Running

/-!
# Rows with booleans as bits

Booleans travel as bits in parameters, and are told from bits in rows by the types of the
columns.  A row is decoded unless a boolean column of it holds something that is neither
null nor an integer; the first such cell is what the failure names.  Rows are decoded until
one fails, and nothing comes of the rows before it.
-/

namespace SqlDialect

/-- A report that is a success under a condition, and otherwise the one failure of some kind, is
known by its result. -/
theorem Report.result_of_cases {α : Type} {r : Report α} {x : α} {condition : Prop}
    {kind : Failure → Prop} (h : (r = .ok x ∧ condition) ∨ ∃ f, r = .fail f ∧ kind f)
    (hcondition : ∀ f, kind f → ¬ condition) (hkind : ∀ f g, kind f → kind g → f = g) :
  (∀ y, r.result = .ok y ↔ condition ∧ y = x) ∧ ∀ f, r.result = .error f ↔ kind f
  := by
  obtain ⟨rfl, hc⟩ | ⟨g, rfl, hg⟩ := h
  · constructor
    · intro y
      constructor
      · intro hy
        exact ⟨hc, (Except.ok.inj hy).symm⟩
      · rintro ⟨-, rfl⟩
        rfl
    · intro f
      constructor
      · intro hf
        cases hf
      · intro hf
        cases hcondition f hf hc
  · constructor
    · intro y
      constructor
      · intro hy
        cases hy
      · rintro ⟨hc, -⟩
        cases hcondition g hg hc
    · intro f
      constructor
      · intro hf
        obtain rfl := Except.error.inj hf
        exact hg
      · intro hf
        rw [hkind f g hf hg]
        rfl

namespace Value

/-- The value has an integer type. -/
def IsInteger : Value → Prop
  | smallint _ | integer _ | bigint _ => True
  | _ => False

/-- The truth value of an integer: every integer but zero is true. -/
def truth? : Value → Option Bool
  | smallint (some n) => some (n ≠ 0)
  | integer (some n) => some (n ≠ 0)
  | bigint (some n) => some (n ≠ 0)
  | _ => none

/-- What a cell of a column of the given type stands for, when it stands for anything; a column may
be without a type. -/
def decodedCell (type? : Option ColumnType) (cell : Value) : Value :=
  if type? = some .boolean then boolean cell.truth? else cell

/-- What the cells of a row stand for, by the types of their columns. -/
def decodedRow (types : List ColumnType) (row : Row) : Row :=
  row.mapIdx fun i cell => decodedCell types[i]? cell

/-- The cell at the place stands for nothing: its column is boolean, and it is neither null nor an
integer. -/
structure Offends (types : List ColumnType) (row : Row) (i : Nat) (cell : Value) : Prop where
  type : types[i]? = some .boolean
  found : row[i]? = some cell
  present : cell.isNull = false
  not_integer : ¬ cell.IsInteger

/-- The cell is the first of the row that stands for nothing. -/
structure OffendsFirst (types : List ColumnType) (row : Row) (i : Nat) (cell : Value) : Prop where
  offends : Offends types row i cell
  first : ∀ j < i, ∀ other, ¬ Offends types row j other

/-- Every cell of the row stands for something. -/
def Decodable (types : List ColumnType) (row : Row) : Prop :=
  ∀ i cell, ¬ Offends types row i cell

/-- The cell is the first of the rows that stands for nothing. -/
inductive OffendsFirstAmong (types : List ColumnType) : List Row → Value → Prop
  | head {row : Row} {i : Nat} {cell : Value} {rows : List Row} :
    OffendsFirst types row i cell → OffendsFirstAmong types (row :: rows) cell
  | cons {row : Row} {rows : List Row} {cell : Value} :
    Decodable types row → OffendsFirstAmong types rows cell →
    OffendsFirstAmong types (row :: rows) cell

/-- The failure of a cell that stands for nothing. -/
def notBit (cell : Value) : Failure := .ofCause (.typeMismatch "BIT" cell.typeName)

/-- In the row booleans stand exactly in the boolean columns. -/
def BooleansInPlace (types : List ColumnType) (row : Row) : Prop :=
  ∀ (i : Nat) (cell : Value), row[i]? = some cell →
    ((∃ content, cell = boolean content) ↔ types[i]? = some .boolean)

/-! ## Cells -/

/-- An integer is zero when the number that it is read as is. -/
theorem truth?_of_integer? {cell : Value} {n : Int} (h : cell.integer? = some n) :
  cell.truth? = some (decide (n ≠ 0))
  := by
  cases cell with
  | smallint content =>
    obtain ⟨x, rfl, rfl⟩ := Option.map_eq_some_iff.mp h
    have hzero : x ≠ 0 ↔ x.toInt ≠ 0 := by
      rw [ne_eq, ne_eq, ← Int16.toInt_zero, Int16.toInt_inj]
    rw [truth?, decide_eq_decide.mpr hzero]
  | integer content =>
    obtain ⟨x, rfl, rfl⟩ := Option.map_eq_some_iff.mp h
    have hzero : x ≠ 0 ↔ x.toInt ≠ 0 := by
      rw [ne_eq, ne_eq, ← Int32.toInt_zero, Int32.toInt_inj]
    rw [truth?, decide_eq_decide.mpr hzero]
  | bigint content =>
    obtain ⟨x, rfl, rfl⟩ := Option.map_eq_some_iff.mp h
    have hzero : x ≠ 0 ↔ x.toInt ≠ 0 := by
      rw [ne_eq, ne_eq, ← Int64.toInt_zero, Int64.toInt_inj]
    rw [truth?, decide_eq_decide.mpr hzero]
  | null | boolean | double | decimal | varchar | date | timestamp | moment => cases h

/-- Null stands for no truth value. -/
theorem truth?_of_isNull {cell : Value} (h : cell.isNull) :
  cell.truth? = none
  := by
  cases cell with
  | smallint content | integer content | bigint content =>
    obtain rfl := Option.isNone_iff_eq_none.mp h
    rfl
  | null | boolean | double | decimal | varchar | date | timestamp | moment => rfl

/-- What is not null holds an integer when it has an integer type. -/
theorem isInteger_iff_of_present {cell : Value} (h : cell.isNull = false) :
  cell.IsInteger ↔ cell.integer?.isSome
  := by
  cases cell with
  | smallint content | integer content | bigint content =>
    simp only [isNull] at h
    simpa [IsInteger, integer?, Option.isNone_eq_false_iff] using h
  | null | boolean | double | decimal | varchar | date | timestamp | moment =>
    simp [IsInteger, integer?]

/-- A cell that is null or an integer stands for a truth value, and no other does. -/
theorem decodeBit_cases (cell : Value) :
  (cell.decodeBit = .ok (boolean cell.truth?) ∧ ¬ (cell.isNull = false ∧ ¬ cell.IsInteger))
    ∨ (cell.decodeBit = .fail cell.notBit ∧ cell.isNull = false ∧ ¬ cell.IsInteger)
  := by
  rw [decodeBit]
  split
  next hnull =>
    left
    rw [truth?_of_isNull hnull, hnull]
    exact ⟨rfl, by simp⟩
  next hnull =>
    rw [Bool.not_eq_true] at hnull
    rw [isInteger_iff_of_present hnull]
    split
    next n hn =>
      left
      rw [truth?_of_integer? hn, hn]
      exact ⟨rfl, by simp⟩
    next hn =>
      right
      rw [hn]
      exact ⟨rfl, hnull, by simp⟩

/-- Only a boolean column changes the cells in it. -/
theorem decode_of_ne {type : ColumnType} {cell : Value} (h : type ≠ .boolean) :
  cell.decode type = .ok cell
  := by
  cases type with
  | boolean => contradiction
  | smallint | integer | bigint | double | decimal | varchar | date | timestamp
  | timestampWithTimeZone => rfl

/-- A cell is decoded unless its column is boolean and it is neither null nor an integer. -/
theorem decode_cases (type : ColumnType) (cell : Value) :
  (cell.decode type = .ok (decodedCell (some type) cell)
      ∧ ¬ (type = .boolean ∧ cell.isNull = false ∧ ¬ cell.IsInteger))
    ∨ (cell.decode type = .fail cell.notBit
      ∧ type = .boolean ∧ cell.isNull = false ∧ ¬ cell.IsInteger)
  := by
  by_cases htype : type = .boolean
  · subst htype
    obtain ⟨hdecode, hcell⟩ | ⟨hdecode, hcell⟩ := decodeBit_cases cell
    · left
      rw [decode, hdecode, decodedCell, if_pos rfl]
      exact ⟨rfl, fun h => hcell h.2⟩
    · right
      rw [decode, hdecode]
      exact ⟨rfl, rfl, hcell⟩
  · left
    rw [decode_of_ne htype, decodedCell, if_neg (by simpa using htype)]
    exact ⟨rfl, fun h => htype h.1⟩

/-! ## Rows -/

section Rows

variable {types : List ColumnType} {row : Row} {type : ColumnType} {cell : Value}

/-- A row is left as it is where no types are given. -/
theorem decodedRow_of_no_types (row : Row) :
  decodedRow [] row = row
  := by
  apply List.ext_getElem?
  intro i
  simp [decodedRow, decodedCell, List.getElem?_mapIdx]

/-- The cells of a row are read one after the other, each by its type. -/
theorem decodedRow_cons :
  decodedRow (type :: types) (cell :: row)
    = decodedCell (some type) cell :: decodedRow types row
  := List.mapIdx_cons

/-- The first cell offends when its column is boolean and it is there but is no integer. -/
theorem offends_cons_zero {other : Value} :
  Offends (type :: types) (cell :: row) 0 other
    ↔ other = cell ∧ type = .boolean ∧ cell.isNull = false ∧ ¬ cell.IsInteger
  := by
  constructor
  · intro h
    obtain rfl := Option.some.inj h.found
    exact ⟨rfl, Option.some.inj h.type, h.present, h.not_integer⟩
  · rintro ⟨rfl, rfl, hpresent, hinteger⟩
    exact ⟨rfl, rfl, hpresent, hinteger⟩

/-- The cells behind the first one offend just when they offend without it. -/
theorem offends_cons_succ {i : Nat} {other : Value} :
  Offends (type :: types) (cell :: row) (i + 1) other ↔ Offends types row i other
  := ⟨fun ⟨htype, hfound, hpresent, hinteger⟩ => ⟨htype, hfound, hpresent, hinteger⟩,
    fun ⟨htype, hfound, hpresent, hinteger⟩ => ⟨htype, hfound, hpresent, hinteger⟩⟩

/-- A row without cells is decodable. -/
theorem decodable_of_no_cells (types : List ColumnType) :
  Decodable types []
  := by
  intro i cell h
  cases h.found

/-- A row is decodable where no types are given. -/
theorem decodable_of_no_types (row : Row) :
  Decodable [] row
  := by
  intro i cell h
  cases h.type

/-- A row is decodable if its first cell does not offend and the cells behind it are decodable. -/
theorem Decodable.cons (hrow : Decodable types row)
    (hcell : ¬ (type = .boolean ∧ cell.isNull = false ∧ ¬ cell.IsInteger)) :
  Decodable (type :: types) (cell :: row)
  := by
  intro i other h
  cases i with
  | zero => exact hcell (offends_cons_zero.mp h).2
  | succ i => exact hrow i other (offends_cons_succ.mp h)

/-- A first cell that offends is the first one to offend. -/
theorem OffendsFirst.here (htype : type = .boolean) (hpresent : cell.isNull = false)
    (hinteger : ¬ cell.IsInteger) :
  OffendsFirst (type :: types) (cell :: row) 0 cell
  := by
  constructor
  · apply offends_cons_zero.mpr
    exact ⟨rfl, htype, hpresent, hinteger⟩
  · intro j hj
    cases hj

/-- The first cell to offend stays the first one behind a cell that does not offend. -/
theorem OffendsFirst.cons {i : Nat} {other : Value} (h : OffendsFirst types row i other)
    (hcell : ¬ (type = .boolean ∧ cell.isNull = false ∧ ¬ cell.IsInteger)) :
  OffendsFirst (type :: types) (cell :: row) (i + 1) other
  := by
  constructor
  · apply offends_cons_succ.mpr h.offends
  · intro j hj x hx
    cases j with
    | zero => exact hcell (offends_cons_zero.mp hx).2
    | succ j => exact h.first j (Nat.lt_of_succ_lt_succ hj) x (offends_cons_succ.mp hx)

/-- There is one first offence at most. -/
theorem OffendsFirst.unique {i j : Nat} {other : Value} (h : OffendsFirst types row i cell)
    (h' : OffendsFirst types row j other) :
  cell = other
  := by
  obtain hij | rfl | hji := Nat.lt_trichotomy i j
  · cases h'.first i hij cell h.offends
  · exact Option.some.inj (h.offends.found.symm.trans h'.offends.found)
  · cases h.first j hji other h'.offends

variable (types row) in
/-- A row is decoded, or the failure is that of its first offence. -/
theorem decodeRow_cases :
  (decodeRow types row = .ok (decodedRow types row) ∧ Decodable types row)
    ∨ ∃ i cell, OffendsFirst types row i cell ∧ decodeRow types row = .fail cell.notBit
  := by
  induction types, row using decodeRow.induct with
  | case1 types =>
    left
    rw [decodeRow]
    exact ⟨rfl, decodable_of_no_cells types⟩
  | case2 row hrow =>
    left
    rw [decodeRow.eq_2 row hrow, decodedRow_of_no_types]
    exact ⟨rfl, decodable_of_no_types row⟩
  | case3 type types cell row ih =>
    rw [decodeRow]
    obtain ⟨hdecode, hcell⟩ | ⟨hdecode, htype, hpresent, hinteger⟩ := decode_cases type cell
    · rw [hdecode]
      obtain ⟨hrow, hdecodable⟩ | ⟨i, other, hfirst, hrow⟩ := ih
      · left
        rw [hrow, decodedRow_cons]
        exact ⟨rfl, hdecodable.cons hcell⟩
      · right
        use i + 1, other, hfirst.cons hcell
        rw [hrow]
        rfl
    · right
      use 0, cell, .here htype hpresent hinteger
      rw [hdecode]
      rfl

/-- A row in which a cell offends is not decodable. -/
theorem OffendsFirst.not_decodable {i : Nat} (h : OffendsFirst types row i cell) :
  ¬ Decodable types row
  := fun hdecodable => hdecodable i cell h.offends

variable (types row) in
/-- A row is decoded exactly when nothing in it offends, and fails with the failure of its first
offence. -/
theorem decodeRow_result :
  (∀ decoded, (decodeRow types row).result = .ok decoded
      ↔ Decodable types row ∧ decoded = decodedRow types row)
    ∧ ∀ f, (decodeRow types row).result = .error f
      ↔ ∃ i cell, OffendsFirst types row i cell ∧ f = cell.notBit
  := by
  apply Report.result_of_cases
  · obtain hok | ⟨i, cell, hfirst, hrow⟩ := decodeRow_cases types row
    · exact .inl hok
    · exact .inr ⟨cell.notBit, hrow, i, cell, hfirst, rfl⟩
  · rintro f ⟨i, cell, hfirst, -⟩
    apply hfirst.not_decodable
  · rintro f g ⟨i, cell, hfirst, rfl⟩ ⟨j, other, hother, rfl⟩
    rw [hfirst.unique hother]

variable (types) in
/-- Rows are decoded, or the failure is that of the first row that has one. -/
theorem decodeRows_cases (rows : List Row) :
  (decodeRows types rows = .ok (rows.map (decodedRow types))
      ∧ ∀ row ∈ rows, Decodable types row)
    ∨ ∃ cell, OffendsFirstAmong types rows cell
      ∧ decodeRows types rows = .fail cell.notBit
  := by
  induction rows with
  | nil =>
    left
    exact ⟨rfl, by simp⟩
  | cons row rows ih =>
    rw [decodeRows]
    obtain ⟨hrow, hdecodable⟩ | ⟨i, cell, hfirst, hrow⟩ := decodeRow_cases types row
    · rw [hrow]
      obtain ⟨hrows, hall⟩ | ⟨cell, hfirst, hrows⟩ := ih
      · left
        rw [hrows]
        exact ⟨rfl, List.forall_mem_cons.mpr ⟨hdecodable, hall⟩⟩
      · right
        use cell, .cons hdecodable hfirst
        rw [hrows]
        rfl
    · right
      use cell, .head hfirst
      rw [hrow]
      rfl

/-- Where a cell offends among rows, not all of them are decodable. -/
theorem OffendsFirstAmong.not_decodable {rows : List Row} (h : OffendsFirstAmong types rows cell) :
  ¬ ∀ row ∈ rows, Decodable types row
  := by
  intro hall
  induction h with
  | head hfirst => exact hfirst.not_decodable (hall _ List.mem_cons_self)
  | cons _ _ ih => exact ih fun row hrow => hall row (List.mem_cons_of_mem _ hrow)

/-- There is at most one cell that is the first to offend among rows. -/
theorem OffendsFirstAmong.unique {rows : List Row} {other : Value}
    (h : OffendsFirstAmong types rows cell) (h' : OffendsFirstAmong types rows other) :
  cell = other
  := by
  induction h with
  | head hfirst =>
    cases h' with
    | head hfirst' => exact hfirst.unique hfirst'
    | cons hdecodable _ => cases hfirst.not_decodable hdecodable
  | cons hdecodable _ ih =>
    cases h' with
    | head hfirst' => cases hfirst'.not_decodable hdecodable
    | cons _ h' => exact ih h'

variable (types) in
/-- Rows are decoded exactly when nothing in any of them offends, and fail with the failure of the
first offence in them. -/
theorem decodeRows_result (rows : List Row) :
  (∀ decoded, (decodeRows types rows).result = .ok decoded
      ↔ (∀ row ∈ rows, Decodable types row) ∧ decoded = rows.map (decodedRow types))
    ∧ ∀ f, (decodeRows types rows).result = .error f
      ↔ ∃ cell, OffendsFirstAmong types rows cell ∧ f = cell.notBit
  := by
  apply Report.result_of_cases
  · obtain hok | ⟨cell, hfirst, hrows⟩ := decodeRows_cases types rows
    · exact .inl hok
    · exact .inr ⟨cell.notBit, hrows, cell, hfirst, rfl⟩
  · rintro f ⟨cell, hfirst, -⟩
    apply hfirst.not_decodable
  · rintro f g ⟨cell, hfirst, rfl⟩ ⟨other, hother, rfl⟩
    rw [hfirst.unique hother]

end Rows

/-! ## There and back -/

/-- Only boolean cells are sent as bits. -/
theorem encodeBit_of_not_boolean {cell : Value} (h : ¬ ∃ content, cell = boolean content) :
  cell.encodeBit = cell
  := by
  cases cell with
  | boolean content => cases h ⟨content, rfl⟩
  | null | smallint | integer | bigint | double | decimal | varchar | date | timestamp | moment =>
    rfl

/-- No value travels as a boolean. -/
theorem encodeBit_ne_boolean (cell : Value) :
  ¬ ∃ content, cell.encodeBit = boolean content
  := by
  rintro ⟨content, h⟩
  cases cell with
  | null | boolean | smallint | integer | bigint | double | decimal | varchar | date | timestamp
  | moment => cases h

/-- A bit is sent as it is. -/
theorem encodeBit_encodeBit (cell : Value) :
  cell.encodeBit.encodeBit = cell.encodeBit
  := encodeBit_of_not_boolean (encodeBit_ne_boolean cell)

/-- A bit stands for the truth value that was sent. -/
theorem truth?_encodeBit (content : Option Bool) :
  (boolean content).encodeBit.truth? = content
  := by
  cases content with
  | none => rfl
  | some x => cases x <;> rfl

section InPlace

variable {types : List ColumnType} {row : Row}

/-- Nothing offends in parameters that were booleans in the boolean columns. -/
theorem BooleansInPlace.decodable (h : BooleansInPlace types row) :
  Decodable types (row.map encodeBit)
  := by
  intro i cell hoffends
  have hfound := hoffends.found
  rw [List.getElem?_map] at hfound
  obtain ⟨value, hvalue, rfl⟩ := Option.map_eq_some_iff.mp hfound
  obtain ⟨content, rfl⟩ := (h i value hvalue).mpr hoffends.type
  exact hoffends.not_integer trivial

/-- A cell that is a boolean exactly if its column is boolean is got back. -/
theorem decodedCell_encodeBit {type? : Option ColumnType} {cell : Value}
    (h : (∃ content, cell = boolean content) ↔ type? = some .boolean) :
  decodedCell type? cell.encodeBit = cell
  := by
  rw [decodedCell]
  split
  next htype =>
    obtain ⟨content, rfl⟩ := h.mpr htype
    rw [truth?_encodeBit]
  next htype =>
    apply encodeBit_of_not_boolean
    rwa [h]

/-- Cells that were sent as bits are read back by the boolean columns that they stand in. -/
theorem BooleansInPlace.decodedRow (h : BooleansInPlace types row) :
  Value.decodedRow types (row.map encodeBit) = row
  := by
  apply List.ext_getElem?
  intro i
  rw [Value.decodedRow, List.getElem?_mapIdx, List.getElem?_map]
  cases hcell : row[i]? with
  | none => rfl
  | some cell => exact congrArg some (decodedCell_encodeBit (h i cell hcell))

end InPlace

end Value

namespace Session

variable {s : Session} {statement : Statement} {query : CompiledQuery}

/-- The rows that a query brings are the rows that are decoded. -/
theorem result_fetchAll {rows : List Row} {count : Option Nat} (types : List ColumnType)
    (hquery : (s.dialect.compile statement).result = .ok query)
    (hrun : (Cursor.run s.reading query.sql query.parameters true s.script).1
      = .ok (rows, count)) :
  (fetchAll statement types s).1.result = (Value.decodeRows types rows).result
  := by
  have hcompile : (Operation.compile statement s).1.result = .ok query := hquery
  have hrows : (run query.sql query.parameters true s).1.result = .ok (rows, count) := by
    rw [run, Operation.exchange]
    dsimp only
    rw [hrun]
    rfl
  rw [fetchAll, Operation.result_bind_ok hcompile]
  dsimp only [Operation.compile]
  rw [Operation.result_bind_ok hrows]
  rfl

end Session

/-- Parameters keep their number, none of them travels as a boolean, and sending what travels
changes nothing; a row with its booleans in the boolean columns is got back from what travels.  A
row is decoded exactly when no boolean column of it holds what is neither null nor an integer, cell
by cell, and fails with the failure of the first such cell otherwise; columns may be missing, and
there may be more of them than cells.  The rows of a query are decoded exactly when all of them are,
and otherwise nothing comes of them but the failure of the first cell among them. -/
theorem bits_by_column (driver : String) (types : List ColumnType) (row : Row) :
  (Value.BooleansInPlace types row →
      Value.decodeRow types ((Dialect.openEdge driver).bind row) = .ok row)
    ∧ ((Dialect.openEdge driver).bind row).length = row.length
    ∧ (∀ value ∈ (Dialect.openEdge driver).bind row, ¬ ∃ content, value = .boolean content)
    ∧ (Dialect.openEdge driver).bind ((Dialect.openEdge driver).bind row)
      = (Dialect.openEdge driver).bind row
    ∧ (∀ decoded, (Value.decodeRow types row).result = .ok decoded
      ↔ Value.Decodable types row ∧ decoded = Value.decodedRow types row)
    ∧ (∀ f, (Value.decodeRow types row).result = .error f
      ↔ ∃ i cell, Value.OffendsFirst types row i cell ∧ f = cell.notBit)
    ∧ ∀ (s : Session) (statement : Statement) (query : CompiledQuery) (rows : List Row)
      (count : Option Nat), (s.dialect.compile statement).result = .ok query →
      (Cursor.run s.reading query.sql query.parameters true s.script).1 = .ok (rows, count) →
      (∀ decoded, (Session.fetchAll statement types s).1.result = .ok decoded
        ↔ (∀ row ∈ rows, Value.Decodable types row)
          ∧ decoded = rows.map (Value.decodedRow types))
      ∧ ∀ f, (Session.fetchAll statement types s).1.result = .error f
        ↔ ∃ cell, Value.OffendsFirstAmong types rows cell ∧ f = cell.notBit
  := by
  constructor
  · intro h
    obtain ⟨hrow, -⟩ | ⟨i, cell, hfirst, -⟩ := Value.decodeRow_cases types (row.map .encodeBit)
    · rw [h.decodedRow] at hrow
      exact hrow
    · cases hfirst.not_decodable h.decodable
  constructor
  · apply List.length_map
  constructor
  · intro value hvalue
    obtain ⟨cell, -, rfl⟩ := List.mem_map.mp hvalue
    apply Value.encodeBit_ne_boolean
  constructor
  · change (row.map Value.encodeBit).map Value.encodeBit = row.map Value.encodeBit
    rw [List.map_map]
    apply List.map_congr_left
    intro cell _
    apply Value.encodeBit_encodeBit
  use (Value.decodeRow_result types row).1, (Value.decodeRow_result types row).2
  intro s statement query rows count hquery hrun
  rw [Session.result_fetchAll types hquery hrun]
  apply Value.decodeRows_result

/-- The columns of a register of rolls: their colour, whether they are dyed, and whether they are
checked. -/
def rollTypes : List ColumnType := [.varchar none, .boolean, .boolean]

/-- A roll of which it is not known whether it is checked, with its length behind it. -/
def dyedRoll : Row :=
  [.varchar (some "indigo"), .boolean (some true), .boolean none, .integer (some 3)]

/-- Two rolls as they are read, of which the second has a text where there should be a bit. -/
def readRolls : List Row :=
  [[.varchar none, .smallint (some 0), .double none],
    [.varchar none, .integer none, .varchar (some "yes")]]

/-- A roll is got back from its parameters, and rolls are not read for the one that has a text. -/
theorem bits_by_column_dyedRoll :
  Value.BooleansInPlace rollTypes dyedRoll
    ∧ Value.decodeRow rollTypes (Dialect.odbc.bind dyedRoll) = .ok dyedRoll
    ∧ (Dialect.odbc.compile (.select { columns := [.operand (.text "roll")] })).result
      = .ok ⟨"SELECT 'roll'\nFROM SYSPROGRESS.SYSCALCTABLE", []⟩
    ∧ (Cursor.run .blocking "SELECT 'roll'\nFROM SYSPROGRESS.SYSCALCTABLE" [] true
      { outcomes := [.rows readRolls] }).1 = .ok (readRolls, some 2)
    ∧ (Session.fetchAll (.select { columns := [.operand (.text "roll")] }) rollTypes
      { reading := .blocking, script := { outcomes := [.rows readRolls] } }).1.result
      = .error (.ofCause (.typeMismatch "BIT" "VARCHAR"))
  := by
  have hplace : Value.BooleansInPlace rollTypes dyedRoll := by
    rintro (_ | _ | _ | _ | i) cell hcell
    · obtain rfl := Option.some.inj hcell
      simp [rollTypes]
    · obtain rfl := Option.some.inj hcell
      simp [rollTypes]
    · obtain rfl := Option.some.inj hcell
      simp [rollTypes]
    · obtain rfl := Option.some.inj hcell
      simp [rollTypes]
    · cases hcell
  obtain ⟨hback, -, -, -, -, -, hrows⟩ := bits_by_column "odbc" rollTypes dyedRoll
  use hplace, hback hplace
  constructor
  · rfl
  constructor
  · rfl
  · apply ((hrows _ _ ⟨"SELECT 'roll'\nFROM SYSPROGRESS.SYSCALCTABLE", []⟩ _ (some 2) rfl rfl).2
      _).mpr
    use .varchar (some "yes")
    constructor
    · apply Value.OffendsFirstAmong.cons
      · rintro (_ | _ | _ | i) cell hoffends
        · cases hoffends.type
        · obtain rfl := Option.some.inj hoffends.found
          exact hoffends.not_integer trivial
        · obtain rfl := Option.some.inj hoffends.found
          cases hoffends.present
        · cases hoffends.found
      · apply Value.OffendsFirstAmong.head (i := 2)
        constructor
        · exact ⟨rfl, rfl, rfl, id⟩
        · rintro (_ | _ | j) hj cell hoffends
          · cases hoffends.type
          · obtain rfl := Option.some.inj hoffends.found
            cases hoffends.present
          · omega
    · rfl

end SqlDialect
