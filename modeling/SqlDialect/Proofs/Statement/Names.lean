import Mathlib.Logic.Function.Basic
import SqlDialect.Proofs.Render.Agreement

/-!
# Names given to constraints

The name given to a constraint is its kind, its table and, but for a primary key, its columns,
with underscores between them.  So constraints of different kinds never get the same name, and
constraints of the same kind get the same name exactly when what the underscores join comes to
the same text.  Where the names have no underscores of their own, that only happens to the same
table and the same columns.
-/

namespace SqlDialect

/-! ## Texts with underscores between them -/

/-- Texts without underscores are found between the underscores again. -/
theorem intercalate_underscore_injective {texts texts' : List String} (hne : texts ≠ [])
    (hne' : texts' ≠ []) (h : ∀ text ∈ texts, '_' ∉ text.toList)
    (h' : ∀ text ∈ texts', '_' ∉ text.toList)
    (hjoined : "_".intercalate texts = "_".intercalate texts') :
  texts = texts'
  := by
  have hsplit : ∀ {texts : List String}, texts ≠ [] → (∀ text ∈ texts, '_' ∉ text.toList) →
      ("_".intercalate texts).toList.splitOn '_' = texts.map String.toList := by
    intro texts hne h
    rw [String.toList_intercalate]
    apply List.splitOn_intercalate
    · rw [List.forall_mem_map]
      apply h
    · simpa using hne
  have hinjective : Function.Injective String.toList := fun _ _ => String.toList_injective
  apply List.map_injective_iff.mpr hinjective
  rw [← hsplit hne h, ← hsplit hne' h', hjoined]

/-- The text in front of the first underscore is determined. -/
theorem head_eq_of_intercalate_underscore {x y : String} {xs ys : List String}
    (hx : '_' ∉ x.toList) (hy : '_' ∉ y.toList) (hxs : xs ≠ []) (hys : ys ≠ [])
    (h : "_".intercalate (x :: xs) = "_".intercalate (y :: ys)) :
  x = y
  := by
  obtain ⟨x', xs, rfl⟩ := List.exists_cons_of_ne_nil hxs
  obtain ⟨y', ys, rfl⟩ := List.exists_cons_of_ne_nil hys
  have hparts := congrArg (fun text => text.toList.splitOn '_') h
  simp only [String.intercalate_cons_cons, String.toList_append, List.append_assoc] at hparts
  rw [show "_".toList = ['_'] from rfl, List.singleton_append, List.singleton_append,
    List.splitOn_append_cons_self_of_not_mem hx, List.splitOn_append_cons_self_of_not_mem hy]
    at hparts
  apply String.toList_injective (List.cons.inj hparts).1

/-- A text in front is joined in the same way. -/
theorem intercalate_underscore_cons_inj (x : String) {xs ys : List String} (hxs : xs ≠ [])
    (hys : ys ≠ []) :
  "_".intercalate (x :: xs) = "_".intercalate (x :: ys)
    ↔ "_".intercalate xs = "_".intercalate ys
  := by
  obtain ⟨x', xs, rfl⟩ := List.exists_cons_of_ne_nil hxs
  obtain ⟨y', ys, rfl⟩ := List.exists_cons_of_ne_nil hys
  rw [String.intercalate_cons_cons, String.intercalate_cons_cons, String.append_right_inj]

/-! ## Given names -/

/-- The kinds are the same, whatever a foreign key refers to. -/
inductive ConstraintKind.Alike : ConstraintKind → ConstraintKind → Prop
  | primaryKey : Alike .primaryKey .primaryKey
  | unique : Alike .unique .unique
  | foreignKey (references references' : Table) (referenced referenced' : List String)
    (onDelete onDelete' : Option DeleteAction) :
    Alike (.foreignKey references referenced onDelete)
      (.foreignKey references' referenced' onDelete')

namespace Constraint

/-- What a given name says of a constraint besides its kind. -/
def subject (c : Constraint) : List String :=
  match c.kind with
  | .primaryKey => [c.table.name]
  | _ => c.table.name :: c.columns

/-- The abbreviation of a kind. -/
def abbreviation : ConstraintKind → String
  | .primaryKey => "pk"
  | .unique => "uq"
  | .foreignKey _ _ _ => "fk"

theorem subject_ne_nil (c : Constraint) :
  c.subject ≠ []
  := by
  rw [subject]
  split <;> simp

theorem defaultName_eq_intercalate (c : Constraint) :
  c.defaultName = "_".intercalate (abbreviation c.kind :: c.subject)
  := by
  obtain ⟨kind, table, columns, name⟩ := c
  cases kind with
  | primaryKey =>
    have hfront : "pk_" = "pk" ++ "_" := by decide
    simp [defaultName, abbreviation, subject, hfront]
  | unique => rfl
  | foreignKey references referenced onDelete => rfl

theorem underscore_not_mem_abbreviation (kind : ConstraintKind) :
  '_' ∉ (abbreviation kind).toList
  := by
  cases kind <;> simp [abbreviation]

theorem abbreviation_eq_iff {kind kind' : ConstraintKind} :
  abbreviation kind = abbreviation kind' ↔ kind.Alike kind'
  := by
  constructor
  · intro h
    cases kind <;> cases kind' <;> first | constructor | simp [abbreviation] at h
  · intro h
    cases h <;> rfl

/-- Given names are the same exactly when the kinds are and the underscores join the same text. -/
theorem defaultName_eq_iff {c c' : Constraint} :
  c.defaultName = c'.defaultName
    ↔ c.kind.Alike c'.kind ∧ "_".intercalate c.subject = "_".intercalate c'.subject
  := by
  rw [defaultName_eq_intercalate, defaultName_eq_intercalate, ← abbreviation_eq_iff]
  have hcons := intercalate_underscore_cons_inj (abbreviation c.kind) c.subject_ne_nil
    c'.subject_ne_nil
  constructor
  · intro h
    have hkind := head_eq_of_intercalate_underscore (underscore_not_mem_abbreviation c.kind)
      (underscore_not_mem_abbreviation c'.kind) c.subject_ne_nil c'.subject_ne_nil h
    use hkind
    rwa [← hkind, hcons] at h
  · rintro ⟨hkind, hsubject⟩
    rw [← hkind, hcons, hsubject]

end Constraint

/-! ## Statements that give names -/

theorem Constraint.columns_ne_nil_of_attempt {style : Style} {scope : Scope} {c : Constraint}
    {pieces : List Piece} (h : c.attempt style scope = .ok pieces) :
  c.columns ≠ []
  := by
  rw [attempt] at h
  obtain ⟨hcolumns, -⟩ := Attempt.checked_eq_ok.mp h
  simpa using hcolumns

theorem TableDef.columns_ne_nil_of_constraintsAttempt {style : Style} {scope : Scope}
    {constraints : List Constraint} {pieces : List Piece}
    (h : constraintsAttempt style scope constraints = .ok pieces) :
  ∀ c ∈ constraints, c.columns ≠ []
  := by
  induction constraints generalizing pieces with
  | nil => simp
  | cons c rest ih =>
    rw [constraintsAttempt] at h
    obtain ⟨xs, ys, hxs, hys, -⟩ := Attempt.append_eq_ok.mp h
    obtain ⟨written, hwritten, -⟩ := Attempt.ok_append_eq_ok.mp hxs
    rw [List.forall_mem_cons]
    use c.columns_ne_nil_of_attempt hwritten, ih hys

theorem Constraint.columns_named (c : Constraint) :
  c.named.columns = c.columns
  := by
  rw [named]
  split <;> rfl

namespace Statement

variable {s s' : Statement} {query query' : CompiledQuery}

/-- A compilation gives names to all constraints of a statement, and each of them has columns. -/
theorem constraints_of_compile (h : (Style.openEdge.compile s).result = .ok query) :
  (s.prepared .openEdge).constraints = s.constraints.map Constraint.named
    ∧ ∀ c ∈ s.constraints, c.columns ≠ []
  := by
  rw [Style.compile, Attempt.result_compiled_eq_ok] at h
  obtain ⟨pieces, hpieces, -⟩ := h
  rw [attempt] at hpieces
  cases s with
  | createTable d =>
    rw [prepared] at hpieces ⊢
    split at hpieces
    next hcolumns =>
      rw [rawAttempt, TableDef.attempt, if_pos hcolumns] at hpieces
      cases (Attempt.checked_eq_ok.mp hpieces).1
    next hcolumns =>
      rw [if_neg hcolumns]
      use rfl
      obtain ⟨-, back, -, hback, -⟩ := TableDef.attempt_eq_ok hpieces
      intro c hc
      rw [← c.columns_named]
      apply TableDef.columns_ne_nil_of_constraintsAttempt hback
      apply List.mem_map_of_mem hc
  | addConstraint c =>
    use rfl
    obtain ⟨written, hwritten, -⟩ := Attempt.ok_append_eq_ok.mp hpieces
    have hcolumns := Constraint.columns_ne_nil_of_attempt hwritten
    intro c' hc'
    rw [constraints, List.mem_singleton] at hc'
    rw [hc', ← c.columns_named]
    apply hcolumns
  | _ => exact ⟨rfl, by simp [constraints]⟩

/-- The statement has the constraint without a name, and compiled for OpenEdge it is left with the
name in this place. -/
def GivesName (s : Statement) (c : Constraint) (name : String) : Prop :=
  ∃ (i : Nat) (c' : Constraint), s.constraints[i]? = some c ∧ c.writtenName? = none
    ∧ (Style.openEdge.compileInPlace s).2.constraints[i]? = some c' ∧ c'.writtenName? = some name

/-- Every constraint without a name is given the default one. -/
theorem givesName_iff (h : (Style.openEdge.compile s).result = .ok query) {c : Constraint}
    {name : String} :
  s.GivesName c name ↔ c ∈ s.constraints ∧ c.writtenName? = none ∧ name = c.defaultName
  := by
  have hnamed := (constraints_of_compile h).1
  have hwritten : c.writtenName? = none → c.named.writtenName? = some c.defaultName := by
    intro hnone
    rw [Constraint.named_of_writtenName?_eq_none hnone, Constraint.writtenName?_eq_some,
      Constraint.defaultName_eq]
    use rfl, c.givenName_ne_empty
  constructor
  · rintro ⟨i, c', hc, hnone, hc', hname⟩
    have hleft : (Style.openEdge.compileInPlace s).2.constraints[i]? = some c.named := by
      rw [Style.compileInPlace, hnamed, List.getElem?_map, hc, Option.map_some]
    obtain rfl := Option.some.inj (hleft.symm.trans hc')
    rw [hwritten hnone] at hname
    exact ⟨List.mem_of_getElem? hc, hnone, (Option.some.inj hname).symm⟩
  · rintro ⟨hc, hnone, rfl⟩
    obtain ⟨i, hi⟩ := List.getElem?_of_mem hc
    refine ⟨i, c.named, hi, hnone, ?_, hwritten hnone⟩
    rw [Style.compileInPlace, hnamed, List.getElem?_map, hi, Option.map_some]

end Statement

/-! ## When given names are the same -/

namespace Constraint

/-- How the names given to two constraints tell them apart. -/
structure ToldApart (c c' : Constraint) (name name' : String) : Prop where
  eq_iff : name = name'
    ↔ c.kind.Alike c'.kind ∧ "_".intercalate c.subject = "_".intercalate c'.subject
  of_kinds : ¬ c.kind.Alike c'.kind → name ≠ name'
  /-- Keys of one table other than the primary one. -/
  eq_iff_columns : c.kind ≠ .primaryKey → c'.kind ≠ .primaryKey → c.table.name = c'.table.name →
    (name = name'
      ↔ c.kind.Alike c'.kind ∧ "_".intercalate c.columns = "_".intercalate c'.columns)
  /-- Keys on columns without underscores. -/
  of_columns : c.kind ≠ .primaryKey → c'.kind ≠ .primaryKey → c.table.name = c'.table.name →
    (∀ column ∈ c.columns ++ c'.columns, '_' ∉ column.toList) → c.columns ≠ c'.columns →
    name ≠ name'
  /-- Keys of two tables without underscores. -/
  of_tables : c.kind ≠ .primaryKey → c'.kind ≠ .primaryKey → c.table.name ≠ c'.table.name →
    '_' ∉ c.table.name.toList → '_' ∉ c'.table.name.toList → name ≠ name'

theorem subject_eq {c : Constraint} (h : c.kind ≠ .primaryKey) :
  c.subject = c.table.name :: c.columns
  := by
  rw [subject]
  split
  next hkind => cases h hkind
  next => rfl

theorem toldApart_defaultName {c c' : Constraint} (h : c.columns ≠ []) (h' : c'.columns ≠ []) :
  ToldApart c c' c.defaultName c'.defaultName
  := by
  have hcolumns : c.kind ≠ .primaryKey → c'.kind ≠ .primaryKey → c.table.name = c'.table.name →
      (c.defaultName = c'.defaultName
        ↔ c.kind.Alike c'.kind ∧ "_".intercalate c.columns = "_".intercalate c'.columns) := by
    intro hkind hkind' htable
    rw [defaultName_eq_iff, subject_eq hkind, subject_eq hkind', ← htable,
      intercalate_underscore_cons_inj _ h h']
  constructor
  · apply defaultName_eq_iff
  · intro hkinds hname
    apply hkinds (defaultName_eq_iff.mp hname).1
  · apply hcolumns
  · intro hkind hkind' htable hplain hne hname
    rw [List.forall_mem_append] at hplain
    apply hne
    apply intercalate_underscore_injective h h' hplain.1 hplain.2
    apply ((hcolumns hkind hkind' htable).mp hname).2
  · intro hkind hkind' hne hplain hplain' hname
    apply hne
    have hsubject := (defaultName_eq_iff.mp hname).2
    rw [subject_eq hkind, subject_eq hkind'] at hsubject
    apply head_eq_of_intercalate_underscore hplain hplain' h h' hsubject

end Constraint

/-- Every constraint without a name is given one.  Two names that are given, by the same statement
or by two, are the same exactly when the kinds of the constraints are and the underscores join the
same text: of the tables, for primary keys, and of the tables and their columns for the other
keys. -/
theorem Statement.givenNames_toldApart {s s' : Statement} {query query' : CompiledQuery}
    (h : (Style.openEdge.compile s).result = .ok query)
    (h' : (Style.openEdge.compile s').result = .ok query') :
  (∀ c ∈ s.constraints, c.writtenName? = none → ∃ name, s.GivesName c name)
    ∧ ∀ c c' name name', s.GivesName c name → s'.GivesName c' name' → c.ToldApart c' name name'
  := by
  constructor
  · intro c hc hnone
    exact ⟨c.defaultName, (givesName_iff h).mpr ⟨hc, hnone, rfl⟩⟩
  · intro c c' name name' hname hname'
    obtain ⟨hc, -, rfl⟩ := (givesName_iff h).mp hname
    obtain ⟨hc', -, rfl⟩ := (givesName_iff h').mp hname'
    apply Constraint.toldApart_defaultName ((constraints_of_compile h).2 c hc)
      ((constraints_of_compile h').2 c' hc')

/-- The primary key of the looms. -/
def loomsKey : Constraint :=
  { kind := .primaryKey, table := { name := "looms" }, columns := ["id"] }

/-- The hall of a loom. -/
def loomsHall : Constraint :=
  { kind := .foreignKey { name := "halls" } ["id"] none, table := { name := "looms" }
    columns := ["hall"], name := some "" }

theorem Statement.givenNames_toldApart_looms :
  (Style.openEdge.compile looms).result = .ok loomsQuery
    ∧ looms.GivesName loomsKey "pk_looms" ∧ looms.GivesName loomsHall "fk_looms_hall"
    ∧ loomsKey.ToldApart loomsHall "pk_looms" "fk_looms_hall"
  := by
  have hquery : (Style.openEdge.compile looms).result = .ok loomsQuery := by decide +kernel
  have hkey : looms.GivesName loomsKey "pk_looms" := ⟨0, _, rfl, rfl, rfl, rfl⟩
  have hhall : looms.GivesName loomsHall "fk_looms_hall" := ⟨1, _, rfl, rfl, rfl, rfl⟩
  use hquery, hkey, hhall
  apply (givenNames_toldApart hquery hquery).2 _ _ _ _ hkey hhall

/-- A combination of columns of a table that is unique. -/
def uniqueOn (table : String) (columns : List String) : Constraint :=
  { kind := .unique, table := { name := table }, columns }

/-- A table with some unique combinations of its columns. -/
def tableUniqueOn (table : String) (columns : List String) (keys : List (List String)) :
    Statement :=
  .createTable
    { table := { name := table }
      columns := columns.map fun name => { name, type := .integer }
      constraints := keys.map (uniqueOn table) }

/-- Weaves in which two combinations of columns are unique. -/
def weaves : Statement :=
  tableUniqueOn "weaves" ["a", "b_c", "a_b", "c"] [["a", "b_c"], ["a_b", "c"]]

/-- A part of the weaves in a table of its own. -/
def weavesPart : Statement := tableUniqueOn "weaves_a" ["b_c"] [["b_c"]]

/-- Different columns of one table are given one name when underscores make up the difference, and
so are columns of different tables. -/
theorem Statement.givenNames_collide_weaves :
  (Style.openEdge.compile weaves).result.isOk ∧ (Style.openEdge.compile weavesPart).result.isOk
    ∧ weaves.GivesName (uniqueOn "weaves" ["a", "b_c"]) "uq_weaves_a_b_c"
    ∧ weaves.GivesName (uniqueOn "weaves" ["a_b", "c"]) "uq_weaves_a_b_c"
    ∧ weavesPart.GivesName (uniqueOn "weaves_a" ["b_c"]) "uq_weaves_a_b_c"
  := by
  have hweaves : (Style.openEdge.compile weaves).result.isOk := by decide +kernel
  have hpart : (Style.openEdge.compile weavesPart).result.isOk := by decide +kernel
  use hweaves, hpart, ⟨0, _, rfl, rfl, rfl, rfl⟩, ⟨1, _, rfl, rfl, rfl, rfl⟩
  exact ⟨0, _, rfl, rfl, rfl, rfl⟩

end SqlDialect
