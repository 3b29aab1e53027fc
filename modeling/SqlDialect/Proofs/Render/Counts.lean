import SqlDialect.Proofs.Render.Acceptance

/-!
# Constants as row counts

Which constants are taken for row counts.  A literal integer and a value are judged by what
they denote: they are taken just when they are an integer that is not negative.  Every
other literal is taken, and so is everything behind a sign, whatever it denotes.
-/

namespace SqlDialect

/-! ## Constants -/

/-- The leaf is a literal or a value. -/
def Operand.IsConstant : Operand → Prop
  | null | boolean _ | float _ | int _ | text _ | inline _ | bound _ => True
  | raw _ | column _ | type _ | asterisk => False

/-- The expression is a literal or a value, possibly behind a sign. -/
inductive Expr.IsConstant : Expr → Prop
  | plain {leaf : Operand} (h : leaf.IsConstant) : IsConstant (operand leaf)
  | negated {leaf : Operand} (h : leaf.IsConstant) :
    IsConstant (unary .negative (operand leaf))

/-- The integer that a leaf denotes, if it is a literal integer or a value of an integer type. -/
def Operand.integer? : Operand → Option Int
  | int n => some n
  | inline value => value.integer?
  | bound value => value.integer?
  | _ => none

/-- The integer that a constant denotes, if it denotes one. -/
def Expr.integer? : Expr → Option Int
  | operand leaf => leaf.integer?
  | unary .negative (operand leaf) => leaf.integer?.map (- ·)
  | _ => none

/-- The constant denotes an integer that is not negative. -/
def Expr.DenotesCount (e : Expr) : Prop :=
  ∃ n : Nat, e.integer? = some (n : Int)

/-- The constant is a literal integer or a value. -/
inductive Expr.HoldsValue : Expr → Prop
  | int (n : Int) : HoldsValue (operand (.int n))
  | inline (value : Value) : HoldsValue (operand (.inline value))
  | bound (value : Value) : HoldsValue (operand (.bound value))

/-- The literal and the value are the same constant. -/
inductive Operand.Spells : Operand → Value → Prop
  | null {value : Value} (h : value.isNull) : Spells null value
  | boolean (x : Bool) : Spells (boolean x) (.boolean (some x))
  | float (x : Binary64) : Spells (float x) (.double (some x))
  | int {n : Int} {value : Value} (h : value.integer? = some n) : Spells (int n) value
  | text (x : String) : Spells (text x) (.varchar (some x))

/-- Every moment in the expression has a timestamp where it is written. -/
def Expr.Writable (style : Style) (scope : Scope) (e : Expr) : Prop :=
  ∀ p ∈ e.pieces style scope, p.moment? = none

/-! ## Queries with a row count -/

/-- The places of a query that take a row count. -/
inductive CountPlace
  | limit
  | offset
  | fetch

/-- The query with the row count in the given place. -/
def SelectQuery.counting (place : CountPlace) (count : Expr) (q : SelectQuery) : SelectQuery :=
  match place with
  | .limit => { q with limit := some count }
  | .offset => { q with offset := some count }
  | .fetch =>
    let percent := q.fetch.any (·.percent)
    let withTies := q.fetch.any (·.withTies)
    { q with fetch := some { count, percent, withTies } }

/-- The query compiles. -/
def Style.Accepts (style : Style) (q : SelectQuery) : Prop :=
  ∃ query, (style.compile (.select q)).result = .ok query

/-- A query compiles when it is well formed, the types written in it have names, and the moments
written in it have timestamps. -/
theorem Style.accepts_iff (style : Style) (q : SelectQuery) :
  style.Accepts q
    ↔ q.WellFormed style ∧ TypesNamed style (q.leaves style {})
      ∧ ∀ leaf ∈ q.leaves style {}, ∀ p ∈ leaf.2.pieces style leaf.1, p.moment? = none
  := by
  have hmoment : ∀ {ps : List Piece}, Woven style (q.leaves style {}) ps →
      (Piece.momentOf? ps = none
        ↔ ∀ leaf ∈ q.leaves style {}, ∀ p ∈ leaf.2.pieces style leaf.1, p.moment? = none) := by
    intro ps hwoven
    rw [Piece.momentOf?, List.findSome?_eq_none_iff,
      hwoven.find_eq_none_iff (fun _ => rfl) (fun _ => rfl)]
  simp only [Accepts, Style.compile, Attempt.result_compiled_eq_ok]
  constructor
  · rintro ⟨query, ps, hps, hmoments, hrecorded, -⟩
    have hwoven := SelectQuery.attempt_woven hps
    have htypes := hwoven.failureOf?_eq_none.mp hrecorded
    have hformed := (SelectQuery.attempt_failure_eq_none htypes).mp (congrArg (·.failure) hps)
    exact ⟨hformed, htypes, (hmoment hwoven).mp hmoments⟩
  · rintro ⟨hformed, htypes, hmoments⟩
    have hfailure := (SelectQuery.attempt_failure_eq_none htypes).mpr hformed
    obtain ⟨ps, hps⟩ := Attempt.eq_ok_iff.mpr hfailure
    have hwoven := SelectQuery.attempt_woven hps
    exact ⟨_, ps, hps, (hmoment hwoven).mpr hmoments, hwoven.failureOf?_eq_none.mpr htypes, rfl⟩

/-- The scope in which a row count is written. -/
def Style.countScope : Style → Scope
  | standard _ => .pagination
  | openEdge => Scope.pagination.inlining

namespace SelectQuery

variable {style : Style} {place : CountPlace} {q : SelectQuery}

/-- When all leaves of a query with some row count have a property, then all of them have it with
another row count just when those of this row count have it. -/
theorem forall_mem_leaves_counting {P : Scope × Operand → Prop} {count : Expr}
    (hplace : place = .limit → q.fetch = none)
    (h : ∀ leaf ∈ (q.counting place count).leaves style {}, P leaf) (count' : Expr) :
  (∀ leaf ∈ (q.counting place count').leaves style {}, P leaf)
    ↔ ∀ leaf ∈ count'.leaves style.countScope, P leaf
  := by
  rw [leaves, List.forall_mem_append] at h ⊢
  change _ ∧ (∀ leaf ∈ (q.counting place count).paginationLeaves style .pagination, P leaf) at h
  change _ ∧ (∀ leaf ∈ (q.counting place count').paginationLeaves style .pagination, P leaf) ↔ _
  obtain ⟨hbody, h⟩ := h
  rw [and_iff_right (by cases place <;> exact hbody)]
  cases place with
  | limit =>
    cases style <;>
      simp only [counting, paginationLeaves, hplace rfl, Expr.optionLeaves_some,
        List.forall_mem_append, Style.countScope] at h ⊢ <;>
      tauto
  | offset =>
    cases style <;> cases hfetch : q.fetch <;>
      simp only [counting, paginationLeaves, hfetch, Expr.optionLeaves_some,
        List.forall_mem_append, Style.countScope] at h ⊢ <;>
      tauto
  | fetch =>
    cases style <;>
      simp only [counting, paginationLeaves, List.forall_mem_append, Style.countScope] at h ⊢ <;>
      tauto

/-- A query that is well formed with some row count is well formed with another just when this can
stand as a row count. -/
theorem wellFormed_counting {count : Expr} (h : (q.counting place count).WellFormed style)
    (count' : Expr) :
  (q.counting place count').WellFormed style ↔ count'.IsCount
  := by
  constructor
  · intro h'
    cases place with
    | limit => apply h'.limit _ rfl
    | offset => apply h'.offset _ rfl
    | fetch => apply h'.count _ rfl
  · intro hcount
    cases place with
    | limit =>
      refine ⟨h.columns, ?_, h.offset, ?_, h.count, h.fetch⟩
      · have hfetch := h.limits
        simpa [counting] using hfetch
      · rintro e ⟨⟩
        apply hcount
    | offset =>
      refine ⟨h.columns, h.limits, ?_, h.limit, h.count, h.fetch⟩
      rintro e ⟨⟩
      apply hcount
    | fetch =>
      refine ⟨h.columns, ?_, h.offset, h.limit, ?_, ?_⟩
      · have hlimit := h.limits
        simpa [counting] using hlimit
      · rintro e ⟨⟩
        apply hcount
      · rintro hstyle _ ⟨⟩
        apply h.fetch hstyle _ rfl

end SelectQuery

/-! ## Judging constants -/

namespace Expr

/-- The moments of an expression are those of its leaves. -/
theorem writable_iff (style : Style) (scope : Scope) (e : Expr) :
  e.Writable style scope
    ↔ ∀ leaf ∈ e.leaves scope, ∀ p ∈ leaf.2.pieces style leaf.1, p.moment? = none
  := (e.woven style scope).find_eq_none_iff (fun _ => rfl) (fun _ => rfl)

theorem IsConstant.leaves_eq {e : Expr} (h : e.IsConstant) (scope : Scope) :
  ∃ leaf : Operand, leaf.IsConstant ∧ e.leaves scope = [(scope, leaf)]
  := by
  cases h with
  | plain h => exact ⟨_, h, rfl⟩
  | negated h => exact ⟨_, h, rfl⟩

theorem IsConstant.typesNamed {e : Expr} (h : e.IsConstant) (style : Style) (scope : Scope) :
  TypesNamed style (e.leaves scope)
  := by
  obtain ⟨leaf, hleaf, hleaves⟩ := h.leaves_eq scope
  rw [hleaves]
  intro _ hmem type htype
  obtain rfl := List.mem_singleton.mp hmem
  change leaf = .type type at htype
  subst htype
  cases hleaf

end Expr

/-- In a query that compiles with some row count, a constant is taken for it just when it can stand
as a row count and is written whole. -/
theorem Style.accepts_counting_iff {style : Style} {place : CountPlace} {q : SelectQuery}
    {count e : Expr} (h : style.Accepts (q.counting place count)) (he : e.IsConstant) :
  style.Accepts (q.counting place e) ↔ e.IsCount ∧ e.Writable style style.countScope
  := by
  obtain ⟨hformed, htypes, hmoments⟩ := (style.accepts_iff _).mp h
  have hplace : place = .limit → q.fetch = none := by
    rintro rfl
    have hlimits := hformed.limits
    simpa [SelectQuery.counting] using hlimits
  have htypes' : TypesNamed style ((q.counting place e).leaves style {}) :=
    (SelectQuery.forall_mem_leaves_counting hplace htypes e).mpr (he.typesNamed style _)
  rw [accepts_iff, SelectQuery.wellFormed_counting hformed, and_iff_right htypes', e.writable_iff,
    SelectQuery.forall_mem_leaves_counting hplace hmoments]

theorem Value.isCount_iff (value : Value) :
  value.IsCount ↔ ∃ n : Nat, value.integer? = some (n : Int)
  := by
  constructor
  · rintro (h | h | h)
    · exact ⟨_, congrArg some (Int.toNat_of_nonneg h).symm⟩
    · exact ⟨_, congrArg some (Int.toNat_of_nonneg h).symm⟩
    · exact ⟨_, congrArg some (Int.toNat_of_nonneg h).symm⟩
  · rintro ⟨n, hn⟩
    cases value with
    | smallint content =>
      obtain ⟨m, rfl, hm⟩ := Option.map_eq_some_iff.mp hn
      apply IsCount.smallint (by omega)
    | integer content =>
      obtain ⟨m, rfl, hm⟩ := Option.map_eq_some_iff.mp hn
      apply IsCount.integer (by omega)
    | bigint content =>
      obtain ⟨m, rfl, hm⟩ := Option.map_eq_some_iff.mp hn
      apply IsCount.bigint (by omega)
    | _ => cases hn

/-- A value of an integer type has a literal. -/
theorem Value.hasLiteral_of_integer? {value : Value} {n : Int} (h : value.integer? = some n) :
  value.HasLiteral
  := by
  rintro moment rfl
  cases h

namespace Expr

variable {e : Expr}

/-- Literal integers and values are judged by what they denote. -/
theorem HoldsValue.isCount_iff (h : e.HoldsValue) :
  e.IsCount ↔ e.DenotesCount
  := by
  cases h with
  | int n =>
    change 0 ≤ n ↔ ∃ m : Nat, some n = some (m : Int)
    simp only [Option.some.injEq]
    exact ⟨fun h => ⟨n.toNat, (Int.toNat_of_nonneg h).symm⟩, fun ⟨m, hm⟩ => by omega⟩
  | inline value => apply value.isCount_iff
  | bound value => apply value.isCount_iff

/-- Every other constant can stand as a row count. -/
theorem IsConstant.isCount_of_not_holdsValue (he : e.IsConstant) (h : ¬ e.HoldsValue) :
  e.IsCount
  := by
  cases he with
  | negated _ => trivial
  | @plain leaf hleaf =>
    cases leaf with
    | int n => cases h (.int n)
    | inline value => cases h (.inline value)
    | bound value => cases h (.bound value)
    | raw text => cases hleaf
    | _ => trivial

/-- A constant that denotes an integer is written whole. -/
theorem IsConstant.writable_of_integer? (he : e.IsConstant) {n : Int} (h : e.integer? = some n)
    (style : Style) (scope : Scope) :
  e.Writable style scope
  := by
  have hleaf : ∀ (leaf : Operand) {m : Int}, leaf.integer? = some m →
      ∀ p ∈ leaf.pieces style scope, p.moment? = none := by
    intro leaf m hm
    apply Operand.moment?_pieces
    rintro value (rfl | rfl)
    · apply Value.hasLiteral_of_integer? hm
    · apply Value.hasLiteral_of_integer? hm
  rw [writable_iff]
  cases he with
  | plain _ => simpa [leaves] using hleaf _ h
  | negated _ =>
    obtain ⟨m, hm, -⟩ := Option.map_eq_some_iff.mp h
    simpa [leaves] using hleaf _ hm

/-- A constant that denotes a row count is taken for one. -/
theorem IsConstant.isCount_of_denotesCount (he : e.IsConstant) (h : e.DenotesCount) :
  e.IsCount
  := by
  by_cases hholds : e.HoldsValue
  · apply hholds.isCount_iff.mpr h
  · apply he.isCount_of_not_holdsValue hholds

end Expr

/-- Only for literal integers does it not matter whether a constant is given as a literal or as a
value. -/
theorem Operand.Spells.isCount_iff {leaf : Operand} {value : Value} (h : leaf.Spells value) :
  ((Expr.operand leaf).IsCount ↔ (Expr.operand (.inline value)).IsCount) ↔ ∃ n, leaf = .int n
  := by
  rw [show (Expr.operand (.inline value)).IsCount ↔ _ from value.isCount_iff]
  cases h with
  | null h =>
    have hnone : value.integer? = none := by
      cases value with
      | smallint content => simpa [Value.integer?, Value.isNull] using h
      | integer content => simpa [Value.integer?, Value.isNull] using h
      | bigint content => simpa [Value.integer?, Value.isNull] using h
      | _ => rfl
    simp [hnone, Expr.IsCount]
  | boolean x => simp [Value.integer?, Expr.IsCount]
  | float x => simp [Value.integer?, Expr.IsCount]
  | text x => simp [Value.integer?, Expr.IsCount]
  | @int n value h =>
    have hcount := (Expr.HoldsValue.int n).isCount_iff
    simp [hcount, Expr.DenotesCount, Expr.integer?, Operand.integer?, h]

/-- What can be given as a literal has one. -/
theorem Operand.Spells.hasLiteral {leaf : Operand} {value : Value} (h : leaf.Spells value) :
  value.HasLiteral
  := by
  cases h with
  | int h => apply Value.hasLiteral_of_integer? h
  | null h =>
    rintro moment rfl
    cases h
  | _ => rintro moment ⟨⟩

/-- A literal, and the value that it spells, are written whole. -/
theorem Operand.Spells.writable {leaf : Operand} {value : Value} (h : leaf.Spells value)
    (style : Style) (scope : Scope) :
  (Expr.operand leaf).Writable style scope ∧ (Expr.operand (.inline value)).Writable style scope
  := by
  have hinline : ∀ p ∈ (inline value).pieces style scope, p.moment? = none := by
    apply moment?_pieces
    rintro _ (⟨⟨⟩⟩ | ⟨⟨⟩⟩)
    apply h.hasLiteral
  have hleaf : ∀ p ∈ leaf.pieces style scope, p.moment? = none := by
    apply moment?_pieces
    rintro _ (rfl | rfl) <;> cases h
  rw [Expr.writable_iff, Expr.writable_iff]
  simpa [Expr.leaves] using ⟨hleaf, hinline⟩

/-- A query that compiles with some row count takes every constant that denotes a row count.  It
refuses all others just when literal integers and values are concerned, and what is lost in
writing; a literal that is no integer it takes even where it refuses the value. -/
theorem constants_judged_as_counts {style : Style} {place : CountPlace} {q : SelectQuery}
    {count : Expr} (h : style.Accepts (q.counting place count)) :
  (∀ e : Expr, e.IsConstant →
      (e.DenotesCount → style.Accepts (q.counting place e))
        ∧ ((style.Accepts (q.counting place e) ↔ e.DenotesCount)
          ↔ e.HoldsValue ∨ e.DenotesCount ∨ ¬ e.Writable style style.countScope))
    ∧ ∀ (leaf : Operand) (value : Value), leaf.Spells value →
      ((style.Accepts (q.counting place (.operand leaf))
          ↔ style.Accepts (q.counting place (.operand (.inline value))))
        ↔ ∃ n, leaf = .int n)
  := by
  constructor
  · intro e he
    rw [Style.accepts_counting_iff h he]
    have hcount : e.DenotesCount → e.IsCount ∧ e.Writable style style.countScope := by
      rintro ⟨n, hn⟩
      exact ⟨he.isCount_of_denotesCount ⟨n, hn⟩, he.writable_of_integer? hn style _⟩
    use hcount
    by_cases hholds : e.HoldsValue
    · have hiff := hholds.isCount_iff
      tauto
    · have hother := he.isCount_of_not_holdsValue hholds
      tauto
  · intro leaf value hspells
    have hconstant : leaf.IsConstant := by cases hspells <;> trivial
    obtain ⟨hleaf, hinline⟩ := hspells.writable style style.countScope
    have hinlined : (Operand.inline value).IsConstant := trivial
    rw [Style.accepts_counting_iff h (.plain hconstant),
      Style.accepts_counting_iff h (.plain hinlined), and_iff_left hleaf, and_iff_left hinline,
      hspells.isCount_iff]

/-- All rolls. -/
def allRolls : SelectQuery where
  columns := [.operand .asterisk]
  source := some { name := "rolls" }

theorem constants_judged_as_counts_allRolls :
  Style.openEdge.Accepts (allRolls.counting .limit (.operand (.int 0)))
    ∧ ¬ Style.openEdge.Accepts
        (allRolls.counting .limit (.operand (.inline (.integer (some (-5))))))
    ∧ ¬ (Style.openEdge.Accepts (allRolls.counting .limit (.operand (.text "x")))
        ↔ Style.openEdge.Accepts
          (allRolls.counting .limit (.operand (.inline (.varchar (some "x"))))))
  := by
  have hcounting : Style.openEdge.Accepts (allRolls.counting .limit (.operand (.int 0))) :=
    ⟨⟨"SELECT *\nFROM rolls\n FETCH FIRST 0 ROWS ONLY", []⟩, by decide +kernel⟩
  obtain ⟨hjudged, hspelled⟩ := constants_judged_as_counts hcounting
  refine ⟨hcounting, ?_, ?_⟩
  · have hvalue : (Operand.inline (.integer (some (-5)))).IsConstant := trivial
    rw [(hjudged _ (.plain hvalue)).2.mpr (.inl (.inline _))]
    rintro ⟨n, hn⟩
    have hn : (-5 : Int) = n := Option.some.inj hn
    omega
  · rw [hspelled _ _ (.text "x")]
    rintro ⟨n, ⟨⟩⟩

/-- Standard SQL takes NULL as a row count, though it refuses the value that holds nothing. -/
theorem constants_misjudged_as_counts_null :
  ¬ (Expr.operand .null).DenotesCount
    ∧ (Style.generic.compile (.select (allRolls.counting .limit (.operand .null)))).result
      = .ok ⟨"SELECT *\nFROM rolls\nLIMIT NULL", []⟩
    ∧ ((Style.generic.compile
          (.select (allRolls.counting .limit (.operand (.inline (.integer none)))))).result.mapError
        Failure.message)
      = .error "Compilation error: LIMIT expects an integer row count, found NULL"
  := by
  refine ⟨?_, by decide +kernel, by decide +kernel⟩
  rintro ⟨n, ⟨⟩⟩

end SqlDialect
