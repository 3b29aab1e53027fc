import SqlDialect.Proofs.Render.Composed

/-!
# Woven renderings

A rendering is woven from leaves when it consists of these leaves, in order, and of fixed
texts and names, such that any two parts with a text are parted by a fixed text.  Every
statement that is written as a whole is woven from the leaves that it writes.
-/

namespace SqlDialect

/-- A text that parts what stands on its two sides. -/
def isGlue (text : String) : Bool :=
  text ≠ "" && isSqlText text

/-- A phrase is glue. -/
theorem isGlue_of_isPhrase {text : String} (h : isPhrase text) :
  isGlue text
  := by
  rw [isPhrase, Bool.and_eq_true] at h
  rw [isGlue, h.1, isSqlText_of_isWording h.2]
  rfl

/-- The pieces write the leaves in order, parted by fixed texts. -/
inductive Woven (style : Style) : List (Scope × Operand) → List Piece → Prop
  | nil : Woven style [] []
  | text {text : String} (h : isSqlText text) : Woven style [] [.plain text]
  | name (content : String) : Woven style [] [.quoted '"' content]
  | leaf (scope : Scope) (leaf : Operand) :
    Woven style [(scope, leaf)] (leaf.pieces style scope)
  | join {text : String} {ls ms : List (Scope × Operand)} {ps qs : List Piece}
    (h : isGlue text) (hps : Woven style ls ps) (hqs : Woven style ms qs) :
    Woven style (ls ++ ms) (ps ++ .plain text :: qs)
  | beside {ls ms : List (Scope × Operand)} {ps qs : List Piece}
    (h : Piece.textOf ps = "" ∨ Piece.textOf qs = "")
    (hps : Woven style ls ps) (hqs : Woven style ms qs) :
    Woven style (ls ++ ms) (ps ++ qs)

/-- Either nothing, or a fixed text in front of something woven. -/
inductive WovenClause (style : Style) : List (Scope × Operand) → List Piece → Prop
  | nothing : WovenClause style [] []
  | keyword {text : String} {ls : List (Scope × Operand)} {ps : List Piece}
    (h : isGlue text) (hps : Woven style ls ps) : WovenClause style ls (.plain text :: ps)

namespace Woven

variable {style : Style} {ls ms : List (Scope × Operand)} {ps qs : List Piece} {text : String}

/-- Glue may stand in front of what is woven. -/
theorem glue_cons (h : isGlue text) (hps : Woven style ls ps) :
  Woven style ls (.plain text :: ps)
  := join h nil hps

/-- Something woven from no leaves may stand in front. -/
theorem names_join (h : isGlue text) (hps : Woven style [] ps) (hqs : Woven style ms qs) :
  Woven style ms (ps ++ .plain text :: qs)
  := join h hps hqs

/-- Glue may stand behind what is woven. -/
theorem append_glue (h : isGlue text) (hps : Woven style ls ps) :
  Woven style ls (ps ++ [.plain text])
  := by
  rw [← List.append_nil ls]
  apply join h hps nil

/-- A clause may follow what is woven, with its leaves behind the others. -/
theorem append_clause (hps : Woven style ls ps) (hqs : WovenClause style ms qs) :
  Woven style (ls ++ ms) (ps ++ qs)
  := by
  cases hqs with
  | nothing =>
    rw [List.append_nil, List.append_nil]
    apply hps
  | keyword h hqs => apply join h hps hqs

/-- A clause may follow names, which have no leaves. -/
theorem names_append_clause (hps : Woven style [] ps) (hqs : WovenClause style ms qs) :
  Woven style ms (ps ++ qs)
  := append_clause hps hqs

/-- Parentheses are woven around pieces without a leaf more. -/
theorem enclosed {needed : Prop} [Decidable needed] (hps : Woven style ls ps) :
  Woven style ls (Piece.enclosed needed ps)
  := by
  rw [Piece.enclosed]
  split
  · apply append_glue (by decide) (glue_cons (by decide) hps)
  · apply hps

/-- Renderings in a row are woven when each of them is. -/
theorem separated {α : Type} {separator : String} (h : isGlue separator)
    {leaves : α → List (Scope × Operand)} {pieces : α → List Piece} (items : List α)
    (hitems : ∀ x ∈ items, Woven style (leaves x) (pieces x)) :
  Woven style (items.flatMap leaves) (Piece.separated separator (items.map pieces))
  := Piece.separated_induction nil (join h) (fun hempty => beside (.inl hempty)) items hitems

/-- What is found neither in fixed texts nor in names is found in the leaves. -/
theorem filterMap_eq {α : Type} {find : Piece → Option α}
    (htext : ∀ text, find (.plain text) = none)
    (hname : ∀ content, find (.quoted '"' content) = none) (h : Woven style ls ps) :
  ps.filterMap find = ls.flatMap fun leaf => (leaf.2.pieces style leaf.1).filterMap find
  := by
  induction h with
  | nil => rfl
  | text h => simp [htext]
  | name content => simp [hname]
  | leaf scope leaf => simp
  | join h _ _ ihps ihqs => simp [htext, ihps, ihqs]
  | beside h _ _ ihps ihqs => simp [ihps, ihqs]

/-- What is composed of woven expressions is woven. -/
theorem of_composed {places : List (Scope × Expr)} (h : Composed style places ps)
    (hwoven : ∀ place ∈ places,
      Woven style (place.2.leaves place.1) (place.2.pieces style place.1)) :
  Woven style (Expr.leavesAt places) ps
  := by
  induction h with
  | nil => apply nil
  | text h => apply text (isSqlText_of_isWording h)
  | name content => apply name
  | expr scope e =>
    rw [Expr.leavesAt, List.flatMap_singleton]
    apply hwoven (scope, e) (List.mem_singleton_self _)
  | join h _ _ ihps ihqs =>
    obtain ⟨hls, hms⟩ := List.forall_mem_append.mp hwoven
    rw [Expr.leavesAt_append]
    apply join (isGlue_of_isPhrase h) (ihps hls) (ihqs hms)
  | beside h _ _ ihps ihqs =>
    obtain ⟨hls, hms⟩ := List.forall_mem_append.mp hwoven
    rw [Expr.leavesAt_append]
    apply beside h (ihps hls) (ihqs hms)

/-! ## Names -/

/-- What is composed of no expressions is woven from no leaves. -/
theorem names (h : Composed style [] ps) :
  Woven style [] ps
  := of_composed h (by simp)

/-- An identifier has no leaves. -/
theorem identifier (style : Style) (name : String) :
  Woven style [] [style.identifier name]
  := names (Composed.identifier style name)

/-- The names of a table have no leaves. -/
theorem tablePieces (style : Style) (scope : Scope) (t : Table) :
  Woven style [] (t.pieces style scope)
  := names (Composed.tablePieces style scope t)

/-- The names of a column have no leaves. -/
theorem columnPieces (style : Style) (scope : Scope) (c : Column) :
  Woven style [] (c.pieces style scope)
  := names (Composed.columnPieces style scope c)

/-- The next value of a sequence has no leaves. -/
theorem nextValuePieces (style : Style) (sequence : Sequence) :
  Woven style [] (sequence.nextValuePieces style)
  := names (Composed.nextValuePieces style sequence)

/-- Identifiers in a row have no leaves. -/
theorem identifiers (style : Style) (names : List String) :
  Woven style [] (Piece.separated ", " (names.map fun name => [style.identifier name]))
  := Woven.names (Composed.identifiers style names)

end Woven

/-! ## Expressions -/

/-- An expression is woven from the leaves that it writes. -/
theorem Expr.woven (style : Style) (scope : Scope) (e : Expr) :
  Woven style (e.leaves scope) (e.pieces style scope)
  := by
  induction e using Expr.induction generalizing scope with
  | operand leaf => apply Woven.leaf
  | unary op argument ih =>
    rw [pieces_unary]
    apply Woven.glue_cons
    · cases op <;> rfl
    · apply (ih scope).enclosed
  | binary op left right ihl ihr =>
    rw [pieces_binary]
    apply Woven.join
    · cases op <;> rfl
    · apply (ihl scope).enclosed
    · apply (ihr scope).enclosed
  | cast argument target iha iht =>
    rw [pieces_cast, Piece.cast]
    apply Woven.append_glue (by decide)
    apply Woven.join (by decide) _ (iht _)
    apply Woven.glue_cons (by decide) (iha _)
  | labelled argument label iha ihl =>
    rw [pieces_labelled, leaves]
    split
    · apply iha
    · apply Woven.join (by decide)
      · apply (iha scope).enclosed
      · apply (ihl scope).enclosed
  | currentTimestamp => apply Woven.text (isSqlText_of_isWording (isWording_currentTimestamp style))
  | currentDate => apply Woven.text (by decide)
  | call name arguments ih =>
    rw [pieces_call, leaves, leavesOf_eq]
    apply Woven.join (by decide) (Woven.leaf scope (.raw name))
    apply Woven.append_glue (by decide)
    apply Woven.separated (by decide)
    intro e he
    apply ih e he
  | nextValue sequence =>
    rw [pieces_nextValue]
    apply Woven.nextValuePieces

/-! ## Statements -/

namespace Woven

variable {style : Style} {places : List (Scope × Expr)} {ps : List Piece}

/-- What is composed of expressions is woven from the leaves that these write. -/
theorem of_exprs (h : Composed style places ps) :
  Woven style (Expr.leavesAt places) ps
  := of_composed h fun place _ => place.2.woven style place.1

end Woven

/-- A clause composed of expressions is woven from the leaves that these write. -/
theorem WovenClause.of_exprs {style : Style} {places : List (Scope × Expr)} {ps : List Piece}
    (h : ComposedClause style places ps) :
  WovenClause style (Expr.leavesAt places) ps
  := by
  cases h with
  | nothing => apply nothing
  | keyword h hps => apply keyword (isGlue_of_isPhrase h) (Woven.of_exprs hps)

namespace SelectQuery

/-- The limits on the rows of a query are a clause with their own leaves. -/
theorem paginationAttempt_woven {style : Style} {scope : Scope} {q : SelectQuery}
    {ps : List Piece} (h : q.paginationAttempt style scope = .ok ps) :
  WovenClause style (q.paginationLeaves style scope) ps
  := by
  rw [← leavesAt_paginationPlaced]
  apply WovenClause.of_exprs (paginationAttempt_composed h)

/-- The source of a query is a clause without leaves. -/
theorem sourcePieces_woven (style : Style) (scope : Scope) (q : SelectQuery) :
  WovenClause style [] (q.sourcePieces style scope)
  := WovenClause.of_exprs (q.sourcePieces_composed style scope)

/-- A query that is written as a whole is woven from its leaves. -/
theorem attempt_woven {style : Style} {scope : Scope} {q : SelectQuery} {ps : List Piece}
    (h : q.attempt style scope = .ok ps) :
  Woven style (q.leaves style scope) ps
  := by
  rw [← leavesAt_placed]
  apply Woven.of_exprs (attempt_composed h)

end SelectQuery

/-- What a constraint demands is a clause without leaves. -/
theorem ConstraintKind.attempt_woven {style : Style} {scope : Scope} {table : Table}
    {columns : List String} {kind : ConstraintKind} {ps : List Piece}
    (h : kind.attempt style scope table columns = .ok ps) :
  WovenClause style [] ps
  := WovenClause.of_exprs (ConstraintKind.attempt_composed h)

namespace Statement

/-- Names for constraints add no leaves. -/
theorem leaves_prepared (style : Style) (scope : Scope) (s : Statement) :
  (s.prepared style).leaves style scope = s.leaves style scope
  := by
  rw [← leavesAt_placed, ← leavesAt_placed, placed_prepared]

/-- A statement that is written as a whole is woven from the leaves that it writes. -/
theorem woven {style : Style} {scope : Scope} {s : Statement} {ps : List Piece}
    (h : s.attempt style scope = .ok ps) :
  Woven style (s.leaves style scope) ps
  := by
  rw [← leavesAt_placed]
  apply Woven.of_exprs (Statement.composed h)

end Statement

end SqlDialect
