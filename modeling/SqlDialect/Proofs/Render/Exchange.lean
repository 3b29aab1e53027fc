import SqlDialect.Proofs.Render.Literals
import SqlDialect.Proofs.Render.Woven
import SqlDialect.Proofs.Statement.Operands

/-!
# Exchanging parts of renderings

Two renderings are the same up to an exchange when they differ in parts that were exchanged
for others, and nothing else.  When the parts on both sides are visible, replacing the
leaves of a statement by leaves whose renderings are the same up to the exchange gives an
attempt that writes the same up to the exchange and stops at the same failure.
-/

namespace SqlDialect

/-- The renderings are the same but for parts that were exchanged.  A marker is only the same as
another part when it was exchanged for it. -/
inductive Exchanged (part : List Piece → List Piece → Prop) : List Piece → List Piece → Prop
  | nil : Exchanged part [] []
  | same {p : Piece} (h : p.parameter? = none) : Exchanged part [p] [p]
  | part {ps qs : List Piece} (h : part ps qs) : Exchanged part ps qs
  | append {ps ps' qs qs' : List Piece} (h : Exchanged part ps qs)
    (h' : Exchanged part ps' qs') : Exchanged part (ps ++ ps') (qs ++ qs')

/-- Parts may be exchanged for one another when they are visible and nothing is recorded in them. -/
structure Exchangeable (part : List Piece → List Piece → Prop) : Prop where
  visible : ∀ ps qs, part ps qs → Piece.Visible ps ∧ Piece.Visible qs
  failure? : ∀ ps qs, part ps qs → ∀ p ∈ ps ++ qs, p.failure? = none
  moment? : ∀ ps qs, part ps qs → ∀ p ∈ ps ++ qs, p.moment? = none

namespace Exchanged

variable {part : List Piece → List Piece → Prop} {ps ps' qs qs' : List Piece}

/-- The same piece may stand in front, unless it is a marker. -/
theorem cons {p : Piece} (hp : p.parameter? = none) (h : Exchanged part ps qs) :
  Exchanged part (p :: ps) (p :: qs)
  := append (same hp) h

/-- A rendering without markers is the same as itself. -/
theorem refl (h : ∀ p ∈ ps, p.parameter? = none) :
  Exchanged part ps ps
  := by
  induction ps with
  | nil => apply nil
  | cons p ps ih =>
    obtain ⟨hp, hps⟩ := List.forall_mem_cons.mp h
    apply cons hp (ih hps)

/-- The same text may stand behind. -/
theorem append_plain (text : String) (h : Exchanged part ps qs) :
  Exchanged part (ps ++ [.plain text]) (qs ++ [.plain text])
  := append h (same rfl)

/-- What is exchanged in parentheses is exchanged with them. -/
theorem enclosed {needed : Prop} [Decidable needed] (h : Exchanged part ps qs) :
  Exchanged part (Piece.enclosed needed ps) (Piece.enclosed needed qs)
  := by
  rw [Piece.enclosed, Piece.enclosed]
  split
  · apply append_plain
    apply cons rfl h
  · apply h

/-- Both renderings consist of blanks, or neither does. -/
theorem blank_iff (hpart : Exchangeable part) (h : Exchanged part ps qs) :
  (∀ c ∈ (Piece.textOf ps).toList, Text.isBlank c) ↔ ∀ c ∈ (Piece.textOf qs).toList, Text.isBlank c
  := by
  induction h with
  | nil => rfl
  | same _ => rfl
  | part h =>
    obtain ⟨⟨c, hc, hblank⟩, ⟨d, hd, hblank'⟩⟩ := hpart.visible _ _ h
    constructor
    · intro hall
      simp [hall c hc] at hblank
    · intro hall
      simp [hall d hd] at hblank'
  | append _ _ ih ih' =>
    rw [Piece.toList_textOf_append, Piece.toList_textOf_append, List.forall_mem_append,
      List.forall_mem_append, ih, ih']

/-- Both renderings have a text, or neither does. -/
theorem textOf_eq_empty_iff (hpart : Exchangeable part) (h : Exchanged part ps qs) :
  Piece.textOf ps = "" ↔ Piece.textOf qs = ""
  := by
  rw [← String.toList_eq_nil_iff, ← String.toList_eq_nil_iff]
  induction h with
  | nil => rfl
  | same _ => rfl
  | part h =>
    obtain ⟨⟨c, hc, -⟩, ⟨d, hd, -⟩⟩ := hpart.visible _ _ h
    simp [List.ne_nil_of_mem hc, List.ne_nil_of_mem hd]
  | append _ _ ih ih' =>
    rw [Piece.toList_textOf_append, Piece.toList_textOf_append, List.append_eq_nil_iff,
      List.append_eq_nil_iff, ih, ih']

/-- What is recorded in both renderings is the same. -/
theorem findSome?_eq {α : Type} {find : Piece → Option α}
    (hfind : ∀ ps qs, part ps qs → ∀ p ∈ ps ++ qs, find p = none) (h : Exchanged part ps qs) :
  ps.findSome? find = qs.findSome? find
  := by
  induction h with
  | nil => rfl
  | same _ => rfl
  | part h =>
    obtain ⟨hps, hqs⟩ := List.forall_mem_append.mp (hfind _ _ h)
    rw [List.findSome?_eq_none_iff.mpr hps, List.findSome?_eq_none_iff.mpr hqs]
  | append _ _ ih ih' => rw [List.findSome?_append, List.findSome?_append, ih, ih']

/-- What is exchanged in each item is exchanged in all of them, separators included. -/
theorem separated {α : Type} (hpart : Exchangeable part) (separator : String) {f g : α → List Piece}
    (items : List α) (h : ∀ x ∈ items, Exchanged part (f x) (g x)) :
  Exchanged part (Piece.separated separator (items.map f)) (Piece.separated separator (items.map g))
  := by
  induction items with
  | nil => apply nil
  | cons x rest ih =>
    obtain ⟨hx, hrest⟩ := List.forall_mem_cons.mp h
    cases rest with
    | nil => apply hx
    | cons y rest =>
      apply append _ (ih hrest)
      apply append hx
      simp only [hx.textOf_eq_empty_iff hpart]
      split
      · apply nil
      · apply same rfl

end Exchanged

/-! ## Attempts -/

/-- The attempts write the same up to the exchange, and stop at the same failure. -/
structure Attempt.Exchanged (part : List Piece → List Piece → Prop) (a b : Attempt) : Prop where
  written : SqlDialect.Exchanged part a.written b.written
  failure : a.failure = b.failure

namespace Attempt.Exchanged

variable {part : List Piece → List Piece → Prop} {a b a' b' : Attempt} {ps qs : List Piece}

/-- What was written is exchanged where both attempts did not stop. -/
theorem ok (h : SqlDialect.Exchanged part ps qs) :
  Attempt.Exchanged part (.ok ps) (.ok qs)
  := ⟨h, rfl⟩

/-- An attempt without markers is exchanged for itself. -/
theorem refl (h : ∀ p ∈ a.written, p.parameter? = none) :
  Attempt.Exchanged part a a
  := ⟨.refl h, rfl⟩

/-- Both attempts may stop at the same fault. -/
theorem fail (fault : CompileFault) :
  Attempt.Exchanged part (.fail fault) (.fail fault)
  := ⟨.nil, rfl⟩

/-- Attempts one after the other are exchanged if each of them is. -/
theorem append (h : Attempt.Exchanged part a b) (h' : Attempt.Exchanged part a' b') :
  Attempt.Exchanged part (a ++ a') (b ++ b')
  := by
  obtain ⟨written, failure⟩ := a
  obtain ⟨_, _⟩ := b
  obtain ⟨hwritten, rfl⟩ := h
  cases failure with
  | none =>
    constructor
    · apply SqlDialect.Exchanged.append hwritten h'.written
    · apply h'.failure
  | some f =>
    constructor
    · apply hwritten
    · rfl

/-- A check that finds the same fault stops both attempts. -/
theorem checked (fault : Option CompileFault) (h : Attempt.Exchanged part a b) :
  Attempt.Exchanged part (.checked fault a) (.checked fault b)
  := by
  cases fault with
  | none => apply h
  | some fault => apply fail

/-- Attempts in a row are exchanged if each of them is. -/
theorem separated {α : Type} (hpart : Exchangeable part) (separator : String) {f g : α → Attempt}
    (items : List α) (h : ∀ x ∈ items, Attempt.Exchanged part (f x) (g x)) :
  Attempt.Exchanged part (.separated separator (items.map f)) (.separated separator (items.map g))
  := by
  induction items with
  | nil => apply ok .nil
  | cons x rest ih =>
    obtain ⟨hx, hrest⟩ := List.forall_mem_cons.mp h
    cases rest with
    | nil => apply hx
    | cons y rest =>
      apply append _ (ih hrest)
      apply append hx
      simp only [hx.written.textOf_eq_empty_iff hpart]
      split
      · apply ok .nil
      · apply ok (.same rfl)

/-- Both attempts give a query, of renderings that are the same up to the exchange, or both fail
for the same reason. -/
theorem compiled (hpart : Exchangeable part) (h : Attempt.Exchanged part a b) :
  (∃ f, a.compiled.result = .error f ∧ b.compiled.result = .error f)
    ∨ ∃ ps qs, SqlDialect.Exchanged part ps qs ∧ a = .ok ps ∧ b = .ok qs
      ∧ a.compiled.result = .ok ⟨Piece.textOf ps, Piece.parametersOf ps⟩
      ∧ b.compiled.result = .ok ⟨Piece.textOf qs, Piece.parametersOf qs⟩
  := by
  have hmoment : Piece.momentOf? a.written = Piece.momentOf? b.written :=
    h.written.findSome?_eq hpart.moment?
  have hrecorded : Piece.failureOf? a.written = Piece.failureOf? b.written :=
    h.written.findSome?_eq hpart.failure?
  obtain ⟨ps, failure⟩ := a
  obtain ⟨qs, _⟩ := b
  obtain ⟨hwritten, rfl⟩ := h
  rw [Attempt.compiled, Attempt.compiled, ← hmoment, ← hrecorded]
  cases Piece.momentOf? ps with
  | some moment => exact .inl ⟨_, rfl, rfl⟩
  | none =>
    cases failure with
    | some f => exact .inl ⟨_, rfl, rfl⟩
    | none =>
      cases Piece.failureOf? ps with
      | some f => exact .inl ⟨_, rfl, rfl⟩
      | none => exact .inr ⟨ps, qs, hwritten, rfl, rfl, rfl, rfl⟩

end Attempt.Exchanged

/-! ## Names and constraints -/

/-- There are no markers where no leaves are written. -/
theorem Woven.parameter?_eq_none {style : Style} {ps : List Piece} (h : Woven style [] ps) :
  ∀ p ∈ ps, p.parameter? = none
  := by
  have hfound : ps.filterMap Piece.parameter? = [] := h.filterMap_eq (fun _ => rfl) (fun _ => rfl)
  rw [List.filterMap_eq_nil_iff] at hfound
  apply hfound

/-- There are no markers in a clause without leaves. -/
theorem WovenClause.parameter?_eq_none {style : Style} {ps : List Piece}
    (h : WovenClause style [] ps) :
  ∀ p ∈ ps, p.parameter? = none
  := by
  have hwoven := Woven.names_append_clause Woven.nil h
  apply hwoven.parameter?_eq_none

/-- An identifier is no marker. -/
theorem Style.parameter?_identifier (style : Style) (name : String) :
  (style.identifier name).parameter? = none
  := (Woven.identifier style name).parameter?_eq_none _ (List.mem_singleton_self _)

/-- What is demanded of columns is written as a whole or not at all. -/
theorem ConstraintKind.attempt_cases (style : Style) (scope : Scope) (table : Table)
    (columns : List String) (kind : ConstraintKind) :
  (∃ ps, kind.attempt style scope table columns = .ok ps)
    ∨ (kind.attempt style scope table columns).written = []
  := by
  cases kind with
  | primaryKey => apply Or.inl ⟨_, rfl⟩
  | unique => apply Or.inl ⟨_, rfl⟩
  | foreignKey references referenced onDelete =>
    by_cases hlength : referenced.length ≠ columns.length
    · right
      simp [attempt, hlength, Attempt.checked, Attempt.fail]
    · left
      simp [attempt, hlength, Attempt.checked]

/-- There are no markers in a constraint. -/
theorem Constraint.parameter?_attempt (style : Style) (scope : Scope) (c : Constraint) :
  ∀ p ∈ (c.attempt style scope).written, p.parameter? = none
  := by
  have hkind : ∀ p ∈ (c.kind.attempt style scope c.table c.columns).written,
      p.parameter? = none := by
    obtain ⟨ps, h⟩ | h := c.kind.attempt_cases style scope c.table c.columns
    · rw [h]
      apply (ConstraintKind.attempt_woven h).parameter?_eq_none
    · simp [h]
  rw [attempt]
  split
  · simp [Attempt.checked, Attempt.fail]
  · change ∀ p ∈ _ ++ _, _
    rw [List.forall_mem_append]
    use ?_, hkind
    split
    next name _ =>
      rw [Attempt.ok, List.forall_mem_cons, List.forall_mem_cons, List.forall_mem_singleton]
      use rfl, style.parameter?_identifier name
      rfl
    · simp [Attempt.ok]

end SqlDialect
