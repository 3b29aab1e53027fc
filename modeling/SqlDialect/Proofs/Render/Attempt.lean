import SqlDialect.Proofs.Render.Pieces
import SqlDialect.Render.Compile

/-!
# Attempts that write everything

When an attempt made of others writes everything, what it is made of writes everything,
and what is written is written in order.  A compilation gives a query exactly when the
attempt at the statement writes everything and records nothing on the way.
-/

namespace SqlDialect

namespace Attempt

theorem append_def (a b : Attempt) :
  a ++ b = a.andThen b
  := rfl

@[simp]
theorem ok_inj {xs ys : List Piece} :
  ok xs = ok ys ↔ xs = ys
  := by
  simp [ok]

@[simp]
theorem fail_ne_ok (fault : CompileFault) (pieces : List Piece) :
  fail fault ≠ ok pieces
  := by
  simp [fail, ok]

theorem append_eq_ok {a b : Attempt} {pieces : List Piece} :
  a ++ b = ok pieces ↔ ∃ xs ys, a = ok xs ∧ b = ok ys ∧ xs ++ ys = pieces
  := by
  obtain ⟨written, failure⟩ := a
  obtain ⟨written', failure'⟩ := b
  cases failure with
  | none =>
    simp only [append_def, andThen, ok, mk.injEq, and_true]
    constructor
    · rintro ⟨rfl, rfl⟩
      use written, written'
    · rintro ⟨xs, ys, rfl, ⟨rfl, rfl⟩, rfl⟩
      simp
  | some f => simp [append_def, andThen, ok]

theorem ok_append_eq_ok {xs : List Piece} {b : Attempt} {pieces : List Piece} :
  ok xs ++ b = ok pieces ↔ ∃ ys, b = ok ys ∧ xs ++ ys = pieces
  := by
  simp [append_eq_ok]

theorem checked_eq_ok {fault : Option CompileFault} {a : Attempt} {pieces : List Piece} :
  checked fault a = ok pieces ↔ fault = none ∧ a = ok pieces
  := by
  cases fault with
  | none => simp [checked]
  | some fault => simp [checked]

/-- Attempts in a row write everything when each of them does. -/
theorem separated_map_eq_ok {α : Type} {separator : String} {f : α → Attempt} {items : List α}
    {pieces : List Piece} (h : separated separator (items.map f) = ok pieces) :
  (∀ x ∈ items, f x = ok (f x).written)
    ∧ Piece.separated separator (items.map fun x => (f x).written) = pieces
  := by
  induction items generalizing pieces with
  | nil =>
    constructor
    · simp
    · apply ok_inj.mp h
  | cons x rest ih =>
    cases rest with
    | nil =>
      change f x = ok pieces at h
      rw [List.map_cons, h]
      constructor
      · simpa using congrArg (ok ·.written) h ▸ h
      · rfl
    | cons y rest =>
      change f x ++ ok _ ++ separated separator ((y :: rest).map f) = ok pieces at h
      obtain ⟨xs, ys, hxs, hys, rfl⟩ := append_eq_ok.mp h
      obtain ⟨xs, zs, hx, hzs, rfl⟩ := append_eq_ok.mp hxs
      obtain ⟨hrest, rfl⟩ := ih hys
      rw [hx, ok_inj] at hzs
      subst hzs
      constructor
      · intro z hz
        obtain rfl | hz := List.mem_cons.mp hz
        · rw [hx]
          rfl
        · apply hrest z hz
      · rw [List.map_cons, List.map_cons, Piece.separated, hx]
        · rfl
        · simp

/-- A compilation gives the query that was written when everything was written, every moment
among it, and nothing was recorded on the way. -/
theorem result_compiled_eq_ok {a : Attempt} {query : CompiledQuery} :
  a.compiled.result = .ok query
    ↔ ∃ pieces, a = ok pieces ∧ Piece.momentOf? pieces = none ∧ Piece.failureOf? pieces = none
      ∧ query = ⟨Piece.textOf pieces, Piece.parametersOf pieces⟩
  := by
  obtain ⟨written, failure⟩ := a
  rw [compiled]
  cases hmoment : Piece.momentOf? written with
  | some moment => simp [Report.unlogged, ok, hmoment]
  | none =>
    cases failure with
    | some f => simp [Report.fail, ok]
    | none =>
      cases hrecorded : Piece.failureOf? written with
      | some f => simp [Report.fail, ok, hrecorded]
      | none => simp [Report.ok, ok, hmoment, hrecorded, eq_comm]

end Attempt

end SqlDialect
