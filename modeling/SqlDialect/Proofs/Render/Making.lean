import SqlDialect.Proofs.Page
import SqlDialect.Render.Piece
import SqlDialect.Render.Draft

/-!
# Attempts that are made on drafts

To write on a draft is to make an attempt: the writing ends as the attempt ends, and what the
attempt wrote stands behind what was there, its parameters behind the parameters that were
there, and its first fault is recorded unless one was.  Which attempt is made depends on the
scope of the draft and on nothing else in it, and the scope is as it was afterwards.  This
is kept when writing is put together from writing: one after the other, behind a check, in
another part of the statement, in parentheses, and in a row.
-/

namespace SqlDialect

namespace Draft

/-- The draft in another scope. -/
def inScope (scope : Scope) (d : Draft) : Draft :=
  { d with state := { d.state with scope } }

/-- The draft with the pieces behind what was there. -/
def add (pieces : List Piece) (d : Draft) : Draft where
  text := d.text ++ Piece.textOf pieces
  state :=
    { scope := d.state.scope
      parameters := d.state.parameters ++ Piece.parametersOf pieces
      recorded? := d.state.recorded?.or (Piece.failureOf? pieces)
      lost? := d.state.lost?.or (Piece.momentOf? pieces) }

/-- Nothing changes when no pieces are added. -/
theorem add_nil (d : Draft) :
  d.add [] = d
  := by
  simp [add, Piece.parametersOf, Piece.failureOf?, Piece.momentOf?]

/-- Pieces may be added one after the other. -/
theorem add_append (ps qs : List Piece) (d : Draft) :
  d.add (ps ++ qs) = (d.add ps).add qs
  := by
  simp [add, Piece.textOf_append, Piece.parametersOf, Piece.failureOf?, Piece.momentOf?,
    String.append_assoc, Option.or_assoc]

/-- Pieces that bind nothing and go without a fault add their text. -/
theorem add_of_textOf_eq {content : String} {ps : List Piece} (htext : Piece.textOf ps = content)
    (hparameters : Piece.parametersOf ps = []) (hfailure : Piece.failureOf? ps = none)
    (hmoment : Piece.momentOf? ps = none) (d : Draft) :
  d.add ps = d.append content
  := by
  rw [add, htext, hparameters, hfailure, hmoment, List.append_nil, Option.or_none, Option.or_none]
  rfl

/-- A text that is added as a piece is appended. -/
theorem add_plain (content : String) (d : Draft) :
  d.add [.plain content] = d.append content
  := add_of_textOf_eq (by simp [Piece.textOf_cons, Piece.text]) rfl rfl rfl d

/-- A piece adds its text, its parameter and its fault. -/
theorem add_singleton (p : Piece) (d : Draft) :
  d.add [p] = ⟨d.text ++ p.text,
    { scope := d.state.scope
      parameters := d.state.parameters ++ p.parameter?.toList
      recorded? := d.state.recorded?.or p.failure?
      lost? := d.state.lost?.or p.moment? }⟩
  := by
  have hparameter : [p].filterMap Piece.parameter? = p.parameter?.toList := by
    cases h : p.parameter? <;> simp [h]
  rw [add, Piece.textOf_cons, Piece.textOf_nil, String.append_empty, Piece.parametersOf,
    hparameter, Piece.failureOf?, List.findSome?_singleton, Piece.momentOf?,
    List.findSome?_singleton]

/-- What stands in a draft is longer when pieces with a text are added to it. -/
theorem length_lt_add_iff {ps : List Piece} {d : Draft} :
  Page.length d < Page.length (d.add ps) ↔ Piece.textOf ps ≠ ""
  := Page.length_lt_append_iff

/-- A separator that is due when the text has grown. -/
theorem append_separator (separator : String) (ps : List Piece) (d : Draft) :
  (if Page.length d < Page.length (d.add ps) then (d.add ps).append separator else d.add ps)
    = d.add (ps ++ if Piece.textOf ps = "" then [] else [.plain separator])
  := by
  simp only [length_lt_add_iff]
  by_cases h : Piece.textOf ps = ""
  · rw [if_neg (not_not.mpr h), if_pos h, List.append_nil]
  · rw [if_pos h, if_neg h, add_append, add_plain]

end Draft

/-- How an attempt ends. -/
def Attempt.outcome (a : Attempt) : Except Failure Unit :=
  match a.failure with
  | none => .ok ()
  | some failure => .error failure

/-- Attempts one after the other may be grouped in any way. -/
theorem Attempt.append_assoc (a b c : Attempt) :
  a ++ b ++ c = a ++ (b ++ c)
  := by
  obtain ⟨written, _ | failure⟩ := a
  · obtain ⟨written', _ | failure'⟩ := b
    · apply congrArg (Attempt.mk · c.failure) (List.append_assoc written written' c.written)
    · rfl
  · rfl

/-- Attempts that write everything write everything in a row. -/
theorem Attempt.separated_ok (separator : String) (items : List (List Piece)) :
  separated separator (items.map .ok) = .ok (Piece.separated separator items)
  := by
  induction items with
  | nil => rfl
  | cons item rest ih =>
    cases rest with
    | nil => rfl
    | cons next rest =>
      rw [List.map_cons, List.map_cons, separated, ← List.map_cons, ih]
      · rfl
      · simp

namespace Writing

/-! ## How writing goes on -/

section

variable {α β : Type}

/-- The writing goes on behind what does not stop it, on the draft that was left. -/
theorem on_bind (w : Writing α) (f : α → Writing β) (d : Draft) :
  (w >>= f).on d = match w.on d with
    | (.ok x, after) => (f x).on after
    | (.error failure, after) => (.error failure, after)
  := by
  have hcont : (w >>= f).on d = ExceptT.bindCont f (w.on d).1 (w.on d).2 := rfl
  rw [hcont]
  obtain ⟨_ | _, after⟩ := w.on d <;> rfl

/-- What is caught goes on on the draft that was left when the writing stopped. -/
theorem on_tryCatch (w : Writing α) (f : Failure → Writing α) (d : Draft) :
  (tryCatch w f).on d = match w.on d with
    | (.ok x, after) => (.ok x, after)
    | (.error failure, after) => (f failure).on after
  := by
  simp only [on, tryCatch, tryCatchThe, MonadExceptOf.tryCatch, ExceptT.tryCatch, ExceptT.run,
    ExceptT.mk, StateT.run, bind, StateT.bind]
  obtain ⟨_ | _, after⟩ := w d <;> rfl

/-- What is done finally is done on the draft that was left, whether or not the writing stopped. -/
theorem on_tryFinally (w : Writing α) (v : Writing Unit) (d : Draft) :
  (tryFinally w v).on d = match v.on (w.on d).2 with
    | (.ok _, after) => ((w.on d).1, after)
    | (.error failure, after) => (.error failure, after)
  := by
  simp only [on, tryFinally, MonadFinally.tryFinally', ExceptT.run, ExceptT.mk, StateT.run, bind,
    StateT.bind, Functor.map, ExceptT.map]
  obtain ⟨_ | _, after⟩ := w d <;>
  · simp only [pure]
    obtain ⟨_ | _, last⟩ := v after <;> rfl

end

/-- A text is appended to the draft and never stops the writing. -/
theorem on_append (text : String) (d : Draft) :
  (append text).on d = (.ok (), Page.append text d)
  := rfl

/-- A note changes nothing but what is kept beside the text. -/
theorem on_note (change : Notes → Notes) (d : Draft) :
  (note change).on d = (.ok (), { d with state := change d.state })
  := rfl

/-- A draft is looked at without a change. -/
theorem on_get (d : Draft) :
  (get : Writing Draft).on d = (.ok d, d)
  := rfl

/-- The scope is read off the draft, which stays as it is. -/
theorem on_scope (d : Draft) :
  scope.on d = (.ok d.state.scope, d)
  := rfl

/-- The part of the statement that was left is entered again however the writing ends. -/
theorem on_switching (clause : Clause) (w : Writing Unit) (d : Draft) :
  (switching clause w).on d
    = let (outcome, after) := w.on (d.inScope (d.state.scope.entering clause))
      (outcome, after.inScope (d.state.scope.backFrom after.state.scope))
  := by
  rw [switching, on_bind, on_scope]
  dsimp only
  rw [on_bind, enter, on_note]
  dsimp only
  rw [on_tryFinally, goBack, on_note]
  rfl

/-! ## Attempts that are made -/

/-- In the scope, the writing makes the attempt on every draft, and leaves the scope as it was. -/
def Makes (w : Writing Unit) (scope : Scope) (a : Attempt) : Prop :=
  ∀ d : Draft, d.state.scope = scope → w.on d = (a.outcome, d.add a.written)

/-- Items whose writing makes attempts, on a page. -/
theorem trySeparated_onPage {α : Type} (separator : String) {scope : Scope} {items : List α}
    {write : α → Writing Unit} {attempts : α → Attempt}
    (h : ∀ x ∈ items, (write x).Makes scope (attempts x)) (d : Draft) (hd : d.state.scope = scope) :
  Page.trySeparated separator onPage (items.map write) d
    = (d.add (Attempt.separated separator (items.map attempts)).written,
      (Attempt.separated separator (items.map attempts)).failure)
  := by
  induction items generalizing d with
  | nil =>
    change (d, none) = (d.add [], none)
    rw [d.add_nil]
  | cons x rest ih =>
    obtain ⟨hx, hrest⟩ := List.forall_mem_cons.mp h
    have hitem : onPage (write x) d = (d.add (attempts x).written, (attempts x).failure) := by
      rw [onPage, hx d hd, Attempt.outcome]
      cases (attempts x).failure <;> rfl
    cases rest with
    | nil =>
      rw [List.map_singleton, List.map_singleton, Page.trySeparated_singleton, hitem]
      rfl
    | cons y rest =>
      rw [List.map_cons, List.map_cons, List.map_cons, List.map_cons, Page.trySeparated_cons_cons,
        hitem, ← List.map_cons, ← List.map_cons, Attempt.separated]
      · obtain ⟨written, _ | failure⟩ := attempts x
        · have hbehind := ih hrest
            (d.add (written ++ if Piece.textOf written = "" then [] else [.plain separator])) hd
          dsimp only
          rw [Draft.append_separator, hbehind, ← d.add_append]
          rfl
        · rfl
      · simp

namespace Makes

variable {w v : Writing Unit} {scope : Scope} {a b : Attempt} {ps qs : List Piece}

/-- A draft that stays as it is has had nothing written on it. -/
theorem unchanged (h : ∀ d, w.on d = (a.outcome, d)) (hwritten : a.written = []) :
  w.Makes scope a
  := by
  intro d _
  rw [h, hwritten, d.add_nil]

/-- To write nothing is to make an attempt at nothing. -/
theorem nothing :
  (pure () : Writing Unit).Makes scope (.ok [])
  := unchanged (fun _ => rfl) rfl

/-- Text that binds nothing and goes without a fault. -/
theorem text {content : String} (htext : Piece.textOf ps = content)
    (hparameters : Piece.parametersOf ps = []) (hfailure : Piece.failureOf? ps = none)
    (hmoment : Piece.momentOf? ps = none) :
  (append content).Makes scope (.ok ps)
  := by
  intro d _
  rw [on_append, ← d.add_of_textOf_eq htext hparameters hfailure hmoment]
  rfl

/-- A text by itself is written as a plain piece. -/
theorem plain (content : String) :
  (append content).Makes scope (.ok [.plain content])
  := text (by simp [Piece.textOf_cons, Piece.text]) rfl rfl rfl

/-- A token between marks is written as a quoted piece. -/
theorem quoted (mark : Char) (content : String) :
  (append (Piece.quoted mark content).text).Makes scope (.ok [.quoted mark content])
  := text (by simp [Piece.textOf_cons]) rfl rfl rfl

/-- A marker is written together with the value bound to it. -/
theorem mark (value : Value) :
  (Writing.mark value).Makes scope (.ok [.marker value])
  := by
  intro d _
  rw [Writing.mark, on_bind, on_append, Attempt.ok, d.add_singleton]
  dsimp only
  rw [on_note]
  simp [Attempt.outcome, Page.append, Piece.text, Piece.parameter?, Piece.failure?, Piece.moment?]

/-- What is recorded is recorded only where nothing was before. -/
theorem record (failure : Failure) :
  (Writing.record failure).Makes scope (.ok [.fault failure])
  := by
  rintro ⟨text, scope, parameters, recorded?, lost?⟩ _
  rw [Writing.record, on_note, Attempt.ok, Draft.add_singleton]
  cases recorded? <;>
    simp [Attempt.outcome, Piece.text, Piece.parameter?, Piece.failure?, Piece.moment?]

/-- What is lost is kept only where nothing was lost before. -/
theorem lose (moment : Moment) :
  (Writing.lose moment).Makes scope (.ok [.outsideCalendar moment])
  := by
  rintro ⟨text, scope, parameters, recorded?, lost?⟩ _
  rw [Writing.lose, on_note, Attempt.ok, Draft.add_singleton]
  cases lost? <;>
    simp [Attempt.outcome, Piece.text, Piece.parameter?, Piece.failure?, Piece.moment?]

/-- Behind writing that stops nothing is written. -/
theorem seq (hw : w.Makes scope a) (hv : v.Makes scope b) :
  (w >>= fun _ => v).Makes scope (a ++ b)
  := by
  intro d hd
  rw [on_bind, hw d hd]
  obtain ⟨written, _ | failure⟩ := a
  · have hbehind := hv (d.add written) hd
    change v.on (d.add written) = (_, d.add (written ++ b.written))
    rw [hbehind, d.add_append]
    rfl
  · rfl

/-- Behind a check that finds a fault nothing is written. -/
theorem checked (fault : Option CompileFault) (hv : v.Makes scope b) :
  (check fault >>= fun _ => v).Makes scope (.checked fault b)
  := by
  cases fault with
  | none =>
    intro d hd
    rw [on_bind]
    apply hv d hd
  | some fault => exact unchanged (fun _ => rfl) rfl

/-- What is written when neither stops the writing. -/
theorem goOn (hw : w.Makes scope (.ok ps)) (hv : v.Makes scope (.ok qs)) :
  (w >>= fun _ => v).Makes scope (.ok (ps ++ qs))
  := hw.seq hv

/-- The pieces of an attempt may be given in another form. -/
theorem congr (hw : w.Makes scope (.ok ps)) (hpieces : ps = qs) :
  w.Makes scope (.ok qs)
  := hpieces ▸ hw

/-- A check writes nothing. -/
theorem check (fault : Option CompileFault) :
  (Writing.check fault).Makes scope (.checked fault (.ok []))
  := by
  cases fault <;> exact unchanged (fun _ => rfl) rfl

/-- To refuse is to fail with nothing written. -/
theorem refuse (fault : CompileFault) :
  (Writing.refuse fault).Makes scope (.fail fault)
  := unchanged (fun _ => rfl) rfl

/-- The scope in which the writing stands is known. -/
theorem scope_bind {f : Scope → Writing Unit} (h : (f scope).Makes scope a) :
  (Writing.scope >>= f).Makes scope a
  := by
  rintro d rfl
  rw [on_bind, on_scope]
  apply h d rfl

/-- The text of what is written is what stands behind the text that was there. -/
theorem textWritten_bind {f : List Char → Writing Unit} (hw : w.Makes scope (.ok ps))
    (hf : (f (Piece.textOf ps).toList).Makes scope b) :
  (textWritten w >>= f).Makes scope (.ok ps ++ b)
  := by
  intro d hd
  have htext : (textWritten w).on d = (.ok (Piece.textOf ps).toList, d.add ps) := by
    rw [textWritten, on_bind, on_get]
    dsimp only
    rw [on_bind, hw d hd]
    change (Except.ok ((d.add ps).text.toList.drop d.text.length), d.add ps) = _
    rw [Draft.add, String.toList_append, ← String.length_toList, List.drop_left]
  rw [on_bind, htext]
  dsimp only
  rw [hf (d.add ps) hd, ← d.add_append]
  rfl

/-- What is written under a condition is nothing where it does not hold. -/
theorem given {condition : Prop} [Decidable condition] (hw : w.Makes scope (.ok ps)) :
  (Writing.given condition w).Makes scope (.ok (if condition then ps else []))
  := by
  rw [Writing.given]
  split
  · apply hw
  · apply nothing

/-- Parentheses are written around what needs them. -/
theorem enclosed {needed : Prop} [Decidable needed] (hw : w.Makes scope (.ok ps)) :
  (Writing.enclosed needed w).Makes scope (.ok (Piece.enclosed needed ps))
  := by
  rw [Writing.enclosed, Piece.enclosed]
  split
  · apply (plain "(").seq (hw.seq (plain ")"))
  · apply hw

/-- What is written in another part of the statement is written in the scope of that part, and the
scope is the one before it afterwards. -/
theorem switching {clause : Clause} (hw : w.Makes (scope.entering clause) a) :
  (Writing.switching clause w).Makes scope a
  := by
  rintro d rfl
  rw [on_switching, hw _ rfl]
  rfl

/-- What is written literally is written in a scope without markers, and the scope is the one before
it afterwards. -/
theorem literally {clause : Clause} (hw : w.Makes (scope.entering clause).inlining a) :
  (Writing.literally clause w).Makes scope a
  := by
  rintro d rfl
  rw [Writing.literally, on_switching, on_bind, inlineValues, on_note]
  dsimp only
  rw [hw _ rfl]
  rfl

/-- Items in a row. -/
theorem separated {α : Type} (separator : String) {items : List α} {write : α → Writing Unit}
    {attempts : α → Attempt} (h : ∀ x ∈ items, (write x).Makes scope (attempts x)) :
  (Writing.separated separator (items.map write)).Makes scope
    (.separated separator (items.map attempts))
  := by
  intro d hd
  have hset : (Writing.separated separator (items.map write)).on d
      = ((Page.trySeparated separator onPage (items.map write) d).2.elim (.ok ()) .error,
        (Page.trySeparated separator onPage (items.map write) d).1) := by
    rw [Writing.separated, on_bind, on_get]
    dsimp only
    obtain ⟨after, _ | failure⟩ := Page.trySeparated separator onPage (items.map write) d <;> rfl
  rw [hset, trySeparated_onPage separator h d hd, Attempt.outcome]
  cases (Attempt.separated separator (items.map attempts)).failure <;> rfl

/-- Items in a row, when none of them stops the writing. -/
theorem separated_ok {α : Type} (separator : String) {items : List α} {write : α → Writing Unit}
    {pieces : α → List Piece} (h : ∀ x ∈ items, (write x).Makes scope (.ok (pieces x))) :
  (Writing.separated separator (items.map write)).Makes scope
    (.ok (Piece.separated separator (items.map pieces)))
  := by
  rw [← Attempt.separated_ok, List.map_map]
  apply separated separator h

end Makes

end Writing

end SqlDialect
