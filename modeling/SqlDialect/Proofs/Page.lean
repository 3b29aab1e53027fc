import SqlDialect.Page
import SqlDialect.Proofs.Render.Attempt

/-!
# Where separators stand

Items that are written to a page with separators leave those of their renderings that have a text,
in order, with a separator between one and the next, and behind the last one a further separator
exactly when renderings without a text follow it.  A failure ends the writing, behind the separator
that was due.  Renderings and attempts in a row are written like this.
-/

namespace SqlDialect

namespace Page

/-! ## Renderings in a row -/

/-- The renderings that have a text, with separators between them. -/
def joined (separator : String) (renderings : List String) : String :=
  separator.intercalate (renderings.filter (· ≠ ""))

/-- The separator that is due behind renderings, when one of them has a text. -/
def due (separator : String) (renderings : List String) : String :=
  if renderings.all (· = "") then "" else separator

/-- The separator that is left behind renderings, when the last one has no text. -/
def left (separator : String) (renderings : List String) : String :=
  if renderings.getLast? = some "" then due separator renderings else ""

section

variable (separator : String) (renderings : List String)

theorem joined_concat_empty :
  joined separator (renderings ++ [""]) = joined separator renderings
  := by
  simp [joined]

theorem due_concat_empty :
  due separator (renderings ++ [""]) = due separator renderings
  := by
  simp [due]

theorem joined_concat {rendering : String} (h : rendering ≠ "") :
  joined separator (renderings ++ [rendering])
    = joined separator renderings ++ due separator renderings ++ rendering
  := by
  have hall : renderings.filter (· ≠ "") = [] ↔ renderings.all (· = "") := by
    simp
  rw [joined, List.filter_append, List.filter_cons_of_pos (by simpa using h), List.filter_nil, due]
  split
  next hempty =>
    rw [joined, hall.mpr hempty]
    simp
  next hshown =>
    rw [← hall] at hshown
    rw [String.intercalate_append_of_ne_nil hshown (List.cons_ne_nil _ _),
      String.intercalate_singleton]
    rfl

/-- A rendering stands behind the separator that is due. -/
theorem joined_append_left_concat (rendering : String) :
  joined separator (renderings ++ [rendering]) ++ left separator (renderings ++ [rendering])
    = joined separator renderings ++ due separator renderings ++ rendering
  := by
  by_cases h : rendering = ""
  · subst h
    rw [joined_concat_empty, left, List.getLast?_concat, if_pos rfl, due_concat_empty,
      String.append_empty]
  · rw [joined_concat separator renderings h, left, List.getLast?_concat, if_neg (by simpa using h),
      String.append_empty]

/-- What is left and what is written when the last rendering has a text is what is due. -/
theorem left_append (grown : Prop) [Decidable grown]
    (h : grown ↔ ∃ rendering, renderings.getLast? = some rendering ∧ rendering ≠ "") :
  left separator renderings ++ (if grown then separator else "") = due separator renderings
  := by
  split
  next hgrown =>
    obtain ⟨rendering, hlast, hne⟩ := h.mp hgrown
    have hshown : renderings.all (· = "") = false := by
      rw [List.all_eq_false]
      exact ⟨rendering, List.mem_of_getLast? hlast, by simpa using hne⟩
    simp [left, hlast, hne, due, hshown]
  next hgrown =>
    rw [String.append_empty, left]
    split
    next => rfl
    next hlast =>
      -- The last rendering neither has a text nor has none, so there is no rendering.
      have hnil : renderings = [] := by
        rw [h] at hgrown
        cases hrow : renderings.getLast? with
        | none => exact List.getLast?_eq_none_iff.mp hrow
        | some rendering =>
          by_contra
          apply hgrown ⟨rendering, hrow, ?_⟩
          rintro rfl
          apply hlast hrow
      simp [hnil, due]

end

/-! ## Writing items -/

variable {α σ ε : Type}

/-- The text that an item finds: what was there, the renderings of the items in front of it and the
separator that is due. -/
def found (separator start : String) (renderings : List String) : String :=
  start ++ joined separator renderings ++ due separator renderings

/-- The items are written in turn.  Each finds the state in which the one before it was left, and a
text that depends on the renderings so far; the first one that fails is the last. -/
inductive InTurn (write : α → Page σ → Page σ × Option ε) (found : List String → String) :
    List String → σ → List α → List String → σ → Option ε → Prop
  | done {renderings : List String} {state : σ} :
    InTurn write found renderings state [] renderings state none
  | stops {renderings : List String} {state state' : σ} {item : α} {rest : List α}
    {rendering : String} {failure : ε}
    (h : write item ⟨found renderings, state⟩
      = (⟨found renderings ++ rendering, state'⟩, some failure)) :
    InTurn write found renderings state (item :: rest) (renderings ++ [rendering]) state'
      (some failure)
  | goesOn {renderings renderings' : List String} {state state' state'' : σ} {item : α}
    {rest : List α} {rendering : String} {failure? : Option ε}
    (h : write item ⟨found renderings, state⟩ = (⟨found renderings ++ rendering, state'⟩, none))
    (hrest : InTurn write found (renderings ++ [rendering]) state' rest renderings' state''
      failure?) :
    InTurn write found renderings state (item :: rest) renderings' state'' failure?

/-- A writer that only adds to the text. -/
def OnlyAppends (write : α → Page σ → Page σ × Option ε) : Prop :=
  ∀ item page, ∃ rendering, (write item page).1.text = page.text ++ rendering

/-- Where the writing stands behind renderings: the separator that is left is part of the text, and
it has grown since the last item was begun when that has a text. -/
structure Behind (separator start : String) (renderings : List String) (begun : Nat)
    (page : Page σ) : Prop where
  text : page.text = start ++ joined separator renderings ++ left separator renderings
  grown : begun < page.length
    ↔ ∃ rendering, renderings.getLast? = some rendering ∧ rendering ≠ ""

section

variable {separator start : String} {renderings : List String} {begun : Nat} {page : Page σ}

/-- The separator is written when it is due and not yet there. -/
theorem Behind.text_separated (h : Behind separator start renderings begun page) :
  (if begun < page.length then page.append separator else page)
    = ⟨found separator start renderings, page.state⟩
  := by
  rw [found, ← left_append separator renderings (begun < page.length) h.grown,
    ← String.append_assoc, ← h.text]
  split
  · rfl
  · rw [String.append_empty]

theorem behind_concat (rendering : String) (state : σ) :
  Behind separator start (renderings ++ [rendering])
    (Page.length ⟨found separator start renderings, state⟩)
    ⟨found separator start renderings ++ rendering, state⟩
  where
  text := by
    rw [String.append_assoc, joined_append_left_concat, found]
    simp only [String.append_assoc]
  grown := by
    simp [length, Nat.pos_iff_ne_zero]

theorem behind_nil (separator : String) (page : Page σ) :
  Behind separator page.text [] page.length page
  where
  text := by simp [joined, left]
  grown := by simp

end

/-- The separator that is left shows unless it is empty or the last rendering has a text or none
has. -/
theorem left_eq_empty_iff (separator : String) (renderings : List String) :
  left separator renderings = ""
    ↔ separator = "" ∨ renderings.getLast? ≠ some "" ∨ ∀ rendering ∈ renderings, rendering = ""
  := by
  rw [left, due]
  split
  next hlast =>
    split
    next hempty =>
      have hnone : ∀ rendering ∈ renderings, rendering = "" := by simpa using hempty
      exact ⟨fun _ => .inr (.inr hnone), fun _ => rfl⟩
    next hshown =>
      have hsome : ¬ ∀ rendering ∈ renderings, rendering = "" := by simpa using hshown
      simp [hlast, hsome]
  next hlast => simp [hlast]

/-- What it comes to when items are written with separators: the renderings up to the first that
fails, joined, and when none fails the separator that is left behind them. -/
structure Separates (separator : String) (write : α → Page σ → Page σ × Option ε) (items : List α)
    (page : Page σ) (result : Page σ × Option ε) (renderings : List String) : Prop where
  inTurn : InTurn write (found separator page.text) [] page.state items renderings result.1.state
    result.2
  of_ok : result.2 = none →
    result.1.text = page.text ++ joined separator renderings ++ left separator renderings
  only_between_iff : result.2 = none → (result.1.text = page.text ++ joined separator renderings
    ↔ separator = "" ∨ renderings.getLast? ≠ some "" ∨ ∀ rendering ∈ renderings, rendering = "")
  of_failure : result.2 ≠ none → ∃ before rendering, renderings = before ++ [rendering]
    ∧ result.1.text = found separator page.text before ++ rendering

section

variable {separator start : String} {write : α → Page σ → Page σ × Option ε}

/-- Each item is written where the renderings in front of it have left the text. -/
theorem trySeparatedFrom_inTurn (hwrite : OnlyAppends write) {items : List α}
    {renderings : List String} {begun : Nat} {page : Page σ}
    (h : Behind separator start renderings begun page) :
  ∃ (renderings' : List String) (result : Page σ × Option ε),
    trySeparatedFrom separator write begun items page = result
      ∧ InTurn write (found separator start) renderings page.state items renderings' result.1.state
        result.2
      ∧ (result.2 = none →
        result.1.text = start ++ joined separator renderings' ++ left separator renderings')
      ∧ (result.2 ≠ none → ∃ before rendering, renderings' = before ++ [rendering]
        ∧ result.1.text = found separator start before ++ rendering)
  := by
  induction items generalizing renderings begun page with
  | nil => exact ⟨renderings, _, rfl, .done, fun _ => h.text, fun hfailure => absurd rfl hfailure⟩
  | cons item rest ih =>
    rw [trySeparatedFrom, h.text_separated]
    obtain ⟨rendering, hrendering⟩ := hwrite item ⟨found separator start renderings, page.state⟩
    split
    next next hnext =>
      obtain ⟨text, state⟩ := next
      rw [hnext] at hrendering
      obtain rfl : text = _ := hrendering
      obtain ⟨renderings', result, hresult, hinTurn, htext⟩ := ih (behind_concat rendering state)
      exact ⟨renderings', result, hresult, .goesOn hnext hinTurn, htext⟩
    next stopped failure hstopped =>
      obtain ⟨text, state⟩ := stopped
      rw [hstopped] at hrendering
      obtain rfl : text = _ := hrendering
      refine ⟨renderings ++ [rendering], _, rfl, .stops hstopped, ?_, ?_⟩
      · intro hnone
        cases hnone
      · intro _
        exact ⟨renderings, rendering, rfl, rfl⟩

theorem exists_separates (hwrite : OnlyAppends write) (items : List α) (page : Page σ) :
  ∃ renderings, Separates separator write items page (trySeparated separator write items page)
    renderings
  := by
  obtain ⟨renderings, result, hresult, hinTurn, hok, hfailure⟩ :=
    trySeparatedFrom_inTurn hwrite (behind_nil separator page)
  rw [trySeparated, hresult]
  refine ⟨renderings, hinTurn, hok, ?_, hfailure⟩
  intro hnone
  rw [hok hnone, ← left_eq_empty_iff, String.append_eq_left_iff]

end

/-! ## One item after the other -/

section

variable {separator : String}

/-- The separator is written behind an item with a text when another one follows. -/
theorem trySeparated_cons_cons {write : α → Page σ → Page σ × Option ε} {item next : α}
    {rest : List α} {page : Page σ} :
  trySeparated separator write (item :: next :: rest) page
    = match write item page with
      | (page', none) => trySeparated separator write (next :: rest)
        (if page.length < page'.length then page'.append separator else page')
      | (stopped, some failure) => (stopped, some failure)
  := by
  rw [trySeparated, trySeparatedFrom, if_neg (Nat.lt_irrefl _)]
  obtain ⟨page', _ | failure⟩ := write item page
  · dsimp only
    rw [trySeparated, trySeparatedFrom, trySeparatedFrom, if_neg (Nat.lt_irrefl _)]
  · rfl

theorem trySeparated_singleton {write : α → Page σ → Page σ × Option ε} {item : α}
    {page : Page σ} :
  trySeparated separator write [item] page = write item page
  := by
  rw [trySeparated, trySeparatedFrom, if_neg (Nat.lt_irrefl _)]
  obtain ⟨page', _ | failure⟩ := write item page <;> rfl

/-- A text is longer when more is added to it. -/
theorem length_lt_append_iff {text : String} {page : Page σ} :
  page.length < (page.append text).length ↔ text ≠ ""
  := by
  simp [length, append, Nat.pos_iff_ne_zero]

/-- Attempts in a row are written like this. -/
theorem trySeparated_attempts (attempts : List Attempt) (page : Page σ) :
  trySeparated separator (fun a page => (page.append (Piece.textOf a.written), a.failure)) attempts
      page
    = (page.append (Piece.textOf (Attempt.separated separator attempts).written),
      (Attempt.separated separator attempts).failure)
  := by
  induction attempts generalizing page with
  | nil => simp [trySeparated, trySeparatedFrom, Attempt.separated, Attempt.ok, append]
  | cons a rest ih =>
    cases rest with
    | nil => rw [trySeparated_singleton, Attempt.separated]
    | cons b rest =>
      obtain ⟨written, failure⟩ := a
      rw [trySeparated_cons_cons]
      cases failure with
      | some f => rfl
      | none =>
        let behind := Attempt.separated separator (b :: rest)
        have hrow : Attempt.separated separator (⟨written, none⟩ :: b :: rest)
            = ⟨written ++ (if Piece.textOf written = "" then [] else [.plain separator])
              ++ behind.written, behind.failure⟩ := rfl
        simp only [length_lt_append_iff, ih, hrow, Piece.textOf_append]
        split
        next => simp [behind, append, Piece.textOf_cons, Piece.text, String.append_assoc]
        next hempty => simp [behind, of_not_not hempty, append]

/-- Renderings in a row are written like this. -/
theorem separated_pieces (items : List (List Piece)) (page : Page σ) :
  separated separator (fun item page => page.append (Piece.textOf item)) items page
    = page.append (Piece.textOf (Piece.separated separator items))
  := by
  rw [separated]
  induction items generalizing page with
  | nil => simp [trySeparated, trySeparatedFrom, Piece.separated, append]
  | cons item rest ih =>
    cases rest with
    | nil => rw [trySeparated_singleton, Piece.separated]
    | cons next rest =>
      have hrow : Piece.separated separator (item :: next :: rest)
          = item ++ (if Piece.textOf item = "" then [] else [.plain separator])
            ++ Piece.separated separator (next :: rest) := rfl
      rw [trySeparated_cons_cons, hrow]
      simp only [length_lt_append_iff, ih, Piece.textOf_append]
      split
      next => simp [append, Piece.textOf_cons, Piece.text, String.append_assoc]
      next hempty => simp [of_not_not hempty, append]

end

/-! ## Separators between renderings -/

/-- A writer that does not fail. -/
def unfailing (write : α → Page σ → Page σ) (item : α) (page : Page σ) : Page σ × Option Empty :=
  (write item page, none)

theorem trySeparated_unfailing (separator : String) (write : α → Page σ → Page σ) (items : List α)
    (page : Page σ) :
  trySeparated separator (unfailing write) items page = (separated separator write items page, none)
  := by
  apply Prod.ext
  · rfl
  · exact Option.eq_none_iff_forall_ne_some.mpr fun failure => failure.elim

/-- Items written with separators leave the renderings that have a text with separators between
them, also in front of a failure, and nothing else unless renderings without a text stand behind one
with a text.  The rows of statements are such items. -/
theorem separators_stand_between_iff (separator : String) (write : α → Page σ → Page σ)
    (tryWrite : α → Page σ → Page σ × Option ε) (hwrite : OnlyAppends (unfailing write))
    (htryWrite : OnlyAppends tryWrite) (items : List α) (page : Page σ) :
  (∃ renderings, Separates separator (unfailing write) items page
      (separated separator write items page, none) renderings)
    ∧ (∃ renderings, Separates separator tryWrite items page
      (trySeparated separator tryWrite items page) renderings)
    ∧ (∀ rows : List (List Piece),
      separated separator (fun row page => page.append (Piece.textOf row)) rows page
        = page.append (Piece.textOf (Piece.separated separator rows)))
    ∧ ∀ attempts : List Attempt,
      trySeparated separator
          (fun attempt page => (page.append (Piece.textOf attempt.written), attempt.failure))
          attempts page
        = (page.append (Piece.textOf (Attempt.separated separator attempts).written),
          (Attempt.separated separator attempts).failure)
  := by
  refine ⟨?_, exists_separates htryWrite items page, ?_, ?_⟩
  · rw [← trySeparated_unfailing]
    exact exists_separates hwrite items page
  · intro rows
    apply separated_pieces
  · intro attempts
    apply trySeparated_attempts

/-- A column without a text between two others brings no separator of its own. -/
theorem separators_stand_between_iff_idNote :
  let write (item : String) (page : Page Unit) : Page Unit := page.append item
  let tryWrite (item : Option String) (page : Page Unit) : Page Unit × Option Unit :=
    match item with
    | some text => (page.append text, none)
    | none => (page, some ())
  OnlyAppends (unfailing write) ∧ OnlyAppends tryWrite
    ∧ (∃ renderings, Separates ", " (unfailing write) ["id", "", "note"] ⟨"SELECT ", ()⟩
      (⟨"SELECT id, note", ()⟩, none) renderings)
    ∧ ∃ renderings, Separates ", " tryWrite [some "id", some "", none, some "note"] ⟨"SELECT ", ()⟩
      (⟨"SELECT id, ", ()⟩, some ()) renderings
  := by
  intro write tryWrite
  have hwrite : OnlyAppends (unfailing write) := fun item _ => ⟨item, rfl⟩
  have htryWrite : OnlyAppends tryWrite
    | some text, _ => ⟨text, rfl⟩
    | none, page => ⟨"", String.append_empty.symm⟩
  refine ⟨hwrite, htryWrite, ?_, ?_⟩
  · have hwritten : separated ", " write ["id", "", "note"] ⟨"SELECT ", ()⟩
        = ⟨"SELECT id, note", ()⟩ := by
      decide +kernel
    rw [← hwritten]
    exact (separators_stand_between_iff ", " write (unfailing write) hwrite hwrite _ _).1
  · have hwritten : trySeparated ", " tryWrite [some "id", some "", none, some "note"]
        ⟨"SELECT ", ()⟩ = (⟨"SELECT id, ", ()⟩, some ()) := by
      decide +kernel
    rw [← hwritten]
    exact (separators_stand_between_iff ", " (fun _ page => page) tryWrite
      (fun _ _ => ⟨"", String.append_empty.symm⟩) htryWrite _ _).2.1

/-- A column without a text behind the others leaves a separator behind them. -/
theorem separator_behind_last :
  separated ", " (fun item page => page.append item) ["a", ""] ⟨"", ()⟩ = ⟨"a, ", ()⟩
    ∧ joined ", " ["a", ""] = "a"
    ∧ (Style.generic.compile (.select
        { columns := [.operand (.column { name := "a" }), .operand (.raw "")] })).result
      = .ok ⟨"SELECT a, ", []⟩
  := by
  refine ⟨by decide +kernel, by decide +kernel, by decide +kernel⟩

end Page

end SqlDialect
