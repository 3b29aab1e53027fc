import Mathlib.Data.List.Basic

/-!
# Reading texts alike

Texts in parentheses and texts in a row, as they are written of expressions.  Two texts are
read alike when nothing but parentheses can make one of them start like the other: where it
does, with any parentheses in front of it and any text behind that no parenthesis opens,
there are none in front and both end at the same place.  This is kept by all the ways in
which texts are put together, and each way of it tells which parentheses both texts have.
-/

namespace SqlDialect.Text

/-! ## Texts in parentheses and in a row -/

/-- The text, in parentheses where needed. -/
def enclosed (needed : Prop) [Decidable needed] (text : List Char) : List Char :=
  if needed then '(' :: text ++ [')'] else text

/-- The texts one after the other, separated by commas except behind the empty ones. -/
def listed : List (List Char) → List Char
  | [] => []
  | [item] => item
  | item :: next :: rest => item ++ (if item = [] then [] else [',', ' ']) ++ listed (next :: rest)

theorem listed_cons_of_nil (rest : List (List Char)) :
  listed ([] :: rest) = listed rest
  := by
  cases rest <;> rfl

theorem listed_cons_cons {item : List Char} (h : item ≠ []) (next : List Char)
    (rest : List (List Char)) :
  listed (item :: next :: rest) = item ++ ',' :: ' ' :: listed (next :: rest)
  := by
  simp [listed, h]

/-! ## Parentheses in front -/

/-- No opening parenthesis stands in front. -/
def Unopened (text : List Char) : Prop := text.head? ≠ some '('

theorem unopened_nil :
  Unopened []
  := by
  simp [Unopened]

/-- How many opening parentheses stand in front. -/
def openings (text : List Char) : Nat := (text.takeWhile (· = '(')).length

theorem openings_eq_zero {text : List Char} (h : Unopened text) :
  openings text = 0
  := by
  cases text with
  | nil => rfl
  | cons c rest =>
    have hc : c ≠ '(' := by simpa [Unopened] using h
    simp [openings, hc]

/-- The same text in front does not change which of two texts has more parentheses in front. -/
theorem openings_append_le {ys zs : List Char} (xs : List Char) (h : openings ys ≤ openings zs) :
  openings (xs ++ ys) ≤ openings (xs ++ zs)
  := by
  induction xs with
  | nil => apply h
  | cons c xs ih =>
    by_cases hc : c = '('
    · subst hc
      apply Nat.succ_le_succ ih
    · simp [openings, hc]

/-- Parentheses in front of a text on one side only stand in front of what follows the text. -/
theorem eq_of_replicate_append {k : Nat} {xs ys zs : List Char}
    (h : List.replicate k '(' ++ (xs ++ ys) = xs ++ zs) :
  List.replicate k '(' ++ ys = zs
  := by
  induction xs with
  | nil => apply h
  | cons c xs ih =>
    by_cases hc : c = '('
    · subst hc
      rw [List.cons_append, List.append_cons, ← List.replicate_succ', List.replicate_succ] at h
      apply ih
      apply (List.cons.inj h).2
    · cases k with
      | zero => simpa using h
      | succ k =>
        rw [List.replicate_succ, List.cons_append, List.cons_append] at h
        cases hc (List.cons.inj h).1.symm

/-- In front of a text without parentheses in front there are no others. -/
theorem eq_zero_of_replicate_append {k : Nat} {xs ys : List Char} (hys : Unopened ys)
    (h : List.replicate k '(' ++ xs = ys) :
  k = 0 ∧ xs = ys
  := by
  cases k with
  | zero => exact ⟨rfl, h⟩
  | succ k =>
    subst h
    cases hys rfl

/-! ## Reading texts alike -/

/-- The texts are read alike: the second one has as many parentheses in front as the first one, or
more, and where it starts like the first one with others in front there are none of these, both
texts end at the same place, and the property holds. -/
structure ReadAlike (P : Prop) (xs ys : List Char) : Prop where
  openings_le : ∀ rest rest', Unopened rest → openings (xs ++ rest) ≤ openings (ys ++ rest')
  ends : ∀ (k : Nat) (rest rest' : List Char), Unopened rest → Unopened rest' →
    List.replicate k '(' ++ (xs ++ rest) = ys ++ rest' → k = 0 ∧ rest = rest' ∧ P

namespace ReadAlike

variable {P Q : Prop} {xs xs' ys ys' : List Char}

theorem imp (hPQ : P → Q) (h : ReadAlike P xs ys) :
  ReadAlike Q xs ys
  := by
  use h.openings_le
  intro k rest rest' hrest hrest' heq
  obtain ⟨hk, hrests, hP⟩ := h.ends k rest rest' hrest hrest' heq
  exact ⟨hk, hrests, hPQ hP⟩

/-- The same text is read alike. -/
theorem refl (xs : List Char) :
  ReadAlike True xs xs
  := by
  constructor
  · intro rest rest' hrest
    apply openings_append_le
    rw [openings_eq_zero hrest]
    apply Nat.zero_le
  · intro k rest rest' _ hrest' heq
    obtain ⟨hk, hrests⟩ := eq_zero_of_replicate_append hrest' (eq_of_replicate_append heq)
    exact ⟨hk, hrests, trivial⟩

/-- The same text may stand in front. -/
theorem prepend (text : List Char) (h : ReadAlike P xs ys) :
  ReadAlike P (text ++ xs) (text ++ ys)
  := by
  constructor
  · intro rest rest' hrest
    rw [List.append_assoc, List.append_assoc]
    apply openings_append_le _ (h.openings_le rest rest' hrest)
  · intro k rest rest' hrest hrest' heq
    rw [List.append_assoc, List.append_assoc] at heq
    apply h.ends k rest rest' hrest hrest' (eq_of_replicate_append heq)

/-- Texts without a parenthesis in front may stand behind. -/
theorem append (h : ReadAlike P xs ys) (h' : ReadAlike Q xs' ys')
    (hxs : ∀ rest, Unopened (xs' ++ rest)) (hys : ∀ rest, Unopened (ys' ++ rest)) :
  ReadAlike (P ∧ Q) (xs ++ xs') (ys ++ ys')
  := by
  constructor
  · intro rest rest' _
    rw [List.append_assoc, List.append_assoc]
    apply h.openings_le _ _ (hxs rest)
  · intro k rest rest' hrest hrest' heq
    rw [List.append_assoc, List.append_assoc] at heq
    obtain ⟨hk, hbehind, hP⟩ := h.ends k _ _ (hxs rest) (hys rest') heq
    obtain ⟨-, hrests, hQ⟩ := h'.ends 0 rest rest' hrest hrest' hbehind
    exact ⟨hk, hrests, hP, hQ⟩

/-- Where one text starts like the other one, each in parentheses where needed, they are put in
parentheses alike. -/
theorem ends_enclosed {needed needed' : Prop} [Decidable needed] [Decidable needed']
    (h : ReadAlike P xs ys) {k : Nat} {rest rest' : List Char} (hrest : Unopened rest)
    (hrest' : Unopened rest') (hk : k = 0 ∨ rest.head? ≠ some ')')
    (heq : List.replicate k '(' ++ (enclosed needed xs ++ rest) = enclosed needed' ys ++ rest') :
  k = 0 ∧ rest = rest' ∧ (needed ↔ needed') ∧ P
  := by
  have hclosing : ∀ rest, Unopened (')' :: rest) := by simp [Unopened]
  have hinside : ∀ text rest : List Char, '(' :: text ++ [')'] ++ rest
      = ['('] ++ (text ++ ')' :: rest) := by simp
  by_cases hn : needed
  · rw [enclosed, if_pos hn, hinside] at heq
    by_cases hn' : needed'
    · rw [enclosed, if_pos hn', hinside] at heq
      obtain ⟨hzero, hrests, hP⟩ :=
        h.ends k _ _ (hclosing rest) (hclosing rest') (eq_of_replicate_append heq)
      exact ⟨hzero, (List.cons.inj hrests).2, iff_of_true hn hn', hP⟩
    -- The parenthesis of the first text alone would be one more in front of the second one.
    · rw [enclosed, if_neg hn', ← List.append_assoc, ← List.replicate_succ'] at heq
      obtain ⟨hzero, -⟩ := h.ends _ _ _ (hclosing rest) hrest' heq
      cases hzero
  · rw [enclosed, if_neg hn] at heq
    by_cases hn' : needed'
    -- The parenthesis of the second text alone either has none to match, or is matched by one in
    -- front of the first text, and then only the second one is closed behind.
    · rw [enclosed, if_pos hn', hinside] at heq
      cases k with
      | zero =>
        have hle := h.openings_le rest (')' :: rest') hrest
        have hlt : openings (xs ++ rest) = openings (ys ++ ')' :: rest') + 1 :=
          congrArg openings heq
        omega
      | succ k =>
        rw [List.replicate_succ] at heq
        obtain ⟨-, hrests, -⟩ := h.ends k _ _ hrest (hclosing rest') (List.cons.inj heq).2
        simp [hrests] at hk
    · rw [enclosed, if_neg hn'] at heq
      obtain ⟨hzero, hrests, hP⟩ := h.ends k _ _ hrest hrest' heq
      exact ⟨hzero, hrests, iff_of_false hn hn', hP⟩

/-- Behind the text of an operator. -/
theorem behind {needed needed' : Prop} [Decidable needed] [Decidable needed']
    (h : ReadAlike P xs ys) {text : List Char} (htext : ∀ rest, Unopened (text ++ rest)) :
  ReadAlike ((needed ↔ needed') ∧ P) (text ++ enclosed needed xs) (text ++ enclosed needed' ys)
  := by
  constructor
  · intro rest rest' _
    rw [List.append_assoc, openings_eq_zero (htext _)]
    apply Nat.zero_le
  · intro k rest rest' hrest hrest' heq
    rw [List.append_assoc, List.append_assoc] at heq
    obtain ⟨rfl, hsame⟩ := eq_zero_of_replicate_append (htext _) heq
    apply h.ends_enclosed hrest hrest' (.inl rfl) (List.append_cancel_left hsame)

/-- In front of something that has no parenthesis in front, when the second text is put in
parentheses wherever the first one is. -/
theorem before {needed needed' : Prop} [Decidable needed] [Decidable needed']
    (h : ReadAlike P xs ys) (h' : ReadAlike Q xs' ys') (hneeded : needed → needed')
    (hxs : ∀ rest, Unopened (xs' ++ rest) ∧ (xs' ++ rest).head? ≠ some ')')
    (hys : ∀ rest, Unopened (ys' ++ rest)) :
  ReadAlike ((needed ↔ needed') ∧ P ∧ Q) (enclosed needed xs ++ xs') (enclosed needed' ys ++ ys')
  := by
  constructor
  · intro rest rest' _
    obtain ⟨hrest, -⟩ := hxs rest
    rw [List.append_assoc, List.append_assoc]
    by_cases hn : needed
    · rw [enclosed, if_pos hn, enclosed, if_pos (hneeded hn), List.cons_append, List.cons_append,
        List.append_assoc, List.append_assoc]
      apply Nat.succ_le_succ
      apply h.openings_le
      simp [Unopened]
    · rw [enclosed, if_neg hn, enclosed]
      split
      · rw [List.cons_append, List.cons_append, List.append_assoc]
        apply Nat.le_succ_of_le
        apply h.openings_le _ _ hrest
      · apply h.openings_le _ _ hrest
  · intro k rest rest' hrest hrest' heq
    rw [List.append_assoc, List.append_assoc] at heq
    obtain ⟨hk, hbehind, hneeds, hP⟩ :=
      h.ends_enclosed (hxs rest).1 (hys rest') (.inr (hxs rest).2) heq
    obtain ⟨-, hrests, hQ⟩ := h'.ends 0 rest rest' hrest hrest' hbehind
    exact ⟨hk, hrests, hneeds, hP, hQ⟩

/-- Texts in a row are read alike when each of them is. -/
theorem row {α : Type} {P : α → Prop} {f g : α → List Char} {items : List α}
    (hnil : ∀ x ∈ items, f x = [] ↔ g x = []) (h : ∀ x ∈ items, ReadAlike (P x) (f x) (g x)) :
  ReadAlike (∀ x ∈ items, P x) (listed (items.map f) ++ [')']) (listed (items.map g) ++ [')'])
  := by
  have hclosing : ∀ rest, Unopened ([')'] ++ rest) := by simp [Unopened]
  have hcomma : ∀ text rest, Unopened ([',', ' '] ++ text ++ rest) := by simp [Unopened]
  induction items with
  | nil => apply (refl [')']).imp (fun _ => by simp)
  | cons x rest ih =>
    obtain ⟨hnilx, hnil⟩ := List.forall_mem_cons.mp hnil
    obtain ⟨hx, hrest⟩ := List.forall_mem_cons.mp h
    rw [List.forall_mem_cons]
    cases rest with
    | nil =>
      apply (hx.append (refl [')']) hclosing hclosing).imp
      simp
    | cons y rest =>
      specialize ih hnil hrest
      simp only [List.map_cons] at ih ⊢
      by_cases hempty : f x = []
      · have hempty' := hnilx.mp hempty
        rw [hempty, hempty', listed_cons_of_nil, listed_cons_of_nil]
        apply ih.imp
        intro hP
        have hsame : List.replicate 0 '(' ++ (f x ++ []) = g x ++ [] := by
          rw [hempty, hempty']
          rfl
        obtain ⟨-, -, hPx⟩ := hx.ends 0 [] [] unopened_nil unopened_nil hsame
        exact ⟨hPx, hP⟩
      · rw [listed_cons_cons hempty, listed_cons_cons (mt hnilx.mpr hempty), List.append_assoc,
          List.append_assoc]
        apply hx.append (ih.prepend [',', ' ']) (hcomma _) (hcomma _)

end ReadAlike

/-! ## Weights -/

/-- How many characters other than parentheses there are. -/
def weight (text : List Char) : Nat := text.countP fun c => c ≠ '(' ∧ c ≠ ')'

@[simp]
theorem weight_append (xs ys : List Char) :
  weight (xs ++ ys) = weight xs + weight ys
  := List.countP_append

@[simp]
theorem weight_opening (text : List Char) :
  weight ('(' :: text) = weight text
  := rfl

theorem weight_enclosed {needed : Prop} [Decidable needed] (text : List Char) :
  weight (enclosed needed text) = weight text
  := by
  rw [enclosed]
  split
  · rw [weight_append]
    simp [weight]
  · rfl

theorem weight_listed_cons (item next : List Char) (rest : List (List Char)) :
  weight (listed (item :: next :: rest))
    = weight item + (if item = [] then 0 else 2) + weight (listed (next :: rest))
  := by
  rw [listed, weight_append, weight_append]
  split <;> rfl

/-- Shorter texts in a row weigh less, unless each of them weighs as much. -/
theorem weight_listed_le {α : Type} {long short : α → List Char} {items : List α}
    (hnil : ∀ x ∈ items, long x = [] → short x = [])
    (hle : ∀ x ∈ items, weight (short x) ≤ weight (long x)) :
  weight (listed (items.map short)) ≤ weight (listed (items.map long))
    ∧ (weight (listed (items.map long)) ≤ weight (listed (items.map short)) →
      ∀ x ∈ items, weight (long x) ≤ weight (short x))
  := by
  induction items with
  | nil => simp
  | cons x rest ih =>
    obtain ⟨hnilx, hnil⟩ := List.forall_mem_cons.mp hnil
    obtain ⟨hlex, hle⟩ := List.forall_mem_cons.mp hle
    obtain ⟨ihle, iheq⟩ := ih hnil hle
    rw [List.forall_mem_cons]
    cases rest with
    | nil => simpa [listed] using hlex
    | cons y rest =>
      have hgap : (if short x = [] then 0 else 2) ≤ if long x = [] then 0 else 2 := by
        by_cases hlong : long x = []
        · simp [hlong, hnilx hlong]
        · rw [if_neg hlong]
          split <;> simp
      simp only [List.map_cons, weight_listed_cons] at ihle iheq ⊢
      use by omega
      intro h
      use by omega
      apply iheq (by omega)

end SqlDialect.Text
