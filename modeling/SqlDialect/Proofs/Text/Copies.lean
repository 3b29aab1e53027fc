import Mathlib.Algebra.Group.Even
import SqlDialect.Text.Bytes
import SqlDialect.Proofs.Text.Scan

/-!
# Copies with replacements

A text can be cut at a position just when the characters in front of it take that many bytes.  The
copying loop only cuts at such positions, whatever characters the text has, and what it appends is
the text with each occurrence of the searched character replaced.  When the replacement is the
character twice, undoubling gives the text back, and the runs of the character have even length.
-/

namespace SqlDialect.Text

/-! ## Cutting -/

@[simp]
theorem byteLength_nil :
  byteLength [] = 0
  := rfl

@[simp]
theorem byteLength_cons (c : Char) (text : List Char) :
  byteLength (c :: text) = c.utf8Size + byteLength text
  := rfl

@[simp]
theorem byteLength_append (xs ys : List Char) :
  byteLength (xs ++ ys) = byteLength xs + byteLength ys
  := by
  induction xs with
  | nil => rw [List.nil_append, byteLength_nil, Nat.zero_add]
  | cons c rest ih => rw [List.cons_append, byteLength_cons, ih, byteLength_cons, Nat.add_assoc]

/-- A text is cut behind its first characters. -/
theorem splitAt?_byteLength (front back : List Char) :
  splitAt? (byteLength front) (front ++ back) = some (front, back)
  := by
  induction front with
  | nil => cases back <;> rfl
  | cons c front ih =>
    have hsize : 0 < c.utf8Size := c.utf8Size_pos
    obtain ⟨position, hposition⟩ : ∃ position, byteLength (c :: front) = position + 1 := by
      use byteLength (c :: front) - 1
      rw [byteLength_cons]
      omega
    have hfits : c.utf8Size ≤ position + 1 := by
      rw [← hposition, byteLength_cons]
      apply Nat.le_add_right
    have hrest : position + 1 - c.utf8Size = byteLength front := by
      rw [← hposition, byteLength_cons, Nat.add_sub_cancel_left]
    rw [hposition, List.cons_append, splitAt?, if_pos hfits, hrest, ih]
    rfl

/-- A text that can be cut at a position has characters in front of it that fill it exactly. -/
theorem splitAt?_eq_some_iff {position : Nat} {text front back : List Char} :
  splitAt? position text = some (front, back)
    ↔ text = front ++ back ∧ byteLength front = position
  := by
  constructor
  · intro h
    induction text generalizing position front with
    | nil =>
      cases position with
      | zero =>
        cases h
        exact ⟨rfl, rfl⟩
      | succ position => cases h
    | cons c rest ih =>
      cases position with
      | zero =>
        cases h
        exact ⟨rfl, rfl⟩
      | succ position =>
        rw [splitAt?] at h
        split at h
        next hfits =>
          obtain ⟨⟨front, back⟩, hsplit, hparts⟩ := Option.map_eq_some_iff.mp h
          cases hparts
          obtain ⟨rfl, hlength⟩ := ih hsplit
          refine ⟨rfl, ?_⟩
          rw [byteLength_cons, hlength]
          omega
        next => cases h
  · rintro ⟨rfl, rfl⟩
    apply splitAt?_byteLength

/-- A part can be cut out between two positions just when characters fill both of them. -/
theorem slice?_eq_some_iff {start stop : Nat} {text part : List Char} :
  slice? start stop text = some part
    ↔ ∃ front back, text = front ++ part ++ back ∧ byteLength front = start
      ∧ byteLength (front ++ part) = stop
  := by
  constructor
  · intro h
    obtain ⟨⟨upTo, back⟩, hstop, h⟩ := Option.bind_eq_some_iff.mp h
    obtain ⟨⟨front, part'⟩, hstart, hpart⟩ := Option.bind_eq_some_iff.mp h
    cases hpart
    obtain ⟨rfl, hlength⟩ := splitAt?_eq_some_iff.mp hstop
    obtain ⟨rfl, hfront⟩ := splitAt?_eq_some_iff.mp hstart
    exact ⟨front, back, rfl, hfront, hlength⟩
  · rintro ⟨front, back, rfl, rfl, rfl⟩
    rw [slice?, splitAt?_byteLength]
    dsimp only [Option.bind_eq_bind, Option.bind_some]
    rw [splitAt?_byteLength]
    rfl

/-! ## Copying -/

section

variable (search : Char) (replacement : List Char)

theorem substitute_cons_self (text : List Char) :
  substitute search replacement (search :: text)
    = replacement ++ substitute search replacement text
  := by
  simp [substitute]

theorem substitute_cons_of_ne {c : Char} (h : c ≠ search) (text : List Char) :
  substitute search replacement (c :: text) = c :: substitute search replacement text
  := by
  simp [substitute, h]

/-- Behind the part of the text that is in the copy stands what has been searched but not copied
yet; the loop appends it and the rest with the replacements. -/
theorem copyFrom?_placedFrom (copied pending remaining out : List Char) :
  copyFrom? search replacement (copied ++ pending ++ remaining) (byteLength copied)
      (placedFrom (byteLength (copied ++ pending)) remaining) out
    = some (out ++ pending ++ substitute search replacement remaining)
  := by
  induction remaining generalizing copied pending out with
  | nil =>
    have hpart : slice? (byteLength copied) (byteLength (copied ++ pending ++ []))
        (copied ++ pending ++ []) = some pending :=
      slice?_eq_some_iff.mpr ⟨copied, [], rfl, rfl, by rw [List.append_nil]⟩
    rw [placedFrom, copyFrom?, hpart]
    simp [substitute]
  | cons c remaining ih =>
    rw [placedFrom, copyFrom?]
    split
    next hc =>
      have hpart : slice? (byteLength copied) (byteLength (copied ++ pending))
          (copied ++ pending ++ c :: remaining) = some pending :=
        slice?_eq_some_iff.mpr ⟨copied, c :: remaining, rfl, rfl, rfl⟩
      have hrest := ih (copied ++ pending ++ [c]) [] (out ++ pending ++ replacement)
      rw [List.append_nil, List.append_nil, byteLength_append _ [c], byteLength_cons,
        byteLength_nil, Nat.add_zero, List.append_assoc _ [c], List.singleton_append] at hrest
      subst hc
      rw [hpart, substitute_cons_self, ← List.append_assoc]
      exact hrest
    next hc =>
      have hrest := ih copied (pending ++ [c]) out
      rw [← List.append_assoc, byteLength_append _ [c], byteLength_cons, byteLength_nil,
        Nat.add_zero, List.append_assoc _ [c], List.singleton_append] at hrest
      rw [hrest, substitute_cons_of_ne search replacement hc]
      simp

theorem copyReplacing?_eq (text out : List Char) :
  copyReplacing? search replacement text out = some (out ++ substitute search replacement text)
  := by
  have hcopy := copyFrom?_placedFrom search replacement [] [] text out
  rw [List.append_nil out] at hcopy
  exact hcopy

end

/-! ## Runs -/

theorem getLast?_ne_of_cons {α : Type} {a x : α} {xs : List α}
    (h : (x :: xs).getLast? ≠ some a) :
  xs.getLast? ≠ some a
  := by
  intro hlast
  apply h
  rw [List.getLast?_cons, hlast]
  rfl

section

variable {mark : Char}

/-- What stands behind a front that does not end with a mark has its marks doubled too. -/
theorem exists_double_of_append {text front back : List Char}
    (h : double mark text = front ++ back) (hfront : front.getLast? ≠ some mark) :
  ∃ behind, back = double mark behind
  := by
  induction text generalizing front with
  | nil =>
    obtain ⟨-, rfl⟩ := List.nil_eq_append_iff.mp h
    use []
    rfl
  | cons c rest ih =>
    cases front with
    | nil => exact ⟨c :: rest, h.symm⟩
    | cons f front =>
      by_cases hc : c = mark
      · subst hc
        rw [double_cons_self, List.cons_append] at h
        obtain ⟨rfl, htwin⟩ := List.cons.inj h
        cases front with
        | nil =>
          -- A front that ends between the two marks ends with a mark.
          exact absurd rfl hfront
        | cons g front =>
          exact ih (List.cons.inj htwin).2 (getLast?_ne_of_cons (getLast?_ne_of_cons hfront))
      · rw [double_cons_of_ne hc, List.cons_append] at h
        exact ih (List.cons.inj h).2 (getLast?_ne_of_cons hfront)

/-- Where marks are doubled their number at the start is even. -/
theorem even_of_double_eq {text back : List Char} {count : Nat}
    (h : double mark text = List.replicate count mark ++ back) (hback : back.head? ≠ some mark) :
  Even count
  := by
  induction text generalizing count with
  | nil =>
    obtain ⟨hnone, -⟩ := List.nil_eq_append_iff.mp h
    obtain rfl : count = 0 := by simpa using hnone
    exact ⟨0, rfl⟩
  | cons c rest ih =>
    by_cases hc : c = mark
    · subst hc
      rw [double_cons_self] at h
      match count with
      | 0 => exact ⟨0, rfl⟩
      | 1 =>
        -- The second mark of the pair goes on behind the run.
        obtain rfl := (List.cons.inj h).2
        exact absurd rfl hback
      | count + 2 =>
        obtain ⟨half, rfl⟩ := ih (List.cons.inj (List.cons.inj h).2).2
        exact ⟨half + 1, by omega⟩
    · rw [double_cons_of_ne hc] at h
      match count with
      | 0 => exact ⟨0, rfl⟩
      | count + 1 => exact absurd (List.cons.inj h).1 hc

end

/-- The copying loop cuts the text only at the positions of its characters and appends it with the
replacements.  With a mark in front and behind, and the marks doubled, this is the quoted token;
undoubling gives the text back, and no run of marks in it has odd length. -/
theorem copies_substitute (search : Char) (replacement text out : List Char) :
  copyReplacing? search replacement text out
      = some (out ++ text.flatMap fun c => if c = search then replacement else [c])
    ∧ (∀ start stop part, slice? start stop text = some part
      ↔ ∃ front back, text = front ++ part ++ back ∧ byteLength front = start
        ∧ byteLength (front ++ part) = stop)
    ∧ ((copyReplacing? search [search, search] text (out ++ [search])).map (· ++ [search])
      = some (out ++ quote search text))
    ∧ ∃ doubled, copyReplacing? search [search, search] text out = some (out ++ doubled)
      ∧ undouble? search doubled = some text
      ∧ ∀ front count back, doubled = front ++ (List.replicate count search ++ back) →
        front.getLast? ≠ some search → back.head? ≠ some search → Even count
  := by
  refine ⟨copyReplacing?_eq .., fun _ _ _ => slice?_eq_some_iff, ?_, double search text, ?_, ?_, ?_⟩
  · rw [copyReplacing?_eq, quote, double]
    simp
  · apply copyReplacing?_eq
  · apply undouble?_double
  · intro front count back h hfront hback
    obtain ⟨behind, hbehind⟩ := exists_double_of_append h hfront
    exact even_of_double_eq hbehind.symm hback

/-- Two marks in a row that take four bytes each. -/
theorem copies_substitute_faces :
  copyReplacing? '😀' ['😀', '😀'] "a😀😀b".toList "SELECT ".toList
      = some "SELECT a😀😀😀😀b".toList
    ∧ undouble? '😀' "a😀😀😀😀b".toList = some "a😀😀b".toList
    ∧ Even 4
  := by
  obtain ⟨-, -, -, doubled, hcopy, hundouble, heven⟩ :=
    copies_substitute '😀' [] "a😀😀b".toList "SELECT ".toList
  have hwritten : copyReplacing? '😀' ['😀', '😀'] "a😀😀b".toList "SELECT ".toList
      = some ("SELECT ".toList ++ "a😀😀😀😀b".toList) := by
    decide +kernel
  obtain rfl : "a😀😀😀😀b".toList = doubled :=
    List.append_cancel_left (Option.some.inj (hwritten.symm.trans hcopy))
  exact ⟨hwritten, hundouble, heven ['a'] 4 ['b'] (by decide) (by decide) (by decide)⟩

end SqlDialect.Text
