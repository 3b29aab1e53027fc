import Mathlib.Data.List.TakeWhile
import SqlDialect.Identifier
import SqlDialect.Text.Basic

/-!
# Chunks of texts, and blanks around and between words

The chunks of a text are the runs of characters between those that part it.  What parts chunks
belongs to none of them, so it makes no difference at either end of a text.  Trimming takes away
the blanks around a text that neither begins nor ends with one, and leaves such a text of any
text.  The words of a text are parted by any of its blanks.
-/

namespace SqlDialect.Text

/-! ## Chunks -/

/-- The maximal runs of characters that are not among those that part them, in order. -/
def chunks (parting : Char → Bool) (text : List Char) : List (List Char) :=
  (text.splitOnP parting).filter fun chunk => !chunk.isEmpty

section

variable {parting : Char → Bool}

/-- A text that nothing parts is one chunk. -/
theorem chunks_of_solid {chunk : List Char} (hne : chunk ≠ [])
    (h : ∀ c ∈ chunk, parting c = false) :
  chunks parting chunk = [chunk]
  := by
  rw [chunks, List.splitOnP_eq_singleton h]
  simp [hne]

theorem chunks_append_cons {c : Char} (hc : parting c) (front back : List Char) :
  chunks parting (front ++ c :: back) = chunks parting front ++ chunks parting back
  := by
  rw [chunks, List.splitOnP_append_cons _ _ hc, List.filter_append]
  rfl

variable {gap : List Char} (h : ∀ c ∈ gap, parting c)

include h in
/-- What parts chunks is no part of them in front of a text. -/
theorem chunks_gap_append (back : List Char) :
  chunks parting (gap ++ back) = chunks parting back
  := by
  induction gap with
  | nil => rfl
  | cons c rest ih =>
    obtain ⟨hc, hrest⟩ := List.forall_mem_cons.mp h
    have hcons := chunks_append_cons hc [] (rest ++ back)
    rw [List.cons_append]
    rw [ih hrest] at hcons
    apply hcons

include h in
/-- What parts chunks is no part of them behind a text. -/
theorem chunks_append_gap (front : List Char) :
  chunks parting (front ++ gap) = chunks parting front
  := by
  cases gap with
  | nil => rw [List.append_nil]
  | cons c rest =>
    obtain ⟨hc, hrest⟩ := List.forall_mem_cons.mp h
    have hnone : chunks parting rest = [] := by
      have hgap := chunks_gap_append hrest []
      rwa [List.append_nil] at hgap
    rw [chunks_append_cons hc, hnone, List.append_nil]

end

theorem trim_eq_nil_iff (text : List Char) :
  trim text = [] ↔ ∀ c ∈ text, isBlank c
  := by
  rw [trim, trimEnd, trimStart, List.reverse_eq_nil_iff, List.dropWhile_eq_nil_iff]
  simp only [List.mem_reverse]
  constructor
  · intro h c hc
    rw [← List.takeWhile_append_dropWhile (p := isBlank) (l := text)] at hc
    obtain hc | hc := List.mem_append.mp hc
    · apply List.mem_takeWhile_imp hc
    · apply h c hc
  · intro h c hc
    apply h c (List.dropWhile_subset _ hc)

theorem isBlank_of_isDigit {c : Char} (h : c.isDigit) :
  isBlank c = false
  := by
  rw [Char.isDigit, Bool.and_eq_true, decide_eq_true_eq, decide_eq_true_eq] at h
  have hlow : 48 ≤ c.toNat := h.1
  have hhigh : c.toNat ≤ 57 := h.2
  simp [isBlank, blankRanges]
  omega

theorem isBlank_of_isAnyWord {c : Char} (h : isAnyWord c) :
  isBlank c = false
  := by
  have hranges : ∀ low high : Nat, 33 ≤ low → high ≤ 122 → low ≤ c.toNat → c.toNat ≤ high →
      isBlank c = false := by
    intro low high _ _ _ _
    simp [isBlank, blankRanges]
    omega
  have hword : isAnyWord c = (decide ('A'.val ≤ c.val ∧ c.val ≤ 'Z'.val)
    || 'a'.val ≤ c.val && c.val ≤ 'z'.val || '0'.val ≤ c.val && c.val ≤ '9'.val
    || decide (c = '_')) := rfl
  rw [hword] at h
  simp only [Bool.or_eq_true, Bool.and_eq_true, decide_eq_true_eq] at h
  obtain ((⟨hlow, hhigh⟩ | ⟨hlow, hhigh⟩) | ⟨hlow, hhigh⟩) | rfl := h
  · apply hranges 65 90 (by decide) (by decide) hlow hhigh
  · apply hranges 97 122 (by decide) (by decide) hlow hhigh
  · apply hranges 48 57 (by decide) (by decide) hlow hhigh
  · decide

/-- Nothing but blanks. -/
def IsGap (gap : List Char) : Prop :=
  ∀ c ∈ gap, isBlank c

theorem IsGap.append {gap gap' : List Char} (h : IsGap gap) (h' : IsGap gap') :
  IsGap (gap ++ gap')
  := List.forall_mem_append.mpr ⟨h, h'⟩

/-! ## Trimming -/

section

variable {gap gap' text : List Char} (hgap : IsGap gap) (hgap' : IsGap gap')
  (hfirst : ∀ c ∈ text.head?, isBlank c = false) (hlast : ∀ c ∈ text.getLast?, isBlank c = false)

include hgap' hlast in
theorem trimEnd_append :
  trimEnd (text ++ gap') = text
  := by
  have hreverse : text.reverse.dropWhile isBlank = text.reverse := by
    rw [← List.head?_reverse] at hlast
    cases htext : text.reverse with
    | nil => rfl
    | cons c rest =>
      rw [htext] at hlast
      apply List.dropWhile_cons_of_neg
      simp [hlast c rfl]
  have hback : ∀ c ∈ gap'.reverse, isBlank c := fun c hc => hgap' c (List.mem_reverse.mp hc)
  rw [trimEnd, List.reverse_append, List.dropWhile_append_of_pos hback, hreverse,
    List.reverse_reverse]

include hgap hgap' hfirst hlast in
/-- Trimming takes the blanks around a text away. -/
theorem trim_append_append :
  trim (gap ++ (text ++ gap')) = text
  := by
  rw [trim, trimStart, List.dropWhile_append_of_pos hgap]
  cases text with
  | nil =>
    rw [List.nil_append, List.dropWhile_eq_nil_iff.mpr hgap']
    rfl
  | cons c rest =>
    rw [List.cons_append, List.dropWhile_cons_of_neg (by simp [hfirst c rfl])]
    apply trimEnd_append hgap' hlast

end

theorem eq_false_of_mem_head?_dropWhile {p : Char → Bool} {text : List Char} {c : Char}
    (h : c ∈ (text.dropWhile p).head?) :
  p c = false
  := by
  have hhead := List.head?_dropWhile_not p text
  rwa [Option.mem_def.mp h] at hhead

theorem isGap_takeWhile (text : List Char) :
  IsGap (text.takeWhile isBlank)
  := fun _ hc => List.mem_takeWhile_imp hc

/-- A text is what is left of it when its end is trimmed, before blanks. -/
theorem exists_trimEnd_append (text : List Char) :
  ∃ gap, IsGap gap ∧ trimEnd text ++ gap = text
    ∧ ∀ c ∈ (trimEnd text).getLast?, isBlank c = false
  := by
  refine ⟨(text.reverse.takeWhile isBlank).reverse, ?_, ?_, ?_⟩
  · intro c hc
    apply isGap_takeWhile _ c (List.mem_reverse.mp hc)
  · rw [trimEnd, ← List.reverse_append, List.takeWhile_append_dropWhile, List.reverse_reverse]
  · intro c hc
    rw [trimEnd, List.getLast?_reverse] at hc
    apply eq_false_of_mem_head?_dropWhile hc

theorem trimEnd_trimEnd (text : List Char) :
  trimEnd (trimEnd text) = trimEnd text
  := by
  obtain ⟨gap, -, -, hlast⟩ := exists_trimEnd_append text
  have hempty : IsGap [] := by simp [IsGap]
  have htrim := trimEnd_append hempty hlast
  rwa [List.append_nil] at htrim

/-- A text is what is left of it when it is trimmed, between blanks. -/
theorem exists_append_trim_append (text : List Char) :
  ∃ gap gap', IsGap gap ∧ IsGap gap' ∧ gap ++ (trim text ++ gap') = text
    ∧ (∀ c ∈ (trim text).head?, isBlank c = false) ∧ ∀ c ∈ (trim text).getLast?, isBlank c = false
  := by
  obtain ⟨gap', hgap', htext, hlast⟩ := exists_trimEnd_append (trimStart text)
  refine ⟨text.takeWhile isBlank, gap', isGap_takeWhile text, hgap', ?_, ?_, hlast⟩
  · rw [trim, htext, trimStart, List.takeWhile_append_dropWhile]
  · intro c hc
    have hhead : c ∈ (trimStart text).head? := by
      rw [trim, Option.mem_def] at hc
      rw [← htext, List.head?_append, hc]
      rfl
    apply eq_false_of_mem_head?_dropWhile hhead

/-! ## Words -/

/-- A text without blanks is one word. -/
theorem words_of_solid {word : List Char} (hne : word ≠ []) (h : ∀ c ∈ word, isBlank c = false) :
  words word = [word]
  := chunks_of_solid hne h

theorem words_append_cons {c : Char} (hc : isBlank c) (front back : List Char) :
  words (front ++ c :: back) = words front ++ words back
  := chunks_append_cons hc front back

/-- Blanks in front of a text are no part of its words. -/
theorem words_gap_append {gap : List Char} (h : IsGap gap) (back : List Char) :
  words (gap ++ back) = words back
  := chunks_gap_append h back

/-- Words are parted by blanks. -/
theorem words_append_gap_append {gap : List Char} (hne : gap ≠ []) (h : IsGap gap)
    (front back : List Char) :
  words (front ++ (gap ++ back)) = words front ++ words back
  := by
  obtain ⟨c, rest, rfl⟩ := List.exists_cons_of_ne_nil hne
  obtain ⟨hc, hrest⟩ := List.forall_mem_cons.mp h
  rw [List.cons_append, words_append_cons hc, words_gap_append hrest]

/-- There are no blanks in words. -/
theorem isBlank_of_mem_words {text word : List Char} (h : word ∈ words text) :
  ∀ c ∈ word, isBlank c = false
  := by
  replace h := (List.mem_filter.mp h).1
  induction text generalizing word with
  | nil => simp_all
  | cons c rest ih =>
    rw [List.splitOnP_cons_eq_if_modifyHead] at h
    split at h
    · obtain rfl | h := List.mem_cons.mp h
      · simp
      · apply ih h
    next hc =>
      obtain ⟨first, others, hsplit⟩ :=
        List.exists_cons_of_ne_nil (List.splitOnP_ne_nil isBlank rest)
      rw [hsplit] at h ih
      obtain rfl | h := List.mem_cons.mp h
      · rw [Bool.not_eq_true] at hc
        exact List.forall_mem_cons.mpr ⟨hc, ih List.mem_cons_self⟩
      · apply ih (List.mem_cons_of_mem _ h)

/-- A text that does not begin with a blank consists of its first word and, behind blanks, of its
other words. -/
theorem exists_word {text : List Char} (hne : text ≠ [])
    (hfirst : ∀ c ∈ text.head?, isBlank c = false) :
  ∃ word gap rest, text = word ++ (gap ++ rest) ∧ IsGap gap ∧ (gap = [] → rest = [])
    ∧ (∀ c ∈ rest.head?, isBlank c = false) ∧ words text = word :: words rest
  := by
  let solid : Char → Bool := fun c => !isBlank c
  have hsolid : ∀ c ∈ text.takeWhile solid, isBlank c = false := by
    intro c hc
    simpa [solid] using List.mem_takeWhile_imp hc
  have hword : text.takeWhile solid ≠ [] := by
    obtain ⟨c, others, rfl⟩ := List.exists_cons_of_ne_nil hne
    simp [solid, hfirst c rfl]
  cases hbehind : text.dropWhile solid with
  | nil =>
    have htext : text.takeWhile solid = text := by
      rw [← List.append_nil (text.takeWhile solid), ← hbehind, List.takeWhile_append_dropWhile]
    rw [htext] at hsolid
    exact ⟨text, [], [], by simp, by simp [IsGap], by simp, by simp, words_of_solid hne hsolid⟩
  | cons d others =>
    have hhead : d ∈ (text.dropWhile solid).head? := by
      rw [hbehind]
      rfl
    have hd : isBlank d := by
      simpa [solid] using eq_false_of_mem_head?_dropWhile hhead
    have hgap : (d :: others).takeWhile isBlank ≠ [] := by simp [hd]
    have htext : text.takeWhile solid
        ++ ((d :: others).takeWhile isBlank ++ (d :: others).dropWhile isBlank) = text := by
      rw [List.takeWhile_append_dropWhile, ← hbehind, List.takeWhile_append_dropWhile]
    refine ⟨_, _, _, htext.symm, isGap_takeWhile _, (absurd · hgap),
      fun c => eq_false_of_mem_head?_dropWhile, ?_⟩
    rw [← htext, words_append_gap_append hgap (isGap_takeWhile _), htext,
      words_of_solid hword hsolid]
    rfl

end SqlDialect.Text
