import SqlDialect.Proofs.Text.Blanks
import SqlDialect.Proofs.Text.Copies
import SqlDialect.Render.Compile

/-!
# Excerpts within their limit

The beginnings of a text that keep to a limit in bytes are just those of the longest one that does.
No character takes more than four bytes, so this one falls short of the limit by at most three when
the text goes on.  The search for the cut ends behind it, whatever characters the text has, and the
excerpt shows it without the blanks at its end, in at most 500 bytes.
-/

namespace SqlDialect

namespace Text

/-! ## Bytes -/

/-- A text has as many bytes as its characters. -/
theorem utf8ByteSize_ofList (text : List Char) :
  (String.ofList text).utf8ByteSize = byteLength text
  := by
  induction text with
  | nil => rfl
  | cons c rest ih =>
    rw [← List.singleton_append, String.ofList_append, String.utf8ByteSize_append, ih,
      ← String.singleton_eq_ofList, String.utf8ByteSize_singleton]
    rfl

/-- The characters of a text have as many bytes as the text. -/
theorem byteLength_toList (s : String) :
  byteLength s.toList = s.utf8ByteSize
  := by
  rw [← utf8ByteSize_ofList, String.ofList_toList]

section

variable {text front : List Char}

/-- A beginning has no more bytes than the text. -/
theorem byteLength_le_of_isPrefix (h : front <+: text) :
  byteLength front ≤ byteLength text
  := by
  obtain ⟨back, rfl⟩ := h
  rw [byteLength_append]
  apply Nat.le_add_right

/-- A beginning takes fewer bytes just when something is missing. -/
theorem byteLength_lt_iff_of_isPrefix (h : front <+: text) :
  byteLength front < byteLength text ↔ front ≠ text
  := by
  obtain ⟨back, rfl⟩ := h
  cases back with
  | nil => simp
  | cons c back =>
    have hsize : 0 < c.utf8Size := c.utf8Size_pos
    simp
    omega

/-- A beginning is shorter just when it is not the whole text. -/
theorem length_lt_iff_of_isPrefix (h : front <+: text) :
  front.length < text.length ↔ front ≠ text
  := by
  obtain ⟨back, rfl⟩ := h
  simp [List.length_pos_iff]

end

/-! ## The longest beginning -/

section

variable {limit : Nat} {text front : List Char}

/-- The beginnings of the text that keep to the limit are those of the longest one that does. -/
theorem isPrefix_takeBytes_iff :
  front <+: takeBytes limit text ↔ front <+: text ∧ byteLength front ≤ limit
  := by
  induction text generalizing limit front with
  | nil =>
    rw [takeBytes, List.prefix_nil]
    constructor
    · rintro rfl
      exact ⟨rfl, Nat.zero_le _⟩
    · exact And.left
  | cons c rest ih =>
    cases front with
    | nil => simp
    | cons f front =>
      rw [takeBytes, byteLength_cons]
      split
      next hfits =>
        rw [List.cons_prefix_cons, List.cons_prefix_cons, ih]
        constructor
        · rintro ⟨rfl, hfront, hlength⟩
          exact ⟨⟨rfl, hfront⟩, by omega⟩
        · rintro ⟨⟨rfl, hfront⟩, hlength⟩
          exact ⟨rfl, hfront, by omega⟩
      next hlarge =>
        rw [List.prefix_nil, List.cons_prefix_cons]
        constructor
        · rintro ⟨⟩
        · rintro ⟨⟨rfl, -⟩, hlength⟩
          omega

/-- What is taken is a beginning of the text. -/
theorem takeBytes_isPrefix (limit : Nat) (text : List Char) :
  takeBytes limit text <+: text
  := (isPrefix_takeBytes_iff.mp List.prefix_rfl).1

/-- What is taken fits into the limit. -/
theorem byteLength_takeBytes_le (limit : Nat) (text : List Char) :
  byteLength (takeBytes limit text) ≤ limit
  := (isPrefix_takeBytes_iff.mp List.prefix_rfl).2

/-- The whole text is taken just when it fits into the limit. -/
theorem takeBytes_eq_self_iff :
  takeBytes limit text = text ↔ byteLength text ≤ limit
  := by
  constructor
  · intro h
    rw [← h]
    apply byteLength_takeBytes_le
  · intro h
    apply (takeBytes_isPrefix limit text).eq_of_length_le
    apply List.IsPrefix.length_le
    exact isPrefix_takeBytes_iff.mpr ⟨List.prefix_rfl, h⟩

/-- The text is cut just when it does not fit into the limit. -/
theorem takeBytes_ne_self_iff :
  takeBytes limit text ≠ text ↔ limit < byteLength text
  := by
  rw [ne_eq, takeBytes_eq_self_iff, Nat.not_le]

/-- The character behind the longest beginning does not fit, and takes at most four bytes. -/
theorem le_byteLength_takeBytes_add (h : limit < byteLength text) :
  limit ≤ byteLength (takeBytes limit text) + 3
  := by
  obtain ⟨hidden, htext⟩ := takeBytes_isPrefix limit text
  cases hidden with
  | nil =>
    rw [List.append_nil, takeBytes_eq_self_iff] at htext
    omega
  | cons c hidden =>
    have hnext : takeBytes limit text ++ [c] <+: text := ⟨hidden, by simpa using htext⟩
    have hlarge : ¬ takeBytes limit text ++ [c] <+: takeBytes limit text := by
      intro hprefix
      have hlength := hprefix.length_le
      rw [List.length_append, List.length_singleton] at hlength
      omega
    rw [isPrefix_takeBytes_iff, byteLength_append, byteLength_cons, byteLength_nil] at hlarge
    have hsize : c.utf8Size ≤ 4 := c.utf8Size_le_four
    by_contra
    exact hlarge ⟨hnext, by omega⟩

/-- A limit beyond the end of the text is as good as the end. -/
theorem takeBytes_min (limit : Nat) (text : List Char) :
  takeBytes (min (byteLength text) limit) text = takeBytes limit text
  := by
  by_cases h : byteLength text ≤ limit
  · rw [Nat.min_eq_left h, takeBytes_eq_self_iff.mpr (Nat.le_refl _), takeBytes_eq_self_iff.mpr h]
  · rw [Nat.min_eq_right (Nat.le_of_not_le h)]

end

/-! ## The search for the cut -/

section

variable {position : Nat} {text : List Char}

/-- The boundaries of a text are the ends of its beginnings. -/
theorem isBoundary_iff :
  isBoundary position text ↔ ∃ front, front <+: text ∧ byteLength front = position
  := by
  rw [isBoundary, Option.isSome_iff_exists]
  constructor
  · rintro ⟨⟨front, back⟩, hsplit⟩
    obtain ⟨rfl, hlength⟩ := splitAt?_eq_some_iff.mp hsplit
    exact ⟨front, List.prefix_append front back, hlength⟩
  · rintro ⟨front, ⟨back, rfl⟩, rfl⟩
    exact ⟨(front, back), splitAt?_byteLength front back⟩

/-- A position is a boundary when the longest beginning in front of it reaches it. -/
theorem isBoundary_iff_byteLength_takeBytes :
  isBoundary position text ↔ byteLength (takeBytes position text) = position
  := by
  rw [isBoundary_iff]
  constructor
  · rintro ⟨front, hfront, hlength⟩
    apply Nat.le_antisymm (byteLength_takeBytes_le position text)
    rw [← hlength]
    apply byteLength_le_of_isPrefix
    exact isPrefix_takeBytes_iff.mpr ⟨hfront, Nat.le_refl _⟩
  · intro hlength
    exact ⟨takeBytes position text, takeBytes_isPrefix position text, hlength⟩

/-- One byte more makes no difference when it ends inside of a character. -/
theorem takeBytes_succ (h : ¬ isBoundary (position + 1) text) :
  takeBytes (position + 1) text = takeBytes position text
  := by
  rw [isBoundary_iff_byteLength_takeBytes] at h
  have hlength : byteLength (takeBytes (position + 1) text) ≤ position + 1 :=
    byteLength_takeBytes_le _ _
  have hshorter : takeBytes (position + 1) text <+: takeBytes position text :=
    isPrefix_takeBytes_iff.mpr ⟨takeBytes_isPrefix _ _, by omega⟩
  have hlonger : takeBytes position text <+: takeBytes (position + 1) text :=
    isPrefix_takeBytes_iff.mpr ⟨takeBytes_isPrefix _ _,
      Nat.le_succ_of_le (byteLength_takeBytes_le _ _)⟩
  exact hshorter.eq_of_length_le hlonger.length_le

/-- The search ends at the end of the longest beginning. -/
theorem boundaryUpTo?_eq (position : Nat) (text : List Char) :
  boundaryUpTo? text position = some (byteLength (takeBytes position text))
  := by
  induction position with
  | zero =>
    -- The start of a text is a boundary, so the search does not go below it.
    have hstart : byteLength (takeBytes 0 text) = 0 :=
      Nat.le_zero.mp (byteLength_takeBytes_le 0 text)
    rw [boundaryUpTo?, if_pos (isBoundary_iff_byteLength_takeBytes.mpr hstart), hstart]
  | succ position ih =>
    rw [boundaryUpTo?]
    split
    next hboundary => rw [isBoundary_iff_byteLength_takeBytes.mp hboundary]
    next hinside => rw [takeBytes_succ hinside, ih]

/-- The search for a boundary ends behind the longest beginning within the limit. -/
theorem boundaryUpTo?_min (limit : Nat) (text : List Char) :
  boundaryUpTo? text (min (byteLength text) limit) = some (byteLength (takeBytes limit text))
  := by
  rw [boundaryUpTo?_eq, takeBytes_min]

/-- The text can be cut where the search ends. -/
theorem slice?_takeBytes (limit : Nat) (text : List Char) :
  slice? 0 (byteLength (takeBytes limit text)) text = some (takeBytes limit text)
  := by
  obtain ⟨hidden, htext⟩ := takeBytes_isPrefix limit text
  exact slice?_eq_some_iff.mpr ⟨[], hidden, htext.symm, rfl, rfl⟩

end

/-! ## Excerpts -/

section

variable (text : List Char)

/-- An excerpt is the longest beginning within the limit without blanks at its end, and dots where
the text was cut. -/
theorem excerpt_eq :
  excerpt text = trimEnd (takeBytes excerptLimit text)
    ++ if excerptLimit < byteLength text then ['.', '.', '.'] else []
  := by
  rw [excerpt]
  simp only [length_lt_iff_of_isPrefix (takeBytes_isPrefix _ _), takeBytes_ne_self_iff]

/-- The search finds the cut that the excerpt is made with. -/
theorem excerpt?_eq :
  excerpt? text = some (excerpt text)
  := by
  rw [excerpt?, boundaryUpTo?_min, excerpt_eq]
  dsimp only [Option.bind_eq_bind, Option.bind_some]
  rw [slice?_takeBytes]
  simp [byteLength_lt_iff_of_isPrefix (takeBytes_isPrefix _ _), takeBytes_ne_self_iff]

/-- A text without the blanks at its end has no more bytes. -/
theorem byteLength_trimEnd_le :
  byteLength (trimEnd text) ≤ byteLength text
  := by
  obtain ⟨gap, -, htext, -⟩ := exists_trimEnd_append text
  exact byteLength_le_of_isPrefix ⟨gap, htext⟩

/-- An excerpt has at most three bytes more than the limit. -/
theorem byteLength_excerpt_le :
  byteLength (excerpt text) ≤ excerptLimit + 3
  := by
  have hshown : byteLength (trimEnd (takeBytes excerptLimit text)) ≤ excerptLimit :=
    Nat.le_trans (byteLength_trimEnd_le _) (byteLength_takeBytes_le _ _)
  have hellipsis :
      byteLength (if excerptLimit < byteLength text then ['.', '.', '.'] else []) ≤ 3 := by
    split <;> decide
  rw [excerpt_eq, byteLength_append]
  exact Nat.add_le_add hshown hellipsis

/-- A text within the limit only loses its blanks. -/
theorem excerpt_of_le {text : List Char} (h : byteLength text ≤ excerptLimit) :
  excerpt text = trimEnd text
  := by
  rw [excerpt_eq, takeBytes_eq_self_iff.mpr h, if_neg (Nat.not_lt.mpr h), List.append_nil]

/-- The excerpt of an excerpt that was not cut is the excerpt. -/
theorem excerpt_excerpt {text : List Char} (h : byteLength text ≤ excerptLimit) :
  excerpt (excerpt text) = excerpt text
  := by
  have htrimmed : byteLength (trimEnd text) ≤ excerptLimit :=
    Nat.le_trans (byteLength_trimEnd_le text) h
  rw [excerpt_of_le h, excerpt_of_le htrimmed, trimEnd_trimEnd]

/-- An excerpt of a text: the longest beginning within the limit without the blanks at its end, and
an ellipsis behind it when this beginning is not the whole text. -/
structure IsExcerpt (text shown excerpt : List Char) : Prop where
  longest : ∀ front, front <+: shown ↔ front <+: text ∧ byteLength front ≤ 497
  filled : 497 < byteLength text → 494 ≤ byteLength shown
  cut_iff : shown ≠ text ↔ 497 < byteLength text
  trimmed : ∃ trimmed gap, shown = trimmed ++ gap ∧ IsGap gap
    ∧ (∀ c ∈ trimmed.getLast?, isBlank c = false)
    ∧ excerpt = trimmed ++ if 497 < byteLength text then ['.', '.', '.'] else []

/-- The excerpt is the one that belongs to what is taken. -/
theorem isExcerpt_excerpt :
  IsExcerpt text (takeBytes excerptLimit text) (excerpt text)
  where
  longest _ := isPrefix_takeBytes_iff
  filled hlong := by
    have hfilled : 497 ≤ byteLength (takeBytes excerptLimit text) + 3 :=
      le_byteLength_takeBytes_add hlong
    omega
  cut_iff := takeBytes_ne_self_iff
  trimmed := by
    obtain ⟨gap, hgap, hshown, hlast⟩ := exists_trimEnd_append (takeBytes excerptLimit text)
    exact ⟨_, gap, hshown.symm, hgap, hlast, excerpt_eq text⟩

end

end Text

open Text

/-- The search for the cut ends at a boundary, and the query is cut there behind its longest
beginning within the limit.  Its excerpt takes at most 500 bytes, and is an excerpt of itself when
nothing of the query was cut off. -/
theorem excerpts_within_limit (sql : String) :
  ∃ shown,
    boundaryUpTo? sql.toList (min sql.utf8ByteSize 497) = some (byteLength shown)
      ∧ slice? 0 (byteLength shown) sql.toList = some shown
      ∧ excerpt? sql.toList = some (excerptOf sql).toList
      ∧ IsExcerpt sql.toList shown (excerptOf sql).toList
      ∧ (excerptOf sql).utf8ByteSize ≤ 500
      ∧ (sql.utf8ByteSize ≤ 497 → excerptOf (excerptOf sql) = excerptOf sql)
  := by
  have hexcerpt : (excerptOf sql).toList = excerpt sql.toList := String.toList_ofList
  rw [hexcerpt, ← byteLength_toList sql, excerptOf, utf8ByteSize_ofList]
  refine ⟨takeBytes excerptLimit sql.toList, boundaryUpTo?_min excerptLimit _, slice?_takeBytes ..,
    excerpt?_eq _, isExcerpt_excerpt _, byteLength_excerpt_le _, ?_⟩
  intro hshort
  rw [excerptOf, String.toList_ofList, excerpt_excerpt hshort]

/-- The limit lies inside of a character of four bytes that has blanks in front of it; a short query
loses its blanks and nothing more. -/
theorem excerpts_within_limit_face :
  let sql := String.ofList (List.replicate 493 'x' ++ [' ', '\n', '😀', 'x'])
  let query := "SELECT 1 \n"
  497 < sql.utf8ByteSize
    ∧ (∃ shown, byteLength shown = 495
      ∧ IsExcerpt sql.toList shown (List.replicate 493 'x' ++ ['.', '.', '.']))
    ∧ query.utf8ByteSize ≤ 497 ∧ excerptOf query = "SELECT 1"
    ∧ excerptOf (excerptOf query) = excerptOf query
  := by
  intro sql query
  have hsql : sql.toList = List.replicate 493 'x' ++ [' ', '\n', '😀', 'x'] :=
    String.toList_ofList
  have hexcerpt : (excerptOf sql).toList = List.replicate 493 'x' ++ ['.', '.', '.'] := by
    rw [excerptOf, String.toList_ofList, hsql]
    decide +kernel
  have hboundary : boundaryUpTo? sql.toList (min sql.utf8ByteSize 497) = some 495 := by
    rw [← byteLength_toList, hsql]
    decide +kernel
  obtain ⟨shown, hstop, -, -, hshown, -⟩ := excerpts_within_limit sql
  obtain ⟨-, -, -, -, -, -, hagain⟩ := excerpts_within_limit query
  refine ⟨?_, ⟨shown, ?_, ?_⟩, by decide +kernel, by decide +kernel, hagain (by decide +kernel)⟩
  · rw [← byteLength_toList, hsql]
    decide +kernel
  · exact Option.some.inj (hstop.symm.trans hboundary)
  · rwa [hexcerpt] at hshown

end SqlDialect
