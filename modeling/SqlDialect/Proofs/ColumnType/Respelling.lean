import Mathlib.Data.List.Basic
import SqlDialect.ColumnType.Basic
import SqlDialect.ColumnType.WireName
import SqlDialect.Proofs.Text.Blanks
import SqlDialect.Proofs.Text.Digits

/-!
# Type names in other spellings

A type name may be spelled with letters of either case, with any blanks for a space, with
blanks around the marks of its list of numbers, and with blanks around it.  However the
name of a column type in a definition is spelled, that column type is read back from it,
except that a timestamp with a time zone is read as one without.
-/

namespace SqlDialect.ColumnType

open Text (IsGap integer_natCast isBlank isDigit_of_mem_digits numberOf_digits)

/-! ## Spellings -/

/-- The texts that a character may be spelled as. -/
inductive Spelling : Char → List Char → Prop
  /-- Letters may have either case. -/
  | cased {c d : Char} (h : d.toUpper = c.toUpper) : Spelling c [d]
  /-- A space may be any blanks. -/
  | spaced {gap : List Char} (hne : gap ≠ []) (h : IsGap gap) : Spelling ' ' gap
  /-- There may be blanks around the marks of a list. -/
  | padded {c : Char} {gap gap' : List Char} (hc : c ∈ ['(', ',', ')']) (h : IsGap gap)
    (h' : IsGap gap') : Spelling c (gap ++ c :: gap')

/-- The texts that a name may be spelled as, character by character. -/
inductive Respelling : List Char → List Char → Prop
  | nil : Respelling [] []
  | cons {c : Char} {name part text : List Char} (h : Spelling c part)
    (hrest : Respelling name text) : Respelling (c :: name) (part ++ text)

/-- The text is a type name in some spelling, perhaps with blanks around it. -/
def SpelledAs (name text : String) : Prop :=
  ∃ gap respelled gap', IsGap gap ∧ Respelling name.toList respelled ∧ IsGap gap'
    ∧ text.toList = gap ++ (respelled ++ gap')

namespace Respelling

variable {name name' text : List Char}

/-- A name may be spelled in any letter case. -/
theorem of_map_toUpper (h : text.map Char.toUpper = name.map Char.toUpper) :
  Respelling name text
  := by
  induction name generalizing text with
  | nil =>
    obtain rfl := List.map_eq_nil_iff.mp h
    apply nil
  | cons c rest ih =>
    obtain ⟨d, others, rfl, hd, hothers⟩ := List.map_eq_cons_iff.mp h
    apply cons (.cased hd) (ih hothers)

/-- Texts that are respelled may stand one after the other. -/
theorem append {text' : List Char} (h : Respelling name text) (h' : Respelling name' text') :
  Respelling (name ++ name') (text ++ text')
  := by
  induction h with
  | nil => apply h'
  | cons hc _ ih =>
    rw [List.append_assoc]
    apply cons hc ih

/-- The parts of a name are spelled one after the other. -/
theorem append_inv (h : Respelling (name ++ name') text) :
  ∃ front back, text = front ++ back ∧ Respelling name front ∧ Respelling name' back
  := by
  induction name generalizing text with
  | nil => exact ⟨[], text, rfl, nil, h⟩
  | cons c rest ih =>
    cases h with
    | cons hc hrest =>
      obtain ⟨front, back, rfl, hfront, hback⟩ := ih hrest
      exact ⟨_, back, (List.append_assoc _ _ _).symm, cons hc hfront, hback⟩

/-- What respells a text starts with what spells its first character. -/
theorem cons_inv {c : Char} (h : Respelling (c :: name) text) :
  ∃ part rest, text = part ++ rest ∧ Spelling c part ∧ Respelling name rest
  := by
  cases h with
  | cons hc hrest => exact ⟨_, _, rfl, hc, hrest⟩

end Respelling

/-! ## Letters -/

/-- The capital letters are those from A to Z. -/
theorem isUpper_iff {c : Char} :
  c.isUpper ↔ 'A'.val ≤ c.val ∧ c.val ≤ 'Z'.val
  := decide_eq_true_iff

/-- The small letters are those from a to z. -/
theorem isLower_iff {c : Char} :
  c.isLower ↔ 'a'.val ≤ c.val ∧ c.val ≤ 'z'.val
  := by
  change (decide ('a'.val ≤ c.val) && decide (c.val ≤ 'z'.val)) = true ↔ _
  rw [Bool.and_eq_true, decide_eq_true_iff, decide_eq_true_iff]

/-- A letter is a capital or a small one. -/
theorem isAlpha_iff {c : Char} :
  c.isAlpha ↔ c.isUpper ∨ c.isLower
  := Bool.or_eq_true_iff

/-- A character that is no small letter is its own capital. -/
theorem toUpper_eq_self {c : Char} (h : ¬ c.isLower) :
  c.toUpper = c
  := dif_neg (isLower_iff.not.mp h)

/-- The capital of a small letter is a capital letter. -/
theorem isUpper_toUpper {c : Char} (h : c.isLower) :
  c.toUpper.isUpper
  := by
  have hlower := isLower_iff.mp h
  rw [isUpper_iff]
  delta Char.toUpper
  rw [dif_pos hlower]
  grind [UInt32.toNat_add, Char.toNat_val]

/-- The letters are what becomes a capital letter. -/
theorem isUpper_toUpper_iff {c : Char} :
  c.toUpper.isUpper ↔ c.isAlpha
  := by
  rw [isAlpha_iff]
  by_cases h : c.isLower
  · simp [h, isUpper_toUpper h]
  · simp [h, toUpper_eq_self h]

/-- A capital letter is its own capital. -/
theorem toUpper_of_isUpper {c : Char} (h : c.isUpper) :
  c.toUpper = c
  := by
  apply toUpper_eq_self
  rw [isUpper_iff] at h
  rw [isLower_iff]
  grind

/-- A digit is no letter. -/
theorem not_isAlpha_of_isDigit {c : Char} (h : c.isDigit) :
  ¬ c.isAlpha
  := by
  have hdigit : '0'.val ≤ c.val ∧ c.val ≤ '9'.val := by
    change (decide ('0'.val ≤ c.val) && decide (c.val ≤ '9'.val)) = true at h
    rwa [Bool.and_eq_true, decide_eq_true_iff, decide_eq_true_iff] at h
  rw [isAlpha_iff, isUpper_iff, isLower_iff]
  grind

/-- Only letters have two cases. -/
theorem eq_of_toUpper_eq {c d : Char} (hc : ¬ c.isAlpha) (h : d.toUpper = c.toUpper) :
  d = c
  := by
  have hd : ¬ d.isAlpha := by rwa [← isUpper_toUpper_iff, h, isUpper_toUpper_iff]
  rw [isAlpha_iff, not_or] at hc hd
  rw [toUpper_eq_self hd.2, toUpper_eq_self hc.2] at h
  apply h

/-! ## Spellings of words, numbers and marks -/

namespace Spelling

variable {c : Char} {part : List Char}

/-- A capital letter is spelled as a letter in either case. -/
theorem of_isUpper (h : Spelling c part) (hc : c.isUpper) :
  ∃ d, part = [d] ∧ d.toUpper = c ∧ d.isAlpha
  := by
  cases h with
  | cased h =>
    rw [toUpper_of_isUpper hc] at h
    refine ⟨_, rfl, h, ?_⟩
    rw [← isUpper_toUpper_iff, h, hc]
  | spaced hne h => cases hc
  | padded hmark h h' =>
    simp only [List.mem_cons, List.not_mem_nil, or_false] at hmark
    obtain rfl | rfl | rfl := hmark <;> cases hc

/-- A digit is spelled as itself. -/
theorem of_isDigit (h : Spelling c part) (hc : c.isDigit) :
  part = [c]
  := by
  cases h with
  | cased h => rw [eq_of_toUpper_eq (not_isAlpha_of_isDigit hc) h]
  | spaced hne h => cases hc
  | padded hmark h h' =>
    simp only [List.mem_cons, List.not_mem_nil, or_false] at hmark
    obtain rfl | rfl | rfl := hmark <;> cases hc

/-- A space is spelled as blanks, at least one. -/
theorem of_space (h : Spelling ' ' part) :
  part ≠ [] ∧ IsGap part
  := by
  cases h with
  | cased h =>
    rw [eq_of_toUpper_eq (by decide) h]
    exact ⟨List.cons_ne_nil _ _, by simp [IsGap]; decide⟩
  | spaced hne h => exact ⟨hne, h⟩
  | padded hmark h h' => exact absurd hmark (by decide)

/-- A mark is spelled as itself between any blanks. -/
theorem of_mark (h : Spelling c part) (hc : c ∈ ['(', ',', ')']) :
  ∃ gap gap', IsGap gap ∧ IsGap gap' ∧ part = gap ++ c :: gap'
  := by
  have halpha : ¬ c.isAlpha := by
    simp only [List.mem_cons, List.not_mem_nil, or_false] at hc
    obtain rfl | rfl | rfl := hc <;> decide
  cases h with
  | cased h =>
    rw [eq_of_toUpper_eq halpha h]
    exact ⟨[], [], by simp [IsGap], by simp [IsGap], rfl⟩
  | spaced hne h => exact absurd hc (by decide)
  | padded _ h h' => exact ⟨_, _, h, h', rfl⟩

end Spelling

namespace Respelling

/-- A name in capital letters is spelled with letters that have these as capitals. -/
theorem of_isUpper {word text : List Char} (h : Respelling word text)
    (hword : ∀ c ∈ word, c.isUpper) :
  text.map Char.toUpper = word ∧ ∀ d ∈ text, d.isAlpha
  := by
  induction h with
  | nil => simp
  | cons hc _ ih =>
    obtain ⟨hupper, hrest⟩ := List.forall_mem_cons.mp hword
    obtain ⟨hmap, halpha⟩ := ih hrest
    obtain ⟨d, rfl, hd, hletter⟩ := hc.of_isUpper hupper
    constructor
    · rw [List.map_append, hmap, List.map_singleton, hd]
      rfl
    · exact List.forall_mem_cons.mpr ⟨hletter, halpha⟩

/-- Numbers are spelled as they are. -/
theorem of_isDigit {run text : List Char} (h : Respelling run text)
    (hrun : ∀ c ∈ run, c.isDigit) :
  text = run
  := by
  induction h with
  | nil => rfl
  | cons hc _ ih =>
    obtain ⟨hdigit, hrest⟩ := List.forall_mem_cons.mp hrun
    rw [hc.of_isDigit hdigit, ih hrest]
    rfl

end Respelling

/-! ## Names -/

/-- A word in capital letters. -/
def IsCapital (word : List Char) : Prop :=
  word ≠ [] ∧ ∀ c ∈ word, c.isUpper

/-- A list of numbers in parentheses. -/
def listName (arguments : List Nat) : List Char :=
  '(' :: ([','].intercalate (arguments.map Text.digits) ++ [')'])

/-- A type name: words one space apart, and perhaps a list of numbers. -/
def wireName (words : List (List Char)) (arguments : Option (List Nat)) : List Char :=
  [' '].intercalate words ++ (arguments.map listName).getD []

/-- A letter is no blank. -/
theorem isBlank_of_isAlpha {c : Char} (h : c.isAlpha) :
  isBlank c = false
  := by
  apply Text.isBlank_of_isAnyWord
  change ((c.isAlpha || c.isDigit) || decide (c = '_')) = true
  rw [h]
  rfl

/-- What is read of the words of a name: they are the words of the text up to letter case, and
there is no list in them. -/
structure WordsReadAs (words : List (List Char)) (text : List Char) : Prop where
  words_eq : (Text.words text).map (List.map Char.toUpper) = words
  unmarked : ∀ c ∈ text, c ≠ '('
  ne_nil : text ≠ []
  first : ∀ c ∈ text.head?, isBlank c = false
  last : ∀ c ∈ text.getLast?, isBlank c = false

/-- A capital word in any spelling is read as this one word. -/
theorem WordsReadAs.of_word {word text : List Char} (hword : IsCapital word)
    (h : Respelling word text) :
  WordsReadAs [word] text
  := by
  obtain ⟨hne, hupper⟩ := hword
  obtain ⟨hmap, halpha⟩ := h.of_isUpper hupper
  have hsolid : ∀ c ∈ text, isBlank c = false := fun c hc => isBlank_of_isAlpha (halpha c hc)
  have htext : text ≠ [] := by
    rintro rfl
    apply hne hmap.symm
  constructor
  · rw [Text.words_of_solid htext hsolid, List.map_singleton, hmap]
  · rintro c hc rfl
    cases halpha _ hc
  · apply htext
  · intro c hc
    apply hsolid c (List.mem_of_mem_head? hc)
  · intro c hc
    apply hsolid c (List.mem_of_mem_getLast? hc)

/-- With blanks between them words are read one after the other. -/
theorem WordsReadAs.append {word text gap text' : List Char} {words : List (List Char)}
    (h : WordsReadAs [word] text) (hne : gap ≠ []) (hgap : IsGap gap)
    (h' : WordsReadAs words text') :
  WordsReadAs (word :: words) (text ++ (gap ++ text'))
  := by
  constructor
  · rw [Text.words_append_gap_append hne hgap, List.map_append, h.words_eq, h'.words_eq]
    rfl
  · simp only [List.forall_mem_append]
    refine ⟨h.unmarked, ?_, h'.unmarked⟩
    rintro c hc rfl
    cases hgap _ hc
  · simp [h.ne_nil]
  · rw [List.head?_append_of_ne_nil _ h.ne_nil]
    apply h.first
  · rw [← List.append_assoc, List.getLast?_append_of_ne_nil _ h'.ne_nil]
    apply h'.last

/-- The words of a name are read from every spelling of it. -/
theorem wordsReadAs {words : List (List Char)} (hne : words ≠ [])
    (hwords : ∀ word ∈ words, IsCapital word) {text : List Char}
    (h : Respelling ([' '].intercalate words) text) :
  WordsReadAs words text
  := by
  induction words generalizing text with
  | nil => cases hne rfl
  | cons word rest ih =>
    obtain ⟨hword, hrest⟩ := List.forall_mem_cons.mp hwords
    cases rest with
    | nil =>
      rw [List.intercalate_singleton] at h
      apply WordsReadAs.of_word hword h
    | cons word' rest =>
      rw [List.intercalate_cons_cons, List.append_assoc] at h
      obtain ⟨front, back, rfl, hfront, hback⟩ := h.append_inv
      obtain ⟨gap, others, rfl, hspace, hothers⟩ := hback.cons_inv
      obtain ⟨hgap, hblank⟩ := hspace.of_space
      apply (WordsReadAs.of_word hword hfront).append hgap hblank
      apply ih (List.cons_ne_nil _ _) hrest hothers

/-! ## Numbers -/

/-- A number is read back from its digits. -/
theorem argument?_digits {n : Nat} (h : n < UInt32.size) :
  argument? (Text.digits n) = some n
  := by
  have hne : Text.digits n ≠ [] := Nat.toDigits_ne_nil
  have hall : (Text.digits n).all Char.isDigit := by
    apply List.all_eq_true.mpr
    intro c
    apply isDigit_of_mem_digits
  have hsign : ∀ rest, Text.digits n ≠ '+' :: rest := by
    intro rest hdigits
    have hplus : '+' ∈ Text.digits n := by simp [hdigits]
    cases isDigit_of_mem_digits hplus
  rw [argument?.eq_def]
  split
  next rest hdigits => cases hsign rest hdigits
  next => simp [hne, hall, numberOf_digits, h]

/-- Blanks around a number do not count. -/
theorem argument?_trim_digits {gap gap' : List Char} (hgap : IsGap gap) (hgap' : IsGap gap')
    {n : Nat} (h : n < UInt32.size) :
  argument? (Text.trim (gap ++ (Text.digits n ++ gap'))) = some n
  := by
  have hsolid : ∀ c ∈ Text.digits n, isBlank c = false := fun c hc =>
    Text.isBlank_of_isDigit (isDigit_of_mem_digits hc)
  rw [Text.trim_append_append hgap hgap' (fun c hc => hsolid c (List.mem_of_mem_head? hc))
    (fun c hc => hsolid c (List.mem_of_mem_getLast? hc))]
  apply argument?_digits h

/-- The numbers of a list are read from every spelling of it. -/
theorem exists_parts {ns : List Nat} (hne : ns ≠ []) (hns : ∀ n ∈ ns, n < UInt32.size)
    {text : List Char} (h : Respelling ([','].intercalate (ns.map Text.digits)) text)
    {gap gap' : List Char} (hgap : IsGap gap) (hgap' : IsGap gap') :
  ∃ parts, gap ++ (text ++ gap') = [','].intercalate parts ∧ parts ≠ []
    ∧ (∀ part ∈ parts, ',' ∉ part)
    ∧ parts.mapM (fun part => argument? (Text.trim part)) = some ns
  := by
  have hunmarked : ∀ {before after : List Char} (n : Nat), IsGap before → IsGap after →
      ',' ∉ before ++ (Text.digits n ++ after) := by
    intro before after n hbefore hafter hmem
    simp only [List.mem_append] at hmem
    obtain hmem | hmem | hmem := hmem
    · cases hbefore _ hmem
    · cases isDigit_of_mem_digits hmem
    · cases hafter _ hmem
  induction ns generalizing text gap with
  | nil => cases hne rfl
  | cons n rest ih =>
    obtain ⟨hn, hrest⟩ := List.forall_mem_cons.mp hns
    cases rest with
    | nil =>
      rw [List.map_singleton, List.intercalate_singleton] at h
      obtain rfl := h.of_isDigit fun c => isDigit_of_mem_digits
      refine ⟨[gap ++ (Text.digits n ++ gap')], ?_, List.cons_ne_nil _ _, ?_, ?_⟩
      · rw [List.intercalate_singleton]
      · simpa using hunmarked n hgap hgap'
      · simp [argument?_trim_digits hgap hgap' hn]
    | cons m rest =>
      rw [List.map_cons, List.map_cons, List.intercalate_cons_cons, List.append_assoc] at h
      obtain ⟨front, back, rfl, hfront, hback⟩ := h.append_inv
      obtain rfl := hfront.of_isDigit fun c => isDigit_of_mem_digits
      obtain ⟨mark, others, rfl, hmark, hothers⟩ := hback.cons_inv
      obtain ⟨before, after, hbefore, hafter, rfl⟩ := hmark.of_mark (by decide)
      obtain ⟨parts, htext, hparts, hcommas, hread⟩ :=
        ih (List.cons_ne_nil _ _) hrest hothers hafter
      refine ⟨(gap ++ (Text.digits n ++ before)) :: parts, ?_, List.cons_ne_nil _ _, ?_, ?_⟩
      · rw [List.intercalate_cons_of_ne_nil hparts, ← htext]
        simp
      · exact List.forall_mem_cons.mpr ⟨hunmarked n hgap hbefore, hcommas⟩
      · simp [argument?_trim_digits hgap hbefore hn, hread]

/-- A list of numbers is read from every spelling of it, which ends in a parenthesis and perhaps
blanks. -/
theorem arguments?_of_respelling {ns : List Nat} (hne : ns ≠ []) (hns : ∀ n ∈ ns, n < UInt32.size)
    {text : List Char} (h : Respelling (listName ns) text) :
  ∃ gap list gap', IsGap gap ∧ IsGap gap' ∧ text = gap ++ '(' :: (list ++ [')'] ++ gap')
    ∧ arguments? (list ++ [')']) = some ns
  := by
  obtain ⟨opening, others, rfl, hopening, hothers⟩ := h.cons_inv
  obtain ⟨gap, after, hgap, hafter, rfl⟩ := hopening.of_mark (by decide)
  obtain ⟨list, back, rfl, hlist, hback⟩ := hothers.append_inv
  obtain ⟨closing, nothing, rfl, hclosing, hnothing⟩ := hback.cons_inv
  cases hnothing
  obtain ⟨before, gap', hbefore, hgap', rfl⟩ := hclosing.of_mark (by decide)
  obtain ⟨parts, htext, hparts, hcommas, hread⟩ := exists_parts hne hns hlist hafter hbefore
  refine ⟨gap, after ++ (list ++ before), gap', hgap, hgap', by simp, ?_⟩
  rw [arguments?, if_pos (by simp), List.dropLast_concat, htext,
    List.splitOn_intercalate ',' hcommas hparts, hread]

/-! ## Reading names -/

/-- Characters may be changed before texts are joined, if the separator is changed too. -/
theorem map_intercalate {α β : Type} (f : α → β) (separator : List α) (ls : List (List α)) :
  (separator.intercalate ls).map f = (separator.map f).intercalate (ls.map (List.map f))
  := by
  induction ls with
  | nil => rfl
  | cons l rest ih =>
    cases rest with
    | nil => simp
    | cons l' rest =>
      rw [List.intercalate_cons_cons, List.map_append, List.map_append, ih]
      simp only [List.map_cons, List.intercalate_cons_cons]

/-- The words of a name are read in capitals, with one space between two. -/
theorem WordsReadAs.upper_words {words : List (List Char)} {text gap : List Char}
    (h : WordsReadAs words text) (hgap : IsGap gap) :
  ([' '].intercalate (Text.words (Text.trimEnd (text ++ gap)))).map Char.toUpper
    = [' '].intercalate words
  := by
  rw [Text.trimEnd_append hgap h.last, map_intercalate, h.words_eq]
  rfl

/-- A name without a list consists of its words. -/
theorem wireParts?_of_words {words : List (List Char)} {name base : List Char}
    (h : WordsReadAs words base) (htrim : Text.trim name = base) :
  wireParts? name = some (String.ofList ([' '].intercalate words), none)
  := by
  have hunmarked : ∀ c ∈ base, decide (c ≠ '(') := by simpa using h.unmarked
  have hwords := h.upper_words (List.forall_mem_nil _)
  rw [List.append_nil] at hwords
  rw [wireParts?, htrim, List.takeWhile_eq_self_iff.mpr hunmarked,
    List.dropWhile_eq_nil_iff.mpr hunmarked, hwords]

/-- A name with a list consists of its words and what is read of the list; blanks in front of the
list do not count. -/
theorem wireParts?_of_list {words : List (List Char)} {name base gap list : List Char}
    (h : WordsReadAs words base) (hgap : IsGap gap)
    (htrim : Text.trim name = (base ++ gap) ++ '(' :: list) :
  wireParts? name
    = (arguments? list).map fun arguments =>
      (String.ofList ([' '].intercalate words), some arguments)
  := by
  have hunmarked : ∀ c ∈ base ++ gap, decide (c ≠ '(') := by
    simp only [List.forall_mem_append, decide_eq_true_eq]
    use h.unmarked
    rintro c hc rfl
    cases hgap _ hc
  rw [wireParts?, htrim, List.takeWhile_append_of_pos hunmarked,
    List.dropWhile_append_of_pos hunmarked, List.takeWhile_cons_of_neg (by decide),
    List.dropWhile_cons_of_neg (by decide), List.append_nil, h.upper_words hgap]

/-- The words and the numbers of a name are read from every spelling of it, with any blanks around
it. -/
theorem wireParts?_of_respelling {words : List (List Char)} (hne : words ≠ [])
    (hwords : ∀ word ∈ words, IsCapital word) {arguments : Option (List Nat)}
    (harguments : ∀ ns ∈ arguments, ns ≠ [] ∧ ∀ n ∈ ns, n < UInt32.size) {text gap gap' : List Char}
    (hgap : IsGap gap) (h : Respelling (wireName words arguments) text) (hgap' : IsGap gap') :
  wireParts? (gap ++ (text ++ gap')) = some (String.ofList ([' '].intercalate words), arguments)
  := by
  obtain ⟨base, list, rfl, hbase, hlist⟩ := h.append_inv
  have hread := wordsReadAs hne hwords hbase
  cases arguments with
  | none =>
    cases hlist
    rw [List.append_nil]
    apply wireParts?_of_words hread
    apply Text.trim_append_append hgap hgap' hread.first hread.last
  | some ns =>
    obtain ⟨hns, hlt⟩ := harguments ns rfl
    obtain ⟨before, numbers, after, hbefore, hafter, rfl, hnumbers⟩ :=
      arguments?_of_respelling hns hlt hlist
    -- Trimming also takes away the blanks behind the closing parenthesis.
    have htext : gap ++ (base ++ (before ++ '(' :: (numbers ++ [')'] ++ after)) ++ gap')
        = gap ++ ((base ++ before) ++ '(' :: (numbers ++ [')']) ++ (after ++ gap')) := by simp
    have htrim : Text.trim (gap ++ (base ++ (before ++ '(' :: (numbers ++ [')'] ++ after)) ++ gap'))
        = (base ++ before) ++ '(' :: (numbers ++ [')']) := by
      rw [htext]
      apply Text.trim_append_append hgap (hafter.append hgap')
      · rw [List.append_assoc, List.head?_append_of_ne_nil _ hread.ne_nil]
        apply hread.first
      · rw [← List.cons_append, ← List.append_assoc, List.getLast?_concat]
        rintro c ⟨⟩
        decide
    rw [wireParts?_of_list hread hbefore htrim, hnumbers]
    rfl

/-- The column type that is read from the name of a column type in a definition. -/
def onWire : ColumnType → ColumnType
  | timestampWithTimeZone => timestamp
  | t => t

/-- What a column type is called: the words and the numbers of its name. -/
structure IsNamed (t : ColumnType) (words : List (List Char)) (arguments : Option (List Nat)) :
    Prop where
  name : t.openEdgeName = .ok (String.ofList (wireName words arguments))
  words_ne_nil : words ≠ []
  capital : ∀ word ∈ words, IsCapital word
  numbers : ∀ ns ∈ arguments, ns ≠ [] ∧ ∀ n ∈ ns, n < UInt32.size
  read : ofWireParts? (String.ofList ([' '].intercalate words)) arguments = some t.onWire

/-- That words are in capital letters can be checked. -/
theorem isCapital_of_all {words : List (List Char)}
    (h : words.all fun word => !word.isEmpty && word.all Char.isUpper) :
  ∀ word ∈ words, IsCapital word
  := by
  simpa [IsCapital] using h

/-- A type whose name has no numbers is read from its words. -/
theorem IsNamed.of_word {t : ColumnType} (words : List (List Char))
    (hname : t.openEdgeName = .ok (String.ofList (wireName words none)))
    (hne : words ≠ []) (hcapital : words.all fun word => !word.isEmpty && word.all Char.isUpper)
    (hread : ofWireParts? (String.ofList ([' '].intercalate words)) none = some t.onWire) :
  ∃ words arguments, t.IsNamed words arguments
  := ⟨words, none, hname, hne, isCapital_of_all hcapital, nofun, hread⟩

/-- A byte is read from the number that it is. -/
theorem byte?_toNat (n : UInt8) :
  byte? n.toNat = some n
  := by
  rw [byte?, if_pos n.toNat_lt, UInt8.ofNat_toNat]

/-- A decimal type is read from its name, its precision and its scale. -/
theorem isNamed_decimal {precision scale : UInt8} (h : ¬ (precision = 0 ∧ scale = 0)) :
  (decimal precision scale).IsNamed ["DECIMAL".toList] (some [precision.toNat, scale.toNat])
  where
  name := by
    apply congrArg Except.ok
    rw [decimalName, if_neg h]
    apply String.toList_injective
    simp [integer_natCast, wireName, listName]
  words_ne_nil := List.cons_ne_nil _ _
  capital := isCapital_of_all (by decide)
  numbers := by
    have hprecision := precision.toNat_lt
    have hscale := scale.toNat_lt
    simp [UInt32.size]
    omega
  read := by
    change (do some (decimal (← byte? precision.toNat) (← byte? scale.toNat))) = _
    rw [byte?_toNat, byte?_toNat]
    rfl

/-- A VARCHAR type is read from its name and its length. -/
theorem isNamed_varchar (length : UInt32) :
  (varchar (some length)).IsNamed ["VARCHAR".toList] (some [length.toNat])
  where
  name := by
    apply congrArg Except.ok
    apply String.toList_injective
    simp [varcharName, integer_natCast, wireName, listName]
  words_ne_nil := List.cons_ne_nil _ _
  capital := isCapital_of_all (by decide)
  numbers := by simp [length.toNat_lt_size]
  read := by
    change some (varchar (some (UInt32.ofNat length.toNat))) = _
    rw [UInt32.ofNat_toNat]
    rfl

/-- Every column type has a name except a text of any length. -/
theorem exists_isNamed {t : ColumnType} (h : t ≠ varchar none) :
  ∃ words arguments, t.IsNamed words arguments
  := by
  cases t with
  | boolean => apply IsNamed.of_word ["BIT".toList] <;> decide
  | smallint => apply IsNamed.of_word ["SMALLINT".toList] <;> decide
  | integer => apply IsNamed.of_word ["INTEGER".toList] <;> decide
  | bigint => apply IsNamed.of_word ["BIGINT".toList] <;> decide
  | decimal precision scale =>
    by_cases h : precision = 0 ∧ scale = 0
    · obtain ⟨rfl, rfl⟩ := h
      apply IsNamed.of_word ["DECIMAL".toList] <;> decide
    · exact ⟨_, _, isNamed_decimal h⟩
  | double => apply IsNamed.of_word ["DOUBLE".toList, "PRECISION".toList] <;> decide
  | varchar length =>
    cases length with
    | none => cases h rfl
    | some length => exact ⟨_, _, isNamed_varchar length⟩
  | date => apply IsNamed.of_word ["DATE".toList] <;> decide
  | timestamp => apply IsNamed.of_word ["TIMESTAMP".toList] <;> decide
  | timestampWithTimeZone => apply IsNamed.of_word ["TIMESTAMP".toList] <;> decide

/-- A column type is read from every spelling of its name. -/
theorem IsNamed.ofWireName {t : ColumnType} {words : List (List Char)}
    {arguments : Option (List Nat)} (h : t.IsNamed words arguments) {text : String}
    (htext : SpelledAs (String.ofList (wireName words arguments)) text) :
  ofWireName text = .ok t.onWire
  := by
  obtain ⟨gap, respelled, gap', hgap, hrespelled, hgap', htext⟩ := htext
  rw [String.toList_ofList] at hrespelled
  have hread : ofWireName? text.toList = some t.onWire := by
    rw [ofWireName?, htext,
      wireParts?_of_respelling h.words_ne_nil h.capital h.numbers hgap hrespelled hgap']
    apply h.read
  rw [ColumnType.ofWireName, hread]

/-- Reading a type name back undoes writing it.  Every column type has a name in definitions except
a text of any length, and from the name in any spelling the column type is read, or a timestamp
when it is a timestamp with a time zone. -/
theorem ofWireName_openEdgeName (t : ColumnType) :
  ((∃ fault, t.openEdgeName = .error fault) ↔ t = varchar none)
  ∧ ∀ name, t.openEdgeName = .ok name →
    ofWireName name = .ok t.onWire ∧ ∀ text, SpelledAs name text → ofWireName text = .ok t.onWire
  := by
  by_cases h : t = varchar none
  · subst h
    constructor
    · simp [openEdgeName]
    · intro name hname
      cases hname
  · obtain ⟨words, arguments, hnamed⟩ := exists_isNamed h
    have hrefl : ∀ name, SpelledAs name name := by
      intro name
      use [], name.toList, []
      exact ⟨List.forall_mem_nil _, .of_map_toUpper rfl, List.forall_mem_nil _, by simp⟩
    constructor
    · simp [hnamed.name, h]
    · intro name hname
      obtain rfl := Except.ok.inj (hnamed.name.symm.trans hname)
      constructor
      · apply hnamed.ofWireName (hrefl _)
      · intro text htext
        apply hnamed.ofWireName htext

/-- A VARCHAR type is read from a name in mixed case with other blanks. -/
theorem ofWireName_openEdgeName_varchar :
  (varchar (some 40)).openEdgeName = .ok "VARCHAR(40)"
    ∧ SpelledAs "VARCHAR(40)" " varChar\t( 40 )\n"
    ∧ ofWireName " varChar\t( 40 )\n" = .ok (varchar (some 40))
  := by
  have hname : (varchar (some 40)).openEdgeName = .ok "VARCHAR(40)" := by decide
  have hgap : ∀ c, isBlank c → IsGap [c] := by simp [IsGap]
  have hword : Respelling "VARCHAR".toList "varChar".toList := .of_map_toUpper (by decide)
  have hopening : Spelling '(' ['\t', '(', ' '] :=
    .padded (by decide) (hgap '\t' (by decide)) (hgap ' ' (by decide))
  have hnumber : Respelling ['4', '0'] ['4', '0'] := .of_map_toUpper rfl
  have hclosing : Spelling ')' [' ', ')', '\n'] :=
    .padded (by decide) (hgap ' ' (by decide)) (hgap '\n' (by decide))
  have hspelled : SpelledAs "VARCHAR(40)" " varChar\t( 40 )\n" :=
    ⟨[' '], _, [], hgap ' ' (by decide),
      hword.append (.cons hopening (hnumber.append (.cons hclosing .nil))), List.forall_mem_nil _,
      by decide⟩
  refine ⟨hname, hspelled, ?_⟩
  apply ((ofWireName_openEdgeName (varchar (some 40))).2 _ hname).2 _ hspelled

end SqlDialect.ColumnType
