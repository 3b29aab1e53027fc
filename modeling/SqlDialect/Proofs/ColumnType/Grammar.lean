import SqlDialect.Proofs.ColumnType.Respelling

/-!
# The grammar of type names on the wire

A type name is a word or two, perhaps a list of numbers in parentheses, and any blanks
around it.  The grammar is given here as relations between texts and what they spell, apart
from the reader.  The reader accepts just the texts of the grammar, each as the column type
that it spells, and reports every other text as it is.
-/

namespace SqlDialect.ColumnType

open Text (IsGap isBlank)

/-! ## The grammar -/

/-- The text is a number of at most 32 bits: ASCII digits, perhaps behind a plus sign. -/
inductive Numeral : List Char → Nat → Prop
  | intro {sign run : List Char} {n : Nat} (hsign : sign = [] ∨ sign = ['+']) (hne : run ≠ [])
    (hrun : ∀ c ∈ run, c.isDigit) (hn : Nat.ofDigitChars 10 run 0 = n) (hle : n ≤ 4294967295) :
    Numeral (sign ++ run) n

/-- The text is a number with any blanks around it. -/
inductive SpellsNumber : List Char → Nat → Prop
  | intro {gap numeral gap' : List Char} {n : Nat} (hgap : IsGap gap) (h : Numeral numeral n)
    (hgap' : IsGap gap') : SpellsNumber (gap ++ (numeral ++ gap')) n

/-- The text spells the numbers, with single commas between them. -/
inductive SpellsNumbers : List Char → List Nat → Prop
  | single {text : List Char} {n : Nat} (h : SpellsNumber text n) : SpellsNumbers text [n]
  | cons {text rest : List Char} {n : Nat} {ns : List Nat} (h : SpellsNumber text n)
    (hrest : SpellsNumbers rest ns) : SpellsNumbers (text ++ ',' :: rest) (n :: ns)

/-- The text spells the list of numbers in parentheses, perhaps behind blanks, or no list. -/
inductive SpellsList : List Char → Option (List Nat) → Prop
  | none : SpellsList [] none
  | some {gap list : List Char} {ns : List Nat} (hgap : IsGap gap) (h : SpellsNumbers list ns) :
    SpellsList (gap ++ '(' :: (list ++ [')'])) (some ns)

/-- The text spells the words in any letter case, with blanks between them. -/
inductive SpellsWords : List Char → List (List Char) → Prop
  | single {text word : List Char} (h : text.map Char.toUpper = word) : SpellsWords text [word]
  | cons {text gap rest word : List Char} {words : List (List Char)}
    (h : text.map Char.toUpper = word) (hne : gap ≠ []) (hgap : IsGap gap)
    (hrest : SpellsWords rest words) : SpellsWords (text ++ (gap ++ rest)) (word :: words)

/-- The words and the numbers that a column type goes by on the wire. -/
inductive GoesBy : List (List Char) → Option (List Nat) → ColumnType → Prop
  | boolean : GoesBy ["BIT".toList] none boolean
  | smallint : GoesBy ["SMALLINT".toList] none smallint
  | integer : GoesBy ["INTEGER".toList] none integer
  | bigint : GoesBy ["BIGINT".toList] none bigint
  | decimal : GoesBy ["DECIMAL".toList] none (decimal 0 0)
  | precision (precision : UInt8) :
    GoesBy ["DECIMAL".toList] (some [precision.toNat]) (decimal precision 0)
  | scale (precision scale : UInt8) :
    GoesBy ["DECIMAL".toList] (some [precision.toNat, scale.toNat]) (decimal precision scale)
  | double : GoesBy ["DOUBLE".toList, "PRECISION".toList] none double
  | varchar : GoesBy ["VARCHAR".toList] none (varchar none)
  | length (length : UInt32) :
    GoesBy ["VARCHAR".toList] (some [length.toNat]) (varchar (some length))
  | date : GoesBy ["DATE".toList] none date
  | timestamp : GoesBy ["TIMESTAMP".toList] none timestamp

/-- The text is a type name on the wire for the column type: its words and its list of numbers, with
any blanks around them. -/
def IsWireName (text : List Char) (t : ColumnType) : Prop :=
  ∃ words arguments gap base list gap', GoesBy words arguments t ∧ IsGap gap
    ∧ SpellsWords base words ∧ SpellsList list arguments ∧ IsGap gap'
    ∧ text = gap ++ (base ++ list ++ gap')

/-! ## Numbers -/

theorem argument?_eq_some_iff {text : List Char} {n : Nat} :
  argument? text = some n ↔ Numeral text n
  := by
  have hread : ∀ run : List Char,
      (if !run.isEmpty && run.all Char.isDigit && Text.numberOf run < UInt32.size then
        some (Text.numberOf run) else none) = some n
        ↔ run ≠ [] ∧ (∀ c ∈ run, c.isDigit) ∧ Nat.ofDigitChars 10 run 0 = n ∧ n ≤ 4294967295 := by
    intro run
    rw [Text.numberOf_eq_ofDigitChars]
    simp [UInt32.size]
    grind
  rw [argument?.eq_def]
  split
  next rest =>
    rw [hread]
    constructor
    · rintro ⟨hne, hrun, hn, hle⟩
      exact .intro (.inr rfl) hne hrun hn hle
    · generalize htext : '+' :: rest = text
      rintro ⟨rfl | rfl, hne, hrun, hn, hle⟩
      · rw [List.nil_append] at htext
        cases hrun '+' (htext ▸ List.mem_cons_self)
      · obtain rfl := List.tail_eq_of_cons_eq htext
        exact ⟨hne, hrun, hn, hle⟩
  next hsign =>
    rw [hread]
    constructor
    · rintro ⟨hne, hrun, hn, hle⟩
      exact .intro (.inl rfl) hne hrun hn hle
    · rintro ⟨rfl | rfl, hne, hrun, hn, hle⟩
      · exact ⟨hne, hrun, hn, hle⟩
      · cases hsign _ rfl

namespace Numeral

variable {text : List Char} {n : Nat} (h : Numeral text n)
include h

theorem eq_plus_or_isDigit :
  ∀ c ∈ text, c = '+' ∨ c.isDigit
  := by
  obtain ⟨rfl | rfl, -, hrun, -, -⟩ := h
  · intro c hc
    exact .inr (hrun c hc)
  · rw [List.singleton_append, List.forall_mem_cons]
    exact ⟨.inl rfl, fun c hc => .inr (hrun c hc)⟩

theorem solid :
  ∀ c ∈ text, isBlank c = false
  := by
  intro c hc
  obtain rfl | hdigit := h.eq_plus_or_isDigit c hc
  · decide
  · apply Text.isBlank_of_isDigit hdigit

theorem not_comma :
  ',' ∉ text
  := by
  intro hc
  obtain hplus | hdigit := h.eq_plus_or_isDigit ',' hc
  · cases hplus
  · cases hdigit

end Numeral

theorem argument?_trim_eq_some_iff {text : List Char} {n : Nat} :
  argument? (Text.trim text) = some n ↔ SpellsNumber text n
  := by
  rw [argument?_eq_some_iff]
  constructor
  · intro h
    obtain ⟨gap, gap', hgap, hgap', htext, -, -⟩ := Text.exists_append_trim_append text
    rw [← htext]
    apply SpellsNumber.intro hgap h hgap'
  · rintro ⟨hgap, h, hgap'⟩
    rw [Text.trim_append_append hgap hgap' (fun c hc => h.solid c (List.mem_of_mem_head? hc))
      (fun c hc => h.solid c (List.mem_of_mem_getLast? hc))]
    apply h

theorem SpellsNumber.not_comma {text : List Char} {n : Nat} (h : SpellsNumber text n) :
  ',' ∉ text
  := by
  obtain ⟨hgap, h, hgap'⟩ := h
  simp only [List.mem_append]
  rintro (hc | hc | hc)
  · cases hgap _ hc
  · apply h.not_comma hc
  · cases hgap' _ hc

/-! ## Lists of numbers -/

/-- Numbers are read from the parts of a list. -/
theorem spellsNumbers_intercalate {parts : List (List Char)} {ns : List Nat} (hne : parts ≠ [])
    (h : parts.mapM (fun part => argument? (Text.trim part)) = some ns) :
  SpellsNumbers ([','].intercalate parts) ns
  := by
  induction parts generalizing ns with
  | nil => cases hne rfl
  | cons part rest ih =>
    rw [List.mapM_cons] at h
    obtain ⟨n, hn, h⟩ := Option.bind_eq_some_iff.mp h
    obtain ⟨ms, hms, h⟩ := Option.bind_eq_some_iff.mp h
    obtain rfl := Option.some.inj h
    rw [argument?_trim_eq_some_iff] at hn
    cases rest with
    | nil =>
      obtain rfl : [] = ms := Option.some.inj hms
      rw [List.intercalate_singleton]
      apply SpellsNumbers.single hn
    | cons part' rest =>
      rw [List.intercalate_cons_cons, List.append_assoc]
      apply SpellsNumbers.cons hn (ih (List.cons_ne_nil _ _) hms)

/-- The numbers that a text spells are read from its parts. -/
theorem SpellsNumbers.mapM_splitOn {text : List Char} {ns : List Nat} (h : SpellsNumbers text ns) :
  (text.splitOn ',').mapM (fun part => argument? (Text.trim part)) = some ns
  := by
  induction h with
  | single h =>
    rw [List.splitOn_eq_singleton h.not_comma]
    simp [argument?_trim_eq_some_iff.mpr h]
  | cons h _ ih =>
    rw [List.splitOn_append_cons_self_of_not_mem h.not_comma, List.mapM_cons,
      argument?_trim_eq_some_iff.mpr h, ih]
    rfl

theorem arguments?_eq_some_iff {text : List Char} {ns : List Nat} :
  arguments? text = some ns ↔ ∃ list, text = list ++ [')'] ∧ SpellsNumbers list ns
  := by
  rw [arguments?]
  split
  next hlast =>
    obtain ⟨list, rfl⟩ := List.getLast?_eq_some_iff.mp hlast
    rw [List.dropLast_concat]
    constructor
    · intro h
      use list, rfl
      have hspelled := spellsNumbers_intercalate (List.splitOn_ne_nil ',' list) h
      rwa [List.intercalate_splitOn] at hspelled
    · rintro ⟨list', hlist, h⟩
      obtain rfl := List.append_cancel_right hlist
      apply h.mapM_splitOn
  next hlast =>
    constructor
    · rintro ⟨⟩
    · rintro ⟨list, rfl, -⟩
      simp at hlast

/-! ## Words -/

/-- A text that neither begins nor ends with a blank spells its words. -/
theorem spellsWords_of_words {words : List (List Char)} {text : List Char} (hne : words ≠ [])
    (hfirst : ∀ c ∈ text.head?, isBlank c = false) (hlast : ∀ c ∈ text.getLast?, isBlank c = false)
    (h : (Text.words text).map (List.map Char.toUpper) = words) :
  SpellsWords text words
  := by
  induction words generalizing text with
  | nil => cases hne rfl
  | cons word others ih =>
    have htext : text ≠ [] := by
      rintro rfl
      cases h
    obtain ⟨first, gap, rest, rfl, hgap, hparted, hrest, hwords⟩ := Text.exists_word htext hfirst
    rw [hwords, List.map_cons, List.cons.injEq] at h
    by_cases hempty : gap = []
    · obtain rfl := hparted hempty
      obtain rfl : [] = others := h.2
      rw [hempty, List.append_nil, List.append_nil]
      apply SpellsWords.single h.1
    · have hbehind : rest ≠ [] := by
        rintro rfl
        rw [List.append_nil, List.getLast?_append_of_ne_nil _ hempty,
          List.getLast?_eq_some_getLast hempty] at hlast
        have hblank := hgap _ (List.getLast_mem hempty)
        rw [hlast _ rfl] at hblank
        cases hblank
      apply SpellsWords.cons h.1 hempty hgap
      apply ih _ hrest _ h.2
      · obtain ⟨_, _, _, -, -, -, -, hothers⟩ := Text.exists_word hbehind hrest
        rw [← h.2, hothers]
        apply List.cons_ne_nil
      · rw [List.getLast?_append_of_ne_nil _ (by simp [hbehind]),
          List.getLast?_append_of_ne_nil _ hbehind] at hlast
        apply hlast

/-- Words in capital letters are read from every text that spells them. -/
theorem SpellsWords.wordsReadAs {text : List Char} {words : List (List Char)}
    (h : SpellsWords text words) (hwords : ∀ word ∈ words, IsCapital word) :
  WordsReadAs words text
  := by
  have hread : ∀ {text word : List Char}, IsCapital word → text.map Char.toUpper = word →
      WordsReadAs [word] text := by
    intro text word hword hupper
    apply WordsReadAs.of_word hword
    apply Respelling.of_map_toUpper
    rw [hupper, List.map_congr_left fun c hc => toUpper_of_isUpper (hword.2 c hc), List.map_id']
  induction h with
  | single hupper => apply hread (hwords _ (List.mem_singleton_self _)) hupper
  | cons hupper hne hgap _ ih =>
    obtain ⟨hword, hrest⟩ := List.forall_mem_cons.mp hwords
    apply (hread hword hupper).append hne hgap (ih hrest)

/-- Words in capital letters are told from their text. -/
theorem words_eq_of_upper_eq {text : List Char} {words : List (List Char)} (hne : words ≠ [])
    (hwords : ∀ word ∈ words, IsCapital word)
    (h : ([' '].intercalate (Text.words text)).map Char.toUpper = [' '].intercalate words) :
  (Text.words text).map (List.map Char.toUpper) = words
  := by
  rw [map_intercalate] at h
  have hfound : ∀ word ∈ (Text.words text).map (List.map Char.toUpper), ' ' ∉ word := by
    rintro _ hmem hspace
    obtain ⟨word, hword, rfl⟩ := List.mem_map.mp hmem
    obtain ⟨c, hc, hupper⟩ := List.mem_map.mp hspace
    obtain rfl := eq_of_toUpper_eq (c := ' ') (by decide) hupper
    cases Text.isBlank_of_mem_words hword ' ' hc
  have hgiven : ∀ word ∈ words, ' ' ∉ word := by
    intro word hword hspace
    cases (hwords word hword).2 ' ' hspace
  have hsome : (Text.words text).map (List.map Char.toUpper) ≠ [] := by
    intro hnone
    rw [hnone] at h
    obtain ⟨word, rest, rfl⟩ := List.exists_cons_of_ne_nil hne
    obtain ⟨c, _, hword⟩ := List.exists_cons_of_ne_nil (hwords word List.mem_cons_self).1
    cases rest <;> simp [hword] at h
  rw [← List.splitOn_intercalate ' ' hfound hsome, ← List.splitOn_intercalate ' ' hgiven hne]
  apply congrArg _ h

/-! ## Type names -/

/-- The words and the numbers that are read of a text are spelled in it. -/
theorem exists_of_wireParts? {text : List Char} {words : List (List Char)}
    {arguments : Option (List Nat)} (hne : words ≠ []) (hwords : ∀ word ∈ words, IsCapital word)
    (h : wireParts? text = some (String.ofList ([' '].intercalate words), arguments)) :
  ∃ gap base list gap', IsGap gap ∧ SpellsWords base words ∧ SpellsList list arguments ∧ IsGap gap'
    ∧ text = gap ++ (base ++ list ++ gap')
  := by
  rw [wireParts?] at h
  obtain ⟨gap, gap', hgap, hgap', htext, hfirst, -⟩ := Text.exists_append_trim_append text
  -- What matters of the trimmed text is what is in front of its first parenthesis, and the rest.
  generalize Text.trim text = trimmed at h htext hfirst
  subst htext
  have hopening : ∀ c ∈ (trimmed.dropWhile (· ≠ '(')).head?, c = '(' := by
    intro c hc
    simpa using Text.eq_false_of_mem_head?_dropWhile hc
  rw [← List.takeWhile_append_dropWhile (p := (· ≠ '(')) (l := trimmed)] at hfirst ⊢
  generalize trimmed.takeWhile (· ≠ '(') = front at h hfirst
  generalize trimmed.dropWhile (· ≠ '(') = back at h hfirst hopening
  obtain ⟨between, hbetween, hfront, hlast⟩ := Text.exists_trimEnd_append front
  generalize Text.trimEnd front = base at h hfront hlast
  subst hfront
  have hspells : String.ofList (([' '].intercalate (Text.words base)).map Char.toUpper)
      = String.ofList ([' '].intercalate words) → SpellsWords base words := by
    intro hupper
    apply spellsWords_of_words hne _ hlast
      (words_eq_of_upper_eq hne hwords (String.ofList_injective hupper))
    intro c hc
    apply hfirst c
    rw [List.append_assoc, List.head?_append, Option.mem_def.mp hc]
    rfl
  cases back with
  | nil =>
    obtain ⟨hupper, rfl⟩ := Prod.mk.inj (Option.some.inj h)
    exact ⟨gap, base, [], between ++ gap', hgap, hspells hupper, .none, hbetween.append hgap',
      by simp⟩
  | cons c list =>
    obtain rfl := hopening c rfl
    obtain ⟨ns, hns, hparts⟩ := Option.map_eq_some_iff.mp h
    obtain ⟨hupper, rfl⟩ := Prod.mk.inj hparts
    obtain ⟨inner, rfl, hinner⟩ := arguments?_eq_some_iff.mp hns
    exact ⟨gap, base, _, gap', hgap, hspells hupper, .some hbetween hinner, hgap', by simp⟩

/-- The words and the numbers that a text spells are read of it. -/
theorem wireParts?_of_spells {words : List (List Char)} {arguments : Option (List Nat)}
    {gap base list gap' : List Char} (hgap : IsGap gap) (hbase : WordsReadAs words base)
    (hlist : SpellsList list arguments) (hgap' : IsGap gap') :
  wireParts? (gap ++ (base ++ list ++ gap'))
    = some (String.ofList ([' '].intercalate words), arguments)
  := by
  cases hlist with
  | none =>
    rw [List.append_nil]
    apply wireParts?_of_words hbase
    apply Text.trim_append_append hgap hgap' hbase.first hbase.last
  | @some between inner ns hbetween hinner =>
    have htrim : Text.trim (gap ++ (base ++ (between ++ '(' :: (inner ++ [')'])) ++ gap'))
        = (base ++ between) ++ '(' :: (inner ++ [')']) := by
      rw [← List.append_assoc base]
      apply Text.trim_append_append hgap hgap'
      · rw [List.append_assoc, List.head?_append_of_ne_nil _ hbase.ne_nil]
        apply hbase.first
      · rw [← List.cons_append, ← List.append_assoc, List.getLast?_concat]
        rintro c ⟨⟩
        decide
    rw [wireParts?_of_list hbase hbetween htrim, arguments?_eq_some_iff.mpr ⟨inner, rfl, hinner⟩]
    rfl

theorem GoesBy.isCapital {words : List (List Char)} {arguments : Option (List Nat)}
    {t : ColumnType} (h : GoesBy words arguments t) :
  words ≠ [] ∧ ∀ word ∈ words, IsCapital word
  := by
  cases h
  all_goals
    use List.cons_ne_nil _ _
    apply isCapital_of_all
    decide

theorem GoesBy.ofWireParts? {words : List (List Char)} {arguments : Option (List Nat)}
    {t : ColumnType} (h : GoesBy words arguments t) :
  ofWireParts? (String.ofList ([' '].intercalate words)) arguments = some t
  := by
  cases h with
  | precision precision =>
    change (byte? precision.toNat).map (ColumnType.decimal · 0) = _
    rw [byte?_toNat]
    rfl
  | scale precision scale =>
    change (do some (ColumnType.decimal (← byte? precision.toNat) (← byte? scale.toNat))) = _
    rw [byte?_toNat, byte?_toNat]
    rfl
  | length length =>
    change some (ColumnType.varchar (some (UInt32.ofNat length.toNat))) = _
    rw [UInt32.ofNat_toNat]
  | _ => rfl

theorem byte?_eq_some_iff {n : Nat} {b : UInt8} :
  byte? n = some b ↔ b.toNat = n
  := by
  constructor
  · intro h
    rw [byte?] at h
    split at h
    next hlt =>
      obtain rfl := Option.some.inj h
      apply UInt8.toNat_ofNat_of_lt hlt
    · cases h
  · rintro rfl
    apply byte?_toNat

/-- A column type that is told from words and numbers goes by them. -/
theorem exists_goesBy {upper : String} {arguments : Option (List Nat)} {t : ColumnType}
    (hle : ∀ ns ∈ arguments, ∀ n ∈ ns, n ≤ 4294967295) (h : ofWireParts? upper arguments = some t) :
  ∃ words, GoesBy words arguments t ∧ upper = String.ofList ([' '].intercalate words)
  := by
  rw [ofWireParts?.eq_def] at h
  split at h
  case h_6 n =>
    obtain ⟨precision, hprecision, rfl⟩ := Option.map_eq_some_iff.mp h
    rw [← byte?_eq_some_iff.mp hprecision]
    exact ⟨_, .precision precision, rfl⟩
  case h_7 n m =>
    obtain ⟨precision, hprecision, h⟩ := Option.bind_eq_some_iff.mp h
    obtain ⟨scale, hscale, h⟩ := Option.bind_eq_some_iff.mp h
    obtain rfl := Option.some.inj h
    rw [← byte?_eq_some_iff.mp hprecision, ← byte?_eq_some_iff.mp hscale]
    exact ⟨_, .scale precision scale, rfl⟩
  case h_10 n =>
    obtain rfl := Option.some.inj h
    obtain ⟨length, rfl⟩ : ∃ length : UInt32, n = length.toNat := by
      have hn := hle _ rfl n (List.mem_singleton_self _)
      use UInt32.ofNat n
      rw [UInt32.toNat_ofNat', Nat.mod_eq_of_lt (by omega)]
    rw [UInt32.ofNat_toNat]
    exact ⟨_, .length length, rfl⟩
  case h_13 => cases h
  all_goals
    obtain rfl := Option.some.inj h
    exact ⟨_, by constructor, rfl⟩

theorem SpellsNumbers.le {text : List Char} {ns : List Nat} (h : SpellsNumbers text ns) :
  ∀ n ∈ ns, n ≤ 4294967295
  := by
  have hle : ∀ {text : List Char} {n : Nat}, SpellsNumber text n → n ≤ 4294967295 := by
    rintro _ n ⟨-, ⟨-, -, -, -, hle⟩, -⟩
    apply hle
  induction h with
  | single h => simpa using hle h
  | cons h _ ih => exact List.forall_mem_cons.mpr ⟨hle h, ih⟩

/-- The numbers that are read of a type name have at most 32 bits. -/
theorem le_of_wireParts? {text : List Char} {upper : String} {arguments : Option (List Nat)}
    (h : wireParts? text = some (upper, arguments)) :
  ∀ ns ∈ arguments, ∀ n ∈ ns, n ≤ 4294967295
  := by
  rw [wireParts?] at h
  split at h
  · obtain ⟨-, rfl⟩ := Prod.mk.inj (Option.some.inj h)
    rintro ns ⟨⟩
  · obtain ⟨ns, hns, hparts⟩ := Option.map_eq_some_iff.mp h
    obtain ⟨-, rfl⟩ := Prod.mk.inj hparts
    obtain ⟨_, -, hspells⟩ := arguments?_eq_some_iff.mp hns
    rintro _ ⟨⟩
    apply hspells.le

/-- Just the texts of the grammar are read, each as the column type that it spells. -/
theorem ofWireName?_eq_some_iff {text : List Char} {t : ColumnType} :
  ofWireName? text = some t ↔ IsWireName text t
  := by
  constructor
  · intro h
    obtain ⟨⟨upper, arguments⟩, hparts, ht⟩ := Option.bind_eq_some_iff.mp h
    obtain ⟨words, hgoes, rfl⟩ := exists_goesBy (le_of_wireParts? hparts) ht
    obtain ⟨hne, hcapital⟩ := hgoes.isCapital
    obtain ⟨gap, base, list, gap', hgap, hbase, hlist, hgap', rfl⟩ :=
      exists_of_wireParts? hne hcapital hparts
    exact ⟨words, arguments, gap, base, list, gap', hgoes, hgap, hbase, hlist, hgap', rfl⟩
  · rintro ⟨words, arguments, gap, base, list, gap', hgoes, hgap, hbase, hlist, hgap', rfl⟩
    rw [ofWireName?, wireParts?_of_spells hgap (hbase.wordsReadAs hgoes.isCapital.2) hlist hgap']
    apply hgoes.ofWireParts?

/-- A type name is accepted just when it is one of the grammar, and stands for the column type that
it spells.  Any other text is reported, as it is, in one record of the log. -/
theorem ofWireName_accepts (name : String) :
  (∀ t, ofWireName name = .ok t ↔ IsWireName name.toList t)
    ∧ ((∀ t, ¬ IsWireName name.toList t)
      ↔ ofWireName name = ⟨.error (.ofCause (.unsupportedType name)),
        [⟨.error, "Unsupported column type `" ++ name ++ "`"⟩]⟩)
  := by
  simp only [← ofWireName?_eq_some_iff, ofWireName]
  cases ofWireName? name.toList with
  | none =>
    constructor
    · intro t
      constructor
      · intro h
        cases congrArg Report.result h
      · intro h
        cases h
    · constructor
      · intro _
        rfl
      · intro _ t h
        cases h
  | some t =>
    constructor
    · intro t'
      constructor
      · intro h
        exact congrArg some (Except.ok.inj (congrArg Report.result h))
      · intro h
        obtain rfl := Option.some.inj h
        rfl
    · constructor
      · intro h
        cases h t rfl
      · intro h
        cases congrArg Report.result h

example : ofWireName? "\tdecimal (+10 ,\n2) ".toList = some (decimal 10 2) := by decide

end SqlDialect.ColumnType
