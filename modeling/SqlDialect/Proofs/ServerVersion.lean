import SqlDialect.Proofs.Text.Blanks
import SqlDialect.Proofs.Text.Digits
import SqlDialect.ServerVersion

/-!
# Reading versions

A version is read from the first three runs of digits of a text, of which any that is missing
counts as zero.  There is none when the text has no digits or when one of the three denotes a
number beyond sixteen bits.  So a version is read back from its text, and whatever has no digits
makes no difference in front of the first run and behind the last one.
-/

namespace SqlDialect.ServerVersion

open Text (chunks)

/-! ## Runs of digits -/

/-- A text without digits. -/
def NoDigits (text : List Char) : Prop :=
  ∀ c ∈ text, c.isDigit = false

/-- There are no digits in nothing. -/
theorem noDigits_nil :
  NoDigits []
  := fun _ hc => absurd hc List.not_mem_nil

/-- There are no digits in a text just when neither its first character is one nor those behind it.
-/
theorem noDigits_cons {c : Char} {text : List Char} :
  NoDigits (c :: text) ↔ c.isDigit = false ∧ NoDigits text
  := List.forall_mem_cons

/-- The maximal runs of digits of a text, in order: in front of each there are no digits, and none
follows it at once. -/
inductive HasRuns : List Char → List (List Char) → Prop
  | none {gap : List Char} (h : NoDigits gap) : HasRuns gap []
  | cons {gap run rest : List Char} {runs : List (List Char)} (hgap : NoDigits gap)
    (hne : run ≠ []) (hrun : ∀ c ∈ run, c.isDigit) (hend : ∀ c ∈ rest.head?, c.isDigit = false)
    (hrest : HasRuns rest runs) : HasRuns (gap ++ (run ++ rest)) (run :: runs)

/-- The runs of digits are the chunks between other characters. -/
theorem runs_eq_chunks (text : List Char) :
  runs text = chunks (fun c => !c.isDigit) text
  := rfl

/-- A text without digits in front adds no run. -/
theorem runs_gap_append {gap : List Char} (h : NoDigits gap) (back : List Char) :
  runs (gap ++ back) = runs back
  := by
  apply Text.chunks_gap_append
  intro c hc
  rw [h c hc]
  rfl

/-- A text without digits behind adds no run. -/
theorem runs_append_gap {gap : List Char} (h : NoDigits gap) (front : List Char) :
  runs (front ++ gap) = runs front
  := by
  apply Text.chunks_append_gap
  intro c hc
  rw [h c hc]
  rfl

/-- A text without digits has no runs. -/
theorem runs_of_noDigits {gap : List Char} (h : NoDigits gap) :
  runs gap = []
  := by
  rw [← List.append_nil gap, runs_gap_append h]
  rfl

/-- Blanks around a text belong to no run. -/
theorem runs_trim (text : List Char) :
  runs (Text.trim text) = runs text
  := by
  have hblank : ∀ {gap}, Text.IsGap gap → NoDigits gap := by
    intro gap hgap c hc
    by_contra h
    rw [Bool.not_eq_false] at h
    have hsolid := Text.isBlank_of_isDigit h
    rw [hgap c hc] at hsolid
    cases hsolid
  obtain ⟨front, behind, hfront, hbehind, htext, -⟩ := Text.exists_append_trim_append text
  calc runs (Text.trim text)
    _ = runs (front ++ Text.trim text) := (runs_gap_append (hblank hfront) _).symm
    _ = runs (front ++ Text.trim text ++ behind) := (runs_append_gap (hblank hbehind) _).symm
    _ = runs text := by rw [List.append_assoc, htext]

/-- A run that no digit follows is the first one. -/
theorem runs_append {run rest : List Char} (hne : run ≠ []) (hrun : ∀ c ∈ run, c.isDigit)
    (hend : ∀ c ∈ rest.head?, c.isDigit = false) :
  runs (run ++ rest) = run :: runs rest
  := by
  have hsolid : runs run = [run] := by
    apply Text.chunks_of_solid hne
    intro c hc
    rw [hrun c hc]
    rfl
  cases rest with
  | nil => rw [List.append_nil, hsolid, runs_of_noDigits noDigits_nil]
  | cons c rest =>
    have hc : c.isDigit = false := hend c rfl
    have hbehind : runs (c :: rest) = runs rest :=
      runs_gap_append (noDigits_cons.mpr ⟨hc, noDigits_nil⟩) rest
    rw [hbehind, runs_eq_chunks, Text.chunks_append_cons (by simp [hc]), ← runs_eq_chunks, hsolid]
    rfl

/-- The runs that a text has are those that are found in it. -/
theorem HasRuns.runs_eq {text : List Char} {found : List (List Char)} (h : HasRuns text found) :
  runs text = found
  := by
  induction h with
  | none h => apply runs_of_noDigits h
  | cons hgap hne hrun hend _ ih => rw [runs_gap_append hgap, runs_append hne hrun hend, ih]

/-- A text has the same runs behind a character that is no digit. -/
theorem HasRuns.cons_of_noDigit {c : Char} (hc : c.isDigit = false) {text : List Char}
    {found : List (List Char)} (h : HasRuns text found) :
  HasRuns (c :: text) found
  := by
  cases h with
  | none h => exact .none (noDigits_cons.mpr ⟨hc, h⟩)
  | cons hgap hne hrun hend hrest => exact .cons (noDigits_cons.mpr ⟨hc, hgap⟩) hne hrun hend hrest

/-- A run may be at the start of the text. -/
theorem HasRuns.run_append {run rest : List Char} {found : List (List Char)} (hne : run ≠ [])
    (hrun : ∀ c ∈ run, c.isDigit) (hend : ∀ c ∈ rest.head?, c.isDigit = false)
    (hrest : HasRuns rest found) :
  HasRuns (run ++ rest) (run :: found)
  := .cons noDigits_nil hne hrun hend hrest

/-- A digit in front of a text goes on into its first run or is a run by itself. -/
theorem HasRuns.exists_cons {c : Char} (hc : c.isDigit) {text : List Char}
    {found : List (List Char)} (h : HasRuns text found) :
  ∃ found', HasRuns (c :: text) found'
  := by
  have halone : (∀ d ∈ text.head?, d.isDigit = false) → ∃ found', HasRuns (c :: text) found' := by
    intro hend
    use [c] :: found
    apply run_append (List.cons_ne_nil c []) (by simpa using hc) hend h
  cases h with
  | none h =>
    apply halone
    intro d hd
    apply h d (List.mem_of_mem_head? hd)
  | @cons gap run rest runs hgap hne hrun hend hrest =>
    cases gap with
    | nil =>
      use (c :: run) :: runs
      apply run_append (List.cons_ne_nil c run) (List.forall_mem_cons.mpr ⟨hc, hrun⟩) hend hrest
    | cons d gap =>
      apply halone
      rintro _ ⟨⟩
      apply hgap d List.mem_cons_self

/-- Every text has runs. -/
theorem exists_hasRuns (text : List Char) :
  ∃ found, HasRuns text found
  := by
  induction text with
  | nil => exact ⟨[], .none noDigits_nil⟩
  | cons c rest ih =>
    obtain ⟨found, h⟩ := ih
    cases hc : c.isDigit with
    | true => apply h.exists_cons hc
    | false => exact ⟨found, h.cons_of_noDigit hc⟩

/-- A text has exactly one list of runs. -/
theorem hasRuns_iff {text : List Char} {found : List (List Char)} :
  HasRuns text found ↔ found = runs text
  := by
  constructor
  · intro h
    apply h.runs_eq.symm
  · rintro rfl
    obtain ⟨found, h⟩ := exists_hasRuns text
    rwa [h.runs_eq]

/-! ## What runs denote -/

/-- The number that the run at the given place denotes, zero when there is none. -/
def number (found : List (List Char)) (place : Nat) : Nat :=
  found[place]?.elim 0 (Nat.ofDigitChars 10 · 0)

/-- The version that runs of digits denote. -/
structure Denotes (found : List (List Char)) (version? : Option ServerVersion) : Prop where
  eq_none_iff : version? = none ↔ found = [] ∨ ∃ place < 3, 65535 < number found place
  major : ∀ v ∈ version?, v.major.toNat = number found 0
  minor : ∀ v ∈ version?, v.minor.toNat = number found 1
  patch : ∀ v ∈ version?, v.patch.toNat = number found 2

/-- Runs denote no version when there are none, or when one of the first three is too large. -/
theorem denotes_none {found : List (List Char)}
    (h : found = [] ∨ ∃ place < 3, 65535 < number found place) :
  Denotes found none
  where
  eq_none_iff := by simp [h]
  major := by simp
  minor := by simp
  patch := by simp

/-- The number of a version that is read at the given place. -/
def numberAt? (found : List (List Char)) (place : Nat) : Option UInt16 :=
  part? (found[place]?.getD ['0'])

/-- A number is read exactly when it has sixteen bits. -/
theorem numberAt?_cases (found : List (List Char)) (place : Nat) :
  (65535 < number found place ∧ numberAt? found place = none)
    ∨ ∃ x, numberAt? found place = some x ∧ x.toNat = number found place
  := by
  have hnumber : number found place = Text.numberOf (found[place]?.getD ['0']) := by
    rw [number, Text.numberOf_eq_ofDigitChars]
    cases found[place]? <;> rfl
  rw [numberAt?, part?, hnumber]
  split
  next h =>
    right
    exact ⟨_, rfl, UInt16.toNat_ofNat_of_lt' h⟩
  next h =>
    left
    exact ⟨Nat.le_of_not_lt h, rfl⟩

/-- A version is read from the first three runs where there is a run at all. -/
theorem parse?_eq {text : List Char} (hne : runs text ≠ []) :
  parse? text = (do
    some ⟨← numberAt? (runs text) 0, ← numberAt? (runs text) 1, ← numberAt? (runs text) 2⟩)
  := by
  rw [parse?, runs_trim]
  cases h : runs text with
  | nil => cases hne h
  | cons major rest =>
    obtain _ | ⟨minor, _ | ⟨patch, rest⟩⟩ := rest <;> rfl

/-- What is read from a text is what its runs denote. -/
theorem denotes_parse? (text : List Char) :
  Denotes (runs text) (parse? text)
  := by
  by_cases hne : runs text = []
  · rw [parse?, runs_trim, hne]
    apply denotes_none (.inl rfl)
  rw [parse?_eq hne]
  obtain ⟨hlarge, hmajor⟩ | ⟨major, hmajor, hmajor'⟩ := numberAt?_cases (runs text) 0
  · rw [hmajor]
    apply denotes_none (.inr ⟨0, by decide, hlarge⟩)
  obtain ⟨hlarge, hminor⟩ | ⟨minor, hminor, hminor'⟩ := numberAt?_cases (runs text) 1
  · rw [hmajor, hminor]
    apply denotes_none (.inr ⟨1, by decide, hlarge⟩)
  obtain ⟨hlarge, hpatch⟩ | ⟨patch, hpatch, hpatch'⟩ := numberAt?_cases (runs text) 2
  · rw [hmajor, hminor, hpatch]
    apply denotes_none (.inr ⟨2, by decide, hlarge⟩)
  rw [hmajor, hminor, hpatch]
  constructor
  · simp only [Option.bind_eq_bind, Option.bind_some, reduceCtorEq, hne, false_or, false_iff]
    rintro ⟨place, hplace, hlarge⟩
    have hfits : number (runs text) place < 65536 := by
      obtain rfl | rfl | rfl : place = 0 ∨ place = 1 ∨ place = 2 := by omega
      · rw [← hmajor']
        apply major.toNat_lt
      · rw [← hminor']
        apply minor.toNat_lt
      · rw [← hpatch']
        apply patch.toNat_lt
    omega
  · rintro _ ⟨⟩
    apply hmajor'
  · rintro _ ⟨⟩
    apply hminor'
  · rintro _ ⟨⟩
    apply hpatch'

/-! ## Texts of versions -/

/-- The digits of a number are a run by themselves when no digit follows. -/
theorem runs_digits_append (n : Nat) {rest : List Char}
    (hend : ∀ c ∈ rest.head?, c.isDigit = false) :
  runs (Text.digits n ++ rest) = Text.digits n :: runs rest
  := runs_append Nat.toDigits_ne_nil (fun _ hc => Text.isDigit_of_mem_digits hc) hend

/-- The digits of a number are a single run. -/
theorem runs_digits (n : Nat) :
  runs (Text.digits n) = [Text.digits n]
  := by
  rw [← List.append_nil (Text.digits n), runs_digits_append n (by simp)]
  rw [runs_of_noDigits noDigits_nil, List.append_nil]

/-- The runs of the text of a version are its three numbers. -/
theorem runs_text (v : ServerVersion) :
  runs v.text.toList
    = [Text.digits v.major.toNat, Text.digits v.minor.toNat, Text.digits v.patch.toNat]
  := by
  have hpoint : NoDigits ['.'] := by simp [NoDigits]
  rw [text, Text.integer_natCast, Text.integer_natCast, Text.integer_natCast]
  simp only [String.toList_append, String.toList_ofList, List.append_assoc]
  change runs (_ ++ (['.'] ++ (_ ++ (['.'] ++ _)))) = _
  rw [runs_digits_append _ (by simp), runs_gap_append hpoint, runs_digits_append _ (by simp),
    runs_gap_append hpoint, runs_digits]

/-- The text of a version is read back as the version. -/
theorem parse?_text (v : ServerVersion) :
  parse? v.text.toList = some v
  := by
  have hpart : ∀ x : UInt16, part? (Text.digits x.toNat) = some x := by
    intro x
    rw [part?, Text.numberOf_digits, if_pos x.toNat_lt, UInt16.ofNat_toNat]
  rw [parse?, runs_trim, runs_text]
  simp [hpart]

/-- What has no digits makes no difference where there are none in front of it or none behind. -/
theorem parse?_insert {front gap back : List Char} (hgap : NoDigits gap)
    (h : NoDigits front ∨ NoDigits back) :
  parse? (front ++ (gap ++ back)) = parse? (front ++ back)
  := by
  have hruns : runs (front ++ (gap ++ back)) = runs (front ++ back) := by
    obtain h | h := h
    · rw [runs_gap_append h, runs_gap_append hgap, runs_gap_append h]
    · rw [runs_append_gap (List.forall_mem_append.mpr ⟨hgap, h⟩), runs_append_gap h]
  rw [parse?, parse?, runs_trim, runs_trim, hruns]

/-- The version that is read from a text is the one that its runs of digits denote, none when they
denote none.  A version is read back from its text, and what has no digits makes no difference in
front of the first run and behind the last. -/
theorem versions_read_from_runs :
  (∀ text, ∃ found, (∀ found', HasRuns text found' ↔ found' = found) ∧ Denotes found (parse? text))
    ∧ (∀ v : ServerVersion, parse? v.text.toList = some v)
    ∧ ∀ front gap back, NoDigits gap → NoDigits front ∨ NoDigits back →
      parse? (front ++ (gap ++ back)) = parse? (front ++ back)
  := by
  refine ⟨?_, parse?_text, ?_⟩
  · intro text
    exact ⟨runs text, fun _ => hasRuns_iff, denotes_parse? text⟩
  · intro front gap back hgap h
    apply parse?_insert hgap h

/-- Words in front of a version do not change what is read, nor do words behind its three numbers.
-/
theorem versions_read_from_runs_release :
  NoDigits "OpenEdge Release ".toList ∧ NoDigits []
    ∧ parse? ([] ++ ("OpenEdge Release ".toList ++ "11.007, 2nd of 70000".toList))
      = parse? "11.007, 2nd of 70000".toList
    ∧ parse? "11.007, 2nd of 70000".toList = some ⟨11, 7, 2⟩
  := by
  have hgap : NoDigits "OpenEdge Release ".toList := by simp [NoDigits]
  use hgap, noDigits_nil
  use versions_read_from_runs.2.2 [] _ "11.007, 2nd of 70000".toList hgap (.inl noDigits_nil)
  decide +kernel

end SqlDialect.ServerVersion
