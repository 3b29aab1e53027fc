import SqlDialect.Proofs.Calendar.Instants
import SqlDialect.Proofs.Render.Binding
import SqlDialect.Proofs.Text.Digits

/-!
# Reading timestamps back

A timestamp is read back from its literal: the sign and the digits of the year, two digits
for each part behind it, and the places of the fraction.  The literal of a moment is that
of its timestamp in UTC, so it tells the instants within the calendar apart and denotes
them.
-/

namespace SqlDialect

open Text (numberOf)

/-! ## A reader of timestamps -/

/-- The number in front of a text, and what is behind it. -/
def Text.readNumber? (text : List Char) : Option (Nat × List Char) :=
  if text.takeWhile Char.isDigit = [] then none
  else some (numberOf (text.takeWhile Char.isDigit), text.dropWhile Char.isDigit)

/-- The number of two digits behind a mark in front of a text, and what is behind it. -/
def Text.readTwo? (mark : Char) : List Char → Option (Nat × List Char)
  | c :: tens :: ones :: rest =>
    if c = mark ∧ tens.isDigit ∧ ones.isDigit then some (numberOf [tens, ones], rest) else none
  | _ => none

/-- The year in front of a text, after a minus sign or without a sign, and what is behind it. -/
def Date.readYear? : List Char → Option (Int × List Char)
  | '-' :: text => (Text.readNumber? text).map fun (n, rest) => (-(n : Int), rest)
  | text => (Text.readNumber? text).map fun (n, rest) => ((n : Int), rest)

/-- The nanoseconds of a decimal fraction of a second behind a point, of none when there is no
text. -/
def Clock.readFraction? : List Char → Option Nat
  | [] => some 0
  | '.' :: places =>
    if places ≠ [] ∧ places.length ≤ 9 ∧ places.all Char.isDigit then
      some (numberOf places * 10 ^ (9 - places.length))
    else none
  | _ => none

/-- The timestamp that a text spells: year, month, day, hour, minute and second, and the fraction of
the second. -/
def Timestamp.read? (text : List Char) : Option Timestamp := do
  let (year, rest) ← Date.readYear? text
  let (month, rest) ← Text.readTwo? '-' rest
  let (day, rest) ← Text.readTwo? '-' rest
  let (hour, rest) ← Text.readTwo? ' ' rest
  let (minute, rest) ← Text.readTwo? ':' rest
  let (second, rest) ← Text.readTwo? ':' rest
  let nanosecond ← Clock.readFraction? rest
  let date ← Date.ofParts? year month day
  let clock ← Clock.ofParts? hour minute second nanosecond
  return ⟨date, clock⟩

/-! ## Parts -/

theorem Text.readNumber?_append {run rest : List Char} (hne : run ≠ [])
    (hrun : ∀ c ∈ run, c.isDigit) (hrest : ∀ c ∈ rest.head?, c.isDigit = false) :
  readNumber? (run ++ rest) = some (numberOf run, rest)
  := by
  have hbehind : rest.takeWhile Char.isDigit = [] ∧ rest.dropWhile Char.isDigit = rest := by
    cases rest with
    | nil => exact ⟨rfl, rfl⟩
    | cons c rest => simp [hrest c rfl]
  rw [readNumber?, List.takeWhile_append_of_pos hrun, List.dropWhile_append_of_pos hrun,
    hbehind.1, hbehind.2, List.append_nil, if_neg hne]

theorem Text.readTwo?_padded {n : Nat} (mark : Char) (h : n < 100) (rest : List Char) :
  readTwo? mark (mark :: (paddedDigits 2 n ++ rest)) = some (n, rest)
  := by
  obtain ⟨tens, ones, htwo⟩ := List.length_eq_two.mp (length_paddedDigits (by decide) h)
  have htens : tens.isDigit := isDigit_of_mem_paddedDigits (htwo ▸ List.mem_cons_self)
  have hones : ones.isDigit :=
    isDigit_of_mem_paddedDigits (htwo ▸ List.mem_cons_of_mem _ List.mem_cons_self)
  have hnumber := numberOf_paddedDigits 2 n
  rw [htwo] at hnumber ⊢
  change (if mark = mark ∧ tens.isDigit ∧ ones.isDigit then _ else none) = _
  rw [if_pos ⟨rfl, htens, hones⟩, hnumber]
  rfl

theorem Date.readYear?_yearText (year : Int) {rest : List Char}
    (hrest : ∀ c ∈ rest.head?, c.isDigit = false) :
  readYear? ((yearText year).toList ++ rest) = some (year, rest)
  := by
  have hnumber : ∀ width, Text.readNumber? (Text.paddedDigits width year.natAbs ++ rest)
      = some (year.natAbs, rest) := by
    intro width
    rw [Text.readNumber?_append (Text.paddedDigits_ne_nil _ _)
      (fun _ => Text.isDigit_of_mem_paddedDigits) hrest, Text.numberOf_paddedDigits]
  rw [yearText]
  split
  next h =>
    rw [String.toList_append, Text.padded, String.toList_ofList, String.toList_ofList,
      List.singleton_append, List.cons_append, readYear?, hnumber, Option.map_some]
    dsimp only
    rw [Int.ofNat_natAbs_of_nonpos (Int.le_of_lt h), Int.neg_neg]
  next h =>
    have hsign : ∀ text, Text.paddedDigits 4 year.natAbs ++ rest ≠ '-' :: text := by
      intro text htext
      obtain ⟨c, others, hdigits⟩ :=
        List.exists_cons_of_ne_nil (Text.paddedDigits_ne_nil 4 year.natAbs)
      have hc : c.isDigit := Text.isDigit_of_mem_paddedDigits (hdigits ▸ List.mem_cons_self)
      rw [hdigits] at htext
      obtain rfl := List.head_eq_of_cons_eq htext
      cases hc
    rw [Text.padded, String.toList_ofList, readYear?.eq_2 _ hsign, hnumber, Option.map_some]
    dsimp only
    rw [Int.natAbs_of_nonneg (Int.not_lt.mp h)]

theorem Clock.readFraction?_fraction {n : Nat} (hne : n ≠ 0) (h : n < 1000000000) :
  readFraction? ('.' :: (Text.fraction 9 n).toList) = some n
  := by
  obtain ⟨hlength, hnumber⟩ := Text.numberOf_fraction (by decide : 0 < 9) h
  have hplaces : (Text.fraction 9 n).toList ≠ [] ∧ (Text.fraction 9 n).toList.length ≤ 9
      ∧ (Text.fraction 9 n).toList.all Char.isDigit :=
    ⟨Text.fraction_ne_nil hne, hlength, List.all_eq_true.mpr fun _ => Text.isDigit_of_mem_fraction⟩
  rw [readFraction?, if_pos hplaces, hnumber]

/-- What is written behind the whole seconds. -/
def Clock.fractionText (c : Clock) : List Char :=
  if c.nanosecond.val = 0 then [] else '.' :: (Text.fraction 9 c.nanosecond).toList

theorem Clock.readFraction?_fractionText (c : Clock) :
  readFraction? c.fractionText = some c.nanosecond.val
  := by
  rw [fractionText]
  split
  next h => rw [h, readFraction?]
  next h => exact readFraction?_fraction h c.nanosecond.isLt

theorem Clock.ofParts?_eq (c : Clock) :
  ofParts? c.hour c.minute c.second c.nanosecond = some c
  := dif_pos ⟨⟨c.hour.isLt, c.minute.isLt⟩, c.second.isLt, c.nanosecond.isLt⟩

/-- What is written up to the whole seconds. -/
def Timestamp.wholeText (t : Timestamp) : List Char :=
  (yearText t.date.year).toList ++ '-' :: (Text.paddedDigits 2 t.date.month
    ++ '-' :: (Text.paddedDigits 2 t.date.day ++ ' ' :: (Text.paddedDigits 2 t.clock.hour
    ++ ':' :: (Text.paddedDigits 2 t.clock.minute ++ ':' :: Text.paddedDigits 2 t.clock.second))))

theorem Timestamp.toList_text (t : Timestamp) :
  t.text.toList = t.wholeText ++ t.clock.fractionText
  := by
  rw [text, Date.text, Clock.text, wholeText, Clock.fractionText]
  split
  · simp [Text.padded]
  · simp [Text.padded]

/-- A timestamp is read back from its text. -/
theorem Timestamp.read?_text (t : Timestamp) :
  read? t.text.toList = some t
  := by
  have hmonth : t.date.month < 100 := Nat.lt_of_le_of_lt t.date.month_le (by decide)
  have hday : t.date.day < 100 :=
    Nat.lt_of_le_of_lt (Nat.le_trans t.date.day_le (Date.monthLength_le _ _)) (by decide)
  have hhour : t.clock.hour.val < 100 := Nat.lt_trans t.clock.hour.isLt (by decide)
  have hminute : t.clock.minute.val < 100 := Nat.lt_trans t.clock.minute.isLt (by decide)
  have hsecond : t.clock.second.val < 100 := Nat.lt_trans t.clock.second.isLt (by decide)
  have hdate : Date.ofParts? t.date.year t.date.month t.date.day = some t.date :=
    Date.ofParts?_eq_some_iff.mpr ⟨rfl, rfl, rfl⟩
  have hyear : ∀ rest, Date.readYear? ((yearText t.date.year).toList ++ '-' :: rest)
      = some (t.date.year, '-' :: rest) :=
    fun rest => Date.readYear?_yearText _ (by simp)
  rw [toList_text, wholeText]
  simp only [List.append_assoc, List.cons_append]
  simp only [read?, Option.bind_eq_bind, Option.bind_some, hyear, Text.readTwo?_padded _ hmonth,
    Text.readTwo?_padded _ hday, Text.readTwo?_padded _ hhour, Text.readTwo?_padded _ hminute,
    Text.readTwo?_padded _ hsecond, Clock.readFraction?_fractionText, hdate, Clock.ofParts?_eq]
  rfl

/-! ## Literals -/

/-- A text has a point exactly for a fraction of a second, and behind a point there are one to nine
digits of which the last is not zero. -/
structure Clock.WritesFraction (c : Clock) (text : List Char) : Prop where
  point : '.' ∈ text ↔ c.nanosecond.val ≠ 0
  places : ∀ whole places, text = whole ++ '.' :: places → 1 ≤ places.length ∧ places.length ≤ 9
    ∧ (∀ c ∈ places, c.isDigit) ∧ places.getLast? ≠ some '0'

/-- Up to the whole seconds there are digits and three marks. -/
theorem Timestamp.mem_wholeText {t : Timestamp} {c : Char} (h : c ∈ t.wholeText) :
  c.isDigit ∨ c ∈ ['-', ' ', ':']
  := by
  have hyear : c ∈ (yearText t.date.year).toList → c.isDigit ∨ c = '-' := by
    rw [yearText]
    split
    · rw [String.toList_append, Text.padded, String.toList_ofList, String.toList_ofList]
      intro hc
      obtain rfl | hc := List.mem_cons.mp hc
      · exact .inr rfl
      · exact .inl (Text.isDigit_of_mem_paddedDigits hc)
    · rw [Text.padded, String.toList_ofList]
      intro hc
      exact .inl (Text.isDigit_of_mem_paddedDigits hc)
  have hpadded : ∀ n, c ∈ Text.paddedDigits 2 n → c.isDigit :=
    fun n => Text.isDigit_of_mem_paddedDigits
  simp only [wholeText, List.mem_append, List.mem_cons] at h ⊢
  grind

theorem Timestamp.not_mem_wholeText (t : Timestamp) {c : Char}
    (h : ¬ (c.isDigit ∨ c ∈ ['-', ' ', ':'])) :
  c ∉ t.wholeText
  := fun hmem => h (mem_wholeText hmem)

theorem Timestamp.writesFraction (t : Timestamp) :
  t.clock.WritesFraction t.text.toList
  := by
  have hwhole : '.' ∉ t.wholeText := t.not_mem_wholeText (by decide)
  rw [toList_text, Clock.fractionText]
  split
  next h =>
    rw [List.append_nil]
    constructor
    · simp [hwhole, h]
    · rintro whole places heq
      rw [heq] at hwhole
      simp at hwhole
  next h =>
    have hplaces : '.' ∉ (Text.fraction 9 t.clock.nanosecond).toList := by
      intro hmem
      cases Text.isDigit_of_mem_fraction hmem
    constructor
    · simp [h]
    · rintro whole places heq
      obtain ⟨-, -, rfl⟩ := (List.append_cons_inj_of_notMem hwhole hplaces).mp heq
      exact ⟨List.length_pos_iff.mpr (Text.fraction_ne_nil h),
        (Text.numberOf_fraction (by decide) t.clock.nanosecond.isLt).1,
        fun _ => Text.isDigit_of_mem_fraction, Text.getLast?_fraction_ne _ _⟩

theorem Timestamp.not_mem_text (t : Timestamp) :
  '\'' ∉ t.text.toList
  := by
  intro h
  rw [toList_text, Clock.fractionText] at h
  obtain h | h := List.mem_append.mp h
  · exact t.not_mem_wholeText (by decide) h
  · split at h
    · cases h
    · obtain h | h := List.mem_cons.mp h
      · cases h
      · cases Text.isDigit_of_mem_fraction h

namespace Style

variable (style : Style)

theorem literal_timestamp (t : Timestamp) :
  style.literal (.timestamp (some t)) = '\'' :: (t.text.toList ++ ['\''])
  := by
  change (Piece.textOf [.literal t.text]).toList = _
  rw [Piece.toList_textOf, List.flatMap_singleton, Piece.literal, Piece.text,
    String.toList_ofList, Text.quote, Text.double_of_not_mem t.not_mem_text, List.cons_append]

variable {style} {m : Moment} {t : Timestamp}

/-- A moment is written as its timestamp in UTC. -/
theorem literal_moment (h : m.utc? = some t) :
  style.literal (.moment (some m)) = style.literal (.timestamp (some t))
  := by
  have hpieces : m.pieces = [.literal t.text] := by rw [Moment.pieces, h]
  change (Piece.textOf m.pieces).toList = (Piece.textOf [.literal t.text]).toList
  rw [hpieces]

/-- Timestamps are told apart by their literals. -/
theorem literal_timestamp_inj {u : Timestamp} :
  style.literal (.timestamp (some t)) = style.literal (.timestamp (some u)) ↔ t = u
  := by
  constructor
  · intro h
    rw [literal_timestamp, literal_timestamp, List.cons_inj_right, List.append_left_inj] at h
    have hread := Timestamp.read?_text t
    rw [h, Timestamp.read?_text] at hread
    exact (Option.some.inj hread).symm
  · rintro rfl
    rfl

end Style

/-- A timestamp is read back from its literal, which has a fraction exactly when there are
nanoseconds.  The literals of moments within the calendar are equal exactly when the moments denote
the same instant, and what is read from such a literal denotes the instant in UTC. -/
theorem timestamps_read_back (style : Style) :
  (∀ t : Timestamp, ∃ text, style.literal (.timestamp (some t)) = '\'' :: (text ++ ['\''])
      ∧ Timestamp.read? text = some t ∧ t.clock.WritesFraction text)
    ∧ (∀ x y : Moment, x.InCalendar → y.InCalendar →
      (style.literal (.moment (some x)) = style.literal (.moment (some y))
        ↔ x.instant = y.instant))
    ∧ ∀ m : Moment, m.InCalendar →
      ∃ text t, style.literal (.moment (some m)) = '\'' :: (text ++ ['\''])
        ∧ Timestamp.read? text = some t ∧ t.atUtc.instant = m.instant
  := by
  constructor
  · intro t
    exact ⟨_, style.literal_timestamp t, t.read?_text, t.writesFraction⟩
  constructor
  · intro x y hx hy
    obtain ⟨t, ht⟩ := Moment.inCalendar_iff.mp hx
    obtain ⟨u, hu⟩ := Moment.inCalendar_iff.mp hy
    rw [Style.literal_moment ht, Style.literal_moment hu, Style.literal_timestamp_inj,
      ← Timestamp.instant_atUtc_inj, Moment.utc?_eq_some_iff.mp ht, Moment.utc?_eq_some_iff.mp hu]
  · intro m hm
    obtain ⟨t, ht⟩ := Moment.inCalendar_iff.mp hm
    rw [Style.literal_moment ht]
    exact ⟨_, t, style.literal_timestamp t, t.read?_text, Moment.utc?_eq_some_iff.mp ht⟩

/-- Half past midnight on the first of March 2024, an hour ahead of UTC. -/
def nightOfMarch : Moment where
  wall := ⟨⟨2024, 3, 1, by decide, by decide, by decide, by decide, by decide, by decide⟩,
    ⟨0, 30, 0, 250000000⟩⟩
  offset := 3600
  offset_ge := by decide
  offset_le := by decide

/-- Half past six in the evening of the leap day, five hours behind UTC. -/
def leapEvening : Moment where
  wall := ⟨⟨2024, 2, 29, by decide, by decide, by decide, by decide, by decide, by decide⟩,
    ⟨18, 30, 0, 250000000⟩⟩
  offset := -18000
  offset_ge := by decide
  offset_le := by decide

/-- Two clocks show the same instant of the leap day in UTC. -/
theorem timestamps_read_back_leapDay :
  nightOfMarch.InCalendar ∧ leapEvening.InCalendar
    ∧ Style.openEdge.literal (.moment (some nightOfMarch))
      = Style.openEdge.literal (.moment (some leapEvening))
    ∧ ∃ text t, Style.openEdge.literal (.moment (some nightOfMarch)) = '\'' :: (text ++ ['\''])
      ∧ Timestamp.read? text = some t ∧ t.atUtc.instant = nightOfMarch.instant
  := by
  have hnight : nightOfMarch.InCalendar := by
    constructor
    · decide
    · decide
  have hevening : leapEvening.InCalendar := by
    constructor
    · decide
    · decide
  obtain ⟨-, hsame, hread⟩ := timestamps_read_back .openEdge
  use hnight, hevening
  constructor
  · apply (hsame nightOfMarch leapEvening hnight hevening).mpr
    rfl
  · apply hread nightOfMarch hnight

end SqlDialect
