import Mathlib.Tactic.Common
import SqlDialect.Failure.Basic

/-!
# Disconnects under contexts

The phrases of a lost connection are looked for in the whole text of a failure, so a context
that a failure is put under takes part: the failure is a disconnect under the context when
it was one before or when the text of the context has one of the phrases in it.  No phrase
is found across the place where two texts are joined.
-/

namespace SqlDialect

/-! ## Phrases in texts -/

theorem mentions_iff_isInfix (phrase text : List Char) :
  mentions phrase text ↔ phrase <:+: text
  := by
  induction text with
  | nil => simp [mentions]
  | cons c rest ih =>
    rw [mentions, Bool.or_eq_true, ih, List.infix_cons_iff, List.isPrefixOf_iff_prefix]

/-- What does not contain a separator is found on one of its two sides. -/
theorem infix_append_cons_iff {c : Char} {phrase : List Char} (h : c ∉ phrase)
    (xs ys : List Char) :
  phrase <:+: xs ++ c :: ys ↔ phrase <:+: xs ∨ phrase <:+: ys
  := by
  have hprefix : ∀ {zs}, c ∉ zs → zs <+: c :: ys → zs = [] := by
    intro zs hzs hprefix
    cases zs with
    | nil => rfl
    | cons d zs =>
      obtain ⟨rfl, -⟩ := List.cons_prefix_cons.mp hprefix
      simp at hzs
  constructor
  · intro hinfix
    obtain hxs | hys | ⟨start, finish, rfl, hstart, hfinish⟩ := List.infix_append_iff.mp hinfix
    · apply Or.inl hxs
    · obtain hys | hys := List.infix_cons_iff.mp hys
      · obtain rfl := hprefix h hys
        apply Or.inl (List.nil_infix)
      · apply Or.inr hys
    · rw [List.mem_append, not_or] at h
      obtain rfl := hprefix h.2 hfinish
      rw [List.append_nil]
      apply Or.inl hstart.isInfix
  · rintro (hxs | hys)
    · apply List.infix_append_of_infix_left hxs
    · apply List.infix_append_of_infix_right
      apply List.infix_cons_iff.mpr (.inr hys)

/-- What starts, and not with a blank, is found behind a blank when it is found without it. -/
theorem infix_blank_cons_iff {phrase : List Char} (hne : phrase ≠ [])
    (hblank : phrase.head? ≠ some ' ') (text : List Char) :
  phrase <:+: ' ' :: text ↔ phrase <:+: text
  := by
  have hstart : ¬ phrase <+: ' ' :: text := by
    intro hprefix
    cases phrase with
    | nil => apply hne rfl
    | cons c rest =>
      obtain ⟨rfl, -⟩ := List.cons_prefix_cons.mp hprefix
      apply hblank rfl
  rw [List.infix_cons_iff, or_iff_right hstart]

theorem start_of_mem_disconnectPhrases :
  ∀ phrase ∈ disconnectPhrases, phrase.toList ≠ [] ∧ phrase.toList.head? ≠ some ' '
  := by
  decide

/-- The text has one of the phrases of a lost connection in it. -/
def mentionsLoss (text : String) : Bool :=
  disconnectPhrases.any fun phrase => mentions phrase.toList text.toList

theorem mentionsLoss_iff (text : String) :
  mentionsLoss text ↔ ∃ phrase ∈ disconnectPhrases, phrase.toList <:+: text.toList
  := by
  simp only [mentionsLoss, List.any_eq_true, mentions_iff_isInfix]

/-- No phrase is found across a character that is in none of them. -/
theorem mentionsLoss_append {c : Char} (h : ∀ phrase ∈ disconnectPhrases, c ∉ phrase.toList)
    (x y : String) :
  mentionsLoss (x ++ String.singleton c ++ y) = (mentionsLoss x || mentionsLoss y)
  := by
  have hphrase : ∀ phrase ∈ disconnectPhrases,
      (phrase.toList <:+: (x ++ String.singleton c ++ y).toList
        ↔ phrase.toList <:+: x.toList ∨ phrase.toList <:+: y.toList) := by
    intro phrase hphrase
    rw [← infix_append_cons_iff (h phrase hphrase)]
    simp
  rw [Bool.eq_iff_iff, Bool.or_eq_true, mentionsLoss_iff, mentionsLoss_iff, mentionsLoss_iff]
  simp only [← exists_or, ← and_or_left]
  apply exists_congr
  intro phrase
  apply and_congr_right (hphrase phrase)

/-- No phrase starts with a blank. -/
theorem mentionsLoss_blank_append (text : String) :
  mentionsLoss (" " ++ text) = mentionsLoss text
  := by
  have hchars : (" " ++ text).toList = ' ' :: text.toList := by simp
  rw [Bool.eq_iff_iff, mentionsLoss_iff, mentionsLoss_iff, hchars]
  apply exists_congr
  intro phrase
  apply and_congr_right
  intro hphrase
  obtain ⟨hne, hblank⟩ := start_of_mem_disconnectPhrases phrase hphrase
  apply infix_blank_cons_iff hne hblank

/-! ## Failures under contexts -/

namespace Failure

theorem isDisconnect_def (f : Failure) :
  f.isDisconnect
    = ((f.driverErrors.any fun error => disconnectCodes.contains error.code)
      || mentionsLoss f.message)
  := rfl

theorem message_within (f : Failure) (context : Context) :
  (f.within context).message = context.text ++ ": " ++ f.message
  := by
  cases hchain : f.chain with
  | nil => simp [chain, links] at hchain
  | cons text chain =>
    have hwithin : (f.within context).chain = context.text :: f.chain := rfl
    rw [message, message, hwithin, hchain, String.intercalate_cons_cons]

/-- A failure under a context is a disconnect when it was one before or when the text of the context
has one of the phrases of a lost connection in it. -/
theorem isDisconnect_within (f : Failure) (context : Context) :
  (f.within context).isDisconnect = (f.isDisconnect || mentionsLoss context.text)
  := by
  have hmessage : mentionsLoss (f.within context).message
      = (mentionsLoss context.text || mentionsLoss f.message) := by
    have hseparator : context.text ++ ": " ++ f.message
        = context.text ++ String.singleton ':' ++ (" " ++ f.message) := by
      rw [← String.toList_inj]
      simp
    rw [message_within, hseparator, mentionsLoss_append (by decide), mentionsLoss_blank_append]
  have hdriver : (f.within context).driverErrors = f.driverErrors := rfl
  rw [isDisconnect_def, isDisconnect_def, hmessage, hdriver]
  rw [Bool.or_left_comm, Bool.or_comm]

end Failure

/-- The text of the query is where the name of a query adds phrases. -/
theorem mentionsLoss_executing (query : String) :
  mentionsLoss (Context.executing query).text = mentionsLoss query
  := by
  have htext : (Context.executing query).text
      = "While executing the query:" ++ String.singleton '\n' ++ query := rfl
  have hstart : mentionsLoss "While executing the query:" = false := by decide
  rw [htext, mentionsLoss_append (by decide), hstart, Bool.false_or]

end SqlDialect
