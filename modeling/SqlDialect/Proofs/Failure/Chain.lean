import SqlDialect.Proofs.Failure.Disconnect
import SqlDialect.Session.Operations

/-!
# Disconnects by the links of the chain

A failure is a disconnect when one of the links of its chain tells so by itself: a driver
error by its code, any link by a phrase in its own text.  Joining the texts of the links
makes no phrase and breaks none.  A context is a link that is never a driver error, so it
cannot turn a disconnect into something else, makes one only by a phrase in its text, and
has no say in whether a ping fails.
-/

namespace SqlDialect

/-- What starts, and not with a blank, and has no colon in it is found in texts that are joined by
colons and blanks when it is found in one of them. -/
theorem infix_joined_iff {phrase : List Char} (hne : phrase ≠ []) (hblank : phrase.head? ≠ some ' ')
    (hcolon : ':' ∉ phrase) (texts : List String) :
  phrase <:+: (": ".intercalate texts).toList ↔ ∃ text ∈ texts, phrase <:+: text.toList
  := by
  induction texts with
  | nil => simp [hne]
  | cons text rest ih =>
    cases rest with
    | nil => simp
    | cons next rest =>
      have hjoined : (": ".intercalate (text :: next :: rest)).toList
          = text.toList ++ ':' :: ' ' :: (": ".intercalate (next :: rest)).toList := by
        rw [String.intercalate_cons_cons]
        simp
      rw [hjoined, infix_append_cons_iff hcolon, infix_blank_cons_iff hne hblank, ih]
      simp only [List.mem_cons, exists_eq_or_imp]

/-- The link tells by itself that the connection is lost: a driver error by its code, or any link by
a phrase in its text. -/
def Link.TellsLoss (link : Link) : Prop :=
  (∃ error, link.driverError? = some error ∧ error.code ∈ ["08S01", "HYT00", "08003"])
    ∨ ∃ phrase ∈ ["Socket closed", "connection is not available"],
      phrase.toList <:+: link.text.toList

namespace Failure

/-- A phrase of a lost connection is found in the message when it is found in the text of a link. -/
theorem infix_message_iff (f : Failure) {phrase : String} (h : phrase ∈ disconnectPhrases) :
  phrase.toList <:+: f.message.toList ↔ ∃ link ∈ f.links, phrase.toList <:+: link.text.toList
  := by
  have hcolon : ∀ phrase ∈ disconnectPhrases, ':' ∉ phrase.toList := by decide
  obtain ⟨hne, hblank⟩ := start_of_mem_disconnectPhrases phrase h
  rw [message, chain, infix_joined_iff hne hblank (hcolon phrase h)]
  simp only [List.mem_map, exists_exists_and_eq_and]

theorem isDisconnect_iff_exists_link (f : Failure) :
  f.isDisconnect ↔ ∃ link ∈ f.links, link.TellsLoss
  := by
  have hcodes : (f.driverErrors.any fun error => disconnectCodes.contains error.code)
      ↔ ∃ link ∈ f.links, ∃ error, link.driverError? = some error
        ∧ error.code ∈ ["08S01", "HYT00", "08003"] := by
    simp only [List.any_eq_true, driverErrors, List.mem_filterMap, List.contains_iff_mem]
    constructor
    · rintro ⟨error, ⟨link, hlink, herror⟩, hcode⟩
      use link, hlink, error, herror, hcode
    · rintro ⟨link, hlink, error, herror, hcode⟩
      use error, ⟨link, hlink, herror⟩, hcode
  have hphrases : mentionsLoss f.message
      ↔ ∃ link ∈ f.links, ∃ phrase ∈ ["Socket closed", "connection is not available"],
        phrase.toList <:+: link.text.toList := by
    rw [mentionsLoss_iff]
    constructor
    · rintro ⟨phrase, hphrase, hinfix⟩
      obtain ⟨link, hlink, hinfix⟩ := (f.infix_message_iff hphrase).mp hinfix
      exact ⟨link, hlink, phrase, hphrase, hinfix⟩
    · rintro ⟨link, hlink, phrase, hphrase, hinfix⟩
      exact ⟨phrase, hphrase, (f.infix_message_iff hphrase).mpr ⟨link, hlink, hinfix⟩⟩
  simp only [isDisconnect_def, Bool.or_eq_true, hcodes, hphrases, Link.TellsLoss, and_or_left,
    exists_or]

theorem mem_driverErrors_iff (f : Failure) (error : DriverError) :
  error ∈ f.driverErrors ↔ ∃ link ∈ f.links, link.driverError? = some error
  := List.mem_filterMap

/-- A ping fails with a failure that has a driver error in its chain, and with no other. -/
theorem ping_fails_iff (f : Failure) :
  (∃ g, (pingReport (.error f)).result = .error g)
    ↔ ∃ link ∈ f.links, ∃ error, link.driverError? = some error
  := by
  have hempty : f.driverErrors.isEmpty = false
      ↔ ∃ link ∈ f.links, ∃ error, link.driverError? = some error := by
    rw [List.isEmpty_eq_false_iff_exists_mem]
    simp only [mem_driverErrors_iff]
    constructor
    · rintro ⟨error, link, hlink, herror⟩
      use link, hlink, error
    · rintro ⟨link, hlink, error, herror⟩
      use error, link
  rw [pingReport, ← hempty]
  cases f.driverErrors.isEmpty <;> simp [Report.fail]

theorem ping_answers_iff (f : Failure) :
  (pingReport (.error f)).result = .ok false
    ↔ ¬ ∃ g, (pingReport (.error f)).result = .error g
  := by
  rw [pingReport]
  cases f.driverErrors.isEmpty <;> simp [Report.fail]

/-- A context adds a link that is no driver error. -/
theorem ping_fails_within_iff (f : Failure) (context : Context) :
  (∃ g, (pingReport (.error (f.within context))).result = .error g)
    ↔ ∃ g, (pingReport (.error f)).result = .error g
  := by
  have hlinks : (f.within context).links = .context context :: f.links := rfl
  rw [ping_fails_iff, ping_fails_iff, hlinks]
  simp [Link.driverError?]

end Failure

/-- A failure is a disconnect exactly when a link of its chain tells so by itself, and each of the
phrases is found in the joined texts exactly when it is found in the text of a link.  Under a
context a disconnect stays one, and what is none becomes one only when the context has one of the
phrases in its text.  A ping fails when there is a driver error in the chain and answers no
otherwise, under any context as without it. -/
theorem isDisconnect_by_links (f : Failure) :
  (f.isDisconnect ↔ ∃ link ∈ f.links, link.TellsLoss)
    ∧ (∀ phrase ∈ ["Socket closed", "connection is not available"],
      (phrase.toList <:+: f.message.toList
        ↔ ∃ link ∈ f.links, phrase.toList <:+: link.text.toList))
    ∧ (∀ context, f.isDisconnect → (f.within context).isDisconnect)
    ∧ (∀ context : Context,
      (∀ phrase ∈ ["Socket closed", "connection is not available"],
        ¬ phrase.toList <:+: context.text.toList) →
      ((f.within context).isDisconnect ↔ f.isDisconnect))
    ∧ ((∃ g, (pingReport (.error f)).result = .error g)
      ↔ ∃ link ∈ f.links, ∃ error, link.driverError? = some error)
    ∧ ((pingReport (.error f)).result = .ok false
      ↔ ¬ ∃ g, (pingReport (.error f)).result = .error g)
    ∧ (∀ context, (∃ g, (pingReport (.error (f.within context))).result = .error g)
      ↔ ∃ g, (pingReport (.error f)).result = .error g)
  := by
  use f.isDisconnect_iff_exists_link
  constructor
  · intro phrase hphrase
    apply f.infix_message_iff hphrase
  constructor
  · intro context h
    rw [f.isDisconnect_within, h, Bool.true_or]
  constructor
  · intro context h
    have hcontext : mentionsLoss context.text = false := by
      rw [← Bool.not_eq_true, mentionsLoss_iff]
      rintro ⟨phrase, hphrase, hinfix⟩
      apply h phrase hphrase hinfix
    rw [f.isDisconnect_within, hcontext, Bool.or_false]
  use f.ping_fails_iff, f.ping_answers_iff, f.ping_fails_within_iff

/-- A timeout behind another error, and a lost link that is only the text of a context. -/
def timeoutBehind : Failure where
  contexts := [.driver ⟨"08S01", "Communication link failure"⟩]
  cause := .wrapped "Read failed" [.stated "Socket", .driver ⟨"HYT00", "Timeout expired"⟩]

theorem isDisconnect_by_links_timeoutBehind :
  timeoutBehind.isDisconnect
    ∧ (timeoutBehind.within (.noting "While fetching")).isDisconnect
    ∧ ((Failure.ofCause (.stated "closed")).within (.noting "Socket")).isDisconnect = false
  := by
  obtain ⟨hlinks, -, hcontext, -⟩ := isDisconnect_by_links timeoutBehind
  obtain ⟨-, -, -, hnoPhrase, -⟩ := isDisconnect_by_links (.ofCause (.stated "closed"))
  have htimeout : timeoutBehind.isDisconnect := by
    apply hlinks.mpr
    use .source (.driver ⟨"HYT00", "Timeout expired"⟩)
    constructor
    · decide
    · left
      use ⟨"HYT00", "Timeout expired"⟩, rfl
      decide
  use htimeout, hcontext _ htimeout
  rw [← Bool.not_eq_true, hnoPhrase (.noting "Socket") (by decide +kernel)]
  decide

end SqlDialect
