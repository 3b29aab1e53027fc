import SqlDialect.Text.Basic

/-!
# Scanning quoted tokens

A scanner that knows only quoted tokens: it divides a text into bare characters and quoted
tokens with their contents, and fails when the text ends inside of a quoted token.  It
loses nothing, it reads a quoted token back as its content unless another one with the
same mark follows at once, and it reads a text without marks as bare characters.  A quoted
token that its mark does not follow determines its content, and undoubling the marks between
its own gives the content back.
-/

namespace SqlDialect.Text

/-- The marks of string literals and of quoted identifiers. -/
def isMark (c : Char) : Bool := c = '\'' || c = '"'

/-- What a scanner makes of a text: characters outside of quoted tokens, and quoted tokens. -/
inductive Lexeme
  | bare (c : Char)
  | quoted (mark : Char) (content : List Char)
deriving DecidableEq

/-- The text of a lexeme. -/
def Lexeme.text : Lexeme → List Char
  | bare c => [c]
  | quoted mark content => quote mark content

/-- Where a scanner stands: outside of quoted tokens, inside of one whose content so far is known,
or behind a mark that ends it unless another mark follows. -/
inductive ScanState
  | outside
  | inside (mark : Char) (content : List Char)
  | closing (mark : Char) (content : List Char)

/-- The lexemes of a text, read from the given state. -/
def scanFrom : ScanState → List Char → Option (List Lexeme)
  | .outside, [] => some []
  | .outside, c :: rest =>
    if isMark c then scanFrom (.inside c []) rest
    else (scanFrom .outside rest).map (.bare c :: ·)
  | .inside _ _, [] => none
  | .inside mark content, c :: rest =>
    if c = mark then scanFrom (.closing mark content) rest
    else scanFrom (.inside mark (content ++ [c])) rest
  | .closing mark content, [] => some [.quoted mark content]
  | .closing mark content, c :: rest =>
    if c = mark then scanFrom (.inside mark (content ++ [mark])) rest
    else if isMark c then (scanFrom (.inside c []) rest).map (.quoted mark content :: ·)
    else (scanFrom .outside rest).map (.quoted mark content :: .bare c :: ·)

/-- The lexemes of a text, unless it ends inside of a quoted token. -/
def scan (text : List Char) : Option (List Lexeme) := scanFrom .outside text

@[simp]
theorem scan_nil :
  scan [] = some []
  := rfl

/-! ## Nothing is lost -/

/-- The part of the text that a state has read but not yet handed out. -/
def ScanState.pending : ScanState → List Char
  | outside => []
  | inside mark content => mark :: double mark content
  | closing mark content => quote mark content

@[simp]
theorem double_nil (mark : Char) :
  double mark [] = []
  := rfl

theorem double_cons_self (mark : Char) (text : List Char) :
  double mark (mark :: text) = mark :: mark :: double mark text
  := by
  simp [double, substitute]

theorem double_cons_of_ne {mark c : Char} (h : c ≠ mark) (text : List Char) :
  double mark (c :: text) = c :: double mark text
  := by
  simp [double, substitute, h]

theorem double_cons (mark c : Char) (text : List Char) :
  double mark (c :: text) = c :: ((if c = mark then [mark] else []) ++ double mark text)
  := by
  split
  next hc => rw [hc, double_cons_self, List.singleton_append]
  next hc => rw [double_cons_of_ne hc, List.nil_append]

@[simp]
theorem double_append (mark : Char) (xs ys : List Char) :
  double mark (xs ++ ys) = double mark xs ++ double mark ys
  := List.flatMap_append

theorem double_of_not_mem {mark : Char} {text : List Char} (h : mark ∉ text) :
  double mark text = text
  := by
  induction text with
  | nil => rfl
  | cons c rest ih =>
    rw [double_cons_of_ne (List.ne_of_not_mem_cons h).symm, ih (List.not_mem_of_not_mem_cons h)]

theorem text_scanFrom {state : ScanState} {text : List Char} {lexemes : List Lexeme}
    (h : scanFrom state text = some lexemes) :
  lexemes.flatMap Lexeme.text = state.pending ++ text
  := by
  induction text generalizing state lexemes with
  | nil =>
    cases state with
    | outside =>
      obtain rfl := Option.some.inj h
      rfl
    | inside mark content => cases h
    | closing mark content =>
      obtain rfl := Option.some.inj h
      simp [Lexeme.text, ScanState.pending]
  | cons c rest ih =>
    cases state with
    | outside =>
      rw [scanFrom] at h
      split at h
      · rw [ih h]
        rfl
      · obtain ⟨lexemes, hrest, rfl⟩ := Option.map_eq_some_iff.mp h
        simp [ih hrest, Lexeme.text, ScanState.pending]
    | inside mark content =>
      rw [scanFrom] at h
      split at h
      next hc =>
        subst hc
        simp [ih h, ScanState.pending, quote]
      next hc =>
        simp [ih h, ScanState.pending, double_cons_of_ne hc]
    | closing mark content =>
      rw [scanFrom] at h
      split at h
      next hc =>
        subst hc
        simp [ih h, ScanState.pending, quote, double_cons_self]
      next hc =>
        split at h
        · obtain ⟨lexemes, hrest, rfl⟩ := Option.map_eq_some_iff.mp h
          simp [ih hrest, Lexeme.text, ScanState.pending]
        · obtain ⟨lexemes, hrest, rfl⟩ := Option.map_eq_some_iff.mp h
          simp [ih hrest, Lexeme.text, ScanState.pending]

/-- The lexemes of a text spell the text. -/
theorem text_scan {text : List Char} {lexemes : List Lexeme} (h : scan text = some lexemes) :
  lexemes.flatMap Lexeme.text = text
  := text_scanFrom h

/-! ## Quoted tokens and bare text -/

/-- The content of a quoted token is read through to the mark that ends it. -/
theorem scanFrom_inside_double (mark : Char) (content text rest : List Char) :
  scanFrom (.inside mark content) (double mark text ++ mark :: rest)
    = scanFrom (.closing mark (content ++ text)) rest
  := by
  induction text generalizing content with
  | nil => simp [scanFrom]
  | cons c text ih =>
    by_cases hc : c = mark
    · subst hc
      rw [double_cons_self]
      simp only [List.cons_append, scanFrom, if_true]
      rw [ih, List.append_assoc]
      rfl
    · rw [double_cons_of_ne hc]
      simp only [List.cons_append, scanFrom, if_neg hc]
      rw [ih, List.append_assoc]
      rfl

/-- A mark that no other mark follows ends its token. -/
theorem scanFrom_closing {mark : Char} (content : List Char) {rest : List Char}
    (h : rest.head? ≠ some mark) :
  scanFrom (.closing mark content) rest = (scan rest).map (.quoted mark content :: ·)
  := by
  cases rest with
  | nil => rfl
  | cons c rest =>
    have hc : c ≠ mark := by simpa using h
    rw [scan, scanFrom, scanFrom, if_neg hc]
    split
    · rfl
    · simp [Function.comp_def]

/-- A quoted token is read back as its content. -/
theorem scan_quote {mark : Char} (content : List Char) {rest : List Char}
    (hmark : isMark mark) (h : rest.head? ≠ some mark) :
  scan (quote mark content ++ rest) = (scan rest).map (.quoted mark content :: ·)
  := by
  have hread := scanFrom_inside_double mark [] content rest
  rw [List.nil_append] at hread
  rw [← scanFrom_closing content h, ← hread, scan, quote, List.append_assoc]
  simp [scanFrom, hmark]

/-- A mark that no other mark follows is not part of the content of a quoted token. -/
theorem mark_cons_ne_double {mark c : Char} {text rest rest' : List Char}
    (h : rest.head? ≠ some mark) :
  mark :: rest ≠ double mark (c :: text) ++ rest'
  := by
  intro heq
  rw [double_cons, List.cons_append] at heq
  obtain ⟨rfl, rfl⟩ := List.cons.inj heq
  simp at h

/-- A quoted token that its mark does not follow determines its content and what follows. -/
theorem quote_append_inj {mark : Char} {x y rest rest' : List Char}
    (hrest : rest.head? ≠ some mark) (hrest' : rest'.head? ≠ some mark)
    (h : quote mark x ++ rest = quote mark y ++ rest') :
  x = y ∧ rest = rest'
  := by
  simp only [quote, List.append_assoc, List.cons_append, List.cons.injEq, true_and,
    List.nil_append] at h
  induction x generalizing y with
  | nil =>
    cases y with
    | nil => exact ⟨rfl, (List.cons.inj h).2⟩
    | cons d y => cases mark_cons_ne_double hrest h
  | cons c x ih =>
    cases y with
    | nil => cases mark_cons_ne_double hrest' h.symm
    | cons d y =>
      rw [double_cons, double_cons, List.cons_append, List.cons_append] at h
      obtain ⟨rfl, h⟩ := List.cons.inj h
      rw [List.append_assoc, List.append_assoc, List.append_cancel_left_eq] at h
      obtain ⟨rfl, rfl⟩ := ih h
      exact ⟨rfl, rfl⟩

/-- A text without marks is read as bare characters. -/
theorem scan_bare {text : List Char} (rest : List Char) (h : ∀ c ∈ text, isMark c = false) :
  scan (text ++ rest) = (scan rest).map (text.map .bare ++ ·)
  := by
  induction text with
  | nil => simp
  | cons c text ih =>
    obtain ⟨hc, htext⟩ := List.forall_mem_cons.mp h
    rw [List.cons_append, scan, scanFrom, hc, ← scan, ih htext]
    simp [Function.comp_def]

/-! ## Undoubling -/

/-- The text in which each mark stands once where the given one has it twice; there is none when a
mark stands alone. -/
def undouble? (mark : Char) : List Char → Option (List Char)
  | [] => some []
  | [c] => if c = mark then none else some [c]
  | c :: d :: rest =>
    if c ≠ mark then (undouble? mark (d :: rest)).map (c :: ·)
    else if d = mark then (undouble? mark rest).map (mark :: ·)
    else none

theorem undouble?_cons_of_ne {mark c : Char} (h : c ≠ mark) (text : List Char) :
  undouble? mark (c :: text) = (undouble? mark text).map (c :: ·)
  := by
  cases text with
  | nil => simp [undouble?, h]
  | cons d rest => rw [undouble?, if_pos h]

/-- Undoubling gives the text back in which marks were doubled. -/
theorem undouble?_double (mark : Char) (text : List Char) :
  undouble? mark (double mark text) = some text
  := by
  induction text with
  | nil => rfl
  | cons c rest ih =>
    by_cases hc : c = mark
    · subst hc
      simp [double_cons_self, undouble?, ih]
    · rw [double_cons_of_ne hc, undouble?_cons_of_ne hc, ih]
      rfl

theorem length_le_length_double (mark : Char) (text : List Char) :
  text.length ≤ (double mark text).length
  := by
  induction text with
  | nil => apply Nat.le_refl
  | cons c rest ih =>
    rw [double_cons]
    simp only [List.length_cons, List.length_append]
    omega

/-- No text is a quoted token with itself as its content. -/
theorem quote_ne_self (mark : Char) (text : List Char) :
  quote mark text ≠ text
  := by
  intro h
  have hlength := congrArg List.length h
  have hle := length_le_length_double mark text
  simp only [quote, List.length_append, List.length_cons, List.length_nil] at hlength
  omega

end SqlDialect.Text
