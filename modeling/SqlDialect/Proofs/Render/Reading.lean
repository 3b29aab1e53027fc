import SqlDialect.Proofs.Render.Pieces

/-!
# Reading expressions back

The parentheses of an expression are faithful.  A reader that knows nothing but the binding
strengths of the operators, takes operators between operands as associating to the left, and
takes whatever is no operator as one symbol, reads the tokens of an expression back as that
expression.  Only the sign of a negative integer literal it takes for an operator.
-/

namespace SqlDialect

/-- A token with the expression behind it, where it is no operator. -/
inductive Symbol
  | opening
  | closing
  | unary (op : UnaryOp)
  | binary (op : BinaryOp)
  | atom (e : Expr)

namespace Symbol

/-- The token that is written for a symbol. -/
def token (style : Style) (scope : Scope) : Symbol → Token
  | opening => .opening
  | closing => .closing
  | unary op => .unary op
  | binary op => .binary op
  | atom e => .atom (e.pieces style scope)

/-- The symbols, in parentheses where needed. -/
def enclosed (needed : Prop) [Decidable needed] (symbols : List Symbol) : List Symbol :=
  if needed then opening :: symbols ++ [closing] else symbols

/-- Parentheses of symbols are parentheses of their tokens. -/
theorem map_token_enclosed (style : Style) (scope : Scope) (needed : Prop) [Decidable needed]
    (symbols : List Symbol) :
  (enclosed needed symbols).map (token style scope)
    = Token.enclosed needed (symbols.map (token style scope))
  := by
  rw [enclosed, Token.enclosed]
  split
  · simp [token]
  · rfl

end Symbol

namespace Expr

/-- No renaming stands between the operators of the expression. -/
def isUnlabelled : Expr → Bool
  | unary _ argument => argument.isUnlabelled
  | binary _ left right => left.isUnlabelled && right.isUnlabelled
  | labelled _ _ => false
  | _ => true

/-- The symbols of an expression. -/
def symbols : Expr → List Symbol
  | operand (.int n) =>
    if n < 0 then [.unary .negative, .atom (operand (.int n.natAbs))]
    else [.atom (operand (.int n))]
  | unary op argument =>
    .unary op :: Symbol.enclosed (argument.precedence ≤ op.precedence) argument.symbols
  | binary op left right =>
    Symbol.enclosed (left.precedence < op.precedence) left.symbols
      ++ .binary op :: Symbol.enclosed (right.precedence ≤ op.precedence) right.symbols
  | e => [.atom e]

/-- The expression with the signs of its integer literals as operators. -/
def signed : Expr → Expr
  | operand (.int n) =>
    if n < 0 then unary .negative (operand (.int n.natAbs)) else operand (.int n)
  | unary op argument => unary op argument.signed
  | binary op left right => binary op left.signed right.signed
  | e => e

end Expr

/-! ## The reader -/

/-- What a reader has not completed yet. -/
inductive Frame
  | opening
  | unary (op : UnaryOp)
  | binary (op : BinaryOp) (left : Expr)

namespace Frame

/-- The binding strength of the operator in a frame. -/
def precedence? : Frame → Option Nat
  | opening => none
  | unary op => some op.precedence
  | binary op _ => some op.precedence

/-- The operator of the frame applied to its last operand. -/
def applied : Frame → Expr → Expr
  | opening, e => e
  | unary op, e => .unary op e
  | binary op left, e => .binary op left e

end Frame

/-- The operators on the stack that bind at least as strongly as the limit, applied one after the
other up to the first that does not, and what is left of the stack. -/
def reduce (limit : Nat) : List Frame → Expr → List Frame × Expr
  | [], e => ([], e)
  | frame :: stack, e =>
    if frame.precedence?.any (limit ≤ ·) then reduce limit stack (frame.applied e)
    else (frame :: stack, e)

/-- The expression that the symbols spell, read with the given stack and, behind an operand, with
this operand. -/
def read : List Frame → Option Expr → List Symbol → Option Expr
  | stack, none, .opening :: rest => read (.opening :: stack) none rest
  | stack, none, .unary op :: rest => read (.unary op :: stack) none rest
  | stack, none, .atom e :: rest => read stack (some e) rest
  | stack, some e, .binary op :: rest =>
    let reduced := reduce op.precedence stack e
    read (.binary op reduced.2 :: reduced.1) none rest
  | stack, some e, .closing :: rest =>
    match reduce 0 stack e with
    | (.opening :: stack, e) => read stack (some e) rest
    | _ => none
  | stack, some e, [] =>
    match reduce 0 stack e with
    | ([], e) => some e
    | _ => none
  | _, _, _ => none

/-- The symbols that follow leave an operand to an operator of the given strength in front of it. -/
def Symbol.Spare (strength : Nat) : List Symbol → Prop
  | [] => True
  | .closing :: _ => True
  | .binary op :: _ => op.precedence ≤ strength
  | _ => False

/-- The stack leaves an operand to an operator of the given strength behind it. -/
def Frame.Spare (strength : Nat) : List Frame → Prop
  | [] => True
  | frame :: _ => ∀ precedence ∈ frame.precedence?, precedence < strength

/-- What leaves an operand to an operator leaves it to a stronger one. -/
theorem Symbol.Spare.mono {m n : Nat} {rest : List Symbol} (hmn : m ≤ n)
    (h : Symbol.Spare m rest) :
  Symbol.Spare n rest
  := by
  cases rest with
  | nil => trivial
  | cons symbol rest =>
    cases symbol with
    | binary op => apply Nat.le_trans h hmn
    | closing => trivial
    | _ => cases h

/-- What leaves an operand to an operator leaves it to a stronger one. -/
theorem Frame.Spare.mono {m n : Nat} {stack : List Frame} (hmn : m ≤ n)
    (h : Frame.Spare m stack) :
  Frame.Spare n stack
  := by
  cases stack with
  | nil => trivial
  | cons frame stack =>
    intro precedence hprecedence
    apply Nat.lt_of_lt_of_le (h precedence hprecedence) hmn

/-- Nothing on a stack that leaves the operand alone is applied. -/
theorem reduce_of_spare {strength : Nat} {stack : List Frame} (h : Frame.Spare strength stack)
    (e : Expr) :
  reduce strength stack e = (stack, e)
  := by
  cases stack with
  | nil => rfl
  | cons frame stack =>
    rw [reduce, if_neg]
    intro hany
    obtain ⟨precedence, hprecedence, hle⟩ := (Option.any_eq_true _ _).mp hany
    have hlt := h precedence hprecedence
    simp at hle
    omega

/-- An operator on the stack whose operand is left to it is applied. -/
theorem read_applied {frame : Frame} {strength : Nat} (hframe : frame.precedence? = some strength)
    {rest : List Symbol} (h : Symbol.Spare strength rest) (stack : List Frame) (e : Expr) :
  read (frame :: stack) (some e) rest = read stack (some (frame.applied e)) rest
  := by
  have hreduce : ∀ limit, limit ≤ strength →
      reduce limit (frame :: stack) e = reduce limit stack (frame.applied e) := by
    intro limit hlimit
    rw [reduce, if_pos]
    simp [hframe, hlimit]
  cases rest with
  | nil => rw [read, read, hreduce 0 (Nat.zero_le _)]
  | cons symbol rest =>
    cases symbol with
    | closing => rw [read, read, hreduce 0 (Nat.zero_le _)]
    | binary op => rw [read, read, hreduce op.precedence h]
    | _ => cases h

namespace Expr

/-- The expression is read as an operand wherever its neighbours leave it alone. -/
def Readable (e : Expr) : Prop :=
  ∀ stack rest, Frame.Spare e.precedence stack → Symbol.Spare e.precedence rest →
    read stack none (e.symbols ++ rest) = read stack (some e.signed) rest

/-- Parentheses make an operand of what would otherwise be taken apart. -/
theorem Readable.enclosed {e : Expr} (he : e.Readable) {needed : Prop} [Decidable needed]
    {stack : List Frame} {rest : List Symbol}
    (hstack : ¬ needed → Frame.Spare e.precedence stack)
    (hrest : ¬ needed → Symbol.Spare e.precedence rest) :
  read stack none (Symbol.enclosed needed e.symbols ++ rest) = read stack (some e.signed) rest
  := by
  rw [Symbol.enclosed]
  split
  next h =>
    have hspare : Frame.Spare e.precedence (.opening :: stack) := by
      simp [Frame.Spare, Frame.precedence?]
    have hinside := he (.opening :: stack) (.closing :: rest) hspare trivial
    rw [List.cons_append, List.cons_append, read, List.append_assoc, List.singleton_append, hinside]
    rfl
  next h => apply he stack rest (hstack h) (hrest h)

/-- An expression that is a single symbol is readable. -/
theorem readable_atom {e : Expr} (hsymbols : e.symbols = [.atom e]) (hsigned : e.signed = e) :
  e.Readable
  := by
  intro stack rest _ _
  rw [hsymbols, hsigned, List.singleton_append, read]

/-- An integer is readable, with its sign or without. -/
theorem readable_int (n : Int) :
  (operand (.int n)).Readable
  := by
  by_cases hn : n < 0
  · intro stack rest _ hrest
    rw [precedence, if_pos hn] at hrest
    rw [symbols, signed, if_pos hn, if_pos hn, List.cons_append, List.cons_append, read, read,
      List.nil_append]
    apply read_applied rfl hrest
  · apply readable_atom
    · rw [symbols, if_neg hn]
    · rw [signed, if_neg hn]

/-- An operator in front of a readable expression is readable with it. -/
theorem Readable.unary {argument : Expr} (h : argument.Readable) (op : UnaryOp) :
  (unary op argument).Readable
  := by
  intro stack rest _ hrest
  rw [symbols, List.cons_append, read, h.enclosed]
  · apply read_applied rfl hrest
  · intro hneeded
    rintro _ ⟨⟩
    apply Nat.lt_of_not_le hneeded
  · intro hneeded
    apply hrest.mono (Nat.le_of_not_le hneeded)

/-- An operator between readable expressions is readable with them. -/
theorem Readable.binary {left right : Expr} (hl : left.Readable) (hr : right.Readable)
    (op : BinaryOp) :
  (binary op left right).Readable
  := by
  intro stack rest hstack hrest
  change Frame.Spare op.precedence stack at hstack
  rw [symbols, List.append_assoc, List.cons_append, hl.enclosed, read]
  · -- the operator comes behind its left operand, and nothing on the stack takes that away
    rw [reduce_of_spare hstack, hr.enclosed]
    · apply read_applied rfl hrest
    · intro hneeded
      rintro _ ⟨⟩
      apply Nat.lt_of_not_le hneeded
    · intro hneeded
      apply hrest.mono (Nat.le_of_not_le hneeded)
  · intro hneeded
    apply hstack.mono (Nat.le_of_not_lt hneeded)
  · intro hneeded
    apply Nat.le_of_not_lt hneeded

/-- Every expression is read back. -/
theorem readable {e : Expr} (h : e.isUnlabelled) :
  e.Readable
  := by
  induction e using induction with
  | operand leaf =>
    cases leaf with
    | int n => apply readable_int
    | _ => apply readable_atom rfl rfl
  | unary op argument ih => apply (ih h).unary
  | binary op left right ihl ihr =>
    rw [isUnlabelled, Bool.and_eq_true] at h
    apply (ihl h.1).binary (ihr h.2)
  | labelled argument label _ _ => cases h
  | _ => apply readable_atom rfl rfl

/-- The symbols of an expression without aliases are read back as the expression. -/
theorem read_symbols {e : Expr} (h : e.isUnlabelled) :
  read [] none e.symbols = some e.signed
  := by
  have hread := readable h [] [] trivial trivial
  rw [List.append_nil] at hread
  rw [hread, read]
  rfl

/-! ## The tokens of expressions -/

/-- An expression that is written as a whole has the token of its symbol. -/
theorem map_token_atom {style : Style} {scope : Scope} {e : Expr} {ps : List Piece}
    (h : e.tokens style scope = [.atom ps]) :
  [Symbol.atom e].map (Symbol.token style scope) = e.tokens style scope
  := by
  rw [List.map_singleton, Symbol.token, pieces, h]
  simp [Token.pieces]

/-- An integer has the tokens of its symbols. -/
theorem map_token_int (style : Style) (scope : Scope) (n : Int) :
  (operand (.int n)).symbols.map (Symbol.token style scope)
    = (operand (.int n)).tokens style scope
  := by
  by_cases hn : n < 0
  · have habs : (operand (.int n.natAbs)).tokens style scope
        = [.atom [.plain (Text.integer n.natAbs)]] := by
      simp [tokens, Operand.tokens, Token.ofInt]
    rw [symbols, if_pos hn, List.map_cons, map_token_atom habs, habs, tokens, Operand.tokens,
      Token.ofInt, if_pos hn]
    rfl
  · rw [symbols, if_neg hn]
    apply map_token_atom
    rw [tokens, Operand.tokens, Token.ofInt, if_neg hn]

/-- An expression without aliases has the tokens of its symbols. -/
theorem map_token_symbols (style : Style) (scope : Scope) {e : Expr} (h : e.isUnlabelled) :
  e.symbols.map (Symbol.token style scope) = e.tokens style scope
  := by
  induction e using induction with
  | operand leaf =>
    cases leaf with
    | int n => apply map_token_int
    | _ => apply map_token_atom rfl
  | unary op argument ih =>
    rw [symbols, tokens, List.map_cons, Symbol.map_token_enclosed, ih h]
    rfl
  | binary op left right ihl ihr =>
    rw [isUnlabelled, Bool.and_eq_true] at h
    rw [symbols, tokens, List.map_append, List.map_cons, Symbol.map_token_enclosed,
      Symbol.map_token_enclosed, ihl h.1, ihr h.2]
    rfl
  | cast argument target _ _ =>
    apply map_token_atom
    rw [tokens]
  | labelled argument label _ _ => cases h
  | currentTimestamp => apply map_token_atom rfl
  | currentDate => apply map_token_atom rfl
  | call name arguments _ =>
    apply map_token_atom
    rw [tokens]
  | nextValue sequence => apply map_token_atom rfl

/-- The parentheses of an expression are faithful: in every style and in every scope its tokens are
those of its symbols, which are read back as the expression, so that expressions with the same
symbols are the same up to the signs of their literals. -/
theorem parentheses_faithful {e : Expr} (h : e.isUnlabelled) :
  (∀ style scope, e.tokens style scope = e.symbols.map (Symbol.token style scope))
    ∧ read [] none e.symbols = some e.signed
    ∧ ∀ e' : Expr, e'.isUnlabelled → e'.symbols = e.symbols → e'.signed = e.signed
  := by
  use fun style scope => (map_token_symbols style scope h).symm, read_symbols h
  intro e' h' heq
  have hread := read_symbols h'
  rw [heq, read_symbols h] at hread
  apply (Option.some.inj hread).symm

/-- Parentheses around a sum and around a negative number under a sign are read back. -/
theorem parentheses_faithful_signs :
  read [] none [.opening, .unary .negative, .atom (operand (.int 1)), .binary .add,
      .atom (operand .null), .closing, .binary .multiply, .unary .negative, .opening,
      .unary .negative, .atom (operand (.int 2)), .closing]
    = some (binary .multiply (binary .add (unary .negative (operand (.int 1))) (operand .null))
      (unary .negative (unary .negative (operand (.int 2)))))
  := by
  have hfaithful := parentheses_faithful
    (e := binary .multiply (binary .add (operand (.int (-1))) (operand .null))
      (unary .negative (operand (.int (-2))))) rfl
  apply hfaithful.2.1

end Expr

end SqlDialect
