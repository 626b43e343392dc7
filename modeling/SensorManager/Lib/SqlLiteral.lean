import Mathlib.Data.List.Basic

/-!
# String literals in statements

A statement is a text in which a quote begins a string literal and the next
quote ends it, except that two quotes in a row denote one.  `Part.text` puts
values between quotes as they are, and `tokenise_text_iff` says when the
statement still has them as its literals.
-/

namespace SensorManager

variable {α : Type}

/-- A symbol outside the literals, or a literal with its value. -/
inductive SqlToken (α : Type) where
  | symbol (symbol : α)
  | literal (value : List α)
  deriving DecidableEq, Repr

namespace SqlToken

/-- Where a scan of a statement stands.  After a quote in a literal it is the
next symbol that decides whether the literal has ended. -/
inductive Mode (α : Type) where
  | code
  | literal (value : List α)
  | closed (value : List α)

variable [DecidableEq α] (quote : α)

/-- The tokens of a statement, none if its last literal is not ended. -/
def tokenise : Mode α → List α → Option (List (SqlToken α))
  | .code, [] => some []
  | .literal _, [] => none
  | .closed value, [] => some [.literal value]
  | .code, first :: rest =>
      if first = quote then tokenise (.literal []) rest
      else (tokenise .code rest).map (.symbol first :: ·)
  | .literal value, first :: rest =>
      if first = quote then tokenise (.closed value) rest
      else tokenise (.literal (value ++ [first])) rest
  | .closed value, first :: rest =>
      if first = quote then tokenise (.literal (value ++ [quote])) rest
      else (tokenise .code rest).map fun tokens => .literal value :: .symbol first :: tokens

/-- A value with every quote doubled. -/
def escape (value : List α) : List α :=
  value.flatMap fun first => if first = quote then [quote, quote] else [first]

/-- The text of a token. -/
def write : SqlToken α → List α
  | .symbol first => [first]
  | .literal value => quote :: escape quote value ++ [quote]

/-- What a scan has read of the token that it is in. -/
def Mode.pending : Mode α → List α
  | .code => []
  | .literal value => quote :: escape quote value
  | .closed value => quote :: escape quote value ++ [quote]

variable {quote} {text : List α} {tokens : List (SqlToken α)}

theorem length_escape (value : List α) :
    (escape quote value).length = value.length + value.count quote := by
  induction value with
  | nil => rfl
  | cons first value ih =>
      unfold escape at ih ⊢
      rw [List.flatMap_cons, List.length_append, ih]
      by_cases same : first = quote
      · simp [same]
        omega
      · simp [same]
        omega

/-- A statement is the text of its tokens. -/
theorem write_of_tokenise {mode : Mode α} (scanned : tokenise quote mode text = some tokens) :
    tokens.flatMap (write quote) = mode.pending quote ++ text := by
  induction text generalizing mode tokens with
  | nil =>
      cases mode with
      | code =>
          cases scanned
          rfl
      | literal value => cases scanned
      | closed value =>
          cases scanned
          simp [write, Mode.pending]
  | cons first text ih =>
      cases mode with
      | code =>
          rw [tokenise] at scanned
          split at scanned
          · next same =>
              rw [ih scanned, same]
              rfl
          · obtain ⟨later, goesOn, rfl⟩ := Option.map_eq_some_iff.mp scanned
            rw [List.flatMap_cons, ih goesOn]
            rfl
      | literal value =>
          rw [tokenise] at scanned
          split at scanned
          · next same =>
              rw [ih scanned, same]
              simp [Mode.pending]
          · next different =>
              rw [ih scanned]
              simp [Mode.pending, escape, different]
      | closed value =>
          rw [tokenise] at scanned
          split at scanned
          · next same =>
              rw [ih scanned, same]
              simp [Mode.pending, escape]
          · obtain ⟨later, goesOn, rfl⟩ := Option.map_eq_some_iff.mp scanned
            rw [List.flatMap_cons, List.flatMap_cons, ih goesOn]
            simp [write, Mode.pending]

/-- Symbols that are no quotes are tokens of their own. -/
theorem tokenise_symbols {symbols : List α} (unquoted : quote ∉ symbols) (rest : List α) :
    tokenise quote .code (symbols ++ rest) =
      (tokenise quote .code rest).map (symbols.map .symbol ++ ·) := by
  induction symbols with
  | nil => simp
  | cons first symbols ih =>
      rw [List.mem_cons, not_or] at unquoted
      rw [List.cons_append, tokenise, if_neg (Ne.symm unquoted.1), ih unquoted.2,
        Option.map_map]
      rfl

theorem tokenise_value {value : List α} (unquoted : quote ∉ value) (read rest : List α) :
    tokenise quote (.literal read) (value ++ quote :: rest) =
      tokenise quote (.closed (read ++ value)) rest := by
  induction value generalizing read with
  | nil => simp [tokenise]
  | cons first value ih =>
      rw [List.mem_cons, not_or] at unquoted
      rw [List.cons_append, tokenise, if_neg (Ne.symm unquoted.1), ih unquoted.2,
        List.append_assoc, List.singleton_append]

/-- A literal has ended where no quote follows. -/
theorem tokenise_closed {rest : List α} (ended : rest.head? ≠ some quote) (value : List α) :
    tokenise quote (.closed value) rest =
      (tokenise quote .code rest).map (.literal value :: ·) := by
  cases rest with
  | nil => rfl
  | cons first rest =>
      have different : first ≠ quote := by simpa using ended
      rw [tokenise, tokenise, if_neg different, if_neg different, Option.map_map]
      rfl

end SqlToken

open SqlToken

/-- What a statement is put together from: text of the program, and values. -/
inductive SqlPart (α : Type) where
  | words (symbols : List α)
  | quoted (value : List α)

namespace SqlPart

/-- The text of a part, with quotes around a value. -/
def text (quote : α) : SqlPart α → List α
  | .words symbols => symbols
  | .quoted value => quote :: value ++ [quote]

/-- The tokens that a part is meant to be. -/
def tokens : SqlPart α → List (SqlToken α)
  | .words symbols => symbols.map .symbol
  | .quoted value => [.literal value]

/-- The text of the program has no quotes, and values are not next to each
other. -/
inductive WellFormed (quote : α) : List (SqlPart α) → Prop
  | nil : WellFormed quote []
  | words {symbols : List α} {parts : List (SqlPart α)} (unquoted : quote ∉ symbols)
      (rest : WellFormed quote parts) : WellFormed quote (.words symbols :: parts)
  | last (value : List α) : WellFormed quote [.quoted value]
  | quoted (value : List α) {symbols : List α} {parts : List (SqlPart α)}
      (nonempty : symbols ≠ []) (rest : WellFormed quote (.words symbols :: parts)) :
      WellFormed quote (.quoted value :: .words symbols :: parts)

variable [DecidableEq α] {quote : α} {parts : List (SqlPart α)}

/-- The number of quotes in the values. -/
def quotes (quote : α) : List (SqlPart α) → Nat
  | [] => 0
  | .words _ :: parts => quotes quote parts
  | .quoted value :: parts => value.count quote + quotes quote parts

theorem length_write (parts : List (SqlPart α)) :
    ((parts.flatMap tokens).flatMap (write quote)).length =
      (parts.flatMap (text quote)).length + quotes quote parts := by
  induction parts with
  | nil => rfl
  | cons part parts ih =>
      rw [List.flatMap_cons, List.flatMap_append, List.length_append, ih, List.flatMap_cons,
        List.length_append]
      cases part with
      | words symbols =>
          have same : (symbols.map SqlToken.symbol).flatMap (write quote) = symbols := by
            simp [List.flatMap_map, write]
          simp only [tokens, text, quotes, same]
          omega
      | quoted value =>
          simp only [tokens, text, quotes, List.flatMap_cons, List.flatMap_nil, write,
            List.append_nil, List.length_append, List.length_cons, List.length_nil, length_escape]
          omega

theorem quote_notMem_of_quotes (nothing : quotes quote parts = 0) {value : List α}
    (member : .quoted value ∈ parts) : quote ∉ value := by
  induction parts with
  | nil => cases member
  | cons part parts ih =>
      cases part with
      | words symbols =>
          rcases List.mem_cons.mp member with isFirst | later
          · cases isFirst
          · exact ih nothing later
      | quoted first =>
          rw [quotes, Nat.add_eq_zero_iff] at nothing
          rcases List.mem_cons.mp member with isFirst | later
          · cases isFirst
            exact List.count_eq_zero.mp nothing.1
          · exact ih nothing.2 later

/-- Values without quotes are the literals. -/
theorem tokenise_text (wellFormed : WellFormed quote parts)
    (unquoted : ∀ value, .quoted value ∈ parts → quote ∉ value) :
    tokenise quote .code (parts.flatMap (text quote)) = some (parts.flatMap tokens) := by
  induction wellFormed with
  | nil => rfl
  | words noQuote rest ih =>
      rw [List.flatMap_cons, text, tokenise_symbols noQuote,
        ih fun value member => unquoted value (.tail _ member)]
      rfl
  | last value =>
      have noQuote := unquoted value (.head _)
      simp [text, tokens, tokenise, tokenise_value noQuote]
  | @quoted value symbols parts nonempty rest ih =>
      have noQuote := unquoted value (.head _)
      have ended : ((SqlPart.words symbols :: parts).flatMap (text quote)).head? ≠ some quote := by
        obtain ⟨first, symbols, rfl⟩ := List.exists_cons_of_ne_nil nonempty
        cases rest with
        | words noQuote rest =>
            rw [List.mem_cons, not_or] at noQuote
            simpa [text] using Ne.symm noQuote.1
      rw [List.flatMap_cons, text, List.cons_append, List.cons_append, List.append_assoc,
        List.singleton_append, tokenise, if_pos rfl, tokenise_value noQuote, List.nil_append,
        tokenise_closed ended, ih fun value member => unquoted value (.tail _ member)]
      rfl

/-- The statement has the values as its literals exactly when none of them has
a quote. -/
theorem tokenise_text_iff (wellFormed : WellFormed quote parts) :
    tokenise quote .code (parts.flatMap (text quote)) = some (parts.flatMap tokens) ↔
      ∀ value, .quoted value ∈ parts → quote ∉ value := by
  constructor
  · intro scanned value member
    have same := congrArg List.length (write_of_tokenise scanned)
    rw [length_write, Mode.pending, List.nil_append, Nat.add_eq_left] at same
    exact quote_notMem_of_quotes same member
  · exact tokenise_text wellFormed

end SqlPart

end SensorManager
