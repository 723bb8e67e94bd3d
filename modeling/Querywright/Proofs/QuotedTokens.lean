import Querywright.Proofs.PlaceholderScan

/-! The grammar of quoting, told without a scan. A text is made of tokens: characters that are no
quotes, and literals between a pair of quotes, with escapes in strings and none in backquoted
names. A scan flags the literals and nothing else, and the texts that leave no quote open are the
ones that tokens write. -/
namespace Querywright.Placeholder

/-- What may stand in a string: a character that neither ends nor escapes, or a backslash together
with whatever is behind it. -/
inductive StringItem (quote : Char) where
  | plain (character : Char) (unending : character ≠ quote) (unescaping : character ≠ '\\')
  | escape (character : Char)

def StringItem.characters {quote : Char} : StringItem quote → List Char
  | .plain character _ _ => [character]
  | .escape character => ['\\', character]

/-- A quote written twice inside a literal ends one and begins another. -/
inductive Token where
  | plain (character : Char) (unquoted : isQuote character = false)
  | string (quote : Char) (marked : quote = '\'' ∨ quote = '"') (body : List (StringItem quote))
  | name (body : List Char) (unended : backquote ∉ body)

namespace Token

def characters : Token → List Char
  | .plain character _ => [character]
  | .string quote _ body => quote :: (body.flatMap StringItem.characters ++ [quote])
  | .name body _ => backquote :: (body ++ [backquote])

def isLiteral : Token → Bool
  | .plain .. => false
  | _ => true

/-- The characters of a token, flagged where they belong to a literal. -/
def flagged (token : Token) : List (Char × Bool) :=
  token.characters.map fun character => (character, token.isLiteral)

def isMark : Token → Bool
  | .plain character _ => character == '?'
  | _ => false

end Token

/-- The text that tokens write one behind the other. -/
def writtenText (tokens : List Token) : String :=
  String.ofList (tokens.flatMap Token.characters)

section Inside

variable {quote : Char}

theorem scanFrom_item (escapes : quote ≠ backquote) (item : StringItem quote) :
    scanFrom (.inside quote) item.characters = item.characters.map (·, true) ∧
      standingAfter (.inside quote) item.characters = .inside quote := by
  cases item with
  | plain character unending unescaping =>
    simp [StringItem.characters, step, unending, unescaping]
  | escape character =>
    simp [StringItem.characters, step, escapes]

theorem scanFrom_body (escapes : quote ≠ backquote) (body : List (StringItem quote)) :
    scanFrom (.inside quote) (body.flatMap StringItem.characters) =
        (body.flatMap StringItem.characters).map (·, true) ∧
      standingAfter (.inside quote) (body.flatMap StringItem.characters) = .inside quote := by
  induction body with
  | nil => exact ⟨rfl, rfl⟩
  | cons item rest ih =>
    obtain ⟨flags, stands⟩ := scanFrom_item escapes item
    obtain ⟨others, ends⟩ := ih
    constructor
    · rw [List.flatMap_cons, scanFrom_append, flags, stands, others, List.map_append]
    · rw [List.flatMap_cons, standingAfter_append, stands, ends]

/-- In a backquoted name nothing but the backquote has a meaning. -/
theorem scanFrom_name (body : List Char) (unended : backquote ∉ body) :
    scanFrom (.inside backquote) body = body.map (·, true) ∧
      standingAfter (.inside backquote) body = .inside backquote := by
  induction body with
  | nil => exact ⟨rfl, rfl⟩
  | cons character rest ih =>
    rw [List.mem_cons, not_or] at unended
    obtain ⟨first, later⟩ := unended
    obtain ⟨flags, stands⟩ := ih later
    have other : character ≠ backquote := Ne.symm first
    constructor
    · simp [step, other, flags]
    · simp [step, other, stands]

/-- A pair of quotes around what leaves them open makes a literal. -/
theorem scanFrom_literal (isMark : isQuote quote = true) (ends : quote ≠ '\\') {body : List Char}
    (flags : scanFrom (.inside quote) body = body.map (·, true))
    (stands : standingAfter (.inside quote) body = .inside quote) :
    scanFrom .outside (quote :: (body ++ [quote])) = (quote :: (body ++ [quote])).map (·, true) ∧
      standingAfter .outside (quote :: (body ++ [quote])) = .outside := by
  have opens : step .outside quote = (.inside quote, true) := by simp [step, isMark]
  have closes : step (.inside quote) quote = (.outside, true) := by simp [step, ends]
  constructor
  · simp [opens, closes, scanFrom_append, flags, stands]
  · simp [opens, closes, standingAfter_append, stands]

end Inside

theorem scanFrom_token (token : Token) :
    scanFrom .outside token.characters = token.flagged ∧
      standingAfter .outside token.characters = .outside := by
  cases token with
  | plain character unquoted =>
    have stays : step .outside character = (.outside, false) := by simp [step, unquoted]
    simp [Token.characters, Token.flagged, Token.isLiteral, stays]
  | string quote marked body =>
    have escapes : quote ≠ backquote := by
      rcases marked with rfl | rfl <;> decide
    have ends : quote ≠ '\\' := by
      rcases marked with rfl | rfl <;> decide
    have isMark : isQuote quote = true := by
      rcases marked with rfl | rfl <;> rfl
    obtain ⟨flags, stands⟩ := scanFrom_body escapes body
    exact scanFrom_literal isMark ends flags stands
  | name body unended =>
    obtain ⟨flags, stands⟩ := scanFrom_name body unended
    exact scanFrom_literal (by decide) (by decide) flags stands

theorem scanFrom_tokens (tokens : List Token) :
    scanFrom .outside (tokens.flatMap Token.characters) = tokens.flatMap Token.flagged ∧
      standingAfter .outside (tokens.flatMap Token.characters) = .outside := by
  induction tokens with
  | nil => exact ⟨rfl, rfl⟩
  | cons token rest ih =>
    obtain ⟨flags, stands⟩ := scanFrom_token token
    obtain ⟨others, ends⟩ := ih
    constructor
    · rw [List.flatMap_cons, scanFrom_append, flags, stands, others, List.flatMap_cons]
    · rw [List.flatMap_cons, standingAfter_append, stands, ends]

theorem scan_writtenText (tokens : List Token) :
    scan (writtenText tokens) = tokens.flatMap Token.flagged := by
  unfold scan writtenText
  rw [String.toList_ofList]
  exact (scanFrom_tokens tokens).1

theorem writtenText_closed (tokens : List Token) : IsClosed (writtenText tokens) := by
  unfold IsClosed writtenText
  rw [String.toList_ofList]
  exact (scanFrom_tokens tokens).2

/-- Only a question mark that is a token of its own is a placeholder. -/
theorem countP_flagged (token : Token) :
    token.flagged.countP isPlaceholder = if token.isMark then 1 else 0 := by
  cases token with
  | plain character unquoted =>
    by_cases mark : character = '?' <;>
      simp [Token.flagged, Token.characters, Token.isLiteral, Token.isMark, isPlaceholder, mark]
  | string quote marked body =>
    rw [if_neg (by simp [Token.isMark]), List.countP_eq_zero]
    simp [Token.flagged, Token.isLiteral, isPlaceholder]
  | name body unended =>
    rw [if_neg (by simp [Token.isMark]), List.countP_eq_zero]
    simp [Token.flagged, Token.isLiteral, isPlaceholder]

theorem countP_flatMap_flagged (tokens : List Token) :
    (tokens.flatMap Token.flagged).countP isPlaceholder = tokens.countP Token.isMark := by
  induction tokens with
  | nil => rfl
  | cons token rest ih =>
    rw [List.flatMap_cons, List.countP_append, countP_flagged, ih, List.countP_cons, Nat.add_comm]

/-- What a scan makes of the tokens of a text: it flags the literals, quotes included, counts the
question marks that are tokens of their own, and starts afresh behind the last token. -/
theorem scan_follows_tokens (tokens : List Token) :
    scan (writtenText tokens) = tokens.flatMap Token.flagged ∧
      count (writtenText tokens) = tokens.countP Token.isMark ∧
      ∀ text, count (writtenText tokens ++ text) = count (writtenText tokens) + count text := by
  refine ⟨scan_writtenText tokens, ?_, count_append (writtenText_closed tokens)⟩
  unfold count
  rw [scan_writtenText]
  exact countP_flatMap_flagged tokens

/-- `'it\'s ?', ?` has one placeholder, the mark behind the string. -/
example : count "'it\\'s ?', ?" = 1 := by decide +kernel

/-- Read from inside a string, characters that leave no quote open come to its end; behind a
backslash they do so with one more character. -/
theorem string_of_closed {quote : Char} (marked : quote = '\'' ∨ quote = '"')
    (characters : List Char) :
    (standingAfter (.inside quote) characters = .outside →
      ∃ (body : List (StringItem quote)) (rest : List Char),
        characters = body.flatMap StringItem.characters ++ quote :: rest ∧
          standingAfter .outside rest = .outside) ∧
    (standingAfter (.escaped quote) characters = .outside →
      ∃ (character : Char) (body : List (StringItem quote)) (rest : List Char),
        characters = character :: (body.flatMap StringItem.characters ++ quote :: rest) ∧
          standingAfter .outside rest = .outside) := by
  have escapes : quote ≠ backquote := by
    rcases marked with rfl | rfl <;> decide
  induction characters with
  | nil => exact ⟨nofun, nofun⟩
  | cons character others ih =>
    obtain ⟨inside, escaped⟩ := ih
    constructor
    · intro closed
      by_cases escaping : character = '\\'
      · have next : step (.inside quote) character = (.escaped quote, true) := by
          simp [step, escaping, escapes]
        rw [standingAfter_cons, next] at closed
        obtain ⟨behind, body, rest, rfl, ends⟩ := escaped closed
        exact ⟨.escape behind :: body, rest, by simp [StringItem.characters, escaping], ends⟩
      · by_cases ending : character = quote
        · subst ending
          have next : step (.inside character) character = (.outside, true) := by
            simp [step, escaping]
          rw [standingAfter_cons, next] at closed
          exact ⟨[], others, rfl, closed⟩
        · have next : step (.inside quote) character = (.inside quote, true) := by
            simp [step, escaping, ending]
          rw [standingAfter_cons, next] at closed
          obtain ⟨body, rest, rfl, ends⟩ := inside closed
          exact ⟨.plain character ending escaping :: body, rest,
            by simp [StringItem.characters], ends⟩
    · intro closed
      obtain ⟨body, rest, rfl, ends⟩ := inside closed
      exact ⟨character, body, rest, rfl, ends⟩

theorem name_of_closed (characters : List Char)
    (closed : standingAfter (.inside backquote) characters = .outside) :
    ∃ body rest, backquote ∉ body ∧ characters = body ++ backquote :: rest ∧
      standingAfter .outside rest = .outside := by
  induction characters with
  | nil => cases closed
  | cons character others ih =>
    by_cases ending : character = backquote
    · have next : step (.inside backquote) character = (.outside, true) := by simp [step, ending]
      rw [standingAfter_cons, next] at closed
      exact ⟨[], others, List.not_mem_nil, by simp [ending], closed⟩
    · have next : step (.inside backquote) character = (.inside backquote, true) := by
        simp [step, ending]
      rw [standingAfter_cons, next] at closed
      obtain ⟨body, rest, unended, rfl, ends⟩ := ih closed
      refine ⟨character :: body, rest, ?_, rfl, ends⟩
      exact List.not_mem_cons_of_ne_of_not_mem (Ne.symm ending) unended

theorem tokens_of_closed (characters : List Char)
    (closed : standingAfter .outside characters = .outside) :
    ∃ tokens : List Token, characters = tokens.flatMap Token.characters := by
  -- A literal is read at one go, so the induction is on the length of what is left.
  induction size : characters.length using Nat.strongRecOn generalizing characters with
  | ind length ih =>
    cases characters with
    | nil => exact ⟨[], rfl⟩
    | cons character others =>
      have shorter {read rest : List Char} (parts : others = read ++ rest) :
          rest.length < length := by
        rw [← size, List.length_cons, parts, List.length_append]
        omega
      cases quoted : isQuote character with
      | false =>
        have next : step .outside character = (.outside, false) := by simp [step, quoted]
        rw [standingAfter_cons, next] at closed
        have fewer := shorter (List.nil_append others).symm
        obtain ⟨tokens, rfl⟩ := ih others.length fewer others closed rfl
        exact ⟨.plain character quoted :: tokens, rfl⟩
      | true =>
        have next : step .outside character = (.inside character, true) := by simp [step, quoted]
        rw [standingAfter_cons, next] at closed
        by_cases named : character = backquote
        · subst named
          obtain ⟨body, rest, unended, rfl, ends⟩ := name_of_closed others closed
          have less := shorter (List.append_cons body backquote rest)
          obtain ⟨tokens, rfl⟩ := ih rest.length less rest ends rfl
          exact ⟨.name body unended :: tokens, by simp [Token.characters]⟩
        · have marked : character = '\'' ∨ character = '"' := by
            simpa [isQuote, named] using quoted
          obtain ⟨body, rest, rfl, ends⟩ := (string_of_closed marked others).1 closed
          have less := shorter (List.append_cons _ character rest)
          obtain ⟨tokens, rfl⟩ := ih rest.length less rest ends rfl
          exact ⟨.string character marked body :: tokens, by simp [Token.characters]⟩

/-- The texts that leave no quote open are the ones that tokens write. -/
theorem isClosed_iff_writtenText (text : String) :
    IsClosed text ↔ ∃ tokens, text = writtenText tokens := by
  constructor
  · intro closed
    obtain ⟨tokens, same⟩ := tokens_of_closed text.toList closed
    exact ⟨tokens, by rw [writtenText, ← same, String.ofList_toList]⟩
  · rintro ⟨tokens, rfl⟩
    exact writtenText_closed tokens

end Querywright.Placeholder
