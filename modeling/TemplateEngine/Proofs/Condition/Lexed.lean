import Mathlib.Data.List.Basic
import TemplateEngine.Condition.Token

/-!
# Conditions are rows of tokens

The text of a condition is a row of tokens with blanks between them, of any
length.  A value is one token whatever it holds, so that conditions which differ
in values only differ in the contents of tokens only.
-/

namespace TemplateEngine

/-- A piece of a condition with `null` in the place of its value. -/
def Operand.shape : Operand → Operand
  | .text content => .text content
  | .value _ => .value .null

namespace Condition

/-- A token with `null` in the place of its value. -/
def Token.shape : Token → Token
  | .value _ => .value .null
  | .symbol word => .symbol word

/-- Whether a text is a row of tokens.  Each is read where the last one and the
blanks after it end. -/
inductive Lexed : List Char → List Token → Prop
  | blank {text : List Char} : Text.trimStart text = [] → Lexed text []
  | token {text rest left : List Char} {first : Char} {token : Token}
      {tokens : List Token} :
      Text.trimStart text = first :: rest →
      readToken first rest = .ok (token, left) → Lexed left tokens →
      Lexed text (token :: tokens)

/-- Whether the pieces of a condition are a row of tokens: those of its texts,
and one for each value. -/
inductive LexedAll : List Operand → List Token → Prop
  | nil : LexedAll [] []
  | text {content : String} {operands : List Operand}
      {first tokens : List Token} :
      Lexed content.toList first → LexedAll operands tokens →
      LexedAll (.text content :: operands) (first ++ tokens)
  | value {content : Value} {operands : List Operand} {tokens : List Token} :
      LexedAll operands tokens →
      LexedAll (.value content :: operands) (.value content :: tokens)

theorem map_eq_ok_iff {α β : Type} {result : Except Fault α} {change : α → β}
    {value : β} :
    result.map change = .ok value ↔
      ∃ inner, result = .ok inner ∧ change inner = value := by
  cases result <;> simp [Except.map]

/-! ## Tokens are not empty -/

theorem length_lt_of_readSymbol? {text left : List Char} {symbol : Symbol}
    (found : readSymbol? text = some (symbol, left)) :
    left.length < text.length := by
  obtain ⟨⟨spelling, other⟩, listed, here⟩ :=
    List.exists_of_findSome?_eq_some found
  obtain ⟨rest, dropped, same⟩ := Option.map_eq_some_iff.mp here
  cases same
  have filled : ∀ entry ∈ symbols, 0 < entry.1.length := by decide
  have longer : 0 < spelling.length := filled _ listed
  rw [← List.append_eq_of_isPrefixOf?_eq_some dropped, List.length_append]
  omega

theorem length_lt_of_unquote {mark : Char} {text content left : List Char}
    (found : unquote mark text = some (content, left)) :
    left.length < text.length := by
  induction text using unquote.induct mark generalizing content left with
  | case1 => cases found
  | case2 => cases found
  | case3 character text induction =>
      rw [unquote] at found
      obtain ⟨⟨inner, rest⟩, later, same⟩ := Option.map_eq_some_iff.mp found
      cases same
      have shorter := induction later
      simp only [List.length_cons]
      omega
  | case4 text letter =>
      rw [unquote.eq_4 _ _ _ (by simp_all) (by simp_all), if_pos rfl] at found
      cases found
      simp
  | case5 character text letter pair other induction =>
      rw [unquote.eq_4 _ _ _ letter pair, if_neg other] at found
      obtain ⟨⟨inner, rest⟩, later, same⟩ := Option.map_eq_some_iff.mp found
      cases same
      have shorter := induction later
      simp only [List.length_cons]
      omega

theorem length_lt_of_readToken {first : Char} {rest left : List Char}
    {token : Token} (found : readToken first rest = .ok (token, left)) :
    left.length < (first :: rest).length := by
  rw [readToken] at found
  split at found
  next symbol after read =>
    cases found
    exact length_lt_of_readSymbol? read
  next =>
    split at found
    · split at found
      next content after unquoted =>
        cases found
        exact Nat.lt_succ_of_lt (length_lt_of_unquote unquoted)
      next => cases found
    · split at found
      · obtain ⟨number, _, same⟩ := map_eq_ok_iff.mp found
        cases same
        exact Nat.lt_succ_of_le (List.dropWhile_suffix _).length_le
      · split at found
        next => cases found
        next part =>
          obtain ⟨word, _, same⟩ := map_eq_ok_iff.mp found
          cases same
          -- at least the first character belongs to the word
          by_cases start : Text.isNamePart first = true
          · rw [List.dropWhile_cons_of_pos start]
            exact Nat.lt_succ_of_le (List.dropWhile_suffix _).length_le
          · exact absurd (List.takeWhile_cons_of_neg start) part

/-! ## Reading them -/

theorem readTokensWithin_eq_ok_iff {fuel : Nat} {text : List Char}
    (enough : text.length < fuel) {tokens : List Token} :
    readTokensWithin fuel text = .ok tokens ↔ Lexed text tokens := by
  induction fuel generalizing text tokens with
  | zero => exact absurd enough (Nat.not_lt_zero _)
  | succ fuel induction =>
      rw [readTokensWithin]
      split
      next blank =>
        constructor
        · intro read
          cases read
          exact .blank blank
        · intro lexed
          cases lexed with
          | blank _ => rfl
          | token start _ _ => simp [blank] at start
      next first rest start =>
        have left_lt {left : List Char} {token : Token}
            (read : readToken first rest = .ok (token, left)) :
            left.length < fuel := by
          have shorter := length_lt_of_readToken read
          have trimmed : (first :: rest).length ≤ text.length := by
            rw [← start]
            exact (List.dropWhile_suffix _).length_le
          omega
        constructor
        · intro all
          split at all
          next => cases all
          next token left read =>
            obtain ⟨others, later, rfl⟩ := map_eq_ok_iff.mp all
            exact .token start read ((induction (left_lt read)).mp later)
        · intro lexed
          cases lexed with
          | blank blank => simp [blank] at start
          | token here read later =>
              rw [start] at here
              cases here
              rw [read]
              exact map_eq_ok_iff.mpr
                ⟨_, (induction (left_lt read)).mpr later, rfl⟩

theorem readTokens_eq_ok_iff {text : List Char} {tokens : List Token} :
    readTokens text = .ok tokens ↔ Lexed text tokens :=
  readTokensWithin_eq_ok_iff (Nat.lt_succ_self _)

/-- The pieces of a condition have tokens just if its texts are rows of
tokens. -/
theorem tokensOf_eq_ok_iff {operands : List Operand} {tokens : List Token} :
    tokensOf operands = .ok tokens ↔ LexedAll operands tokens := by
  constructor
  · intro found
    induction operands generalizing tokens with
    | nil =>
        cases found
        exact .nil
    | cons operand operands induction =>
        cases operand with
        | text content =>
            rw [tokensOf] at found
            split at found
            next => cases found
            next first read =>
              obtain ⟨others, later, rfl⟩ := map_eq_ok_iff.mp found
              exact .text (readTokens_eq_ok_iff.mp read) (induction later)
        | value content =>
            obtain ⟨others, later, rfl⟩ := map_eq_ok_iff.mp found
            exact .value (induction later)
  · intro lexed
    induction lexed with
    | nil => rfl
    | text first _ later =>
        rw [tokensOf, readTokens_eq_ok_iff.mpr first]
        exact map_eq_ok_iff.mpr ⟨_, later, rfl⟩
    | value _ later => exact map_eq_ok_iff.mpr ⟨_, later, rfl⟩

/-- A value is one token, between those of the pieces before and after it. -/
theorem LexedAll.exists_of_append {before after : List Operand}
    {content : Value} {tokens : List Token}
    (lexed : LexedAll (before ++ .value content :: after) tokens) :
    ∃ first last, LexedAll before first ∧ LexedAll after last ∧
      tokens = first ++ .value content :: last := by
  induction before generalizing tokens with
  | nil =>
      cases lexed with
      | @value _ _ last later => exact ⟨[], last, .nil, later, rfl⟩
  | cons operand before induction =>
      cases lexed with
      | @text text _ tokens _ here later =>
          obtain ⟨first, last, lexedBefore, lexedAfter, rfl⟩ := induction later
          exact ⟨tokens ++ first, last, .text here lexedBefore, lexedAfter,
            (List.append_assoc _ _ _).symm⟩
      | @value other _ _ later =>
          obtain ⟨first, last, lexedBefore, lexedAfter, rfl⟩ := induction later
          exact ⟨.value other :: first, last, .value lexedBefore, lexedAfter,
            rfl⟩

/-- Conditions that differ in values only have the same tokens up to values. -/
theorem LexedAll.exists_of_shape {operands others : List Operand}
    {tokens : List Token} (lexed : LexedAll operands tokens)
    (same : others.map Operand.shape = operands.map Operand.shape) :
    ∃ otherTokens, LexedAll others otherTokens ∧
      otherTokens.map Token.shape = tokens.map Token.shape := by
  induction lexed generalizing others with
  | nil =>
      obtain rfl := List.map_eq_nil_iff.mp same
      exact ⟨[], .nil, rfl⟩
  | @text content operands first tokens here _ induction =>
      obtain ⟨other, rest, rfl, head, tail⟩ := List.map_eq_cons_iff.mp same
      obtain ⟨otherTokens, later, alike⟩ := induction tail
      cases other with
      | value _ => cases head
      | text otherContent =>
          cases head
          exact ⟨first ++ otherTokens, .text here later, by
            rw [List.map_append, List.map_append, alike]⟩
  | value _ induction =>
      obtain ⟨other, rest, rfl, head, tail⟩ := List.map_eq_cons_iff.mp same
      obtain ⟨otherTokens, later, alike⟩ := induction tail
      cases other with
      | text _ => cases head
      | value otherContent =>
          exact ⟨.value otherContent :: otherTokens, .value later, by
            rw [List.map_cons, List.map_cons, alike]
            rfl⟩

end Condition
end TemplateEngine
