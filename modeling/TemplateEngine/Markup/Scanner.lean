import TemplateEngine.Markup.SyntaxError
import TemplateEngine.Text.Blank
import TemplateEngine.Text.Letter

/-!
# Scanners

A scanner looks for a construct at the start of a text.  It finds none, or it
finds one and leaves the text after it, or it fails for good with a syntax
error.
-/

namespace TemplateEngine.Markup

/-- What finds a construct at the start of a text. -/
def Scanner (α : Type) : Type :=
  List Char → Except SyntaxError (Option (α × List Char))

namespace Scanner

instance : Monad Scanner where
  pure value text := .ok (some (value, text))
  bind scanner next text :=
    match scanner text with
    | .error error => .error error
    | .ok none => .ok none
    | .ok (some (value, rest)) => next value rest

def nothing {α : Type} : Scanner α :=
  fun _ => .ok none

/-- Fails with an error at the text that follows. -/
def fail {α : Type} (cause : SyntaxError.Cause) : Scanner α :=
  fun text => .error (.of cause text)

/-- Goes on only under a condition. -/
def ensure (condition : Bool) : Scanner Unit :=
  if condition then pure () else nothing

/-- Goes on only with a value that is there. -/
def some? {α : Type} : Option α → Scanner α
  | none => nothing
  | some value => pure value

/-- Goes on with a result that was found without reading on. -/
def lift {α : Type} (result : Except SyntaxError α) : Scanner α :=
  fun text =>
    match result with
    | .error error => .error error
    | .ok value => .ok (some (value, text))

def exactly (expected : List Char) : Scanner Unit :=
  fun text => .ok ((List.isPrefixOf? expected text).map fun rest => ((), rest))

/-- Reads a given text if it follows, and tells whether it did. -/
def takes (expected : List Char) : Scanner Bool :=
  fun text =>
    match List.isPrefixOf? expected text with
    | none => .ok (some (false, text))
    | some rest => .ok (some (true, rest))

/-- Reads up to the first character of a kind or to the end. -/
def takeUntil (stop : Char → Bool) : Scanner (List Char) :=
  fun text =>
    .ok
      (some (text.takeWhile fun c => !stop c, text.dropWhile fun c => !stop c))

/-- Reads blank characters and tells whether there were any. -/
def skipBlanks : Scanner Bool := do
  let blanks ← takeUntil fun c => !Text.isBlank c
  return !blanks.isEmpty

def name : Scanner String :=
  fun text =>
    match text with
    | [] => .ok none
    | first :: _ =>
      if Text.isNameStart first then
        .ok (some (String.ofList (text.takeWhile Text.isNamePart),
          text.dropWhile Text.isNamePart))
      else .ok none

/-- Reads a text that ends before a character of a kind or a blank one, and is
not empty. -/
def bare (stop : Char → Bool) : Scanner String := do
  let text ← takeUntil fun c => stop c || Text.isBlank c
  ensure !text.isEmpty
  return String.ofList text

/-- The text up to a closing quote, and what follows the quote.  A backslash
stands for the quote or the backslash after it, and for itself before any other
character. -/
def unquote (mark : Char) : List Char → Option (List Char × List Char)
  | [] => none
  | '\\' :: [] => none
  | '\\' :: character :: text =>
    (unquote mark text).map fun (content, rest) =>
      if character = mark || character = '\\' then (character :: content, rest)
      else ('\\' :: character :: content, rest)
  | character :: text =>
    if character = mark then some ([], text)
    else (unquote mark text).map fun (content, rest) =>
      (character :: content, rest)

/-- Reads a text between single or double quotes. -/
def quoted : Scanner String :=
  fun text =>
    match text with
    | '\'' :: text =>
      .ok ((unquote '\'' text).map fun (c, rest) => (String.ofList c, rest))
    | '"' :: text =>
      .ok ((unquote '"' text).map fun (c, rest) => (String.ofList c, rest))
    | _ => .ok none

/-- Reads items as long as a character stands before the next one.  The fuel
bounds the number of items. -/
def manyAfterWithin {α : Type} (lead : Char) (item : Scanner α) :
    Nat → Scanner (List α)
  | 0, text => .ok (some ([], text))
  | _ + 1, [] => .ok (some ([], []))
  | fuel + 1, character :: text =>
    if character = lead then
      (do
        let first ← item
        let others ← manyAfterWithin lead item fuel
        return first :: others : Scanner (List α)) text
    else .ok (some ([], character :: text))

/-- Reads items as long as a character stands before the next one. -/
def manyAfter {α : Type} (lead : Char) (item : Scanner α) : Scanner (List α) :=
  fun text => manyAfterWithin lead item text.length text

/-- The construct together with its text. -/
def withText {α : Type} (scanner : Scanner α) : Scanner (α × List Char) :=
  fun text =>
    match scanner text with
    | .error error => .error error
    | .ok none => .ok none
    | .ok (some (value, rest)) =>
      .ok (some ((value, text.take (text.length - rest.length)), rest))

/-- The construct that is the whole of another text. -/
def within {α : Type} (other : List Char) (scanner : Scanner α) : Scanner α :=
  fun text =>
    match scanner other with
    | .error error => .error error
    | .ok (some (value, [])) => .ok (some (value, text))
    | .ok _ => .ok none

/-- A piece of a text: characters that belong to no construct, or a
construct. -/
inductive Piece (α : Type)
  | plain (text : List Char)
  | construct (value : α)

/-- Puts a character that belongs to no construct in front of the pieces of the
text after it. -/
def Piece.prepend {α : Type} (character : Char) :
    List (Piece α) → List (Piece α)
  | .plain text :: pieces => .plain (character :: text) :: pieces
  | pieces => .plain [character] :: pieces

/-- Splits a text into pieces.  The fuel bounds the number of steps. -/
def splitWithin {α : Type} (scanner : Scanner α) :
    Nat → List Char → Except SyntaxError (List (Piece α))
  | 0, _ => .ok []
  | _ + 1, [] => .ok []
  | fuel + 1, character :: text =>
    match scanner (character :: text) with
    | .error error => .error error
    | .ok (some (value, rest)) =>
      (splitWithin scanner fuel rest).map (.construct value :: ·)
    | .ok none => (splitWithin scanner fuel text).map (Piece.prepend character)

/-- Splits a text at the constructs of a kind, from left to right. -/
def split {α : Type} (scanner : Scanner α) (text : List Char) :
    Except SyntaxError (List (Piece α)) :=
  splitWithin scanner text.length text

@[simp] theorem pure_apply {α : Type} (value : α) (text : List Char) :
    (pure value : Scanner α) text = .ok (some (value, text)) :=
  rfl

theorem bind_apply {α β : Type} (scanner : Scanner α) (next : α → Scanner β)
    (text : List Char) : (scanner >>= next) text = match scanner text with
      | .error error => .error error
      | .ok none => .ok none
      | .ok (some (value, rest)) => next value rest :=
  rfl

end Scanner
end TemplateEngine.Markup
