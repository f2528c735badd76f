/-!
# UTF-8

A text as bytes and back.  Reading never fails: each longest run of bytes that
starts a character but does not finish it becomes one replacement character, and
so does each byte that starts none.
-/

namespace TemplateEngine.Text.Utf8

def bytes (character : Char) : List UInt8 :=
  let code := character.toNat
  if code < 0x80 then [UInt8.ofNat code]
  else if code < 0x800 then
    [UInt8.ofNat (0xC0 + code / 64), UInt8.ofNat (0x80 + code % 64)]
  else if code < 0x10000 then
    [UInt8.ofNat (0xE0 + code / 4096), UInt8.ofNat (0x80 + code / 64 % 64),
      UInt8.ofNat (0x80 + code % 64)]
  else
    [UInt8.ofNat (0xF0 + code / 262144), UInt8.ofNat (0x80 + code / 4096 % 64),
      UInt8.ofNat (0x80 + code / 64 % 64), UInt8.ofNat (0x80 + code % 64)]

def encode (text : List Char) : List UInt8 :=
  text.flatMap bytes

/-- The number of bytes of a text. -/
def size (text : List Char) : Nat :=
  (encode text).length

/-- What stands for bytes that are no text. -/
def replacement : Char := '\uFFFD'

/-- A character that is read in part: the number of bytes that must follow the
next one, the bits read so far, and the range the next byte must lie in. -/
structure Unfinished where
  after : Nat
  bits : Nat
  low : Nat
  high : Nat

/-- What a byte does where a character may start. -/
inductive Opening
  | character (character : Char)
  | unfinished (state : Unfinished)
  | invalid

/-- Reads the first byte of a character. -/
def opening (byte : Nat) : Opening :=
  if byte < 0x80 then .character (Char.ofNat byte)
  else if byte < 0xC2 then .invalid
  else if byte < 0xE0 then .unfinished ⟨0, byte - 0xC0, 0x80, 0xBF⟩
  else if byte < 0xF0 then
    .unfinished ⟨1, byte - 0xE0, if byte = 0xE0 then 0xA0 else 0x80,
      if byte = 0xED then 0x9F else 0xBF⟩
  else if byte < 0xF5 then
    .unfinished ⟨2, byte - 0xF0, if byte = 0xF0 then 0x90 else 0x80,
      if byte = 0xF4 then 0x8F else 0xBF⟩
  else .invalid

/-- Reads bytes after an unfinished character, or after none. -/
def decodeAfter : Option Unfinished → List UInt8 → List Char
  | none, [] => []
  | some _, [] => [replacement]
  | none, byte :: rest =>
    match opening byte.toNat with
    | .character character => character :: decodeAfter none rest
    | .unfinished state => decodeAfter (some state) rest
    | .invalid => replacement :: decodeAfter none rest
  | some state, byte :: rest =>
    if state.low ≤ byte.toNat && byte.toNat ≤ state.high then
      let bits := state.bits * 64 + byte.toNat % 64
      match state.after with
      | 0 => Char.ofNat bits :: decodeAfter none rest
      | after + 1 => decodeAfter (some ⟨after, bits, 0x80, 0xBF⟩) rest
    else
      replacement ::
        match opening byte.toNat with
        | .character character => character :: decodeAfter none rest
        | .unfinished state => decodeAfter (some state) rest
        | .invalid => replacement :: decodeAfter none rest

/-- The text that bytes stand for. -/
def decode (bytes : List UInt8) : List Char :=
  decodeAfter none bytes

/-- The text of bytes that are the UTF-8 form of one, and nothing for other
bytes. -/
def decode? (bytes : List UInt8) : Option (List Char) :=
  let text := decode bytes
  if encode text = bytes then some text else none

end TemplateEngine.Text.Utf8
