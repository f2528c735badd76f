import TemplateEngine.Program.Basic
import TemplateEngine.Text.Blank

/-!
# Compaction

Texts that print nothing are dropped and neighbouring texts joined.  Optionally,
blank text between two directives is dropped too.  Both steps remove positions
from a program, and the instructions that stay go on to where their targets have
moved.
-/

namespace TemplateEngine.Compaction

/-- Where a position moves if only marked instructions stay. -/
def moved (stays : List Bool) (position : Nat) : Nat :=
  (stays.take position).count true

/-- The instructions that are marked, with their targets moved. -/
def keep (stays : List Bool) (instructions : List Instruction) :
    List Instruction :=
  ((instructions.zip stays).filter Prod.snd).map fun (instruction, _) =>
    instruction.retarget (moved stays)

/-- Marks the instructions that print something or are directives.  With
`squeeze`, blank text does not count between two directives. -/
def prints (squeeze : Bool) :
    (afterDirective : Bool) → List Instruction → List Bool
  | _, [] => []
  | afterDirective, instruction :: rest =>
    let beforeDirective :=
      match rest with
      | [] => false
      | next :: _ => next.isDirective
    let stays :=
      match instruction with
      | .text text =>
        text != "" &&
          !(squeeze && Text.isAllBlank text.toList && afterDirective &&
            beforeDirective)
      | _ => true
    stays :: prints squeeze instruction.isDirective rest

/-- Drops the texts that print nothing. -/
def prune (squeeze : Bool) (instructions : List Instruction) :
    List Instruction :=
  keep (prints squeeze false instructions) instructions

/-- Marks all instructions but texts that follow a text. -/
def heads : (afterText : Bool) → List Instruction → List Bool
  | _, [] => []
  | afterText, instruction :: rest =>
    (!(afterText && instruction.isText)) :: heads instruction.isText rest

def joinTexts : List Instruction → List Instruction
  | [] => []
  | .text text :: rest =>
    match joinTexts rest with
    | .text next :: others => .text (text ++ next) :: others
    | others => .text text :: others
  | instruction :: rest => instruction :: joinTexts rest

/-- Joins neighbouring texts and moves the targets of all instructions. -/
def merge (instructions : List Instruction) : List Instruction :=
  (joinTexts instructions).map
    (Instruction.retarget (moved (heads false instructions)))

def compact (squeeze : Bool) (instructions : List Instruction) :
    List Instruction :=
  merge (prune squeeze instructions)

end TemplateEngine.Compaction
