import TemplateEngine.Program.Basic

/-!
# Iterations around a position

An iteration is around the positions of its part for each row: from the one
behind its opening to the end of the part, that is, to the instruction between
its two parts, or to its closing one if it has no part for no rows.  Reading a
program from its start, the iterations around a position can be kept on a stack.
-/

namespace TemplateEngine

namespace Instruction

/-- The number of the iteration that an instruction opens. -/
def opens? : Instruction → Option Nat
  | openBlock id _ _ _ => some id
  | _ => none

/-- The number of the iteration of which an instruction ends a part. -/
def ends? : Instruction → Option Nat
  | elseBlock id _ _ => some id
  | closeBlock id _ => some id
  | _ => none

/-- The iterations around the position behind an instruction, innermost first,
from those around its own. -/
def pushes (around : List Nat) (instruction : Instruction) : List Nat :=
  match instruction.opens?, instruction.ends? with
  | some id, _ => id :: around
  | none, some id => around.filter (id != ·)
  | none, none => around

/-- Whether an instruction opens an iteration or ends a part of it. -/
def Marks (instruction : Instruction) (id : Nat) : Prop :=
  instruction.opens? = some id ∨ instruction.ends? = some id

/-- Whether an instruction does not end a part of the iteration that another one
opens. -/
def Precedes (earlier later : Instruction) : Prop :=
  ∀ id, later.opens? = some id → earlier.ends? ≠ some id

theorem pushes_openBlock (around : List Nat) (id : Nat) (rowAlias : String)
    (source : Source) (skip : Nat) :
    (openBlock id rowAlias source skip).pushes around = id :: around :=
  rfl

theorem pushes_plain {instruction : Instruction}
    (opens : instruction.opens? = none) (ends : instruction.ends? = none)
    (around : List Nat) : instruction.pushes around = around := by
  rw [pushes, opens, ends]

/-- The end of an iteration that is not open closes nothing. -/
theorem pushes_end_of_apart {instruction : Instruction} {id : Nat}
    {around : List Nat} (opens : instruction.opens? = none)
    (ends : instruction.ends? = some id) (apart : id ∉ around) :
    instruction.pushes around = around := by
  rw [pushes, opens, ends]
  dsimp only
  rw [List.filter_eq_self]
  intro other member
  simpa using (ne_of_mem_of_not_mem member apart).symm

/-- The end of an iteration closes it. -/
theorem pushes_end_cons {instruction : Instruction} {id : Nat}
    {around : List Nat} (opens : instruction.opens? = none)
    (ends : instruction.ends? = some id) (apart : id ∉ around) :
    instruction.pushes (id :: around) = around := by
  have outer := pushes_end_of_apart opens ends apart
  rw [pushes, opens, ends] at outer ⊢
  simpa using outer

end Instruction

namespace Program

/-- Where the part of an iteration for each row ends: at the first end of a part
of it. -/
def rowsEnd (program : Program) (id : Nat) : Nat :=
  program.instructions.findIdx fun instruction => instruction.ends? == some id

/-- The numbers of the iterations whose part for each row is around a position,
outermost first. -/
def around (program : Program) (position : Nat) : List Nat :=
  ((program.instructions.take position).filterMap Instruction.opens?).filter
    fun id => position ≤ program.rowsEnd id

/-- The stack of the iterations around a position, innermost first. -/
def stackAt (program : Program) (position : Nat) : List Nat :=
  (program.instructions.take position).foldl Instruction.pushes []

theorem stackAt_succ {program : Program} {position : Nat}
    {instruction : Instruction}
    (found : program.instructions[position]? = some instruction) :
    program.stackAt (position + 1) =
      instruction.pushes (program.stackAt position) := by
  rw [stackAt, stackAt, List.take_add_one, found, List.foldl_append]
  rfl

/-- Whether no instruction ends a part of an iteration that is opened only
later. -/
def Ordered (program : Program) : Prop :=
  program.instructions.Pairwise Instruction.Precedes

theorem succ_le_rowsEnd_iff {program : Program} {position : Nat}
    {instruction : Instruction}
    (found : program.instructions[position]? = some instruction) (id : Nat) :
    position + 1 ≤ program.rowsEnd id ↔
      position ≤ program.rowsEnd id ∧ instruction.ends? ≠ some id := by
  obtain ⟨inside, rfl⟩ := List.getElem?_eq_some_iff.mp found
  constructor
  · intro before
    refine ⟨Nat.le_of_lt before, ?_⟩
    simpa using List.not_of_lt_findIdx before
  · rintro ⟨upTo, goesOn⟩
    apply Nat.lt_of_le_of_ne upTo
    intro same
    have ends := ((List.findIdx_eq inside).mp same.symm).1
    exact goesOn (by simpa using ends)

/-- The part of an iteration for each row ends behind its opening. -/
theorem Ordered.lt_rowsEnd {program : Program} (ordered : program.Ordered)
    {position id : Nat} {instruction : Instruction}
    (found : program.instructions[position]? = some instruction)
    (opens : instruction.opens? = some id) : position < program.rowsEnd id := by
  obtain ⟨inside, rfl⟩ := List.getElem?_eq_some_iff.mp found
  rw [rowsEnd, List.lt_findIdx_iff]
  refine ⟨inside, fun earlier upTo => ?_⟩
  rcases Nat.lt_or_eq_of_le upTo with before | rfl
  · have apart :=
      List.pairwise_iff_getElem.mp ordered earlier position (by omega) inside
        before
    simpa using apart id opens
  · cases opening : program.instructions[earlier] <;>
      simp_all [Instruction.opens?, Instruction.ends?]

theorem around_succ {program : Program} (ordered : program.Ordered)
    {position : Nat} {instruction : Instruction}
    (found : program.instructions[position]? = some instruction) :
    program.around (position + 1) =
      ((program.around position).filter fun id =>
          instruction.ends? != some id) ++ instruction.opens?.toList := by
  have opened :
      instruction.opens?.toList.filter
          (fun id => position + 1 ≤ program.rowsEnd id) =
        instruction.opens?.toList := by
    rw [List.filter_eq_self]
    intro id opens
    exact decide_eq_true (ordered.lt_rowsEnd found (Option.mem_toList.mp opens))
  rw [around, around, List.take_add_one, found, List.filterMap_append,
    List.filter_append, List.filter_filter]
  congr 1
  apply List.filter_congr
  intro id _
  have later := succ_le_rowsEnd_iff found id
  rw [Bool.eq_iff_iff]
  simpa [and_comm] using later

theorem around_eq_reverse_stackAt {program : Program}
    (ordered : program.Ordered) {position : Nat}
    (inside : position ≤ program.instructions.length) :
    program.around position = (program.stackAt position).reverse := by
  induction position with
  | zero => rfl
  | succ position induction =>
      have found := List.getElem?_eq_getElem inside
      rw [stackAt_succ found, around_succ ordered found,
        induction (Nat.le_of_lt inside)]
      cases program.instructions[position] <;>
        simp [Instruction.pushes, Instruction.opens?, Instruction.ends?, bne]

/-- No iteration is around a position behind the program. -/
theorem around_of_length_lt {program : Program} {position : Nat}
    (beyond : program.instructions.length < position) :
    program.around position = [] := by
  rw [around, List.filter_eq_nil_iff]
  intro id _
  have inside : program.rowsEnd id ≤ program.instructions.length :=
    List.findIdx_le_length
  simp only [decide_eq_true_eq]
  omega

end Program

/-! ## The rows that instructions read -/

/-- The iteration whose active row a reference reads, if it reads one. -/
def Reference.frames : Reference → List Nat
  | .frame id _ _ _ => [id]
  | _ => []

mutual

/-- The iterations whose active rows an expression reads. -/
def Expr.frames : Expr → List Nat
  | .access reference subscripts =>
    reference.frames ++ Argument.allFrames subscripts
  | .filter _ input arguments => input.frames ++ Argument.allFrames arguments

def Argument.frames : Argument → List Nat
  | .int _ => []
  | .text _ => []
  | .expr inner => inner.frames

def Argument.allFrames : List Argument → List Nat
  | [] => []
  | argument :: others => argument.frames ++ Argument.allFrames others

end

def Piece.frames : Piece → List Nat
  | .text _ => []
  | .expr inner => inner.frames

def Source.frames : Source → List Nat
  | .collection expr => expr.frames
  | .nested id _ => [id]
  | .path _ => []

def Target.frames : Target → List Nat
  | .path _ query => query.flatMap fun (_, value) => value.frames
  | .dynamic expr => expr.frames

def Condition.frames (condition : Condition) : List Nat :=
  condition.pieces.flatMap Piece.frames

/-- The iterations whose active rows an instruction reads. -/
def Instruction.frames : Instruction → List Nat
  | .print expr => expr.frames
  | .set _ subscripts value =>
    Argument.allFrames subscripts ++ value.flatMap Piece.frames
  | .branch condition _ => condition.frames
  | .elseBranch condition _ _ => condition.frames
  | .openBlock _ _ source _ => source.frames
  | .inclusion target _ _ => target.frames
  | _ => []

end TemplateEngine
