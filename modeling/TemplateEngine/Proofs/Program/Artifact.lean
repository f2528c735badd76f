import TemplateEngine.Program.Artifact
import TemplateEngine.Proofs.Json.Decoded
import TemplateEngine.Proofs.Json.Written

/-!
# Programs that are stored are read back

A program whose numbers have 64 bits is read back from its artifact if the JSON
form is not nested too deeply, and not at all otherwise.
-/

namespace TemplateEngine

open Json (limited limited_zero map_eq_limited bind_eq_limited)
open Json.Decoder

/-! ## Numbers of 64 bits -/

/-- Whether the numbers in a reference have 64 bits. -/
def Reference.Storable : Reference → Prop
  | .frame id _ _ _ => Number.isCount id = true
  | _ => True

mutual

/-- Whether the numbers in an expression have 64 bits. -/
def Expr.Storable : Expr → Prop
  | .access reference subscripts =>
    reference.Storable ∧ Argument.AllStorable subscripts
  | .filter _ input arguments => input.Storable ∧ Argument.AllStorable arguments

def Argument.Storable : Argument → Prop
  | .int number => Number.isInteger number = true
  | .text _ => True
  | .expr inner => inner.Storable

def Argument.AllStorable : List Argument → Prop
  | [] => True
  | argument :: others => argument.Storable ∧ Argument.AllStorable others

end

def Piece.Storable : Piece → Prop
  | .text _ => True
  | .expr inner => inner.Storable

def Source.Storable : Source → Prop
  | .collection expr => expr.Storable
  | .nested frame _ => Number.isCount frame = true
  | .path _ => True

def Target.Storable : Target → Prop
  | .path _ query => ∀ parameter ∈ query, parameter.2.Storable
  | .dynamic expr => expr.Storable

/-- Whether the numbers in the data of an instruction have 64 bits, apart from
positions. -/
def Instruction.Storable : Instruction → Prop
  | .print expr => expr.Storable
  | .set _ subscripts value =>
    Argument.AllStorable subscripts ∧ ∀ piece ∈ value, piece.Storable
  | .branch condition _ => ∀ piece ∈ condition.pieces, piece.Storable
  | .elseBranch condition _ _ => ∀ piece ∈ condition.pieces, piece.Storable
  | .openBlock id _ source _ => Number.isCount id = true ∧ source.Storable
  | .elseBlock id _ _ => Number.isCount id = true
  | .closeBlock id _ => Number.isCount id = true
  | .inclusion target _ _ => target.Storable
  | _ => True

/-- The positions that an instruction goes on to. -/
def Instruction.targets : Instruction → List Nat
  | .branch _ next => [next]
  | .elseBranch _ next exit => [next, exit]
  | .otherwise exit => [exit]
  | .openBlock _ _ _ skip => [skip]
  | .elseBlock _ body exit => [body, exit]
  | .closeBlock _ body => [body]
  | _ => []

/-! ## Reading -/

theorem Reference.ofJson?_toJson {reference : Reference}
    (storable : reference.Storable) (levels : Nat) :
    Reference.ofJson? levels reference.toJson =
      limited levels reference.toJson.depth reference := by
  cases reference with
  | var name =>
      exact limited_tagged rfl fun _ _ => map_eq_limited _ (text_text name)
  | const name =>
      exact limited_tagged rfl fun _ _ => map_eq_limited _ (text_text name)
  | frame id rowAlias path field =>
      apply limited_tagged_record rfl rfl
      intro below _
      apply bind_eq_limited (count_count storable)
      apply bind_eq_limited (text_text rowAlias)
      apply bind_eq_limited (list_texts path)
      apply bind_eq_limited (text_text field)
      exact (limited_zero _).symm
  | block path field =>
      apply limited_tagged_record rfl rfl
      intro below _
      apply bind_eq_limited (list_texts path)
      apply bind_eq_limited (text_text field)
      exact (limited_zero _).symm

theorem Argument.allToJson_eq_map (arguments : List Argument) :
    Argument.allToJson arguments = arguments.map Argument.toJson := by
  induction arguments with
  | nil => rfl
  | cons argument arguments induction =>
      rw [Argument.allToJson, induction, List.map_cons]

mutual

theorem Expr.ofJsonWithin?_toJson (expr : Expr) (storable : expr.Storable)
    {fuel levels : Nat} (enough : levels < fuel) :
    Expr.ofJsonWithin? fuel levels expr.toJson =
      limited levels expr.toJson.depth expr := by
  obtain ⟨fuel, rfl⟩ := Nat.exists_eq_add_of_lt enough
  match expr with
  | .access reference subscripts =>
      apply limited_tagged_record rfl rfl
      intro below inside
      apply bind_eq_limited (Reference.ofJson?_toJson storable.1 below)
      rw [Argument.allToJson_eq_map]
      apply bind_eq_limited (list_array fun further deeper =>
        Argument.ofJsonWithin?_allToJson subscripts storable.2 (by omega))
      exact (limited_zero _).symm
  | .filter name input arguments =>
      apply limited_tagged_record rfl rfl
      intro below inside
      apply bind_eq_limited (text_text name)
      apply bind_eq_limited
        (Expr.ofJsonWithin?_toJson input storable.1 (by omega))
      rw [Argument.allToJson_eq_map]
      apply bind_eq_limited (list_array fun further deeper =>
        Argument.ofJsonWithin?_allToJson arguments storable.2 (by omega))
      exact (limited_zero _).symm

theorem Argument.ofJsonWithin?_toJson (argument : Argument)
    (storable : argument.Storable) {fuel levels : Nat}
    (enough : levels < fuel) :
    Argument.ofJsonWithin? fuel levels argument.toJson =
      limited levels argument.toJson.depth argument := by
  obtain ⟨fuel, rfl⟩ := Nat.exists_eq_add_of_lt enough
  match argument with
  | .int number =>
      exact limited_tagged rfl fun _ _ => map_eq_limited _ (int_int storable)
  | .text content =>
      exact limited_tagged rfl fun _ _ => map_eq_limited _ (text_text content)
  | .expr inner =>
      exact limited_tagged rfl fun _ inside => map_eq_limited _
        (Expr.ofJsonWithin?_toJson inner storable (by omega))

theorem Argument.ofJsonWithin?_allToJson (arguments : List Argument)
    (storable : Argument.AllStorable arguments) {fuel levels : Nat}
    (enough : levels < fuel) :
    ∀ argument ∈ arguments, Argument.ofJsonWithin? fuel levels argument.toJson =
      limited levels argument.toJson.depth argument := by
  match arguments with
  | [] => exact List.forall_mem_nil _
  | first :: others =>
      exact List.forall_mem_cons.mpr ⟨Argument.ofJsonWithin?_toJson first
          storable.1 enough,
        Argument.ofJsonWithin?_allToJson others storable.2 enough⟩

end

theorem Expr.ofJson?_toJson {expr : Expr} (storable : expr.Storable)
    (levels : Nat) :
    Expr.ofJson? levels expr.toJson = limited levels expr.toJson.depth expr :=
  Expr.ofJsonWithin?_toJson expr storable (Nat.lt_succ_self levels)

theorem Argument.ofJson?_allToJson {arguments : List Argument}
    (storable : Argument.AllStorable arguments) (levels : Nat) :
    Json.Decoder.list Argument.ofJson? levels
        (.array (Argument.allToJson arguments)) =
      limited levels (Json.array (Argument.allToJson arguments)).depth
        arguments := by
  rw [Argument.allToJson_eq_map]
  exact list_array fun below _ =>
    Argument.ofJsonWithin?_allToJson arguments storable (Nat.lt_succ_self below)

theorem Piece.ofJson?_toJson {piece : Piece} (storable : piece.Storable)
    (levels : Nat) :
    Piece.ofJson? levels piece.toJson =
      limited levels piece.toJson.depth piece := by
  cases piece with
  | text content =>
      exact limited_tagged rfl fun _ _ => map_eq_limited _ (text_text content)
  | expr inner =>
      exact limited_tagged rfl fun below _ =>
        map_eq_limited _ (Expr.ofJson?_toJson storable below)

theorem Piece.ofJson?_map_toJson {pieces : List Piece}
    (storable : ∀ piece ∈ pieces, piece.Storable) (levels : Nat) :
    Json.Decoder.list Piece.ofJson? levels (.array (pieces.map Piece.toJson)) =
      limited levels (Json.array (pieces.map Piece.toJson)).depth pieces :=
  list_array fun below _ piece member =>
    Piece.ofJson?_toJson (storable piece member) below

theorem Condition.ofJson?_toJson {condition : Condition}
    (storable : ∀ piece ∈ condition.pieces, piece.Storable) (levels : Nat) :
    Condition.ofJson? levels condition.toJson =
      limited levels condition.toJson.depth condition := by
  refine limited_record rfl fun below _ => ?_
  rw [Json.depthFields_singleton]
  exact map_eq_limited Condition.mk (Piece.ofJson?_map_toJson storable below)

theorem Source.ofJson?_toJson {source : Source} (storable : source.Storable)
    (levels : Nat) :
    Source.ofJson? levels source.toJson =
      limited levels source.toJson.depth source := by
  cases source with
  | collection expr =>
      exact limited_tagged rfl fun below _ =>
        map_eq_limited _ (Expr.ofJson?_toJson storable below)
  | nested frame name =>
      apply limited_tagged_record rfl rfl
      intro below _
      apply bind_eq_limited (count_count storable)
      apply bind_eq_limited (text_text name)
      exact (limited_zero _).symm
  | path segments =>
      exact limited_tagged rfl fun _ _ => map_eq_limited _ (list_texts segments)

theorem Target.ofJson?_toJson {target : Target} (storable : target.Storable)
    (levels : Nat) :
    Target.ofJson? levels target.toJson =
      limited levels target.toJson.depth target := by
  cases target with
  | path name query =>
      have parameters :
          ∀ levels, ∀ parameter ∈ query,
            Json.Decoder.pair Json.Decoder.text Piece.ofJson? levels
                (.array [.text parameter.1, parameter.2.toJson]) =
              limited levels
                (Json.array [.text parameter.1, parameter.2.toJson]).depth
                parameter := by
        intro levels parameter member
        apply pair_array
        · exact fun _ _ => text_text parameter.1
        · exact fun below _ =>
            Piece.ofJson?_toJson (storable parameter member) below
      apply limited_tagged_record rfl rfl
      intro below _
      apply bind_eq_limited (text_text name)
      apply bind_eq_limited (list_array fun further _ => parameters further)
      exact (limited_zero _).symm
  | dynamic expr =>
      exact limited_tagged rfl fun below _ =>
        map_eq_limited _ (Expr.ofJson?_toJson storable below)

theorem InclusionKind.ofJson?_toJson (kind : InclusionKind) (levels : Nat) :
    InclusionKind.ofJson? levels kind.toJson =
      limited levels kind.toJson.depth kind := by
  cases kind with
  | optional => exact (limited_zero _).symm
  | required => exact (limited_zero _).symm

theorem Instruction.ofJson?_toJson {instruction : Instruction}
    (storable : instruction.Storable)
    (inside : ∀ target ∈ instruction.targets, Number.isCount target = true)
    (levels : Nat) :
    Instruction.ofJson? levels instruction.toJson =
      limited levels instruction.toJson.depth instruction := by
  cases instruction with
  | text content =>
      exact limited_tagged rfl fun _ _ => map_eq_limited _ (text_text content)
  | print expr =>
      exact limited_tagged rfl fun below _ =>
        map_eq_limited _ (Expr.ofJson?_toJson storable below)
  | set name subscripts value =>
      apply limited_tagged_record rfl rfl
      intro below _
      apply bind_eq_limited (text_text name)
      apply bind_eq_limited (Argument.ofJson?_allToJson storable.1 below)
      apply bind_eq_limited (Piece.ofJson?_map_toJson storable.2 below)
      exact (limited_zero _).symm
  | branch condition next =>
      apply limited_tagged_record rfl rfl
      intro below _
      apply bind_eq_limited (Condition.ofJson?_toJson storable below)
      apply bind_eq_limited (count_count (inside next (by simp [targets])))
      exact (limited_zero _).symm
  | elseBranch condition next exit =>
      apply limited_tagged_record rfl rfl
      intro below _
      apply bind_eq_limited (Condition.ofJson?_toJson storable below)
      apply bind_eq_limited (count_count (inside next (by simp [targets])))
      apply bind_eq_limited (count_count (inside exit (by simp [targets])))
      exact (limited_zero _).symm
  | otherwise exit =>
      apply limited_tagged_record rfl rfl
      intro below _
      exact map_eq_limited _ (count_count (inside exit (by simp [targets])))
  | endBranch => exact (limited_zero _).symm
  | openBlock id rowAlias source skip =>
      apply limited_tagged_record rfl rfl
      intro below _
      apply bind_eq_limited (count_count storable.1)
      apply bind_eq_limited (text_text rowAlias)
      apply bind_eq_limited (Source.ofJson?_toJson storable.2 below)
      apply bind_eq_limited (count_count (inside skip (by simp [targets])))
      exact (limited_zero _).symm
  | elseBlock id body exit =>
      apply limited_tagged_record rfl rfl
      intro below _
      apply bind_eq_limited (count_count storable)
      apply bind_eq_limited (count_count (inside body (by simp [targets])))
      apply bind_eq_limited (count_count (inside exit (by simp [targets])))
      exact (limited_zero _).symm
  | closeBlock id body =>
      apply limited_tagged_record rfl rfl
      intro below _
      apply bind_eq_limited (count_count storable)
      apply bind_eq_limited (count_count (inside body (by simp [targets])))
      exact (limited_zero _).symm
  | inclusion target once kind =>
      apply limited_tagged_record rfl rfl
      intro below _
      apply bind_eq_limited (Target.ofJson?_toJson storable below)
      apply bind_eq_limited (bool_bool once)
      apply bind_eq_limited (InclusionKind.ofJson?_toJson kind below)
      exact (limited_zero _).symm

/-- Whether the numbers in a program have 64 bits. -/
def Program.Storable (program : Program) : Prop :=
  ∀ instruction ∈ program.instructions, instruction.Storable ∧
    ∀ target ∈ instruction.targets, Number.isCount target = true

theorem Program.ofJson?_toJson {program : Program} (storable : program.Storable)
    (levels : Nat) :
    Program.ofJson? levels program.toJson =
      limited levels program.toJson.depth program := by
  refine limited_record rfl fun below _ => ?_
  rw [Json.depthFields_singleton]
  exact map_eq_limited Program.mk
    (list_array fun further _ instruction member =>
      Instruction.ofJson?_toJson (storable instruction member).1
        (storable instruction member).2 further)

/-! ## Writing -/

open Json (Plain plain_texts)

theorem Reference.plain_toJson (reference : Reference) :
    Plain reference.toJson := by
  cases reference with
  | var name => exact (Plain.text name).tagged _
  | const name => exact (Plain.text name).tagged _
  | frame id rowAlias path field =>
      refine Plain.tagged_record ?_ _
      simp only [List.forall_mem_cons]
      exact ⟨.int id, .text rowAlias, plain_texts path, .text field,
        List.forall_mem_nil _⟩
  | block path field =>
      refine Plain.tagged_record ?_ _
      simp only [List.forall_mem_cons]
      exact ⟨plain_texts path, .text field, List.forall_mem_nil _⟩

mutual

theorem Expr.plain_toJson (expr : Expr) : Plain expr.toJson := by
  match expr with
  | .access reference subscripts =>
      refine Plain.tagged_record ?_ _
      simp only [List.forall_mem_cons]
      exact ⟨reference.plain_toJson,
        .array (Argument.plain_allToJson subscripts), List.forall_mem_nil _⟩
  | .filter name input arguments =>
      refine Plain.tagged_record ?_ _
      simp only [List.forall_mem_cons]
      exact ⟨.text name, Expr.plain_toJson input,
        .array (Argument.plain_allToJson arguments), List.forall_mem_nil _⟩

theorem Argument.plain_toJson (argument : Argument) :
    Plain argument.toJson := by
  match argument with
  | .int number => exact (Plain.int number).tagged _
  | .text content => exact (Plain.text content).tagged _
  | .expr inner => exact (Expr.plain_toJson inner).tagged _

theorem Argument.plain_allToJson (arguments : List Argument) :
    ∀ json ∈ Argument.allToJson arguments, Plain json := by
  match arguments with
  | [] => exact List.forall_mem_nil _
  | argument :: others =>
      exact List.forall_mem_cons.mpr
        ⟨Argument.plain_toJson argument, Argument.plain_allToJson others⟩

end

theorem Piece.plain_toJson (piece : Piece) : Plain piece.toJson := by
  cases piece with
  | text content => exact (Plain.text content).tagged _
  | expr inner => exact inner.plain_toJson.tagged _

theorem Piece.plain_map_toJson (pieces : List Piece) :
    Plain (.array (pieces.map Piece.toJson)) :=
  .array (List.forall_mem_map.mpr fun piece _ => piece.plain_toJson)

theorem Condition.plain_toJson (condition : Condition) :
    Plain condition.toJson :=
  .record
    (List.forall_mem_singleton.mpr (Piece.plain_map_toJson condition.pieces))

theorem Source.plain_toJson (source : Source) : Plain source.toJson := by
  cases source with
  | collection expr => exact expr.plain_toJson.tagged _
  | nested frame name =>
      refine Plain.tagged_record ?_ _
      simp only [List.forall_mem_cons]
      exact ⟨.int frame, .text name, List.forall_mem_nil _⟩
  | path segments => exact (plain_texts segments).tagged _

theorem Target.plain_toJson (target : Target) : Plain target.toJson := by
  cases target with
  | path name query =>
      have parameters : Plain (.array (query.map fun parameter =>
          .array [.text parameter.1, parameter.2.toJson])) := by
        refine .array (List.forall_mem_map.mpr fun parameter _ => .array ?_)
        simp only [List.forall_mem_cons]
        exact ⟨.text parameter.1, parameter.2.plain_toJson,
          List.forall_mem_nil _⟩
      refine Plain.tagged_record ?_ _
      simp only [List.forall_mem_cons]
      exact ⟨.text name, parameters, List.forall_mem_nil _⟩
  | dynamic expr => exact expr.plain_toJson.tagged _

theorem InclusionKind.plain_toJson (kind : InclusionKind) :
    Plain kind.toJson := by
  cases kind with
  | optional => exact .text "Include"
  | required => exact .text "Require"

theorem Instruction.plain_toJson (instruction : Instruction) :
    Plain instruction.toJson := by
  cases instruction with
  | text content => exact (Plain.text content).tagged _
  | print expr => exact expr.plain_toJson.tagged _
  | set name subscripts value =>
      refine Plain.tagged_record ?_ _
      simp only [List.forall_mem_cons]
      exact ⟨.text name, .array (Argument.plain_allToJson subscripts),
        Piece.plain_map_toJson value, List.forall_mem_nil _⟩
  | branch condition next =>
      refine Plain.tagged_record ?_ _
      simp only [List.forall_mem_cons]
      exact ⟨condition.plain_toJson, .int next, List.forall_mem_nil _⟩
  | elseBranch condition next exit =>
      refine Plain.tagged_record ?_ _
      simp only [List.forall_mem_cons]
      exact ⟨condition.plain_toJson, .int next, .int exit,
        List.forall_mem_nil _⟩
  | otherwise exit =>
      exact Plain.tagged_record (List.forall_mem_singleton.mpr (.int exit)) _
  | endBranch => exact .text "EndIf"
  | openBlock id rowAlias source skip =>
      refine Plain.tagged_record ?_ _
      simp only [List.forall_mem_cons]
      exact ⟨.int id, .text rowAlias, source.plain_toJson, .int skip,
        List.forall_mem_nil _⟩
  | elseBlock id body exit =>
      refine Plain.tagged_record ?_ _
      simp only [List.forall_mem_cons]
      exact ⟨.int id, .int body, .int exit, List.forall_mem_nil _⟩
  | closeBlock id body =>
      refine Plain.tagged_record ?_ _
      simp only [List.forall_mem_cons]
      exact ⟨.int id, .int body, List.forall_mem_nil _⟩
  | inclusion target once kind =>
      refine Plain.tagged_record ?_ _
      simp only [List.forall_mem_cons]
      exact ⟨target.plain_toJson, .bool once, kind.plain_toJson,
        List.forall_mem_nil _⟩

theorem Program.plain_toJson (program : Program) : Plain program.toJson :=
  .record (List.forall_mem_singleton.mpr (.array
    (List.forall_mem_map.mpr fun instruction _ => instruction.plain_toJson)))

/-- A program is read back from its artifact exactly if the artifact is not
nested too deeply. -/
theorem Program.ofArtifact?_artifact {program : Program}
    (storable : program.Storable) :
    Program.ofArtifact? program.artifact =
      limited Json.levels program.toJson.depth program := by
  rw [Program.ofArtifact?, Program.artifact, String.toList_ofList,
    program.plain_toJson.read?_write, Option.bind_some]
  exact Program.ofJson?_toJson storable Json.levels

end TemplateEngine
