import TemplateEngine.Proofs.Program.Artifact

/-!
# What an artifact may be read back as

Whatever numbers a program holds, its artifact is read back as this program or
not at all.
-/

namespace TemplateEngine

namespace Number

/-- What is read from the digits of a number is this number. -/
theorem eq_of_count?_naturalText {number read : Nat}
    (found : count? (naturalText number) = some read) : read = number := by
  unfold count? at found
  split at found
  next digits same => exact absurd same (naturalText_ne_sign (by decide) digits)
  next =>
    dsimp only at found
    rw [natural?_naturalText] at found
    exact (Option.some.inj (Option.filter_eq_some_iff.mp found).1).symm

theorem eq_of_integer?_integerText {number read : Int}
    (found : integer? (integerText number) = some read) : read = number := by
  cases number with
  | ofNat number =>
      unfold integerText integer? at found
      split at found
      next digits same =>
        exact absurd same (naturalText_ne_sign (by decide) digits)
      next digits same =>
        exact absurd same (naturalText_ne_sign (by decide) digits)
      next =>
        rw [natural?_naturalText] at found
        exact (Option.some.inj (Option.filter_eq_some_iff.mp found).1).symm
  | negSucc number =>
      rw [integerText, integer?, natural?_naturalText] at found
      exact (Option.some.inj (Option.filter_eq_some_iff.mp found).1).symm

end Number

namespace Json

/-- Whether nothing but a value is read. -/
def Only {α : Type} (value : α) (read : Option α) : Prop :=
  ∀ other, read = some other → other = value

section

variable {α β : Type}

theorem only_none (value : α) : Only value none := by
  intro other found
  cases found

theorem only_some (value : α) : Only value (some value) := by
  intro other found
  cases found
  rfl

theorem Only.map {value : α} {read : Option α} (only : Only value read)
    (change : α → β) : Only (change value) (read.map change) := by
  intro other found
  obtain ⟨inner, isRead, rfl⟩ := Option.map_eq_some_iff.mp found
  rw [only inner isRead]

theorem Only.bind {value : α} {result : β} {read : Option α}
    {next : α → Option β} (only : Only value read)
    (rest : Only result (next value)) : Only result (read >>= next) := by
  intro other found
  obtain ⟨inner, found, goesOn⟩ := Option.bind_eq_some_iff.mp found
  rw [only inner found] at goesOn
  exact rest other goesOn

end

namespace Decoder

variable {α β : Type} {levels : Nat}

theorem only_text (text : String) (levels : Nat) :
    Only text (Decoder.text levels (.text text)) :=
  only_some text

theorem only_bool (flag : Bool) (levels : Nat) :
    Only flag (Decoder.bool levels (.bool flag)) :=
  only_some flag

theorem only_int (number : Int) (levels : Nat) :
    Only number (Decoder.int levels (.int number)) := by
  intro other found
  rw [Json.int, Decoder.int] at found
  exact Number.eq_of_integer?_integerText (Option.filter_eq_some_iff.mp found).1

theorem only_count (number : Nat) (levels : Nat) :
    Only number (Decoder.count levels (.count number)) := by
  intro other found
  exact Number.eq_of_count?_naturalText found

theorem only_mapM {item : Decoder α} {toJson : α → Json} {values : List α}
    (each : ∀ value ∈ values, Only value (item levels (toJson value))) :
    Only values ((values.map toJson).mapM (item levels)) := by
  induction values with
  | nil => exact only_some []
  | cons value values induction =>
      rw [List.map_cons, List.mapM_cons]
      apply (each value List.mem_cons_self).bind
      apply (induction fun other member =>
        each other (List.mem_cons_of_mem _ member)).bind
      exact only_some (value :: values)

theorem only_list {item : Decoder α} {toJson : α → Json} {values : List α}
    (each : ∀ below, ∀ value ∈ values, Only value (item below (toJson value))) :
    Only values (Decoder.list item levels (.array (values.map toJson))) := by
  cases levels with
  | zero => exact only_none values
  | succ levels => exact only_mapM (each levels)

theorem only_texts (texts : List String) :
    Only texts (Decoder.list Decoder.text levels (.texts texts)) :=
  only_list fun below text _ => only_text text below

theorem only_pair {first : Decoder α} {second : Decoder β} {left right : Json}
    {one : α} {other : β} (readsLeft : ∀ below, Only one (first below left))
    (readsRight : ∀ below, Only other (second below right)) :
    Only (one, other)
      (Decoder.pair first second levels (.array [left, right])) := by
  cases levels with
  | zero => exact only_none (one, other)
  | succ levels =>
      apply (readsLeft levels).bind
      apply (readsRight levels).bind
      exact only_some (one, other)

/-- Data below an array or an object. -/
theorem only_below {decoder : Decoder α} {json : Json} {value : α}
    (outOfLevels : decoder 0 json = none)
    (inner : ∀ below, Only value (decoder (below + 1) json)) :
    Only value (decoder levels json) := by
  cases levels with
  | zero =>
      rw [outOfLevels]
      exact only_none value
  | succ levels => exact inner levels

/-- Data below two arrays or objects. -/
theorem only_belowTwo {decoder : Decoder α} {json : Json} {value : α}
    (outOfLevels : decoder 0 json = none) (outOfFields : decoder 1 json = none)
    (inner : ∀ below, Only value (decoder (below + 2) json)) :
    Only value (decoder levels json) := by
  apply only_below outOfLevels
  rintro (_ | below)
  · rw [outOfFields]
    exact only_none value
  · exact inner below

end Decoder
end Json

open Json (Only only_none only_some)
open Json.Decoder

theorem Reference.only_toJson (reference : Reference) (levels : Nat) :
    Only reference (Reference.ofJson? levels reference.toJson) := by
  cases reference with
  | var name => exact only_below rfl fun below => (only_text name below).map _
  | const name => exact only_below rfl fun below => (only_text name below).map _
  | frame id rowAlias path field =>
      apply only_belowTwo rfl rfl
      intro below
      apply (only_count id below).bind
      apply (only_text rowAlias below).bind
      apply (only_texts path).bind
      apply (only_text field below).bind
      exact only_some _
  | block path field =>
      apply only_belowTwo rfl rfl
      intro below
      apply (only_texts path).bind
      apply (only_text field below).bind
      exact only_some _

mutual

theorem Expr.onlyWithin_toJson (expr : Expr) (fuel levels : Nat) :
    Only expr (Expr.ofJsonWithin? fuel levels expr.toJson) := by
  match fuel, expr with
  | 0, _ => exact only_none _
  | fuel + 1, .access reference subscripts =>
      apply only_belowTwo rfl rfl
      intro below
      apply (Reference.only_toJson reference below).bind
      rw [Argument.allToJson_eq_map]
      apply (only_list fun further =>
        Argument.onlyWithin_allToJson subscripts fuel further).bind
      exact only_some _
  | fuel + 1, .filter name input arguments =>
      apply only_belowTwo rfl rfl
      intro below
      apply (only_text name below).bind
      apply (Expr.onlyWithin_toJson input fuel below).bind
      rw [Argument.allToJson_eq_map]
      apply (only_list fun further =>
        Argument.onlyWithin_allToJson arguments fuel further).bind
      exact only_some _

theorem Argument.onlyWithin_toJson (argument : Argument) (fuel levels : Nat) :
    Only argument (Argument.ofJsonWithin? fuel levels argument.toJson) := by
  match fuel, argument with
  | 0, _ => exact only_none _
  | fuel + 1, .int number =>
      exact only_below rfl fun below => (only_int number below).map _
  | fuel + 1, .text content =>
      exact only_below rfl fun below => (only_text content below).map _
  | fuel + 1, .expr inner =>
      exact only_below rfl fun below =>
        (Expr.onlyWithin_toJson inner fuel below).map _

theorem Argument.onlyWithin_allToJson (arguments : List Argument)
    (fuel levels : Nat) :
    ∀ argument ∈ arguments,
      Only argument (Argument.ofJsonWithin? fuel levels argument.toJson) := by
  match arguments with
  | [] => exact List.forall_mem_nil _
  | first :: others =>
      exact List.forall_mem_cons.mpr ⟨Argument.onlyWithin_toJson first fuel
          levels, Argument.onlyWithin_allToJson others fuel levels⟩

end

theorem Expr.only_toJson (expr : Expr) (levels : Nat) :
    Only expr (Expr.ofJson? levels expr.toJson) :=
  Expr.onlyWithin_toJson expr (levels + 1) levels

theorem Argument.only_allToJson (arguments : List Argument) (levels : Nat) :
    Only arguments (Json.Decoder.list Argument.ofJson? levels
      (.array (Argument.allToJson arguments))) := by
  rw [Argument.allToJson_eq_map]
  exact only_list fun below =>
    Argument.onlyWithin_allToJson arguments (below + 1) below

theorem Piece.only_toJson (piece : Piece) (levels : Nat) :
    Only piece (Piece.ofJson? levels piece.toJson) := by
  cases piece with
  | text content =>
      exact only_below rfl fun below => (only_text content below).map _
  | expr inner =>
      exact only_below rfl fun below => (inner.only_toJson below).map _

theorem Piece.only_map_toJson (pieces : List Piece) (levels : Nat) :
    Only pieces (Json.Decoder.list Piece.ofJson? levels
      (.array (pieces.map Piece.toJson))) :=
  only_list fun below piece _ => piece.only_toJson below

theorem Condition.only_toJson (condition : Condition) (levels : Nat) :
    Only condition (Condition.ofJson? levels condition.toJson) :=
  only_below rfl fun below =>
    (Piece.only_map_toJson condition.pieces below).map _

theorem Source.only_toJson (source : Source) (levels : Nat) :
    Only source (Source.ofJson? levels source.toJson) := by
  cases source with
  | collection expr =>
      exact only_below rfl fun below => (expr.only_toJson below).map _
  | nested frame name =>
      apply only_belowTwo rfl rfl
      intro below
      apply (only_count frame below).bind
      apply (only_text name below).bind
      exact only_some _
  | path segments => exact only_below rfl fun _ => (only_texts segments).map _

theorem Target.only_toJson (target : Target) (levels : Nat) :
    Only target (Target.ofJson? levels target.toJson) := by
  cases target with
  | path name query =>
      have parameters :
          ∀ levels, ∀ parameter ∈ query,
            Only parameter (Json.Decoder.pair Json.Decoder.text Piece.ofJson?
              levels (.array [.text parameter.1, parameter.2.toJson])) := by
        intro levels parameter _
        apply only_pair
        · exact fun below => only_text parameter.1 below
        · exact fun below => parameter.2.only_toJson below
      apply only_belowTwo rfl rfl
      intro below
      apply (only_text name below).bind
      apply (only_list parameters).bind
      exact only_some _
  | dynamic expr =>
      exact only_below rfl fun below => (expr.only_toJson below).map _

theorem InclusionKind.only_toJson (kind : InclusionKind) (levels : Nat) :
    Only kind (InclusionKind.ofJson? levels kind.toJson) := by
  cases kind with
  | optional => exact only_some _
  | required => exact only_some _

theorem Instruction.only_toJson (instruction : Instruction) (levels : Nat) :
    Only instruction (Instruction.ofJson? levels instruction.toJson) := by
  cases instruction with
  | text content =>
      exact only_below rfl fun below => (only_text content below).map _
  | print expr =>
      exact only_below rfl fun below => (expr.only_toJson below).map _
  | set name subscripts value =>
      apply only_belowTwo rfl rfl
      intro below
      apply (only_text name below).bind
      apply (Argument.only_allToJson subscripts below).bind
      apply (Piece.only_map_toJson value below).bind
      exact only_some _
  | branch condition next =>
      apply only_belowTwo rfl rfl
      intro below
      apply (condition.only_toJson below).bind
      apply (only_count next below).bind
      exact only_some _
  | elseBranch condition next exit =>
      apply only_belowTwo rfl rfl
      intro below
      apply (condition.only_toJson below).bind
      apply (only_count next below).bind
      apply (only_count exit below).bind
      exact only_some _
  | otherwise exit =>
      apply only_belowTwo rfl rfl
      intro below
      exact (only_count exit below).map _
  | endBranch => exact only_some _
  | openBlock id rowAlias source skip =>
      apply only_belowTwo rfl rfl
      intro below
      apply (only_count id below).bind
      apply (only_text rowAlias below).bind
      apply (source.only_toJson below).bind
      apply (only_count skip below).bind
      exact only_some _
  | elseBlock id body exit =>
      apply only_belowTwo rfl rfl
      intro below
      apply (only_count id below).bind
      apply (only_count body below).bind
      apply (only_count exit below).bind
      exact only_some _
  | closeBlock id body =>
      apply only_belowTwo rfl rfl
      intro below
      apply (only_count id below).bind
      apply (only_count body below).bind
      exact only_some _
  | inclusion target once kind =>
      apply only_belowTwo rfl rfl
      intro below
      apply (target.only_toJson below).bind
      apply (only_bool once below).bind
      apply (kind.only_toJson below).bind
      exact only_some _

theorem Program.eq_of_ofArtifact?_artifact {program other : Program}
    (read : Program.ofArtifact? program.artifact = some other) :
    other = program := by
  rw [Program.ofArtifact?, Program.artifact, String.toList_ofList,
    program.plain_toJson.read?_write, Option.bind_some] at read
  have only : Only program (Program.ofJson? Json.levels program.toJson) :=
    only_below rfl fun _ => (only_list fun below instruction _ =>
      instruction.only_toJson below).map Program.mk
  exact only other read

end TemplateEngine
