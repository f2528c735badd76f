import TemplateEngine.Json.Decode
import TemplateEngine.Proofs.Number.Whole

/-!
# Reading data within levels of nesting

A decoder gives back the data of a JSON form if the form is not nested too
deeply, and nothing otherwise.
-/

namespace TemplateEngine.Json

mutual

/-- How many arrays and objects of a value are nested in each other at most. -/
def depth : Json → Nat
  | .array items => 1 + depthItems items
  | .object members => 1 + depthMembers members
  | _ => 0

def depthItems : List Json → Nat
  | [] => 0
  | item :: items => max item.depth (depthItems items)

def depthMembers : List (Option String × Json) → Nat
  | [] => 0
  | (_, value) :: members => max value.depth (depthMembers members)

end

/-- How deeply the fields of a record are nested. -/
def depthFields : List (String × Json) → Nat
  | [] => 0
  | (_, value) :: fields => max value.depth (depthFields fields)

theorem depth_record (fields : List (String × Json)) :
    (record fields).depth = 1 + depthFields fields := by
  rw [record, depth]
  congr 1
  induction fields with
  | nil => rfl
  | cons field fields induction =>
      rw [List.map_cons, depthMembers, induction, depthFields]

theorem depthFields_singleton (name : String) (value : Json) :
    depthFields [(name, value)] = value.depth :=
  Nat.max_zero _

theorem depth_tagged (name : String) (data : Json) :
    (tagged name data).depth = 1 + data.depth := by
  rw [tagged, depth_record, depthFields_singleton]

/-- A value for which there must be some levels of nesting. -/
def limited {α : Type} (levels depth : Nat) (value : α) : Option α :=
  if depth ≤ levels then some value else none

section

variable {α β : Type} {levels depth : Nat}

theorem limited_zero (value : α) : limited levels 0 value = some value :=
  if_pos (Nat.zero_le _)

theorem limited_succ (value : α) :
    limited (levels + 1) (1 + depth) value = limited levels depth value := by
  simp only [limited, Nat.add_comm 1, Nat.succ_le_succ_iff]

theorem limited_none (value : α) : limited 0 (1 + depth) value = none :=
  if_neg (by omega)

theorem map_eq_limited {read : Option α} {value : α} (change : α → β)
    (reads : read = limited levels depth value) :
    read.map change = limited levels depth (change value) := by
  rw [reads]
  unfold limited
  split <;> rfl

/-- Data of two parts needs the levels of both. -/
theorem bind_eq_limited {read : Option α} {next : α → Option β} {value : α}
    {result : β} {others : Nat} (reads : read = limited levels depth value)
    (goesOn : next value = limited levels others result) :
    (read >>= next) = limited levels (max depth others) result := by
  rw [reads]
  simp only [limited, Nat.max_le]
  by_cases enough : depth ≤ levels
  · rw [if_pos enough, Option.bind_eq_bind, Option.bind_some, goesOn]
    simp only [limited, enough, true_and]
  · simp only [enough, if_false, false_and]
    rfl

end

namespace Decoder

variable {α β : Type} {levels : Nat}

theorem text_text (text : String) :
    Decoder.text levels (.text text) =
      limited levels (Json.text text).depth text :=
  (limited_zero text).symm

theorem bool_bool (flag : Bool) :
    Decoder.bool levels (.bool flag) =
      limited levels (Json.bool flag).depth flag :=
  (limited_zero flag).symm

theorem int_int {number : Int} (bounded : Number.isInteger number = true) :
    Decoder.int levels (.int number) =
      limited levels (Json.int number).depth number := by
  have notZero := Number.integerText_ne_minus_zero number
  refine Eq.trans ?_ (limited_zero number).symm
  rw [Json.int, Decoder.int, Number.integer?_integerText bounded]
  simp [notZero]

theorem count_count {number : Nat} (counts : Number.isCount number = true) :
    Decoder.count levels (.count number) =
      limited levels (Json.count number).depth number := by
  exact (Number.count?_naturalText counts).trans (limited_zero number).symm

theorem mapM_limited {item : Decoder α} {toJson : α → Json} {values : List α}
    (each : ∀ value ∈ values, item levels (toJson value) =
      limited levels (toJson value).depth value) :
    (values.map toJson).mapM (item levels) =
      limited levels (depthItems (values.map toJson)) values := by
  induction values with
  | nil => exact (limited_zero []).symm
  | cons value values induction =>
      have others :=
        induction fun other member => each other (List.mem_cons_of_mem _ member)
      rw [List.map_cons, List.mapM_cons]
      exact bind_eq_limited (each value List.mem_cons_self)
        ((bind_pure_comp _ _).trans (map_eq_limited _ others))

/-- The items of an array are read within one level less. -/
theorem list_array {item : Decoder α} {toJson : α → Json} {values : List α}
    (each : ∀ below < levels, ∀ value ∈ values, item below (toJson value) =
      limited below (toJson value).depth value) :
    Decoder.list item levels (.array (values.map toJson)) =
      limited levels (Json.array (values.map toJson)).depth values := by
  rw [depth]
  cases levels with
  | zero => exact (limited_none values).symm
  | succ levels =>
      rw [limited_succ]
      exact mapM_limited (each levels (Nat.lt_succ_self _))

theorem list_texts (texts : List String) :
    Decoder.list Decoder.text levels (.texts texts) =
      limited levels (Json.texts texts).depth texts :=
  list_array fun _ _ text _ => text_text text

/-- A pair is read within one level less. -/
theorem pair_array {first : Decoder α} {second : Decoder β} {left right : Json}
    {one : α} {other : β}
    (readsLeft :
      ∀ below < levels, first below left = limited below left.depth one)
    (readsRight :
      ∀ below < levels, second below right = limited below right.depth other) :
    Decoder.pair first second levels (.array [left, right]) =
      limited levels (Json.array [left, right]).depth (one, other) := by
  rw [depth]
  cases levels with
  | zero => exact (limited_none _).symm
  | succ levels =>
      rw [limited_succ]
      exact bind_eq_limited (readsLeft levels (Nat.lt_succ_self _))
        (bind_eq_limited (readsRight levels (Nat.lt_succ_self _))
          (limited_zero _).symm)

/-- Data that is written as an alternative is read within one level less. -/
theorem limited_tagged {decoder : Decoder α} {name : String} {data : Json}
    {value : α} (outOfLevels : decoder 0 (.tagged name data) = none)
    (inner :
      ∀ below < levels, decoder (below + 1) (.tagged name data) =
        limited below data.depth value) :
    decoder levels (.tagged name data) =
      limited levels (Json.tagged name data).depth value := by
  rw [depth_tagged]
  cases levels with
  | zero => rw [outOfLevels, limited_none]
  | succ levels => rw [inner levels (Nat.lt_succ_self _), limited_succ]

/-- Data that is written as a record is read within one level less. -/
theorem limited_record {decoder : Decoder α} {fields : List (String × Json)}
    {value : α} (outOfLevels : decoder 0 (.record fields) = none)
    (inner :
      ∀ below < levels, decoder (below + 1) (.record fields) =
        limited below (depthFields fields) value) :
    decoder levels (.record fields) =
      limited levels (Json.record fields).depth value := by
  rw [depth_record]
  cases levels with
  | zero => rw [outOfLevels, limited_none]
  | succ levels => rw [inner levels (Nat.lt_succ_self _), limited_succ]

/-- Data that is written as an alternative with fields is read within two levels
less. -/
theorem limited_tagged_record {decoder : Decoder α} {name : String}
    {fields : List (String × Json)} {value : α}
    (outOfLevels : decoder 0 (.tagged name (.record fields)) = none)
    (outOfFields : decoder 1 (.tagged name (.record fields)) = none)
    (inner : ∀ below, below + 1 < levels →
      decoder (below + 2) (.tagged name (.record fields)) =
        limited below (depthFields fields) value) :
    decoder levels (.tagged name (.record fields)) =
      limited levels (Json.tagged name (.record fields)).depth value := by
  refine limited_tagged outOfLevels fun below inside => ?_
  rw [depth_record]
  cases below with
  | zero => rw [outOfFields, limited_none]
  | succ below => rw [inner below inside, limited_succ]

end Decoder
end TemplateEngine.Json
