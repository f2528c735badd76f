import TemplateEngine.Proofs.Number.Whole
import TemplateEngine.Value.Basic

/-!
# Assignment and lookup

What is assigned under a chain of subscripts is found under it again, and
nothing else of the value changes for subscripts that are spelled as places are.
A list that becomes a map keeps its items under the spellings of their places,
so a lookup in a list is a lookup among its entries.
-/

namespace TemplateEngine

namespace Number

theorem naturalText_injective {first second : Nat}
    (same : naturalText first = naturalText second) : first = second := by
  have read := natural?_naturalText first
  rw [same, natural?_naturalText] at read
  exact (Option.some.inj read).symm

end Number

namespace Value

/-- Whether a subscript that stands for a place is spelled as this place:
integers are, and texts that stand for no place. -/
inductive IsCanonical : Value → Prop
  | int (number : Int) : IsCanonical (.int number)
  | text {content : String} :
      (∀ place, Number.count? content.toList = some place →
        content.toList = Number.naturalText place) →
      IsCanonical (.text content)

/-- Whether the places of a list are counts of 64 bits, as in every list that
can be held. -/
def IsCounted : Value → Prop
  | list items => Number.isCount items.length = true
  | _ => True

/-! ## Items that are assigned to -/

theorem slot?_eq_some_iff {old key : Value} {items : List Value} {place : Nat} :
    old.slot? key = some (items, place) ↔
      old = .list items ∧ key = .int place ∧ place ≤ items.length := by
  constructor
  · intro found
    unfold slot? at found
    split at found
    next others number =>
      split at found
      next inside =>
        cases found
        simp only [Bool.and_eq_true, decide_eq_true_eq] at inside
        exact ⟨rfl, congrArg Value.int (Int.toNat_of_nonneg inside.1).symm,
          inside.2⟩
      · cases found
    · cases found
  · rintro ⟨rfl, rfl, inside⟩
    simp [slot?, inside]

/-- An item that is written at a place of a list or behind its end is the only
one that changes. -/
theorem getElem?_written {items : List Value} {place : Nat}
    (inside : place ≤ items.length) (item : Value) (other : Nat) :
    (items.take place ++ item :: items.drop (place + 1))[other]? =
      if other = place then some item else items[other]? := by
  have length : (items.take place).length = place := by simp [inside]
  rcases Nat.lt_trichotomy other place with before | same | after
  · rw [if_neg (by omega), List.getElem?_append_left (by omega),
      List.getElem?_take_of_lt before]
  · rw [if_pos same, List.getElem?_append_right (by omega), length, same,
      Nat.sub_self]
    rfl
  · rw [if_neg (by omega), List.getElem?_append_right (by omega), length]
    obtain ⟨distance, rfl⟩ := Nat.exists_eq_add_of_lt after
    rw [show place + distance + 1 - place = distance + 1 by omega,
      List.getElem?_cons_succ, List.getElem?_drop]
    congr 1
    omega

/-! ## Lists as maps -/

/-- The name of a place in the map that a list becomes. -/
def placeName (place : Nat) : String :=
  String.ofList (Number.naturalText place)

theorem placeName_injective {first second : Nat}
    (same : placeName first = placeName second) : first = second :=
  Number.naturalText_injective (String.ofList_injective same)

theorem lookup_zipIdx (items : List Value) (start place : Nat) :
    ((items.zipIdx start).map fun (item, place) =>
        (placeName place, item)).lookup (placeName (start + place)) =
      items[place]? := by
  induction items generalizing start place with
  | nil => rfl
  | cons item items induction =>
      rw [List.zipIdx_cons, List.map_cons, List.lookup_cons]
      cases place with
      | zero => simp
      | succ place =>
          have other :
              (placeName (start + (place + 1)) == placeName start) = false := by
            rw [beq_eq_false_iff_ne]
            intro same
            have := placeName_injective same
            omega
          have shifted : start + (place + 1) = start + 1 + place := by omega
          rw [other, List.getElem?_cons_succ, shifted]
          exact induction (start + 1) place

/-- The map that a list becomes has each item under the name of its place. -/
theorem get?_entries_placeName (items : List Value) (place : Nat) :
    Table.get? (list items).entries (placeName place) = items[place]? := by
  have found := lookup_zipIdx items 0 place
  rwa [Nat.zero_add] at found

/-- The map that a list becomes has no other entries. -/
theorem get?_entries_of_ne {items : List Value} {name : String}
    (noPlace : ∀ place < items.length, name ≠ placeName place) :
    Table.get? (list items).entries name = none := by
  refine List.lookup_eq_none_iff.mpr ?_
  rintro ⟨known, item⟩ member
  obtain ⟨⟨value, place⟩, inside, same⟩ := List.mem_map.mp member
  cases same
  have bounded := List.snd_lt_of_mem_zipIdx inside
  rw [Nat.add_zero] at bounded
  exact bne_iff_ne.mpr (noPlace place bounded)

theorem toText_int_natural (place : Nat) :
    (Value.int place).toText = placeName place :=
  rfl

theorem toText_text (content : String) :
    (Value.text content).toText = content :=
  String.ofList_toList

theorem IsCanonical.toText_eq {key : Value} (canonical : key.IsCanonical)
    {place : Nat} (found : key.index? = some place) :
    key.toText = placeName place := by
  cases canonical with
  | int number =>
      rw [index?] at found
      split at found
      next nonnegative =>
        cases found
        rw [← toText_int_natural, Int.toNat_of_nonneg nonnegative]
      · cases found
  | text spelled =>
      rw [toText_text, placeName, ← spelled place found, String.ofList_toList]

/-- A subscript that stands for no place does not have the name of one. -/
theorem toText_ne_placeName {key : Value} (canonical : key.IsCanonical)
    (absent : key.index? = none) {place : Nat}
    (counts : Number.isCount place = true) : key.toText ≠ placeName place := by
  intro same
  cases canonical with
  | int number =>
      cases number with
      | ofNat other => cases absent
      | negSucc other =>
          -- A minus sign starts the name of no place.
          exact Number.naturalText_ne_sign (by decide) _
            (String.ofList_injective same).symm
  | @text content =>
      rw [toText_text] at same
      rw [index?, same, placeName, String.toList_ofList,
        Number.count?_naturalText counts] at absent
      cases absent

/-- A lookup in a list is one among the entries that it would have as a map. -/
theorem subscript_list {items : List Value} (counted : (list items).IsCounted)
    {key : Value} (canonical : key.IsCanonical) :
    (list items).subscript key =
      (Table.get? (list items).entries key.toText).getD null := by
  cases found : key.index? with
  | some place =>
      rw [canonical.toText_eq found, get?_entries_placeName, subscript, found]
      rfl
  | none =>
      rw [subscript, found, get?_entries_of_ne]
      · rfl
      · intro place inside
        refine toText_ne_placeName canonical found ?_
        simp only [IsCounted, Number.isCount, decide_eq_true_eq] at counted ⊢
        omega

/-- A lookup is one among the entries of the map that a value is or would
become. -/
theorem subscript_eq_getD {value key : Value} (counted : value.IsCounted)
    (canonical : key.IsCanonical) :
    value.subscript key = (Table.get? value.entries key.toText).getD null := by
  cases value with
  | list items => exact subscript_list counted canonical
  | map entries => rfl
  | _ => rfl

/-! ## Assignment under a first subscript -/

theorem subscript_assign_same (key : Value) (keys : List Value)
    (new old : Value) :
    ∃ inner,
      (assign (key :: keys) new old).subscript key = assign keys new inner := by
  rw [assign]
  split
  next items place found =>
    obtain ⟨rfl, rfl, inside⟩ := slot?_eq_some_iff.mp found
    refine ⟨items[place]?.getD null, ?_⟩
    rw [subscript, index?, if_pos (Int.natCast_nonneg place), Int.toNat_natCast,
      Option.bind_some, getElem?_written inside, if_pos rfl]
    rfl
  next =>
    refine ⟨(Table.get? old.entries key.toText).getD null, ?_⟩
    rw [subscript, Table.get?_alter_same]
    rfl

theorem subscript_assign_other {old key other : Value} (counted : old.IsCounted)
    (canonical : other.IsCanonical) (distinct : other.toText ≠ key.toText)
    (keys : List Value) (new : Value) :
    (assign (key :: keys) new old).subscript other = old.subscript other := by
  rw [assign]
  split
  next items place found =>
    obtain ⟨rfl, rfl, inside⟩ := slot?_eq_some_iff.mp found
    rw [subscript, subscript]
    cases read : other.index? with
    | none => rfl
    | some index =>
        have elsewhere : index ≠ place := by
          rintro rfl
          exact distinct
            ((canonical.toText_eq read).trans (toText_int_natural index).symm)
        rw [Option.bind_some, Option.bind_some, getElem?_written inside,
          if_neg elsewhere]
  next =>
    rw [subscript, Table.get?_alter_other _ _ _ distinct,
      subscript_eq_getD counted canonical]

/-- What is assigned under a chain of subscripts is found under this chain, and
under other subscripts than its first one the value has what it had before, also
if a list becomes a map. -/
theorem foldl_subscript_assign (keys : List Value) (new old : Value) :
    keys.foldl subscript (assign keys new old) = new ∧
      ∀ key rest, keys = key :: rest → old.IsCounted →
        ∀ other, other.IsCanonical → other.toText ≠ key.toText →
          (assign keys new old).subscript other = old.subscript other := by
  constructor
  · induction keys generalizing old with
    | nil => rfl
    | cons key keys induction =>
        obtain ⟨inner, found⟩ := subscript_assign_same key keys new old
        rw [List.foldl_cons, found, induction]
  · rintro key rest rfl counted other canonical distinct
    exact subscript_assign_other counted canonical distinct rest new

/-- An item behind a gap makes a map of a list, in which the items before are
found as before. -/
theorem foldl_subscript_assign_gap :
    [Value.int 7, .text "a"].foldl subscript
          (assign [.int 7, .text "a"] (.bool true) (.list [.null, .int 5])) =
        .bool true ∧
      (assign [.int 7, .text "a"] (.bool true)
          (.list [.null, .int 5])).subscript (.int 1) =
        .int 5 := by
  obtain ⟨same, others⟩ :=
    foldl_subscript_assign [.int 7, .text "a"] (.bool true)
      (.list [.null, .int 5])
  refine ⟨same, ?_⟩
  exact others (.int 7) [.text "a"] rfl rfl (.int 1) (.int 1) (by decide)

end Value
end TemplateEngine
