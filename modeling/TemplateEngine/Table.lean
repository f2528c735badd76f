/-!
# Ordered tables

A table holds named entries in the order in which their names first came in.
Storing under a known name keeps the place of the entry.
-/

namespace TemplateEngine

/-- Named entries in order of first insertion. -/
abbrev Table (α : Type) := List (String × α)

namespace Table

def get? {α : Type} (table : Table α) (name : String) : Option α :=
  table.lookup name

/-- Changes the entry of a name, which is `absent` if there is none yet. -/
def alter {α : Type} (name : String) (absent : α) (change : α → α) :
    Table α → Table α
  | [] => [(name, change absent)]
  | (known, entry) :: rest =>
    if known = name then (known, change entry) :: rest
    else (known, entry) :: alter name absent change rest

/-- Stores an entry under a name. -/
def insert {α : Type} (table : Table α) (name : String) (entry : α) : Table α :=
  alter name entry (fun _ => entry) table

/-- Stores entries one after the other. -/
def insertAll {α : Type} (table : Table α) (entries : List (String × α)) :
    Table α :=
  entries.foldl (fun table (name, entry) => insert table name entry) table

/-- The table of a list of entries, in which the last entry of a repeated name
counts. -/
def ofEntries {α : Type} (entries : List (String × α)) : Table α :=
  insertAll [] entries

def names {α : Type} (table : Table α) : List String :=
  table.map Prod.fst

/-- Whether a name has an entry. -/
def contains {α : Type} (table : Table α) (name : String) : Bool :=
  (get? table name).isSome

theorem get?_alter_same {α : Type} (table : Table α) (name : String)
    (absent : α) (change : α → α) :
    get? (alter name absent change table) name =
      some (change ((get? table name).getD absent)) := by
  induction table with
  | nil => simp [alter, get?]
  | cons entry rest induction =>
      obtain ⟨known, value⟩ := entry
      by_cases same : known = name
      · subst same
        simp [alter, get?]
      · have different : (name == known) = false := by simpa using Ne.symm same
        simpa [alter, get?, same, List.lookup_cons, different] using induction

theorem get?_alter_other {α : Type} (table : Table α) {name other : String}
    (absent : α) (change : α → α) (distinct : other ≠ name) :
    get? (alter name absent change table) other = get? table other := by
  have different : (other == name) = false := by simpa using distinct
  induction table with
  | nil => simp [alter, get?, List.lookup_cons, different]
  | cons entry rest induction =>
      obtain ⟨known, value⟩ := entry
      by_cases same : known = name
      · subst same
        simp [alter, get?, List.lookup_cons, different]
      · simp only [alter, same, if_false, get?, List.lookup_cons]
        simp only [get?] at induction
        rw [induction]

theorem get?_insert_same {α : Type} (table : Table α) (name : String)
    (entry : α) : get? (insert table name entry) name = some entry :=
  get?_alter_same table name entry fun _ => entry

theorem get?_insert_other {α : Type} (table : Table α) {name other : String}
    (entry : α) (distinct : other ≠ name) :
    get? (insert table name entry) other = get? table other :=
  get?_alter_other table entry (fun _ => entry) distinct

end Table
end TemplateEngine
