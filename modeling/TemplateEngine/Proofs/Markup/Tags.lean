import TemplateEngine.Proofs.Markup.Heads
import TemplateEngine.Proofs.Markup.Inclusions

/-!
# Tags as they are written

Some attributes have two names, and so has a further condition.  Attributes
stand in any order, and an inclusion may say that it is not only once.  An
assignment goes on up to its closing tag.  However a tag is written, it is read
from its text.
-/

namespace TemplateEngine

/-- The name of the tag for an inclusion. -/
def InclusionKind.tagName : InclusionKind → String
  | .optional => "include"
  | .required => "require"

theorem InclusionKind.isName_tagName (kind : InclusionKind) :
    Text.isName kind.tagName.toList = true := by
  cases kind with
  | optional => decide
  | required => decide

/-- Whether all features of the language are switched on. -/
structure Options.AllOn (options : Options) : Prop where
  filters : options.filters = true
  inclusion : options.inclusion = true
  conditions : options.conditions = true
  constants : options.constants = true
  sets : options.sets = true

namespace Markup

open Scanner (Reads Many)

/-- Whether attributes are two given ones, in either order. -/
def Attributes.Are (attributes : Attributes)
    (first second : String × List Char) : Prop :=
  attributes = [first, second] ∨ attributes = [second, first]

/-- The heads with which a tag may be written. -/
inductive Tag.Has : Tag → Head → Prop
  | foreach {collection : Placeholder} {ary : String} :
      collection.Spelled maxDepth → collection.isValue = true →
      ary ∈ ["ary", "array"] →
      Has (.foreach collection none)
        ⟨"foreach", [(ary, collection.raw.toList)], false⟩
  | foreachAs {collection : Placeholder} {rowAlias ary as : String}
      {attributes : Attributes} :
      collection.Spelled maxDepth → collection.isValue = true →
      Text.isName rowAlias.toList = true → ary ∈ ["ary", "array"] →
      as ∈ ["as", "name"] →
      attributes.Are (ary, collection.raw.toList) (as, rowAlias.toList) →
      Has (.foreach collection (some rowAlias)) ⟨"foreach", attributes, false⟩
  | foreachElse : Has .foreachElse ⟨"foreachelse", [], true⟩
  | block {name : String} :
      Text.isName name.toList = true →
      Has (.block name none) ⟨"block", [("name", name.toList)], false⟩
  | blockParent {name parent : String} {attributes : Attributes} :
      Text.isName name.toList = true → Text.isDottedName parent.toList = true →
      attributes.Are ("name", name.toList) ("parent", parent.toList) →
      Has (.block name (some parent)) ⟨"block", attributes, false⟩
  | condition {parts : List Part} {text : List Char} {cond : String} :
      Part.SpelledAll parts text → Text.isAllBlank text = false →
      cond ∈ ["cond", "condition"] →
      Has (.condition parts) ⟨"if", [(cond, text)], false⟩
  | elseIf {parts : List Part} {text : List Char} {name cond : String} :
      name ∈ ["elseif", "elif"] → Part.SpelledAll parts text →
      Text.isAllBlank text = false → cond ∈ ["cond", "condition"] →
      Has (.elseIf parts) ⟨name, [(cond, text)], true⟩
  | otherwise : Has .otherwise ⟨"else", [], true⟩
  | inclusion {kind : InclusionKind} {destination : Destination}
      {text : List Char} :
      destination.Spelled text →
      Has (.inclusion kind destination false)
        ⟨kind.tagName, [("tpl", text)], true⟩
  | inclusionOnce {kind : InclusionKind} {destination : Destination}
      {text : List Char} {once : Bool} {attributes : Attributes} :
      destination.Spelled text →
      attributes.Are ("tpl", text)
        ("once", if once then "true".toList else "false".toList) →
      Has (.inclusion kind destination once) ⟨kind.tagName, attributes, true⟩

/-- How a tag is written; an assignment up to its closing tag. -/
inductive Tag.Spelled (tagNamespace : List Char) : Tag → List Char → Prop
  | head {tag : Tag} {head : Head} {text : List Char} :
      tag.Has head → head.Spelled tagNamespace text →
      Spelled tagNamespace tag text
  | endForeach :
      Spelled tagNamespace .endForeach
        ('<' :: '/' :: (tagNamespace ++ "foreach>".toList))
  | endCondition :
      Spelled tagNamespace .endCondition
        ('<' :: '/' :: (tagNamespace ++ "if>".toList))
  | set {name : String} {subscripts : List Argument} {parts : List Part}
      {brackets text body : List Char} :
      Text.isName name.toList = true →
      Many '[' (Argument.SpelledSubscript (Placeholder.Spelled (maxDepth - 1)))
        subscripts brackets →
      Head.Spelled tagNamespace
        ⟨"set", [("var", name.toList ++ brackets)], false⟩ text →
      Part.SpelledAll parts body → body ≠ [] → '<' ∉ body →
      Spelled tagNamespace (.set name subscripts parts)
        (text ++ (body ++ '<' :: '/' :: (tagNamespace ++ "set>".toList)))

/-- The heads of tags and their attributes have names. -/
theorem Tag.Has.areNames {tag : Tag} {head : Head} (has : tag.Has head) :
    Text.isName head.name.toList = true ∧
      ∀ entry ∈ head.attributes, Text.isName entry.1.toList = true := by
  have known :
      ∀ name ∈ ["foreach", "foreachelse", "block", "if", "else", "name",
          "parent", "tpl", "once"],
        Text.isName name.toList = true := by decide
  have ofAry : ∀ ary ∈ ["ary", "array"], Text.isName ary.toList = true := by
    decide
  have ofAs : ∀ as ∈ ["as", "name"], Text.isName as.toList = true := by decide
  have ofCond :
      ∀ cond ∈ ["cond", "condition"], Text.isName cond.toList = true := by
    decide
  have ofElseIf :
      ∀ name ∈ ["elseif", "elif"], Text.isName name.toList = true := by decide
  have ofTwo : ∀ {attributes : Attributes} {first second : String × List Char},
      attributes.Are first second → Text.isName first.1.toList = true →
      Text.isName second.1.toList = true →
      ∀ entry ∈ attributes, Text.isName entry.1.toList = true := by
    rintro attributes first second (rfl | rfl) isFirst isSecond
    · simp [isFirst, isSecond]
    · simp [isFirst, isSecond]
  cases has with
  | foreach _ _ isAry =>
      exact ⟨known "foreach" (by simp),
        List.forall_mem_singleton.mpr (ofAry _ isAry)⟩
  | foreachAs _ _ _ isAry isAs are =>
      exact ⟨known "foreach" (by simp), ofTwo are (ofAry _ isAry) (ofAs _ isAs)⟩
  | foreachElse => exact ⟨known "foreachelse" (by simp), List.forall_mem_nil _⟩
  | block =>
      exact ⟨known "block" (by simp),
        List.forall_mem_singleton.mpr (known "name" (by simp))⟩
  | blockParent _ _ are =>
      exact ⟨known "block" (by simp),
        ofTwo are (known "name" (by simp)) (known "parent" (by simp))⟩
  | condition _ _ isCond =>
      exact ⟨known "if" (by simp),
        List.forall_mem_singleton.mpr (ofCond _ isCond)⟩
  | elseIf isElseIf _ _ isCond =>
      exact ⟨ofElseIf _ isElseIf,
        List.forall_mem_singleton.mpr (ofCond _ isCond)⟩
  | otherwise => exact ⟨known "else" (by simp), List.forall_mem_nil _⟩
  | inclusion =>
      exact ⟨InclusionKind.isName_tagName _,
        List.forall_mem_singleton.mpr (known "tpl" (by simp))⟩
  | inclusionOnce _ are =>
      exact ⟨InclusionKind.isName_tagName _,
        ofTwo are (known "tpl" (by simp)) (known "once" (by simp))⟩

/-- Every tag whose attributes hold no quotes can be written with any of its
heads. -/
theorem Tag.Has.spelled_written {tag : Tag} {head : Head} (has : tag.Has head)
    (tagNamespace : List Char)
    (unquoted : ∀ entry ∈ head.attributes, '"' ∉ entry.2) :
    tag.Spelled tagNamespace (head.written tagNamespace) :=
  .head has (Head.spelled_written has.areNames.1 has.areNames.2 unquoted)

/-! ## Attributes -/

section

variable {names : List String} {name : String} {value : List Char}
  {others : Attributes}

theorem Attributes.take_cons_of_mem (listed : name ∈ names) :
    Attributes.take names ((name, value) :: others) = (some value, others) := by
  simp [Attributes.take, listed]

theorem Attributes.take_cons_of_not_mem (other : name ∉ names) :
    Attributes.take names ((name, value) :: others) =
      ((others.take names).1, (name, value) :: (others.take names).2) := by
  simp [Attributes.take, other]

/-- Of two attributes, the one with a listed name is taken wherever it
stands. -/
theorem Attributes.Are.take_eq {attributes : Attributes}
    {second : String × List Char} (are : attributes.Are (name, value) second)
    (listed : name ∈ names) (other : second.1 ∉ names) :
    attributes.take names = (some value, [second]) := by
  rcases are with rfl | rfl
  · exact take_cons_of_mem listed
  · rw [take_cons_of_not_mem other, take_cons_of_mem listed]

theorem Attributes.reads_require {attributes : Attributes} {rest : List Char}
    (taken : attributes.take names = (some value, others)) :
    Reads (attributes.require names) [] (value, others) rest := by
  rw [Attributes.require, taken]
  exact (Scanner.reads_some value).bind_pure fun value => (value, others)

end

/-! ## Heads of tags -/

/-- A tag is read from its head if no attribute is left over. -/
theorem Tag.reads_complete {scanner : Scanner (Tag × Attributes)} {tag : Tag}
    {rest : List Char} (reads : Reads scanner [] (tag, []) rest) :
    Reads (complete scanner) [] tag rest := by
  apply reads.bind_nil
  exact (Scanner.reads_ensure rfl).bind_pure fun _ => tag

theorem Tag.reads_blockOf {name : String} {parent : Option String}
    {attributes others : Attributes} {rest : List Char}
    (taken : attributes.take ["name"] = (some name.toList, others))
    (takenParent : others.take ["parent"] = (parent.map String.toList, []))
    (isName : Text.isName name.toList = true)
    (isParent : ∀ path ∈ parent, Text.isDottedName path.toList = true) :
    Reads (blockOf attributes) [] (.block name parent, []) rest := by
  have valid : (Text.isName name.toList &&
      (parent.map String.toList).all Text.isDottedName) = true := by
    cases parent with
    | none => simp [isName]
    | some path => simp [isName, isParent path rfl]
  have same : Tag.block (String.ofList name.toList)
      ((parent.map String.toList).map String.ofList) = .block name parent := by
    cases parent <;> simp
  apply (Attributes.reads_require taken).bind_nil
  dsimp only
  rw [takenParent, ← same]
  apply (Scanner.reads_ensure valid).bind_pure

section

variable {options : Options} {kind : InclusionKind} {attributes : Attributes}
  {rest : List Char}

theorem Tag.reads_inclusionOf {destination : Destination} {once : Bool}
    {others : Attributes} {text : List Char}
    (reads : Reads (destinationOf options text) [] destination rest)
    (taken : attributes.take ["tpl"] = (some text, others))
    (takenOnce : others.take ["once"] = (none, []) ∧ once = false ∨
      others.take ["once"] =
        (some (if once then "true".toList else "false".toList), [])) :
    Reads (inclusionOf options kind attributes) []
      (.inclusion kind destination once, []) rest := by
  have read : Reads (do
      let destination ← destinationOf options text
      return (inclusion kind destination once, ([] : Attributes))) []
        (.inclusion kind destination once, []) rest :=
    reads.bind_pure fun destination => (inclusion kind destination once, [])
  apply (Attributes.reads_require taken).bind_nil
  dsimp only
  rcases takenOnce with ⟨taken, rfl⟩ | taken
  · rw [taken]
    exact (Scanner.reads_some false).bind_nil read
  · rw [taken]
    cases once with
    | false => exact (Scanner.reads_some false).bind_nil read
    | true => exact (Scanner.reads_some true).bind_nil read

theorem Tag.reads_ofHead_inclusion (includes : options.inclusion = true)
    {tag : Tag}
    (reads : Reads (inclusionOf options kind attributes) [] (tag, []) rest) :
    Reads (Tag.ofHead options ⟨kind.tagName, attributes, true⟩) [] tag
      rest := by
  cases kind with
  | optional =>
      exact (Scanner.reads_ensure includes).bind_nil (reads_complete reads)
  | required =>
      exact (Scanner.reads_ensure includes).bind_nil (reads_complete reads)

end

section

variable {options : Options} (allOn : options.AllOn)

include allOn

theorem Tag.reads_foreachOf {collection : Placeholder}
    {rowAlias : Option String} {attributes others : Attributes}
    {rest : List Char} (spelled : collection.Spelled maxDepth)
    (isValue : collection.isValue = true)
    (taken :
      attributes.take ["ary", "array"] = (some collection.raw.toList, others))
    (takenAlias : others.take ["as", "name"] = (rowAlias.map String.toList, []))
    (isName : ∀ name ∈ rowAlias, Text.isName name.toList = true) :
    Reads (foreachOf options attributes) [] (.foreach collection rowAlias, [])
      rest := by
  have valid : (rowAlias.map String.toList).all Text.isName = true := by
    cases rowAlias with
    | none => rfl
    | some name => exact isName name rfl
  have same : (rowAlias.map String.toList).map String.ofList = rowAlias := by
    cases rowAlias <;> simp
  apply (Attributes.reads_require taken).bind_nil
  apply (spelled.reads_scanValue allOn.filters allOn.constants
    isValue).within.bind_nil
  dsimp only
  rw [takenAlias]
  apply (Scanner.reads_ensure valid).bind_nil
  dsimp only
  rw [same]
  exact Scanner.reads_pure _

theorem Tag.reads_conditionOf {parts : List Part} {text rest : List Char}
    {cond : String} (spelled : Part.SpelledAll parts text)
    (visible : Text.isAllBlank text = false)
    (isCond : cond ∈ ["cond", "condition"]) :
    Reads (conditionOf options [(cond, text)]) [] (parts, []) rest := by
  have holds : (!Text.isAllBlank text) = true := by rw [visible]; rfl
  have split := spelled.split_eq allOn.filters allOn.constants
  apply (Attributes.reads_require (Attributes.take_cons_of_mem isCond)).bind_nil
  apply (Scanner.reads_ensure holds).bind_nil
  exact (Scanner.reads_lift split).bind_pure fun parts => (parts, [])

/-- A tag is found by the heads with which it may be written. -/
theorem Tag.Has.reads {tag : Tag} {head : Head} {rest : List Char}
    (has : tag.Has head) : Reads (Tag.ofHead options head) [] tag rest := by
  cases has with
  | foreach spelled isValue isAry =>
      apply reads_complete
      exact reads_foreachOf allOn spelled isValue
        (Attributes.take_cons_of_mem isAry) rfl (by simp)
  | foreachAs spelled isValue isName isAry isAs are =>
      have apart : ∀ as ∈ ["as", "name"], as ∉ ["ary", "array"] := by decide
      apply reads_complete
      apply reads_foreachOf allOn spelled isValue
        (are.take_eq isAry (apart _ isAs))
      · exact Attributes.take_cons_of_mem isAs
      · simpa using isName
  | foreachElse =>
      apply reads_complete
      exact Scanner.reads_pure _
  | block isName =>
      apply reads_complete
      exact reads_blockOf (Attributes.take_cons_of_mem (by simp)) rfl isName
        (by simp)
  | blockParent isName isParent are =>
      apply reads_complete
      apply reads_blockOf (are.take_eq (by simp) (by simp)) _ isName
      · simpa using isParent
      · exact Attributes.take_cons_of_mem (by simp)
  | condition spelled visible isCond =>
      apply (Scanner.reads_ensure allOn.conditions).bind_nil
      apply reads_complete
      exact (reads_conditionOf allOn spelled visible isCond).bind_pure
        fun found => (Tag.condition found.1, found.2)
  | @elseIf parts text name cond isElseIf spelled visible isCond =>
      have read :
          Reads (Tag.ofHead.elseIfOf options ⟨name, [(cond, text)], true⟩) []
            (.elseIf parts) rest := by
        apply (Scanner.reads_ensure allOn.conditions).bind_nil
        apply reads_complete
        exact (reads_conditionOf allOn spelled visible isCond).bind_pure
          fun found => (Tag.elseIf found.1, found.2)
      simp only [List.mem_cons, List.not_mem_nil, or_false] at isElseIf
      rcases isElseIf with rfl | rfl
      · exact read
      · exact read
  | otherwise =>
      apply (Scanner.reads_ensure allOn.conditions).bind_nil
      apply reads_complete
      exact Scanner.reads_pure _
  | inclusion spelled =>
      apply reads_ofHead_inclusion allOn.inclusion
      exact reads_inclusionOf (spelled.reads allOn.filters allOn.constants)
        (Attributes.take_cons_of_mem (by simp)) (.inl ⟨rfl, rfl⟩)
  | inclusionOnce spelled are =>
      apply reads_ofHead_inclusion allOn.inclusion
      exact reads_inclusionOf (spelled.reads allOn.filters allOn.constants)
        (are.take_eq (by simp) (by simp))
        (.inr (Attributes.take_cons_of_mem (by simp)))

theorem Tag.reads_setOf {name : String} {subscripts : List Argument}
    {parts : List Part} {brackets body rest : List Char}
    (isName : Text.isName name.toList = true)
    (inBrackets :
      Many '[' (Argument.SpelledSubscript (Placeholder.Spelled (maxDepth - 1)))
        subscripts brackets) (spelled : Part.SpelledAll parts body)
    (nonempty : body ≠ []) (noTag : '<' ∉ body) :
    Reads (setOf options [("var", name.toList ++ brackets)])
      (body ++ '<' :: '/' :: (options.tagNamespace ++ "set>".toList))
      (.set name subscripts parts) rest := by
  have readTarget :=
    Placeholder.reads_scanTarget allOn.filters allOn.constants isName inBrackets
  have split := spelled.split_eq allOn.filters allOn.constants
  have visible : (!body.isEmpty) = true := by simpa using nonempty
  have closing : "</".toList ++ options.tagNamespace ++ "set>".toList =
      '<' :: '/' :: (options.tagNamespace ++ "set>".toList) := rfl
  have around :
      Text.splitAround? ("</".toList ++ options.tagNamespace ++ "set>".toList)
          (body ++ '<' :: '/' :: (options.tagNamespace ++ "set>".toList) ++
            rest) =
        some (body, rest) := by
    rw [closing, List.append_assoc]
    exact Text.splitAround?_append _ rest noTag
  have readBody :
      Reads
        (Scanner.upTo ("</".toList ++ options.tagNamespace ++ "set>".toList))
        (body ++ '<' :: '/' :: (options.tagNamespace ++ "set>".toList)) body
        rest :=
    Scanner.upTo_eq_some_iff.mpr around
  apply
    (Attributes.reads_require (Attributes.take_cons_of_mem (by simp))).bind_nil
  apply (Scanner.reads_ensure rfl).bind_nil
  apply readTarget.within.bind_nil
  apply readBody.bind_last
  apply (Scanner.reads_ensure visible).bind_nil
  exact (Scanner.reads_lift split).bind_pure (Tag.set name subscripts)

end

/-! ## Whole tags -/

theorem Tag.scan_of_isPrefixOf? {options : Options} {text : List Char}
    (absent : List.isPrefixOf? ['<', '/'] text = none) :
    scan options text = (do
      let head ← Head.scan options.tagNamespace
      ofHead options head : Scanner Tag) text := by
  rw [scan.eq_def]
  split
  · simp [List.isPrefixOf?] at absent
  · rfl

section

variable {options : Options} (isNamespace : IsNamespace options.tagNamespace)

include isNamespace

theorem Head.Spelled.reads_scan {head : Head} {tag : Tag}
    {text more rest : List Char}
    (spelled : head.Spelled options.tagNamespace text)
    (reads : Reads (Tag.ofHead options head) more tag rest) :
    Reads (Tag.scan options) (text ++ more) tag rest := by
  have opening : List.isPrefixOf? ['<', '/'] (text ++ more ++ rest) = none := by
    cases spelled with
    | intro _ isName _ _ =>
        simp only [List.append_assoc]
        exact isNamespace.isPrefixOf?_eq_none isName rfl []
  rw [Reads, Tag.scan_of_isPrefixOf? opening]
  exact (spelled.reads isNamespace).bind reads

/-- A tag is read from its text. -/
theorem Tag.Spelled.reads (allOn : options.AllOn) {tag : Tag}
    {text rest : List Char} (spelled : tag.Spelled options.tagNamespace text) :
    Reads (Tag.scan options) text tag rest := by
  cases spelled with
  | head has spelled =>
      have read : Reads (Tag.scan options) (text ++ []) tag rest :=
        spelled.reads_scan isNamespace (has.reads allOn)
      rwa [List.append_nil] at read
  | endForeach =>
      have read :
          Reads (scanClosing options)
            (['<', '/'] ++ (options.tagNamespace ++ "foreach>".toList))
            .endForeach rest := by
        apply (Scanner.reads_exactly ['<', '/']).bind
        apply (Scanner.reads_exactly options.tagNamespace).bind
        exact (Scanner.reads_takes "foreach>".toList).bind_pure fun _ =>
          Tag.endForeach
      exact read
  | endCondition =>
      have read :
          Reads (scanClosing options)
            (['<', '/'] ++ (options.tagNamespace ++ "if>".toList)) .endCondition
            rest := by
        apply (Scanner.reads_exactly ['<', '/']).bind
        apply (Scanner.reads_exactly options.tagNamespace).bind
        apply (Scanner.reads_takes_of_none rfl).bind_nil
        apply (Scanner.reads_ensure allOn.conditions).bind_nil
        exact (Scanner.reads_exactly "if>".toList).bind_pure fun _ =>
          Tag.endCondition
      exact read
  | set isName inBrackets spelled parts nonempty noTag =>
      apply spelled.reads_scan isNamespace
      apply (Scanner.reads_ensure allOn.sets).bind_nil
      exact reads_setOf allOn isName inBrackets parts nonempty noTag

end

end Markup
end TemplateEngine
