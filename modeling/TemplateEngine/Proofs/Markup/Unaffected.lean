import TemplateEngine.Proofs.Markup.Inclusions
import TemplateEngine.Proofs.Markup.Switched

/-!
# Tokens that switching a feature off does not affect

A tag that uses a feature is lost without it or becomes another one; the other
tags are found as before.  All attributes of a tag are looked at before its text
is split at values, except for those of a condition: there the text comes first,
and attributes that do not belong to the tag are noticed later.  So the
placeholders in such a text may be nested too deeply although it is not a
condition.
-/

namespace TemplateEngine.Markup

open Scanner

/-- Whether attributes are more than those of a condition, and the values in the
text of the condition are nested too deeply, near some text. -/
def Attributes.Crowded (options : Options) (attributes : Attributes)
    (near : String) : Prop :=
  ∃ text others, attributes.take ["cond", "condition"] = (some text, others) ∧
    others ≠ [] ∧ Part.split options text = .error ⟨.tooDeep, near⟩

/-- Whether a head is that of a condition except for further attributes, and the
values in the text of the condition are nested too deeply. -/
def Head.Crowded (options : Options) (head : Head) (near : String) : Prop :=
  (head.name, head.selfClosing) ∈
      [("if", false), ("elseif", true), ("elif", true)] ∧
    head.attributes.Crowded options near

/-- Whether a text begins with the head of a condition that has further
attributes, and the values in the text of the condition are nested too
deeply. -/
def Tag.Crowded (options : Options) (text : List Char) (near : String) : Prop :=
  ∃ head rest, Head.scan options.tagNamespace text = .ok (some (head, rest)) ∧
    head.Crowded options near

/-- Whether a second scanner for tags finds without a feature what a first one
finds with it, and leaves the same attributes over. -/
def Tag.Without (feature : Feature)
    (scanner other : Scanner (Tag × Attributes)) : Prop :=
  scanner.FollowedBy (fun found => feature.Loses (found.1.uses feature))
    (fun found changed => found.2 = changed.2 ∧
      SameUnless (found.1.uses feature) found.1 changed.1) other

section

variable {options : Options} {feature : Feature}

theorem Tag.uses_of_placeholders {tag : Tag}
    (used : tag.placeholders.any (Placeholder.uses feature) = true) :
    tag.uses feature = true := by
  rw [Tag.uses, used, Bool.or_true]

/-! ## Parts of tags -/

namespace Tag

/-- A value that is no placeholder any more is read as a text. -/
theorem without_parameterValue (value : List Char) :
    (parameterValue options value).FollowedBy (fun _ => False)
      (fun part found =>
        SameUnless (part.placeholders.any (Placeholder.uses feature)) part
          found) (parameterValue (options.without feature) value) := by
  intro text
  have related :=
    (@Placeholder.without_scanValue feature options).within value text
  have still := gives_within value (Placeholder.scanValue options) text
  rw [parameterValue, parameterValue]
  generalize within value (Placeholder.scanValue options) text = result,
    within value (Placeholder.scanValue (options.without feature)) text = other
      at related still ⊢
  cases related with
  | failed error other => exact .failed error _
  | nothing => exact .kept text (.refl _)
  | @lost placeholder rest lost =>
      obtain ⟨raw, rfl, rfl, -⟩ := still placeholder rest rfl
      exact .kept rest (.inr (by simp [Part.placeholders, lost.2]))
  | kept rest alike =>
      exact .kept rest
        (alike.map Part.value fun used => by simp [Part.placeholders, used])

theorem without_parameterOf (pair : List Char) :
    (parameterOf options pair).FollowedBy (fun _ => False)
      (fun parameter found =>
        SameUnless (parameter.2.placeholders.any (Placeholder.uses feature))
          parameter found) (parameterOf (options.without feature) pair) :=
  FollowedBy.after _ fun _ => FollowedBy.map (without_parameterValue _)
    (fun _ _ alike => alike.map _ id) fun _ never => never

theorem without_parametersOf (pairs : List (List Char)) :
    (parametersOf options pairs).FollowedBy (fun _ => False)
      (fun parameters found =>
        SameUnless
          ((parameters.flatMap fun (_, value) => value.placeholders).any
            (Placeholder.uses feature)) parameters found)
      (parametersOf (options.without feature) pairs) := by
  induction pairs with
  | nil => exact fun text => .kept text (.refl _)
  | cons pair pairs induction =>
      refine FollowedBy.bind (without_parameterOf pair) (fun _ _ first => ?_)
        fun _ never => never.elim
      refine FollowedBy.map induction (fun _ _ others => ?_)
        fun _ never => never
      exact (first.both others List.cons).mono fun used => by simpa using used

theorem without_pathOf (template : List Char) :
    (pathOf options template).Without feature
      (fun destination =>
        destination.placeholders.any (Placeholder.uses feature))
      (pathOf (options.without feature) template) := by
  refine FollowedBy.after _ fun found => ?_
  exact FollowedBy.map (without_parametersOf _)
    (fun _ _ alike => alike.map _ id) fun _ never => never.elim

/-- A placeholder that is lost is no path. -/
theorem without_destinationOf (template : List Char) :
    (destinationOf options template).Without feature
      (fun destination =>
        destination.placeholders.any (Placeholder.uses feature))
      (destinationOf (options.without feature) template) := by
  intro text
  have related :=
    (@Placeholder.without_scanValue feature options).within template text
  have inside := gives_within template (Placeholder.scanValue options) text
  rw [destinationOf, destinationOf]
  generalize within template (Placeholder.scanValue options) text = result,
    within template (Placeholder.scanValue (options.without feature)) text =
      other at related inside ⊢
  cases related with
  | failed error other => exact .failed error _
  | nothing => exact without_pathOf template text
  | @lost placeholder rest lost =>
      obtain ⟨-, -, -, scanned⟩ := inside placeholder rest rfl
      obtain ⟨_, _, scanned, -⟩ := bind_eq_some_iff.mp scanned
      obtain ⟨more, rfl⟩ := Placeholder.starts_of_scan scanned
      -- a path cannot begin with the brace
      exact .lost rest ⟨lost.1, by simp [Destination.placeholders, lost.2]⟩
  | kept rest alike =>
      exact .kept rest (alike.map Destination.dynamic fun used => by
        simp [Destination.placeholders, used])

/-! ## Tags with their attributes -/

theorem without_foreachOf (attributes : Attributes) :
    Tag.Without feature (foreachOf options attributes)
      (foreachOf (options.without feature) attributes) := by
  have used {placeholder : Placeholder}
      (isUsed : placeholder.uses feature = true) (rowAlias : Option String) :
      (foreach placeholder rowAlias).uses feature = true :=
    uses_of_placeholders (by simp [Tag.placeholders, isUsed])
  refine FollowedBy.after _ fun found => ?_
  obtain ⟨collection, others⟩ := found
  dsimp only
  generalize others.take ["as", "name"] = taken
  obtain ⟨rowAlias, others⟩ := taken
  refine FollowedBy.bind ((Placeholder.without_scanValue options).within _)
    (fun _ _ alike => ?_)
    fun _ lost => finds_bind fun _ => finds_pure ⟨lost.1, used lost.2 _⟩
  exact FollowedBy.after _ fun _ text =>
    .kept text ⟨rfl,
      alike.map (fun placeholder => foreach placeholder _) fun isUsed =>
        used isUsed _⟩

theorem without_inclusionOf (kind : InclusionKind) (attributes : Attributes) :
    Tag.Without feature (inclusionOf options kind attributes)
      (inclusionOf (options.without feature) kind attributes) := by
  refine FollowedBy.after _ fun found => FollowedBy.after _ fun once => ?_
  have used {destination : Destination}
      (isUsed :
        destination.placeholders.any (Placeholder.uses feature) = true) :
      (inclusion kind destination once).uses feature = true :=
    uses_of_placeholders isUsed
  exact FollowedBy.map (without_destinationOf found.1)
    (fun _ _ alike =>
      ⟨rfl,
        alike.map (fun destination => inclusion kind destination once) used⟩)
    fun _ lost => ⟨lost.1, used lost.2⟩

theorem Without.complete {tag other : Scanner (Tag × Attributes)}
    (without : Tag.Without feature tag other) :
    (complete tag).Without feature (Tag.uses feature) (complete other) := by
  refine FollowedBy.bind without (fun found changed both => ?_) fun _ lost =>
    finds_bind fun _ => finds_pure lost
  obtain ⟨tag, left⟩ := found
  obtain ⟨tagOff, others⟩ := changed
  obtain ⟨same, alike⟩ := both
  obtain rfl : left = others := same
  exact FollowedBy.after _ fun _ text => .kept text alike

/-! ## Tags with free text -/

theorem lift_bind_apply {α β : Type} (result : Except SyntaxError α)
    (next : α → Scanner β) (text : List Char) :
    (lift result >>= next) text = match result with
      | .error error => .error error
      | .ok value => next value text := by
  cases result <;> rfl

/-- Once its text is split, a tag is found if it holds no placeholder with the
feature. -/
theorem reducedBy_lift {text : List Char} {tag tagOff : List Part → Tag}
    {deep : List Char → String → Prop}
    (usesParts :
      ∀ parts,
        (parts.flatMap Part.placeholders).any (Placeholder.uses feature) =
            true →
          (tag parts).uses feature = true)
    (alike : ∀ parts,
      SameUnless ((tag parts).uses feature) (tag parts) (tagOff parts)) :
    (do return tag (← lift (Part.split options text)) : Scanner Tag).ReducedBy
      (fun tag => tag.uses feature = true) deep
      (do
        return tagOff
          (← lift (Part.split (options.without feature) text))) := by
  intro rest
  rw [lift_bind_apply, lift_bind_apply]
  cases splits : Part.split options text with
  | error error => exact .failed error _
  | ok parts =>
      rcases Part.split_without splits with again | ⟨used, -⟩
      · rw [again]
        dsimp only
        rcases alike parts with same | used
        · rw [same]
          exact .same _
        · exact .uses rest _ used
      · exact .uses rest _ (usesParts parts used)

theorem reducedBy_setOf {deep : String → Prop} (attributes : Attributes) :
    (setOf options attributes).ReducedBy (fun tag => tag.uses feature = true)
      (fun _ => deep) (setOf (options.without feature) attributes) := by
  rw [setOf, setOf, Options.tagNamespace_without]
  refine ReducedBy.after _ fun found => ReducedBy.after _ fun _ => ?_
  have without :=
    (@Placeholder.without_scanTarget feature options).within found.1
  have used {name : String} {subscripts : List Argument} {body : List Part}
      (inSubscripts : Argument.usesAny feature subscripts = true) :
      (set name subscripts body).uses feature = true := by
    refine uses_of_placeholders ?_
    obtain ⟨placeholder, member, isUsed⟩ :=
      Argument.usesAny_iff_placeholders.mp inSubscripts
    exact List.any_eq_true.mpr
      ⟨placeholder, List.mem_append_left _ member, isUsed⟩
  refine without.bind_reducedBy (fun target targetOff alike => ?_)
    fun found lost =>
      finds_bind fun body =>
        finds_bind fun _ => finds_bind fun parts => finds_pure (used lost.2)
  refine ReducedBy.after _ fun body => ReducedBy.after _ fun _ => ?_
  refine reducedBy_lift (fun parts isUsed => uses_of_placeholders ?_)
    fun parts => ?_
  · exact List.any_append.trans (by rw [isUsed, Bool.or_true])
  · exact alike.map (fun found => set found.1 found.2 parts) used

/-- A tag with the text of a condition, from its text and from the attributes
that are left over. -/
def conditionAfter (options : Options) (tag : List Part → Tag)
    (text : List Char) (others : Attributes) : Scanner Tag := do
  let parts ← lift (Part.split options text)
  ensure others.isEmpty
  return tag parts

theorem complete_conditionOf_apply (options : Options) (tag : List Part → Tag)
    (attributes : Attributes) (rest : List Char) :
    (complete do
      let (parts, attributes) ← conditionOf options attributes
      return (tag parts, attributes)) rest =
      match attributes.take ["cond", "condition"] with
      | (none, _) => .ok none
      | (some text, others) =>
        if Text.isAllBlank text then .ok none
        else conditionAfter options tag text others rest := by
  unfold complete conditionOf Attributes.require conditionAfter
  generalize attributes.take ["cond", "condition"] = taken
  obtain ⟨_ | text, others⟩ := taken
  · rfl
  · cases blank : Text.isAllBlank text with
    | true => simp [bind_apply, blank, ensure, some?, Scanner.nothing]
    | false =>
        simp only [bind_apply, blank, ensure, some?, pure_apply]
        cases Part.split options text <;> rfl

/-- The text of a condition is split before attributes are found to be too
many. -/
theorem reducedBy_conditionOf {tag : List Part → Tag}
    (inside :
      ∀ parts, (tag parts).placeholders = parts.flatMap Part.placeholders)
    (attributes : Attributes) : (complete do
      let (parts, attributes) ← conditionOf options attributes
      return (tag parts, attributes)).ReducedBy
        (fun tag => tag.uses feature = true)
      (fun _ near =>
        feature = .filters ∧ attributes.Crowded (options.without feature) near)
      (complete do
        let (parts, attributes) ← conditionOf (options.without feature)
          attributes
        return (tag parts, attributes)) := by
  intro rest
  rw [complete_conditionOf_apply, complete_conditionOf_apply]
  rcases taken : attributes.take ["cond", "condition"] with ⟨_ | text, others⟩
  · exact .same _
  · dsimp only
    split
    · exact .same _
    · cases others with
      | nil =>
          let deep (_ : List Char) (near : String) : Prop :=
            feature = .filters ∧
              attributes.Crowded (options.without feature) near
          have usesParts (parts : List Part)
              (used :
                (parts.flatMap Part.placeholders).any
                    (Placeholder.uses feature) =
                  true) : (tag parts).uses feature = true :=
            uses_of_placeholders (by rw [inside, used])
          exact @reducedBy_lift options feature text tag tag deep usesParts
            (fun _ => .refl _) rest
      | cons first others =>
          rw [conditionAfter, conditionAfter, lift_bind_apply, lift_bind_apply]
          cases splits : Part.split options text with
          | error error => exact .failed error _
          | ok parts =>
              rcases Part.split_without splits with
                again | ⟨-, ⟨others, again⟩ | ⟨isFilters, near, again⟩⟩
              · rw [again]
                exact .same _
              · rw [again]
                exact .same _
              · rw [again]
                exact .deep
                  ⟨isFilters, text, _, taken, List.cons_ne_nil _ _, again⟩

/-! ## All tags -/

/-- A tag is lost with the feature that it belongs to. -/
theorem reducedBy_enabled {other : Feature} {scanner scannerOff : Scanner Tag}
    {deep : List Char → String → Prop}
    (reduced :
      scanner.ReducedBy (fun tag => tag.uses feature = true) deep scannerOff)
    (belongs : scanner.Finds fun tag => tag.feature? = some other) : (do
      ensure (options.has other)
      scanner).ReducedBy (fun tag => Tag.uses feature tag = true) deep (do
      ensure ((options.without feature).has other)
      scannerOff) := by
  refine reduced.ensure ?_
  rcases options.has_without_cases feature other with same | ⟨rfl, off⟩
  · exact .inl same
  · refine .inr ⟨off, fun text tag rest found => ?_⟩
    simp [Tag.uses, belongs text tag rest found]

theorem reducedBy_ofHead (head : Head) :
    (ofHead options head).ReducedBy (fun tag => tag.uses feature = true)
      (fun _ near =>
        feature = .filters ∧ head.Crowded (options.without feature) near)
      (ofHead (options.without feature) head) := by
  have conditional {tag : List Part → Tag}
    (inside :
      ∀ parts, (tag parts).placeholders = parts.flatMap Part.placeholders)
    (belongs : ∀ parts, (tag parts).feature? = some .conditions) (isCondition :
    (head.name, head.selfClosing) ∈
      [("if", false), ("elseif", true), ("elif", true)]) :=
    @reducedBy_enabled options feature .conditions _ _
      (fun _ near =>
        feature = .filters ∧ head.Crowded (options.without feature) near)
      (fun text =>
        (@reducedBy_conditionOf options feature tag inside head.attributes
          text).mono fun _ isDeep => ⟨isDeep.1, isCondition, isDeep.2⟩)
      (finds_complete (finds_bind fun _ => finds_pure (belongs _)))
  have isInclusion (kind : InclusionKind) :
      (complete (inclusionOf options kind head.attributes)).Finds
        fun tag => tag.feature? = some .inclusion :=
    finds_complete (finds_bind fun _ =>
      finds_bind fun _ => finds_bind fun _ => finds_pure rfl)
  have including (kind : InclusionKind) :=
    @reducedBy_enabled options feature .inclusion _ _
      (fun _ near =>
        feature = .filters ∧ head.Crowded (options.without feature) near)
      (without_inclusionOf kind head.attributes).complete.reducedBy
      (isInclusion kind)
  have elseIfs := @conditional elseIf (fun _ => rfl) fun _ => rfl
  unfold ofHead
  split
  · exact (without_foreachOf _).complete.reducedBy
  · exact reducedBy_refl _
  · exact reducedBy_refl _
  next isIf opens =>
    exact conditional (fun _ => rfl) (fun _ => rfl) (by simp [isIf, opens])
  next isElseIf closes => exact elseIfs (by simp [isElseIf, closes])
  next isElseIf closes => exact elseIfs (by simp [isElseIf, closes])
  · exact @reducedBy_enabled options feature .conditions _ _ _
      (reducedBy_refl _) (finds_complete (finds_pure rfl))
  · exact including .optional
  · exact including .required
  · refine @reducedBy_enabled options feature .sets _ _ _
      (reducedBy_setOf head.attributes) ?_
    exact finds_bind fun _ => finds_bind fun _ => finds_bind fun _ =>
      finds_bind fun _ => finds_bind fun _ => finds_bind fun _ =>
        finds_pure rfl
  · exact reducedBy_refl _

theorem reducedBy_scanClosing {deep : String → Prop} :
    (scanClosing options).ReducedBy (fun tag => tag.uses feature = true)
      (fun _ => deep) (scanClosing (options.without feature)) := by
  rw [scanClosing, scanClosing, Options.tagNamespace_without]
  refine ReducedBy.after _ fun _ =>
    ReducedBy.after _ fun _ => ReducedBy.after _ fun isForeach => ?_
  cases isForeach with
  | true => exact reducedBy_refl _
  | false =>
      refine @reducedBy_enabled options feature .conditions _ _ _
        (reducedBy_refl _) ?_
      exact finds_bind fun _ => finds_pure rfl

/-- A tag is found as before if it does not use the feature.  Where there was
none, there may be a condition with too many attributes and a text that cannot
be split any more. -/
theorem reducedBy_scan :
    (scan options).ReducedBy (fun tag => tag.uses feature = true)
      (fun text near =>
        feature = .filters ∧ Crowded (options.without feature) text near)
      (scan (options.without feature)) := by
  intro text
  rw [scan_eq, scan_eq]
  split
  · exact @reducedBy_scanClosing options feature _ text
  · rw [scanOpening, scanOpening, Options.tagNamespace_without, bind_apply,
      bind_apply]
    rcases found : Head.scan options.tagNamespace text with
      error | _ | ⟨head, rest⟩
    · exact .failed error _
    · exact .same _
    · refine (reducedBy_ofHead head rest).mono fun near isDeep => ?_
      exact ⟨isDeep.1, head, rest, by rw [Options.tagNamespace_without, found],
        isDeep.2⟩

end Tag

/-! ## Tokens -/

theorem Token.reducedBy_scan :
    (Token.scan options).ReducedBy (fun token => token.uses feature = true)
      (fun text near =>
        feature = .filters ∧ Tag.Crowded (options.without feature) text near)
      (Token.scan (options.without feature)) := by
  have starts (first : Char) :
      (Token.scanAt options first).ReducedBy
        (fun token => token.uses feature = true)
        (fun text near =>
          feature = .filters ∧ Tag.Crowded (options.without feature) text near)
        (Token.scanAt (options.without feature) first) := by
    rw [Token.scanAt, Token.scanAt]
    split
    · exact (Placeholder.without_scanPrint options).reducedBy.map fun _ used =>
        used
    · split
      · exact Tag.reducedBy_scan.withText.map fun _ used => used
      · exact reducedBy_refl _
  intro text
  rw [Token.scan_eq, Token.scan_eq]
  split
  · exact .same _
  · cases text with
    | nil => exact .same _
    | cons first text => exact starts first _

/-- A source is split into the same tokens without a feature that none of them
uses.  Only if the text of a condition that is no tag for another reason holds
filters, it may be nested too deeply. -/
theorem tokenize_without {source : List Char} {tokens : List Token}
    (tokenized : tokenize options source = .ok tokens)
    (unused : ∀ token ∈ tokens, token.uses feature = false) :
    tokenize (options.without feature) source = .ok tokens ∨
      feature = .filters ∧
        ∃ near,
          tokenize (options.without feature) source = .error ⟨.tooDeep, near⟩ ∧
            ∃ place, place <:+ source ∧
              Tag.Crowded (options.without feature) place near := by
  obtain ⟨pieces, splits, rfl⟩ := exists_pieces_of_tokenize tokenized
  have constructs (token : Token) (member : .construct token ∈ pieces) :
      ¬ token.uses feature = true :=
    Bool.eq_false_iff.mp (unused token (List.mem_map_of_mem member))
  rw [tokenize_eq]
  rcases (@Token.reducedBy_scan options feature).split Token.steady_scan.suffix
    splits constructs with
    again | ⟨near, failed, place, inside, isFilters, crowded⟩
  · rw [again]
    exact .inl rfl
  · rw [failed]
    exact .inr ⟨isFilters, near, rfl, place, inside, crowded⟩

end

end TemplateEngine.Markup
