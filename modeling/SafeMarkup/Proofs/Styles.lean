import SafeMarkup.Proofs.Chain
import SafeMarkup.Proofs.Lowercase
import SafeMarkup.Proofs.Pieces
import SafeMarkup.Proofs.Requirement
import SafeMarkup.Proofs.Vocabulary

/-!
Contract: lists of style declarations, read again after they were written.

Owns: what a style table makes of each declaration; the law that the declarations it gives out are
those that a reader finds in the text; and the law that this text passes unchanged.

Does not own: the validators of a table, of which only tidy results are required.
-/

namespace SafeMarkup

/-! ## Reading -/

namespace StyleRules

/-- A part of a style taken apart at its first colon, both halves without the blanks around them. -/
def readPiece? (part : Text) : Option (Text × Text) :=
  (Text.splitOnce ':' part).map fun (name, value) => (Text.trim name, Text.trim value)

/-- What stands in the parts of a style that are not empty. -/
def readPieces (style : Text) : List (Option (Text × Text)) :=
  ((Text.splitOn [';'] style).filter (! ·.isEmpty)).map readPiece?

theorem declarations_eq (style : Text) : declarations style =
    ((readPieces style).filterMap id).map fun (name, value) => (Text.toLower name, value) := by
  have empty : readPiece? [] = none := rfl
  unfold declarations readPieces
  induction Text.splitOn [';'] style with
  | nil => rfl
  | cons part parts inductionHypothesis =>
      cases part with
      | nil =>
          rw [List.filterMap_cons_none rfl, inductionHypothesis]
          rfl
      | cons c part =>
          rw [List.filterMap_cons, inductionHypothesis]
          cases split : Text.splitOnce ':' (c :: part) with
          | none => simp [readPiece?, split]
          | some halves => simp [readPiece?, split]

/-! ## Writing -/

/-- A declaration that a style can be made of: it holds none of the marks that part it from others,
no blanks but single spaces inside its halves, and no capitals in its property. -/
structure Writable (declaration : Text × Text) : Prop where
  property : Text.Trimmed declaration.1 ∧ Text.SingleSpaced declaration.1
  value : Text.Trimmed declaration.2 ∧ Text.SingleSpaced declaration.2
  unmarked : ';' ∉ declaration.1 ∧ ':' ∉ declaration.1 ∧ ';' ∉ declaration.2
  small : Text.toLower declaration.1 = declaration.1

/-- A declaration without the space in front and the semicolon behind it. -/
def piece (declaration : Text × Text) : Text := declaration.1 ++ ": " ++ declaration.2

variable {declaration : Text × Text} {kept : List (Text × Text)}

theorem render_cons (declaration : Text × Text) (kept : List (Text × Text)) :
    render (declaration :: kept) =
      piece declaration ++ ';' :: kept.flatMap fun next => ' ' :: (piece next ++ [';']) := by
  induction kept generalizing declaration with
  | nil => simp [render, Text.join, piece]
  | cons next kept inductionHypothesis =>
      have joined : render (declaration :: next :: kept) =
          piece declaration ++ "; " ++ render (next :: kept) := by
        simp [render, Text.join, piece]
      rw [joined, inductionHypothesis, List.flatMap_cons]
      simp

theorem splitOn_flatMap (writable : ∀ declaration ∈ kept, Writable declaration) :
    Text.splitOn [';'] (kept.flatMap fun next => ' ' :: (piece next ++ [';'])) =
      kept.map (fun next => ' ' :: piece next) ++ [[]] := by
  induction kept with
  | nil => rfl
  | cons next kept inductionHypothesis =>
      obtain ⟨here, behind⟩ := List.forall_mem_cons.mp writable
      have unmarked : ';' ∉ ' ' :: piece next := by
        simp [piece, here.unmarked]
      have whole : (next :: kept).flatMap (fun next => ' ' :: (piece next ++ [';'])) =
          (' ' :: piece next) ++ ';' :: kept.flatMap fun next => ' ' :: (piece next ++ [';']) := by
        simp
      rw [whole, Text.splitOn_append_mark unmarked, inductionHypothesis behind]
      rfl

theorem readPiece?_piece (writable : Writable declaration) :
    readPiece? (piece declaration) = some declaration ∧
      readPiece? (' ' :: piece declaration) = some declaration := by
  obtain ⟨name, value⟩ := declaration
  have spaceBefore (text : Text) : Text.trim (' ' :: text) = Text.trim text := rfl
  have split : Text.splitOnce ':' (piece (name, value)) = some (name, ' ' :: value) :=
    Text.splitOnce_eq_some.mpr ⟨by simp [piece], writable.unmarked.2.1⟩
  have spaced : Text.splitOnce ':' (' ' :: piece (name, value)) =
      some (' ' :: name, ' ' :: value) :=
    Text.splitOnce_eq_some.mpr ⟨by simp [piece], by simpa using writable.unmarked.2.1⟩
  have property : Text.trim name = name := Text.trim_eq_self writable.property.1
  have value : Text.trim value = value := Text.trim_eq_self writable.value.1
  constructor
  · simp [readPiece?, split, spaceBefore, property, value]
  · simp [readPiece?, spaced, spaceBefore, property, value]

/-- The parts of a written style are its declarations. -/
theorem readPieces_render (nonempty : kept ≠ [])
    (writable : ∀ declaration ∈ kept, Writable declaration) :
    readPieces (render kept) = kept.map some := by
  obtain ⟨first, others, rfl⟩ := List.exists_cons_of_ne_nil nonempty
  obtain ⟨here, behind⟩ := List.forall_mem_cons.mp writable
  have unmarked : ';' ∉ piece first := by
    simp [piece, here.unmarked]
  have filled : (piece first).isEmpty = false := by
    simp [piece]
  have spaced : (others.map fun next => ' ' :: piece next).filter (! ·.isEmpty) =
      others.map fun next => ' ' :: piece next := by
    rw [List.filter_eq_self]
    rintro part member
    obtain ⟨next, -, rfl⟩ := List.mem_map.mp member
    rfl
  have read : (others.map fun next => ' ' :: piece next).map readPiece? = others.map some := by
    rw [List.map_map]
    exact List.map_congr_left fun next member => (readPiece?_piece (behind next member)).2
  unfold readPieces
  rw [render_cons, Text.splitOn_append_mark unmarked, splitOn_flatMap behind,
    List.filter_cons_of_pos (by simp [filled]), List.filter_append, spaced, List.map_cons,
    List.map_append, read, (readPiece?_piece here).1]
  simp

theorem declarations_render (nonempty : kept ≠ [])
    (writable : ∀ declaration ∈ kept, Writable declaration) :
    declarations (render kept) = kept := by
  rw [declarations_eq, readPieces_render nonempty writable]
  have same : (kept.map some).filterMap id = kept := by simp
  rw [same]
  refine (List.map_congr_left fun declaration member => ?_).trans (List.map_id kept)
  exact Prod.ext (writable declaration member).small rfl

theorem squeezeFrom_piece (writable : Writable declaration) (inRun : Bool) (behind : Text) :
    Text.squeezeFrom Text.isBlank ' ' inRun (piece declaration ++ ';' :: behind) =
      piece declaration ++ ';' :: Text.squeezeFrom Text.isBlank ' ' false behind := by
  have property : Text.squeezeFrom Text.isBlank ' ' inRun declaration.1 = declaration.1 :=
    Text.squeezeFrom_eq_self writable.property.2 fun _ => writable.property.1.first
  have value : Text.squeezeFrom Text.isBlank ' ' true declaration.2 = declaration.2 :=
    Text.squeezeFrom_eq_self writable.value.2 fun _ => writable.value.1.first
  have whole (behind : Text) : piece declaration ++ ';' :: behind =
      declaration.1 ++ ':' :: ' ' :: (declaration.2 ++ ';' :: behind) := by
    simp [piece]
  have space (text : Text) : Text.squeezeFrom Text.isBlank ' ' false (' ' :: text) =
      ' ' :: Text.squeezeFrom Text.isBlank ' ' true text := rfl
  rw [whole, whole, Text.squeezeFrom_append_mark property (by decide), space,
    Text.squeezeFrom_append_mark value (by decide)]

theorem squeezeFrom_flatMap (writable : ∀ declaration ∈ kept, Writable declaration) :
    Text.squeezeFrom Text.isBlank ' ' false
        (kept.flatMap fun next => ' ' :: (piece next ++ [';'])) =
      kept.flatMap fun next => ' ' :: (piece next ++ [';']) := by
  induction kept with
  | nil => rfl
  | cons next kept inductionHypothesis =>
      obtain ⟨here, behind⟩ := List.forall_mem_cons.mp writable
      have whole (behind : Text) : ' ' :: (piece next ++ [';']) ++ behind =
          ' ' :: (piece next ++ ';' :: behind) := by
        simp
      have space (text : Text) : Text.squeezeFrom Text.isBlank ' ' false (' ' :: text) =
          ' ' :: Text.squeezeFrom Text.isBlank ' ' true text := rfl
      rw [List.flatMap_cons, whole, space, squeezeFrom_piece here, inductionHypothesis behind]

theorem getLast?_render (kept : List (Text × Text)) : (render kept).getLast? = some ';' := by
  unfold render
  exact List.getLast?_concat

theorem trimmed_render (nonempty : kept ≠ [])
    (writable : ∀ declaration ∈ kept, Writable declaration) : Text.Trimmed (render kept) := by
  obtain ⟨first, others, rfl⟩ := List.exists_cons_of_ne_nil nonempty
  constructor
  · intro c head
    obtain ⟨property, value⟩ := first
    rw [render_cons] at head
    cases property with
    | nil =>
        obtain rfl : ':' = c := by simpa [piece] using head
        decide
    | cons d property =>
        obtain rfl : d = c := by simpa [piece] using head
        exact (writable _ List.mem_cons_self).property.1.first d rfl
  · intro c last
    rw [getLast?_render] at last
    obtain rfl := Option.some.inj last
    decide

/-- A written style has no blanks to trim or to squeeze. -/
theorem spaced_render (nonempty : kept ≠ [])
    (writable : ∀ declaration ∈ kept, Writable declaration) :
    spaced (render kept) = render kept := by
  have squeezed : Text.squeezeBlanks (render kept) = render kept := by
    obtain ⟨first, others, rfl⟩ := List.exists_cons_of_ne_nil nonempty
    obtain ⟨here, behind⟩ := List.forall_mem_cons.mp writable
    rw [render_cons, Text.squeezeBlanks, Text.squeeze, squeezeFrom_piece here,
      squeezeFrom_flatMap behind]
  rw [spaced, squeezed, Text.trim_eq_self (trimmed_render nonempty writable)]

/-! ## Properties -/

/-- The code points of the marks of a style and of blanks. -/
def separators : Text.Ranges := (0x3A, 0x3B) :: Text.blankRanges

theorem member_separators (c : Char) :
    separators.member c.toNat = (Text.isBlank c || c = ';' || c = ':') := by
  have whole : separators.member c.toNat =
      ((0x3A ≤ c.toNat && c.toNat ≤ 0x3B) || Text.blankRanges.member c.toNat) := rfl
  have semicolon : c = ';' ↔ c.toNat = 0x3B := by rw [← Char.toNat_inj]; rfl
  have colon : c = ':' ↔ c.toNat = 0x3A := by rw [← Char.toNat_inj]; rfl
  rw [whole, Text.member_blankRanges, Bool.eq_iff_iff]
  cases Text.isBlank c with
  | true => simp
  | false =>
      simp only [semicolon, colon, Bool.or_eq_true, Bool.and_eq_true, decide_eq_true_eq,
        Bool.false_eq_true, or_false, false_or]
      omega

theorem exists_kept_toLower (text : Text) : ∃ blocks, Text.toLower text = blocks.flatten ∧
    List.Forall₂ (Text.Kept fun c => Text.isBlank c || c = ';' || c = ':') text blocks := by
  have caseless : separators.caseless := by decide +kernel
  obtain ⟨blocks, lowered, whole⟩ := Text.exists_lowered [] text
  refine ⟨blocks, whole, lowered.imp fun c block here => ?_⟩
  simpa only [member_separators] using here.kept caseless

/-- The property of a declaration, as it is looked up, can be written. -/
theorem property_of_declarations {text : Text}
    (member : declaration ∈ declarations (spaced text)) :
    (Text.Trimmed declaration.1 ∧ Text.SingleSpaced declaration.1) ∧ ';' ∉ declaration.1 ∧
      ':' ∉ declaration.1 ∧ Text.toLower declaration.1 = declaration.1 := by
  obtain ⟨part, inside, halved⟩ := List.mem_filterMap.mp member
  obtain ⟨⟨name, value⟩, split, same⟩ := Option.map_eq_some_iff.mp halved
  obtain rfl : (Text.toLower (Text.trim name), Text.trim value) = declaration := same
  obtain ⟨rfl, uncoloned⟩ := Text.splitOnce_eq_some.mp split
  have within : Text.trim name <:+: spaced text :=
    ((Text.trim_within name).trans (List.prefix_append name _).isInfix).trans
      (Text.infix_of_mem_splitOn inside)
  have single : Text.SingleSpaced (Text.trim name) :=
    (Text.singleSpaced_spaced text).of_part within
  have unmarked : ';' ∉ Text.trim name := by
    intro marked
    have inPart := List.mem_append_left (':' :: value) ((Text.trim_within name).subset marked)
    exact Text.not_mem_of_mem_splitOn inside inPart
  have colonless : ':' ∉ Text.trim name := fun marked =>
    uncoloned ((Text.trim_within name).subset marked)
  obtain ⟨blocks, whole, kept⟩ := exists_kept_toLower (Text.trim name)
  have blankKept : List.Forall₂ (Text.Kept Text.isBlank) (Text.trim name) blocks :=
    kept.imp fun c block here => here.mono fun d blank => by simp [blank]
  refine ⟨⟨?_, ?_⟩, ?_, ?_, Text.toLower_toLower _⟩
  · rw [whole]
    exact (Text.trimmed_of_kept blankKept).mpr (Text.trimmed_trim name)
  · rw [whole]
    exact single.of_kept blankKept
  · rw [whole]
    exact fun marked => unmarked (Text.mem_of_kept kept marked (by simp))
  · rw [whole]
    exact fun marked => colonless (Text.mem_of_kept kept marked (by simp))

end StyleRules

/-! ## Tables -/

/-- The validators that a style table was given for its properties, one for each. -/
inductive StyleTable.Declares : StyleTable → Dictionary Validator → Prop
  | new (name : Text) : Declares (.new name) []
  | withProperty {table : StyleTable} {validators : Dictionary Validator} (property : Text)
      (validator : Validator) (declares : Declares table validators) :
      Declares (table.withProperty property validator)
        (Dictionary.insert property validator validators)
  | withAlias {table : StyleTable} {validators : Dictionary Validator} (property : Text)
      (aliases : List Text) (declares : Declares table validators) :
      Declares (table.withAlias property aliases) validators

namespace StyleTable

/-- The validator of a property and the name it was given for: the property or else the first name
that lists it. -/
def validatorFor? (validators : Dictionary Validator) (equivalents : Equivalents)
    (property : Text) : Option (Text × Validator) :=
  ((Dictionary.get? property validators).map (property, ·)).or
    ((equivalents.canonical? property).bind fun canonical =>
      (Dictionary.get? canonical validators).map (canonical, ·))

variable {table : StyleTable} {validators : Dictionary Validator}

theorem Declares.properties_eq (declares : Declares table validators) :
    table.properties = validators.map fun (property, validator) =>
      (property, [[(property, validator)]]) := by
  have insert_map (property : Text) (validator : Validator) (validators : Dictionary Validator) :
      Dictionary.insert property [[(property, validator)]]
        (validators.map fun (property, validator) => (property, [[(property, validator)]])) =
      (Dictionary.insert property validator validators).map fun (property, validator) =>
        (property, [[(property, validator)]]) := by
    induction validators with
    | nil => rfl
    | cons entry validators inductionHypothesis =>
        obtain ⟨name, first⟩ := entry
        by_cases here : name = property
        · simp [Dictionary.insert, here]
        · simpa [Dictionary.insert, here] using inductionHypothesis
  induction declares with
  | new => rfl
  | withProperty property validator _ inductionHypothesis =>
      rw [StyleTable.withProperty, inductionHypothesis]
      exact insert_map property validator _
  | withAlias _ _ _ inductionHypothesis => exact inductionHypothesis

theorem Declares.distinct (declares : Declares table validators) :
    (Dictionary.keys table.equivalents.entries).Nodup := by
  induction declares with
  | new => exact List.nodup_nil
  | withProperty _ _ _ inductionHypothesis => exact inductionHypothesis
  | withAlias _ _ _ inductionHypothesis => exact Dictionary.nodup_keys_insert inductionHypothesis

theorem Declares.chainFor? (declares : Declares table validators) (property : Text) :
    StyleRules.chainFor?
        ⟨table.name, Validator.checkProperties table.properties, table.equivalents⟩ property =
      (validatorFor? validators table.equivalents property).map fun (canonical, validator) =>
        [[(canonical, validator.check)]] := by
  have own (name : Text) : Dictionary.get? name (Validator.checkProperties table.properties) =
      ((Dictionary.get? name validators).map (name, ·)).map fun (canonical, validator) =>
        [[(canonical, validator.check)]] := by
    have checked := Dictionary.get?_map (fun name validator => [[(name, validator.check)]]) name
      validators
    rw [Validator.checkProperties_eq_map, declares.properties_eq, List.map_map, Option.map_map]
    exact checked
  simp only [StyleRules.chainFor?, own, validatorFor?]
  cases (Dictionary.get? property validators).map (property, ·) with
  | some found => rfl
  | none =>
      cases table.equivalents.canonical? property with
      | none => rfl
      | some canonical => rfl

/-- A property with a validator is in the table under its own name or as an alias. -/
theorem Declares.validatorFor?_eq_some (declares : Declares table validators)
    {property canonical : Text} {validator : Validator}
    (found : validatorFor? validators table.equivalents property = some (canonical, validator)) :
    (canonical, validator) ∈ validators ∧
      (property = canonical ∨ property ∈ table.equivalents.aliasesOf canonical) := by
  rcases Option.or_eq_some_iff.mp found with own | ⟨-, listed⟩
  · obtain ⟨declared, given, same⟩ := Option.map_eq_some_iff.mp own
    obtain ⟨rfl, rfl⟩ := Prod.mk.inj same
    exact ⟨Dictionary.mem_of_get?_eq_some given, .inl rfl⟩
  · obtain ⟨name, standsFor, listed⟩ := Option.bind_eq_some_iff.mp listed
    obtain ⟨declared, given, same⟩ := Option.map_eq_some_iff.mp listed
    obtain ⟨rfl, rfl⟩ := Prod.mk.inj same
    obtain ⟨⟨name, aliases⟩, first, rfl⟩ := Option.map_eq_some_iff.mp standsFor
    have entry := (Dictionary.get?_eq_some_iff declares.distinct).mpr
      (List.mem_of_find?_eq_some first)
    have listedHere : property ∈ aliases := by simpa using List.find?_some first
    refine ⟨Dictionary.mem_of_get?_eq_some given, .inr ?_⟩
    rw [Equivalents.aliasesOf, entry]
    exact listedHere

/-! ## Declarations -/

/-- What a table makes of a declaration, if its validator for the property accepts the value. -/
def accepted? (validators : Dictionary Validator) (equivalents : Equivalents) (context : Context)
    (declaration : Text × Text) : Option (Text × Text) :=
  (validatorFor? validators equivalents declaration.1).bind fun (_, validator) =>
    (validator.check ⟨declaration.1, declaration.1, context.quiet, context.environment⟩
      (some declaration.2)).value.toOption.map (declaration.1, ·)

end StyleTable

section Declaration

variable {equivalents : Equivalents} {environment : Environment} {quiet : Bool} {check : Check}
  {property value given : Text}

theorem Tag.get?_one (name : Text) :
    (Tag.mk property [(property, value)]).get? name =
      if property = name then some value else none :=
  rfl

/-- An optional check under some names of a tag with one attribute gives that attribute the value it
accepts. -/
theorem RuleSet.attemptFrom_one
    (absent : ∀ name, (check ⟨property, name, quiet, environment⟩ none).value =
      .error .absentOptional)
    (accepted : (check ⟨property, property, quiet, environment⟩ (some value)).value = .ok given)
    (names : List Text) (values : Dictionary Text) :
    (attemptFrom ⟨property, [(property, value)]⟩ environment quiet
        (names.map fun name => (name, check)) values).value =
      .accepted (if property ∈ names then Dictionary.insert property given values else values) := by
  induction names generalizing values with
  | nil => rfl
  | cons name names inductionHypothesis =>
      rw [List.map_cons, attemptFrom, Reported.value_bind, Tag.get?_one]
      by_cases here : property = name
      · subst here
        rw [if_pos rfl, accepted, if_pos List.mem_cons_self]
        simp only [inductionHypothesis, Dictionary.insert_insert, ite_self]
      · rw [if_neg here, absent]
        simp only [inductionHypothesis, List.mem_cons, here, false_or]

/-- If it accepts none, nothing is left of the attribute. -/
theorem RuleSet.attemptFrom_none
    (absent : ∀ name, (check ⟨property, name, quiet, environment⟩ none).value =
      .error .absentOptional)
    {rejection : Rejection}
    (refused : (check ⟨property, property, quiet, environment⟩ (some value)).value =
      .error rejection) {names : List Text} {values left : Dictionary Text}
    (passed : (attemptFrom ⟨property, [(property, value)]⟩ environment quiet
      (names.map fun name => (name, check)) values).value = .accepted left) : left = values := by
  induction names with
  | nil => exact (Attempt.accepted.inj passed).symm
  | cons name names inductionHypothesis =>
      rw [List.map_cons, attemptFrom, Reported.value_bind, Tag.get?_one] at passed
      split_ifs at passed with here
      · subst here
        rw [refused] at passed
        cases rejection with
        | absentOptional => exact inductionHypothesis passed
        | defaultApplied => exact inductionHypothesis passed
        | missingRequired => cases passed
        | sequenceInconsistent => cases passed
        | invalid => cases passed
      · rw [absent] at passed
        exact inductionHypothesis passed

theorem RuleSet.expand_one (canonical : Text) : expand equivalents [(canonical, check)] =
    (canonical :: equivalents.aliasesOf canonical).map fun name => (name, check) := by
  simp [expand]

/-- A chain of one rule set accepts a tag if and only if the rule set does. -/
theorem Chain.check_one {ruleSet : RuleSet} {tag left : Tag} :
    (Chain.check equivalents quiet environment [ruleSet] tag).value = (.accepted, left) ↔
      ∃ values, (RuleSet.attempt equivalents tag environment quiet ruleSet).value =
        .accepted values ∧ left = { tag with attributes := ordered tag.attributes values } := by
  have alone : Chain.check equivalents quiet environment [ruleSet] tag =
      Chain.checkFrom equivalents quiet environment tag [ruleSet] := rfl
  have loud : (quiet || !([] : Chain).isEmpty) = quiet := by simp
  rw [alone]
  constructor
  · intro accepted
    obtain ⟨before, found, behind, values, single, -, passed, same⟩ :=
      Chain.checkFrom_eq_accepted accepted
    obtain ⟨rfl, rfl, rfl⟩ : before = [] ∧ found = ruleSet ∧ behind = [] := by
      cases before with
      | nil => simpa [eq_comm] using single
      | cons first before => simp at single
    rw [loud] at passed
    exact ⟨values, passed, same⟩
  · rintro ⟨values, passed, rfl⟩
    rw [Chain.checkFrom, Reported.value_bind, loud, passed]
    rfl

end Declaration

namespace StyleTable

variable {table : StyleTable} {validators : Dictionary Validator} {context : Context}
  {declaration : Text × Text} {rest : List (Text × Text)}

/-- A validator that is fit for the values of a style: it is optional, and a value that it gives out
passes it unchanged, holds no semicolon and no blanks but single spaces inside. -/
structure Tidy (environment : Environment) (validator : Validator) : Prop where
  optional : validator.options.requirement = .optional
  settled : ∀ context written given, context.environment = environment →
    (validator.check context (some written)).value = .ok given →
      (validator.check context (some given)).value = .ok given ∧
        ';' ∉ given ∧ Text.Trimmed given ∧ Text.SingleSpaced given

/-- The rules that a table stands for. -/
def rules (table : StyleTable) : StyleRules :=
  ⟨table.name, Validator.checkProperties table.properties, table.equivalents⟩

variable (declares : Declares table validators)
  (tidy : ∀ entry ∈ validators, Tidy context.environment entry.2)

include declares tidy

/-- The run of the chain of a declaration, by what the validator makes of the value. -/
theorem check_declaration {property canonical : Text} {validator : Validator} (value : Text)
    (found : validatorFor? validators table.equivalents property = some (canonical, validator)) :
    (∀ given, (validator.check ⟨property, property, context.quiet, context.environment⟩
        (some value)).value = .ok given →
      (Chain.check table.equivalents context.quiet context.environment
        [[(canonical, validator.check)]] ⟨property, [(property, value)]⟩).value =
          (.accepted, ⟨property, [(property, given)]⟩)) ∧
    ∀ rejection, (validator.check ⟨property, property, context.quiet, context.environment⟩
        (some value)).value = .error rejection →
      ∀ left, (Chain.check table.equivalents context.quiet context.environment
        [[(canonical, validator.check)]] ⟨property, [(property, value)]⟩).value =
          (.accepted, left) → left.attributes = [] := by
  obtain ⟨declared, standsFor⟩ := declares.validatorFor?_eq_some found
  have absent (name : Text) :
      (validator.check ⟨property, name, context.quiet, context.environment⟩ none).value =
        .error .absentOptional := by
    rw [Validator.check_none_of_optional (tidy _ declared).optional]
    rfl
  have named : property ∈ canonical :: table.equivalents.aliasesOf canonical :=
    List.mem_cons.mpr standsFor
  constructor
  · intro given accepted
    refine Chain.check_one.mpr ⟨[(property, given)], ?_, ?_⟩
    · rw [RuleSet.attempt, RuleSet.expand_one, RuleSet.attemptFrom_one absent accepted,
        if_pos named]
      rfl
    · simp [ordered, Dictionary.get?, Dictionary.erase]
  · intro rejection refused left passed
    obtain ⟨values, attempted, rfl⟩ := Chain.check_one.mp passed
    rw [RuleSet.attempt, RuleSet.expand_one] at attempted
    obtain rfl := RuleSet.attemptFrom_none absent refused attempted
    rfl

/-- What a declaration adds to those behind it: what its validator accepts, or nothing, or else it
refuses them all. -/
theorem keepFrom_cons (declaration : Text × Text) (rest : List (Text × Text)) :
    (∀ kept, accepted? validators table.equivalents context declaration = some kept →
      (table.rules.keepFrom context (declaration :: rest)).value =
        (table.rules.keepFrom context rest).value.map (kept :: ·)) ∧
    (accepted? validators table.equivalents context declaration = none →
      ∀ kept, (table.rules.keepFrom context (declaration :: rest)).value = some kept →
        (table.rules.keepFrom context rest).value = some kept) := by
  obtain ⟨property, value⟩ := declaration
  have chains : table.rules.chainFor? property = _ := declares.chainFor? property
  simp only [accepted?]
  rw [StyleRules.keepFrom, chains]
  cases found : validatorFor? validators table.equivalents property with
  | none => simp
  | some entry =>
      obtain ⟨canonical, validator⟩ := entry
      obtain ⟨whenAccepted, whenRefused⟩ := check_declaration declares tidy value found
      cases answer : (validator.check ⟨property, property, context.quiet, context.environment⟩
          (some value)).value with
      | ok given =>
          refine ⟨fun kept accepted => ?_, fun nothing => absurd nothing (by
            simp [answer, Except.toOption])⟩
          obtain rfl : (property, given) = kept := by
            simpa [answer, Except.toOption] using accepted
          simp only [rules, Option.map_some, Reported.value_bind, whenAccepted given answer]
          rfl
      | error rejection =>
          refine ⟨fun kept accepted => absurd accepted (by simp [answer, Except.toOption]), ?_⟩
          rintro - kept keeps
          rw [Option.map_some] at keeps
          simp only [Reported.value_bind] at keeps
          rcases checked : (Chain.check table.equivalents context.quiet context.environment
            [[(canonical, validator.check)]] ⟨property, [(property, value)]⟩).value with
            ⟨verdict, left⟩
          rw [rules, checked] at keeps
          cases verdict with
          | accepted =>
              have nothing := whenRefused rejection answer left checked
              simpa [nothing, rules] using keeps
          | exhausted => exact keeps
          | invalid => exact absurd keeps nofun

/-- The declarations that a table keeps are those that its validators accept, in order. -/
theorem eq_of_keepFrom {declarations kept : List (Text × Text)}
    (keeps : (table.rules.keepFrom context declarations).value = some kept) :
    kept = declarations.filterMap (accepted? validators table.equivalents context) := by
  induction declarations generalizing kept with
  | nil => exact (Option.some.inj keeps).symm
  | cons declaration rest inductionHypothesis =>
      obtain ⟨whenAccepted, whenRefused⟩ := keepFrom_cons declares tidy declaration rest
      cases answer : accepted? validators table.equivalents context declaration with
      | none =>
          rw [List.filterMap_cons_none answer]
          exact inductionHypothesis (whenRefused answer kept keeps)
      | some given =>
          rw [whenAccepted given answer] at keeps
          obtain ⟨others, behind, rfl⟩ := Option.map_eq_some_iff.mp keeps
          rw [List.filterMap_cons_some answer, inductionHypothesis behind]

/-- Declarations that are accepted as they are are all kept. -/
theorem keepFrom_eq_self {declarations : List (Text × Text)}
    (accepted : ∀ declaration ∈ declarations,
      accepted? validators table.equivalents context declaration = some declaration) :
    (table.rules.keepFrom context declarations).value = some declarations := by
  induction declarations with
  | nil => rfl
  | cons declaration rest inductionHypothesis =>
      obtain ⟨here, behind⟩ := List.forall_mem_cons.mp accepted
      rw [(keepFrom_cons declares tidy declaration rest).1 declaration here,
        inductionHypothesis behind]
      rfl

/-- What is accepted of a declaration can be written, and is accepted as it is. -/
theorem accepted?_eq_some {style : Text} {declaration given : Text × Text}
    (member : declaration ∈ StyleRules.declarations (spaced style))
    (accepted : accepted? validators table.equivalents context declaration = some given) :
    StyleRules.Writable given ∧
      accepted? validators table.equivalents context given = some given ∧
      ∃ canonical ∈ Dictionary.keys validators,
        given.1 = canonical ∨ given.1 ∈ table.equivalents.aliasesOf canonical := by
  obtain ⟨property, value⟩ := declaration
  obtain ⟨⟨canonical, validator⟩, found, checked⟩ := Option.bind_eq_some_iff.mp accepted
  obtain ⟨written, answer, rfl⟩ := Option.map_eq_some_iff.mp checked
  have ok : (validator.check ⟨property, property, context.quiet, context.environment⟩
      (some value)).value = .ok written := by
    cases outcome : (validator.check ⟨property, property, context.quiet, context.environment⟩
        (some value)).value with
    | error rejection => simp [outcome, Except.toOption] at answer
    | ok accepted => simpa [outcome, Except.toOption] using answer
  obtain ⟨declared, standsFor⟩ := declares.validatorFor?_eq_some found
  have settled := (tidy _ declared).settled
    ⟨property, property, context.quiet, context.environment⟩ value written rfl ok
  obtain ⟨again, unmarked, trimmed, single⟩ := settled
  obtain ⟨propertySpaced, noSemicolon, noColon, small⟩ :=
    StyleRules.property_of_declarations member
  refine ⟨⟨propertySpaced, ⟨trimmed, single⟩, ⟨noSemicolon, noColon, unmarked⟩, small⟩, ?_,
    canonical, List.mem_map.mpr ⟨_, declared, rfl⟩, standsFor⟩
  simp [accepted?, found, again, Except.toOption]

omit declares tidy in
theorem core_eq_ok {options : Options} {raw value given : Text} {rules : StyleRules}
    (accepted : (rules.core options context raw value).value = .ok given) :
    ∃ kept, kept ≠ [] ∧ given = StyleRules.render kept ∧
      (rules.keepFrom context (StyleRules.declarations (spaced value))).value = some kept := by
  simp only [StyleRules.core, Reported.value_bind] at accepted
  split at accepted
  case h_1 =>
    rw [value_reportRejection] at accepted
    cases accepted
  case h_2 =>
    rw [Options.value_refuse] at accepted
    cases accepted
  case h_3 kept nonempty keeps =>
    exact ⟨kept, nonempty, (Except.ok.inj accepted).symm, keeps⟩

omit declares tidy in
theorem core_of_kept {options : Options} {raw value : Text} {rules : StyleRules}
    {kept : List (Text × Text)} (nonempty : kept ≠ [])
    (keeps : (rules.keepFrom context (StyleRules.declarations (spaced value))).value = some kept) :
    (rules.core options context raw value).value = .ok (StyleRules.render kept) := by
  simp only [StyleRules.core, Reported.value_bind, keeps, Reported.value_pure]

omit declares tidy in
/-- A style by the declarations it was made of: it ends with a semicolon, its parts are the
declarations, and each property is in the table or an alias in it. -/
structure Lists (validators : Dictionary Validator) (equivalents : Equivalents)
    (declarations : List (Text × Text)) (style : Text) : Prop where
  ended : style.getLast? = some ';'
  read : StyleRules.readPieces style = declarations.map some
  known : ∀ declaration ∈ declarations, ∃ canonical ∈ Dictionary.keys validators,
    declaration.1 = canonical ∨ declaration.1 ∈ equivalents.aliasesOf canonical

/-- A style that a validator without a default gives out lists the declarations that were accepted,
in the order of the text, and passes the validator unchanged. -/
theorem style_rereads {options : Options} {written given : Text}
    (undefaulted : ∀ usual, options.requirement ≠ .substitute usual)
    (accepted : ((Validator.style options table.name table.properties table.equivalents).check
      context (some written)).value = .ok given) :
    Lists validators table.equivalents
        ((StyleRules.declarations (spaced (options.looked written))).filterMap
          (accepted? validators table.equivalents context)) given ∧
      ((Validator.style options table.name table.properties table.equivalents).check context
        (some given)).value = .ok given := by
  obtain ⟨sound, replaced | ⟨raw, same, passed⟩⟩ := Validator.check_eq_ok accepted
  · exact absurd replaced (undefaulted given)
  obtain rfl := Option.some.inj same
  obtain ⟨kept, nonempty, rfl, keeps⟩ := core_eq_ok passed
  have selected := eq_of_keepFrom declares tidy keeps
  have fit : ∀ declaration ∈ kept, StyleRules.Writable declaration ∧
      accepted? validators table.equivalents context declaration = some declaration ∧
      ∃ canonical ∈ Dictionary.keys validators,
        declaration.1 = canonical ∨ declaration.1 ∈ table.equivalents.aliasesOf canonical := by
    intro declaration member
    rw [selected] at member
    obtain ⟨source, inside, kept⟩ := List.mem_filterMap.mp member
    exact accepted?_eq_some declares tidy inside kept
  have writable := fun declaration member => (fit declaration member).1
  have readAgain : StyleRules.declarations (spaced (options.looked (StyleRules.render kept))) =
      kept := by
    have looked : options.looked (StyleRules.render kept) = StyleRules.render kept := by
      unfold Options.looked
      split
      · exact Text.trim_eq_self (StyleRules.trimmed_render nonempty writable)
      · rfl
    rw [looked, StyleRules.spaced_render nonempty writable,
      StyleRules.declarations_render nonempty writable]
  constructor
  · refine ⟨StyleRules.getLast?_render kept, ?_, ?_⟩
    · rw [StyleRules.readPieces_render nonempty writable]
      exact congrArg (List.map some) selected
    · intro declaration member
      have inside : declaration ∈ kept := selected ▸ member
      exact (fit declaration inside).2.2
  · have filled : StyleRules.render kept ≠ [] := by
      intro empty
      simpa [empty] using StyleRules.getLast?_render kept
    refine Validator.check_of_core sound (.inl filled) (core_of_kept nonempty ?_)
    rw [show (Validator.style options table.name table.properties table.equivalents).options =
      options from rfl, readAgain]
    exact keepFrom_eq_self declares tidy fun declaration member => (fit declaration member).2.1

end StyleTable

/-! ## A table -/

/-- A property with one value, under two names. -/
def StyleTable.colors : StyleTable :=
  ((StyleTable.new "css").withProperty "color" (Validator.list ["red"])).withAlias "color" ["colour"]

theorem StyleTable.tidy_red (environment : Environment) :
    StyleTable.Tidy environment (Validator.list ["red"]) := by
  refine ⟨rfl, fun context written given _ accepted => ?_⟩
  obtain ⟨-, replaced | ⟨raw, -, passed⟩⟩ := Validator.check_eq_ok accepted
  · exact absurd replaced nofun
  · have found := Simple.accept_list.mp (Simple.accept_of_core passed)
    obtain rfl := List.mem_singleton.mp (Vocabulary.mem_of_lookup? rfl found)
    have unblank : ∀ c ∈ ("red" : Text), Text.isBlank c = false := by
      have all : (("red" : Text).all fun c => !Text.isBlank c) = true := rfl
      simpa only [Bool.not_eq_true'] using List.all_eq_true.mp all
    exact ⟨rfl, by decide, Text.trimmed_of_unblank unblank, Text.singleSpaced_of_unblank unblank⟩

theorem StyleTable.style_rereads_colors :
    StyleTable.Declares .colors [("color", Validator.list ["red"])] ∧
    (∀ entry ∈ ([("color", Validator.list ["red"])] : Dictionary Validator),
      StyleTable.Tidy .detached entry.2) ∧
    (StyleTable.colors.validator.check ⟨"p", "style", true, .detached⟩
      (some " COLOUR :  Red ;; width: 3")).value = .ok "colour: red;" ∧
    (StyleTable.colors.validator.check ⟨"p", "style", true, .detached⟩
      (some "colour: red;")).value = .ok "colour: red;" := by
  have declares : StyleTable.Declares .colors [("color", Validator.list ["red"])] :=
    .withAlias _ _ (.withProperty _ _ (.new _))
  have tidy : ∀ entry ∈ ([("color", Validator.list ["red"])] : Dictionary Validator),
      StyleTable.Tidy .detached entry.2 := by
    rintro entry member
    obtain rfl := List.mem_singleton.mp member
    exact StyleTable.tidy_red .detached
  have accepted : (StyleTable.colors.validator.check ⟨"p", "style", true, .detached⟩
      (some " COLOUR :  Red ;; width: 3")).value = .ok "colour: red;" := by decide +kernel
  have undefaulted (usual : Text) : (Validator.newOptions false).requirement ≠ .substitute usual :=
    nofun
  exact ⟨declares, tidy, accepted, (style_rereads declares tidy undefaulted accepted).2⟩

end SafeMarkup
