import SafeMarkup.Proofs.VisibleText
import SafeMarkup.Proofs.Writing

/-!
Contract: the markup and the plain text of a forest say the same.

Owns: unescaping as replacements of one entity after another; markup without its tags; and the law
that markup without tags, read back, is the plain text.

Does not own: which texts show, and a reader of markup.
-/

namespace SafeMarkup

/-! ## Replacing one entity -/

/-- Text with a character in the place of each entity of some name. -/
def replaceEntity (name : Text) (mark : Char) (text : Text) : Text :=
  Text.replaceAll ('&' :: name) [mark] text

variable {name : Text} {mark : Char}

@[simp] theorem replaceEntity_nil : replaceEntity name mark [] = [] := rfl

theorem replaceEntity_cons_of_not_prefix {c : Char} {rest : Text}
    (other : ¬('&' :: name) <+: c :: rest) :
    replaceEntity name mark (c :: rest) = c :: replaceEntity name mark rest := by
  unfold replaceEntity Text.replaceAll
  rw [Text.replaceFrom, if_neg]
  simpa using other

theorem replaceEntity_cons_of_ne {c : Char} (notAmp : c ≠ '&') (rest : Text) :
    replaceEntity name mark (c :: rest) = c :: replaceEntity name mark rest := by
  apply replaceEntity_cons_of_not_prefix
  simp [List.cons_prefix_cons, notAmp.symm]

theorem replaceEntity_amp_of_not_prefix {rest : Text} (other : ¬name <+: rest) :
    replaceEntity name mark ('&' :: rest) = '&' :: replaceEntity name mark rest := by
  apply replaceEntity_cons_of_not_prefix
  simpa [List.cons_prefix_cons] using other

theorem exists_replaceEntity_amp (name : Text) (mark : Char) (rest : Text) :
    ∃ c behind, replaceEntity name mark ('&' :: rest) = c :: behind ∧ (c = mark ∨ c = '&') := by
  by_cases begins : name <+: rest
  · refine ⟨mark, Text.replaceFrom ('&' :: name) [mark] name.length rest, ?_, .inl rfl⟩
    unfold replaceEntity Text.replaceAll
    rw [Text.replaceFrom, if_pos (by simpa using begins)]
    rfl
  · exact ⟨'&', _, replaceEntity_amp_of_not_prefix begins, .inr rfl⟩

/-- Replacing entities by a special character neither makes nor breaks the name of another one. -/
theorem prefix_replaceEntity_iff (special : isSpecial mark) {lead : Text}
    (named : ∀ c ∈ lead, isNameChar c) (name text : Text) :
    lead <+: replaceEntity name mark text ↔ lead <+: text := by
  induction lead generalizing text with
  | nil => simp
  | cons first lead inductionHypothesis =>
      obtain ⟨here, behind⟩ := List.forall_mem_cons.mp named
      have plain : ¬isSpecial first := not_isSpecial_of_isNameChar here
      have notAmp : first ≠ '&' := by
        rintro rfl
        exact plain (by decide)
      cases text with
      | nil => simp
      | cons c rest =>
          by_cases ampersand : c = '&'
          · subst ampersand
            obtain ⟨d, others, written, outcome⟩ := exists_replaceEntity_amp name mark rest
            have different : first ≠ d := by
              rintro rfl
              rcases outcome with rfl | same
              · exact plain special
              · exact notAmp same
            simp [written, List.cons_prefix_cons, notAmp, different]
          · rw [replaceEntity_cons_of_ne ampersand, List.cons_prefix_cons, List.cons_prefix_cons,
              inductionHypothesis behind]

/-! ## Unescaping in turn -/

/-- The names of entities with what they stand for, in the order in which they are replaced. The
ampersand comes last: what it leaves behind is not read again. -/
def entityNames : List (Text × Char) :=
  [("gt;", '>'), ("lt;", '<'), ("apos;", '\''), ("quot;", '"'), ("amp;", '&')]

theorem special_of_mem_entityNames {entry : Text × Char} (member : entry ∈ entityNames) :
    isSpecial entry.2 ∧ ∀ c ∈ entry.1, isNameChar c := by
  simp only [entityNames, List.mem_cons, List.not_mem_nil, or_false] at member
  rcases member with rfl | rfl | rfl | rfl | rfl
  all_goals exact ⟨by decide, List.all_eq_true.mp rfl⟩

/-- Text with entities replaced one after another. -/
def replaceInTurn (names : List (Text × Char)) (text : Text) : Text :=
  names.foldl (fun text (name, mark) => replaceEntity name mark text) text

def unescapeInTurn (text : Text) : Text := replaceInTurn entityNames text

theorem replaceInTurn_cons_of_ne {c : Char} (notAmp : c ≠ '&') (names : List (Text × Char))
    (rest : Text) : replaceInTurn names (c :: rest) = c :: replaceInTurn names rest := by
  induction names generalizing rest with
  | nil => rfl
  | cons entry names inductionHypothesis =>
      simp only [replaceInTurn, List.foldl_cons, replaceEntity_cons_of_ne notAmp]
      exact inductionHypothesis _

/-- An ampersand with no name behind it stays: what is replaced first makes no name of what
follows. -/
theorem replaceInTurn_amp {names : List (Text × Char)}
    (entities : ∀ entry ∈ names, isSpecial entry.2 ∧ ∀ c ∈ entry.1, isNameChar c) {rest : Text}
    (noName : ∀ entry ∈ names, ¬entry.1 <+: rest) :
    replaceInTurn names ('&' :: rest) = '&' :: replaceInTurn names rest := by
  induction names generalizing rest with
  | nil => rfl
  | cons entry names inductionHypothesis =>
      obtain ⟨⟨special, _⟩, others⟩ := List.forall_mem_cons.mp entities
      obtain ⟨noFirst, noOther⟩ := List.forall_mem_cons.mp noName
      simp only [replaceInTurn, List.foldl_cons, replaceEntity_amp_of_not_prefix noFirst]
      apply inductionHypothesis others
      intro other member
      have kept := prefix_replaceEntity_iff special (others other member).2 entry.1 rest
      exact kept.not.mpr (noOther other member)

/-- Unescaping in one pass is unescaping in turn. -/
theorem unescapeInTurn_eq (text : Text) : unescapeInTurn text = unescapeText text := by
  fun_induction unescapeText text
  case case1 rest inductionHypothesis | case2 rest inductionHypothesis |
      case3 rest inductionHypothesis | case4 rest inductionHypothesis |
      case5 rest inductionHypothesis =>
    rw [← inductionHypothesis]
    rfl
  case case6 c rest notAmp notQuot notApos notLess notGreater inductionHypothesis =>
    rw [← inductionHypothesis]
    by_cases ampersand : c = '&'
    · subst ampersand
      refine replaceInTurn_amp (fun _ => special_of_mem_entityNames) ?_
      simp only [entityNames, List.forall_mem_cons, List.not_mem_nil, false_imp_iff, implies_true,
        and_true]
      refine ⟨?_, ?_, ?_, ?_, ?_⟩
      · rintro ⟨behind, rfl⟩
        exact notGreater behind rfl rfl
      · rintro ⟨behind, rfl⟩
        exact notLess behind rfl rfl
      · rintro ⟨behind, rfl⟩
        exact notApos behind rfl rfl
      · rintro ⟨behind, rfl⟩
        exact notQuot behind rfl rfl
      · rintro ⟨behind, rfl⟩
        exact notAmp behind rfl rfl
    · exact replaceInTurn_cons_of_ne ampersand _ rest
  case case7 => rfl

/-! ## Markup without tags -/

/-- Text without the stretches from a less-than sign to the next greater-than sign, from a place
inside of one or outside. -/
def dropTagsFrom : (inside : Bool) → Text → Text
  | _, [] => []
  | true, c :: rest => dropTagsFrom (c != '>') rest
  | false, c :: rest =>
    if c = '<' ∧ '>' ∈ rest then dropTagsFrom true rest else c :: dropTagsFrom false rest

/-- Text without the stretches from a less-than sign to the next greater-than sign. -/
def dropTags (text : Text) : Text := dropTagsFrom false text

theorem dropTagsFrom_inside {front : Text} (inside : '>' ∉ front) (rest : Text) :
    dropTagsFrom true (front ++ '>' :: rest) = dropTags rest := by
  induction front with
  | nil => rfl
  | cons c front inductionHypothesis =>
      simp only [List.mem_cons, not_or] at inside
      obtain ⟨other, behind⟩ := inside
      have stays : (c != '>') = true := by simpa using Ne.symm other
      rw [List.cons_append, dropTagsFrom, stays, inductionHypothesis behind]

/-- A stretch goes up to the first greater-than sign. -/
theorem dropTags_tag (inner : Text) (inside : '>' ∉ inner) (rest : Text) :
    dropTags ('<' :: (inner ++ '>' :: rest)) = dropTags rest := by
  rw [dropTags, dropTagsFrom, if_pos ⟨rfl, by simp⟩, dropTagsFrom_inside inside]

theorem dropTags_append {front : Text} (outside : '<' ∉ front) (rest : Text) :
    dropTags (front ++ rest) = front ++ dropTags rest := by
  induction front with
  | nil => rfl
  | cons c front inductionHypothesis =>
      simp only [List.mem_cons, not_or] at outside
      obtain ⟨other, behind⟩ := outside
      rw [List.cons_append, dropTags, dropTagsFrom, if_neg fun both => other both.1.symm]
      exact congrArg (c :: ·) (inductionHypothesis behind)

/-! ## Tags -/

/-- No name in a tag has a greater-than sign, so that the tag ends at its own. -/
def Tag.Unbroken (tag : Tag) : Prop := '>' ∉ tag.name ∧ ∀ pair ∈ tag.attributes, '>' ∉ pair.1

theorem not_mem_renderAttribute {pair : Text × Text} (unbroken : '>' ∉ pair.1) :
    '>' ∉ renderAttribute pair := by
  have value : '>' ∉ escapeAttribute pair.2 := fun member =>
    (ne_of_mem_escapeAttribute member).2.1 rfl
  simp [renderAttribute, unbroken, value]

theorem dropTags_renderTag {tag : Tag} (unbroken : tag.Unbroken) (closing : Text)
    (inside : '>' ∉ closing) (rest : Text) :
    dropTags (renderTag tag ++ (closing ++ '>' :: rest)) = dropTags rest := by
  obtain ⟨name, keys⟩ := unbroken
  have attributes : '>' ∉ tag.attributes.flatMap renderAttribute := by
    intro member
    obtain ⟨pair, present, written⟩ := List.mem_flatMap.mp member
    exact not_mem_renderAttribute (keys pair present) written
  have stretch := dropTags_tag (tag.name ++ tag.attributes.flatMap renderAttribute ++ closing)
    (by simp [name, attributes, inside]) rest
  simpa [renderTag] using stretch

namespace Node

/-! ## Forests -/

/-- A void element of a level has no children. -/
def VoidsEmpty (level : List Node) : Prop :=
  ∀ tag children, .element tag children ∈ level → isVoidElement tag.name → children = []

/-- A forest whose markup can be told from its texts: texts are well-escaped, tags unbroken, and
void elements, whose children are not written, have none. -/
structure Legible (nodes : List Node) : Prop where
  escaped : AllEscaped nodes
  unbroken : ∀ tag ∈ tagsAll nodes, tag.Unbroken
  voids : ∀ level ∈ levels nodes, VoidsEmpty level

theorem Legible.of_cons_text {content : Text} {rest : List Node}
    (legible : Legible (.text content :: rest)) : WellEscaped content ∧ Legible rest := by
  obtain ⟨escaped, unbroken, voids⟩ := legible
  obtain ⟨here, behind⟩ := allEscaped_cons_text.mp escaped
  refine ⟨here, behind, unbroken, ?_⟩
  obtain ⟨top, below⟩ := List.forall_mem_cons.mp voids
  refine List.forall_mem_cons.mpr ⟨?_, below⟩
  intro tag children member
  exact top tag children (List.mem_cons_of_mem _ member)

theorem Legible.of_cons_element {tag : Tag} {children rest : List Node}
    (legible : Legible (.element tag children :: rest)) :
    tag.Unbroken ∧ (isVoidElement tag.name → children = []) ∧ Legible children ∧ Legible rest := by
  obtain ⟨escaped, unbroken, voids⟩ := legible
  obtain ⟨childrenEscaped, restEscaped⟩ := allEscaped_cons_element.mp escaped
  have tags : tagsAll (.element tag children :: rest) =
      tag :: (tagsAll children ++ tagsAll rest) := rfl
  rw [tags, List.forall_mem_cons, List.forall_mem_append] at unbroken
  obtain ⟨here, childrenUnbroken, restUnbroken⟩ := unbroken
  have below : levelsBelowAll (.element tag children :: rest) =
      levels children ++ levelsBelowAll rest := rfl
  rw [levels, List.forall_mem_cons, below, List.forall_mem_append] at voids
  obtain ⟨top, childrenVoids, restVoids⟩ := voids
  have restTop : VoidsEmpty rest := fun tag children member =>
    top tag children (List.mem_cons_of_mem _ member)
  exact ⟨here, top tag children List.mem_cons_self,
    ⟨childrenEscaped, childrenUnbroken, childrenVoids⟩,
    ⟨restEscaped, restUnbroken, List.forall_mem_cons.mpr ⟨restTop, restVoids⟩⟩⟩

/-- Without its tags, the markup of a forest is its texts one after another. -/
theorem dropTags_renderAll {nodes : List Node} (legible : Legible nodes) (rest : Text) :
    dropTags (renderAll true nodes ++ rest) =
      nameNbsp (textsAll nodes).flatten ++ dropTags rest := by
  induction nodes using forest_induction generalizing rest with
  | nil => rfl
  | text content nodes inductionHypothesis =>
      obtain ⟨escaped, behind⟩ := legible.of_cons_text
      have outside : '<' ∉ nameNbsp content := fun member =>
        ne_less_of_mem_nameNbsp escaped member rfl
      have texts : textsAll (.text content :: nodes) = content :: textsAll nodes := rfl
      rw [renderAll_text, dropTags_append outside, inductionHypothesis behind, texts,
        List.flatten_cons, nameNbsp_append, List.append_assoc]
  | element tag children nodes childrenHypothesis restHypothesis =>
      obtain ⟨unbroken, alone, inside, behind⟩ := legible.of_cons_element
      have texts : textsAll (.element tag children :: nodes) =
          textsAll children ++ textsAll nodes := rfl
      rw [renderAll_element, renderContent, texts, List.flatten_append, nameNbsp_append,
        List.append_assoc, ← restHypothesis behind]
      by_cases void : isVoidElement tag.name
      · rw [if_pos void, alone void]
        exact dropTags_renderTag unbroken [' ', '/'] (by decide) _
      · rw [if_neg void]
        have opening := dropTags_renderTag unbroken [] (by decide) (renderAll true children ++
          '<' :: '/' :: (tag.name ++ '>' :: (renderAll true nodes ++ rest)))
        have closing := dropTags_tag ('/' :: tag.name) (by simp [unbroken.1])
          (renderAll true nodes ++ rest)
        rw [List.nil_append] at opening
        rw [opening, childrenHypothesis inside]
        exact congrArg (_ ++ ·) closing

/-- The plain text of a forest is its texts, unescaped together: no entity reaches over the end of a
text. -/
theorem unescapeText_flatten {nodes : List Node} (escaped : AllEscaped nodes) :
    WellEscaped (textsAll nodes).flatten ∧
      unescapeText (textsAll nodes).flatten = plainTextAll nodes := by
  induction nodes using forest_induction with
  | nil => exact ⟨.nil, rfl⟩
  | text content nodes inductionHypothesis =>
      obtain ⟨here, behind⟩ := allEscaped_cons_text.mp escaped
      obtain ⟨restEscaped, restPlain⟩ := inductionHypothesis behind
      have texts : (textsAll (.text content :: nodes)).flatten =
          content ++ (textsAll nodes).flatten := rfl
      rw [texts, here.unescapeText_append, restPlain]
      exact ⟨here.append restEscaped, rfl⟩
  | element tag children nodes childrenHypothesis restHypothesis =>
      obtain ⟨inside, behind⟩ := allEscaped_cons_element.mp escaped
      obtain ⟨childrenEscaped, childrenPlain⟩ := childrenHypothesis inside
      obtain ⟨restEscaped, restPlain⟩ := restHypothesis behind
      have texts : (textsAll (.element tag children :: nodes)).flatten =
          (textsAll children).flatten ++ (textsAll nodes).flatten := List.flatten_append
      rw [texts, childrenEscaped.unescapeText_append, childrenPlain, restPlain]
      exact ⟨childrenEscaped.append restEscaped, rfl⟩

/-- The markup of a legible forest says what its plain text says: without tags, with no-break spaces
for their name and unescaped, it is the plain text. -/
theorem unescape_dropTags_toMarkup {nodes : List Node} (legible : Legible nodes) :
    unescapeInTurn (Text.replaceAll "&nbsp;" [Text.nbsp] (dropTags (toMarkup nodes))) =
      plainTextAll nodes := by
  obtain ⟨escaped, plain⟩ := unescapeText_flatten legible.escaped
  have texts : dropTags (toMarkup nodes) = nameNbsp (textsAll nodes).flatten := by
    have whole := dropTags_renderAll legible []
    rw [List.append_nil] at whole
    rw [toMarkup, whole]
    exact List.append_nil _
  rw [texts, replaceAll_nameNbsp escaped, unescapeInTurn_eq, plain]

/-- Texts that would make an entity without the element between them, and a value that looks like
the end of its tag. -/
def straddling : List Node :=
  [.element ⟨"p", [("t", "\">")]⟩
    [.text "&amp;", .element ⟨"br", []⟩ [], .text ("nbsp;" ++ [Text.nbsp])]]

theorem unescape_dropTags_toMarkup_straddling :
    Legible straddling ∧
      toMarkup straddling = "<p t=\"&quot;&gt;\">&amp;<br />nbsp;&nbsp;</p>" ∧
      plainTextAll straddling = "&nbsp;" ++ [Text.nbsp] ∧
      unescapeInTurn (Text.replaceAll "&nbsp;" [Text.nbsp] (dropTags (toMarkup straddling))) =
        plainTextAll straddling := by
  have escaped : AllEscaped straddling := by
    have first : WellEscaped "&amp;" := WellEscaped.escapeText "&"
    have second : WellEscaped ("nbsp;" ++ [Text.nbsp]) :=
      WellEscaped.escapeText ("nbsp;" ++ [Text.nbsp])
    simpa [straddling, AllEscaped, textsAll, texts] using ⟨first, second⟩
  have legible : Legible straddling := by
    refine ⟨escaped, ?_, ?_⟩
    · simp [straddling, tagsAll, tags, Tag.Unbroken]
    · simp [straddling, levels, levelsBelowAll, levelsBelow, VoidsEmpty]
      decide
  exact ⟨legible, rfl, rfl, unescape_dropTags_toMarkup legible⟩

end Node
end SafeMarkup
