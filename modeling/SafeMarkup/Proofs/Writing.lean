import SafeMarkup.Proofs.Escaping
import SafeMarkup.Proofs.Forest
import SafeMarkup.Proofs.Level

/-!
Contract: the written form of a forest can be read in one way only.

Owns: clean forests; where the name, the attributes and the content of an element end in writing;
and that two clean forests with one written form are the same forest.

Does not own: a reader of markup.
-/

namespace SafeMarkup

/-! ## Where a part ends -/

/-- What is next is not of a class, or the text is over. -/
def Stops (inClass : Char → Bool) (rest : Text) : Prop := ∀ c ∈ rest.head?, inClass c = false

theorem stops_cons {inClass : Char → Bool} {c : Char} {rest : Text} (outside : inClass c = false) :
    Stops inClass (c :: rest) := by
  rintro d ⟨⟩
  exact outside

theorem takeWhile_append_of_stops {inClass : Char → Bool} {front rest : Text}
    (inside : ∀ c ∈ front, inClass c) (stops : Stops inClass rest) :
    (front ++ rest).takeWhile inClass = front := by
  rw [List.takeWhile_append_of_pos inside]
  cases rest with
  | nil => simp
  | cons c rest =>
      have outside : inClass c = false := stops c rfl
      simp [outside]

/-- A part of a text whose characters are of a class ends where the class does. -/
theorem append_inj_of_stops {inClass : Char → Bool} {left right rest others : Text}
    (leftInside : ∀ c ∈ left, inClass c) (rightInside : ∀ c ∈ right, inClass c)
    (restStops : Stops inClass rest) (othersStop : Stops inClass others)
    (same : left ++ rest = right ++ others) : left = right ∧ rest = others := by
  have front : left = right := by
    rw [← takeWhile_append_of_stops leftInside restStops, same,
      takeWhile_append_of_stops rightInside othersStop]
  subst front
  exact ⟨rfl, List.append_cancel_left same⟩

/-! ## Attribute values -/

theorem escapeAttributeChar_of_ne {c : Char} (other : c ≠ '\'') :
    escapeAttributeChar c = escapeChar c := by
  unfold escapeAttributeChar escapeChar
  rw [if_neg other]

theorem unescapeText_escapeAttribute (value : Text) :
    unescapeText (escapeAttribute value) = value := by
  induction value with
  | nil => rfl
  | cons c rest inductionHypothesis =>
      have here (behind : Text) :
          unescapeText (escapeAttributeChar c ++ behind) = c :: unescapeText behind := by
        by_cases apostrophe : c = '\''
        · subst apostrophe
          exact unescapeText_cons (by decide) behind
        · rw [escapeAttributeChar_of_ne apostrophe, unescapeText_escapeChar_append]
      rw [escapeAttribute, List.flatMap_cons, here]
      exact congrArg (c :: ·) inductionHypothesis

theorem ne_of_mem_escapeAttribute {value : Text} {c : Char}
    (member : c ∈ escapeAttribute value) : c ≠ '<' ∧ c ≠ '>' ∧ c ≠ '"' := by
  obtain ⟨d, _, written⟩ := List.mem_flatMap.mp member
  by_cases apostrophe : d = '\''
  · subst apostrophe
    rw [List.mem_singleton.mp written]
    decide
  · rw [escapeAttributeChar_of_ne apostrophe] at written
    obtain ⟨less, greater, quot, _⟩ := (WellEscaped.escapeChar d).noneRaw c written
    exact ⟨less, greater, quot⟩

/-- A quoted attribute value ends at its closing quote. -/
theorem escapeAttribute_append_inj {left right rest others : Text}
    (same : escapeAttribute left ++ '"' :: rest = escapeAttribute right ++ '"' :: others) :
    left = right ∧ rest = others := by
  have inside (value : Text) : ∀ c ∈ escapeAttribute value, (c != '"') = true :=
    fun c member => bne_iff_ne.mpr (ne_of_mem_escapeAttribute member).2.2
  obtain ⟨values, behind⟩ :=
    append_inj_of_stops (inside left) (inside right) (stops_cons rfl) (stops_cons rfl) same
  refine ⟨?_, (List.cons.inj behind).2⟩
  rw [← unescapeText_escapeAttribute left, values, unescapeText_escapeAttribute]

/-! ## Texts -/

theorem nameNbsp_append (left right : Text) :
    nameNbsp (left ++ right) = nameNbsp left ++ nameNbsp right := List.flatMap_append

theorem nameNbsp_cons_of_ne {c : Char} (other : c ≠ Text.nbsp) (rest : Text) :
    nameNbsp (c :: rest) = c :: nameNbsp rest := by
  rw [nameNbsp, List.flatMap_cons, if_neg other]
  rfl

theorem replaceFrom_nameNbsp_escapeChar (c : Char) (rest : Text) :
    Text.replaceFrom "&nbsp;" [Text.nbsp] 0 (nameNbsp (escapeChar c) ++ rest) =
      escapeChar c ++ Text.replaceFrom "&nbsp;" [Text.nbsp] 0 rest := by
  by_cases special : isSpecial c
  · -- no entity of a special character begins like that of the no-break space
    rcases isSpecial_iff.mp special with rfl | rfl | rfl | rfl | rfl <;> rfl
  · rw [escapeChar_of_not_isSpecial special]
    by_cases nbsp : c = Text.nbsp
    · subst nbsp
      rfl
    · have other : ('&' == c) = false := by
        rw [beq_eq_false_iff_ne]
        rintro rfl
        exact special (by decide)
      have begins : List.isPrefixOf ("&nbsp;" : Text) (c :: rest) = false := by
        change ('&' == c && _) = false
        rw [other, Bool.false_and]
      rw [nameNbsp_cons_of_ne nbsp]
      change Text.replaceFrom "&nbsp;" [Text.nbsp] 0 (c :: rest) = _
      rw [Text.replaceFrom, begins, if_neg Bool.false_ne_true]
      rfl

theorem replaceAll_nameNbsp {text : Text} (escaped : WellEscaped text) :
    Text.replaceAll "&nbsp;" [Text.nbsp] (nameNbsp text) = text := by
  obtain ⟨raw, rfl⟩ := wellEscaped_iff.mp escaped
  unfold Text.replaceAll
  clear escaped
  induction raw with
  | nil => rfl
  | cons c raw inductionHypothesis =>
      rw [escapeText_cons, nameNbsp_append, replaceFrom_nameNbsp_escapeChar, inductionHypothesis]

theorem ne_less_of_mem_nameNbsp {text : Text} (escaped : WellEscaped text) {c : Char}
    (member : c ∈ nameNbsp text) : c ≠ '<' := by
  obtain ⟨d, inside, written⟩ := List.mem_flatMap.mp member
  split at written
  · rintro rfl
    exact absurd written (by decide)
  · rw [List.mem_singleton.mp written]
    exact (escaped.noneRaw d inside).1

/-- A well-escaped text ends where the next tag begins. -/
theorem nameNbsp_append_inj {left right rest others : Text} (leftEscaped : WellEscaped left)
    (rightEscaped : WellEscaped right) (restStops : Stops (fun c => c != '<') rest)
    (othersStop : Stops (fun c => c != '<') others)
    (same : nameNbsp left ++ rest = nameNbsp right ++ others) : left = right ∧ rest = others := by
  obtain ⟨texts, behind⟩ := append_inj_of_stops
    (fun c member => bne_iff_ne.mpr (ne_less_of_mem_nameNbsp leftEscaped member))
    (fun c member => bne_iff_ne.mpr (ne_less_of_mem_nameNbsp rightEscaped member))
    restStops othersStop same
  refine ⟨?_, behind⟩
  rw [← replaceAll_nameNbsp leftEscaped, texts, replaceAll_nameNbsp rightEscaped]

/-! ## Tags -/

/-- Whether a character can stand in a name: no white space and nothing that means something in a
tag. -/
def isPlain (c : Char) : Bool := !(Text.isBlank c || ("<>\"'=/&" : Text).contains c)

/-- Whether a text can be the name of an element or the key of an attribute. -/
def isName (name : Text) : Bool := !name.isEmpty && name.all isPlain

/-- Whether a tag is written in names. Its attributes can have any values. -/
def Tag.isClean (tag : Tag) : Bool :=
  isName tag.name && tag.attributes.all fun pair => isName pair.1

/-- A name ends at the next character that has a meaning. -/
theorem name_append_inj {left right rest others : Text} (leftName : isName left)
    (rightName : isName right) (restStops : Stops isPlain rest) (othersStop : Stops isPlain others)
    (same : left ++ rest = right ++ others) : left = right ∧ rest = others := by
  have plain {name : Text} (clean : isName name) : ∀ c ∈ name, isPlain c :=
    List.all_eq_true.mp (Bool.and_eq_true_iff.mp clean).2
  exact append_inj_of_stops (plain leftName) (plain rightName) restStops othersStop same

theorem exists_cons_of_isName {name : Text} (clean : isName name) :
    ∃ c rest, name = c :: rest ∧ isPlain c := by
  cases name with
  | nil => exact absurd clean (by decide)
  | cons c rest =>
      have plain := List.all_eq_true.mp (Bool.and_eq_true_iff.mp clean).2
      exact ⟨c, rest, rfl, plain c List.mem_cons_self⟩

/-- What is behind the last attribute of a tag: its bracket, in a void element behind a slash. -/
inductive EndsTag : Text → Prop where
  | bracket (behind : Text) : EndsTag ('>' :: behind)
  | slash (behind : Text) : EndsTag (' ' :: '/' :: behind)

theorem EndsTag.stops {rest : Text} (ends : EndsTag rest) : Stops isPlain rest := by
  cases ends with
  | bracket => exact stops_cons rfl
  | slash => exact stops_cons rfl

theorem renderAttribute_append (pair : Text × Text) (rest : Text) :
    renderAttribute pair ++ rest =
      ' ' :: (pair.1 ++ '=' :: '"' :: (escapeAttribute pair.2 ++ '"' :: rest)) := by
  simp [renderAttribute]

theorem renderAttribute_append_inj {left right : Text × Text} {rest others : Text}
    (leftName : isName left.1) (rightName : isName right.1)
    (same : renderAttribute left ++ rest = renderAttribute right ++ others) :
    left = right ∧ rest = others := by
  rw [renderAttribute_append, renderAttribute_append] at same
  obtain ⟨keys, values⟩ := name_append_inj leftName rightName (stops_cons rfl) (stops_cons rfl)
    (List.cons.inj same).2
  obtain ⟨values, behind⟩ := escapeAttribute_append_inj (List.cons.inj (List.cons.inj values).2).2
  exact ⟨Prod.ext keys values, behind⟩

/-- No tag ends where an attribute begins. -/
theorem not_endsTag_renderAttribute {pair : Text × Text} (name : isName pair.1) (rest : Text) :
    ¬EndsTag (renderAttribute pair ++ rest) := by
  obtain ⟨c, key, written, plain⟩ := exists_cons_of_isName name
  rw [renderAttribute_append, written, List.cons_append]
  rintro ⟨⟩
  exact absurd plain (by decide)

theorem attributes_append_inj {left right : List (Text × Text)} {rest others : Text}
    (leftNames : ∀ pair ∈ left, isName pair.1) (rightNames : ∀ pair ∈ right, isName pair.1)
    (restEnds : EndsTag rest) (othersEnd : EndsTag others)
    (same : left.flatMap renderAttribute ++ rest = right.flatMap renderAttribute ++ others) :
    left = right ∧ rest = others := by
  induction left generalizing right with
  | nil =>
      cases right with
      | nil => exact ⟨rfl, same⟩
      | cons pair right =>
          rw [List.flatMap_nil, List.nil_append, List.flatMap_cons, List.append_assoc] at same
          subst same
          exact absurd restEnds
            (not_endsTag_renderAttribute (rightNames pair List.mem_cons_self) _)
  | cons pair left inductionHypothesis =>
      rw [List.forall_mem_cons] at leftNames
      rw [List.flatMap_cons, List.append_assoc] at same
      cases right with
      | nil =>
          rw [List.flatMap_nil, List.nil_append] at same
          subst same
          exact absurd othersEnd (not_endsTag_renderAttribute leftNames.1 _)
      | cons other right =>
          rw [List.forall_mem_cons] at rightNames
          rw [List.flatMap_cons, List.append_assoc] at same
          obtain ⟨rfl, following⟩ := renderAttribute_append_inj leftNames.1 rightNames.1 same
          obtain ⟨rfl, behind⟩ := inductionHypothesis leftNames.2 rightNames.2 following
          exact ⟨rfl, behind⟩

theorem stops_attributes (attributes : List (Text × Text)) {rest : Text} (ends : EndsTag rest) :
    Stops isPlain (attributes.flatMap renderAttribute ++ rest) := by
  cases attributes with
  | nil => exact ends.stops
  | cons pair attributes => exact stops_cons rfl

/-- A tag is read back from its written form. -/
theorem renderTag_append_inj {left right : Tag} {rest others : Text} (leftClean : left.isClean)
    (rightClean : right.isClean) (restEnds : EndsTag rest) (othersEnd : EndsTag others)
    (same : renderTag left ++ rest = renderTag right ++ others) : left = right ∧ rest = others := by
  obtain ⟨leftName, leftKeys⟩ := Bool.and_eq_true_iff.mp leftClean
  obtain ⟨rightName, rightKeys⟩ := Bool.and_eq_true_iff.mp rightClean
  simp only [renderTag, List.cons_append, List.append_assoc, List.cons.injEq, true_and] at same
  obtain ⟨names, behind⟩ := name_append_inj leftName rightName
    (stops_attributes left.attributes restEnds) (stops_attributes right.attributes othersEnd) same
  obtain ⟨attributes, behind⟩ := attributes_append_inj (List.all_eq_true.mp leftKeys)
    (List.all_eq_true.mp rightKeys) restEnds othersEnd behind
  refine ⟨?_, behind⟩
  cases left
  cases right
  exact congrArg₂ Tag.mk names attributes

namespace Node

/-! ## Clean forests -/

/-- A level whose parts can be told apart in writing: texts that are not empty, are well-escaped and
have an element between them, tags in names, and void elements without children. -/
structure CleanLevel (level : List Node) : Prop where
  apart : TextsApart level
  texts : ∀ content, .text content ∈ level → content ≠ [] ∧ WellEscaped content
  elements : ∀ tag children, .element tag children ∈ level →
    tag.isClean ∧ (isVoidElement tag.name → children = [])

/-- A forest whose levels are clean at every depth. -/
def Clean (nodes : List Node) : Prop := ∀ level ∈ levels nodes, CleanLevel level

theorem cleanLevel_nil : CleanLevel [] :=
  ⟨List.IsChain.nil, fun _ member => absurd member List.not_mem_nil,
    fun _ _ member => absurd member List.not_mem_nil⟩

theorem cleanLevel_cons_text {content : Text} {rest : List Node} :
    CleanLevel (.text content :: rest) ↔ (content ≠ [] ∧ WellEscaped content) ∧
      (∀ node ∈ rest.head?, node.isText = false) ∧ CleanLevel rest := by
  constructor
  · rintro ⟨apart, texts, elements⟩
    obtain ⟨first, restApart⟩ := textsApart_cons_text.mp apart
    exact ⟨texts content List.mem_cons_self, first, restApart,
      fun other member => texts other (List.mem_cons_of_mem _ member),
      fun tag children member => elements tag children (List.mem_cons_of_mem _ member)⟩
  · rintro ⟨here, first, apart, texts, elements⟩
    refine ⟨textsApart_cons_text.mpr ⟨first, apart⟩, ?_, ?_⟩
    · intro other member
      rcases List.mem_cons.mp member with same | member
      · exact Node.text.inj same ▸ here
      · exact texts other member
    · intro tag children member
      exact elements tag children ((List.mem_cons.mp member).resolve_left Node.noConfusion)

theorem cleanLevel_cons_element {tag : Tag} {children rest : List Node} :
    CleanLevel (.element tag children :: rest) ↔
      (tag.isClean ∧ (isVoidElement tag.name → children = [])) ∧ CleanLevel rest := by
  constructor
  · rintro ⟨apart, texts, elements⟩
    exact ⟨elements tag children List.mem_cons_self, textsApart_cons_element.mp apart,
      fun content member => texts content (List.mem_cons_of_mem _ member),
      fun tag children member => elements tag children (List.mem_cons_of_mem _ member)⟩
  · rintro ⟨here, apart, texts, elements⟩
    refine ⟨textsApart_cons_element.mpr apart, ?_, ?_⟩
    · intro content member
      exact texts content ((List.mem_cons.mp member).resolve_left Node.noConfusion)
    · intro other inner member
      rcases List.mem_cons.mp member with same | member
      · obtain ⟨rfl, rfl⟩ := Node.element.inj same
        exact here
      · exact elements other inner member

@[simp] theorem clean_nil : Clean [] := List.forall_mem_singleton.mpr cleanLevel_nil

theorem clean_iff {nodes : List Node} :
    Clean nodes ↔ CleanLevel nodes ∧ ∀ level ∈ levelsBelowAll nodes, CleanLevel level :=
  List.forall_mem_cons

@[simp] theorem clean_cons_text {content : Text} {rest : List Node} :
    Clean (.text content :: rest) ↔ (content ≠ [] ∧ WellEscaped content) ∧
      (∀ node ∈ rest.head?, node.isText = false) ∧ Clean rest := by
  have below : levelsBelowAll (.text content :: rest) = levelsBelowAll rest := rfl
  simp only [clean_iff, cleanLevel_cons_text, below, and_assoc]

@[simp] theorem clean_cons_element {tag : Tag} {children rest : List Node} :
    Clean (.element tag children :: rest) ↔
      (tag.isClean ∧ (isVoidElement tag.name → children = [])) ∧ Clean children ∧ Clean rest := by
  have below : levelsBelowAll (.element tag children :: rest) =
      levels children ++ levelsBelowAll rest := rfl
  rw [clean_iff, cleanLevel_cons_element, below, List.forall_mem_append, and_assoc,
    @clean_iff rest, and_left_comm (a := CleanLevel rest)]
  rfl

/-! ## Forests in writing -/

/-- What is behind the last node of a level: nothing, or the end tag of the element around it. -/
inductive EndsLevel : Text → Prop where
  | document : EndsLevel []
  | endTag (behind : Text) : EndsLevel ('<' :: '/' :: behind)

/-- An element in writing behind its tag, with what is behind the element. -/
def renderContent (tag : Tag) (children : List Node) (behind : Text) : Text :=
  if isVoidElement tag.name then ' ' :: '/' :: '>' :: behind
  else '>' :: (renderAll true children ++ '<' :: '/' :: (tag.name ++ '>' :: behind))

theorem endsTag_renderContent (tag : Tag) (children : List Node) (behind : Text) :
    EndsTag (renderContent tag children behind) := by
  unfold renderContent
  split
  · exact .slash _
  · exact .bracket _

theorem renderAll_element (tag : Tag) (children nodes : List Node) (rest : Text) :
    renderAll true (.element tag children :: nodes) ++ rest =
      renderTag tag ++ renderContent tag children (renderAll true nodes ++ rest) := by
  by_cases void : isVoidElement tag.name <;> simp [renderAll, render, renderContent, void]

theorem renderAll_text (content : Text) (nodes : List Node) (rest : Text) :
    renderAll true (.text content :: nodes) ++ rest =
      nameNbsp content ++ (renderAll true nodes ++ rest) := by
  simp [renderAll, render]

theorem EndsLevel.stops {rest : Text} (ends : EndsLevel rest) :
    Stops (fun c => c != '<') rest := by
  cases ends with
  | document => exact fun c member => absurd member (Option.not_mem_none c)
  | endTag => exact stops_cons rfl

theorem exists_cons_of_nameNbsp {content : Text} (nonempty : content ≠ [])
    (escaped : WellEscaped content) : ∃ c rest, nameNbsp content = c :: rest ∧ c ≠ '<' := by
  cases written : nameNbsp content with
  | nil =>
      have empty : content = [] := by
        rw [← replaceAll_nameNbsp escaped, written]
        rfl
      exact absurd empty nonempty
  | cons c rest =>
      exact ⟨c, rest, rfl, ne_less_of_mem_nameNbsp escaped (written ▸ List.mem_cons_self)⟩

/-- A level does not end where a node begins. -/
theorem renderAll_cons_ne {node : Node} {nodes : List Node} (clean : Clean (node :: nodes))
    {rest others : Text} (ends : EndsLevel others) :
    renderAll true (node :: nodes) ++ rest ≠ others := by
  rintro rfl
  cases node with
  | text content =>
      obtain ⟨⟨nonempty, escaped⟩, _, _⟩ := clean_cons_text.mp clean
      obtain ⟨c, behind, written, other⟩ := exists_cons_of_nameNbsp nonempty escaped
      rw [renderAll_text, written] at ends
      exact absurd (ends.stops c rfl) (by simpa using other)
  | element tag children =>
      obtain ⟨⟨tagClean, _⟩, _, _⟩ := clean_cons_element.mp clean
      obtain ⟨c, name, written, plain⟩ :=
        exists_cons_of_isName (Bool.and_eq_true_iff.mp tagClean).1
      rw [renderAll_element, renderTag, written] at ends
      cases ends
      exact absurd plain (by decide)

theorem stops_renderAll {nodes : List Node} (first : ∀ node ∈ nodes.head?, node.isText = false)
    {rest : Text} (ends : EndsLevel rest) :
    Stops (fun c => c != '<') (renderAll true nodes ++ rest) := by
  obtain rfl | ⟨tag, children, nodes, rfl⟩ := eq_nil_or_cons_element first
  · exact ends.stops
  · rw [renderAll_element]
    exact stops_cons rfl

theorem renderAll_text_ne_element {content : Text} {left right children : List Node} {tag : Tag}
    {rest others : Text} (clean : Clean (.text content :: left)) :
    renderAll true (.text content :: left) ++ rest ≠
      renderAll true (.element tag children :: right) ++ others := by
  obtain ⟨⟨nonempty, escaped⟩, _, _⟩ := clean_cons_text.mp clean
  obtain ⟨c, behind, written, other⟩ := exists_cons_of_nameNbsp nonempty escaped
  rw [renderAll_text, renderAll_element, written]
  intro same
  exact other (List.cons.inj same).1

/-- A clean forest is read back from its written form up to the end of its level. -/
theorem renderAll_append_inj {left right : List Node} {rest others : Text}
    (leftClean : Clean left) (rightClean : Clean right) (restEnds : EndsLevel rest)
    (othersEnd : EndsLevel others)
    (same : renderAll true left ++ rest = renderAll true right ++ others) :
    left = right ∧ rest = others := by
  induction left using forest_induction generalizing right rest others with
  | nil =>
      cases right with
      | nil => exact ⟨rfl, same⟩
      | cons node right =>
          exact absurd same.symm (renderAll_cons_ne rightClean restEnds)
  | text content left inductionHypothesis =>
      match right with
      | [] => exact absurd same (renderAll_cons_ne leftClean othersEnd)
      | .element tag children :: right => exact absurd same (renderAll_text_ne_element leftClean)
      | .text otherContent :: right =>
          obtain ⟨⟨_, escaped⟩, first, behind⟩ := clean_cons_text.mp leftClean
          obtain ⟨⟨_, otherEscaped⟩, otherFirst, otherBehind⟩ := clean_cons_text.mp rightClean
          rw [renderAll_text, renderAll_text] at same
          obtain ⟨rfl, following⟩ := nameNbsp_append_inj escaped otherEscaped
            (stops_renderAll first restEnds) (stops_renderAll otherFirst othersEnd) same
          obtain ⟨rfl, rests⟩ := inductionHypothesis behind otherBehind restEnds othersEnd following
          exact ⟨rfl, rests⟩
  | element tag children left childrenHypothesis restHypothesis =>
      match right with
      | [] => exact absurd same (renderAll_cons_ne leftClean othersEnd)
      | .text content :: right => exact absurd same.symm (renderAll_text_ne_element rightClean)
      | .element otherTag otherChildren :: right =>
          obtain ⟨⟨tagClean, alone⟩, inside, behind⟩ := clean_cons_element.mp leftClean
          obtain ⟨⟨otherTagClean, otherAlone⟩, otherInside, otherBehind⟩ :=
            clean_cons_element.mp rightClean
          rw [renderAll_element, renderAll_element] at same
          obtain ⟨rfl, contents⟩ := renderTag_append_inj tagClean otherTagClean
            (endsTag_renderContent _ _ _) (endsTag_renderContent _ _ _) same
          -- a void element has nothing between its tag and what follows; any other one has its
          -- children there, up to its end tag
          have parts : children = otherChildren ∧
              renderAll true left ++ rest = renderAll true right ++ others := by
            unfold renderContent at contents
            by_cases void : isVoidElement tag.name
            · rw [if_pos void, if_pos void] at contents
              rw [alone void, otherAlone void]
              exact ⟨rfl, by simpa using contents⟩
            · rw [if_neg void, if_neg void] at contents
              obtain ⟨inner, ends⟩ := childrenHypothesis inside otherInside (.endTag _) (.endTag _)
                (List.cons.inj contents).2
              exact ⟨inner, by simpa using ends⟩
          obtain ⟨rfl, following⟩ := parts
          obtain ⟨rfl, rests⟩ := restHypothesis behind otherBehind restEnds othersEnd following
          exact ⟨rfl, rests⟩

/-- Writing loses nothing of a clean forest: no text and no attribute value can be taken for markup,
and no forest for another one. -/
theorem eq_of_renderAll_eq {left right : List Node} (leftClean : Clean left)
    (rightClean : Clean right) (same : renderAll true left = renderAll true right) :
    left = right := by
  have ended : renderAll true left ++ [] = renderAll true right ++ [] := by rw [same]
  exact (renderAll_append_inj leftClean rightClean .document .document ended).1

/-- Markup in an attribute value and in a text. -/
def quoting : List Node :=
  [.element ⟨"q", [("cite", "\"/>")]⟩ [.element ⟨"br", []⟩ [], .text "&lt;/q&gt;"]]

theorem eq_of_renderAll_eq_quoting :
    Clean quoting ∧ Clean (Policy.collapseRoot (quoting ++ [.text " "])) ∧
      renderAll true quoting = "<q cite=\"&quot;/&gt;\"><br />&lt;/q&gt;</q>" ∧
      renderAll true (Policy.collapseRoot (quoting ++ [.text " "])) = renderAll true quoting ∧
      Policy.collapseRoot (quoting ++ [.text " "]) = quoting := by
  have clean : Clean quoting := by
    have escaped : WellEscaped "&lt;/q&gt;" := WellEscaped.escapeText "</q>"
    have inside : Clean [.element ⟨"br", []⟩ [], .text "&lt;/q&gt;"] := by
      refine clean_cons_element.mpr ⟨⟨by decide, fun _ => rfl⟩, clean_nil, ?_⟩
      exact clean_cons_text.mpr ⟨⟨by decide, escaped⟩, by simp, clean_nil⟩
    exact clean_cons_element.mpr ⟨⟨by decide, by decide⟩, inside, clean_nil⟩
  have kept : Clean (Policy.collapseRoot (quoting ++ [.text " "])) := clean
  exact ⟨clean, kept, rfl, rfl, eq_of_renderAll_eq kept clean rfl⟩

end Node

end SafeMarkup
