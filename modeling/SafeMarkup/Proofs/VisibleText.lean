import SafeMarkup.Proofs.Collapse
import SafeMarkup.Proofs.EscapedText

/-!
Contract: the text of a forest that shows, through the passes of the sanitizer.

Owns: the characters of a forest that show; and that no pass over the tree loses one, doubles one or
moves one, where all texts are well-escaped.

Does not own: texts that clearing drops together with an element.
-/

namespace SafeMarkup

/-! ## Texts -/

theorem ink_filter_ne_null (raw : Text) : ink (raw.filter fun c => c != '\x00') = ink raw := by
  unfold ink
  rw [List.filter_filter]
  refine List.filter_congr fun c _ => ?_
  by_cases null : c = '\x00'
  · subst null
    rfl
  · simp [null]

theorem ink_normalizeSpaces (raw : Text) : ink (normalizeSpaces raw) = ink raw := by
  unfold normalizeSpaces collapseSpaces Text.squeeze
  rw [ink_collapseSpacesFrom .zero trivial, ink_squeezeFrom, ink_filter_ne_null]

theorem WellEscaped.ink_normalize {text : Text} (escaped : WellEscaped text) :
    ink (unescapeText (SafeMarkup.normalize text)) = ink (unescapeText text) := by
  obtain ⟨raw, rfl⟩ := wellEscaped_iff.mp escaped
  rw [normalize_escapeText, unescapeText_escapeText, unescapeText_escapeText, ink_normalizeSpaces]

theorem ink_of_isBlankText {text : Text} (blank : Policy.isBlankText text) :
    ink (unescapeText text) = [] := by
  simp only [Policy.isBlankText, Bool.or_eq_true, decide_eq_true_eq] at blank
  rcases blank with (rfl | rfl) | rfl
  · rfl
  · rfl
  · rfl

/-- A well-escaped text that is blank in its normal form shows nothing. -/
theorem WellEscaped.ink_eq_nil {text : Text} (escaped : WellEscaped text)
    (blank : Policy.isBlankText (SafeMarkup.normalize text)) : ink (unescapeText text) = [] := by
  rw [← escaped.ink_normalize]
  exact ink_of_isBlankText blank

namespace Node

/-! ## Forests -/

/-- The characters of a forest that show, in their order. -/
def inkAll (nodes : List Node) : Text := ink (plainTextAll nodes)

@[simp] theorem inkAll_nil : inkAll [] = [] := rfl

@[simp] theorem inkAll_cons_text (content : Text) (rest : List Node) :
    inkAll (.text content :: rest) = ink (unescapeText content) ++ inkAll rest :=
  ink_append _ _

@[simp] theorem inkAll_cons_element (tag : Tag) (children rest : List Node) :
    inkAll (.element tag children :: rest) = inkAll children ++ inkAll rest :=
  ink_append _ _

theorem plainTextAll_append (left right : List Node) :
    plainTextAll (left ++ right) = plainTextAll left ++ plainTextAll right := by
  induction left with
  | nil => rfl
  | cons node nodes inductionHypothesis =>
      rw [List.cons_append, plainTextAll, plainTextAll, inductionHypothesis, List.append_assoc]

theorem inkAll_append (left right : List Node) :
    inkAll (left ++ right) = inkAll left ++ inkAll right := by
  rw [inkAll, plainTextAll_append, ink_append]
  rfl

@[simp] theorem allEscaped_cons_text {content : Text} {rest : List Node} :
    AllEscaped (.text content :: rest) ↔ WellEscaped content ∧ AllEscaped rest := by
  simp [AllEscaped, textsAll, texts]

@[simp] theorem allEscaped_cons_element {tag : Tag} {children rest : List Node} :
    AllEscaped (.element tag children :: rest) ↔ AllEscaped children ∧ AllEscaped rest := by
  simp [AllEscaped, textsAll, texts, or_imp, forall_and]

/-- Without elements the written form of a forest is a single text with its plain text. -/
theorem plainTextAll_of_outlineAll {nodes : List Node} (onlyTexts : outlineAll nodes = [])
    (escaped : AllEscaped nodes) :
    WellEscaped (renderAll false nodes) ∧
      plainTextAll nodes = unescapeText (renderAll false nodes) := by
  induction nodes with
  | nil => exact ⟨.nil, rfl⟩
  | cons node rest inductionHypothesis =>
      cases node with
      | element tag children => exact absurd onlyTexts (by simp)
      | text content =>
          obtain ⟨here, behind⟩ := allEscaped_cons_text.mp escaped
          obtain ⟨restEscaped, restPlain⟩ := inductionHypothesis onlyTexts behind
          have written : renderAll false (.text content :: rest) =
              content ++ renderAll false rest := rfl
          rw [written, here.unescapeText_append, ← restPlain]
          exact ⟨here.append restEscaped, rfl⟩

/-- A forest and what is left of it when some elements are dropped and tags and spaces change. -/
inductive Cleared : List Node → List Node → Prop where
  | nil : Cleared [] []
  | text {raw content : Text} {rest left : List Node} (shows : ink (unescapeText content) = ink raw)
      (behind : Cleared rest left) : Cleared (.text raw :: rest) (.text content :: left)
  | kept {children inner rest left : List Node} (tag leftTag : Tag) (below : Cleared children inner)
      (behind : Cleared rest left) :
      Cleared (.element tag children :: rest) (.element leftTag inner :: left)
  | dropped {rest left : List Node} (tag : Tag) (children : List Node)
      (behind : Cleared rest left) : Cleared (.element tag children :: rest) left

end Node

namespace Policy

open Node

variable (policy : Policy)

/-! ## Collapsing -/

theorem inkAll_joinFrom (before : Option Text) {level : List Node}
    (first : ∀ text ∈ before, WellEscaped text) (escaped : AllEscaped level) :
    inkAll (joinFrom before level).1 = inkAll (waiting before) ++ inkAll level := by
  induction level generalizing before with
  | nil => rw [joinFrom_nil, inkAll_nil, List.append_nil]
  | cons node rest inductionHypothesis =>
      cases node with
      | text content =>
          obtain ⟨here, behind⟩ := allEscaped_cons_text.mp escaped
          cases before with
          | none =>
              have joined := inductionHypothesis (some content) (by simpa using here) behind
              simpa [joinFrom] using joined
          | some text =>
              have both := (first text rfl).append here
              have joined := inductionHypothesis (some (normalize (text ++ content)))
                (by simpa using both.normalize) behind
              simpa [joinFrom, both.ink_normalize, (first text rfl).unescapeText_append]
                using joined
      | element tag children =>
          have behind := inductionHypothesis none (by simp) (allEscaped_cons_element.mp escaped).2
          rw [joinFrom_cons_element, inkAll_append, inkAll_cons_element, inkAll_cons_element,
            behind]
          rfl

theorem inkAll_join {level : List Node} (escaped : AllEscaped level) :
    inkAll (join level).1 = inkAll level :=
  inkAll_joinFrom none (by simp) escaped

theorem inkAll_of_collapsed? {tag : Tag} {children : List Node} {text : Text}
    (escaped : AllEscaped children) (collapsed : policy.collapsed? tag children = some text) :
    inkAll children = [] := by
  obtain ⟨writtenEscaped, plain⟩ :=
    plainTextAll_of_outlineAll (outlineAll_of_collapsed? collapsed) escaped
  have blank := isBlankText_of_collapsed? collapsed
  rw [← normalize_of_collapsed? collapsed] at blank
  rw [inkAll, plain]
  exact writtenEscaped.ink_eq_nil blank

/-- What an element comes to shows what it shows. -/
theorem inkAll_remnant (tag : Tag) {children : List Node} (escaped : AllEscaped children) :
    inkAll (policy.remnant tag children) = inkAll children := by
  cases collapsed : policy.collapsed? tag children with
  | none => rw [remnant_of_none collapsed, inkAll_cons_element, inkAll_nil, List.append_nil]
  | some text =>
      rw [remnant_of_some collapsed, policy.inkAll_of_collapsed? escaped collapsed]
      split
      · rfl
      · rw [inkAll_cons_text, ink_of_isBlankText (isBlankText_of_collapsed? collapsed)]
        rfl

theorem every_settle {onTag : Tag → Prop} {onText : Text → Prop} (invariant : TextInvariant onText)
    {nodes : List Node} (every : Every onTag onText nodes) :
    Every onTag onText (policy.settle nodes) ∧ Every onTag onText (policy.settleEach nodes) := by
  have keeps : ∀ nodes, Every onTag onText nodes → Every onTag onText (policy.settle nodes) := by
    intro nodes every
    rw [← collapse_eq_settle]
    exact policy.every_collapse invariant every
  refine ⟨keeps nodes every, ?_⟩
  rw [← collapseRound_settle]
  exact policy.every_collapseRound invariant keeps nodes every

theorem allEscaped_settle {nodes : List Node} (escaped : AllEscaped nodes) :
    AllEscaped (policy.settle nodes) ∧ AllEscaped (policy.settleEach nodes) := by
  have every : Every (fun _ => True) WellEscaped nodes := ⟨fun _ _ => trivial, escaped⟩
  obtain ⟨settled, each⟩ := policy.every_settle textInvariant_wellEscaped every
  exact ⟨settled.2, each.2⟩

theorem inkAll_settleEach {nodes : List Node} (escaped : AllEscaped nodes) :
    inkAll (policy.settleEach nodes) = inkAll nodes := by
  induction nodes using forest_induction with
  | nil => rfl
  | text content rest inductionHypothesis =>
      rw [settleEach_cons_text, inkAll_cons_text, inkAll_cons_text,
        inductionHypothesis (allEscaped_cons_text.mp escaped).2]
  | element tag children rest childrenHypothesis restHypothesis =>
      obtain ⟨below, behind⟩ := allEscaped_cons_element.mp escaped
      obtain ⟨settled, each⟩ := policy.allEscaped_settle below
      rw [settleEach_cons_element, inkAll_append, policy.inkAll_remnant tag settled, settle,
        inkAll_join each, childrenHypothesis below, restHypothesis behind, inkAll_cons_element]

theorem inkAll_collapse {nodes : List Node} (escaped : AllEscaped nodes) :
    inkAll (policy.collapse nodes) = inkAll nodes := by
  rw [collapse_eq_settle, settle, inkAll_join (policy.allEscaped_settle escaped).2,
    policy.inkAll_settleEach escaped]

/-! ## The top level -/

theorem inkAll_collapseRoot {nodes : List Node} (escaped : AllEscaped nodes) :
    inkAll (collapseRoot nodes) = inkAll nodes := by
  induction nodes with
  | nil => rfl
  | cons node rest inductionHypothesis =>
      cases node with
      | text content =>
          obtain ⟨here, behind⟩ := allEscaped_cons_text.mp escaped
          rw [collapseRoot_cons_text, inkAll_cons_text]
          split
          case isTrue blank =>
            rw [inductionHypothesis behind, here.ink_eq_nil blank, List.nil_append]
          case isFalse => rw [inkAll_cons_text, inductionHypothesis behind]
      | element tag children =>
          rw [collapseRoot_cons_element, inkAll_cons_element, inkAll_cons_element,
            inductionHypothesis (allEscaped_cons_element.mp escaped).2]

/-- Wrapping keeps all text, whether it shows or not. -/
theorem plainTextAll_wrap (nodes : List Node) :
    plainTextAll (policy.wrap nodes) = plainTextAll nodes := by
  have cut := policy.nodes_pieces nodes
  rw [wrap_eq_map_node]
  generalize policy.pieces nodes = pieces at cut ⊢
  subst cut
  induction pieces with
  | nil => rfl
  | cons piece rest inductionHypothesis =>
      rw [List.map_cons, plainTextAll, inductionHypothesis, List.flatMap_cons,
        plainTextAll_append]
      cases piece with
      | single node =>
          change plainText node ++ _ = (plainText node ++ []) ++ _
          rw [List.append_nil]
      | run run => rfl

/-! ## Clearing -/

/-- Clearing leaves texts in their places and with what they show, except for those in an element
that it drops. -/
theorem cleared_clear (site : Site) (nodes : List Node) :
    Cleared nodes (policy.clear site nodes).value := by
  induction nodes using forest_induction with
  | nil => exact .nil
  | text content rest inductionHypothesis =>
      rw [value_clear_cons_text]
      refine .text ?_ inductionHypothesis
      rw [unescapeText_escapeText]
      exact ink_collapseSpacesFrom .zero trivial content
  | element tag children rest childrenHypothesis restHypothesis =>
      rw [value_clear_cons_element]
      split
      · exact .kept tag _ childrenHypothesis restHypothesis
      · exact .dropped tag children restHypothesis

end Policy

/-- The passes of the sanitizer lose, double and move nothing that shows. Collapsing, dropping blank
texts at the top and wrapping keep the visible text of every forest whose texts are well-escaped.
Clearing drops whole elements; each text that it leaves stands where it stood, and shows what the
raw text showed. -/
theorem passes_keep_ink (policy : Policy) (site : Site) :
    (∀ nodes, Node.AllEscaped nodes →
        Node.inkAll (policy.collapse nodes) = Node.inkAll nodes ∧
          Node.inkAll (Policy.collapseRoot nodes) = Node.inkAll nodes ∧
            Node.inkAll (policy.wrap nodes) = Node.inkAll nodes) ∧
      ∀ nodes, Node.Cleared nodes (policy.clear site nodes).value := by
  refine ⟨fun nodes escaped => ?_, policy.cleared_clear site⟩
  refine ⟨policy.inkAll_collapse escaped, Policy.inkAll_collapseRoot escaped, ?_⟩
  rw [Node.inkAll, policy.plainTextAll_wrap]
  rfl

/-- Two texts that make an entity of an entity once the empty element between them is gone. -/
def parted : List Node :=
  [.text "&amp;", .element ⟨"b", []⟩ [.element ⟨"i", []⟩ []], .text "lt; ",
    .element ⟨"u", []⟩ [.text [Text.nbsp]]]

theorem passes_keep_ink_parted :
    Node.AllEscaped parted ∧
      PolicySpec.empty.compiled.collapse parted = [.text ("&amp;lt;" ++ [Text.nbsp])] ∧
      Node.inkAll (PolicySpec.empty.compiled.collapse parted) = "&lt;" ∧
      Node.inkAll (PolicySpec.empty.compiled.collapse parted) = Node.inkAll parted := by
  have escaped : Node.AllEscaped parted := by
    have first : WellEscaped "&amp;" := WellEscaped.escapeText "&"
    have second : WellEscaped "lt; " := WellEscaped.escapeText "lt; "
    simpa [parted, Node.AllEscaped, Node.textsAll, Node.texts] using
      ⟨first, second, wellEscaped_singleton_nbsp⟩
  have kept := (passes_keep_ink PolicySpec.empty.compiled (.fixed "example.org")).1 parted escaped
  exact ⟨escaped, rfl, rfl, kept.1⟩

end SafeMarkup
