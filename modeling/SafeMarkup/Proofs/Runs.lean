import SafeMarkup.Proofs.EscapedText
import SafeMarkup.Proofs.Join
import Mathlib.Data.List.SplitBy

/-!
Contract: what neighbouring texts become when they are joined one after the other.

Owns: normalizing spaces as one pass that has at most one character to write at any time, so that it
can stop anywhere and go on from what it has written; and joining a level as one step for each run
of neighbouring texts.

Does not own: numeric references, which escaped text has none of.
-/

namespace SafeMarkup

/-! ## Spaces in one pass -/

/-- The text from a place with a run of control characters and spaces before it, for which one
character is to be written: a space, or a no-break space if there was one of these in the run. -/
def spaceRunsFrom : Option Char → Text → Text
  | run, [] => run.toList
  | run, c :: rest =>
    if c = '\x00' then spaceRunsFrom run rest
    else if isInk c then run.toList ++ c :: spaceRunsFrom none rest
    else spaceRunsFrom (some (if c = Text.nbsp then c else run.getD ' ')) rest

/-- What squeezing and collapsing have seen and written of a run. Behind several spaces the
character of the run is written already. -/
inductive SeenRun : (run : Option Char) → Spacing → (inRun : Bool) → (written : Text) → Prop where
  | start : SeenRun none .zero false []
  | space : SeenRun (some ' ') (.one ' ') true []
  | nbsp : SeenRun (some Text.nbsp) (.one Text.nbsp) false []
  | several (inRun : Bool) : SeenRun (some Text.nbsp) .several inRun [Text.nbsp]

theorem SeenRun.written_append_pending {run : Option Char} {before : Spacing} {inRun : Bool}
    {written : Text} (seen : SeenRun run before inRun written) :
    written ++ before.pending = run.toList := by
  cases seen <;> rfl

theorem isControlOrSpace_of_hidden {c : Char} (notNull : c ≠ '\x00') (hidden : ¬isInk c)
    (notNbsp : c ≠ Text.nbsp) : isControlOrSpace c := by
  simpa [isInk, isControlOrSpace, notNull, notNbsp] using hidden

/-- Squeezing and then collapsing comes to the same as one pass. -/
theorem collapse_squeeze_eq {run : Option Char} {before : Spacing} {inRun : Bool} {written : Text}
    (seen : SeenRun run before inRun written) (text : Text) :
    written ++ collapseSpacesFrom before (Text.squeezeFrom isControlOrSpace ' ' inRun
      (text.filter fun c => c != '\x00')) = spaceRunsFrom run text := by
  induction text generalizing run before inRun written with
  | nil => cases seen <;> rfl
  | cons c rest inductionHypothesis =>
      rw [spaceRunsFrom]
      split_ifs with null shows nbsp
      · rw [List.filter_cons_of_neg (by simp [null])]
        exact inductionHypothesis seen
      · have plain : ¬isControlOrSpace c := by simp [not_isControlOrSpace_of_isInk shows]
        rw [List.filter_cons_of_pos (by simp [null]), Text.squeezeFrom, if_neg plain,
          collapseSpacesFrom_cons_of_not_isSpacing before _ (not_isSpacing_of_isInk shows),
          ← List.append_assoc, seen.written_append_pending]
        exact congrArg (run.toList ++ c :: ·) (inductionHypothesis .start)
      · subst nbsp
        have plain : ¬isControlOrSpace Text.nbsp := by decide
        have spacing : isSpacing Text.nbsp := by decide
        rw [List.filter_cons_of_pos (by simp [null]), Text.squeezeFrom, if_neg plain]
        cases seen with
        | start =>
            rw [collapseSpacesFrom, if_pos spacing]
            exact inductionHypothesis .nbsp
        | space =>
            rw [collapseSpacesFrom, if_pos spacing]
            exact inductionHypothesis (.several false)
        | nbsp =>
            rw [collapseSpacesFrom, if_pos spacing]
            exact inductionHypothesis (.several false)
        | several =>
            rw [collapseSpacesFrom, if_pos spacing]
            exact inductionHypothesis (.several false)
      · have spacing : isSpacing ' ' := by decide
        rw [List.filter_cons_of_pos (by simp [null]), Text.squeezeFrom,
          if_pos (isControlOrSpace_of_hidden null shows nbsp)]
        cases seen with
        | start =>
            rw [if_neg Bool.false_ne_true, collapseSpacesFrom, if_pos spacing]
            exact inductionHypothesis .space
        | space =>
            rw [if_pos rfl]
            exact inductionHypothesis .space
        | nbsp =>
            rw [if_neg Bool.false_ne_true, collapseSpacesFrom, if_pos spacing]
            exact inductionHypothesis (.several true)
        | several inRun =>
            cases inRun with
            | true =>
                rw [if_pos rfl]
                exact inductionHypothesis (.several true)
            | false =>
                rw [if_neg Bool.false_ne_true, collapseSpacesFrom, if_pos spacing]
                exact inductionHypothesis (.several true)

theorem normalizeSpaces_eq (text : Text) : normalizeSpaces text = spaceRunsFrom none text :=
  collapse_squeeze_eq .start text

/-- The pass goes on from what it has written of a run as it would from the run. -/
theorem spaceRunsFrom_toList_append {run : Option Char}
    (mark : ∀ c ∈ run, c = ' ' ∨ c = Text.nbsp) (text : Text) :
    spaceRunsFrom none (run.toList ++ text) = spaceRunsFrom run text := by
  cases run with
  | none => rfl
  | some c =>
      rcases mark c rfl with rfl | rfl
      · rfl
      · rfl

/-- What the pass has written stands for what it has read. -/
theorem spaceRunsFrom_append {run : Option Char} (mark : ∀ c ∈ run, c = ' ' ∨ c = Text.nbsp)
    (front rest : Text) :
    spaceRunsFrom none (spaceRunsFrom run front ++ rest) = spaceRunsFrom run (front ++ rest) := by
  induction front generalizing run with
  | nil => exact spaceRunsFrom_toList_append mark rest
  | cons c front inductionHypothesis =>
      rw [List.cons_append, spaceRunsFrom, spaceRunsFrom]
      split_ifs with null shows nbsp
      · exact inductionHypothesis mark
      · rw [List.append_assoc, spaceRunsFrom_toList_append mark, List.cons_append, spaceRunsFrom,
          if_neg null, if_pos shows, inductionHypothesis (by simp)]
      · exact inductionHypothesis (by simp [nbsp])
      · refine inductionHypothesis ?_
        cases run with
        | none => simp
        | some d => simpa using mark d rfl

/-! ## Texts one after the other -/

/-- Normalizing a text that is normalized in front comes to the same as normalizing all of it. -/
theorem normalize_append {first second : Text} (firstEscaped : WellEscaped first)
    (secondEscaped : WellEscaped second) :
    normalize (normalize first ++ second) = normalize (first ++ second) := by
  obtain ⟨raw, rfl⟩ := wellEscaped_iff.mp firstEscaped
  obtain ⟨further, rfl⟩ := wellEscaped_iff.mp secondEscaped
  rw [normalize_escapeText, ← escapeText_append, ← escapeText_append, normalize_escapeText,
    normalize_escapeText, normalizeSpaces_eq, normalizeSpaces_eq, normalizeSpaces_eq,
    spaceRunsFrom_append (by simp)]

theorem normalize_normalize {text : Text} (escaped : WellEscaped text) :
    normalize (normalize text) = normalize text := by
  have again := normalize_append escaped .nil
  rwa [List.append_nil, List.append_nil] at again

/-- Texts as what they are joined to one after the other, if there are any. -/
def gathered : List Text → Option Text
  | [] => none
  | [text] => some text
  | texts => some (normalize texts.flatten)

theorem wellEscaped_flatten {texts : List Text} (escaped : ∀ text ∈ texts, WellEscaped text) :
    WellEscaped texts.flatten := by
  induction texts with
  | nil => exact .nil
  | cons text texts inductionHypothesis =>
      obtain ⟨here, behind⟩ := List.forall_mem_cons.mp escaped
      exact here.append (inductionHypothesis behind)

/-- Joining one more text to some comes to the same as joining all of them at once. -/
theorem gathered_concat {texts : List Text} (nonempty : texts ≠ [])
    (escaped : ∀ text ∈ texts, WellEscaped text) {last : Text} (lastEscaped : WellEscaped last) :
    ∃ front, gathered texts = some front ∧
      gathered (texts ++ [last]) = some (normalize (front ++ last)) := by
  match texts, nonempty with
  | [only], _ => exact ⟨only, rfl, by simp [gathered]⟩
  | first :: second :: others, _ =>
      refine ⟨normalize (first :: second :: others).flatten, rfl, ?_⟩
      rw [normalize_append (wellEscaped_flatten escaped) lastEscaped]
      simp [gathered]

namespace Policy

open Node

/-! ## Runs of texts -/

/-- Whether two nodes are both texts. -/
def bothTexts (left right : Node) : Bool := left.isText && right.isText

/-- A level, divided into the longest runs of neighbouring texts and its elements. -/
def runs (nodes : List Node) : List (List Node) := nodes.splitBy bothTexts

/-- The text that a node is, or nothing. -/
def content : Node → Text
  | .text content => content
  | .element .. => []

/-- A node by itself as it is, and a run of several as one text. -/
def joinedRun : List Node → List Node
  | [node] => [node]
  | run => [.text (normalize (run.flatMap content))]

theorem runs_texts {texts : List Text} (nonempty : texts ≠ []) :
    runs (texts.map .text) = [texts.map .text] := by
  refine List.splitBy_of_isChain (by simpa using nonempty) ?_
  refine List.Pairwise.isChain (List.pairwise_map.mpr ?_)
  exact List.pairwise_of_forall fun _ _ => rfl

theorem runs_texts_append_element (texts : List Text) (tag : Tag) (children rest : List Node) :
    runs (texts.map .text ++ .element tag children :: rest) =
      runs (texts.map .text) ++ [.element tag children] :: runs rest := by
  have single : runs [.element tag children] = [[.element tag children]] := rfl
  have behind : runs (.element tag children :: rest) = [.element tag children] :: runs rest := by
    have apart := List.splitBy_append (r := bothTexts) (l := [.element tag children]) (m := rest)
      (by simp [bothTexts, isText])
    exact apart
  rw [← behind]
  exact List.splitBy_append_cons rest (by simp [bothTexts, isText])

theorem joinedRun_texts {texts : List Text} (nonempty : texts ≠ []) :
    joinedRun (texts.map .text) = waiting (gathered texts) := by
  have contents (texts : List Text) : (texts.map Node.text).flatMap content = texts.flatten := by
    rw [List.flatMap_map]
    exact List.flatMap_id
  match texts, nonempty with
  | [_], _ => rfl
  | first :: second :: others, _ =>
      exact congrArg (fun whole => [Node.text (normalize whole)])
        (contents (first :: second :: others))

theorem flatMap_joinedRun_texts (texts : List Text) :
    (runs (texts.map .text)).flatMap joinedRun = waiting (gathered texts) := by
  by_cases none : texts = []
  · rw [none]
    rfl
  · rw [runs_texts none, List.flatMap_singleton, joinedRun_texts none]

theorem any_runs_texts (texts : List Text) :
    (runs (texts.map .text)).any (fun run => 2 ≤ run.length) = decide (2 ≤ texts.length) := by
  by_cases none : texts = []
  · rw [none]
    rfl
  · simp [runs_texts none]

/-- Joining with some texts gathered so far makes one step for each run, of which the first begins
with those texts. -/
theorem joinFrom_gathered {texts : List Text} {level : List Node}
    (gatheredEscaped : ∀ text ∈ texts, WellEscaped text)
    (levelEscaped : ∀ text, .text text ∈ level → WellEscaped text) :
    (joinFrom (gathered texts) level).1 =
        (runs (texts.map .text ++ level)).flatMap joinedRun ∧
      (decide (2 ≤ texts.length) || (joinFrom (gathered texts) level).2) =
        (runs (texts.map .text ++ level)).any fun run => 2 ≤ run.length := by
  induction level generalizing texts with
  | nil =>
      rw [joinFrom_nil, List.append_nil, flatMap_joinedRun_texts, any_runs_texts]
      exact ⟨rfl, Bool.or_false _⟩
  | cons node rest inductionHypothesis =>
      have restEscaped : ∀ text, .text text ∈ rest → WellEscaped text :=
        fun text member => levelEscaped text (List.mem_cons_of_mem _ member)
      cases node with
      | text last =>
          have lastEscaped : WellEscaped last := levelEscaped last List.mem_cons_self
          have moreEscaped : ∀ text ∈ texts ++ [last], WellEscaped text :=
            List.forall_mem_append.mpr ⟨gatheredEscaped, by simpa using lastEscaped⟩
          have onward := inductionHypothesis moreEscaped restEscaped
          rw [List.map_append, List.append_assoc] at onward
          by_cases none : texts = []
          · subst none
            exact onward
          · obtain ⟨front, before, after⟩ := gathered_concat none gatheredEscaped lastEscaped
            have several : 2 ≤ (texts ++ [last]).length := by
              have positive := List.length_pos_iff.mpr none
              simp only [List.length_append, List.length_singleton]
              omega
            rw [after, decide_eq_true several, Bool.true_or] at onward
            rw [before]
            refine ⟨onward.1, ?_⟩
            rw [joinFrom, Bool.or_true]
            exact onward.2
      | element tag children =>
          obtain ⟨behind, joined⟩ := inductionHypothesis (List.forall_mem_nil _) restEscaped
          rw [joinFrom_cons_element, runs_texts_append_element, List.flatMap_append,
            List.flatMap_cons, flatMap_joinedRun_texts, List.any_append, List.any_cons,
            any_runs_texts]
          exact ⟨congrArg (waiting (gathered texts) ++ .element tag children :: ·) behind,
            congrArg (decide (2 ≤ texts.length) || ·) joined⟩

theorem exists_texts_of_isChain {first : Node} {rest : List Node} (isText : first.isText)
    (chain : (first :: rest).IsChain fun left right => bothTexts left right) :
    ∃ texts : List Text, first :: rest = texts.map .text := by
  induction rest generalizing first with
  | nil =>
      cases first with
      | text content => exact ⟨[content], rfl⟩
      | element => exact absurd isText nofun
  | cons next rest inductionHypothesis =>
      obtain ⟨both, others⟩ := List.isChain_cons_cons.mp chain
      obtain ⟨texts, same⟩ := inductionHypothesis (Bool.and_eq_true_iff.mp both).2 others
      cases first with
      | text content => exact ⟨content :: texts, congrArg (Node.text content :: ·) same⟩
      | element => exact absurd isText nofun

/-- A run is one element, or some texts. -/
theorem element_or_texts_of_mem_runs {run nodes : List Node} (member : run ∈ runs nodes) :
    (∃ tag children, run = [.element tag children]) ∨
      ∃ texts : List Text, texts ≠ [] ∧ run = texts.map .text := by
  have chain := List.isChain_of_mem_splitBy member
  obtain ⟨first, rest, rfl⟩ := List.exists_cons_of_ne_nil (List.ne_nil_of_mem_splitBy member)
  cases first with
  | text content =>
      have isText : (Node.text content).isText := rfl
      obtain ⟨texts, same⟩ := exists_texts_of_isChain isText chain
      refine .inr ⟨texts, ?_, same⟩
      rintro rfl
      exact absurd same (List.cons_ne_nil _ _)
  | element tag children =>
      cases rest with
      | nil => exact .inl ⟨tag, children, rfl⟩
      | cons next rest => exact absurd (List.isChain_cons_cons.mp chain).1 nofun

/-- Joining well-escaped texts does not depend on how they were split. A text that was normalized in
front is normalized as if it had not been, and a second time changes nothing. A level is joined run
by run: its elements stay as they are and where they are, a text between elements stays as it is,
and the longest runs of several texts become one text each, their whole normalized at once. Whether
anything was joined tells whether there was such a run. -/
theorem join_runs :
    (∀ first second, WellEscaped first → WellEscaped second →
      normalize (normalize first ++ second) = normalize (first ++ second)) ∧
    (∀ text, WellEscaped text → normalize (normalize text) = normalize text) ∧
    ∀ nodes, (∀ text, .text text ∈ nodes → WellEscaped text) →
      (runs nodes).flatten = nodes ∧
      (∀ run ∈ runs nodes, (∃ tag children, run = [.element tag children]) ∨
        ∃ texts : List Text, texts ≠ [] ∧ run = texts.map .text) ∧
      ((runs nodes).IsChain fun left right =>
        ∃ some other, bothTexts (left.getLast some) (right.head other) = false) ∧
      (join nodes).1 = (runs nodes).flatMap joinedRun ∧
      ((join nodes).2 = true ↔ ∃ run ∈ runs nodes, 2 ≤ run.length) := by
  refine ⟨fun _ _ => normalize_append, fun _ => normalize_normalize, ?_⟩
  intro nodes escaped
  obtain ⟨joined, told⟩ := joinFrom_gathered (List.forall_mem_nil _) escaped
  have flag : (join nodes).2 = (runs nodes).any fun run => 2 ≤ run.length := told
  refine ⟨List.flatten_splitBy bothTexts nodes, fun _ => element_or_texts_of_mem_runs,
    List.isChain_getLast_head_splitBy bothTexts nodes, joined, ?_⟩
  rw [flag, List.any_eq_true]
  simp only [decide_eq_true_eq]

/-- Texts split within a run of blanks of both kinds, an element, and a text by itself. -/
def partedNodes : List Node :=
  [.text "a \t", .text "\n\u00a0", .text " b", .element ⟨"br", []⟩ [], .text " \t"]

theorem join_runs_parted :
    WellEscaped ("a \t" : Text) ∧ WellEscaped ("\n\u00a0" : Text) ∧
    normalize (normalize "a \t" ++ ("\n\u00a0" : Text)) = "a\u00a0".toList ∧
    (∀ text, .text text ∈ partedNodes → WellEscaped text) ∧
    join partedNodes =
      ([.text "a\u00a0b", .element ⟨"br", []⟩ [], .text " \t"], true) := by
  have front : WellEscaped ("a \t" : Text) := WellEscaped.escapeText "a \t"
  have behind : WellEscaped ("\n\u00a0" : Text) := WellEscaped.escapeText "\n\u00a0"
  have escaped : ∀ text, .text text ∈ partedNodes → WellEscaped text := by
    intro text member
    have raw : ∃ raw ∈ [("a \t" : Text), "\n\u00a0", " b", " \t"], text = escapeText raw := by
      simpa [partedNodes, escapeText, escapeChar, Text.nbsp] using member
    obtain ⟨raw, -, rfl⟩ := raw
    exact WellEscaped.escapeText raw
  obtain ⟨-, -, -, joined, told⟩ := join_runs.2.2 partedNodes escaped
  have several : (join partedNodes).2 = true := told.mpr ⟨_, List.mem_cons_self, by decide⟩
  exact ⟨front, behind, (join_runs.1 _ _ front behind).trans (by decide), escaped,
    Prod.ext (joined.trans rfl) several⟩

end Policy
end SafeMarkup
