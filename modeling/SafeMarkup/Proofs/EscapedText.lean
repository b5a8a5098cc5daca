import SafeMarkup.Proofs.Forest
import SafeMarkup.Proofs.Preparation

/-!
Contract: escaped texts through the passes of the sanitizer.

A normalizing pass over escaped text does what a pass over the raw text would do to its spaces, and
decodes nothing. So no pass over a tree, and no way in which texts join, brings a special character
back.
-/

namespace SafeMarkup

/-! ## Spaces beside other text -/

/-- Squeezing begins anew behind text outside the class. -/
theorem squeezeFrom_append_of_plain {inClass : Char → Bool} (mark : Char) (inRun : Bool)
    {front : Text} (rest : Text) (nonempty : front ≠ [])
    (plain : ∀ c ∈ front, inClass c = false) :
    Text.squeezeFrom inClass mark inRun (front ++ rest) =
      front ++ Text.squeezeFrom inClass mark false rest := by
  induction front generalizing inRun with
  | nil => exact absurd rfl nonempty
  | cons c front inductionHypothesis =>
      obtain ⟨here, others⟩ := List.forall_mem_cons.mp plain
      rw [List.cons_append, Text.squeezeFrom, if_neg (by simp [here])]
      cases front with
      | nil => rfl
      | cons next front =>
          rw [inductionHypothesis false (List.cons_ne_nil _ _) others]
          rfl

/-- Collapsing begins anew behind text without spaces. -/
theorem collapseSpacesFrom_append_of_plain (before : Spacing) {front : Text} (rest : Text)
    (nonempty : front ≠ []) (plain : ∀ c ∈ front, isSpacing c = false) :
    collapseSpacesFrom before (front ++ rest) =
      before.pending ++ front ++ collapseSpacesFrom .zero rest := by
  induction front generalizing before with
  | nil => exact absurd rfl nonempty
  | cons c front inductionHypothesis =>
      obtain ⟨here, others⟩ := List.forall_mem_cons.mp plain
      rw [List.cons_append, collapseSpacesFrom_cons_of_not_isSpacing before _ here]
      cases front with
      | nil => simp
      | cons next front =>
          rw [inductionHypothesis .zero (List.cons_ne_nil _ _) others]
          simp [Spacing.pending]

/-! ## Spaces in escaped text -/

theorem not_isControlOrSpace_of_isInk {c : Char} (shows : isInk c) :
    isControlOrSpace c = false := by
  by_contra control
  rw [isInk_eq_false_of_isControlOrSpace (by simpa using control)] at shows
  exact absurd shows (by decide)

theorem not_isSpacing_of_isInk {c : Char} (shows : isInk c) : isSpacing c = false := by
  by_contra spacing
  rw [isInk_eq_false_of_isSpacing (by simpa using spacing)] at shows
  exact absurd shows (by decide)

/-- A special character shows, and so does all of the way it is written. -/
theorem isInk_of_mem_escapeChar {c d : Char} (special : isSpecial c) (member : d ∈ escapeChar c) :
    isInk d := by
  rcases mem_escapeChar_of_isSpecial special member with rfl | named
  · decide
  · have bounds := isNameChar_bounds named
    exact isInk_of_bounds (by omega) (by omega)

theorem escapeText_filter_ne_null (raw : Text) :
    ((escapeText raw).filter fun c => c != '\x00') =
      escapeText (raw.filter fun c => c != '\x00') := by
  have notNull : ∀ {c : Char}, isInk c → (c != '\x00') = true := by
    rintro c shows
    rw [bne_iff_ne]
    rintro rfl
    exact absurd shows (by decide)
  induction raw with
  | nil => rfl
  | cons c rest inductionHypothesis =>
      rw [escapeText_cons, List.filter_append, inductionHypothesis, List.filter_cons]
      by_cases special : isSpecial c
      · rw [if_pos (notNull (isInk_of_isSpecial special)), escapeText_cons,
          List.filter_eq_self.mpr fun d member => notNull (isInk_of_mem_escapeChar special member)]
      · rw [escapeChar_of_not_isSpecial special, List.filter_cons]
        split
        · rw [escapeText_cons, escapeChar_of_not_isSpecial special]
          rfl
        · rfl

theorem squeezeFrom_escapeText (inRun : Bool) (raw : Text) :
    Text.squeezeFrom isControlOrSpace ' ' inRun (escapeText raw) =
      escapeText (Text.squeezeFrom isControlOrSpace ' ' inRun raw) := by
  induction raw generalizing inRun with
  | nil => rfl
  | cons c rest inductionHypothesis =>
      rw [escapeText_cons]
      by_cases special : isSpecial c
      · have plain := not_isControlOrSpace_of_isInk (isInk_of_isSpecial special)
        rw [squeezeFrom_append_of_plain ' ' inRun (escapeText rest) (escapeChar_ne_nil c)
            fun d member => not_isControlOrSpace_of_isInk (isInk_of_mem_escapeChar special member),
          inductionHypothesis, Text.squeezeFrom, if_neg (by simp [plain]), escapeText_cons]
      · rw [escapeChar_of_not_isSpecial special, List.singleton_append, Text.squeezeFrom,
          Text.squeezeFrom, inductionHypothesis, inductionHypothesis]
        split
        · split
          · rfl
          · rfl
        · rw [escapeText_cons, escapeChar_of_not_isSpecial special]
          rfl

theorem not_isSpecial_of_isSpacing {c : Char} (spacing : isSpacing c) : ¬isSpecial c := by
  intro special
  have hidden := isInk_eq_false_of_isSpacing spacing
  rw [isInk_of_isSpecial special] at hidden
  exact absurd hidden (by decide)

theorem escapeText_pending {before : Spacing} (sound : before.Sound) :
    escapeText before.pending = before.pending := by
  cases before with
  | one c =>
      change escapeText [c] = [c]
      rw [escapeText_cons, escapeChar_of_not_isSpecial (not_isSpecial_of_isSpacing sound)]
      rfl
  | _ => rfl

theorem collapseSpacesFrom_escapeText (before : Spacing) (sound : before.Sound) (raw : Text) :
    collapseSpacesFrom before (escapeText raw) = escapeText (collapseSpacesFrom before raw) := by
  induction raw generalizing before with
  | nil =>
      cases before with
      | one c => exact (escapeText_pending sound).symm
      | _ => rfl
  | cons c rest inductionHypothesis =>
      rw [escapeText_cons]
      by_cases spacing : isSpacing c
      · have single := escapeChar_of_not_isSpecial (not_isSpecial_of_isSpacing spacing)
        rw [single, List.singleton_append]
        cases before with
        | zero =>
            rw [collapseSpacesFrom, if_pos spacing, collapseSpacesFrom, if_pos spacing]
            exact inductionHypothesis (.one c) spacing
        | one first =>
            rw [collapseSpacesFrom, if_pos spacing, collapseSpacesFrom, if_pos spacing,
              escapeText_cons, inductionHypothesis .several trivial]
            rfl
        | several =>
            rw [collapseSpacesFrom, if_pos spacing, collapseSpacesFrom, if_pos spacing]
            exact inductionHypothesis .several trivial
      · have plain : ∀ d ∈ escapeChar c, isSpacing d = false := by
          intro d member
          by_cases special : isSpecial c
          · exact not_isSpacing_of_isInk (isInk_of_mem_escapeChar special member)
          · rw [escapeChar_of_not_isSpecial special, List.mem_singleton] at member
            rw [member]
            simpa using spacing
        rw [collapseSpacesFrom_append_of_plain before _ (escapeChar_ne_nil c) plain,
          collapseSpacesFrom_cons_of_not_isSpacing before rest (by simpa using spacing),
          inductionHypothesis .zero trivial, escapeText_append, escapeText_cons,
          escapeText_pending sound, List.append_assoc]

/-! ## Normalizing escaped text -/

/-- In well-escaped text no ampersand begins a numeric reference. -/
theorem WellEscaped.noReference {text : Text} (escaped : WellEscaped text) : NoReference text := by
  intro rest suffix
  obtain ⟨entity, member, behind, split⟩ := escaped.named rest suffix
  obtain ⟨c, special, rfl⟩ := exists_escapeChar_of_mem_entities member
  obtain ⟨name, written, nonempty, named⟩ := escapeChar_of_isSpecial special
  obtain ⟨first, name, rfl⟩ := List.exists_cons_of_ne_nil nonempty
  rw [written, List.cons_append, List.cons_append, List.cons.injEq] at split
  have notSign : first ≠ '#' := by
    rintro rfl
    exact absurd (named '#' List.mem_cons_self) (by decide)
  rw [← split.2]
  apply reference?_eq_none
  · rintro digit _ _ same
    exact notSign (List.cons.inj same).1
  · rintro mark digit _ _ _ same
    exact notSign (List.cons.inj same).1

/-- What a normalizing pass does to the spaces of a text. -/
def normalizeSpaces (raw : Text) : Text :=
  collapseSpaces (Text.squeeze isControlOrSpace ' ' (raw.filter fun c => c != '\x00'))

/-- Normalizing escaped text is escaping text with normalized spaces. -/
theorem normalize_escapeText (raw : Text) :
    normalize (escapeText raw) = escapeText (normalizeSpaces raw) := by
  unfold normalize normalizeSpaces
  rw [escapeText_filter_ne_null, decodeReferences_eq_self (WellEscaped.escapeText _).noReference]
  unfold Text.squeeze collapseSpaces
  rw [squeezeFrom_escapeText, collapseSpacesFrom_escapeText .zero trivial]

theorem WellEscaped.normalize {text : Text} (escaped : WellEscaped text) :
    WellEscaped (normalize text) := by
  obtain ⟨raw, rfl⟩ := wellEscaped_iff.mp escaped
  rw [normalize_escapeText]
  exact WellEscaped.escapeText _

/-! ## Trees -/

/-- Every text of a forest is well-escaped, at every depth. -/
def Node.AllEscaped (nodes : List Node) : Prop := ∀ text ∈ Node.textsAll nodes, WellEscaped text

theorem wellEscaped_singleton_space : WellEscaped [' '] := WellEscaped.escapeText [' ']

theorem wellEscaped_singleton_nbsp : WellEscaped [Text.nbsp] := WellEscaped.escapeText [Text.nbsp]

theorem textInvariant_wellEscaped : Policy.TextInvariant WellEscaped where
  empty := .nil
  space := wellEscaped_singleton_space
  nbsp := wellEscaped_singleton_nbsp
  join := fun _ _ left right => (left.append right).normalize

/-- The passes of the sanitizer escape all text and decode none of it again. Clearing leaves only
well-escaped texts; normalizing such a text changes its spaces at most; an element collapses into
one; and where all texts of a forest are well-escaped, they still are after joining, collapsing,
dropping blank texts at the top and wrapping, however the text was split into nodes. -/
theorem wellEscaped_passes (policy : Policy) (site : Site) :
    (∀ nodes, Node.AllEscaped (policy.clear site nodes).value) ∧
      (∀ raw, normalize (escapeText raw) = escapeText (normalizeSpaces raw)) ∧
      (∀ tag children text, policy.collapsed? tag children = some text → WellEscaped text) ∧
      ∀ nodes, Node.AllEscaped nodes →
        Node.AllEscaped (Policy.join nodes).1 ∧ Node.AllEscaped (policy.collapse nodes) ∧
          Node.AllEscaped (Policy.collapseRoot nodes) ∧ Node.AllEscaped (policy.wrap nodes) := by
  refine ⟨?_, normalize_escapeText, ?_, ?_⟩
  · intro nodes
    have every : Node.Every (fun _ => True) WellEscaped (policy.clear site nodes).value :=
      policy.every_clear site nodes (fun _ _ _ _ => trivial) WellEscaped.escapeText
    exact every.2
  · intro tag children text collapsed
    exact textInvariant_wellEscaped.of_collapsed? policy collapsed
  · intro nodes escaped
    have every : Node.Every (fun _ => True) WellEscaped nodes := ⟨fun _ _ => trivial, escaped⟩
    exact ⟨(Policy.every_joinFrom textInvariant_wellEscaped none nodes (by simp) every).2,
      (policy.every_collapse textInvariant_wellEscaped every).2,
      (Policy.every_collapseRoot every).2, (policy.every_wrap every trivial).2⟩

/-- An escaped ampersand whose neighbour, behind a null character, looks like a reference. -/
def splitNodes : List Node := [.text "&amp;", .text "\x00#60;", .element ⟨"b", []⟩ [.text " "]]

theorem wellEscaped_passes_split :
    Node.AllEscaped splitNodes ∧
      PolicySpec.empty.compiled.collapse splitNodes = [.text "&amp;#60; "] ∧
      Node.AllEscaped (PolicySpec.empty.compiled.collapse splitNodes) := by
  have escaped : Node.AllEscaped splitNodes := by
    intro text member
    have raw : ∃ raw ∈ [(['&'] : Text), "\x00#60;", " "], text = escapeText raw := by
      simpa [splitNodes, Node.textsAll, Node.texts, escapeText, escapeChar] using member
    obtain ⟨raw, _, rfl⟩ := raw
    exact WellEscaped.escapeText raw
  have passes := (wellEscaped_passes PolicySpec.empty.compiled (.fixed "example.org")).2.2.2
  exact ⟨escaped, rfl, (passes splitNodes escaped).2.1⟩

end SafeMarkup
