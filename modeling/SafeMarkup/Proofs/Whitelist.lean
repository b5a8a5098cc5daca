import SafeMarkup.Proofs.Chain
import SafeMarkup.Proofs.Forest
import SafeMarkup.Sanitizer.Basic

/-!
Contract: what stands in a tree after a filter pass.

Owns: the default block of a compiled policy is whitelisted; every element after a pass is either a
block that wrapping adds at the top, or what a check of the policy left of an element of the markup.
-/

namespace SafeMarkup

/-! ## Compiled policies -/

namespace PolicySpec

variable {spec : PolicySpec} {policy : Policy}

/-- A policy that compiles has no faults. -/
theorem compile_eq_ok (compiled : spec.compile.value = .ok policy) :
    policy = spec.compiled ∧ spec.faults = [] := by
  unfold compile at compiled
  cases found : spec.faults with
  | nil =>
      rw [found] at compiled
      exact ⟨(Except.ok.inj compiled).symm, rfl⟩
  | cons fault faults =>
      rw [found] at compiled
      cases faults <;> exact absurd compiled nofun

theorem get?_elements_compiled (name : Text) :
    (Dictionary.get? name spec.compiled.elements).isSome = Dictionary.has name spec.elements := by
  unfold compiled elementResults Dictionary.mapValues Dictionary.has
  rw [Dictionary.get?_map fun _ => ChainResults.chain,
    Dictionary.get?_map fun name chain => compileChain spec.compiledTables false name chain]
  cases Dictionary.get? name spec.elements <;> rfl

/-- An element with rules, its own or shared, is whitelisted. -/
theorem isWhitelisted_compiled {name : Text} (rules : spec.hasRules name) :
    spec.compiled.isWhitelisted name := by
  unfold Policy.isWhitelisted Policy.chainFor?
  rw [Option.isSome_or, get?_elements_compiled]
  rcases Bool.or_eq_true_iff.mp rules with own | shared
  · rw [own, Bool.true_or]
  · obtain ⟨canonical, found⟩ := Option.isSome_iff_exists.mp shared
    have standing : (name, canonical) ∈ spec.aliasPairs := by
      rcases Dictionary.mem_insertAll (Dictionary.mem_of_get?_eq_some found) with inside | inside
      · exact (List.mem_filter.mp inside).1
      · exact absurd inside List.not_mem_nil
    obtain ⟨⟨owner, aliases⟩, inside, same⟩ := List.mem_flatMap.mp standing
    obtain ⟨other, _, pair⟩ := List.mem_map.mp same
    obtain ⟨rfl, rfl⟩ := Prod.mk.inj pair
    have ruled : (Dictionary.get? owner spec.compiled.elements).isSome := by
      rw [get?_elements_compiled]
      exact (List.mem_filter.mp inside).2
    have aliased : Dictionary.get? other spec.compiled.elementAliases = some owner := found
    rw [aliased, Option.bind_some, ruled, Bool.or_true]

/-- The block that stray content is wrapped into is whitelisted. -/
theorem isWhitelisted_defaultBlock (compiled : spec.compile.value = .ok policy) :
    policy.isWhitelisted policy.defaultBlock := by
  obtain ⟨rfl, none⟩ := compile_eq_ok compiled
  suffices rules : spec.hasRules spec.effectiveDefaultBlock from isWhitelisted_compiled rules
  by_contra unruled
  have missing : PolicyFault.defaultBlock spec.effectiveDefaultBlock ∈ spec.faults := by
    unfold faults
    rw [if_neg unruled]
    exact List.mem_append_right _ List.mem_cons_self
  rw [none] at missing
  exact absurd missing List.not_mem_nil

end PolicySpec

namespace Policy

/-! ## Kept elements -/

/-- A check of the policy accepts a tag against the chain of its name and leaves `kept` of it. -/
structure Keeps (policy : Policy) (site : Site) (tag kept : Tag) (chain : CompiledChain) :
    Prop where
  chain_eq : policy.chainFor? tag.name = some chain
  accepted : (Chain.check policy.equivalents false ⟨site, policy.verbose⟩
    (Validator.checkChain chain) tag).value = (.accepted, kept)

/-- A rule set of a chain names an attribute, directly or by a name that stands for it, and the
validator there gives out its value for what the tag has under that name. -/
def Accounts (policy : Policy) (site : Site) (tag : Tag) (chain : CompiledChain)
    (pair : Text × Text) : Prop :=
  ∃ ruleSet ∈ chain, ∃ canonical validator, (canonical, validator) ∈ ruleSet ∧
    (pair.1 = canonical ∨ pair.1 ∈ policy.equivalents.aliasesOf canonical) ∧
    ∃ quiet, (validator.check ⟨tag.name, pair.1, quiet, ⟨site, policy.verbose⟩⟩
      (tag.get? pair.1)).value = .ok pair.2

variable {policy : Policy} {site : Site} {tag kept : Tag} {chain : CompiledChain}

/-- A tag is kept only by a check against the chain of its name. -/
theorem judge_eq_true (judged : (policy.judge site tag).value = (true, kept)) :
    ∃ chain, policy.Keeps site tag kept chain := by
  unfold judge at judged
  split at judged
  case h_1 => exact absurd judged nofun
  case h_2 chain found =>
    simp only [Reported.value_bind] at judged
    obtain ⟨accepted, rfl⟩ := Prod.mk.inj judged
    refine ⟨chain, found, ?_⟩
    exact Prod.ext (by simpa using accepted) rfl

namespace Keeps

theorem isWhitelisted (keeps : policy.Keeps site tag kept chain) :
    policy.isWhitelisted kept.name := by
  unfold Policy.isWhitelisted
  rw [(Chain.check_eq_accepted keeps.accepted).1, keeps.chain_eq]
  rfl

theorem nodup_keys (keeps : policy.Keeps site tag kept chain) :
    (Dictionary.keys kept.attributes).Nodup :=
  (Chain.check_eq_accepted keeps.accepted).2.1

/-- The chain accounts for every attribute of a kept tag. -/
theorem accounts (keeps : policy.Keeps site tag kept chain) {pair : Text × Text}
    (member : pair ∈ kept.attributes) : policy.Accounts site tag chain pair := by
  obtain ⟨ruleSet, inChain, canonical, check, inRuleSet, standsFor, quiet, given⟩ :=
    (Chain.check_eq_accepted keeps.accepted).2.2 pair.1 pair.2 member
  rw [Validator.checkChain_eq_map] at inChain
  obtain ⟨validators, ofChain, rfl⟩ := List.mem_map.mp inChain
  rw [Validator.checkRuleSet_eq_map] at inRuleSet
  obtain ⟨⟨name, validator⟩, ofRuleSet, same⟩ := List.mem_map.mp inRuleSet
  obtain ⟨rfl, rfl⟩ := Prod.mk.inj same
  exact ⟨validators, ofChain, name, validator, ofRuleSet, standsFor, quiet, given⟩

end Keeps

/-- Whether a tag is what the policy keeps of some tag of the markup, rewritten first. -/
def KeptFrom (policy : Policy) (site : Site) (nodes : List Node) (kept : Tag) : Prop :=
  ∃ original ∈ Node.tagsAll nodes, ∃ chain,
    policy.Keeps site (policy.rewrite original).value kept chain

/-- Clearing and collapsing leave only tags that the policy keeps. -/
theorem keptFrom_collapseRoot (policy : Policy) (site : Site) (nodes : List Node) :
    ∀ kept ∈ Node.tagsAll (collapseRoot (policy.collapse (policy.clear site nodes).value)),
      policy.KeptFrom site nodes kept := by
  have cleared : Node.Every (policy.KeptFrom site nodes) (fun _ => True)
      (policy.clear site nodes).value := by
    refine policy.every_clear site nodes ?_ fun _ => trivial
    intro original member kept judged
    obtain ⟨chain, keeps⟩ := judge_eq_true judged
    exact ⟨original, member, chain, keeps⟩
  -- Collapsing writes texts but no tags, so any property of tags is kept.
  have anyText : TextInvariant fun _ => True := ⟨trivial, trivial, trivial, fun _ _ _ _ => trivial⟩
  exact (every_collapseRoot (policy.every_collapse anyText cleared)).1

end Policy

namespace Sanitizer

/-- After a filter pass with a compiled policy, the top level is cut into single nodes and wrapped
runs. Each element in them, at every depth, is what a check left of a rewritten element of the
markup, with a rule set of its chain to account for each attribute; the blocks around the runs have
no attributes. So every element is whitelisted, and no attribute comes twice. -/
theorem filterNodes_sound (sanitizer : Sanitizer) {spec : PolicySpec}
    (compiled : spec.compile.value = .ok sanitizer.policy) (nodes : List Node) :
    ∃ pieces : List Policy.Piece,
      (sanitizer.filterNodes nodes).value =
        pieces.map (Policy.Piece.node sanitizer.policy.defaultBlock) ∧
      pieces.flatMap Policy.Piece.nodes = Policy.collapseRoot
        (sanitizer.policy.collapse (sanitizer.policy.clear sanitizer.site nodes).value) ∧
      (∀ kept ∈ Node.tagsAll (pieces.flatMap Policy.Piece.nodes),
        ∃ original ∈ Node.tagsAll nodes, ∃ chain,
          sanitizer.policy.Keeps sanitizer.site (sanitizer.policy.rewrite original).value kept
            chain ∧
          ∀ pair ∈ kept.attributes, sanitizer.policy.Accounts sanitizer.site
            (sanitizer.policy.rewrite original).value chain pair) ∧
      ∀ tag ∈ Node.tagsAll (sanitizer.filterNodes nodes).value,
        sanitizer.policy.isWhitelisted tag.name ∧ (Dictionary.keys tag.attributes).Nodup := by
  have kept := sanitizer.policy.keptFrom_collapseRoot sanitizer.site nodes
  refine ⟨sanitizer.policy.pieces _, sanitizer.policy.wrap_eq_map_node _,
    sanitizer.policy.nodes_pieces _, ?_, ?_⟩
  · rw [sanitizer.policy.nodes_pieces]
    intro tag member
    obtain ⟨original, written, chain, keeps⟩ := kept tag member
    exact ⟨original, written, chain, keeps, fun pair inside => keeps.accounts inside⟩
  · have every : Node.Every
        (fun tag => sanitizer.policy.isWhitelisted tag.name ∧
          (Dictionary.keys tag.attributes).Nodup) (fun _ => True)
        (Policy.collapseRoot
          (sanitizer.policy.collapse (sanitizer.policy.clear sanitizer.site nodes).value)) := by
      refine ⟨?_, fun _ _ => trivial⟩
      intro tag member
      obtain ⟨original, written, chain, keeps⟩ := kept tag member
      exact ⟨keeps.isWhitelisted, keeps.nodup_keys⟩
    exact (sanitizer.policy.every_wrap every
      ⟨PolicySpec.isWhitelisted_defaultBlock compiled, List.nodup_nil⟩).1

/-- Paragraphs, and links with a target or a name. -/
def linkSpec : PolicySpec :=
  { PolicySpec.empty with
    elements :=
      [("p", []),
       ("a", [[("href", .simple ⟨true, none, false, none, none, false⟩ .text)],
              [("name", .simple ⟨false, none, false, none, none, false⟩ .text)]])]
    elementAliases := [("a", ["link"])]
    attributeAliases := [("name", ["id"])] }

/-- The sanitizer of these rules, for markup that is parsed already. -/
def linkSanitizer : Sanitizer := ⟨linkSpec.compiled, .fixed "example.org", fun _ => ⟨[], [], 0⟩⟩

/-- Text, a link by another name with a script in it, and a paragraph with an attribute too many. -/
def linkNodes : List Node :=
  [.text "x",
   .element ⟨"link", [("onclick", "y"), ("id", "z")]⟩ [.element ⟨"script", []⟩ [.text "w"]],
   .element ⟨"p", [("id", "q")]⟩ [.text "<"]]

theorem filterNodes_sound_links :
    linkSpec.compile.value = .ok linkSanitizer.policy ∧
      (linkSanitizer.filterNodes linkNodes).value =
        [.element ⟨"p", []⟩ [.text "x", .element ⟨"link", [("id", "z")]⟩ []],
         .element ⟨"p", []⟩ [.text "&lt;"]] ∧
      ∀ tag ∈ Node.tagsAll (linkSanitizer.filterNodes linkNodes).value,
        linkSanitizer.policy.isWhitelisted tag.name ∧ (Dictionary.keys tag.attributes).Nodup := by
  have compiled : linkSpec.compile.value = .ok linkSanitizer.policy := rfl
  obtain ⟨_, _, _, _, sound⟩ := filterNodes_sound linkSanitizer compiled linkNodes
  exact ⟨compiled, rfl, sound⟩

end Sanitizer
end SafeMarkup
