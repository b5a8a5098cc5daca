import SafeMarkup.Proofs.Collapse
import SafeMarkup.Proofs.Journal

/-!
Contract: what results do not depend on.

Owns: runs that come to the same result, and record the same where they are as loud; the proof that
all checks of values and tags do, wherever a value comes from and whether or not anyone listens; and
whole calls with and without tracing, for any sink.

Does not own: what the results are, and the trace lines, which are what tracing is for.
-/

namespace SafeMarkup

open Reported

/-! ## Runs that come to the same -/

namespace Reported

variable {α β : Type} {heard : Prop}

/-- Two runs come to the same result. Where they are heard alike, they record the same as well. -/
structure Matches (heard : Prop) (left right : Reported α) : Prop where
  value : left.value = right.value
  decisions : heard → left.decisions = right.decisions

theorem Matches.refl (reported : Reported α) : reported.Matches heard reported :=
  ⟨rfl, fun _ => rfl⟩

theorem Matches.bind {left right : Reported α} {next other : α → Reported β}
    (first : left.Matches heard right)
    (behind : ∀ value, (next value).Matches heard (other value)) :
    (left >>= next).Matches heard (right >>= other) := by
  have later := behind right.value
  constructor
  · rw [value_bind, value_bind, first.value]
    exact later.value
  · intro listening
    rw [decisions_bind, decisions_bind, first.value, first.decisions listening]
    rw [later.decisions listening]

theorem Matches.map {left right : Reported α} (first : left.Matches heard right) (f : α → β) :
    Matches heard (do return f (← left)) (do return f (← right)) :=
  first.bind fun _ => .refl _

/-- Trace lines are not recorded, whatever they say. -/
theorem Matches.afterTrace {left right : Reported α} (same : left.Matches heard right)
    (condition other : Bool) (line otherLine : Text) :
    (noteIf condition (.trace line) >>= fun _ => left).Matches heard
      (noteIf other (.trace otherLine) >>= fun _ => right) := by
  refine Matches.bind ⟨rfl, fun _ => ?_⟩ fun _ => same
  rw [decisions_noteIf_trace, decisions_noteIf_trace]

end Reported

/-- Two contexts of one site. Where they are heard alike, they tell the same of a value and are
equally loud; only tracing may differ. -/
structure Context.Alike (heard : Prop) (left right : Context) : Prop where
  site : left.environment.site = right.environment.site
  element : heard → left.element = right.element
  key : heard → left.key = right.key
  quiet : heard → left.quiet = right.quiet

theorem Context.Alike.quieted {heard : Prop} {left right : Context}
    (alike : left.Alike heard right) :
    left.quieted.Alike heard right.quieted :=
  ⟨alike.site, alike.element, alike.key, fun _ => rfl⟩

section Checks

variable {heard : Prop}

/-- A check whose result is up to the site and the value alone. -/
def Check.Steady (heard : Prop) (check : Check) : Prop :=
  ∀ left right raw, Context.Alike heard left right →
    (check left raw).Matches heard (check right raw)

def Core.Steady (heard : Prop) (core : Core) : Prop :=
  ∀ left right raw value, Context.Alike heard left right →
    (core left raw value).Matches heard (core right raw value)

def Matching.Steady (heard : Prop) (matching : Matching) : Prop :=
  ∀ left right parts, Context.Alike heard left right →
    (matching left parts).Matches heard (matching right parts)

/-! ## Single values -/

theorem matches_reportRejection (kind : Text) {left right : Context} (raw : Option Text)
    (value : Text) (rejection : Rejection) (alike : left.Alike heard right) :
    (reportRejection kind left raw value rejection).Matches heard
      (reportRejection kind right raw value rejection) := by
  constructor
  · rw [value_reportRejection, value_reportRejection]
  · intro listening
    have sameLine : decisionLine kind left raw value = decisionLine kind right raw value := by
      delta decisionLine
      rw [alike.element listening, alike.key listening]
    unfold reportRejection
    rw [alike.quiet listening]
    split
    · rfl
    · simp only [decisions_bind, decisions_noteIf_trace, sameLine]

namespace Options

variable (options : Options) (kind : Text) {left right : Context} (alike : left.Alike heard right)
include alike

theorem matches_refuse (raw : Option Text) (value : Text) :
    (options.refuse kind left raw value).Matches heard (options.refuse kind right raw value) :=
  matches_reportRejection kind raw value _ alike

theorem matches_conclude (raw : Option Text) (value : Text) :
    (options.conclude kind left raw value).Matches heard
      (options.conclude kind right raw value) := by
  unfold conclude
  split
  · exact matches_reportRejection kind raw value .invalid alike
  · exact .refl _

theorem matches_consider {core : Core} (steady : core.Steady heard) (raw : Option Text) :
    (options.consider kind core left raw).Matches heard (options.consider kind core right raw) := by
  cases raw with
  | none => exact options.matches_refuse kind alike none []
  | some written =>
      rw [consider, consider]
      split
      · exact options.matches_refuse kind alike (some written) []
      · exact steady left right written _ alike

omit alike in
theorem steady_check {core : Core} (steady : core.Steady heard) :
    Check.Steady heard (options.check kind core) := by
  intro left right raw alike
  refine (options.matches_consider kind alike steady raw).bind ?_
  intro answer
  split
  · exact options.matches_conclude kind alike raw _
  · exact options.matches_conclude kind alike raw _
  · exact .refl _

end Options

/-! ## Values of several parts -/

namespace Matching

variable {item : Check}

theorem steady_free (steady : item.Steady heard) : Steady heard (free item) := by
  intro left right parts alike
  induction parts with
  | nil => exact .refl _
  | cons part parts inductionHypothesis =>
      rw [free, free]
      refine (steady left right (some part) alike).bind ?_
      intro answer
      split
      · exact inductionHypothesis.map _
      · exact inductionHypothesis
      · exact .refl _
      · exact .refl _

theorem steady_all (steady : item.Steady heard) : Steady heard (all item) := by
  intro left right parts alike
  induction parts with
  | nil => exact .refl _
  | cons part parts inductionHypothesis =>
      rw [all, all]
      refine (steady left right (some part) alike).bind ?_
      intro answer
      split
      · exact inductionHypothesis.map _
      · exact .refl _
      · exact .refl _

theorem steady_indent (steady : item.Steady heard) : Steady heard (indent item) := by
  intro left right parts alike
  unfold indent
  split
  · exact steady_all steady left right parts alike
  · exact .refl _

/-- Whether a slot is left out is up to the values of the parts, as the slots are. -/
theorem steady_slots {checks : List Check} (steady : ∀ check ∈ checks, check.Steady heard) :
    Steady heard fun context parts => slots context checks parts := by
  intro left right parts alike
  show (slots left checks parts).Matches heard (slots right checks parts)
  -- A slot that does not fit is left out and its part tried again: the parts vary with the slots.
  induction checks generalizing parts with
  | nil => cases parts <;> exact .refl _
  | cons slot later inductionHypothesis =>
      obtain ⟨here, behind⟩ := List.forall_mem_cons.mp steady
      cases parts with
      | nil => exact .refl _
      | cons part parts =>
          have skipped := inductionHypothesis behind (part :: parts)
          rw [slots, slots]
          refine (here left.quieted right.quieted (some part) alike.quieted).bind ?_
          intro answer
          split
          · refine (inductionHypothesis behind parts).bind ?_
            intro others
            split
            · exact .refl _
            · exact .refl _
            · exact skipped
          · exact .refl _
          · exact skipped

end Matching

theorem steady_sequenceCore {matching : Matching} (steady : matching.Steady heard)
    (options : Options) (kind : Text) (delimiters : Delimiters) :
    Core.Steady heard (sequenceCore options kind delimiters matching) := by
  intro left right raw value alike
  refine (steady left right _ alike).bind ?_
  intro answer
  split
  · exact options.matches_refuse kind alike (some raw) _
  · exact .refl _
  · exact .refl _
  · exact (options.matches_refuse kind alike (some raw) _).afterTrace _ _ _ _

/-! ## Tags -/

def RuleSet.Steady (heard : Prop) (ruleSet : RuleSet) : Prop :=
  ∀ entry ∈ ruleSet, entry.2.Steady heard

theorem RuleSet.Steady.expand {ruleSet : RuleSet} (steady : ruleSet.Steady heard)
    (equivalents : Equivalents) : (ruleSet.expand equivalents).Steady heard := by
  rintro ⟨name, check⟩ member
  obtain ⟨canonical, standing, _⟩ := mem_expand.mp member
  exact steady (canonical, check) standing

def Chain.Steady (heard : Prop) (chain : Chain) : Prop :=
  ∀ ruleSet ∈ chain, ruleSet.Steady heard

section Tags

variable {left right : Environment} {quiet other : Bool} (site : left.site = right.site)
  (loudness : heard → quiet = other) (tag : Tag)
include site loudness

theorem RuleSet.matches_attemptFrom {checks : RuleSet} (steady : checks.Steady heard)
    (accepted : Dictionary Text) :
    (attemptFrom tag left quiet checks accepted).Matches heard
      (attemptFrom tag right other checks accepted) := by
  induction checks generalizing accepted with
  | nil => exact .refl _
  | cons entry rest inductionHypothesis =>
      obtain ⟨name, check⟩ := entry
      obtain ⟨here, behind⟩ := List.forall_mem_cons.mp steady
      have alike : Context.Alike heard ⟨tag.name, name, quiet, left⟩
          ⟨tag.name, name, other, right⟩ := ⟨site, fun _ => rfl, fun _ => rfl, loudness⟩
      rw [attemptFrom, attemptFrom]
      refine (here _ _ (tag.get? name) alike).bind ?_
      intro answer
      split
      · exact inductionHypothesis behind _
      · exact inductionHypothesis behind _
      · exact inductionHypothesis behind _
      · exact .refl _
      · exact .refl _
      · exact .refl _

theorem Chain.matches_checkFrom (equivalents : Equivalents) {chain : Chain}
    (steady : chain.Steady heard) :
    (checkFrom equivalents quiet left tag chain).Matches heard
      (checkFrom equivalents other right tag chain) := by
  induction chain with
  | nil => exact .refl _
  | cons ruleSet rest inductionHypothesis =>
      obtain ⟨here, behind⟩ := List.forall_mem_cons.mp steady
      have sameLoudness : heard → (quiet || !rest.isEmpty) = (other || !rest.isEmpty) := by
        intro listening
        rw [loudness listening]
      rw [checkFrom, checkFrom]
      refine Matches.bind
        (RuleSet.matches_attemptFrom site sameLoudness tag (here.expand equivalents) []) ?_
      intro outcome
      split
      · exact .refl _
      · exact (inductionHypothesis behind).afterTrace _ _ _ _
      · exact .refl _

/-- A check of a tag comes to the same however quiet it is and whether or not it is traced. -/
theorem Chain.matches_check (equivalents : Equivalents) {chain : Chain}
    (steady : chain.Steady heard) :
    (chain.check equivalents quiet left tag).Matches heard
      (chain.check equivalents other right tag) := by
  unfold check
  split
  · exact .refl _
  · exact matches_checkFrom site loudness tag equivalents steady

end Tags

/-! ## Styles -/

namespace StyleRules

variable {rules : StyleRules}

theorem matches_keepFrom (steady : ∀ property chain, rules.chainFor? property = some chain →
      chain.Steady heard) {left right : Context} (alike : left.Alike heard right)
    (declarations : List (Text × Text)) :
    (rules.keepFrom left declarations).Matches heard (rules.keepFrom right declarations) := by
  induction declarations with
  | nil => exact .refl _
  | cons declaration rest inductionHypothesis =>
      obtain ⟨property, value⟩ := declaration
      rw [keepFrom, keepFrom]
      split
      case h_1 => exact inductionHypothesis.afterTrace _ _ _ _
      case h_2 chain found =>
        refine (Chain.matches_check alike.site alike.quiet _ rules.equivalents
          (steady property chain found)).bind ?_
        rintro ⟨verdict, kept⟩
        cases verdict with
        | accepted => exact inductionHypothesis.map _
        | exhausted => exact inductionHypothesis
        | invalid => exact .refl _

theorem steady_core (steady : ∀ property chain, rules.chainFor? property = some chain →
      chain.Steady heard) (options : Options) : Core.Steady heard (rules.core options) := by
  intro left right raw value alike
  refine (matches_keepFrom steady alike _).bind ?_
  intro kept
  split
  · exact matches_reportRejection _ _ _ _ alike
  · exact options.matches_refuse _ alike _ _
  · exact .refl _

end StyleRules

/-! ## Validators -/

theorem Simple.steady_core (options : Options) (kind : Simple) :
    Core.Steady heard (kind.core options) := by
  intro left right raw value alike
  unfold Simple.core
  rw [alike.site]
  split
  · exact .refl _
  · exact options.matches_refuse _ alike _ _

namespace Validator

theorem steady_core {validator : Validator}
    (steady : ∀ part, PartOf part validator → part.check.Steady heard) :
    validator.core.Steady heard := by
  cases validator with
  | simple options kind => exact kind.steady_core options
  | sequence options delimiters item =>
      exact steady_sequenceCore (Matching.steady_free (steady item .item)) options _ delimiters
  | indent options delimiters item =>
      exact steady_sequenceCore (Matching.steady_indent (steady item .width)) options _ delimiters
  | complex options delimiters slots =>
      refine steady_sequenceCore (Matching.steady_slots ?_) options _ delimiters
      intro check member
      obtain ⟨slot, nested, rfl⟩ := exists_slot_of_mem member
      exact steady slot nested
  | style options name properties equivalents =>
      refine StyleRules.steady_core ?_ options
      intro property chain found checks tried entry listed
      obtain ⟨part, nested, same⟩ := exists_part_of_chainFor? found tried listed
      rw [← same]
      exact steady part nested

theorem steady_check (validator : Validator) : validator.check.Steady heard := by
  induction validator using part_induction with
  | step validator inductionHypothesis =>
      rw [check_eq]
      exact validator.options.steady_check validator.kind (steady_core inductionHypothesis)

theorem steady_checkChain (chain : List (List (Text × Validator))) :
    (checkChain chain).Steady heard := by
  intro checks tried entry listed
  rw [checkChain_eq_map] at tried
  obtain ⟨ruleSet, _, rfl⟩ := List.mem_map.mp tried
  rw [checkRuleSet_eq_map] at listed
  obtain ⟨⟨name, validator⟩, _, rfl⟩ := List.mem_map.mp listed
  exact validator.steady_check

end Validator

end Checks

/-! ## Whole calls -/

namespace Policy

/-- A policy with tracing on or off. -/
def withVerbose (verbose : Bool) (policy : Policy) : Policy := { policy with verbose }

variable (policy : Policy) (verbose : Bool) {heard : Prop}

theorem settleEach_withVerbose (nodes : List Node) :
    (policy.withVerbose verbose).settleEach nodes = policy.settleEach nodes := by
  induction nodes using Node.forest_induction with
  | nil => rfl
  | text content rest inductionHypothesis =>
      rw [settleEach_cons_text, settleEach_cons_text, inductionHypothesis]
  | element tag children rest childHypothesis restHypothesis =>
      have below : (policy.withVerbose verbose).settle children = policy.settle children := by
        rw [settle, settle, childHypothesis]
      rw [settleEach_cons_element, settleEach_cons_element, below, restHypothesis]
      rfl

theorem collapse_withVerbose (nodes : List Node) :
    (policy.withVerbose verbose).collapse nodes = policy.collapse nodes := by
  rw [collapse_eq_settle, collapse_eq_settle, settle, settle, settleEach_withVerbose]

theorem wrap_withVerbose (nodes : List Node) :
    (policy.withVerbose verbose).wrap nodes = policy.wrap nodes := by
  have fromRun (run : List Node) :
      (policy.withVerbose verbose).wrapFrom run nodes = policy.wrapFrom run nodes := by
    induction nodes generalizing run with
    | nil => rfl
    | cons node rest inductionHypothesis =>
        have sameNeed : (policy.withVerbose verbose).needsWrap (!run.isEmpty) node =
            policy.needsWrap (!run.isEmpty) node := by
          cases node <;> rfl
        rw [wrapFrom, wrapFrom, sameNeed]
        split
        · exact inductionHypothesis _
        · rw [inductionHypothesis]
          rfl
  exact fromRun []

theorem matches_rewrite (tag : Tag) :
    ((policy.withVerbose verbose).rewrite tag).Matches heard (policy.rewrite tag) := by
  have sameRule : (policy.withVerbose verbose).rewriteFor? tag = policy.rewriteFor? tag := rfl
  unfold rewrite
  rw [sameRule]
  split
  · exact .refl _
  · exact (Matches.refl _).afterTrace _ _ _ _

theorem matches_judge (site : Site) (tag : Tag) :
    ((policy.withVerbose verbose).judge site tag).Matches heard (policy.judge site tag) := by
  have sameChain : (policy.withVerbose verbose).chainFor? tag.name = policy.chainFor? tag.name :=
    rfl
  unfold judge
  rw [sameChain]
  split
  · exact (Matches.refl _).afterTrace _ _ _ _
  · refine Matches.bind ?_ fun _ => .refl _
    have sameSite : (⟨site, (policy.withVerbose verbose).verbose⟩ : Environment).site =
        (⟨site, policy.verbose⟩ : Environment).site := rfl
    exact Chain.matches_check sameSite (fun _ => rfl) tag policy.equivalents
      (Validator.steady_checkChain _)

theorem matches_clear (site : Site) (nodes : List Node) :
    ((policy.withVerbose verbose).clear site nodes).Matches heard (policy.clear site nodes) := by
  induction nodes using Node.forest_induction with
  | nil => exact .refl _
  | text content rest inductionHypothesis =>
      rw [clear, clear, clearNode, clearNode]
      exact (Matches.refl _).bind fun first => inductionHypothesis.map (first ++ ·)
  | element tag children rest childHypothesis restHypothesis =>
      rw [clear, clear, clearNode, clearNode]
      refine Matches.bind ?_ fun first => restHypothesis.map (first ++ ·)
      refine (policy.matches_rewrite verbose tag).bind fun rewritten => ?_
      refine (policy.matches_judge verbose site rewritten).bind ?_
      rintro ⟨kept, judged⟩
      cases kept with
      | true => exact childHypothesis.map fun left => [Node.element judged left]
      | false => exact .refl _

end Policy

namespace Sanitizer

/-- A sanitizer with tracing on or off. -/
def withVerbose (verbose : Bool) (sanitizer : Sanitizer) : Sanitizer :=
  { sanitizer with policy := sanitizer.policy.withVerbose verbose }

variable (sanitizer : Sanitizer) (verbose : Bool) {heard : Prop}

theorem matches_filterNodes (nodes : List Node) :
    ((sanitizer.withVerbose verbose).filterNodes nodes).Matches heard
      (sanitizer.filterNodes nodes) := by
  have cleared : ((sanitizer.withVerbose verbose).policy.clear sanitizer.site nodes).Matches heard
      (sanitizer.policy.clear sanitizer.site nodes) :=
    sanitizer.policy.matches_clear verbose sanitizer.site nodes
  refine cleared.bind fun left => ?_
  have sameCollapse : (sanitizer.withVerbose verbose).policy.collapse left =
      sanitizer.policy.collapse left := sanitizer.policy.collapse_withVerbose verbose left
  have sameWrap (nodes : List Node) : (sanitizer.withVerbose verbose).policy.wrap nodes =
      sanitizer.policy.wrap nodes := sanitizer.policy.wrap_withVerbose verbose nodes
  rw [sameCollapse, sameWrap]
  exact .refl _

theorem matches_filter (markup : Text) :
    ((sanitizer.withVerbose verbose).filter markup).Matches heard (sanitizer.filter markup) := by
  refine (Matches.refl _).bind fun nodes => ?_
  exact (sanitizer.matches_filterNodes verbose nodes).map _

theorem matches_convergeWithin (left : Nat) (markup : Text) :
    ((sanitizer.withVerbose verbose).convergeWithin left markup).Matches heard
      (sanitizer.convergeWithin left markup) := by
  induction left generalizing markup with
  | zero => exact .refl _
  | succ left inductionHypothesis =>
      rw [convergeWithin, convergeWithin]
      refine (Matches.refl _).bind fun prepared => ?_
      split
      · exact .refl _
      · refine (sanitizer.matches_filter verbose _).bind fun output => ?_
        split
        · exact .refl _
        · exact (Matches.refl _).bind fun _ => inductionHypothesis output.markup

theorem matches_sanitize (raw : Text) :
    ((sanitizer.withVerbose verbose).sanitize raw).Matches heard (sanitizer.sanitize raw) :=
  (sanitizer.matches_convergeWithin verbose filterPasses raw).bind fun _ => .refl _

end Sanitizer

/-! ## Listeners -/

/-- A run with a listener, which takes in each event as it is made: the result of the run, and what
became of the listener. -/
def Reported.heardBy {α σ : Type} (hear : σ → AuditEvent → σ) (times : Nat → Text) (listener : σ)
    (reported : Reported α) : α × σ :=
  (reported.value, (reported.events times).foldl hear listener)

theorem Reported.Matches.heardBy {α σ : Type} {left right : Reported α}
    (same : left.Matches True right) (hear : σ → AuditEvent → σ) (times : Nat → Text)
    (listener : σ) : left.heardBy hear times listener = right.heardBy hear times listener := by
  unfold Reported.heardBy events
  rw [same.value, same.decisions trivial]

/-- Who watches a run has no part in its result. What a validator answers is up to the value and the
site, what a check makes of a tag is up to the tag and the site. A call comes to the same traced or
not, and its trail too, whatever listens to it; the result is the same with any other listener. -/
theorem observation_inert :
    (∀ validator : Validator, ∃ answer : Site → Option Text → Except Rejection Text,
      ∀ context raw, (validator.check context raw).value = answer context.environment.site raw) ∧
    (∀ (equivalents : Equivalents) (chain : CompiledChain), ∃ outcome : Site → Tag → Verdict × Tag,
      ∀ quiet environment tag,
        (Chain.check equivalents quiet environment (Validator.checkChain chain) tag).value =
          outcome environment.site tag) ∧
    ∀ (sanitizer : Sanitizer) (verbose : Bool) (raw : Text) (times : Nat → Text),
      ((sanitizer.withVerbose verbose).sanitize raw).events times =
        (sanitizer.sanitize raw).events times ∧
      ∀ (σ : Type) (hear : σ → AuditEvent → σ) (listener : σ),
        ((sanitizer.withVerbose verbose).sanitize raw).heardBy hear times listener =
          (sanitizer.sanitize raw).heardBy hear times listener ∧
        ∀ (τ : Type) (other : τ → AuditEvent → τ) (another : τ),
          ((sanitizer.sanitize raw).heardBy hear times listener).1 =
            ((sanitizer.sanitize raw).heardBy other times another).1 := by
  refine ⟨fun validator => ?_, fun equivalents chain => ?_, fun sanitizer verbose raw times => ?_⟩
  -- The answer is that of a quiet check in a context that tells nothing but the site.
  · let detached (site : Site) : Context := ⟨[], [], true, ⟨site, false⟩⟩
    refine ⟨fun site raw => (validator.check (detached site) raw).value, fun context raw => ?_⟩
    have alike : Context.Alike False context (detached context.environment.site) :=
      ⟨rfl, False.elim, False.elim, False.elim⟩
    exact (validator.steady_check _ _ raw alike).value
  · refine ⟨fun site tag =>
      (Chain.check equivalents true ⟨site, false⟩ (Validator.checkChain chain) tag).value, ?_⟩
    intro quiet environment tag
    have steady : Chain.Steady False (Validator.checkChain chain) :=
      Validator.steady_checkChain chain
    have sameSite : environment.site = (⟨environment.site, false⟩ : Environment).site := rfl
    exact (Chain.matches_check sameSite False.elim tag equivalents steady).value
  · have same : ((sanitizer.withVerbose verbose).sanitize raw).Matches True
        (sanitizer.sanitize raw) := sanitizer.matches_sanitize verbose raw
    refine ⟨?_, fun σ hear listener => ⟨same.heardBy hear times listener, ?_⟩⟩
    · unfold events
      rw [same.decisions trivial]
    · intro τ other another
      rfl

end SafeMarkup
