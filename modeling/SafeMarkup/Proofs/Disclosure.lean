import SafeMarkup.Proofs.Trail

/-!
Contract: tags that are refused as invalid, and whether the audit trail tells of it.

Owns: the law of telling, by which a check aloud that finds a value invalid has recorded a decision;
its proof for every kind of validator but one; the validators that hush what is nested in them; and
chains whose last rule set refuses a tag.

Does not own: what a decision says, and that other results leave none.

## Why slots are apart

Parts of a sequence are checked as loudly as the sequence, so what refuses a part has told of it. A
style is checked by runs of its own and tells of their refusals once more. Slots are checked
quietly, because a slot that does not fit is left out, and nobody tells of an invalid part
afterwards.
-/

namespace SafeMarkup

open Reported

/-! ## Telling -/

namespace Reported

variable {α β : Type} {bad : α → Prop} {worse : β → Prop} {first : Reported α}
  {next : α → Reported β}

theorem decisions_bind_ne_nil_left (heard : first.decisions ≠ []) :
    (first >>= next).decisions ≠ [] := by
  intro nothing
  rw [decisions_bind] at nothing
  exact heard (List.append_eq_nil_iff.mp nothing).1

theorem decisions_bind_ne_nil_right (heard : (next first.value).decisions ≠ []) :
    (first >>= next).decisions ≠ [] := by
  intro nothing
  rw [decisions_bind] at nothing
  exact heard (List.append_eq_nil_iff.mp nothing).2

theorem decisions_map (f : α → β) (reported : Reported α) :
    (f <$> reported).decisions = reported.decisions := by
  rw [map_eq_pure_bind, decisions_bind]
  exact List.append_nil _

theorem Candid.decisions_bind_of_not {quiet : Bool} (candid : first.Candid quiet bad)
    (good : ¬bad first.value) : (first >>= next).decisions = (next first.value).decisions := by
  rw [decisions_bind, candid.silent_of_not good]
  exact List.nil_append _

/-- A bad result has left a decision. -/
def Telling (bad : α → Prop) (reported : Reported α) : Prop :=
  bad reported.value → reported.decisions ≠ []

theorem telling_of_good (good : ¬bad first.value) : first.Telling bad := by
  intro badly
  exact absurd badly good

theorem Telling.before {answer : α} (told : first.Telling bad) (answered : first.value = answer)
    (badly : bad answer) : (first >>= next).Telling worse := by
  intro _
  apply decisions_bind_ne_nil_left
  apply told
  rw [answered]
  exact badly

theorem Telling.behind {answer : α} (answered : first.value = answer)
    (told : (next answer).Telling worse) : (first >>= next).Telling worse := by
  subst answered
  intro badly
  apply decisions_bind_ne_nil_right
  exact told badly

/-- What is made of an accepted result makes no difference. -/
theorem Telling.map {α β : Type} {reported : Reported (Except Rejection α)}
    (told : reported.Telling (· = .error .invalid)) (f : α → β) :
    Telling (· = .error .invalid) (do return (← reported).map f) := by
  intro refused
  have invalid : reported.value = .error .invalid := Matching.eq_error_of_map refused
  apply decisions_bind_ne_nil_left
  exact told invalid

end Reported

/-- A check that tells, where it is not quiet, of every value it finds invalid. -/
def Check.Telling (check : Check) : Prop :=
  ∀ context raw, context.quiet = false → (check context raw).Telling (· = .error .invalid)

def Core.Telling (core : Core) : Prop :=
  ∀ context raw value, context.quiet = false →
    (core context raw value).Telling (· = .error .invalid)

def Matching.Telling (matching : Matching) : Prop :=
  ∀ context parts, context.quiet = false →
    (matching context parts).Telling (· = .error .invalid)

/-! ## Single values -/

theorem decisions_reportInvalid_ne_nil (kind : Text) {context : Context} (raw : Option Text)
    (value : Text) (loud : context.quiet = false) :
    (reportRejection kind context raw value .invalid).decisions ≠ [] := by
  have speaking : ¬(context.quiet || (Rejection.invalid == .absentOptional && raw.isNone)) := by
    rw [loud]
    exact Bool.false_ne_true
  rw [reportRejection, if_neg speaking]
  apply decisions_bind_ne_nil_right
  exact List.cons_ne_nil _ _

namespace Options

variable (options : Options) (kind : Text)

theorem telling_refuse (context : Context) (raw : Option Text) (value : Text) :
    (options.refuse kind context raw value).Telling (· = .error .invalid) :=
  telling_of_good refuse_ne_invalid

theorem decisions_refuse (context : Context) (raw : Option Text) (value : Text) :
    (options.refuse kind context raw value).decisions = [] :=
  (options.candid_refuse kind context raw value).silent_of_not refuse_ne_invalid

/-- Validations record what the kind of the validator does, unless they refuse all values. -/
theorem decisions_check {core : Core} {context : Context} {raw : Option Text}
    (usual : options.invalid = false)
    (silent : ∀ written value, (core context written value).decisions = []) :
    (options.check kind core context raw).decisions = [] := by
  have considered : (options.consider kind core context raw).decisions = [] := by
    cases raw with
    | none => exact options.decisions_refuse kind context none []
    | some written =>
        rw [consider]
        split
        · exact options.decisions_refuse kind context (some written) []
        · exact silent written _
  have concluded (value : Text) : (options.conclude kind context raw value).decisions = [] := by
    rw [conclude, if_neg (by rw [usual]; exact Bool.false_ne_true)]
    rfl
  rw [check, decisions_bind, considered, List.nil_append]
  split
  · exact concluded _
  · exact concluded _
  · rfl

theorem telling_consider {core : Core} (told : core.Telling) :
    Check.Telling (options.consider kind core) := by
  intro context raw loud
  cases raw with
  | none => exact options.telling_refuse kind context none []
  | some written =>
      rw [consider]
      split
      · exact options.telling_refuse kind context (some written) []
      · exact told context written _ loud

theorem telling_conclude {context : Context} (raw : Option Text) (value : Text)
    (loud : context.quiet = false) :
    (options.conclude kind context raw value).Telling (· = .error .invalid) := by
  unfold conclude
  split
  · intro _
    exact decisions_reportInvalid_ne_nil kind raw value loud
  · exact telling_of_good nofun

theorem telling_check {core : Core} (told : core.Telling) :
    Check.Telling (options.check kind core) := by
  intro context raw loud
  have considered := options.telling_consider kind told context raw loud
  rw [check]
  cases answered : (options.consider kind core context raw).value with
  | ok value => exact .behind answered (options.telling_conclude kind raw value loud)
  | error rejection =>
      cases rejection with
      | invalid => exact considered.before answered rfl
      | defaultApplied => exact .behind answered (options.telling_conclude kind raw _ loud)
      | missingRequired => exact .behind answered (telling_of_good (by rintro ⟨⟩))
      | absentOptional => exact .behind answered (telling_of_good (by rintro ⟨⟩))
      | sequenceInconsistent => exact .behind answered (telling_of_good (by rintro ⟨⟩))

end Options

/-! ## Values of several parts -/

namespace Matching

variable {item : Check}

theorem telling_free (told : item.Telling) : (free item).Telling := by
  intro context parts loud
  induction parts with
  | nil => exact telling_of_good (by rintro ⟨⟩)
  | cons part parts inductionHypothesis =>
      have here := told context (some part) loud
      rw [free]
      cases answered : (item context (some part)).value with
      | ok value => exact .behind answered (inductionHypothesis.map (value :: ·))
      | error rejection =>
          cases rejection with
          | invalid => exact here.before answered rfl
          | absentOptional => exact .behind answered inductionHypothesis
          | missingRequired => exact .behind answered (telling_of_good (by rintro ⟨⟩))
          | defaultApplied => exact .behind answered (telling_of_good (by rintro ⟨⟩))
          | sequenceInconsistent => exact .behind answered (telling_of_good (by rintro ⟨⟩))

theorem telling_all (told : item.Telling) : (all item).Telling := by
  intro context parts loud
  induction parts with
  | nil => exact telling_of_good (by rintro ⟨⟩)
  | cons part parts inductionHypothesis =>
      have here := told context (some part) loud
      rw [all]
      cases answered : (item context (some part)).value with
      | ok value => exact .behind answered (inductionHypothesis.map (value :: ·))
      | error rejection =>
          cases rejection with
          | invalid => exact here.before answered rfl
          | absentOptional => exact .behind answered (telling_of_good (by rintro ⟨⟩))
          | missingRequired => exact .behind answered (telling_of_good (by rintro ⟨⟩))
          | defaultApplied => exact .behind answered (telling_of_good (by rintro ⟨⟩))
          | sequenceInconsistent => exact .behind answered (telling_of_good (by rintro ⟨⟩))

theorem telling_indent (told : item.Telling) : (indent item).Telling := by
  intro context parts loud
  unfold indent
  split
  · exact telling_all told context parts loud
  · exact telling_of_good nofun

end Matching

/-- A value of several parts is invalid only where its parts are. -/
theorem sequenceCore_eq_invalid_iff {options : Options} {kind : Text} {delimiters : Delimiters}
    {matching : Matching} {context : Context} {raw value : Text} :
    (sequenceCore options kind delimiters matching context raw value).value = .error .invalid ↔
      (matching context (Text.splitOn delimiters.delimiter (spaced value))).value =
        .error .invalid := by
  simp only [sequenceCore, Reported.value_bind]
  constructor
  · intro refused
    split at refused
    case h_1 => exact absurd refused Options.refuse_ne_invalid
    case h_2 => cases refused
    case h_3 matched => exact matched
    case h_4 => exact absurd refused Options.refuse_ne_invalid
  · intro matched
    rw [matched]
    rfl

theorem telling_sequenceCore {matching : Matching} (told : matching.Telling) (options : Options)
    (kind : Text) (delimiters : Delimiters) :
    (sequenceCore options kind delimiters matching).Telling := by
  intro context raw value loud refused
  have matched := sequenceCore_eq_invalid_iff.mp refused
  apply decisions_bind_ne_nil_left
  exact told context _ loud matched

theorem decisions_sequenceCore {matching : Matching} {context : Context}
    (silent : ∀ parts, (matching context parts).decisions = []) (options : Options) (kind : Text)
    (delimiters : Delimiters) (raw value : Text) :
    (sequenceCore options kind delimiters matching context raw value).decisions = [] := by
  unfold sequenceCore
  rw [decisions_bind, silent, List.nil_append]
  split
  · exact options.decisions_refuse kind context (some raw) (spaced value)
  · rfl
  · rfl
  · rw [decisions_bind, decisions_noteIf_trace, List.nil_append]
    exact options.decisions_refuse kind context (some raw) (spaced value)

/-! ## Styles -/

/-- Whatever refuses a declaration, and however quietly, the style tells of it. -/
theorem StyleRules.telling_core (rules : StyleRules) (options : Options) :
    (rules.core options).Telling := by
  intro context raw value loud
  rw [core]
  cases kept : (rules.keepFrom context (declarations (spaced value))).value with
  | none =>
      refine .behind kept ?_
      intro _
      exact decisions_reportInvalid_ne_nil "style" (some raw) (spaced value) loud
  | some declared =>
      refine .behind kept (telling_of_good ?_)
      cases declared with
      | nil => exact Options.refuse_ne_invalid
      | cons declaration others => rintro ⟨⟩

/-! ## Validators -/

namespace Validator

/-- Validators that can refuse a value without a record: those with slots, if a slot or anything
nested in it refuses values as invalid, and sequences of such validators. -/
inductive Hushing : Validator → Prop where
  | slot {options : Options} {delimiters : Delimiters} {slots : List Validator}
      {slot inner : Validator} (member : slot ∈ slots) (within : Within inner slot)
      (flagged : inner.options.invalid = true) : Hushing (.complex options delimiters slots)
  | item {options : Options} {delimiters : Delimiters} {item : Validator}
      (hushing : Hushing item) : Hushing (.sequence options delimiters item)
  | width {options : Options} {delimiters : Delimiters} {item : Validator}
      (hushing : Hushing item) : Hushing (.indent options delimiters item)

theorem hushing_of_complex {options : Options} {delimiters : Delimiters} {slots : List Validator}
    {context : Context} {raw value : Text}
    (refused : ((complex options delimiters slots).core context raw value).value =
      .error .invalid) : Hushing (.complex options delimiters slots) := by
  have matched := sequenceCore_eq_invalid_iff.mp refused
  obtain ⟨check, member, part, invalid⟩ := Matching.slots_eq_invalid matched
  rw [checkSlots_eq_map] at member
  obtain ⟨slot, listed, rfl⟩ := List.mem_map.mp member
  obtain ⟨inner, within, flagged⟩ := slot.exists_flagged invalid
  exact .slot listed within flagged

theorem telling_core {validator : Validator} (outspoken : ¬validator.Hushing)
    (told : ∀ part, PartOf part validator → ¬part.Hushing → part.check.Telling) :
    validator.core.Telling := by
  cases validator with
  | simple options kind =>
      intro context raw value loud
      exact telling_of_good (Simple.core_ne_invalid options kind)
  | sequence options delimiters item =>
      have here : item.check.Telling := told item .item fun hushing => outspoken (.item hushing)
      exact telling_sequenceCore (Matching.telling_free here) options "sequence" delimiters
  | indent options delimiters item =>
      have here : item.check.Telling := told item .width fun hushing => outspoken (.width hushing)
      exact telling_sequenceCore (Matching.telling_indent here) options "indent" delimiters
  | complex options delimiters slots =>
      intro context raw value loud
      exact telling_of_good fun refused => outspoken (hushing_of_complex refused)
  | style options name properties equivalents => exact StyleRules.telling_core _ options

/-- A validator that hushes nothing tells of every value it finds invalid. -/
theorem telling_check (validator : Validator) (outspoken : ¬validator.Hushing) :
    validator.check.Telling := by
  induction validator using part_induction with
  | step validator inductionHypothesis =>
      rw [check_eq]
      have told := telling_core outspoken inductionHypothesis
      exact validator.options.telling_check validator.kind told

/-- A refusal aloud is recorded, or the validator hushes what is nested in it. -/
theorem recorded_or_hushing (validator : Validator) {context : Context} {raw : Option Text}
    (loud : context.quiet = false)
    (refused : (validator.check context raw).value = .error .invalid) :
    (∃ decision ∈ (validator.check context raw).decisions, decision.accepted = false) ∨
      ((validator.check context raw).decisions = [] ∧ validator.Hushing) := by
  by_cases silent : (validator.check context raw).decisions = []
  · right
    refine ⟨silent, ?_⟩
    by_contra outspoken
    exact validator.telling_check outspoken context raw loud refused silent
  · left
    obtain ⟨decision, recorded⟩ := List.exists_mem_of_ne_nil _ silent
    have refuses := (validator.candid_check context raw decision recorded).2.2
    exact ⟨decision, recorded, refuses.refused⟩

/-- What slots find invalid is passed on without a word, however loud the check is: a validator with
slots leaves no record of any value, unless it refuses all of them. -/
theorem decisions_complex {options : Options} (delimiters : Delimiters) (slots : List Validator)
    (context : Context) (raw : Option Text) (usual : options.invalid = false) :
    ((complex options delimiters slots).check context raw).decisions = [] := by
  rw [check_eq]
  refine options.decisions_check "complex" usual fun written value => ?_
  refine decisions_sequenceCore (fun parts => ?_) options "complex" delimiters written value
  refine Matching.decisions_slots (fun check member => ?_) context parts
  rw [checkSlots_eq_map] at member
  obtain ⟨slot, _, rfl⟩ := List.mem_map.mp member
  exact slot.candid_check

end Validator

/-! ## Tags -/

namespace RuleSet

variable {tag : Tag} {environment : Environment} {quiet : Bool}

theorem attemptFrom_eq_invalid {checks : RuleSet} {accepted : Dictionary Text}
    (candid : checks.Candid)
    (refused : (attemptFrom tag environment quiet checks accepted).value = .invalid) :
    ∃ name check, (name, check) ∈ checks ∧
      (check ⟨tag.name, name, quiet, environment⟩ (tag.get? name)).value = .error .invalid ∧
      (attemptFrom tag environment quiet checks accepted).decisions =
        (check ⟨tag.name, name, quiet, environment⟩ (tag.get? name)).decisions := by
  induction checks generalizing accepted with
  | nil => cases refused
  | cons entry rest inductionHypothesis =>
      obtain ⟨first, check⟩ := entry
      obtain ⟨here, behind⟩ := List.forall_mem_cons.mp candid
      have told := here ⟨tag.name, first, quiet, environment⟩ (tag.get? first)
      by_cases invalid :
          (check ⟨tag.name, first, quiet, environment⟩ (tag.get? first)).value = .error .invalid
      · refine ⟨first, check, List.mem_cons_self, invalid, ?_⟩
        rw [attemptFrom, decisions_bind, invalid]
        exact List.append_nil _
      · have later {values : Dictionary Text}
            (refused : (attemptFrom tag environment quiet rest values).value = .invalid) :
            ∃ name found, (name, found) ∈ (first, check) :: rest ∧
              (found ⟨tag.name, name, quiet, environment⟩ (tag.get? name)).value =
                .error .invalid ∧
              (attemptFrom tag environment quiet rest values).decisions =
                (found ⟨tag.name, name, quiet, environment⟩ (tag.get? name)).decisions := by
          obtain ⟨name, found, member, rest⟩ := inductionHypothesis behind refused
          exact ⟨name, found, List.mem_cons_of_mem _ member, rest⟩
        rw [attemptFrom, Reported.value_bind] at refused
        rw [attemptFrom, told.decisions_bind_of_not invalid]
        generalize (check ⟨tag.name, first, quiet, environment⟩ (tag.get? first)).value = answer
          at refused invalid ⊢
        cases answer with
        | ok value => exact later refused
        | error rejection =>
            cases rejection with
            | absentOptional => exact later refused
            | defaultApplied => exact later refused
            | missingRequired => cases refused
            | sequenceInconsistent => cases refused
            | invalid => exact absurd rfl invalid

/-- A rule set that refuses a tag does so for one value, and records what was recorded of it. -/
theorem attempt_eq_invalid_of_candid {equivalents : Equivalents} {ruleSet : RuleSet}
    (candid : ruleSet.Candid)
    (refused : (attempt equivalents tag environment quiet ruleSet).value = .invalid) :
    ∃ name check, (name, check) ∈ expand equivalents ruleSet ∧
      (check ⟨tag.name, name, quiet, environment⟩ (tag.get? name)).value = .error .invalid ∧
      (attempt equivalents tag environment quiet ruleSet).decisions =
        (check ⟨tag.name, name, quiet, environment⟩ (tag.get? name)).decisions :=
  attemptFrom_eq_invalid (candid.expand equivalents) refused

end RuleSet

namespace Chain

variable {equivalents : Equivalents} {environment : Environment} {tag : Tag}

/-- Where all rule sets before the last fall back, the last one decides, and nothing but what it
records is recorded. -/
theorem decisive_concat {before : Chain} (last : RuleSet) (candid : before.Candid)
    (fallBack : ∀ earlier ∈ before,
      (RuleSet.attempt equivalents tag environment true earlier).value = .fallback) :
    (decisive equivalents false environment tag (before ++ [last])).value =
        (RuleSet.attempt equivalents tag environment false last).value ∧
      (decisive equivalents false environment tag (before ++ [last])).decisions =
        (RuleSet.attempt equivalents tag environment false last).decisions := by
  induction before with
  | nil =>
      rw [List.nil_append, decisive, Reported.value_bind, decisions_bind]
      have loud : (false || !([] : Chain).isEmpty) = false := rfl
      rw [loud]
      cases (RuleSet.attempt equivalents tag environment false last).value with
      | accepted values => exact ⟨rfl, List.append_nil _⟩
      | invalid => exact ⟨rfl, List.append_nil _⟩
      | fallback =>
          refine ⟨rfl, ?_⟩
          rw [decisions_bind, decisions_noteIf_trace]
          exact List.append_nil _
  | cons ruleSet rest inductionHypothesis =>
      obtain ⟨here, behind⟩ := List.forall_mem_cons.mp candid
      obtain ⟨falls, others⟩ := List.forall_mem_cons.mp fallBack
      have quietly : (false || !(rest ++ [last]).isEmpty) = true := by simp
      have silent : (RuleSet.attempt equivalents tag environment true ruleSet).decisions = [] :=
        (RuleSet.candid_attemptFrom (here.expand equivalents) []).silent_of_quiet
      rw [List.cons_append, decisive, quietly, Reported.value_bind, decisions_bind, silent, falls]
      rw [List.nil_append, decisions_bind, decisions_noteIf_trace]
      exact inductionHypothesis behind others

/-- A tag that is refused as invalid after all other rule sets fell back is refused for one value,
and what is recorded of the tag is what was recorded of that value. Either there is a refusal in it,
or it is empty and the validator of the value hushes what is nested in it. -/
theorem refusal_recorded (equivalents : Equivalents) (environment : Environment) (tag : Tag)
    {before : List (List (Text × Validator))} {last : List (Text × Validator)}
    (fallBack : ∀ earlier ∈ before, (RuleSet.attempt equivalents tag environment true
      (Validator.checkRuleSet earlier)).value = .fallback)
    (refused : (check equivalents false environment (Validator.checkChain (before ++ [last]))
      tag).value.1 = .invalid) :
    ∃ canonical validator name, (canonical, validator) ∈ last ∧
      (name = canonical ∨ name ∈ equivalents.aliasesOf canonical) ∧
      (validator.check ⟨tag.name, name, false, environment⟩ (tag.get? name)).value =
        .error .invalid ∧
      (check equivalents false environment (Validator.checkChain (before ++ [last]))
          tag).decisions =
        (validator.check ⟨tag.name, name, false, environment⟩ (tag.get? name)).decisions ∧
      ((∃ decision ∈ (check equivalents false environment
          (Validator.checkChain (before ++ [last])) tag).decisions, decision.accepted = false) ∨
        ((check equivalents false environment
          (Validator.checkChain (before ++ [last])) tag).decisions = [] ∧ validator.Hushing)) := by
  have cut : Validator.checkChain (before ++ [last]) =
      Validator.checkChain before ++ [Validator.checkRuleSet last] := by
    simp only [Validator.checkChain_eq_map, List.map_append, List.map_cons, List.map_nil]
  have nonempty : Validator.checkChain before ++ [Validator.checkRuleSet last] ≠ [] := by simp
  have earlierFallBack : ∀ checks ∈ Validator.checkChain before,
      (RuleSet.attempt equivalents tag environment true checks).value = .fallback := by
    intro checks member
    rw [Validator.checkChain_eq_map] at member
    obtain ⟨ruleSet, inside, rfl⟩ := List.mem_map.mp member
    exact fallBack ruleSet inside
  obtain ⟨decided, recorded⟩ :=
    decisive_concat (Validator.checkRuleSet last) (Validator.candid_checkChain before)
      earlierFallBack
  rw [cut, check_eq nonempty] at refused ⊢
  rw [decisions_map, recorded]
  have attempted := carryOut_eq_invalid refused
  rw [decided] at attempted
  have candid : RuleSet.Candid (Validator.checkRuleSet last) :=
    Validator.candid_checkChain [last] _ List.mem_cons_self
  obtain ⟨name, check, member, invalid, same⟩ :=
    RuleSet.attempt_eq_invalid_of_candid candid attempted
  obtain ⟨canonical, standing, standsFor⟩ := RuleSet.mem_expand.mp member
  rw [Validator.checkRuleSet_eq_map] at standing
  obtain ⟨⟨key, validator⟩, listed, written⟩ := List.mem_map.mp standing
  obtain ⟨rfl, rfl⟩ := Prod.mk.inj written
  refine ⟨key, validator, name, listed, standsFor, invalid, same, ?_⟩
  rw [same]
  exact validator.recorded_or_hushing rfl invalid

/-- Links, and anything else with a style whose borders are in slots that refuse all values. -/
def linkRules : List (Text × Validator) := [("href", Validator.text.required)]

def styleRules : List (Text × Validator) :=
  [("style", ((StyleTable.new "s").withProperty "border"
    (Validator.complexOf [Validator.text.alwaysInvalid])).validator)]

def bordered : Tag := ⟨"p", [("style", "border: x")]⟩

-- The slot is quiet, and so is the run over the border; the style tells of it.
theorem refusal_recorded_bordered :
    (RuleSet.attempt ⟨[]⟩ bordered .detached true (Validator.checkRuleSet linkRules)).value =
        .fallback ∧
      (check ⟨[]⟩ false .detached (Validator.checkChain ([linkRules] ++ [styleRules]))
        bordered).value.1 = .invalid ∧
      ∃ decision ∈ (check ⟨[]⟩ false .detached (Validator.checkChain ([linkRules] ++ [styleRules]))
        bordered).decisions, decision.accepted = false := by
  have fallBack : (RuleSet.attempt ⟨[]⟩ bordered .detached true
      (Validator.checkRuleSet linkRules)).value = .fallback := by decide
  have refused : (check ⟨[]⟩ false .detached (Validator.checkChain ([linkRules] ++ [styleRules]))
      bordered).value.1 = .invalid := by decide +kernel
  refine ⟨fallBack, refused, ?_⟩
  obtain ⟨canonical, validator, name, listed, _, _, _, recorded | ⟨_, hushing⟩⟩ :=
    refusal_recorded ⟨[]⟩ .detached bordered (List.forall_mem_singleton.mpr fallBack) refused
  · exact recorded
  · obtain ⟨-, rfl⟩ := Prod.mk.inj (List.mem_singleton.mp listed)
    cases hushing

/-- The same slots in place of a style. -/
def slotRules : List (Text × Validator) :=
  [("style", Validator.complexOf [Validator.text.alwaysInvalid])]

/-- A tag is refused aloud for a slot, and nothing is recorded. -/
theorem refused_for_slot :
    (check ⟨[]⟩ false .detached (Validator.checkChain [slotRules]) bordered).value.1 = .invalid ∧
      (check ⟨[]⟩ false .detached (Validator.checkChain [slotRules]) bordered).decisions = [] :=
  ⟨by decide +kernel, by decide +kernel⟩

end Chain
end SafeMarkup
