import SafeMarkup.Validator.Basic

/-!
Contract: what the requirement of a validator makes of a value that cannot be accepted.

Owns: the rejections that a validator can give, whatever its kind; where an accepted value comes from;
and what it says of a value that is absent.

Does not own: which values a kind accepts.
-/

namespace SafeMarkup

variable {kind : Text} {context : Context} {raw : Option Text} {value : Text}

@[simp] theorem value_reportRejection (rejection : Rejection) :
    (reportRejection kind context raw value rejection).value = .error rejection := by
  unfold reportRejection
  split
  · rfl
  · rfl

theorem reportRejection_absent :
    reportRejection kind context none value .absentOptional = pure (.error .absentOptional) := by
  simp [reportRejection]

namespace Requirement

variable {requirement : Requirement}

theorem rejection_ne_invalid (requirement : Requirement) : requirement.rejection ≠ .invalid := by
  cases requirement <;> exact nofun

theorem rejection_ne_inconsistent (requirement : Requirement) :
    requirement.rejection ≠ .sequenceInconsistent := by
  cases requirement <;> exact nofun

theorem eq_required (missing : requirement.rejection = .missingRequired) :
    requirement = .required := by
  cases requirement with
  | required => rfl
  | _ => exact absurd missing nofun

theorem eq_optional (absent : requirement.rejection = .absentOptional) :
    requirement = .optional := by
  cases requirement with
  | optional => rfl
  | _ => exact absurd absent nofun

end Requirement

/-- The check of a kind refuses as the requirement calls for, or because a part of the value is
invalid. -/
def Core.Follows (core : Core) (options : Options) : Prop :=
  ∀ context raw value rejection, (core context raw value).value = .error rejection →
    rejection = .invalid ∨ rejection = options.requirement.rejection

namespace Options

variable {options : Options}

@[simp] theorem value_refuse :
    (options.refuse kind context raw value).value = .error options.requirement.rejection := by
  simp [refuse]

theorem eq_of_refuse {rejection : Rejection}
    (refused : (options.refuse kind context raw value).value = .error rejection) :
    rejection = options.requirement.rejection := by
  rw [value_refuse] at refused
  exact (Except.error.inj refused).symm

theorem refuse_ne_invalid : (options.refuse kind context raw value).value ≠ .error .invalid := by
  intro refused
  exact options.requirement.rejection_ne_invalid (eq_of_refuse refused).symm

theorem consider_eq_error {core : Core} (follows : core.Follows options) {rejection : Rejection}
    (refused : (options.consider kind core context raw).value = .error rejection) :
    rejection = .invalid ∨ rejection = options.requirement.rejection := by
  cases raw with
  | none => exact .inr (eq_of_refuse refused)
  | some written =>
      rw [consider] at refused
      split at refused
      · exact .inr (eq_of_refuse refused)
      · exact follows _ _ _ _ refused

theorem conclude_eq_error {rejection : Rejection}
    (refused : (options.conclude kind context raw value).value = .error rejection) :
    rejection = .invalid := by
  unfold conclude at refused
  split at refused
  · rw [value_reportRejection] at refused
    exact (Except.error.inj refused).symm
  · exact absurd refused nofun

theorem consider_eq_invalid {core : Core}
    (refused : (options.consider kind core context raw).value = .error .invalid) :
    ∃ written value, (core context written value).value = .error .invalid := by
  cases raw with
  | none => exact absurd refused refuse_ne_invalid
  | some written =>
      rw [consider] at refused
      split at refused
      · exact absurd refused refuse_ne_invalid
      · exact ⟨_, _, refused⟩

theorem conclude_eq_invalid
    (refused : (options.conclude kind context raw value).value = .error .invalid) :
    options.invalid = true := by
  unfold conclude at refused
  split at refused
  case isTrue flagged => exact flagged
  case isFalse => exact absurd refused nofun

/-- A validation refuses a value as invalid or as its requirement calls for. A value that is to be
replaced is never refused for being absent. -/
theorem check_eq_error {core : Core} (follows : core.Follows options) {rejection : Rejection}
    (refused : (options.check kind core context raw).value = .error rejection) :
    rejection = .invalid ∨
      (rejection = options.requirement.rejection ∧ rejection ≠ .defaultApplied) := by
  rw [check, Reported.value_bind] at refused
  split at refused
  case h_1 value accepted => exact .inl (conclude_eq_error refused)
  case h_2 replaced => exact .inl (conclude_eq_error refused)
  case h_3 other notReplaced considered =>
    obtain rfl := Except.error.inj refused
    rcases consider_eq_error follows considered with invalid | required
    · exact .inl invalid
    · refine .inr ⟨required, ?_⟩
      rintro rfl
      exact notReplaced rfl

/-- A validation refuses a value as invalid if all values are refused so, or if its kind does. -/
theorem check_eq_invalid {core : Core}
    (refused : (options.check kind core context raw).value = .error .invalid) :
    options.invalid = true ∨ ∃ written value, (core context written value).value = .error .invalid := by
  rw [check, Reported.value_bind] at refused
  split at refused
  case h_1 => exact .inl (conclude_eq_invalid refused)
  case h_2 => exact .inl (conclude_eq_invalid refused)
  case h_3 other _ considered =>
    obtain rfl := Except.error.inj refused
    exact .inr (consider_eq_invalid considered)

/-! ## Accepted values -/

/-- The text that the kind of a validator looks at. -/
def looked (options : Options) (written : Text) : Text :=
  if options.strip then Text.trim written else written

theorem consider_eq_ok {core : Core}
    (accepted : (options.consider kind core context raw).value = .ok value) :
    ∃ written, raw = some written ∧
      (core context written (options.looked written)).value = .ok value := by
  cases raw with
  | none =>
      rw [consider, value_refuse] at accepted
      exact absurd accepted nofun
  | some written =>
      rw [consider] at accepted
      split at accepted
      · rw [value_refuse] at accepted
        exact absurd accepted nofun
      · exact ⟨written, rfl, accepted⟩

theorem conclude_eq_ok {given : Text}
    (accepted : (options.conclude kind context raw value).value = .ok given) :
    options.invalid = false ∧ value = given := by
  unfold conclude at accepted
  split at accepted
  · rw [value_reportRejection] at accepted
    exact absurd accepted nofun
  case isFalse sound => exact ⟨by simpa using sound, Except.ok.inj accepted⟩

/-- A value that is given out was accepted by the kind, or it takes the place of one that was not.
A validation that refuses all values as invalid gives out none. -/
theorem check_eq_ok {core : Core} (follows : core.Follows options)
    (accepted : (options.check kind core context raw).value = .ok value) :
    options.invalid = false ∧ (options.requirement = .substitute value ∨
      ∃ written, raw = some written ∧
        (core context written (options.looked written)).value = .ok value) := by
  rw [check, Reported.value_bind] at accepted
  split at accepted
  case h_1 given considered =>
    obtain ⟨sound, rfl⟩ := conclude_eq_ok accepted
    exact ⟨sound, .inr (consider_eq_ok considered)⟩
  case h_2 considered =>
    obtain ⟨sound, rfl⟩ := conclude_eq_ok accepted
    refine ⟨sound, .inl ?_⟩
    rcases consider_eq_error follows considered with invalid | required
    · exact absurd invalid nofun
    · cases requirement : options.requirement with
      | required => exact absurd (requirement ▸ required) nofun
      | optional => exact absurd (requirement ▸ required) nofun
      | substitute usual => rfl
  case h_3 => exact absurd accepted nofun

theorem check_of_core {core : Core} (sound : options.invalid = false) {written : Text}
    (present : written ≠ [] ∨ options.allowEmpty)
    (accepted : (core context written (options.looked written)).value = .ok value) :
    (options.check kind core context (some written)).value = .ok value := by
  have counts : ¬(written.isEmpty && !options.allowEmpty) := by
    rcases present with nonempty | allowed
    · simp [nonempty]
    · simp [allowed]
  have considered : (options.consider kind core context (some written)).value = .ok value := by
    rw [consider, if_neg counts]
    exact accepted
  rw [check, Reported.value_bind, considered]
  simp [conclude, sound]

/-! ## Absent values -/

theorem check_none_of_optional (optional : options.requirement = .optional) (core : Core) :
    options.check kind core context none = pure (.error .absentOptional) := by
  have refused : options.consider kind core context none = pure (.error .absentOptional) := by
    rw [consider, refuse, optional]
    exact reportRejection_absent
  rw [check, refused]
  rfl

theorem check_none_of_required (required : options.requirement = .required) (core : Core) :
    (options.check kind core context none).value = .error .missingRequired := by
  have refused : (options.consider kind core context none).value = .error .missingRequired := by
    simp [consider, required, Requirement.rejection]
  rw [check, Reported.value_bind, refused]
  rfl

end Options

/-! ## Kinds -/

theorem Simple.follows_core (options : Options) (kind : Simple) :
    (kind.core options).Follows options := by
  intro context raw value rejection refused
  unfold Simple.core at refused
  split at refused
  · exact absurd refused nofun
  · exact .inr (Options.eq_of_refuse refused)

theorem Simple.accept_of_core {options : Options} {kind : Simple} {raw given : Text}
    (accepted : (kind.core options context raw value).value = .ok given) :
    kind.accept context.environment.site value = .ok given := by
  unfold Simple.core at accepted
  split at accepted
  case h_1 found =>
    obtain rfl := Except.ok.inj accepted
    exact found
  case h_2 =>
    rw [Options.value_refuse] at accepted
    exact absurd accepted nofun

theorem Simple.core_of_accept {options : Options} {kind : Simple} {raw given : Text}
    (accepted : kind.accept context.environment.site value = .ok given) :
    (kind.core options context raw value).value = .ok given := by
  simp [Simple.core, accepted]

theorem follows_sequenceCore (options : Options) (kind : Text) (delimiters : Delimiters)
    (matching : Matching) : (sequenceCore options kind delimiters matching).Follows options := by
  intro context raw value rejection refused
  simp only [sequenceCore, Reported.value_bind] at refused
  split at refused
  case h_1 => exact .inr (Options.eq_of_refuse refused)
  case h_2 => exact absurd refused nofun
  case h_3 => exact .inl (Except.error.inj refused).symm
  case h_4 => exact .inr (Options.eq_of_refuse refused)

theorem StyleRules.follows_core (options : Options) (rules : StyleRules) :
    (rules.core options).Follows options := by
  intro context raw value rejection refused
  simp only [StyleRules.core, Reported.value_bind] at refused
  split at refused
  case h_1 =>
    rw [value_reportRejection] at refused
    exact .inl (Except.error.inj refused).symm
  case h_2 => exact .inr (Options.eq_of_refuse refused)
  case h_3 => exact absurd refused nofun

namespace Validator

/-- The check that the kind of a validator stands for. -/
def core : Validator → Core
  | .simple options kind => kind.core options
  | .sequence options delimiters item =>
    sequenceCore options "sequence" delimiters (Matching.free item.check)
  | .indent options delimiters item =>
    sequenceCore options "indent" delimiters (Matching.indent item.check)
  | .complex options delimiters slots =>
    sequenceCore options "complex" delimiters fun context parts =>
      Matching.slots context (checkSlots slots) parts
  | .style options name properties equivalents =>
    StyleRules.core options ⟨name, checkProperties properties, equivalents⟩

/-- Every validator considers a value, looks at it by its kind and concludes. -/
theorem check_eq (validator : Validator) :
    validator.check = validator.options.check validator.kind validator.core := by
  cases validator <;> rfl

theorem follows_core (validator : Validator) : validator.core.Follows validator.options := by
  cases validator with
  | simple options kind => exact kind.follows_core options
  | sequence options delimiters item => exact follows_sequenceCore options _ delimiters _
  | indent options delimiters item => exact follows_sequenceCore options _ delimiters _
  | complex options delimiters slots => exact follows_sequenceCore options _ delimiters _
  | style options name properties equivalents => exact StyleRules.follows_core options _

variable {validator : Validator}

theorem check_eq_error {rejection : Rejection}
    (refused : (validator.check context raw).value = .error rejection) :
    rejection = .invalid ∨
      (rejection = validator.options.requirement.rejection ∧ rejection ≠ .defaultApplied) := by
  rw [check_eq] at refused
  exact Options.check_eq_error validator.follows_core refused

theorem check_eq_ok (accepted : (validator.check context raw).value = .ok value) :
    validator.options.invalid = false ∧ (validator.options.requirement = .substitute value ∨
      ∃ written, raw = some written ∧
        (validator.core context written (validator.options.looked written)).value = .ok value) := by
  rw [check_eq] at accepted
  exact Options.check_eq_ok validator.follows_core accepted

theorem check_of_core (sound : validator.options.invalid = false) {written : Text}
    (present : written ≠ [] ∨ validator.options.allowEmpty)
    (accepted :
      (validator.core context written (validator.options.looked written)).value = .ok value) :
    (validator.check context (some written)).value = .ok value := by
  rw [check_eq]
  exact Options.check_of_core sound present accepted

theorem check_none_of_optional (optional : validator.options.requirement = .optional) :
    validator.check context none = pure (.error .absentOptional) := by
  rw [check_eq]
  exact Options.check_none_of_optional optional validator.core

theorem check_none_of_required (required : validator.options.requirement = .required) :
    (validator.check context none).value = .error .missingRequired := by
  rw [check_eq]
  exact Options.check_none_of_required required validator.core

end Validator
end SafeMarkup
