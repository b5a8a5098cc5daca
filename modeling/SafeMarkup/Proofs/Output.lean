import SafeMarkup.Command.Run
import SafeMarkup.Proofs.Journal
import SafeMarkup.Proofs.Machine

/-!
Contract: what a run leaves behind.

Owns: what a run comes to before it writes its output, where the output and the audit log go, and
what every place of a machine holds once a run is over.

Does not own: what policies and the sanitizer make of markup.
-/

namespace SafeMarkup
namespace Run

open Machine (Tells Grows Touches Steps)

variable {machine before middle later : Machine} {options : RunOptions}

/-! ## Where things go -/

/-- A place that the audit log goes to. -/
def LogsTo (options : RunOptions) (machine : Machine) (place : Target) : Prop :=
  ∃ path, options.auditLog = some path ∧ machine.LeadsTo path place

/-- A place that the output goes to. -/
def WritesTo (options : RunOptions) (machine : Machine) (place : Target) : Prop :=
  match options.output with
  | some path => machine.LeadsTo path place
  | none => place = .standardOutput

/-- A place that takes what is no output: the audit log and the error stream. -/
def Aside (options : RunOptions) (machine : Machine) (place : Target) : Prop :=
  place = .standardError ∨ LogsTo options machine place

/-- Nothing has happened but that events were added to the audit log, and anything on the error
stream. -/
structure Logged (options : RunOptions) (before later : Machine) : Prop where
  grows : Grows (Aside options before) before later
  lines : ∀ place, place ≠ .standardError →
    ∃ events, later.content place = before.content place ++ AuditEvent.lines events

theorem Logged.refl (machine : Machine) : Logged options machine machine :=
  ⟨Grows.refl machine, fun _ _ => ⟨[], (List.append_nil _).symm⟩⟩

theorem Logged.leadsTo_iff (logged : Logged options before later) {path : Text} {place : Target} :
    later.LeadsTo path place ↔ before.LeadsTo path place :=
  logged.grows.leadsTo_iff

theorem Logged.aside_iff (logged : Logged options before later) (place : Target) :
    Aside options later place ↔ Aside options before place := by
  simp only [Aside, LogsTo, logged.leadsTo_iff]

theorem Logged.writesTo_iff (logged : Logged options before later) (place : Target) :
    WritesTo options later place ↔ WritesTo options before place := by
  unfold WritesTo
  cases options.output with
  | some path => exact logged.leadsTo_iff
  | none => exact Iff.rfl

theorem Logged.trans (first : Logged options before middle) (second : Logged options middle later) :
    Logged options before later := by
  refine ⟨first.grows.trans (second.grows.mono fun place => (first.aside_iff place).mp), ?_⟩
  intro place silent
  obtain ⟨events, one⟩ := first.lines place silent
  obtain ⟨more, another⟩ := second.lines place silent
  refine ⟨events ++ more, ?_⟩
  rw [another, one, List.append_assoc, AuditEvent.lines, AuditEvent.lines, AuditEvent.lines,
    List.flatMap_append]

theorem logged_of_tells (told : Tells before later) : Logged options before later :=
  ⟨told.grows (.inl rfl), fun _ silent => ⟨[], (told.content_eq silent).trans
    (List.append_nil _).symm⟩⟩

/-! ## Notes -/

theorem tells_showStatus (machine : Machine) (kind : StatusKind) (message : Text) :
    Tells machine (machine.after (showStatus Machine.outside kind message)) :=
  Machine.tells_report machine _

theorem tells_logNote (machine : Machine) (options : RunOptions) (note : Note) :
    Tells machine (machine.after (logNote Machine.outside options note)) :=
  Machine.tells_report machine _

theorem logged_append (machine : Machine) {path : Text} (chosen : options.auditLog = some path)
    (event : AuditEvent) :
    Logged options machine
      (machine.after (Machine.outside.append path (event.toLine ++ ['\n']))) := by
  refine Machine.after_onTarget (Logged options) (.refl machine) fun place leads => ⟨?_, ?_⟩
  · exact (Machine.grows_appendTarget machine _ place).mono fun _ same =>
      .inr ⟨path, chosen, same ▸ leads⟩
  · intro other _
    obtain same | more := Machine.content_appendTarget machine (event.toLine ++ ['\n']) place other
    · exact ⟨[], same.trans (List.append_nil _).symm⟩
    · exact ⟨[event], more.trans (congrArg _ (List.append_nil _).symm)⟩

theorem logged_recordDecision (machine : Machine) (options : RunOptions) (decision : Decision) :
    Logged options machine (machine.after (recordDecision Machine.outside options decision)) := by
  unfold recordDecision
  cases chosen : options.auditLog with
  | none => exact .refl machine
  | some path =>
      have appended := logged_append machine chosen (.ofDecision machine.clock decision)
      dsimp only
      rw [Machine.after_bind, Machine.after_bind]
      split
      · exact appended
      · exact appended.trans (logged_of_tells (tells_logNote _ options _))

theorem logged_handleNotes (machine : Machine) (options : RunOptions) (notes : List Note) :
    Logged options machine (machine.after (handleNotes Machine.outside options notes)) := by
  induction notes generalizing machine with
  | nil => exact .refl machine
  | cons note notes inductionHypothesis =>
      cases note with
      | decision decision =>
          exact (logged_recordDecision machine options decision).trans (inductionHypothesis _)
      | _ =>
          exact (logged_of_tells (tells_logNote machine options _)).trans (inductionHypothesis _)

/-- Notes without decisions are told and nothing else. -/
theorem tells_handleNotes (machine : Machine) (options : RunOptions) {notes : List Note}
    (undecided : ∀ note ∈ notes, note.decision? = none) :
    Tells machine (machine.after (handleNotes Machine.outside options notes)) := by
  induction notes generalizing machine with
  | nil => exact .refl machine
  | cons note notes inductionHypothesis =>
      have rest := inductionHypothesis (machine.after (logNote Machine.outside options note))
        fun note member => undecided note (.tail _ member)
      cases note with
      | decision decision => exact absurd (undecided _ (.head _)) (Option.some_ne_none decision)
      | _ => exact (tells_logNote machine options _).trans rest

/-! ## Steps -/

section Steps

variable {α β : Type}

theorem outcome_orFail (machine : Machine) (failure : FileFault → RunFailure)
    (act : StateM Machine (Except FileFault α)) :
    machine.outcome (orFail failure act).run = (machine.outcome act).mapError failure := by
  refine (machine.outcome_lift_bind act _).trans ?_
  cases machine.outcome act <;> rfl

theorem after_orFail (machine : Machine) (failure : FileFault → RunFailure)
    (act : StateM Machine (Except FileFault α)) :
    machine.after (orFail failure act).run = machine.after act := by
  refine (machine.after_lift_bind act _).trans ?_
  cases machine.outcome act <;> rfl

theorem after_userPolicy (machine : Machine) (options : RunOptions) :
    machine.after (userPolicy Machine.outside options).run = machine := by
  unfold userPolicy
  cases options.policy with
  | none => rfl
  | some path =>
      cases read : machine.outcome
          (orFail (.unreadablePolicy path) (Machine.outside.readFile path)).run with
      | error failure => exact (Machine.after_bind_error read).trans ((after_orFail ..).trans
          (machine.after_readFile path))
      | ok text =>
          refine (Machine.after_bind_ok read).trans ?_
          rw [after_orFail, Machine.after_readFile]
          cases PolicySpec.ofText text with
          | ok policy => rfl
          | error fault => cases fault <;> rfl

/-- What was told does not change what markup is read. -/
theorem steps_markup (told : Tells before later) (options : RunOptions) :
    Steps Tells later (markup Machine.outside options)
      (before.outcome (markup Machine.outside options).run) := by
  unfold markup
  cases options.input with
  | some path =>
      refine ⟨?_, ?_⟩
      · rw [outcome_orFail, outcome_orFail, told.outcome_readFile]
      · rw [after_orFail, Machine.after_readFile]
        exact .refl later
  | none =>
      refine ⟨?_, ?_⟩
      · obtain ⟨text, rfl⟩ := told
        rw [outcome_orFail, outcome_orFail]
        rfl
      · rw [after_orFail]
        exact .refl later

theorem steps_openLog (told : Tells before later) (options : RunOptions) :
    Steps (Logged options) later (openLog Machine.outside options)
      (before.outcome (openLog Machine.outside options).run) := by
  unfold openLog
  cases chosen : options.auditLog with
  | none => exact ⟨rfl, .refl later⟩
  | some path =>
      refine ⟨?_, ?_⟩
      · rw [outcome_orFail, outcome_orFail]
        exact congrArg (Except.mapError _) (told.outcome_renew .openToAppend path id)
      · rw [after_orFail]
        refine Machine.after_onTarget (Logged options) (.refl later) fun place leads => ⟨?_, ?_⟩
        · exact (Machine.grows_openTarget later place).mono fun _ same =>
            .inr ⟨path, chosen, same ▸ leads⟩
        · exact fun other _ => ⟨[], (Machine.content_openTarget later place other).trans
            (List.append_nil _).symm⟩

end Steps

/-! ## Before the output -/

/-- The policy of a run, given what the user wrote. -/
def effectivePolicy (options : RunOptions) (user : Option PolicySpec) : PolicySpec :=
  let policy := ((PolicySpec.builtIn.mergeOptional user).deny options.deny).value
  if options.trace then { policy with verbose := some true } else policy

/-- What a run comes to on a machine before it writes its output: the sanitized markup, or why the
policy or the markup cannot be read, the policy not compiled, the audit log not opened or the markup
not sanitized. -/
def reached (options : RunOptions) (machine : Machine) : Except RunFailure Sanitized := do
  let policy ← (machine.outcome (userPolicy Machine.outside options).run).map
    (effectivePolicy options)
  let raw ← machine.outcome (markup Machine.outside options).run
  let compiled ← policy.compile.value.mapError .uncompiledPolicy
  machine.outcome (openLog Machine.outside options).run
  ((Sanitizer.ofPolicy Html.parseFragment compiled).sanitize raw).value.mapError .refusedInput

theorem steps_policy (machine : Machine) (options : RunOptions) :
    Steps Tells machine (policy Machine.outside options)
      ((machine.outcome (userPolicy Machine.outside options).run).map
        (effectivePolicy options)) := by
  have user : Steps (fun before later => later = before) machine
      (userPolicy Machine.outside options)
      (machine.outcome (userPolicy Machine.outside options).run) :=
    ⟨rfl, after_userPolicy machine options⟩
  refine user.bind Tells (fun same => same ▸ .refl _) (fun same told => same ▸ told) ?_
  intro user middle _ _
  -- The deny list warns and decides nothing, so no audit log is asked for here.
  refine ⟨rfl, tells_handleNotes middle options fun note member => ?_⟩
  obtain ⟨name, _, rfl⟩ := List.mem_map.mp member
  rfl

theorem steps_compiled (machine : Machine) (options : RunOptions) (policy : PolicySpec) :
    Steps Tells machine (compiled Machine.outside options policy)
      (policy.compile.value.mapError .uncompiledPolicy) := by
  have undecided : ∀ note ∈ policy.compile.notes, note.decision? = none := by
    intro note member
    obtain ⟨pair, _, rfl⟩ := List.mem_map.mp member
    rfl
  have told : Steps Tells machine
      (liftM (noted Machine.outside options policy.compile) : ExceptT RunFailure (StateM Machine) _)
      (.ok policy.compile.value) :=
    ⟨rfl, tells_handleNotes machine options undecided⟩
  show Steps Tells machine _
    (Except.ok policy.compile.value >>= Except.mapError RunFailure.uncompiledPolicy)
  refine told.bind Tells id Tells.trans ?_
  intro result middle _ _
  cases result with
  | ok compiled => exact ⟨rfl, .refl middle⟩
  | error fault => exact ⟨rfl, .refl middle⟩

theorem steps_sanitized (machine : Machine) (options : RunOptions) (compiled : Policy)
    (raw : Text) :
    Steps (Logged options) machine (sanitized Machine.outside options compiled raw)
      (((Sanitizer.ofPolicy Html.parseFragment compiled).sanitize raw).value.mapError
        .refusedInput) := by
  let result := (Sanitizer.ofPolicy Html.parseFragment compiled).sanitize raw
  have logged : Steps (Logged options) machine
      (liftM (noted Machine.outside options result) : ExceptT RunFailure (StateM Machine) _)
      (.ok result.value) :=
    ⟨rfl, logged_handleNotes machine options result.notes⟩
  show Steps (Logged options) machine _
    (Except.ok result.value >>= Except.mapError RunFailure.refusedInput)
  refine logged.bind (Logged options) id Logged.trans ?_
  intro result middle _ _
  cases result with
  | ok output => exact ⟨rfl, .refl middle⟩
  | error failure => exact ⟨rfl, .refl middle⟩

/-- A step that only tells something, with steps behind it that log. -/
theorem steps_told {α β : Type} {act : ExceptT RunFailure (StateM Machine) α}
    {next : α → ExceptT RunFailure (StateM Machine) β} {expected : Except RunFailure α}
    {rest : α → Except RunFailure β} (steps : Steps Tells machine act expected)
    (behind : ∀ value later, Tells machine later →
      Steps (Logged options) later (next value) (rest value)) :
    Steps (Logged options) machine (act >>= next) (expected >>= rest) :=
  steps.bind (Logged options) logged_of_tells
    (fun told logged => (logged_of_tells told).trans logged) fun _ told => behind _ _ told

/-- A run up to its output. -/
def ready {m : Type → Type} [Monad m] (outside : Outside m) (options : RunOptions) :
    ExceptT RunFailure m Sanitized := do
  let policy ← policy outside options
  let raw ← markup outside options
  let compiled ← compiled outside options policy
  openLog outside options
  let result ← sanitized outside options compiled raw
  if result.markup.isEmpty && !(Text.trim raw).isEmpty && !options.quiet then
    (showStatus outside .warning nothingLeft : m Unit)
  return result

theorem perform_eq (options : RunOptions) :
    perform Machine.outside options =
      ready Machine.outside options >>= fun result =>
        deliver Machine.outside options (result.render options.format) := by
  simp only [perform, ready, bind_assoc]
  refine bind_congr fun policy => bind_congr fun raw => bind_congr fun compiled =>
    bind_congr fun _ => bind_congr fun result => ?_
  split
  · rw [bind_assoc]
    simp only [pure_bind]
  · rw [pure_bind]

theorem steps_ready (machine : Machine) (options : RunOptions) :
    Steps (Logged options) machine (ready Machine.outside options) (reached options machine) := by
  -- Up to the log nothing but the error stream changes, so each step finds the files of the start.
  refine steps_told (steps_policy machine options) fun policy first told => ?_
  refine steps_told (steps_markup told options) fun raw second more => ?_
  have told := told.trans more
  refine steps_told (steps_compiled second options policy) fun compiled third more => ?_
  have told := told.trans more
  refine (steps_openLog told options).bind (Logged options) id Logged.trans
    fun {_ fourth} _ _ => ?_
  rw [← bind_pure (Except.mapError _ _)]
  refine (steps_sanitized fourth options compiled raw).bind (Logged options) id Logged.trans
    fun {result fifth} _ _ => ?_
  dsimp only
  split
  · exact ⟨rfl, logged_of_tells (tells_showStatus fifth .warning nothingLeft)⟩
  · exact ⟨rfl, .refl fifth⟩

/-! ## The output -/

/-- The output file can be made, if there is to be one. -/
def Makes (options : RunOptions) (machine : Machine) : Prop :=
  ∀ path, options.output = some path → machine.outcome (Machine.outside.create path) = .ok ()

/-- What writing a text as output comes to, and the machine that it leaves: the file cannot be made,
or nothing is written to it, or one place takes the text. -/
inductive Delivered (options : RunOptions) (text : Text) (machine : Machine) :
    Except RunFailure Unit → Machine → Prop where
  | uncreated {path : Text} {fault : FileFault} {later : Machine}
      (chosen : options.output = some path)
      (failed : machine.outcome (Machine.outside.create path) = .error fault)
      (told : Tells machine later) :
      Delivered options text machine (.error (.uncreatedOutput path fault)) later
  | unwritten {fault : FileFault} {place : Target} {before later : Machine}
      (makes : Makes options machine) (told : Tells machine before)
      (goes : WritesTo options machine place) (touched : Touches place before later) :
      Delivered options text machine (.error (.unwrittenOutput fault)) later
  | written {place : Target} {before later : Machine} (makes : Makes options machine)
      (told : Tells machine before) (goes : WritesTo options machine place)
      (touched : Touches place before later)
      (taken : later.held place = before.received text place) :
      Delivered options text machine (.ok ()) later

/-- Writing to the standard output. -/
theorem delivered_print (chosen : options.output = none) (machine : Machine) (text : Text) :
    Delivered options text machine
      (machine.outcome (orFail .unwrittenOutput (Machine.outside.print text)).run)
      (machine.after (orFail .unwrittenOutput (Machine.outside.print text)).run) := by
  have makes : Makes options machine := fun path some => by rw [chosen] at some; cases some
  have goes : WritesTo options machine .standardOutput := by rw [WritesTo, chosen]
  have touched := (Machine.grows_print machine text).touches
  rw [outcome_orFail, after_orFail]
  cases printed : machine.outcome (Machine.outside.print text) with
  | ok _ => exact .written makes (.refl machine) goes touched (Machine.held_printed printed)
  | error fault => exact .unwritten makes (.refl machine) goes touched

/-- Writing to a place that was made through the same path. -/
theorem delivered_append {path : Text} {place : Target} (chosen : options.output = some path)
    (makes : Makes options machine) (steady : machine.Steady) (told : Tells machine before)
    (leads : machine.LeadsTo path place) (text : Text) :
    let made := before.after (Machine.renewTarget (fun _ => []) place)
    Delivered options text machine
      (made.outcome (orFail .unwrittenOutput (Machine.outside.append path text)).run)
      (made.after (orFail .unwrittenOutput (Machine.outside.append path text)).run) := by
  intro made
  have goes : WritesTo options machine place := by rwa [WritesTo, chosen]
  have emptied : Touches place before made := before.touches_create place
  rw [outcome_orFail, after_orFail]
  cases found : made.locate made.files .append path with
  | error fault =>
      have lost : Machine.outside.append path text made = (.error fault, made) :=
        Machine.onTarget_error found (Machine.appendTarget text)
      rw [Machine.outcome, Machine.after, lost]
      exact .unwritten makes told goes emptied
  | ok other =>
      -- Making the file has changed the files, but not where the path leads.
      have again : machine.LeadsTo path other := by
        rw [before.locate_create, told.locate_eq] at found
        exact ⟨_, _, found⟩
      obtain rfl := steady path _ _ leads again
      have acted : Machine.outside.append path text made = Machine.appendTarget text place made :=
        Machine.onTarget_ok found (Machine.appendTarget text)
      have touched := emptied.trans (made.grows_appendTarget text place).touches
      rw [Machine.outcome, Machine.after, acted]
      cases taken : (Machine.appendTarget text place made).1 with
      | ok _ => exact .written makes told goes touched (Machine.held_written taken)
      | error fault => exact .unwritten makes told goes touched

/-- Writing to a file: it is made first. -/
theorem delivered_create {path : Text} (chosen : options.output = some path)
    (steady : machine.Steady) (told : Tells machine before) (text : Text) :
    Delivered options text machine
      (before.outcome (do
        orFail (.uncreatedOutput path) (Machine.outside.create path)
        orFail .unwrittenOutput (Machine.outside.append path text)).run)
      (before.after (do
        orFail (.uncreatedOutput path) (Machine.outside.create path)
        orFail .unwrittenOutput (Machine.outside.append path text)).run) := by
  cases found : before.locate before.files .create path with
  | error fault =>
      have lost : Machine.outside.create path before = (.error fault, before) :=
        Machine.onTarget_error found _
      have stopped : before.outcome
          (orFail (.uncreatedOutput path) (Machine.outside.create path)).run =
            .error (.uncreatedOutput path fault) := by
        rw [outcome_orFail, Machine.outcome, lost]
        rfl
      rw [Machine.outcome_bind_error stopped, Machine.after_bind_error stopped, after_orFail,
        Machine.after, lost]
      exact .uncreated chosen
        ((told.outcome_renew .create path _).symm.trans (congrArg Prod.fst lost)) told
  | ok place =>
      have acted : Machine.outside.create path before =
          Machine.renewTarget (fun _ => []) place before := Machine.onTarget_ok found _
      have leads : machine.LeadsTo path place := ⟨_, _, told.locate_eq ▸ found⟩
      have made : before.outcome (Machine.outside.create path) = .ok () :=
        (before.outcome_renew .create path _).trans (congrArg (Except.map _) found)
      have passed : before.outcome
          (orFail (.uncreatedOutput path) (Machine.outside.create path)).run = .ok () := by
        rw [outcome_orFail, made]
        rfl
      have makes : Makes options machine := by
        intro other same
        obtain rfl : path = other := Option.some.inj (chosen.symm.trans same)
        exact (told.outcome_renew .create path _).symm.trans made
      rw [Machine.outcome_bind_ok passed, Machine.after_bind_ok passed, after_orFail,
        Machine.after, acted]
      exact delivered_append chosen makes steady told leads text

theorem delivered_deliver (steady : machine.Steady) (options : RunOptions) (text : Text) :
    Delivered options (text ++ ['\n']) machine
      (machine.outcome (deliver Machine.outside options text).run)
      (machine.after (deliver Machine.outside options text).run) := by
  unfold deliver
  cases chosen : options.output with
  | none => exact delivered_print chosen machine _
  | some path =>
      cases options.quiet with
      | true => exact delivered_create chosen steady (.refl machine) _
      | false =>
          exact delivered_create chosen steady (tells_showStatus machine .info (writingLine path)) _

/-- Output takes nothing off any place but the files that it goes to. -/
theorem Delivered.content_kept {text : Text} {outcome : Except RunFailure Unit}
    (delivered : Delivered options text machine outcome later) {place : Target}
    (spared : ∀ name, WritesTo options machine (.file name) → place ≠ .file name) :
    machine.content place <+: later.content place := by
  have touching : ∀ {before target}, Tells machine before → WritesTo options machine target →
      Touches target before later → machine.content place <+: later.content place := by
    intro before target told goes touched
    refine (told.content_kept place).trans (touched.content_kept ?_)
    rintro name rfl
    exact spared name goes
  cases delivered with
  | uncreated chosen failed told => exact told.content_kept place
  | unwritten makes told goes touched => exact touching told goes touched
  | written makes told goes touched taken => exact touching told goes touched

/-- A text that was written was taken by one place, and no other noticed. -/
theorem Delivered.taken {text : Text} (delivered : Delivered options text machine (.ok ()) later) :
    ∃ place before, WritesTo options machine place ∧ Tells machine before ∧
      later.held place = before.received text place ∧
      ∀ other, other ≠ place → later.held other = before.held other := by
  cases delivered with
  | written makes told goes touched taken => exact ⟨_, _, goes, told, taken, touched.spared⟩

/-- A text is not written if the file cannot be made or takes nothing. -/
theorem Delivered.failed {text : Text} {failure : RunFailure}
    (delivered : Delivered options text machine (.error failure) later) :
    (∃ path fault, options.output = some path ∧
        machine.outcome (Machine.outside.create path) = .error fault) ∨
      ∃ fault, failure = .unwrittenOutput fault := by
  cases delivered with
  | uncreated chosen failed told => exact .inl ⟨_, _, chosen, failed⟩
  | unwritten makes told goes touched => exact .inr ⟨_, rfl⟩

/-- Only the error stream notices a file that cannot be made. -/
theorem Delivered.uncreatable {text path : Text} {fault : FileFault}
    {outcome : Except RunFailure Unit} (delivered : Delivered options text machine outcome later)
    (chosen : options.output = some path)
    (failed : machine.outcome (Machine.outside.create path) = .error fault) :
    (∃ failure, outcome = .error failure) ∧ Tells machine later := by
  have refuted : ¬Makes options machine := fun makes => by
    have made := makes path chosen
    rw [failed] at made
    cases made
  cases delivered with
  | uncreated chosen failed told => exact ⟨⟨_, rfl⟩, told⟩
  | unwritten makes told goes touched => exact absurd makes refuted
  | written makes told goes touched taken => exact absurd makes refuted

/-! ## Whole runs -/

/-- The machine as a run has it when it comes to its output. -/
def poised (options : RunOptions) (machine : Machine) : Machine :=
  machine.after (ready Machine.outside options).run

/-- A run fails with nothing written: it does not come to its output, or the output file cannot be
made. -/
def Fails (options : RunOptions) (machine : Machine) : Prop :=
  (∃ failure, reached options machine = .error failure) ∨
    ∃ path fault, options.output = some path ∧
      (poised options machine).outcome (Machine.outside.create path) = .error fault

/-- No file that the output goes to takes the audit log. -/
def Apart (options : RunOptions) (machine : Machine) : Prop :=
  ∀ name, WritesTo options machine (.file name) → ¬LogsTo options machine (.file name)

theorem logged_poised (options : RunOptions) (machine : Machine) :
    Logged options machine (poised options machine) := (steps_ready machine options).related

theorem perform_error {failure : RunFailure} (stopped : reached options machine = .error failure) :
    machine.outcome (perform Machine.outside options).run = .error failure ∧
      machine.after (perform Machine.outside options).run = poised options machine := by
  have steps := (steps_ready machine options).outcome_eq
  rw [stopped] at steps
  rw [perform_eq]
  exact ⟨Machine.outcome_bind_error steps, Machine.after_bind_error steps⟩

theorem perform_ok (steady : machine.Steady) {result : Sanitized}
    (done : reached options machine = .ok result) :
    Delivered options (result.render options.format ++ ['\n']) (poised options machine)
      (machine.outcome (perform Machine.outside options).run)
      (machine.after (perform Machine.outside options).run) := by
  have steps := (steps_ready machine options).outcome_eq
  rw [done] at steps
  have steady : (poised options machine).Steady := fun path first second one another =>
    steady path first second ((logged_poised options machine).leadsTo_iff.mp one)
      ((logged_poised options machine).leadsTo_iff.mp another)
  rw [perform_eq, Machine.outcome_bind_ok steps, Machine.after_bind_ok steps]
  exact delivered_deliver steady options _

theorem perform_of_fails (steady : machine.Steady) (fails : Fails options machine) :
    (∃ failure, machine.outcome (perform Machine.outside options).run = .error failure) ∧
      Logged options machine (machine.after (perform Machine.outside options).run) := by
  cases done : reached options machine with
  | error failure =>
      obtain ⟨stopped, left⟩ := perform_error done
      exact ⟨⟨failure, stopped⟩, left ▸ logged_poised options machine⟩
  | ok result =>
      obtain ⟨failure, stopped⟩ | ⟨path, fault, chosen, failed⟩ := fails
      · cases done.symm.trans stopped
      · obtain ⟨stopped, told⟩ := (perform_ok steady done).uncreatable chosen failed
        exact ⟨stopped, (logged_poised options machine).trans (logged_of_tells told)⟩

theorem fails_of_perform (steady : machine.Steady) {failure : RunFailure}
    (stopped : machine.outcome (perform Machine.outside options).run = .error failure) :
    Fails options machine ∨ ∃ fault,
      machine.outcome (perform Machine.outside options).run = .error (.unwrittenOutput fault) := by
  cases done : reached options machine with
  | error failure => exact .inl (.inl ⟨failure, done⟩)
  | ok result =>
      have delivered := perform_ok steady done
      rw [stopped] at delivered
      obtain uncreatable | ⟨fault, rfl⟩ := delivered.failed
      · exact .inl (.inr uncreatable)
      · exact .inr ⟨fault, stopped⟩

theorem taken_of_perform (steady : machine.Steady)
    (performed : machine.outcome (perform Machine.outside options).run = .ok ()) :
    ∃ result place before, reached options machine = .ok result ∧
      WritesTo options machine place ∧ Logged options machine before ∧
      Tells (poised options machine) before ∧
      (machine.after (perform Machine.outside options).run).held place =
        before.received (result.render options.format ++ ['\n']) place ∧
      ∀ other, other ≠ place →
        (machine.after (perform Machine.outside options).run).held other = before.held other := by
  cases done : reached options machine with
  | error failure => cases performed.symm.trans (perform_error done).1
  | ok result =>
      have delivered := perform_ok steady done
      rw [performed] at delivered
      obtain ⟨place, before, goes, told, taken, spared⟩ := delivered.taken
      have logged := logged_poised options machine
      exact ⟨result, place, before, rfl, (logged.writesTo_iff place).mp goes,
        logged.trans (logged_of_tells told), told, taken, spared⟩

theorem perform_content_kept (steady : machine.Steady) (apart : Apart options machine)
    {place : Target} (logs : LogsTo options machine place) :
    machine.content place <+:
      (machine.after (perform Machine.outside options).run).content place := by
  have logged := logged_poised options machine
  refine (logged.grows.grown place).trans ?_
  cases done : reached options machine with
  | error failure =>
      rw [(perform_error done).2]
  | ok result =>
      refine (perform_ok steady done).content_kept ?_
      rintro name goes rfl
      exact apart name ((logged.writesTo_iff _).mp goes) logs

/-- The machine that a run leaves. -/
def aftermath (options : RunOptions) (machine : Machine) : Machine :=
  machine.after (exitCode Machine.outside options)

theorem exitCode_ok (performed : machine.outcome (perform Machine.outside options).run = .ok ()) :
    machine.outcome (exitCode Machine.outside options) = 0 ∧
      aftermath options machine = machine.after (perform Machine.outside options).run := by
  unfold aftermath exitCode
  rw [Machine.outcome_bind, Machine.after_bind, performed]
  exact ⟨rfl, rfl⟩

/-- A run that fails tells why and exits with one. -/
theorem exitCode_error {failure : RunFailure}
    (stopped : machine.outcome (perform Machine.outside options).run = .error failure) :
    machine.outcome (exitCode Machine.outside options) = 1 ∧
      Tells (machine.after (perform Machine.outside options).run) (aftermath options machine) := by
  unfold aftermath exitCode
  rw [Machine.outcome_bind, Machine.after_bind, stopped]
  exact ⟨rfl, tells_showStatus _ .error failure.message⟩

/-- A run that fails exits with another code than zero and leaves every place as it was but the
audit log and the error stream, and only events are added to the audit log. A run that exits with
zero has a result, and that result in the chosen form, with the end of its line, was taken by a
place that the output goes to; every other place is as it was just before, when only the audit log
and the error stream had more on them than at the start. A run that exits with another code has
failed or could not write to that place. And what the audit log held is still there, unless the
output goes to the same file. -/
theorem output_of_success (options : RunOptions) (machine : Machine) (steady : machine.Steady) :
    (Fails options machine → machine.outcome (exitCode Machine.outside options) ≠ 0 ∧
      (∀ place, ¬Aside options machine place →
        (aftermath options machine).held place = machine.held place) ∧
      ∀ place, place ≠ .standardError → ∃ events,
        (aftermath options machine).content place =
          machine.content place ++ AuditEvent.lines events) ∧
    (machine.outcome (exitCode Machine.outside options) = 0 →
      ∃ result place before, reached options machine = .ok result ∧
        WritesTo options machine place ∧ Logged options machine before ∧
        Tells (poised options machine) before ∧
        (aftermath options machine).held place =
          before.received (result.render options.format ++ ['\n']) place ∧
        ∀ other, other ≠ place → (aftermath options machine).held other = before.held other) ∧
    (machine.outcome (exitCode Machine.outside options) ≠ 0 → Fails options machine ∨
      ∃ fault, machine.outcome (perform Machine.outside options).run =
        .error (.unwrittenOutput fault)) ∧
    (Apart options machine → ∀ place, LogsTo options machine place →
      machine.content place <+: (aftermath options machine).content place) := by
  cases performed : machine.outcome (perform Machine.outside options).run with
  | error failure =>
      obtain ⟨code, told⟩ := exitCode_error performed
      have nonzero : machine.outcome (exitCode Machine.outside options) ≠ 0 := by
        rw [code]
        exact Nat.one_ne_zero
      refine ⟨fun fails => ⟨nonzero, ?_⟩, fun zero => absurd zero nonzero,
        fun _ => performed ▸ fails_of_perform steady performed, fun apart place logs =>
          (perform_content_kept steady apart logs).trans (told.content_kept place)⟩
      have logged := (perform_of_fails steady fails).2.trans (logged_of_tells told)
      exact ⟨logged.grows.kept, logged.lines⟩
  | ok _ =>
      obtain ⟨code, same⟩ := exitCode_ok performed
      refine ⟨fun fails => ?_, fun _ => ?_, fun nonzero => absurd code nonzero,
        fun apart place logs => same ▸ perform_content_kept steady apart logs⟩
      · obtain ⟨failure, stopped⟩ := (perform_of_fails steady fails).1
        cases performed.symm.trans stopped
      · rw [same]
        exact taken_of_perform steady performed

/-- A policy with one element and without style properties. -/
def sparse : Text := "elements:\n  p: []\nstyle_tables:\n" ++
  "  common: \x7b\x7d\n  tables: \x7b\x7d\n  images: \x7b\x7d\n"

/-- A directory with that policy, a file for the output and one for the audit log. -/
def desk : Machine :=
  .ofFiles [("sparse", sparse), ("out", "old\n"), ("log", "kept\n")] "Hi" "T"

/-- Options that name these files and deny all other elements. -/
def filing : RunOptions :=
  { RunOptions.usual with
    policy := some "sparse", deny := (Dictionary.keys DefaultPolicy.elements).tail
    output := some "out", auditLog := some "log", quiet := true }

/-- The same with markup that is not there to read. -/
def misfiled : RunOptions := { filing with policy := none, input := some "in" }

theorem output_of_success_desk :
    desk.Steady ∧
    (Fails misfiled desk ∧ desk.outcome (exitCode Machine.outside misfiled) ≠ 0 ∧
      (aftermath misfiled desk).held (.file "out") = some "old\n" ∧
      (aftermath misfiled desk).held .standardOutput = some []) ∧
    (desk.outcome (exitCode Machine.outside filing) = 0 ∧ ∃ result,
      reached filing desk = .ok result ∧
        (aftermath filing desk).held (.file "out") =
          some (result.markup ++ ['\n'])) ∧
    Apart filing desk ∧ "kept\n".toList <+: (aftermath filing desk).content (.file "log") := by
  have steady : desk.Steady := Machine.steady_ofFiles _ _ _
  have out : desk.LeadsTo "out" (.file "out") := ⟨desk.files, .create, rfl⟩
  have log : desk.LeadsTo "log" (.file "log") := ⟨desk.files, .append, rfl⟩
  have logs : ∀ place, LogsTo filing desk place → place = .file "log" := by
    rintro place ⟨path, chosen, leads⟩
    cases chosen
    exact steady _ _ _ leads log
  have outside : ∀ place, place ≠ .standardError → place ≠ .file "log" →
      ¬Aside misfiled desk place := fun place silent other aside =>
    aside.elim silent fun taken => other (logs place taken)
  have apart : Apart filing desk := by
    intro name goes taken
    have same := (steady _ _ _ goes out).symm.trans (logs _ taken)
    exact absurd same (by decide)
  have fails : Fails misfiled desk := .inl ⟨.unreadableInput (some "in") .missing, rfl⟩
  have performed : desk.outcome (perform Machine.outside filing).run = .ok () := by
    decide +kernel
  have zero : desk.outcome (exitCode Machine.outside filing) = 0 := (exitCode_ok performed).1
  obtain ⟨failing, -, -, -⟩ := output_of_success misfiled desk steady
  obtain ⟨code, held, -⟩ := failing fails
  obtain ⟨-, succeeding, -, logging⟩ := output_of_success filing desk steady
  obtain ⟨result, place, before, done, goes, -, -, taken, -⟩ := succeeding zero
  obtain rfl : place = .file "out" := steady _ _ _ goes out
  exact ⟨steady, ⟨fails, code, held _ (outside _ (by decide) (by decide)),
    held _ (outside _ (by decide) (by decide))⟩, ⟨zero, result, done, taken⟩, apart,
    logging apart _ ⟨_, rfl, log⟩⟩

/-- Options that name the audit log with another path for the output. -/
def respelled : RunOptions := { filing with output := some "./log" }

/-- Options with the audit log at the standard output and a file that cannot be made. -/
def streaming : RunOptions :=
  { filing with output := some "no/out", auditLog := some "/dev/stdout" }

/-- Paths that differ can lead to one file, and then the output takes the place of what the audit
log held. And an audit log at the standard output is written there by a run that fails as well. -/
theorem output_meets_log :
    (respelled.output ≠ respelled.auditLog ∧
      desk.outcome (exitCode Machine.outside respelled) = 0 ∧
      ¬"kept\n".toList <+: (aftermath respelled desk).content (.file "log")) ∧
    (streaming.output ≠ streaming.auditLog ∧
      desk.outcome (perform Machine.outside streaming).run =
        .error (.uncreatedOutput "no/out" .missing) ∧
      desk.held .standardOutput ≠ (aftermath streaming desk).held .standardOutput) := by
  decide +kernel

end Run
end SafeMarkup
