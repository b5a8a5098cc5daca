import SafeMarkup.Command.Outside
import SafeMarkup.Proofs.Dictionary
import Mathlib.Data.List.Infix

/-!
Contract: what acts on a machine change.

Owns: what the places of a machine hold and where its paths lead; machines that differ from others
only by what was added at some places; and what each operation of the outside does to the places.

Does not own: which operations a run performs.
-/

namespace SafeMarkup
namespace Machine

variable {α β ε : Type} {machine : Machine}

/-! ## Acts -/

/-- What an act gives on a machine. -/
def outcome (machine : Machine) (act : StateM Machine α) : α := (act machine).1

/-- The machine that an act leaves. -/
def after (machine : Machine) (act : StateM Machine α) : Machine := (act machine).2

theorem run_get (machine : Machine) (next : Machine → StateM Machine α) :
    (get >>= next) machine = next machine machine := rfl

theorem outcome_bind (machine : Machine) (first : StateM Machine α) (next : α → StateM Machine β) :
    machine.outcome (first >>= next) =
      (machine.after first).outcome (next (machine.outcome first)) := rfl

theorem after_bind (machine : Machine) (first : StateM Machine α) (next : α → StateM Machine β) :
    machine.after (first >>= next) =
      (machine.after first).after (next (machine.outcome first)) := rfl

theorem outcome_lift_bind (machine : Machine) (first : StateM Machine α)
    (next : α → ExceptT ε (StateM Machine) β) :
    machine.outcome (liftM first >>= next).run =
      (machine.after first).outcome (next (machine.outcome first)).run := rfl

theorem after_lift_bind (machine : Machine) (first : StateM Machine α)
    (next : α → ExceptT ε (StateM Machine) β) :
    machine.after (liftM first >>= next).run =
      (machine.after first).after (next (machine.outcome first)).run := rfl

theorem outcome_bind_ok {first : ExceptT ε (StateM Machine) α}
    {next : α → ExceptT ε (StateM Machine) β} {value : α}
    (done : machine.outcome first.run = .ok value) :
    machine.outcome (first >>= next).run = (machine.after first.run).outcome (next value).run := by
  show (ExceptT.bindCont next (machine.outcome first.run) (machine.after first.run)).1 = _
  rw [done]
  rfl

theorem after_bind_ok {first : ExceptT ε (StateM Machine) α}
    {next : α → ExceptT ε (StateM Machine) β} {value : α}
    (done : machine.outcome first.run = .ok value) :
    machine.after (first >>= next).run = (machine.after first.run).after (next value).run := by
  show (ExceptT.bindCont next (machine.outcome first.run) (machine.after first.run)).2 = _
  rw [done]
  rfl

theorem outcome_bind_error {first : ExceptT ε (StateM Machine) α}
    {next : α → ExceptT ε (StateM Machine) β} {failure : ε}
    (failed : machine.outcome first.run = .error failure) :
    machine.outcome (first >>= next).run = .error failure := by
  show (ExceptT.bindCont next (machine.outcome first.run) (machine.after first.run)).1 = _
  rw [failed]
  rfl

theorem after_bind_error {first : ExceptT ε (StateM Machine) α}
    {next : α → ExceptT ε (StateM Machine) β} {failure : ε}
    (failed : machine.outcome first.run = .error failure) :
    machine.after (first >>= next).run = machine.after first.run := by
  show (ExceptT.bindCont next (machine.outcome first.run) (machine.after first.run)).2 = _
  rw [failed]
  rfl

/-- A step of a run on a machine: what it comes to, and how the machine it leaves stands to the one
before. -/
structure Steps (relation : Machine → Machine → Prop) (machine : Machine)
    (act : ExceptT ε (StateM Machine) α) (expected : Except ε α) : Prop where
  outcome_eq : machine.outcome act.run = expected
  related : relation machine (machine.after act.run)

/-- A step that fails ends the run; another one hands on its value and the machine it leaves. -/
theorem Steps.bind {first both : Machine → Machine → Prop} (second : Machine → Machine → Prop)
    {act : ExceptT ε (StateM Machine) α} {next : α → ExceptT ε (StateM Machine) β}
    {expected : Except ε α} {rest : α → Except ε β} (steps : Steps first machine act expected)
    (stop : ∀ {later}, first machine later → both machine later)
    (go : ∀ {middle later}, first machine middle → second middle later → both machine later)
    (behind : ∀ {value middle}, expected = .ok value → first machine middle →
      Steps second middle (next value) (rest value)) :
    Steps both machine (act >>= next) (expected >>= rest) := by
  cases expected with
  | error failure =>
      refine ⟨outcome_bind_error steps.outcome_eq, ?_⟩
      rw [after_bind_error steps.outcome_eq]
      exact stop steps.related
  | ok value =>
      have further := behind rfl steps.related
      refine ⟨(outcome_bind_ok steps.outcome_eq).trans further.outcome_eq, ?_⟩
      rw [after_bind_ok steps.outcome_eq]
      exact go steps.related further.related

/-! ## Places -/

/-- What a place holds, if it holds anything. -/
def held (machine : Machine) : Target → Option Text
  | .file name => Dictionary.get? name machine.files
  | .standardOutput => some machine.output
  | .standardError => some machine.errors
  | _ => none

/-- The text of a place: what it holds, or nothing. -/
def content (machine : Machine) (place : Target) : Text := (machine.held place).getD []

/-- A path leads to a place, for some access and with some files there. -/
def LeadsTo (machine : Machine) (path : Text) (place : Target) : Prop :=
  ∃ files access, machine.locate files access path = .ok place

/-- Each path leads to one place, whatever is done with it and whatever files there are. -/
def Steady (machine : Machine) : Prop :=
  ∀ path first second, machine.LeadsTo path first → machine.LeadsTo path second → first = second

/-! ## Machines after others -/

/-- Nothing has happened but that something was told on the error stream. -/
def Tells (before later : Machine) : Prop :=
  ∃ text, later = { before with errors := before.errors ++ text }

theorem Tells.refl (machine : Machine) : Tells machine machine :=
  ⟨[], by rw [List.append_nil]⟩

theorem Tells.trans {before middle later : Machine} (first : Tells before middle)
    (second : Tells middle later) : Tells before later := by
  obtain ⟨text, rfl⟩ := first
  obtain ⟨more, rfl⟩ := second
  exact ⟨text ++ more, by rw [List.append_assoc]⟩

/-- Nothing has happened but that something was added at some places. -/
structure Grows (places : Target → Prop) (before later : Machine) : Prop where
  locate_eq : later.locate = before.locate
  input_eq : later.input = before.input
  outputFault_eq : later.outputFault = before.outputFault
  kept : ∀ place, ¬places place → later.held place = before.held place
  grown : ∀ place, before.content place <+: later.content place

namespace Grows

variable {places others : Target → Prop} {before middle later : Machine}

theorem refl (machine : Machine) : Grows places machine machine :=
  ⟨rfl, rfl, rfl, fun _ _ => rfl, fun _ => List.prefix_rfl⟩

theorem trans (first : Grows places before middle) (second : Grows places middle later) :
    Grows places before later :=
  ⟨second.locate_eq.trans first.locate_eq, second.input_eq.trans first.input_eq,
    second.outputFault_eq.trans first.outputFault_eq,
    fun place elsewhere => (second.kept place elsewhere).trans (first.kept place elsewhere),
    fun place => (first.grown place).trans (second.grown place)⟩

theorem mono (grows : Grows places before later) (more : ∀ place, places place → others place) :
    Grows others before later :=
  { grows with kept := fun place elsewhere => grows.kept place fun inside =>
      elsewhere (more place inside) }

theorem leadsTo_iff (grows : Grows places before later) {path : Text} {place : Target} :
    later.LeadsTo path place ↔ before.LeadsTo path place := by
  simp only [LeadsTo, grows.locate_eq]

end Grows

theorem Tells.locate_eq {before later : Machine} (told : Tells before later) :
    later.locate = before.locate := by
  obtain ⟨text, rfl⟩ := told
  rfl

theorem Tells.grows {places : Target → Prop} {before later : Machine} (told : Tells before later)
    (errors : places .standardError) : Grows places before later := by
  obtain ⟨text, rfl⟩ := told
  refine ⟨rfl, rfl, rfl, ?_, ?_⟩
  · rintro (_ | _) elsewhere
    all_goals first | rfl | exact absurd errors elsewhere
  · rintro (_ | _)
    all_goals first | exact List.prefix_rfl | exact List.prefix_append _ _

theorem Tells.content_kept {before later : Machine} (told : Tells before later) (place : Target) :
    before.content place <+: later.content place :=
  have grows : Grows (fun _ => True) before later := told.grows trivial
  grows.grown place

theorem Tells.content_eq {before later : Machine} (told : Tells before later) {place : Target}
    (silent : place ≠ .standardError) : later.content place = before.content place := by
  have grows : Grows (· = .standardError) before later := told.grows rfl
  rw [content, content, grows.kept place silent]

/-! ## Operations -/

theorem onTarget_ok {access : Access} {path : Text} {place : Target}
    (found : machine.locate machine.files access path = .ok place)
    (act : Target → StateM Machine (Except FileFault α)) :
    onTarget access path act machine = act place machine := by
  refine (run_get machine _).trans ?_
  rw [found]

theorem onTarget_error {access : Access} {path : Text} {fault : FileFault}
    (lost : machine.locate machine.files access path = .error fault)
    (act : Target → StateM Machine (Except FileFault α)) :
    onTarget access path act machine = (.error fault, machine) := by
  refine (run_get machine _).trans ?_
  rw [lost]
  rfl

/-- What is done through a path is done to a place that the path leads to, or not at all. -/
theorem after_onTarget (relation : Machine → Machine → Prop) {access : Access} {path : Text}
    {act : Target → StateM Machine (Except FileFault α)} (same : relation machine machine)
    (acted : ∀ place, machine.LeadsTo path place → relation machine (machine.after (act place))) :
    relation machine (machine.after (onTarget access path act)) := by
  cases found : machine.locate machine.files access path with
  | ok place =>
      rw [after, onTarget_ok found]
      exact acted place ⟨_, _, found⟩
  | error fault =>
      rw [after, onTarget_error found]
      exact same

theorem tells_report (machine : Machine) (text : Text) :
    Tells machine (machine.after (outside.report text)) := ⟨text, rfl⟩

/-- What is read at a place. -/
def readAt (machine : Machine) : Target → Except FileFault Text
  | .file name => (Dictionary.get? name machine.files).elim (.error .missing) .ok
  | .standardInput => machine.input
  | _ => .ok []

/-- Reading leaves a machine as it is. -/
theorem readFile_eq (machine : Machine) (path : Text) :
    outside.readFile path machine =
      ((machine.locate machine.files .read path).bind machine.readAt, machine) := by
  cases found : machine.locate machine.files .read path with
  | ok place =>
      refine (onTarget_ok found readTarget).trans ?_
      cases place with
      | file name =>
          refine (run_get machine _).trans ?_
          show _ = ((Dictionary.get? name machine.files).elim
            (Except.error FileFault.missing) Except.ok, machine)
          cases Dictionary.get? name machine.files <;> rfl
      | _ => rfl
  | error fault => exact onTarget_error found readTarget

theorem after_readFile (machine : Machine) (path : Text) :
    machine.after (outside.readFile path) = machine :=
  congrArg Prod.snd (machine.readFile_eq path)

/-- What is told on the error stream is read nowhere. -/
theorem Tells.outcome_readFile {before later : Machine} (told : Tells before later) (path : Text) :
    later.outcome (outside.readFile path) = before.outcome (outside.readFile path) := by
  rw [outcome, outcome, readFile_eq, readFile_eq]
  obtain ⟨text, rfl⟩ := told
  show (before.locate before.files .read path).bind _ =
    (before.locate before.files .read path).bind _
  cases before.locate before.files .read path with
  | ok place => cases place <;> rfl
  | error fault => rfl

/-- Opening a file or making it comes to what looking for it comes to. -/
theorem outcome_renew (machine : Machine) (access : Access) (path : Text) (renew : Text → Text) :
    machine.outcome (onTarget access path (renewTarget renew)) =
      (machine.locate machine.files access path).map fun _ => () := by
  cases found : machine.locate machine.files access path with
  | ok place =>
      rw [outcome, onTarget_ok found]
      cases place <;> rfl
  | error fault =>
      rw [outcome, onTarget_error found]
      rfl

theorem Tells.outcome_renew {before later : Machine} (told : Tells before later) (access : Access)
    (path : Text) (renew : Text → Text) :
    later.outcome (onTarget access path (renewTarget renew)) =
      before.outcome (onTarget access path (renewTarget renew)) := by
  rw [Machine.outcome_renew, Machine.outcome_renew]
  obtain ⟨text, rfl⟩ := told
  rfl

theorem held_setFile (machine : Machine) (name text : Text) (place : Target) :
    (machine.after (setFile name text)).held place =
      if place = .file name then some text else machine.held place := by
  cases place with
  | file other =>
      refine (Dictionary.get?_insert name other text machine.files).trans ?_
      simp only [Target.file.injEq, eq_comm]
      rfl
  | _ => rfl

theorem content_setFile (machine : Machine) (name text : Text) (place : Target) :
    (machine.after (setFile name text)).content place =
      if place = .file name then text else machine.content place := by
  rw [content, held_setFile]
  split <;> rfl

/-- A file that is set to what it held and more has grown. -/
theorem grows_setFile (machine : Machine) (name more : Text) :
    Grows (· = .file name) machine
      (machine.after (setFile name (machine.contentOf name ++ more))) := by
  refine ⟨rfl, rfl, rfl, fun place elsewhere => ?_, fun place => ?_⟩
  · rw [held_setFile, if_neg elsewhere]
  · rw [content_setFile]
    split
    · next here => subst here; exact List.prefix_append ..
    · exact List.prefix_rfl

theorem print_fault {fault : FileFault} (broken : machine.outputFault = some fault) (text : Text) :
    outside.print text machine = (.error fault, machine) := by
  obtain ⟨_, _, _, _, _, _, _⟩ := machine
  subst broken
  rfl

theorem print_ok (sound : machine.outputFault = none) (text : Text) :
    outside.print text machine = (.ok (), { machine with output := machine.output ++ text }) := by
  obtain ⟨_, _, _, _, _, _, _⟩ := machine
  subst sound
  rfl

theorem grows_print (machine : Machine) (text : Text) :
    Grows (· = .standardOutput) machine (machine.after (outside.print text)) := by
  cases state : machine.outputFault with
  | some fault =>
      rw [after, print_fault state]
      exact Grows.refl machine
  | none =>
      rw [after, print_ok state]
      refine ⟨rfl, rfl, rfl, ?_, ?_⟩
      · rintro (_ | _) elsewhere
        all_goals first | rfl | exact absurd rfl elsewhere
      · rintro (_ | _)
        all_goals first | exact List.prefix_rfl | exact List.prefix_append _ _

theorem grows_appendTarget (machine : Machine) (text : Text) (place : Target) :
    Grows (· = place) machine (machine.after (appendTarget text place)) := by
  cases place with
  | file name => exact grows_setFile machine name text
  | sink => exact Grows.refl machine
  | full => exact Grows.refl machine
  | standardInput => exact Grows.refl machine
  | standardOutput => exact grows_print machine text
  | standardError => exact (tells_report machine text).grows rfl

theorem content_print (machine : Machine) (text : Text) :
    (machine.after (outside.print text)).content .standardOutput = machine.output ∨
      (machine.after (outside.print text)).content .standardOutput = machine.output ++ text := by
  cases state : machine.outputFault with
  | some fault =>
      refine .inl ?_
      rw [after, print_fault state]
      rfl
  | none =>
      refine .inr ?_
      rw [after, print_ok state]
      rfl

/-- A place takes a whole text or nothing of it. -/
theorem content_appendTarget (machine : Machine) (text : Text) (place other : Target) :
    (machine.after (appendTarget text place)).content other = machine.content other ∨
      (machine.after (appendTarget text place)).content other = machine.content other ++ text := by
  by_cases elsewhere : other = place
  · subst elsewhere
    cases other with
    | file name => exact .inr ((content_setFile machine name _ _).trans (if_pos rfl))
    | standardOutput => exact content_print machine text
    | standardError => exact .inr rfl
    | _ => exact .inl rfl
  · refine .inl ?_
    rw [content, content, (grows_appendTarget machine text place).kept other elsewhere]

theorem content_openTarget (machine : Machine) (place other : Target) :
    (machine.after (renewTarget id place)).content other = machine.content other := by
  cases place with
  | file name =>
      refine (content_setFile machine name _ other).trans ?_
      split
      · next same => subst same; rfl
      · rfl
  | _ => rfl

/-- Opening a file to write behind what it holds makes it at most. -/
theorem grows_openTarget (machine : Machine) (place : Target) :
    Grows (· = place) machine (machine.after (renewTarget id place)) := by
  cases place with
  | file name =>
      have same := grows_setFile machine name []
      rwa [List.append_nil] at same
  | _ => exact Grows.refl machine

/-! ## Output -/

/-- What a place holds once a text was written to it as output: a file that text only, a stream also
what it took before. -/
def received (machine : Machine) (text : Text) : Target → Option Text
  | .file _ => some text
  | place => (machine.held place).map (· ++ text)

/-- Nothing has happened but at one place, and there only something was added if it is no file. -/
structure Touches (place : Target) (before later : Machine) : Prop where
  spared : ∀ other, other ≠ place → later.held other = before.held other
  grown : (∀ name, place ≠ .file name) → before.content place <+: later.content place

theorem Grows.touches {place : Target} {before later : Machine}
    (grows : Grows (· = place) before later) : Touches place before later :=
  ⟨grows.kept, fun _ => grows.grown place⟩

namespace Touches

variable {place : Target} {before middle later : Machine}

theorem refl (place : Target) (machine : Machine) : Touches place machine machine :=
  (Grows.refl machine).touches

theorem trans (first : Touches place before middle) (second : Touches place middle later) :
    Touches place before later :=
  ⟨fun other ne => (second.spared other ne).trans (first.spared other ne),
    fun stream => (first.grown stream).trans (second.grown stream)⟩

/-- What is not a touched file has lost nothing. -/
theorem content_kept (touches : Touches place before later) {other : Target}
    (stream : ∀ name, place = .file name → other ≠ place) :
    before.content other <+: later.content other := by
  by_cases same : other = place
  · rw [same]
    exact touches.grown fun name isFile => stream name isFile same
  · rw [content, content, touches.spared other same]

end Touches

/-- A file that is made is empty, and no other place notices. -/
theorem touches_create (machine : Machine) (place : Target) :
    Touches place machine (machine.after (renewTarget (fun _ => []) place)) := by
  cases place with
  | file name =>
      refine ⟨fun other ne => ?_, fun noFile => absurd rfl (noFile name)⟩
      exact (held_setFile machine name [] other).trans (if_neg ne)
  | _ => exact Touches.refl _ machine

theorem locate_create (machine : Machine) (place : Target) :
    (machine.after (renewTarget (fun _ => []) place)).locate = machine.locate := by
  cases place <;> rfl

theorem held_printed {text : Text} (taken : machine.outcome (outside.print text) = .ok ()) :
    (machine.after (outside.print text)).held .standardOutput =
      machine.received text .standardOutput := by
  cases state : machine.outputFault with
  | some fault =>
      rw [outcome, print_fault state] at taken
      cases taken
  | none =>
      rw [after, print_ok state]
      rfl

/-- What is written to a place that was just made is all that a file holds then. -/
theorem held_written {place : Target} {text : Text}
    (taken : (machine.after (renewTarget (fun _ => []) place)).outcome (appendTarget text place) =
      .ok ()) :
    ((machine.after (renewTarget (fun _ => []) place)).after (appendTarget text place)).held place =
      machine.received text place := by
  cases place with
  | file name =>
      refine (held_setFile _ name _ _).trans ((if_pos rfl).trans ?_)
      have emptied := held_setFile machine name [] (.file name)
      rw [if_pos rfl] at emptied
      show some (((machine.after (setFile name [])).held (.file name)).getD [] ++ text) = some text
      rw [emptied]
      rfl
  | standardOutput => exact held_printed taken
  | _ => rfl

/-! ## A directory of files -/

theorem locateFromRoot_eq_ok {access : Access} {slash : Bool} {names : List Text} {place : Target}
    (found : locateFromRoot access slash names = .ok place) :
    devices.lookup names = some place := by
  unfold locateFromRoot at found
  split at found
  · cases found
  · split at found
    · next target device =>
        cases slash with
        | true => cases found
        | false =>
            cases found
            exact device
    · split at found <;> cases found

theorem locateFromHere_eq_ok {files : Dictionary Text} {access : Access} {slash : Bool}
    {names : List Text} {place : Target}
    (found : locateFromHere files access slash names = .ok place) :
    ∃ name, names = [name] ∧ place = .file name := by
  unfold locateFromHere at found
  split at found
  · cases found
  · split at found
    · cases found
    · split at found
      · cases found
      · cases found
        exact ⟨_, rfl, rfl⟩
  · cases found

/-- In a directory of files a path leads to one place. -/
theorem steady_ofFiles (files : Dictionary Text) (input clock : Text) :
    (ofFiles files input clock).Steady := by
  rintro path first second ⟨files, access, one⟩ ⟨others, another, two⟩
  change locateInFlat files access path = .ok first at one
  change locateInFlat others another path = .ok second at two
  unfold locateInFlat at one two
  dsimp only at one two
  by_cases empty : path.isEmpty = true
  · rw [if_pos empty] at one
    cases one
  · rw [if_neg empty] at one two
    by_cases rooted : path.head? = some '/'
    · rw [if_pos rooted] at one two
      exact Option.some.inj
        ((locateFromRoot_eq_ok one).symm.trans (locateFromRoot_eq_ok two))
    · rw [if_neg rooted] at one two
      obtain ⟨name, same, rfl⟩ := locateFromHere_eq_ok one
      obtain ⟨other, also, rfl⟩ := locateFromHere_eq_ok two
      rw [same] at also
      rw [List.singleton_inj.mp also]

end Machine
end SafeMarkup
