import EscapeTime.CommandLine
import EscapeTime.Proofs.CommandLine.Writing
import EscapeTime.Proofs.Session.Reset
import EscapeTime.Proofs.Settings.RoundTrip

set_option autoImplicit false

namespace EscapeTime

def Console.Refuses (console : Console) : Prop :=
  (∃ shown stream text, (console.refusal? shown stream text).isSome = true) ∨
    ∃ record, (console.logRefusal? record).isSome = true

namespace Script

structure CutOff (console : Console) (files : Files) (outcome : Report × Files) : Prop where
  refused : console.Refuses
  status : outcome.1.status = refusedStatus
  unchanged : outcome.2 = files

theorem print_run (console : Console) (stream : Stream) (text : String) (next : Script) (shown : Transcript)
    (files : Files) :
    CutOff console files ((print stream text next).run console shown files) ∨
      (print stream text next).run console shown files = next.run console (shown.add text stream) files := by
  cases answer : console.refusal? shown stream text with
  | none => exact .inr (by simp only [run, answer])
  | some fault =>
      refine .inl ⟨.inl ⟨shown, stream, text, Option.isSome_of_eq_some answer⟩, ?_, ?_⟩
      · simp only [run, answer, refused]
      · simp only [run, answer]

theorem log_run (console : Console) (record : LogRecord) (next : Script) (shown : Transcript) (files : Files) :
    CutOff console files ((log record next).run console shown files) ∨
      (log record next).run console shown files = next.run console shown files := by
  cases answer : console.logRefusal? record with
  | none => exact .inr (by simp only [run, answer])
  | some fault =>
      refine .inl ⟨.inr ⟨record, Option.isSome_of_eq_some answer⟩, ?_, ?_⟩
      · simp only [run, answer, refused]
      · simp only [run, answer]

theorem print_all_run (console : Console) (stream : Stream) (texts : List String) (next : Script)
    (shown : Transcript) (files : Files) :
    CutOff console files ((printAll stream texts next).run console shown files) ∨
      ∃ later, (printAll stream texts next).run console shown files = next.run console later files := by
  induction texts generalizing shown with
  | nil => exact .inr ⟨shown, rfl⟩
  | cons text rest ih =>
      rcases print_run console stream text (printAll stream rest next) shown files with cut | printed
      · exact .inl cut
      · rw [show printAll stream (text :: rest) next = print stream text (printAll stream rest next) from rfl, printed]
        exact ih (shown.add text stream)

end Script

namespace CommandLine

def Invocation.load (invocation : Invocation) (files : Files) : Except Error Settings :=
  match invocation.settings with
  | none => .ok .standard
  | some path => Settings.ofRead path (files.readText path)

-- A session that has compiled two formulas and done nothing else, under settings with a named palette.
def freshSession (settings : Settings) (palette : Option String) (initial step : String) :
    Except Error Session := do
  (Session.new (← withPalette settings palette)).compile initial step

def Invocation.compiled (invocation : Invocation) (files : Files) (palette : Option String)
    (initial step : String) : Except Error Session := do
  freshSession (← invocation.load files) palette initial step

namespace Command

-- What a command needs to succeed, on a console that takes what it prints.
def Possible (settings : Settings) (files : Files) : Command → Prop
  | compile initial step palette output json =>
      (∃ session, freshSession settings palette initial step = .ok session) ∧
        (json = false → ∀ path, output = some path → (files.place? path).isSome = true)
  | tokens markup => (Markup.scan settings.names markup).failure = none
  | tree markup =>
      (Markup.scan settings.names markup).failure = none ∧ (Session.parsed settings markup).message = none
  | presets none _ => True
  | presets (some name) _ => ((Session.new settings).applyPreset name).error = none
  | writeSettings path => files.has path = false ∧ (files.place? path).isSome = true

def Leaves (settings : Settings) (files : Files) : Command → Files → Prop
  | compile initial step palette (some path) false, after =>
      ∃ session shader location, freshSession settings palette initial step = .ok session ∧
        session.shader = some shader ∧ files.place? path = some location ∧
        files.Replaced location shader.source.toUTF8 after ∧ after.readText path = .ok shader.source
  | writeSettings path, after =>
      files.has path = false ∧ ∃ location, files.place? path = some location ∧ files.get? location = none ∧
        files.Replaced location Settings.standard.render.toUTF8 after ∧
        Settings.ofRead path (after.readText path) = .ok .standard
  | _, after => after = files

-- The console refuses what the command says about a file that it has written.
def Unconfirmed (console : Console) : Command → Prop
  | compile _ _ _ (some path) false => (console.logRefusal? (.wrote path)).isSome = true
  | writeSettings path => (console.refusal? .empty .output (confirmation path)).isSome = true
  | _ => False

theorem Unconfirmed.refuses {console : Console} {command : Command} (unconfirmed : command.Unconfirmed console) :
    console.Refuses := by
  unfold Unconfirmed at unconfirmed
  split at unconfirmed
  · exact .inr ⟨_, unconfirmed⟩
  · exact .inl ⟨_, _, _, unconfirmed⟩
  · cases unconfirmed

end Command

inductive Ends (console : Console) (settings : Settings) (files : Files) (command : Command) :
    Report × Files → Prop where
  | failed {report : Report} (impossible : ¬ command.Possible settings files) (status : report.status = 1) :
      Ends console settings files command (report, files)
  | cutOff {outcome : Report × Files} (other : ∀ path, command ≠ .writeSettings path)
      (cut : Script.CutOff console files outcome) : Ends console settings files command outcome
  | unconfirmed {report : Report} {after : Files} (possible : command.Possible settings files)
      (refused : command.Unconfirmed console) (status : report.status = Script.refusedStatus)
      (leaves : command.Leaves settings files after) : Ends console settings files command (report, after)
  | done {report : Report} {after : Files} (possible : command.Possible settings files)
      (status : report.status = 0) (leaves : command.Leaves settings files after) :
      Ends console settings files command (report, after)

section

variable {console : Console} {settings : Settings} {files : Files} {command : Command}

theorem printed_ends (other : ∀ path, command ≠ .writeSettings path) (possible : command.Possible settings files)
    (leaves : command.Leaves settings files files) (stream : Stream) (text : String) (shown : Transcript) :
    Ends console settings files command ((Script.print stream text (.finish 0)).run console shown files) := by
  rcases Script.print_run console stream text (.finish 0) shown files with cut | printed
  · exact .cutOff other cut
  · rw [printed]
    exact .done possible rfl leaves

theorem logged_ends (other : ∀ path, command ≠ .writeSettings path) {record : LogRecord} {next : Script}
    {shown : Transcript} (ends : Ends console settings files command (next.run console shown files)) :
    Ends console settings files command ((Script.log record next).run console shown files) := by
  rcases Script.log_run console record next shown files with cut | logged
  · exact .cutOff other cut
  · rwa [logged]

theorem emit_ends {initial step : String} {palette : Option String} {session : Session}
    (made : freshSession settings palette initial step = .ok session) {shader : Shader}
    (current : session.shader = some shader) (output : Option String) (json : Bool) (shown : Transcript) :
    Ends console settings files (.compile initial step palette output json)
      ((emit session output json).run console shown files) := by
  simp only [emit, current]
  cases json with
  | true =>
      apply printed_ends (by nofun)
      · exact ⟨⟨session, made⟩, nofun⟩
      · cases output <;> rfl
  | false =>
      cases output with
      | none =>
          apply printed_ends (by nofun)
          · exact ⟨⟨session, made⟩, nofun⟩
          · rfl
      | some path =>
          simp only [Bool.false_eq_true, if_false, Script.run]
          rcases files.write_outcome path shader.source with ⟨location, place, written⟩ | ⟨nowhere, fault, failed⟩
          · have possible : Command.Possible settings files (.compile initial step palette (some path) false) := by
              refine ⟨⟨session, made⟩, ?_⟩
              rintro - _ ⟨⟩
              exact Option.isSome_of_eq_some place
            have leaves : Command.Leaves settings files (.compile initial step palette (some path) false)
                (files.put location shader.source.toUTF8) :=
              ⟨session, shader, location, made, current, place, files.replaced_put location _,
                Files.read_text_put place _⟩
            rw [written]
            cases answer : console.logRefusal? (.wrote path) with
            | none => exact .done possible rfl leaves
            | some fault => exact .unconfirmed possible (Option.isSome_of_eq_some answer) rfl leaves
          · rw [failed]
            refine .failed (fun possible => ?_) rfl
            cases (possible.2 rfl path rfl).symm.trans nowhere

theorem compile_ends (initial step : String) (palette output : Option String) (json : Bool) (shown : Transcript) :
    Ends console settings files (.compile initial step palette output json)
      ((compile settings initial step palette output json).run console shown files) := by
  rw [compile]
  cases coloured : withPalette settings palette with
  | error error =>
      refine .failed ?_ rfl
      rintro ⟨⟨session, made⟩, -⟩
      rw [freshSession, coloured] at made
      cases made
  | ok chosen =>
      refine logged_ends (by nofun) ?_
      have fresh : freshSession settings palette initial step = (Session.new chosen).compile initial step := by
        rw [freshSession, coloured]
        rfl
      cases made : (Session.new chosen).compile initial step with
      | error error =>
          refine .failed ?_ rfl
          rintro ⟨⟨session, compiled⟩, -⟩
          cases compiled.symm.trans (fresh.trans made)
      | ok session =>
          obtain ⟨shader, current⟩ := Option.ne_none_iff_exists'.mp (Session.compile_ok made).2.2
          exact emit_ends (fresh.trans made) current output json shown

theorem standard_loads (path : String) : Settings.ofRead path (.ok Settings.standard.render) = .ok .standard := by
  have writable : Settings.standard.Writable := ⟨by decide, by decide, by decide, nofun⟩
  have steady : Settings.standard.settled = .standard := (Settings.settled_iff _).mpr (by decide)
  have parsed := Settings.parse?_render_without writable fun _ => false
  rw [Settings.render_without_none, Settings.with_standard_none, steady] at parsed
  exact Settings.of_read_parsed parsed

-- Nothing is printed before the confirmation, which the console is therefore asked about with nothing shown.
theorem write_settings_ends (path : String) :
    Ends console settings files (.writeSettings path) ((writeSettings path).run console .empty files) := by
  rw [writeSettings, Script.run]
  cases absent : files.has path with
  | true =>
      refine .failed (fun possible => ?_) rfl
      cases possible.1.symm.trans absent
  | false =>
      rw [Script.run]
      rcases files.write_outcome path Settings.standard.render with
        ⟨location, place, written⟩ | ⟨nowhere, fault, failed⟩
      · have possible : Command.Possible settings files (.writeSettings path) :=
          ⟨absent, Option.isSome_of_eq_some place⟩
        have leaves : Command.Leaves settings files (.writeSettings path)
            (files.put location Settings.standard.render.toUTF8) := by
          refine ⟨absent, location, place, Files.place_vacant place absent, files.replaced_put location _, ?_⟩
          rw [Files.read_text_put place]
          exact standard_loads path
        rw [written]
        cases answer : console.refusal? .empty .output (confirmation path) with
        | none =>
            simp only [Script.run, answer]
            exact .done possible rfl leaves
        | some fault =>
            simp only [Script.run, answer]
            exact .unconfirmed possible (Option.isSome_of_eq_some answer) rfl leaves
      · rw [failed]
        refine .failed (fun possible => ?_) rfl
        cases possible.2.symm.trans nowhere

theorem tokens_ends (markup : String) (shown : Transcript) :
    Ends console settings files (.tokens markup) ((tokens settings markup).run console shown files) := by
  refine logged_ends (by nofun) ?_
  rcases Script.print_all_run console .output _ _ shown files with cut | ⟨listed, printed⟩
  · exact .cutOff (by nofun) cut
  rw [printed]
  rcases Script.print_all_run console .errors _ _ listed files with cut | ⟨warned, printed⟩
  · exact .cutOff (by nofun) cut
  rw [printed]
  cases failed : (Markup.scan settings.names markup).failure with
  | none => exact .done failed rfl rfl
  | some failure =>
      refine .failed (fun possible => ?_) rfl
      cases failed.symm.trans possible

theorem tree_ends (markup : String) (shown : Transcript) :
    Ends console settings files (.tree markup) ((tree settings markup).run console shown files) := by
  refine logged_ends (by nofun) ?_
  cases failed : (Markup.scan settings.names markup).failure with
  | some failure =>
      refine .failed (fun possible => ?_) rfl
      cases failed.symm.trans possible.1
  | none =>
      rcases Script.print_run console .output _ _ shown files with cut | printed
      · exact .cutOff (by nofun) cut
      rw [printed]
      cases told : (Formula.parse settings.reading (Markup.scan settings.names markup).tokens).message with
      | none => exact .done ⟨failed, told⟩ rfl rfl
      | some message =>
          refine .failed (fun possible => ?_) rfl
          cases told.symm.trans possible.2

theorem preset_shader {session : Session} {name : String} (fine : (session.applyPreset name).error = none) :
    (session.applyPreset name).session.shader ≠ none := by
  have applied := Session.apply_preset_applied session name
  generalize session.applyPreset name = outcome at applied fine ⊢
  cases applied with
  | unknown _ => cases fine
  | seeded _ _ done _ _ =>
      rw [Session.seed_shader]
      exact (Session.compile_ok done).2.2
  | halfway _ _ _ _ _ => cases fine

theorem presets_ends (name : Option String) (json : Bool) (shown : Transcript) :
    Ends console settings files (.presets name json) ((presets settings name json).run console shown files) := by
  cases name with
  | none =>
      rcases Script.print_all_run console .output (Preset.all.map presetLine) (.finish 0) shown files with
        cut | ⟨listed, printed⟩
      · exact .cutOff (by nofun) cut
      · rw [presets, printed]
        exact .done trivial rfl rfl
  | some name =>
      refine logged_ends (by nofun) ?_
      dsimp only
      cases failed : ((Session.new settings).applyPreset name).error with
      | some error =>
          refine .failed (fun possible => ?_) rfl
          cases failed.symm.trans possible
      | none =>
          obtain ⟨shader, current⟩ := Option.ne_none_iff_exists'.mp (preset_shader failed)
          simp only [emit, current]
          cases json <;>
          · apply printed_ends (by nofun)
            · exact failed
            · rfl

theorem perform_ends (command : Command) :
    Ends console settings files command ((perform settings command).run console .empty files) := by
  cases command with
  | compile initial step palette output json => exact compile_ends initial step palette output json .empty
  | tokens markup => exact tokens_ends markup .empty
  | tree markup => exact tree_ends markup .empty
  | presets name json => exact presets_ends name json .empty
  | writeSettings path => exact write_settings_ends path

end

inductive Invocation.Ends (console : Console) (invocation : Invocation) (files : Files) : Report × Files → Prop where
  | unloaded {error : Error} {report : Report} (unloaded : invocation.load files = .error error)
      (status : report.status = 1) : invocation.Ends console files (report, files)
  | loaded {settings : Settings} {outcome : Report × Files} (loaded : invocation.load files = .ok settings)
      (ends : CommandLine.Ends console settings files invocation.command outcome) :
      invocation.Ends console files outcome

theorem invoke_ends (console : Console) (invocation : Invocation) (files : Files) :
    invocation.Ends console files ((invoke invocation).run console .empty files) := by
  cases chosen : invocation.settings with
  | none =>
      have loaded : invocation.load files = .ok .standard := by rw [Invocation.load, chosen]
      simp only [invoke, chosen]
      exact .loaded loaded (perform_ends invocation.command)
  | some path =>
      have loads : invocation.load files = Settings.ofRead path (files.readText path) := by
        rw [Invocation.load, chosen]
      simp only [invoke, chosen, Script.run]
      cases read : Settings.ofRead path (files.readText path) with
      | error error => exact .unloaded (loads.trans read) rfl
      | ok settings => exact .loaded (loads.trans read) (perform_ends invocation.command)

-- What `invocation.compiled` gives is made from the settings, the palette and the formulas in this order, and
-- an error at any of them is a failure of the command.
theorem not_possible_of_error {invocation : Invocation} {files : Files} {initial step : String}
    {palette output : Option String} {json : Bool}
    (told : invocation.command = .compile initial step palette output json) {error : Error}
    (bad : invocation.compiled files palette initial step = .error error) {settings : Settings}
    (loaded : invocation.load files = .ok settings) : ¬ invocation.command.Possible settings files := by
  rw [told]
  rintro ⟨⟨session, made⟩, -⟩
  rw [Invocation.compiled, loaded] at bad
  cases bad.symm.trans made

theorem Command.Leaves.keeps {settings : Settings} {files after : Files} {command : Command}
    (leaves : command.Leaves settings files after) {path : String} (told : command = .writeSettings path)
    {location : Location} {bytes : ByteArray} (present : files.get? location = some bytes) :
    after.get? location = some bytes := by
  subst told
  obtain ⟨-, place, -, vacant, replaced, -⟩ := leaves
  have other : location ≠ place := by
    rintro rfl
    cases present.symm.trans vacant
  rw [replaced.others location other, present]

namespace Invocation.Ends

variable {console : Console} {invocation : Invocation} {files : Files} {outcome : Report × Files}

theorem failure (ends : invocation.Ends console files outcome) (failed : outcome.1.status ≠ 0) :
    outcome.2 = files ∨ outcome.1.status = Script.refusedStatus ∧ invocation.command.Unconfirmed console ∧
      ∃ settings, invocation.load files = .ok settings ∧ invocation.command.Possible settings files ∧
        invocation.command.Leaves settings files outcome.2 := by
  cases ends with
  | unloaded _ _ => exact .inl rfl
  | @loaded settings _ loaded ends =>
      cases ends with
      | failed _ _ => exact .inl rfl
      | cutOff _ cut => exact .inl cut.unchanged
      | unconfirmed possible refused status leaves =>
          exact .inr ⟨status, refused, settings, loaded, possible, leaves⟩
      | done _ status _ => exact absurd status failed

theorem success (ends : invocation.Ends console files outcome) (fine : outcome.1.status = 0) :
    ∃ settings, invocation.load files = .ok settings ∧ invocation.command.Possible settings files ∧
      invocation.command.Leaves settings files outcome.2 := by
  cases ends with
  | unloaded _ status => cases status.symm.trans fine
  | @loaded settings _ loaded ends =>
      cases ends with
      | failed _ status | unconfirmed _ _ status _ => cases status.symm.trans fine
      | cutOff _ cut => cases cut.status.symm.trans fine
      | done possible _ leaves => exact ⟨settings, loaded, possible, leaves⟩

-- Where the command can be carried out, only a refusal stops it.
theorem of_possible (ends : invocation.Ends console files outcome) {settings : Settings}
    (loaded : invocation.load files = .ok settings) (possible : invocation.command.Possible settings files) :
    (console.Refuses ∧ ∀ path, invocation.command ≠ .writeSettings path) ∨
      invocation.command.Leaves settings files outcome.2 ∧ (outcome.1.status = 0 ∨ console.Refuses) := by
  cases ends with
  | unloaded unloaded _ => cases unloaded.symm.trans loaded
  | loaded again ends =>
      obtain rfl := Except.ok.inj (again.symm.trans loaded)
      cases ends with
      | failed impossible _ => exact absurd possible impossible
      | cutOff other cut => exact .inl ⟨cut.refused, other⟩
      | unconfirmed _ refused _ leaves => exact .inr ⟨leaves, .inr refused.refuses⟩
      | done _ status leaves => exact .inr ⟨leaves, .inl status⟩

-- A run leaves the files alone, or has left what the command is for.
theorem unchanged_or_leaves (ends : invocation.Ends console files outcome) :
    outcome.1.status ≠ 0 ∧ outcome.2 = files ∨
      ∃ settings, invocation.load files = .ok settings ∧ invocation.command.Possible settings files ∧
        invocation.command.Leaves settings files outcome.2 := by
  by_cases fine : outcome.1.status = 0
  · exact .inr (ends.success fine)
  · rcases ends.failure fine with same | ⟨-, -, left⟩
    · exact .inl ⟨fine, same⟩
    · exact .inr left

end Invocation.Ends

-- A run that fails changes nothing, or has done all it is for and could only not say so.
theorem invoke_touches_told_file (console : Console) (invocation : Invocation) (files : Files) :
    let outcome := (invoke invocation).run console .empty files
    (outcome.1.status ≠ 0 → outcome.2 = files ∨
      outcome.1.status = Script.refusedStatus ∧ invocation.command.Unconfirmed console ∧
        ∃ settings, invocation.load files = .ok settings ∧ invocation.command.Possible settings files ∧
          invocation.command.Leaves settings files outcome.2) ∧
    (outcome.1.status = 0 → ∃ settings, invocation.load files = .ok settings ∧
      invocation.command.Possible settings files ∧ invocation.command.Leaves settings files outcome.2) ∧
    (¬ console.Refuses → ∀ settings, invocation.load files = .ok settings →
      invocation.command.Possible settings files → outcome.1.status = 0) ∧
    (∀ path, invocation.command = .writeSettings path →
      (∀ location bytes, files.get? location = some bytes → outcome.2.get? location = some bytes) ∧
      ∀ settings, invocation.load files = .ok settings → invocation.command.Possible settings files →
        invocation.command.Leaves settings files outcome.2) ∧
    ∀ initial step palette output json, invocation.command = .compile initial step palette output json →
      ∀ error, invocation.compiled files palette initial step = .error error →
        outcome.1.status ≠ 0 ∧ outcome.2 = files := by
  intro outcome
  have ends : invocation.Ends console files outcome := invoke_ends console invocation files
  refine ⟨ends.failure, ends.success, fun willing settings loaded possible => ?_, fun path told => ⟨?_, ?_⟩, ?_⟩
  · rcases ends.of_possible loaded possible with ⟨refuses, -⟩ | ⟨-, fine | refuses⟩
    · exact absurd refuses willing
    · exact fine
    · exact absurd refuses willing
  · intro location bytes present
    rcases ends.unchanged_or_leaves with ⟨-, same⟩ | ⟨settings, -, -, leaves⟩
    · rwa [same]
    · exact leaves.keeps told present
  · intro settings loaded possible
    rcases ends.of_possible loaded possible with ⟨-, other⟩ | ⟨leaves, -⟩
    · exact absurd told (other path)
    · exact leaves
  · intro initial step palette output json told error bad
    rcases ends.unchanged_or_leaves with unchanged | ⟨settings, loaded, possible, -⟩
    · exact unchanged
    · exact absurd possible (not_possible_of_error told bad loaded)

def fullOutput : Console where
  refusal? := fun _ stream _ => if stream = .output then some (.other "No space left on device (os error 28)") else none
  logRefusal? := fun _ => none

theorem unconfirmed_settings_stay :
    let files : Files := ⟨[], ["home"]⟩
    let outcome := (invoke ⟨none, .writeSettings "new.toml"⟩).run fullOutput .empty files
    outcome.1.status = 101 ∧ files.has "new.toml" = false ∧ outcome.2.has "new.toml" = true := by
  decide +kernel

example :
    let outcome := (invoke ⟨none, .compile "0" "z^2+x" (some "green") (some "../green.wgsl") false⟩).run .willing .empty
      ⟨[(["home", "notes"], ⟨#[0xff]⟩)], ["home", "work"]⟩
    outcome.1.status = 0 ∧ outcome.2.entries.map Prod.fst = [["home", "green.wgsl"], ["home", "notes"]] := by
  decide +kernel

end CommandLine

end EscapeTime
