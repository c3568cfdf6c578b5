-- A check of many files is all or nothing. The first file without a unit ends it and is all that is
-- told of, whatever stands in the others; else every file has its report, and the status, the lines
-- about the files and the findings come from these reports in the order of the files. Only the log
-- has warnings about the files before a failure, for it is written while they are checked.
import LockDiscipline.CommandLine.Run
import LockDiscipline.Proofs.Accounting
import LockDiscipline.Proofs.ReportTrees
import Mathlib.Data.List.Forall2

namespace LockDiscipline

/-! ## Passes that may fail -/

/-- A pass over a list ends at the first item that fails, or has a result for each item. -/
theorem mapM_failed_or_ok {ε α β : Type} (f : α → Except ε β) (items : List α) :
    (∃ before item after results error, items = before ++ item :: after ∧
      List.Forall₂ (fun item result => f item = .ok result) before results ∧
      f item = .error error ∧ items.mapM f = .error error) ∨
    ∃ results, List.Forall₂ (fun item result => f item = .ok result) items results ∧
      items.mapM f = .ok results := by
  induction items with
  | nil => exact Or.inr ⟨[], .nil, rfl⟩
  | cons item rest ih =>
    rw [List.mapM_cons]
    cases hitem : f item with
    | error error => exact Or.inl ⟨[], item, rest, [], error, rfl, .nil, hitem, rfl⟩
    | ok result =>
      rcases ih with ⟨before, failed, after, results, error, rfl, hbefore, hfailed, hrest⟩ |
        ⟨results, hresults, hrest⟩
      · refine Or.inl ⟨item :: before, failed, after, result :: results, error, rfl,
          .cons hitem hbefore, hfailed, ?_⟩
        rw [hrest]
        rfl
      · refine Or.inr ⟨result :: results, .cons hitem hresults, ?_⟩
        rw [hrest]
        rfl

/-! ## Warnings -/

theorem ClassSite.map_error_warnings (types : TypeLookup) (site : ClassSite) :
    (site.warnings types).map (·.error) = site.notes.filterMap (·.rejection? types) := by
  have herror (kind member : String) (isStatic : Bool) (note : Option GuardNote) :
      (site.warning? types kind member isStatic note).map (·.error) =
        (note.map fun note => (⟨note, member, site.scope isStatic⟩ : MemberNote)).bind
          (·.rejection? types) := by
    cases note with
    | none => rfl
    | some note =>
      unfold warning? MemberNote.rejection?
      dsimp only [Option.map, Option.bind]
      cases note.resolve member (site.scope isStatic) types <;> rfl
  unfold warnings notes
  simp only [List.map_append, List.map_filterMap, List.filterMap_append, List.filterMap_filterMap,
    fieldWarning?, methodWarning?, fieldNote?, methodNote?, herror]

/-- The log warns of every annotation that is rejected, in the order of the diagnostics. -/
theorem CompilationUnit.map_error_warnings (unit : CompilationUnit) :
    unit.warnings.map (·.error) = unit.rejections unit.types := by
  unfold warnings rejections
  rw [List.map_flatMap, List.filterMap_flatMap]
  simp only [ClassSite.map_error_warnings]
  rfl

namespace CommandLine

variable (around : Surroundings)

/-! ## The words of failures -/

namespace Failure

/-- Behind the quoted path stands what is wrong with the file. -/
theorem errorLine_detail (words path detail : String) :
    errorLine (words ++ path ++ "'") ++ ": " ++ detail =
      errorLine (words ++ path ++ "': " ++ detail) := by
  have hcolon : "': " = "'" ++ ": " := rfl
  unfold errorLine
  rw [hcolon]
  simp only [String.append_assoc]

theorem text_unreadable (path detail : String) :
    (unreadable path detail).text = errorLine ("cannot read '" ++ path ++ "': " ++ detail) :=
  errorLine_detail _ path detail

theorem text_badConfig (path detail : String) :
    (badConfig path detail).text = errorLine ("invalid toml in '" ++ path ++ "': " ++ detail) :=
  errorLine_detail _ path detail

theorem text_badUnit (path detail : String) :
    (badUnit path detail).text = errorLine ("invalid unit '" ++ path ++ "': " ++ detail) :=
  errorLine_detail _ path detail

end Failure

/-! ## What is found in files -/

namespace Surroundings

/-- The unit in the file at a path, under its own path or, if it has none, under that of the
file. -/
def HasUnit (path : String) (unit : CompilationUnit) : Prop :=
  ∃ text found, around.readFile path = .ok text ∧ CompilationUnit.ofJson text = .ok found ∧
    unit = { found with path := some (found.path.getD path) }

/-- What is said of the file at a path that cannot be read or holds no unit. -/
inductive NoUnit (path : String) : String → Prop
  | unreadable {detail : String} : around.readFile path = .error detail →
      NoUnit path ("cannot read '" ++ path ++ "': " ++ detail)
  | otherShape {text message : String} {error : Json.DecodeError} :
      around.readFile path = .ok text → CompilationUnit.ofJson text = .error error →
      error.message? = some message →
      NoUnit path ("invalid unit '" ++ path ++ "': " ++ (message ++ around.wording.place text))
  | notJson {text : String} {error : Json.DecodeError} :
      around.readFile path = .ok text → CompilationUnit.ofJson text = .error error →
      error.message? = none →
      NoUnit path ("invalid unit '" ++ path ++ "': "
        ++ (around.wording.noJson text ++ around.wording.place text))

/-- The configuration file of a run: the named one, else the nearest. -/
def configFile (config : Option String) : Option (String × Except String String) :=
  match config with
  | some path => some (path, around.readFile path)
  | none => around.nearestConfig

/-- The options of a run. -/
inductive HasOptions (config : Option String) (jobs : Option Nat) : Options → Prop
  | defaults : around.configFile config = none →
      HasOptions config jobs { Options.default with jobs := jobs.getD Options.default.jobs }
  | configured {path text : String} {options : Options} :
      around.configFile config = some (path, .ok text) → Options.ofToml? text = some options →
      HasOptions config jobs { options with jobs := jobs.getD options.jobs }

/-- What is said of the configuration file of a run that cannot be read or holds no options. -/
inductive NoOptions (config : Option String) : String → Prop
  | unreadable {path detail : String} :
      around.configFile config = some (path, .error detail) →
      NoOptions config ("cannot read '" ++ path ++ "': " ++ detail)
  | notOptions {path text : String} :
      around.configFile config = some (path, .ok text) → Options.ofToml? text = none →
      NoOptions config ("invalid toml in '" ++ path ++ "': " ++ around.wording.noOptions text)

theorem hasUnit_of_unitIn {path : String} {unit : CompilationUnit}
    (h : around.unitIn path = .ok unit) : around.HasUnit path unit := by
  unfold unitIn at h
  cases hread : around.readFile path with
  | error detail =>
    rw [hread] at h
    cases h
  | ok text =>
    rw [hread] at h
    dsimp only at h
    cases hunit : CompilationUnit.ofJson text with
    | error error =>
      rw [hunit] at h
      cases h
    | ok found =>
      rw [hunit] at h
      cases h
      exact ⟨text, found, hread, hunit, rfl⟩

theorem noUnit_of_unitIn {path : String} {failure : Failure}
    (h : around.unitIn path = .error failure) :
    ∃ why, around.NoUnit path why ∧ failure.text = errorLine why := by
  unfold unitIn at h
  cases hread : around.readFile path with
  | error detail =>
    rw [hread] at h
    cases h
    exact ⟨_, .unreadable hread, Failure.text_unreadable path detail⟩
  | ok text =>
    rw [hread] at h
    dsimp only at h
    cases hunit : CompilationUnit.ofJson text with
    | ok found =>
      rw [hunit] at h
      cases h
    | error error =>
      rw [hunit] at h
      cases h
      rw [Failure.text_badUnit, Wording.noUnit]
      cases hmessage : error.message? with
      | none => exact ⟨_, .notJson hread hunit hmessage, rfl⟩
      | some message => exact ⟨_, .otherShape hread hunit hmessage, rfl⟩

theorem loadOptions_eq (config : Option String) (jobs : Option Nat) :
    loadOptions around config jobs =
      (match around.configFile config with
        | some (path, text) => around.wording.optionsOf path text
        | none => .ok .default).map
          fun options : Options => { options with jobs := jobs.getD options.jobs } := by
  unfold loadOptions configFile
  cases config with
  | some path => rfl
  | none => cases around.nearestConfig <;> rfl

/-- The options of a run are found, or it is told why they are not. -/
theorem hasOptions_or_noOptions (config : Option String) (jobs : Option Nat) :
    (∃ options, loadOptions around config jobs = .ok options ∧
      around.HasOptions config jobs options) ∨
    ∃ failure why, loadOptions around config jobs = .error failure ∧
      around.NoOptions config why ∧ failure.text = errorLine why := by
  rw [loadOptions_eq]
  cases hconfig : around.configFile config with
  | none => exact Or.inl ⟨_, rfl, .defaults hconfig⟩
  | some file =>
    obtain ⟨path, text⟩ := file
    cases text with
    | error detail =>
      exact Or.inr ⟨_, _, rfl, .unreadable hconfig, Failure.text_unreadable path detail⟩
    | ok text =>
      unfold Wording.optionsOf
      dsimp only
      cases hoptions : Options.ofToml? text with
      | some options => exact Or.inl ⟨_, rfl, .configured hconfig hoptions⟩
      | none =>
        exact Or.inr ⟨_, _, rfl, .notOptions hconfig hoptions, Failure.text_badConfig path _⟩

variable {files : List String} {units : List CompilationUnit}

/-- Files whose units are all found are warned of, whatever follows them. -/
theorem warningsIn_append (h : List.Forall₂ (fun path unit => around.unitIn path = .ok unit)
    files units) (more : List String) :
    around.warningsIn (files ++ more) =
      units.flatMap (·.warnings) ++ around.warningsIn more := by
  induction h with
  | nil => rfl
  | cons hunit _ ih =>
    rw [List.cons_append, warningsIn, hunit]
    dsimp only
    rw [ih, List.flatMap_cons, List.append_assoc]

end Surroundings

variable (options : Options)

theorem mapM_checkFile (files : List String) :
    files.mapM (checkFile around options) =
      (files.mapM around.unitIn).map fun units => units.map (·.check options) := by
  induction files with
  | nil => rfl
  | cons path rest ih =>
    rw [List.mapM_cons, List.mapM_cons, ih, checkFile]
    cases around.unitIn path with
    | error failure => rfl
    | ok unit => cases rest.mapM around.unitIn <;> rfl

/-- Nothing is printed before every file has been read. -/
theorem check_eq (files : List String) (config : Option String) (format : Format)
    (jobs : Option Nat) :
    check around files config format jobs =
      (loadOptions around config jobs).bind fun options =>
        (files.mapM around.unitIn).map fun units =>
          let reports := units.map (·.check options)
          ⟨if reports.any (·.hasErrors) then 1 else 0, reportsOutput format reports,
            reportsErrors format reports, false⟩ := by
  unfold check
  cases loadOptions around config jobs with
  | error failure => rfl
  | ok options =>
    simp only [mapM_checkFile]
    cases files.mapM around.unitIn <;> rfl

theorem any_hasErrors (reports : List Report) :
    reports.any (·.hasErrors) = decide (∃ report ∈ reports, report.diagnostics ≠ []) := by
  rw [Bool.eq_iff_iff, List.any_eq_true, decide_eq_true_iff]
  simp only [Report.hasErrors_iff]

/-! ## What is shown, one report after the other -/

/-- What has been printed, and what has been printed about errors. -/
structure Console where
  output : String
  errors : String
  deriving DecidableEq

namespace Console

/-- Shows what was found, each finding where errors go, and behind the last one a line about the
whole report. -/
def showReport (paint : Paint) (summary : Report → String) (console : Console) (report : Report) :
    Console where
  output := console.output ++ summary report
  errors :=
    report.diagnostics.foldl (fun errors diagnostic => errors ++ diagnostic.render paint)
      console.errors

/-- Shows reports one after the other, but as JSON all at once. -/
def showReports (format : Format) (console : Console) (reports : List Report) : Console :=
  match format with
  | .json =>
    { console with
      output := console.output ++ ((Json.Tree.ofList (reports.map (·.toJson))).pretty ++ "\n") }
  | .plain => reports.foldl (showReport .plain plainSummary) console
  | .ansi => reports.foldl (showReport .ansi ansiSummary) console

theorem foldl_append_eq {α : Type} (text : α → String) (items : List α) (start : String) :
    items.foldl (fun shown item => shown ++ text item) start =
      start ++ String.join (items.map text) := by
  induction items generalizing start with
  | nil => simp
  | cons item rest ih =>
    rw [List.foldl_cons, ih, List.map_cons, String.join_cons, String.append_assoc]

theorem foldl_showReport (paint : Paint) (summary : Report → String) (reports : List Report)
    (console : Console) :
    reports.foldl (showReport paint summary) console =
      ⟨console.output ++ String.join (reports.map summary),
        console.errors ++ String.join
          (reports.flatMap fun report => report.diagnostics.map (·.render paint))⟩ := by
  induction reports generalizing console with
  | nil => simp
  | cons report rest ih =>
    rw [List.foldl_cons, ih, showReport, foldl_append_eq, List.map_cons, String.join_cons,
      List.flatMap_cons, String.join_append, String.append_assoc, String.append_assoc]

/-- What is printed of reports is what they leave when they are shown one after the other. -/
theorem showReports_eq (format : Format) (console : Console) (reports : List Report) :
    showReports format console reports =
      ⟨console.output ++ reportsOutput format reports,
        console.errors ++ reportsErrors format reports⟩ := by
  cases format with
  | json => simp [showReports, reportsOutput, reportsErrors]
  | plain => simp [showReports, foldl_showReport, reportsOutput, reportsErrors]
  | ansi => simp [showReports, foldl_showReport, reportsOutput, reportsErrors]

end Console

/-! ## What is shown of reports -/

/-- The line sums up the report: nothing was found, or so many errors. -/
inductive SummedUp (report : Report) : Format → String → Prop
  | plainWell : report.diagnostics = [] →
      SummedUp report .plain
        ("ok " ++ report.path.getD "<unit>" ++ " (" ++ toString report.membersAnalyzed
          ++ " members checked, " ++ toString report.membersExempt ++ " exempt, "
          ++ toString report.accesses ++ " guarded accesses)\n")
  | plainFailed : report.diagnostics ≠ [] →
      SummedUp report .plain
        ("FAILED " ++ report.path.getD "<unit>" ++ " (" ++ toString report.diagnostics.length
          ++ " error(s))\n")
  | ansiWell : report.diagnostics = [] →
      SummedUp report .ansi
        (Paint.coloured "32" "✓" ++ " " ++ Paint.coloured "1" (report.path.getD "<unit>") ++ " "
          ++ Paint.coloured "90" (toString report.membersAnalyzed ++ " members checked, "
            ++ toString report.membersExempt ++ " exempt, " ++ toString report.accesses
            ++ " guarded accesses") ++ "\n")
  | ansiFailed : report.diagnostics ≠ [] →
      SummedUp report .ansi
        (Paint.coloured "31" "✗" ++ " " ++ Paint.coloured "1" (report.path.getD "<unit>") ++ " "
          ++ toString report.diagnostics.length ++ " error(s)\n")

theorem summedUp_plainSummary (report : Report) : SummedUp report .plain (plainSummary report) := by
  unfold plainSummary
  dsimp only
  split
  · rename_i hfound
    rw [Report.errorCount_eq]
    exact .plainFailed (report.hasErrors_iff.mp hfound)
  · rename_i hwell
    have hend : " guarded accesses" ++ ")\n" = " guarded accesses)\n" := rfl
    have hline := SummedUp.plainWell (not_not.mp (mt report.hasErrors_iff.mpr hwell))
    simpa only [countsText, String.append_assoc, hend] using hline

theorem summedUp_ansiSummary (report : Report) : SummedUp report .ansi (ansiSummary report) := by
  unfold ansiSummary
  dsimp only
  split
  · rename_i hfound
    rw [Report.errorCount_eq]
    exact .ansiFailed (report.hasErrors_iff.mp hfound)
  · rename_i hwell
    exact .ansiWell (not_not.mp (mt report.hasErrors_iff.mpr hwell))

/-- What is printed of reports: as JSON one array, from which they can be read back, else a line for
each report and the findings of all, in the order of the reports. -/
def Shown (format : Format) (reports : List Report) (output errors : String) : Prop :=
  let summaries := ∃ lines, List.Forall₂ (fun report line => SummedUp report format line)
    reports lines ∧ output = String.join lines
  let findings (paint : Paint) :=
    String.join (reports.flatMap fun report => report.diagnostics.map (·.render paint))
  match format with
  | .json =>
    let tree := Json.Tree.ofList (reports.map (·.toJson))
    errors = "" ∧ output = tree.pretty ++ "\n" ∧ tree.WrittenAs output ∧
      Report.listOfJson? tree = some reports ∧
      ((∀ report ∈ reports, report.IsSized) →
        Report.listOfJson? (Json.read output).root = some reports)
  | .plain => summaries ∧ errors = findings .plain
  | .ansi => summaries ∧ errors = findings .ansi

theorem shown_reports (format : Format) (reports : List Report) :
    Shown format reports (reportsOutput format reports) (reportsErrors format reports) := by
  cases format with
  | json =>
    exact ⟨rfl, rfl, Json.writtenAs_pretty _, Report.listOfJson?_toJson reports,
      fun hsized => (Report.read_pretty hsized).2⟩
  | plain =>
    refine ⟨⟨reports.map plainSummary, ?_, rfl⟩, rfl⟩
    exact List.forall₂_map_right_iff.mpr (List.forall₂_same.mpr fun _ _ => summedUp_plainSummary _)
  | ansi =>
    refine ⟨⟨reports.map ansiSummary, ?_, rfl⟩, rfl⟩
    exact List.forall₂_map_right_iff.mpr (List.forall₂_same.mpr fun _ _ => summedUp_ansiSummary _)

/-! ## Whole runs -/

/-- A command line writes where errors go what its command does. -/
theorem standardError_of_parse {args : List String} {command : Command}
    (h : Command.parse args = .ok command) :
    logText around args ++ (Outcome.ofRun (run around args)).errors =
      command.standardError around := by
  unfold logText run
  rw [h]
  rfl

/-- How a command ends that has checked some units: with which status, and what it has printed.
Where errors go, what the log has of the warnings about these units stands first. -/
structure Ends (command : Command) (checked : List CompilationUnit) (status : Nat)
    (output errors : String) : Prop where
  status_eq : (Outcome.ofRun (command.run around)).status = status
  output_eq : (Outcome.ofRun (command.run around)).output = output
  warnings_eq : command.warnings around = checked.flatMap (·.warnings)
  standardError_eq : command.standardError around =
    around.wording.log (checked.flatMap (·.warnings)) ++ errors

theorem ends_of_run {command : Command} {checked : List CompilationUnit} {outcome : Outcome}
    (hrun : Outcome.ofRun (command.run around) = outcome)
    (hwarnings : command.warnings around = checked.flatMap (·.warnings)) :
    Ends around command checked outcome.status outcome.output outcome.errors where
  status_eq := congrArg Outcome.status hrun
  output_eq := congrArg Outcome.output hrun
  warnings_eq := hwarnings
  standardError_eq := by
    unfold Command.standardError
    rw [hwarnings, hrun]

variable {files : List String} {config : Option String} {jobs : Option Nat}

theorem ends_without_options {failure : Failure} {why : String}
    (hload : loadOptions around config jobs = .error failure)
    (hwhy : failure.text = errorLine why) (format : Format) :
    Ends around (.check files config format jobs) [] 2 "" (errorLine why ++ "\n") := by
  have hrun : Outcome.ofRun ((Command.check files config format jobs).run around) =
      ⟨2, "", errorLine why ++ "\n", false⟩ := by
    change Outcome.ofRun (check around files config format jobs) = _
    rw [check_eq, hload, ← hwhy]
    rfl
  have hwarnings : (Command.check files config format jobs).warnings around = [] := by
    rw [Command.warnings, hload]
  exact ends_of_run around hrun hwarnings

theorem ends_at_failure {options : Options} {before after : List String} {path : String}
    {units : List CompilationUnit} {failure : Failure} {why : String}
    (hload : loadOptions around config jobs = .ok options)
    (hbefore : List.Forall₂ (fun path unit => around.unitIn path = .ok unit) before units)
    (hfailed : around.unitIn path = .error failure)
    (hmapM : (before ++ path :: after).mapM around.unitIn = .error failure)
    (hwhy : failure.text = errorLine why) (format : Format) :
    Ends around (.check (before ++ path :: after) config format jobs) units 2 ""
      (errorLine why ++ "\n") := by
  have hrun : Outcome.ofRun
      ((Command.check (before ++ path :: after) config format jobs).run around) =
      ⟨2, "", errorLine why ++ "\n", false⟩ := by
    change Outcome.ofRun (check around (before ++ path :: after) config format jobs) = _
    rw [check_eq, hload, hmapM, ← hwhy]
    rfl
  have hwarnings : (Command.check (before ++ path :: after) config format jobs).warnings around =
      units.flatMap (·.warnings) := by
    rw [Command.warnings, hload]
    dsimp only
    rw [around.warningsIn_append hbefore, Surroundings.warningsIn, hfailed]
    exact List.append_nil _
  exact ends_of_run around hrun hwarnings

theorem ends_with_reports {options : Options} {units : List CompilationUnit}
    (hload : loadOptions around config jobs = .ok options)
    (hunits : List.Forall₂ (fun path unit => around.unitIn path = .ok unit) files units)
    (hmapM : files.mapM around.unitIn = .ok units) (format : Format) :
    let reports := units.map (·.check options)
    Ends around (.check files config format jobs) units
      (if ∃ report ∈ reports, report.diagnostics ≠ [] then 1 else 0)
      (reportsOutput format reports) (reportsErrors format reports) := by
  intro reports
  have hrun : Outcome.ofRun ((Command.check files config format jobs).run around) =
      ⟨if ∃ report ∈ reports, report.diagnostics ≠ [] then 1 else 0,
        reportsOutput format reports, reportsErrors format reports, false⟩ := by
    change Outcome.ofRun (check around files config format jobs) = _
    rw [check_eq, hload, hmapM]
    simp only [Except.bind, Except.map, Outcome.ofRun, any_hasErrors, decide_eq_true_eq, reports]
  have hwarnings : (Command.check files config format jobs).warnings around =
      units.flatMap (·.warnings) := by
    have hall := around.warningsIn_append hunits []
    rw [List.append_nil, Surroundings.warningsIn, List.append_nil] at hall
    rw [Command.warnings, hload]
    exact hall
  exact ends_of_run around hrun hwarnings

/-- If the options cannot be loaded, or else a file is the first without a unit, the status is two
and nothing is printed but this one error. Otherwise the status says whether some report has a
finding, and what is printed are the reports on the units of all files in their order. The
format has no part in the status. In all cases the log stands in front of the errors, with its
warnings about the units of the files before the failure. -/
theorem a_batch_is_all_or_nothing (files : List String) (config : Option String) (format : Format)
    (jobs : Option Nat) :
    let command := Command.check files config format jobs
    ((∃ why, around.NoOptions config why ∧ Ends around command [] 2 "" (errorLine why ++ "\n")) ∨
      ∃ options, around.HasOptions config jobs options ∧
        ((∃ before path after units why, files = before ++ path :: after ∧
            List.Forall₂ around.HasUnit before units ∧ around.NoUnit path why ∧
            Ends around command units 2 "" (errorLine why ++ "\n")) ∨
          ∃ units, List.Forall₂ around.HasUnit files units ∧
            let reports : List Report := units.map (·.check options)
            let status : Nat := if ∃ report ∈ reports, report.diagnostics ≠ [] then 1 else 0
            ∃ output errors, Ends around command units status output errors ∧
              Shown format reports output errors ∧
              Console.showReports format ⟨"", around.wording.log (units.flatMap (·.warnings))⟩
                reports = ⟨output, command.standardError around⟩)) ∧
    ∀ other, (Outcome.ofRun ((Command.check files config other jobs).run around)).status =
      (Outcome.ofRun (command.run around)).status := by
  intro command
  have hunits {files : List String} {units : List CompilationUnit}
      (h : List.Forall₂ (fun path unit => around.unitIn path = .ok unit) files units) :
      List.Forall₂ around.HasUnit files units :=
    h.imp fun _ _ => around.hasUnit_of_unitIn
  rcases around.hasOptions_or_noOptions config jobs with
    ⟨options, hload, hoptions⟩ | ⟨failure, why, hload, hwhy, htext⟩
  · rcases mapM_failed_or_ok around.unitIn files with
      ⟨before, path, after, units, failure, rfl, hbefore, hfailed, hmapM⟩ |
        ⟨units, hall, hmapM⟩
    · obtain ⟨why, hwhy, htext⟩ := around.noUnit_of_unitIn hfailed
      have hends := ends_at_failure around hload hbefore hfailed hmapM htext
      refine ⟨Or.inr ⟨options, hoptions, Or.inl ⟨before, path, after, units, why, rfl,
        hunits hbefore, hwhy, hends format⟩⟩, fun other => ?_⟩
      exact (hends other).status_eq.trans (hends format).status_eq.symm
    · have hends := ends_with_reports around hload hall hmapM
      refine ⟨Or.inr ⟨options, hoptions, Or.inr ⟨units, hunits hall, _, _, hends format,
        shown_reports format _, ?_⟩⟩, fun other => ?_⟩
      · rw [Console.showReports_eq, (hends format).standardError_eq, String.empty_append]
      · exact (hends other).status_eq.trans (hends format).status_eq.symm
  · have hends (format : Format) :
        Ends around (.check files config format jobs) [] 2 "" (errorLine why ++ "\n") :=
      ends_without_options around hload htext format
    refine ⟨Or.inl ⟨why, hwhy, hends format⟩, fun other => ?_⟩
    exact (hends other).status_eq.trans (hends format).status_eq.symm

/-! ## A finding and a missing file

The only file there is holds a class whose field names no lock in its annotation. -/

def badGuardText : String :=
  "\x7b\"classes\":[\x7b\"name\":\"C\",\"fields\":[\x7b\"name\":\"x\",\"ty\":\"int\","
    ++ "\"guarded_by\":\x7b\"text\":\"?\"\x7d\x7d]\x7d]\x7d"

def oneFile : Surroundings where
  readFile path := if path = "C.json" then .ok badGuardText else .error "no such file"
  nearestConfig := none
  hasConfigHere := false
  wording := .brief

example :
    let command := fun files => Command.check files none .plain none
    let outcome := fun files => Outcome.ofRun ((command files).run oneFile)
    (fun shown => (shown.status, shown.output)) (outcome ["C.json"]) =
        (1, "FAILED C.json (1 error(s))\n") ∧
      (outcome ["C.json", "Missing.json"]).status = 2 ∧
      (command ["C.json", "Missing.json"]).standardError oneFile =
        "WARN Invalid guard expression '?': unexpected '?' field=x class=C\n"
          ++ errorLine "cannot read 'Missing.json': no such file"
          ++ "\n" := by
  decide +kernel

end CommandLine

end LockDiscipline
