-- What a run sees in a folder. A written path that goes down only leads straight to its file. The
-- options of a run come from the nearest configuration file: the one in the folder of the run, or
-- else in the nearest folder around it that has one; where no folder has one, the defaults count.
-- And no run takes the place of a configuration file that is there.
import LockDiscipline.CommandLine.Folder
import Mathlib.Data.List.Induction
import Mathlib.Data.List.Infix

namespace LockDiscipline.CommandLine

/-! ## The folders around a folder -/

theorem upward_concat (here : Path) (name : String) :
    upward (here ++ [name]).reverse = (here ++ [name]) :: upward here.reverse := by
  rw [List.reverse_concat, upward, List.reverse_cons, List.reverse_reverse]

theorem mem_upward_iff {here way : Path} : way ∈ upward here.reverse ↔ way <+: here := by
  induction here using List.reverseRecOn with
  | nil => simp [upward]
  | append_singleton here name ih =>
    rw [upward_concat, List.mem_cons, ih, List.prefix_concat_iff]

/-- The folders come with ever shorter ways. -/
theorem pairwise_upward (here : Path) :
    (upward here.reverse).Pairwise fun way further => further.length < way.length := by
  induction here using List.reverseRecOn with
  | nil => exact List.pairwise_singleton _ _
  | append_singleton here name ih =>
    rw [upward_concat]
    refine List.Pairwise.cons ?_ ih
    intro way hway
    have hlength := (mem_upward_iff.mp hway).length_le
    rw [List.length_append, List.length_singleton]
    omega

/-- What is found belongs to a folder, and to none of the nearer ones. -/
theorem exists_of_findSome?_upward {α : Type} {f : Path → Option α} {here : Path} {a : α}
    (h : (upward here.reverse).findSome? f = some a) :
    ∃ way, way <+: here ∧ f way = some a ∧
      ∀ nearer, nearer <+: here → way.length < nearer.length → f nearer = none := by
  obtain ⟨before, way, after, hsplit, hway, hbefore⟩ := List.findSome?_eq_some_iff.mp h
  have hmem : way ∈ upward here.reverse := by
    rw [hsplit]
    exact List.mem_append_right _ List.mem_cons_self
  refine ⟨way, mem_upward_iff.mp hmem, hway, ?_⟩
  intro nearer hnearer hlength
  have hpairwise := pairwise_upward here
  rw [hsplit, List.pairwise_append, List.pairwise_cons] at hpairwise
  have hmem := mem_upward_iff.mpr hnearer
  rw [hsplit, List.mem_append, List.mem_cons] at hmem
  rcases hmem with hmem | rfl | hmem
  · exact hbefore nearer hmem
  · exact absurd hlength (Nat.lt_irrefl _)
  · exact absurd (hpairwise.2.1.1 nearer hmem) (Nat.lt_asymm hlength)

/-! ## The nearest configuration file -/

namespace Folder

variable (folder : Folder)

/-- The text of the configuration file in the folder at the end of a way. -/
def configIn (way : Path) : Option String := folder.textAt (way ++ [configName])

theorem nearestConfig_eq :
    folder.nearestConfig = (upward folder.here.reverse).findSome? fun way =>
      (folder.configIn way).map fun text =>
        ("/".intercalate (way ++ [configName]), .ok text) := List.findSome?_map

/-- The file is in the folder of the run or around it, and no folder that is nearer has one. -/
structure IsNearest (way : Path) (text : String) : Prop where
  around : way <+: folder.here
  text_eq : folder.configIn way = some text
  nearest : ∀ nearer, nearer <+: folder.here → way.length < nearer.length →
    folder.configIn nearer = none

theorem nearestConfig_cases :
    (folder.nearestConfig = none ∧ ∀ way, way <+: folder.here → folder.configIn way = none) ∨
      ∃ way text, folder.IsNearest way text ∧
        folder.nearestConfig = some ("/".intercalate (way ++ [configName]), .ok text) := by
  cases hfound : folder.nearestConfig with
  | none =>
    rw [nearestConfig_eq, List.findSome?_eq_none_iff] at hfound
    refine Or.inl ⟨rfl, fun way hway => ?_⟩
    exact Option.map_eq_none_iff.mp (hfound way (mem_upward_iff.mpr hway))
  | some file =>
    rw [nearestConfig_eq] at hfound
    obtain ⟨way, hway, hfile, hnearer⟩ := exists_of_findSome?_upward hfound
    obtain ⟨text, htext, rfl⟩ := Option.map_eq_some_iff.mp hfile
    refine Or.inr ⟨way, text, ⟨hway, htext, ?_⟩, rfl⟩
    intro nearer hprefix hlength
    exact Option.map_eq_none_iff.mp (hnearer nearer hprefix hlength)

/-- A run that names no configuration file takes the options of the nearest one, and fails if that
holds no options, whatever stands in files further away. Without any, it takes the defaults. -/
theorem the_nearest_configuration_file_decides (jobs : Option Nat) :
    let loaded := loadOptions folder.surroundings none jobs
    let withJobs (options : Options) := { options with jobs := jobs.getD options.jobs }
    ((∀ way, way <+: folder.here → folder.configIn way = none) ∧
        loaded = .ok (withJobs .default)) ∨
      ∃ way text, folder.IsNearest way text ∧
        ((∃ options, Options.ofToml? text = some options ∧ loaded = .ok (withJobs options)) ∨
          Options.ofToml? text = none ∧ ∃ detail,
            loaded = .error (.badConfig ("/".intercalate (way ++ [configName])) detail)) := by
  intro loaded withJobs
  have hloaded : loaded =
      (match folder.nearestConfig with
        | some (path, text) => Wording.brief.optionsOf path text
        | none => .ok .default).map withJobs := by
    change loadOptions folder.surroundings none jobs = _
    unfold loadOptions
    dsimp only [surroundings]
    cases folder.nearestConfig <;> rfl
  rcases folder.nearestConfig_cases with ⟨hnone, hall⟩ | ⟨way, text, hnearest, hsome⟩
  · rw [hnone] at hloaded
    exact Or.inl ⟨hall, hloaded⟩
  · rw [hsome] at hloaded
    refine Or.inr ⟨way, text, hnearest, ?_⟩
    cases hoptions : Options.ofToml? text with
    | some options =>
      refine Or.inl ⟨options, rfl, ?_⟩
      simp only [hloaded, Wording.optionsOf, hoptions, Except.map]
    | none =>
      refine Or.inr ⟨rfl, Wording.brief.noOptions text, ?_⟩
      simp only [hloaded, Wording.optionsOf, hoptions, Except.map]

/-! ## Reading files -/

/-- Every name in the path leads one step down from the folder of a run. -/
structure GoesDown (path : String) : Prop where
  relative : path.startsWith "/" = false
  plain : ∀ name ∈ pathOf path, name ≠ "" ∧ name ≠ "." ∧ name ≠ ".."

theorem GoesDown.wayOf_eq {path : String} (h : GoesDown path) : wayOf path = pathOf path := by
  unfold wayOf
  rw [List.filter_eq_self]
  intro name hname
  obtain ⟨hempty, hdot, -⟩ := h.plain name hname
  simp [hempty, hdot]

/-- Going down ends at the way with the names behind it, if it ends at all. -/
theorem walk_eq_none_or (start : Path) {way : Path}
    (h : ∀ name ∈ way, name ≠ "" ∧ name ≠ "." ∧ name ≠ "..") :
    folder.walk start way = none ∨ folder.walk start way = some (start ++ way) := by
  induction way generalizing start with
  | nil =>
    rw [walk, List.append_nil]
    exact Or.inr rfl
  | cons name rest ih =>
    obtain ⟨hempty, hdot, hup⟩ := h name List.mem_cons_self
    have hrest := ih (start ++ [name]) fun other hother =>
      h other (List.mem_cons_of_mem _ hother)
    rw [List.append_assoc, List.singleton_append] at hrest
    rw [walk]
    split
    · exact Or.inl rfl
    · simpa [hempty, hdot, hup] using hrest

/-- It does end if all that is gone through are folders. -/
theorem walk_eq_some (start : Path) {way : Path}
    (h : ∀ name ∈ way, name ≠ "" ∧ name ≠ "." ∧ name ≠ "..")
    (hfolders : ∀ before after, way = before ++ after → after ≠ [] →
      folder.hasFolder (start ++ before) = true) :
    folder.walk start way = some (start ++ way) := by
  induction way generalizing start with
  | nil => rw [walk, List.append_nil]
  | cons name rest ih =>
    obtain ⟨hempty, hdot, hup⟩ := h name List.mem_cons_self
    have hhere := hfolders [] (name :: rest) rfl (List.cons_ne_nil _ _)
    have hinner : ∀ before after, rest = before ++ after → after ≠ [] →
        folder.hasFolder (start ++ [name] ++ before) = true := by
      intro before after hsplit hafter
      rw [List.append_assoc]
      exact hfolders (name :: before) after (congrArg (name :: ·) hsplit) hafter
    have hrest := ih (start ++ [name])
      (fun other hother => h other (List.mem_cons_of_mem _ hother)) hinner
    rw [List.append_nil] at hhere
    rw [walk, hhere, hrest]
    simp [hempty, hdot, hup]

/-- The files of a folder stand in folders. -/
theorem hasFolder_of_textAt {way behind : Path} {text : String}
    (h : folder.textAt (way ++ behind) = some text) (hbehind : behind ≠ []) :
    folder.hasFolder way = true := by
  obtain ⟨before, after, hfiles, -⟩ := List.lookup_eq_some_iff.mp h
  have hfile : (way ++ behind, text) ∈ folder.files := by
    rw [hfiles]
    exact List.mem_append_right _ List.mem_cons_self
  unfold hasFolder
  rw [Bool.or_eq_true, List.any_eq_true]
  refine Or.inr ⟨_, hfile, ?_⟩
  simpa using hbehind

/-- A path that goes down only leads straight to what stands at its end. -/
theorem readFile_of_goesDown {path : String} (h : GoesDown path) :
    folder.readFile path = folder.textAt (folder.here ++ wayOf path) := by
  unfold readFile
  rw [h.wayOf_eq, h.relative, if_neg Bool.false_ne_true]
  cases htext : folder.textAt (folder.here ++ pathOf path) with
  | none =>
    rcases folder.walk_eq_none_or folder.here h.plain with hwalk | hwalk
    · rw [hwalk]
      rfl
    · rw [hwalk]
      exact htext
  | some text =>
    have hfolders : ∀ before after, pathOf path = before ++ after → after ≠ [] →
        folder.hasFolder (folder.here ++ before) = true := by
      intro before after hsplit hafter
      rw [hsplit, ← List.append_assoc] at htext
      exact folder.hasFolder_of_textAt htext hafter
    rw [folder.walk_eq_some folder.here h.plain hfolders]
    exact htext

theorem textAt_ofFiles (files : List (String × String)) (here : Option String) (way : Path) :
    (ofFiles files here).textAt way =
      (files.find? fun file => wayOf file.1 == way).map (·.2) := by
  unfold textAt ofFiles
  dsimp only
  induction files with
  | nil => rfl
  | cons file rest ih =>
    rw [List.map_cons, List.lookup_cons, List.find?_cons, BEq.comm, ih]
    split <;> rfl

/-- In a folder with files at written paths, such a path gives the text of the first file that is
at the end of the same way. -/
theorem readFile_ofFiles (files : List (String × String)) (here : Option String) {path : String}
    (h : GoesDown path) :
    (ofFiles files here).readFile path =
      (files.find? fun file => wayOf file.1 == (here.map wayOf).getD [] ++ wayOf path).map
        (·.2) := by
  rw [readFile_of_goesDown _ h, textAt_ofFiles]
  rfl

/-! ## The configuration file after a run -/

/-- The options that a new configuration file gives are the defaults. -/
theorem ofToml?_template : Options.ofToml? Options.template = some .default := by
  -- The characters of the whole text are slow to compute, those of its lines are not.
  unfold Options.ofToml?
  generalize htext : Options.template.toList = chars
  unfold Options.template at htext
  simp only [String.toList_append, String.reduceToList] at htext
  subst htext
  decide +kernel

theorem not_writesConfig_of_check {around : Surroundings} {files : List String}
    {config : Option String} {format : Format} {jobs : Option Nat} {outcome : Outcome}
    (h : CommandLine.check around files config format jobs = .ok outcome) :
    outcome.writesConfig = false := by
  unfold CommandLine.check at h
  cases hload : loadOptions around config jobs with
  | error failure =>
    rw [hload] at h
    cases h
  | ok options =>
    rw [hload] at h
    cases hreports : files.mapM (checkFile around options) with
    | error failure =>
      simp only [bind, Except.bind, hreports] at h
      cases h
    | ok reports =>
      simp only [bind, Except.bind, hreports] at h
      cases h
      rfl

theorem configIn_eq_none_of_init {toOutput : Bool}
    (h : (CommandLine.init folder.surroundings toOutput).writesConfig = true) :
    folder.configIn folder.here = none := by
  unfold CommandLine.init at h
  cases toOutput with
  | true => cases h
  | false =>
    cases hthere : folder.surroundings.hasConfigHere with
    | true =>
      rw [hthere] at h
      cases h
    | false =>
      have hnone : (folder.configIn folder.here).isSome = false :=
        (Bool.or_eq_false_iff.mp hthere).1
      exact Option.isNone_iff_eq_none.mp (Option.isSome_eq_false_iff.mp hnone)

/-- A run sets up a configuration file only where none is. -/
theorem configIn_eq_none_of_run {command : Command} {outcome : Outcome}
    (h : command.run folder.surroundings = .ok outcome) (hwrites : outcome.writesConfig = true) :
    folder.configIn folder.here = none := by
  cases command with
  | check files config format jobs =>
    rw [not_writesConfig_of_check h] at hwrites
    cases hwrites
  | init toOutput =>
    cases h
    exact folder.configIn_eq_none_of_init hwrites
  | explain code =>
    cases h
    cases code <;> cases hwrites

/-- A configuration file that is there stays as it is, whatever the run does. One that a run sets up
gives the defaults. -/
theorem no_configuration_file_is_replaced {command : Command} {outcome : Outcome}
    (h : command.run folder.surroundings = .ok outcome) :
    (∀ text, folder.configIn folder.here = some text →
        folder.configAfter outcome = some text) ∧
      (outcome.writesConfig = true →
        (folder.configAfter outcome).bind Options.ofToml? = some .default) := by
  unfold configAfter
  refine ⟨?_, ?_⟩
  · intro text htext
    rw [if_neg]
    · exact htext
    · intro hwrites
      rw [folder.configIn_eq_none_of_run h hwrites] at htext
      cases htext
  · intro hwrites
    rw [if_pos hwrites, Option.bind_some]
    exact ofToml?_template

end Folder

end LockDiscipline.CommandLine
