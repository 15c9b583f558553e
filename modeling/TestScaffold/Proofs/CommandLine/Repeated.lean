import TestScaffold.Proofs.CommandLine.Forced
import TestScaffold.Proofs.Generation.Repetition
import TestScaffold.Proofs.Path.Spelling
import TestScaffold.Proofs.Workspace.Recollection

/-!
The command that is given again. It finds the sources that it found before, because a test is never
one; it finds the same settings, because tests are not named as files of settings are; and so it
writes what it wrote before, whatever has failed.
-/

namespace TestScaffold

theorem Path.isAbsolute_of_components {p : Path} {rest : List Path.Component}
    (h : p.components = .root :: rest) : p.isAbsolute = true := by
  rw [components_eq_append_steps] at h
  have hroot : p.layout.anchor = .root := by
    cases hanchor : p.layout.anchor with
    | root => rfl
    | current =>
      rw [hanchor] at h
      cases h
    | nothing =>
      rw [hanchor] at h
      cases hsteps : p.steps with
      | nil =>
        rw [hsteps] at h
        cases h
      | cons step steps =>
        rw [hsteps] at h
        have hfirst : stepComponent step = .root := (List.cons.inj h).1
        unfold stepComponent at hfirst
        split at hfirst <;> cases hfirst
  rw [isAbsolute_iff]
  unfold layout at hroot
  split at hroot
  · rename_i t ht
    exact ⟨t, ht⟩
  · cases hroot
  · cases hroot
  · cases hroot

namespace LocalFiles

variable {l l' : LocalFiles} {env : Environment} {o : TestOptions} {s t : Settings}
  {root directory source p d : Path} {sources : List Path} {place : Place}

section Settings

variable {overrides : Overrides} {file : Path}

theorem Tested.holds (h : l.Tested l') (hp : l.holds p = true) : l'.holds p = true := by
  unfold LocalFiles.holds at hp ⊢
  cases hfind : l.find p with
  | error e =>
    rw [hfind] at hp
    cases hp
  | ok found =>
    obtain ⟨place, entry⟩ := found
    cases entry with
    | directory =>
      rw [h.later.find_directory hfind]
      rfl
    | file content =>
      obtain ⟨hpoints, hfile⟩ := pointsTo_of_find hfind
      obtain ⟨content', hthere⟩ := h.exists_file hfile
      rw [(hpoints.later h.later).find, hthere]
      rfl

theorem holds_of_read {text : Text} (h : l.read p = .ok text) : l.holds p = true := by
  unfold read content at h
  unfold holds
  cases hfind : l.find p with
  | error e =>
    rw [hfind] at h
    cases h
  | ok found => rfl

theorem settingsAt_of_tested (hread : ∀ text, l'.read file = .ok text → l.read file = .ok text)
    (hsettings : l'.settingsAt overrides file = .ok t) :
    l.holds file = true ∧ l.settingsAt overrides file = .ok t := by
  unfold settingsAt at hsettings ⊢
  cases htext : l'.read file with
  | error cause =>
    rw [htext] at hsettings
    cases hsettings
  | ok text =>
    rw [htext] at hsettings
    rw [hread text htext]
    exact ⟨holds_of_read (hread text htext), hsettings⟩

/-- A file that is not named as a test is read where it has been, once tests have been added. -/
theorem Tested.content_of_read (h : l.Tested l') {text : Text}
    (hname : ∀ name, p.fileName? = some name → isTestName name = false)
    (hread : l'.read p = .ok text) :
    ∃ place, l'.find p = .ok (place, .file (.text text)) ∧
      l.disk.get? place = some (.file (.text text)) := by
  have hfind : ∃ place, l'.find p = .ok (place, .file (.text text)) := by
    unfold read content at hread
    rcases hfind : l'.find p with e | ⟨place, _ | found | bytes⟩
    · rw [hfind] at hread
      cases hread
    · rw [hfind] at hread
      cases hread
    · rw [hfind] at hread
      obtain rfl := Except.ok.inj hread
      exact ⟨place, rfl⟩
    · rw [hfind] at hread
      cases hread
  obtain ⟨place, hfind⟩ := hfind
  obtain ⟨⟨init, name, above, hsegments, hlast, -, rfl⟩, hfile⟩ := pointsTo_of_find hfind
  refine ⟨_, hfind, ?_⟩
  have htest : Disk.isTestPlace (above ++ [name]) = false := by
    have hend : p.segments.getLast? = some name := by rw [hsegments, List.getLast?_concat]
    unfold Disk.isTestPlace
    rw [List.getLast?_concat, Option.any_some,
      hname name (Path.fileName?_of_segments hend hlast.ofSegment?_eq), Bool.false_and]
  rcases h.get?_eq_or htest with hsame | ⟨-, hmade⟩
  · rw [← hsame, hfile]
  · cases hmade.symm.trans hfile

theorem read_of_find {text : Text} (h : l.find p = .ok (place, .file (.text text))) :
    l.read p = .ok text := by
  unfold read content
  rw [h]
  rfl

/-- The settings of the user are the same after tests have been added, if any are found. -/
theorem Tested.userSettings (h : l.Tested l') (hl : l.WellFormed)
    (hup : .parent ∉ file.components)
    (hname : ∀ name, file.fileName? = some name → isTestName name = false)
    (hsettings : l'.userSettings overrides file = .ok t) :
    l.userSettings overrides file = .ok t := by
  rw [Path.parent_mem_components_iff] at hup
  have hread : ∀ text, l'.read file = .ok text → l.read file = .ok text := by
    intro text hread
    obtain ⟨place, hfind, hfile⟩ := h.content_of_read hname hread
    have hbefore : l.find file = .ok (place, .file (.text text)) := by
      unfold find start at hfind ⊢
      rw [h.later.cwd] at hfind
      split at hfind
      · cases hfind
      · rename_i hne
        rw [if_neg hne]
        exact hl.tree.follow_file hup hfind hfile
    exact read_of_find hbefore
  unfold LocalFiles.userSettings at hsettings ⊢
  split at hsettings
  · obtain ⟨hholds, hthere⟩ := settingsAt_of_tested hread hsettings
    rw [if_pos hholds]
    exact hthere
  · rename_i hmissing
    rw [if_neg fun hholds => hmissing (h.holds hholds)]
    exact hsettings

/-- So are those of a workspace whose root is there. -/
theorem Tested.workspaceSettings (h : l.Tested l') (hl : l.WellFormed) {userFile : Path}
    (hup : .parent ∉ userFile.components)
    (hname : ∀ name, userFile.fileName? = some name → isTestName name = false)
    (hroot : l.find root = .ok (place, .directory))
    (hsettings : l'.workspaceSettings overrides userFile root = .ok t) :
    l.workspaceSettings overrides userFile root = .ok t := by
  have hpoints : l.PointsTo (root.child settingsFileName) (place ++ [settingsFileName]) :=
    pointsTo_child hroot (by decide) (by decide)
  have hproject : ∀ name, (root.child settingsFileName).fileName? = some name →
      isTestName name = false := by
    intro name hlast
    have hfile : (root.child settingsFileName).fileName? = some settingsFileName :=
      Path.fileName?_child root (by decide) (by decide)
    obtain rfl := Option.some.inj (hfile.symm.trans hlast)
    decide
  have hread : ∀ text, l'.read (root.child settingsFileName) = .ok text →
      l.read (root.child settingsFileName) = .ok text := by
    intro text hread
    obtain ⟨other, hfind, hfile⟩ := h.content_of_read hproject hread
    have hother := (hpoints.later h.later).unique (pointsTo_of_find hfind).1
    exact hpoints.read_eq (hother ▸ hfile)
  unfold LocalFiles.workspaceSettings at hsettings ⊢
  dsimp only at hsettings ⊢
  split at hsettings
  · obtain ⟨hholds, hthere⟩ := settingsAt_of_tested hread hsettings
    rw [if_pos hholds]
    exact hthere
  · rename_i hmissing
    rw [if_neg fun hholds => hmissing (h.holds hholds)]
    exact h.userSettings hl hup hname hsettings

end Settings

/-- A root under which a source has a destination is there. -/
theorem find_root_of_testPath (hroot : root.isAbsolute = true) (hsource : l.IsSourceFile source)
    (hd : Location.testPath ⟨root, source⟩ s.paths = .ok d) :
    ∃ place, l.find root = .ok (place, .directory) := by
  obtain ⟨relative, hrelative⟩ := Location.relative_of_testPath hd
  have hplain := Location.isPlain_of_relative (l := ⟨root, source⟩) hroot hrelative
  obtain ⟨hinner, name, hname⟩ := Location.relative_eq_ok hrelative
  have hcomponents := Path.components_under? (Location.under?_of_relative hrelative)
  dsimp only at hcomponents
  have habsolute : source.isAbsolute = true := by
    rw [Path.components_of_absolute hroot] at hcomponents
    exact Path.isAbsolute_of_components hcomponents
  have hsteps : source.steps = root.steps ++ relative.steps := by
    rw [Path.components_of_absolute habsolute, Path.components_of_absolute hroot,
      hplain.components_eq, List.cons_append, ← List.map_append] at hcomponents
    exact List.map_injective_iff.mpr Path.stepComponent_injective (List.cons.inj hcomponents).2
  have hne : relative.steps ≠ [] := by
    intro hnil
    unfold Path.fileName? at hname
    rw [hplain.components_eq, hnil] at hname
    cases hname
  have hnames := Disk.isName_of_mem_filter (Path.parent_mem_components_iff.not.mp hinner)
  obtain ⟨place, content, hpoints, -, -⟩ := hsource
  obtain ⟨start, hstart, -⟩ := hpoints.place_eq habsolute hsteps hne hnames
  refine ⟨start, ?_⟩
  rw [find_of_absolute hroot]
  exact Disk.follow_of_filter hstart

theorem files_run_forced {arguments : List Text} {x : Selection}
    (hread : Command.read arguments = .ok (.createTests o)) (hselect : l.select env o = .ok x)
    (hforce : .force ∈ o.flags) (hdry : .dryRun ∉ o.flags) :
    (l.run env arguments).files =
      (generateAll x.settings { store := l } (x.sources.map (.forced x.root))).1.store := by
  rw [run_of_read hread, files_createTests, hselect]
  dsimp only
  rw [if_neg hdry, List.contains_iff_mem.mpr hforce]
  rfl

/-- A selection below a directory is made again when the same sources are collected there and the
same settings are in force. -/
theorem select_again {given : Path} {x : Selection} (hcwd : l'.cwd = l.cwd)
    (hgiven : o.root = some given) (hdirectory : Path.absolute l.currentDirectory o.path = directory)
    (hselect : l.select env o = .ok ⟨root, s, sources⟩) (hthere : l'.isDirectory directory = true)
    (hcollect : l'.collectSources s root directory = .ok sources)
    (hsettings : ∀ t, l'.workspaceSettings env.overrides env.userFile root = .ok t → t = s)
    (hagain : l'.select env o = .ok x) : x = ⟨root, s, sources⟩ := by
  have hcurrent : l'.currentDirectory = l.currentDirectory := by
    unfold currentDirectory
    rw [hcwd]
  obtain ⟨root', settings, sources'⟩ := x
  obtain ⟨hroot, -, -⟩ := select_eq_ok_iff.mp hselect
  obtain ⟨hroot', hsettings', hsources'⟩ := select_eq_ok_iff.mp hagain
  dsimp only at hroot hroot' hsettings' hsources'
  rw [hgiven] at hroot hroot'
  unfold rootOf at hroot hroot'
  rw [hcurrent] at hroot'
  obtain rfl := Except.ok.inj (hroot.symm.trans hroot')
  obtain rfl := hsettings settings hsettings'
  rw [hcurrent, hdirectory, if_pos hthere, hcollect] at hsources'
  obtain rfl := Except.ok.inj hsources'
  rfl

end LocalFiles

/-- Without a destination for any of its sources a batch leaves the files as they are. -/
theorem store_generateAll_of_no_destination {s : Settings} {l : LocalFiles} {root : Path}
    {sources : List Path} (hroot : root.isAbsolute = true)
    (hnone : ∀ source ∈ sources, ∀ d, Location.testPath ⟨root, source⟩ s.paths ≠ .ok d) :
    (generateAll s { store := l } (sources.map (.forced root))).1.store = l := by
  induction sources generalizing l with
  | nil => rfl
  | cons source sources ih =>
    have hfirst : (generate s { store := l } (.forced root source)).1.store = l := by
      rw [store_generate_forced s l hroot]
      cases hplan : plan s l ⟨root, source⟩ with
      | error e => rfl
      | ok p =>
        exact absurd (testPath_of_plan hplan).2 (hnone source List.mem_cons_self p.destination)
    rw [List.map_cons, generateAll_cons, hfirst]
    exact ih fun x hx => hnone x (List.mem_cons_of_mem source hx)

/-- The settings of a workspace are found after a batch as they were before it. -/
theorem workspaceSettings_of_generateAll {s t : Settings} {l : LocalFiles} {root userFile : Path}
    {sources : List Path} {overrides : Overrides} (hl : l.WellFormed)
    (hroot : root.isAbsolute = true)
    (hsources : ∀ source ∈ sources, l.IsSourceFile source ∧ source.extension ≠ [])
    (hup : .parent ∉ userFile.components)
    (hname : ∀ name, userFile.fileName? = some name → isTestName name = false)
    (ht : (generateAll s { store := l } (sources.map (.forced root))).1.store.workspaceSettings
      overrides userFile root = .ok t) :
    l.workspaceSettings overrides userFile root = .ok t := by
  by_cases hdestination : ∃ source ∈ sources, ∃ d,
      Location.testPath ⟨root, source⟩ s.paths = .ok d
  · obtain ⟨source, hsource, d, hd⟩ := hdestination
    obtain ⟨place, hthere⟩ :=
      LocalFiles.find_root_of_testPath hroot (hsources source hsource).1 hd
    exact (tested_generateAll_forced s hsources).workspaceSettings hl hup hname hthere ht
  · -- Without any destination nothing has been written at all.
    rw [store_generateAll_of_no_destination hroot
      fun source hsource d hd => hdestination ⟨source, hsource, d, hd⟩] at ht
    exact ht

/-- A forced command creates no sources. The test of a source is collected nowhere; so the same
sources are collected after the command, as long as the directory is walked as before, and the same
command changes no file when it is given again. All this is about the one configuration `s`, so the
second command is one that has it in force again. After the first one no other configuration can be
in force, unless the file of the user's settings lies behind a `..` or is named as a test. -/
theorem run_again (l : LocalFiles) (s : Settings) (root directory : Path) (sources : List Path)
    (hl : l.WellFormed) (hnamed : l.disk.Named) (hextensions : [] ∉ s.scan.sourceExtensions)
    (hcollect : l.collectSources s root directory = .ok sources) :
    (∀ source ∈ sources, ∀ d, Location.testPath ⟨root, source⟩ s.paths = .ok d →
      ∀ (l' : LocalFiles) (root' directory' : Path) (others : List Path),
        l'.collectSources s root' directory' = .ok others →
          ∀ q ∈ others, q.components ≠ d.components) ∧
    ∀ (env : Environment) (arguments : List Text) (o : TestOptions) (given : Path),
      Command.read arguments = .ok (.createTests o) → o.root = some given → .force ∈ o.flags →
      .dryRun ∉ o.flags → Path.absolute l.currentDirectory o.path = directory →
      l.select env o = .ok ⟨root, s, sources⟩ →
        let after := (l.run env arguments).files
        l.WalkKept after directory →
          after.collectSources s root directory = .ok sources ∧
          ((∀ t, after.workspaceSettings env.overrides env.userFile root = .ok t → t = s) →
            after.disk.changedFiles (after.run env arguments).files.disk = []) ∧
          (.parent ∉ env.userFile.components →
            (∀ name, env.userFile.fileName? = some name → isTestName name = false) →
              ∀ t, after.workspaceSettings env.overrides env.userFile root = .ok t → t = s) := by
  have hsources : ∀ source ∈ sources, l.IsSourceFile source ∧ source.extension ≠ [] := by
    intro source hsource
    obtain ⟨hkept, hfile⟩ :=
      LocalFiles.isSource_of_mem_collectSources hl hnamed hcollect hsource
    exact ⟨hfile, LocalFiles.extension_ne_nil_of_isSource hextensions hkept⟩
  refine ⟨?_, ?_⟩
  · intro source hsource d hd l' root' directory' others hothers
    exact LocalFiles.testPath_not_mem_collectSources hextensions
      (LocalFiles.isSource_of_mem_collectSources hl hnamed hcollect hsource).1 hd hothers
  intro env arguments o given hread hgiven hforce hdry hdirectory hselect after hwalk
  have hroot : root.isAbsolute = true := LocalFiles.isAbsolute_root_of_select hselect
  have hafter : after = (generateAll s { store := l } (sources.map (.forced root))).1.store :=
    LocalFiles.files_run_forced hread hselect hforce hdry
  have htested : l.Tested after := by
    rw [hafter]
    exact tested_generateAll_forced s hsources
  have hwell : after.WellFormed := by
    rw [hafter]
    exact wellFormed_generateAll s hl _
  have hagain := htested.collectSources_eq hl hwalk hcollect
  refine ⟨hagain, ?_, ?_⟩
  · intro hsettings
    cases hselect' : after.select env o with
    | error failure =>
      have hfiles : (after.run env arguments).files = after := by
        rw [LocalFiles.run_of_read hread, LocalFiles.files_createTests, hselect']
      rw [hfiles]
      exact hwell.tree.changedFiles_eq_nil fun _ => rfl
    | ok x =>
      obtain rfl := LocalFiles.select_again htested.later.cwd hgiven hdirectory hselect
        (LocalFiles.isDirectory_of_collectSources hagain) hagain hsettings hselect'
      rw [LocalFiles.files_run_forced hread hselect' hforce hdry]
      refine (wellFormed_generateAll s hwell _).tree.changedFiles_eq_nil fun place => ?_
      rw [hafter]
      exact content?_generateAll_again s hroot hsources place
  · intro hup hname t ht
    have hbefore := (LocalFiles.select_eq_ok_iff.mp hselect).2.1
    rw [hafter] at ht
    exact Except.ok.inj ((workspaceSettings_of_generateAll hl hroot hsources hup hname ht).symm.trans
      hbefore)

/-- The two tests go to one file; given again, the command finds the two sources and changes
nothing. -/
theorem run_again_twoCards :
    twoCards.WellFormed ∧ twoCards.disk.Named ∧
      twoCards.collectSources {} ⟨"/p".toList⟩ ⟨"/p".toList⟩ = .ok cardSources ∧
      let after := (twoCards.run plainly createAll).files
      twoCards.disk.changedFiles after.disk ≠ [] ∧
        after.collectSources {} ⟨"/p".toList⟩ ⟨"/p".toList⟩ = .ok cardSources ∧
        after.disk.changedFiles (after.run plainly createAll).files.disk = [] := by
  let after := (twoCards.run plainly createAll).files
  have hread : Command.read createAll = .ok (.createTests allOptions) := by decide +kernel
  have hwell : twoCards.WellFormed := ⟨Disk.isTree_of_entries (by decide) (by decide), rfl⟩
  have hnamed : twoCards.disk.Named := by decide +kernel
  have hpath : Path.absolute twoCards.currentDirectory ⟨"/p".toList⟩ = ⟨"/p".toList⟩ := by
    decide +kernel
  have hcollect : twoCards.collectSources {} ⟨"/p".toList⟩ ⟨"/p".toList⟩ = .ok cardSources := by
    have hsources := (LocalFiles.select_eq_ok_iff.mp select_twoCards).2.2
    rw [show Path.absolute twoCards.currentDirectory allOptions.path = _ from hpath,
      if_pos (by decide +kernel)] at hsources
    exact hsources
  have hafter : after = (generateAll {} { store := twoCards }
      (cardSources.map (.forced ⟨"/p".toList⟩))).1.store :=
    LocalFiles.files_run_forced hread select_twoCards (by decide) (by decide)
  have hwalk : twoCards.WalkKept after ⟨"/p".toList⟩ := by
    rw [hafter]
    refine (tested_generateAll {} twoCards (by decide +kernel)).walkKept (fun d => ?_) _
    rw [LocalFiles.isRepository_eq_false (by decide +kernel),
      LocalFiles.isRepository_eq_false (by decide +kernel)]
  obtain ⟨-, hrun⟩ := run_again twoCards {} ⟨"/p".toList⟩ ⟨"/p".toList⟩ cardSources hwell hnamed
    (by decide) hcollect
  obtain ⟨hagain, hunchanged, hsettings⟩ := hrun plainly createAll allOptions ⟨"/p".toList⟩ hread
    rfl (by decide) (by decide) hpath select_twoCards hwalk
  refine ⟨hwell, hnamed, hcollect, ?_, hagain, hunchanged (hsettings ?_ ?_)⟩
  · rw [show (twoCards.run plainly createAll).files = _ from hafter]
    decide +kernel
  · decide +kernel
  · decide +kernel

end TestScaffold
