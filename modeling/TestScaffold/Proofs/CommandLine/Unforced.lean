import TestScaffold.CommandLine.Run
import TestScaffold.Proofs.Generation.Detour

/-!
What a command does to the files that are there when it is not forced. It alters none of them,
except those that the destinations of its tests lead to by a detour; so nothing is altered in a
workspace without `..` in its root and in the directory of its tests.
-/

namespace TestScaffold

def Selection.requests (x : Selection) (overwrite : Bool) : List Request :=
  x.sources.map fun source => { location := ⟨x.root, source⟩, overwrite }

namespace LocalFiles

/-- The texts that the program puts into the file at `place`, which it has not seen. -/
def rewrittenBy (l : LocalFiles) (env : Environment) (arguments : List Text) (place : Place) :
    List Text :=
  match Command.read arguments with
  | .ok (.createTests o) =>
    match l.select env o with
    | .ok x => if .dryRun ∈ o.flags then [] else rewrites x.settings l (x.requests false) place
    | .error _ => []
  | _ => []

variable {l : LocalFiles} {env : Environment} {o : TestOptions}

theorem files_createSelected (l : LocalFiles) (x : Selection) (flags : List Flag) :
    (l.createSelected x flags).files =
      (generateAll x.settings { store := l } (x.requests (flags.contains .force))).1.store :=
  rfl

/-- The command that creates tests leaves the files as they are, or as the batch leaves them. -/
theorem files_createTests (l : LocalFiles) (env : Environment) (o : TestOptions) :
    (l.createTests env o).files =
      match l.select env o with
      | .ok x =>
        if .dryRun ∈ o.flags then l
        else (generateAll x.settings { store := l } (x.requests (o.flags.contains .force))).1.store
      | .error _ => l := by
  unfold createTests
  cases l.select env o with
  | error failure => rfl
  | ok x =>
    dsimp only
    by_cases hsources : x.sources = []
    · have hrequests : x.requests (o.flags.contains .force) = [] := by
        unfold Selection.requests
        rw [hsources]
        rfl
      rw [if_pos hsources, hrequests]
      split <;> rfl
    · rw [if_neg hsources]
      split
      · rfl
      · exact files_createSelected l x o.flags

theorem files_writeSettings (l : LocalFiles) :
    (l.writeSettings false).files = l ∨
      l.holds ⟨settingsFileName⟩ = false ∧
        l.writeFile ⟨settingsFileName⟩ (Settings.text {}) = .ok (l.writeSettings false).files := by
  unfold writeSettings
  dsimp only
  split
  · exact Or.inl rfl
  · rename_i hfree
    cases hwrite : l.writeFile ⟨settingsFileName⟩ (Settings.text {}) with
    | error cause => exact Or.inl rfl
    | ok files =>
      refine Or.inr ⟨?_, rfl⟩
      cases hholds : l.holds ⟨settingsFileName⟩ with
      | false => rfl
      | true => exact absurd ⟨hholds, Bool.false_ne_true⟩ hfree

theorem get?_writeSettings {place : Place} (hplace : l.disk.get? place ≠ none) :
    (l.writeSettings false).files.disk.get? place = l.disk.get? place := by
  rcases files_writeSettings l with hsame | ⟨hfree, hwrite⟩
  · rw [hsame]
  · obtain ⟨new, hnone, hfiles⟩ := writeFile_of_not_holds hfree hwrite
    have hne : place ≠ new := by
      rintro rfl
      exact hplace hnone
    rw [hfiles, Disk.get?_put, if_neg hne]
    split
    · rename_i hroot
      rw [hroot, Disk.get?_root]
    · rfl

theorem wellFormed_writeSettings (hl : l.WellFormed) :
    (l.writeSettings false).files.WellFormed := by
  rcases files_writeSettings l with hsame | ⟨-, hwrite⟩
  · rw [hsame]
    exact hl
  · exact wellFormed_writeFile hl hwrite

theorem overwrite_of_mem_requests {x : Selection} {r : Request} (h : r ∈ x.requests false) :
    r.overwrite = false ∧ r.location.root = x.root := by
  obtain ⟨source, -, rfl⟩ := List.mem_map.mp h
  exact ⟨rfl, rfl⟩

theorem get?_createTests (hforce : o.flags.contains .force = false) {place : Place}
    (hplace : l.disk.get? place ≠ none) :
    (l.createTests env o).files.disk.get? place =
      match l.select env o with
      | .ok x =>
        entryAfter (if .dryRun ∈ o.flags then []
          else rewrites x.settings l (x.requests false) place) (l.disk.get? place)
      | .error _ => l.disk.get? place := by
  rw [files_createTests, hforce]
  cases l.select env o with
  | error failure => rfl
  | ok x =>
    dsimp only
    split
    · rfl
    · exact get?_generateAll (fun r hr => (overwrite_of_mem_requests hr).1) hplace

theorem wellFormed_createTests (hl : l.WellFormed) : (l.createTests env o).files.WellFormed := by
  rw [files_createTests]
  cases l.select env o with
  | error failure => exact hl
  | ok x =>
    dsimp only
    split
    · exact hl
    · exact wellFormed_generateAll x.settings hl _

section

variable {arguments : List Text}

/-- A program that is not forced leaves at each place what was there, or the last of the texts
that come there by detours. -/
theorem get?_run
    (hforce : ∀ command, Command.read arguments = .ok command → command.isForced = false)
    {place : Place} (hplace : l.disk.get? place ≠ none) :
    (l.run env arguments).files.disk.get? place =
      entryAfter (l.rewrittenBy env arguments place) (l.disk.get? place) := by
  unfold run rewrittenBy
  cases hread : Command.read arguments with
  | error refusal => cases refusal <;> rfl
  | ok command =>
    have hunforced := hforce command hread
    cases command with
    | createTests o =>
      change (l.createTests env o).files.disk.get? place = _
      rw [get?_createTests hunforced hplace]
      dsimp only
      cases l.select env o with
      | error failure => rfl
      | ok x => rfl
    | writeSettings flags =>
      change (l.writeSettings (flags.contains .force)).files.disk.get? place = _
      rw [show flags.contains .force = false from hunforced]
      exact get?_writeSettings hplace

theorem wellFormed_run
    (hforce : ∀ command, Command.read arguments = .ok command → command.isForced = false)
    (hl : l.WellFormed) : (l.run env arguments).files.WellFormed := by
  unfold run
  cases hread : Command.read arguments with
  | error refusal => cases refusal <;> exact hl
  | ok command =>
    have hunforced := hforce command hread
    cases command with
    | createTests o => exact wellFormed_createTests hl
    | writeSettings flags =>
      change (l.writeSettings (flags.contains .force)).files.WellFormed
      rw [show flags.contains .force = false from hunforced]
      exact wellFormed_writeSettings hl

/-- Only a command that creates tests for a workspace with `..` in its root or in the directory
of its tests takes a detour. -/
theorem parent_mem_of_rewrittenBy (hl : l.WellFormed) {place : Place}
    (h : l.rewrittenBy env arguments place ≠ []) :
    ∃ o x, Command.read arguments = .ok (.createTests o) ∧ l.select env o = .ok x ∧
      (.parent ∈ x.root.components ∨ .parent ∈ (Path.mk x.settings.paths.testsDir).components) := by
  unfold rewrittenBy at h
  split at h
  · rename_i o hread
    split at h
    · rename_i x hselect
      split at h
      · exact absurd rfl h
      · obtain ⟨r, hr, hup⟩ := up_mem_of_rewrites hl h
        rw [(overwrite_of_mem_requests hr).2] at hup
        refine ⟨o, x, hread, hselect, ?_⟩
        rw [Path.parent_mem_components_iff, Path.parent_mem_components_iff]
        exact hup
    · exact absurd rfl h
  · exact absurd rfl h

end

end LocalFiles

/-- A program that is not forced alters nothing that is there, unless a detour leads to it: then
the last of the texts that come there by detours is what it leaves. Detours are taken only in a
workspace with `..` in its root or in the directory of its tests. Every other file that has
changed is new. -/
theorem run_unforced (l : LocalFiles) (env : Environment) (arguments : List Text)
    (hl : l.WellFormed)
    (hforce : ∀ command, Command.read arguments = .ok command → command.isForced = false) :
    let after := (l.run env arguments).files
    (∀ place, l.disk.get? place ≠ none →
      after.disk.get? place =
        entryAfter (l.rewrittenBy env arguments place) (l.disk.get? place)) ∧
    (∀ place, l.rewrittenBy env arguments place ≠ [] →
      ∃ o x, Command.read arguments = .ok (.createTests o) ∧ l.select env o = .ok x ∧
        (.parent ∈ x.root.components ∨
          .parent ∈ (Path.mk x.settings.paths.testsDir).components)) ∧
    ∀ change ∈ l.disk.changedFiles after.disk,
      l.disk.get? change.1 = none ∨ l.rewrittenBy env arguments change.1 ≠ [] := by
  intro after
  refine ⟨?_, ?_, ?_⟩
  · intro place hplace
    exact LocalFiles.get?_run hforce hplace
  · intro place hrewritten
    exact LocalFiles.parent_mem_of_rewrittenBy hl hrewritten
  · intro change hchange
    have hwell : after.WellFormed := LocalFiles.wellFormed_run hforce hl
    obtain ⟨hafter, hnew⟩ := hwell.tree.get?_of_mem_changedFiles hchange
    by_contra hboth
    rw [not_or, not_not] at hboth
    obtain ⟨hplace, hnone⟩ := hboth
    apply hnew
    rw [← hafter, LocalFiles.get?_run hforce hplace, hnone]
    rfl

/-- A workspace with one source, and a test of it that somebody has written. -/
def handWritten : LocalFiles where
  disk := ⟨[
    (["p".toList], .directory),
    (["p".toList, "package.json".toList], .file (.text "\x7b\x7d".toList)),
    (["p".toList, "src".toList], .directory),
    (["p".toList, "src".toList, "Card.tsx".toList],
      .file (.text "export default function Card() \x7b\x7d\n".toList)),
    (["p".toList, "tests".toList], .directory),
    (["p".toList, "tests".toList, "Card.test.tsx".toList],
      .file (.text "// hand written\n".toList))]⟩

def cardTest : Place :=
  ["p".toList, "tests".toList, "Card.test.tsx".toList]

/-- Tests are to go by way of a directory that is not there. -/
def detouring : Environment where
  overrides := { testsDir := some "new/../tests".toList }
  userFile := ⟨"/home/user/.config/rtgen/config.toml".toList⟩

def createCard : List Text :=
  ["create-test-file".toList, "/p/src/Card.tsx".toList, "--root".toList, "/p".toList]

theorem run_unforced_detouring :
    handWritten.WellFormed ∧
      (∀ command, Command.read createCard = .ok command → command.isForced = false) ∧
      (handWritten.run detouring createCard).files.disk.get? cardTest =
        entryAfter (handWritten.rewrittenBy detouring createCard cardTest)
          (handWritten.disk.get? cardTest) ∧
      (handWritten.run detouring createCard).files.disk.get? cardTest ≠
        handWritten.disk.get? cardTest := by
  have hwell : handWritten.WellFormed := ⟨Disk.isTree_of_entries (by decide) (by decide), rfl⟩
  have hread : Command.read createCard = .ok (.createTests
      { path := ⟨"/p/src/Card.tsx".toList⟩, root := some ⟨"/p".toList⟩ }) := by decide +kernel
  have hforce : ∀ command, Command.read createCard = .ok command →
      command.isForced = false := by
    intro command hcommand
    obtain rfl := Except.ok.inj (hread.symm.trans hcommand)
    rfl
  have hrun := (run_unforced handWritten detouring createCard hwell hforce).1 cardTest (by decide)
  refine ⟨hwell, hforce, hrun, ?_⟩
  rw [hrun]
  decide +kernel

end TestScaffold
