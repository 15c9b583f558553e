import TestScaffold.Text.Basic

/-!
The settings of a project: where tests go, which imports are left alone, and what the test
files are made from. The defaults are the field defaults of the structures.
-/

namespace TestScaffold

/-- Where sources, tests and import paths lie in a workspace. -/
structure PathSettings where
  /-- The directory under the workspace root that repeats the tree of the sources. -/
  testsDir : Text := "tests".toList
  aliasPrefix : Text := "@/".toList
  /-- The directory whose name is dropped from paths in that tree. -/
  sourceRoot : Option Text := some "src".toList
  rootMarkers : List Text := ["package.json".toList, "tsconfig.json".toList, ".git".toList]
  deriving DecidableEq, Repr

structure ScanSettings where
  /-- The modules that get no mock. -/
  excludedModules : List Text := ["jest".toList, "vitest".toList]
  excludedPrefixes : List Text :=
    ["@testing-library/".toList, "jest-".toList, "jest/".toList, "vitest/".toList,
      "@jest/".toList, "@vitest/".toList]
  markupExtensions : List Text := ["tsx".toList, "jsx".toList]
  /-- The extensions of the sources below a directory. -/
  sourceExtensions : List Text := ["ts".toList, "tsx".toList, "js".toList, "jsx".toList]
  deriving DecidableEq, Repr

structure TemplateSettings where
  /-- The name that the modules of the user-interface framework contain. -/
  frameworkModule : Text := "react".toList
  renderModule : Text := "@testing-library/react".toList
  renderBindings : List Text := ["render".toList, "screen".toList]
  deriving DecidableEq, Repr

structure Settings where
  paths : PathSettings := {}
  scan : ScanSettings := {}
  template : TemplateSettings := {}
  deriving DecidableEq, Repr

def settingsFileName : Text :=
  "rtgen.toml".toList

/-- The entries that mark a workspace root; the settings file of a project always does. -/
def PathSettings.workspaceMarkers (s : PathSettings) : List Text :=
  if settingsFileName ∈ s.rootMarkers then s.rootMarkers else s.rootMarkers ++ [settingsFileName]

/-- Whether a module belongs to the tools of testing and gets no mock. -/
def ScanSettings.isExcluded (s : ScanSettings) (module : Text) : Bool :=
  s.excludedModules.contains module || s.excludedPrefixes.any module.startsWith

/-- Whether a module belongs to the framework. The one that renders into a browser does not. -/
def TemplateSettings.isFramework (s : TemplateSettings) (module : Text) : Bool :=
  s.frameworkModule.occursIn module && !Text.occursIn "react-dom".toList module

end TestScaffold
