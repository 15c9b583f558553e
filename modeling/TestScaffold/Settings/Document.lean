import TestScaffold.Settings
import TestScaffold.Toml.Document

/-!
Settings as a TOML document: a table for each of their three parts. What a document does not say
keeps its default, and what is no setting is passed over.
-/

namespace TestScaffold

namespace Toml

/-- What a part of the settings says, by the names of its fields. The values may also be listed
in the order of the fields. A date says nothing. -/
def Item.fields? (names : List Text) : Item → Option Entries
  | .table _ entries => some entries
  | .array items => some (names.zip items)
  | .moment _ => some []
  | _ => none

def Item.text? : Item → Option Text
  | .string text => some text
  | _ => none

def Item.texts? : Item → Option (List Text)
  | .array items => items.mapM Item.text?
  | _ => none

/-- The value of a key, read by `read`, or a default when the key is missing. -/
def Entries.valueOr? {α : Type} (entries : Entries) (key : Text) (read : Item → Option α)
    (default : α) : Option α :=
  match entries.lookup key with
  | none => some default
  | some item => read item

end Toml

open Toml

namespace PathSettings

def testsDirKey : Text := "tests_dir".toList

def aliasPrefixKey : Text := "alias_prefix".toList

def sourceRootKey : Text := "source_root".toList

def rootMarkersKey : Text := "root_markers".toList

def ofItem? (item : Item) : Option PathSettings := do
  let base : PathSettings := {}
  let e ← item.fields? [testsDirKey, aliasPrefixKey, sourceRootKey, rootMarkersKey]
  let testsDir ← e.valueOr? testsDirKey Item.text? base.testsDir
  let aliasPrefix ← e.valueOr? aliasPrefixKey Item.text? base.aliasPrefix
  let sourceRoot ← e.valueOr? sourceRootKey (fun i => i.text?.map some) base.sourceRoot
  let rootMarkers ← e.valueOr? rootMarkersKey Item.texts? base.rootMarkers
  some { testsDir, aliasPrefix, sourceRoot, rootMarkers }

end PathSettings

namespace ScanSettings

def excludedModulesKey : Text := "excluded_modules".toList

def excludedPrefixesKey : Text := "excluded_prefixes".toList

def markupExtensionsKey : Text := "markup_extensions".toList

def sourceExtensionsKey : Text := "source_extensions".toList

def ofItem? (item : Item) : Option ScanSettings := do
  let base : ScanSettings := {}
  let e ← item.fields?
    [excludedModulesKey, excludedPrefixesKey, markupExtensionsKey, sourceExtensionsKey]
  let excludedModules ← e.valueOr? excludedModulesKey Item.texts? base.excludedModules
  let excludedPrefixes ← e.valueOr? excludedPrefixesKey Item.texts? base.excludedPrefixes
  let markupExtensions ← e.valueOr? markupExtensionsKey Item.texts? base.markupExtensions
  let sourceExtensions ← e.valueOr? sourceExtensionsKey Item.texts? base.sourceExtensions
  some { excludedModules, excludedPrefixes, markupExtensions, sourceExtensions }

end ScanSettings

namespace TemplateSettings

def frameworkModuleKey : Text := "framework_module".toList

def renderModuleKey : Text := "render_module".toList

def renderBindingsKey : Text := "render_bindings".toList

def ofItem? (item : Item) : Option TemplateSettings := do
  let base : TemplateSettings := {}
  let e ← item.fields? [frameworkModuleKey, renderModuleKey, renderBindingsKey]
  let frameworkModule ← e.valueOr? frameworkModuleKey Item.text? base.frameworkModule
  let renderModule ← e.valueOr? renderModuleKey Item.text? base.renderModule
  let renderBindings ← e.valueOr? renderBindingsKey Item.texts? base.renderBindings
  some { frameworkModule, renderModule, renderBindings }

end TemplateSettings

namespace Settings

def pathsKey : Text := "paths".toList

def scanKey : Text := "scan".toList

def templateKey : Text := "template".toList

def ofEntries? (e : Entries) : Option Settings := do
  let paths ← e.valueOr? pathsKey PathSettings.ofItem? {}
  let scan ← e.valueOr? scanKey ScanSettings.ofItem? {}
  let template ← e.valueOr? templateKey TemplateSettings.ofItem? {}
  some { paths, scan, template }

/-- The settings that a text says; none when it is no TOML document or a setting is not of its
type. -/
def ofText? (t : Text) : Option Settings := do
  ofEntries? (← parse? t)

def textLine (key value : Text) : Text :=
  key ++ " = ".toList ++ quote value ++ ['\n']

/-- The lines that say the values of a key, one value a line. -/
def listLines (key : Text) (values : List Text) : Text :=
  let lines := values.flatMap fun value => "    ".toList ++ quote value ++ ",\n".toList
  key ++ " = [".toList ++ (if values = [] then [] else '\n' :: lines) ++ "]\n".toList

def headerLine (key : Text) : Text :=
  '[' :: (key ++ "]\n".toList)

def text (s : Settings) : Text :=
  headerLine pathsKey ++
    textLine PathSettings.testsDirKey s.paths.testsDir ++
    textLine PathSettings.aliasPrefixKey s.paths.aliasPrefix ++
    (s.paths.sourceRoot.map (textLine PathSettings.sourceRootKey)).getD [] ++
    listLines PathSettings.rootMarkersKey s.paths.rootMarkers ++
  '\n' :: headerLine scanKey ++
    listLines ScanSettings.excludedModulesKey s.scan.excludedModules ++
    listLines ScanSettings.excludedPrefixesKey s.scan.excludedPrefixes ++
    listLines ScanSettings.markupExtensionsKey s.scan.markupExtensions ++
    listLines ScanSettings.sourceExtensionsKey s.scan.sourceExtensions ++
  '\n' :: headerLine templateKey ++
    textLine TemplateSettings.frameworkModuleKey s.template.frameworkModule ++
    textLine TemplateSettings.renderModuleKey s.template.renderModule ++
    listLines TemplateSettings.renderBindingsKey s.template.renderBindings

end Settings

end TestScaffold
