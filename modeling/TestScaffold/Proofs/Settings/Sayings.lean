import Mathlib.Tactic.Choose
import TestScaffold.Settings.Document

/-!
What a document says of each setting. The settings are taken one by one: the part each belongs to,
its key there, and how its value is read. A document gives settings exactly when all that it says
is of the right type, and then each of them is as the document says, or as it is by default.
-/

namespace TestScaffold

open Toml

/-- The parts of the settings, each a table of its own in a document. -/
inductive SettingsPart
  | paths
  | scan
  | template
  deriving DecidableEq, Repr

inductive Setting
  | testsDir
  | aliasPrefix
  | sourceRoot
  | rootMarkers
  | excludedModules
  | excludedPrefixes
  | markupExtensions
  | sourceExtensions
  | frameworkModule
  | renderModule
  | renderBindings
  deriving DecidableEq, Repr

inductive SettingValue
  | text (text : Text)
  /-- A text that may be left out. -/
  | optional (text? : Option Text)
  | texts (texts : List Text)
  deriving DecidableEq, Repr

namespace Setting

def part : Setting → SettingsPart
  | testsDir | aliasPrefix | sourceRoot | rootMarkers => .paths
  | excludedModules | excludedPrefixes | markupExtensions | sourceExtensions => .scan
  | frameworkModule | renderModule | renderBindings => .template

def key : Setting → Text
  | testsDir => PathSettings.testsDirKey
  | aliasPrefix => PathSettings.aliasPrefixKey
  | sourceRoot => PathSettings.sourceRootKey
  | rootMarkers => PathSettings.rootMarkersKey
  | excludedModules => ScanSettings.excludedModulesKey
  | excludedPrefixes => ScanSettings.excludedPrefixesKey
  | markupExtensions => ScanSettings.markupExtensionsKey
  | sourceExtensions => ScanSettings.sourceExtensionsKey
  | frameworkModule => TemplateSettings.frameworkModuleKey
  | renderModule => TemplateSettings.renderModuleKey
  | renderBindings => TemplateSettings.renderBindingsKey

def get (s : Settings) : Setting → SettingValue
  | testsDir => .text s.paths.testsDir
  | aliasPrefix => .text s.paths.aliasPrefix
  | sourceRoot => .optional s.paths.sourceRoot
  | rootMarkers => .texts s.paths.rootMarkers
  | excludedModules => .texts s.scan.excludedModules
  | excludedPrefixes => .texts s.scan.excludedPrefixes
  | markupExtensions => .texts s.scan.markupExtensions
  | sourceExtensions => .texts s.scan.sourceExtensions
  | frameworkModule => .text s.template.frameworkModule
  | renderModule => .text s.template.renderModule
  | renderBindings => .texts s.template.renderBindings

/-- The value that an item is for a setting; none when it is not of its type. -/
def read? (item : Item) : Setting → Option SettingValue
  | testsDir | aliasPrefix | frameworkModule | renderModule => item.text?.map .text
  | sourceRoot => item.text?.map (.optional ∘ some)
  | rootMarkers | excludedModules | excludedPrefixes | markupExtensions | sourceExtensions
  | renderBindings => item.texts?.map .texts

/-- The value of a setting when nothing is said. -/
def byDefault (k : Setting) : SettingValue :=
  k.get {}

end Setting

namespace SettingsPart

def key : SettingsPart → Text
  | paths => Settings.pathsKey
  | scan => Settings.scanKey
  | template => Settings.templateKey

def settings : SettingsPart → List Setting
  | paths => [.testsDir, .aliasPrefix, .sourceRoot, .rootMarkers]
  | scan => [.excludedModules, .excludedPrefixes, .markupExtensions, .sourceExtensions]
  | template => [.frameworkModule, .renderModule, .renderBindings]

theorem mem_settings {p : SettingsPart} {k : Setting} : k ∈ p.settings ↔ k.part = p := by
  cases p <;> cases k <;> decide

theorem forall_iff {P : SettingsPart → Prop} :
    (∀ p, P p) ↔ P paths ∧ P scan ∧ P template := by
  constructor
  · exact fun h => ⟨h paths, h scan, h template⟩
  · rintro ⟨hpaths, hscan, htemplate⟩ (_ | _ | _) <;> assumption

end SettingsPart

section Parts

variable {s t : Settings}

theorem Settings.paths_eq_iff :
    s.paths = t.paths ↔ ∀ k ∈ SettingsPart.paths.settings, k.get s = k.get t := by
  obtain ⟨⟨_, _, _, _⟩, _, _⟩ := s
  obtain ⟨⟨_, _, _, _⟩, _, _⟩ := t
  simp [SettingsPart.settings, Setting.get]

theorem Settings.scan_eq_iff :
    s.scan = t.scan ↔ ∀ k ∈ SettingsPart.scan.settings, k.get s = k.get t := by
  obtain ⟨_, ⟨_, _, _, _⟩, _⟩ := s
  obtain ⟨_, ⟨_, _, _, _⟩, _⟩ := t
  simp [SettingsPart.settings, Setting.get]

theorem Settings.template_eq_iff :
    s.template = t.template ↔ ∀ k ∈ SettingsPart.template.settings, k.get s = k.get t := by
  obtain ⟨_, _, ⟨_, _, _⟩⟩ := s
  obtain ⟨_, _, ⟨_, _, _⟩⟩ := t
  simp [SettingsPart.settings, Setting.get]

/-- Settings are the same when each of them is. -/
theorem Settings.ext_get (h : ∀ k : Setting, k.get s = k.get t) : s = t := by
  have hpaths : s.paths = t.paths := paths_eq_iff.mpr fun k _ => h k
  have hscan : s.scan = t.scan := scan_eq_iff.mpr fun k _ => h k
  have htemplate : s.template = t.template := template_eq_iff.mpr fun k _ => h k
  cases s
  cases t
  simp_all

/-- Values that are those of some settings, one by one, are those of the same settings. -/
theorem Settings.exists_of_forall_get {value : Setting → SettingValue}
    (h : ∀ k, ∃ s, value k = k.get s) : ∃ s, ∀ k, value k = k.get s := by
  choose f hf using h
  refine ⟨⟨⟨(f .testsDir).paths.testsDir, (f .aliasPrefix).paths.aliasPrefix,
      (f .sourceRoot).paths.sourceRoot, (f .rootMarkers).paths.rootMarkers⟩,
    ⟨(f .excludedModules).scan.excludedModules, (f .excludedPrefixes).scan.excludedPrefixes,
      (f .markupExtensions).scan.markupExtensions, (f .sourceExtensions).scan.sourceExtensions⟩,
    ⟨(f .frameworkModule).template.frameworkModule, (f .renderModule).template.renderModule,
      (f .renderBindings).template.renderBindings⟩⟩, fun k => ?_⟩
  cases k <;> exact hf _

/-- What an item is read as for a setting is the value of some settings. -/
theorem Setting.exists_get_of_read? {k : Setting} {item : Item} {v : SettingValue}
    (h : k.read? item = some v) : ∃ s, v = k.get s := by
  cases k <;> obtain ⟨value, -, rfl⟩ := Option.map_eq_some_iff.mp h
  · exact ⟨{ paths := { testsDir := value } }, rfl⟩
  · exact ⟨{ paths := { aliasPrefix := value } }, rfl⟩
  · exact ⟨{ paths := { sourceRoot := some value } }, rfl⟩
  · exact ⟨{ paths := { rootMarkers := value } }, rfl⟩
  · exact ⟨{ scan := { excludedModules := value } }, rfl⟩
  · exact ⟨{ scan := { excludedPrefixes := value } }, rfl⟩
  · exact ⟨{ scan := { markupExtensions := value } }, rfl⟩
  · exact ⟨{ scan := { sourceExtensions := value } }, rfl⟩
  · exact ⟨{ template := { frameworkModule := value } }, rfl⟩
  · exact ⟨{ template := { renderModule := value } }, rfl⟩
  · exact ⟨{ template := { renderBindings := value } }, rfl⟩

end Parts

namespace Toml.Entries

/-- What a document says in the table of a part: nothing when it has no such table, and none when
what it has there is no table. -/
def part? (doc : Entries) (p : SettingsPart) : Option Entries :=
  match doc.lookup p.key with
  | none => some []
  | some item => item.fields? (p.settings.map Setting.key)

def item? (doc : Entries) (k : Setting) : Option Item := do
  let e ← doc.part? k.part
  e.lookup k.key

/-- Each part that a document has is a table, and each setting in it is of its type. -/
structure WellTyped (doc : Entries) : Prop where
  parts : ∀ p, (doc.part? p).isSome
  settings : ∀ k item, doc.item? k = some item → (k.read? item).isSome

/-- The value of a setting by a document: what the document says, or else the default. -/
def said (doc : Entries) (k : Setting) : SettingValue :=
  ((doc.item? k).bind fun item => k.read? item).getD k.byDefault

/-- The value of a setting by the entries of its part; none when it is not of its type. -/
def value? (e : Entries) (k : Setting) : Option SettingValue :=
  match e.lookup k.key with
  | none => some k.byDefault
  | some item => k.read? item

/-- A setting read by `read`, with its value as one that settings have. -/
theorem map_valueOr? {α : Type} (e : Entries) {k : Setting} {read : Item → Option α} {default : α}
    {wrap : α → SettingValue} (hread : ∀ item, k.read? item = (read item).map wrap)
    (hdefault : k.byDefault = wrap default) :
    (e.valueOr? k.key read default).map wrap = e.value? k := by
  unfold valueOr? value?
  cases e.lookup k.key with
  | none => rw [hdefault, Option.map_some]
  | some item => exact (hread item).symm

/-- The entries of a part say a value for a setting when what the document has for it is of its
type. -/
theorem value?_eq_some_iff {doc e : Entries} {k : Setting} {value : SettingValue}
    (he : doc.part? k.part = some e) :
    e.value? k = some value ↔
      (∀ item, doc.item? k = some item → (k.read? item).isSome) ∧ doc.said k = value := by
  have hitem : doc.item? k = e.lookup k.key := by simp [item?, he]
  unfold value? said
  rw [hitem]
  cases e.lookup k.key with
  | none => simp
  | some item => cases hread : k.read? item <;> simp [hread]

end Toml.Entries

section Reading

variable {item : Item} {doc : Entries} {s : Settings}

/-- An item is a table for a part, with the values that settings have. -/
def Toml.Item.Gives (item : Item) (p : SettingsPart) (s : Settings) : Prop :=
  ∃ e, item.fields? (p.settings.map Setting.key) = some e ∧
    ∀ k ∈ p.settings, e.value? k = some (k.get s)

/-- What a document says of the settings of a part, read by `read` into a record of the settings. -/
theorem Toml.Entries.valueOr?_part_eq_some_iff {α : Type} (doc : Entries) {p : SettingsPart}
    {read : Item → Option α} {record : Settings → α}
    (hread : ∀ item, read item = some (record s) ↔ item.Gives p s)
    (hdefault : record {} = record s ↔ ∀ k ∈ p.settings, k.byDefault = k.get s) :
    doc.valueOr? p.key read (record {}) = some (record s) ↔
      ∃ e, doc.part? p = some e ∧ ∀ k ∈ p.settings, e.value? k = some (k.get s) := by
  unfold valueOr? part?
  cases doc.lookup p.key with
  | none => simpa [value?] using hdefault
  | some item => exact hread item

theorem PathSettings.ofItem?_eq_some_iff :
    PathSettings.ofItem? item = some s.paths ↔ item.Gives .paths s := by
  -- Each field is read as the setting that it is.
  have hdir (e : Entries) := e.map_valueOr? (k := .testsDir) (fun _ => rfl) rfl
  have halias (e : Entries) := e.map_valueOr? (k := .aliasPrefix) (fun _ => rfl) rfl
  have hroot (e : Entries) := e.map_valueOr? (k := .sourceRoot)
    (fun item => (Option.map_map SettingValue.optional some item.text?).symm) rfl
  have hmarkers (e : Entries) := e.map_valueOr? (k := .rootMarkers) (fun _ => rfl) rfl
  simp only [ofItem?, Item.Gives, Option.bind_eq_bind, Option.bind_eq_some_iff, Option.some.injEq,
    SettingsPart.settings, List.forall_mem_cons, ← hdir, ← halias, ← hroot, ← hmarkers,
    Option.map_eq_some_iff, Setting.get, SettingValue.text.injEq, SettingValue.optional.injEq,
    SettingValue.texts.injEq, exists_eq_right]
  constructor
  · rintro ⟨e, he, _, hd, _, ha, _, hr, _, hm, hs⟩
    rw [← hs]
    exact ⟨e, he, hd, ha, hr, hm, by simp⟩
  · rintro ⟨e, he, hd, ha, hr, hm, -⟩
    exact ⟨e, he, _, hd, _, ha, _, hr, _, hm, rfl⟩

theorem ScanSettings.ofItem?_eq_some_iff :
    ScanSettings.ofItem? item = some s.scan ↔ item.Gives .scan s := by
  have hmodules (e : Entries) := e.map_valueOr? (k := .excludedModules) (fun _ => rfl) rfl
  have hprefixes (e : Entries) := e.map_valueOr? (k := .excludedPrefixes) (fun _ => rfl) rfl
  have hmarkup (e : Entries) := e.map_valueOr? (k := .markupExtensions) (fun _ => rfl) rfl
  have hsource (e : Entries) := e.map_valueOr? (k := .sourceExtensions) (fun _ => rfl) rfl
  simp only [ofItem?, Item.Gives, Option.bind_eq_bind, Option.bind_eq_some_iff, Option.some.injEq,
    SettingsPart.settings, List.forall_mem_cons, ← hmodules, ← hprefixes, ← hmarkup, ← hsource,
    Option.map_eq_some_iff, Setting.get, SettingValue.texts.injEq, exists_eq_right]
  constructor
  · rintro ⟨e, he, _, hm, _, hp, _, hk, _, hc, hs⟩
    rw [← hs]
    exact ⟨e, he, hm, hp, hk, hc, by simp⟩
  · rintro ⟨e, he, hm, hp, hk, hc, -⟩
    exact ⟨e, he, _, hm, _, hp, _, hk, _, hc, rfl⟩

theorem TemplateSettings.ofItem?_eq_some_iff :
    TemplateSettings.ofItem? item = some s.template ↔ item.Gives .template s := by
  have hframework (e : Entries) := e.map_valueOr? (k := .frameworkModule) (fun _ => rfl) rfl
  have hrender (e : Entries) := e.map_valueOr? (k := .renderModule) (fun _ => rfl) rfl
  have hbindings (e : Entries) := e.map_valueOr? (k := .renderBindings) (fun _ => rfl) rfl
  simp only [ofItem?, Item.Gives, Option.bind_eq_bind, Option.bind_eq_some_iff, Option.some.injEq,
    SettingsPart.settings, List.forall_mem_cons, ← hframework, ← hrender, ← hbindings,
    Option.map_eq_some_iff, Setting.get, SettingValue.text.injEq, SettingValue.texts.injEq,
    exists_eq_right]
  constructor
  · rintro ⟨e, he, _, hf, _, hr, _, hb, hs⟩
    rw [← hs]
    exact ⟨e, he, hf, hr, hb, by simp⟩
  · rintro ⟨e, he, hf, hr, hb, -⟩
    exact ⟨e, he, _, hf, _, hr, _, hb, rfl⟩

/-- A document gives settings when each part says a value for each of its settings. -/
theorem Settings.ofEntries?_eq_some_iff_parts :
    Settings.ofEntries? doc = some s ↔
      ∀ p, ∃ e, doc.part? p = some e ∧ ∀ k ∈ p.settings, e.value? k = some (k.get s) := by
  have hpaths := doc.valueOr?_part_eq_some_iff (p := .paths)
    (fun _ => PathSettings.ofItem?_eq_some_iff (s := s)) Settings.paths_eq_iff
  have hscan := doc.valueOr?_part_eq_some_iff (p := .scan)
    (fun _ => ScanSettings.ofItem?_eq_some_iff (s := s)) Settings.scan_eq_iff
  have htemplate := doc.valueOr?_part_eq_some_iff (p := .template)
    (fun _ => TemplateSettings.ofItem?_eq_some_iff (s := s)) Settings.template_eq_iff
  rw [SettingsPart.forall_iff, ← hpaths, ← hscan, ← htemplate]
  simp only [ofEntries?, Option.bind_eq_bind, Option.bind_eq_some_iff, Option.some.injEq]
  constructor
  · rintro ⟨_, hp, _, hs, _, ht, rfl⟩
    exact ⟨hp, hs, ht⟩
  · rintro ⟨hp, hs, ht⟩
    exact ⟨_, hp, _, hs, _, ht, rfl⟩

/-- A document gives settings when all that it says is of its type, and then they are as it says. -/
theorem Settings.ofEntries?_eq_some_iff :
    Settings.ofEntries? doc = some s ↔ doc.WellTyped ∧ ∀ k : Setting, doc.said k = k.get s := by
  rw [ofEntries?_eq_some_iff_parts]
  constructor
  · intro h
    have hdoc (k : Setting) :
        (∀ item, doc.item? k = some item → (k.read? item).isSome) ∧ doc.said k = k.get s := by
      obtain ⟨e, he, hvalues⟩ := h k.part
      exact (Entries.value?_eq_some_iff he).mp (hvalues k (SettingsPart.mem_settings.mpr rfl))
    refine ⟨⟨fun p => ?_, fun k => (hdoc k).1⟩, fun k => (hdoc k).2⟩
    obtain ⟨e, he, -⟩ := h p
    simp [he]
  · rintro ⟨htyped, hsaid⟩ p
    obtain ⟨e, he⟩ := Option.isSome_iff_exists.mp (htyped.parts p)
    refine ⟨e, he, fun k hk => ?_⟩
    obtain rfl := SettingsPart.mem_settings.mp hk
    exact (Entries.value?_eq_some_iff he).mpr ⟨htyped.settings k, hsaid k⟩

/-- A document with everything of its type gives settings. -/
theorem Toml.Entries.WellTyped.exists_settings (h : doc.WellTyped) :
    ∃ s, Settings.ofEntries? doc = some s := by
  have hsaid (k : Setting) : ∃ s, doc.said k = k.get s := by
    unfold said
    cases hitem : doc.item? k with
    | none => exact ⟨{}, rfl⟩
    | some item =>
      obtain ⟨v, hv⟩ := Option.isSome_iff_exists.mp (h.settings k item hitem)
      simpa [hv] using Setting.exists_get_of_read? hv
  obtain ⟨s, hs⟩ := Settings.exists_of_forall_get hsaid
  exact ⟨s, Settings.ofEntries?_eq_some_iff.mpr ⟨h, hs⟩⟩

/-- A text gives no settings when it is no document, or one with something not of its type. -/
theorem Settings.ofText?_eq_none_iff {text : Text} :
    Settings.ofText? text = none ↔ ∀ doc, parse? text = some doc → ¬ doc.WellTyped := by
  unfold ofText?
  cases parse? text with
  | none => simp
  | some doc =>
    rw [Option.bind_eq_bind, Option.bind_some]
    constructor
    · rintro hnone _ ⟨⟩ htyped
      obtain ⟨s, hs⟩ := htyped.exists_settings
      exact absurd (hnone.symm.trans hs) nofun
    · intro h
      cases hs : ofEntries? doc with
      | none => rfl
      | some s => exact absurd (ofEntries?_eq_some_iff.mp hs).1 (h doc rfl)

end Reading

end TestScaffold
