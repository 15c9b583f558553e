import TestScaffold.Proofs.Generation.Agreement
import TestScaffold.Proofs.Path.Characters
import TestScaffold.Proofs.Skeleton.ReadBack

/-!
The mocks of a planned test, read back from its text. Whatever is scanned in the source, each of
its imports gets a mock that can be read back; the names in the rest of the test come from the
path of the source, so they stay on their lines when that path does.
-/

namespace TestScaffold

theorem MockField.not_mem_text_ofBinding {key name : Text} (hkey : '\n' ∉ key)
    (hname : '\n' ∉ name) : '\n' ∉ (ofBinding key name).text := by
  unfold ofBinding
  split
  · unfold text
    simp only [List.mem_append, not_or]
    exact ⟨⟨⟨⟨hkey, by decide⟩, by decide⟩, Text.not_mem_toLower hname⟩, by decide⟩
  · unfold text
    simp only [List.mem_append, not_or]
    exact ⟨hkey, by decide⟩

theorem MockField.not_mem_text_emptyObject {key : Text} (hkey : '\n' ∉ key) :
    '\n' ∉ (emptyObject key).text := by
  unfold text
  simp only [List.mem_append, not_or]
  exact ⟨hkey, by decide⟩

theorem not_mem_frameworkFields : ∀ field ∈ frameworkFields, '\n' ∉ field := by
  decide +kernel

/-- Settings whose texts can be written into a test: the alias between quotes, and every text on
its line. -/
structure Settings.OneLine (s : Settings) : Prop where
  aliasEnd : s.paths.aliasPrefix.getLast? = some '/'
  aliasUnquoted : ∀ c ∈ s.paths.aliasPrefix, isQuote c = false
  aliasLine : '\n' ∉ s.paths.aliasPrefix
  template : s.template.OneLine

namespace Mock

theorem not_mem_text_of_mem_fieldsOf {b : Bindings} (h : b.WellNamed) :
    ∀ field ∈ fieldsOf b, '\n' ∉ field.text := by
  intro field hfield
  unfold fieldsOf at hfield
  rw [List.mem_append, List.mem_append] at hfield
  rcases hfield with (hdefault | hnamed) | hwhole
  · obtain ⟨name, hname, rfl⟩ := Option.map_eq_some_iff.mp (Option.mem_toList.mp hdefault)
    exact MockField.not_mem_text_ofBinding (by decide)
      (not_mem_of_isIdentifier (h.defaultName name hname))
  · obtain ⟨name, hname, rfl⟩ := List.mem_map.mp hnamed
    have hline := not_mem_of_isIdentifier (h.names name hname)
    exact MockField.not_mem_text_ofBinding hline hline
  · obtain ⟨name, hname, rfl⟩ := Option.map_eq_some_iff.mp (Option.mem_toList.mp hwhole)
    exact MockField.not_mem_text_emptyObject (not_mem_of_isIdentifier (h.wholeName name hname))

/-- No quote gets into a module path from a source, and none from the alias. -/
theorem unquoted_modulePathOf {s : Settings}
    (halias : ∀ c ∈ s.paths.aliasPrefix, isQuote c = false) {path : Text}
    (hpath : ∀ c ∈ path, isQuote c = false) :
    ∀ c ∈ modulePathOf s.paths path, isQuote c = false := by
  unfold modulePathOf
  split
  · intro c hc
    rcases PathSettings.mem_of_mem_aliasPath hc with hstart | hinner | rfl
    · exact halias c hstart
    · exact hpath c hinner
    · rfl
  · exact hpath

/-- The fields of other modules than the framework are named by their bindings alone. -/
theorem not_mem_fieldTexts_ofImport {s : Settings} {i : ImportStatement}
    (h : i.bindings.WellNamed) : ∀ field ∈ (ofImport s i).fieldTexts, '\n' ∉ field := by
  unfold fieldTexts ofImport
  intro field hfield
  split at hfield
  · exact not_mem_frameworkFields field hfield
  · rename_i fields hbody
    obtain ⟨f, hf, rfl⟩ := List.mem_map.mp hfield
    dsimp only at hbody
    split at hbody
    · cases hbody
    · obtain rfl := MockBody.fields.inj hbody
      exact not_mem_text_of_mem_fieldsOf h f hf

variable {s : Settings} (hs : s.OneLine)
include hs

theorem quotable_modulePathOf {path : Text} (h : Quotable path) :
    Quotable (modulePathOf s.paths path) := by
  refine ⟨?_, unquoted_modulePathOf hs.aliasUnquoted h.unquoted⟩
  unfold modulePathOf
  split
  · -- The alias stands before what is left of the path, which may be nothing.
    intro hnil
    have halias : s.paths.aliasPrefix = [] := (List.append_eq_nil_iff.mp hnil).1
    have hend := hs.aliasEnd
    rw [halias] at hend
    cases hend
  · exact h.ne_nil

theorem readable_ofImport {i : ImportStatement} (hpath : Quotable i.modulePath)
    (hbindings : i.bindings.WellNamed) : (ofImport s i).Readable :=
  ⟨quotable_modulePathOf hs hpath, not_mem_fieldTexts_ofImport hbindings⟩

end Mock

namespace TestPlan

def template (p : TestPlan) (s : TemplateSettings) : Text :=
  Skeleton.template ⟨p.identity, p.style.value, p.kind, p.importPath, p.mocks⟩ s

variable {s : Settings} (source destination relative : Path) (text : Option Text)

/-- The imports of a plan are those scanned in its source. -/
theorem mem_imports_ofText {i : ImportStatement}
    (h : i ∈ (ofText s source destination relative text).imports.value) :
    Quotable i.modulePath ∧ i.bindings.WellNamed := by
  cases text with
  | none => cases h
  | some text => exact ScanSettings.mem_scan h

theorem readable_of_mem_mocks (hs : s.OneLine) :
    ∀ m ∈ (ofText s source destination relative text).mocks, m.Readable := by
  intro m hm
  obtain ⟨i, hi, rfl⟩ := List.mem_map.mp hm
  obtain ⟨hpath, hbindings⟩ := mem_imports_ofText source destination relative text hi
  exact Mock.readable_ofImport hs hpath hbindings

variable {source relative}

theorem mockedModules_content (hs : s.OneLine) (hsource : '\n' ∉ source.text)
    (hrelative : '\n' ∉ relative.text) :
    let p := ofText s source destination relative text
    mockedModules p.content = p.mocks.map (·.modulePath) :=
  Skeleton.mockedModules_text hs.template (not_mem_identityOf hsource)
    (PathSettings.not_mem_importPath (by decide) (by decide) hs.aliasLine hrelative)
    (readable_of_mem_mocks source destination relative text hs)

theorem mockFree_template (hs : s.OneLine) (hsource : '\n' ∉ source.text)
    (hrelative : '\n' ∉ relative.text) :
    MockFree ((ofText s source destination relative text).template s.template) :=
  Skeleton.mockFree_template hs.template (not_mem_identityOf hsource)
    (PathSettings.not_mem_importPath (by decide) (by decide) hs.aliasLine hrelative)

/-- The lines of the template are the last ones of a planned test. -/
theorem fields_content : ∃ mockLines,
    Text.fields (ofText s source destination relative text).content '\n' = mockLines ++
      Text.fields ((ofText s source destination relative text).template s.template) '\n' :=
  Skeleton.fields_text _ s.template

end TestPlan

theorem plan_of_testPath {σ : Type} [FileStore σ] {s : Settings} {l : Location} {d : Path}
    (store : σ) (h : l.testPath s.paths = .ok d) :
    ∃ relative, l.relative = .ok relative ∧
      plan s store l = .ok (TestPlan.ofText s l.source d relative
        (FileStore.read store l.source).toOption) := by
  obtain ⟨relative, hrelative⟩ := Location.relative_of_testPath h
  refine ⟨relative, hrelative, ?_⟩
  unfold plan
  rw [h, hrelative]
  rfl

/-- The mocks of a test are read back from its text. The location alone decides that there is a
plan; then, for any text of the source, the module paths found in the test are those of the mocks,
in their order and as often as they stand there. There is a mock for each import that is scanned,
under the alias when the import is relative. The lines of the template are the last ones of the
test, and every line that begins like a mock stands before the imports among them. -/
theorem mocks_read_back {σ : Type} [FileStore σ] (s : Settings) (hs : s.OneLine) (l : Location)
    (hline : '\n' ∉ l.source.text) (d : Path) (haccepted : l.testPath s.paths = .ok d)
    (store : σ) :
    ∃ p, plan s store l = .ok p ∧
      mockedModules p.content = p.mocks.map (·.modulePath) ∧
      (∀ text, FileStore.read store l.source = .ok text → p.imports.value = s.scan.scan text) ∧
      (∀ cause, FileStore.read store l.source = .error cause → p.imports.value = []) ∧
      p.mocks.map (·.modulePath) = p.imports.value.map (fun i =>
        if isRelativeModule i.modulePath then s.paths.aliasPath i.modulePath else i.modulePath) ∧
      ∃ mockLines,
        Text.fields p.content '\n' = mockLines ++ Text.fields (p.template s.template) '\n' ∧
        ∀ (i j : Nat) (mock line : Text),
          (Text.fields p.content '\n')[i]? = some mock →
          mock.startsWith "jest.mock(".toList = true →
          (Text.fields p.content '\n')[j]? = some line →
          line.startsWith "import ".toList = true →
          mockLines.length ≤ j → i < j := by
  obtain ⟨relative, hrelative, hplan⟩ := plan_of_testPath store haccepted
  -- The import path is made from the path in the workspace, the name of the component from the
  -- path as it is given; both stay on their line.
  have hinner : '\n' ∉ relative.text :=
    (Path.madeFrom_under? (Location.under?_of_relative hrelative)).not_mem (by decide) (by decide)
      hline
  refine ⟨_, hplan, TestPlan.mockedModules_content d _ hs hline hinner, ?_, ?_, ?_, ?_⟩
  · intro text hread
    rw [hread]
    rfl
  · intro cause hread
    rw [hread]
    rfl
  · exact List.map_map
  · obtain ⟨mockLines, hfields⟩ := TestPlan.fields_content d
      (FileStore.read store l.source).toOption
    refine ⟨mockLines, hfields, ?_⟩
    intro i j mock line hmock hstart _ _ hj
    refine Nat.lt_of_lt_of_le ?_ hj
    -- A later line would be one of the template.
    by_contra hlate
    rw [hfields, List.getElem?_append_right (Nat.le_of_not_lt hlate)] at hmock
    have hfree := (TestPlan.mockFree_template d _ hs hline hinner).not_startsWith
      (List.mem_of_getElem? hmock)
    rw [hstart] at hfree
    cases hfree

/-- A source with a relative import, and one whose module path spans two lines, the second of which
begins like a mock. -/
def spanningSource : Text :=
  "import a from './a'\nimport b from 'b\njest.mock(c'\n".toList

def spanningFiles : MemoryStore :=
  MemoryStore.empty.put ⟨"/p/src/Card.tsx".toList⟩ (some spanningSource)

/-- The second line of the path is passed over as a part of the first mock on it. -/
theorem mocks_read_back_spanning :
    let s : Settings := {}
    let l : Location := ⟨⟨"/p".toList⟩, ⟨"/p/src/Card.tsx".toList⟩⟩
    s.OneLine ∧ '\n' ∉ l.source.text ∧ l.testPath s.paths = .ok ⟨"/p/tests/Card.test.tsx".toList⟩ ∧
      ∃ p, plan s spanningFiles l = .ok p ∧
        mockedModules p.content = ["@/a".toList, "b\njest.mock(c".toList] := by
  intro s l
  have hs : s.OneLine := by
    have halias : ∀ c ∈ s.paths.aliasPrefix, isQuote c = false :=
      List.all_iff_forall_prop.mp (by decide)
    exact ⟨rfl, halias, by decide, by decide, by decide⟩
  have hline : '\n' ∉ l.source.text := by decide
  have haccepted : l.testPath s.paths = .ok ⟨"/p/tests/Card.test.tsx".toList⟩ := by decide +kernel
  refine ⟨hs, hline, haccepted, ?_⟩
  obtain ⟨p, hplan, hback, hread, -, hmocks, -⟩ :=
    mocks_read_back s hs l hline _ haccepted spanningFiles
  have hscan : (s.scan.scan spanningSource).map (fun i =>
      if isRelativeModule i.modulePath then s.paths.aliasPath i.modulePath else i.modulePath) =
        ["@/a".toList, "b\njest.mock(c".toList] := by decide +kernel
  have himports : p.imports.value = s.scan.scan spanningSource := hread spanningSource rfl
  refine ⟨p, hplan, ?_⟩
  rw [hback, hmocks, himports, hscan]

end TestScaffold
