import TestScaffold.Proofs.Skeleton.Lines
import TestScaffold.Proofs.Source.Statement

/-!
Reading the mocks of a test back. A mock is found by the line it begins with, up to the quote
after its module path; its other lines begin with a blank or a brace, and the lines of the
template with a letter of their own, so nothing else in a test is taken for a mock.
-/

namespace TestScaffold

namespace Mock

theorem looksAtLines_header? : Text.LooksAtLines header? where
  inside p hp := by
    unfold header?
    rw [hp]
  start p hp := by
    unfold header?
    rw [hp]
    rfl

theorem header?_of_ne {c : Char} (hc : c ≠ 'j') (before : Option Char) (t : Text) :
    header? ⟨before, c :: t⟩ = none := by
  have hafter : Text.after? "jest.mock(".toList (c :: t) = none := if_neg hc
  unfold header?
  rw [hafter]
  split
  · contradiction
  · rfl

def mockWord : Text :=
  "jest.mock(".toList

/-- What a mock begins with: what is read of it when it is found. -/
def opening (m : Mock) : Text :=
  mockWord ++ ['\x22'] ++ m.modulePath ++ ['\x22']

theorem header?_opening {m : Mock} (h : Quotable m.modulePath) (rest : Text) :
    header? ⟨none, m.opening ++ rest⟩ = some (m.modulePath, m.opening.length) := by
  let q : Quotation := ⟨'\x22', m.modulePath, '\x22'⟩
  have htext : m.opening ++ rest = mockWord ++ (q.text ++ rest) := by
    simp [opening, q, Quotation.text]
  have hafter : Text.after? "jest.mock(".toList (m.opening ++ rest) = some (q.text ++ rest) :=
    Text.after?_eq_some_iff.mpr htext
  -- No white space stands before the quote, and the path ends at the next one.
  have hquote : ¬ isBlank '\x22' = true := by decide
  have hblank : (q.text ++ rest).dropWhile isBlank = q.text ++ rest :=
    List.dropWhile_cons_of_neg hquote
  have hread : Quotation.read? (q.text ++ rest) = some (q, rest) :=
    Quotation.read?_append rfl h rfl rest
  have hlength : (m.opening ++ rest).length - rest.length = m.opening.length := by
    rw [List.length_append, Nat.add_sub_cancel]
  have hstart : Position.isLineStart ⟨none, m.opening ++ rest⟩ = true := rfl
  unfold header?
  simp only [hstart, hafter, hblank, hread, hlength]
  rfl

end Mock

/-- Whole lines that do not begin as a mock does. -/
def MockFree (t : Text) : Prop :=
  ∃ lines, t = Text.ofLines lines ∧ ∀ line ∈ lines, '\n' ∉ line ∧ line.head? ≠ some 'j'

theorem mockFree_iff {t : Text} : MockFree t ↔ t.LinesAvoid 'j' :=
  Iff.rfl

theorem MockFree.finds_append {t : Text} (h : MockFree t) (rest : Text) :
    (t ++ rest).finds Mock.header? = rest.finds Mock.header? :=
  (mockFree_iff.mp h).finds_append Mock.looksAtLines_header? Mock.header?_of_ne (by decide) rest

theorem MockFree.not_startsWith {t line : Text} (h : MockFree t)
    (hline : line ∈ Text.fields t '\n') : line.startsWith "jest.mock(".toList = false := by
  have hfirst := (mockFree_iff.mp h).head?_ne hline
  rw [← Bool.not_eq_true]
  intro hstart
  obtain ⟨rest, rfl⟩ := Text.startsWith_iff.mp hstart
  exact hfirst rfl

namespace Mock

/-- A mock that can be read back: its module path stands between quotes and each of its fields on
a line. -/
structure Readable (m : Mock) : Prop where
  modulePath : Quotable m.modulePath
  fields : ∀ field ∈ m.fieldTexts, '\n' ∉ field

/-- A mock is found, and the search goes on after it. -/
theorem finds_text_append {m : Mock} (h : m.Readable) (rest : Text) :
    (m.text ++ '\n' :: rest).finds header? = m.modulePath :: rest.finds header? := by
  let head := ", () => (\x7b".toList
  have htext : m.text ++ '\n' :: rest = m.opening ++ (head ++ '\n' :: (m.innerText ++ rest)) := by
    have hword : "jest.mock(\"".toList = mockWord ++ ['\x22'] := rfl
    have hhead : "\", () => (\x7b".toList = '\x22' :: head := rfl
    rw [← List.singleton_append, ← List.append_assoc, text_append_lineFeed]
    unfold opening
    rw [hword, hhead]
    simp only [List.append_assoc, List.cons_append, List.nil_append]
  have hinner : MockFree m.innerText := linesAvoid_innerText (by decide) (by decide) h.fields
  have hne : m.opening ≠ [] := by simp [opening]
  have hlast : m.opening.getLast? = some '\x22' := List.getLast?_concat
  have hlf : ∀ b u, header? ⟨b, '\n' :: u⟩ = none := fun b u => header?_of_ne (by decide) b u
  -- The opening is the find. The rest of its line is no start of a line, the other lines are free.
  rw [htext]
  unfold Text.finds
  rw [Text.findsFrom_of_some hne (header?_opening h.modulePath _), hlast,
    looksAtLines_header?.findsFrom_inside (by decide) (by decide),
    looksAtLines_header?.findsFrom_lineFeed _ hlf, hinner.finds_append]
  rfl

end Mock

namespace Skeleton

theorem finds_mockText_append {mocks : List Mock} (h : ∀ m ∈ mocks, m.Readable) (rest : Text) :
    (mockText mocks ++ rest).finds Mock.header? =
      mocks.map (·.modulePath) ++ rest.finds Mock.header? := by
  have hmocks : ∀ rest, Text.finds Mock.header?
      (mocks.flatMap (fun mock => mock.text ++ ['\n']) ++ rest) =
        mocks.map (·.modulePath) ++ Text.finds Mock.header? rest := by
    induction mocks with
    | nil => exact fun _ => rfl
    | cons m mocks ih =>
      intro rest
      obtain ⟨hm, hmocks⟩ := List.forall_mem_cons.mp h
      rw [List.flatMap_cons, List.append_assoc, List.append_assoc, List.singleton_append,
        m.finds_text_append hm, ih hmocks]
      rfl
  -- The blank line is there only when there are mocks, and matters in neither case.
  have hend : MockFree (if mocks.isEmpty then [] else ['\n']) := by
    split
    · exact Text.linesAvoid_nil
    · exact Text.linesAvoid_lineFeed
  unfold mockText
  rw [List.append_assoc, hmocks, hend.finds_append]

end Skeleton

theorem mockFree_componentImport {identity importPath : Text} (style : ExportStyle)
    (hidentity : '\n' ∉ identity) (hpath : '\n' ∉ importPath) :
    MockFree (componentImport identity style importPath ++ ['\n']) := by
  let source := " from \"".toList ++ importPath ++ ['\x22']
  have hsource : '\n' ∉ source := by
    simp only [source, List.mem_append, not_or]
    exact ⟨⟨by decide, hpath⟩, by decide⟩
  cases style with
  | default =>
    change MockFree ("import ".toList ++ identity ++ source ++ ['\n'])
    rw [List.append_assoc "import ".toList]
    exact Text.linesAvoid_around (by decide) (by decide) hidentity hsource
  | named =>
    change MockFree ("import \x7b ".toList ++ identity ++ " \x7d".toList ++ source ++ ['\n'])
    rw [List.append_assoc ("import \x7b ".toList ++ identity),
      List.append_assoc "import \x7b ".toList]
    apply Text.linesAvoid_of_start (by decide)
    simp only [List.mem_append, not_or]
    exact ⟨by decide, hidentity, by decide, hsource⟩

/-- Template settings whose texts stay on their line. -/
structure TemplateSettings.OneLine (s : TemplateSettings) : Prop where
  renderModule : '\n' ∉ s.renderModule
  renderBindings : ∀ name ∈ s.renderBindings, '\n' ∉ name

theorem mockFree_renderImport {s : TemplateSettings} (h : s.OneLine) :
    MockFree (s.renderImport ++ ['\n']) := by
  have hbindings : '\n' ∉ Text.join ", ".toList s.renderBindings := by
    intro hmem
    rcases Text.mem_join hmem with hcomma | ⟨name, hname, hline⟩
    · exact absurd hcomma (by decide)
    · exact h.renderBindings name hname hline
  have heq : s.renderImport = "import \x7b ".toList ++ (Text.join ", ".toList s.renderBindings ++
      (" \x7d from \"".toList ++ (s.renderModule ++ ['\x22']))) := by
    unfold TemplateSettings.renderImport
    simp only [List.append_assoc]
  rw [heq]
  apply Text.linesAvoid_of_start (by decide)
  simp only [List.mem_append, not_or]
  exact ⟨by decide, hbindings, by decide, h.renderModule, by decide⟩

namespace Skeleton

/-- What a test is apart from its mocks. -/
def template (k : Skeleton) (s : TemplateSettings) : Text :=
  text { k with mocks := [] } s

theorem text_eq_append (k : Skeleton) (s : TemplateSettings) :
    k.text s = mockText k.mocks ++ k.template s := by
  simp [text, template, mockText, importText, suiteText]

theorem mockFree_template {k : Skeleton} {s : TemplateSettings} (hs : s.OneLine)
    (hidentity : '\n' ∉ k.identity) (hpath : '\n' ∉ k.importPath) : MockFree (k.template s) := by
  have himports : MockFree (k.importText s) := by
    unfold importText
    rw [List.append_assoc]
    refine Text.LinesAvoid.append ?_ (mockFree_componentImport k.style hidentity hpath)
    cases k.kind with
    | markup => exact mockFree_renderImport hs
    | plain => exact Text.linesAvoid_nil
  have hsuite : MockFree k.suiteText :=
    k.linesAvoid_suiteText hidentity (by decide) (by decide) (by decide)
  exact (Text.LinesAvoid.append himports Text.linesAvoid_lineFeed).append hsuite

/-- The mocks of a test are read back from its text. -/
theorem mockedModules_text {k : Skeleton} {s : TemplateSettings} (hs : s.OneLine)
    (hidentity : '\n' ∉ k.identity) (hpath : '\n' ∉ k.importPath)
    (hmocks : ∀ m ∈ k.mocks, m.Readable) :
    mockedModules (k.text s) = k.mocks.map (·.modulePath) := by
  have htemplate := (mockFree_template hs hidentity hpath).finds_append []
  rw [List.append_nil] at htemplate
  unfold mockedModules
  rw [text_eq_append, finds_mockText_append hmocks, htemplate]
  exact List.append_nil _

/-- The lines of the template are the last ones of a test. -/
theorem fields_text (k : Skeleton) (s : TemplateSettings) :
    ∃ mockLines, Text.fields (k.text s) '\n' = mockLines ++ Text.fields (k.template s) '\n' := by
  rw [text_eq_append]
  cases hmocks : k.mocks with
  | nil => exact ⟨[], rfl⟩
  | cons m mocks =>
    -- The blank line after the mocks is where the lines are cut.
    refine ⟨Text.fields ((m :: mocks).flatMap (fun mock => mock.text ++ ['\n'])) '\n', ?_⟩
    unfold mockText Text.fields
    rw [List.append_assoc]
    exact List.splitOn_append_cons_self _ _

end Skeleton

end TestScaffold
