import TestScaffold.Proofs.Generation.ReadBack
import TestScaffold.Proofs.Mock.StandIns

/-!
The text of a mock says all there is to say about it. Its names are identifiers and its module path
has no quote, whatever the source looks like, so nothing of them ends a key, a string or a line.
The parts of the text can therefore be told apart: the path ends at the second quote, a key at its
colon, and two stand-ins of one key differ in what follows.
-/

namespace TestScaffold

/-- Where a character that stands in neither of two texts ends each of them, both are cut there. -/
theorem Text.append_cons_inj {P : Char → Bool} {a b u v : Text} {c : Char}
    (ha : ∀ d ∈ a, P d = true) (hb : ∀ d ∈ b, P d = true) (hc : P c = false)
    (h : a ++ c :: u = b ++ c :: v) : a = b ∧ u = v := by
  have hstart : a = b := by
    have htake := congrArg (List.takeWhile P) h
    rwa [takeWhile_append_cons ha hc, takeWhile_append_cons hb hc] at htake
  have hrest : c :: u = c :: v := by
    have hdrop := congrArg (List.dropWhile P) h
    rwa [dropWhile_append_cons ha hc, dropWhile_append_cons hb hc] at hdrop
  exact ⟨hstart, List.tail_eq_of_cons_eq hrest⟩

theorem isIdentifier_default : isIdentifier "default".toList = true := by
  decide +kernel

theorem ne_colon_of_isIdentifier {t : Text} (h : isIdentifier t = true) :
    ∀ c ∈ t, (c != ':') = true := by
  have hcolon : isIdentifierChar ':' = false := by decide +kernel
  intro c hc
  rw [bne_iff_ne]
  rintro rfl
  have hchar := isIdentifierChar_of_isIdentifier h ':' hc
  rw [hcolon] at hchar
  cases hchar

namespace MockField

/-- What stands in a field after the colon. -/
def valueText : MockField → Text
  | placeholder _ tag =>
    " (props) => jest.requireActual(\"react\").createElement(\"div\", \x7b ".toList ++
      "\"data-testid\": \"".toList ++ tag ++ "\" \x7d, JSON.stringify(props))".toList
  | noOp _ => " jest.fn()".toList
  | emptyObject _ => " \x7b\x7d".toList

theorem text_eq (f : MockField) : f.text = f.key ++ ':' :: f.valueText := by
  cases f with
  | placeholder key tag =>
    have hcolon : ": (props) => jest.requireActual(\"react\").createElement(\"div\", \x7b ".toList =
        ':' :: " (props) => jest.requireActual(\"react\").createElement(\"div\", \x7b ".toList := rfl
    unfold text valueText
    rw [hcolon]
    simp only [MockField.key, List.append_assoc, List.cons_append]
  | noOp key => rfl
  | emptyObject key => rfl

/-- How a value starts tells its kind. -/
def start : MockField → Text
  | placeholder .. => " (".toList
  | noOp _ => " j".toList
  | emptyObject _ => " \x7b".toList

theorem take_valueText (f : MockField) : f.valueText.take 2 = f.start := by
  cases f with
  | placeholder key tag => rfl
  | noOp key => rfl
  | emptyObject key => rfl

/-- The text of a field gives its kind, its key and its tag. -/
theorem text_inj {f g : MockField} (hf : isIdentifier f.key = true)
    (hg : isIdentifier g.key = true) (h : f.text = g.text) : f = g := by
  rw [text_eq, text_eq] at h
  obtain ⟨hkey, hvalue⟩ := Text.append_cons_inj (ne_colon_of_isIdentifier hf)
    (ne_colon_of_isIdentifier hg) (by decide) h
  have hstart : f.start = g.start := by
    rw [← take_valueText, ← take_valueText, hvalue]
  cases f with
  | placeholder key tag =>
    cases g with
    | placeholder key' tag' =>
      have htag : tag = tag' := List.append_cancel_left (List.append_cancel_right hvalue)
      obtain rfl : key = key' := hkey
      rw [htag]
    | noOp => cases hstart
    | emptyObject => cases hstart
  | noOp key =>
    cases g with
    | placeholder => cases hstart
    | noOp => exact congrArg noOp hkey
    | emptyObject => cases hstart
  | emptyObject key =>
    cases g with
    | placeholder => cases hstart
    | noOp => cases hstart
    | emptyObject => exact congrArg emptyObject hkey

theorem map_text_inj {fields others : List MockField}
    (hfields : ∀ f ∈ fields, isIdentifier f.key = true)
    (hothers : ∀ f ∈ others, isIdentifier f.key = true)
    (h : fields.map text = others.map text) : fields = others := by
  induction fields generalizing others with
  | nil => exact (List.map_eq_nil_iff.mp h.symm).symm
  | cons f fields ih =>
    cases others with
    | nil => cases h
    | cons g others =>
      obtain ⟨hf, hfields⟩ := List.forall_mem_cons.mp hfields
      obtain ⟨hg, hothers⟩ := List.forall_mem_cons.mp hothers
      obtain ⟨hhead, htail⟩ := List.cons.inj h
      rw [text_inj hf hg hhead, ih hfields hothers htail]

/-- No field of a binding reads as the default export of the framework. -/
theorem text_ne_framework {f : MockField} (hf : isIdentifier f.key = true) :
    f.text ≠ "default: jest.fn(() => null)".toList := by
  intro h
  have hsplit : "default: jest.fn(() => null)".toList =
      "default".toList ++ ':' :: " jest.fn(() => null)".toList := rfl
  rw [text_eq, hsplit] at h
  obtain ⟨-, hvalue⟩ := Text.append_cons_inj (ne_colon_of_isIdentifier hf)
    (ne_colon_of_isIdentifier isIdentifier_default) (by decide) h
  cases f with
  | placeholder key tag =>
    have hstart := take_valueText (placeholder key tag)
    rw [hvalue] at hstart
    cases hstart
  | noOp key => cases hvalue
  | emptyObject key => cases hvalue

/-- The fields of bindings do not read as the stand-in for the framework: its first one is different
from all of them. -/
theorem map_text_ne_framework {fields : List MockField}
    (h : ∀ f ∈ fields, isIdentifier f.key = true) : fields.map text ≠ frameworkFields := by
  intro hsame
  cases fields with
  | nil => cases hsame
  | cons f fields =>
    obtain ⟨hfirst, -⟩ := List.cons.inj hsame
    exact text_ne_framework (h f List.mem_cons_self) hfirst

end MockField

namespace Mock

def headerLine (m : Mock) : Text :=
  "jest.mock(\"".toList ++ m.modulePath ++ "\", () => (\x7b".toList

/-- The lines for the fields of a mock, with the marker before them. -/
def fieldLines (m : Mock) : List Text :=
  (interopField :: m.fieldTexts).map fun field => "    ".toList ++ field ++ ",".toList

/-- A mock out of which no part of it breaks: the path stays between its quotes, the keys are names
and the fields stay on their lines. -/
structure Contained (m : Mock) : Prop where
  modulePath : ∀ c ∈ m.modulePath, isQuote c = false
  keys : ∀ f ∈ m.fields, isIdentifier f.key = true
  fieldTexts : ∀ field ∈ m.fieldTexts, '\n' ∉ field

theorem text_eq_ofLines (m : Mock) :
    m.text = m.headerLine ++ '\n' :: (Text.ofLines m.fieldLines ++ "\x7d))".toList) := by
  have hhead : "\", () => (\x7b\n".toList = "\", () => (\x7b".toList ++ ['\n'] := rfl
  have hline (field : Text) :
      fieldLine field = ("    ".toList ++ field ++ ",".toList) ++ ['\n'] := by
    have hend : ",\n".toList = ",".toList ++ ['\n'] := rfl
    unfold fieldLine
    rw [hend, List.append_assoc _ _ ['\n']]
  have hlines : (interopField :: m.fieldTexts).flatMap fieldLine = Text.ofLines m.fieldLines := by
    unfold fieldLines Text.ofLines
    rw [List.flatMap_map]
    exact List.flatMap_congr fun field _ => hline field
  unfold text headerLine
  rw [hhead, hlines]
  simp only [List.append_assoc, List.cons_append, List.nil_append]

namespace Contained

variable {m m' : Mock} (h : m.Contained)
include h

theorem not_mem_fieldLines : ∀ line ∈ m.fieldLines, '\n' ∉ line := by
  intro line hline
  obtain ⟨field, hfield, rfl⟩ := List.mem_map.mp hline
  have hmiddle : '\n' ∉ field := by
    rcases List.mem_cons.mp hfield with rfl | hmem
    · decide
    · exact h.fieldTexts field hmem
  simp only [List.mem_append, not_or]
  exact ⟨⟨by decide, hmiddle⟩, by decide⟩

theorem fields_inner :
    Text.fields (Text.ofLines m.fieldLines ++ "\x7d))".toList) '\n' =
      m.fieldLines ++ ["\x7d))".toList] :=
  Text.fields_ofLines h.not_mem_fieldLines _

/-- When the module path has no line feed, the lines are those of the frame and of the fields. -/
theorem fields_text (hpath : '\n' ∉ m.modulePath) :
    Text.fields m.text '\n' = m.headerLine :: (m.fieldLines ++ ["\x7d))".toList]) := by
  have hheader : '\n' ∉ m.headerLine := by
    unfold headerLine
    simp only [List.mem_append, not_or]
    exact ⟨⟨by decide, hpath⟩, by decide⟩
  have hfirst : Text.fields m.headerLine '\n' = [m.headerLine] :=
    List.splitOn_eq_singleton hheader
  have hrest := h.fields_inner
  rw [text_eq_ofLines]
  unfold Text.fields at hfirst hrest ⊢
  rw [List.splitOn_append_cons_self, hfirst, hrest]
  rfl

/-- The text gives the module path, also one with line feeds in it, and the fields. -/
theorem text_parts (h' : m'.Contained) (htext : m.text = m'.text) :
    m.modulePath = m'.modulePath ∧ m.fieldTexts = m'.fieldTexts := by
  have hopen (m : Mock) : m.text = "jest.mock(\"".toList ++ (m.modulePath ++ '\x22' ::
      (", () => (\x7b\n".toList ++ (Text.ofLines m.fieldLines ++ "\x7d))".toList))) := by
    have hhead : "\", () => (\x7b".toList = '\x22' :: ", () => (\x7b".toList := rfl
    have hend : ", () => (\x7b\n".toList = ", () => (\x7b".toList ++ ['\n'] := rfl
    rw [text_eq_ofLines, hend]
    unfold headerLine
    rw [hhead]
    simp only [List.append_assoc, List.cons_append, List.nil_append]
  have hunquoted {m : Mock} (h : m.Contained) : ∀ c ∈ m.modulePath, (!isQuote c) = true := by
    intro c hc
    rw [h.modulePath c hc]
    rfl
  rw [hopen m, hopen m'] at htext
  obtain ⟨hpath, hrest⟩ := Text.append_cons_inj (hunquoted h) (hunquoted h') (by decide)
    (List.append_cancel_left htext)
  have hlines : m.fieldLines = m'.fieldLines := by
    have hfields := congrArg (Text.fields · '\n') (List.append_cancel_left hrest)
    rw [h.fields_inner, h'.fields_inner] at hfields
    exact List.append_cancel_right hfields
  refine ⟨hpath, ?_⟩
  have hindent : Function.Injective fun field : Text => "    ".toList ++ field ++ ",".toList := by
    intro a b hab
    exact List.append_cancel_left (List.append_cancel_right hab)
  exact List.tail_eq_of_cons_eq (List.map_injective_iff.mpr hindent hlines)

theorem eq_of_text_eq (h' : m'.Contained) (htext : m.text = m'.text) : m = m' := by
  obtain ⟨hpath, hfields⟩ := h.text_parts h' htext
  obtain ⟨path, body⟩ := m
  obtain ⟨path', body'⟩ := m'
  have hbody : body = body' := by
    cases body with
    | framework =>
      cases body' with
      | framework => rfl
      | fields others => exact absurd hfields.symm (MockField.map_text_ne_framework h'.keys)
    | fields fields =>
      cases body' with
      | framework => exact absurd hfields (MockField.map_text_ne_framework h.keys)
      | fields others =>
        exact congrArg MockBody.fields (MockField.map_text_inj h.keys h'.keys hfields)
  rw [hbody]
  exact congrArg (Mock.mk · body') hpath

end Contained

/-- The key of a field is a name of its import, or the word for the default export. -/
theorem isIdentifier_key {b : Bindings} (h : b.WellNamed) {f : MockField} (hf : f ∈ fieldsOf b) :
    isIdentifier f.key = true := by
  have hkey : f ∈ (fieldsOf b).filter (·.key == f.key) :=
    List.mem_filter.mpr ⟨hf, beq_self_eq_true _⟩
  rcases mem_filter_fieldsOf_iff.mp hkey with ⟨hdefault, -⟩ | ⟨hname, -⟩ | ⟨hwhole, -⟩
  · rw [hdefault]
    exact isIdentifier_default
  · exact h.names f.key hname
  · exact h.wholeName f.key hwhole

/-- The mock of an import in any source is contained when the alias has no quote. -/
theorem contained_ofImport {s : Settings} (halias : ∀ c ∈ s.paths.aliasPrefix, isQuote c = false)
    {i : ImportStatement} (hpath : Quotable i.modulePath) (hnames : i.bindings.WellNamed) :
    (ofImport s i).Contained := by
  refine ⟨unquoted_modulePathOf halias hpath.unquoted, ?_, not_mem_fieldTexts_ofImport hnames⟩
  intro f hf
  rw [fields_ofImport] at hf
  split at hf
  · cases hf
  · exact isIdentifier_key hnames hf

end Mock

/-- No source breaks out of a mock, and the text of a mock says all there is to say about it.
Whatever stands in the source, the names of an import are identifiers, and so is each key of its
mock; its module path has no quote when the alias has none. Unless that path has a line feed, the
text is the first line, one line for the marker, one for each field and the last line. Two mocks of
one text are equal, whatever sources and settings they are made from. -/
theorem mock_text_faithful (s : Settings) (halias : ∀ c ∈ s.paths.aliasPrefix, isQuote c = false)
    (t : Text) (i : ImportStatement) (hi : i ∈ s.scan.scan t) :
    let m := Mock.ofImport s i
    i.bindings.WellNamed ∧ (∀ f ∈ m.fields, isIdentifier f.key = true) ∧
      (∀ c ∈ m.modulePath, isQuote c = false) ∧
      ('\n' ∉ m.modulePath →
        Text.fields m.text '\n' = m.headerLine :: (m.fieldLines ++ ["\x7d))".toList])) ∧
      ∀ s' : Settings, (∀ c ∈ s'.paths.aliasPrefix, isQuote c = false) →
        ∀ (t' : Text), ∀ i' ∈ s'.scan.scan t',
          (Mock.ofImport s' i').text = m.text → Mock.ofImport s' i' = m := by
  intro m
  obtain ⟨hpath, hnames⟩ := ScanSettings.mem_scan hi
  have hm : m.Contained := Mock.contained_ofImport halias hpath hnames
  refine ⟨hnames, hm.keys, hm.modulePath, hm.fields_text, ?_⟩
  intro s' halias' t' i' hi' htext
  obtain ⟨hpath', hnames'⟩ := ScanSettings.mem_scan hi'
  exact (Mock.contained_ofImport halias' hpath' hnames').eq_of_text_eq hm htext

/-- Two ways to write one import, and the mock that both have. -/
theorem mock_text_faithful_card :
    let s : Settings := {}
    let b : Bindings := { defaultName := some "Card".toList, names := ["load".toList] }
    let i : ImportStatement :=
      ⟨"import Card, \x7b load \x7d from './Card'".toList, "./Card".toList, b⟩
    let i' : ImportStatement :=
      ⟨"import Card,\x7bload,\x7d from \"./Card\"".toList, "./Card".toList, b⟩
    let m := Mock.ofImport s i
    (∀ c ∈ s.paths.aliasPrefix, isQuote c = false) ∧
      i ∈ s.scan.scan (i.raw ++ ['\n']) ∧ i' ∈ s.scan.scan (i'.raw ++ ['\n']) ∧
      '\n' ∉ m.modulePath ∧ (Text.fields m.text '\n').length = 5 ∧ Mock.ofImport s i' = m := by
  intro s b i i' m
  have halias : ∀ c ∈ s.paths.aliasPrefix, isQuote c = false :=
    List.all_iff_forall_prop.mp (by decide)
  have hi : i ∈ s.scan.scan (i.raw ++ ['\n']) := by decide +kernel
  have hi' : i' ∈ s.scan.scan (i'.raw ++ ['\n']) := by decide +kernel
  have hline : '\n' ∉ m.modulePath := by decide
  have htext : (Mock.ofImport s i').text = m.text := by decide +kernel
  obtain ⟨-, -, -, hlines, hequal⟩ := mock_text_faithful s halias _ i hi
  refine ⟨halias, hi, hi', hline, ?_, hequal s halias _ i' hi' htext⟩
  rw [hlines hline]
  decide +kernel

end TestScaffold
