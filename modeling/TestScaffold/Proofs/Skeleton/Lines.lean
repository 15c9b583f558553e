import TestScaffold.Proofs.Text.LineStarts
import TestScaffold.Skeleton

/-!
The lines of a test. A mock begins with the letter of its call, its other lines with a blank or a
brace, the lines of a suite with a blank, a brace or the letter of `describe`. So what begins with
any other character can only stand among the imports.
-/

namespace TestScaffold

open Text

variable {c : Char}

theorem linesAvoid_suiteCase (hc : c ≠ ' ') {title line : Text} (htitle : '\n' ∉ title)
    (hline : '\n' ∉ line) : LinesAvoid c (suiteCase title line) := by
  have hblank : ' ' ≠ c := Ne.symm hc
  have heq : suiteCase title line =
      "    it(\"".toList ++ (title ++ "\", () => \x7b".toList) ++ ['\n'] ++
        ("        ".toList ++ line ++ ['\n']) ++ ("    \x7d)".toList ++ ['\n']) := by
    have hmiddle : "\", () => \x7b\n        ".toList =
        "\", () => \x7b".toList ++ (['\n'] ++ "        ".toList) := rfl
    have hend : "\n    \x7d)\n".toList = ['\n'] ++ ("    \x7d)".toList ++ ['\n']) := rfl
    unfold suiteCase
    rw [hmiddle, hend]
    simp only [List.append_assoc]
  -- A case has three lines, each of them indented.
  have hfirst : LinesAvoid c ("    it(\"".toList ++ (title ++ "\", () => \x7b".toList) ++ ['\n']) :=
    linesAvoid_around (decide_eq_true hblank) (by decide) htitle (by decide)
  have hbody : LinesAvoid c ("        ".toList ++ line ++ ['\n']) := by
    have hindent : ("        ".toList : Text).head?.any (· ≠ c) = true := decide_eq_true hblank
    apply linesAvoid_of_start hindent
    simp only [List.mem_append, not_or]
    exact ⟨by decide, hline⟩
  have hlast : LinesAvoid c ("    \x7d)".toList ++ ['\n']) :=
    linesAvoid_line (by decide) fun heq => hblank (Option.some.inj heq)
  rw [heq]
  exact (hfirst.append hbody).append hlast

theorem linesAvoid_emptyCase (hc : c ≠ ' ') {title : Text} (h : '\n' ∉ title) :
    LinesAvoid c (emptyCase title) := by
  have heq : emptyCase title =
      "    it(\"".toList ++ (title ++ "\", () => \x7b\x7d)".toList) ++ ['\n'] := by
    have hend : "\", () => \x7b\x7d)\n".toList = "\", () => \x7b\x7d)".toList ++ ['\n'] := rfl
    unfold emptyCase
    rw [hend]
    simp only [List.append_assoc]
  rw [heq]
  exact linesAvoid_around (decide_eq_true (Ne.symm hc)) (by decide) h (by decide)

theorem linesAvoid_suite (hbrace : c ≠ '\x7d') (hletter : c ≠ 'd') {identity : Text}
    {cases : List Text} (hidentity : '\n' ∉ identity)
    (hcases : ∀ case ∈ cases, LinesAvoid c case) : LinesAvoid c (suite identity cases) := by
  have heq : suite identity cases =
      "describe(\"".toList ++ (identity ++ "\", () => \x7b".toList) ++ ['\n'] ++
        Text.join ['\n'] cases ++ ("\x7d)".toList ++ ['\n']) := by
    have hmiddle : "\", () => \x7b\n".toList = "\", () => \x7b".toList ++ ['\n'] := rfl
    have hend : "\x7d)\n".toList = "\x7d)".toList ++ ['\n'] := rfl
    unfold suite
    rw [hmiddle, hend]
    simp only [List.append_assoc]
  have hfirst : LinesAvoid c
      ("describe(\"".toList ++ (identity ++ "\", () => \x7b".toList) ++ ['\n']) :=
    linesAvoid_around (decide_eq_true (Ne.symm hletter)) (by decide) hidentity (by decide)
  have hlast : LinesAvoid c ("\x7d)".toList ++ ['\n']) :=
    linesAvoid_line (by decide) fun heq => hbrace (Option.some.inj heq).symm
  rw [heq]
  exact (hfirst.append (linesAvoid_join hcases)).append hlast

theorem linesAvoid_of_mem_markupCases (hc : c ≠ ' ') {identity case : Text} (h : '\n' ∉ identity)
    (hcase : case ∈ markupCases identity) : LinesAvoid c case := by
  obtain ⟨title, htitle, rfl⟩ := List.mem_map.mp hcase
  apply linesAvoid_suiteCase hc
  · simp only [List.mem_cons, List.not_mem_nil, or_false] at htitle
    rcases htitle with rfl | rfl | rfl <;> decide
  · simp only [List.mem_append, not_or]
    exact ⟨⟨by decide, h⟩, by decide⟩

theorem linesAvoid_of_mem_plainCases (hc : c ≠ ' ') {identity case : Text} (h : '\n' ∉ identity)
    (hcase : case ∈ plainCases identity) : LinesAvoid c case := by
  simp only [plainCases, List.mem_cons, List.not_mem_nil, or_false] at hcase
  rcases hcase with rfl | rfl | rfl
  · apply linesAvoid_suiteCase hc (by decide)
    simp only [List.mem_append, not_or]
    exact ⟨⟨by decide, h⟩, by decide⟩
  · exact linesAvoid_emptyCase hc (by decide)
  · exact linesAvoid_emptyCase hc (by decide)

theorem Skeleton.linesAvoid_suiteText (k : Skeleton) (hidentity : '\n' ∉ k.identity)
    (hblank : c ≠ ' ') (hbrace : c ≠ '\x7d') (hletter : c ≠ 'd') : LinesAvoid c k.suiteText := by
  apply linesAvoid_suite hbrace hletter hidentity
  cases k.kind with
  | markup => exact fun case hcase => linesAvoid_of_mem_markupCases hblank hidentity hcase
  | plain => exact fun case hcase => linesAvoid_of_mem_plainCases hblank hidentity hcase

namespace Mock

theorem linesAvoid_fieldLine (hc : c ≠ ' ') {field : Text} (h : '\n' ∉ field) :
    LinesAvoid c (fieldLine field) := by
  have heq : fieldLine field = "    ".toList ++ (field ++ [',']) ++ ['\n'] := by
    have hend : ",\n".toList = [','] ++ ['\n'] := rfl
    unfold fieldLine
    rw [hend]
    simp only [List.append_assoc]
  rw [heq]
  exact linesAvoid_around (decide_eq_true (Ne.symm hc)) (by decide) h (by decide)

/-- What follows the first line of a mock, its final line feed included. -/
def innerText (m : Mock) : Text :=
  (interopField :: m.fieldTexts).flatMap fieldLine ++ ("\x7d))".toList ++ ['\n'])

theorem text_append_lineFeed (m : Mock) :
    m.text ++ ['\n'] =
      "jest.mock(\"".toList ++ (m.modulePath ++ "\", () => (\x7b".toList) ++ ['\n'] ++
        m.innerText := by
  have hhead : "\", () => (\x7b\n".toList = "\", () => (\x7b".toList ++ ['\n'] := rfl
  unfold text innerText
  rw [hhead]
  simp only [List.append_assoc]

theorem linesAvoid_innerText (hblank : c ≠ ' ') (hbrace : c ≠ '\x7d') {m : Mock}
    (hfields : ∀ field ∈ m.fieldTexts, '\n' ∉ field) : LinesAvoid c m.innerText := by
  apply LinesAvoid.append
  · apply linesAvoid_flatMap
    intro field hfield
    apply linesAvoid_fieldLine hblank
    rcases List.mem_cons.mp hfield with rfl | hmem
    · decide
    · exact hfields field hmem
  · exact linesAvoid_line (by decide) fun heq => hbrace (Option.some.inj heq).symm

theorem linesAvoid_text (hblank : c ≠ ' ') (hbrace : c ≠ '\x7d') (hletter : c ≠ 'j') {m : Mock}
    (hpath : '\n' ∉ m.modulePath) (hfields : ∀ field ∈ m.fieldTexts, '\n' ∉ field) :
    LinesAvoid c (m.text ++ ['\n']) := by
  have hhead : LinesAvoid c
      ("jest.mock(\"".toList ++ (m.modulePath ++ "\", () => (\x7b".toList) ++ ['\n']) :=
    linesAvoid_around (decide_eq_true (Ne.symm hletter)) (by decide) hpath (by decide)
  rw [text_append_lineFeed]
  exact hhead.append (linesAvoid_innerText hblank hbrace hfields)

end Mock

/-- Mocks whose module paths and fields stay on their lines. -/
theorem Skeleton.linesAvoid_mockText (hblank : c ≠ ' ') (hbrace : c ≠ '\x7d') (hletter : c ≠ 'j')
    {mocks : List Mock} (hpaths : ∀ m ∈ mocks, '\n' ∉ m.modulePath)
    (hfields : ∀ m ∈ mocks, ∀ field ∈ m.fieldTexts, '\n' ∉ field) :
    LinesAvoid c (mockText mocks) := by
  unfold mockText
  apply LinesAvoid.append
  · apply linesAvoid_flatMap
    intro m hm
    exact Mock.linesAvoid_text hblank hbrace hletter (hpaths m hm) (hfields m hm)
  · -- The blank line is there only when there are mocks.
    split
    · exact linesAvoid_nil
    · exact linesAvoid_lineFeed

end TestScaffold
