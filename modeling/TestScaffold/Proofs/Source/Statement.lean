import TestScaffold.Proofs.Text.Blanks
import TestScaffold.Proofs.Text.Lines
import TestScaffold.Source.Import

/-!
What is true of the statements in any source, however ill it is written. The names that an import
introduces are identifiers, and its module path could stand between quotes again.
-/

namespace TestScaffold

structure Bindings.WellNamed (b : Bindings) : Prop where
  defaultName : ∀ name, b.defaultName = some name → isIdentifier name = true
  names : ∀ name ∈ b.names, isIdentifier name = true
  wholeName : ∀ name, b.wholeName = some name → isIdentifier name = true

theorem isIdentifier_of_specifierName? {specifier name : Text}
    (h : specifierName? specifier = some name) : isIdentifier name = true := by
  unfold specifierName? at h
  split at h
  · cases h
  · split at h
    · cases h
    · split at h
      · rename_i hidentifier
        obtain rfl := Option.some.inj h
        exact hidentifier
      · cases h

namespace Bindings

theorem WellNamed.addPart {b : Bindings} (h : b.WellNamed) (part : Text) :
    (b.addPart part).WellNamed := by
  unfold Bindings.addPart
  split
  · dsimp only
    split
    · rename_i hidentifier
      refine ⟨h.defaultName, h.names, ?_⟩
      intro name hname
      obtain rfl := Option.some.inj hname
      exact hidentifier
    · exact h
  · split
    · rename_i hidentifier
      refine ⟨?_, h.names, h.wholeName⟩
      intro name hname
      obtain rfl := Option.some.inj hname
      exact hidentifier
    · exact h

theorem WellNamed.foldl_addPart {b : Bindings} (h : b.WellNamed) (parts : List Text) :
    (parts.foldl Bindings.addPart b).WellNamed := by
  induction parts generalizing b with
  | nil => exact h
  | cons part parts ih => exact ih (h.addPart part)

theorem wellNamed_ofClause? {clause : Text} {b : Bindings} (h : ofClause? clause = some b) :
    b.WellNamed := by
  unfold ofClause? at h
  dsimp only at h
  split at h
  · cases h
  · obtain rfl := Option.some.inj h
    -- The names between braces are there from the start, the other parts follow one by one.
    apply WellNamed.foldl_addPart
    refine ⟨?_, ?_, ?_⟩
    · intro name hname
      cases hname
    · intro name hname
      obtain ⟨specifier, -, hspecifier⟩ := List.mem_filterMap.mp hname
      exact isIdentifier_of_specifierName? hspecifier
    · intro name hname
      cases hname

end Bindings

/-- A text that can stand between quotes: not empty, and without a quote. -/
structure Quotable (t : Text) : Prop where
  ne_nil : t ≠ []
  unquoted : ∀ c ∈ t, isQuote c = false

theorem Quotation.quotable_of_read? {t rest : Text} {q : Quotation}
    (h : read? t = some (q, rest)) : Quotable q.content := by
  unfold read? at h
  split at h
  · cases h
  · rename_i opening t
    split at h
    · split at h
      · rename_i hvalid
        rw [Bool.and_eq_true, Bool.not_eq_true', List.isEmpty_eq_false_iff] at hvalid
        obtain ⟨-, hne⟩ := hvalid
        cases h
        refine ⟨hne, ?_⟩
        intro c hc
        simpa using List.mem_takeWhile_imp hc
      · cases h
    · cases h

/-- What is read as a quotation stands between quotes at the start of the text. -/
theorem Quotation.eq_of_read? {t rest : Text} {q : Quotation} (h : read? t = some (q, rest)) :
    t = q.text ++ rest ∧ isQuote q.opening = true ∧ isQuote q.closing = true := by
  unfold read? at h
  split at h
  · cases h
  · rename_i opening t
    split at h
    · rename_i closing rest' hdrop
      split at h
      · rename_i hvalid
        obtain ⟨hopening, -⟩ := Bool.and_eq_true_iff.mp hvalid
        cases h
        refine ⟨?_, hopening, ?_⟩
        · have hsplit := List.takeWhile_append_dropWhile (p := (!isQuote ·)) (l := t)
          rw [hdrop] at hsplit
          simp [Quotation.text, hsplit]
        · have hnot := List.head?_dropWhile_not (!isQuote ·) t
          rw [hdrop] at hnot
          simpa using hnot
      · cases h
    · cases h

/-- A quotation is read back, whatever follows it. -/
theorem Quotation.read?_append {q : Quotation} (hopening : isQuote q.opening = true)
    (hcontent : Quotable q.content) (hclosing : isQuote q.closing = true) (rest : Text) :
    read? (q.text ++ rest) = some (q, rest) := by
  obtain ⟨opening, content, closing⟩ := q
  have htext : Quotation.text ⟨opening, content, closing⟩ ++ rest =
      opening :: (content ++ closing :: rest) := by
    simp [Quotation.text]
  have hunquoted : ∀ c ∈ content, (!isQuote c) = true := by
    intro c hc
    rw [hcontent.unquoted c hc]
    rfl
  have hend : (!isQuote closing) = false := by rw [hclosing]; rfl
  have htake := Text.takeWhile_append_cons hunquoted hend rest
  have hdrop := Text.dropWhile_append_cons hunquoted hend rest
  have hnonempty : content.isEmpty = false := List.isEmpty_eq_false_iff.mpr hcontent.ne_nil
  rw [htext]
  simp only [read?, htake, hdrop, hopening, hnonempty, Bool.not_false, Bool.and_self, if_true]

theorem ImportLine.quotable_of_read? {t : Text} {line : ImportLine} (h : read? t = some line) :
    Quotable line.modulePath := by
  unfold read? at h
  split at h
  · cases h
  · dsimp only at h
    split at h
    · rename_i hquotation
      obtain rfl := Option.some.inj h
      exact Quotation.quotable_of_read? hquotation
    · cases h

/-- What is scanned in a source, whatever stands there, has a module path and names to be used
in a test as they are. -/
theorem ScanSettings.mem_scan {s : ScanSettings} {t : Text} {i : ImportStatement}
    (h : i ∈ s.scan t) : Quotable i.modulePath ∧ i.bindings.WellNamed := by
  -- What was scanned before does not matter: a find is a reading at its own position.
  obtain ⟨line, hline, hstatement⟩ := List.mem_filterMap.mp h
  obtain ⟨p, n, hfind⟩ := Text.mem_finds hline
  have hread : ∃ t, ImportLine.read? t = some line := by
    split at hfind
    · obtain ⟨found, hfound, hpair⟩ := Option.map_eq_some_iff.mp hfind
      obtain rfl := (Prod.mk.inj hpair).1
      exact ⟨p.rest, hfound⟩
    · cases hfind
  obtain ⟨t, hread⟩ := hread
  unfold statement? at hstatement
  split at hstatement
  · cases hstatement
  · obtain ⟨b, hb, rfl⟩ := Option.map_eq_some_iff.mp hstatement
    exact ⟨ImportLine.quotable_of_read? hread, Bindings.wellNamed_ofClause? hb⟩

end TestScaffold
