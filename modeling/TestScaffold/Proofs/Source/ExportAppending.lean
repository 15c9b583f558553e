import TestScaffold.Proofs.Source.ExportList

/-!
Exports of a text that goes on. Where the text ended a line feed follows, which belongs to no word,
so every form of an export still stands between its word boundaries. A list of exports ends at its
first closing brace; what an open list of the text comes to hold stands behind all closed ones. So
what was found is still found, and a classification can only gain.
-/

namespace TestScaffold

/-- A line feed bounds words as the end of a text does. -/
theorem isWordBoundary_append_lineFeed (before : Option Char) (u b : Text) :
    isWordBoundary before (u ++ '\n' :: b).head? = isWordBoundary before u.head? := by
  cases u with
  | nil =>
    have hfeed : isWordChar '\n' = false := by decide +kernel
    simp [isWordBoundary, hfeed]
  | cons c u => rfl

/-- A form stands where it stood when a line is added to the text. -/
theorem Text.Shows.append {t : Text} {form : Language Char} (h : t.Shows form) (b : Text) :
    (t ++ '\n' :: b).Shows form := by
  obtain ⟨front, w, back, rfl, hw, hstart, hend⟩ := h
  refine ⟨front, w, back ++ '\n' :: b, ?_, hw, ?_, ?_⟩
  · simp only [List.append_assoc]
  · rw [← List.append_assoc, isWordBoundary_append_lineFeed]
    exact hstart
  · rw [isWordBoundary_append_lineFeed]
    exact hend

section

variable {before : Option Char} {front t more body rest : Text} {bodies : List Text}

theorem ExportListAt.closed (h : ExportListAt before t body rest) : '}' ∈ t := by
  obtain ⟨-, -, gap, -, rfl⟩ := h
  simp

theorem ExportListAt.append (h : ExportListAt before t body rest) (more : Text) :
    ExportListAt before (t ++ more) body (rest ++ more) := by
  obtain ⟨hboundary, hbody, gap, hgap, rfl⟩ := h
  refine ⟨hboundary, hbody, gap, hgap, ?_⟩
  simp only [List.append_assoc, List.cons_append]

/-- A list that begins in a text with a closing brace ends in it. -/
theorem ExportListAt.of_append (h : ExportListAt before (t ++ more) body rest)
    (hclosed : '}' ∈ t) : ∃ rest', ExportListAt before t body rest' := by
  obtain ⟨hboundary, hbody, gap, hgap, hlist⟩ := h
  let opened := "export".toList ++ (gap ++ '{' :: body)
  have hopened : '}' ∉ opened := by
    have hblank : '}' ∉ gap := by
      intro hmem
      exact absurd (hgap _ hmem) (by decide)
    simp only [opened, List.mem_append, List.mem_cons, not_or]
    exact ⟨by decide, hblank, by decide, hbody⟩
  obtain ⟨first, after, rfl, hfirst⟩ := List.eq_append_cons_of_mem hclosed
  -- The first closing brace of the whole is that of the text.
  have hwhole : first ++ '}' :: (after ++ more) = opened ++ '}' :: rest := by
    simpa [opened] using hlist
  have heq : first = opened := by
    calc first = (first ++ '}' :: (after ++ more)).takeWhile (· ≠ '}') :=
          (takeWhile_body hfirst _).symm
      _ = (opened ++ '}' :: rest).takeWhile (· ≠ '}') := by rw [hwhole]
      _ = opened := takeWhile_body hopened _
  refine ⟨after, ?_, hbody, gap, hgap, ?_⟩
  · rw [List.append_assoc, heq] at hboundary
    rw [heq]
    exact hboundary
  · rw [heq]
    simp only [opened, List.append_assoc, List.cons_append]

/-- In front of a closing brace no list begins that did not begin before. -/
theorem NoExportListIn.append (h : NoExportListIn before front t) (hclosed : '}' ∈ t)
    (more : Text) : NoExportListIn before front (t ++ more) := by
  intro a c b hfront body rest hlist
  have hthere : '}' ∈ c :: (b ++ t) :=
    List.mem_cons_of_mem c (List.mem_append_right b hclosed)
  have hwhole : c :: (b ++ (t ++ more)) = c :: (b ++ t) ++ more := by
    simp only [List.cons_append, List.append_assoc]
  rw [hwhole] at hlist
  obtain ⟨rest', hbefore⟩ := hlist.of_append hthere
  exact h a c b hfront body rest' hbefore

/-- The lists of a text are the first ones of the text that goes on. -/
theorem ExportLists.exists_append (h : ExportLists before t bodies) (more : Text) :
    ∃ others, ExportLists before (t ++ more) (bodies ++ others) := by
  induction h with
  | none _ => exact exists_exportLists _ _
  | @first before front u body rest bodies hnone hlist _ ih =>
    obtain ⟨others, hothers⟩ := ih
    refine ⟨others, ?_⟩
    rw [List.append_assoc]
    exact .first (hnone.append hlist.closed more) (hlist.append more) hothers

end

/-- The specifiers of a text stand in front of those that are added to it. -/
theorem exportSpecifiers_append (t more : Text) :
    exportSpecifiers t <+: exportSpecifiers (t ++ more) := by
  have hlists : ExportLists none t (t.finds exportBlock?) := exportLists_iff.mpr rfl
  obtain ⟨others, hothers⟩ := hlists.exists_append more
  unfold exportSpecifiers
  rw [exportLists_iff.mp hothers, List.flatMap_append]
  exact List.prefix_append _ _

/-- What holds of a specifier of a text holds of one when the text goes on. -/
theorem any_exportSpecifiers_append {P : List Text → Bool} {t : Text}
    (h : (exportSpecifiers t).any P = true) (more : Text) :
    (exportSpecifiers (t ++ more)).any P = true := by
  rw [List.any_eq_true] at h ⊢
  obtain ⟨words, hwords, hP⟩ := h
  exact ⟨words, (exportSpecifiers_append t more).subset hwords, hP⟩

theorem isDefaultExport_append {t name : Text} (h : isDefaultExport t name = true) (b : Text) :
    isDefaultExport (t ++ '\n' :: b) name = true := by
  unfold isDefaultExport at h ⊢
  rw [Bool.or_eq_true, defaultExport_iff] at h ⊢
  rcases h with hform | hlisted
  · exact Or.inl (hform.append b)
  · exact Or.inr (any_exportSpecifiers_append hlisted _)

theorem isNamedExport_append {t name : Text} (h : isNamedExport t name = true) (b : Text) :
    isNamedExport (t ++ '\n' :: b) name = true := by
  unfold isNamedExport at h ⊢
  rw [Bool.or_eq_true, namedExport_iff] at h ⊢
  rcases h with hform | hlisted
  · exact Or.inl (hform.append b)
  · exact Or.inr (any_exportSpecifiers_append hlisted _)

/-- How much a classification has found: nothing, a named export, or a default export. -/
def Classified.weight : Classified ExportStyle → Nat
  | .fallback _ => 0
  | .matched .named => 1
  | .matched .default => 2

/-- A classification weighs as much as the best export that the text has. -/
theorem weight_classifyExport (t name : Text) :
    (classifyExport t name).weight =
      if isDefaultExport t name then 2 else if isNamedExport t name then 1 else 0 := by
  unfold classifyExport
  split
  · rfl
  · split <;> rfl

/-- Appending a line never takes anything from a classification, whatever the name and however the
text ends: it weighs as much as before or more, and a default export stays one. -/
theorem classifyExport_append_le (a b name : Text) :
    (classifyExport a name).weight ≤ (classifyExport (a ++ '\n' :: b) name).weight ∧
      (classifyExport a name = .matched .default →
        classifyExport (a ++ '\n' :: b) name = .matched .default) := by
  have hdefault : isDefaultExport a name = true → isDefaultExport (a ++ '\n' :: b) name = true :=
    fun h => isDefaultExport_append h b
  have hnamed : isNamedExport a name = true → isNamedExport (a ++ '\n' :: b) name = true :=
    fun h => isNamedExport_append h b
  constructor
  · rw [weight_classifyExport, weight_classifyExport]
    by_cases hfirst : isDefaultExport a name = true
    · rw [if_pos hfirst, if_pos (hdefault hfirst)]
    · rw [if_neg hfirst]
      by_cases hsecond : isNamedExport a name = true
      · -- A named export is outweighed by a default export alone.
        rw [if_pos hsecond, if_pos (hnamed hsecond)]
        split <;> omega
      · rw [if_neg hsecond]
        omega
  · rw [classifyExport_eq_default_iff, classifyExport_eq_default_iff]
    exact hdefault

end TestScaffold
