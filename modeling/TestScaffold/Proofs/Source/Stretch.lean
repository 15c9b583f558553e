import TestScaffold.Proofs.Source.RoundTrip

/-!
What counts as an import in any text, however ill it is written. A stretch of text counts when the
words `import` and `from` and a quotation stand in it with white space around the words; its clause
is not looked into. Reading an import at a place comes to a result exactly when a stretch begins
there.
-/

namespace TestScaffold

/-- A stretch of text that counts as an import. No quote stands before its quotation, so the
opening quote is the first one after the word `import`. -/
structure ImportStretch where
  afterImport : Written.Space
  clause : Text
  clause_ne_nil : clause ≠ []
  unquoted : ∀ c ∈ clause, isQuote c = false
  noSemicolon : ';' ∉ clause
  beforeFrom : Written.Space
  afterFrom : Written.Space
  quotation : Quotation
  opens : isQuote quotation.opening = true
  quotable : Quotable quotation.content
  closes : isQuote quotation.closing = true
  /-- The spaces and tabs after the quotation. -/
  spaces : Text
  isSpace : ∀ c ∈ spaces, (c == ' ' || c == '\t') = true
  semicolon : Bool

theorem isQuote_of_isBlank {c : Char} (h : isBlank c = true) : isQuote c = false :=
  Written.not_isQuote_of_isClauseChar
    (Written.isClauseChar_of_isNameChar (Written.isNameChar_of_isBlank h))

theorem isBlank_of_isSpace {c : Char} (h : (c == ' ' || c == '\t') = true) : isBlank c = true := by
  rcases Bool.or_eq_true_iff.mp h with hspace | htab
  · rw [beq_iff_eq.mp hspace]
    decide
  · rw [beq_iff_eq.mp htab]
    decide

namespace ImportStretch

def head (x : ImportStretch) : Text :=
  x.afterImport.text ++ x.clause ++ (x.beforeFrom.text ++ ("from".toList ++ x.afterFrom.text))

def body (x : ImportStretch) : Text :=
  Written.importWord ++ x.head ++ x.quotation.text

def ending (x : ImportStretch) : Text :=
  x.spaces ++ if x.semicolon then [';'] else []

def text (x : ImportStretch) : Text :=
  x.body ++ x.ending

/-- Whether the stretch takes all that it can of the text after its quotation: all spaces and tabs,
and one semicolon after them. -/
def EndsBefore (x : ImportStretch) (rest : Text) : Prop :=
  x.semicolon = true ∨
    ∀ c, rest.head? = some c → (c == ' ' || c == '\t') = false ∧ c ≠ ';'

def line (x : ImportStretch) : ImportLine where
  raw := x.text.trimEnd
  clause := x.clause.trim
  modulePath := x.quotation.content

variable (x : ImportStretch)

theorem body_ne_nil : x.body ≠ [] :=
  List.append_ne_nil_of_right_ne_nil _ (List.cons_ne_nil _ _)

theorem text_ne_nil : x.text ≠ [] :=
  List.append_ne_nil_of_left_ne_nil x.body_ne_nil _

theorem isQuote_of_mem_head : ∀ c ∈ x.head, isQuote c = false := by
  have hfrom : ∀ c ∈ "from".toList, isQuote c = false := List.all_iff_forall_prop.mp (by decide)
  have hspace : ∀ s : Written.Space, ∀ c ∈ s.text, isQuote c = false := fun s c hc =>
    isQuote_of_isBlank (s.blank c hc)
  simp only [head, List.forall_mem_append]
  exact ⟨⟨hspace _, x.unquoted⟩, hspace _, hfrom, hspace _⟩

theorem clauseOf?_head : clauseOf? x.head = some x.clause.trim :=
  Written.clauseOf?_append x.afterImport x.beforeFrom x.afterFrom x.clause_ne_nil x.noSemicolon

/-- The closing quote is the last character of the body, and not white space. -/
theorem last_of_body {c : Char} (h : x.body.getLast? = some c) : isBlank c = false := by
  have hlast : x.body = Written.importWord ++ x.head ++
      (x.quotation.opening :: x.quotation.content) ++ [x.quotation.closing] := by
    simp [body, Quotation.text]
  rw [hlast, List.getLast?_concat] at h
  obtain rfl := Option.some.inj h
  rw [← Bool.not_eq_true]
  intro hblank
  have hquote := x.closes
  rw [isQuote_of_isBlank hblank] at hquote
  cases hquote

/-- Spaces without a semicolon do not belong to the statement. -/
theorem trimEnd_text : x.text.trimEnd = x.body ++ if x.semicolon then x.ending else [] := by
  unfold text ending
  cases x.semicolon with
  | true =>
    have hlast : ∀ c, (x.body ++ (x.spaces ++ [';'])).getLast? = some c → isBlank c = false := by
      intro c hc
      rw [← List.append_assoc, List.getLast?_concat] at hc
      obtain rfl := Option.some.inj hc
      decide
    have htrim := Text.trimEnd_append (g := []) (fun c hc => by cases hc) hlast
    simpa using htrim
  | false =>
    have hblank : ∀ c ∈ x.spaces, isBlank c = true := fun c hc =>
      isBlank_of_isSpace (x.isSpace c hc)
    have htrim := Text.trimEnd_append hblank fun c hc => x.last_of_body hc
    simpa using htrim

theorem raw_ne_nil : x.line.raw ≠ [] := by
  have hraw : x.line.raw = x.body ++ if x.semicolon then x.ending else [] := x.trimEnd_text
  rw [hraw]
  exact List.append_ne_nil_of_left_ne_nil x.body_ne_nil _

/-- What is left of a stretch after its statement is spaces and tabs. -/
theorem exists_text_eq : ∃ tail, x.text = x.line.raw ++ tail ∧
    ∀ c ∈ tail, (c == ' ' || c == '\t') = true := by
  have hraw : x.line.raw = x.body ++ if x.semicolon then x.ending else [] := x.trimEnd_text
  rw [hraw]
  unfold text ending
  cases x.semicolon with
  | true => exact ⟨[], by simp, fun c hc => by cases hc⟩
  | false => exact ⟨x.spaces, by simp, x.isSpace⟩

theorem terminatorOf_ending {rest : Text} (h : x.EndsBefore rest) :
    terminatorOf (x.ending ++ rest) = if x.semicolon then x.ending else [] := by
  unfold ending
  cases hsemicolon : x.semicolon with
  | true =>
    have hread := Written.terminatorOf_append_cons x.isSpace (c := ';') (by decide) rest
    rw [if_pos rfl] at hread
    simpa using hread
  | false =>
    rcases h with htrue | hrest
    · rw [hsemicolon] at htrue
      cases htrue
    cases rest with
    | nil =>
      have htake : x.spaces.takeWhile (fun c => c == ' ' || c == '\t') = x.spaces :=
        List.takeWhile_eq_self_iff.mpr x.isSpace
      simp [terminatorOf, htake]
    | cons c rest =>
      obtain ⟨hspace, hne⟩ := hrest c rfl
      have hread := Written.terminatorOf_append_cons x.isSpace hspace rest
      rw [if_neg hne] at hread
      simpa using hread

/-- A stretch is read for what it says when it ends before the rest. -/
theorem read?_text_append {rest : Text} (h : x.EndsBefore rest) :
    ImportLine.read? (x.text ++ rest) = some x.line := by
  have hhead : ∀ c ∈ x.head, (!isQuote c) = true := by
    intro c hc
    rw [x.isQuote_of_mem_head c hc]
    rfl
  have hopening : (!isQuote x.quotation.opening) = false := by rw [x.opens]; rfl
  have htake : (x.head ++ (x.quotation.text ++ (x.ending ++ rest))).takeWhile (!isQuote ·) =
      x.head :=
    Text.takeWhile_append_cons hhead hopening _
  have hdrop : (x.head ++ (x.quotation.text ++ (x.ending ++ rest))).dropWhile (!isQuote ·) =
      x.quotation.text ++ (x.ending ++ rest) :=
    Text.dropWhile_append_cons hhead hopening _
  have htext : x.text ++ rest =
      Written.importWord ++ (x.head ++ (x.quotation.text ++ (x.ending ++ rest))) := by
    simp [text, body]
  rw [htext, Written.read?_importWord_append]
  simp only [htake, hdrop, x.clauseOf?_head,
    Quotation.read?_append x.opens x.quotable x.closes, x.terminatorOf_ending h]
  unfold line
  rw [x.trimEnd_text]
  rfl

end ImportStretch

/-- What follows a quotation: spaces and tabs, perhaps a semicolon, and a rest that could not have
been taken as well. -/
theorem exists_ending (t : Text) :
    ∃ (spaces rest : Text) (semicolon : Bool),
      t = spaces ++ (if semicolon then [';'] else []) ++ rest ∧
      (∀ c ∈ spaces, (c == ' ' || c == '\t') = true) ∧
      (semicolon = true ∨
        ∀ c, rest.head? = some c → (c == ' ' || c == '\t') = false ∧ c ≠ ';') := by
  let isSpace := fun c : Char => c == ' ' || c == '\t'
  have hsplit : t = t.takeWhile isSpace ++ t.dropWhile isSpace :=
    List.takeWhile_append_dropWhile.symm
  have hspaces : ∀ c ∈ t.takeWhile isSpace, isSpace c = true := fun c hc =>
    List.mem_takeWhile_imp hc
  have hstop : ∀ c, (t.dropWhile isSpace).head? = some c → isSpace c = false := by
    intro c hc
    have hnot := List.head?_dropWhile_not isSpace t
    rw [hc] at hnot
    simpa using hnot
  cases hdrop : t.dropWhile isSpace with
  | nil =>
    refine ⟨t.takeWhile isSpace, [], false, ?_, hspaces, Or.inr fun c hc => by cases hc⟩
    rw [hdrop] at hsplit
    simpa using hsplit
  | cons c rest =>
    by_cases hc : c = ';'
    · refine ⟨t.takeWhile isSpace, rest, true, ?_, hspaces, Or.inl rfl⟩
      rw [hdrop, hc] at hsplit
      simpa using hsplit
    · refine ⟨t.takeWhile isSpace, c :: rest, false, ?_, hspaces, Or.inr ?_⟩
      · rw [hdrop] at hsplit
        simpa using hsplit
      · intro d hd
        obtain rfl : c = d := Option.some.inj hd
        exact ⟨hstop c (by rw [hdrop]; rfl), hc⟩

/-- What is read as an import is a stretch that begins there. -/
theorem exists_stretch_of_read? {t : Text} {line : ImportLine}
    (h : ImportLine.read? t = some line) :
    ∃ (x : ImportStretch) (rest : Text), t = x.text ++ rest ∧ x.EndsBefore rest ∧
      line = x.line := by
  obtain ⟨u, rfl⟩ := Written.exists_of_read? h
  have hparts := h
  rw [Written.read?_importWord_append] at hparts
  split at hparts
  · rename_i clause quotation after hclause hquotation
    obtain ⟨hafter, hopens, hcloses⟩ := Quotation.eq_of_read? hquotation
    obtain ⟨afterImport, beforeFrom, afterFrom, written, hhead, hne, hsemicolon, -⟩ :=
      exists_of_clauseOf? hclause
    obtain ⟨spaces, rest, semicolon, hending, hspaces, hends⟩ := exists_ending after
    have hunquoted : ∀ c ∈ written, isQuote c = false := by
      intro c hc
      have hmem : c ∈ u.takeWhile (!isQuote ·) := by
        rw [hhead]
        exact List.mem_append_left _ (List.mem_append_right _ hc)
      simpa using List.mem_takeWhile_imp hmem
    let x : ImportStretch :=
      { afterImport, clause := written, clause_ne_nil := hne, unquoted := hunquoted,
        noSemicolon := hsemicolon, beforeFrom, afterFrom, quotation, opens := hopens,
        quotable := Quotation.quotable_of_read? hquotation, closes := hcloses,
        spaces, isSpace := hspaces, semicolon }
    have htext : Written.importWord ++ u = x.text ++ rest := by
      rw [← List.takeWhile_append_dropWhile (p := (!isQuote ·)) (l := u), hafter, hhead, hending]
      simp [x, ImportStretch.text, ImportStretch.body, ImportStretch.head, ImportStretch.ending]
    refine ⟨x, rest, htext, hends, ?_⟩
    rw [htext, x.read?_text_append hends] at h
    exact (Option.some.inj h).symm
  · cases hparts

end TestScaffold
