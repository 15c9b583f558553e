import TestScaffold.Proofs.Source.ExportForm
import TestScaffold.Proofs.Source.Stretch
import TestScaffold.Proofs.Text.LineEndings

/-!
Imports and line endings. An import is cut at words, quotes, commas and braces, and its names are
looked for between white space; so each of its readers takes with carriage returns what it takes
without. One count is the exception: the white space between `import` and `from` may be a blank
clause, if it is long enough, and carriage returns make it longer. Such imports without a clause are
left out here.
-/

namespace TestScaffold

/-- White space is read up to a text that begins with something else. -/
theorem Written.exists_space_append_iff {t : Text} {P : Text → Prop}
    (hP : ∀ u, P u → u.head?.any isBlank = false) :
    (∃ (space : Space) (u : Text), t = space.text ++ u ∧ P u) ↔
      t.head?.any isBlank = true ∧ P (t.dropWhile isBlank) := by
  constructor
  · rintro ⟨space, u, rfl, hu⟩
    refine ⟨?_, ?_⟩
    · rw [List.head?_append_of_ne_nil _ space.ne_nil]
      exact space.any_head?
    · have hdrop : (space.text ++ u).dropWhile isBlank = u := by
        rw [List.dropWhile_append_of_pos space.blank]
        cases u with
        | nil => rfl
        | cons c u => exact List.dropWhile_cons_of_neg (Bool.not_eq_true _ ▸ hP _ hu)
      rw [hdrop]
      exact hu
  · rintro ⟨hfirst, hrest⟩
    have hne : t.takeWhile isBlank ≠ [] := by
      cases t with
      | nil => cases hfirst
      | cons c t =>
        have hc : isBlank c = true := hfirst
        rw [List.takeWhile_cons, if_pos hc]
        exact List.cons_ne_nil _ _
    exact ⟨⟨⟨t.takeWhile isBlank, fun c hc => List.mem_takeWhile_imp hc⟩, hne⟩, t.dropWhile isBlank,
      List.takeWhile_append_dropWhile.symm, hrest⟩

namespace Text

/-- There is white space alone before `from`, and `from` stands before a quotation. -/
def StartsClauseless (t : Text) : Prop :=
  ∃ (beforeFrom : Written.Space) (u : Text), t = beforeFrom.text ++ u ∧
    ∃ v, u = "from".toList ++ v ∧
      ∃ (afterFrom : Written.Space) (rest : Text), v = afterFrom.text ++ rest ∧
        rest.head?.any isQuote = true

/-- A line of the text begins with an import that has no clause: there is white space alone between
`import` and the `from` before its quotation. -/
def HasClauselessImport (t : Text) : Prop :=
  ∃ front back : Text, t = front ++ ("import".toList ++ back) ∧
    (front = [] ∨ front.getLast? = some '\n') ∧ back.StartsClauseless

theorem startsClauseless_iff {t : Text} : t.StartsClauseless ↔ t.head?.any isBlank = true ∧
    (after? "from".toList (t.dropWhile isBlank)).any
      (fun v => v.head?.any isBlank && (v.dropWhile isBlank).head?.any isQuote) = true := by
  have hquote (rest : Text) (h : rest.head?.any isQuote = true) :
      rest.head?.any isBlank = false := by
    obtain ⟨c, hc, hquote⟩ := (Option.any_eq_true _ _).mp h
    rw [hc, Option.any_some, ← Bool.not_eq_true]
    intro hblank
    rw [isQuote_of_isBlank hblank] at hquote
    cases hquote
  have hfrom (u : Text) (h : ∃ v, u = "from".toList ++ v ∧
      ∃ (afterFrom : Written.Space) (rest : Text), v = afterFrom.text ++ rest ∧
        rest.head?.any isQuote = true) : u.head?.any isBlank = false := by
    obtain ⟨v, rfl, -⟩ := h
    have hf : isBlank 'f' = false := by decide
    exact hf
  unfold StartsClauseless
  rw [Written.exists_space_append_iff hfrom]
  apply and_congr_right
  intro _
  rw [Option.any_eq_true]
  simp only [Written.exists_space_append_iff hquote, Bool.and_eq_true, after?_eq_some_iff]

instance (t : Text) : Decidable t.StartsClauseless :=
  decidable_of_iff _ startsClauseless_iff.symm

/-- Whether such a line starts here. -/
def clauselessHere (p : Position) : Bool :=
  p.isLineStart && (after? "import".toList p.rest).any fun back => decide back.StartsClauseless

instance (t : Text) : Decidable t.HasClauselessImport :=
  decidable_of_iff (t.holdsSomewhere clauselessHere = true) <| by
    have hhere (front rest : Text) : clauselessHere ⟨front.getLast?, rest⟩ = true ↔
        (front = [] ∨ front.getLast? = some '\n') ∧
          ∃ back, rest = "import".toList ++ back ∧ back.StartsClauseless := by
      simp [clauselessHere, Position.isLineStart, Option.any_eq_true, after?_eq_some_iff]
    rw [holdsSomewhere_iff]
    simp only [hhere]
    constructor
    · rintro ⟨front, rest, rfl, hline, back, rfl, hback⟩
      exact ⟨front, back, rfl, hline, hback⟩
    · rintro ⟨front, back, rfl, hline, hback⟩
      exact ⟨front, _, rfl, hline, back, rfl, hback⟩

end Text

namespace Written

def Space.withReturns (s : Space) : Space where
  text := s.text.withReturns
  blank := (Text.forall_mem_withReturns Text.isBlank_return).mpr s.blank
  ne_nil := Text.withReturns_ne_nil_iff.mpr s.ne_nil

/-- Space of which the carriage returns are left out. -/
theorem Space.exists_of_withReturns {t : Text} {s : Space} (h : t.withReturns = s.text) :
    ∃ space : Space, space.text = t := by
  have hblank : ∀ c ∈ t, isBlank c = true := by
    rw [← Text.forall_mem_withReturns Text.isBlank_return, h]
    exact s.blank
  have hne : t ≠ [] := by
    rw [← Text.withReturns_ne_nil_iff, h]
    exact s.ne_nil
  exact ⟨⟨⟨t, hblank⟩, hne⟩, rfl⟩

/-- A text between blanks has space on both sides of what is left when it is trimmed. -/
theorem exists_space_trim {t : Text} (hfirst : t.head?.any isBlank = true)
    (hlast : t.getLast?.any isBlank = true) (hne : t.trim ≠ []) :
    ∃ a b : Space, t = a.text ++ t.trim ++ b.text := by
  obtain ⟨a, b, ht, ha, hb⟩ := Text.exists_trim_eq t
  obtain ⟨hsolid, hbegins, hends⟩ := Text.solid_trim hne
  obtain ⟨c, hc, hcblank⟩ := (Option.any_eq_true _ _).mp hfirst
  obtain ⟨d, hd, hdblank⟩ := (Option.any_eq_true _ _).mp hlast
  -- Without them the text would begin or end in something else.
  have hane : a ≠ [] := by
    rintro rfl
    rw [ht, List.nil_append, List.head?_append_of_ne_nil _ hne] at hc
    rw [hbegins c hc] at hcblank
    cases hcblank
  have hbne : b ≠ [] := by
    rintro rfl
    rw [ht, List.append_nil, List.getLast?_append_of_ne_nil _ hne] at hd
    rw [hends d hd] at hdblank
    cases hdblank
  exact ⟨⟨⟨a, ha⟩, hane⟩, ⟨⟨b, hb⟩, hbne⟩, ht⟩

end Written

/-- A clause stands in both texts or in neither, unless there is white space alone in its place. -/
theorem clauseOf?_withReturns {head : Text} (hclause : ∀ beforeFrom afterFrom : Written.Space,
      head ≠ beforeFrom.text ++ ("from".toList ++ afterFrom.text)) :
    clauseOf? head.withReturns = (clauseOf? head).map Text.withReturns := by
  have hfrom : Text.withReturns "from".toList = "from".toList :=
    Text.withReturns_of_not_mem (by decide)
  cases hread : clauseOf? head with
  | some clause =>
    obtain ⟨afterImport, beforeFrom, afterFrom, written, rfl, hne, hsemicolon, rfl⟩ :=
      exists_of_clauseOf? hread
    have hsemicolon' : ';' ∉ written.withReturns := by
      rw [Text.mem_withReturns_iff (by decide)]
      exact hsemicolon
    have hwritten := Written.clauseOf?_append afterImport.withReturns beforeFrom.withReturns
      afterFrom.withReturns (Text.withReturns_ne_nil_iff.mpr hne) hsemicolon'
    simp only [Text.withReturns_append, hfrom, Option.map_some, ← Text.trim_withReturns]
    exact hwritten
  | none =>
    rw [Option.map_none, Option.eq_none_iff_forall_ne_some]
    intro clause hclause'
    obtain ⟨afterImport, beforeFrom, afterFrom, written, hhead, -, hsemicolon, -⟩ :=
      exists_of_clauseOf? hclause'
    -- `from` stands in the text as well, and what is before it is no white space alone.
    rw [← List.append_assoc] at hhead
    obtain ⟨middle, u, rfl, hmiddle, hu⟩ :=
      Text.exists_of_withReturns_eq_append hhead (fun h => absurd (Option.some.inj h.2) (by decide))
    obtain ⟨word, after, rfl, hword, hafter⟩ :=
      Text.exists_of_withReturns_eq_append hu (fun h => absurd (Option.some.inj h.1) (by decide))
    obtain rfl := (Text.withReturns_eq_iff (by decide)).mp hword
    obtain ⟨afterFrom', rfl⟩ := Written.Space.exists_of_withReturns hafter
    have hfirst : middle.head?.any isBlank = true := by
      rw [← Text.any_head?_withReturns Text.isBlank_return, hmiddle, List.append_assoc,
        List.head?_append_of_ne_nil _ afterImport.ne_nil]
      exact afterImport.any_head?
    have hlast : middle.getLast?.any isBlank = true := by
      rw [← Text.getLast?_withReturns, hmiddle, List.getLast?_append_of_ne_nil _ beforeFrom.ne_nil]
      exact beforeFrom.any_getLast?
    have hplain : ';' ∉ middle := by
      have hnone (s : Written.Space) : ';' ∉ s.text :=
        Written.not_mem_of_forall s.blank (by decide)
      rw [← Text.mem_withReturns_iff (by decide), hmiddle]
      simp only [List.mem_append, not_or]
      exact ⟨⟨hnone afterImport, hsemicolon⟩, hnone beforeFrom⟩
    by_cases hblank : middle.trim = []
    · have hne : middle ≠ [] := by
        rintro rfl
        cases hfirst
      exact hclause ⟨⟨middle, Text.trim_eq_nil_iff.mp hblank⟩, hne⟩ afterFrom' rfl
    · obtain ⟨a, b, hsplit⟩ := Written.exists_space_trim hfirst hlast hblank
      have hplain' : ';' ∉ middle.trim := by
        rw [hsplit] at hplain
        simp only [List.mem_append, not_or] at hplain
        exact hplain.1.2
      rw [hsplit, List.append_assoc, Written.clauseOf?_append a b afterFrom' hblank hplain'] at hread
      cases hread

theorem quotable_withReturns_iff {t : Text} : Quotable t.withReturns ↔ Quotable t := by
  have hquote : (!isQuote '\r') = (!isQuote '\n') := by decide
  have hchars := Text.forall_mem_withReturns (P := (!isQuote ·)) hquote (t := t)
  simp only [Bool.not_eq_true'] at hchars
  constructor
  · rintro ⟨hne, hunquoted⟩
    exact ⟨Text.withReturns_ne_nil_iff.mp hne, hchars.mp hunquoted⟩
  · rintro ⟨hne, hunquoted⟩
    exact ⟨Text.withReturns_ne_nil_iff.mpr hne, hchars.mpr hunquoted⟩

theorem ne_of_isQuote {c d : Char} (hc : isQuote c = true) (hd : isQuote d = false) : c ≠ d := by
  rintro rfl
  rw [hc] at hd
  cases hd

/-- Only the content of a quotation can have line endings. -/
def Quotation.withReturns (q : Quotation) : Quotation :=
  { q with content := q.content.withReturns }

theorem Quotation.text_withReturns {q : Quotation} (hopening : isQuote q.opening = true)
    (hclosing : isQuote q.closing = true) : q.text.withReturns = q.withReturns.text := by
  have hfeed : isQuote '\n' = false := by decide
  unfold text withReturns
  rw [Text.withReturns_cons (ne_of_isQuote hopening hfeed), Text.withReturns_append,
    Text.withReturns_cons (ne_of_isQuote hclosing hfeed)]
  rfl

theorem Quotation.read?_withReturns (t : Text) :
    read? t.withReturns = (read? t).map fun found => (found.1.withReturns, found.2.withReturns) := by
  cases hread : read? t with
  | some found =>
    obtain ⟨q, rest⟩ := found
    obtain ⟨rfl, hopening, hclosing⟩ := eq_of_read? hread
    have hcontent : Quotable q.withReturns.content :=
      quotable_withReturns_iff.mpr (quotable_of_read? hread)
    rw [Text.withReturns_append, text_withReturns hopening hclosing]
    exact read?_append (q := q.withReturns) hopening hcontent hclosing _
  | none =>
    rw [Option.map_none, Option.eq_none_iff_forall_ne_some]
    rintro ⟨⟨opening, content, closing⟩, rest⟩ hread'
    obtain ⟨ht, hopening, hclosing⟩ := eq_of_read? hread'
    have hcontent := quotable_of_read? hread'
    have hwhole : t.withReturns = opening :: (content ++ closing :: rest) := by
      rw [ht]
      simp [text]
    -- Each quote is a cut, for it is neither of the two characters of a line ending.
    obtain ⟨u, rfl, hu⟩ :=
      Text.exists_of_withReturns_eq_cons hwhole (ne_of_isQuote hopening (by decide))
    obtain ⟨content, v, rfl, rfl, hv⟩ := Text.exists_of_withReturns_eq_append hu
      (fun h => ne_of_isQuote hclosing (by decide) (Option.some.inj h.2))
    obtain ⟨rest, rfl, rfl⟩ :=
      Text.exists_of_withReturns_eq_cons hv (ne_of_isQuote hclosing (by decide))
    have hsame := read?_append (q := ⟨opening, content, closing⟩) hopening
      (quotable_withReturns_iff.mp hcontent) hclosing rest
    have htext : text ⟨opening, content, closing⟩ ++ rest =
        opening :: (content ++ closing :: rest) := by
      simp [text]
    rw [htext, hread] at hsame
    cases hsame

theorem lineFeed_not_mem_terminatorOf (t : Text) : '\n' ∉ terminatorOf t := by
  unfold terminatorOf
  dsimp only
  split
  · rw [List.mem_append, not_or]
    refine ⟨?_, by decide⟩
    intro hfeed
    exact absurd (List.mem_takeWhile_imp hfeed) (by decide)
  · exact List.not_mem_nil

theorem terminatorOf_withReturns (t : Text) : terminatorOf t.withReturns = terminatorOf t := by
  let isSpace := fun c : Char => c == ' ' || c == '\t'
  have hspace : isSpace '\r' = isSpace '\n' := by decide
  have hspaces : Text.withReturns (t.takeWhile isSpace) = t.takeWhile isSpace := by
    apply Text.withReturns_of_not_mem
    intro hfeed
    exact absurd (List.mem_takeWhile_imp hfeed) (by decide)
  have hterminator (u : Text) : terminatorOf u =
      if (u.dropWhile isSpace).head?.any (· == ';') then u.takeWhile isSpace ++ [';'] else [] := by
    have hdrop : u.drop (u.takeWhile isSpace).length = u.dropWhile isSpace := by
      nth_rewrite 2 [← List.takeWhile_append_dropWhile (p := isSpace) (l := u)]
      exact List.drop_left
    have hsemicolon (c? : Option Char) : c? = some ';' ↔ c?.any (· == ';') = true := by
      cases c? <;> simp
    rw [← hdrop]
    exact if_congr (hsemicolon _) rfl rfl
  rw [hterminator, hterminator, Text.dropWhile_withReturns hspace,
    Text.takeWhile_withReturns hspace, hspaces, Text.any_head?_withReturns (by decide)]

namespace ImportLine

def withReturns (line : ImportLine) : ImportLine where
  raw := line.raw.withReturns
  clause := line.clause.withReturns
  modulePath := line.modulePath.withReturns

/-- The same import is read, unless it has no clause. -/
theorem read?_withReturns {t : Text}
    (h : ∀ back, t = Written.importWord ++ back → ¬ back.StartsClauseless) :
    read? t.withReturns = (read? t).map withReturns := by
  have hword : Text.withReturns Written.importWord = Written.importWord :=
    Text.withReturns_of_not_mem (by decide)
  have hquote : (!isQuote '\r') = (!isQuote '\n') := by decide
  cases hafter : Text.after? "import".toList t with
  | none =>
    unfold read?
    rw [Text.after?_withReturns (by decide) (by decide), hafter]
    rfl
  | some back =>
    obtain rfl : t = Written.importWord ++ back := Text.after?_eq_some_iff.mp hafter
    rw [Text.withReturns_append, hword, Written.read?_importWord_append,
      Written.read?_importWord_append, Text.takeWhile_withReturns (P := (!isQuote ·)) hquote,
      Text.dropWhile_withReturns (P := (!isQuote ·)) hquote, Quotation.read?_withReturns]
    cases hquotation : Quotation.read? (back.dropWhile (!isQuote ·)) with
    | none =>
      -- Without a quotation there is no import, whatever stands before it.
      cases clauseOf? (back.takeWhile (!isQuote ·)) <;>
        cases clauseOf? (Text.withReturns (back.takeWhile (!isQuote ·))) <;> rfl
    | some found =>
      obtain ⟨quotation, rest⟩ := found
      obtain ⟨hrest, hopening, hclosing⟩ := Quotation.eq_of_read? hquotation
      have hclause (beforeFrom afterFrom : Written.Space) :
          back.takeWhile (!isQuote ·) ≠
            beforeFrom.text ++ ("from".toList ++ afterFrom.text) := by
        intro hhead
        have hback : back = beforeFrom.text ++
            ("from".toList ++ (afterFrom.text ++ (quotation.text ++ rest))) := by
          calc back = back.takeWhile (!isQuote ·) ++ back.dropWhile (!isQuote ·) :=
                List.takeWhile_append_dropWhile.symm
            _ = _ := by rw [hhead, hrest, List.append_assoc, List.append_assoc]
        exact h back rfl ⟨beforeFrom, _, hback, _, rfl, afterFrom, _, rfl, hopening⟩
      rw [clauseOf?_withReturns hclause]
      cases clauseOf? (back.takeWhile (!isQuote ·)) with
      | none => rfl
      | some clause =>
        have hraw : Written.importWord ++ Text.withReturns (back.takeWhile (!isQuote ·)) ++
            quotation.withReturns.text ++ terminatorOf rest.withReturns =
              Text.withReturns (Written.importWord ++ back.takeWhile (!isQuote ·) ++
                quotation.text ++ terminatorOf rest) := by
          rw [Text.withReturns_append, Text.withReturns_append, Text.withReturns_append, hword,
            Quotation.text_withReturns hopening hclosing, terminatorOf_withReturns,
            Text.withReturns_of_not_mem (lineFeed_not_mem_terminatorOf rest)]
        exact congrArg (fun raw => some (ImportLine.mk raw (Text.withReturns clause)
          quotation.content.withReturns)) hraw

end ImportLine

/-- What is read at a place of a text is read there with carriage returns as well. -/
theorem importAt_withReturns {t front back : Text} (ht : t = front ++ back)
    (h : ¬ t.HasClauselessImport) :
    importAt ⟨front.getLast?, back.withReturns⟩ = (importAt ⟨front.getLast?, back⟩).map
      fun found => (found.1.withReturns, (Text.withReturns (back.take found.2)).length) := by
  have hstart (u : Text) : Position.isLineStart ⟨front.getLast?, u⟩ = true ↔
      front = [] ∨ front.getLast? = some '\n' := by
    simp [Position.isLineStart]
  unfold importAt
  by_cases hline : front = [] ∨ front.getLast? = some '\n'
  · have hclause : ∀ u, back = Written.importWord ++ u → ¬ u.StartsClauseless := by
      rintro u rfl hclauseless
      exact h ⟨front, u, ht, hline, hclauseless⟩
    rw [if_pos ((hstart _).mpr hline), if_pos ((hstart _).mpr hline),
      ImportLine.read?_withReturns hclause]
    cases hread : ImportLine.read? back with
    | none => rfl
    | some line =>
      -- The statement is what stands at the place.
      obtain ⟨x, rest, rfl, -, rfl⟩ := exists_stretch_of_read? hread
      obtain ⟨tail, hraw, -⟩ := x.exists_text_eq
      have htake : (x.text ++ rest).take x.line.raw.length = x.line.raw := by
        rw [hraw, List.append_assoc, List.take_left]
      simp only [Option.map_some, htake]
      rfl
  · rw [if_neg (mt (hstart _).mp hline), if_neg (mt (hstart _).mp hline)]
    rfl

/-- Line endings add no imports and take none away. -/
theorem importLines_withReturns {t : Text} (h : ¬ t.HasClauselessImport) :
    importLines t.withReturns = (importLines t).map ImportLine.withReturns := by
  rw [importLines_eq, importLines_eq]
  exact Text.finds_withReturns (fun _ _ => importAt_of_ne (by decide) _ _)
    fun _ _ ht => importAt_withReturns ht h

/-- A specifier is read word by word. -/
theorem specifierName?_withReturns (specifier : Text) :
    specifierName? specifier.withReturns = specifierName? specifier := by
  unfold specifierName?
  rw [Text.words_withReturns]

/-- A clause is cut at its braces. -/
theorem cutBraces?_withReturns (clause : Text) : cutBraces? clause.withReturns =
    (cutBraces? clause).map fun parts => (parts.1.withReturns, parts.2.withReturns) := by
  have hopen : decide ('\r' ≠ '\x7b') = decide ('\n' ≠ '\x7b') := by decide
  have hclose : decide ('\r' ≠ '\x7d') = decide ('\n' ≠ '\x7d') := by decide
  unfold cutBraces?
  rw [Text.dropWhile_withReturns (P := (· ≠ '{')) hopen,
    Text.takeWhile_withReturns (P := (· ≠ '{')) hopen]
  cases hdrop : clause.dropWhile (· ≠ '{') with
  | nil => rfl
  | cons c body =>
    have hc : c = '{' := by
      have hnot := List.head?_dropWhile_not (· ≠ '{') clause
      rw [hdrop] at hnot
      simpa using hnot
    have hafter : Text.withReturns ((body.dropWhile (· ≠ '}')).drop 1) =
        (Text.withReturns (body.dropWhile (· ≠ '}'))).drop 1 := by
      apply Text.withReturns_drop_one
      intro hfeed
      have hnot := List.head?_dropWhile_not (· ≠ '}') body
      rw [hfeed] at hnot
      exact absurd hnot (by decide)
    rw [hc, Text.withReturns_cons (by decide)]
    simp only [Option.map_some, Text.withReturns_append, hafter,
      Text.takeWhile_withReturns (P := (· ≠ '}')) hclose,
      Text.dropWhile_withReturns (P := (· ≠ '}')) hclose]

namespace Bindings

theorem addPart_eq_of_head? (b : Bindings) {part : Text}
    (hstar : part.head?.any (· == '*') = false) :
    b.addPart part = if isIdentifier part then { b with defaultName := some part } else b := by
  unfold addPart
  split
  · cases hstar
  · rfl

/-- A name has no line endings, so the same names are added. -/
theorem addPart_withReturns (b : Bindings) (part : Text) :
    b.addPart part.withReturns = b.addPart part := by
  have hstar := Text.any_head?_withReturns (P := (· == '*')) (by decide) part
  have hname (name : Text) (next : Text → Bindings) :
      (if isIdentifier name.withReturns then next name.withReturns else b) =
        if isIdentifier name then next name else b := by
    rw [Text.isIdentifier_withReturns]
    split
    · rename_i hidentifier
      rw [Text.withReturns_of_not_mem (not_mem_of_isIdentifier hidentifier)]
    · rfl
  cases hhead : part.head?.any (· == '*') with
  | false =>
    rw [hhead] at hstar
    rw [addPart_eq_of_head? b hhead, addPart_eq_of_head? b hstar]
    exact hname part fun name => { b with defaultName := some name }
  | true =>
    obtain ⟨star, rfl⟩ : ∃ star, part = '*' :: star := by
      obtain ⟨c, hc, heq⟩ := (Option.any_eq_true _ _).mp hhead
      obtain rfl := beq_iff_eq.mp heq
      exact List.head?_eq_some_iff.mp hc
    have hwhole : ((Text.after? "as".toList (Text.withReturns star).trim).map Text.trim).getD [] =
        Text.withReturns (((Text.after? "as".toList (Text.trim star)).map Text.trim).getD []) := by
      rw [Text.trim_withReturns, Text.after?_withReturns (by decide) (by decide), Option.map_map]
      cases Text.after? "as".toList (Text.trim star) with
      | none => rfl
      | some name => exact Text.trim_withReturns name
    rw [Text.withReturns_cons (by decide)]
    unfold addPart
    simp only [hwhole]
    exact hname _ fun name => { b with wholeName := some name }

theorem isTypeClause_eq (clause : Text) : isTypeClause clause =
    (Text.after? typeKeyword clause).any fun rest =>
      rest.head?.any fun c => isBlank c || c == '{' := by
  unfold isTypeClause
  cases Text.after? typeKeyword clause with
  | none => rfl
  | some rest => cases rest <;> rfl

theorem isTypeClause_withReturns (clause : Text) :
    isTypeClause clause.withReturns = isTypeClause clause := by
  have hends : (isBlank '\r' || '\r' == '{') = (isBlank '\n' || '\n' == '{') := by decide
  rw [isTypeClause_eq, isTypeClause_eq, Text.after?_withReturns (by decide) (by decide),
    Option.any_map]
  congr 1
  funext rest
  exact Text.any_head?_withReturns (P := fun c => isBlank c || c == '{') hends rest

/-- Line endings make no difference to what a clause says. -/
theorem ofClause?_withReturns (clause : Text) :
    ofClause? clause.withReturns = ofClause? clause := by
  have hnames (inner : Text) : (Text.fields inner.withReturns ',').filterMap specifierName? =
      (Text.fields inner ',').filterMap specifierName? := by
    rw [Text.fields_withReturns (by decide) (by decide), List.filterMap_map]
    exact List.filterMap_congr fun part _ => specifierName?_withReturns part
  have hparts (b : Bindings) (outer : Text) :
      (((Text.fields outer.withReturns ',').map Text.trim).filter (· ≠ [])).foldl addPart b =
        (((Text.fields outer ',').map Text.trim).filter (· ≠ [])).foldl addPart b := by
    have htrim : (Text.fields outer.withReturns ',').map Text.trim =
        ((Text.fields outer ',').map Text.trim).map Text.withReturns := by
      rw [Text.fields_withReturns (by decide) (by decide), List.map_map, List.map_map]
      exact List.map_congr_left fun part _ => Text.trim_withReturns part
    have hkept : (fun part : Text => decide (part ≠ [])) ∘ Text.withReturns =
        fun part => decide (part ≠ []) :=
      funext fun part => decide_eq_decide.mpr Text.withReturns_ne_nil_iff
    rw [htrim, List.filter_map, List.foldl_map, hkept]
    simp only [addPart_withReturns]
  unfold ofClause?
  simp only [Text.trim_withReturns, isTypeClause_withReturns, cutBraces?_withReturns]
  split
  · rfl
  · cases cutBraces? clause.trim with
    | none => exact congrArg some (hparts _ _)
    | some parts =>
      simp only [Option.map_some, Option.getD_some, hnames]
      exact congrArg some (hparts _ _)

end Bindings

/-- What a mock is made from. -/
def ImportStatement.imported (i : ImportStatement) : Text × Bindings :=
  (i.modulePath, i.bindings)

namespace ScanSettings

variable {s : ScanSettings}

/-- The import gets no mock, and this does not turn on a line feed in the settings. -/
def LeavesOut (s : ScanSettings) (line : ImportLine) : Prop :=
  s.statement? line = none ∧ ∀ m ∈ s.excludedModules ++ s.excludedPrefixes, '\n' ∉ m

/-- A module that is excluded by names without line feeds is excluded with carriage returns too. -/
theorem isExcluded_withReturns {path : Text} (h : s.isExcluded path = true)
    (hsettings : ∀ m ∈ s.excludedModules ++ s.excludedPrefixes, '\n' ∉ m) :
    s.isExcluded path.withReturns = true := by
  unfold isExcluded at h ⊢
  rw [Bool.or_eq_true, List.contains_iff_mem, List.any_eq_true] at h ⊢
  rcases h with hmodule | ⟨start, hmem, hstart⟩
  · left
    rw [Text.withReturns_of_not_mem (hsettings path (List.mem_append_left _ hmodule))]
    exact hmodule
  · right
    obtain ⟨rest, rfl⟩ := Text.startsWith_iff.mp hstart
    refine ⟨start, hmem, Text.startsWith_iff.mpr ⟨rest.withReturns, ?_⟩⟩
    rw [Text.withReturns_append,
      Text.withReturns_of_not_mem (hsettings start (List.mem_append_right _ hmem))]

/-- The same is imported, if the path of the module stays on its line or gets no mock anyway. -/
theorem statement?_withReturns {line : ImportLine}
    (hpath : '\n' ∉ line.modulePath ∨ s.LeavesOut line) :
    (s.statement? line.withReturns).map ImportStatement.imported =
      (s.statement? line).map ImportStatement.imported := by
  have hbindings : Bindings.ofClause? line.withReturns.clause = Bindings.ofClause? line.clause :=
    Bindings.ofClause?_withReturns line.clause
  rcases hpath with hline | ⟨hnone, hsettings⟩
  · have hsame : line.withReturns.modulePath = line.modulePath :=
      Text.withReturns_of_not_mem hline
    unfold statement?
    rw [hbindings, hsame]
    split
    · rfl
    · rw [Option.map_map, Option.map_map]
      rfl
  · have hnone' : s.statement? line.withReturns = none := by
      unfold statement? at hnone ⊢
      split at hnone
      · rename_i hexcluded
        exact if_pos (isExcluded_withReturns hexcluded hsettings)
      · rw [hbindings, Option.map_eq_none_iff.mp hnone]
        exact ite_self none
    rw [hnone, hnone']

/-- Line endings make no difference to what is imported from where. -/
theorem scan_withReturns {t : Text} (hclause : ¬ t.HasClauselessImport)
    (hpaths : ∀ line ∈ importLines t, '\n' ∉ line.modulePath ∨ s.LeavesOut line) :
    (s.scan t.withReturns).map ImportStatement.imported =
      (s.scan t).map ImportStatement.imported := by
  unfold scan
  rw [importLines_withReturns hclause, List.filterMap_map, List.map_filterMap, List.map_filterMap]
  exact List.filterMap_congr fun line hline => statement?_withReturns (hpaths line hline)

end ScanSettings

end TestScaffold
