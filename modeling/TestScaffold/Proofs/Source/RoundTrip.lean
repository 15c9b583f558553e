import TestScaffold.Proofs.Source.Clause
import TestScaffold.Proofs.Source.Statement

/-!
Scanning a source as it is written. Every declaration is found, with its clause and its module
path, and nothing else is; where one item ends, the search goes on as at the start of a source.
-/

namespace TestScaffold

def importAt (p : Position) : Option (ImportLine × Nat) :=
  if p.isLineStart then (ImportLine.read? p.rest).map fun line => (line, line.raw.length) else none

theorem importLines_eq (t : Text) : importLines t = t.finds importAt :=
  rfl

theorem looksAtLines_importAt : Text.LooksAtLines importAt where
  inside p hp := by
    unfold importAt
    rw [hp]
    rfl
  start p hp := by
    unfold importAt
    rw [hp]
    rfl

theorem importAt_of_ne {c : Char} (hc : c ≠ 'i') (before : Option Char) (t : Text) :
    importAt ⟨before, c :: t⟩ = none := by
  have hafter : Text.after? "import".toList (c :: t) = none := if_neg hc
  unfold importAt ImportLine.read?
  rw [hafter]
  split <;> rfl

/-- A clause is read from between two spaces, of which the second stands before `from`. -/
theorem exists_of_clauseOf? {head clause : Text} (h : clauseOf? head = some clause) :
    ∃ (afterImport beforeFrom afterFrom : Written.Space) (written : Text),
      head = afterImport.text ++ written ++
        (beforeFrom.text ++ ("from".toList ++ afterFrom.text)) ∧
      written ≠ [] ∧ ';' ∉ written ∧ clause = written.trim := by
  unfold clauseOf? at h
  split at h
  · cases h
  · rename_i last back hreverse
    split at h
    · rename_i middle hlast hafter
      split at h
      · rename_i hmiddle
        obtain ⟨hlength, hfirst, hend, hsemicolon⟩ := hmiddle
        -- What is read first from the end stands before `from`, what is read last after `import`.
        obtain ⟨b, hb, hblankb⟩ := (Option.any_eq_true _ _).mp hfirst
        obtain ⟨a, ha, hblanka⟩ := (Option.any_eq_true _ _).mp hend
        obtain ⟨front, rfl⟩ := List.getLast?_eq_some_iff.mp ha
        obtain ⟨d, inner, rfl⟩ : ∃ d inner, front = d :: inner :=
          List.exists_cons_of_ne_nil fun hnil => by
            rw [hnil, List.nil_append, List.length_singleton] at hlength
            omega
        obtain rfl : d = b := Option.some.inj hb
        have hback : back = back.takeWhile isBlank ++
            ("from".toList.reverse ++ (d :: inner ++ [a])) := by
          rw [← Text.after?_eq_some_iff.mp hafter, List.takeWhile_append_dropWhile]
        have hspaces : ∀ c ∈ (last :: back.takeWhile isBlank).reverse, isBlank c = true := by
          intro c hc
          rcases List.mem_cons.mp (List.mem_reverse.mp hc) with rfl | hmem
          · exact hlast
          · exact List.mem_takeWhile_imp hmem
        have hhead : head = [a] ++ inner.reverse ++
            ([d] ++ ("from".toList ++ (last :: back.takeWhile isBlank).reverse)) := by
          rw [← List.reverse_reverse head, hreverse]
          nth_rewrite 1 [hback]
          simp
        refine ⟨⟨⟨[a], List.forall_mem_singleton.mpr hblanka⟩, List.cons_ne_nil _ _⟩,
          ⟨⟨[d], List.forall_mem_singleton.mpr hblankb⟩, List.cons_ne_nil _ _⟩,
          ⟨⟨_, hspaces⟩, by simp⟩, inner.reverse, hhead, ?_, ?_, ?_⟩
        · intro hnil
          rw [List.reverse_eq_nil_iff.mp hnil] at hlength
          simp at hlength
        · intro hmem
          apply hsemicolon
          simp [List.mem_reverse.mp hmem]
        · have htrim := Text.trim_append_append (List.forall_mem_singleton.mpr hblanka)
            (List.forall_mem_singleton.mpr hblankb) inner.reverse
          rw [← Option.some.inj h, ← htrim]
          simp
      · cases h
    · cases h

/-- A clause is read from a text that begins with white space. -/
theorem isBlank_of_clauseOf? {head clause : Text} (h : clauseOf? head = some clause) :
    ∃ c rest, head = c :: rest ∧ isBlank c = true := by
  obtain ⟨afterImport, beforeFrom, afterFrom, written, rfl, -⟩ := exists_of_clauseOf? h
  obtain ⟨c, rest, hspace⟩ := List.exists_cons_of_ne_nil afterImport.ne_nil
  refine ⟨c, _, by rw [hspace]; rfl, ?_⟩
  apply afterImport.blank
  rw [hspace]
  exact List.mem_cons_self

theorem clauseOf?_of_blank {head : Text} (h : ∀ c ∈ head, isBlank c = true) :
    clauseOf? head = none := by
  unfold clauseOf?
  split
  · rfl
  · rename_i last back hreverse
    have hback : back.dropWhile isBlank = [] := by
      rw [List.dropWhile_eq_nil_iff]
      intro c hc
      apply h
      rw [← List.mem_reverse, hreverse]
      exact List.mem_cons_of_mem last hc
    rw [hback]
    split
    · rename_i middle hlast hafter
      cases hafter
    · rfl

namespace Written

/-- What is read after the word `import`. -/
theorem read?_importWord_append (t : Text) :
    ImportLine.read? (importWord ++ t) =
      match clauseOf? (t.takeWhile (!isQuote ·)), Quotation.read? (t.dropWhile (!isQuote ·)) with
      | some clause, some (quotation, rest) =>
        some ⟨importWord ++ t.takeWhile (!isQuote ·) ++ quotation.text ++ terminatorOf rest,
          clause, quotation.content⟩
      | _, _ => none := by
  have hafter : Text.after? "import".toList (importWord ++ t) = some t :=
    Text.after?_eq_some_iff.mpr rfl
  unfold ImportLine.read?
  rw [hafter]
  rfl

theorem exists_of_read? {t : Text} {line : ImportLine} (h : ImportLine.read? t = some line) :
    ∃ rest, t = importWord ++ rest := by
  unfold ImportLine.read? at h
  split at h
  · cases h
  · rename_i rest hafter
    exact ⟨rest, Text.after?_eq_some_iff.mp hafter⟩

theorem not_isQuote_of_isClauseChar {c : Char} (h : isClauseChar c = true) : isQuote c = false := by
  rw [← Bool.not_eq_true]
  intro hquote
  simp only [isQuote, Bool.or_eq_true, beq_iff_eq] at hquote
  rcases hquote with rfl | rfl
  · exact absurd h (by decide)
  · exact absurd h (by decide)

theorem Space.any_head? (s : Space) : s.text.head?.any isBlank = true := by
  obtain ⟨c, rest, hs⟩ := List.exists_cons_of_ne_nil s.ne_nil
  rw [hs]
  exact s.blank c (by rw [hs]; exact List.mem_cons_self)

theorem Space.any_getLast? (s : Space) : s.text.getLast?.any isBlank = true := by
  cases hlast : s.text.getLast? with
  | none => exact absurd (List.getLast?_eq_none_iff.mp hlast) s.ne_nil
  | some c => exact s.blank c (List.mem_of_getLast? hlast)

theorem Declaration.isClauseChar_of_mem_head (d : Declaration) :
    ∀ c ∈ d.head, isClauseChar c = true := by
  have hfrom : ∀ c ∈ "from".toList, isClauseChar c = true :=
    List.all_iff_forall_prop.mp (by decide)
  simp only [head, List.forall_mem_append]
  exact ⟨⟨d.afterImport.isClauseChar_of_mem, d.clause.isClauseChar_of_mem⟩,
    d.beforeFrom.isClauseChar_of_mem, hfrom, d.afterFrom.isClauseChar_of_mem⟩

/-- Read from the end, what stands between `import` and the quotation gives the clause: the last
`from` is the word before the quotation. -/
theorem clauseOf?_append (afterImport beforeFrom afterFrom : Space) {clause : Text}
    (hne : clause ≠ []) (hsemicolon : ';' ∉ clause) :
    clauseOf? (afterImport.text ++ clause ++
      (beforeFrom.text ++ ("from".toList ++ afterFrom.text))) = some clause.trim := by
  obtain ⟨last, spaces, hspaces⟩ := List.exists_cons_of_ne_nil
    (fun h => afterFrom.ne_nil (List.reverse_eq_nil_iff.mp h))
  have hblank : ∀ c ∈ last :: spaces, isBlank c = true := by
    intro c hc
    apply afterFrom.blank
    rw [← List.mem_reverse, hspaces]
    exact hc
  obtain ⟨hlast, hback⟩ := List.forall_mem_cons.mp hblank
  -- From its end: white space, `from`, and the middle with the clause.
  let middle := (afterImport.text ++ clause ++ beforeFrom.text).reverse
  have hreverse : (afterImport.text ++ clause ++
      (beforeFrom.text ++ ("from".toList ++ afterFrom.text))).reverse =
        last :: (spaces ++ ("from".toList.reverse ++ middle)) := by
    simp only [middle, List.reverse_append, hspaces]
    simp
  have hdrop : (spaces ++ ("from".toList.reverse ++ middle)).dropWhile isBlank =
      "from".toList.reverse ++ middle :=
    List.dropWhile_append_of_pos hback
  have hlength : 3 ≤ middle.length := by
    have hfirst := List.length_pos_of_ne_nil afterImport.ne_nil
    have hclause := List.length_pos_of_ne_nil hne
    have hthird := List.length_pos_of_ne_nil beforeFrom.ne_nil
    simp only [middle, List.length_reverse, List.length_append]
    omega
  have hfirst : middle.head?.any isBlank = true := by
    rw [List.head?_reverse, List.getLast?_append_of_ne_nil _ beforeFrom.ne_nil]
    exact beforeFrom.any_getLast?
  have hend : middle.getLast?.any isBlank = true := by
    rw [List.getLast?_reverse, List.append_assoc,
      List.head?_append_of_ne_nil _ afterImport.ne_nil]
    exact afterImport.any_head?
  have hnone : ∀ s : Space, ';' ∉ s.text := fun s =>
    not_mem_of_forall s.isClauseChar_of_mem (by decide)
  have hplain : ';' ∉ middle := by
    simp only [middle, List.mem_reverse, List.mem_append, not_or]
    exact ⟨⟨hnone afterImport, hsemicolon⟩, hnone beforeFrom⟩
  have htrim : Text.trim middle.reverse = clause.trim := by
    simp only [middle, List.reverse_reverse]
    exact Text.trim_append_append afterImport.blank beforeFrom.blank clause
  unfold clauseOf?
  rw [hreverse]
  simp only [hlast, hdrop, Text.after?_eq_some_iff.mpr rfl, hlength, hfirst, hend, hplain, htrim,
    not_false_eq_true, and_self, if_true]

theorem Declaration.clauseOf?_head (d : Declaration) : clauseOf? d.head = some d.clause.text := by
  have hsemicolon : ';' ∉ d.clause.text := not_mem_of_forall d.clause.isClauseChar_of_mem (by decide)
  unfold head
  rw [clauseOf?_append d.afterImport d.beforeFrom d.afterFrom d.clause.solid.ne_nil hsemicolon,
    d.clause.solid.trim_eq]

theorem ModuleText.read?_append (m : ModuleText) (rest : Text) :
    Quotation.read? (m.quotation.text ++ rest) = some (m.quotation, rest) :=
  Quotation.read?_append m.valid ⟨m.ne_nil, m.unquoted⟩ m.valid rest

theorem Ending.cases_of_mem (e : Ending) : ∀ c ∈ e.text, isBlank c = true ∨ c = ';' := by
  intro c hc
  unfold text at hc
  rcases List.mem_append.mp hc with hblank | hafter
  · exact Or.inl (e.blanks.blank c hblank)
  · cases hsemicolon : e.semicolon with
    | none => simp [hsemicolon] at hafter
    | some after =>
      simp only [hsemicolon, Option.map_some, Option.getD_some, List.mem_cons] at hafter
      rcases hafter with rfl | hmem
      · exact Or.inr rfl
      · exact Or.inl (after.blank c hmem)

theorem Ending.text_eq_append (e : Ending) :
    ∃ rest, e.text = e.terminator ++ rest ∧ ∀ c ∈ rest, c ∈ e.text := by
  by_cases h : (e.semicolon.isSome && e.blanks.text.all (fun c => c == ' ' || c == '\t')) = true
  · obtain ⟨hsome, -⟩ := Bool.and_eq_true_iff.mp h
    obtain ⟨after, hafter⟩ := Option.isSome_iff_exists.mp hsome
    have htext : e.text = e.terminator ++ after.text := by
      rw [terminator, if_pos h]
      simp [text, hafter]
    refine ⟨after.text, htext, ?_⟩
    intro c hc
    rw [htext]
    exact List.mem_append_right _ hc
  · refine ⟨e.text, ?_, fun c hc => hc⟩
    rw [terminator, if_neg h]
    rfl

theorem terminatorOf_append_cons {t : Text} {c : Char}
    (ht : ∀ d ∈ t, (d == ' ' || d == '\t') = true) (hc : (c == ' ' || c == '\t') = false)
    (rest : Text) : terminatorOf (t ++ c :: rest) = if c = ';' then t ++ [';'] else [] := by
  unfold terminatorOf
  simp only [Text.takeWhile_append_cons ht hc, List.drop_left, List.head?_cons, Option.some.injEq]

/-- The terminator is read off an ending at the end of its line. -/
theorem Ending.terminatorOf_append (e : Ending) (rest : Text) :
    terminatorOf (e.text ++ '\n' :: rest) = e.terminator := by
  let isSpace := fun c : Char => c == ' ' || c == '\t'
  by_cases hspaces : ∀ c ∈ e.blanks.text, isSpace c = true
  · have hall : e.blanks.text.all isSpace = true := List.all_eq_true.mpr hspaces
    cases hsemicolon : e.semicolon with
    | none =>
      have htext : e.text ++ '\n' :: rest = e.blanks.text ++ '\n' :: rest := by
        simp [text, hsemicolon]
      rw [htext, terminatorOf_append_cons hspaces (by decide)]
      simp [terminator, hsemicolon]
    | some after =>
      have htext : e.text ++ '\n' :: rest = e.blanks.text ++ ';' :: (after.text ++ '\n' :: rest) := by
        simp [text, hsemicolon]
      rw [htext, terminatorOf_append_cons hspaces (by decide)]
      unfold terminator
      rw [if_pos rfl, hsemicolon, hall]
      rfl
  · -- The semicolon, if any, does not follow on spaces and tabs alone.
    obtain ⟨d, back, hdrop⟩ := List.exists_cons_of_ne_nil
      (fun h => hspaces (List.dropWhile_eq_nil_iff.mp h))
    have hblanks : e.blanks.text = e.blanks.text.takeWhile isSpace ++ d :: back := by
      rw [← hdrop, List.takeWhile_append_dropWhile]
    have hd : isSpace d = false := by
      have hnot := List.head?_dropWhile_not isSpace e.blanks.text
      rw [hdrop] at hnot
      simpa using hnot
    have hblank : isBlank d = true := by
      apply e.blanks.blank
      rw [hblanks]
      exact List.mem_append_right _ List.mem_cons_self
    have hne : d ≠ ';' := by
      rintro rfl
      exact absurd hblank (by decide)
    have htext : e.text ++ '\n' :: rest = e.blanks.text.takeWhile isSpace ++ d :: (back ++
        ((e.semicolon.map fun after => ';' :: after.text).getD [] ++ '\n' :: rest)) := by
      unfold text
      nth_rewrite 1 [hblanks]
      simp
    have hfront : ∀ c ∈ e.blanks.text.takeWhile isSpace, isSpace c = true := by
      intro c hc
      exact List.mem_takeWhile_imp hc
    have hnot : ¬ (e.semicolon.isSome && e.blanks.text.all isSpace) = true := by
      intro h
      exact hspaces (List.all_eq_true.mp (Bool.and_eq_true_iff.mp h).2)
    rw [htext, terminatorOf_append_cons hfront hd, if_neg hne, terminator, if_neg hnot]

/-- A declaration is read as it was written. -/
theorem Declaration.read?_append (d : Declaration) (rest : Text) :
    ImportLine.read? (d.body ++ (d.ending.text ++ '\n' :: rest)) = some d.line := by
  have hhead : ∀ c ∈ d.head, (!isQuote c) = true := by
    intro c hc
    rw [not_isQuote_of_isClauseChar (d.isClauseChar_of_mem_head c hc)]
    rfl
  let after := d.ending.text ++ '\n' :: rest
  have hquote : (!isQuote d.module.quote) = false := by rw [d.module.valid]; rfl
  have htake : (d.head ++ (d.module.quotation.text ++ after)).takeWhile (!isQuote ·) = d.head :=
    Text.takeWhile_append_cons hhead hquote _
  have hdrop : (d.head ++ (d.module.quotation.text ++ after)).dropWhile (!isQuote ·) =
      d.module.quotation.text ++ after :=
    Text.dropWhile_append_cons hhead hquote _
  have hbody : d.body ++ after =
      importWord ++ (d.head ++ (d.module.quotation.text ++ after)) := by
    simp [body]
  rw [hbody, read?_importWord_append]
  simp only [htake, hdrop, d.clauseOf?_head, d.module.read?_append, after,
    d.ending.terminatorOf_append]
  simp [line, body, ModuleText.quotation]

/-- What begins with `import` and white space, up to its line feed, does so whatever follows. -/
theorem opensImport_of_append {line rest t : Text} {c : Char}
    (h : line ++ '\n' :: rest = importWord ++ c :: t) (hc : isBlank c = true) :
    OpensImport line := by
  rcases List.append_eq_append_iff.mp h with ⟨more, hword, hrest⟩ | ⟨more, htext, hrest⟩
  · cases more with
    | nil =>
      obtain rfl : '\n' = c := (List.cons.inj hrest).1
      refine ⟨'\n', [], ?_, hc⟩
      rw [hword, List.append_nil]
    | cons d more =>
      obtain rfl : '\n' = d := (List.cons.inj hrest).1
      have hword' : '\n' ∉ importWord := by decide
      rw [hword] at hword'
      exact absurd (List.mem_append_right _ List.mem_cons_self) hword'
  · cases more with
    | nil =>
      obtain rfl : c = '\n' := (List.cons.inj hrest).1
      refine ⟨'\n', [], ?_, hc⟩
      rw [htext, List.append_nil]
    | cons d more =>
      obtain rfl : c = d := (List.cons.inj hrest).1
      refine ⟨c, more ++ ['\n'], ?_, hc⟩
      rw [htext]
      simp

theorem importAt_other {line : Text} (hother : ¬ OpensImport line) (rest : Text) :
    importAt ⟨none, line ++ '\n' :: rest⟩ = none := by
  have hread : ImportLine.read? (line ++ '\n' :: rest) = none := by
    rw [Option.eq_none_iff_forall_ne_some]
    intro found hfound
    obtain ⟨t, ht⟩ := exists_of_read? hfound
    rw [ht, read?_importWord_append] at hfound
    cases hclause : clauseOf? (t.takeWhile (!isQuote ·)) with
    | none => simp [hclause] at hfound
    | some clause =>
      obtain ⟨c, more, hhead, hblank⟩ := isBlank_of_clauseOf? hclause
      have hfirst : t = c :: (more ++ t.dropWhile (!isQuote ·)) := by
        rw [← List.cons_append, ← hhead, List.takeWhile_append_dropWhile]
      rw [hfirst] at ht
      exact hother (opensImport_of_append ht hblank)
  unfold importAt
  rw [hread]
  rfl

theorem importAt_sideEffect (space : Space) (module : ModuleText) (rest : Text) :
    importAt ⟨none, importWord ++ (space.text ++ (module.quotation.text ++ rest))⟩ = none := by
  have hspace : ∀ c ∈ space.text, (!isQuote c) = true := by
    intro c hc
    rw [not_isQuote_of_isClauseChar (space.isClauseChar_of_mem c hc)]
    rfl
  have hquote : (!isQuote module.quote) = false := by rw [module.valid]; rfl
  have htake : (space.text ++ (module.quotation.text ++ rest)).takeWhile (!isQuote ·) =
      space.text :=
    Text.takeWhile_append_cons hspace hquote _
  unfold importAt
  rw [read?_importWord_append, htake, clauseOf?_of_blank space.blank]
  rfl

theorem ne_i_of_isBlank {c : Char} (h : isBlank c = true) : c ≠ 'i' := by
  rintro rfl
  exact absurd h (by decide)

theorem ne_i_of_isQuote {c : Char} (h : isQuote c = true) : c ≠ 'i' := by
  rintro rfl
  exact absurd h (by decide)

theorem Ending.ne_i_of_mem (e : Ending) : ∀ c ∈ e.text, c ≠ 'i' := by
  intro c hc
  rcases e.cases_of_mem c hc with hblank | rfl
  · exact ne_i_of_isBlank hblank
  · decide

/-- What an item adds to the imports of a source. -/
def Item.line? : Item → Option ImportLine
  | other _ _ _ | sideEffect _ _ _ => none
  | declaration d => some d.line

theorem finds_importAt_of_chars {t : Text} (ht : ∀ c ∈ t, c ≠ 'i') (before : Option Char)
    (rest : Text) :
    Text.findsFrom importAt 0 before (t ++ '\n' :: rest) = rest.finds importAt := by
  rw [Text.findsFrom_append_of_chars]
  · exact looksAtLines_importAt.findsFrom_lineFeed rest (importAt_of_ne (by decide))
  · intro c hc
    exact importAt_of_ne (ht c hc)

/-- An import for its side effects is passed over: it is no find, and neither is anything in it. -/
theorem finds_sideEffect_append (space : Space) (module : ModuleText) (ending : Ending)
    (rest : Text) :
    ((Item.sideEffect space module ending).text ++ rest).finds importAt = rest.finds importAt := by
  let front := "mport".toList ++ space.text ++ [module.quote]
  let back := module.quote :: ending.text
  have hword : importWord = 'i' :: "mport".toList := rfl
  have hwhole : importWord ++
      (space.text ++ (module.quotation.text ++ (ending.text ++ '\n' :: rest))) =
        'i' :: (front ++ (module.path ++ (back ++ '\n' :: rest))) := by
    rw [hword]
    simp [ModuleText.quotation, Quotation.text, front, back]
  have htext : (Item.sideEffect space module ending).text ++ rest =
      'i' :: (front ++ (module.path ++ (back ++ '\n' :: rest))) := by
    rw [← hwhole]
    simp [Item.text]
  have hnone := importAt_sideEffect space module (ending.text ++ '\n' :: rest)
  rw [hwhole] at hnone
  have hfront : ∀ c ∈ front, c ≠ 'i' := by
    simp only [front, List.forall_mem_append, List.forall_mem_singleton]
    have hrest : ∀ c ∈ "mport".toList, c ≠ 'i' := List.all_iff_forall_prop.mp (by decide)
    exact ⟨⟨hrest, fun c hc => ne_i_of_isBlank (space.blank c hc)⟩,
      ne_i_of_isQuote module.valid⟩
  have hlast : front.getLast?.or (some 'i') = some module.quote := by
    rw [List.getLast?_concat]
    rfl
  have hback : ∀ c ∈ back, c ≠ 'i' :=
    List.forall_mem_cons.mpr ⟨ne_i_of_isQuote module.valid, ending.ne_i_of_mem⟩
  have hquote : module.quote ≠ '\n' := by
    intro h
    exact absurd module.valid (by rw [h]; decide)
  -- Line feeds in the white space begin lines, but no character before the path is an `i`.
  rw [htext]
  unfold Text.finds
  simp only [Text.findsFrom, hnone]
  rw [Text.findsFrom_append_of_chars _ _ fun c hc => importAt_of_ne (hfront c hc), hlast,
    looksAtLines_importAt.findsFrom_inside hquote module.oneLine,
    finds_importAt_of_chars hback]
  rfl

/-- A declaration is one find, and the search goes on after its line. -/
theorem Declaration.finds_text_append (d : Declaration) (rest : Text) :
    ((Item.declaration d).text ++ rest).finds importAt = d.line :: rest.finds importAt := by
  obtain ⟨after, hending, hafter⟩ := d.ending.text_eq_append
  have htext : (Item.declaration d).text ++ rest = d.line.raw ++ (after ++ '\n' :: rest) := by
    simp [Item.text, Declaration.line, hending]
  have hread : importAt ⟨none, d.line.raw ++ (after ++ '\n' :: rest)⟩ =
      some (d.line, d.line.raw.length) := by
    have hbody : d.line.raw ++ (after ++ '\n' :: rest) =
        d.body ++ (d.ending.text ++ '\n' :: rest) := by
      simp [Declaration.line, hending]
    unfold importAt
    rw [hbody, d.read?_append]
    rfl
  have hne : d.line.raw ≠ [] := by
    intro h
    cases (List.append_eq_nil_iff.mp (List.append_eq_nil_iff.mp h).1).1
  rw [htext]
  unfold Text.finds
  rw [Text.findsFrom_of_some hne hread,
    finds_importAt_of_chars fun c hc => d.ending.ne_i_of_mem c (hafter c hc)]
  rfl

/-- An item is passed over, a declaration as one find, and the search goes on after it. -/
theorem Item.finds_text_append (item : Item) (rest : Text) :
    (item.text ++ rest).finds importAt = item.line?.toList ++ rest.finds importAt := by
  cases item with
  | other line oneLine notImport =>
    have hline := looksAtLines_importAt.finds_line rest oneLine (importAt_of_ne (by decide))
      (importAt_other notImport rest)
    unfold text
    rw [List.append_assoc, List.singleton_append, hline]
    rfl
  | sideEffect space module ending => exact finds_sideEffect_append space module ending rest
  | declaration d => exact d.finds_text_append rest

theorem importLines_items (items : List Item) :
    importLines (items.flatMap Item.text) = items.filterMap Item.line? := by
  rw [importLines_eq]
  induction items with
  | nil => rfl
  | cons item items ih =>
    rw [List.flatMap_cons, item.finds_text_append, ih]
    cases hline : item.line? with
    | none => simp [hline]
    | some line => simp [hline]

theorem Declaration.statement?_line (d : Declaration) (s : ScanSettings) :
    s.statement? d.line = d.statement? s := by
  unfold ScanSettings.statement? statement?
  simp only [line, d.clause.ofClause?_text]

theorem Item.statement?_line (item : Item) (s : ScanSettings) :
    item.line?.bind s.statement? = item.statement? s := by
  cases item with
  | other line oneLine notImport => rfl
  | sideEffect space module ending => rfl
  | declaration d => exact d.statement?_line s

/-- A declaration that is a source of its own is scanned as its statement. -/
theorem Declaration.mem_scan {s : ScanSettings} {d : Declaration} {i : ImportStatement}
    (h : d.statement? s = some i) : i ∈ s.scan (Item.declaration d).text := by
  have hlines : importLines (Item.declaration d).text = [d.line] := by
    have hitems := importLines_items [Item.declaration d]
    rw [List.flatMap_singleton] at hitems
    exact hitems
  refine List.mem_filterMap.mpr ⟨d.line, ?_, ?_⟩
  · rw [hlines]
    exact List.mem_singleton_self _
  · rw [d.statement?_line, h]

/-- Scanning a source gives the statements of its declarations as they are written, each with its
text, its module path and its bindings, in their order and as often as they stand there. Left out
are those of excluded modules and those that import types only. -/
theorem scan_items (s : ScanSettings) (items : List Item) :
    s.scan (items.flatMap Item.text) = items.filterMap (Item.statement? s) := by
  unfold ScanSettings.scan
  rw [importLines_items, List.filterMap_filterMap]
  exact List.filterMap_congr fun item _ => item.statement?_line s

/-- A star that follows the word `type` at once hides it: types are imported, and the statement is
still there. -/
example : ScanSettings.scan {} "import type* as api from './api'\n".toList =
    [⟨"import type* as api from './api'".toList, "./api".toList, {}⟩] := by
  decide +kernel

end Written

end TestScaffold
