import TestScaffold.Proofs.Source.ExportStyle

/-!
Names inside longer identifiers. A name that stands in a text only as a part of longer identifiers
is in no list of exports, for a list is cut at its commas, braces and white space. The forms of
exports look for a word boundary after the name and for nothing before it, and there are word
boundaries inside identifiers; so a form may cut the name out of a longer identifier, and this is
the only way in which the text can seem to export it.
-/

namespace TestScaffold

namespace Text

/-- `w` stands somewhere in the text with no character of an identifier right before or after it. -/
def StandsApart (t w : Text) : Prop :=
  ∃ front back, t = front ++ (w ++ back) ∧
    front.getLast?.any isIdentifierChar = false ∧ back.head?.any isIdentifierChar = false

/-- Wherever `w` stands in the text, a character of an identifier is right before or after it. -/
def OnlyInLonger (t w : Text) : Prop :=
  ∀ front back, t = front ++ (w ++ back) →
    front.getLast?.any isIdentifierChar = true ∨ back.head?.any isIdentifierChar = true

theorem onlyInLonger_iff {t w : Text} : t.OnlyInLonger w ↔ ¬ t.StandsApart w := by
  constructor
  · rintro h ⟨front, back, ht, hbefore, hafter⟩
    rcases h front back ht with hlonger | hlonger
    · rw [hbefore] at hlonger
      cases hlonger
    · rw [hafter] at hlonger
      cases hlonger
  · intro h front back ht
    by_contra hapart
    rw [not_or, Bool.not_eq_true, Bool.not_eq_true] at hapart
    exact h ⟨front, back, ht, hapart⟩

/-- Whether `w` stands apart at this place. -/
def apartHere (w : Text) (p : Position) : Bool :=
  match after? w p.rest with
  | some back => !p.before.any isIdentifierChar && !back.head?.any isIdentifierChar
  | none => false

theorem apartHere_iff {w : Text} {p : Position} : apartHere w p = true ↔
    ∃ back, p.rest = w ++ back ∧ p.before.any isIdentifierChar = false ∧
      back.head?.any isIdentifierChar = false := by
  unfold apartHere
  cases hafter : after? w p.rest with
  | none =>
    have hnot : ∀ back, p.rest ≠ w ++ back := by
      intro back hrest
      rw [after?_eq_some_iff.mpr hrest] at hafter
      cases hafter
    simp [hnot]
  | some back =>
    rw [after?_eq_some_iff] at hafter
    simp [hafter]

instance (t w : Text) : Decidable (t.OnlyInLonger w) :=
  decidable_of_iff (t.holdsSomewhere (apartHere w) = false) <| by
    rw [onlyInLonger_iff, ← Bool.not_eq_true, holdsSomewhere_iff, not_iff_not]
    constructor
    · rintro ⟨front, rest, rfl, hhere⟩
      obtain ⟨back, rfl, hapart⟩ := apartHere_iff.mp hhere
      exact ⟨front, back, rfl, hapart⟩
    · rintro ⟨front, back, rfl, hapart⟩
      exact ⟨front, w ++ back, rfl, apartHere_iff.mpr ⟨back, rfl, hapart⟩⟩

theorem StandsApart.trans {t u w : Text} (hu : t.StandsApart u) (hw : u.StandsApart w) :
    t.StandsApart w := by
  obtain ⟨front, back, rfl, hbefore, hafter⟩ := hu
  obtain ⟨inner, outer, rfl, hinner, houter⟩ := hw
  refine ⟨front ++ inner, outer ++ back, by simp, ?_, ?_⟩
  · rw [List.getLast?_append]
    cases hlast : inner.getLast? with
    | none => exact hbefore
    | some c =>
      rw [hlast] at hinner
      exact hinner
  · rw [List.head?_append]
    cases hhead : outer.head? with
    | none => exact hafter
    | some c =>
      rw [hhead] at houter
      exact houter

/-- The parts of a text between characters of no identifier stand apart. -/
theorem standsApart_of_mem_splitOnP {P : Char → Bool}
    (hP : ∀ c, P c = true → isIdentifierChar c = false) {t part : Text}
    (h : part ∈ List.splitOnP P t) : t.StandsApart part := by
  induction hlength : t.length using Nat.strong_induction_on generalizing t with
  | _ n ih =>
    have hsplit : t = t.takeWhile (!P ·) ++ t.dropWhile (!P ·) :=
      List.takeWhile_append_dropWhile.symm
    have hfree : ∀ c ∈ t.takeWhile (!P ·), P c = false := by
      intro c hc
      simpa using List.mem_takeWhile_imp hc
    cases hrest : t.dropWhile (!P ·) with
    | nil =>
      rw [hrest, List.append_nil] at hsplit
      rw [hsplit, List.splitOnP_eq_singleton hfree, List.mem_singleton, ← hsplit] at h
      exact ⟨[], [], by simp [h], rfl, rfl⟩
    | cons c rest =>
      have hc : P c = true := by
        have hnot := List.head?_dropWhile_not (!P ·) t
        rw [hrest] at hnot
        simpa using hnot
      rw [hrest] at hsplit
      rw [hsplit, List.splitOnP_append_cons _ _ hc, List.splitOnP_eq_singleton hfree] at h
      rcases List.mem_append.mp h with hfirst | hother
      · rw [List.mem_singleton.mp hfirst]
        refine ⟨[], c :: rest, hsplit, rfl, ?_⟩
        exact hP c hc
      · -- What follows the first separator stands apart itself.
        have hshorter : rest.length < n := by
          rw [← hlength, hsplit, List.length_append, List.length_cons]
          omega
        have hapart : t.StandsApart rest := by
          refine ⟨t.takeWhile (!P ·) ++ [c], [], ?_, ?_, rfl⟩
          · rw [List.append_nil, List.append_assoc]
            exact hsplit
          · rw [List.getLast?_concat]
            exact hP c hc
        exact hapart.trans (ih _ hshorter hother rfl)

theorem standsApart_of_mem_fields {sep : Char} (hsep : isIdentifierChar sep = false)
    {t part : Text} (h : part ∈ t.fields sep) : t.StandsApart part := by
  apply standsApart_of_mem_splitOnP _ h
  intro c hc
  rw [beq_iff_eq.mp hc]
  exact hsep

theorem standsApart_of_mem_words {t w : Text} (h : w ∈ t.words) : t.StandsApart w := by
  apply standsApart_of_mem_splitOnP (P := isBlank) _ (List.mem_of_mem_filter h)
  intro c hc
  rw [← Bool.not_eq_true]
  intro hidentifier
  rw [not_isBlank_of_isIdentifierChar hidentifier] at hc
  cases hc

end Text

/-- The bodies of the lists of exports stand between braces. -/
theorem ExportLists.standsApart {before : Option Char} {t : Text} {bodies : List Text}
    (h : ExportLists before t bodies) : ∀ body ∈ bodies, t.StandsApart body := by
  induction h with
  | none _ => exact List.forall_mem_nil _
  | @first before front u body rest bodies _ hlist _ ih =>
    obtain ⟨-, -, gap, -, rfl⟩ := hlist
    have hopen : isIdentifierChar '{' = false := by decide +kernel
    have hclose : isIdentifierChar '}' = false := by decide +kernel
    rw [List.forall_mem_cons]
    constructor
    · refine ⟨front ++ ("export".toList ++ gap) ++ ['{'], '}' :: rest, by simp, ?_, hclose⟩
      rw [List.getLast?_concat]
      exact hopen
    · intro other hother
      refine Text.StandsApart.trans ?_ (ih other hother)
      refine ⟨front ++ ("export".toList ++ (gap ++ '{' :: body)) ++ ['}'], [], by simp, ?_, rfl⟩
      rw [List.getLast?_concat]
      exact hclose

theorem HasSpecifier.standsApart {t specifier w : Text} (h : HasSpecifier t specifier)
    (hw : w ∈ specifier.words) : t.StandsApart w := by
  obtain ⟨bodies, hlists, body, hbody, hspecifier, -⟩ := h
  have hcomma : isIdentifierChar ',' = false := by decide +kernel
  exact ((hlists.standsApart body hbody).trans
    (Text.standsApart_of_mem_fields hcomma hspecifier)).trans (Text.standsApart_of_mem_words hw)

section

variable {t name : Text} (hname : ∀ c ∈ name, isBlank c = false)
include hname

/-- A list that exports a name has it standing apart, alone or before `as default`. -/
theorem ListsExport.standsApart
    (h : ListsExport t name ∨ ListsExport t (name ++ " as default".toList)) :
    t.StandsApart name := by
  have hwords (specifier : Text) : ∀ w ∈ specifier.words, w ≠ [] ∧ ∀ c ∈ w, isBlank c = false :=
    fun w hw => ⟨Text.words_ne_nil hw, Text.not_isBlank_of_mem_words hw⟩
  rcases h with ⟨specifier, hspecifier, hspaced⟩ | ⟨specifier, hspecifier, hspaced⟩
  · obtain ⟨-, -, -, -, -, hne⟩ := id hspecifier
    have hsingle := eq_of_spaced_eq_name hname (hwords specifier) hne hspaced
    exact hspecifier.standsApart (hsingle ▸ List.mem_singleton_self name)
  · have hthree := eq_of_spaced_eq_default hname (hwords specifier) hspaced
    exact hspecifier.standsApart (hthree ▸ List.mem_cons_self)

end

namespace ExportForm

/-- What stands before the name in a default export. -/
def defaultOpening : Language Char :=
  word "export".toList * spaces * word "default".toList * spaces * asyncForm *
    (functionForm + word "class".toList * spaces + 1)

/-- What stands before the name in an exported declaration. -/
def declarationOpening : Language Char :=
  word "export".toList * spaces * (declarator * spaces + asyncForm * functionForm)

theorem byDefault_eq (name : Text) : byDefault name = defaultOpening * word name :=
  rfl

theorem byName_eq (name : Text) : byName name = declarationOpening * word name :=
  rfl

/-- The texts of a language end in a character of no identifier, or in the word `function`. -/
def EndsApart (L : Language Char) : Prop :=
  ∀ w ∈ L, w ≠ [] ∧ (w.getLast?.any isIdentifierChar = false ∨ "function".toList <:+ w)

section

variable {L M : Language Char}

theorem EndsApart.mul (L : Language Char) (hM : EndsApart M) : EndsApart (L * M) := by
  intro w hw
  obtain ⟨u, -, v, hv, rfl⟩ := Language.mem_mul.mp hw
  obtain ⟨hne, hend⟩ := hM v hv
  refine ⟨List.append_ne_nil_of_right_ne_nil u hne, ?_⟩
  rw [List.getLast?_append_of_ne_nil u hne]
  exact hend.imp id fun hfunction => hfunction.trans (List.suffix_append u v)

theorem EndsApart.add (hL : EndsApart L) (hM : EndsApart M) : EndsApart (L + M) := by
  rintro w (hw | hw)
  · exact hL w hw
  · exact hM w hw

/-- What may be left out at the end does not matter. -/
theorem EndsApart.mul_optional (hL : EndsApart L) (hM : EndsApart M) :
    EndsApart (L * (M + 1)) := by
  rw [mul_add, mul_one]
  exact (hM.mul L).add hL

theorem endsApart_spaces : EndsApart spaces := by
  rintro w ⟨hne, hblank⟩
  refine ⟨hne, Or.inl ?_⟩
  cases hlast : w.getLast? with
  | none => rfl
  | some c =>
    rw [Option.any_some, ← Bool.not_eq_true]
    intro hidentifier
    have hc := hblank c (List.mem_of_getLast? hlast)
    rw [not_isBlank_of_isIdentifierChar hidentifier] at hc
    cases hc

theorem endsApart_functionForm : EndsApart functionForm := by
  have hword : EndsApart (word "function".toList) := by
    intro w hw
    obtain rfl : w = "function".toList := hw
    exact ⟨by decide, Or.inr (List.suffix_refl _)⟩
  have hstar : EndsApart (word ['*']) := by
    intro w hw
    obtain rfl : w = ['*'] := hw
    exact ⟨by decide, Or.inl (by decide +kernel)⟩
  unfold functionForm
  rw [blanks_eq_add]
  exact ((hword.mul_optional endsApart_spaces).mul_optional hstar).mul_optional endsApart_spaces

theorem endsApart_defaultOpening : EndsApart defaultOpening := by
  have hasync : EndsApart (word "async".toList * spaces) := endsApart_spaces.mul _
  have hclass : EndsApart (word "class".toList * spaces) := endsApart_spaces.mul _
  have hkeywords :
      EndsApart (word "export".toList * spaces * word "default".toList * spaces) :=
    endsApart_spaces.mul _
  exact (hkeywords.mul_optional hasync).mul_optional (endsApart_functionForm.add hclass)

theorem endsApart_declarationOpening : EndsApart declarationOpening :=
  ((endsApart_spaces.mul declarator).add (endsApart_functionForm.mul asyncForm)).mul _

end

end ExportForm

/-- A form of exports cuts `name` out of a longer identifier of the text: the word `function` at the
end of its opening is one with the name, or an identifier goes on behind the word boundary after the
name. -/
def Text.CutsOut (t : Text) (opening : Language Char) (name : Text) : Prop :=
  ∃ front start back, t = front ++ (start ++ (name ++ back)) ∧ start ∈ opening ∧
    isWordBoundary front.getLast? start.head? = true ∧
    isWordBoundary name.getLast? back.head? = true ∧
    ("function".toList <:+ start ∨ back.head?.any isIdentifierChar = true)

/-- A form that shows in the text for a name in longer identifiers cuts it out of one. -/
theorem shows_iff_cutsOut {t name : Text} {opening : Language Char}
    (hopening : ExportForm.EndsApart opening) (hname : name ≠ []) (hlonger : t.OnlyInLonger name) :
    t.Shows (opening * ExportForm.word name) ↔ t.CutsOut opening name := by
  have hstarts {start back : Text} (hne : start ≠ []) :
      (start ++ name ++ back).head? = start.head? := by
    rw [List.append_assoc, List.head?_append_of_ne_nil start hne]
  have hends {front start : Text} : (front ++ (start ++ name)).getLast? = name.getLast? := by
    rw [← List.append_assoc, List.getLast?_append_of_ne_nil _ hname]
  constructor
  · rintro ⟨front, w, back, rfl, hw, hstart, hend⟩
    obtain ⟨start, hopen, v, rfl, rfl⟩ := Language.mem_mul.mp hw
    obtain ⟨hne, hlast⟩ := hopening start hopen
    rw [hstarts hne] at hstart
    rw [hends] at hend
    refine ⟨front, start, back, by simp, hopen, hstart, hend, ?_⟩
    -- Without `function` no identifier ends before the name, so one goes on after it.
    rcases hlast with happart | hfunction
    · right
      rcases hlonger (front ++ start) back (by simp) with hbefore | hafter
      · rw [List.getLast?_append_of_ne_nil front hne, happart] at hbefore
        cases hbefore
      · exact hafter
    · exact Or.inl hfunction
  · rintro ⟨front, start, back, rfl, hopen, hstart, hend, -⟩
    obtain ⟨hne, -⟩ := hopening start hopen
    refine ⟨front, start ++ name, back, by simp,
      Language.append_mem_mul hopen (Set.mem_singleton name), ?_, ?_⟩
    · rw [hstarts hne]
      exact hstart
    · rw [hends]
      exact hend

/-- Where all characters of identifiers belong to words, only the word `function` can be one with the
name. -/
theorem Text.CutsOut.function_infix {t name : Text} {opening : Language Char}
    (h : t.CutsOut opening name) (hname : isIdentifier name = true)
    (hwords : ∀ c ∈ t, isIdentifierChar c = true → isWordChar c = true) :
    "function".toList ++ name <:+: t := by
  obtain ⟨front, start, back, rfl, -, -, hboundary, hreason⟩ := h
  rcases hreason with ⟨before, rfl⟩ | hafter
  · exact ⟨front ++ before, back, by simp⟩
  · exfalso
    have hne : name ≠ [] := by
      rintro rfl
      cases hname
    obtain ⟨c, hc, hnext⟩ := (Option.any_eq_true _ _).mp hafter
    obtain ⟨back, rfl⟩ := List.head?_eq_some_iff.mp hc
    -- The neighbours at the end of the name belong to one word.
    have hlast : isWordChar (name.getLast hne) = true := by
      apply hwords
      · simp
      · exact isIdentifierChar_of_isIdentifier hname _ (List.getLast_mem hne)
    have hinside : isWordChar c = true := hwords c (by simp) hnext
    rw [List.getLast?_eq_some_getLast hne] at hboundary
    simp [isWordBoundary, hlast, hinside] at hboundary

/-- A name that stands in a text only inside longer identifiers counts as exported exactly when a
form of exports cuts it out of one of them, as its default form or else as the form of a
declaration. Where all characters of identifiers belong to words, and the word `function` is nowhere
one with the name, it does not count as exported. -/
theorem classifyExport_of_onlyInLonger {t name : Text} (hname : isIdentifier name = true)
    (hlonger : t.OnlyInLonger name) :
    (classifyExport t name = .matched .default ↔ t.CutsOut ExportForm.defaultOpening name) ∧
      (classifyExport t name = .matched .named ↔ ¬ t.CutsOut ExportForm.defaultOpening name ∧
        t.CutsOut ExportForm.declarationOpening name) ∧
      (classifyExport t name = .fallback .default ↔ ¬ t.CutsOut ExportForm.defaultOpening name ∧
        ¬ t.CutsOut ExportForm.declarationOpening name) ∧
      ((∀ c ∈ t, isIdentifierChar c = true → isWordChar c = true) →
        ¬ "function".toList ++ name <:+: t → classifyExport t name = .fallback .default) := by
  have hne : name ≠ [] := by
    rintro rfl
    cases hname
  have hsolid : ∀ c ∈ name, isBlank c = false := fun c hc =>
    not_isBlank_of_isIdentifierChar (isIdentifierChar_of_isIdentifier hname c hc)
  -- No list of exports has the name.
  have hunlisted : ¬ (ListsExport t name ∨ ListsExport t (name ++ " as default".toList)) :=
    fun h => Text.onlyInLonger_iff.mp hlonger (ListsExport.standsApart hsolid h)
  rw [not_or] at hunlisted
  have hdefault : isDefaultExport t name = true ↔ t.CutsOut ExportForm.defaultOpening name := by
    rw [isDefaultExport_iff hsolid, ← shows_iff_cutsOut ExportForm.endsApart_defaultOpening hne
      hlonger, ← ExportForm.byDefault_eq]
    exact or_iff_left hunlisted.2
  have hnamed : isNamedExport t name = true ↔ t.CutsOut ExportForm.declarationOpening name := by
    rw [isNamedExport_iff, ← shows_iff_cutsOut ExportForm.endsApart_declarationOpening hne hlonger,
      ← ExportForm.byName_eq]
    exact or_iff_left hunlisted.1
  rw [classifyExport_eq_default_iff, classifyExport_eq_named_iff, classifyExport_eq_fallback_iff,
    hdefault, hnamed]
  refine ⟨Iff.rfl, Iff.rfl, Iff.rfl, ?_⟩
  intro hwords hfunction
  exact ⟨fun h => hfunction (h.function_infix hname hwords),
    fun h => hfunction (h.function_infix hname hwords)⟩

/-- A dollar sign goes on with an identifier, but not with its word: the constant counts as an
export of the name that it begins with, and the function does not. -/
theorem classifyExport_of_onlyInLonger_dollar :
    let t : Text := "export default function FooBar() \x7b\x7d\nexport const Foo$ = 1\n".toList
    let name : Text := "Foo".toList
    isIdentifier name = true ∧ t.OnlyInLonger name ∧
      ¬ t.CutsOut ExportForm.defaultOpening name ∧
      t.CutsOut ExportForm.declarationOpening name := by
  intro t name
  have hname : isIdentifier name = true := by decide +kernel
  have hlonger : t.OnlyInLonger name := by decide +kernel
  have hnamed : classifyExport t name = .matched .named := by decide +kernel
  exact ⟨hname, hlonger, (classifyExport_of_onlyInLonger hname hlonger).2.1.mp hnamed⟩

end TestScaffold
