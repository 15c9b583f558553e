import TestScaffold.Proofs.Source.ExportList
import TestScaffold.Proofs.Text.LineEndings

/-!
Exports and line endings. In the forms of exports the white space is of any kind and length, and no
word has a line feed; so a text of a form is one with carriage returns too, and conversely, provided
that no part of the form ends between a carriage return and its line feed. Where the next part
begins with a word this is plain, and there is no word boundary at such a place either.
-/

namespace TestScaffold

namespace ExportForm

/-- Line endings make no difference to the texts of a language. -/
def Blind (L : Language Char) : Prop :=
  ∀ w : Text, w.withReturns ∈ L ↔ w ∈ L

/-- Besides, its texts begin in the line in which the text before them ends. -/
structure InLine (L : Language Char) : Prop where
  blind : Blind L
  head?_ne : ∀ w ∈ L, w.head? ≠ some '\n'

section

variable {L M : Language Char}

theorem Blind.add (hL : Blind L) (hM : Blind M) : Blind (L + M) := by
  intro w
  rw [Language.mem_add, Language.mem_add, hL, hM]

/-- A text of the product is cut at the same place, if there is no line ending around it. -/
theorem Blind.mul (hL : Blind L) (hM : Blind M)
    (hcut : ∀ u ∈ L, ∀ v ∈ M, ¬ (u.getLast? = some '\r' ∧ v.head? = some '\n')) :
    Blind (L * M) := by
  intro w
  rw [Language.mem_mul, Language.mem_mul]
  constructor
  · rintro ⟨u, hu, v, hv, hw⟩
    obtain ⟨a, b, rfl, rfl, rfl⟩ := Text.exists_of_withReturns_eq_append hw.symm (hcut u hu v hv)
    exact ⟨a, (hL a).mp hu, b, (hM b).mp hv, rfl⟩
  · rintro ⟨a, ha, b, hb, rfl⟩
    exact ⟨_, (hL a).mpr ha, _, (hM b).mpr hb, (Text.withReturns_append a b).symm⟩

theorem blind_word {w : Text} (hfeed : '\n' ∉ w) : Blind (word w) :=
  fun _ => Text.withReturns_eq_iff hfeed

theorem blind_blanks : Blind blanks :=
  fun _ => Text.forall_mem_withReturns Text.isBlank_return

theorem blind_spaces : Blind spaces :=
  fun w => and_congr Text.withReturns_ne_nil_iff (blind_blanks w)

theorem InLine.add (hL : InLine L) (hM : InLine M) : InLine (L + M) where
  blind := hL.blind.add hM.blind
  head?_ne w hw := hw.elim (hL.head?_ne w) (hM.head?_ne w)

theorem inLine_word {w : Text} (hfeed : '\n' ∉ w) : InLine (word w) where
  blind := blind_word hfeed
  head?_ne u hu hhead := by
    obtain rfl : u = w := hu
    exact hfeed (List.mem_of_mem_head? hhead)

/-- A keyword and what follows it begin in line, whatever follows. -/
theorem Blind.keyword_mul (hM : Blind M) {keyword : Text} (hne : keyword ≠ [])
    (hfeed : '\n' ∉ keyword) (hreturn : '\r' ∉ keyword) : InLine (word keyword * M) where
  blind := by
    apply (blind_word hfeed).mul hM
    rintro u hu v - ⟨hlast, -⟩
    obtain rfl : u = keyword := hu
    exact hreturn (List.mem_of_getLast? hlast)
  head?_ne w hw hhead := by
    obtain ⟨u, hu, v, -, rfl⟩ := Language.mem_mul.mp hw
    obtain rfl : u = keyword := hu
    rw [List.head?_append_of_ne_nil u hne] at hhead
    exact hfeed (List.mem_of_mem_head? hhead)

theorem InLine.blanks_mul (hM : InLine M) : Blind (blanks * M) :=
  blind_blanks.mul hM.blind fun _ _ v hv hcut => hM.head?_ne v hv hcut.2

theorem InLine.spaces_mul (hM : InLine M) : Blind (spaces * M) :=
  blind_spaces.mul hM.blind fun _ _ v hv hcut => hM.head?_ne v hv hcut.2

theorem InLine.async_mul (hM : InLine M) : InLine (asyncForm * M) := by
  unfold asyncForm
  rw [add_mul, one_mul, mul_assoc]
  exact (hM.spaces_mul.keyword_mul (by decide) (by decide) (by decide)).add hM

theorem blanks_mul_blanks : blanks * blanks = blanks := by
  ext w
  rw [Language.mem_mul]
  constructor
  · rintro ⟨u, hu, v, hv, rfl⟩
    exact List.forall_mem_append.mpr ⟨hu, hv⟩
  · intro hw
    exact ⟨[], List.forall_mem_nil _, w, hw, rfl⟩

/-- Without a star the white space on its two sides is one. -/
theorem functionForm_eq :
    functionForm = word "function".toList * (blanks * (word ['*'] * blanks) + blanks) := by
  unfold functionForm
  rw [mul_assoc, mul_assoc, add_mul, one_mul, mul_add, blanks_mul_blanks]

theorem InLine.function_mul (hM : InLine M) : InLine (functionForm * M) := by
  rw [functionForm_eq, mul_assoc, add_mul, mul_assoc, mul_assoc]
  have hstar : InLine (word ['*'] * (blanks * M)) :=
    hM.blanks_mul.keyword_mul (by decide) (by decide) (by decide)
  exact (hstar.blanks_mul.add hM.blanks_mul).keyword_mul (by decide) (by decide) (by decide)

end

section

variable {name : Text} (hname : '\n' ∉ name)
include hname

theorem blind_byDefault : Blind (byDefault name) := by
  have hN := inLine_word hname
  have hclass : InLine (word "class".toList * (spaces * word name)) :=
    hN.spaces_mul.keyword_mul (by decide) (by decide) (by decide)
  have hkind := (hN.function_mul.add hclass).add hN
  have hdefault : InLine (word "default".toList * (spaces * _)) :=
    hkind.async_mul.spaces_mul.keyword_mul (by decide) (by decide) (by decide)
  have hexport : InLine (word "export".toList * (spaces * _)) :=
    hdefault.spaces_mul.keyword_mul (by decide) (by decide) (by decide)
  unfold byDefault
  simp only [mul_assoc, add_mul, one_mul]
  exact hexport.blind

theorem blind_byName : Blind (byName name) := by
  have hN := inLine_word hname
  have hkeyword {keyword : Text} (hne : keyword ≠ []) (hfeed : '\n' ∉ keyword)
      (hreturn : '\r' ∉ keyword) : InLine (word keyword * (spaces * word name)) :=
    hN.spaces_mul.keyword_mul hne hfeed hreturn
  have hdeclared : InLine (declarator * (spaces * word name)) := by
    unfold declarator
    rw [add_mul, add_mul, add_mul]
    exact (((hkeyword (by decide) (by decide) (by decide)).add
      (hkeyword (by decide) (by decide) (by decide))).add
      (hkeyword (by decide) (by decide) (by decide))).add
      (hkeyword (by decide) (by decide) (by decide))
  have hkind := hdeclared.add hN.function_mul.async_mul
  have hexport : InLine (word "export".toList * (spaces * _)) :=
    hkind.spaces_mul.keyword_mul (by decide) (by decide) (by decide)
  unfold byName
  simp only [mul_assoc, add_mul]
  exact hexport.blind

end

end ExportForm

/-- There is no word boundary between a carriage return and its line feed. -/
theorem not_return_feed_of_isWordBoundary {before after : Option Char}
    (h : isWordBoundary before after = true) : ¬ (before = some '\r' ∧ after = some '\n') := by
  rintro ⟨rfl, rfl⟩
  exact absurd h (by decide +kernel)

/-- A form shows in both texts or in neither. -/
theorem Text.shows_withReturns {form : Language Char} (hform : ExportForm.Blind form) (t : Text) :
    t.withReturns.Shows form ↔ t.Shows form := by
  constructor
  · rintro ⟨front, w, back, ht, hw, hstart, hend⟩
    obtain ⟨front, v, rfl, rfl, hv⟩ :=
      exists_of_withReturns_eq_append ht (not_return_feed_of_isWordBoundary hstart)
    have hcut : ¬ (w.getLast? = some '\r' ∧ back.head? = some '\n') := by
      rintro ⟨hlast, hhead⟩
      apply not_return_feed_of_isWordBoundary hend
      rw [List.getLast?_append, hlast]
      exact ⟨rfl, hhead⟩
    obtain ⟨w, back, rfl, rfl, rfl⟩ := exists_of_withReturns_eq_append hv hcut
    refine ⟨front, w, back, rfl, (hform w).mp hw, ?_, ?_⟩
    · rw [← withReturns_append, getLast?_withReturns, isWordBoundary_withReturns] at hstart
      exact hstart
    · rw [← withReturns_append, getLast?_withReturns, isWordBoundary_withReturns] at hend
      exact hend
  · rintro ⟨front, w, back, rfl, hw, hstart, hend⟩
    refine ⟨front.withReturns, w.withReturns, back.withReturns, ?_, (hform w).mpr hw, ?_, ?_⟩
    · rw [withReturns_append, withReturns_append]
    · rw [← withReturns_append, getLast?_withReturns, isWordBoundary_withReturns]
      exact hstart
    · rw [← withReturns_append, getLast?_withReturns, isWordBoundary_withReturns]
      exact hend

section

variable {before : Option Char} {t body rest : Text}

/-- A list of exports is one with carriage returns too. -/
theorem ExportListAt.withReturns (h : ExportListAt before t body rest) :
    ExportListAt before t.withReturns body.withReturns rest.withReturns := by
  obtain ⟨hboundary, hbody, gap, hgap, rfl⟩ := h
  refine ⟨?_, ?_, Text.withReturns gap, (ExportForm.blind_blanks gap).mpr hgap, ?_⟩
  · rw [Text.isWordBoundary_withReturns]
    exact hboundary
  · rw [Text.mem_withReturns_iff (by decide)]
    exact hbody
  · have hopen : '{' ≠ '\n' := by decide
    have hclose : '}' ≠ '\n' := by decide
    rw [Text.withReturns_append, Text.withReturns_append, Text.withReturns_cons hopen,
      Text.withReturns_append, Text.withReturns_cons hclose]
    rfl

/-- Its parts are followed by a character of its own each, so it is cut at the same places. -/
theorem ExportListAt.of_withReturns (h : ExportListAt before t.withReturns body rest) :
    ∃ body' rest', ExportListAt before t body' rest' := by
  obtain ⟨hboundary, hbody, gap, hgap, ht⟩ := h
  obtain ⟨keyword, u, rfl, hkeyword, hu⟩ :=
    Text.exists_of_withReturns_eq_append ht (fun h => absurd h.1 (by decide))
  obtain ⟨gap', v, rfl, rfl, hv⟩ :=
    Text.exists_of_withReturns_eq_append hu (fun h => absurd (Option.some.inj h.2) (by decide))
  obtain ⟨inside, rfl, hinside⟩ := Text.exists_of_withReturns_eq_cons hv (by decide)
  obtain ⟨body', tail, rfl, rfl, htail⟩ :=
    Text.exists_of_withReturns_eq_append hinside (fun h => absurd (Option.some.inj h.2) (by decide))
  obtain ⟨rest', rfl, -⟩ := Text.exists_of_withReturns_eq_cons htail (by decide)
  refine ⟨body', rest', ?_, ?_, gap', (ExportForm.blind_blanks gap').mp hgap, ?_⟩
  · rw [Text.isWordBoundary_withReturns] at hboundary
    exact hboundary
  · rw [Text.mem_withReturns_iff (by decide)] at hbody
    exact hbody
  · rw [(Text.withReturns_eq_iff (by decide)).mp hkeyword]

end

theorem ExportListAt.rest_suffix {before : Option Char} {t body rest : Text}
    (h : ExportListAt before t body rest) : rest <:+ t := by
  obtain ⟨-, -, gap, -, rfl⟩ := h
  exact ⟨"export".toList ++ (gap ++ '{' :: (body ++ ['}'])), by simp⟩

theorem exportBlock?_withReturns (before : Option Char) (t : Text) :
    exportBlock? ⟨before, t.withReturns⟩ = (exportBlock? ⟨before, t⟩).map
      fun found => (found.1.withReturns, (Text.withReturns (t.take found.2)).length) := by
  cases hblock : exportBlock? ⟨before, t⟩ with
  | none =>
    apply exportBlock?_eq_none
    intro body rest hlist
    obtain ⟨body', rest', hlist'⟩ := hlist.of_withReturns
    rw [exportBlock?_iff.mpr ⟨rest', hlist', rfl⟩] at hblock
    cases hblock
  | some found =>
    obtain ⟨body, n⟩ := found
    obtain ⟨rest, hlist, rfl⟩ := exportBlock?_iff.mp hblock
    refine exportBlock?_iff.mpr ⟨_, hlist.withReturns, ?_⟩
    -- The list is what stands in front of the rest.
    obtain ⟨list, rfl⟩ := hlist.rest_suffix
    rw [List.length_append, Nat.add_sub_cancel, List.take_left, Text.withReturns_append,
      List.length_append, Nat.add_sub_cancel]

/-- The specifiers are the same, for they are read word by word. -/
theorem exportSpecifiers_withReturns (t : Text) :
    exportSpecifiers t.withReturns = exportSpecifiers t := by
  have hfeed (before : Option Char) (u : Text) : exportBlock? ⟨before, '\n' :: u⟩ = none := rfl
  have hwords (block : Text) : (Text.fields block.withReturns ',').map Text.words =
      (Text.fields block ',').map Text.words := by
    rw [Text.fields_withReturns (by decide) (by decide), List.map_map]
    exact List.map_congr_left fun part _ => Text.words_withReturns part
  unfold exportSpecifiers
  rw [Text.finds_withReturns hfeed fun front back _ => exportBlock?_withReturns _ back,
    List.flatMap_map]
  simp only [hwords]

/-- Line endings make no difference to how a text exports a name. -/
theorem classifyExport_withReturns {name : Text} (hname : '\n' ∉ name) (t : Text) :
    classifyExport t.withReturns name = classifyExport t name := by
  have hdefault : t.withReturns.holdsSomewhere (defaultExport name).accepts =
      t.holdsSomewhere (defaultExport name).accepts := by
    rw [Bool.eq_iff_iff, defaultExport_iff, defaultExport_iff]
    exact Text.shows_withReturns (ExportForm.blind_byDefault hname) t
  have hnamed : t.withReturns.holdsSomewhere (namedExport name).accepts =
      t.holdsSomewhere (namedExport name).accepts := by
    rw [Bool.eq_iff_iff, namedExport_iff, namedExport_iff]
    exact Text.shows_withReturns (ExportForm.blind_byName hname) t
  unfold classifyExport isDefaultExport isNamedExport
  rw [hdefault, hnamed, exportSpecifiers_withReturns]

end TestScaffold
