import TestScaffold.Proofs.Source.Declaration

/-!
The clause of a declaration, read back. Braces are cut out first, then the parts between the
commas are taken one by one, so names are found in whatever white space they stand.
-/

namespace TestScaffold

namespace Written

def isNameChar (c : Char) : Bool :=
  isBlank c || isIdentifierChar c

def isClauseChar (c : Char) : Bool :=
  isNameChar c || "*,\x7b\x7d".toList.contains c

theorem isClauseChar_of_isNameChar {c : Char} (h : isNameChar c = true) : isClauseChar c = true := by
  simp [isClauseChar, h]

theorem isNameChar_of_isBlank {c : Char} (h : isBlank c = true) : isNameChar c = true := by
  simp [isNameChar, h]

theorem isNameChar_of_isIdentifierChar {c : Char} (h : isIdentifierChar c = true) :
    isNameChar c = true := by
  simp [isNameChar, h]

theorem not_mem_of_forall {P : Char → Bool} {t : Text} {c : Char} (h : ∀ d ∈ t, P d = true)
    (hc : P c = false) : c ∉ t := by
  intro hmem
  rw [h c hmem] at hc
  cases hc

namespace Identifier

variable (n : Identifier)

theorem isIdentifierChar_of_mem : ∀ c ∈ n.text, isIdentifierChar c = true :=
  isIdentifierChar_of_isIdentifier n.valid

theorem ne_nil : n.text ≠ [] := by
  intro h
  have hvalid := n.valid
  rw [h] at hvalid
  cases hvalid

theorem not_isBlank_of_mem : ∀ c ∈ n.text, isBlank c = false := fun c hc =>
  not_isBlank_of_isIdentifierChar (n.isIdentifierChar_of_mem c hc)

theorem isNameChar_of_mem : ∀ c ∈ n.text, isNameChar c = true := fun c hc =>
  isNameChar_of_isIdentifierChar (n.isIdentifierChar_of_mem c hc)

theorem solid : n.text.Solid :=
  Text.solid_of_forall n.ne_nil n.not_isBlank_of_mem

end Identifier

theorem Gap.isNameChar_of_mem (g : Gap) : ∀ c ∈ g.text, isNameChar c = true := fun c hc =>
  isNameChar_of_isBlank (g.blank c hc)

theorem isNameChar_as : ∀ c ∈ "as".toList, isNameChar c = true :=
  List.all_iff_forall_prop.mp (by decide)

theorem isNameChar_type : ∀ c ∈ typeKeyword, isNameChar c = true :=
  List.all_iff_forall_prop.mp (by decide)

theorem Alias.isNameChar_of_mem (a : Alias) : ∀ c ∈ a.text, isNameChar c = true := by
  unfold Alias.text
  simp only [List.forall_mem_append]
  exact ⟨a.before.isNameChar_of_mem, isNameChar_as, a.after.isNameChar_of_mem,
    a.name.isNameChar_of_mem⟩

theorem isNameChar_of_mem_alias (renamed : Option Alias) :
    ∀ c ∈ (renamed.map Alias.text).getD [], isNameChar c = true := by
  cases renamed with
  | none => simp
  | some a => exact a.isNameChar_of_mem

theorem Specifier.isNameChar_of_mem (s : Specifier) : ∀ c ∈ s.text, isNameChar c = true := by
  cases s with
  | value name renamed =>
    exact List.forall_mem_append.mpr ⟨name.isNameChar_of_mem, isNameChar_of_mem_alias renamed⟩
  | typeOnly space name ne_as renamed =>
    simp only [Specifier.text, List.forall_mem_append]
    exact ⟨isNameChar_type, space.isNameChar_of_mem, name.isNameChar_of_mem,
      isNameChar_of_mem_alias renamed⟩

theorem Entry.isNameChar_of_mem (e : Entry) : ∀ c ∈ e.text, isNameChar c = true := by
  simp only [Entry.text, List.forall_mem_append]
  exact ⟨e.before.isNameChar_of_mem, e.specifier.isNameChar_of_mem, e.after.isNameChar_of_mem⟩

theorem Identifier.words_append (n : Identifier) {g : Text} (hg : ∀ c ∈ g, isBlank c = true) :
    (n.text ++ g).words = [n.text] := by
  by_cases hgap : g = []
  · rw [hgap, List.append_nil]
    exact Text.words_of_word n.ne_nil n.not_isBlank_of_mem
  · have hcut := Text.words_append_append n.ne_nil n.not_isBlank_of_mem hg hgap []
    rwa [List.append_nil] at hcut

def aliasWords : Option Alias → List Text
  | none => []
  | some a => ["as".toList, a.name.text]

theorem words_name_append (n : Identifier) (renamed : Option Alias) {g : Text}
    (hg : ∀ c ∈ g, isBlank c = true) :
    (n.text ++ ((renamed.map Alias.text).getD [] ++ g)).words = n.text :: aliasWords renamed := by
  cases renamed with
  | none => exact n.words_append hg
  | some a =>
    have has : ∀ c ∈ "as".toList, isBlank c = false :=
      List.all_iff_forall_prop.mp (by decide)
    simp only [Option.map_some, Option.getD_some, Alias.text, List.append_assoc]
    rw [Text.words_append_append n.ne_nil n.not_isBlank_of_mem a.before.blank a.before.ne_nil,
      Text.words_append_append (by decide) has a.after.blank a.after.ne_nil,
      a.name.words_append hg]
    rfl

theorem specifierName?_words_eq {t : Text} {name : Text} {others : List Text}
    (h : t.words = name :: others) :
    specifierName? t =
      if name = typeKeyword ∧ others ≠ [] ∧ others.head? ≠ some "as".toList then none
      else if isIdentifier name then some name
      else none := by
  unfold specifierName?
  rw [h]

/-- A specifier gives its name, whatever white space surrounds it; one that begins with `type`
gives none, unless `type` is what it names. -/
theorem Entry.specifierName?_text (e : Entry) : specifierName? e.text = e.specifier.name? := by
  obtain ⟨before, specifier, after⟩ := e
  cases specifier with
  | value name renamed =>
    have hwords : (Entry.text ⟨before, .value name renamed, after⟩).words =
        name.text :: aliasWords renamed := by
      simp only [Entry.text, Specifier.text, List.append_assoc]
      rw [Text.words_append_of_forall before.blank, words_name_append name renamed after.blank]
    -- A value called `type` stands alone or before `as`.
    have hvalue : ¬ (name.text = typeKeyword ∧ aliasWords renamed ≠ [] ∧
        (aliasWords renamed).head? ≠ some "as".toList) := by
      rintro ⟨-, hne, hhead⟩
      cases renamed with
      | none => exact hne rfl
      | some a => exact hhead rfl
    rw [specifierName?_words_eq hwords, if_neg hvalue, if_pos name.valid]
    rfl
  | typeOnly space name ne_as renamed =>
    have htype : ∀ c ∈ typeKeyword, isBlank c = false :=
      List.all_iff_forall_prop.mp (by decide)
    have hwords : (Entry.text ⟨before, .typeOnly space name ne_as renamed, after⟩).words =
        typeKeyword :: name.text :: aliasWords renamed := by
      simp only [Entry.text, Specifier.text, List.append_assoc]
      rw [Text.words_append_of_forall before.blank,
        Text.words_append_append (by decide) htype space.blank space.ne_nil,
        words_name_append name renamed after.blank]
    rw [specifierName?_words_eq hwords, if_pos ⟨rfl, by simp, by simpa using ne_as⟩]
    rfl

theorem Gap.specifierName?_text (g : Gap) : specifierName? g.text = none := by
  unfold specifierName?
  rw [Text.words_of_forall g.blank]

namespace Braces

variable (b : Braces)

theorem isNameChar_of_mem_parts : ∀ part ∈ b.parts, ∀ c ∈ part, isNameChar c = true := by
  intro part hpart
  unfold parts at hpart
  rcases List.mem_append.mp hpart with hentry | hlast
  · obtain ⟨e, -, rfl⟩ := List.mem_map.mp hentry
    exact e.isNameChar_of_mem
  · obtain ⟨g, -, rfl⟩ := Option.map_eq_some_iff.mp (Option.mem_toList.mp hlast)
    exact g.isNameChar_of_mem

theorem names_fields : (Text.fields (Text.join [','] b.parts) ',').filterMap specifierName? =
    b.names := by
  have hentries : (b.entries.map Entry.text).filterMap specifierName? = b.names := by
    rw [List.filterMap_map]
    exact List.filterMap_congr fun e _ => e.specifierName?_text
  have hlast : (b.last.map Gap.text).toList.filterMap specifierName? = [] := by
    cases b.last with
    | none => rfl
    | some g => simp [g.specifierName?_text]
  -- Without parts the text between the braces is empty, which still makes one field.
  by_cases hnil : b.parts = []
  · have hempty : b.entries.map Entry.text = [] := (List.append_eq_nil_iff.mp hnil).1
    rw [hempty] at hentries
    rw [hnil, ← hentries]
    rfl
  · have hcomma : ∀ part ∈ b.parts, ',' ∉ part := fun part hpart =>
      not_mem_of_forall (b.isNameChar_of_mem_parts part hpart) (by decide)
    unfold Text.fields Text.join
    rw [List.splitOn_intercalate ',' hcomma hnil]
    unfold parts
    rw [List.filterMap_append, hentries, hlast, List.append_nil]

theorem isNameChar_of_mem_join : ∀ c ∈ Text.join [','] b.parts, isNameChar c = true ∨ c = ',' := by
  intro c hc
  rcases Text.mem_join hc with hsep | ⟨part, hpart, hmem⟩
  · exact Or.inr (List.mem_singleton.mp hsep)
  · exact Or.inl (b.isNameChar_of_mem_parts part hpart c hmem)

theorem not_mem_join {c : Char} (hname : isNameChar c = false) (hcomma : c ≠ ',') :
    c ∉ Text.join [','] b.parts := by
  intro hc
  rcases b.isNameChar_of_mem_join c hc with hmem | heq
  · rw [hmem] at hname
    cases hname
  · exact hcomma heq

end Braces

theorem Identifier.isClauseChar_of_mem (n : Identifier) : ∀ c ∈ n.text, isClauseChar c = true :=
  fun c hc => isClauseChar_of_isNameChar (n.isNameChar_of_mem c hc)

theorem Gap.isClauseChar_of_mem (g : Gap) : ∀ c ∈ g.text, isClauseChar c = true := fun c hc =>
  isClauseChar_of_isNameChar (g.isNameChar_of_mem c hc)

theorem isClauseChar_type : ∀ c ∈ typeKeyword, isClauseChar c = true :=
  List.all_iff_forall_prop.mp (by decide)

theorem Group.isClauseChar_of_mem (g : Group) : ∀ c ∈ g.text, isClauseChar c = true := by
  cases g with
  | whole before after name =>
    have hstar : isClauseChar '*' = true := by decide
    have has : ∀ c ∈ "as".toList, isClauseChar c = true :=
      List.all_iff_forall_prop.mp (by decide)
    simp only [text, List.forall_mem_cons, List.forall_mem_append]
    exact ⟨hstar, before.isClauseChar_of_mem, has, after.isClauseChar_of_mem,
      name.isClauseChar_of_mem⟩
  | braces list =>
    have hopen : isClauseChar '{' = true := by decide
    have hclose : isClauseChar '\x7d' = true := by decide
    simp only [text, Braces.text, List.forall_mem_cons, List.forall_mem_append,
      List.not_mem_nil, false_imp_iff, implies_true, and_true]
    refine ⟨hopen, ?_, hclose⟩
    intro c hc
    rcases list.isNameChar_of_mem_join c hc with hname | rfl
    · exact isClauseChar_of_isNameChar hname
    · decide

theorem Names.isClauseChar_of_mem (names : Names) : ∀ c ∈ names.text, isClauseChar c = true := by
  cases names with
  | default name => exact name.isClauseChar_of_mem
  | group g => exact g.isClauseChar_of_mem
  | both name before after g =>
    have hcomma : isClauseChar ',' = true := by decide
    simp only [text, List.forall_mem_cons, List.forall_mem_append]
    exact ⟨⟨name.isClauseChar_of_mem, before.isClauseChar_of_mem⟩, hcomma,
      after.isClauseChar_of_mem, g.isClauseChar_of_mem⟩

theorem Clause.isClauseChar_of_mem (clause : Clause) :
    ∀ c ∈ clause.text, isClauseChar c = true := by
  cases clause with
  | value names => exact names.isClauseChar_of_mem
  | typeOnly space names =>
    simp only [text, List.forall_mem_append]
    exact ⟨isClauseChar_type, space.isClauseChar_of_mem, names.isClauseChar_of_mem⟩
  | typeJoined g =>
    exact List.forall_mem_append.mpr ⟨isClauseChar_type, g.isClauseChar_of_mem⟩

theorem forall_ne_of_not_mem {t : Text} {c : Char} (h : c ∉ t) :
    ∀ d ∈ t, decide (d ≠ c) = true := by
  intro d hd
  rw [decide_eq_true_eq]
  rintro rfl
  exact h hd

theorem cutBraces?_of_not_mem {t : Text} (h : '{' ∉ t) : cutBraces? t = none := by
  unfold cutBraces?
  rw [List.dropWhile_eq_nil_iff.mpr (forall_ne_of_not_mem h)]

/-- Braces are cut out of the text around them. -/
theorem cutBraces?_append {before inner : Text} (hbefore : '{' ∉ before) (hinner : '}' ∉ inner)
    (after : Text) :
    cutBraces? (before ++ '{' :: (inner ++ '}' :: after)) = some (inner, before ++ after) := by
  have hopen := forall_ne_of_not_mem hbefore
  have hclose := forall_ne_of_not_mem hinner
  have hat : ∀ c : Char, decide (c ≠ c) = false := by simp
  unfold cutBraces?
  rw [Text.dropWhile_append_cons hopen (hat '{')]
  simp only [Text.takeWhile_append_cons hopen (hat '{'),
    Text.takeWhile_append_cons hclose (hat '\x7d'),
    Text.dropWhile_append_cons hclose (hat '\x7d'), List.drop_succ_cons, List.drop_zero]

theorem Identifier.not_mem (n : Identifier) {c : Char} (hc : isIdentifierChar c = false) :
    c ∉ n.text :=
  not_mem_of_forall n.isIdentifierChar_of_mem hc

theorem addPart_name (b : Bindings) (n : Identifier) :
    b.addPart n.text = { b with defaultName := some n.text } := by
  have hstar : '*' ∉ n.text := n.not_mem (by decide)
  unfold Bindings.addPart
  split
  · rename_i star htext
    rw [htext] at hstar
    exact absurd List.mem_cons_self hstar
  · rw [if_pos n.valid]

theorem addPart_of_not_isIdentifier (b : Bindings) {c : Char} {t : Text} (hc : c ≠ '*')
    (h : isIdentifier (c :: t) = false) : b.addPart (c :: t) = b := by
  unfold Bindings.addPart
  split
  · rename_i star htext
    exact absurd (List.cons.inj htext).1 hc
  · rw [if_neg (by simp [h])]

theorem addPart_whole (b : Bindings) (before : Gap) (after : Space) (name : Identifier) :
    b.addPart (Group.whole before after name).text = { b with wholeName := some name.text } := by
  have has : Text.Solid ("as".toList ++ (after.text ++ name.text)) := by
    have hword : Text.Solid "as".toList :=
      Text.solid_of_forall (by decide) (List.all_iff_forall_prop.mp (by decide))
    have hsolid := hword.append name.solid after.text
    rwa [List.append_assoc] at hsolid
  have hstar : Text.trim (before.text ++ ("as".toList ++ (after.text ++ name.text))) =
      "as".toList ++ (after.text ++ name.text) := has.trim_append_left before.blank
  have hname : Text.trim (after.text ++ name.text) = name.text :=
    name.solid.trim_append_left after.blank
  have hafter : Text.after? "as".toList ("as".toList ++ (after.text ++ name.text)) =
      some (after.text ++ name.text) := Text.after?_eq_some_iff.mpr rfl
  simp only [Group.text, Bindings.addPart, hstar, hafter, Option.map_some, Option.getD_some, hname,
    name.valid, if_true]

theorem Group.solid (g : Group) : g.text.Solid := by
  cases g with
  | whole before after name =>
    have hstar : Text.Solid ['*'] :=
      Text.solid_of_forall (by decide) (List.all_iff_forall_prop.mp (by decide))
    have hsolid := hstar.append name.solid (before.text ++ ("as".toList ++ after.text))
    simpa [Group.text] using hsolid
  | braces list =>
    have hopen : Text.Solid ['{'] :=
      Text.solid_of_forall (by decide) (List.all_iff_forall_prop.mp (by decide))
    have hclose : Text.Solid ['}'] :=
      Text.solid_of_forall (by decide) (List.all_iff_forall_prop.mp (by decide))
    have hsolid := hopen.append hclose (Text.join [','] list.parts)
    simpa [Group.text, Braces.text] using hsolid

theorem Names.solid (names : Names) : names.text.Solid := by
  cases names with
  | default name => exact name.solid
  | group g => exact g.solid
  | both name before after g =>
    have hsolid := name.solid.append g.solid (before.text ++ ',' :: after.text)
    simpa [Names.text] using hsolid

theorem Clause.solid (clause : Clause) : clause.text.Solid := by
  have htype : Text.Solid typeKeyword :=
    Text.solid_of_forall (by decide) (List.all_iff_forall_prop.mp (by decide))
  cases clause with
  | value names => exact names.solid
  | typeOnly space names =>
    have hsolid := htype.append names.solid space.text
    rwa [List.append_assoc] at hsolid
  | typeJoined g =>
    have hsolid := htype.append g.solid []
    rwa [List.append_nil] at hsolid

theorem isTypeClause_of_name (n : DefaultName) {t : Text}
    (ht : ∀ c, t.head? = some c → isIdentifierChar c = false) :
    Bindings.isTypeClause (n.text ++ t) = false := by
  unfold Bindings.isTypeClause
  cases hafter : Text.after? typeKeyword (n.text ++ t) with
  | none => rfl
  | some rest =>
    -- Either the name ends within the word `type`, or it goes on after it.
    have hsplit := Text.after?_eq_some_iff.mp hafter
    rcases List.append_eq_append_iff.mp hsplit with ⟨more, htype, hrest⟩ | ⟨more, hname, hrest⟩
    · cases more with
      | nil => exact absurd (htype.trans (List.append_nil _)).symm n.ne_type
      | cons c more =>
        have hword : ∀ d ∈ typeKeyword, isIdentifierChar d = true :=
          List.all_iff_forall_prop.mp (by decide)
        have hc : isIdentifierChar c = true := by
          apply hword
          rw [htype]
          exact List.mem_append_right _ List.mem_cons_self
        rw [ht c (by rw [hrest]; rfl)] at hc
        cases hc
    · cases more with
      | nil => exact absurd (hname.trans (List.append_nil _)) n.ne_type
      | cons c more =>
        have hmem : c ∈ n.text := by
          rw [hname]
          exact List.mem_append_right _ List.mem_cons_self
        have hblank : isBlank c = false := n.not_isBlank_of_mem c hmem
        have hbrace : c ≠ '{' := by
          rintro rfl
          exact n.not_mem (by decide) hmem
        simp [hrest, hblank, hbrace]

theorem isTypeClause_group (g : Group) : Bindings.isTypeClause g.text = false := by
  cases g with
  | whole before after name => rfl
  | braces list => rfl

theorem isTypeClause_names (names : Names) : Bindings.isTypeClause names.text = false := by
  cases names with
  | default name =>
    have hname := isTypeClause_of_name name (t := []) (fun c hc => by cases hc)
    rwa [List.append_nil] at hname
  | group g => exact isTypeClause_group g
  | both name before after g =>
    have hnext : ∀ c, (before.text ++ ',' :: (after.text ++ g.text)).head? = some c →
        isIdentifierChar c = false := by
      intro c hc
      cases hbefore : before.text with
      | nil =>
        obtain rfl : ',' = c := by simpa [hbefore] using hc
        decide
      | cons d rest =>
        obtain rfl : d = c := by simpa [hbefore] using hc
        have hblank := before.blank d (by rw [hbefore]; exact List.mem_cons_self)
        rw [← Bool.not_eq_true]
        intro hident
        rw [not_isBlank_of_isIdentifierChar hident] at hblank
        cases hblank
    simp only [Names.text, List.append_assoc]
    exact isTypeClause_of_name name hnext

theorem isTypeClause_append (t : Text) : Bindings.isTypeClause (typeKeyword ++ t) =
    t.head?.any fun c => isBlank c || c == '{' := by
  unfold Bindings.isTypeClause
  rw [Text.after?_eq_some_iff.mpr rfl]
  cases t <;> rfl

namespace Group

def inner : Group → Text
  | whole _ _ _ => []
  | braces list => Text.join [','] list.parts

def outer : Group → List Text
  | whole before after name => [(whole before after name).text]
  | braces _ => []

theorem not_mem_whole (before : Gap) (after : Space) (name : Identifier) {c : Char}
    (hname : isNameChar c = false) (hstar : c ≠ '*') : c ∉ (whole before after name).text := by
  simp only [text, List.mem_cons, List.mem_append, not_or]
  exact ⟨hstar, not_mem_of_forall before.isNameChar_of_mem hname,
    not_mem_of_forall isNameChar_as hname, not_mem_of_forall after.isNameChar_of_mem hname,
    not_mem_of_forall name.isNameChar_of_mem hname⟩

theorem cutBraces?_text (g : Group) (before : Text) (hbefore : '{' ∉ before) :
    (cutBraces? (before ++ g.text)).getD ([], before ++ g.text) =
      (g.inner, before ++ g.outer.flatten) := by
  cases g with
  | whole gap after name =>
    have hbrace : '{' ∉ before ++ (whole gap after name).text := by
      rw [List.mem_append, not_or]
      exact ⟨hbefore, not_mem_whole gap after name (by decide) (by decide)⟩
    rw [cutBraces?_of_not_mem hbrace]
    simp [inner, outer]
  | braces list =>
    have hinner : '}' ∉ Text.join [','] list.parts := list.not_mem_join (by decide) (by decide)
    have hcut := cutBraces?_append hbefore hinner []
    simp only [text, Braces.text]
    rw [hcut]
    simp [inner, outer]

theorem names_inner (g : Group) :
    (Text.fields g.inner ',').filterMap specifierName? = g.bindings.names := by
  cases g with
  | whole before after name => rfl
  | braces list => exact list.names_fields

theorem trim_outer (g : Group) (after : Gap) :
    ((Text.fields (after.text ++ g.outer.flatten) ',').map Text.trim).filter (· ≠ []) =
      g.outer := by
  have hgap : ',' ∉ after.text := not_mem_of_forall after.isNameChar_of_mem (by decide)
  cases g with
  | whole before space name =>
    have hcomma : ',' ∉ after.text ++ (whole before space name).text := by
      rw [List.mem_append, not_or]
      exact ⟨hgap, not_mem_whole before space name (by decide) (by decide)⟩
    have hsolid := (whole before space name).solid
    simp only [outer, List.flatten_singleton, Text.fields, List.splitOn_eq_singleton hcomma]
    simp [hsolid.trim_append_left after.blank, hsolid.ne_nil]
  | braces list =>
    simp only [outer, List.flatten_nil, List.append_nil, Text.fields,
      List.splitOn_eq_singleton hgap]
    simp [Text.trim_of_forall after.blank]

theorem foldl_outer (g : Group) (name : Option Text) :
    g.outer.foldl Bindings.addPart { defaultName := name, names := g.bindings.names } =
      { g.bindings with defaultName := name } := by
  cases g with
  | whole before after whole => exact addPart_whole _ before after whole
  | braces list => rfl

end Group

/-- The bindings of a clause from what stands between its braces and around them. -/
theorem ofClause?_eq {t inner outer : Text} {parts : List Text} (ht : t.Solid)
    (htype : Bindings.isTypeClause t = false)
    (hcut : (cutBraces? t).getD ([], t) = (inner, outer))
    (hparts : ((Text.fields outer ',').map Text.trim).filter (· ≠ []) = parts) :
    Bindings.ofClause? t = some (parts.foldl Bindings.addPart
      { names := (Text.fields inner ',').filterMap specifierName? }) := by
  unfold Bindings.ofClause?
  simp only [ht.trim_eq, htype, Bool.false_eq_true, if_false, hcut, hparts]

theorem ofClause?_eq_none {t : Text} (ht : t.Solid) (htype : Bindings.isTypeClause t = true) :
    Bindings.ofClause? t = none := by
  unfold Bindings.ofClause?
  simp only [ht.trim_eq, htype, if_true]

/-- Without a comma a text is a single part. -/
theorem trim_parts_of_not_mem {t : Text} (ht : t.Solid) (hcomma : ',' ∉ t) :
    ((Text.fields t ',').map Text.trim).filter (· ≠ []) = [t] := by
  rw [Text.fields, List.splitOn_eq_singleton hcomma]
  simp [ht.trim_eq, ht.ne_nil]

/-- The default name is the first part, those of the group follow. -/
theorem trim_parts_both (name : DefaultName) (before after : Gap) (g : Group) :
    ((Text.fields (name.text ++ before.text ++ ',' :: after.text ++ g.outer.flatten) ',').map
      Text.trim).filter (· ≠ []) = name.text :: g.outer := by
  have hcomma : ',' ∉ name.text ++ before.text := by
    rw [List.mem_append, not_or]
    exact ⟨name.not_mem (by decide), not_mem_of_forall before.isNameChar_of_mem (by decide)⟩
  have hname : Text.trim (name.text ++ before.text) = name.text :=
    name.solid.trim_append (a := []) (fun c hc => by cases hc) before.blank
  have hrest := g.trim_outer after
  unfold Text.fields at hrest ⊢
  rw [List.append_assoc, List.cons_append, List.splitOn_append_cons_self,
    List.splitOn_eq_singleton hcomma]
  simp only [List.singleton_append, List.map_cons, hname]
  rw [List.filter_cons_of_pos (by simp [name.ne_nil]), hrest]

theorem ofClause?_names (names : Names) :
    Bindings.ofClause? names.text = some names.bindings := by
  have htype := isTypeClause_names names
  have hsolid := names.solid
  cases names with
  | default name =>
    have hbrace : '{' ∉ name.text := name.not_mem (by decide)
    have hcut : (cutBraces? name.text).getD ([], name.text) = ([], name.text) := by
      rw [cutBraces?_of_not_mem hbrace]
      rfl
    have hparts := trim_parts_of_not_mem name.solid (name.not_mem (by decide))
    rw [Names.text] at hsolid htype ⊢
    rw [ofClause?_eq hsolid htype hcut hparts]
    exact congrArg some (addPart_name _ name.toIdentifier)
  | group g =>
    have hcut := g.cutBraces?_text [] (by simp)
    have hparts := g.trim_outer ⟨[], by simp⟩
    rw [Names.text] at hsolid htype ⊢
    rw [ofClause?_eq hsolid htype hcut hparts, g.names_inner]
    have hbindings : { g.bindings with defaultName := none } = g.bindings := by
      cases g <;> rfl
    exact congrArg some ((g.foldl_outer none).trans hbindings)
  | both name before after g =>
    have hfront : '{' ∉ name.text ++ before.text ++ ',' :: after.text := by
      simp only [List.mem_append, List.mem_cons, not_or]
      exact ⟨⟨name.not_mem (by decide), not_mem_of_forall before.isNameChar_of_mem (by decide)⟩,
        by decide, not_mem_of_forall after.isNameChar_of_mem (by decide)⟩
    have hcut := g.cutBraces?_text _ hfront
    have hparts := trim_parts_both name before after g
    have htext : (Names.both name before after g).text =
        name.text ++ before.text ++ ',' :: after.text ++ g.text := by
      simp [Names.text]
    rw [htext] at hsolid htype ⊢
    rw [ofClause?_eq hsolid htype hcut hparts, g.names_inner, List.foldl_cons,
      addPart_name _ name.toIdentifier]
    exact congrArg some (g.foldl_outer (some name.text))

/-- Reading a clause as it is written gives its bindings. -/
theorem Clause.ofClause?_text (clause : Clause) :
    Bindings.ofClause? clause.text = clause.bindings? := by
  have hsolid := clause.solid
  cases clause with
  | value names => exact ofClause?_names names
  | typeOnly space names =>
    obtain ⟨c, rest, hspace⟩ := List.exists_cons_of_ne_nil space.ne_nil
    have hblank : isBlank c = true := space.blank c (by rw [hspace]; exact List.mem_cons_self)
    have htype : Bindings.isTypeClause (Clause.typeOnly space names).text = true := by
      rw [Clause.text, isTypeClause_append, hspace]
      simp [hblank]
    exact ofClause?_eq_none hsolid htype
  | typeJoined g =>
    cases g with
    | braces list =>
      have htype : Bindings.isTypeClause (Clause.typeJoined (.braces list)).text = true := by
        rw [Clause.text, isTypeClause_append]
        rfl
      exact ofClause?_eq_none hsolid htype
    | whole before after name =>
      -- The star is part of a word here that is no identifier.
      have htype : Bindings.isTypeClause (Clause.typeJoined (.whole before after name)).text =
          false := by
        rw [Clause.text, isTypeClause_append]
        rfl
      have hcut := (Group.whole before after name).cutBraces?_text typeKeyword (by decide)
      have hparts : ((Text.fields (typeKeyword ++ (Group.whole before after name).outer.flatten)
          ',').map Text.trim).filter (· ≠ []) =
            [(Clause.typeJoined (.whole before after name)).text] := by
        have hcomma : ',' ∉ (Clause.typeJoined (.whole before after name)).text := by
          rw [Clause.text, List.mem_append, not_or]
          exact ⟨by decide, Group.not_mem_whole before after name (by decide) (by decide)⟩
        have hflat : typeKeyword ++ (Group.whole before after name).outer.flatten =
            (Clause.typeJoined (.whole before after name)).text := by
          simp [Group.outer, Clause.text]
        rw [hflat]
        exact trim_parts_of_not_mem hsolid hcomma
      have hnone : isIdentifier (Clause.typeJoined (.whole before after name)).text = false := by
        rw [← Bool.not_eq_true]
        intro hvalid
        refine Identifier.not_mem ⟨_, hvalid⟩ (c := '*') (by decide) ?_
        exact List.mem_append_right _ List.mem_cons_self
      rw [ofClause?_eq hsolid htype hcut hparts]
      exact congrArg some (addPart_of_not_isIdentifier _ (by decide) hnone)

end Written

end TestScaffold
