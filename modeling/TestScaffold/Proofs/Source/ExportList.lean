import TestScaffold.Proofs.Source.ExportForm
import TestScaffold.Proofs.Text.Blanks

/-!
The lists of exports in a text. A list is `export` and braces; the lists of a text are taken from
left to right, each from the first place after the one before, and the search for them finds just
these. Between its commas a list has specifiers, which are compared word by word.
-/

namespace TestScaffold

/-- A list of exports begins here: after `export` at a word boundary stands a text in braces,
without a closing brace in it. -/
def ExportListAt (before : Option Char) (t body rest : Text) : Prop :=
  isWordBoundary before t.head? = true ∧ '}' ∉ body ∧
    ∃ gap ∈ ExportForm.blanks, t = "export".toList ++ (gap ++ '{' :: (body ++ '}' :: rest))

/-- No list of exports begins before the end of `front` in `front ++ t`. -/
def NoExportListIn (before : Option Char) (front t : Text) : Prop :=
  ∀ a c b, front = a ++ c :: b →
    ∀ body rest, ¬ ExportListAt (a.getLast?.or before) (c :: (b ++ t)) body rest

/-- The bodies of the lists of exports in the text after `before`, from left to right: each list
is the first one after the end of the list before it. -/
inductive ExportLists : Option Char → Text → List Text → Prop
  | none {before : Option Char} {t : Text} : NoExportListIn before t [] → ExportLists before t []
  | first {before : Option Char} {front t body rest : Text} {bodies : List Text} :
    NoExportListIn before front t → ExportListAt (front.getLast?.or before) t body rest →
    ExportLists (some '}') rest bodies → ExportLists before (front ++ t) (body :: bodies)

/-- A specifier stands between two commas of a list of exports, and is not blank. -/
def HasSpecifier (t specifier : Text) : Prop :=
  ∃ bodies, ExportLists none t bodies ∧
    ∃ body ∈ bodies, specifier ∈ Text.fields body ',' ∧ specifier.words ≠ []

theorem takeWhile_body {body : Text} (hbody : '}' ∉ body) (rest : Text) :
    (body ++ '}' :: rest).takeWhile (· ≠ '}') = body := by
  have hends : decide ('\x7d' ≠ '\x7d') = false := by decide
  apply Text.takeWhile_append_cons _ hends
  intro c hc
  rw [decide_eq_true_eq]
  rintro rfl
  exact hbody hc

/-- What is read as a list of exports here: its body, and as many characters as it has. -/
theorem exportBlock?_iff {before : Option Char} {t body : Text} {n : Nat} :
    exportBlock? ⟨before, t⟩ = some (body, n) ↔
      ∃ rest, ExportListAt before t body rest ∧ n = t.length - rest.length := by
  constructor
  · intro h
    unfold exportBlock? at h
    split at h
    · cases h
    · rename_i u hafter
      split at h
      · rename_i inside hinside
        dsimp only at h
        split at h
        · rename_i hlist
          obtain ⟨hboundary, hclosed⟩ := hlist
          -- The first closing brace ends the body.
          obtain ⟨inner, rest, rfl, hinner⟩ := List.eq_append_cons_of_mem hclosed
          rw [takeWhile_body hinner] at h
          obtain ⟨rfl, rfl⟩ := Prod.mk.inj (Option.some.inj h)
          have ht : t = "export".toList ++ u := Text.after?_eq_some_iff.mp hafter
          have hu : u = u.takeWhile isBlank ++ '{' :: (inner ++ '}' :: rest) := by
            rw [← hinside, List.takeWhile_append_dropWhile]
          refine ⟨rest, ⟨hboundary, hinner, u.takeWhile isBlank, ?_, ?_⟩, ?_⟩
          · exact fun c hc => List.mem_takeWhile_imp hc
          · rw [← hu]
            exact ht
          · have hlength : (inner ++ '}' :: rest).length = inner.length + 1 + rest.length := by
              rw [List.length_append, List.length_cons]
              omega
            rw [hlength]
            omega
        · cases h
      · cases h
  · rintro ⟨rest, ⟨hboundary, hbody, gap, hgap, rfl⟩, rfl⟩
    have hafter : Text.after? "export".toList
        ("export".toList ++ (gap ++ '{' :: (body ++ '}' :: rest))) =
          some (gap ++ '{' :: (body ++ '}' :: rest)) :=
      Text.after?_eq_some_iff.mpr rfl
    have hopen : isBlank '{' = false := by decide
    have hdrop : (gap ++ '{' :: (body ++ '}' :: rest)).dropWhile isBlank =
        '{' :: (body ++ '}' :: rest) :=
      Text.dropWhile_append_cons hgap hopen _
    have hclosed : '}' ∈ body ++ '}' :: rest := List.mem_append_right _ List.mem_cons_self
    have hlength : (body ++ '}' :: rest).length - body.length - 1 = rest.length := by
      rw [List.length_append, List.length_cons]
      omega
    unfold exportBlock?
    simp only [hafter, hdrop, takeWhile_body hbody, hlength]
    exact if_pos ⟨hboundary, hclosed⟩

theorem exportBlock?_eq_none {before : Option Char} {t : Text}
    (h : ∀ body rest, ¬ ExportListAt before t body rest) : exportBlock? ⟨before, t⟩ = none := by
  rw [Option.eq_none_iff_forall_ne_some]
  rintro ⟨body, n⟩ hfind
  obtain ⟨rest, hlist, -⟩ := exportBlock?_iff.mp hfind
  exact h body rest hlist

theorem NoExportListIn.findsFrom_append {before : Option Char} {front t : Text}
    (h : NoExportListIn before front t) :
    Text.findsFrom exportBlock? 0 before (front ++ t) =
      Text.findsFrom exportBlock? 0 (front.getLast?.or before) t := by
  apply Text.findsFrom_append
  intro a c b hfront
  exact exportBlock?_eq_none (h a c b hfront)

/-- A list is found where it begins, and the search goes on after its closing brace. -/
theorem ExportListAt.findsFrom_eq {before : Option Char} {t body rest : Text}
    (h : ExportListAt before t body rest) :
    Text.findsFrom exportBlock? 0 before t =
      body :: Text.findsFrom exportBlock? 0 (some '}') rest := by
  have hfind := exportBlock?_iff.mpr ⟨rest, h, rfl⟩
  obtain ⟨-, -, gap, -, ht⟩ := h
  let list := "export".toList ++ (gap ++ '{' :: (body ++ ['}']))
  have hsplit : t = list ++ rest := by
    rw [ht]
    simp only [list, List.append_assoc, List.cons_append, List.nil_append]
  have hne : list ≠ [] := by
    intro hnil
    exact absurd (List.append_eq_nil_iff.mp hnil).1 (by decide)
  have hlast : list.getLast? = some '}' := by
    have hend : list = ("export".toList ++ (gap ++ '{' :: body)) ++ ['}'] := by
      simp only [list, List.append_assoc, List.cons_append]
    rw [hend]
    exact List.getLast?_concat
  rw [hsplit, List.length_append, Nat.add_sub_cancel] at hfind
  rw [hsplit, Text.findsFrom_of_some hne hfind, hlast]

/-- The search finds the lists of exports that the text has. -/
theorem ExportLists.findsFrom_eq {before : Option Char} {t : Text} {bodies : List Text}
    (h : ExportLists before t bodies) : Text.findsFrom exportBlock? 0 before t = bodies := by
  induction h with
  | @none before t hnone =>
    have hpassed := hnone.findsFrom_append
    rw [List.append_nil] at hpassed
    rw [hpassed]
    rfl
  | first hnone hlist _ ih => rw [hnone.findsFrom_append, hlist.findsFrom_eq, ih]

/-- Either no list of exports begins in a text, or one begins first. -/
theorem exists_first_exportList (before : Option Char) (t : Text) :
    NoExportListIn before t [] ∨ ∃ front u body rest, t = front ++ u ∧
      NoExportListIn before front u ∧ ExportListAt (front.getLast?.or before) u body rest := by
  induction t generalizing before with
  | nil =>
    left
    intro a c b hnil
    cases a <;> cases hnil
  | cons c t ih =>
    by_cases hhere : ∃ body rest, ExportListAt before (c :: t) body rest
    · obtain ⟨body, rest, hlist⟩ := hhere
      refine Or.inr ⟨[], c :: t, body, rest, rfl, ?_, hlist⟩
      intro a d b hnil
      cases a <;> cases hnil
    · -- What comes later is as in the rest of the text.
      have hcons : ∀ {front u}, c :: t = c :: (front ++ u) → NoExportListIn (some c) front u →
          NoExportListIn before (c :: front) u := by
        intro front u ht hnone a d b hsplit body rest hlist
        cases a with
        | nil =>
          obtain ⟨rfl, rfl⟩ := List.cons.inj hsplit
          rw [← ht] at hlist
          exact hhere ⟨body, rest, hlist⟩
        | cons e a =>
          obtain ⟨rfl, htail⟩ := List.cons.inj hsplit
          rw [Text.getLast?_cons_or] at hlist
          exact hnone a d b htail body rest hlist
      rcases ih (some c) with hnone | ⟨front, u, body, rest, rfl, hnone, hlist⟩
      · have hall : c :: t = c :: (t ++ []) := by rw [List.append_nil]
        exact Or.inl (hcons hall hnone)
      · refine Or.inr ⟨c :: front, u, body, rest, rfl, hcons rfl hnone, ?_⟩
        rw [Text.getLast?_cons_or]
        exact hlist

theorem ExportListAt.length_lt {before : Option Char} {t body rest : Text}
    (h : ExportListAt before t body rest) : rest.length < t.length := by
  obtain ⟨-, -, gap, -, rfl⟩ := h
  simp only [List.length_append, List.length_cons]
  omega

theorem exists_exportLists (before : Option Char) (t : Text) :
    ∃ bodies, ExportLists before t bodies := by
  rcases exists_first_exportList before t with hnone | ⟨front, u, body, rest, rfl, hnone, hlist⟩
  · exact ⟨[], .none hnone⟩
  · -- The rest after the first list is shorter.
    have hshorter : rest.length < (front ++ u).length := by
      have hlength := hlist.length_lt
      rw [List.length_append]
      omega
    obtain ⟨bodies, hbodies⟩ := exists_exportLists (some '}') rest
    exact ⟨body :: bodies, .first hnone hlist hbodies⟩
termination_by t.length

/-- The lists of exports of a text are what the search finds. -/
theorem exportLists_iff {t : Text} {bodies : List Text} :
    ExportLists none t bodies ↔ t.finds exportBlock? = bodies := by
  constructor
  · exact ExportLists.findsFrom_eq
  · rintro rfl
    obtain ⟨bodies, hbodies⟩ := exists_exportLists none t
    have hfinds : t.finds exportBlock? = bodies := hbodies.findsFrom_eq
    rw [hfinds]
    exact hbodies

theorem mem_exportSpecifiers {t : Text} {words : List Text} :
    words ∈ exportSpecifiers t ↔ ∃ specifier, HasSpecifier t specifier ∧ specifier.words = words := by
  unfold exportSpecifiers
  rw [List.mem_flatMap]
  constructor
  · rintro ⟨body, hbody, hwords⟩
    obtain ⟨hmem, hne⟩ := List.mem_filter.mp hwords
    obtain ⟨specifier, hspecifier, rfl⟩ := List.mem_map.mp hmem
    exact ⟨specifier, ⟨_, exportLists_iff.mpr rfl, body, hbody, hspecifier,
      of_decide_eq_true hne⟩, rfl⟩
  · rintro ⟨specifier, ⟨bodies, hbodies, body, hbody, hspecifier, hne⟩, rfl⟩
    obtain rfl := exportLists_iff.mp hbodies
    exact ⟨body, hbody, List.mem_filter.mpr
      ⟨List.mem_map.mpr ⟨specifier, hspecifier, rfl⟩, decide_eq_true hne⟩⟩

end TestScaffold
