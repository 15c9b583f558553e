import Mathlib.Computability.Language
import TestScaffold.Proofs.Text.Lines
import TestScaffold.Source.Export

/-!
The forms of exports as languages. A reader reads a language when it ends exactly where a text of
the language ends; reading one thing after another, one of two things, or something or nothing is
then the product, the sum, or the sum with the empty text. So the readers of exports find the
texts of two languages, wherever such a text stands between word boundaries.
-/

namespace TestScaffold

namespace ExportForm

def word (w : Text) : Language Char :=
  {w}

def blanks : Language Char :=
  {w : Text | ∀ c ∈ w, isBlank c = true}

def spaces : Language Char :=
  {w : Text | w ≠ [] ∧ ∀ c ∈ w, isBlank c = true}

theorem blanks_eq_add : blanks = spaces + 1 := by
  ext w
  constructor
  · intro hw
    by_cases hend : w = []
    · exact Or.inr hend
    · exact Or.inl ⟨hend, hw⟩
  · rintro (⟨-, hw⟩ | hend)
    · exact hw
    · obtain rfl : w = [] := hend
      exact List.forall_mem_nil _

def functionForm : Language Char :=
  word "function".toList * blanks * (word ['*'] + 1) * blanks

def asyncForm : Language Char :=
  word "async".toList * spaces + 1

/-- A default export of `name`, or of a function or class of that name. -/
def byDefault (name : Text) : Language Char :=
  word "export".toList * spaces * word "default".toList * spaces * asyncForm *
    (functionForm + word "class".toList * spaces + 1) * word name

def declarator : Language Char :=
  word "const".toList + word "let".toList + word "var".toList + word "class".toList

def byName (name : Text) : Language Char :=
  word "export".toList * spaces * (declarator * spaces + asyncForm * functionForm) * word name

end ExportForm

/-- A text of the language stands somewhere in `t`, with a word boundary before it and one after
it. -/
def Text.Shows (t : Text) (form : Language Char) : Prop :=
  ∃ front w back, t = front ++ (w ++ back) ∧ w ∈ form ∧
    isWordBoundary front.getLast? (w ++ back).head? = true ∧
    isWordBoundary (front ++ w).getLast? back.head? = true

namespace Reader

/-- A reader ends wherever a text of the language ends, and nowhere else. -/
def Reads (a : Reader) (L : Language Char) : Prop :=
  ∀ p q, q ∈ a p ↔ ∃ w ∈ L, p.rest = w ++ q.rest ∧ q.before = w.getLast?.or p.before

theorem reads_literal (w : Text) : Reads (literal w) (ExportForm.word w) := by
  intro p q
  constructor
  · intro h
    exact ⟨w, Set.mem_singleton w, mem_literal.mp h⟩
  · rintro ⟨u, hu, hread⟩
    obtain rfl : u = w := Set.mem_singleton_iff.mp hu
    exact mem_literal.mpr hread

theorem reads_nothing : Reads (fun p => [p]) 1 := by
  rintro ⟨before, rest⟩ ⟨before', rest'⟩
  constructor
  · intro h
    obtain ⟨rfl, rfl⟩ := Position.mk.inj (List.mem_singleton.mp h)
    exact ⟨[], rfl, rfl, rfl⟩
  · rintro ⟨w, hw, hrest, hbefore⟩
    obtain rfl : w = [] := hw
    obtain rfl : rest = rest' := hrest
    obtain rfl : before' = before := hbefore
    exact List.mem_singleton_self _

theorem Reads.followedBy {a b : Reader} {L M : Language Char} (ha : Reads a L) (hb : Reads b M) :
    Reads (followedBy a b) (L * M) := by
  intro p q
  rw [mem_followedBy]
  constructor
  · rintro ⟨r, hr, hq⟩
    obtain ⟨u, hu, hprest, hrbefore⟩ := (ha p r).mp hr
    obtain ⟨v, hv, hrrest, hqbefore⟩ := (hb r q).mp hq
    refine ⟨u ++ v, Language.append_mem_mul hu hv, ?_, ?_⟩
    · rw [hprest, hrrest, List.append_assoc]
    · rw [hqbefore, hrbefore, List.getLast?_append, Option.or_assoc]
  · rintro ⟨w, hw, hprest, hqbefore⟩
    obtain ⟨u, hu, v, hv, rfl⟩ := Language.mem_mul.mp hw
    -- The first reader ends between the two parts.
    refine ⟨⟨u.getLast?.or p.before, v ++ q.rest⟩, (ha p _).mpr ⟨u, hu, ?_, rfl⟩,
      (hb _ q).mpr ⟨v, hv, rfl, ?_⟩⟩
    · rw [hprest, List.append_assoc]
    · rw [hqbefore, List.getLast?_append, Option.or_assoc]

theorem Reads.orElse {a b : Reader} {L M : Language Char} (ha : Reads a L) (hb : Reads b M) :
    Reads (orElse a b) (L + M) := by
  intro p q
  have hmem : q ∈ Reader.orElse a b p ↔ q ∈ a p ∨ q ∈ b p := List.mem_append
  rw [hmem, ha p q, hb p q]
  constructor
  · rintro (⟨w, hw, hread⟩ | ⟨w, hw, hread⟩)
    · exact ⟨w, Or.inl hw, hread⟩
    · exact ⟨w, Or.inr hw, hread⟩
  · rintro ⟨w, hw | hw, hread⟩
    · exact Or.inl ⟨w, hw, hread⟩
    · exact Or.inr ⟨w, hw, hread⟩

theorem Reads.optional {a : Reader} {L : Language Char} (ha : Reads a L) :
    Reads (optional a) (L + 1) :=
  ha.orElse reads_nothing

theorem mem_blanks {p q : Position} : q ∈ blanks p ↔ q = p ∨ q ∈ gap p := by
  have hcons : blanks p = p :: gap p := by
    obtain ⟨before, t⟩ := p
    cases t <;> rfl
  rw [hcons, List.mem_cons]

theorem mem_gap_cons {before : Option Char} {c : Char} {t : Text} {q : Position} :
    q ∈ gap ⟨before, c :: t⟩ ↔ isBlank c = true ∧ (q = ⟨some c, t⟩ ∨ q ∈ gap ⟨some c, t⟩) := by
  change q ∈ (if isBlank c then blanks ⟨some c, t⟩ else []) ↔ _
  by_cases hc : isBlank c = true
  · rw [if_pos hc, mem_blanks]
    exact ⟨fun h => ⟨hc, h⟩, fun h => h.2⟩
  · rw [if_neg hc]
    exact iff_of_false List.not_mem_nil fun h => hc h.1

/-- Each further blank is one more place to end. -/
theorem reads_gap : Reads gap ExportForm.spaces := by
  rintro ⟨before, t⟩ q
  induction t generalizing before with
  | nil =>
    constructor
    · intro h
      cases h
    · rintro ⟨w, ⟨hne, -⟩, hw, -⟩
      exact absurd (List.append_eq_nil_iff.mp hw.symm).1 hne
  | cons c t ih =>
    rw [mem_gap_cons, ih]
    constructor
    · rintro ⟨hc, rfl | ⟨w, ⟨-, hw⟩, hrest, hbefore⟩⟩
      · exact ⟨[c], ⟨List.cons_ne_nil c [], List.forall_mem_singleton.mpr hc⟩, rfl, rfl⟩
      · refine ⟨c :: w, ⟨List.cons_ne_nil c w, List.forall_mem_cons.mpr ⟨hc, hw⟩⟩,
          congrArg (c :: ·) hrest, ?_⟩
        rw [hbefore]
        exact (Text.getLast?_cons_or c w before).symm
    · rintro ⟨w, ⟨hne, hw⟩, hrest, hbefore⟩
      obtain ⟨d, w, rfl⟩ := List.exists_cons_of_ne_nil hne
      obtain ⟨rfl, htail⟩ := List.cons.inj hrest
      obtain ⟨hc, hw⟩ := List.forall_mem_cons.mp hw
      rw [Text.getLast?_cons_or] at hbefore
      refine ⟨hc, ?_⟩
      -- The white space ends after this blank or goes on.
      by_cases hend : w = []
      · obtain rfl := hend
        obtain ⟨before', rest⟩ := q
        obtain rfl : t = rest := htail
        obtain rfl : before' = some c := hbefore
        exact Or.inl rfl
      · exact Or.inr ⟨w, ⟨hend, hw⟩, htail, hbefore⟩

theorem reads_blanks : Reads blanks ExportForm.blanks := by
  intro p q
  have hoptional : q ∈ optional gap p ↔ q ∈ gap p ∨ q = p := by
    rw [optional, List.mem_append, List.mem_singleton]
  rw [ExportForm.blanks_eq_add, ← reads_gap.optional p q, hoptional, mem_blanks, or_comm]

/-- Readers one after the other read the product of their languages. -/
theorem reads_sequence {readers : List Reader} {languages : List (Language Char)}
    (h : List.Forall₂ Reads readers languages) : Reads (sequence readers) languages.prod := by
  induction h with
  | nil => exact reads_nothing
  | cons hfirst _ ih =>
    rw [List.prod_cons]
    exact hfirst.followedBy ih

theorem reads_functionWord : Reads functionWord ExportForm.functionForm := by
  have hreads := reads_sequence (.cons (reads_literal "function".toList) (.cons reads_blanks
    (.cons (reads_literal ['*']).optional (.cons reads_blanks .nil))))
  simp only [List.prod_cons, List.prod_nil, mul_one, ← mul_assoc] at hreads
  exact hreads

theorem reads_asyncWord : Reads asyncWord ExportForm.asyncForm := by
  have hreads := reads_sequence (.cons (reads_literal "async".toList) (.cons reads_gap .nil))
  rw [List.prod_cons, List.prod_singleton] at hreads
  exact hreads.optional

theorem reads_declarationWord : Reads declarationWord ExportForm.declarator := by
  have hreads := (reads_literal "const".toList).orElse ((reads_literal "let".toList).orElse
    ((reads_literal "var".toList).orElse (reads_literal "class".toList)))
  simp only [← add_assoc] at hreads
  exact hreads

theorem mem_sequence_append {readers others : List Reader} {p q : Position} :
    q ∈ sequence (readers ++ others) p ↔ ∃ r ∈ sequence readers p, q ∈ sequence others r := by
  have hcons : ∀ a rest, sequence (a :: rest) = followedBy a (sequence rest) := fun _ _ => rfl
  induction readers generalizing p with
  | nil => simp [sequence]
  | cons a readers ih =>
    rw [List.cons_append, hcons, hcons, mem_followedBy]
    simp only [ih, mem_followedBy]
    constructor
    · rintro ⟨r, hr, s, hs, hq⟩
      exact ⟨s, ⟨r, hr, hs⟩, hq⟩
    · rintro ⟨s, ⟨r, hr, hs⟩, hq⟩
      exact ⟨r, hr, s, hs, hq⟩

theorem mem_boundary {p q : Position} : q ∈ boundary p ↔ p.isBoundary = true ∧ q = p := by
  unfold boundary
  split
  · rename_i hp
    rw [List.mem_singleton]
    exact ⟨fun h => ⟨hp, h⟩, fun h => h.2⟩
  · rename_i hp
    exact iff_of_false List.not_mem_nil fun h => hp h.1

theorem mem_exportWord {p q : Position} :
    q ∈ exportWord p ↔ p.isBoundary = true ∧ q ∈ literal "export".toList p := by
  have hsequence : q ∈ exportWord p ↔ ∃ r ∈ boundary p, q ∈ sequence [literal "export".toList] r :=
    mem_followedBy
  have hword : ∀ r, q ∈ sequence [literal "export".toList] r ↔ q ∈ literal "export".toList r := by
    intro r
    simp [sequence, followedBy]
  rw [hsequence]
  constructor
  · rintro ⟨r, hr, hq⟩
    obtain ⟨hp, rfl⟩ := mem_boundary.mp hr
    exact ⟨hp, (hword r).mp hq⟩
  · rintro ⟨hp, hq⟩
    exact ⟨p, mem_boundary.mpr ⟨hp, rfl⟩, (hword p).mpr hq⟩

/-- A form of exports is its language between two word boundaries. -/
theorem mem_exportForm {readers : List Reader} {p q : Position} :
    q ∈ sequence (exportWord :: (readers ++ [boundary])) p ↔
      p.isBoundary = true ∧ q ∈ sequence (literal "export".toList :: readers) p ∧
        q.isBoundary = true := by
  have hend : ∀ r, q ∈ sequence [boundary] r ↔ r.isBoundary = true ∧ q = r := by
    intro r
    rw [← mem_boundary]
    simp [sequence, followedBy]
  have hword : q ∈ sequence (exportWord :: (readers ++ [boundary])) p ↔
      ∃ r ∈ exportWord p, q ∈ sequence (readers ++ [boundary]) r :=
    mem_followedBy
  have hliteral : q ∈ sequence (literal "export".toList :: readers) p ↔
      ∃ r ∈ literal "export".toList p, q ∈ sequence readers r :=
    mem_followedBy
  rw [hword, hliteral]
  simp only [mem_exportWord, mem_sequence_append, hend]
  constructor
  · rintro ⟨r, ⟨hp, hr⟩, s, hs, hq, rfl⟩
    exact ⟨hp, ⟨r, hr, hs⟩, hq⟩
  · rintro ⟨hp, ⟨r, hr, hs⟩, hq⟩
    exact ⟨r, ⟨hp, hr⟩, q, hs, hq, rfl⟩

theorem accepts_iff {a : Reader} {p : Position} : a.accepts p = true ↔ ∃ q, q ∈ a p := by
  unfold accepts
  rw [Bool.not_eq_true', List.isEmpty_eq_false_iff]
  exact ⟨List.exists_mem_of_ne_nil _, fun ⟨_, hq⟩ => List.ne_nil_of_mem hq⟩

end Reader

namespace Text

theorem holdsFrom_iff {test : Position → Bool} {before : Option Char} {t : Text} :
    holdsFrom test before t = true ↔
      ∃ front back, t = front ++ back ∧ test ⟨front.getLast?.or before, back⟩ = true := by
  induction t generalizing before with
  | nil =>
    constructor
    · intro h
      exact ⟨[], [], rfl, h⟩
    · rintro ⟨front, back, ht, h⟩
      obtain ⟨rfl, rfl⟩ := List.append_eq_nil_iff.mp ht.symm
      exact h
  | cons c t ih =>
    have hstep : holdsFrom test before (c :: t) = true ↔
        test ⟨before, c :: t⟩ = true ∨ holdsFrom test (some c) t = true :=
      Bool.or_eq_true_iff
    rw [hstep, ih]
    constructor
    · rintro (h | ⟨front, back, rfl, h⟩)
      · exact ⟨[], c :: t, rfl, h⟩
      · refine ⟨c :: front, back, rfl, ?_⟩
        rw [getLast?_cons_or]
        exact h
    · rintro ⟨front, back, ht, h⟩
      cases front with
      | nil =>
        obtain rfl : c :: t = back := ht
        exact Or.inl h
      | cons d front =>
        obtain ⟨rfl, hback⟩ := List.cons.inj ht
        rw [getLast?_cons_or] at h
        exact Or.inr ⟨front, back, hback, h⟩

theorem holdsSomewhere_iff {test : Position → Bool} {t : Text} :
    t.holdsSomewhere test = true ↔
      ∃ front back, t = front ++ back ∧ test ⟨front.getLast?, back⟩ = true := by
  unfold holdsSomewhere
  rw [holdsFrom_iff]
  simp only [Option.or_none]

open Reader in
/-- An export is found where a text of its language stands between word boundaries. -/
theorem holdsSomewhere_exportForm {readers : List Reader} {form : Language Char}
    (hreads : Reads (sequence (literal "export".toList :: readers)) form) (t : Text) :
    t.holdsSomewhere (sequence (exportWord :: (readers ++ [boundary]))).accepts = true ↔
      t.Shows form := by
  rw [holdsSomewhere_iff]
  constructor
  · rintro ⟨front, t, rfl, haccepts⟩
    obtain ⟨⟨before, back⟩, hq⟩ := accepts_iff.mp haccepts
    obtain ⟨hstart, hmem, hend⟩ := mem_exportForm.mp hq
    obtain ⟨w, hw, hrest, hbefore⟩ := (hreads _ _).mp hmem
    obtain rfl : t = w ++ back := hrest
    obtain rfl : before = w.getLast?.or front.getLast? := hbefore
    refine ⟨front, w, back, rfl, hw, hstart, ?_⟩
    rw [List.getLast?_append]
    exact hend
  · rintro ⟨front, w, back, rfl, hw, hstart, hend⟩
    rw [List.getLast?_append] at hend
    refine ⟨front, w ++ back, rfl, accepts_iff.mpr ⟨⟨w.getLast?.or front.getLast?, back⟩, ?_⟩⟩
    exact mem_exportForm.mpr ⟨hstart, (hreads _ _).mpr ⟨w, hw, rfl, rfl⟩, hend⟩

end Text

open Reader

theorem defaultExport_iff (t name : Text) :
    t.holdsSomewhere (defaultExport name).accepts = true ↔ t.Shows (ExportForm.byDefault name) := by
  have hclass := reads_sequence (.cons (reads_literal "class".toList) (.cons reads_gap .nil))
  rw [List.prod_cons, List.prod_singleton] at hclass
  have hreads := reads_sequence (.cons (reads_literal "export".toList) (.cons reads_gap
    (.cons (reads_literal "default".toList) (.cons reads_gap (.cons reads_asyncWord
      (.cons (reads_functionWord.orElse hclass).optional (.cons (reads_literal name) .nil)))))))
  simp only [List.prod_cons, List.prod_nil, mul_one, ← mul_assoc] at hreads
  exact Text.holdsSomewhere_exportForm hreads t

theorem namedExport_iff (t name : Text) :
    t.holdsSomewhere (namedExport name).accepts = true ↔ t.Shows (ExportForm.byName name) := by
  have hvariable := reads_sequence (.cons reads_declarationWord (.cons reads_gap .nil))
  have hfunction := reads_sequence (.cons reads_asyncWord (.cons reads_functionWord .nil))
  rw [List.prod_cons, List.prod_singleton] at hvariable hfunction
  have hreads := reads_sequence (.cons (reads_literal "export".toList) (.cons reads_gap
    (.cons (hvariable.orElse hfunction) (.cons (reads_literal name) .nil))))
  simp only [List.prod_cons, List.prod_nil, mul_one, ← mul_assoc] at hreads
  exact Text.holdsSomewhere_exportForm hreads t

end TestScaffold
