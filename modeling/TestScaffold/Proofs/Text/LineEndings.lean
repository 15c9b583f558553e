import TestScaffold.Proofs.Text.Blanks
import TestScaffold.Proofs.Text.Lines

/-!
Line endings. A text with carriage returns has one before every line feed. Both characters are white
space and belong to no word, so whatever cuts a text at white space, at a separator or at a given
word cuts both texts in the same places; only a cut between a carriage return and its line feed has
no counterpart. A search finds the same in both when what it looks for is read alike.
-/

namespace TestScaffold

namespace Text

/-- The text with a carriage return before every line feed. -/
def withReturns : Text → Text
  | [] => []
  | c :: t => if c = '\n' then '\r' :: '\n' :: withReturns t else c :: withReturns t

theorem withReturns_lineFeed (t : Text) : withReturns ('\n' :: t) = '\r' :: '\n' :: withReturns t :=
  rfl

theorem withReturns_cons {c : Char} (hc : c ≠ '\n') (t : Text) :
    withReturns (c :: t) = c :: withReturns t :=
  if_neg hc

theorem withReturns_append (a b : Text) :
    withReturns (a ++ b) = withReturns a ++ withReturns b := by
  induction a with
  | nil => rfl
  | cons c a ih =>
    by_cases hc : c = '\n'
    · subst hc
      rw [List.cons_append, withReturns_lineFeed, ih, withReturns_lineFeed]
      rfl
    · rw [List.cons_append, withReturns_cons hc, ih, withReturns_cons hc]
      rfl

theorem withReturns_of_not_mem {t : Text} (h : '\n' ∉ t) : withReturns t = t := by
  induction t with
  | nil => rfl
  | cons c t ih =>
    rw [List.mem_cons, not_or] at h
    rw [withReturns_cons (Ne.symm h.1), ih h.2]

theorem withReturns_drop_one {t : Text} (ht : t.head? ≠ some '\n') :
    withReturns (t.drop 1) = (withReturns t).drop 1 := by
  cases t with
  | nil => rfl
  | cons c t =>
    have hc : c ≠ '\n' := by
      rintro rfl
      exact ht rfl
    rw [withReturns_cons hc]
    rfl

/-- Nothing but carriage returns is added. -/
theorem mem_withReturns_iff {c : Char} (hc : c ≠ '\r') {t : Text} : c ∈ withReturns t ↔ c ∈ t := by
  induction t with
  | nil => rfl
  | cons d t ih =>
    by_cases hd : d = '\n'
    · subst hd
      simp [withReturns_lineFeed, hc, ih]
    · rw [withReturns_cons hd, List.mem_cons, List.mem_cons, ih]

theorem withReturns_eq_iff {t u : Text} (hu : '\n' ∉ u) : withReturns t = u ↔ t = u := by
  constructor
  · intro h
    have ht : '\n' ∉ t := by
      rw [← mem_withReturns_iff (by decide), h]
      exact hu
    rw [← h, withReturns_of_not_mem ht]
  · rintro rfl
    exact withReturns_of_not_mem hu

theorem withReturns_ne_nil_iff {t : Text} : withReturns t ≠ [] ↔ t ≠ [] :=
  (withReturns_eq_iff (t := t) List.not_mem_nil).not

/-- The last character is a line feed in both or in neither. -/
theorem getLast?_withReturns (t : Text) : (withReturns t).getLast? = t.getLast? := by
  rcases List.eq_nil_or_concat t with rfl | ⟨init, c, rfl⟩
  · rfl
  · rw [List.concat_eq_append, withReturns_append, List.getLast?_concat]
    by_cases hc : c = '\n'
    · subst hc
      exact List.getLast?_append_of_ne_nil _ (by decide)
    · rw [withReturns_cons hc]
      exact List.getLast?_concat

section

variable {P : Char → Bool} (hP : P '\r' = P '\n')
include hP

/-- What makes no difference between the two characters holds of all of a text or of neither. -/
theorem forall_mem_withReturns {t : Text} :
    (∀ c ∈ withReturns t, P c = true) ↔ ∀ c ∈ t, P c = true := by
  induction t with
  | nil => rfl
  | cons c t ih =>
    by_cases hc : c = '\n'
    · subst hc
      rw [withReturns_lineFeed]
      simp only [List.forall_mem_cons, ih, hP]
      exact ⟨fun h => h.2, fun h => ⟨h.1, h⟩⟩
    · rw [withReturns_cons hc, List.forall_mem_cons, List.forall_mem_cons, ih]

theorem any_head?_withReturns (t : Text) : (withReturns t).head?.any P = t.head?.any P := by
  cases t with
  | nil => rfl
  | cons c t =>
    by_cases hc : c = '\n'
    · subst hc
      exact hP
    · rw [withReturns_cons hc]
      rfl

theorem takeWhile_withReturns (t : Text) :
    (withReturns t).takeWhile P = withReturns (t.takeWhile P) := by
  induction t with
  | nil => rfl
  | cons c t ih =>
    by_cases hc : c = '\n'
    · subst hc
      rw [withReturns_lineFeed, List.takeWhile_cons, List.takeWhile_cons, List.takeWhile_cons, hP,
        ih]
      split <;> rfl
    · rw [withReturns_cons hc, List.takeWhile_cons, List.takeWhile_cons, ih]
      split
      · exact (withReturns_cons hc _).symm
      · rfl

theorem dropWhile_withReturns (t : Text) :
    (withReturns t).dropWhile P = withReturns (t.dropWhile P) := by
  induction t with
  | nil => rfl
  | cons c t ih =>
    by_cases hc : c = '\n'
    · subst hc
      rw [withReturns_lineFeed, List.dropWhile_cons, List.dropWhile_cons, List.dropWhile_cons, hP,
        ih]
      split <;> rfl
    · rw [withReturns_cons hc, List.dropWhile_cons, List.dropWhile_cons, ih]
      split
      · rfl
      · exact (withReturns_cons hc t).symm

end

/-- A cut that does not fall between a carriage return and its line feed is a cut of the text. -/
theorem exists_of_withReturns_eq_append {t x y : Text} (h : withReturns t = x ++ y)
    (hcut : ¬ (x.getLast? = some '\r' ∧ y.head? = some '\n')) :
    ∃ a b, t = a ++ b ∧ withReturns a = x ∧ withReturns b = y := by
  induction t generalizing x with
  | nil =>
    obtain ⟨rfl, rfl⟩ := List.append_eq_nil_iff.mp h.symm
    exact ⟨[], [], rfl, rfl, rfl⟩
  | cons c t ih =>
    by_cases hx : x = []
    · subst hx
      exact ⟨[], c :: t, rfl, rfl, h⟩
    obtain ⟨d, x, rfl⟩ := List.exists_cons_of_ne_nil hx
    -- Further on the cut falls between the same characters.
    have hlater (front : Text) (hlast : x = front ++ x.drop front.length) :
        ¬ ((x.drop front.length).getLast? = some '\r' ∧ y.head? = some '\n') := by
      rintro ⟨hreturn, hfeed⟩
      refine hcut ⟨?_, hfeed⟩
      rw [hlast, ← List.cons_append, List.getLast?_append, hreturn]
      rfl
    by_cases hc : c = '\n'
    · subst hc
      rw [withReturns_lineFeed, List.cons_append] at h
      obtain ⟨rfl, htail⟩ := List.cons.inj h
      cases x with
      | nil =>
        exfalso
        apply hcut
        obtain rfl : '\n' :: withReturns t = y := htail
        exact ⟨rfl, rfl⟩
      | cons e x =>
        obtain ⟨rfl, hrest⟩ := List.cons.inj htail
        obtain ⟨a, b, rfl, ha, hb⟩ := ih hrest (hlater ['\n'] rfl)
        exact ⟨'\n' :: a, b, rfl, by rw [withReturns_lineFeed, ha], hb⟩
    · rw [withReturns_cons hc, List.cons_append] at h
      obtain ⟨rfl, hrest⟩ := List.cons.inj h
      obtain ⟨a, b, rfl, ha, hb⟩ := ih hrest (hlater [] rfl)
      exact ⟨c :: a, b, rfl, by rw [withReturns_cons hc, ha], hb⟩

/-- What begins with a character other than a carriage return begins with it in both texts. -/
theorem exists_of_withReturns_eq_cons {t y : Text} {d : Char} (h : withReturns t = d :: y)
    (hd : d ≠ '\r') : ∃ u, t = d :: u ∧ withReturns u = y := by
  cases t with
  | nil => cases h
  | cons c t =>
    by_cases hc : c = '\n'
    · subst hc
      exact absurd (List.cons.inj h).1.symm hd
    · rw [withReturns_cons hc] at h
      obtain ⟨rfl, rfl⟩ := List.cons.inj h
      exact ⟨t, rfl, rfl⟩

/-- A word is read at the start of both texts or of neither. -/
theorem after?_withReturns {start : Text} (hfeed : '\n' ∉ start) (hreturn : '\r' ∉ start)
    (t : Text) : after? start (withReturns t) = (after? start t).map withReturns := by
  induction start generalizing t with
  | nil => rfl
  | cons p start ih =>
    rw [List.mem_cons, not_or] at hfeed hreturn
    cases t with
    | nil => rfl
    | cons c t =>
      by_cases hc : c = '\n'
      · subst hc
        rw [withReturns_lineFeed, after?, if_neg hreturn.1, after?, if_neg hfeed.1]
        rfl
      · rw [withReturns_cons hc, after?, after?, ih hfeed.2 hreturn.2]
        split <;> rfl

/-- The parts between separators are those of the text, with carriage returns. -/
theorem fields_withReturns {sep : Char} (hfeed : '\n' ≠ sep) (hreturn : '\r' ≠ sep) (t : Text) :
    fields (withReturns t) sep = (fields t sep).map withReturns := by
  unfold fields
  induction t with
  | nil => rfl
  | cons c t ih =>
    obtain ⟨part, parts, hparts⟩ := List.exists_cons_of_ne_nil (List.splitOn_ne_nil sep t)
    have hfalse {d : Char} (hd : d ≠ sep) : ¬ (d == sep) = true := by simpa using hd
    by_cases hc : c = '\n'
    · subst hc
      rw [withReturns_lineFeed, List.splitOn_cons_eq_if_modifyHead, if_neg (hfalse hreturn),
        List.splitOn_cons_eq_if_modifyHead, if_neg (hfalse hfeed), ih,
        List.splitOn_cons_eq_if_modifyHead, if_neg (hfalse hfeed), hparts]
      rfl
    · rw [withReturns_cons hc, List.splitOn_cons_eq_if_modifyHead, ih,
        List.splitOn_cons_eq_if_modifyHead]
      split
      · rfl
      · rw [hparts]
        simp only [List.map_cons, List.modifyHead_cons, withReturns_cons hc]

theorem isBlank_return : isBlank '\r' = isBlank '\n' := by
  decide

/-- White space is trimmed off the same places. -/
theorem trim_withReturns (t : Text) : (withReturns t).trim = withReturns t.trim := by
  obtain ⟨a, b, ht, ha, hb⟩ := exists_trim_eq t
  have ha' := (forall_mem_withReturns isBlank_return).mpr ha
  have hb' := (forall_mem_withReturns isBlank_return).mpr hb
  by_cases hempty : t.trim = []
  · have hblank := (forall_mem_withReturns isBlank_return).mpr (trim_eq_nil_iff.mp hempty)
    rw [hempty, trim_of_forall hblank]
    rfl
  · have hsolid := solid_trim hempty
    -- What is left begins and ends in the same characters.
    have hsolid' : (withReturns t.trim).Solid := by
      refine ⟨withReturns_ne_nil_iff.mpr hempty, ?_, ?_⟩
      · intro c hc
        have hfirst : t.trim.head?.any isBlank = false := by
          obtain ⟨d, hd⟩ := Option.ne_none_iff_exists'.mp (List.head?_eq_none_iff.not.mpr hempty)
          rw [hd]
          exact hsolid.first d hd
        rw [← any_head?_withReturns isBlank_return, hc] at hfirst
        exact hfirst
      · intro c hc
        rw [getLast?_withReturns] at hc
        exact hsolid.last c hc
    have hwhole : withReturns t = withReturns a ++ withReturns t.trim ++ withReturns b := by
      rw [← withReturns_append, ← withReturns_append, ← ht]
    rw [hwhole, hsolid'.trim_append ha' hb']

/-- The words are the same, for a carriage return belongs to none. -/
theorem words_withReturns (t : Text) : (withReturns t).words = t.words := by
  have hbehind : ∀ a : Text, (a ++ withReturns t).words = (a ++ t).words := by
    induction t with
    | nil => exact fun _ => rfl
    | cons c t ih =>
      intro a
      by_cases hc : c = '\n'
      · subst hc
        have hreturn : isBlank '\r' = true := by decide
        have hfeed : isBlank '\n' = true := by decide
        have hempty : words ([] ++ '\n' :: withReturns t) = words t := by
          rw [words_append_cons hfeed]
          exact ih []
        rw [withReturns_lineFeed, words_append_cons hreturn, words_append_cons hfeed]
        exact congrArg (a.words ++ ·) hempty
      · have hnext := ih (a ++ [c])
        rw [List.append_assoc, List.append_assoc] at hnext
        rw [withReturns_cons hc]
        exact hnext
  exact hbehind []

/-- A text with a line feed is no identifier, and any other text is the same with carriage
returns. -/
theorem isIdentifier_withReturns (t : Text) : isIdentifier (withReturns t) = isIdentifier t := by
  by_cases hfeed : '\n' ∈ t
  · have hnot {u : Text} (hu : '\n' ∈ u) : isIdentifier u = false := by
      rw [← Bool.not_eq_true]
      exact fun h => not_mem_of_isIdentifier h hu
    rw [hnot hfeed, hnot ((mem_withReturns_iff (by decide)).mpr hfeed)]
  · rw [withReturns_of_not_mem hfeed]

/-- The same words begin and end in both texts. -/
theorem isWordBoundary_withReturns (before : Option Char) (t : Text) :
    isWordBoundary before (withReturns t).head? = isWordBoundary before t.head? := by
  have hword : isWordChar '\r' = isWordChar '\n' := by decide +kernel
  unfold isWordBoundary
  rw [any_head?_withReturns hword]

/-- A search finds the same in both texts, if wherever it looks in the text it reads alike in both,
and finds nothing at a line feed. -/
theorem finds_withReturns {α : Type} {find : Position → Option (α × Nat)} {f : α → α} {t : Text}
    (hfeed : ∀ before u, find ⟨before, '\n' :: u⟩ = none)
    (hfind : ∀ front back, t = front ++ back →
      find ⟨front.getLast?, withReturns back⟩ = (find ⟨front.getLast?, back⟩).map
        fun found => (f found.1, (withReturns (back.take found.2)).length)) :
    (withReturns t).finds find = (t.finds find).map f := by
  -- Of the characters still to be passed over, as many more are passed over as there are returns.
  have hbehind : ∀ back front skip, t = front ++ back →
      findsFrom find (withReturns (back.take skip)).length front.getLast? (withReturns back) =
        (findsFrom find skip front.getLast? back).map f := by
    intro back
    induction back with
    | nil =>
      intro front skip _
      cases skip <;> rfl
    | cons c back ih =>
      intro front skip ht
      have hnext : t = (front ++ [c]) ++ back := by rw [ht, List.append_assoc]; rfl
      have hlast : (front ++ [c]).getLast? = some c := List.getLast?_concat
      cases skip with
      | succ skip =>
        have hrest := ih (front ++ [c]) skip hnext
        rw [hlast] at hrest
        rw [List.take_succ_cons, findsFrom, ← hrest]
        by_cases hc : c = '\n'
        · subst hc
          rfl
        · rw [withReturns_cons hc, withReturns_cons hc]
          rfl
      | zero =>
        have hhere := hfind front (c :: back) ht
        rw [List.take_zero]
        by_cases hc : c = '\n'
        · subst hc
          have hrest := ih (front ++ ['\n']) 0 hnext
          rw [hlast] at hrest
          rw [hfeed, withReturns_lineFeed] at hhere
          rw [withReturns_lineFeed]
          simp only [withReturns, List.length_nil, findsFrom, hhere, hfeed, Option.map_none]
          exact hrest
        · rw [withReturns_cons hc] at hhere ⊢
          simp only [withReturns, List.length_nil, findsFrom, hhere]
          cases hfound : find ⟨front.getLast?, c :: back⟩ with
          | none =>
            have hrest := ih (front ++ [c]) 0 hnext
            rw [hlast] at hrest
            exact hrest
          | some found =>
            obtain ⟨a, taken⟩ := found
            have hrest := ih (front ++ [c]) (taken - 1) hnext
            have hcount : (withReturns ((c :: back).take taken)).length - 1 =
                (withReturns (back.take (taken - 1))).length := by
              cases taken with
              | zero => rfl
              | succ taken => rw [List.take_succ_cons, withReturns_cons hc]; rfl
            rw [hlast, ← hcount] at hrest
            exact congrArg (f a :: ·) hrest
  exact hbehind t [] 0 rfl

end Text

end TestScaffold
