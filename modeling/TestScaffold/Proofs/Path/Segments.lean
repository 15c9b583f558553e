import Mathlib.Data.List.Basic
import TestScaffold.Path.FileName

/-!
The segments of a path, as it is written between its slashes. Components come and go with the
anchor of a path, segments do not, so what is said of the parts of joined and shortened paths is
said of segments first. No operation on paths makes a `..` of its own.
-/

namespace TestScaffold

namespace Text

theorem fields_slash_cons (t : Text) : fields ('/' :: t) '/' = [] :: fields t '/' := by
  unfold fields
  rw [List.splitOn_cons_eq_if_modifyHead, beq_self_eq_true, if_pos rfl]

theorem fields_append_slash (a b : Text) :
    fields (a ++ '/' :: b) '/' = fields a '/' ++ fields b '/' :=
  List.splitOn_append_cons_self a b

theorem fields_of_not_mem {t : Text} (h : '/' ∉ t) : fields t '/' = [t] :=
  List.splitOn_eq_singleton h

theorem fields_join {parts : List Text} (hparts : parts ≠ []) (h : ∀ s ∈ parts, '/' ∉ s) :
    fields (join ['/'] parts) '/' = parts :=
  List.splitOn_intercalate '/' h hparts

theorem not_mem_of_mem_fields {t s : Text} (h : s ∈ fields t '/') : '/' ∉ s := by
  induction t generalizing s with
  | nil =>
    simp only [fields, List.splitOn_nil, List.mem_singleton] at h
    simp [h]
  | cons c t ih =>
    unfold fields at h
    rw [List.splitOn_cons_eq_if_modifyHead] at h
    split at h
    · rcases List.mem_cons.mp h with rfl | htail
      · simp
      · exact ih htail
    · rename_i hc
      cases hfields : List.splitOn '/' t with
      | nil => exact absurd hfields (List.splitOn_ne_nil '/' t)
      | cons first rest =>
        have hall : ∀ x ∈ first :: rest, '/' ∉ x := by
          intro x hx
          apply ih
          unfold fields
          rw [hfields]
          exact hx
        rw [hfields, List.modifyHead_cons] at h
        rcases List.mem_cons.mp h with rfl | htail
        · rw [List.mem_cons, not_or]
          refine ⟨?_, hall first List.mem_cons_self⟩
          rintro rfl
          exact hc rfl
        · exact hall s (List.mem_cons_of_mem first htail)

end Text

namespace Path

/-- The parts of a path between its slashes. -/
def segments (p : Path) : List Text :=
  Text.fields p.text '/'

/-- A path is put together again from its segments. -/
theorem eq_of_segments {p q : Path} (h : p.segments = q.segments) : p = q := by
  have hjoin : ∀ r : Path, Text.join ['/'] r.segments = r.text :=
    fun r => List.intercalate_splitOn '/'
  cases p
  cases q
  exact congrArg Path.mk ((hjoin _).symm.trans ((congrArg _ h).trans (hjoin _)))

def Anchor.segments : Anchor → List Text
  | nothing => []
  | root => [[]]
  | current => [['.']]

/-- The layout of a path keeps its segments, those at the start as its anchor. -/
theorem segments_layout (p : Path) :
    p.segments = p.layout.anchor.segments ++ p.layout.segments := by
  unfold segments layout
  split
  · rename_i t htext
    rw [htext, Text.fields_slash_cons]
    rfl
  · rename_i htext
    rw [htext]
    rfl
  · rename_i t htext
    rw [htext]
    exact Text.fields_append_slash ['.'] t
  · rfl

theorem not_slash_mem_of_mem_segments {p : Path} {s : Text} (h : s ∈ p.segments) : '/' ∉ s :=
  Text.not_mem_of_mem_fields h

theorem mem_segments_of_mem_layout {p : Path} {s : Text} (h : s ∈ p.layout.segments) :
    s ∈ p.segments := by
  rw [segments_layout]
  exact List.mem_append_right _ h

theorem ofSegment?_eq_parent_iff {s : Text} :
    Component.ofSegment? s = some .parent ↔ s = ['.', '.'] := by
  unfold Component.ofSegment?
  by_cases hnull : s = [] ∨ s = ['.']
  · rw [if_pos hnull]
    rcases hnull with rfl | rfl <;> simp
  · rw [if_neg hnull]
    by_cases hup : s = ['.', '.']
    · simp [hup]
    · simp [hup]

/-- A path has a `..` among its components exactly when it is written with one. -/
theorem parent_mem_components_iff {p : Path} :
    .parent ∈ p.components ↔ ['.', '.'] ∈ p.segments := by
  have hanchor : .parent ∉ p.layout.anchor.components := by
    cases p.layout.anchor <;> simp [Anchor.components]
  have hstart : ['.', '.'] ∉ p.layout.anchor.segments := by
    cases p.layout.anchor <;> simp [Anchor.segments]
  have hsegments : .parent ∈ p.layout.segments.filterMap Component.ofSegment? ↔
      ['.', '.'] ∈ p.layout.segments := by
    rw [List.mem_filterMap]
    constructor
    · rintro ⟨s, hs, hparent⟩
      rw [← ofSegment?_eq_parent_iff.mp hparent]
      exact hs
    · intro h
      exact ⟨_, h, ofSegment?_eq_parent_iff.mpr rfl⟩
  unfold components Layout.components
  rw [segments_layout, List.mem_append, List.mem_append, hsegments]
  simp only [hanchor, hstart, false_or]

/-- A joined path has the segments of the two, or those of an absolute one alone. -/
theorem mem_segments_join {p q : Path} {s : Text} (h : s ∈ (p.join q).segments) :
    s ∈ p.segments ∨ s ∈ q.segments := by
  unfold join at h
  split at h
  · exact Or.inr h
  split at h
  · rename_i hend
    rcases hend with hempty | hslash
    · rw [hempty, List.nil_append] at h
      exact Or.inr h
    · obtain ⟨start, hstart⟩ := List.getLast?_eq_some_iff.mp hslash
      unfold segments at h ⊢
      rw [hstart, List.append_assoc, List.singleton_append, Text.fields_append_slash,
        List.mem_append] at h
      rw [hstart, Text.fields_append_slash, List.mem_append]
      rcases h with h | h
      · exact Or.inl (Or.inl h)
      · exact Or.inr h
  · unfold segments at h ⊢
    rw [Text.fields_append_slash, List.mem_append] at h
    exact h

/-- A path that is put together has the segments that it is put together from. -/
theorem mem_segments_path {l : Layout} {s : Text} (hl : ∀ x ∈ l.segments, '/' ∉ x)
    (h : s ∈ l.path.segments) : s ∈ l.anchor.segments ∨ s = [] ∨ s ∈ l.segments := by
  obtain ⟨anchor, parts⟩ := l
  -- Without any part, what is joined is empty and still has one segment.
  have hjoin : ∀ x ∈ Text.fields (Text.join ['/'] parts) '/', x = [] ∨ x ∈ parts := by
    intro x hx
    by_cases hparts : parts = []
    · left
      simpa [hparts, Text.join, Text.fields] using hx
    · rw [Text.fields_join hparts hl] at hx
      exact Or.inr hx
  cases anchor with
  | nothing => exact Or.inr (hjoin s h)
  | root =>
    change s ∈ Text.fields ('/' :: Text.join ['/'] parts) '/' at h
    rw [Text.fields_slash_cons, List.mem_cons] at h
    rcases h with rfl | h
    · exact Or.inl List.mem_cons_self
    · exact Or.inr (hjoin s h)
  | current =>
    cases parts with
    | nil => exact Or.inl h
    | cons part parts =>
      change s ∈ Text.fields (['.'] ++ '/' :: Text.join ['/'] (part :: parts)) '/' at h
      rw [Text.fields_append_slash, List.mem_append] at h
      rcases h with h | h
      · exact Or.inl h
      · exact Or.inr (hjoin s h)

theorem up_mem_of_mem_path {l : Layout} (hl : ∀ x ∈ l.segments, '/' ∉ x)
    (h : ['.', '.'] ∈ l.path.segments) : ['.', '.'] ∈ l.segments := by
  rcases mem_segments_path hl h with hanchor | hnil | hmem
  · cases hl : l.anchor <;> simp [hl, Anchor.segments] at hanchor
  · cases hnil
  · exact hmem

theorem mem_of_mem_trimSegments {xs : List Text} {s : Text} (h : s ∈ trimSegments xs) :
    s ∈ xs := by
  unfold trimSegments at h
  have hdrop := (List.dropWhile_sublist isNullSegment).subset (List.mem_reverse.mp h)
  exact List.mem_reverse.mp hdrop

theorem mem_of_mem_dropComponents {n : Nat} {xs : List Text} {s : Text}
    (h : s ∈ dropComponents n xs) : s ∈ xs := by
  induction xs generalizing n with
  | nil => cases n <;> exact h
  | cons x xs ih =>
    cases n with
    | zero => exact h
    | succ n =>
      simp only [dropComponents] at h
      split at h <;> exact List.mem_cons_of_mem x (ih h)

theorem mem_of_mem_parentsOf {anchor : Anchor} {xs : List Text} {l : Layout} {s : Text}
    (h : l ∈ Layout.parentsOf anchor xs) (hs : s ∈ l.segments) : s ∈ xs := by
  induction xs with
  | nil =>
    unfold Layout.parentsOf at h
    split at h
    · rw [List.mem_singleton.mp h] at hs
      exact hs
    · cases h
  | cons x xs ih =>
    simp only [Layout.parentsOf] at h
    split at h
    · exact List.mem_cons_of_mem x (ih h)
    · rcases List.mem_cons.mp h with rfl | htail
      · exact List.mem_cons_of_mem x (List.mem_reverse.mp (mem_of_mem_trimSegments hs))
      · exact List.mem_cons_of_mem x (ih htail)

/-- A path put together from segments of another one. -/
def MadeFrom (q p : Path) : Prop :=
  ∃ l : Layout, q = l.path ∧ ∀ s ∈ l.segments, s ∈ p.layout.segments

theorem madeFrom_under? {p base q : Path} (h : p.under? base = some q) : q.MadeFrom p := by
  unfold under? at h
  split at h
  · split at h
    · obtain rfl := Option.some.inj h
      exact ⟨_, rfl, fun s hs => mem_of_mem_trimSegments hs⟩
    · obtain rfl := Option.some.inj h
      refine ⟨_, rfl, ?_⟩
      intro s hs
      exact mem_of_mem_dropComponents
        ((List.dropWhile_sublist isNullSegment).subset (mem_of_mem_trimSegments hs))
  · cases h

theorem madeFrom_of_mem_parents {p q : Path} (h : q ∈ p.parents) : q.MadeFrom p := by
  obtain ⟨l, hl, rfl⟩ := List.mem_map.mp h
  refine ⟨l, rfl, ?_⟩
  intro s hs
  exact List.mem_reverse.mp (mem_of_mem_parentsOf hl hs)

theorem MadeFrom.up_mem {p q : Path} (h : q.MadeFrom p) (hup : ['.', '.'] ∈ q.segments) :
    ['.', '.'] ∈ p.segments := by
  obtain ⟨l, rfl, hl⟩ := h
  apply mem_segments_of_mem_layout
  apply hl
  refine up_mem_of_mem_path ?_ hup
  intro s hs
  exact not_slash_mem_of_mem_segments (mem_segments_of_mem_layout (hl s hs))

theorem up_mem_of_under? {p base q : Path} (h : p.under? base = some q)
    (hup : ['.', '.'] ∈ q.segments) : ['.', '.'] ∈ p.segments :=
  (madeFrom_under? h).up_mem hup

theorem up_mem_of_parent? {p q : Path} (h : p.parent? = some q)
    (hup : ['.', '.'] ∈ q.segments) : ['.', '.'] ∈ p.segments :=
  (madeFrom_of_mem_parents (List.mem_of_mem_head? h)).up_mem hup

theorem mem_segments_of_fileName? {p : Path} {name : Text} (h : p.fileName? = some name) :
    name ∈ p.segments := by
  obtain ⟨c, hlast, hname⟩ := Option.bind_eq_some_iff.mp h
  have hmem : c ∈ p.components := List.mem_of_mem_getLast? hlast
  unfold components Layout.components at hmem
  rcases List.mem_append.mp hmem with hanchor | hsegments
  · cases hl : p.layout.anchor <;> simp [hl, Anchor.components] at hanchor
    all_goals
      rw [hanchor] at hname
      cases hname
  · obtain ⟨s, hs, hc⟩ := List.mem_filterMap.mp hsegments
    unfold Component.ofSegment? at hc
    split at hc
    · cases hc
    split at hc
    · obtain rfl := Option.some.inj hc
      cases hname
    · obtain rfl := Option.some.inj hc
      obtain rfl := Option.some.inj hname
      exact mem_segments_of_mem_layout hs

end Path

end TestScaffold
