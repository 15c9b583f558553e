import TestScaffold.Proofs.Source.Aliasing
import TestScaffold.Proofs.Source.Specifier

/-!
The normal form of specifiers. The alias of a specifier is determined by what its relative steps
leave of it, once its backslashes are slashes: all steps up at its start are dropped when there is
one, and else a single dot before a slash. Nothing more is dropped, so what follows a dot may begin
with a step up.
-/

namespace TestScaffold

/-- So many steps up, as they are written with slashes. -/
def stepsUp (n : Nat) : Text :=
  (List.replicate n "../".toList).flatten

/-- The rounds of a loop that takes a step up from the start of a text as long as there is one, and
what is left after them. -/
inductive Rounds : Nat → Text → Text → Prop
  | done {t : Text} (h : ¬ "../".toList <+: t) : Rounds 0 t t
  | round {n : Nat} {t rest : Text} (h : Rounds n t rest) : Rounds (n + 1) ("../".toList ++ t) rest

/-- What a specifier that is written with slashes leaves when its relative steps are dropped. -/
inductive Leaves : Text → Text → Prop
  | ofSteps {n : Nat} {rest : Text} (h : ¬ "../".toList <+: rest) :
      Leaves (stepsUp (n + 1) ++ rest) rest
  | ofDot {rest : Text} : Leaves ("./".toList ++ rest) rest
  | whole {t : Text} (hup : ¬ "../".toList <+: t) (hhere : ¬ "./".toList <+: t) : Leaves t t

/-- A step up before a slash of either kind. -/
inductive UpStep
  | slash
  | backslash

def UpStep.text : UpStep → Text
  | slash => "../".toList
  | backslash => "..\\".toList

theorem Text.startsWith_iff_prefix {t start : Text} : t.startsWith start = true ↔ start <+: t := by
  rw [Text.startsWith_iff]
  exact ⟨fun ⟨rest, h⟩ => ⟨rest, h.symm⟩, fun ⟨rest, h⟩ => ⟨rest, h.symm⟩⟩

section Loop

variable {n : Nat} {t rest : Text}

theorem stepsUp_succ_append (n : Nat) (t : Text) :
    stepsUp (n + 1) ++ t = "../".toList ++ (stepsUp n ++ t) := by
  unfold stepsUp
  rw [List.replicate_succ, List.flatten_cons, List.append_assoc]

theorem dropUpSteps_append (t : Text) : dropUpSteps ("../".toList ++ t) = dropUpSteps t :=
  rfl

theorem dropUpSteps_of_not_prefix (h : ¬ "../".toList <+: t) : dropUpSteps t = t := by
  unfold dropUpSteps
  split
  · rename_i t
    exact absurd (List.prefix_append "../".toList t) h
  · rfl

theorem dropUpSteps_stepsUp_append (n : Nat) (t : Text) :
    dropUpSteps (stepsUp n ++ t) = dropUpSteps t := by
  induction n with
  | zero => rfl
  | succ n ih => rw [stepsUp_succ_append, dropUpSteps_append, ih]

/-- The loop comes to its end on every text, after as many rounds as there are steps up. -/
theorem rounds_dropUpSteps (t : Text) : Rounds (upSteps t) t (dropUpSteps t) := by
  induction t using dropUpSteps.induct with
  | case1 t ih => exact .round ih
  | case2 t hnot =>
    have hend : ¬ "../".toList <+: t := by
      rintro ⟨rest, rfl⟩
      exact hnot rest rfl
    have hrounds : upSteps t = 0 := by
      unfold upSteps
      split
      · exact absurd rfl (hnot _)
      · rfl
    rw [hrounds, dropUpSteps_of_not_prefix hend]
    exact .done hend

namespace Rounds

variable (h : Rounds n t rest)
include h

theorem not_prefix : ¬ "../".toList <+: rest := by
  induction h with
  | done hend => exact hend
  | round _ ih => exact ih

theorem eq_stepsUp_append : t = stepsUp n ++ rest := by
  induction h with
  | done => rfl
  | round _ ih => rw [stepsUp_succ_append, ← ih]

/-- Every round takes three characters. -/
theorem length_eq : t.length = 3 * n + rest.length := by
  induction h with
  | done => omega
  | @round n t rest _ ih =>
    have hstep : ("../".toList ++ t).length = 3 + t.length := List.length_append
    omega

end Rounds

end Loop

section Leaves

variable {t rest rest' : Text}

/-- Every specifier leaves something. -/
theorem leaves_dropRelativeSteps (t : Text) : Leaves t (dropRelativeSteps t) := by
  unfold dropRelativeSteps
  by_cases hup : t.startsWith "../".toList = true
  · rw [if_pos hup]
    obtain ⟨inner, rfl⟩ := Text.startsWith_iff.mp hup
    have hrounds := rounds_dropUpSteps ("../".toList ++ inner)
    have hcount : upSteps ("../".toList ++ inner) = upSteps inner + 1 := rfl
    rw [hcount] at hrounds
    -- The specifier is named by its parts for the constructor.
    have hsteps : Leaves (stepsUp (upSteps inner + 1) ++ dropUpSteps ("../".toList ++ inner))
        (dropUpSteps ("../".toList ++ inner)) := .ofSteps hrounds.not_prefix
    rwa [← hrounds.eq_stepsUp_append] at hsteps
  · rw [if_neg hup]
    cases hhere : Text.after? "./".toList t with
    | some rest =>
      rw [Text.after?_eq_some_iff.mp hhere]
      exact .ofDot
    | none =>
      refine .whole (mt Text.startsWith_iff_prefix.mpr hup) ?_
      rintro ⟨rest, hrest⟩
      rw [Text.after?_eq_some_iff.mpr hrest.symm] at hhere
      cases hhere

/-- A specifier leaves no more than one thing. -/
theorem Leaves.eq_dropRelativeSteps (h : Leaves t rest) : rest = dropRelativeSteps t := by
  unfold dropRelativeSteps
  cases h with
  | @ofSteps n rest hend =>
    have hup : (stepsUp (n + 1) ++ rest).startsWith "../".toList = true := by
      rw [stepsUp_succ_append]
      exact Text.startsWith_iff.mpr ⟨_, rfl⟩
    rw [if_pos hup, dropUpSteps_stepsUp_append, dropUpSteps_of_not_prefix hend]
  | ofDot =>
    have hup : ¬ Text.startsWith ("./".toList ++ rest) "../".toList = true := by
      rw [Text.startsWith_iff]
      rintro ⟨other, hother⟩
      cases hother
    rw [if_neg hup, Text.after?_eq_some_iff.mpr rfl, Option.getD_some]
  | whole hup hhere =>
    have hnone : Text.after? "./".toList t = none := by
      rw [Option.eq_none_iff_forall_ne_some]
      intro other hother
      exact hhere ⟨other, (Text.after?_eq_some_iff.mp hother).symm⟩
    rw [if_neg (mt Text.startsWith_iff_prefix.mp hup), hnone, Option.getD_none]

theorem leaves_iff : Leaves t rest ↔ rest = dropRelativeSteps t := by
  constructor
  · exact Leaves.eq_dropRelativeSteps
  · rintro rfl
    exact leaves_dropRelativeSteps t

end Leaves

theorem forwardSlashes_append (t u : Text) :
    forwardSlashes (t ++ u) = forwardSlashes t ++ forwardSlashes u :=
  List.map_append

theorem not_mem_forwardSlashes (t : Text) : '\\' ∉ forwardSlashes t := by
  intro hmem
  obtain ⟨c, -, hc⟩ := List.mem_map.mp hmem
  split at hc
  · cases hc
  · contradiction

theorem forwardSlashes_upSteps (steps : List UpStep) :
    forwardSlashes (steps.flatMap UpStep.text) = stepsUp steps.length := by
  induction steps with
  | nil => rfl
  | cons step steps ih =>
    have hstep : forwardSlashes step.text = "../".toList := by
      cases step <;> rfl
    have hlength := stepsUp_succ_append steps.length []
    rw [List.append_nil, List.append_nil] at hlength
    rw [List.flatMap_cons, forwardSlashes_append, hstep, ih, List.length_cons, hlength]

/-- Before a step up, further steps up make no difference. -/
theorem dropRelativeSteps_stepsUp_append (n : Nat) (t : Text) :
    dropRelativeSteps (stepsUp n ++ ("../".toList ++ t)) =
      dropRelativeSteps ("../".toList ++ t) := by
  have hsteps (u : Text) (hu : "../".toList <+: u) : dropRelativeSteps u = dropUpSteps u := by
    unfold dropRelativeSteps
    rw [if_pos (Text.startsWith_iff_prefix.mpr hu)]
  have hfirst : "../".toList <+: stepsUp n ++ ("../".toList ++ t) := by
    cases n with
    | zero => exact List.prefix_append _ _
    | succ n =>
      rw [stepsUp_succ_append]
      exact List.prefix_append _ _
  rw [hsteps _ hfirst, hsteps _ (List.prefix_append _ _), dropUpSteps_stepsUp_append]

namespace PathSettings

variable (s : PathSettings)

theorem aliasPath_forwardSlashes (specifier : Text) :
    s.aliasPath (forwardSlashes specifier) = s.aliasPath specifier := by
  unfold aliasPath
  rw [forwardSlashes_of_not_mem (not_mem_forwardSlashes specifier)]

theorem aliasPath_upSteps_append (steps : List UpStep) (t : Text) :
    s.aliasPath (steps.flatMap UpStep.text ++ ("../".toList ++ t)) =
      s.aliasPath ("../".toList ++ t) := by
  have hstep : forwardSlashes ("../".toList ++ t) = "../".toList ++ forwardSlashes t := rfl
  unfold aliasPath
  rw [forwardSlashes_append, forwardSlashes_upSteps, hstep, dropRelativeSteps_stepsUp_append]

theorem aliasPath_eq_iff (a b : Text) :
    s.aliasPath a = s.aliasPath b ↔
      dropRelativeSteps (forwardSlashes a) = dropRelativeSteps (forwardSlashes b) :=
  Iff.of_eq (List.append_cancel_left_eq _ _ _)

end PathSettings

/-- The alias of a specifier is the prefix and what the specifier leaves, written with slashes, when
its relative steps are dropped. The loop that drops the steps up ends on every text, in no more than
a third as many rounds as the text has characters. So it does not matter which kind of slashes a
specifier is written with, nor how many steps up stand before the first one, and two specifiers have
one alias just when they leave the same. -/
theorem aliasPath_normalForm (s : PathSettings) :
    (∀ specifier, ∃ rest, (∀ other, Leaves (forwardSlashes specifier) other ↔ other = rest) ∧
      s.aliasPath specifier = s.aliasPrefix ++ rest) ∧
    (∀ t, ∃ rounds, Rounds rounds t (dropUpSteps t) ∧ 3 * rounds ≤ t.length) ∧
    (∀ specifier, s.aliasPath (forwardSlashes specifier) = s.aliasPath specifier) ∧
    (∀ (steps : List UpStep) (t : Text),
      s.aliasPath (steps.flatMap UpStep.text ++ ("../".toList ++ t)) =
        s.aliasPath ("../".toList ++ t)) ∧
    ∀ a b, s.aliasPath a = s.aliasPath b ↔
      ∃ rest, Leaves (forwardSlashes a) rest ∧ Leaves (forwardSlashes b) rest := by
  refine ⟨fun specifier => ?_, fun t => ?_, s.aliasPath_forwardSlashes,
    s.aliasPath_upSteps_append, fun a b => ?_⟩
  · exact ⟨dropRelativeSteps (forwardSlashes specifier), fun _ => leaves_iff, rfl⟩
  · have hrounds := rounds_dropUpSteps t
    have hlength := hrounds.length_eq
    exact ⟨upSteps t, hrounds, by omega⟩
  · rw [s.aliasPath_eq_iff]
    constructor
    · intro hsame
      exact ⟨_, leaves_dropRelativeSteps _, leaves_iff.mpr hsame⟩
    · rintro ⟨rest, ha, hb⟩
      rw [← ha.eq_dropRelativeSteps, ← hb.eq_dropRelativeSteps]

/-- A dot is dropped once, and the step up after it stays. -/
example : PathSettings.aliasPath {} "./../x".toList = "@/../x".toList := by
  decide

end TestScaffold
