import TestScaffold.Proofs.Generation.Claims
import TestScaffold.Proofs.Generation.Transition

/-!
One generator that carries out many requests at once. Between any two steps of a generation
others may take theirs, and whoever owns the generator may claim destinations and give them up.
The claimed destinations are at every moment those of the live guards: the ones that the owner
keeps and the ones of the generations under way.
-/

namespace TestScaffold

structure Generator (σ : Type) where
  settings : Settings
  world : World σ
  /-- The destinations that its owner has claimed and keeps, newest first. -/
  guards : List Path := []
  invocations : List Invocation := []
  /-- Which invocation has made which access, oldest first. -/
  history : List (Nat × Access) := []

/-- What can happen next. A generation or a guard that is not there does nothing. -/
inductive Move
  | start (request : Request)
  | advance (index : Nat)
  /-- The owner tries to claim a destination. -/
  | claim (path : Path)
  | drop (index : Nat)

namespace Generator

variable {σ : Type}

def fresh (settings : Settings) (store : σ) : Generator σ :=
  { settings, world := { store } }

/-- The paths of the live guards: those of the generations under way, and those that are kept. -/
def live (g : Generator σ) : List Path :=
  g.invocations.filterMap Invocation.held? ++ g.guards

/-- The claimed destinations are those of the live guards. -/
def Exact (g : Generator σ) : Prop :=
  g.world.inFlight.Matches g.live

theorem exact_fresh (settings : Settings) (store : σ) : (fresh settings store).Exact :=
  InFlight.matches_empty

/-- A generation that is in the list at two places, as far as its destination goes, is one. -/
theorem Exact.index_unique {g : Generator σ} (hg : g.Exact) {j k : Nat} {a b : Invocation}
    {d e : Path} (hj : g.invocations[j]? = some a) (hk : g.invocations[k]? = some b)
    (ha : a.held? = some d) (hb : b.held? = some e) (hde : d.components = e.components) :
    j = k := by
  have hheld : ((g.invocations.filterMap Invocation.held?).map Path.components).Nodup := by
    have hlive := hg.nodup
    rw [live, List.map_append] at hlive
    exact hlive.of_append_left
  rw [List.Nodup, List.pairwise_map, List.pairwise_filterMap, List.pairwise_iff_getElem] at hheld
  obtain ⟨hjl, rfl⟩ := List.getElem?_eq_some_iff.mp hj
  obtain ⟨hkl, rfl⟩ := List.getElem?_eq_some_iff.mp hk
  rcases Nat.lt_trichotomy j k with hlt | heq | hgt
  · exact absurd hde (hheld j k hjl hkl hlt d ha e hb)
  · exact heq
  · exact absurd hde.symm (hheld k j hkl hjl hgt e hb d ha)

theorem live_of_all_ended {g : Generator σ}
    (hended : ∀ i ∈ g.invocations, i.result?.isSome = true) : g.live = g.guards := by
  have hnone : g.invocations.filterMap Invocation.held? = [] := by
    rw [List.filterMap_eq_nil_iff]
    intro i hi
    have hresult := hended i hi
    unfold Invocation.result? at hresult
    unfold Invocation.held?
    cases hstage : i.stage with
    | finished result => rfl
    | _ => simp [hstage] at hresult
  rw [live, hnone, List.nil_append]

variable [FileStore σ]

def move (g : Generator σ) : Move → Generator σ
  | .start request => { g with invocations := g.invocations ++ [{ request }] }
  | .advance k =>
    match g.invocations[k]? with
    | none => g
    | some i =>
      let (world, next) := i.step g.settings g.world
      { g with
        world
        invocations := g.invocations.set k next
        history := g.history ++ (i.access?.map (k, ·)).toList }
  | .claim path =>
    match g.world.inFlight.claim? path with
    | none => g
    | some inFlight =>
      { g with world := { g.world with inFlight }, guards := path :: g.guards }
  | .drop k =>
    match g.guards[k]? with
    | none => g
    | some path =>
      { g with
        world := { g.world with inFlight := g.world.inFlight.release path }
        guards := g.guards.eraseIdx k }

def run (g : Generator σ) (moves : List Move) : Generator σ :=
  moves.foldl move g

theorem run_induction {P : Generator σ → Prop} (hmove : ∀ g m, P g → P (g.move m))
    (g : Generator σ) (moves : List Move) (h : P g) : P (g.run moves) := by
  induction moves generalizing g with
  | nil => exact h
  | cons m moves ih => exact ih (g.move m) (hmove g m h)

theorem move_advance {g : Generator σ} {k : Nat} {i : Invocation}
    (h : g.invocations[k]? = some i) :
    g.move (.advance k) =
      { g with
        world := (i.step g.settings g.world).1
        invocations := g.invocations.set k (i.step g.settings g.world).2
        history := g.history ++ (i.access?.map (k, ·)).toList } := by
  simp only [move, h]

theorem split_at_index {α : Type} {l : List α} {k : Nat} {a : α} (h : l[k]? = some a) :
    ∃ before after, l = before ++ a :: after ∧ l.eraseIdx k = before ++ after ∧
      ∀ b, l.set k b = before ++ b :: after := by
  obtain ⟨hk, rfl⟩ := List.getElem?_eq_some_iff.mp h
  refine ⟨l.take k, l.drop (k + 1), ?_, List.eraseIdx_eq_take_drop_succ l k, ?_⟩
  · rw [List.getElem_cons_drop, List.take_append_drop]
  · intro b
    rw [List.set_eq_take_append_cons_drop, if_pos hk]

theorem filterMap_middle_perm {α β : Type} (f : α → Option β) (before after : List α) (a : α) :
    ((before ++ a :: after).filterMap f).Perm ((f a).toList ++ (before ++ after).filterMap f) := by
  have hmiddle : ((before ++ a :: after).filterMap f).Perm ((a :: (before ++ after)).filterMap f) :=
    List.perm_middle.filterMap f
  refine hmiddle.trans ?_
  rw [List.filterMap_cons]
  cases f a with
  | none => exact List.Perm.refl _
  | some b => exact List.Perm.refl _

/-- What the others hold when one of the generations takes a step. -/
theorem live_advance {g : Generator σ} {k : Nat} {i : Invocation}
    (h : g.invocations[k]? = some i) :
    ∃ others, g.live.Perm (i.held?.toList ++ others) ∧
      (g.move (.advance k)).live.Perm
        ((i.step g.settings g.world).2.held?.toList ++ others) := by
  obtain ⟨before, after, hsplit, -, hset⟩ := split_at_index h
  refine ⟨(before ++ after).filterMap Invocation.held? ++ g.guards, ?_, ?_⟩
  · rw [live, hsplit, ← List.append_assoc]
    exact (filterMap_middle_perm Invocation.held? before after i).append_right g.guards
  · rw [move_advance h, live, hset, ← List.append_assoc]
    exact (filterMap_middle_perm Invocation.held? before after _).append_right g.guards

theorem exact_advance {g : Generator σ} {k : Nat} (hg : g.Exact) : (g.move (.advance k)).Exact := by
  cases hi : g.invocations[k]? with
  | none =>
    simp only [move, hi]
    exact hg
  | some i =>
    -- The others stay as they are; only what this generation holds can change.
    obtain ⟨others, hbefore, hafter⟩ := live_advance hi
    have hmatches := hg.perm hbefore
    have hworld : (g.move (.advance k)).world = (i.step g.settings g.world).1 := by
      rw [move_advance hi]
    refine InFlight.Matches.perm ?_ hafter.symm
    rw [hworld]
    rcases (Invocation.transition_step g.settings g.world i).claims with
      ⟨hsame, hheld⟩ | ⟨d, hnone, hsome, hclaim⟩ | ⟨d, hsome, hnone, hrelease⟩
    · rw [hsame, hheld]
      exact hmatches
    · rw [hnone] at hmatches
      rw [hsome]
      exact hmatches.claim hclaim
    · rw [hsome] at hmatches
      rw [hnone, hrelease]
      exact hmatches.release

theorem exact_move (g : Generator σ) (m : Move) (hg : g.Exact) : (g.move m).Exact := by
  cases m with
  | start request =>
    have hlive : (g.move (.start request)).live = g.live := by
      simp [move, live, Invocation.held?]
    unfold Exact
    rw [hlive]
    exact hg
  | advance k => exact exact_advance hg
  | claim path =>
    simp only [move]
    cases hclaim : g.world.inFlight.claim? path with
    | none => exact hg
    | some f =>
      refine InFlight.Matches.perm (hg.claim hclaim) ?_
      exact List.perm_middle.symm
  | drop k =>
    simp only [move]
    cases hguard : g.guards[k]? with
    | none => exact hg
    | some path =>
      -- A release goes by the path alone, and no other live guard has this one.
      obtain ⟨before, after, hsplit, herase, -⟩ := split_at_index hguard
      refine InFlight.Matches.release (p := path) (InFlight.Matches.perm hg ?_)
      simp only [live, herase]
      rw [hsplit, ← List.append_assoc, ← List.append_assoc]
      exact List.perm_middle

theorem exact_run (settings : Settings) (store : σ) (moves : List Move) :
    ((fresh settings store).run moves).Exact :=
  run_induction exact_move _ moves (exact_fresh settings store)

/-- In every run, at every moment: no two live guards hold one destination; a destination is
held, and cannot be claimed, exactly when a live guard has its components; a guard that is given
up, by the owner or by a generation at its end, releases its own destination and no other; and
once every generation has ended, the guards that the owner keeps are all that is held. -/
theorem held_iff_guarded (settings : Settings) (store : σ) (moves : List Move) :
    let g := (fresh settings store).run moves
    (g.live.map Path.components).Nodup ∧
    (∀ p, g.world.inFlight.isHeld p = true ↔ ∃ q ∈ g.live, q.components = p.components) ∧
    (∀ p, (g.world.inFlight.claim? p).isSome = true ↔
      ∀ q ∈ g.live, q.components ≠ p.components) ∧
    (∀ k q, g.guards[k]? = some q → ∀ p,
      (g.move (.drop k)).world.inFlight.isHeld p = true ↔
        p.components ≠ q.components ∧ g.world.inFlight.isHeld p = true) ∧
    (∀ k i d result, g.invocations[k]? = some i → i.stage = .leaving d result → ∀ p,
      (g.move (.advance k)).world.inFlight.isHeld p = true ↔
        p.components ≠ d.components ∧ g.world.inFlight.isHeld p = true) ∧
    ((∀ i ∈ g.invocations, i.result?.isSome = true) → ∀ p,
      g.world.inFlight.isHeld p = true ↔ ∃ q ∈ g.guards, q.components = p.components) := by
  intro g
  have hg : g.Exact := exact_run settings store moves
  refine ⟨hg.nodup, hg.isHeld_iff_exists, hg.claim?_isSome_iff_forall, ?_, ?_, ?_⟩
  · intro k q hguard p
    simp only [move, hguard]
    exact InFlight.isHeld_release g.world.inFlight q p
  · intro k i d result hi hstage p
    rw [move_advance hi]
    simp only [Invocation.step, hstage]
    exact InFlight.isHeld_release g.world.inFlight d p
  · intro hended p
    rw [← live_of_all_ended hended]
    exact hg.isHeld_iff_exists p

/-- A test generated from its request to its end, while its owner keeps another destination. -/
def oneTest : List Move :=
  .claim ⟨"/q".toList⟩ ::
    .start { location := ⟨⟨"/p".toList⟩, ⟨"/p/src/a.ts".toList⟩⟩ } :: List.replicate 5 (.advance 0)

theorem held_iff_guarded_oneTest :
    let g := (fresh {} MemoryStore.empty).run oneTest
    (∀ i ∈ g.invocations, i.result?.isSome = true) ∧
      ∀ p, g.world.inFlight.isHeld p = true ↔ ∃ q ∈ g.guards, q.components = p.components := by
  have hended : ∀ i ∈ ((fresh {} MemoryStore.empty).run oneTest).invocations,
      i.result?.isSome = true := by decide
  exact ⟨hended, (held_iff_guarded {} MemoryStore.empty oneTest).2.2.2.2.2 hended⟩

end Generator

end TestScaffold
