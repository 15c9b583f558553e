import TestScaffold.Proofs.Generation.Destination
import TestScaffold.Proofs.Generation.History

/-!
No test is overwritten unless its own generation was allowed to. To look whether a test exists,
to ask and to write are separate steps, and others take theirs in between. A generation that has
found its destination free still finds it free when it writes, because whoever wrote there
meanwhile would have held the destination too.
-/

namespace TestScaffold

/-- A store that keeps its files under the components of their paths: a write leaves alone what
is there under other components. -/
class KeyedStore (σ : Type) [FileStore σ] : Prop where
  holds_write : ∀ (x : σ) (p q : Path) (content : Text), q.components ≠ p.components →
    FileStore.holds (FileStore.write x p content).1 q = FileStore.holds x q

instance : KeyedStore MemoryStore where
  holds_write x p q content hne := by
    change MemoryStore.holds (x.put p (some content)) q = MemoryStore.holds x q
    unfold MemoryStore.holds
    rw [MemoryStore.entry_put, if_neg hne]

instance {σ : Type} [FileStore σ] [KeyedStore σ] : KeyedStore (Switchable σ) where
  holds_write x p q content hne := by
    cases honly : x.readOnly with
    | true => simp only [FileStore.write, honly, ↓reduceIte]
    | false =>
      simp only [FileStore.write, FileStore.holds, honly, Bool.false_eq_true, ↓reduceIte]
      exact KeyedStore.holds_write x.store p q content hne

namespace Invocation

/-- Where a generation is going to write, once it has found that it may. -/
def cleared? (i : Invocation) : Option Path :=
  match i.stage with
  | .reading destination => some destination
  | .writing plan => some plan.destination
  | _ => none

/-- Whether a generation has not begun, or has been turned away because its destination was
held. -/
def IsIdle (i : Invocation) : Prop :=
  i.stage = .claiming ∨ ∃ d, i.settled? = some (.error (.inFlight d))

theorem held?_of_cleared? {i : Invocation} {d : Path} (h : i.cleared? = some d) :
    i.held? = some d := by
  unfold cleared? at h
  unfold held?
  cases hstage : i.stage with
  | reading e => simpa [hstage] using h
  | writing plan => simpa [hstage] using h
  | _ => simp [hstage] at h

theorem cleared?_of_write {i : Invocation} {path : Path} {content : Text}
    (h : i.access? = some (.write path content)) : i.cleared? = some path := by
  obtain ⟨plan, hstage, rfl, -⟩ := access?_eq_write_iff.mp h
  simp [cleared?, hstage]

variable {σ : Type} [FileStore σ] {s : Settings} {w w' : World σ} {i i' : Invocation}

/-- Who may write where something is has just been allowed to, or might have done so before. -/
theorem Transition.cleared {d : Path} (h : Transition s w i w' i') (hd : i'.cleared? = some d)
    (hholds : FileStore.holds w'.store d = true) :
    i.access? = some (.prompt d true) ∨ (i.cleared? = some d ∧ w'.store = w.store) := by
  cases h with
  | @absent e hstage hfree =>
    obtain rfl : e = d := by simpa [cleared?] using hd
    rw [hfree] at hholds
    cases hholds
  | @allowed e hstage hanswer =>
    obtain rfl : e = d := by simpa [cleared?] using hd
    exact Or.inl (by simp [access?, hstage, hanswer])
  | @planned e relative hstage hrelative =>
    obtain rfl : e = d := by simpa [cleared?, TestPlan.ofText] using hd
    exact Or.inr ⟨by simp [cleared?, hstage], rfl⟩
  | rested hstage => exact Or.inr ⟨hd, rfl⟩
  | _ => simp [cleared?] at hd

/-- Who is idle after a step was so before it, and the step made no access. -/
theorem Transition.idle (h : Transition s w i w' i') (hidle : i'.IsIdle) :
    i.IsIdle ∧ i.access? = none := by
  unfold IsIdle at hidle
  cases h with
  | refused hstage hdest => exact ⟨Or.inl hstage, by simp [access?, hstage]⟩
  | collided hstage hdest hclaim => exact ⟨Or.inl hstage, by simp [access?, hstage]⟩
  | @misplaced d e hstage hrelative =>
    obtain ⟨f, hf⟩ : ∃ f, e = .inFlight f := by simpa [settled?] using hidle
    have hinput := Location.isInputError_of_relative hrelative
    rw [hf] at hinput
    cases hinput
  | @left d result hstage =>
    have hresult : ∃ f, result = .error (.inFlight f) := by simpa using hidle
    exact ⟨Or.inr (by simpa [settled?, hstage] using hresult), by simp [access?, hstage]⟩
  | rested hstage => exact ⟨hidle, by simp [access?, hstage]⟩
  | _ => simp [settled?] at hidle

end Invocation

namespace Generator

variable {σ : Type} [FileStore σ] {store : σ} {g : Generator σ}

structure Guarded (store : σ) (g : Generator σ) : Prop where
  exact : g.Exact
  recorded : g.Recorded store
  /-- Who is going to write where something is has been allowed to. -/
  allowed : ∀ (k : Nat) (i : Invocation) (d : Path), g.invocations[k]? = some i →
    i.cleared? = some d → FileStore.holds g.world.store d = true → .prompt d true ∈ g.accesses k
  idle : ∀ (k : Nat) (i : Invocation), g.invocations[k]? = some i → i.IsIdle → g.accesses k = []

theorem guarded_fresh (settings : Settings) (store : σ) :
    (fresh settings store).Guarded store where
  exact := exact_fresh settings store
  recorded := recorded_fresh settings store
  allowed := by simp [fresh]
  idle := by simp [fresh]

theorem Guarded.start (hg : g.Guarded store) (request : Request) :
    (g.move (.start request)).Guarded store := by
  have hexact := exact_move g (.start request) hg.exact
  have hrecorded := recorded_move g (.start request) hg.recorded
  refine ⟨hexact, hrecorded, ?_, ?_⟩
  · intro k i d hi hd hholds
    rcases getElem?_concat_cases hi with hold | ⟨-, rfl⟩
    · exact hg.allowed k i d hold hd hholds
    · simp [Invocation.cleared?] at hd
  · intro k i hi hidle
    rcases getElem?_concat_cases hi with hold | ⟨rfl, -⟩
    · exact hg.idle k i hold hidle
    · exact hg.recorded.accesses_of_new (Nat.le_refl _)

/-- The step of one generation does not make a file appear where another one is going to
write. -/
theorem Guarded.holds_step [KeyedStore σ] (hg : g.Guarded store) {j k : Nat} {a b : Invocation}
    {d : Path} (hne : j ≠ k) (hj : g.invocations[j]? = some a) (hk : g.invocations[k]? = some b)
    (hd : a.cleared? = some d) :
    FileStore.holds (b.step g.settings g.world).1.store d = FileStore.holds g.world.store d := by
  rw [(Invocation.transition_step g.settings g.world b).store]
  cases haccess : b.access? with
  | none => rfl
  | some access =>
    cases access with
    | write path content =>
      apply KeyedStore.holds_write
      -- Who writes holds the destination too, and two holders of one destination are one.
      intro heq
      have hheld := Invocation.held?_of_cleared? hd
      exact hne (hg.exact.index_unique hj hk hheld (Invocation.held?_of_write haccess) heq)
    | _ => rfl

theorem Guarded.advance [KeyedStore σ] (hg : g.Guarded store) (k : Nat) :
    (g.move (.advance k)).Guarded store := by
  cases hk : g.invocations[k]? with
  | none =>
    simp only [move, hk]
    exact hg
  | some b =>
    have hstep := Invocation.transition_step g.settings g.world b
    have hexact := exact_move g (.advance k) hg.exact
    have hrecorded := recorded_move g (.advance k) hg.recorded
    refine ⟨hexact, hrecorded, ?_, ?_⟩
    · intro j a d hj hd hholds
      rw [accesses_advance hk, List.mem_append]
      rw [move_advance hk] at hj hholds
      -- Either another generation is going to write, or the one that has taken the step.
      rcases getElem?_set_cases hj with ⟨hne, hold⟩ | ⟨rfl, rfl⟩
      · simp only [hg.holds_step hne hold hk hd] at hholds
        exact Or.inl (hg.allowed j a d hold hd hholds)
      · rcases hstep.cleared hd hholds with hprompt | ⟨hbefore, hstore⟩
        · right
          rw [if_pos rfl, hprompt]
          exact List.mem_singleton_self _
        · simp only [hstore] at hholds
          exact Or.inl (hg.allowed j b d hk hbefore hholds)
    · intro j a hj hidle
      rw [accesses_advance hk]
      rw [move_advance hk] at hj
      rcases getElem?_set_cases hj with ⟨hne, hold⟩ | ⟨rfl, rfl⟩
      · rw [if_neg hne, List.append_nil]
        exact hg.idle j a hold hidle
      · obtain ⟨hbefore, hnone⟩ := hstep.idle hidle
        rw [if_pos rfl, hnone, hg.idle j b hk hbefore]
        rfl

theorem guarded_move [KeyedStore σ] (g : Generator σ) (m : Move) (hg : g.Guarded store) :
    (g.move m).Guarded store := by
  have hexact := exact_move g m hg.exact
  have hrecorded := recorded_move g m hg.recorded
  cases m with
  | start request => exact hg.start request
  | advance k => exact hg.advance k
  -- What the owner claims and gives up concerns neither files nor generations.
  | claim path =>
    simp only [move] at hexact hrecorded ⊢
    cases hclaim : g.world.inFlight.claim? path with
    | none => exact hg
    | some f =>
      simp only [hclaim] at hexact hrecorded
      exact ⟨hexact, hrecorded, hg.allowed, hg.idle⟩
  | drop k =>
    simp only [move] at hexact hrecorded ⊢
    cases hguard : g.guards[k]? with
    | none => exact hg
    | some path =>
      simp only [hguard] at hexact hrecorded
      exact ⟨hexact, hrecorded, hg.allowed, hg.idle⟩

theorem guarded_run [KeyedStore σ] (settings : Settings) (store : σ) (moves : List Move) :
    ((fresh settings store).run moves).Guarded store :=
  run_induction guarded_move _ moves (guarded_fresh settings store)

/-- In every run over files in memory, at every moment: one generation at most is between its
claim of a destination and its end; a generation whose write meets an existing file has itself
asked about that path and been allowed; and one that was turned away because its destination was
held has asked nothing, read nothing and written nothing. -/
theorem no_unconfirmed_overwrite (settings : Settings) (store : Switchable MemoryStore)
    (moves : List Move) :
    let g := (fresh settings store).run moves
    (∀ (j k : Nat) (a b : Invocation) (d e : Path),
      g.invocations[j]? = some a → g.invocations[k]? = some b →
      a.held? = some d → b.held? = some e → d.components = e.components → j = k) ∧
    (∀ (k : Nat) (i : Invocation) (path : Path) (content : Text),
      g.invocations[k]? = some i → i.access? = some (.write path content) →
      FileStore.holds g.world.store path = true →
      .prompt path true ∈ g.accesses k ∧ path ∈ i.prompts) ∧
    (∀ (k : Nat) (i : Invocation) (d : Path),
      g.invocations[k]? = some i → i.result? = some (.error (.inFlight d)) →
      g.accesses k = [] ∧ i.prompts = []) := by
  intro g
  have hg : g.Guarded store := guarded_run settings store moves
  refine ⟨?_, ?_, ?_⟩
  · intro j k a b d e hj hk ha hb hde
    exact hg.exact.index_unique hj hk ha hb hde
  · intro k i path content hi hwrite hholds
    have hprompt := hg.allowed k i path hi (Invocation.cleared?_of_write hwrite) hholds
    refine ⟨hprompt, ?_⟩
    rw [hg.recorded.prompts k i hi]
    exact List.mem_filterMap.mpr ⟨_, hprompt, rfl⟩
  · intro k i d hi hresult
    have hnone := hg.idle k i hi (Or.inr ⟨d, Invocation.settled?_of_result? hresult⟩)
    refine ⟨hnone, ?_⟩
    rw [hg.recorded.prompts k i hi, hnone]
    rfl

/-- Two tests are asked for one source, whose test exists. The first one may overwrite it, and
has come to its write; the other one has been turned away meanwhile. -/
def contested : List Move :=
  let location : Location := ⟨⟨"/p".toList⟩, ⟨"/p/src/a.ts".toList⟩⟩
  [.start { location, overwrite := true }, .start { location }, .advance 0, .advance 1,
    .advance 0, .advance 0, .advance 0]

def contestedStore : Switchable MemoryStore :=
  { store := MemoryStore.empty.put ⟨"/p/tests/a.test.ts".toList⟩ (some []) }

theorem no_unconfirmed_overwrite_contested :
    let g := (fresh {} contestedStore).run contested
    ∃ (a b : Invocation) (path : Path) (content : Text),
      (g.invocations[0]? = some a ∧ a.access? = some (.write path content) ∧
        FileStore.holds g.world.store path = true ∧ .prompt path true ∈ g.accesses 0) ∧
      (g.invocations[1]? = some b ∧ b.result? = some (.error (.inFlight path)) ∧
        g.accesses 1 = []) := by
  have hrun := no_unconfirmed_overwrite {} contestedStore contested
  refine ⟨_, _, _, _, ⟨rfl, rfl, by decide, ?_⟩, ⟨rfl, rfl, ?_⟩⟩
  · exact (hrun.2.1 0 _ _ _ rfl rfl (by decide)).1
  · exact (hrun.2.2 1 _ _ rfl rfl).1

end Generator

end TestScaffold
