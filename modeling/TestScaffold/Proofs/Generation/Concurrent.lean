import TestScaffold.Proofs.Generation.Independence

/-!
What becomes of two requests that are under way at once: with one destination and with two, in
every order of their steps, and in a session that stops the first before its write until the
second has ended.
-/

namespace TestScaffold

namespace Invocation

variable {σ : Type} [FileStore σ] {s : Settings} {w : World σ} {i : Invocation}

/-- A generation that is stopped before its write has taken some of its steps, and if it has not
come to its write it has ended. -/
theorem stepsToWrite_eq (n : Nat) (x : World σ × Invocation) :
    ∃ m, stepsToWrite s n x = steps s m x ∧
      ((stepsToWrite s n x).2.isAtWrite = true ∨ m = n) := by
  induction n generalizing x with
  | zero => exact ⟨0, rfl, Or.inr rfl⟩
  | succ n ih =>
    unfold stepsToWrite
    cases hat : x.2.isAtWrite with
    | true =>
      rw [if_pos rfl]
      exact ⟨0, rfl, Or.inl hat⟩
    | false =>
      obtain ⟨m, hm, hend⟩ := ih (step s x.1 x.2)
      rw [if_neg Bool.false_ne_true]
      refine ⟨m + 1, hm, hend.imp_right ?_⟩
      rintro rfl
      rfl

theorem runToWrite_eq (s : Settings) (w : World σ) (i : Invocation) :
    ∃ m, runToWrite s w i = steps s m (w, i) ∧
      ((runToWrite s w i).2.isAtWrite = true ∨ (runToWrite s w i).2.result?.isSome = true) := by
  obtain ⟨m, hm, hend⟩ := stepsToWrite_eq (s := s) stepLimit (w, i)
  refine ⟨m, hm, hend.imp_right ?_⟩
  rintro rfl
  unfold runToWrite
  rw [hm]
  exact ended_run s w i

/-- What a generation holds is held. -/
theorem isHeld_step (h : ∀ d, i.held? = some d → w.inFlight.isHeld d = true) :
    ∀ d, (step s w i).2.held? = some d → (step s w i).1.inFlight.isHeld d = true := by
  intro d hd
  -- A step leaves the claims alone, takes one, or gives one back.
  rcases (transition_step s w i).claims with
    ⟨hsame, hheld⟩ | ⟨e, -, hsome, hclaim⟩ | ⟨e, -, hnone, -⟩
  · rw [hsame]
    exact h d (hheld ▸ hd)
  · rw [hsome] at hd
    obtain rfl := Option.some.inj hd
    exact (InFlight.isHeld_claim? hclaim).mpr (Or.inl rfl)
  · rw [hnone] at hd
    cases hd

theorem isHeld_steps (n : Nat) (h : ∀ d, i.held? = some d → w.inFlight.isHeld d = true) :
    ∀ d, (steps s n (w, i)).2.held? = some d → (steps s n (w, i)).1.inFlight.isHeld d = true := by
  induction n generalizing w i with
  | zero => exact h
  | succ n ih =>
    rw [steps_succ]
    exact ih (isHeld_step h)

theorem held?_of_isAtWrite (h : i.isAtWrite = true) : ∃ d, i.held? = some d := by
  unfold isAtWrite at h
  unfold held?
  cases hstage : i.stage with
  | writing p => exact ⟨p.destination, rfl⟩
  | _ => simp [hstage] at h

/-- Once a generation that began here has come to its write, its destination is held. -/
theorem isHeld_of_isAtWrite {r : Request} {n : Nat} {d : Path} (hdest : r.destination s = .ok d)
    (hat : (steps s n (w, { request := r })).2.isAtWrite = true) :
    (steps s n (w, { request := r })).1.inFlight.isHeld d = true := by
  obtain ⟨e, he⟩ := held?_of_isAtWrite hat
  have hown := keepsTo_steps n w (keepsTo_start s r) e he
  rw [request_steps (i := { request := r }), hdest] at hown
  obtain rfl := Except.ok.inj hown
  refine isHeld_steps n ?_ _ he
  intro d hd
  cases hd

theorem isHeld_congr {f : InFlight} {d e : Path} (h : d.components = e.components) :
    f.isHeld d = f.isHeld e :=
  congrArg f.claimed h

/-- A generation that has been turned away because its destination was held. -/
def turnedAway (r : Request) (d : Path) : Invocation where
  request := r
  stage := .finished (.error (.inFlight d))
  notes := [(GenerationError.inFlight d).note]

theorem step_of_isHeld_destination {r : Request} {d : Path} (hdest : r.destination s = .ok d)
    (hheld : w.inFlight.isHeld d = true) : step s w { request := r } = (w, turnedAway r d) := by
  have hclaim : w.inFlight.claim? d = none := by
    unfold InFlight.claim?
    rw [if_pos hheld]
  simp only [step, hdest, hclaim]
  rfl

theorem generate_of_isHeld {r : Request} {d : Path} (hdest : r.destination s = .ok d)
    (hheld : w.inFlight.isHeld d = true) : generate s w r = (w, turnedAway r d) := by
  calc generate s w r = steps s 5 (step s w { request := r }) := rfl
    _ = (w, turnedAway r d) := by
      rw [step_of_isHeld_destination hdest hheld]
      exact steps_of_ended 5 rfl

end Invocation

namespace Generator

open Invocation

variable {σ : Type} [FileStore σ] {s : Settings} {g : Generator σ} {a b : Invocation}

theorem move_advance_of_ended {k : Nat} (hk : g.invocations[k]? = some b)
    (hended : b.result?.isSome = true) : g.move (.advance k) = g := by
  obtain ⟨hlt, rfl⟩ := List.getElem?_eq_some_iff.mp hk
  rw [move_advance hk, step_of_ended hended, access?_of_ended hended, List.set_getElem_self]
  simp

/-- A pair of generations of which the first has taken `n` steps and the second, which is `b` now,
has done nothing. -/
structure Alone (s : Settings) (w : World σ) (first : Request) (n : Nat) (b : Invocation)
    (g : Generator σ) : Prop where
  settings : g.settings = s
  world : g.world = (steps s n (w, { request := first })).1
  invocations : g.invocations = [(steps s n (w, { request := first })).2, b]
  first : g.accesses 0 = trace s n (w, { request := first })
  second : g.accesses 1 = []

section

variable {w : World σ} {first second : Request} {n : Nat}

theorem alone_pair (s : Settings) (w : World σ) (first second : Request) :
    (pair s w first second).Alone s w first 0 { request := second } :=
  ⟨rfl, rfl, rfl, rfl, rfl⟩

theorem Alone.advance_first (hg : g.Alone s w first n b) :
    (g.move (.advance 0)).Alone s w first (n + 1) b := by
  let x := steps s n (w, { request := first })
  have hat : g.invocations[0]? = some x.2 := by rw [hg.invocations]; rfl
  have hstep : step g.settings g.world x.2 = steps s (n + 1) (w, { request := first }) := by
    rw [hg.settings, hg.world, steps_add]
    rfl
  refine ⟨?_, ?_, ?_, ?_, ?_⟩
  · rw [move_advance hat]
    exact hg.settings
  · rw [move_advance hat, hstep]
  · rw [move_advance hat, hstep, hg.invocations]
    rfl
  · rw [accesses_advance hat, if_pos rfl, hg.first, trace_add]
    exact congrArg _ (List.append_nil _).symm
  · rw [accesses_advance hat, if_neg Nat.one_ne_zero, List.append_nil]
    exact hg.second

/-- As long as the second generation has no turn, or nothing left to do, the first is alone. -/
theorem Alone.run (hg : g.Alone s w first n b) (schedule : List Nat)
    (hrest : 1 ∈ schedule → b.result?.isSome = true) :
    (g.run (schedule.map .advance)).Alone s w first (n + schedule.count 0) b := by
  induction schedule generalizing g n with
  | nil => exact hg
  | cons k schedule ih =>
    have hrest' : 1 ∈ schedule → b.result?.isSome = true :=
      fun hmem => hrest (List.mem_cons_of_mem k hmem)
    rw [List.map_cons, run_cons]
    match k with
    | 0 =>
      rw [List.count_cons_self, Nat.add_comm _ 1, ← Nat.add_assoc]
      exact ih hg.advance_first hrest'
    | 1 =>
      have hat : g.invocations[1]? = some b := by rw [hg.invocations]; rfl
      rw [move_advance_of_ended hat (hrest List.mem_cons_self), List.count_cons_of_ne (by decide)]
      exact ih hg hrest'
    | k + 2 =>
      rw [move_advance_of_none (by rw [hg.invocations]; rfl), List.count_cons_of_ne (by omega)]
      exact ih hg hrest'

theorem Alone.first_ended (hg : g.Alone s w first n b) (hended : g.Ended) :
    (steps s n (w, { request := first })).2.result?.isSome = true := by
  apply hended
  rw [hg.invocations]
  exact List.mem_cons_self

theorem Alone.turn_away (hg : g.Alone s w first n { request := second }) {e : Path}
    (he : second.destination s = .ok e) (hheld : g.world.inFlight.isHeld e = true) :
    (g.move (.advance 1)).Alone s w first n (turnedAway second e) := by
  have hat : g.invocations[1]? = some { request := second } := by rw [hg.invocations]; rfl
  have hstep : step g.settings g.world { request := second } =
      (g.world, turnedAway second e) := by
    rw [hg.settings]
    exact step_of_isHeld_destination he hheld
  have hnone : access? { request := second } = none := rfl
  refine ⟨?_, ?_, ?_, ?_, ?_⟩
  · rw [move_advance hat]
    exact hg.settings
  · rw [move_advance hat, hstep]
    exact hg.world
  · rw [move_advance hat, hstep, hg.invocations]
    rfl
  · rw [accesses_advance hat, if_neg Nat.zero_ne_one, List.append_nil]
    exact hg.first
  · rw [accesses_advance hat, if_pos rfl, hg.second, hnone]
    rfl

/-- The second of two requests for one destination is turned away while the first is held at its
write, and the first comes to what it comes to alone. -/
theorem turnedAway_at_write {d e : Path} (hd : first.destination s = .ok d)
    (he : second.destination s = .ok e) (hde : d.components = e.components) {before : List Nat}
    (hbefore : 1 ∉ before)
    (hat : (((pair s w first second).run (before.map .advance)).invocations[0]?).any
      isAtWrite = true) (after : List Nat) :
    let g := (pair s w first second).run ((before ++ 1 :: after).map .advance)
    g.invocations[1]? = some (turnedAway second e) ∧ g.accesses 1 = [] ∧
      (g.Ended → g.world = (generate s w first).1 ∧
        g.invocations[0]? = some (generate s w first).2 ∧
        g.accesses 0 = trace s stepLimit (w, { request := first })) := by
  intro g
  have hstopped := (alone_pair s w first second).run before (fun hmem => absurd hmem hbefore)
  rw [hstopped.invocations] at hat
  -- The second generation finds its destination held.
  have hheld := isHeld_of_isAtWrite hd hat
  rw [isHeld_congr hde, ← hstopped.world] at hheld
  have hlast := (hstopped.turn_away he hheld).run after (fun _ => rfl)
  rw [← run_cons, ← List.map_cons, ← run_append, ← List.map_append] at hlast
  refine ⟨?_, hlast.second, ?_⟩
  · rw [show g.invocations = _ from hlast.invocations]
    rfl
  · intro hended
    have hfirst := hlast.first_ended hended
    have hwhole := steps_eq_run hfirst
    refine ⟨?_, ?_, ?_⟩
    · rw [show g.world = _ from hlast.world, hwhole]
      rfl
    · rw [show g.invocations = _ from hlast.invocations, hwhole]
      rfl
    · exact hlast.first.trans (trace_eq_of_ended hfirst)

end

end Generator

namespace Session

open Invocation Generator

variable {s : Settings}

/-- What a whole generation reports depends on the files at its own destination only. -/
theorem report_congr {v w u : World (Switchable MemoryStore)} {r : Request}
    (h : ∀ d, r.destination s = .ok d →
      FileStore.read v.store d = FileStore.read w.store d) :
    report v (generate s u r).2 = report w (generate s u r).2 := by
  have hexit := exit_generate s u r
  revert hexit
  generalize generate s u r = x
  obtain ⟨w', i⟩ := x
  intro hexit
  unfold report
  -- Only the ends with a destination look at a file.
  cases hexit with
  | declined hdest hfree hholds hanswer => simp [result?, Outcome.destination, h _ hdest]
  | created hdest hfree hmay hplan hwrite =>
    simp [result?, Outcome.destination, TestPlan.summary, h _ hdest]
  | _ => rfl

/-- What another generation writes elsewhere is not seen at a destination. -/
theorem read_steps {d : Path} {b : Invocation} (n : Nat) (w : World (Switchable MemoryStore))
    (hb : b.KeepsTo s) (hne : ∀ e, b.request.destination s = .ok e → d.components ≠ e.components) :
    FileStore.read (steps s n (w, b)).1.store d = FileStore.read w.store d := by
  induction n generalizing w b with
  | zero => rfl
  | succ n ih =>
    have hstep := transition_step s w b
    have hne' : ∀ e, (step s w b).2.request.destination s = .ok e →
        d.components ≠ e.components := by
      rw [hstep.request]
      exact hne
    rw [steps_succ]
    refine (ih (step s w b).1 (hstep.keepsTo hb) hne').trans ?_
    rw [hstep.store]
    cases hy : b.access? with
    | none => rfl
    | some y =>
      have hspares : y.Spares (.read d) := by
        rintro p content rfl
        exact hne p (hb p (held?_of_write hy))
      exact (Access.agrees_effect w.store hspares).symm

/-- The session after two requests, and what each of them then reports. -/
def both (session : Session MemoryStore) (first second : Request) :
    Session MemoryStore × Generated × Generated :=
  let (w₁, a) := generate session.settings session.world first
  let (w₂, b) := generate session.settings w₁ second
  ({ session with world := w₂ }, report w₂ a, report w₂ b)

section

variable {w : World (Switchable MemoryStore)} {first second : Request}

/-- What is left to do of the second request does not change what the first one reports. -/
theorem report_of_independent (h : first.Independent s second)
    {v v' u : World (Switchable MemoryStore)} {i : Invocation} (hi : i.KeepsTo s)
    (hrequest : i.request = second) (hrun : (Invocation.run s v i).1 = v') :
    report v (generate s u first).2 = report v' (generate s u first).2 := by
  apply report_congr
  intro d hd
  have hread := read_steps (d := d) stepLimit v hi fun e he =>
    h.destinations d e hd (hrequest ▸ he)
  rw [show (steps s stepLimit (v, i)).1 = v' from hrun] at hread
  exact hread.symm

theorem performAll_inTurn (session : Session MemoryStore)
    (h : first.Independent session.settings second) :
    session.performAll [.generate first, .generate second] =
      ((session.both first second).1,
        [.generated (session.both first second).2.1,
          .generated (session.both first second).2.2]) := by
  obtain ⟨s, w, guards⟩ := session
  have hreport := report_of_independent (u := w) h (keepsTo_start s second) rfl
    (show _ = (generate s (generate s w first).1 second).1 from rfl)
  simp only [performAll, perform, both, hreport]

theorem performAll_inReverse (session : Session MemoryStore)
    (h : first.Independent session.settings second) :
    session.performAll [.generate second, .generate first] =
      ((session.both first second).1,
        [.generated (session.both first second).2.2,
          .generated (session.both first second).2.1]) := by
  obtain ⟨s, w, guards⟩ := session
  obtain ⟨hfirst, hsecond⟩ := generate_comm s w h
  have hreport := report_of_independent (u := w) h.symm (keepsTo_start s first) rfl
    (congrArg Prod.fst hfirst)
  simp only [performAll, perform, both, hfirst, hsecond, hreport]

/-- A generation that goes on after its write was held up comes to what it comes to when it
begins only then. -/
theorem run_of_steps (h : first.Independent s second) (m : Nat) :
    let x := steps s m (w, { request := first })
    Invocation.run s (generate s x.1 second).1 x.2 =
      ((generate s (generate s w first).1 second).1, (generate s w first).2) := by
  intro x
  obtain ⟨hpast, -⟩ := steps_comm m stepLimit w (keepsTo_start s first) (keepsTo_start s second) h
  have hwhole : steps s (m + stepLimit) ((generate s w second).1, { request := first }) =
      generate s (generate s w second).1 first :=
    steps_eq_run (ended_of_stepLimit_le (Nat.le_add_left stepLimit m))
  calc Invocation.run s (generate s x.1 second).1 x.2
      = steps s stepLimit (steps s m ((generate s w second).1, { request := first })) :=
        congrArg (steps s stepLimit) hpast.symm
    _ = generate s (generate s w second).1 first := by rw [← steps_add, hwhole]
    _ = _ := (generate_comm s w h).1

theorem perform_concurrent (session : Session MemoryStore)
    (h : first.Independent session.settings second) :
    session.perform (.concurrent first second) =
      ((session.both first second).1,
        .concurrent (session.both first second).2.1 (session.both first second).2.2) := by
  obtain ⟨s, w, guards⟩ := session
  obtain ⟨m, hm, hstopped⟩ := runToWrite_eq s w { request := first }
  have hx := keepsTo_start s first
  have hy := keepsTo_start s second
  obtain ⟨-, hsecond⟩ := generate_comm s w h
  cases hat : (runToWrite s w { request := first }).2.isAtWrite with
  | true =>
    -- The second request comes between the two parts of the first.
    have hrest := run_of_steps (w := w) h m
    have hlast := (steps_comm m stepLimit w hx hy h).2
    rw [← hm] at hrest hlast
    have hb : (generate s (runToWrite s w { request := first }).1 second).2 =
        (generate s w second).2 := hlast
    have hkeeps : (runToWrite s w { request := first }).2.KeepsTo s := by
      rw [hm]
      exact keepsTo_steps m w hx
    have hrequest : (runToWrite s w { request := first }).2.request = first := by
      rw [hm]
      exact request_steps m w _
    have hreport := report_of_independent (u := w) h.symm hkeeps hrequest
      (congrArg Prod.fst hrest)
    simp only [perform, both, hat, if_true, hrest, hb, hreport, hsecond]
  | false =>
    have hended : (runToWrite s w { request := first }).2.result?.isSome = true := by
      rcases hstopped with hwrite | hended
      · rw [hat] at hwrite
        cases hwrite
      · exact hended
    have hwhole : runToWrite s w { request := first } = generate s w first := by
      rw [hm] at hended ⊢
      exact steps_eq_run hended
    have hreport := report_of_independent (u := w) h hy rfl
      (show _ = (generate s (generate s w first).1 second).1 from rfl)
    rw [hwhole] at hat
    simp only [perform, both, hwhole, hat, Bool.false_eq_true, if_false, hreport]

/-- While the first request is held at its write, a second one for its destination is turned away
and leaves no trace. -/
theorem perform_concurrent_of_held (session : Session MemoryStore) {d e : Path}
    (hd : first.destination session.settings = .ok d)
    (he : second.destination session.settings = .ok e) (hde : d.components = e.components)
    (hat : (runToWrite session.settings session.world { request := first }).2.isAtWrite = true) :
    ∃ a : Generated,
      session.perform (.generate first) = ((session.perform (.generate first)).1, .generated a) ∧
      session.perform (.concurrent first second) =
        ((session.perform (.generate first)).1, .concurrent a ⟨turnedAway second e, none⟩) := by
  obtain ⟨s, w, guards⟩ := session
  obtain ⟨m, hm, -⟩ := runToWrite_eq s w { request := first }
  have hheld : (runToWrite s w { request := first }).1.inFlight.isHeld e = true := by
    rw [← isHeld_congr hde]
    rw [hm] at hat ⊢
    exact isHeld_of_isAtWrite hd hat
  have haway := generate_of_isHeld he hheld
  have hrest : Invocation.run s (runToWrite s w { request := first }).1
      (runToWrite s w { request := first }).2 = generate s w first := by
    rw [hm]
    calc Invocation.run s _ _ = steps s (m + stepLimit) (w, { request := first }) :=
          (steps_add m stepLimit _).symm
      _ = generate s w first :=
          steps_eq_run (ended_of_stepLimit_le (Nat.le_add_left stepLimit m))
  refine ⟨report (generate s w first).1 (generate s w first).2, rfl, ?_⟩
  simp only [perform, haway, hat, if_true, hrest]
  rfl

end

/-- Two requests that do not meet come to the same in every order of their steps: each has the
same result, prompts, notes and accesses, the writes with their texts among them, and files and
claims are the same, as when one begins after the other has ended, whichever goes first; so it is
in a session that stops the first before its write. If the two want one destination and the first
is at its write, the second is turned away, and all else is as if the first were alone. -/
theorem independent_generations_commute (session : Session MemoryStore)
    (first second : Request) :
    let s := session.settings
    let w := session.world
    (first.Independent s second →
      (∀ schedule : List Nat,
        let g := (pair s w first second).run (schedule.map .advance)
        (stepLimit ≤ schedule.count 0 → stepLimit ≤ schedule.count 1 → g.Ended) ∧
        (g.Ended →
          g.EndedAs (inTurn s w first second) ∧ g.EndedAs (inReverse s w first second))) ∧
      ∃ (after : Session MemoryStore) (a b : Generated),
        session.perform (.concurrent first second) = (after, .concurrent a b) ∧
        session.performAll [.generate first, .generate second] =
          (after, [.generated a, .generated b]) ∧
        session.performAll [.generate second, .generate first] =
          (after, [.generated b, .generated a])) ∧
    ∀ d e, first.destination s = .ok d → second.destination s = .ok e →
      d.components = e.components →
      (∀ before after : List Nat, 1 ∉ before →
        (((pair s w first second).run (before.map .advance)).invocations[0]?).any
          isAtWrite = true →
        let g := (pair s w first second).run ((before ++ 1 :: after).map .advance)
        g.invocations[1]? = some (turnedAway second e) ∧ g.accesses 1 = [] ∧
          (g.Ended → g.world = (generate s w first).1 ∧
            g.invocations[0]? = some (generate s w first).2 ∧
            g.accesses 0 = trace s stepLimit (w, { request := first }))) ∧
      ((runToWrite s w { request := first }).2.isAtWrite = true →
        ∃ a : Generated,
          session.perform (.generate first) =
            ((session.perform (.generate first)).1, .generated a) ∧
          session.perform (.concurrent first second) =
            ((session.perform (.generate first)).1,
              .concurrent a ⟨turnedAway second e, none⟩)) := by
  intro s w
  refine ⟨?_, ?_⟩
  · intro h
    refine ⟨?_, ?_⟩
    · intro schedule g
      have hg : g.Reached s w first second _ _ := reached_run s w h schedule
      refine ⟨hg.ended, ?_⟩
      intro hended
      have hturn := hg.endedAs_inTurn h hended
      exact ⟨hturn, inTurn_eq_inReverse s w h ▸ hturn⟩
    · exact ⟨_, _, _, perform_concurrent session h, performAll_inTurn session h,
        performAll_inReverse session h⟩
  · intro d e hd he hde
    refine ⟨?_, perform_concurrent_of_held session hd he hde⟩
    intro before after hbefore hat
    exact turnedAway_at_write hd he hde hbefore hat after

/-- A session in which one source can be read. -/
def oneSource : Session MemoryStore where
  settings := {}
  world :=
    { store := { store := MemoryStore.empty.put ⟨"/p/src/a.ts".toList⟩ (some "export {}".toList) } }

def requestOf (name : Text) : Request where
  location := ⟨⟨"/p".toList⟩, ⟨"/p/src/".toList ++ name⟩⟩

theorem independent_requests :
    (requestOf "a.ts".toList).Independent {} (requestOf "b.ts".toList) := by
  have hd : (requestOf "a.ts".toList).destination {} = .ok ⟨"/p/tests/a.test.ts".toList⟩ := rfl
  have he : (requestOf "b.ts".toList).destination {} = .ok ⟨"/p/tests/b.test.ts".toList⟩ := rfl
  refine ⟨?_, ?_, ?_⟩
  · rintro d e hd' he'
    obtain rfl := Except.ok.inj (hd.symm.trans hd')
    obtain rfl := Except.ok.inj (he.symm.trans he')
    decide
  · rintro e he'
    obtain rfl := Except.ok.inj (he.symm.trans he')
    decide
  · rintro d hd'
    obtain rfl := Except.ok.inj (hd.symm.trans hd')
    decide

/-- The tests of two sources whose generations take turns, and of one source that is asked for
twice. -/
theorem independent_generations_commute_oneSource :
    ((requestOf "a.ts".toList).Independent {} (requestOf "b.ts".toList) ∧
      ((pair {} oneSource.world (requestOf "a.ts".toList) (requestOf "b.ts".toList)).run
        ((List.replicate 6 [0, 1]).flatten.map .advance)).EndedAs
          (inTurn {} oneSource.world (requestOf "a.ts".toList) (requestOf "b.ts".toList))) ∧
    ((runToWrite {} oneSource.world { request := requestOf "a.ts".toList }).2.isAtWrite = true ∧
      ∃ a : Generated,
        oneSource.perform (.concurrent (requestOf "a.ts".toList) (requestOf "a.ts".toList)) =
          ((oneSource.perform (.generate (requestOf "a.ts".toList))).1,
            .concurrent a
              ⟨turnedAway (requestOf "a.ts".toList) ⟨"/p/tests/a.test.ts".toList⟩, none⟩)) := by
  have hpair := (independent_generations_commute oneSource (requestOf "a.ts".toList)
    (requestOf "b.ts".toList)).1 independent_requests
  have hturns := hpair.1 (List.replicate 6 [0, 1]).flatten
  have hsame := (independent_generations_commute oneSource (requestOf "a.ts".toList)
    (requestOf "a.ts".toList)).2 ⟨"/p/tests/a.test.ts".toList⟩ ⟨"/p/tests/a.test.ts".toList⟩
    rfl rfl rfl
  have hat : (runToWrite {} oneSource.world
      { request := requestOf "a.ts".toList }).2.isAtWrite = true := by decide
  obtain ⟨a, -, hconcurrent⟩ := hsame.2 hat
  exact ⟨⟨independent_requests, (hturns.2 (hturns.1 (by decide) (by decide))).1⟩,
    hat, a, hconcurrent⟩

end Session

end TestScaffold
