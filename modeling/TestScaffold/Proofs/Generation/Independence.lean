import Mathlib.Data.List.Induction
import TestScaffold.Proofs.Generation.Commutation
import TestScaffold.Proofs.Generation.History
import TestScaffold.Session

/-!
Two generations of one generator. If their requests do not meet, every order in which they take
their steps comes to what it comes to when one begins after the other has ended, whichever goes
first. If both want one destination, the second is turned away as long as the first holds it, and
the first does not notice.
-/

namespace TestScaffold

namespace Invocation

variable {σ : Type} [FileStore σ] {s : Settings} {w : World σ} {i : Invocation}

/-- The accesses that a number of steps make, oldest first. -/
def trace (s : Settings) : Nat → World σ × Invocation → List Access
  | 0, _ => []
  | n + 1, x => x.2.access?.toList ++ trace s n (step s x.1 x.2)

theorem trace_succ (n : Nat) (w : World σ) (i : Invocation) :
    trace s (n + 1) (w, i) = i.access?.toList ++ trace s n (step s w i) :=
  rfl

theorem steps_add (m n : Nat) (x : World σ × Invocation) :
    steps s (m + n) x = steps s n (steps s m x) := by
  induction m generalizing x with
  | zero => rw [Nat.zero_add]; rfl
  | succ m ih =>
    rw [Nat.succ_add]
    exact ih (step s x.1 x.2)

theorem trace_add (m n : Nat) (x : World σ × Invocation) :
    trace s (m + n) x = trace s m x ++ trace s n (steps s m x) := by
  induction m generalizing x with
  | zero => rw [Nat.zero_add]; rfl
  | succ m ih =>
    rw [Nat.succ_add]
    change x.2.access?.toList ++ trace s (m + n) (step s x.1 x.2) =
      (x.2.access?.toList ++ trace s m (step s x.1 x.2)) ++ _
    rw [ih, List.append_assoc]
    rfl

theorem stage_of_ended (h : i.result?.isSome = true) :
    ∃ result, i.stage = .finished result := by
  unfold result? at h
  split at h
  · rename_i result hstage
    exact ⟨result, hstage⟩
  · cases h

theorem ended_of_stepsLeft (h : i.stepsLeft = 0) : i.result?.isSome = true := by
  unfold stepsLeft at h
  unfold result?
  cases hstage : i.stage with
  | finished result => rfl
  | _ => simp [hstage] at h

theorem steps_of_ended (n : Nat) (h : i.result?.isSome = true) : steps s n (w, i) = (w, i) := by
  obtain ⟨result, hstage⟩ := stage_of_ended h
  exact steps_of_finished s n w hstage

theorem step_of_ended (h : i.result?.isSome = true) : step s w i = (w, i) :=
  steps_of_ended 1 h

theorem access?_of_ended (h : i.result?.isSome = true) : i.access? = none := by
  obtain ⟨result, hstage⟩ := stage_of_ended h
  simp [access?, hstage]

theorem trace_of_ended (n : Nat) (h : i.result?.isSome = true) : trace s n (w, i) = [] := by
  induction n with
  | zero => rfl
  | succ n ih => rw [trace_succ, access?_of_ended h, step_of_ended h, ih]; rfl

theorem ended_run (s : Settings) (w : World σ) (i : Invocation) :
    (run s w i).2.result?.isSome = true :=
  ended_of_stepsLeft (stepsLeft_run s w i)

/-- However many steps bring a generation to its end, they are the whole of it. -/
theorem steps_eq_run {n : Nat} (h : (steps s n (w, i)).2.result?.isSome = true) :
    steps s n (w, i) = run s w i := by
  -- Past its end a generation stands still, so both numbers of steps can be taken.
  calc steps s n (w, i) = steps s stepLimit (steps s n (w, i)) := (steps_of_ended stepLimit h).symm
    _ = steps s n (steps s stepLimit (w, i)) := by rw [← steps_add, ← steps_add, Nat.add_comm]
    _ = run s w i := steps_of_ended n (ended_run s w i)

theorem trace_eq_of_ended {n : Nat} (h : (steps s n (w, i)).2.result?.isSome = true) :
    trace s n (w, i) = trace s stepLimit (w, i) := by
  calc trace s n (w, i) = trace s (n + stepLimit) (w, i) := by
        rw [trace_add, trace_of_ended (w := (steps s n (w, i)).1) stepLimit h, List.append_nil]
    _ = trace s (stepLimit + n) (w, i) := by rw [Nat.add_comm]
    _ = trace s stepLimit (w, i) := by
        rw [trace_add, show trace s n (steps s stepLimit (w, i)) = [] from
          trace_of_ended n (ended_run s w i), List.append_nil]

theorem ended_of_stepLimit_le {n : Nat} (h : stepLimit ≤ n) :
    (steps s n (w, i)).2.result?.isSome = true := by
  obtain ⟨k, rfl⟩ := Nat.exists_eq_add_of_le h
  rw [steps_add]
  have hended := ended_run s w i
  rw [show steps s k (steps s stepLimit (w, i)) = steps s stepLimit (w, i) from
    steps_of_ended k hended]
  exact hended

/-- What a generation accesses does not depend on steps of another one that it does not meet. -/
theorem trace_past {a b : Invocation} (m n : Nat) (w : World (Switchable MemoryStore))
    (ha : a.KeepsTo s) (hb : b.KeepsTo s) (h : a.request.Independent s b.request) :
    trace s n ((steps s m (w, a)).1, b) = trace s n (w, b) := by
  -- On the steps of the second, each of which is moved before all those of the first.
  induction n generalizing w b with
  | zero => rfl
  | succ n ih =>
    have hb' : (step s w b).2.KeepsTo s := (transition_step s w b).keepsTo hb
    have h' : a.request.Independent s (step s w b).2.request := by
      rw [(transition_step s w b).request]
      exact h
    obtain ⟨hfirst, hsecond⟩ := steps_comm_step m w ha hb h
    have hswap : step s (steps s m (w, a)).1 b =
        ((steps s m ((step s w b).1, a)).1, (step s w b).2) :=
      Prod.ext (congrArg Prod.fst hfirst).symm hsecond
    rw [trace_succ, trace_succ, hswap, ih (step s w b).1 hb' h']

end Invocation

namespace Generator

open Invocation

variable {σ : Type} [FileStore σ]

/-- A generator with two requests that it has not begun. -/
def pair (s : Settings) (w : World σ) (first second : Request) : Generator σ where
  settings := s
  world := w
  invocations := [{ request := first }, { request := second }]

theorem move_advance_of_none {g : Generator σ} {k : Nat} (h : g.invocations[k]? = none) :
    g.move (.advance k) = g := by
  simp only [move, h]

theorem run_cons (g : Generator σ) (m : Move) (moves : List Move) :
    g.run (m :: moves) = (g.move m).run moves :=
  rfl

theorem run_append (g : Generator σ) (moves others : List Move) :
    g.run (moves ++ others) = (g.run moves).run others :=
  List.foldl_append

/-- A pair of generations of which the first has taken `m` steps and the second `n`, as if the
first had taken all of its own before. -/
structure Reached (s : Settings) (w : World σ) (first second : Request) (m n : Nat)
    (g : Generator σ) : Prop where
  settings : g.settings = s
  world : g.world = (steps s n ((steps s m (w, { request := first })).1, { request := second })).1
  invocations : g.invocations =
    [(steps s m (w, { request := first })).2, (steps s n (w, { request := second })).2]
  first : g.accesses 0 = trace s m (w, { request := first })
  second : g.accesses 1 = trace s n (w, { request := second })

section

variable {s : Settings} {w : World (Switchable MemoryStore)} {first second : Request} {m n : Nat}
  {g : Generator (Switchable MemoryStore)}

theorem reached_pair (s : Settings) (w : World σ) (first second : Request) :
    (pair s w first second).Reached s w first second 0 0 :=
  ⟨rfl, rfl, rfl, rfl, rfl⟩

theorem Reached.advance_first (hg : g.Reached s w first second m n)
    (h : first.Independent s second) :
    (g.move (.advance 0)).Reached s w first second (m + 1) n := by
  let x := steps s m (w, { request := first })
  have hat : g.invocations[0]? = some x.2 := by rw [hg.invocations]; rfl
  have hx : x.2.KeepsTo s := keepsTo_steps m w (keepsTo_start s first)
  have hx' : x.2.request.Independent s second := by
    rw [request_steps (i := { request := first })]
    exact h
  -- The new step of the first is moved before what the second has done already.
  obtain ⟨hswap, -⟩ := steps_comm (a := x.2) (b := { request := second }) 1 n x.1 hx
    (keepsTo_start s second) hx'
  have hsucc : steps s (m + 1) (w, { request := first }) = step s x.1 x.2 := steps_add m 1 _
  have hstep : step s g.world x.2 =
      ((steps s n ((step s x.1 x.2).1, { request := second })).1, (step s x.1 x.2).2) := by
    rw [hg.world]
    exact hswap
  refine ⟨?_, ?_, ?_, ?_, ?_⟩
  · rw [move_advance hat]
    exact hg.settings
  · rw [move_advance hat, hg.settings, hstep, hsucc]
  · rw [move_advance hat, hg.settings, hstep, hsucc, hg.invocations]
    rfl
  · rw [accesses_advance hat, if_pos rfl, hg.first, trace_add]
    exact congrArg _ (List.append_nil _).symm
  · rw [accesses_advance hat, if_neg Nat.one_ne_zero, List.append_nil]
    exact hg.second

theorem Reached.advance_second (hg : g.Reached s w first second m n)
    (h : first.Independent s second) :
    (g.move (.advance 1)).Reached s w first second m (n + 1) := by
  let x := steps s m (w, { request := first })
  let y := steps s n (w, { request := second })
  have hat : g.invocations[1]? = some y.2 := by rw [hg.invocations]; rfl
  have hx : KeepsTo s { request := first } := keepsTo_start s first
  obtain ⟨hworld, hlast⟩ := steps_comm m n w hx (keepsTo_start s second) h
  obtain ⟨-, hnext⟩ := steps_comm m (n + 1) w hx (keepsTo_start s second) h
  have hstate : steps s n (x.1, { request := second }) = (g.world, y.2) :=
    Prod.ext hg.world.symm hlast
  have hstep : step s g.world y.2 = steps s (n + 1) (x.1, { request := second }) := by
    rw [steps_add, hstate]
    rfl
  refine ⟨?_, ?_, ?_, ?_, ?_⟩
  · rw [move_advance hat]
    exact hg.settings
  · rw [move_advance hat, hg.settings, hstep]
  · rw [move_advance hat, hg.settings, hstep, hnext, hg.invocations]
    rfl
  · rw [accesses_advance hat, if_neg Nat.zero_ne_one, List.append_nil]
    exact hg.first
  · rw [accesses_advance hat, if_pos rfl, hg.second, trace_add]
    exact congrArg _ (List.append_nil _).symm

theorem reached_run (s : Settings) (w : World (Switchable MemoryStore)) {first second : Request}
    (h : first.Independent s second) (schedule : List Nat) :
    ((pair s w first second).run (schedule.map .advance)).Reached s w first second
      (schedule.count 0) (schedule.count 1) := by
  -- On the schedule from its end: the last move meets a pair that is as the others left it.
  induction schedule using List.reverseRecOn with
  | nil => exact reached_pair s w first second
  | append_singleton schedule k ih =>
    rw [List.map_append, List.map_singleton, run_append]
    change Reached s w first second _ _ (Generator.move _ (.advance k))
    match k with
    | 0 => simpa using ih.advance_first h
    | 1 => simpa using ih.advance_second h
    | k + 2 =>
      rw [move_advance_of_none (by rw [ih.invocations]; rfl)]
      simpa using ih

end

/-- What two generations come to: the files and the claims, how each of them has ended, and what
each has accessed. -/
structure Ending (σ : Type) where
  world : World σ
  first : Invocation
  second : Invocation
  firstAccesses : List Access
  secondAccesses : List Access

def inTurn (s : Settings) (w : World σ) (first second : Request) : Ending σ :=
  let (w₁, a) := generate s w first
  let (w₂, b) := generate s w₁ second
  { world := w₂
    first := a
    second := b
    firstAccesses := trace s stepLimit (w, { request := first })
    secondAccesses := trace s stepLimit (w₁, { request := second }) }

def inReverse (s : Settings) (w : World σ) (first second : Request) : Ending σ :=
  let (w₁, b) := generate s w second
  let (w₂, a) := generate s w₁ first
  { world := w₂
    first := a
    second := b
    firstAccesses := trace s stepLimit (w₁, { request := first })
    secondAccesses := trace s stepLimit (w, { request := second }) }

def Ended (g : Generator σ) : Prop :=
  ∀ i ∈ g.invocations, i.result?.isSome = true

structure EndedAs (g : Generator σ) (e : Ending σ) : Prop where
  world : g.world = e.world
  invocations : g.invocations = [e.first, e.second]
  first : g.accesses 0 = e.firstAccesses
  second : g.accesses 1 = e.secondAccesses

section

variable {s : Settings} {w : World (Switchable MemoryStore)} {first second : Request} {m n : Nat}
  {g : Generator (Switchable MemoryStore)}

theorem Reached.ended (hg : g.Reached s w first second m n) (hm : stepLimit ≤ m)
    (hn : stepLimit ≤ n) : g.Ended := by
  intro i hi
  rw [hg.invocations] at hi
  rcases List.mem_pair.mp hi with rfl | rfl
  · exact ended_of_stepLimit_le hm
  · exact ended_of_stepLimit_le hn

theorem Reached.endedAs_inTurn (hg : g.Reached s w first second m n)
    (h : first.Independent s second) (hended : g.Ended) :
    g.EndedAs (inTurn s w first second) := by
  have hinvocations := hg.invocations
  have hm : (steps s m (w, { request := first })).2.result?.isSome = true :=
    hended _ (by rw [hinvocations]; exact List.mem_cons_self)
  have hn : (steps s n (w, { request := second })).2.result?.isSome = true :=
    hended _ (by rw [hinvocations]; exact List.mem_cons_of_mem _ List.mem_cons_self)
  have hfirst : steps s m (w, { request := first }) = generate s w first := steps_eq_run hm
  have hx := keepsTo_start s first
  have hy := keepsTo_start s second
  obtain ⟨-, hlast⟩ := steps_comm m n w hx hy h
  have hsecond : steps s n ((generate s w first).1, { request := second }) =
      generate s (generate s w first).1 second := by
    rw [← hfirst]
    apply steps_eq_run
    rw [hlast]
    exact hn
  refine ⟨?_, ?_, ?_, ?_⟩
  · rw [hg.world, hfirst, hsecond]
    rfl
  · rw [hinvocations, hfirst, ← hlast, hfirst, hsecond]
    rfl
  · rw [hg.first, trace_eq_of_ended hm]
    rfl
  · calc g.accesses 1 = trace s n (w, { request := second }) := hg.second
      _ = trace s stepLimit (w, { request := second }) := trace_eq_of_ended hn
      _ = trace s stepLimit ((generate s w first).1, { request := second }) :=
          (trace_past stepLimit stepLimit w hx hy h).symm

/-- It is all the same which of the two requests goes first. -/
theorem generate_comm (s : Settings) (w : World (Switchable MemoryStore))
    (h : first.Independent s second) :
    generate s (generate s w second).1 first =
        ((generate s (generate s w first).1 second).1, (generate s w first).2) ∧
      (generate s (generate s w first).1 second).2 = (generate s w second).2 :=
  steps_comm stepLimit stepLimit w (keepsTo_start s first) (keepsTo_start s second) h

theorem inTurn_eq_inReverse (s : Settings) (w : World (Switchable MemoryStore))
    (h : first.Independent s second) : inTurn s w first second = inReverse s w first second := by
  have hx := keepsTo_start s first
  have hy := keepsTo_start s second
  obtain ⟨hfirst, hsecond⟩ := generate_comm s w h
  have htrace : trace s stepLimit ((generate s w second).1, { request := first }) =
      trace s stepLimit (w, { request := first }) := trace_past stepLimit stepLimit w hy hx h.symm
  have htrace' : trace s stepLimit ((generate s w first).1, { request := second }) =
      trace s stepLimit (w, { request := second }) := trace_past stepLimit stepLimit w hx hy h
  simp only [inTurn, inReverse, hfirst, hsecond, htrace, htrace']

end

end Generator

end TestScaffold
