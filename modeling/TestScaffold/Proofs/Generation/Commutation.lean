import TestScaffold.Proofs.Generation.Outcome

/-!
Steps of two generations that do not meet. A step learns from the files what its access says, and
from the claims whether its own destination is held; it changes the files by its access, and the
claims at its own destination. So two generations whose accesses do not meet can take their steps
in either order, and any number of steps of the one can be moved past those of the other.
-/

namespace TestScaffold

/-- Two requests that do not meet: their tests go to different places, and neither reads what the
other one writes. A request without a destination writes nothing. -/
structure Request.Independent (s : Settings) (r q : Request) : Prop where
  destinations : ∀ d e, r.destination s = .ok d → q.destination s = .ok e →
    d.components ≠ e.components
  source_left : ∀ e, q.destination s = .ok e → r.location.source.components ≠ e.components
  source_right : ∀ d, r.destination s = .ok d → q.location.source.components ≠ d.components

theorem Request.Independent.symm {s : Settings} {r q : Request} (h : r.Independent s q) :
    q.Independent s r where
  destinations e d he hd := (h.destinations d e hd he).symm
  source_left := h.source_right
  source_right := h.source_left

theorem World.eq_of {σ : Type} {v w : World σ} (hstore : v.store = w.store)
    (hinFlight : v.inFlight = w.inFlight) : v = w := by
  cases v
  cases w
  rw [World.mk.injEq]
  exact ⟨hstore, hinFlight⟩

namespace Access

def path : Access → Path
  | .look path | .prompt path _ | .read path | .write path _ => path

/-- Whether `b` leaves alone what `a` is about. -/
def Spares (b a : Access) : Prop :=
  ∀ path content, b = .write path content → a.path.components ≠ path.components

variable {a b : Access}

theorem agrees_refl {σ : Type} [FileStore σ] (x : σ) (a : Access) : a.agrees x x := by
  cases a <;> simp [agrees]

theorem agrees_effect (x : Switchable MemoryStore) (h : b.Spares a) : a.agrees x (b.effect x) := by
  cases b with
  | write p content =>
    have hne := h p content rfl
    cases honly : x.readOnly with
    | true =>
      have hsame : Access.effect x (.write p content) = x := by
        simp [effect, Invocation.memory_write, honly]
      rw [hsame]
      exact agrees_refl x a
    | false =>
      have hput : Access.effect x (.write p content) =
          { x with store := x.store.put p (some content) } := by
        simp [effect, Invocation.memory_write, honly]
      rw [hput]
      have hentry : (x.store.put p (some content)).entry a.path.components =
          x.store.entry a.path.components := by
        rw [MemoryStore.entry_put, if_neg hne]
      cases a with
      | look q => exact congrArg Option.isSome hentry.symm
      | prompt q answer => trivial
      | read q =>
        change x.store.read q = (x.store.put p (some content)).read q
        unfold MemoryStore.read
        rw [show (x.store.put p (some content)).entry q.components = x.store.entry q.components
          from hentry]
      | write q text =>
        change (FileStore.write x q text).2 = (FileStore.write _ q text).2
        simp [Invocation.memory_write, honly]
  | _ => exact agrees_refl x a

theorem effect_comm (x : Switchable MemoryStore) (h : b.Spares a) :
    a.effect (b.effect x) = b.effect (a.effect x) := by
  cases b with
  | write p content =>
    cases a with
    | write q text =>
      have hne : q.components ≠ p.components := h p content rfl
      have hput : (x.store.put p (some content)).put q (some text) =
          (x.store.put q (some text)).put p (some content) := by
        simp only [MemoryStore.put, MemoryStore.mk.injEq]
        funext key
        by_cases hq : key = q.components
        · simp [hq, hne]
        · simp [hq]
      cases honly : x.readOnly with
      | true => simp [effect, Invocation.memory_write, honly]
      | false => simp [effect, Invocation.memory_write, honly, hput]
    | _ => rfl
  | _ => cases a <;> rfl

end Access

namespace Invocation

/-- A generation holds no destination but the one of its request. -/
def KeepsTo (s : Settings) (i : Invocation) : Prop :=
  ∀ d, i.held? = some d → i.request.destination s = .ok d

theorem keepsTo_start (s : Settings) (r : Request) : KeepsTo s { request := r } := by
  intro d hd
  cases hd

/-- What a generation accesses is its source, or the destination that it holds. -/
theorem path_of_access? {i : Invocation} {a : Access} (h : i.access? = some a) :
    a.path = i.request.location.source ∨ i.held? = some a.path := by
  unfold access? at h
  unfold held?
  cases hstage : i.stage with
  | reading d =>
    simp only [hstage] at h
    split at h
    · cases h
    · obtain rfl := Option.some.inj h
      exact Or.inl rfl
  | checking d | asking d | writing p =>
    simp only [hstage] at h
    obtain rfl := Option.some.inj h
    exact Or.inr rfl
  | _ => simp [hstage] at h

section

variable {σ : Type} [FileStore σ] {s : Settings} {w w' : World σ} {i i' : Invocation}

theorem Transition.request (h : Transition s w i w' i') : i'.request = i.request := by
  cases h with
  | planned hstage hrelative => exact request_planned s i _ _ _
  | @left d result hstage => cases result <;> rfl
  | _ => rfl

theorem Transition.keepsTo (h : Transition s w i w' i') (hi : i.KeepsTo s) : i'.KeepsTo s := by
  intro d hd
  rw [h.request]
  cases h with
  | @claimed e f hstage hdest hclaim =>
    obtain rfl := Option.some.inj hd
    exact hdest
  | @planned e relative hstage hrelative =>
    rw [held?_planned] at hd
    exact hi d (by simpa [held?, hstage] using hd)
  | refused | collided | left => simp at hd
  | rested => exact hi d hd
  | _ hstage => exact hi d (by simpa [held?, hstage] using hd)

/-- A step leaves alone the claims of all destinations but its own. -/
theorem Transition.claimed_of_ne (h : Transition s w i w' i') (hi : i.KeepsTo s)
    {key : List Path.Component}
    (hkey : ∀ d, i.request.destination s = .ok d → key ≠ d.components) :
    w'.inFlight.claimed key = w.inFlight.claimed key := by
  rcases h.claims with ⟨hsame, -⟩ | ⟨d, -, hsome, hclaim⟩ | ⟨d, hsome, -, hrelease⟩
  · rw [hsame]
  · have hdest := h.keepsTo hi d hsome
    rw [h.request] at hdest
    have hne := hkey d hdest
    unfold InFlight.claim? at hclaim
    split at hclaim
    · cases hclaim
    · rw [← Option.some.inj hclaim]
      simp [hne]
  · have hne := hkey d (hi d hsome)
    rw [hrelease]
    simp [InFlight.release, hne]

/-- A generation learns from the claims whether its own destination is held, and nothing else. -/
theorem step_of_isHeld (f : InFlight)
    (h : ∀ d, i.request.destination s = .ok d → w.inFlight.isHeld d = f.isHeld d) :
    (step s { w with inFlight := f } i).2 = (step s w i).2 := by
  unfold step
  cases hstage : i.stage with
  | claiming =>
    cases hdest : i.request.destination s with
    | error e => rfl
    | ok d =>
      have hsame : (f.claim? d).isSome = (w.inFlight.claim? d).isSome := by
        rw [Bool.eq_iff_iff, InFlight.claim?_isSome_iff, InFlight.claim?_isSome_iff, h d hdest]
      cases hx : w.inFlight.claim? d <;> cases hy : f.claim? d <;> simp_all
  | asking d => cases hanswer : i.request.overwrite <;> simp [hanswer]
  | reading d => cases hrelative : i.request.location.relative <;> simp
  | writing p =>
    rcases hwrite : FileStore.write w.store p.destination p.content with ⟨store, e | _⟩ <;>
      simp [hwrite]
  | _ => rfl

/-- In two worlds that are alike to a generation, it takes the same step. -/
theorem step_of_alike {v w : World σ}
    (hstore : ∀ a, i.access? = some a → a.agrees w.store v.store)
    (hclaims : ∀ d, i.request.destination s = .ok d → w.inFlight.isHeld d = v.inFlight.isHeld d) :
    (step s v i).2 = (step s w i).2 := by
  calc (step s v i).2 = (step s { w with inFlight := v.inFlight } i).2 :=
        (step_of_agrees s { w with inFlight := v.inFlight } v.store i hstore).2
    _ = (step s w i).2 := step_of_isHeld v.inFlight hclaims

/-- And it leaves its own destination held in both or in none. -/
theorem claimed_of_alike {v w : World σ} {d : Path}
    (hstep : (step s v i).2 = (step s w i).2) (hi : i.KeepsTo s)
    (hdest : i.request.destination s = .ok d)
    (hclaims : v.inFlight.isHeld d = w.inFlight.isHeld d) :
    (step s v i).1.inFlight.isHeld d = (step s w i).1.inFlight.isHeld d := by
  have hv := transition_step s v i
  have hw := transition_step s w i
  have hown : ∀ e, i.held? = some e ∨ (step s w i).2.held? = some e → e = d := by
    rintro e (he | he)
    · exact Except.ok.inj ((hi e he).symm.trans hdest)
    · have hafter := hw.keepsTo hi e he
      rw [hw.request] at hafter
      exact Except.ok.inj (hafter.symm.trans hdest)
  -- Whether the step claims, releases or does neither shows in what is held around it.
  rcases hw.claims with ⟨hsame, hheld⟩ | ⟨e, hnone, hsome, hclaim⟩ | ⟨e, hsome, hnone, hrelease⟩
  · rcases hv.claims with ⟨hsame', -⟩ | ⟨e', hnone', hsome', -⟩ | ⟨e', hsome', hnone', -⟩
    · rw [hsame, hsame', hclaims]
    · rw [hstep, hheld, hnone'] at hsome'
      cases hsome'
    · rw [hstep, hheld, hsome'] at hnone'
      cases hnone'
  · obtain rfl := hown e (Or.inr hsome)
    rcases hv.claims with ⟨-, hheld'⟩ | ⟨e', -, hsome', hclaim'⟩ | ⟨e', hsome', -, -⟩
    · rw [hstep, hsome, hnone] at hheld'
      cases hheld'
    · rw [hstep, hsome] at hsome'
      obtain rfl := Option.some.inj hsome'
      rw [(InFlight.isHeld_claim? hclaim).mpr (Or.inl rfl),
        (InFlight.isHeld_claim? hclaim').mpr (Or.inl rfl)]
    · rw [hnone] at hsome'
      cases hsome'
  · obtain rfl := hown e (Or.inl hsome)
    rcases hv.claims with ⟨-, hheld'⟩ | ⟨e', hnone', -, -⟩ | ⟨e', hsome', -, hrelease'⟩
    · rw [hstep, hsome, hnone] at hheld'
      cases hheld'
    · rw [hsome] at hnone'
      cases hnone'
    · rw [hsome] at hsome'
      obtain rfl := Option.some.inj hsome'
      rw [hrelease, hrelease']
      simp [InFlight.isHeld, InFlight.release]

end

section

variable {s : Settings} {a b : Invocation}

theorem spares_of_independent {x y : Access} (ha : a.KeepsTo s) (hb : b.KeepsTo s)
    (h : a.request.Independent s b.request) (hx : a.access? = some x) (hy : b.access? = some y) :
    y.Spares x := by
  rintro p content rfl
  have hp : b.request.destination s = .ok p := hb p (held?_of_write hy)
  rcases path_of_access? hx with hsource | hheld
  · rw [hsource]
    exact h.source_left p hp
  · exact h.destinations x.path p (ha x.path hheld) hp

/-- The step of one generation is alike before and after a step of another that it does not
meet. -/
theorem step_past (w : World (Switchable MemoryStore)) (ha : a.KeepsTo s) (hb : b.KeepsTo s)
    (h : a.request.Independent s b.request) :
    (step s (step s w b).1 a).2 = (step s w a).2 ∧
      ∀ d, a.request.destination s = .ok d →
        (step s (step s w b).1 a).1.inFlight.isHeld d = (step s w a).1.inFlight.isHeld d := by
  have hb' := transition_step s w b
  have hclaims : ∀ d, a.request.destination s = .ok d →
      w.inFlight.isHeld d = (step s w b).1.inFlight.isHeld d := by
    intro d hd
    exact (hb'.claimed_of_ne hb fun e he => h.destinations d e hd he).symm
  have hstore : ∀ x, a.access? = some x → x.agrees w.store (step s w b).1.store := by
    intro x hx
    rw [hb'.store]
    cases hy : b.access? with
    | none => exact Access.agrees_refl w.store x
    | some y => exact Access.agrees_effect w.store (spares_of_independent ha hb h hx hy)
  have hstep := step_of_alike hstore hclaims
  exact ⟨hstep, fun d hd => claimed_of_alike hstep ha hd (hclaims d hd).symm⟩

/-- Two steps that do not meet leave the same world in either order. -/
theorem step_comm (w : World (Switchable MemoryStore)) (ha : a.KeepsTo s) (hb : b.KeepsTo s)
    (h : a.request.Independent s b.request) :
    (step s (step s w a).1 b).1 = (step s (step s w b).1 a).1 := by
  have hpastA := step_past w ha hb h
  have hpastB := step_past w hb ha h.symm
  have hA := transition_step s w a
  have hB := transition_step s w b
  have hAB := transition_step s (step s w a).1 b
  have hBA := transition_step s (step s w b).1 a
  have hstore : (step s (step s w a).1 b).1.store = (step s (step s w b).1 a).1.store := by
    rw [hAB.store, hBA.store, hA.store, hB.store]
    cases hx : a.access? with
    | none => rfl
    | some x =>
      cases hy : b.access? with
      | none => rfl
      | some y => exact (Access.effect_comm w.store (spares_of_independent ha hb h hx hy)).symm
  have hclaimed : ∀ key, (step s (step s w a).1 b).1.inFlight.claimed key =
      (step s (step s w b).1 a).1.inFlight.claimed key := by
    intro key
    -- A destination belongs to one of the two at the most, and the other one leaves it alone.
    by_cases hkeyA : ∃ d, a.request.destination s = .ok d ∧ key = d.components
    · obtain ⟨d, hd, rfl⟩ := hkeyA
      rw [hAB.claimed_of_ne hb fun e he => h.destinations d e hd he]
      exact (hpastA.2 d hd).symm
    · have hneA : ∀ d, a.request.destination s = .ok d → key ≠ d.components := by
        intro d hd hkey
        exact hkeyA ⟨d, hd, hkey⟩
      rw [hBA.claimed_of_ne ha hneA]
      by_cases hkeyB : ∃ d, b.request.destination s = .ok d ∧ key = d.components
      · obtain ⟨d, hd, rfl⟩ := hkeyB
        exact hpastB.2 d hd
      · have hneB : ∀ d, b.request.destination s = .ok d → key ≠ d.components := by
          intro d hd hkey
          exact hkeyB ⟨d, hd, hkey⟩
        rw [hAB.claimed_of_ne hb hneB, hA.claimed_of_ne ha hneA, hB.claimed_of_ne hb hneB]
  have hinFlight : (step s (step s w a).1 b).1.inFlight = (step s (step s w b).1 a).1.inFlight :=
    congrArg InFlight.mk (funext hclaimed)
  exact World.eq_of hstore hinFlight

theorem request_steps {σ : Type} [FileStore σ] (n : Nat) (w : World σ) (i : Invocation) :
    (steps s n (w, i)).2.request = i.request := by
  induction n generalizing w i with
  | zero => rfl
  | succ n ih =>
    rw [steps_succ, ih]
    exact (transition_step s w i).request

theorem keepsTo_steps {σ : Type} [FileStore σ] (n : Nat) (w : World σ) {i : Invocation}
    (hi : i.KeepsTo s) : (steps s n (w, i)).2.KeepsTo s := by
  induction n generalizing w i with
  | zero => exact hi
  | succ n ih =>
    rw [steps_succ]
    exact ih _ ((transition_step s w i).keepsTo hi)

/-- A step of one generation and any number of steps of another that it does not meet. -/
theorem steps_comm_step (m : Nat) (w : World (Switchable MemoryStore)) (ha : a.KeepsTo s)
    (hb : b.KeepsTo s) (h : a.request.Independent s b.request) :
    steps s m ((step s w b).1, a) =
        ((step s (steps s m (w, a)).1 b).1, (steps s m (w, a)).2) ∧
      (step s (steps s m (w, a)).1 b).2 = (step s w b).2 := by
  induction m generalizing w a with
  | zero => exact ⟨rfl, rfl⟩
  | succ m ih =>
    have ha' : (step s w a).2.KeepsTo s := (transition_step s w a).keepsTo ha
    have h' : (step s w a).2.request.Independent s b.request := by
      rw [(transition_step s w a).request]
      exact h
    obtain ⟨hrest, hsecond⟩ := ih (step s w a).1 ha' h'
    have hswap : step s (step s w b).1 a = ((step s (step s w a).1 b).1, (step s w a).2) :=
      Prod.ext (step_comm w ha hb h).symm (step_past w ha hb h).1
    refine ⟨?_, ?_⟩
    · calc steps s (m + 1) ((step s w b).1, a)
          = steps s m ((step s (step s w a).1 b).1, (step s w a).2) := by rw [steps_succ, hswap]
        _ = _ := hrest
    · calc (step s (steps s (m + 1) (w, a)).1 b).2
          = (step s (step s w a).1 b).2 := hsecond
        _ = (step s w b).2 := (step_past w hb ha h.symm).1

/-- Any numbers of steps of two generations that do not meet: each of them is as it is alone, and
the world is the same in either order. -/
theorem steps_comm (m n : Nat) (w : World (Switchable MemoryStore)) (ha : a.KeepsTo s)
    (hb : b.KeepsTo s) (h : a.request.Independent s b.request) :
    steps s m ((steps s n (w, b)).1, a) =
        ((steps s n ((steps s m (w, a)).1, b)).1, (steps s m (w, a)).2) ∧
      (steps s n ((steps s m (w, a)).1, b)).2 = (steps s n (w, b)).2 := by
  induction n generalizing w b with
  | zero => exact ⟨rfl, rfl⟩
  | succ n ih =>
    have hb' : (step s w b).2.KeepsTo s := (transition_step s w b).keepsTo hb
    have h' : a.request.Independent s (step s w b).2.request := by
      rw [(transition_step s w b).request]
      exact h
    obtain ⟨hfirst, hsecond⟩ := steps_comm_step m w ha hb h
    obtain ⟨hrest, hlast⟩ := ih (step s w b).1 hb' h'
    -- The first step of the one generation is moved before all steps of the other one.
    have hswap : steps s (n + 1) ((steps s m (w, a)).1, b) =
        steps s n ((steps s m ((step s w b).1, a)).1, (step s w b).2) := by
      rw [steps_succ, hfirst, ← hsecond]
    rw [hswap]
    refine ⟨?_, hlast⟩
    calc steps s m ((steps s (n + 1) (w, b)).1, a)
        = ((steps s n ((steps s m ((step s w b).1, a)).1, (step s w b).2)).1,
            (steps s m ((step s w b).1, a)).2) := hrest
      _ = _ := by rw [hfirst]

end

end Invocation

end TestScaffold
