import TestScaffold.Proofs.Path.Spelling
import TestScaffold.Proofs.Generation.Outcome

/-!
Generations from two spellings of one root and of one source. Over files that are kept by the
components of their paths, the two go through the same steps side by side: after every step they
share the files and the claims, and they end alike.
-/

namespace TestScaffold

/-- Two attempts fail with related errors, or come to related results. -/
inductive EndsAlike {ε α : Type} (errors : ε → ε → Prop) (results : α → α → Prop) :
    Except ε α → Except ε α → Prop
  | error {e e' : ε} (h : errors e e') : EndsAlike errors results (.error e) (.error e')
  | ok {a a' : α} (h : results a a') : EndsAlike errors results (.ok a) (.ok a')

theorem EndsAlike.bind {ε α β : Type} {errors : ε → ε → Prop} {firsts : α → α → Prop}
    {results : β → β → Prop} {x y : Except ε α} {f g : α → Except ε β}
    (h : EndsAlike errors firsts x y)
    (hrest : ∀ a a', firsts a a' → EndsAlike errors results (f a) (g a')) :
    EndsAlike errors results (x >>= f) (y >>= g) := by
  cases h with
  | error he => exact .error he
  | ok ha => exact hrest _ _ ha

/-- Errors of one kind, about spellings of the same paths. -/
inductive GenerationError.Alike : GenerationError → GenerationError → Prop
  | noInput : Alike .noInput .noInput
  | outsideWorkspace {source source' root root' : Path} (hsource : source.Alike source')
      (hroot : root.Alike root') :
      Alike (.outsideWorkspace source root) (.outsideWorkspace source' root')
  | noWorkspace {path path' : Path} (h : path.Alike path') :
      Alike (.noWorkspace path) (.noWorkspace path')
  | notAFile {path path' : Path} (h : path.Alike path') : Alike (.notAFile path) (.notAFile path')
  | inFlight {destination destination' : Path} (h : destination.Alike destination') :
      Alike (.inFlight destination) (.inFlight destination')
  | write {destination destination' : Path} (h : destination.Alike destination')
      (cause : FileError) : Alike (.write destination cause) (.write destination' cause)
  | walk {path path' : Path} (h : path.Alike path') : Alike (.walk path) (.walk path')

/-- Locations with two spellings of one root and of one source. -/
structure Location.Alike (l l' : Location) : Prop where
  root : l.root.Alike l'.root
  source : l.source.Alike l'.source

/-- Plans that differ in the spelling of their paths alone. -/
structure TestPlan.Alike (p p' : TestPlan) : Prop where
  source : p.source.Alike p'.source
  destination : p.destination.Alike p'.destination
  identity : p.identity = p'.identity
  kind : p.kind = p'.kind
  importPath : p.importPath = p'.importPath
  style : p.style = p'.style
  imports : p.imports = p'.imports
  mocks : p.mocks = p'.mocks
  content : p.content = p'.content

structure CreatedTest.Alike (t t' : CreatedTest) : Prop where
  source : t.source.Alike t'.source
  destination : t.destination.Alike t'.destination
  identity : t.identity = t'.identity
  kind : t.kind = t'.kind
  style : t.style = t'.style
  mockCount : t.mockCount = t'.mockCount
  sourceReadable : t.sourceReadable = t'.sourceReadable

inductive Outcome.Alike : Outcome → Outcome → Prop
  | created {test test' : CreatedTest} (h : test.Alike test') :
      Alike (.created test) (.created test')
  | skipped {destination destination' : Path} (h : destination.Alike destination') :
      Alike (.skipped destination) (.skipped destination')

/-- A store that takes a path by its components. -/
class ComponentStore (σ : Type) [FileStore σ] : Prop where
  read_eq (store : σ) {p q : Path} : p.Alike q → FileStore.read store p = FileStore.read store q
  holds_eq (store : σ) {p q : Path} : p.Alike q → FileStore.holds store p = FileStore.holds store q
  write_eq (store : σ) {p q : Path} (text : Text) :
    p.Alike q → FileStore.write store p text = FileStore.write store q text

instance : ComponentStore MemoryStore where
  read_eq store p q h := by
    have hentry := congrArg store.entry h
    change MemoryStore.read store p = MemoryStore.read store q
    unfold MemoryStore.read
    rw [hentry]
  holds_eq store p q h := congrArg (fun key => (store.entry key).isSome) h
  write_eq store p q text h := by
    have hput : store.put p (some text) = store.put q (some text) := by
      unfold MemoryStore.put
      rw [show p.components = q.components from h]
    exact congrArg (fun after => (after, Except.ok ())) hput

section

variable {p p' : Path}

theorem identityOf_alike (h : p.Alike p') : identityOf p = identityOf p' := by
  unfold identityOf
  rw [h.stem?_eq, h.directoryName_eq]

theorem ScanSettings.kindOf_alike (s : ScanSettings) (h : p.Alike p') :
    s.kindOf p = s.kindOf p' := by
  unfold kindOf
  rw [h.extension_eq]

theorem PathSettings.withoutSourceRoot_alike (s : PathSettings) (h : p.Alike p') :
    (s.withoutSourceRoot p).Alike (s.withoutSourceRoot p') := by
  unfold withoutSourceRoot
  cases s.sourceRoot with
  | none => exact h
  | some root =>
    have hunder := h.under? (.refl ⟨root⟩)
    dsimp only
    generalize p.under? ⟨root⟩ = rest at hunder ⊢
    generalize p'.under? ⟨root⟩ = rest' at hunder ⊢
    cases hunder with
    | none => exact h
    | some hrest => exact hrest

theorem PathSettings.importPath_alike (s : PathSettings) (h : p.Alike p') :
    s.importPath p = s.importPath p' := by
  unfold importPath
  rw [(s.withoutSourceRoot_alike h).namesWithoutExtension_eq]

end

namespace Location.Alike

variable {l l' : Location} (h : l.Alike l')
include h

theorem relative : EndsAlike GenerationError.Alike Path.Alike l.relative l'.relative := by
  have hunder := h.source.under? h.root
  unfold Location.relative
  generalize l.source.under? l.root = rest at hunder ⊢
  generalize l'.source.under? l'.root = rest' at hunder ⊢
  cases hunder with
  | none => exact .error (.outsideWorkspace h.source h.root)
  | @some path path' hpath =>
    have hcomponents : path.components = path'.components := hpath
    dsimp only
    rw [← hcomponents, ← Path.Alike.fileName?_eq hpath]
    split
    · exact .error (.outsideWorkspace h.source h.root)
    · split
      · exact .error (.notAFile h.source)
      · exact .ok hpath

theorem testDirectory (s : PathSettings) {relative relative' : Path}
    (hrelative : relative.Alike relative') :
    (l.testDirectory s relative).Alike (l'.testDirectory s relative') := by
  have htop : (l.root.join ⟨s.testsDir⟩).Alike (l'.root.join ⟨s.testsDir⟩) := h.root.join (.refl _)
  have hparent := (s.withoutSourceRoot_alike hrelative).parent?
  unfold Location.testDirectory
  dsimp only
  generalize (s.withoutSourceRoot relative).parent? = above at hparent ⊢
  generalize (s.withoutSourceRoot relative').parent? = above' at hparent ⊢
  cases hparent with
  | none => exact htop
  | @some directory directory' hdirectory =>
    have hempty := Path.Alike.text_eq_nil_iff hdirectory
    by_cases hnil : directory.text = []
    · simp only [hnil, hempty.mp hnil, if_true]
      exact htop
    · simp only [hnil, mt hempty.mpr hnil, if_false]
      exact htop.join hdirectory

theorem testPath (s : PathSettings) :
    EndsAlike GenerationError.Alike Path.Alike (l.testPath s) (l'.testPath s) := by
  unfold Location.testPath
  refine h.relative.bind fun relative relative' hrelative => ?_
  rw [hrelative.file?_eq]
  exact .ok ((h.testDirectory s hrelative).child _)

end Location.Alike

/-- One text gives plans that are alike for two spellings of its source. -/
theorem TestPlan.ofText_alike (s : Settings) {source source' destination destination' relative
    relative' : Path} (hsource : source.Alike source') (hdest : destination.Alike destination')
    (hrelative : relative.Alike relative') (text : Option Text) :
    (ofText s source destination relative text).Alike
      (ofText s source' destination' relative' text) := by
  have hidentity := identityOf_alike hsource
  have hkind := s.scan.kindOf_alike hsource
  have himport := s.paths.importPath_alike hrelative
  constructor
  · exact hsource
  · exact hdest
  all_goals simp only [ofText, hidentity, hkind, himport]

theorem TestPlan.Alike.summary {p p' : TestPlan} (h : p.Alike p') :
    p.summary.Alike p'.summary where
  source := h.source
  destination := h.destination
  identity := h.identity
  kind := h.kind
  style := h.style
  mockCount := congrArg List.length h.mocks
  sourceReadable := congrArg (fun imports => !Classified.isFallback imports) h.imports

section

variable {σ : Type} [FileStore σ] [ComponentStore σ] {l l' : Location}

theorem plan_alike (s : Settings) (store : σ) (h : l.Alike l') :
    EndsAlike GenerationError.Alike TestPlan.Alike (plan s store l) (plan s store l') := by
  unfold plan
  refine (h.testPath s.paths).bind fun destination destination' hdest => ?_
  refine h.relative.bind fun relative relative' hrelative => ?_
  rw [ComponentStore.read_eq store h.source]
  exact .ok (TestPlan.ofText_alike s h.source hdest hrelative _)

end

/-- Requests with the same answer, for locations that are alike. -/
structure Request.Alike (r r' : Request) : Prop where
  location : r.location.Alike r'.location
  overwrite : r.overwrite = r'.overwrite

theorem Request.Alike.destination {r r' : Request} (h : r.Alike r') (s : Settings) :
    EndsAlike GenerationError.Alike Path.Alike (r.destination s) (r'.destination s) := by
  have hempty := h.location.source.text_eq_nil_iff
  unfold Request.destination
  by_cases hnil : r.location.source.text = []
  · rw [if_pos hnil, if_pos (hempty.mp hnil)]
    exact .error .noInput
  · rw [if_neg hnil, if_neg (mt hempty.mpr hnil)]
    exact h.location.testPath s.paths

namespace InFlight

variable {d e : Path}

theorem claim?_alike (f : InFlight) (h : d.Alike e) : f.claim? d = f.claim? e := by
  unfold claim? isHeld
  rw [show d.components = e.components from h]

theorem release_alike (f : InFlight) (h : d.Alike e) : f.release d = f.release e := by
  unfold release
  rw [show d.components = e.components from h]

end InFlight

/-- How two generations that are alike end. -/
abbrev ResultsAlike : GenerationResult → GenerationResult → Prop :=
  EndsAlike GenerationError.Alike Outcome.Alike

inductive Stage.Alike : Stage → Stage → Prop
  | claiming : Alike .claiming .claiming
  | checking {d e : Path} (h : d.Alike e) : Alike (.checking d) (.checking e)
  | asking {d e : Path} (h : d.Alike e) : Alike (.asking d) (.asking e)
  | reading {d e : Path} (h : d.Alike e) : Alike (.reading d) (.reading e)
  | writing {p q : TestPlan} (h : p.Alike q) : Alike (.writing p) (.writing q)
  | leaving {d e : Path} {a b : GenerationResult} (h : d.Alike e) (hresult : ResultsAlike a b) :
      Alike (.leaving d a) (.leaving e b)
  | finished {a b : GenerationResult} (hresult : ResultsAlike a b) :
      Alike (.finished a) (.finished b)

namespace Invocation

/-- Generations side by side: they are at the same point, have asked about the same destinations
and have told notes of the same levels. -/
structure Alike (i j : Invocation) : Prop where
  request : i.request.Alike j.request
  stage : i.stage.Alike j.stage
  prompts : List.Forall₂ Path.Alike i.prompts j.prompts
  levels : i.notes.map Note.level = j.notes.map Note.level

variable {i j : Invocation}

theorem Alike.at_stage {a b : Stage} (h : i.Alike j) (hstage : a.Alike b) :
    Alike { i with stage := a } { j with stage := b } :=
  ⟨h.request, hstage, h.prompts, h.levels⟩

theorem Alike.tell (h : i.Alike j) (level : NoteLevel) (message message' : Text) :
    (i.tell level message).Alike (j.tell level message') := by
  refine ⟨h.request, h.stage, h.prompts, ?_⟩
  simp only [Invocation.tell, List.map_append, List.map_cons, List.map_nil, h.levels]

theorem Alike.finish {a b : GenerationResult} (h : i.Alike j) (hresult : ResultsAlike a b) :
    (i.finish a).Alike (j.finish b) := by
  cases hresult with
  | ok houtcome => exact h.at_stage (.finished (.ok houtcome))
  | @error e e' he =>
    refine ⟨h.request, .finished (.error he), h.prompts, ?_⟩
    simp only [Invocation.finish, List.map_append, List.map_cons, List.map_nil, h.levels,
      GenerationError.note]

theorem Alike.planned (h : i.Alike j) (s : Settings) {d e relative relative' : Path}
    (hdest : d.Alike e) (hrelative : relative.Alike relative') (text : Option Text) :
    (i.planned s d relative text).Alike (j.planned s e relative' text) := by
  have hplan := TestPlan.ofText_alike s h.request.location.source hdest hrelative text
  unfold Invocation.planned
  dsimp only
  cases text with
  | some text => exact h.at_stage (.writing hplan)
  | none => exact (h.tell _ _ _).at_stage (.writing hplan)

section

variable {σ : Type} [FileStore σ] [ComponentStore σ]

/-- Side by side, two generations leave the same world with every step, and stay alike. -/
theorem Alike.step (h : i.Alike j) (s : Settings) (w : World σ) :
    (Invocation.step s w i).1 = (Invocation.step s w j).1 ∧
      (Invocation.step s w i).2.Alike (Invocation.step s w j).2 := by
  obtain ⟨request, stage, prompts, notes⟩ := i
  obtain ⟨request', stage', prompts', notes'⟩ := j
  have hrequest : request.Alike request' := h.request
  have hstage : stage.Alike stage' := h.stage
  cases hstage with
  | claiming =>
    have hdest := hrequest.destination s
    simp only [Invocation.step]
    generalize request.destination s = x at hdest ⊢
    generalize request'.destination s = y at hdest ⊢
    cases hdest with
    | error he => exact ⟨rfl, h.finish (.error he)⟩
    | @ok d e hde =>
      dsimp only
      rw [InFlight.claim?_alike w.inFlight hde]
      cases w.inFlight.claim? e with
      | none => exact ⟨rfl, h.finish (.error (.inFlight hde))⟩
      | some inFlight => exact ⟨rfl, h.at_stage (.checking hde)⟩
  | @checking d e hde =>
    simp only [Invocation.step, ComponentStore.holds_eq w.store hde]
    split
    · exact ⟨trivial, h.at_stage (.asking hde)⟩
    · exact ⟨trivial, h.at_stage (.reading hde)⟩
  | @asking d e hde =>
    have hasked : Alike ⟨request, .asking d, prompts ++ [d], notes⟩
        ⟨request', .asking e, prompts' ++ [e], notes'⟩ :=
      ⟨hrequest, .asking hde, List.rel_append h.prompts (.cons hde .nil), h.levels⟩
    simp only [Invocation.step, hrequest.overwrite]
    split
    · exact ⟨rfl, hasked.at_stage (.reading hde)⟩
    · exact ⟨rfl, (hasked.tell _ _ _).at_stage (.leaving hde (.ok (.skipped hde)))⟩
  | @reading d e hde =>
    have hrelative := hrequest.location.relative
    have hread := ComponentStore.read_eq w.store hrequest.location.source
    simp only [Invocation.step, hread]
    generalize request.location.relative = x at hrelative ⊢
    generalize request'.location.relative = y at hrelative ⊢
    cases hrelative with
    | error he => exact ⟨rfl, h.at_stage (.leaving hde (.error he))⟩
    | ok hpath => exact ⟨rfl, h.planned s hde hpath _⟩
  | @writing p q hpq =>
    have hwrite : FileStore.write w.store p.destination p.content =
        FileStore.write w.store q.destination q.content := by
      rw [ComponentStore.write_eq w.store p.content hpq.destination, hpq.content]
    simp only [Invocation.step, hwrite]
    rcases FileStore.write w.store q.destination q.content with ⟨store, cause | _⟩
    · exact ⟨rfl, h.at_stage (.leaving hpq.destination (.error (.write hpq.destination cause)))⟩
    · exact ⟨rfl, (h.tell _ _ _).at_stage
        (.leaving hpq.destination (.ok (.created hpq.summary)))⟩
  | @leaving d e a b hde hresult =>
    simp only [Invocation.step, InFlight.release_alike w.inFlight hde]
    exact ⟨trivial, h.finish hresult⟩
  | finished hresult => exact ⟨rfl, h⟩

theorem Alike.steps (h : i.Alike j) (s : Settings) (n : Nat) (w : World σ) :
    (Invocation.steps s n (w, i)).1 = (Invocation.steps s n (w, j)).1 ∧
      (Invocation.steps s n (w, i)).2.Alike (Invocation.steps s n (w, j)).2 := by
  induction n generalizing w i j with
  | zero => exact ⟨rfl, h⟩
  | succ n ih =>
    obtain ⟨hworld, hnext⟩ := h.step s w
    have hrest := ih hnext (Invocation.step s w i).1
    rw [steps_succ, steps_succ]
    rw [hworld] at hrest
    have hleft : Invocation.step s w i = ((Invocation.step s w j).1, (Invocation.step s w i).2) :=
      Prod.ext hworld rfl
    rw [hleft]
    exact hrest

theorem Alike.results {a b : GenerationResult} (h : i.Alike j) (ha : i.result? = some a)
    (hb : j.result? = some b) : ResultsAlike a b := by
  obtain ⟨request, stage, prompts, notes⟩ := i
  obtain ⟨request', stage', prompts', notes'⟩ := j
  have hstage : stage.Alike stage' := h.stage
  cases hstage with
  | finished hresult =>
    obtain rfl := Option.some.inj ha
    obtain rfl := Option.some.inj hb
    exact hresult
  | _ => cases ha

end

end Invocation

/-- Two spellings of one root and of one source are planned and generated alike. Planning fails
with errors of one kind, or the plans have the same name, kind, import path, mocks and text and
put them under two spellings of one destination. Generating goes side by side: after any number of
steps the files are the same and the same destinations are claimed, so in the end the same text
is in the same place, and the two results are alike. -/
theorem spellings_generate_alike {σ : Type} [FileStore σ] [ComponentStore σ] (s : Settings)
    (w : World σ) (l l' : Location) (hroot : l.root.components = l'.root.components)
    (hsource : l.source.components = l'.source.components) (overwrite : Bool) :
    EndsAlike GenerationError.Alike TestPlan.Alike (plan s w.store l) (plan s w.store l') ∧
    (∀ n, let left := Invocation.steps s n (w, { request := ⟨l, overwrite⟩ })
      let right := Invocation.steps s n (w, { request := ⟨l', overwrite⟩ })
      left.1 = right.1 ∧ left.2.Alike right.2) ∧
    ∃ a b, (generate s w ⟨l, overwrite⟩).2.result? = some a ∧
      (generate s w ⟨l', overwrite⟩).2.result? = some b ∧ ResultsAlike a b ∧
      (generate s w ⟨l, overwrite⟩).1 = (generate s w ⟨l', overwrite⟩).1 := by
  have hlocation : l.Alike l' := ⟨hroot, hsource⟩
  have hfresh : Invocation.Alike { request := ⟨l, overwrite⟩ } { request := ⟨l', overwrite⟩ } :=
    ⟨⟨hlocation, rfl⟩, .claiming, .nil, rfl⟩
  refine ⟨plan_alike s w.store hlocation, fun n => hfresh.steps s n w, ?_⟩
  obtain ⟨hworld, hend⟩ := hfresh.steps s Invocation.stepLimit w
  obtain ⟨a, ha, -⟩ := (Invocation.exit_generate s w ⟨l, overwrite⟩).report
  obtain ⟨b, hb, -⟩ := (Invocation.exit_generate s w ⟨l', overwrite⟩).report
  exact ⟨a, b, ha, hb, hend.results ha hb, hworld⟩

/-- A source in memory that stands for a route. -/
def routeFiles : World MemoryStore where
  store := MemoryStore.empty.put ⟨"/p/app/shop/page.tsx".toList⟩
    (some "import Card from './Card'\nexport default function ShopPage() \x7b\x7d\n".toList)

/-- Slashes and dots do not change what a route is called, nor where its test is written. -/
theorem spellings_generate_alike_route :
    (Path.mk "/p".toList).components = (Path.mk "//p/./".toList).components ∧
      (Path.mk "/p/app/shop/page.tsx".toList).components =
        (Path.mk "/p//app/./shop/page.tsx/".toList).components ∧
      (plan {} routeFiles.store ⟨⟨"/p".toList⟩, ⟨"/p/app/shop/page.tsx".toList⟩⟩).map
        TestPlan.identity = .ok "ShopPage".toList ∧
      EndsAlike GenerationError.Alike TestPlan.Alike
        (plan {} routeFiles.store ⟨⟨"/p".toList⟩, ⟨"/p/app/shop/page.tsx".toList⟩⟩)
        (plan {} routeFiles.store ⟨⟨"//p/./".toList⟩, ⟨"/p//app/./shop/page.tsx/".toList⟩⟩) ∧
      (generate {} routeFiles ⟨⟨⟨"/p".toList⟩, ⟨"/p/app/shop/page.tsx".toList⟩⟩, false⟩).1 =
        (generate {} routeFiles
          ⟨⟨⟨"//p/./".toList⟩, ⟨"/p//app/./shop/page.tsx/".toList⟩⟩, false⟩).1 := by
  have hroot : (Path.mk "/p".toList).components = (Path.mk "//p/./".toList).components := by
    decide +kernel
  have hsource : (Path.mk "/p/app/shop/page.tsx".toList).components =
      (Path.mk "/p//app/./shop/page.tsx/".toList).components := by
    decide +kernel
  obtain ⟨hplan, -, -, -, -, -, -, hworld⟩ := spellings_generate_alike {} routeFiles
    ⟨⟨"/p".toList⟩, ⟨"/p/app/shop/page.tsx".toList⟩⟩
    ⟨⟨"//p/./".toList⟩, ⟨"/p//app/./shop/page.tsx/".toList⟩⟩ hroot hsource false
  exact ⟨hroot, hsource, by decide +kernel, hplan, hworld⟩

end TestScaffold
