import TestScaffold.Proofs.Disk.Direct
import TestScaffold.Proofs.Generation.Mirror
import TestScaffold.Proofs.Generation.Single
import TestScaffold.Proofs.Generation.Tested

/-!
Requests whose destinations lie apart, so that neither is on the way to the other. What such a
request comes to is decided by its source and by what is at its destination and on the way there.
The tests of other requests are no sources, and of the way they may make a directory that was
missing, but that is no obstacle; so the request comes to what it would have come to without them.
-/

namespace TestScaffold

theorem Path.startsWith_iff_steps {p base : Path} (hp : p.isAbsolute = true)
    (hbase : base.isAbsolute = true) : p.startsWith base = true ↔ base.steps <+: p.steps := by
  unfold startsWith
  rw [List.isPrefixOf_iff_prefix, components_of_absolute hp, components_of_absolute hbase,
    List.cons_prefix_cons, List.prefix_map_iff_of_injective stepComponent_injective]
  simp only [true_and]

/-- Without `..` in the root of the workspace and in the directory of the tests, destinations go
straight down. -/
theorem Location.isDirect_of_testPath {l : Location} {s : PathSettings} {d : Path}
    (hroot : l.root.isAbsolute = true) (hup : .parent ∉ l.root.components)
    (htests : .parent ∉ (Path.mk s.testsDir).components) (h : l.testPath s = .ok d) :
    d.IsDirect := by
  refine ⟨(names_of_testPath hroot h).1, ?_, ?_⟩
  · intro hmem
    rcases up_mem_of_testPath h hmem with hroot' | htests'
    · exact hup (Path.parent_mem_components_iff.mpr hroot')
    · exact htests (Path.parent_mem_components_iff.mpr htests')
  · obtain ⟨relative, hrelative⟩ := relative_of_testPath h
    obtain ⟨-, name, hname⟩ := relative_eq_ok hrelative
    have hslash : '/' ∉ testName (FileName.ofText name) :=
      not_slash_mem_testName (Path.not_slash_mem_of_mem_segments
        (Path.mem_segments_of_fileName? hname))
    rw [testPath_of_relative s hrelative, Path.file?, hname] at h
    obtain rfl := Except.ok.inj h
    exact ⟨_, Path.getLast?_segments_child _ hslash, isName_testName _⟩

namespace Request

/-- How a request ends whose test is planned for a place that its path goes straight down to. -/
def ending (r : Request) (d : Disk) (place : Place) (p : TestPlan) : GenerationResult :=
  if (d.get? place).isSome = true ∧ r.overwrite = false then .ok (.skipped p.destination)
  else
    match d.obstacle? place with
    | some cause => .error (.write p.destination cause)
    | none => .ok (.created p.summary)

variable {s : Settings} {a l : LocalFiles} {q r : Request} {d e : Path} {p : TestPlan}

theorem ending_eq {before after : Disk} {place : Place} (h : before.SameWay after place) :
    r.ending after place p = r.ending before place p := by
  unfold ending
  rw [h.there, h.obstacle?_eq]

/-- A request with a direct destination ends as what it finds there and on the way decides, and
plants its test or leaves all as it is. -/
theorem carryOut_of_isDirect (hl : l.WellFormed) (hdest : r.destination s = .ok p.destination)
    (hd : p.destination.IsDirect) (hplan : plan s l r.location = .ok p) :
    (r.carryOut s l).2 = r.ending l.disk p.destination.steps p ∧
      ∀ q, (r.carryOut s l).1.disk.get? q =
        match r.ending l.disk p.destination.steps p with
        | .ok (.created _) =>
          (l.disk.plant p.destination.steps (.file (.text p.content))).get? q
        | _ => l.disk.get? q := by
  have hholds : FileStore.holds l p.destination = (l.disk.get? p.destination.steps).isSome :=
    LocalFiles.holds_of_isDirect hl.tree hd
  unfold ending
  by_cases hskip : (l.disk.get? p.destination.steps).isSome = true ∧ r.overwrite = false
  · rw [if_pos hskip, carryOut_of_declined hdest (hholds.trans hskip.1) hskip.2]
    exact ⟨rfl, fun q => rfl⟩
  · have hmay : FileStore.holds l p.destination = true → r.overwrite = true := by
      intro hthere
      by_contra hanswer
      exact hskip ⟨hholds.symm.trans hthere, Bool.eq_false_iff.mpr hanswer⟩
    obtain ⟨after, hwrite, hget⟩ := LocalFiles.write_of_isDirect hl hd p.content
    rw [if_neg hskip, carryOut_of_plan hdest hmay hplan,
      show FileStore.write l p.destination p.content = _ from hwrite]
    cases hobstacle : l.disk.obstacle? p.destination.steps with
    | some cause =>
      rw [hobstacle] at hget
      exact ⟨rfl, hget⟩
    | none =>
      rw [hobstacle] at hget
      exact ⟨rfl, hget⟩

/-- A request for a source, with a destination that lies straight down, if it has one. -/
structure IsStraight (s : Settings) (l : LocalFiles) (r : Request) : Prop where
  source : l.IsSourceFile r.location.source
  extension : r.location.source.extension ≠ []
  direct : ∀ d, r.destination s = .ok d → d.IsDirect

/-- Neither request has its destination at or below that of the other. -/
def Apart (s : Settings) (q r : Request) : Prop :=
  ∀ d e, q.destination s = .ok d → r.destination s = .ok e →
    d.startsWith e = false ∧ e.startsWith d = false

theorem Apart.symm (h : Apart s q r) : Apart s r q :=
  fun d e hd he => (h e d he hd).symm

theorem exists_plan (l : LocalFiles) (hdest : r.destination s = .ok d) :
    ∃ p, plan s l r.location = .ok p ∧ p.destination = d := by
  obtain ⟨relative, -, hplan⟩ := Invocation.plan_of_destination l hdest
  exact ⟨_, hplan, rfl⟩

theorem eq_summary_of_ending {disk : Disk} {place : Place} {test : CreatedTest}
    (h : r.ending disk place p = .ok (.created test)) : test = p.summary := by
  unfold ending at h
  split at h
  · cases h
  · split at h
    · cases h
    · exact (Outcome.created.inj (Except.ok.inj h)).symm

/-- A request leaves all as it is, or it creates its test and plants it at its destination. -/
theorem unchanged_or_planted (hl : l.WellFormed)
    (hdirect : ∀ d, r.destination s = .ok d → d.IsDirect) :
    (∀ q, (r.carryOut s l).1.disk.get? q = l.disk.get? q) ∨
      ∃ p : TestPlan, r.destination s = .ok p.destination ∧
        (r.carryOut s l).2 = .ok (.created p.summary) ∧
        ∀ q, (r.carryOut s l).1.disk.get? q =
          (l.disk.plant p.destination.steps (.file (.text p.content))).get? q := by
  cases hdest : r.destination s with
  | error e =>
    rw [carryOut_of_refused hdest]
    exact Or.inl fun q => rfl
  | ok d =>
    obtain ⟨p, hplan, rfl⟩ := exists_plan l hdest
    obtain ⟨hresult, hget⟩ := carryOut_of_isDirect hl hdest (hdirect _ hdest) hplan
    cases hending : r.ending l.disk p.destination.steps p with
    | error e =>
      rw [hending] at hget
      exact Or.inl hget
    | ok outcome =>
      rw [hending] at hget hresult
      cases outcome with
      | skipped d => exact Or.inl hget
      | created test =>
        obtain rfl := eq_summary_of_ending hending
        exact Or.inr ⟨p, rfl, hresult, hget⟩

/-- Of the files a request changes its destination alone, when its test is created. -/
theorem content?_carryOut (hl : l.WellFormed) (hdirect : ∀ d, r.destination s = .ok d → d.IsDirect)
    (place : Place) :
    (r.carryOut s l).1.disk.content? place = l.disk.content? place ∨
      ∃ p : TestPlan, (r.carryOut s l).2 = .ok (.created p.summary) ∧
        r.destination s = .ok p.destination ∧ place = p.destination.steps := by
  rcases unchanged_or_planted hl hdirect with hsame | ⟨p, hdest, hresult, hplanted⟩
  · left
    unfold Disk.content?
    rw [hsame]
  by_cases hplace : place = p.destination.steps
  · exact Or.inr ⟨p, hresult, hdest, hplace⟩
  · -- A directory that has been made on the way holds nothing.
    left
    unfold Disk.content?
    rw [hplanted, Disk.get?_plant (hdirect _ hdest).steps_ne_nil, if_neg hplace]
    by_cases hmade : place <+: p.destination.steps ∧ l.disk.get? place = none
    · rw [if_pos hmade, hmade.2]
    · rw [if_neg hmade]

/-- After a request the way to a destination apart from its own is the same. -/
theorem sameWay_carryOut (hl : l.WellFormed) (hq : ∀ e, q.destination s = .ok e → e.IsDirect)
    (hd : d.isAbsolute = true) (hdest : r.destination s = .ok d) (hapart : Apart s q r) :
    l.disk.SameWay (q.carryOut s l).1.disk d.steps := by
  rcases unchanged_or_planted hl hq with hsame | ⟨p, hother, -, hplanted⟩
  · exact .of_get?_eq hsame _
  · obtain ⟨hbelow, habove⟩ := hapart _ d hother hdest
    have he := (hq _ hother).absolute
    have hnotBelow : ¬ p.destination.steps <+: d.steps := by
      rw [← Path.startsWith_iff_steps hd he, habove]
      exact Bool.false_ne_true
    have hnotAbove : ¬ d.steps <+: p.destination.steps := by
      rw [← Path.startsWith_iff_steps he hd, hbelow]
      exact Bool.false_ne_true
    have hway := Disk.sameWay_plant (d := l.disk) (.file (.text p.content)) hnotBelow hnotAbove
    exact ⟨(hplanted _).trans hway.there, fun q hq => by rw [hplanted]; exact hway.above q hq⟩

/-- A request comes to the same, and leaves the same at its destination, in files to which tests
have been added elsewhere. -/
theorem carryOut_of_sameWay (ha : a.WellFormed) (hl : l.WellFormed) (htested : a.Tested l)
    (hr : r.IsStraight s a)
    (hway : ∀ d, r.destination s = .ok d → a.disk.SameWay l.disk d.steps) :
    (r.carryOut s l).2 = (r.carryOut s a).2 ∧ ∀ d, r.destination s = .ok d →
      (r.carryOut s l).1.disk.get? d.steps = (r.carryOut s a).1.disk.get? d.steps := by
  cases hdest : r.destination s with
  | error e =>
    rw [carryOut_of_refused hdest, carryOut_of_refused hdest]
    exact ⟨rfl, fun d hd => by cases hd⟩
  | ok d =>
    obtain ⟨p, hplan, rfl⟩ := exists_plan a hdest
    have hagain : plan s l r.location = .ok p := (htested.plan_eq s hr.source).trans hplan
    have hd := hr.direct _ hdest
    obtain ⟨hfirst, hget⟩ := carryOut_of_isDirect ha hdest hd hplan
    obtain ⟨hsecond, hget'⟩ := carryOut_of_isDirect hl hdest hd hagain
    have hsame := hway _ hdest
    rw [ending_eq hsame] at hsecond hget'
    refine ⟨hsecond.trans hfirst.symm, ?_⟩
    intro e he
    obtain rfl := Except.ok.inj he
    rw [hget, hget']
    split
    · rw [Disk.get?_plant hd.steps_ne_nil, Disk.get?_plant hd.steps_ne_nil, if_pos rfl, if_pos rfl]
    · exact hsame.there

end Request

end TestScaffold
