import TestScaffold.Proofs.CommandLine.Preview
import TestScaffold.Proofs.Generation.Apart

/-!
A command for a directory against the commands for its sources. When no destination is on the way to
another, each source comes to what it comes to alone, whatever became of the sources before it: the
tests that were written are no sources, and they leave the way to its destination as it was.
-/

namespace TestScaffold

section

variable {s : Settings} {a l : LocalFiles} {r : Request} {requests : List Request} {d : Path}

theorem turns_cons_eq (s : Settings) (l : LocalFiles) (r : Request) (requests : List Request) :
    turns s l (r :: requests) =
      ⟨l, r, (r.carryOut s l).2⟩ :: turns s (r.carryOut s l).1 requests := by
  obtain ⟨result, hresult, -, hturns⟩ := turns_cons s l r requests
  obtain ⟨hstore, hcarried⟩ := generate_eq_carryOut s l r
  obtain rfl := Option.some.inj (hresult.symm.trans hcarried)
  rw [hturns, hstore]

theorem store_generateAll_cons (s : Settings) (l : LocalFiles) (r : Request)
    (requests : List Request) :
    (generateAll s { store := l } (r :: requests)).1.store =
      (generateAll s { store := (r.carryOut s l).1 } requests).1.store := by
  rw [generateAll_cons, (generate_eq_carryOut s l r).1]

theorem wellFormed_carryOut (hl : l.WellFormed) (s : Settings) (r : Request) :
    (r.carryOut s l).1.WellFormed := by
  rw [← (generate_eq_carryOut s l r).1]
  exact wellFormed_generate s hl r

theorem tested_carryOut (s : Settings) (l : LocalFiles)
    (hextension : r.location.source.extension ≠ []) : l.Tested (r.carryOut s l).1 := by
  rw [← (generate_eq_carryOut s l r).1]
  exact tested_generate s l hextension

/-- A batch leaves the way to a destination as it is that lies apart from its own. -/
theorem sameWay_generateAll (hl : l.WellFormed)
    (hdirect : ∀ q ∈ requests, ∀ e, q.destination s = .ok e → e.IsDirect)
    (hd : d.isAbsolute = true) (hdest : r.destination s = .ok d)
    (hapart : ∀ q ∈ requests, Request.Apart s q r) :
    l.disk.SameWay (generateAll s { store := l } requests).1.store.disk d.steps := by
  induction requests generalizing l with
  | nil => exact .of_get?_eq (fun _ => rfl) _
  | cons q requests ih =>
    have hfirst := Request.sameWay_carryOut hl (hdirect q List.mem_cons_self) hd hdest
      (hapart q List.mem_cons_self)
    rw [store_generateAll_cons]
    exact hfirst.trans (ih (wellFormed_carryOut hl s q)
      (fun x hx => hdirect x (List.mem_cons_of_mem q hx))
      fun x hx => hapart x (List.mem_cons_of_mem q hx))

/-- Requests that lie apart come to what they come to with the files `a`, to which tests have been
added since that left the ways to their destinations as they were. -/
theorem turns_of_sameWay (ha : a.WellFormed) (hl : l.WellFormed) (htested : a.Tested l)
    (hstraight : ∀ r ∈ requests, r.IsStraight s a)
    (hway : ∀ r ∈ requests, ∀ d, r.destination s = .ok d → a.disk.SameWay l.disk d.steps)
    (hapart : requests.Pairwise (Request.Apart s)) :
    ∀ t ∈ turns s l requests, t.result = (t.request.carryOut s a).2 ∧
      ∀ d, t.request.destination s = .ok d →
        (generateAll s { store := l } requests).1.store.disk.get? d.steps =
          (t.request.carryOut s a).1.disk.get? d.steps := by
  induction requests generalizing l with
  | nil => exact fun t ht => absurd ht List.not_mem_nil
  | cons r requests ih =>
    obtain ⟨hfirst, hothers⟩ := List.pairwise_cons.mp hapart
    have hr := hstraight r List.mem_cons_self
    have hrest := fun x hx => hstraight x (List.mem_cons_of_mem r hx)
    obtain ⟨hresult, hthere⟩ :=
      Request.carryOut_of_sameWay ha hl htested hr (hway r List.mem_cons_self)
    have hwell := wellFormed_carryOut hl s r
    rw [turns_cons_eq, store_generateAll_cons]
    intro t ht
    rcases List.mem_cons.mp ht with rfl | hlater
    · refine ⟨hresult, ?_⟩
      intro d hd
      -- The requests after this one leave its destination as it is.
      have hkept := sameWay_generateAll hwell (fun q hq => (hrest q hq).direct)
        (hr.direct d hd).absolute hd fun q hq => (hfirst q hq).symm
      exact hkept.there.trans (hthere d hd)
    · apply ih hwell (htested.trans (tested_carryOut s l hr.extension)) hrest ?_ hothers t hlater
      intro q hq d hd
      have hbefore := hway q (List.mem_cons_of_mem r hq) d hd
      exact hbefore.trans (Request.sameWay_carryOut hl hr.direct ((hrest q hq).direct d hd).absolute
        hd (hfirst q hq))

/-- In a batch of requests that lie apart each comes to what it comes to alone, and leaves at its
destination what it leaves there alone. -/
theorem turns_of_apart (hl : l.WellFormed) (hstraight : ∀ r ∈ requests, r.IsStraight s l)
    (hapart : requests.Pairwise (Request.Apart s)) :
    ∀ t ∈ turns s l requests, t.result = (t.request.carryOut s l).2 ∧
      ∀ d, t.request.destination s = .ok d →
        (generateAll s { store := l } requests).1.store.disk.get? d.steps =
          (t.request.carryOut s l).1.disk.get? d.steps :=
  turns_of_sameWay hl hl .refl hstraight (fun _ _ d _ => .of_get?_eq (fun _ => rfl) d.steps) hapart

theorem content_of_apart (hl : l.WellFormed) (hstraight : ∀ r ∈ requests, r.IsStraight s l)
    (hapart : requests.Pairwise (Request.Apart s)) {t : Turn} (ht : t ∈ turns s l requests)
    (hdest : t.request.destination s = .ok d) :
    ((generateAll s { store := l } requests).1.store.content d).toOption =
      ((t.request.carryOut s l).1.content d).toOption := by
  have hrequest : t.request ∈ requests := by
    rw [← request_turns s l requests]
    exact List.mem_map_of_mem ht
  have hd := (hstraight t.request hrequest).direct d hdest
  rw [LocalFiles.content_of_isDirect (wellFormed_generateAll s hl _).tree hd,
    LocalFiles.content_of_isDirect (wellFormed_carryOut hl _ _).tree hd,
    Disk.content?_eq_bind, Disk.content?_eq_bind, (turns_of_apart hl hstraight hapart t ht).2 d hdest]

/-- A batch changes the files at the destinations of the tests that it creates, and no others. -/
theorem content?_generateAll (hl : l.WellFormed)
    (hdirect : ∀ q ∈ requests, ∀ e, q.destination s = .ok e → e.IsDirect) {place : Place}
    (hchanged : (generateAll s { store := l } requests).1.store.disk.content? place ≠
      l.disk.content? place) :
    ∃ t ∈ turns s l requests, ∃ p : TestPlan, t.result = .ok (.created p.summary) ∧
      t.request.destination s = .ok p.destination ∧ place = p.destination.steps := by
  induction requests generalizing l with
  | nil => exact absurd rfl hchanged
  | cons r requests ih =>
    rw [store_generateAll_cons] at hchanged
    rw [turns_cons_eq]
    rcases Request.content?_carryOut hl (hdirect r List.mem_cons_self) place with hsame | hcreated
    · rw [← hsame] at hchanged
      obtain ⟨t, ht, hp⟩ := ih (wellFormed_carryOut hl s r)
        (fun x hx => hdirect x (List.mem_cons_of_mem r hx)) hchanged
      exact ⟨t, List.mem_cons_of_mem _ ht, hp⟩
    · exact ⟨_, List.mem_cons_self, hcreated⟩

/-- What a batch has changed is found under the destination of a test that it has created. -/
theorem find_of_changed (hl : l.WellFormed) (hstraight : ∀ r ∈ requests, r.IsStraight s l)
    (hapart : requests.Pairwise (Request.Apart s)) {place : Place}
    (hchanged : (generateAll s { store := l } requests).1.store.disk.content? place ≠
      l.disk.content? place) :
    ∃ t ∈ turns s l requests, ∃ test content, t.result = .ok (.created test) ∧
      (generateAll s { store := l } requests).1.store.find test.destination =
        .ok (place, .file content) := by
  have hdirect := fun r hr => (hstraight r hr).direct
  obtain ⟨t, ht, p, hresult, hdest, rfl⟩ := content?_generateAll hl hdirect hchanged
  have hrequest : t.request ∈ requests := by
    rw [← request_turns s l requests]
    exact List.mem_map_of_mem ht
  have hd := hdirect t.request hrequest p.destination hdest
  have hthere := (turns_of_apart hl hstraight hapart t ht).2 p.destination hdest
  rcases Request.unchanged_or_planted hl (hdirect t.request hrequest) with
    hsame | ⟨p', hdest', -, hplanted⟩
  · rw [Disk.content?_eq_bind, Disk.content?_eq_bind, hthere, hsame] at hchanged
    exact absurd rfl hchanged
  · have hpath : p'.destination = p.destination := Except.ok.inj (hdest'.symm.trans hdest)
    rw [hplanted, hpath, Disk.get?_plant hd.steps_ne_nil, if_pos rfl] at hthere
    refine ⟨t, ht, p.summary, .text p'.content, hresult, ?_⟩
    exact (LocalFiles.find_eq_ok_iff_of_isDirect (wellFormed_generateAll s hl _).tree hd).mpr
      ⟨rfl, hthere⟩

end

/-- Every source has its turn, in their order. -/
theorem Selection.source_turns (x : Selection) (l : LocalFiles) (overwrite : Bool) :
    (turns x.settings l (x.requests overwrite)).map (·.request.location.source) = x.sources := by
  have hmapped := congrArg (List.map fun r : Request => r.location.source)
    (request_turns x.settings l (x.requests overwrite))
  rw [List.map_map] at hmapped
  refine hmapped.trans ?_
  unfold requests
  rw [List.map_map]
  exact List.map_id _

theorem Selection.request_cases {x : Selection} {overwrite : Bool} {r : Request}
    (h : r ∈ x.requests overwrite) :
    r.location.source ∈ x.sources ∧ r = ⟨⟨x.root, r.location.source⟩, overwrite⟩ := by
  obtain ⟨source, hsource, rfl⟩ := List.mem_map.mp h
  exact ⟨hsource, rfl⟩

namespace LocalFiles

variable {l : LocalFiles} {env : Environment} {o : TestOptions} {x : Selection} {source : Path}

theorem IsSourceFile.isDirectory_eq (h : l.IsSourceFile source) : l.isDirectory source = false := by
  obtain ⟨place, content, hpoints, hfile, -⟩ := h
  have hfind := hpoints.find
  rw [hfile] at hfind
  unfold isDirectory
  rw [hfind]

theorem tidy_currentDirectory (hl : l.WellFormed) (hnamed : l.disk.Named) :
    l.currentDirectory.Tidy 1 l.cwd := by
  have hnames := hnamed.isName_of_get? (hl.cwd ▸ Option.some_ne_none _)
  refine ⟨Or.inl rfl, fun x hx => (hnames x hx).1.isNullSegment_eq, ?_⟩
  have hsegments : l.currentDirectory.segments = [] :: Text.fields (Text.join ['/'] l.cwd) '/' :=
    Text.fields_slash_cons _
  by_cases hroot : l.cwd = []
  · left
    rw [hsegments, hroot]
    rfl
  · right
    rw [hsegments, Text.fields_join hroot fun x hx => (hnames x hx).2]
    exact ⟨rfl, hroot⟩

section Directory

variable (hl : l.WellFormed) (hnamed : l.disk.Named) (hselect : l.select env o = .ok x)
  (hdirectory : l.isDirectory (Path.absolute l.currentDirectory o.path) = true)
include hl hnamed hselect hdirectory

/-- What is selected in a directory are sources, in their order and written as absolute paths. -/
theorem sources_of_directory :
    x.sources.Pairwise (fun p q => (Path.order p q).isLE = true) ∧
      ∀ source ∈ x.sources, isSource x.settings x.root source = true ∧ l.IsSourceFile source ∧
        Path.absolute l.currentDirectory source = source := by
  obtain ⟨-, -, hcollect⟩ := select_eq_ok_iff.mp hselect
  rw [if_pos hdirectory] at hcollect
  obtain ⟨slashes, steps, htidy⟩ := Path.exists_tidy_absolute (tidy_currentDirectory hl hnamed) o.path
  refine ⟨pairwise_collectSources hcollect, ?_⟩
  intro source hsource
  obtain ⟨hkept, hfile⟩ := isSource_of_mem_collectSources hl hnamed hcollect hsource
  exact ⟨hkept, hfile, absolute_of_mem_collectSources hl hnamed htidy hcollect hsource _⟩

/-- A command for one of the sources selects this source, with the same root and settings. -/
theorem select_alone {o' : TestOptions} (hsource : source ∈ x.sources)
    (hpath : Path.absolute l.currentDirectory o'.path = source)
    (hroot : o'.root = o.root ∧ o.root ≠ none ∨ l.rootOf env o'.root source = .ok x.root) :
    l.select env o' = .ok { x with sources := [source] } := by
  obtain ⟨hfound, hsettings, -⟩ := select_eq_ok_iff.mp hselect
  have hfile := ((sources_of_directory hl hnamed hselect hdirectory).2 source hsource).2.1
  apply select_eq_ok_iff.mpr
  rw [hpath]
  refine ⟨?_, hsettings, ?_⟩
  · rcases hroot with ⟨hsame, hgiven⟩ | hroot
    · -- A root that is given does not depend on the path.
      obtain ⟨given, hgiven⟩ := Option.ne_none_iff_exists'.mp hgiven
      rw [hgiven] at hfound hsame
      rw [hsame]
      exact hfound
    · exact hroot
  · rw [hfile.isDirectory_eq, if_neg Bool.false_ne_true]

/-- The requests for the sources in a directory are straight when their destinations are. -/
theorem isStraight_of_directory (hextensions : [] ∉ x.settings.scan.sourceExtensions)
    (hroot : .parent ∉ x.root.components)
    (htests : .parent ∉ (Path.mk x.settings.paths.testsDir).components) {overwrite : Bool}
    {r : Request} (hr : r ∈ x.requests overwrite) : r.IsStraight x.settings l := by
  obtain ⟨source, hsource, rfl⟩ := List.mem_map.mp hr
  obtain ⟨hkept, hfile, -⟩ := (sources_of_directory hl hnamed hselect hdirectory).2 source hsource
  refine ⟨hfile, extension_ne_nil_of_isSource hextensions hkept, ?_⟩
  intro d hd
  exact Location.isDirect_of_testPath (l := ⟨x.root, source⟩) (isAbsolute_root_of_select hselect)
    hroot htests (Request.testPath_of_destination hd)

/-- A command for one of the sources carries out the request for this source. -/
theorem run_alone {overwrite : Bool} {r : Request} (hr : r ∈ x.requests overwrite)
    {arguments : List Text} {o' : TestOptions}
    (hread : Command.read arguments = .ok (.createTests o'))
    (hpath : Path.absolute l.currentDirectory o'.path = r.location.source)
    (hroot : o'.root = o.root ∧ o.root ≠ none ∨
      l.rootOf env o'.root r.location.source = .ok x.root)
    (hforce : o'.flags.contains .force = overwrite) (hdry : .dryRun ∉ o'.flags) :
    let one := { x with sources := [r.location.source] }
    let batch := turns x.settings l (one.requests (o'.flags.contains .force))
    l.select env o' = .ok one ∧ batch = [⟨l, r, (r.carryOut x.settings l).2⟩] ∧
      (l.run env arguments).files = (r.carryOut x.settings l).1 ∧
      (l.run env arguments).code = if batch.any Turn.failed then 1 else 0 := by
  intro one batch
  obtain ⟨hsource, hrequest⟩ := Selection.request_cases hr
  have hselect' : l.select env o' = .ok one :=
    select_alone hl hnamed hselect hdirectory hsource hpath hroot
  have hone : one.requests (o'.flags.contains .force) = [r] := by
    rw [hforce, hrequest]
    rfl
  have hbatch : batch = [⟨l, r, (r.carryOut x.settings l).2⟩] := by
    change turns x.settings l (one.requests (o'.flags.contains .force)) = _
    rw [hone, turns_cons_eq]
    rfl
  refine ⟨hselect', hbatch, ?_, ?_⟩
  · rw [run_of_read hread, files_createTests, hselect']
    dsimp only
    rw [if_neg hdry, hone, store_generateAll_cons]
    rfl
  · rw [run_of_read hread]
    exact code_createTests hselect' hdry

end Directory

end LocalFiles

theorem Selection.apart_requests {x : Selection} {s : Settings} (overwrite : Bool)
    (h : x.sources.Pairwise fun a b => ∀ d e, Location.testPath ⟨x.root, a⟩ s.paths = .ok d →
      Location.testPath ⟨x.root, b⟩ s.paths = .ok e →
        d.startsWith e = false ∧ e.startsWith d = false) :
    (x.requests overwrite).Pairwise (Request.Apart s) := by
  unfold requests
  rw [List.pairwise_map]
  refine h.imp ?_
  intro a b hab d e hd he
  exact hab d e (Request.testPath_of_destination hd) (Request.testPath_of_destination he)

/-- A command for a directory is the sum of the commands for its sources, when no destination is on
the way to another and all of them lie straight down. Each source, in the order of their paths, comes
to what it comes to in a command for it alone with the same root, and under its destination there is
the same afterwards. The command fails when one of the sources does, it prints what became of the
others, and it changes no file but those that it creates. -/
theorem run_batch (l : LocalFiles) (env : Environment) (arguments : List Text) (o : TestOptions)
    (x : Selection) (hl : l.WellFormed) (hnamed : l.disk.Named)
    (hread : Command.read arguments = .ok (.createTests o)) (hselect : l.select env o = .ok x)
    (hdirectory : l.isDirectory (Path.absolute l.currentDirectory o.path) = true)
    (hdry : .dryRun ∉ o.flags) (hextensions : [] ∉ x.settings.scan.sourceExtensions)
    (hroot : .parent ∉ x.root.components)
    (htests : .parent ∉ (Path.mk x.settings.paths.testsDir).components)
    (hapart : x.sources.Pairwise fun a b => ∀ d e,
      Location.testPath ⟨x.root, a⟩ x.settings.paths = .ok d →
      Location.testPath ⟨x.root, b⟩ x.settings.paths = .ok e →
        d.startsWith e = false ∧ e.startsWith d = false) :
    let batch := turns x.settings l (x.requests (o.flags.contains .force))
    let finished := l.run env arguments
    batch.map (·.request.location.source) = x.sources ∧
      x.sources.Pairwise (fun a b => (Path.order a b).isLE = true) ∧
      (∀ t ∈ batch,
        let source := t.request.location.source
        Path.absolute l.currentDirectory source = source ∧
        ∀ arguments' o', Command.read arguments' = .ok (.createTests o') →
          Path.absolute l.currentDirectory o'.path = source →
          (o'.root = o.root ∧ o.root ≠ none ∨ l.rootOf env o'.root source = .ok x.root) →
          (.force ∈ o'.flags ↔ .force ∈ o.flags) → .dryRun ∉ o'.flags →
            let one := { x with sources := [source] }
            let alone := l.run env arguments'
            l.select env o' = .ok one ∧
              (turns x.settings l (one.requests (o'.flags.contains .force))).map Turn.result =
                [t.result] ∧
              alone.code = (if t.failed then 1 else 0) ∧
              ∀ d, Location.testPath ⟨x.root, source⟩ x.settings.paths = .ok d →
                (finished.files.content d).toOption = (alone.files.content d).toOption) ∧
      finished.code = (if batch.any Turn.failed then 1 else 0) ∧
      (.json ∈ o.flags → x.sources ≠ [] → finished.output =
        line (Json.pretty 0 (.list ((batch.filterMap (·.result.toOption)).map Outcome.json)))) ∧
      (x.sources = [] → finished.output =
        line ("No component files found under ".toList ++ o.path.text)) ∧
      ∀ place, finished.files.disk.content? place ≠ l.disk.content? place →
        ∃ t ∈ batch, ∃ test content, t.result = .ok (.created test) ∧
          finished.files.find test.destination = .ok (place, .file content) := by
  intro batch finished
  let force := o.flags.contains .force
  let after := (generateAll x.settings { store := l } (x.requests force)).1.store
  obtain ⟨hsorted, hsources⟩ := LocalFiles.sources_of_directory hl hnamed hselect hdirectory
  have hstraight : ∀ r ∈ x.requests force, r.IsStraight x.settings l := fun r hr =>
    LocalFiles.isStraight_of_directory hl hnamed hselect hdirectory hextensions hroot htests hr
  have hrequestsApart := Selection.apart_requests force hapart
  have hrequests : batch.map Turn.request = x.requests force :=
    request_turns x.settings l (x.requests force)
  have hfinished : finished = l.createTests env o := LocalFiles.run_of_read hread
  have hfiles : finished.files = after := by
    rw [hfinished, LocalFiles.files_createTests, hselect]
    exact if_neg hdry
  refine ⟨x.source_turns l force, hsorted, ?_, ?_, ?_, ?_, ?_⟩
  · intro t ht source
    have hmem : t.request ∈ x.requests force := hrequests ▸ List.mem_map_of_mem ht
    obtain ⟨hsource, hrequest⟩ := Selection.request_cases hmem
    have hresult := (turns_of_apart hl hstraight hrequestsApart t ht).1
    refine ⟨(hsources source hsource).2.2, ?_⟩
    intro arguments' o' hread' hpath hroot' hforce hdry' one alone
    have hflag : o'.flags.contains .force = force := by
      rw [Bool.eq_iff_iff, List.contains_iff_mem, List.contains_iff_mem]
      exact hforce
    obtain ⟨hselect', hturns, hleft, hcode⟩ := LocalFiles.run_alone hl hnamed hselect hdirectory
      hmem hread' hpath hroot' hflag hdry'
    rw [hturns, ← hresult] at hcode
    refine ⟨hselect', ?_, ?_, ?_⟩
    · rw [hturns, ← hresult]
      rfl
    · rw [hcode, List.any_cons, List.any_nil, Bool.or_false]
      rfl
    · intro d hd
      have hdest : t.request.destination x.settings = .ok d := by
        rw [hrequest, Request.destination_eq_ok_iff]
        · exact hd
        · exact LocalFiles.isAbsolute_root_of_select hselect
      rw [hfiles, hleft]
      exact content_of_apart hl hstraight hrequestsApart ht hdest
  · rw [hfinished]
    exact LocalFiles.code_createTests hselect hdry
  · intro hjson hne
    rw [hfinished, LocalFiles.createTests_of_select hselect hne hdry]
    exact LocalFiles.output_createSelected_of_json l x hjson
  · intro hnone
    rw [hfinished, LocalFiles.createTests_of_nothing hselect hnone]
  · intro place hchanged
    rw [hfiles] at hchanged ⊢
    exact find_of_changed hl hstraight hrequestsApart hchanged

/-- A workspace with a test that exists already, and with a file in the place of a directory that
another test needs. -/
def mixedTests : LocalFiles where
  disk := ⟨[
    (["p".toList], .directory),
    (["p".toList, "src".toList], .directory),
    (["p".toList, "src".toList, "A.tsx".toList],
      .file (.text "export default function A() \x7b\x7d\n".toList)),
    (["p".toList, "src".toList, "B.tsx".toList],
      .file (.text "export default function B() \x7b\x7d\n".toList)),
    (["p".toList, "src".toList, "c".toList], .directory),
    (["p".toList, "src".toList, "c".toList, "C.tsx".toList],
      .file (.text "export default function C() \x7b\x7d\n".toList)),
    (["p".toList, "tests".toList], .directory),
    (["p".toList, "tests".toList, "B.test.tsx".toList], .file (.text "b".toList)),
    (["p".toList, "tests".toList, "c".toList], .file (.text "c".toList))]⟩

def mixedSelection : Selection where
  root := ⟨"/p".toList⟩
  settings := {}
  sources := [⟨"/p/src/A.tsx".toList⟩, ⟨"/p/src/B.tsx".toList⟩, ⟨"/p/src/c/C.tsx".toList⟩]

theorem select_mixedTests : mixedTests.select plainly srcOptions = .ok mixedSelection := by
  have hpath : Path.absolute mixedTests.currentDirectory ⟨"/p/src".toList⟩ =
      ⟨"/p/src".toList⟩ := by
    decide +kernel
  have hroot : Path.absolute mixedTests.currentDirectory ⟨"/p".toList⟩ = ⟨"/p".toList⟩ := by
    decide +kernel
  have hfind : mixedTests.find ⟨"/p/src".toList⟩ =
      .ok (["p".toList, "src".toList], .directory) := by
    decide +kernel
  have hsorted : mixedSelection.sources.Pairwise fun a b => (Path.order a b).isLE = true := by
    decide +kernel
  exact LocalFiles.select_of_directory rfl hpath hroot (by decide +kernel) hfind
    (by decide +kernel) hsorted

def createOne : List Text :=
  ["create-test-file".toList, "/p/src/A.tsx".toList, "--root".toList, "/p".toList]

def oneOptions : TestOptions where
  path := ⟨"/p/src/A.tsx".toList⟩
  root := some ⟨"/p".toList⟩

/-- One test is created, one is skipped and one fails. The one that is created is what it is when it
is asked for alone. -/
theorem run_batch_mixedTests :
    mixedTests.WellFormed ∧ mixedTests.disk.Named ∧
      Command.read createInSrc = .ok (.createTests srcOptions) ∧
      Command.read createOne = .ok (.createTests oneOptions) ∧
      let finished := mixedTests.run plainly createInSrc
      let alone := mixedTests.run plainly createOne
      finished.code = 1 ∧ alone.code = 0 ∧
        (finished.files.content ⟨"/p/tests/A.test.tsx".toList⟩).toOption =
          (alone.files.content ⟨"/p/tests/A.test.tsx".toList⟩).toOption := by
  have hread : Command.read createInSrc = .ok (.createTests srcOptions) := by decide +kernel
  have hreadOne : Command.read createOne = .ok (.createTests oneOptions) := by decide +kernel
  have hwell : mixedTests.WellFormed := ⟨Disk.isTree_of_entries (by decide) (by decide), rfl⟩
  have hnamed : mixedTests.disk.Named := by decide +kernel
  have hapart : mixedSelection.sources.Pairwise fun a b => ∀ d e,
      Location.testPath ⟨⟨"/p".toList⟩, a⟩ {} = .ok d →
      Location.testPath ⟨⟨"/p".toList⟩, b⟩ {} = .ok e →
        d.startsWith e = false ∧ e.startsWith d = false := by
    have hpairs : mixedSelection.sources.Pairwise fun a b =>
        ∀ d ∈ (Location.testPath ⟨⟨"/p".toList⟩, a⟩ {}).toOption,
        ∀ e ∈ (Location.testPath ⟨⟨"/p".toList⟩, b⟩ {}).toOption,
          d.startsWith e = false ∧ e.startsWith d = false := by
      decide +kernel
    refine hpairs.imp ?_
    intro a b h d e hd he
    exact h d (by rw [hd]; rfl) e (by rw [he]; rfl)
  obtain ⟨hrequests, -, hturns, hcode, -⟩ := run_batch mixedTests plainly createInSrc srcOptions
    mixedSelection hwell hnamed hread select_mixedTests (by decide +kernel) (by decide) (by decide)
    (by decide +kernel) (by decide +kernel) hapart
  have hfirst : (⟨"/p/src/A.tsx".toList⟩, false) ∈
      (turns mixedSelection.settings mixedTests (mixedSelection.requests false)).map
        fun t => (t.request.location.source, t.failed) := by
    decide +kernel
  obtain ⟨t, ht, hsame⟩ := List.mem_map.mp hfirst
  obtain ⟨hsource, hdone⟩ := Prod.mk.inj hsame
  have hone := (hturns t ht).2 createOne oneOptions hreadOne (by rw [hsource]; decide +kernel)
    (Or.inl ⟨rfl, by decide⟩) Iff.rfl (by decide)
  refine ⟨hwell, hnamed, hread, hreadOne, ?_, ?_, ?_⟩
  · rw [hcode]
    decide +kernel
  · rw [hone.2.2.1, hdone]
    rfl
  · apply hone.2.2.2
    rw [hsource]
    decide +kernel

end TestScaffold
