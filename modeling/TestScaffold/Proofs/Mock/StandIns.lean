import TestScaffold.Mock
import TestScaffold.Proofs.Skeleton.Rescan

/-!
What stands for a key in a mock. Fields come from the default name, from the names taken one by one
and from the name of the whole module, and two of them can have one key. Looking a key up gives its
first field, while in the object literal that is printed the last one counts. The two agree just
when all fields of the key are equal, and that fails for two kinds of imports only.
-/

namespace TestScaffold

/-- Whether an import gives a key two different stand-ins: the default export is taken under a
capitalized name and once more by its own name, or the whole module has the name of something else
that is taken from it. -/
def Bindings.Clashes (b : Bindings) (key : Text) : Prop :=
  (key = "default".toList ∧ key ∈ b.names ∧
    ∃ name, b.defaultName = some name ∧ name.head?.any isUppercase = true) ∨
  (b.wholeName = some key ∧ (key ∈ b.names ∨ key = "default".toList ∧ b.defaultName ≠ none))

section Fields

variable {α : Type} {front back fields : List α}

/-- Two parts without a common element: the first element of the one is not the last of the
other. -/
theorem head?_ne_getLast?_append (hfront : front ≠ []) (hback : back ≠ [])
    (hapart : ∀ f ∈ front, f ∉ back) : (front ++ back).head? ≠ (front ++ back).getLast? := by
  obtain ⟨first, rest, rfl⟩ := List.exists_cons_of_ne_nil hfront
  intro hsame
  rw [List.getLast?_append_of_ne_nil _ hback, List.cons_append, List.head?_cons] at hsame
  exact hapart first List.mem_cons_self (List.mem_of_mem_getLast? hsame.symm)

theorem head?_eq_getLast?_of_forall (h : ∀ f ∈ fields, ∀ g ∈ fields, f = g) :
    fields.head? = fields.getLast? := by
  cases hhead : fields.head? with
  | none =>
    rw [List.head?_eq_none_iff.mp hhead]
    rfl
  | some first =>
    cases hlast : fields.getLast? with
    | none =>
      rw [List.getLast?_eq_none_iff.mp hlast] at hhead
      cases hhead
    | some last =>
      rw [h first (List.mem_of_mem_head? hhead) last (List.mem_of_mem_getLast? hlast)]

end Fields

namespace MockField

theorem key_ofBinding (key name : Text) : (ofBinding key name).key = key := by
  unfold ofBinding
  split <;> rfl

theorem ofBinding_ne_emptyObject (key name other : Text) :
    ofBinding key name ≠ emptyObject other := by
  unfold ofBinding
  split <;> exact MockField.noConfusion

/-- The default export that is taken by its own name is not seen as a component. -/
theorem ofBinding_default :
    ofBinding "default".toList "default".toList = noOp "default".toList := by
  decide +kernel

theorem ofBinding_of_capital (key : Text) {name : Text}
    (h : name.head?.any isUppercase = true) : ofBinding key name = placeholder key name.toLower :=
  if_pos h

theorem ofBinding_of_small (key : Text) {name : Text}
    (h : ¬ name.head?.any isUppercase = true) : ofBinding key name = noOp key :=
  if_neg h

end MockField

namespace Mock

def fieldsOfKey (m : Mock) (key : Text) : List MockField :=
  m.fields.filter (·.key == key)

/-- What a key stands for in the object literal, where each field takes the place of those of its
key before it. -/
def property? (m : Mock) (key : Text) : Option MockField :=
  m.fields.foldl (fun value f => if f.key = key then some f else value) none

theorem field?_eq_head? (m : Mock) (key : Text) : m.field? key = (m.fieldsOfKey key).head? :=
  List.head?_filter.symm

theorem property?_eq_getLast? (m : Mock) (key : Text) :
    m.property? key = (m.fieldsOfKey key).getLast? := by
  -- What stands for the key before the fields stays when none of them has it.
  have hfold (fields : List MockField) (value : Option MockField) :
      fields.foldl (fun value f => if f.key = key then some f else value) value =
        (fields.filter (·.key == key)).getLast?.or value := by
    induction fields generalizing value with
    | nil => rfl
    | cons f fields ih =>
      rw [List.foldl_cons, ih]
      by_cases hkey : f.key = key
      · rw [if_pos hkey, List.filter_cons_of_pos (by simpa using hkey), List.getLast?_cons,
          Option.some_or]
        cases (fields.filter (·.key == key)).getLast? <;> rfl
      · rw [if_neg hkey, List.filter_cons_of_neg (by simpa using hkey)]
  unfold property? fieldsOfKey
  rw [hfold, Option.or_none]

/-- The fields that the bindings of an import have for a key: at most one for the default name, one
each time the key is among the names, and one for the whole module. -/
theorem filter_fieldsOf (b : Bindings) (key : Text) :
    (fieldsOf b).filter (·.key == key) =
      (if key = "default".toList then (b.defaultName.map (MockField.ofBinding key)).toList
        else []) ++
        (List.replicate (b.names.count key) (MockField.ofBinding key key) ++
          if b.wholeName = some key then [.emptyObject key] else []) := by
  have hdefault (slot : Text) :
      ((b.defaultName.map (MockField.ofBinding slot)).toList).filter (·.key == key) =
        if key = slot then (b.defaultName.map (MockField.ofBinding key)).toList else [] := by
    cases b.defaultName with
    | none => simp
    | some name =>
      by_cases hkey : key = slot
      · simp [hkey, MockField.key_ofBinding]
      · simp [hkey, Ne.symm hkey, MockField.key_ofBinding]
  have hnames : (b.names.map fun name => MockField.ofBinding name name).filter (·.key == key) =
      List.replicate (b.names.count key) (MockField.ofBinding key key) := by
    have hkeys : ((·.key == key) ∘ fun name : Text => MockField.ofBinding name name) =
        fun name => name == key := by
      funext name
      exact congrArg (· == key) (MockField.key_ofBinding name name)
    rw [List.filter_map, hkeys, List.filter_beq, List.map_replicate]
  have hwhole : ((b.wholeName.map MockField.emptyObject).toList).filter (·.key == key) =
      if b.wholeName = some key then [.emptyObject key] else [] := by
    cases b.wholeName with
    | none => simp
    | some name =>
      by_cases hkey : name = key
      · simp [hkey, MockField.key]
      · simp [hkey, MockField.key]
  unfold fieldsOf
  rw [List.filter_append, List.filter_append, hdefault, hnames, hwhole, List.append_assoc]

theorem mem_filter_fieldsOf_iff {b : Bindings} {key : Text} {f : MockField} :
    f ∈ (fieldsOf b).filter (·.key == key) ↔
      (key = "default".toList ∧ ∃ name, b.defaultName = some name ∧ f = .ofBinding key name) ∨
      (key ∈ b.names ∧ f = .ofBinding key key) ∨
      (b.wholeName = some key ∧ f = .emptyObject key) := by
  have hdefault : f ∈ (if key = "default".toList then
      (b.defaultName.map (MockField.ofBinding key)).toList else []) ↔
        key = "default".toList ∧ ∃ name, b.defaultName = some name ∧ f = .ofBinding key name := by
    split
    · rename_i hkey
      simp only [Option.mem_toList, Option.map_eq_some_iff, hkey, true_and]
      exact exists_congr fun name => and_congr_right fun _ => eq_comm
    · rename_i hkey
      exact iff_of_false List.not_mem_nil fun h => hkey h.1
  have hwhole : f ∈ (if b.wholeName = some key then [MockField.emptyObject key] else []) ↔
      b.wholeName = some key ∧ f = .emptyObject key := by
    split
    · rename_i hname
      rw [List.mem_singleton]
      exact (and_iff_right hname).symm
    · rename_i hname
      exact iff_of_false List.not_mem_nil fun h => hname h.1
  rw [filter_fieldsOf, List.mem_append, List.mem_append, List.mem_replicate, hdefault, hwhole,
    ← Nat.pos_iff_ne_zero, List.count_pos_iff]

section Clashes

variable {b : Bindings} {key : Text}

/-- Where nothing clashes, all fields of a key are equal. -/
theorem eq_of_not_clashes (h : ¬ b.Clashes key) {f g : MockField}
    (hf : f ∈ (fieldsOf b).filter (·.key == key)) (hg : g ∈ (fieldsOf b).filter (·.key == key)) :
    f = g := by
  by_cases hwhole : b.wholeName = some key
  · -- Nothing else has the name of the whole module.
    have hvalue (f : MockField) (hf : f ∈ (fieldsOf b).filter (·.key == key)) :
        f = .emptyObject key := by
      rcases mem_filter_fieldsOf_iff.mp hf with ⟨hkey, name, hname, -⟩ | ⟨hmem, -⟩ | ⟨-, hvalue⟩
      · have hnamed : b.defaultName ≠ none := hname ▸ Option.some_ne_none name
        exact absurd (Or.inr ⟨hwhole, Or.inr ⟨hkey, hnamed⟩⟩) h
      · exact absurd (Or.inr ⟨hwhole, Or.inl hmem⟩) h
      · exact hvalue
    rw [hvalue f hf, hvalue g hg]
  by_cases hmem : key ∈ b.names
  · -- The default name is not capitalized, so what stands for it is what its own name gives.
    have hvalue (f : MockField) (hf : f ∈ (fieldsOf b).filter (·.key == key)) :
        f = .ofBinding key key := by
      rcases mem_filter_fieldsOf_iff.mp hf with
        ⟨hkey, name, hname, hvalue⟩ | ⟨-, hvalue⟩ | ⟨hnamed, -⟩
      · have hsmall : ¬ name.head?.any isUppercase = true := fun hcapital =>
          h (Or.inl ⟨hkey, hmem, name, hname, hcapital⟩)
        rw [hvalue, MockField.ofBinding_of_small key hsmall, hkey, MockField.ofBinding_default]
      · exact hvalue
      · exact absurd hnamed hwhole
    rw [hvalue f hf, hvalue g hg]
  · have hvalue (f : MockField) (hf : f ∈ (fieldsOf b).filter (·.key == key)) :
        ∃ name, b.defaultName = some name ∧ f = .ofBinding key name := by
      rcases mem_filter_fieldsOf_iff.mp hf with ⟨-, hvalue⟩ | ⟨hnamed, -⟩ | ⟨hnamed, -⟩
      · exact hvalue
      · exact absurd hnamed hmem
      · exact absurd hnamed hwhole
    obtain ⟨name, hname, rfl⟩ := hvalue f hf
    obtain ⟨name', hname', rfl⟩ := hvalue g hg
    rw [Option.some.inj (hname.symm.trans hname')]

/-- Where something clashes, the first field of the key is not the last one. -/
theorem head?_ne_getLast?_of_clashes (h : b.Clashes key) :
    ((fieldsOf b).filter (·.key == key)).head? ≠ ((fieldsOf b).filter (·.key == key)).getLast? := by
  rw [filter_fieldsOf]
  rcases h with ⟨hkey, hmem, name, hname, hcapital⟩ | ⟨hwhole, htaken⟩
  · -- The component comes first, and no other field of the key is one.
    have hcount : b.names.count key ≠ 0 := (List.count_pos_iff.mpr hmem).ne'
    rw [if_pos hkey, hname]
    apply head?_ne_getLast?_append
    · exact List.cons_ne_nil _ _
    · exact List.append_ne_nil_of_left_ne_nil (mt (List.replicate_eq_nil_iff _).mp hcount) _
    · intro f hf hback
      obtain rfl : f = .ofBinding key name := List.mem_singleton.mp hf
      rcases List.mem_append.mp hback with hsame | hsame
      · have hvalue := (List.mem_replicate.mp hsame).2
        rw [MockField.ofBinding_of_capital key hcapital, hkey,
          MockField.ofBinding_default] at hvalue
        cases hvalue
      · split at hsame
        · exact MockField.ofBinding_ne_emptyObject _ _ _ (List.mem_singleton.mp hsame)
        · cases hsame
  · -- The whole module comes last, and no other field is an empty object.
    rw [if_pos hwhole, ← List.append_assoc]
    apply head?_ne_getLast?_append
    · rcases htaken with hmem | ⟨hkey, hnamed⟩
      · have hcount : b.names.count key ≠ 0 := (List.count_pos_iff.mpr hmem).ne'
        exact List.append_ne_nil_of_right_ne_nil _ (mt (List.replicate_eq_nil_iff _).mp hcount)
      · obtain ⟨name, hname⟩ := Option.ne_none_iff_exists'.mp hnamed
        rw [if_pos hkey, hname]
        exact List.cons_ne_nil _ _
    · exact List.cons_ne_nil _ _
    · intro f hf hlast
      rw [List.mem_singleton.mp hlast] at hf
      rcases List.mem_append.mp hf with hdefault | hname
      · split at hdefault
        · obtain ⟨name, -, hsame⟩ := Option.map_eq_some_iff.mp (Option.mem_toList.mp hdefault)
          exact MockField.ofBinding_ne_emptyObject _ _ _ hsame
        · cases hdefault
      · exact MockField.ofBinding_ne_emptyObject _ _ _ (List.mem_replicate.mp hname).2.symm

end Clashes

theorem fields_ofImport (s : Settings) (i : ImportStatement) :
    (ofImport s i).fields =
      if s.template.isFramework i.modulePath then [] else fieldsOf i.bindings := by
  unfold ofImport fields
  cases s.template.isFramework i.modulePath <;> rfl

/-- The first field of a key is the one that counts just when all its fields are equal, and that is
when the import is one of the framework or nothing clashes. -/
theorem field?_eq_property?_iff (s : Settings) (i : ImportStatement) (key : Text) :
    let m := ofImport s i
    let single := s.template.isFramework i.modulePath = true ∨ ¬ i.bindings.Clashes key
    ((∀ f ∈ m.fields, ∀ g ∈ m.fields, f.key = key → g.key = key → f = g) ↔ single) ∧
      (m.field? key = m.property? key ↔ single) := by
  intro m single
  have hfields : m.fieldsOfKey key =
      if s.template.isFramework i.modulePath then []
      else (fieldsOf i.bindings).filter (·.key == key) := by
    unfold fieldsOfKey
    rw [fields_ofImport]
    split <;> rfl
  have hequal : (∀ f ∈ m.fields, ∀ g ∈ m.fields, f.key = key → g.key = key → f = g) ↔
      ∀ f ∈ m.fieldsOfKey key, ∀ g ∈ m.fieldsOfKey key, f = g := by
    simp only [fieldsOfKey, List.mem_filter, beq_iff_eq]
    exact ⟨fun h f hf g hg => h f hf.1 g hg.1 hf.2 hg.2,
      fun h f hf g hg hfkey hgkey => h f ⟨hf, hfkey⟩ g ⟨hg, hgkey⟩⟩
  have hclash (hsame : (m.fieldsOfKey key).head? = (m.fieldsOfKey key).getLast?) : single := by
    by_cases hframework : s.template.isFramework i.modulePath = true
    · exact Or.inl hframework
    · rw [hfields, if_neg hframework] at hsame
      exact Or.inr fun hclashes => head?_ne_getLast?_of_clashes hclashes hsame
  have hall (hsingle : single) : ∀ f ∈ m.fieldsOfKey key, ∀ g ∈ m.fieldsOfKey key, f = g := by
    rw [hfields]
    split
    · exact fun f hf => absurd hf List.not_mem_nil
    · rename_i hframework
      exact fun f hf g hg => eq_of_not_clashes (hsingle.resolve_left hframework) hf hg
  rw [hequal, field?_eq_head?, property?_eq_getLast?]
  exact ⟨⟨fun h => hclash (head?_eq_getLast?_of_forall h), hall⟩,
    ⟨hclash, fun h => head?_eq_getLast?_of_forall (hall h)⟩⟩

end Mock

namespace Written

/-- An import that takes the default export under a name, and once more by its own name. -/
def defaultTwice (name : DefaultName) (other : Identifier) (module : ModuleText) : Declaration :=
  let own : Identifier := ⟨"default".toList, by decide +kernel⟩
  let entry : Entry :=
    ⟨oneSpace.toGap, .value own (some ⟨oneSpace, oneSpace, other⟩), oneSpace.toGap⟩
  .inTest (.value (.both name noGap oneSpace.toGap (.braces ⟨[entry], none⟩))) module

theorem statement?_defaultTwice {s : ScanSettings} (name : DefaultName) (other : Identifier)
    {module : ModuleText} (hkept : s.isExcluded module.path = false) :
    (defaultTwice name other module).statement? s =
      some ⟨(defaultTwice name other module).line.raw, module.path,
        { defaultName := some name.text, names := ["default".toList] }⟩ :=
  if_neg (ne_true_of_eq_false hkept)

end Written

open Written in
/-- What stands for a key, for every import whatever stands in the source. All its fields are
equal, and the first of them is the one that counts in the object literal, just when the import is
one of the framework or nothing clashes. Something does clash in each well-written import that takes
the default export under a capitalized name and once more by its own name: looking it up gives a
component, and in the literal it is a function that does nothing. -/
theorem one_standIn_iff (s : Settings) :
    (∀ (i : ImportStatement) (key : Text),
      let m := Mock.ofImport s i
      let single := s.template.isFramework i.modulePath = true ∨ ¬ i.bindings.Clashes key
      ((∀ f ∈ m.fields, ∀ g ∈ m.fields, f.key = key → g.key = key → f = g) ↔ single) ∧
        (m.field? key = m.property? key ↔ single)) ∧
    ∀ (name : DefaultName) (other : Identifier) (module : ModuleText),
      name.text.head?.any isUppercase = true → s.scan.isExcluded module.path = false →
      s.template.isFramework module.path = false →
      ∃ i ∈ s.scan.scan (Item.declaration (defaultTwice name other module)).text,
        i.modulePath = module.path ∧ i.bindings.Clashes "default".toList ∧
        (Mock.ofImport s i).field? "default".toList =
          some (.placeholder "default".toList name.text.toLower) ∧
        (Mock.ofImport s i).property? "default".toList = some (.noOp "default".toList) := by
  refine ⟨fun i key => Mock.field?_eq_property?_iff s i key, ?_⟩
  intro name other module hcapital hkept hframework
  have hstatement := statement?_defaultTwice name other hkept
  let i : ImportStatement := ⟨(defaultTwice name other module).line.raw, module.path,
    { defaultName := some name.text, names := ["default".toList] }⟩
  have hfields : (Mock.ofImport s i).fields =
      [.placeholder "default".toList name.text.toLower, .noOp "default".toList] := by
    rw [Mock.fields_ofImport, if_neg (ne_true_of_eq_false hframework),
      ← MockField.ofBinding_of_capital _ hcapital, ← MockField.ofBinding_default]
    rfl
  refine ⟨i, Declaration.mem_scan hstatement, rfl, ?_, ?_, ?_⟩
  · exact Or.inl ⟨rfl, List.mem_singleton_self _, name.text, rfl, hcapital⟩
  · unfold Mock.field?
    rw [hfields]
    exact List.find?_cons_of_pos rfl
  · unfold Mock.property?
    rw [hfields]
    rfl

open Written in
/-- The mock of `Card` is a component when it is looked up, and no more than a function once the
test runs. -/
theorem one_standIn_iff_card :
    let card : DefaultName := ⟨⟨"Card".toList, by decide +kernel⟩, by decide⟩
    let base : Identifier := ⟨"Base".toList, by decide +kernel⟩
    let module : ModuleText :=
      ⟨'\x22', rfl, "./Card".toList, by decide, List.all_iff_forall_prop.mp (by decide), by decide⟩
    let text := "import Card, \x7b default as Base \x7d from \"./Card\"\n".toList
    card.text.head?.any isUppercase = true ∧ ({} : ScanSettings).isExcluded module.path = false ∧
      ({} : TemplateSettings).isFramework module.path = false ∧
      (Item.declaration (defaultTwice card base module)).text = text ∧
      ∃ i ∈ ({} : ScanSettings).scan text,
        (Mock.ofImport {} i).field? "default".toList =
          some (.placeholder "default".toList "card".toList) ∧
        (Mock.ofImport {} i).property? "default".toList = some (.noOp "default".toList) := by
  intro card base module text
  have hcapital : card.text.head?.any isUppercase = true := by decide +kernel
  have hkept : ({} : ScanSettings).isExcluded module.path = false := by decide
  have hframework : ({} : TemplateSettings).isFramework module.path = false := by decide
  have htext : (Item.declaration (defaultTwice card base module)).text = text := by decide
  have hlower : card.text.toLower = "card".toList := by decide +kernel
  refine ⟨hcapital, hkept, hframework, htext, ?_⟩
  obtain ⟨i, hmem, -, -, hfirst, hlast⟩ :=
    (one_standIn_iff {}).2 card base module hcapital hkept hframework
  rw [htext] at hmem
  rw [hlower] at hfirst
  exact ⟨i, hmem, hfirst, hlast⟩

end TestScaffold
