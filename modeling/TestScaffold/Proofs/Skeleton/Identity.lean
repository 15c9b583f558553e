import TestScaffold.Proofs.Path.Characters
import TestScaffold.Proofs.Skeleton.Rescan
import TestScaffold.Proofs.Text.Capitals

/-!
When the name of a component can be imported. The name is made from that of the file, or of the
directory of a file that stands for a route, and is written into the import of the component as it
is. The clause of this import says the name just when the name is an identifier, and that it is
depends on the name it was made from: nothing is put in the place of a dash or a bracket.
-/

namespace TestScaffold

def isRouteFile (source : Path) : Bool :=
  source.stem?.getD [] == "page".toList || source.stem?.getD [] == "layout".toList

/-- What the name of a component is made from: the name of the directory for a file that stands for
a route, and else the name of the file without its extension. -/
def givenName (source : Path) : Text :=
  if isRouteFile source then source.directoryName else source.stem?.getD []

def routeSuffix (source : Path) : Text :=
  if isRouteFile source then "Page".toList else []

theorem identityOf_eq (source : Path) :
    identityOf source = (givenName source).capitalize ++ routeSuffix source := by
  have hroute : isRouteFile source = true ↔
      source.stem?.getD [] = "page".toList ∨ source.stem?.getD [] = "layout".toList := by
    unfold isRouteFile
    rw [Bool.or_eq_true, beq_iff_eq, beq_iff_eq]
  unfold identityOf givenName routeSuffix
  dsimp only
  by_cases h : isRouteFile source = true
  · rw [if_pos h, if_pos h, if_pos (hroute.mp h)]
  · rw [if_neg h, if_neg h, if_neg (mt hroute.mpr h), List.append_nil]

theorem isIdentifier_page : isIdentifier "Page".toList = true := by
  decide +kernel

theorem isIdentifierChar_of_mem_routeSuffix (source : Path) :
    ∀ c ∈ routeSuffix source, isIdentifierChar c = true := by
  unfold routeSuffix
  split
  · exact isIdentifierChar_of_isIdentifier isIdentifier_page
  · exact List.forall_mem_nil _

/-- The name of a component is an identifier when the name it is made from is one whose capital form
has no other characters, and for a route at the top, whose directory has no name. -/
theorem isIdentifier_identityOf_iff (source : Path) :
    isIdentifier (identityOf source) = true ↔
      isIdentifier (givenName source) = true ∧
        (∀ c ∈ (givenName source).capitalize, isIdentifierChar c = true) ∨
      givenName source = [] ∧ isRouteFile source = true := by
  rw [identityOf_eq]
  by_cases hnil : givenName source = []
  · have hnone : isIdentifier ([] : Text) = false := rfl
    have hname : isIdentifier (routeSuffix source) = true ↔ isRouteFile source = true := by
      unfold routeSuffix
      split
      · rename_i hroute
        exact iff_of_true isIdentifier_page hroute
      · rename_i hroute
        exact iff_of_false (by decide) hroute
    rw [hnil, Text.capitalize, List.nil_append, hname]
    simp [hnone]
  · rw [Text.isIdentifier_capitalize_append_iff hnil, List.forall_mem_append,
      and_iff_left (isIdentifierChar_of_mem_routeSuffix source)]
    simp only [hnil, false_and, or_false]

/-- What the import of a component says between `import` and `from`. -/
def componentClause (identity : Text) : ExportStyle → Text
  | .default => identity
  | .named => "\x7b ".toList ++ identity ++ " \x7d".toList

theorem componentImport_eq (identity : Text) (style : ExportStyle) (importPath : Text) :
    componentImport identity style importPath =
      "import ".toList ++ componentClause identity style ++
        (" from \"".toList ++ importPath ++ ['\x22']) := by
  cases style with
  | default => rfl
  | named =>
    have hopen : "import \x7b ".toList = "import ".toList ++ "\x7b ".toList := rfl
    unfold componentImport componentClause
    rw [hopen]
    simp only [List.append_assoc]

open Written in
/-- A clause that says a name is read as this name just when the name is an identifier. -/
theorem ofClause?_componentClause_iff {identity : Text} (hne : identity ≠ typeKeyword)
    (style : ExportStyle) :
    Bindings.ofClause? (componentClause identity style) =
        some (componentBindings identity style) ↔ isIdentifier identity = true := by
  constructor
  · intro hread
    -- All names that are read are identifiers.
    have hnamed := Bindings.wellNamed_ofClause? hread
    cases style with
    | default => exact hnamed.defaultName identity rfl
    | named => exact hnamed.names identity (List.mem_singleton_self identity)
  · intro hidentifier
    let name : DefaultName := ⟨⟨identity, hidentifier⟩, hne⟩
    have hclause : (componentNames name style).text = componentClause identity style := by
      have himport := text_componentNames name style []
      rw [componentImport_eq] at himport
      exact List.append_cancel_left (List.append_cancel_right himport)
    rw [← hclause, ofClause?_names, bindings_componentNames]

/-- A component can be imported by its name, in either style, exactly when the name is an
identifier: then the clause that the import of the component prints is read as this name alone. The
name is an identifier exactly when the name of the file, or of the directory for a route, is one
and its capital form has no combining mark; a route without a directory is called `Page`. -/
theorem identity_importable_iff (source : Path) :
    (∀ style importPath, ∃ clause,
      componentImport (identityOf source) style importPath =
        "import ".toList ++ clause ++ (" from \"".toList ++ importPath ++ ['\x22']) ∧
      (Bindings.ofClause? clause =
          some (match style with
            | .default => { defaultName := some (identityOf source) }
            | .named => { names := [identityOf source] }) ↔
        isIdentifier (identityOf source) = true)) ∧
    (isIdentifier (identityOf source) = true ↔
      isIdentifier (givenName source) = true ∧
        (∀ c ∈ (givenName source).capitalize, isIdentifierChar c = true) ∨
      givenName source = [] ∧ isRouteFile source = true) := by
  refine ⟨fun style importPath => ⟨_, componentImport_eq _ style importPath, ?_⟩,
    isIdentifier_identityOf_iff source⟩
  have hread := ofClause?_componentClause_iff (identityOf_ne_type source) style
  cases style with
  | default => exact hread
  | named => exact hread

/-- Dashes and brackets stay in the name of a component, so such files are not imported by it. -/
example :
    identityOf ⟨"/p/src/my-card.tsx".toList⟩ = "My-card".toList ∧
      identityOf ⟨"/p/app/[id]/page.tsx".toList⟩ = "[id]Page".toList ∧
      isIdentifier "My-card".toList = false ∧ isIdentifier "[id]Page".toList = false := by
  decide +kernel

end TestScaffold
