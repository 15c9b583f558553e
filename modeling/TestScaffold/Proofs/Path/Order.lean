import TestScaffold.Path.Basic

/-!
The order of paths. Texts are compared character by character, components by their kinds and then by
their texts, and paths component by component. So paths can be sorted: of any two one comes before
the other, and what comes before does so by way of a third.
-/

namespace TestScaffold

/-- To compare by a key is as good as to compare the keys. -/
theorem transCmp_of_key {α β : Type} {cmp : β → β → Ordering} [Std.TransCmp cmp] (key : α → β) :
    Std.TransCmp fun a b => cmp (key a) (key b) where
  eq_swap := Std.OrientedCmp.eq_swap
  isLE_trans := Std.TransCmp.isLE_trans

instance : Std.TransCmp Text.order :=
  inferInstanceAs (Std.TransCmp (List.compareLex (compare : Char → Char → Ordering)))

namespace Path

theorem Component.order_eq_compareLex :
    order = compareLex (compareOn rank) fun a b => Text.order (a.name?.getD []) (b.name?.getD []) := by
  funext a b
  cases a <;> cases b <;> rfl

instance : Std.TransCmp Component.order := by
  have htexts : Std.TransCmp fun a b : Component =>
      Text.order (a.name?.getD []) (b.name?.getD []) :=
    transCmp_of_key fun a : Component => a.name?.getD []
  rw [Component.order_eq_compareLex]
  infer_instance

instance : Std.TransCmp order := by
  change Std.TransCmp fun p q : Path => List.compareLex Component.order p.components q.components
  exact transCmp_of_key components

/-- Sorted paths stand in their order. -/
theorem pairwise_order_mergeSort (paths : List Path) :
    (paths.mergeSort fun p q => (order p q).isLE).Pairwise fun p q => (order p q).isLE = true := by
  apply List.pairwise_mergeSort
  · intro p q r
    exact Std.TransCmp.isLE_trans
  · intro p q
    have hswap : order q p = (order p q).swap := Std.OrientedCmp.eq_swap
    rw [hswap]
    cases order p q <;> rfl

end Path

end TestScaffold
