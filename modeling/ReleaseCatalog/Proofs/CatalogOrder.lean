import ReleaseCatalog.Order
import ReleaseCatalog.Proofs.VersionOrder

/-!
# The order in which a catalog is kept

`SortKey.compare .allFields` compares five fields one after another, each by a
total order, so it is one itself (`SortKey.compare_allFields_trans`). Sorting by
a key with a total order loses nothing (`sorted_perm`) and leaves a sorted list
as it is (`sorted_sorted`).
-/

namespace ReleaseCatalog

open Std

/-- Comparing by a total order of what stands in a field is a total order. -/
theorem transCmp_field {α β : Type} (cmp : β → β → Ordering) [TransCmp cmp] (f : α → β) :
    TransCmp fun a b => cmp (f a) (f b) where
  eq_swap {a b} := by
    show cmp (f a) (f b) = (cmp (f b) (f a)).swap
    exact OrientedCmp.eq_swap
  isLE_trans {a b c} := by
    show (cmp (f a) (f b)).isLE → (cmp (f b) (f c)).isLE → (cmp (f a) (f c)).isLE
    exact TransCmp.isLE_trans

namespace SortKey

instance compareVersions_trans : TransCmp compareVersions :=
  transCmp_field Version.compare Version.ofText

instance compare_version_trans : TransCmp (compare .version) :=
  transCmp_field compareVersions Tarball.version

/-- **The standard order of tarballs is a total order.** -/
instance compare_allFields_trans : TransCmp (compare .allFields) :=
  have := transCmp_field compareVersions Tarball.version
  inferInstanceAs <| TransCmp <| compareLex (compareOn Tarball.flavor) <|
    compareLex (fun a b => compareVersions a.version b.version) <|
      compareLex (compareOn Tarball.os) <|
        compareLex (compareOn Tarball.arch) (compareOn Tarball.name)

/-- Of two tarballs, one does not stand above the other. -/
theorem isLE_total (key : SortKey) [TransCmp key.compare] (t u : Tarball) :
    ((key.compare t u).isLE || (key.compare u t).isLE) = true := by
  have hswap : key.compare u t = (key.compare t u).swap := OrientedCmp.eq_swap
  rw [hswap]
  cases key.compare t u <;> rfl

end SortKey

theorem sorted_perm (key : SortKey) (l : List Tarball) : (sorted key l).Perm l :=
  List.mergeSort_perm ..

theorem sorted_pair (key : SortKey) (t u : Tarball) :
    sorted key [t, u] = if (key.compare t u).isLE then [t, u] else [u, t] := by
  unfold sorted
  rw [List.mergeSort]
  simp [List.MergeSort.Internal.splitInTwo, List.merge]

theorem sorted_pairwise (key : SortKey) [TransCmp key.compare] (l : List Tarball) :
    (sorted key l).Pairwise fun a b => (key.compare a b).isLE := by
  exact List.pairwise_mergeSort (fun _ _ _ => TransCmp.isLE_trans) key.isLE_total l

/-- **Sorting a second time changes nothing.** -/
theorem sorted_sorted (key : SortKey) [TransCmp key.compare] (l : List Tarball) :
    sorted key (sorted key l) = sorted key l :=
  List.mergeSort_of_pairwise (sorted_pairwise key l)

theorem Catalog.inOrder_inOrder (c : Catalog) : c.inOrder.inOrder = c.inOrder := by
  unfold Catalog.inOrder
  rw [sorted_sorted]

end ReleaseCatalog
