import Mathlib.Data.List.Sort

/-! Sorting with a strict comparator, as `std::sort` is called. -/

universe u

namespace Foundations

variable {α : Type u}

/-- `std::sort` with the comparator `less`. Elements that the comparator does not
separate keep their order, which the standard leaves open. -/
def sortBy (less : α → α → Bool) (l : List α) : List α :=
  l.insertionSort fun a b => less b a = false

/-- What `std::sort` asks of a comparator: it never puts both of two elements
before the other, and "not after" is transitive. -/
structure IsComparator (less : α → α → Bool) : Prop where
  asymm : ∀ a b, less a b = true → less b a = false
  notAfter_trans : ∀ a b c, less b a = false → less c b = false → less c a = false

theorem sortBy_perm (less : α → α → Bool) (l : List α) : (sortBy less l).Perm l :=
  List.perm_insertionSort _ l

@[simp] theorem mem_sortBy {less : α → α → Bool} {l : List α} {a : α} :
    a ∈ sortBy less l ↔ a ∈ l := (sortBy_perm less l).mem_iff

@[simp] theorem length_sortBy (less : α → α → Bool) (l : List α) :
    (sortBy less l).length = l.length := (sortBy_perm less l).length_eq

@[simp] theorem sortBy_nil (less : α → α → Bool) : sortBy less [] = [] := rfl

/-- No later element of the sorted list belongs before an earlier one. -/
theorem sortBy_pairwise {less : α → α → Bool} (h : IsComparator less) (l : List α) :
    (sortBy less l).Pairwise fun a b => less b a = false := by
  have : Std.Total fun a b => less b a = false :=
    ⟨fun a b => by
      cases hab : less b a with
      | false => exact Or.inl rfl
      | true => exact Or.inr (h.asymm b a hab)⟩
  have : IsTrans α fun a b => less b a = false := ⟨h.notAfter_trans⟩
  exact List.pairwise_insertionSort _ l

/-- Where the comparator separates the elements, the result does not depend on
the order in which they arrive. -/
theorem sortBy_eq_of_perm {less : α → α → Bool} (h : IsComparator less) {l l' : List α}
    (hPerm : l.Perm l')
    (hSep : ∀ a ∈ l, ∀ b ∈ l, less a b = false → less b a = false → a = b) :
    sortBy less l = sortBy less l' := by
  refine List.Perm.eq_of_pairwise ?_ (sortBy_pairwise h l) (sortBy_pairwise h l')
    ((sortBy_perm less l).trans (hPerm.trans (sortBy_perm less l').symm))
  intro a b ha hb hab hba
  exact hSep a (mem_sortBy.mp ha) b (hPerm.mem_iff.mpr (mem_sortBy.mp hb)) hba hab

/-- Comparing numeric keys is a comparator. -/
theorem isComparator_key {β : Type*} [LinearOrder β] (key : α → β) :
    IsComparator fun a b => decide (key a < key b) where
  asymm a b hab := by simpa using (of_decide_eq_true hab).le
  notAfter_trans a b c hab hbc := by
    simp only [decide_eq_false_iff_not, not_lt] at hab hbc ⊢
    exact hab.trans hbc

end Foundations
