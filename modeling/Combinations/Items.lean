/-!
# Item sets

The items of a run are texts at positions `0, …, size - 1`.  An item set is kept as a function of the
position, so a set may be described without being laid out; equal texts at two positions are two
items.
-/

set_option autoImplicit false

namespace Combinations

/-- A sequence of `size` texts. -/
structure Items where
  size : Nat
  item : Fin size → String

namespace Items

/-- The items of a list, in its order. -/
def ofList (items : List String) : Items :=
  let laidOut := items.toArray
  ⟨laidOut.size, fun i => laidOut[i]⟩

/-- The items `"0"`, `"1"`, …, `"n - 1"`. -/
def numbered (n : Nat) : Items := ⟨n, fun i => toString i.val⟩

/-- The text `item`, `n` times. -/
def replicate (n : Nat) (item : String) : Items := ⟨n, fun _ => item⟩

/-- The item at a position, if there is one. -/
def get? (items : Items) (i : Nat) : Option String :=
  if h : i < items.size then some (items.item ⟨i, h⟩) else none

/-- The items at the positions of an index vector, in its order. -/
def pick (items : Items) (indices : List Nat) : List String := indices.filterMap items.get?

theorem get?_of_lt (items : Items) {i : Nat} (h : i < items.size) :
    items.get? i = some (items.item ⟨i, h⟩) := by
  simp [get?, h]

/-- Below the size, no position is left out. -/
theorem length_pick (items : Items) {indices : List Nat} (h : ∀ i ∈ indices, i < items.size) :
    (items.pick indices).length = indices.length := by
  induction indices with
  | nil => rfl
  | cons i rest ih =>
    have hrest := ih fun j hj => h j (List.mem_cons_of_mem i hj)
    rw [pick] at hrest
    rw [pick, List.filterMap_cons, get?_of_lt items (h i List.mem_cons_self)]
    simp only [List.length_cons, hrest]

end Items
end Combinations
