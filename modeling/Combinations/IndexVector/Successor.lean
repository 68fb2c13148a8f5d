/-!
# The next index vector

A combination of `k` of `n` items is kept as its index vector: the `k` positions of the chosen
items, in ascending order.  Vectors of one length are ordered lexicographically, and
`IndexVector.successor?` steps to the next one.

The step is local.  It finds the last position whose entry can still grow, raises that entry by one
and lets the entries after it follow consecutively.  An entry with `m` entries after it can grow as
long as it and they fit below `n`, that is, while it is below `n - (m + 1)`.

`IndexVector.step` is the same step made in place, where a vector without a next one stays as it is,
and `IndexVector.after` is the vector after any number of such steps.

`IndexVector.slack` is the quantity that every step uses up (`slack_successor?_lt`): the vector of
the distances to `n`, read as a number in base `n + 1`.  It is what bounds a walk.
-/

set_option autoImplicit false

namespace Combinations
namespace IndexVector

/-- The first vector of length `k`: `[0, 1, …, k - 1]`. -/
def first (k : Nat) : List Nat := List.range k

/-- The step of a vector whose `after` last entries cannot grow.  The entries before them are given
from the back, so the first that can grow is the one to raise. -/
def raise? (n : Nat) : (after : Nat) → List Nat → Option (List Nat)
  | _, [] => none
  | after, x :: front =>
    if x + (after + 1) < n then some (front.reverse ++ List.range' (x + 1) (after + 1))
    else raise? n (after + 1) front

/-- The vector after `v` among the vectors of its length below `n`, or `none` if no entry of `v` can
grow. -/
def successor? (n : Nat) (v : List Nat) : Option (List Nat) := raise? n 0 v.reverse

/-- The step made in place: whether there is a next vector, and what the vector is then. -/
def step (n : Nat) (v : List Nat) : Bool × List Nat :=
  match successor? n v with
  | some w => (true, w)
  | none => (false, v)

/-- The vector that a number of steps in place leave. -/
def after (n : Nat) (v : List Nat) : (steps : Nat) → List Nat
  | 0 => v
  | steps + 1 => after n (step n v).2 steps

theorem raise?_append (n x after : Nat) (reversed : List Nat) :
    raise? n after (reversed ++ [x]) =
      match raise? n after reversed with
      | some tail => some (x :: tail)
      | none =>
        if x + (after + reversed.length + 1) < n then
          some (List.range' (x + 1) (after + reversed.length + 1))
        else none := by
  induction reversed generalizing after with
  | nil => simp [raise?]
  | cons y front ih =>
    simp only [List.cons_append, raise?, List.length_cons]
    split
    · simp
    · rw [ih, Nat.add_right_comm after 1, Nat.add_assoc after front.length 1]

@[simp] theorem successor?_nil (n : Nat) : successor? n [] = none := rfl

/-- The last entry that can grow is in the tail if the tail has a successor, and otherwise it can only
be the first. -/
theorem successor?_cons (n x : Nat) (tail : List Nat) :
    successor? n (x :: tail) =
      match successor? n tail with
      | some tail => some (x :: tail)
      | none =>
        if x + (tail.length + 1) < n then some (List.range' (x + 1) (tail.length + 1)) else none := by
  simp only [successor?, List.reverse_cons, raise?_append, List.length_reverse, Nat.zero_add]

/-- A step keeps the length. -/
theorem length_successor? {n : Nat} {v w : List Nat} (h : successor? n v = some w) :
    w.length = v.length := by
  induction v generalizing w with
  | nil => simp at h
  | cons x tail ih =>
    rw [successor?_cons] at h
    split at h
    · next t ht =>
      cases h
      simp [ih ht]
    · split at h
      · cases h
        simp
      · simp at h

/-! ## Steps in place -/

theorem step_of_some {n : Nat} {v w : List Nat} (h : successor? n v = some w) :
    step n v = (true, w) := by
  rw [step, h]

theorem step_of_none {n : Nat} {v : List Nat} (h : successor? n v = none) :
    step n v = (false, v) := by
  rw [step, h]

theorem length_step (n : Nat) (v : List Nat) : (step n v).2.length = v.length := by
  cases h : successor? n v with
  | none => rw [step_of_none h]
  | some w => rw [step_of_some h, length_successor? h]

/-- Many steps are all but one, and then one more. -/
theorem after_succ (n : Nat) (v : List Nat) (steps : Nat) :
    after n v (steps + 1) = (step n (after n v steps)).2 := by
  induction steps generalizing v with
  | zero => rfl
  | succ steps ih => rw [after, ih, after]

theorem length_after (n : Nat) (v : List Nat) (steps : Nat) :
    (after n v steps).length = v.length := by
  induction steps with
  | zero => rfl
  | succ steps ih => rw [after_succ, length_step, ih]

/-! ## What a step uses up -/

/-- The number of digit strings of length `m` in base `n + 1`. -/
def span (n : Nat) : (m : Nat) → Nat
  | 0 => 1
  | m + 1 => (n + 1) * span n m

/-- The distances of the entries of a vector to `n`, read as a number in base `n + 1`. -/
def slack (n : Nat) : List Nat → Nat
  | [] => 0
  | x :: tail => (n - x) * span n tail.length + slack n tail

theorem slack_lt_span (n : Nat) (v : List Nat) : slack n v < span n v.length := by
  induction v with
  | nil => simp [slack, span]
  | cons x tail ih =>
    simp only [slack, span, List.length_cons]
    have h : (n - x) * span n tail.length ≤ n * span n tail.length :=
      Nat.mul_le_mul_right _ (Nat.sub_le n x)
    rw [Nat.succ_mul]
    omega

/-- **Every step uses up slack.** -/
theorem slack_successor?_lt {n : Nat} {v w : List Nat} (h : successor? n v = some w) :
    slack n w < slack n v := by
  induction v generalizing w with
  | nil => simp at h
  | cons x tail ih =>
    rw [successor?_cons] at h
    split at h
    · next t ht =>
      cases h
      simp only [slack, length_successor? ht]
      have := ih ht
      omega
    · split at h
      · next hx =>
        cases h
        have hlt := slack_lt_span n (List.range' (x + 1 + 1) tail.length)
        rw [List.length_range'] at hlt
        have hn : n - x = n - (x + 1) + 1 := by omega
        rw [List.range'_succ]
        simp only [slack, List.length_range']
        rw [hn, Nat.succ_mul]
        omega
      · simp at h

end IndexVector
end Combinations
