import Combinations.Proofs.Walk.Position
import Mathlib.Data.Finset.Card

/-!
# What a walk counts

A walk counts the sizes it has entered, and it knows from its start how many combinations were passed
over.  `Walk.visited` lists the vectors on which a walk has stood, and `Walk.Counted` says how the
counters are read off it: the sizes are the different lengths of these vectors, and the other two
counters have not changed.

A size is counted when it is entered, so the invariant has to know that the size is new.  It is,
because no vector so far is longer than the one the walk stands on, and a move to another size makes
the vector longer.
-/

set_option autoImplicit false

namespace Combinations

/-! ## Different lengths -/

/-- How many different lengths the lists in `all` have. -/
def distinctLengths {α : Type} (all : List (List α)) : Nat := (all.map List.length).toFinset.card

section Lengths

variable {α : Type} {all : List (List α)} {v : List α}

theorem distinctLengths_append_of_mem (h : v.length ∈ all.map List.length) :
    distinctLengths (all ++ [v]) = distinctLengths all := by
  rw [distinctLengths, List.map_append, List.map_singleton, List.toFinset_append,
    Finset.union_eq_left.mpr]
  · rfl
  · simpa using h

theorem distinctLengths_append_of_forall_lt (h : ∀ u ∈ all, u.length < v.length) :
    distinctLengths (all ++ [v]) = distinctLengths all + 1 := by
  have hnew : v.length ∉ (all.map List.length).toFinset := by
    rw [List.mem_toFinset, List.mem_map]
    rintro ⟨u, hu, hlen⟩
    exact absurd (h u hu) (by omega)
  rw [distinctLengths, List.map_append, List.map_singleton, List.toFinset_append,
    List.toFinset_cons, List.toFinset_nil, Finset.union_insert, Finset.union_empty,
    Finset.card_insert_of_notMem hnew]
  rfl

end Lengths

namespace Walk

variable {walk first : Walk} {config : Config} {extent : Extent} {n : Nat}
  {been : List (List Nat)}

/-! ## Moves one after the other -/

theorem advanceAfter_snd (walk : Walk) (moved moved' : Option Bool) (times : Nat) :
    (walk.advanceAfter moved times).2 = (walk.advanceAfter moved' times).2 := by
  cases times <;> rfl

/-- Many moves are one move and then the others. -/
theorem advanceBy_succ (walk : Walk) (times : Nat) :
    (walk.advanceBy (times + 1)).2 = (walk.advance.2.advanceBy times).2 :=
  advanceAfter_snd walk.advance.2 _ _ times

/-- Many moves are all but one, and then one more. -/
theorem advanceBy_succ_eq_advance (walk : Walk) (times : Nat) :
    (walk.advanceBy (times + 1)).2 = (walk.advanceBy times).2.advance.2 := by
  induction times generalizing walk with
  | zero => rfl
  | succ times ih => rw [advanceBy_succ, ih, ← advanceBy_succ]

/-- A walk that has run out of combinations stays as it is. -/
theorem advance_of_none (h : walk.current = none) : walk.advance = (false, walk) := by
  rw [advance, h]

theorem advanceBy_of_none (h : walk.current = none) (times : Nat) :
    (walk.advanceBy times).2 = walk := by
  induction times with
  | zero => rfl
  | succ times ih => rw [advanceBy_succ, advance_of_none h, ih]

/-- The trail of a walk has at each place what the walk stands on after as many moves. -/
theorem getElem?_trail (walk : Walk) (moves : Nat) :
    walk.trail[moves]? = (walk.advanceBy moves).2.current := by
  induction moves generalizing walk with
  | zero =>
    cases h : walk.current with
    | none => rw [trail_of_none h]; exact h.symm
    | some c => rw [trail_of_some h]; exact h.symm
  | succ moves ih =>
    cases h : walk.current with
    | none => rw [trail_of_none h, advanceBy_of_none h, h]; rfl
    | some c => rw [trail_of_some h, List.getElem?_cons_succ, ih, advanceBy_succ]

/-! ## The counters -/

/-- The vectors on which a walk stands from the beginning up to and including `moves` moves later. -/
def visited (first : Walk) (moves : Nat) : List (List Nat) :=
  (first.trail.take (moves + 1)).map (·.indices)

theorem visited_zero (first : Walk) : first.visited 0 = first.indices.toList := by
  rw [visited, List.take_add_one, List.take_zero, getElem?_trail, List.nil_append, ← Option.toList_map]
  rfl

theorem visited_succ (first : Walk) (moves : Nat) :
    first.visited (moves + 1) =
      first.visited moves ++ (first.advanceBy (moves + 1)).2.indices.toList := by
  rw [visited, List.take_add_one, List.map_append, getElem?_trail, ← Option.toList_map]
  rfl

/-- The counters of `walk` are those of the walk `first` after it has stood on the vectors `been`, of
which none is longer than the one that `walk` stands on. -/
structure Counted (walk first : Walk) (been : List (List Nat)) : Prop where
  emitted_eq : walk.statistics.emitted = first.statistics.emitted
  skipped_eq : walk.statistics.skipped = first.statistics.skipped
  sizesVisited_eq : walk.statistics.sizesVisited = distinctLengths been
  mem : ∀ v ∈ walk.indices, v ∈ been
  length_le : ∀ v ∈ walk.indices, ∀ u ∈ been, u.length ≤ v.length

/-- A vector that is at least as long as the longest so far is the longest from then on. -/
theorem Counted.of_indices {v w : List Nat} (hindices : walk.indices = some w)
    (hlength : v.length ≤ w.length) (hle : ∀ u ∈ been, u.length ≤ v.length)
    (hemitted : walk.statistics.emitted = first.statistics.emitted)
    (hskipped : walk.statistics.skipped = first.statistics.skipped)
    (hsizes : walk.statistics.sizesVisited = distinctLengths (been ++ [w])) :
    walk.Counted first (been ++ walk.indices.toList) := by
  rw [hindices, Option.toList_some]
  refine ⟨hemitted, hskipped, hsizes, ?_, ?_⟩ <;> rw [hindices] <;> rintro _ ⟨⟩
  · exact List.mem_append_right been List.mem_cons_self
  · intro u hu
    rcases List.mem_append.mp hu with hold | hnew
    · exact (hle u hold).trans hlength
    · rw [List.mem_singleton.mp hnew]

/-- **A move counts a size exactly if the size is new.** -/
theorem Counted.advance (h : walk.Counted first been) :
    walk.advance.2.Counted first (been ++ walk.advance.2.indices.toList) := by
  obtain ⟨hemitted, hskipped, hsizes, hmem, hle⟩ := h
  have hmove := walk.advance_move
  generalize walk.advance = moved at hmove ⊢
  cases hmove with
  | stay hnone =>
    have hindices : walk.indices = none := by rw [indices, hnone]; rfl
    rw [hindices, Option.toList_none, List.append_nil]
    exact ⟨hemitted, hskipped, hsizes, hmem, hle⟩
  | finish hcurrent hlast hsize =>
    rw [show ({ walk with current := none } : Walk).indices = none from rfl, Option.toList_none,
      List.append_nil]
    exact ⟨hemitted, hskipped, hsizes, nofun, nofun⟩
  | @step c w hcurrent hw =>
    have hindices : c.indices ∈ walk.indices := by rw [indices, hcurrent]; rfl
    have hlength := IndexVector.length_successor? hw
    have hold : w.length ∈ been.map List.length :=
      List.mem_map.mpr ⟨c.indices, hmem _ hindices, hlength.symm⟩
    exact .of_indices rfl hlength.ge (hle _ hindices) hemitted hskipped
      (hsizes.trans (distinctLengths_append_of_mem hold).symm)
  | @grow c hcurrent hlast hsize =>
    have hindices : c.indices ∈ walk.indices := by rw [indices, hcurrent]; rfl
    have hlength : (IndexVector.first (c.indices.length + 1)).length = c.indices.length + 1 :=
      List.length_range
    have hnew : ∀ u ∈ been, u.length < (IndexVector.first (c.indices.length + 1)).length := by
      intro u hu
      rw [hlength]
      exact Nat.lt_succ_of_le (hle _ hindices u hu)
    refine .of_indices rfl (hlength.ge.trans' (Nat.le_succ _)) (hle _ hindices) hemitted hskipped ?_
    rw [distinctLengths_append_of_forall_lt hnew, ← hsizes]
    rfl

theorem counted_ofLanding (n : Nat) (extent : Extent) (start : Nat) (landing : Landing) :
    let first := ofLanding n extent start landing
    first.Counted first first.indices.toList := by
  cases landing with
  | found v => exact ⟨rfl, rfl, rfl, by rintro _ ⟨⟩; exact List.mem_cons_self, by
      rintro _ ⟨⟩ u hu
      rw [List.mem_singleton.mp hu]⟩
  | past rest => exact ⟨rfl, rfl, rfl, nofun, nofun⟩

/-- A walk of a configuration has been placed on the listing at the start of the window. -/
theorem exists_eq_ofLanding (hfirst : Walk.ofConfig config n = .ok first) :
    ∃ extent, config.extent n = .ok extent ∧
      first = ofLanding n extent config.window.start.toNat
        (.inList (extent.listing n (config.visitsEmpty extent)) config.window.start.toNat) := by
  cases hextent : config.extent n with
  | error e =>
    rw [ofConfig, hextent] at hfirst
    cases hfirst
  | ok extent =>
    rw [ofConfig_eq hextent] at hfirst
    exact ⟨extent, rfl, (Except.ok.inj hfirst).symm⟩

/-- **The counters of a walk after any number of moves.** -/
theorem counted_advanceBy (hfirst : Walk.ofConfig config n = .ok first) (moves : Nat) :
    (first.advanceBy moves).2.Counted first (first.visited moves) := by
  induction moves with
  | zero =>
    obtain ⟨extent, -, rfl⟩ := exists_eq_ofLanding hfirst
    rw [visited_zero]
    exact counted_ofLanding _ _ _ _
  | succ moves ih =>
    rw [visited_succ, advanceBy_succ_eq_advance]
    exact ih.advance

/-- Placing a walk passes over as many combinations as its start says, or over all of them. -/
theorem skipped_ofLanding (n : Nat) (extent : Extent) (start : Nat) (all : List (List Nat)) :
    (ofLanding n extent start (.inList all start)).statistics.skipped = min start all.length := by
  rw [Landing.inList]
  split
  · next v hv =>
    obtain ⟨hlt, -⟩ := List.getElem?_eq_some_iff.mp hv
    exact (Nat.min_eq_left hlt.le).symm
  · next hnone =>
    rw [List.getElem?_eq_none_iff] at hnone
    rw [Nat.min_eq_right hnone]
    exact Nat.sub_sub_self hnone

theorem skipped_ofConfig (hextent : config.extent n = .ok extent)
    (hfirst : Walk.ofConfig config n = .ok first) :
    first.statistics.skipped = min config.window.start.toNat
      (extent.listing n (config.visitsEmpty extent)).length := by
  rw [ofConfig_eq hextent] at hfirst
  rw [← Except.ok.inj hfirst, skipped_ofLanding]

theorem emitted_ofLanding (n : Nat) (extent : Extent) (start : Nat) (landing : Landing) :
    (ofLanding n extent start landing).statistics.emitted = 0 := by
  cases landing <;> rfl

end Walk

end Combinations
