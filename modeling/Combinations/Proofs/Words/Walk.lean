import Combinations.Proofs.Walk.Landing
import Combinations.Proofs.Words.Counting
import Combinations.Words.Walk

/-!
# Unranking and placing a walk on words

For 32-bit words `n` and `k` and a 64-bit rank, unranking on words comes to `IndexVector.unrank`
(`yields_unrank`), and a walk that is placed on words stands where `Walk.ofConfig` stands, with the
same counters (`yields_ofConfig`).

The sums are kept in their words by what a search knows when it goes on: there is room below `n` for
the candidate and the entries after it.  The differences are kept at 0 or above by what it has just
checked: a block is passed over only if the rank is not inside it.
-/

set_option autoImplicit false

namespace Combinations
namespace Words

open IndexVector (pick pick_succ pick_zero)

variable {n k after left rank candidate : Nat}

/-! ## Unranking -/

/-- What a search finds, among the last `left` candidates below `n`, for picking an entry with
`after` entries behind it. -/
inductive Finds (n after left rank : Nat) : Option Found → Prop where
  /-- Nothing, if nothing can be picked. -/
  | none (h : ∀ chosen, pick n left (after + 1) rank chosen = none) : Finds n after left rank none
  /-- The entry that is picked next, with `rest` positions behind it, enough for the others. -/
  | some {found : Found} {rest : Nat} (hentry : found.entry + (rest + 1) = n) (hroom : after ≤ rest)
      (hrank : found.rank ≤ rank)
      (h : ∀ chosen, pick n left (after + 1) rank chosen =
        pick n rest after found.rank (found.entry :: chosen)) :
      Finds n after left rank (some found)

/-- Where the rank falls into the block of the first candidate, that candidate is picked. -/
theorem Finds.of_inside (hcandidate : candidate + (left + 1) = n) (hroom : after ≤ left)
    (hinside : Binomial.beyond? left after rank = .none) :
    Finds n after (left + 1) rank (.some ⟨candidate, rank⟩) := by
  refine .some hcandidate hroom (Nat.le_refl rank) fun chosen ↦ ?_
  obtain rfl : candidate = n - (left + 1) := by omega
  rw [pick_succ, if_neg (Nat.not_lt.mpr hroom), hinside]

/-- Where the rank is behind that block, the search goes on behind the candidate. -/
theorem Finds.of_beyond {rest : Nat} {found : Option Found} (hroom : after ≤ left)
    (hbeyond : Binomial.beyond? left after rank = .some rest) (hrest : rest ≤ rank)
    (h : Finds n after left rest found) : Finds n after (left + 1) rank found := by
  have hpick : ∀ chosen, pick n (left + 1) (after + 1) rank chosen =
      pick n left (after + 1) rest chosen := by
    intro chosen
    rw [pick_succ, if_neg (Nat.not_lt.mpr hroom), hbeyond]
  cases h with
  | none h => exact .none fun chosen ↦ (hpick chosen).trans (h chosen)
  | some hentry hroom hrank h =>
    exact .some hentry hroom (hrank.trans hrest) fun chosen ↦ (hpick chosen).trans (h chosen)

/-- Without room behind the candidate a search ends. -/
theorem yields_search_of_full (rounds : Nat) (hsum : candidate + after < 2 ^ 32)
    (hfull : n ≤ candidate + after) : (search n after (rounds + 1) candidate rank).Yields none := by
  rw [search]
  refine .bind (yields_add hsum) ?_
  rw [if_pos hfull]
  exact .pure _

/-- With room behind the candidate its block decides how a search goes on. -/
theorem yields_search_of_room (rounds : Nat) (hn : n < 2 ^ 32)
    (hcandidate : candidate + (left + 1) = n) (hroom : after ≤ left) (hrank : rank ≤ maxOrdinal)
    {found : Option Found}
    (h : Calculation.Yields (match Binomial.beyond? left after rank with
      | some rest => do
        let candidate ← add 32 candidate 1
        search n after rounds candidate rest
      | none => return some ⟨candidate, rank⟩) found) :
    (search n after (rounds + 1) candidate rank).Yields found := by
  have hleft : n - 1 - candidate = left := by omega
  rw [search]
  refine .bind (yields_add (by omega)) ?_
  rw [if_neg (by omega)]
  refine .bind (yields_sub hn (by omega)) ?_
  refine .bind (yields_sub (by omega) (by omega)) ?_
  rw [hleft]
  exact .bind (yields_beyond? (by omega) after hrank) h

/-- **A search never wraps, and finds the entry that is picked next.** -/
theorem exists_yields_search {rounds : Nat} (hn : n < 2 ^ 32) (hcandidate : candidate + left = n)
    (hsum : candidate + after ≤ n) (hrounds : left < rounds) (hrank : rank ≤ maxOrdinal) :
    ∃ found, (search n after rounds candidate rank).Yields found ∧
      Finds n after left rank found := by
  induction left generalizing candidate rank rounds with
  | zero =>
    obtain ⟨rounds, rfl⟩ : ∃ r, rounds = r + 1 := ⟨rounds - 1, by omega⟩
    exact ⟨none, yields_search_of_full rounds (by omega) (by omega), .none fun _ ↦ rfl⟩
  | succ left ih =>
    obtain ⟨rounds, rfl⟩ : ∃ r, rounds = r + 1 := ⟨rounds - 1, by omega⟩
    rcases Nat.lt_or_ge left after with hfull | hroom
    · refine ⟨none, yields_search_of_full rounds (by omega) (by omega), .none fun chosen ↦ ?_⟩
      rw [pick_succ, if_pos hfull]
    · cases hbeyond : Binomial.beyond? left after rank with
      | none =>
        refine ⟨_, yields_search_of_room rounds hn hcandidate hroom hrank ?_,
          .of_inside hcandidate hroom hbeyond⟩
        rw [hbeyond]
        exact .pure _
      | some rest =>
        have hrest : rest ≤ rank := Binomial.le_of_beyond?_eq_some hbeyond
        have hcandidate' : candidate + 1 + left = n := by omega
        obtain ⟨found, hyields, hfinds⟩ :=
          ih hcandidate' (by omega) (Nat.lt_of_succ_lt_succ hrounds) (hrest.trans hrank)
        refine ⟨found, yields_search_of_room rounds hn hcandidate hroom hrank ?_,
          hfinds.of_beyond hroom hbeyond hrest⟩
        rw [hbeyond]
        exact .bind (yields_add (by omega)) hyields

/-- The entries of a vector are found one after the other. -/
theorem yields_fill (hn : n < 2 ^ 32) (hk : k < 2 ^ 32) {todo place : Nat} (chosen : List Nat)
    (hplace : place + todo = k) (hcandidate : candidate + left = n) (hroom : todo ≤ left)
    (hrank : rank ≤ maxOrdinal) :
    (fill n k todo place candidate rank chosen).Yields (pick n left todo rank chosen) := by
  induction todo generalizing place candidate left rank chosen with
  | zero =>
    rw [pick_zero]
    exact .pure _
  | succ after ih =>
    have hafter : k - 1 - place = after := by omega
    rw [fill]
    refine .bind (yields_sub hk (by omega)) ?_
    refine .bind (yields_sub (by omega) (by omega)) ?_
    rw [hafter]
    obtain ⟨found, hyields, hfinds⟩ := exists_yields_search hn hcandidate
      (show candidate + after ≤ n by omega) (show left < n + 1 by omega) hrank
    refine .bind hyields ?_
    cases hfinds with
    | none h =>
      rw [h]
      exact .pure _
    | some hentry hrest hle h =>
      rw [h]
      refine .bind (yields_add (by omega)) ?_
      exact ih _ (by omega) (by omega) hrest (hle.trans hrank)

/-- **Unranking on words.** -/
theorem yields_unrank (hn : n < 2 ^ 32) (k : Nat) (hrank : rank ≤ maxOrdinal) :
    (unrank n k rank).Yields (IndexVector.unrank n k rank) := by
  rw [unrank]
  split
  · next hk =>
    have hnone : IndexVector.unrank n k rank = none := by
      rw [IndexVector.unrank_eq_getElem? n k hrank, List.getElem?_eq_none_iff,
        IndexVector.length_listing, Nat.choose_eq_zero_of_lt hk]
      exact Nat.zero_le rank
    rw [hnone]
    exact .pure _
  · next hk =>
    have hle := Nat.not_lt.mp hk
    exact yields_fill hn (by omega) [] (Nat.zero_add k) (Nat.zero_add n) hle hrank

/-- **Unranking succeeds where the rank is found to be inside the block**, and only there. -/
theorem yields_beyond?_none_iff (hn : n < 2 ^ 32) (k : Nat) (hrank : rank ≤ maxOrdinal) :
    (beyond? n k rank).Yields none ↔ ∃ v, (unrank n k rank).Yields (some v) := by
  have hfound : ∀ v, (unrank n k rank).Yields (some v) ↔ IndexVector.unrank n k rank = some v :=
    fun v ↦ (yields_unrank hn k hrank).yields_iff
  simp only [(yields_beyond? hn k hrank).yields_iff, hfound]
  rw [← Option.isSome_iff_exists, IndexVector.unrank_eq_getElem? n k hrank, isSome_getElem?,
    IndexVector.length_listing, Binomial.beyond?_eq n k hrank]
  split <;> simp_all

/-! ## Placing -/

theorem yields_locate (hn : n < 2 ^ 32) (width size : Nat) (hrank : rank ≤ maxOrdinal) :
    (locate n width size rank).Yields (Combinations.locate n width size rank) := by
  induction width generalizing size rank with
  | zero => exact .pure _
  | succ width ih =>
    rw [locate, Combinations.locate]
    refine .bind (yields_beyond? hn size hrank) ?_
    cases hbeyond : Binomial.beyond? n size rank with
    | none =>
      refine .bind (yields_unrank hn size hrank) ?_
      cases IndexVector.unrank n size rank <;> exact .pure _
    | some rest => exact ih _ ((Binomial.le_of_beyond?_eq_some hbeyond).trans hrank)

/-- What is left of a rank behind all sizes is not more than the rank. -/
theorem rest_le_of_locate (n width size : Nat) (hrank : rank ≤ maxOrdinal) {rest : Nat}
    (h : Combinations.locate n width size rank = .past rest) : rest ≤ rank := by
  rw [locate_eq n width size hrank] at h
  exact Landing.rest_le_of_inList h

/-- The counters of a walk that has just been placed. -/
theorem yields_settle (n : Nat) (extent : Extent) {start : Nat} (hstart : start ≤ maxOrdinal)
    {landing : Landing} (hrest : ∀ rest, landing = .past rest → rest ≤ start) :
    (settle n extent start landing).Yields (Walk.ofLanding n extent start landing) := by
  have hlt := lt_of_le_maxOrdinal hstart
  cases landing with
  | found indices =>
    rw [settle, Walk.ofLanding]
    refine .bind (yields_add (by omega)) ?_
    refine .bind (yields_add (by omega)) ?_
    rw [Nat.zero_add]
    exact .pure _
  | past rest =>
    rw [settle, Walk.ofLanding]
    refine .bind (yields_sub hlt (hrest rest rfl)) ?_
    refine .bind (yields_add (by omega)) ?_
    rw [Nat.zero_add]
    exact .pure _

theorem yields_seek (hn : n < 2 ^ 32) (extent : Extent) (hasEmpty : Bool) {start : Nat}
    (hstart : start ≤ maxOrdinal) :
    (seek n extent hasEmpty start).Yields
      (Walk.ofLanding n extent start (locateFrom n extent hasEmpty start)) := by
  have hlt := lt_of_le_maxOrdinal hstart
  rw [seek, locateFrom]
  cases hasEmpty with
  | false =>
    refine .bind (yields_locate hn extent.width extent.first hstart) ?_
    exact yields_settle n extent hstart fun rest ↦ rest_le_of_locate n _ _ hstart
  | true =>
    rcases Nat.eq_zero_or_pos start with rfl | hpos
    · exact .bind (yields_add (by omega)) (.pure _)
    · have hrank : start - 1 ≤ maxOrdinal := (Nat.sub_le start 1).trans hstart
      have hne : ¬(start == 0) = true := by simpa using hpos.ne'
      simp only [if_true, if_neg hpos.ne', Bool.true_and, if_neg hne, Bool.toNat_true]
      refine .bind (yields_sub hlt hpos) ?_
      refine .bind (yields_locate hn extent.width extent.first hrank) ?_
      refine yields_settle n extent hstart fun rest hrest ↦ ?_
      exact (rest_le_of_locate n _ _ hrank hrest).trans (Nat.sub_le start 1)

/-- **Placing a walk on words.** -/
theorem yields_ofConfig (hn : n < 2 ^ 32) (config : Config) :
    (ofConfig config n).Yields (Walk.ofConfig config n) := by
  cases hextent : config.extent n with
  | error e =>
    rw [ofConfig, Walk.ofConfig, hextent]
    exact .pure _
  | ok extent =>
    simp only [ofConfig, Walk.ofConfig, hextent]
    exact .bind (yields_seek hn extent _ (toNat_le_maxOrdinal _)) (.pure _)

end Words
end Combinations
