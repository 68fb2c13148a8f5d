import Combinations.Partition
import Combinations.Proofs.Config.Total
import Combinations.Proofs.Window

/-!
# A partition covers what the window selects

The windows that a run is split into cover, one behind the other, the combinations that its own
window selects (`Selection.tiles_split`); their lengths differ by at most one
(`Selection.limit_split`).  So the slices of the windows make up the slice of the run
(`Config.Splits`), and since windows are ordinary configurations this goes on through any number of
further splits (`Config.splits_subdivide`).
-/

set_option autoImplicit false

namespace Combinations

variable {α : Type} {config : Config} {n total parts : Nat}

/-! ## Cutting -/

/-- Windows that are cut one behind the other leave no gap. -/
theorem Window.tiles_cut {base extra count start : Nat} (hextra : extra ≤ count)
    (hpos : 0 < base ∨ extra = count) (hfits : start + (base * count + extra) ≤ maxOrdinal) :
    Window.Tiles start (Window.cut base extra count start) (start + (base * count + extra)) := by
  fun_induction Window.cut base extra count start with
  | case1 extra start =>
    obtain rfl : extra = 0 := by omega
    exact .nil start
  | case2 count start ih =>
    rw [Nat.mul_succ] at hfits ⊢
    have hstart := toNat_ofNat_of_le (show start ≤ maxOrdinal by omega)
    have hlimit := toNat_ofNat_of_le (show base ≤ maxOrdinal by omega)
    have hend : start + (base * count + base + 0) = start + base + (base * count + 0) := by omega
    refine .cons hstart (by rw [hlimit]; omega) ?_
    rw [hlimit, hend]
    exact ih (Nat.zero_le _) (by omega) (by omega)
  | case3 extra count start ih =>
    rw [Nat.mul_succ] at hfits ⊢
    have hstart := toNat_ofNat_of_le (show start ≤ maxOrdinal by omega)
    have hlimit := toNat_ofNat_of_le (show base + 1 ≤ maxOrdinal by omega)
    have hend : start + (base * count + base + (extra + 1)) =
        start + (base + 1) + (base * count + extra) := by omega
    refine .cons hstart (by rw [hlimit]; omega) ?_
    rw [hlimit, hend]
    exact ih (by omega) (by omega) (by omega)

theorem Window.length_cut (base extra count start : Nat) :
    (Window.cut base extra count start).length = count := by
  fun_induction Window.cut base extra count start with
  | case1 => rfl
  | case2 count start ih => rw [List.length_cons, ih]
  | case3 extra count start ih => rw [List.length_cons, ih]

/-- There are two lengths of windows in a cut, one above the other. -/
theorem Window.limit_cut {base extra count start : Nat} (hfits : base + min extra 1 ≤ maxOrdinal) :
    ∀ window ∈ Window.cut base extra count start,
      window.limit.toNat = base ∨ window.limit.toNat = base + 1 := by
  fun_induction Window.cut base extra count start with
  | case1 => simp
  | case2 count start ih =>
    exact List.forall_mem_cons.mpr ⟨.inl (toNat_ofNat_of_le (by omega)), ih hfits⟩
  | case3 extra count start ih =>
    exact List.forall_mem_cons.mpr ⟨.inr (toNat_ofNat_of_le (by omega)), ih (by omega)⟩

/-! ## Selecting and splitting -/

theorem Window.select_start_add_remaining_le (window : Window) (total : Nat) :
    (window.select total).start + (window.select total).remaining ≤ total := by
  rw [Window.select]
  simp only
  split <;> omega

/-- The selection of a window is its slice, with its bounds cut back to what there is. -/
theorem Window.slice_eq_select (window : Window) {all : List α} (h : all.length = total) :
    window.slice all =
      (all.drop (window.select total).start).take (window.select total).remaining := by
  have hdrop : all.drop window.start.toNat = all.drop (min window.start.toNat total) := by
    rcases Nat.le_total window.start.toNat total with hle | hle
    · rw [Nat.min_eq_left hle]
    · rw [Nat.min_eq_right hle, List.drop_of_length_le (by omega),
        List.drop_of_length_le (by omega)]
  have hrest : (all.drop (min window.start.toNat total)).length =
      total - min window.start.toNat total := by
    rw [List.length_drop, h]
  rw [Window.slice, Window.select, hdrop]
  simp only
  split
  · next hzero =>
    have hzero : window.limit.toNat = 0 := congrArg UInt64.toNat hzero
    rw [Window.allow, if_pos hzero, ← hrest, List.take_length]
  · next hlimit =>
    have hpos : window.limit.toNat ≠ 0 := fun hzero ↦ hlimit (UInt64.toNat.inj hzero)
    rw [Window.allow, if_neg hpos, Nat.sub_zero, ← hrest, List.take_eq_take_min, Nat.min_comm]

theorem Window.length_slice (window : Window) {all : List α} (h : all.length = total) :
    (window.slice all).length = (window.select total).remaining := by
  have := window.select_start_add_remaining_le total
  rw [window.slice_eq_select h, List.length_take, List.length_drop, h]
  omega

namespace Selection

variable {selection : Selection}

theorem length_split (selection : Selection) (parts : Nat) :
    (selection.split parts).length = min parts selection.remaining :=
  Window.length_cut _ _ _ _

/-- **A split leaves no gap**, and none of its windows is empty. -/
theorem tiles_split (hparts : 0 < parts)
    (hfits : selection.start + selection.remaining ≤ maxOrdinal) :
    Window.Tiles selection.start (selection.split parts)
      (selection.start + selection.remaining) := by
  rw [split]
  rcases Nat.lt_or_ge selection.remaining parts with hlt | hge
  · -- every window holds one combination
    have hsum : 0 * selection.remaining + selection.remaining = selection.remaining := by omega
    rw [Nat.div_eq_of_lt hlt, Nat.mod_eq_of_lt hlt, Nat.min_eq_right hlt.le]
    have h : Window.Tiles selection.start _ _ :=
      Window.tiles_cut (Nat.le_refl selection.remaining) (.inr rfl) (by rwa [hsum])
    rwa [hsum] at h
  · rw [Nat.min_eq_left hge]
    have hdiv := Nat.div_add_mod' selection.remaining parts
    have hpos : 0 < selection.remaining / parts := Nat.div_pos hge hparts
    have hmod : selection.remaining % parts ≤ parts := (Nat.mod_lt _ hparts).le
    have h : Window.Tiles selection.start _ _ :=
      Window.tiles_cut hmod (.inl hpos) (by rwa [hdiv])
    rwa [hdiv] at h

/-- **The windows of a split differ in length by at most one.** -/
theorem limit_split (hparts : 0 < parts)
    (hfits : selection.start + selection.remaining ≤ maxOrdinal) :
    ∀ a ∈ selection.split parts, ∀ b ∈ selection.split parts,
      a.limit.toNat ≤ b.limit.toNat + 1 := by
  have hbase : selection.remaining / parts + min (selection.remaining % parts) 1 ≤ maxOrdinal := by
    have hdiv := Nat.div_add_mod' selection.remaining parts
    have hle : selection.remaining / parts ≤ selection.remaining / parts * parts :=
      Nat.le_mul_of_pos_right _ hparts
    omega
  intro a ha b hb
  have hlengthA := Window.limit_cut hbase a ha
  have hlengthB := Window.limit_cut hbase b hb
  omega

end Selection

/-! ## Splitting a configuration -/

/-- The windows of a configuration that covers its part of `total` combinations. -/
def Config.split (total parts : Nat) (config : Config) : List Config :=
  ((config.window.select total).split parts).map config.withWindow

theorem Config.map_window_split (config : Config) (total parts : Nat) :
    (config.split total parts).map (·.window) = (config.window.select total).split parts := by
  rw [Config.split, List.map_map]
  exact List.map_id _

theorem Config.length_split (config : Config) (total parts : Nat) :
    (config.split total parts).length = min parts (config.window.select total).remaining := by
  rw [Config.split, List.length_map, Selection.length_split]

theorem Config.tiles_split (config : Config) (hparts : 0 < parts) (htotal : total ≤ maxOrdinal) :
    Window.Tiles (config.window.select total).start ((config.split total parts).map (·.window))
      ((config.window.select total).start + (config.window.select total).remaining) := by
  rw [Config.map_window_split]
  exact Selection.tiles_split hparts
    ((config.window.select_start_add_remaining_le total).trans htotal)

theorem Config.limit_split (config : Config) (hparts : 0 < parts) (htotal : total ≤ maxOrdinal) :
    ∀ a ∈ config.split total parts, ∀ b ∈ config.split total parts,
      a.window.limit.toNat ≤ b.window.limit.toNat + 1 := by
  have hlimits := Selection.limit_split hparts
    ((config.window.select_start_add_remaining_le total).trans htotal)
  rw [← config.map_window_split total parts] at hlimits
  intro a ha b hb
  exact hlimits _ (List.mem_map_of_mem ha) _ (List.mem_map_of_mem hb)

theorem Config.partition_eq (hparts : 0 < parts) (htotal : config.total n = .ok total) :
    config.partition n parts =
      .ok (.partitioned total (config.window.select total).start
        (config.window.select total).remaining (config.split total parts).length,
        config.split total parts) := by
  rw [Config.partition, if_neg hparts.ne', htotal, Config.split, List.length_map]
  rfl

/-- `windows` are restrictions of one configuration that together select, out of `total`
combinations, what its own window selects. -/
structure Config.Splits (config : Config) (total : Nat) (windows : List Config) : Prop where
  eq_withWindow : ∀ window ∈ windows, window = config.withWindow window.window
  flatMap_slice : ∀ {α : Type} (all : List α), all.length = total →
    windows.flatMap (·.window.slice all) = config.window.slice all

theorem Config.splits_self (config : Config) (total : Nat) : config.Splits total [config] where
  eq_withWindow := List.forall_mem_singleton.mpr rfl
  flatMap_slice _ _ := List.flatMap_singleton ..

/-- **The windows of a split select what was selected before.** -/
theorem Config.splits_split (config : Config) (hparts : 0 < parts) (htotal : total ≤ maxOrdinal) :
    config.Splits total (config.split total parts) where
  eq_withWindow := by
    rw [Config.split]
    exact List.forall_mem_map.mpr fun window _ ↦ rfl
  flatMap_slice all hall := by
    have hslices := (config.tiles_split hparts htotal).flatMap_slice all
    rw [Nat.add_sub_cancel_left, ← config.window.slice_eq_select hall, List.flatMap_map] at hslices
    exact hslices

/-- Splitting each part of a split is a split. -/
theorem Config.Splits.flatMap {windows : List Config} (h : config.Splits total windows)
    {cut : Config → List Config} (hcut : ∀ window : Config, window.Splits total (cut window)) :
    config.Splits total (windows.flatMap cut) where
  eq_withWindow piece hpiece := by
    obtain ⟨window, hwindow, hmem⟩ := List.mem_flatMap.mp hpiece
    have hself := (hcut window).eq_withWindow piece hmem
    rw [h.eq_withWindow window hwindow] at hself
    exact hself
  flatMap_slice all hall := by
    rw [List.flatMap_assoc, ← h.flatMap_slice all hall]
    exact List.flatMap_congr fun window _ ↦ (hcut window).flatMap_slice all hall

theorem partitionEach_eq {configs : List Config} (hparts : 0 < parts)
    (htotal : ∀ config ∈ configs, config.total n = .ok total) :
    ∃ events,
      partitionEach n parts configs = (events, .ok (configs.flatMap (·.split total parts))) := by
  induction configs with
  | nil => exact ⟨#[], rfl⟩
  | cons config rest ih =>
    obtain ⟨hconfig, hrest⟩ := List.forall_mem_cons.mp htotal
    obtain ⟨events, heach⟩ := ih hrest
    rw [partitionEach, Config.partition_eq hparts hconfig, heach]
    exact ⟨_, rfl⟩

/-- **Splitting again and again** never fails, and ends in a split. -/
theorem Config.splits_subdivide {parts : List Nat} {configs : List Config}
    (hparts : ∀ p ∈ parts, 0 < p) (htotal : config.total n = .ok total)
    (h : config.Splits total configs) :
    ∃ events windows, subdivide n parts configs = (events, .ok windows) ∧
      config.Splits total windows := by
  induction parts generalizing configs with
  | nil => exact ⟨#[], configs, rfl, h⟩
  | cons p rest ih =>
    obtain ⟨hp, hrest⟩ := List.forall_mem_cons.mp hparts
    obtain ⟨extent, -, -, hle⟩ := Config.of_total_eq_ok htotal
    -- a window counts the same combinations as the configuration that it restricts
    have hwindows : ∀ window ∈ configs, window.total n = .ok total := by
      intro window hmem
      rw [h.eq_withWindow window hmem, ← htotal]
      rfl
    obtain ⟨events, heach⟩ := partitionEach_eq hp hwindows
    obtain ⟨more, windows, hsubdivide, hsplits⟩ :=
      ih hrest (h.flatMap fun window ↦ window.splits_split hp hle)
    refine ⟨events ++ more, windows, ?_, hsplits⟩
    rw [subdivide, heach]
    simp only
    rw [hsubdivide]

end Combinations
