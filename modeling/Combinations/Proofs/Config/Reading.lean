import Combinations.Proofs.Config.Draft
import Mathlib.Data.List.Nodup

/-!
# Which documents are configurations

An object is a configuration if its keys are fields, each value is one that its field can have, and
the sizes are not inverted once the defaults stand where no value is given.  A list is one if the
object is that gives its elements to the first fields.  `Config.ofValue_exact` says both.

There is no order in this, but there is one in reading: values are put into a draft one after the
other, an object's by key and a list's by field.  The order makes no difference as long as the keys
are distinct, since each value changes its own field only (`Draft.putEntries_eq_ok`).
-/

set_option autoImplicit false

namespace Combinations

variable {draft after : Draft} {field : Config.Field} {value : Value}
  {entries entries' : List (String × Value)}

/-! ## What an object says -/

namespace Config

/-- An entry that names a field and gives it a value that it can have. -/
def AdmitsEntry (entry : String × Value) : Prop :=
  ∃ field : Field, entry.1 = field.name ∧ field.Admits entry.2

/-- The values of all fields once those that entries give stand in the place of others. -/
def filled (values : Field → Value) (entries : List (String × Value)) (field : Field) : Value :=
  (entries.lookup field.name).getD (values field)

theorem filled_cons {values : Field → Value} {entry : String × Value}
    (hname : entry.1 = field.name) (hfresh : entry.1 ∉ entries.map Prod.fst) :
    filled (Function.update values field entry.2) entries = filled values (entry :: entries) := by
  obtain ⟨key, value⟩ := entry
  subst hname
  funext other
  rw [filled, filled, List.lookup_cons]
  by_cases h : other = field
  · subst h
    have hlookup : entries.lookup other.name = none := by
      refine List.lookup_eq_none_iff.mpr fun entry hentry ↦ bne_iff_ne.mpr fun hname ↦ hfresh ?_
      exact List.mem_map.mpr ⟨entry, hentry, hname.symm⟩
    rw [hlookup, beq_self_eq_true, Function.update_self]
    rfl
  · rw [beq_eq_false_iff_ne.mpr fun hname ↦ h (Field.name_injective hname),
      Function.update_of_ne h]

/-- Elements of a list that are given the names in order have distinct keys. -/
theorem nodup_zip_names (elements : List Value) :
    (((Field.all.map Field.name).zip elements).map Prod.fst).Nodup := by
  rw [List.zip_eq_zip_take_min, List.map_fst_zip (by simp)]
  exact (List.Nodup.map Field.name_injective (by decide)).sublist (List.take_sublist _ _)

theorem lookup_eq_of_perm (h : entries.Perm entries') (hkeys : (entries.map Prod.fst).Nodup)
    (key : String) : entries.lookup key = entries'.lookup key := by
  induction h with
  | nil => rfl
  | cons entry _ ih =>
    rw [List.lookup_cons, List.lookup_cons, ih (List.nodup_cons.mp hkeys).2]
  | swap first second rest =>
    obtain ⟨a, _⟩ := first
    obtain ⟨b, _⟩ := second
    have hne : b ≠ a := fun h ↦ (List.nodup_cons.mp hkeys).1 (h ▸ List.mem_cons_self)
    simp only [List.lookup_cons]
    by_cases h : key = a
    · rw [beq_iff_eq.mpr h, beq_eq_false_iff_ne.mpr (h ▸ hne.symm)]
    · rw [beq_eq_false_iff_ne.mpr h]
  | trans hab _ ihab ihbc => exact (ihab hkeys).trans (ihbc ((hab.map Prod.fst).nodup hkeys))

theorem filled_of_perm {values : Field → Value} (h : entries.Perm entries')
    (hkeys : (entries.map Prod.fst).Nodup) : filled values entries = filled values entries' := by
  funext field
  rw [filled, filled, lookup_eq_of_perm h hkeys]

end Config

/-! ## Filling in a draft -/

namespace Draft

theorem putEntry_eq_ok {entry : String × Value} :
    draft.putEntry entry = .ok after ↔
      ∃ field, entry.1 = field.name ∧ draft.put entry.2 field = .ok after := by
  simp only [← Config.Field.ofName?_eq_some_iff, putEntry]
  cases Config.Field.ofName? entry.1 <;> simp

theorem exists_putEntries : (∃ after, draft.putEntries entries = .ok after) ↔
    ∀ entry ∈ entries, Config.AdmitsEntry entry := by
  induction entries generalizing draft with
  | nil => simp [putEntries]
  | cons entry rest ih =>
    simp only [putEntries, bind_eq_ok, putEntry_eq_ok, List.forall_mem_cons]
    constructor
    · rintro ⟨after, mid, ⟨field, hname, hput⟩, hrest⟩
      exact ⟨⟨field, hname, exists_put.mp ⟨mid, hput⟩⟩, ih.mp ⟨after, hrest⟩⟩
    · rintro ⟨⟨field, hname, hadmits⟩, hrest⟩
      obtain ⟨mid, hput⟩ := exists_put.mpr hadmits
      obtain ⟨after, hrest⟩ := ih.mpr hrest
      exact ⟨after, mid, ⟨field, hname, hput⟩, hrest⟩

theorem get_of_putEntries (hkeys : (entries.map Prod.fst).Nodup)
    (h : draft.putEntries entries = .ok after) : after.get = Config.filled draft.get entries := by
  induction entries generalizing draft with
  | nil =>
    rw [← Except.ok.inj h]
    rfl
  | cons entry rest ih =>
    rw [List.map_cons, List.nodup_cons] at hkeys
    obtain ⟨mid, hentry, hrest⟩ := bind_eq_ok.mp h
    obtain ⟨field, hname, hput⟩ := putEntry_eq_ok.mp hentry
    rw [ih hkeys.2 hrest, get_of_put hput, Config.filled_cons hname hkeys.1]

/-- **Entries with distinct keys make one draft, whatever their order.** -/
theorem putEntries_eq_ok (hkeys : (entries.map Prod.fst).Nodup) :
    draft.putEntries entries = .ok after ↔
      (∀ entry ∈ entries, Config.AdmitsEntry entry) ∧
        after.get = Config.filled draft.get entries := by
  constructor
  · intro h
    exact ⟨exists_putEntries.mp ⟨after, h⟩, get_of_putEntries hkeys h⟩
  · rintro ⟨hadmits, hget⟩
    obtain ⟨other, h⟩ := exists_putEntries.mpr hadmits
    rw [h, ext_get ((get_of_putEntries hkeys h).trans hget.symm)]

theorem putEntries_eq_ok_of_perm (h : entries.Perm entries')
    (hkeys : (entries.map Prod.fst).Nodup) :
    draft.putEntries entries = .ok after ↔ draft.putEntries entries' = .ok after := by
  simp only [putEntries_eq_ok hkeys, putEntries_eq_ok ((h.map Prod.fst).nodup hkeys), h.mem_iff,
    Config.filled_of_perm h hkeys]

/-- The elements of a list are the entries of an object whose keys are the names in order. -/
theorem putElements_eq (fields : List Config.Field) (elements : List Value) :
    draft.putElements fields elements =
      draft.putEntries ((fields.map Config.Field.name).zip elements) := by
  induction fields generalizing draft elements with
  | nil => rfl
  | cons field fields ih =>
    cases elements with
    | nil => rfl
    | cons value elements =>
      simp only [putElements, List.map_cons, List.zip_cons_cons, putEntries, putEntry,
        Config.Field.ofName?_eq_some_iff.mpr rfl, ih]

theorem ofValue_object_eq_ok (hkeys : (entries.map Prod.fst).Nodup) :
    ofValue (.object entries) = .ok draft ↔
      (∀ entry ∈ entries, Config.AdmitsEntry entry) ∧
        draft.get = Config.filled Config.default.get entries := by
  have hperm := Value.perm_byKey entries
  rw [ofValue, putEntries_eq_ok_of_perm hperm ((hperm.map Prod.fst).nodup_iff.mpr hkeys),
    putEntries_eq_ok hkeys, Draft.default, Config.get_toDraft]

theorem ofValue_list_eq_ok {elements : List Value} :
    ofValue (.list elements) = .ok draft ↔ elements.length ≤ Config.Field.all.length ∧
      ofValue (.object ((Config.Field.all.map Config.Field.name).zip elements)) = .ok draft := by
  have hperm := Value.perm_byKey ((Config.Field.all.map Config.Field.name).zip elements)
  have hkeys := (hperm.map Prod.fst).nodup_iff.mpr (Config.nodup_zip_names elements)
  simp only [ofValue, bind_eq_ok, putElements_eq, putEntries_eq_ok_of_perm hperm hkeys]
  by_cases h : Config.Field.all.length < elements.length
  · simp [h, Nat.not_le.mpr h]
  · simp [h, Nat.not_lt.mp h]

end Draft

/-! ## Documents -/

namespace Config

theorem ofValue_eq_ok {config : Config} :
    ofValue value = .ok config ↔ Draft.ofValue value = .ok config.toDraft := by
  simp only [ofValue, bind_eq_ok, mapError_eq_ok, Draft.build_eq_ok, exists_eq_right]

theorem exists_ofValue : (∃ config, ofValue value = .ok config) ↔
    ∃ draft, Draft.ofValue value = .ok draft ∧ ¬Inverted draft.get := by
  simp only [ofValue_eq_ok]
  constructor
  · rintro ⟨config, h⟩
    exact ⟨config.toDraft, h, config.get_toDraft ▸ config.not_inverted⟩
  · rintro ⟨draft, h, hsizes⟩
    obtain ⟨config, rfl⟩ := Draft.exists_toDraft hsizes
    exact ⟨config, h⟩

/-- **A document is a configuration exactly if it is built by the rules.**

* An object with distinct keys is one if each key is the name of a field that admits the value, and
  if the sizes are not inverted with the defaults filled in.  The configuration then has the values
  that are given, and the defaults elsewhere.
* A list of at most eleven elements is the same configuration as the object that gives them to the
  first fields, or none if that is none.  A longer list is none.
* Nothing else is a configuration. -/
theorem ofValue_exact :
    (∀ entries : List (String × Value), (entries.map Prod.fst).Nodup →
      ((∃ config, ofValue (.object entries) = .ok config) ↔
        (∀ entry ∈ entries, AdmitsEntry entry) ∧
          ¬Inverted (filled Config.default.get entries)) ∧
      ∀ config, ofValue (.object entries) = .ok config →
        config.get = filled Config.default.get entries) ∧
    (∀ elements : List Value,
      (elements.length ≤ 11 → ∀ config, ofValue (.list elements) = .ok config ↔
        ofValue (.object ((Field.all.map Field.name).zip elements)) = .ok config) ∧
      (11 < elements.length → ∀ config, ofValue (.list elements) ≠ .ok config)) ∧
    ∀ value config, ofValue value = .ok config →
      (∃ entries, value = .object entries) ∨ ∃ elements, value = .list elements := by
  refine ⟨fun entries hkeys ↦ ⟨?_, ?_⟩, fun elements ↦ ⟨?_, ?_⟩, ?_⟩
  · simp only [exists_ofValue, Draft.ofValue_object_eq_ok hkeys]
    constructor
    · rintro ⟨draft, ⟨hadmits, hget⟩, hsizes⟩
      exact ⟨hadmits, hget ▸ hsizes⟩
    · rintro ⟨hadmits, hsizes⟩
      obtain ⟨draft, hdraft⟩ : ∃ draft, Draft.default.putEntries entries = .ok draft :=
        Draft.exists_putEntries.mpr hadmits
      have hget := Draft.get_of_putEntries hkeys hdraft
      rw [Draft.default, get_toDraft] at hget
      exact ⟨draft, ⟨hadmits, hget⟩, hget ▸ hsizes⟩
  · intro config h
    rw [ofValue_eq_ok, Draft.ofValue_object_eq_ok hkeys, get_toDraft] at h
    exact h.2
  · intro hlength config
    rw [ofValue_eq_ok, ofValue_eq_ok, Draft.ofValue_list_eq_ok]
    exact and_iff_right hlength
  · intro hlength config h
    rw [ofValue_eq_ok, Draft.ofValue_list_eq_ok] at h
    exact absurd h.1 (Nat.not_le.mpr hlength)
  · intro value config h
    cases value with
    | object entries => exact .inl ⟨entries, rfl⟩
    | list elements => exact .inr ⟨elements, rfl⟩
    | _ => cases h

/-- The sizes two to three are one configuration as an object and as a list.  A largest size of zero
alone is none, since the smallest size is then one, and neither is a list of twelve nulls. -/
theorem ofValue_exact_of_sizes :
    (∃ config, ofValue (.object [("size_min", .integer 2), ("size_max", .integer 3)]) = .ok config ∧
      ofValue (.list [.integer 2, .integer 3]) = .ok config) ∧
      (¬∃ config, ofValue (.object [("size_max", .integer 0)]) = .ok config) ∧
      ∀ config, ofValue (.list (List.replicate 12 .null)) ≠ .ok config := by
  obtain ⟨hobject, hlist, -⟩ := ofValue_exact
  obtain ⟨hgiven, -⟩ := hobject [("size_min", .integer 2), ("size_max", .integer 3)] (by decide)
  obtain ⟨hzero, -⟩ := hobject [("size_max", .integer 0)] (by decide)
  have hadmits : ∀ entry ∈ [("size_min", Value.integer 2), ("size_max", Value.integer 3)],
      AdmitsEntry entry :=
    List.forall_mem_cons.mpr ⟨⟨.sizeMin, rfl, .inl (.word32 (by decide) (by decide))⟩,
      List.forall_mem_singleton.mpr ⟨.sizeMax, rfl, .inl (.word32 (by decide) (by decide))⟩⟩
  have hsizes : ¬Inverted (filled Config.default.get
      [("size_min", .integer 2), ("size_max", .integer 3)]) := by
    rintro ⟨min, max, hmin, hmax, hlt⟩
    cases hmin
    cases hmax
    exact absurd hlt (by decide)
  obtain ⟨config, h⟩ := hgiven.mpr ⟨hadmits, hsizes⟩
  exact ⟨⟨config, h, ((hlist [.integer 2, .integer 3]).1 (by decide) config).mpr h⟩,
    fun h ↦ (hzero.mp h).2 ⟨1, 0, rfl, rfl, by decide⟩,
    (hlist (List.replicate 12 .null)).2 (by decide)⟩

end Config

end Combinations
