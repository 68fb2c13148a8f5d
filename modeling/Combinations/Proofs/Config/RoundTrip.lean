import Combinations.Config.Writing
import Combinations.Proofs.Config.Reading

/-!
# What is written is read back

The written form of a configuration is read as that configuration (`Config.ofValue_toValue`), so
writing loses nothing and a configuration that was accepted once is accepted again.

The written form leaves out the fields that are unset, and says nothing about defaults.  So three
places have to agree: which fields are left out (`Config.entry?`), what reading puts in the place of
a field that is missing, and which fields of the default configuration are unset.  They meet in
`Config.filled_entries`: the entries of the written form, filled up with the defaults, are all the
values of the configuration.
-/

set_option autoImplicit false

namespace Combinations

variable {config : Config} {field : Config.Field}

namespace Config

/-- A field admits every value that a configuration has in it. -/
theorem Field.admits_get (config : Config) (field : Field) : field.Admits (config.get field) := by
  cases field <;>
    simp only [get, Admits, shape, isOptional, Shape.fits_word32_iff, Shape.fits_word64_iff,
      Shape.fits_flag_iff, Shape.fits_text_iff, ← Value.exists_eq_ofOption, Bool.false_eq_true,
      false_and, true_and, or_false] <;>
    exact ⟨_, rfl⟩

/-! ## The entries of the written form -/

/-- The entries of the written form of a configuration. -/
def entries (config : Config) : List (String × Value) := Field.all.filterMap config.entry?

theorem entry?_eq_some_iff {entry : String × Value} :
    config.entry? field = some entry ↔
      config.get field ≠ .null ∧ entry = (field.name, config.get field) := by
  unfold entry?
  split
  · next hnull => simp [hnull]
  · next hset =>
    rw [Option.some.injEq, eq_comm, and_iff_right hset]

theorem mem_entries {entry : String × Value} :
    entry ∈ config.entries ↔
      ∃ field, config.get field ≠ .null ∧ entry = (field.name, config.get field) := by
  simp only [entries, List.mem_filterMap, Field.mem_all, true_and, entry?_eq_some_iff]

theorem map_fst_entries_sublist (config : Config) (fields : List Field) :
    ((fields.filterMap config.entry?).map Prod.fst).Sublist (fields.map Field.name) := by
  induction fields with
  | nil => exact List.Sublist.refl _
  | cons field fields ih =>
    cases hentry : config.entry? field with
    | none =>
      rw [List.filterMap_cons_none hentry]
      exact ih.cons field.name
    | some entry =>
      obtain ⟨-, rfl⟩ := entry?_eq_some_iff.mp hentry
      rw [List.filterMap_cons_some hentry]
      exact ih.cons_cons field.name

/-- No key is written twice. -/
theorem nodup_entries (config : Config) : (config.entries.map Prod.fst).Nodup :=
  (List.Nodup.map Field.name_injective (by decide)).sublist
    (map_fst_entries_sublist config Field.all)

theorem lookup_entries_of_ne_null (h : config.get field ≠ .null) :
    config.entries.lookup field.name = some (config.get field) := by
  obtain ⟨front, back, hsplit⟩ := List.append_of_mem (mem_entries.mpr ⟨field, h, rfl⟩)
  refine List.lookup_eq_some_iff.mpr ⟨front, back, hsplit, fun entry hentry ↦ ?_⟩
  -- the key would be written twice
  have hkeys := config.nodup_entries
  rw [hsplit, List.map_append, List.nodup_append] at hkeys
  exact bne_iff_ne.mpr
    (hkeys.2.2 entry.1 (List.mem_map_of_mem hentry) field.name List.mem_cons_self).symm

theorem lookup_entries_of_eq_null (h : config.get field = .null) :
    config.entries.lookup field.name = none := by
  refine List.lookup_eq_none_iff.mpr fun entry hentry ↦ bne_iff_ne.mpr fun hname ↦ ?_
  obtain ⟨other, hset, rfl⟩ := mem_entries.mp hentry
  exact hset (Field.name_injective hname ▸ h)

/-- What is unset in some configuration is unset in the default one. -/
theorem default_get_of_eq_null (h : config.get field = .null) : Config.default.get field = .null := by
  cases field
  case sizeMax | opening | closing => rfl
  all_goals cases h

/-- **The entries of the written form, filled up with the defaults, are all the values.** -/
theorem filled_entries (config : Config) :
    filled Config.default.get config.entries = config.get := by
  funext field
  rw [filled]
  by_cases h : config.get field = .null
  · rw [lookup_entries_of_eq_null h, Option.getD_none, default_get_of_eq_null h, h]
  · rw [lookup_entries_of_ne_null h, Option.getD_some]

/-! ## Reading what is written -/

theorem ofValue_toValue (config : Config) : ofValue config.toValue = .ok config := by
  refine ofValue_eq_ok.mpr ((Draft.ofValue_object_eq_ok config.nodup_entries).mpr ⟨?_, ?_⟩)
  · intro entry hentry
    obtain ⟨field, -, rfl⟩ := mem_entries.mp hentry
    exact ⟨field, rfl, Field.admits_get config field⟩
  · rw [get_toDraft, filled_entries]

/-- **What is written is read back.**

* The written form of a configuration is read as that configuration, whatever its fields hold.
* So a document that has been read can be replaced by the written form of what was read: reading,
  writing and reading again comes to the same as reading once, an error included.
* The written form is an object with an entry for each field that is set, and no other entries. -/
theorem round_trip :
    (∀ config : Config, ofValue config.toValue = .ok config) ∧
      (∀ value : Value, (ofValue value).bind (fun config ↦ ofValue config.toValue) =
        ofValue value) ∧
      ∀ config : Config, ∃ entries, config.toValue = .object entries ∧
        (entries.map Prod.fst).Nodup ∧
        ∀ entry, entry ∈ entries ↔
          ∃ field : Field, config.get field ≠ .null ∧ entry = (field.name, config.get field) := by
  refine ⟨ofValue_toValue, fun value ↦ ?_, fun config ↦ ?_⟩
  · cases ofValue value with
    | error e => rfl
    | ok config => exact ofValue_toValue config
  · exact ⟨config.entries, rfl, config.nodup_entries, fun entry ↦ mem_entries⟩

end Config

end Combinations
