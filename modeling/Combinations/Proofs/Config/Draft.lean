import Combinations.Proofs.Config.Shape

/-!
# The fields of a draft

Filling in a draft is described by the values of its fields, `Draft.get`.

* A draft is known by them (`Draft.ext_get`).
* Whether a value can be put into a field does not depend on the draft (`Draft.exists_put`).
* Putting it there changes this field and no other (`Draft.get_of_put`).

A draft is that of a configuration if its sizes are not inverted, which `Config.Inverted` says of the
values of its fields alone.
-/

set_option autoImplicit false

namespace Combinations

variable {draft after : Draft} {field : Config.Field} {value : Value}

/-! ## What a field can be set to -/

namespace Config

/-- The shape of the values of a field. -/
def Field.shape : Field → Shape
  | sizeMin | sizeMax => .word32
  | start | limit => .word64
  | showNumbers | showEmpty | nulTerminate | debug => .flag
  | delimiter | opening | closing => .text

/-- Whether a field can be unset. -/
def Field.isOptional : Field → Bool
  | sizeMax | opening | closing => true
  | _ => false

/-- A value that a field can have; null only if the field can be unset. -/
def Field.Admits (field : Field) (value : Value) : Prop :=
  field.shape.Fits value ∨ field.isOptional = true ∧ value = .null

/-- A field is found by its name. -/
theorem Field.ofName?_eq_some_iff {key : String} {field : Field} :
    ofName? key = some field ↔ key = field.name := by
  constructor
  · intro h
    unfold ofName? at h
    have hname := List.find?_some h
    exact (beq_iff_eq.mp hname).symm
  · rintro rfl
    cases field <;> rfl

theorem Field.name_injective : Function.Injective name := by
  intro a b h
  have ha := ofName?_eq_some_iff.mpr h
  rw [ofName?_eq_some_iff.mpr rfl] at ha
  exact Option.some.inj ha

end Config

/-! ## Setting a field -/

/-- The value of a field in a draft. -/
def Draft.get (draft : Draft) : Config.Field → Value
  | .sizeMin => .word32 draft.sizeMin
  | .sizeMax => .ofOption .word32 draft.sizeMax
  | .start => .word64 draft.window.start
  | .limit => .word64 draft.window.limit
  | .showNumbers => .bool draft.showNumbers
  | .showEmpty => .bool draft.showEmpty
  | .nulTerminate => .bool draft.style.nulTerminate
  | .delimiter => .string draft.style.delimiter
  | .opening => .ofOption .string draft.style.opening
  | .closing => .ofOption .string draft.style.closing
  | .debug => .bool draft.debug

theorem Config.get_toDraft (config : Config) : config.toDraft.get = config.get := by
  funext field
  cases field <;> rfl

namespace Draft

open Value

/-- Two drafts with the same values are the same. -/
theorem ext_get (h : draft.get = after.get) : draft = after := by
  have hmin := injective_of_read asWord32_eq_ok (congrFun h .sizeMin)
  have hmax := injective_of_read asOptionWord32_eq_ok (congrFun h .sizeMax)
  have hstart := injective_of_read asWord64_eq_ok (congrFun h .start)
  have hlimit := injective_of_read asWord64_eq_ok (congrFun h .limit)
  have hnumbers := injective_of_read asFlag_eq_ok (congrFun h .showNumbers)
  have hempty := injective_of_read asFlag_eq_ok (congrFun h .showEmpty)
  have hnul := injective_of_read asFlag_eq_ok (congrFun h .nulTerminate)
  have hdelimiter := injective_of_read asText_eq_ok (congrFun h .delimiter)
  have hopening := injective_of_read asOptionText_eq_ok (congrFun h .opening)
  have hclosing := injective_of_read asOptionText_eq_ok (congrFun h .closing)
  have hdebug := injective_of_read asFlag_eq_ok (congrFun h .debug)
  obtain ⟨⟨⟨_, _⟩, _, _, ⟨_, _, _, _⟩, _⟩, _, _⟩ := draft
  obtain ⟨⟨⟨_, _⟩, _, _, ⟨_, _, _, _⟩, _⟩, _, _⟩ := after
  subst hmin hmax hstart hlimit hnumbers hempty hnul hdelimiter hopening hclosing hdebug
  rfl

/-- A value can be put into a field exactly if the field admits it. -/
theorem exists_put : (∃ after, draft.put value field = .ok after) ↔ field.Admits value := by
  cases field <;>
    simp only [put, exists_map_eq_ok, asWord32_eq_ok, asWord64_eq_ok, asFlag_eq_ok, asText_eq_ok,
      asOptionWord32_eq_ok, asOptionText_eq_ok, exists_eq_ofOption, Config.Field.Admits,
      Config.Field.shape, Config.Field.isOptional, Shape.fits_word32_iff, Shape.fits_word64_iff,
      Shape.fits_flag_iff, Shape.fits_text_iff, Bool.false_eq_true, false_and, true_and, or_false]

/-- Putting a value into a field changes that field and no other. -/
theorem get_of_put (h : draft.put value field = .ok after) :
    after.get = Function.update draft.get field value := by
  have hsame : after.get field = value := by
    cases field <;> obtain ⟨x, hread, rfl⟩ := map_eq_ok.mp h
    case sizeMin => exact (asWord32_eq_ok.mp hread).symm
    case sizeMax => exact (asOptionWord32_eq_ok.mp hread).symm
    case start | limit => exact (asWord64_eq_ok.mp hread).symm
    case delimiter => exact (asText_eq_ok.mp hread).symm
    case opening | closing => exact (asOptionText_eq_ok.mp hread).symm
    all_goals exact (asFlag_eq_ok.mp hread).symm
  have hother : ∀ other, other ≠ field → after.get other = draft.get other := by
    intro other hne
    cases field <;> obtain ⟨x, -, rfl⟩ := map_eq_ok.mp h <;> cases other <;>
      first | rfl | exact absurd rfl hne
  exact Function.eq_update_iff.mpr ⟨hsame, hother⟩

end Draft

/-! ## Building -/

/-- The largest size is set, and below the smallest. -/
def Config.Inverted (values : Config.Field → Value) : Prop :=
  ∃ min max : Int, values .sizeMin = .integer min ∧ values .sizeMax = .integer max ∧ max < min

theorem SizeRange.new_eq_ok {min : UInt32} {max : Option UInt32} {r : SizeRange} :
    SizeRange.new min max = .ok r ↔ min = r.min ∧ max = r.max := by
  constructor
  · intro h
    unfold SizeRange.new at h
    split at h
    · rw [← Except.ok.inj h]
      exact ⟨rfl, rfl⟩
    · split at h
      · rw [← Except.ok.inj h]
        exact ⟨rfl, rfl⟩
      · cases h
  · rintro ⟨rfl, rfl⟩
    exact SizeRange.new_self r

theorem Draft.build_eq_ok {config : Config} : draft.build = .ok config ↔ draft = config.toDraft := by
  constructor
  · intro h
    obtain ⟨sizes, hsizes, rfl⟩ := map_eq_ok.mp h
    obtain ⟨hmin, hmax⟩ := SizeRange.new_eq_ok.mp hsizes
    rw [Config.toDraft, ← hmin, ← hmax]
  · rintro rfl
    exact build_toDraft config

theorem Config.not_inverted (config : Config) : ¬Inverted config.get := by
  rintro ⟨min, max, hmin, hmax, hlt⟩
  cases hset : config.sizes.max with
  | none => simp [Config.get, hset, Value.ofOption] at hmax
  | some m =>
    have hle := UInt32.le_iff_toNat_le.mp (config.sizes.min_le_max m hset)
    simp only [Config.get, hset, Value.ofOption, Value.word32, Value.integer.injEq] at hmin hmax
    omega

/-- A draft whose sizes are not inverted is that of a configuration. -/
theorem Draft.exists_toDraft (h : ¬Config.Inverted draft.get) :
    ∃ config : Config, draft = config.toDraft := by
  refine ⟨⟨draft.toOptions, draft.sizeMin, draft.sizeMax, fun m hm ↦ ?_⟩, rfl⟩
  rw [UInt32.le_iff_toNat_le]
  by_contra hlt
  refine h ⟨draft.sizeMin.toNat, m.toNat, rfl, ?_, by omega⟩
  rw [Draft.get, Option.mem_def.mp hm]
  rfl

end Combinations
