import Combinations.Config.Script
import Combinations.Proofs.Config.Draft

/-!
# What a session leaves in a draft

A session changes a draft step by step, and some of its steps fail.

* What counts is the last write (`read_foldl`): for each field the latest setting that sets it
  (`Draft.get_setAll`), for the two sizes the latest setter of the sizes (`Draft.sizes_after`).
* The steps of a session come to a list of settings, to which a step that fails adds nothing
  (`Draft.effects`, `Draft.after_eq_setAll`).
* A configuration that a step yields is the draft after the step (`Draft.toDraft_of_session`).

The two sizes are set together.  While the latest pair is inverted nothing can be built, and nothing
is left of it when a pair that is not inverted has replaced it.
-/

set_option autoImplicit false

namespace Combinations

variable {config : Config} {draft : Draft} {field : Config.Field} {step : Step}

/-! ## The last write -/

/-- The last value that an element of a list writes, or `initial` if none does. -/
def lastWrite {α β : Type} (write : α → Option β) (elements : List α) (initial : β) : β :=
  (elements.filterMap write).getLastD initial

theorem lastWrite_cons {α β : Type} (write : α → Option β) (a : α) (rest : List α) (initial : β) :
    lastWrite write (a :: rest) initial = lastWrite write rest ((write a).getD initial) := by
  rw [lastWrite, lastWrite]
  cases hwrite : write a with
  | none => rw [List.filterMap_cons_none hwrite, Option.getD_none]
  | some b => rw [List.filterMap_cons_some hwrite, Option.getD_some, List.getLastD_cons]

theorem lastWrite_concat {α β : Type} {write : α → Option β} {a : α} {b : β} (h : write a = some b)
    (elements : List α) (initial : β) : lastWrite write (elements ++ [a]) initial = b := by
  rw [lastWrite, List.filterMap_append, List.filterMap_cons_some h, List.filterMap_nil,
    List.getLastD_concat]

/-- Where each step either writes what is read or leaves it, the last write is read in the end. -/
theorem read_foldl {σ α β : Type} {next : σ → α → σ} {write : α → Option β} (read : σ → β)
    (h : ∀ state a, read (next state a) = (write a).getD (read state)) (elements : List α)
    (state : σ) : read (elements.foldl next state) = lastWrite write elements (read state) := by
  induction elements generalizing state with
  | nil => rfl
  | cons a rest ih => rw [List.foldl_cons, ih, h, lastWrite_cons]

/-! ## Settings -/

/-- The value that a setting gives a field, if it sets the field. -/
def Setting.value? : Config.Field → Setting → Option Value
  | .sizeMin, .size k | .sizeMax, .size k => some (.word32 k)
  | .sizeMin, .sizeRange low _ => some (.word32 low)
  | .sizeMax, .sizeRange _ high => some (.word32 high)
  | .sizeMin, .sizeMin low => some (.word32 low)
  | .sizeMax, .sizeMin _ => some .null
  | .start, .start ordinal => some (.word64 ordinal)
  | .limit, .limit most => some (.word64 most)
  | .showNumbers, .showNumbers b => some (.bool b)
  | .showEmpty, .showEmpty b => some (.bool b)
  | .nulTerminate, .nulTerminate b => some (.bool b)
  | .delimiter, .delimiter text => some (.string text)
  | .opening, .opening text => some (.string text)
  | .closing, .closing text => some (.string text)
  | .debug, .debug b => some (.bool b)
  | _, _ => none

/-- The two sizes that a setting gives, if it sets them. -/
def Setting.sizes? : Setting → Option (UInt32 × Option UInt32)
  | .size k => some (k, some k)
  | .sizeRange low high => some (low, some high)
  | .sizeMin low => some (low, none)
  | _ => none

/-- The two sizes that a step gives, if it is a setter of the sizes. -/
def Step.sizes? : Step → Option (UInt32 × Option UInt32)
  | .set setting => setting.sizes?
  | _ => none

namespace Draft

/-- The two sizes of a draft. -/
def sizes (draft : Draft) : UInt32 × Option UInt32 := (draft.sizeMin, draft.sizeMax)

/-- A setting changes the fields that it sets, and no others. -/
theorem get_set (draft : Draft) (setting : Setting) (field : Config.Field) :
    (draft.set setting).get field = (setting.value? field).getD (draft.get field) := by
  cases setting <;> cases field <;> rfl

/-- The draft with a list of settings made, in order. -/
def setAll (draft : Draft) (settings : List Setting) : Draft := settings.foldl Draft.set draft

theorem setAll_append (draft : Draft) (front back : List Setting) :
    draft.setAll (front ++ back) = (draft.setAll front).setAll back := List.foldl_append

/-- **The latest setting of a field counts.** -/
theorem get_setAll (draft : Draft) (settings : List Setting) (field : Config.Field) :
    (draft.setAll settings).get field =
      lastWrite (Setting.value? field) settings (draft.get field) :=
  read_foldl (·.get field) (fun draft setting ↦ get_set draft setting field) settings draft

/-- Settings of different fields can be made in any order. -/
theorem set_comm {a b : Setting} (h : ∀ field, a.value? field = none ∨ b.value? field = none)
    (draft : Draft) : draft.setAll [a, b] = draft.setAll [b, a] := by
  refine ext_get (funext fun field ↦ ?_)
  rw [get_setAll, get_setAll, lastWrite_cons, lastWrite_cons, lastWrite_cons, lastWrite_cons]
  rcases h field with hnone | hnone <;> rw [hnone] <;> rfl

/-- Nothing is left of a setting once the fields that it sets have been set again. -/
theorem setAll_cons_concat {a b : Setting}
    (h : ∀ field, b.value? field = none → a.value? field = none) (draft : Draft)
    (between : List Setting) :
    draft.setAll (a :: (between ++ [b])) = draft.setAll (between ++ [b]) := by
  refine ext_get (funext fun field ↦ ?_)
  rw [get_setAll, get_setAll, lastWrite_cons]
  cases hb : b.value? field with
  | none => rw [h field hb, Option.getD_none]
  | some value => rw [lastWrite_concat hb, lastWrite_concat hb]

/-! ## Building -/

/-- What building gives where the draft holds a pair of sizes. -/
structure Builds (draft : Draft) (sizes : UInt32 × Option UInt32) : Prop where
  /-- A draft can be built exactly if the pair is not inverted. -/
  exists_build : (∃ config, draft.build = .ok config) ↔ ∀ high ∈ sizes.2, sizes.1 ≤ high
  /-- The error names the pair, and no number of items. -/
  build_eq : ∀ high ∈ sizes.2, high < sizes.1 →
    draft.build = .error (.invalidRange sizes.1.toNat high.toNat none)

theorem build_eq_error {high : UInt32} (hmax : draft.sizeMax = some high)
    (hlt : high < draft.sizeMin) :
    draft.build = .error (.invalidRange draft.sizeMin.toNat high.toNat none) := by
  rw [build, hmax, SizeRange.new, dif_neg (UInt32.not_le.mpr hlt)]
  rfl

theorem builds (draft : Draft) : draft.Builds draft.sizes where
  exists_build := by
    constructor
    · rintro ⟨config, hbuild⟩
      rw [build_eq_ok.mp hbuild]
      exact config.sizes.min_le_max
    · intro hle
      exact ⟨⟨draft.toOptions, ⟨draft.sizeMin, draft.sizeMax, hle⟩⟩, build_eq_ok.mpr rfl⟩
  build_eq := fun _ hmax ↦ build_eq_error hmax

/-! ## Steps -/

/-- The settings that a step comes to: none if it fails. -/
def effect (draft : Draft) : Step → List Setting
  | .set setting => [setting]
  | .build => []
  | .window window =>
    match draft.build with
    | .ok _ => [.start window.start, .limit window.limit]
    | .error _ => []
  | .fromEnd n count =>
    match draft.build.bind (·.total n) with
    | .ok total => [.start (UInt64.ofNat (total - count.toNat))]
    | .error _ => []

theorem fst_step (draft : Draft) (step : Step) :
    (draft.step step).1 = draft.setAll (draft.effect step) := by
  cases step with
  | set setting => rfl
  | build =>
    rw [Draft.step, effect]
    cases hbuild : draft.build with
    | error e => rfl
    | ok config => exact (build_eq_ok.mp hbuild).symm
  | window window =>
    rw [Draft.step, effect]
    cases hbuild : draft.build with
    | error e => rfl
    | ok config =>
      obtain rfl := build_eq_ok.mp hbuild
      rfl
  | fromEnd n count =>
    rw [Draft.step, effect]
    cases hbuild : draft.build with
    | error e => rfl
    | ok config =>
      obtain rfl := build_eq_ok.mp hbuild
      simp only [Except.bind, Config.fromEnd, bind]
      cases config.total n <;> rfl

/-- Only a setter of the sizes changes the sizes. -/
theorem sizes_step (draft : Draft) (step : Step) :
    (draft.step step).1.sizes = step.sizes?.getD draft.sizes := by
  rw [fst_step]
  cases step with
  | set setting => cases setting <;> rfl
  | build => rfl
  | window window =>
    rw [effect]
    cases draft.build <;> rfl
  | fromEnd n count =>
    rw [effect]
    cases draft.build.bind (·.total n) <;> rfl

theorem fst_resume {built : Except Error Config} (h : (draft.resume built).2 = .ok config) :
    (draft.resume built).1 = config.toDraft := by
  cases built with
  | error e => cases h
  | ok other =>
    rw [← Except.ok.inj h]
    rfl

/-- The configuration that a step yields is the draft that it leaves. -/
theorem fst_step_of_ok (h : (draft.step step).2 = .ok config) :
    (draft.step step).1 = config.toDraft := by
  cases step with
  | set setting => exact build_eq_ok.mp h
  | build | window | fromEnd => exact fst_resume h

theorem snd_resume {built : Except Error Config}
    (h : ∀ e, built = .error e → draft.build = .error e) :
    (draft.resume built).2 = (draft.resume built).1.build := by
  cases built with
  | error e => exact (h e rfl).symm
  | ok config => exact (build_toDraft config).symm

/-- A step reports whether the draft that it leaves can be built, unless the draft can be built and its
combinations cannot be counted. -/
theorem snd_step (draft : Draft) (step : Step) :
    (draft.step step).2 = (draft.step step).1.build ∨
      ∃ n count config e, step = .fromEnd n count ∧ (draft.step step).1.build = .ok config ∧
        config.total n = .error e ∧ (draft.step step).2 = .error e := by
  cases step with
  | set setting => exact .inl rfl
  | build => exact .inl (snd_resume fun e h ↦ h)
  | window window =>
    refine .inl (snd_resume fun e h ↦ ?_)
    cases hbuild : draft.build with
    | error e' => rwa [hbuild] at h
    | ok config => cases hbuild ▸ h
  | fromEnd n count =>
    rw [Draft.step]
    cases hbuild : draft.build with
    | error e => exact .inl hbuild.symm
    | ok config =>
      simp only [Except.bind, Config.fromEnd, bind]
      cases htotal : config.total n with
      | ok total => exact .inl (build_toDraft _).symm
      | error e => exact .inr ⟨n, count, config, e, rfl, hbuild, htotal, rfl⟩

/-! ## Sessions -/

/-- The draft after the steps of a session. -/
def after (draft : Draft) (steps : List Step) : Draft :=
  steps.foldl (fun draft step ↦ (draft.step step).1) draft

/-- The settings that the steps of a session come to. -/
def effects (draft : Draft) : List Step → List Setting
  | [] => []
  | step :: rest => draft.effect step ++ (draft.step step).1.effects rest

theorem after_append (draft : Draft) (front back : List Step) :
    draft.after (front ++ back) = (draft.after front).after back := List.foldl_append

theorem after_map_set (draft : Draft) (settings : List Setting) :
    draft.after (settings.map .set) = draft.setAll settings := List.foldl_map

/-- **A session comes to a list of settings.** -/
theorem after_eq_setAll (draft : Draft) (steps : List Step) :
    draft.after steps = draft.setAll (draft.effects steps) := by
  induction steps generalizing draft with
  | nil => rfl
  | cons step rest ih =>
    rw [effects, setAll_append, ← fst_step]
    exact ih (draft.step step).1

/-- **The latest setter of the sizes counts.** -/
theorem sizes_after (draft : Draft) (steps : List Step) :
    (draft.after steps).sizes = lastWrite Step.sizes? steps draft.sizes :=
  read_foldl sizes sizes_step steps draft

theorem getElem?_session (draft : Draft) (steps : List Step) (i : Nat) :
    (draft.session steps)[i]? =
      steps[i]?.map fun step ↦ ((draft.after (steps.take i)).step step).2 := by
  induction steps generalizing draft i with
  | nil => rfl
  | cons step rest ih =>
    cases i with
    | zero => rfl
    | succ i => exact ih (draft.step step).1 i

theorem after_take_succ {steps : List Step} {i : Nat} (h : steps[i]? = some step) (draft : Draft) :
    draft.after (steps.take (i + 1)) = ((draft.after (steps.take i)).step step).1 := by
  rw [List.take_add_one, h, after_append]
  rfl

/-- **What a step yields is the draft after it.** -/
theorem toDraft_of_session {steps : List Step} {i : Nat}
    (h : (draft.session steps)[i]? = some (.ok config)) :
    draft.after (steps.take (i + 1)) = config.toDraft := by
  rw [getElem?_session] at h
  obtain ⟨step, hstep, hok⟩ := Option.map_eq_some_iff.mp h
  rw [after_take_succ hstep]
  exact fst_step_of_ok hok

end Draft

/-! ## Configurations -/

/-- Sizes that are in hand fail to fit `n` items exactly if the largest size is more than `n`. -/
theorem SizeRange.resolve_eq_error_iff {r : SizeRange} {high : UInt32} (hmax : r.max = some high)
    (n : Nat) :
    (∃ low most items, r.resolve n = .error (.invalidRange low most items)) ↔ n < high.toNat := by
  have hle := UInt32.le_iff_toNat_le.mp (r.min_le_max high hmax)
  simp only [resolve, hmax]
  split
  · next hmisfit => exact ⟨fun _ ↦ by omega, fun _ ↦ ⟨_, _, _, rfl⟩⟩
  · next hfits => exact ⟨nofun, fun _ ↦ by omega⟩

/-- What a configuration holds that a session yields from `base` by the steps `steps`. -/
structure Config.LeftBy (config base : Config) (steps : List Step) : Prop where
  /-- In each field stands what the latest step that set it has set. -/
  get_eq : ∀ field, config.get field =
    lastWrite (Setting.value? field) (base.toDraft.effects steps) (base.get field)
  /-- The sizes are the pair of the latest setter of the sizes. -/
  sizes_eq : (config.sizes.min, config.sizes.max) =
    lastWrite Step.sizes? steps (base.sizes.min, base.sizes.max)
  min_le_max : ∀ high ∈ config.sizes.max, config.sizes.min ≤ high
  /-- If the largest size is set, the sizes only fail to fit fewer items than that. -/
  resolve_iff : ∀ high ∈ config.sizes.max, ∀ n,
    (∃ low most items, config.sizes.resolve n = .error (.invalidRange low most items)) ↔
      n < high.toNat
  lt_of_extent : ∀ high ∈ config.sizes.max, ∀ n low most items,
    config.extent n = .error (.invalidRange low most items) → n < high.toNat

theorem Config.leftBy_of_after {base : Config} {steps : List Step}
    (h : base.toDraft.after steps = config.toDraft) : config.LeftBy base steps where
  get_eq := by
    intro field
    rw [← get_toDraft, ← h, Draft.after_eq_setAll, Draft.get_setAll, get_toDraft]
  sizes_eq := by
    have hsizes := base.toDraft.sizes_after steps
    rw [h] at hsizes
    exact hsizes
  min_le_max := config.sizes.min_le_max
  resolve_iff := fun _ ↦ SizeRange.resolve_eq_error_iff
  lt_of_extent := by
    intro high hmax n low most items herror
    refine (SizeRange.resolve_eq_error_iff hmax n).mp ⟨low, most, items, ?_⟩
    rw [extent] at herror
    split at herror
    · cases herror
    · exact herror

/-- **A session keeps the latest of each field.**  Take a configuration, such as the default one, and
change its draft by any steps.

* Building then succeeds exactly if the latest pair of sizes is not inverted, and otherwise the error
  names this pair.
* Each configuration that a step yields has in each field what the latest step that set it has set.
  So its sizes are not inverted, and if the largest is set they fit all item sets of that many items.
* Every step reports what building gives, except that the step that counts combinations can fail on
  its own.
* Settings of different fields can be made in any order, and nothing is left of a setting whose fields
  are set again, even if it could not have been built. -/
theorem Draft.session_keeps_latest (base : Config) (steps : List Step) :
    (base.toDraft.after steps).Builds
        (lastWrite Step.sizes? steps (base.sizes.min, base.sizes.max)) ∧
      (∀ i (config : Config), (base.toDraft.session steps)[i]? = some (.ok config) →
        config.LeftBy base (steps.take (i + 1))) ∧
      (∀ i step, steps[i]? = some step →
        let built := (base.toDraft.after (steps.take (i + 1))).build
        (base.toDraft.session steps)[i]? = some built ∨
          ∃ n count config e, step = .fromEnd n count ∧ built = .ok config ∧
            config.total n = .error e ∧ (base.toDraft.session steps)[i]? = some (.error e)) ∧
      (∀ a b : Setting, (∀ field, a.value? field = none ∨ b.value? field = none) →
        base.toDraft.after (steps ++ [.set a, .set b]) =
          base.toDraft.after (steps ++ [.set b, .set a])) ∧
      ∀ (a b : Setting) (between : List Setting),
        (∀ field, b.value? field = none → a.value? field = none) →
        base.toDraft.after (steps ++ .set a :: (between.map .set ++ [.set b])) =
          base.toDraft.after (steps ++ (between.map .set ++ [.set b])) := by
  refine ⟨?_, fun i config h ↦ Config.leftBy_of_after (toDraft_of_session h), ?_, ?_, ?_⟩
  · have hbuilds := (base.toDraft.after steps).builds
    rw [sizes_after] at hbuilds
    exact hbuilds
  · intro i step hstep
    simp only [getElem?_session, hstep, Option.map_some, after_take_succ hstep, Option.some.injEq]
    exact snd_step _ step
  · intro a b hdisjoint
    rw [after_append, after_append]
    exact set_comm hdisjoint _
  · intro a b between hcovers
    have hmap := (base.toDraft.after steps).after_map_set
    have hgone := setAll_cons_concat hcovers (base.toDraft.after steps) between
    rw [← hmap, ← hmap, List.map_cons, List.map_append, List.map_singleton] at hgone
    rw [after_append, after_append]
    exact hgone

/-- An inverted pair keeps a window from being set, and is gone with the next size. -/
theorem Draft.session_keeps_latest_of_inverted :
    let steps : List Step := [.set (.sizeRange 3 1), .window ⟨5, 3⟩, .set (.size 2)]
    ∃ config : Config, Config.default.toDraft.session steps =
        [.error (.invalidRange 3 1 none), .error (.invalidRange 3 1 none), .ok config] ∧
      config.LeftBy Config.default steps ∧
      config.get .sizeMax = .word32 2 ∧ config.get .start = .word64 0 := by
  intro steps
  obtain ⟨-, hleft, -⟩ := session_keeps_latest Config.default steps
  exact ⟨{ Config.default with sizes := SizeRange.exactly 2 }, rfl, hleft 2 _ rfl, rfl, rfl⟩

end Combinations
