import Combinations.Config.Total

/-!
# Changing a draft step by step

A draft is filled in by setters, each of which sets one part of it and leaves the others alone.  The
three setters of the sizes each set both ends, so a later one replaces an earlier one entirely.

`Draft.step` is one step of a longer session: a setter, building, or one of the two operations that
need a built configuration.  Every step reports what building the draft then gives, and a step that
fails to build the draft or to move the window leaves the draft as it was.
-/

set_option autoImplicit false

namespace Combinations

/-- One part of a draft with its new value. -/
inductive Setting where
  /-- Combinations of exactly `k` items. -/
  | size (k : UInt32)
  /-- Combinations of `min..=max` items. -/
  | sizeRange (min max : UInt32)
  /-- Combinations of `min` items up to all of them. -/
  | sizeMin (min : UInt32)
  | start (start : UInt64)
  | limit (limit : UInt64)
  | showNumbers (shown : Bool)
  | showEmpty (shown : Bool)
  | nulTerminate (nul : Bool)
  | delimiter (text : String)
  | opening (text : String)
  | closing (text : String)
  | debug (logged : Bool)
  deriving DecidableEq, Repr

/-- The draft with one part set. -/
def Draft.set (draft : Draft) : Setting → Draft
  | .size k => { draft with sizeMin := k, sizeMax := some k }
  | .sizeRange min max => { draft with sizeMin := min, sizeMax := some max }
  | .sizeMin min => { draft with sizeMin := min, sizeMax := none }
  | .start start => { draft with window.start := start }
  | .limit limit => { draft with window.limit := limit }
  | .showNumbers shown => { draft with showNumbers := shown }
  | .showEmpty shown => { draft with showEmpty := shown }
  | .nulTerminate nul => { draft with style.nulTerminate := nul }
  | .delimiter text => { draft with style.delimiter := text }
  | .opening text => { draft with style.opening := some text }
  | .closing text => { draft with style.closing := some text }
  | .debug logged => { draft with debug := logged }

/-- One step of a session. -/
inductive Step where
  /-- Set one part of the draft. -/
  | set (setting : Setting)
  /-- Build the draft and go on from the configuration. -/
  | build
  /-- Build the draft and restrict the configuration to a window. -/
  | window (window : Window)
  /-- Build the draft and move the configuration to its last `count` combinations over `n` items. -/
  | fromEnd (n : Nat) (count : UInt64)
  deriving DecidableEq, Repr

/-- Goes on from a configuration, if there is one, and otherwise leaves the draft as it was. -/
def Draft.resume (draft : Draft) (built : Except Error Config) : Draft × Except Error Config :=
  match built with
  | .ok config => (config.toDraft, .ok config)
  | .error e => (draft, .error e)

/-- The draft after a step, and the configuration that the step yields. -/
def Draft.step (draft : Draft) : Step → Draft × Except Error Config
  | .set setting => (draft.set setting, (draft.set setting).build)
  | .build => draft.resume draft.build
  | .window window => draft.resume (draft.build.map (·.withWindow window))
  | .fromEnd n count => draft.resume (draft.build.bind (·.fromEnd n count))

/-- The configurations that the steps of a session yield, one for each step. -/
def Draft.session (draft : Draft) : List Step → List (Except Error Config)
  | [] => []
  | step :: rest => (draft.step step).2 :: (draft.step step).1.session rest

end Combinations
