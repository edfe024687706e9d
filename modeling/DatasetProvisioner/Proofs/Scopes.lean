import DatasetProvisioner.Proofs.Lookup
import DatasetProvisioner.Proofs.Runs

/-!
# What outlasts a scope

Code that holds a scope sets and removes keys, and sees the annotations after each operation. Inside,
a key that is set for the duration of the scope is like any other: the annotations are those that
the same operations give on a plain set. The scope only notes the key, and takes no note back. So a
noted key is gone when the scope ends, whether it was there before, was removed in between or was
set again by other means, and wherever the code returned.
-/
namespace DatasetProvisioner.TransientScope

/-- What code may do in a scope. -/
inductive Operation where
  | insertTransient (key value : String)
  | insert (key value : String)
  | erase (key : String)
  deriving Repr, DecidableEq

namespace Operation

def onScope (scope : TransientScope) : Operation → TransientScope
  | insertTransient key value => scope.insertTransient key value
  | insert key value => scope.insert key value
  | erase key => scope.erase key

/-- The same on a plain set, where nothing is noted. -/
def onSet (set : Annotations) : Operation → Annotations
  | insertTransient key value => set.insert key value
  | insert key value => set.insert key value
  | erase key => set.erase key

/-- The key that an operation sets for the duration of the scope. -/
def transientKey? : Operation → Option String
  | insertTransient key _ => some key
  | insert _ _ => none
  | erase _ => none

theorem annotations_onScope (scope : TransientScope) (operation : Operation) :
    (onScope scope operation).annotations = onSet scope.annotations operation := by
  cases operation <;> rfl

theorem mem_transient_onScope {scope : TransientScope} {operation : Operation} {key : String} :
    key ∈ (onScope scope operation).transient ↔
      key ∈ scope.transient ∨ operation.transientKey? = some key := by
  cases operation with
  | insertTransient own value =>
    show key ∈ (scope.insertTransient own value).transient ↔ _ ∨ some own = some key
    rw [mem_insertTransient, Option.some_inj, eq_comm, or_comm]
  | insert own value =>
    show key ∈ scope.transient ↔ _ ∨ none = some key
    simp
  | erase own =>
    show key ∈ scope.transient ↔ _ ∨ none = some key
    simp

end Operation

open Operation

/-- The keys that some operation sets for the duration of the scope. -/
def transientKeys (operations : List Operation) : List String :=
  operations.filterMap transientKey?

theorem transientKeys_append (first rest : List Operation) :
    transientKeys (first ++ rest) = transientKeys first ++ transientKeys rest :=
  List.filterMap_append

/-- What operations on a plain set leave, less the keys that go with the scope. -/
def lasting (set : Annotations) (operations : List Operation) : Annotations :=
  (operations.foldl onSet set).filter fun key _ => key ∉ transientKeys operations

theorem getElem?_lasting (set : Annotations) (operations : List Operation) (key : String) :
    (lasting set operations)[key]? =
      if key ∈ transientKeys operations then none else (operations.foldl onSet set)[key]? := by
  rw [lasting, Std.ExtTreeMap.getElem?_filter']
  by_cases hkey : key ∈ transientKeys operations
  · simp [hkey]
  · cases (operations.foldl onSet set)[key]? <;> simp [hkey]

/-! ## Sequences of operations -/

variable {set : Annotations} {performed : List Operation} {scope : TransientScope}

/-- A scope that was opened on a set and has seen some operations. -/
structure Follows (set : Annotations) (performed : List Operation) (scope : TransientScope) :
    Prop where
  annotations : scope.annotations = performed.foldl onSet set
  noted : ∀ key, key ∈ scope.transient ↔ key ∈ transientKeys performed

theorem follows_opened (set : Annotations) : Follows set [] { annotations := set } :=
  ⟨rfl, fun _ => Iff.rfl⟩

theorem Follows.step (follows : Follows set performed scope) (operation : Operation) :
    Follows set (performed ++ [operation]) (onScope scope operation) where
  annotations := by
    rw [annotations_onScope, follows.annotations, List.foldl_append]
    rfl
  noted key := by
    have hlast : key ∈ transientKeys [operation] ↔ operation.transientKey? = some key := by
      simp [transientKeys]
    rw [mem_transient_onScope, follows.noted, transientKeys_append, List.mem_append, hlast]

theorem Follows.run (follows : Follows set performed scope) (operations : List Operation) :
    Follows set (performed ++ operations) (operations.foldl onScope scope) := by
  induction operations generalizing performed scope with
  | nil =>
    rw [List.append_nil]
    exact follows
  | cons operation operations ih =>
    rw [List.append_cons]
    exact ih (follows.step operation)

/-- Of a scope that ends, what outlasts it remains. -/
theorem Follows.close_eq (follows : Follows set performed scope) :
    scope.close = lasting set performed := by
  refine Std.ExtTreeMap.ext_getElem? fun key => ?_
  rw [getElem?_close, getElem?_lasting, follows.annotations]
  simp only [follows.noted]

/-- A key that was there before goes with the scope, also if it was removed and set again. -/
example :
    let operations : List Operation :=
      [.insertTransient "ref" "pv-1", .erase "ref", .insert "ref" "pv-2", .insert "team" "storage"]
    let scope := operations.foldl onScope
      { annotations := (∅ : Annotations).insert "ref" "pv-0" }
    scope.annotations["ref"]? = some "pv-2" ∧ scope.close["ref"]? = none ∧
      scope.close["team"]? = some "storage" := by
  decide

theorem annotations_scanl (scope : TransientScope) (operations : List Operation) :
    (operations.scanl onScope scope).map (·.annotations) =
      operations.scanl onSet scope.annotations := by
  induction operations generalizing scope with
  | nil => rfl
  | cons operation operations ih =>
    rw [List.scanl_cons, List.scanl_cons, List.map_cons, ih, annotations_onScope]

/-! ## Code that may return anywhere -/

/-- Each operation is answered with the annotations after it. -/
abbrev interface : Interface := ⟨Operation, fun _ => Annotations⟩

def answer (operation : Operation) (scope : TransientScope) :
    Option Annotations × TransientScope :=
  (some (onScope scope operation).annotations, onScope scope operation)

/-- Run code in a scope on a set. The scope ends with the code, whichever of its ends is reached. -/
def guarded {α : Type} (set : Annotations) (code : Program interface α) : Option α × Annotations :=
  let (exit, scope) := code.runWith answer { annotations := set }
  (exit, scope.close)

/-- Code performs some sequence of operations, which depends on what it sees, and sees plain
annotations. -/
theorem Follows.runWith {α : Type} (follows : Follows set performed scope)
    (code : Program interface α) :
    ∃ trace exit after, Program.Runs code trace exit ∧
      code.runWith answer scope = (some exit, after) ∧
      scope.annotations :: trace.map (·.answer) =
        (trace.map (·.call)).scanl onSet scope.annotations ∧
      Follows set (performed ++ trace.map (·.call)) after := by
  induction code generalizing performed scope with
  | done exit =>
    refine ⟨[], exit, scope, .done exit, rfl, rfl, ?_⟩
    rw [List.map_nil, List.append_nil]
    exact follows
  | ask operation next ih =>
    obtain ⟨trace, exit, after, run, ended, seen, hafter⟩ :=
      ih (onScope scope operation).annotations (follows.step operation)
    refine ⟨⟨operation, (onScope scope operation).annotations⟩ :: trace, exit, after,
      .ask _ run, ended, ?_, ?_⟩
    · rw [List.map_cons, List.map_cons, List.scanl_cons, seen, annotations_onScope]
    · rw [List.map_cons, List.append_cons]
      exact hafter

/-- Inside a scope, the annotations are after each operation what plain operations make of them.
When it ends, the keys that were ever set for its duration are gone, and all else is as the last
operation left it. Code that holds a scope performs one such sequence, wherever it returns: an early
return ends the scope as any other does. -/
theorem scope_keeps_lasting_keys {ε α : Type} (set : Annotations) :
    (∀ operations : List Operation,
      (operations.scanl onScope { annotations := set }).map (·.annotations) =
        operations.scanl onSet set ∧
      (operations.foldl onScope { annotations := set }).close = lasting set operations) ∧
    ∀ code : Program interface (Except ε α), ∃ trace exit, Program.Runs code trace exit ∧
      set :: trace.map (·.answer) = (trace.map (·.call)).scanl onSet set ∧
      guarded set code = (some exit, lasting set (trace.map (·.call))) := by
  refine ⟨fun operations => ⟨annotations_scanl _ operations, ?_⟩, fun code => ?_⟩
  · exact ((follows_opened set).run operations).close_eq
  · obtain ⟨trace, exit, after, run, ended, seen, follows⟩ := (follows_opened set).runWith code
    refine ⟨trace, exit, run, seen, ?_⟩
    rw [guarded, ended]
    exact congrArg (some exit, ·) follows.close_eq

end DatasetProvisioner.TransientScope
