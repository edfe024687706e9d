import Mathlib.Data.List.Forall2
import DatasetProvisioner.Program

/-!
# Inverting the runs of a program

A run of a sequence splits into a run of its first part and a run of what follows from the result.
A run of a translated program is a run of the program itself with each call carried out by a run
of its own. Nothing here says how a peer answers.
-/
namespace DatasetProvisioner.Program

variable {I J : Interface} {α β : Type}

@[simp] theorem runs_done {a b : α} {trace : List (Exchange I)} :
    Runs (.done a) trace b ↔ trace = [] ∧ b = a := by
  constructor
  · intro run
    cases run
    exact ⟨rfl, rfl⟩
  · rintro ⟨rfl, rfl⟩
    exact .done _

@[simp] theorem runs_pure {a b : α} {trace : List (Exchange I)} :
    Runs (pure a : Program I α) trace b ↔ trace = [] ∧ b = a :=
  runs_done

@[simp] theorem runs_ask {c : I.Call} {next : I.Answer c → Program I α}
    {trace : List (Exchange I)} {a : α} :
    Runs (.ask c next) trace a ↔
      ∃ answer rest, trace = ⟨c, answer⟩ :: rest ∧ Runs (next answer) rest a := by
  constructor
  · intro run
    cases run with
    | ask answer rest => exact ⟨answer, _, rfl, rest⟩
  · rintro ⟨answer, rest, rfl, run⟩
    exact .ask answer run

/-- A single call ends with its answer. -/
theorem runs_call {c : I.Call} {trace : List (Exchange I)} {answer : I.Answer c} :
    Runs (call c) trace answer ↔ trace = [⟨c, answer⟩] := by
  constructor
  · intro run
    obtain ⟨_, _, rfl, hdone⟩ := runs_ask.mp run
    obtain ⟨rfl, rfl⟩ := runs_done.mp hdone
    rfl
  · rintro rfl
    exact .ask answer (.done answer)

/-- The calls of a sequence are those of its first part, then those of what follows. -/
theorem runs_bind {p : Program I α} {next : α → Program I β} {trace : List (Exchange I)} {b : β} :
    Runs (p >>= next) trace b ↔
      ∃ first a rest, trace = first ++ rest ∧ Runs p first a ∧ Runs (next a) rest b := by
  change Runs (p.bind next) trace b ↔ _
  induction p generalizing trace with
  | done a =>
    simp only [Program.bind, runs_done]
    constructor
    · intro run
      exact ⟨[], a, trace, rfl, ⟨rfl, rfl⟩, run⟩
    · rintro ⟨_, _, rest, rfl, ⟨rfl, rfl⟩, run⟩
      exact run
  | ask c after ih =>
    simp only [Program.bind, runs_ask, ih]
    constructor
    · rintro ⟨answer, _, rfl, first, a, rest, rfl, hfirst, hrest⟩
      exact ⟨⟨c, answer⟩ :: first, a, rest, rfl, ⟨answer, first, rfl, hfirst⟩, hrest⟩
    · rintro ⟨_, a, rest, rfl, ⟨answer, first, rfl, hfirst⟩, hrest⟩
      exact ⟨answer, first ++ rest, rfl, first, a, rest, rfl, hfirst, hrest⟩

theorem Runs.bind {p : Program I α} {next : α → Program I β} {first rest : List (Exchange I)}
    {a : α} {b : β} (hfirst : Runs p first a) (hrest : Runs (next a) rest b) :
    Runs (p >>= next) (first ++ rest) b :=
  runs_bind.mpr ⟨first, a, rest, rfl, hfirst, hrest⟩

/-! ## One program after another -/

/-- The runs of one handler on a sequence of events, with the calls made for each event apart. -/
inductive Segmented {ε : Type} (handler : ε → Program I α) :
    List ε → List (List (Exchange I)) → List α → Prop where
  | nil : Segmented handler [] [] []
  | cons {event : ε} {events : List ε} {part : List (Exchange I)}
      {parts : List (List (Exchange I))} {a : α} {results : List α}
      (head : Runs (handler event) part a) (tail : Segmented handler events parts results) :
      Segmented handler (event :: events) (part :: parts) (a :: results)

/-- Between two events of a sequence nothing is kept: its runs are those of its events in order. -/
theorem runs_mapM {ε : Type} {handler : ε → Program I α} {events : List ε}
    {trace : List (Exchange I)} {results : List α} :
    Runs (events.mapM handler) trace results ↔
      ∃ parts, trace = parts.flatten ∧ Segmented handler events parts results := by
  induction events generalizing trace results with
  | nil =>
    rw [List.mapM_nil, runs_pure]
    constructor
    · rintro ⟨rfl, rfl⟩
      exact ⟨[], rfl, .nil⟩
    · rintro ⟨parts, rfl, segmented⟩
      cases segmented
      exact ⟨rfl, rfl⟩
  | cons event events ih =>
    simp only [List.mapM_cons, runs_bind, runs_pure, ih]
    constructor
    · rintro ⟨part, a, _, rfl, head, _, rest, _, rfl, ⟨parts, rfl, tail⟩, rfl, rfl⟩
      exact ⟨part :: parts, by simp, .cons head tail⟩
    · rintro ⟨_, rfl, segmented⟩
      cases segmented with
      | cons head tail =>
        exact ⟨_, _, _, rfl, head, _, _, [], (List.append_nil _).symm, ⟨_, rfl, tail⟩, rfl, rfl⟩

/-- What every single run guarantees of its calls, the runs of a sequence guarantee part by
part. -/
theorem Segmented.forall₂ {ε : Type} {handler : ε → Program I α}
    (property : ε → List (Exchange I) → Prop)
    (each : ∀ event part a, Runs (handler event) part a → property event part)
    {events : List ε} {parts : List (List (Exchange I))} {results : List α}
    (segmented : Segmented handler events parts results) : List.Forall₂ property events parts := by
  induction segmented with
  | nil => exact .nil
  | cons head tail ih => exact .cons (each _ _ _ head) ih

/-- The same of the calls together with the result. -/
theorem Segmented.forall₂_zip {ε : Type} {handler : ε → Program I α}
    (property : ε → List (Exchange I) → α → Prop)
    (each : ∀ event part a, Runs (handler event) part a → property event part a)
    {events : List ε} {parts : List (List (Exchange I))} {results : List α}
    (segmented : Segmented handler events parts results) :
    List.Forall₂ (fun delivery part => property delivery.1 part delivery.2) (events.zip results)
      parts := by
  induction segmented with
  | nil => exact .nil
  | cons head tail ih => exact .cons (each _ _ _ head) ih

/-! ## Carrying out calls by programs -/

/-- Each call of a trace, replaced by the calls of a run that carried it out. -/
inductive Carried (carry : (c : I.Call) → Program J (I.Answer c)) :
    List (Exchange I) → List (Exchange J) → Prop where
  | nil : Carried carry [] []
  | cons {c : I.Call} {answer : I.Answer c} {part : List (Exchange J)}
      {trace : List (Exchange I)} {whole : List (Exchange J)}
      (head : Runs (carry c) part answer) (tail : Carried carry trace whole) :
      Carried carry (⟨c, answer⟩ :: trace) (part ++ whole)

variable {carry : (c : I.Call) → Program J (I.Answer c)}

theorem runs_translate {p : Program I α} {whole : List (Exchange J)} {a : α} :
    Runs (p.translate carry) whole a ↔ ∃ trace, Runs p trace a ∧ Carried carry trace whole := by
  induction p generalizing whole with
  | done b =>
    simp only [translate, runs_done]
    constructor
    · rintro ⟨rfl, rfl⟩
      exact ⟨[], ⟨rfl, rfl⟩, .nil⟩
    · rintro ⟨_, ⟨rfl, rfl⟩, carried⟩
      cases carried
      exact ⟨rfl, rfl⟩
  | ask c next ih =>
    -- The answer that the carrying program found is the one that the program goes on with.
    change Runs (carry c >>= fun r => (next r).translate carry) whole a ↔ _
    simp only [runs_bind, runs_ask, ih]
    constructor
    · rintro ⟨part, answer, _, rfl, head, trace, run, tail⟩
      exact ⟨_, ⟨answer, trace, rfl, run⟩, .cons head tail⟩
    · rintro ⟨_, ⟨answer, trace, rfl, run⟩, carried⟩
      cases carried with
      | cons head tail => exact ⟨_, answer, _, rfl, head, trace, run, tail⟩

theorem carried_cons {c : I.Call} {answer : I.Answer c} {trace : List (Exchange I)}
    {whole : List (Exchange J)} :
    Carried carry (⟨c, answer⟩ :: trace) whole ↔
      ∃ part rest, whole = part ++ rest ∧ Runs (carry c) part answer ∧
        Carried carry trace rest := by
  constructor
  · intro carried
    cases carried with
    | cons head tail => exact ⟨_, _, rfl, head, tail⟩
  · rintro ⟨part, rest, rfl, head, tail⟩
    exact .cons head tail

theorem carried_append {first rest : List (Exchange I)} {whole : List (Exchange J)} :
    Carried carry (first ++ rest) whole ↔
      ∃ a b, whole = a ++ b ∧ Carried carry first a ∧ Carried carry rest b := by
  induction first generalizing whole with
  | nil =>
    constructor
    · intro carried
      exact ⟨[], whole, rfl, .nil, carried⟩
    · rintro ⟨_, b, rfl, head, tail⟩
      cases head
      exact tail
  | cons x first ih =>
    constructor
    · intro carried
      cases carried with
      | cons head tail =>
        obtain ⟨a, b, rfl, hfirst, hrest⟩ := ih.mp tail
        exact ⟨_, b, (List.append_assoc _ _ _).symm, .cons head hfirst, hrest⟩
    · rintro ⟨_, b, rfl, hfirst, hrest⟩
      cases hfirst with
      | cons head tail =>
        rw [List.append_assoc]
        exact .cons head (ih.mpr ⟨_, b, rfl, tail, hrest⟩)

/-- Carrying out each call by one call of the other interface renames the calls of a trace. -/
theorem carried_single {rename : Exchange I → Exchange J}
    (single : ∀ c part answer, Runs (carry c) part answer ↔ part = [rename ⟨c, answer⟩])
    {trace : List (Exchange I)} {whole : List (Exchange J)} :
    Carried carry trace whole ↔ whole = trace.map rename := by
  induction trace generalizing whole with
  | nil =>
    constructor
    · intro carried
      cases carried
      rfl
    · rintro rfl
      exact .nil
  | cons x trace ih =>
    constructor
    · intro carried
      cases carried with
      | cons head tail =>
        rw [(single _ _ _).mp head, ih.mp tail]
        rfl
    · rintro rfl
      exact .cons ((single _ _ _).mpr rfl) (ih.mpr rfl)

/-! ## Programs under way -/

/-- What is left of a program once some of its calls have been answered. -/
inductive Remains (p : Program I α) : List (Exchange I) → Program I α → Prop where
  | start : Remains p [] p
  | answered {trace : List (Exchange I)} {c : I.Call} {next : I.Answer c → Program I α}
      (before : Remains p trace (.ask c next)) (answer : I.Answer c) :
      Remains p (trace ++ [⟨c, answer⟩]) (next answer)

/-- The calls made so far and a run of what is left are a run of the whole. -/
theorem Remains.runs {p q : Program I α} {trace rest : List (Exchange I)} {a : α}
    (remains : Remains p trace q) (run : Runs q rest a) : Runs p (trace ++ rest) a := by
  induction remains generalizing rest with
  | start => exact run
  | answered before answer ih =>
    rw [List.append_assoc]
    exact ih (.ask answer run)

/-! ## Answering from a table -/

/-- The calls that a program makes when every call has one fixed answer. -/
def exchangesFrom (answer : (c : I.Call) → I.Answer c) : Program I α → List (Exchange I)
  | .done _ => []
  | .ask c next => ⟨c, answer c⟩ :: (next (answer c)).exchangesFrom answer

/-- The result of a program when every call has one fixed answer. -/
def resultFrom (answer : (c : I.Call) → I.Answer c) : Program I α → α
  | .done a => a
  | .ask c next => (next (answer c)).resultFrom answer

theorem runs_from (answer : (c : I.Call) → I.Answer c) (p : Program I α) :
    Runs p (p.exchangesFrom answer) (p.resultFrom answer) := by
  induction p with
  | done a => exact .done a
  | ask c next ih => exact .ask (answer c) (ih (answer c))

theorem eq_of_mem_exchangesFrom {answer : (c : I.Call) → I.Answer c} {p : Program I α}
    {x : Exchange I} (h : x ∈ p.exchangesFrom answer) : x = ⟨x.call, answer x.call⟩ := by
  induction p with
  | done a => simp [exchangesFrom] at h
  | ask c next ih =>
    rcases List.mem_cons.mp h with rfl | h
    · rfl
    · exact ih _ h

/-- Whatever the peers are, a program that they bring to an end had a run. -/
theorem runs_of_runWith {σ : Type} {peer : (c : I.Call) → σ → Option (I.Answer c) × σ}
    {p : Program I α} {s after : σ} {a : α} (h : p.runWith peer s = (some a, after)) :
    ∃ trace, Runs p trace a := by
  induction p generalizing s with
  | done b =>
    cases h
    exact ⟨[], .done a⟩
  | ask c next ih =>
    rcases hanswer : peer c s with ⟨_ | answer, mid⟩
    · simp [runWith, hanswer] at h
    · simp only [runWith, hanswer] at h
      obtain ⟨trace, run⟩ := ih answer h
      exact ⟨_, .ask answer run⟩

/-! ## Keeping a log -/

/-- Peers that note every call they get, and answer as others do. -/
def logging {σ : Type} (peer : (c : I.Call) → σ → Option (I.Answer c) × σ) (c : I.Call) :
    List I.Call × σ → Option (I.Answer c) × (List I.Call × σ)
  | (log, s) => ((peer c s).1, (log ++ [c], (peer c s).2))

end DatasetProvisioner.Program
