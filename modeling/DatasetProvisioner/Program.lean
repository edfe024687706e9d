/-!
# Programs that call peers

Everything outside this library is reached by calls. A program is a finite tree: it is done, or it
makes a call and goes on with the answer. Nothing is assumed about the answers, so a statement
about all programs' runs holds for every behaviour of the peers. `Runs` relates a program to each
run it can have; `translate` carries out the calls of one interface by programs over another.
-/
namespace DatasetProvisioner

/-- The calls that a program may make, and the type of each call's answer. -/
structure Interface where
  Call : Type
  Answer : Call → Type

/-- A computation that makes calls of an interface and ends with an `α`. -/
inductive Program (I : Interface) (α : Type) : Type where
  | done (result : α)
  | ask (call : I.Call) (next : I.Answer call → Program I α)

/-- A call with the answer it got. -/
structure Exchange (I : Interface) where
  call : I.Call
  answer : I.Answer call

namespace Program

variable {I J : Interface} {α β γ : Type}

/-- Run a program and go on with its result. -/
protected def bind : Program I α → (α → Program I β) → Program I β
  | .done a, k => k a
  | .ask c next, k => .ask c fun r => (next r).bind k

instance : Monad (Program I) where
  pure := .done
  bind := Program.bind

/-- Make one call. -/
def call (c : I.Call) : Program I (I.Answer c) :=
  .ask c .done

theorem bind_done (p : Program I α) : p.bind .done = p := by
  induction p with
  | done _ => rfl
  | ask c next ih => simp only [Program.bind, ih]

theorem bind_bind (p : Program I α) (f : α → Program I β) (g : β → Program I γ) :
    (p.bind f).bind g = p.bind fun a => (f a).bind g := by
  induction p with
  | done _ => rfl
  | ask c next ih => simp only [Program.bind, ih]

instance : LawfulMonad (Program I) :=
  LawfulMonad.mk' (Program I) (fun p => bind_done p) (fun _ _ => rfl) bind_bind

/-- The runs of a program: the calls it makes with the answers they get, and its result. -/
inductive Runs : Program I α → List (Exchange I) → α → Prop where
  | done (a : α) : Runs (.done a) [] a
  | ask {c : I.Call} {next : I.Answer c → Program I α} {trace : List (Exchange I)} {a : α}
      (r : I.Answer c) (rest : Runs (next r) trace a) : Runs (.ask c next) (⟨c, r⟩ :: trace) a

/-- Carry out every call by a program over another interface. -/
def translate (carry : (c : I.Call) → Program J (I.Answer c)) : Program I α → Program J α
  | .done a => .done a
  | .ask c next => (carry c).bind fun r => (next r).translate carry

/-- Let peers with a state answer every call. A peer that never answers gives nothing; the program
then stays where it is. -/
def runWith {σ : Type} (peer : (c : I.Call) → σ → Option (I.Answer c) × σ) :
    Program I α → σ → Option α × σ
  | .done a, s => (some a, s)
  | .ask c next, s =>
    match peer c s with
    | (some r, s) => (next r).runWith peer s
    | (none, s) => (none, s)

end Program

end DatasetProvisioner
