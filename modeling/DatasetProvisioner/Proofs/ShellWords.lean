import Mathlib.Data.List.Forall2
import DatasetProvisioner.Shell.Command

/-!
# The text of a command, as a shell reads it

A POSIX shell cuts the text of a command into words before it runs anything. The splitter below
knows blanks, single quotes and backslashes, and refuses whatever else means something to a shell
outside of quotes; a text that it accepts is one simple command, and nothing in it is expanded.
Texts that come from a volume are quoted, and the splitter gives them back whatever characters they
hold.

Nothing is said here about how a program understands its arguments.
-/
namespace DatasetProvisioner.Shell

/-! ## Cutting a text into words -/

def isBlank (c : Char) : Bool :=
  c == ' ' || c == '\t'

/-- What means something to a shell where it stands unquoted: operators, expansions, patterns,
comments, assignments and reserved words. -/
def metacharacters : List Char :=
  ['|', '&', ';', '<', '>', '(', ')', '$', '\x60', '"', '\n', '\r', '*', '?', '[', ']', '#', '~',
    '=', '%', '!', '^', '{', '}']

/-- A character that stands for itself outside of quotes. -/
def Plain (c : Char) : Prop :=
  isBlank c = false ∧ c ≠ '\'' ∧ c ≠ '\\' ∧ c ∉ metacharacters

instance : DecidablePred Plain :=
  fun _ => inferInstanceAs (Decidable (_ ∧ _))

/-- A text that a shell reads as one word, as it stands. -/
def isPlainWord (text : String) : Bool :=
  text != "" && text.toList.all fun c => decide (Plain c)

/-- Where a splitter stands: between two words, or after a part of one. -/
inductive Position where
  | between
  | bare (word : List Char)
  | escaped (word : List Char)
  | quoted (word : List Char)
  deriving Repr, DecidableEq

structure Splitter where
  words : List String
  position : Position
  deriving Repr, DecidableEq

namespace Splitter

/-- Read a character of a word, outside of quotes. -/
def readBare (word : List Char) (c : Char) : Option Position :=
  if c = '\'' then some (.quoted word)
  else if c = '\\' then some (.escaped word)
  else if c ∈ metacharacters then none
  else some (.bare (word ++ [c]))

/-- Read a character. A backslash does not quote the end of a line. -/
def step (s : Splitter) (c : Char) : Option Splitter :=
  match s.position with
  | .between =>
    if isBlank c then some s else (readBare [] c).map fun position => { s with position }
  | .bare word =>
    if isBlank c then some ⟨s.words ++ [String.ofList word], .between⟩
    else (readBare word c).map fun position => { s with position }
  | .escaped word => if c = '\n' then none else some ⟨s.words, .bare (word ++ [c])⟩
  | .quoted word =>
    if c = '\'' then some ⟨s.words, .bare word⟩ else some ⟨s.words, .quoted (word ++ [c])⟩

def run (s : Splitter) (cs : List Char) : Option Splitter :=
  cs.foldlM step s

/-- The words at the end of a text, which must not end within quotes or after a backslash. -/
def finish (s : Splitter) : Option (List String) :=
  match s.position with
  | .between => some s.words
  | .bare word => some (s.words ++ [String.ofList word])
  | .escaped _ | .quoted _ => none

end Splitter

/-- The words of a text, if a shell takes it for nothing but words. -/
def split (text : String) : Option (List String) :=
  (Splitter.run ⟨[], .between⟩ text.toList).bind Splitter.finish

namespace Splitter

theorem run_cons (s : Splitter) (c : Char) (cs : List Char) :
    s.run (c :: cs) = (s.step c).bind fun s => s.run cs :=
  List.foldlM_cons

theorem run_append (s : Splitter) (cs rest : List Char) :
    s.run (cs ++ rest) = (s.run cs).bind fun s => s.run rest :=
  List.foldlM_append

/-! ## Quoting is undone -/

theorem run_quotedChar (words : List String) (word : List Char) (c : Char) :
    run ⟨words, .quoted word⟩ (quotedChar c) = some ⟨words, .quoted (word ++ [c])⟩ := by
  unfold quotedChar
  by_cases h : c = '\''
  · -- The quotes are closed, a quote is escaped, and the quotes are opened again.
    subst h
    rfl
  · rw [if_neg h]
    simp [run, step, h]

theorem run_quotedChars (words : List String) (word cs : List Char) :
    run ⟨words, .quoted word⟩ (cs.flatMap quotedChar) = some ⟨words, .quoted (word ++ cs)⟩ := by
  induction cs generalizing word with
  | nil => simp [run]
  | cons c cs ih =>
    rw [List.flatMap_cons, run_append, run_quotedChar, Option.bind_some, ih, List.append_assoc]
    rfl

theorem run_bare {cs : List Char} (plain : ∀ c ∈ cs, Plain c) (words : List String)
    (word : List Char) :
    run ⟨words, .bare word⟩ cs = some ⟨words, .bare (word ++ cs)⟩ := by
  induction cs generalizing word with
  | nil => simp [run]
  | cons c cs ih =>
    obtain ⟨hblank, hquote, hescape, hmeta⟩ := plain c List.mem_cons_self
    have hstep : step ⟨words, .bare word⟩ c = some ⟨words, .bare (word ++ [c])⟩ := by
      simp [step, readBare, hblank, hquote, hescape, hmeta]
    rw [run_cons, hstep, Option.bind_some, ih fun c hc => plain c (List.mem_cons_of_mem _ hc),
      List.append_assoc]
    rfl

end Splitter

/-- A text that a shell reads as one word. -/
def Spells (text word : String) : Prop :=
  ∀ words, Splitter.run ⟨words, .between⟩ text.toList = some ⟨words, .bare word.toList⟩

/-- A quoted text is one word, the text itself, whatever it holds. -/
theorem spells_quote (s : String) : Spells (quote s) s := by
  intro words
  have hopen : Splitter.step ⟨words, .between⟩ '\'' = some ⟨words, .quoted []⟩ := rfl
  rw [quote, String.toList_ofList, List.cons_append, Splitter.run_cons, hopen, Option.bind_some,
    Splitter.run_append, Splitter.run_quotedChars, Option.bind_some]
  rfl

/-- A word of characters that mean nothing to a shell spells itself. -/
theorem spells_plain {s : String} (nonempty : s ≠ "") (plain : ∀ c ∈ s.toList, Plain c) :
    Spells s s := by
  intro words
  have hchars : s.toList ≠ [] := fun h => nonempty (String.toList_eq_nil_iff.mp h)
  obtain ⟨c, cs, hcs⟩ := List.exists_cons_of_ne_nil hchars
  rw [hcs] at plain ⊢
  obtain ⟨hblank, hquote, hescape, hmeta⟩ := plain c List.mem_cons_self
  have hstep : Splitter.step ⟨words, .between⟩ c = some ⟨words, .bare [c]⟩ := by
    simp [Splitter.step, Splitter.readBare, hblank, hquote, hescape, hmeta]
  rw [Splitter.run_cons, hstep, Option.bind_some,
    Splitter.run_bare fun c hc => plain c (List.mem_cons_of_mem _ hc)]
  rfl

theorem spells_plainWord {text : String} (h : isPlainWord text = true) : Spells text text := by
  rw [isPlainWord, Bool.and_eq_true, bne_iff_ne, List.all_eq_true] at h
  exact spells_plain h.1 fun c hc => of_decide_eq_true (h.2 c hc)

/-! ## Words with blanks between them -/

/-- After a word, each further text begins with the blank that ends the word before it. -/
theorem finish_of_spells {texts words : List String} (spelled : List.Forall₂ Spells texts words)
    (done : List String) (word : String) :
    (Splitter.run ⟨done, .bare word.toList⟩
      (texts.flatMap fun text => ' ' :: text.toList)).bind Splitter.finish =
        some (done ++ word :: words) := by
  induction spelled generalizing done word with
  | nil => simp [Splitter.run, Splitter.finish]
  | @cons text next texts words head tail ih =>
    have hblank : Splitter.step ⟨done, .bare word.toList⟩ ' ' =
        some ⟨done ++ [word], .between⟩ := by
      simp [Splitter.step, isBlank]
    rw [List.flatMap_cons, List.cons_append, Splitter.run_cons, hblank, Option.bind_some,
      Splitter.run_append, head, Option.bind_some, ih, List.append_assoc]
    rfl

theorem toList_intercalate_cons (text : String) (texts : List String) :
    (" ".intercalate (text :: texts)).toList =
      text.toList ++ texts.flatMap fun text => ' ' :: text.toList := by
  induction texts generalizing text with
  | nil => simp
  | cons next texts ih =>
    rw [String.intercalate_cons_cons, String.toList_append, ih, String.toList_append,
      List.flatMap_cons, List.append_assoc]
    rfl

/-- Texts that spell words, with one blank between two of them, are cut into these words. -/
theorem split_intercalate {texts words : List String} (spelled : List.Forall₂ Spells texts words) :
    split (" ".intercalate texts) = some words := by
  cases spelled with
  | nil => rfl
  | cons head tail =>
    rw [split, toList_intercalate_cons, Splitter.run_append, head, Option.bind_some,
      finish_of_spells tail]
    rfl

/-! ## Commands -/

theorem plain_of_isDigit {c : Char} (h : c.isDigit = true) : Plain c := by
  have special : (' ' :: '\t' :: '\'' :: '\\' :: metacharacters).all (!·.isDigit) = true := by
    decide
  have hne {x : Char} (hx : x ∈ ' ' :: '\t' :: '\'' :: '\\' :: metacharacters) : c ≠ x := by
    rintro rfl
    have undigit := List.all_eq_true.mp special c hx
    rw [h] at undigit
    cases undigit
  refine ⟨?_, hne (by decide), hne (by decide), fun hmeta => ?_⟩
  · simp [isBlank, hne (x := ' ') (by decide), hne (x := '\t') (by decide)]
  · exact hne (by simp [hmeta]) rfl

theorem spells_padded (width n : Nat) : Spells (Text.padded 8 width n) (Text.padded 8 width n) := by
  apply spells_plain
  · intro h
    have hchars := congrArg String.toList h
    simp [Text.padded, Nat.toDigits_ne_nil] at hchars
  · intro c hc
    rw [Text.padded, String.toList_ofList, List.mem_append] at hc
    rcases hc with hzero | hdigit
    · rw [List.eq_of_mem_replicate hzero]
      decide
    · exact plain_of_isDigit (Nat.isDigit_of_mem_toDigits (by decide) (by decide) hdigit)

theorem spells_words {words : List String} (plain : words.all isPlainWord = true) :
    List.Forall₂ Spells words words :=
  List.forall₂_same.mpr fun s hs => spells_plainWord (List.all_eq_true.mp plain s hs)

theorem spells_programWords (action : Action) :
    List.Forall₂ Spells action.programWords action.programWords := by
  cases action with
  | create => exact @spells_words ["zfs", "create"] (by decide)
  | snapshot => exact @spells_words ["zfs", "snapshot"] (by decide)
  | clone => exact @spells_words ["zfs", "clone"] (by decide)
  | destroy => exact @spells_words ["zfs", "destroy"] (by decide)
  | changeMode path mode =>
    exact .cons (spells_plainWord (by decide)) (.cons (spells_padded 4 mode) .nil)

theorem spells_privilegeWords (command : Command) :
    List.Forall₂ Spells command.privilegeWords command.privilegeWords := by
  unfold Command.privilegeWords
  cases command.privileged with
  | true => exact spells_words (by decide)
  | false => exact .nil

theorem spells_properties (properties : List (String × String)) :
    List.Forall₂ Spells (properties.flatMap fun p => ["-o", quote (p.1 ++ "=" ++ p.2)])
      (properties.flatMap fun p => ["-o", p.1 ++ "=" ++ p.2]) := by
  induction properties with
  | nil => exact .nil
  | cons p properties ih =>
    exact .cons (spells_plainWord (by decide)) (.cons (spells_quote _) ih)

/-- A shell cuts the text of a command into its arguments. -/
theorem split_text (command : Command) : split command.text = some command.arguments := by
  have targets : List.Forall₂ Spells (command.action.targets.map quote) command.action.targets :=
    List.forall₂_map_left_iff.mpr (List.forall₂_same.mpr fun target _ => spells_quote target)
  apply split_intercalate
  exact List.rel_append (List.rel_append
    (List.rel_append (spells_privilegeWords command) (spells_programWords command.action))
    (spells_properties command.action.properties)) targets

example : split (Command.text ⟨true, .changeMode "/mnt/a b'$(c);" 493⟩) =
    some ["sudo", "chmod", "0755", "/mnt/a b'$(c);"] := by
  decide +kernel

example : split "chmod 0755 /mnt/a; reboot" = none := by
  decide +kernel

end DatasetProvisioner.Shell
