import DatasetProvisioner.NameTemplate
import DatasetProvisioner.Registry

/-!
# Rendering a template slot by slot

A template that is cut into literal texts and placeholders is rendered one placeholder at a time,
from the left: a literal text stands as it is, and what a placeholder is replaced by is not read
again. Names in the default format are of four placeholders with hyphens between them.
-/
namespace DatasetProvisioner.NameTemplate

variable {values : Annotations}

/-- A literal text and the placeholder that follows it. -/
structure Slot where
  before : List Char
  key : List Char

namespace Slot

def written (slot : Slot) : List Char :=
  slot.before ++ '\x7b' :: (slot.key ++ ['\x7d'])

def rendered (values : Annotations) (slot : Slot) : List Char :=
  slot.before ++ filled values slot.key

/-- The text holds no opening brace, and the key no closing one after its first character. -/
structure Plain (slot : Slot) : Prop where
  before : '\x7b' ∉ slot.before
  key : ∃ c rest, slot.key = c :: rest ∧ '\x7d' ∉ rest

end Slot

theorem key?_closed {c : Char} {key : List Char} (h : '\x7d' ∉ key) (after : List Char) :
    key? (c :: (key ++ '\x7d' :: after)) = some (c :: key, after) := by
  have inside : ∀ d ∈ key, (d != '\x7d') = true := by
    intro d hd
    have hne : d ≠ '\x7d' := fun heq => h (heq ▸ hd)
    simpa using hne
  have cut : (key ++ '\x7d' :: after).dropWhile (· != '\x7d') = '\x7d' :: after := by
    rw [List.dropWhile_append_of_pos inside]
    rfl
  have kept : (key ++ '\x7d' :: after).takeWhile (· != '\x7d') = key := by
    rw [List.takeWhile_append_of_pos inside, List.takeWhile_cons_of_neg (by simp), List.append_nil]
  simp only [key?, cut, kept]

theorem renderChars_text {text : List Char} (h : '\x7b' ∉ text) (rest : List Char) :
    renderChars values (text ++ rest) = text ++ renderChars values rest := by
  induction text with
  | nil => rfl
  | cons c text ih =>
    obtain ⟨hc, htext⟩ := List.ne_and_not_mem_of_not_mem_cons h
    rw [List.cons_append, renderChars, if_neg hc.symm, ih htext, List.cons_append]

theorem renderChars_placeholder {c : Char} {key : List Char} (h : '\x7d' ∉ key)
    (rest : List Char) :
    renderChars values ('\x7b' :: c :: (key ++ '\x7d' :: rest)) =
      filled values (c :: key) ++ renderChars values rest := by
  rw [renderChars, if_pos rfl]
  split
  · next hfound =>
    rw [key?_closed h, Option.some.injEq, Prod.mk.injEq] at hfound
    obtain ⟨rfl, rfl⟩ := hfound
    rfl
  · next hnone =>
    rw [key?_closed h] at hnone
    cases hnone

theorem renderChars_slot {slot : Slot} (plain : slot.Plain) (rest : List Char) :
    renderChars values (slot.written ++ rest) =
      slot.rendered values ++ renderChars values rest := by
  obtain ⟨c, key, hkey, hclosing⟩ := plain.key
  have hwritten : slot.written ++ rest =
      slot.before ++ '\x7b' :: c :: (key ++ '\x7d' :: rest) := by
    simp [Slot.written, hkey]
  rw [hwritten, renderChars_text plain.before, renderChars_placeholder hclosing, Slot.rendered,
    hkey, List.append_assoc]

/-- Induction on the slots: each is rendered without a look at what its value holds or at the
slots that follow. -/
theorem renderChars_slots {slots : List Slot} (plain : ∀ slot ∈ slots, slot.Plain)
    (rest : List Char) :
    renderChars values (slots.flatMap Slot.written ++ rest) =
      slots.flatMap (Slot.rendered values) ++ renderChars values rest := by
  induction slots with
  | nil => rfl
  | cons slot slots ih =>
    rw [List.flatMap_cons, List.append_assoc, renderChars_slot (plain slot List.mem_cons_self),
      ih fun other h => plain other (List.mem_cons_of_mem slot h), List.flatMap_cons,
      List.append_assoc]

def placeholder (key : String) : String :=
  "\x7b" ++ key ++ "\x7d"

/-- The text that stands for a placeholder: its value, or else the placeholder itself. -/
def shown (values : Annotations) (key : String) : String :=
  values[key]?.getD (placeholder key)

theorem filled_toList (key : String) : filled values key.toList = (shown values key).toList := by
  unfold filled shown
  rw [String.ofList_toList]
  cases values[key]? with
  | none => simp [placeholder]
  | some value => rfl

theorem shown_of_some {key value : String} (h : values[key]? = some value) :
    shown values key = value := by
  rw [shown, h, Option.getD_some]

/-! ## The default format -/

def defaultSlots : List Slot :=
  [⟨[], Key.storageClass.toList⟩, ⟨['-'], Key.claimNamespace.toList⟩,
    ⟨['-'], Key.claimName.toList⟩, ⟨['-'], Key.volumeTag.toList⟩]

theorem plain_defaultSlots : ∀ slot ∈ defaultSlots, slot.Plain := by
  intro slot hslot
  simp only [defaultSlots, List.mem_cons, List.not_mem_nil, or_false] at hslot
  rcases hslot with rfl | rfl | rfl | rfl
  all_goals exact ⟨by decide, 'z', _, rfl, by decide⟩

/-- A name in the default format is read off four annotations. -/
theorem render_defaultNameFormat (values : Annotations) :
    render Provider.defaultNameFormat values =
      shown values Key.storageClass ++ "-" ++ shown values Key.claimNamespace ++ "-" ++
        shown values Key.claimName ++ "-" ++ shown values Key.volumeTag := by
  have cut : Provider.defaultNameFormat.toList = defaultSlots.flatMap Slot.written ++ [] := by
    decide +kernel
  apply String.toList_injective
  rw [render, String.toList_ofList, cut, renderChars_slots plain_defaultSlots]
  simp only [defaultSlots, List.flatMap_cons, List.flatMap_nil, Slot.rendered, filled_toList,
    renderChars, String.toList_append, List.append_nil, List.nil_append, List.append_assoc]
  rfl

end DatasetProvisioner.NameTemplate
