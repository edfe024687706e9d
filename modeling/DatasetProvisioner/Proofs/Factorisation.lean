import Mathlib.Data.List.Basic
import Mathlib.Data.List.TakeWhile
import DatasetProvisioner.Proofs.Templates

/-!
# Templates taken apart

Every template is, in exactly one way, a row of literal texts and placeholders with a last text in
which no placeholder begins. Rendering replaces the placeholders of this row and keeps everything
else, so it is decided by the values of their keys alone. It ends for every template: after a
placeholder there is less to read than before it (`length_of_key?`).
-/
namespace DatasetProvisioner.NameTemplate

variable {values : Annotations} {text : List Char}

/-- No opening brace is followed, after one character at least, by a closing one. -/
def Bare (text : List Char) : Prop :=
  ∀ before c inside after, text ≠ before ++ '\x7b' :: c :: (inside ++ '\x7d' :: after)

/-- A text taken apart into literal texts, each with the placeholder that follows it, and what is
left after the last placeholder. -/
structure Factorisation (text : List Char) where
  slots : List Slot
  rest : List Char
  plain : ∀ slot ∈ slots, slot.Plain
  bare : Bare rest
  whole : slots.flatMap Slot.written ++ rest = text

/-- The text with every placeholder filled in. -/
def Factorisation.rendered (values : Annotations) (parts : Factorisation text) : List Char :=
  parts.slots.flatMap (Slot.rendered values) ++ parts.rest

/-! ## Where a key ends -/

theorem key?_eq_none_iff : key? text = none ↔ '\x7d' ∉ text.tail := by
  cases text with
  | nil => simp [key?]
  | cons c cs =>
    have hclose : cs.dropWhile (· != '\x7d') = [] ↔ '\x7d' ∉ cs := by
      simp only [List.dropWhile_eq_nil_iff, bne_iff_ne]
      exact ⟨fun h hmem => h _ hmem rfl, fun h d hd heq => h (heq ▸ hd)⟩
    rw [List.tail_cons, ← hclose, key?]
    cases cs.dropWhile (· != '\x7d') <;> simp

/-- A key that is read ends at the first closing brace after its first character. -/
theorem closed_of_key? {key after : List Char} (h : key? text = some (key, after)) :
    ∃ c rest, key = c :: rest ∧ '\x7d' ∉ rest ∧ text = c :: (rest ++ '\x7d' :: after) := by
  cases text with
  | nil => simp [key?] at h
  | cons c cs =>
    cases hdrop : cs.dropWhile (· != '\x7d') with
    | nil => simp [key?, hdrop] at h
    | cons d rest =>
      have hcut : cs = cs.takeWhile (· != '\x7d') ++ d :: rest := by
        rw [← hdrop, List.takeWhile_append_dropWhile]
      obtain rfl : d = '\x7d' := by
        have hhead := List.dropWhile_get_zero_not (· != '\x7d') cs (by simp [hdrop])
        simpa [hdrop] using hhead
      simp only [key?, hdrop, Option.some.injEq, Prod.mk.injEq] at h
      obtain ⟨rfl, rfl⟩ := h
      refine ⟨c, _, rfl, fun hmem => ?_, congrArg (c :: ·) hcut⟩
      simpa using List.mem_takeWhile_imp hmem

theorem bare_nil : Bare [] := by
  intro before c inside after h
  simp at h

/-- A character that opens no placeholder may stand before a bare text. -/
theorem Bare.cons {c : Char} (hc : c ≠ '\x7b') (bare : Bare text) : Bare (c :: text) := by
  intro before d inside after h
  cases before with
  | nil => exact hc (List.cons.inj h).1
  | cons e before => exact bare before d inside after (List.cons.inj h).2

/-- Where the first opening brace opens no placeholder, no later one does: what would close the
later one would close the first. -/
theorem bare_of_key?_eq_none (h : key? text = none) : Bare ('\x7b' :: text) := by
  rw [key?_eq_none_iff] at h
  intro before c inside after heq
  apply h
  cases before with
  | nil =>
    obtain rfl := (List.cons.inj heq).2
    simp
  | cons d before =>
    obtain rfl := (List.cons.inj heq).2
    cases before <;> simp

/-! ## Every text is taken apart in one way -/

/-- Induction along the pass over the text: a placeholder becomes a slot of its own, and any other
character goes to the literal text before the next placeholder or to the last text. -/
theorem exists_factorisation (text : List Char) : Nonempty (Factorisation text) := by
  fun_induction renderChars ∅ text with
  | case1 => exact ⟨⟨[], [], by simp, bare_nil, rfl⟩⟩
  | case2 cs key after hkey ih =>
    obtain ⟨parts⟩ := ih
    obtain ⟨c, rest, rfl, hclosing, rfl⟩ := closed_of_key? hkey
    have plain : Slot.Plain ⟨[], c :: rest⟩ := ⟨by simp, c, rest, rfl, hclosing⟩
    refine ⟨⟨⟨[], c :: rest⟩ :: parts.slots, parts.rest, ?_, parts.bare, ?_⟩⟩
    · exact List.forall_mem_cons.mpr ⟨plain, parts.plain⟩
    · have whole := parts.whole
      simp [Slot.written, whole]
  | case3 cs hkey => exact ⟨⟨[], _, by simp, bare_of_key?_eq_none hkey, rfl⟩⟩
  | case4 c cs hc ih =>
    obtain ⟨slots, rest, plain, bare, whole⟩ := ih
    cases slots with
    | nil =>
      refine ⟨⟨[], c :: rest, by simp, bare.cons hc, ?_⟩⟩
      exact congrArg (c :: ·) whole
    | cons slot slots =>
      obtain ⟨hslot, hslots⟩ := List.forall_mem_cons.mp plain
      have hbefore : '\x7b' ∉ c :: slot.before :=
        List.not_mem_cons_of_ne_of_not_mem (Ne.symm hc) hslot.before
      refine ⟨⟨⟨c :: slot.before, slot.key⟩ :: slots, rest, ?_, bare, ?_⟩⟩
      · exact List.forall_mem_cons.mpr ⟨⟨hbefore, hslot.key⟩, hslots⟩
      · exact congrArg (c :: ·) whole

theorem eq_of_cut {mark : Char} {before before' after after' : List Char} (h : mark ∉ before)
    (h' : mark ∉ before') (heq : before ++ mark :: after = before' ++ mark :: after') :
    before = before' ∧ after = after' := by
  induction before generalizing before' with
  | nil =>
    cases before' with
    | nil => exact ⟨rfl, (List.cons.inj heq).2⟩
    | cons c before' => exact absurd (List.cons.inj heq).1 (List.ne_of_not_mem_cons h')
  | cons c before ih =>
    obtain ⟨-, hbefore⟩ := List.ne_and_not_mem_of_not_mem_cons h
    cases before' with
    | nil => exact absurd (List.cons.inj heq).1.symm (List.ne_of_not_mem_cons h)
    | cons d before' =>
      obtain ⟨-, hbefore'⟩ := List.ne_and_not_mem_of_not_mem_cons h'
      obtain ⟨rfl, hrest⟩ := List.cons.inj heq
      obtain ⟨rfl, rfl⟩ := ih hbefore hbefore' hrest
      exact ⟨rfl, rfl⟩

/-- The first slot of a text is known from the text. -/
theorem Slot.Plain.unique {slot slot' : Slot} {after after' : List Char} (plain : slot.Plain)
    (plain' : slot'.Plain) (h : slot.written ++ after = slot'.written ++ after') :
    slot = slot' ∧ after = after' := by
  obtain ⟨before, key⟩ := slot
  obtain ⟨before', key'⟩ := slot'
  obtain ⟨hbefore, c, rest, rfl, hrest⟩ := plain
  obtain ⟨hbefore', c', rest', rfl, hrest'⟩ := plain'
  simp only [Slot.written, List.append_assoc, List.cons_append, List.nil_append] at h
  obtain ⟨rfl, hkey⟩ := eq_of_cut hbefore hbefore' h
  obtain ⟨rfl, hclosed⟩ := List.cons.inj hkey
  obtain ⟨rfl, rfl⟩ := eq_of_cut hrest hrest' hclosed
  exact ⟨rfl, rfl⟩

theorem Slot.Plain.not_bare {slot : Slot} (plain : slot.Plain) (after : List Char) :
    ¬Bare (slot.written ++ after) := by
  obtain ⟨before, key⟩ := slot
  obtain ⟨-, c, rest, rfl, -⟩ := plain
  intro bare
  exact bare before c rest after (by simp [Slot.written])

theorem parts_unique {slots slots' : List Slot} {rest rest' : List Char}
    (plain : ∀ slot ∈ slots, slot.Plain) (plain' : ∀ slot ∈ slots', slot.Plain)
    (bare : Bare rest) (bare' : Bare rest')
    (h : slots.flatMap Slot.written ++ rest = slots'.flatMap Slot.written ++ rest') :
    slots = slots' ∧ rest = rest' := by
  induction slots generalizing slots' with
  | nil =>
    cases slots' with
    | nil => exact ⟨rfl, h⟩
    | cons slot slots' =>
      have hslot := plain' slot List.mem_cons_self
      rw [List.flatMap_nil, List.nil_append, List.flatMap_cons, List.append_assoc] at h
      exact absurd (h ▸ bare) (hslot.not_bare _)
  | cons slot slots ih =>
    have hslot := plain slot List.mem_cons_self
    rw [List.flatMap_cons, List.append_assoc] at h
    cases slots' with
    | nil =>
      rw [List.flatMap_nil, List.nil_append] at h
      exact absurd (h ▸ bare') (hslot.not_bare _)
    | cons slot' slots' =>
      rw [List.flatMap_cons, List.append_assoc] at h
      obtain ⟨rfl, hrest⟩ := hslot.unique (plain' slot' List.mem_cons_self) h
      obtain ⟨rfl, rfl⟩ := ih (fun s hs => plain s (List.mem_cons_of_mem _ hs))
        (fun s hs => plain' s (List.mem_cons_of_mem _ hs)) hrest
      exact ⟨rfl, rfl⟩

theorem Factorisation.unique (parts other : Factorisation text) : other = parts := by
  obtain ⟨slots, rest, plain, bare, whole⟩ := parts
  obtain ⟨slots', rest', plain', bare', whole'⟩ := other
  obtain ⟨rfl, rfl⟩ := parts_unique plain' plain bare' bare (whole'.trans whole.symm)
  rfl

/-! ## Rendering -/

theorem renderChars_bare (bare : Bare text) : renderChars values text = text := by
  fun_induction renderChars values text with
  | case1 => rfl
  | case2 cs key after hkey ih =>
    obtain ⟨c, rest, -, -, rfl⟩ := closed_of_key? hkey
    exact absurd rfl (bare [] c rest after)
  | case3 => rfl
  | case4 c cs hc ih =>
    have hrest : Bare cs := fun before d inside after h =>
      bare (c :: before) d inside after (congrArg (c :: ·) h)
    rw [ih hrest]

theorem Factorisation.renderChars_eq (values : Annotations) (parts : Factorisation text) :
    renderChars values text = parts.rendered values := by
  calc renderChars values text
      = renderChars values (parts.slots.flatMap Slot.written ++ parts.rest) := by rw [parts.whole]
    _ = parts.slots.flatMap (Slot.rendered values) ++ renderChars values parts.rest :=
        renderChars_slots parts.plain parts.rest
    _ = parts.rendered values := by rw [renderChars_bare parts.bare, rendered]

theorem Factorisation.rendered_congr {others : Annotations} (parts : Factorisation text)
    (agree : ∀ slot ∈ parts.slots, others[String.ofList slot.key]? =
      values[String.ofList slot.key]?) : parts.rendered others = parts.rendered values := by
  have hslot : ∀ slot ∈ parts.slots, Slot.rendered others slot = Slot.rendered values slot := by
    intro slot hslot
    simp only [Slot.rendered, filled, agree slot hslot]
  simp only [rendered, List.flatMap_congr hslot]

/-- Rendering is one pass: every template is taken apart in exactly one way, and what is rendered is
this row with the value of each key in the place of its placeholder, or the placeholder itself
where its key has none. So a value is never read as part of a template, and values that agree on
the keys of the row are rendered alike. -/
theorem render_eq_single_pass (template : String) :
    ∃ parts : Factorisation template.toList,
      (∀ other : Factorisation template.toList, other = parts) ∧
      (∀ values, render template values = String.ofList (parts.rendered values)) ∧
      ∀ values others : Annotations,
        (∀ slot ∈ parts.slots, others[String.ofList slot.key]? =
          values[String.ofList slot.key]?) →
        render template others = render template values := by
  obtain ⟨parts⟩ := exists_factorisation template.toList
  have hrender (values : Annotations) :
      render template values = String.ofList (parts.rendered values) :=
    congrArg String.ofList (parts.renderChars_eq values)
  refine ⟨parts, parts.unique, hrender, fun values others agree => ?_⟩
  rw [hrender others, hrender values, parts.rendered_congr agree]

/-- A placeholder between two texts. -/
def Sample.parts : Factorisation "pv-\x7ba\x7d-x".toList where
  slots := [⟨"pv-".toList, ['a']⟩]
  rest := "-x".toList
  plain := by
    intro slot hslot
    obtain rfl := List.mem_singleton.mp hslot
    exact ⟨by decide, 'a', [], rfl, by decide⟩
  bare := (bare_nil.cons (by decide)).cons (by decide)
  whole := by decide

/-- A value in braces is not taken for a placeholder, and the value of another key changes
nothing. -/
theorem sample_render_eq_single_pass :
    let values := (∅ : Annotations).insert "a" "\x7bb\x7d"
    let others := values.insert "b" "c"
    (∀ slot ∈ Sample.parts.slots, others[String.ofList slot.key]? =
        values[String.ofList slot.key]?) ∧
      render "pv-\x7ba\x7d-x" values = "pv-\x7bb\x7d-x" ∧
      render "pv-\x7ba\x7d-x" others = render "pv-\x7ba\x7d-x" values := by
  intro values others
  have agree : ∀ slot ∈ Sample.parts.slots, others[String.ofList slot.key]? =
      values[String.ofList slot.key]? := by
    decide +kernel
  obtain ⟨parts, unique, rendered, congr⟩ := render_eq_single_pass "pv-\x7ba\x7d-x"
  obtain rfl := unique Sample.parts
  refine ⟨agree, ?_, congr values others agree⟩
  rw [rendered values]
  decide +kernel

/-- Braces within braces, a placeholder without a name and one that is not closed. -/
example : let values := (∅ : Annotations).insert "a" "\x7bb\x7d"
    ["\x7b\x7ba\x7d", "\x7ba\x7d\x7d", "\x7b\x7d", "\x7b\x7d\x7d", "\x7ba\x7d\x7ba"].map
      (render · values) =
    ["\x7b\x7ba\x7d", "\x7bb\x7d\x7d", "\x7b\x7d", "\x7b\x7d\x7d", "\x7bb\x7d\x7ba"] := by
  decide +kernel

end DatasetProvisioner.NameTemplate
