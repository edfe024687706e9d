import Mathlib.Data.String.Basic
import DatasetProvisioner.Proofs.Digits
import DatasetProvisioner.Quantity

/-!
# How quantities are written

The grammar of quantities, with the number that each of them denotes, and the parts that reading
finds in them: a text is taken apart exactly where it is a written quantity whose digits fit 128
bits, and then into the parts that it is written with.
-/
namespace DatasetProvisioner.Quantity

open Text (Sign)

/-! ## Numbers -/

/-- Digits with at most one point among them, and at least one digit. -/
structure Number where
  whole : List Char
  /-- What follows the point, where there is one. -/
  fraction : Option (List Char)
  isDigit : ∀ c ∈ whole ++ fraction.getD [], c.isDigit = true
  ne_nil : whole ++ fraction.getD [] ≠ []

namespace Number

def text (number : Number) : List Char :=
  number.whole ++ match number.fraction with
    | none => []
    | some fraction => '.' :: fraction

/-- The digits on both sides of the point. -/
def digits (number : Number) : List Char :=
  number.whole ++ number.fraction.getD []

def value (number : Number) : Nat :=
  Nat.ofDigitChars 10 number.digits 0

/-- The number of digits behind the point. -/
def places (number : Number) : Nat :=
  (number.fraction.getD []).length

theorem isNumberChar_of_mem_text {number : Number} {c : Char} (h : c ∈ number.text) :
    isNumberChar c = true := by
  have hdigit (d : Char) (hd : d ∈ number.whole ++ number.fraction.getD []) :
      isNumberChar d = true := by
    rw [isNumberChar, number.isDigit d hd]
    rfl
  rcases List.mem_append.mp h with hwhole | hfraction
  · exact hdigit c (List.mem_append_left _ hwhole)
  · cases hpoint : number.fraction with
    | none => simp [hpoint] at hfraction
    | some fraction =>
      rw [hpoint] at hfraction
      rcases List.mem_cons.mp hfraction with rfl | hfraction
      · rfl
      · exact hdigit c (List.mem_append_right _ (by rw [hpoint]; exact hfraction))

theorem ne_point_of_isDigit {cs : List Char} (h : ∀ c ∈ cs, c.isDigit = true) :
    ∀ c ∈ cs, (c != '.') = true := by
  intro c hc
  rw [bne_iff_ne]
  rintro rfl
  exact absurd (h '.' hc) (by decide)

theorem ne_point_of_mem_whole (number : Number) : ∀ c ∈ number.whole, (c != '.') = true :=
  ne_point_of_isDigit fun c hc => number.isDigit c (List.mem_append_left _ hc)

theorem ne_point_of_mem_fraction (number : Number) :
    ∀ c ∈ number.fraction.getD [], (c != '.') = true :=
  ne_point_of_isDigit fun c hc => number.isDigit c (List.mem_append_right _ hc)

/-- The point is the only character of a number that is no digit. -/
theorem filter_text (number : Number) : number.text.filter (· != '.') = number.digits := by
  have hwhole := number.ne_point_of_mem_whole
  have hfraction := number.ne_point_of_mem_fraction
  rw [text, digits, List.filter_append, List.filter_eq_self.mpr hwhole]
  cases hpoint : number.fraction with
  | none => rfl
  | some fraction =>
    rw [hpoint, Option.getD_some] at hfraction
    rw [List.filter_cons_of_neg (by decide), List.filter_eq_self.mpr hfraction]
    rfl

theorem takeWhile_text (number : Number) : number.text.takeWhile (· != '.') = number.whole := by
  rw [text]
  refine Text.takeWhile_append_of_head number.ne_point_of_mem_whole fun c hc => ?_
  cases hpoint : number.fraction with
  | none => simp [hpoint] at hc
  | some fraction =>
    rw [hpoint] at hc
    obtain rfl := Option.some.inj hc
    rfl

theorem dropWhile_text (number : Number) :
    (number.text.dropWhile (· != '.')).drop 1 = number.fraction.getD [] := by
  have hsplit : number.text.dropWhile (· != '.') = match number.fraction with
      | none => []
      | some fraction => '.' :: fraction := by
    refine Text.dropWhile_append_of_head number.ne_point_of_mem_whole fun c hc => ?_
    cases hpoint : number.fraction with
    | none => simp [hpoint] at hc
    | some fraction =>
      rw [hpoint] at hc
      obtain rfl := Option.some.inj hc
      rfl
  rw [hsplit]
  cases number.fraction <;> rfl

theorem count_point_le (number : Number) : number.text.count '.' ≤ 1 := by
  have hnone {cs : List Char} (h : ∀ c ∈ cs, (c != '.') = true) : cs.count '.' = 0 :=
    List.count_eq_zero.mpr fun hmem => absurd (h '.' hmem) (by decide)
  rw [text, List.count_append, hnone number.ne_point_of_mem_whole]
  cases hpoint : number.fraction with
  | none => simp
  | some fraction =>
    have hfraction := number.ne_point_of_mem_fraction
    rw [hpoint] at hfraction
    rw [List.count_cons_self, hnone (by simpa using hfraction)]

/-- A number passes the test of its form. -/
theorem shaped (number : Number) :
    ¬(number.text.isEmpty || number.text == ['.'] || decide (1 < number.text.count '.')) = true
      := by
  have hcount := number.count_point_le
  simp only [Bool.or_eq_true, List.isEmpty_iff, beq_iff_eq, decide_eq_true_eq, not_or]
  refine ⟨⟨?_, ?_⟩, by omega⟩
  · intro h
    refine number.ne_nil (number.filter_text.symm.trans ?_)
    rw [h]
    rfl
  · intro h
    refine number.ne_nil (number.filter_text.symm.trans ?_)
    rw [h]
    rfl

end Number

theorem mantissaOf_text (text : String) (number : Number) :
    mantissaOf text number.text =
      if number.value < 2 ^ 128 then
        .ok ⟨number.value, Width.narrowed 32 number.places⟩
      else .error (.numberOutOfRange text) := by
  have hread := Text.unsigned?_of_isDigit number.ne_nil number.isDigit (Width.values 128 - 1)
  have hbound : Nat.ofDigitChars 10 (number.whole ++ number.fraction.getD []) 0 ≤
      Width.values 128 - 1 ↔ number.value < 2 ^ 128 := by
    have hvalues : Width.values 128 = 2 ^ 128 := rfl
    have hvalue : number.value =
        Nat.ofDigitChars 10 (number.whole ++ number.fraction.getD []) 0 := rfl
    omega
  rw [mantissaOf, if_neg number.shaped]
  simp only [number.takeWhile_text, number.dropWhile_text, hread, hbound]
  by_cases hfits : number.value < 2 ^ 128
  · rw [if_pos hfits, if_pos hfits]
    rfl
  · rw [if_neg hfits, if_neg hfits]

/-- Characters of numbers that are accepted as a number are one. -/
theorem exists_number_of_mantissaOf {text : String} {cs : List Char} {mantissa : Mantissa}
    (hchars : ∀ c ∈ cs, isNumberChar c = true) (h : mantissaOf text cs = .ok mantissa) :
    ∃ number : Number, number.text = cs := by
  have hdigit (c : Char) (hc : c ∈ cs) (hne : c ≠ '.') : c.isDigit = true := by
    have hnumber := hchars c hc
    simp only [isNumberChar, Bool.or_eq_true, beq_iff_eq] at hnumber
    exact hnumber.resolve_right hne
  have hshape : ¬(cs.isEmpty || cs == ['.'] || decide (1 < cs.count '.')) = true := by
    intro hbad
    simp [mantissaOf, hbad] at h
  simp only [Bool.or_eq_true, List.isEmpty_iff, beq_iff_eq, decide_eq_true_eq, not_or,
    Nat.not_lt] at hshape
  obtain ⟨⟨hne, hpoint⟩, hcount⟩ := hshape
  by_cases hmem : '.' ∈ cs
  · obtain ⟨whole, fraction, rfl⟩ := List.append_of_mem hmem
    have hcounts : whole.count '.' = 0 ∧ fraction.count '.' = 0 := by
      rw [List.count_append, List.count_cons_self] at hcount
      omega
    have hnowhere : ∀ c ∈ whole ++ fraction, c ≠ '.' := by
      rintro c hc rfl
      rcases List.mem_append.mp hc with hc | hc
      · exact List.count_eq_zero.mp hcounts.1 hc
      · exact List.count_eq_zero.mp hcounts.2 hc
    refine ⟨⟨whole, some fraction, fun c hc => hdigit c ?_ (hnowhere c hc), ?_⟩, rfl⟩
    · rcases List.mem_append.mp hc with hc | hc
      · exact List.mem_append_left _ hc
      · exact List.mem_append_right _ (List.mem_cons_of_mem _ hc)
    · intro hnil
      obtain ⟨rfl, rfl⟩ := List.append_eq_nil_iff.mp hnil
      exact hpoint rfl
  · have hall : ∀ c ∈ cs, c ≠ '.' := by
      rintro c hc rfl
      exact hmem hc
    refine ⟨⟨cs, none, fun c hc => ?_, ?_⟩, List.append_nil cs⟩
    · rw [Option.getD_none, List.append_nil] at hc
      exact hdigit c hc (hall c hc)
    · rw [Option.getD_none, List.append_nil]
      exact hne

/-! ## Suffixes -/

/-- The units that have a symbol. -/
inductive Symbol where
  | one
  | kibi
  | mebi
  | gibi
  | tebi
  | pebi
  | exbi
  | milli
  | kilo
  | mega
  | giga
  | tera
  | peta
  | exa
  deriving Repr, DecidableEq

namespace Symbol

def text : Symbol → List Char
  | one => []
  | kibi => ['K', 'i']
  | mebi => ['M', 'i']
  | gibi => ['G', 'i']
  | tebi => ['T', 'i']
  | pebi => ['P', 'i']
  | exbi => ['E', 'i']
  | milli => ['m']
  | kilo => ['k']
  | mega => ['M']
  | giga => ['G']
  | tera => ['T']
  | peta => ['P']
  | exa => ['E']

def multiplier : Symbol → Nat
  | kibi => 2 ^ 10
  | mebi => 2 ^ 20
  | gibi => 2 ^ 30
  | tebi => 2 ^ 40
  | pebi => 2 ^ 50
  | exbi => 2 ^ 60
  | _ => 1

def exponent : Symbol → Int
  | milli => -3
  | kilo => 3
  | mega => 6
  | giga => 9
  | tera => 12
  | peta => 15
  | exa => 18
  | _ => 0

end Symbol

/-- A letter for a power of ten, and the exponent: a whole number of 32 bits, with a sign or
without. -/
structure Exponent where
  mark : Char
  sign : Sign
  digits : List Char
  isMark : mark = 'e' ∨ mark = 'E'
  isDigit : ∀ c ∈ digits, c.isDigit = true
  ne_nil : digits ≠ []
  least : -2 ^ 31 ≤ sign.factor * (Nat.ofDigitChars 10 digits 0 : Int)
  greatest : sign.factor * (Nat.ofDigitChars 10 digits 0 : Int) < 2 ^ 31

namespace Exponent

def text (exponent : Exponent) : List Char :=
  exponent.mark :: (exponent.sign.text ++ exponent.digits)

def value (exponent : Exponent) : Int :=
  exponent.sign.factor * (Nat.ofDigitChars 10 exponent.digits 0 : Int)

end Exponent

inductive Suffix where
  | symbol (symbol : Symbol)
  | exponent (exponent : Exponent)

namespace Suffix

def text : Suffix → List Char
  | symbol s => s.text
  | exponent e => e.text

def multiplier : Suffix → Nat
  | symbol s => s.multiplier
  | exponent _ => 1

/-- The power of ten that it stands for. -/
def power : Suffix → Int
  | symbol s => s.exponent
  | exponent e => e.value

def scale (suffix : Suffix) : Scale :=
  ⟨suffix.multiplier, suffix.power⟩

theorem not_isNumberChar_of_head {suffix : Suffix} {c : Char} (h : suffix.text.head? = some c) :
    isNumberChar c = false := by
  cases suffix with
  | symbol s =>
    revert h
    cases s <;> rintro ⟨⟩ <;> rfl
  | exponent e =>
    obtain rfl : e.mark = c := Option.some.inj h
    rcases e.isMark with hmark | hmark <;> rw [hmark] <;> rfl

end Suffix

theorem named?_eq_some_iff {cs : List Char} {scale : Scale} :
    named? cs = some scale ↔ ∃ s : Symbol, s.text = cs ∧ (Suffix.symbol s).scale = scale := by
  constructor
  · intro h
    unfold named? at h
    split at h
    · exact ⟨.one, rfl, Option.some.inj h⟩
    · exact ⟨.kibi, rfl, Option.some.inj h⟩
    · exact ⟨.mebi, rfl, Option.some.inj h⟩
    · exact ⟨.gibi, rfl, Option.some.inj h⟩
    · exact ⟨.tebi, rfl, Option.some.inj h⟩
    · exact ⟨.pebi, rfl, Option.some.inj h⟩
    · exact ⟨.exbi, rfl, Option.some.inj h⟩
    · exact ⟨.milli, rfl, Option.some.inj h⟩
    · exact ⟨.kilo, rfl, Option.some.inj h⟩
    · exact ⟨.mega, rfl, Option.some.inj h⟩
    · exact ⟨.giga, rfl, Option.some.inj h⟩
    · exact ⟨.tera, rfl, Option.some.inj h⟩
    · exact ⟨.peta, rfl, Option.some.inj h⟩
    · exact ⟨.exa, rfl, Option.some.inj h⟩
    · cases h
  · rintro ⟨s, rfl, rfl⟩
    cases s <;> rfl

theorem Symbol.second_of_text {s : Symbol} {first second : Char} {rest : List Char}
    (h : s.text = first :: second :: rest) : second = 'i' := by
  revert h
  cases s <;> rintro ⟨⟩ <;> rfl

/-- No symbol is a letter for an exponent with a sign or digits after it. -/
theorem named?_exponent (e : Exponent) : named? e.text = none := by
  have hne : e.sign.text ++ e.digits ≠ [] :=
    fun hnil => e.ne_nil (List.append_eq_nil_iff.mp hnil).2
  obtain ⟨c, rest, hrest⟩ := List.exists_cons_of_ne_nil hne
  have hc : c ≠ 'i' := by
    rintro rfl
    have hmem : 'i' ∈ e.sign.text ++ e.digits := hrest ▸ List.mem_cons_self
    rcases List.mem_append.mp hmem with hsign | hdigits
    · revert hsign
      cases e.sign <;> decide
    · exact absurd (e.isDigit 'i' hdigits) (by decide)
  rw [Option.eq_none_iff_forall_ne_some]
  intro scale hnamed
  obtain ⟨s, hs, -⟩ := named?_eq_some_iff.mp hnamed
  rw [Exponent.text, hrest] at hs
  exact hc (Symbol.second_of_text hs)

theorem exponent?_of_exponent (e : Exponent) : exponent? (e.sign.text ++ e.digits) = some e.value := by
  have hleast : Width.least 32 = -2 ^ 31 := rfl
  have hgreatest : Width.greatest 32 = 2 ^ 31 - 1 := rfl
  have hlow := e.least
  have hhigh := e.greatest
  refine Text.signed?_eq_some_iff.mpr ⟨e.sign, e.digits, rfl, e.ne_nil, e.isDigit, rfl, ?_, ?_⟩
  · rw [Exponent.value]
    omega
  · rw [Exponent.value]
    omega

theorem exists_exponent_of_exponent? {mark : Char} (hmark : mark = 'e' ∨ mark = 'E')
    {rest : List Char} {n : Int} (h : exponent? rest = some n) :
    ∃ e : Exponent, e.text = mark :: rest ∧ e.value = n := by
  have hleast : Width.least 32 = -2 ^ 31 := rfl
  have hgreatest : Width.greatest 32 = 2 ^ 31 - 1 := rfl
  obtain ⟨sign, digits, rfl, hne, hdigits, rfl, hlow, hhigh⟩ := Text.signed?_eq_some_iff.mp h
  exact ⟨⟨mark, sign, digits, hmark, hdigits, hne, by omega, by omega⟩, rfl, rfl⟩

/-- A suffix is read exactly where it is one. -/
theorem scaleOf_eq_ok_iff {text : String} {cs : List Char} {scale : Scale} :
    scaleOf text cs = .ok scale ↔ ∃ suffix : Suffix, suffix.text = cs ∧ suffix.scale = scale := by
  constructor
  · intro h
    unfold scaleOf at h
    split at h
    · next found hnamed =>
      obtain ⟨s, hs, hscale⟩ := named?_eq_some_iff.mp hnamed
      exact ⟨.symbol s, hs, hscale.trans (Except.ok.inj h)⟩
    · split at h
      · next rest _ =>
        cases hread : exponent? rest with
        | none => simp [hread] at h
        | some n =>
          obtain ⟨e, htext, hvalue⟩ := exists_exponent_of_exponent? (.inl rfl) hread
          simp only [hread, Except.ok.injEq] at h
          exact ⟨.exponent e, htext, by rw [← h, ← hvalue]; rfl⟩
      · next rest _ =>
        cases hread : exponent? rest with
        | none => simp [hread] at h
        | some n =>
          obtain ⟨e, htext, hvalue⟩ := exists_exponent_of_exponent? (.inr rfl) hread
          simp only [hread, Except.ok.injEq] at h
          exact ⟨.exponent e, htext, by rw [← h, ← hvalue]; rfl⟩
      · cases h
  · rintro ⟨suffix, rfl, rfl⟩
    cases suffix with
    | symbol s =>
      have hnamed : named? (Suffix.symbol s).text = some (Suffix.symbol s).scale :=
        named?_eq_some_iff.mpr ⟨s, rfl, rfl⟩
      simp only [scaleOf, hnamed]
    | exponent e =>
      have hnamed := named?_exponent e
      have hread := exponent?_of_exponent e
      obtain ⟨mark, sign, digits, rfl | rfl, isDigit, ne_nil, least, greatest⟩ := e
      · simp only [Exponent.text] at hnamed
        simp only [scaleOf, Suffix.text, Exponent.text, hnamed, hread]
        rfl
      · simp only [Exponent.text] at hnamed
        simp only [scaleOf, Suffix.text, Exponent.text, hnamed, hread]
        rfl

/-! ## Quantities -/

/-- A quantity as it is written. -/
structure Written where
  sign : Sign
  number : Number
  suffix : Suffix

namespace Written

def text (w : Written) : List Char :=
  w.sign.text ++ (w.number.text ++ w.suffix.text)

/-- The number that it denotes. -/
def value (w : Written) : ℚ :=
  w.sign.factor * (w.number.value / 10 ^ w.number.places) *
    (w.suffix.multiplier * 10 ^ w.suffix.power)

/-- What reading finds in it. -/
def reading (w : Written) : Reading where
  isNegative := w.sign == .minus
  mantissa := ⟨w.number.value, Width.narrowed 32 w.number.places⟩
  scale := w.suffix.scale

theorem signed_text (w : Written) :
    signed w.text = (w.sign == .minus, w.number.text ++ w.suffix.text) := by
  obtain ⟨sign, number, suffix⟩ := w
  cases sign with
  | minus => rfl
  | plus => rfl
  | absent =>
    -- A number begins with a digit or a point, which is no sign.
    have hne : number.text ≠ [] := fun hnil => number.shaped (by simp [hnil])
    obtain ⟨c, rest, hrest⟩ := List.exists_cons_of_ne_nil hne
    have hc : isNumberChar c = true :=
      Number.isNumberChar_of_mem_text (hrest ▸ List.mem_cons_self)
    change signed (number.text ++ suffix.text) = (false, number.text ++ suffix.text)
    rw [hrest, List.cons_append]
    unfold signed
    split
    · next heq =>
      rw [(List.cons.inj heq).1] at hc
      exact absurd hc (by decide)
    · next heq =>
      rw [(List.cons.inj heq).1] at hc
      exact absurd hc (by decide)
    · rfl

theorem takeWhile_text (w : Written) :
    (w.number.text ++ w.suffix.text).takeWhile isNumberChar = w.number.text :=
  Text.takeWhile_append_of_head (fun _ => Number.isNumberChar_of_mem_text)
    fun _ => Suffix.not_isNumberChar_of_head

theorem dropWhile_text (w : Written) :
    (w.number.text ++ w.suffix.text).dropWhile isNumberChar = w.suffix.text :=
  Text.dropWhile_append_of_head (fun _ => Number.isNumberChar_of_mem_text)
    fun _ => Suffix.not_isNumberChar_of_head

/-- A written quantity is taken apart into its own parts, unless it has too many digits. -/
theorem read_text {w : Written} {text : String} (h : text.toList = w.text) :
    read text =
      if w.number.value < 2 ^ 128 then .ok w.reading else .error (.numberOutOfRange text) := by
  have hne : text ≠ "" := by
    rintro rfl
    have hnil : w.number.text = [] :=
      (List.append_eq_nil_iff.mp (List.append_eq_nil_iff.mp h.symm).2).1
    exact w.number.shaped (by simp [hnil])
  have hscale : scaleOf text w.suffix.text = .ok w.suffix.scale :=
    scaleOf_eq_ok_iff.mpr ⟨w.suffix, rfl, rfl⟩
  simp only [read, hne, if_false, h, signed_text, takeWhile_text, dropWhile_text,
    mantissaOf_text]
  by_cases hfits : w.number.value < 2 ^ 128
  · simp only [hfits, if_true, hscale]
    rfl
  · simp only [hfits, if_false]
    rfl

end Written

theorem exists_sign (cs : List Char) :
    ∃ sign : Sign, cs = sign.text ++ (signed cs).2 := by
  unfold signed
  split
  · exact ⟨.minus, rfl⟩
  · exact ⟨.plus, rfl⟩
  · exact ⟨.absent, rfl⟩

theorem exists_written_of_read {text : String} {r : Reading} (h : read text = .ok r) :
    ∃ w : Written, text.toList = w.text := by
  unfold read at h
  by_cases hempty : text = ""
  · simp [hempty, bind, Except.bind, throw, throwThe, MonadExceptOf.throw] at h
  · simp only [hempty, if_false, bind, Except.bind, pure, Except.pure] at h
    cases hmantissa : mantissaOf text ((signed text.toList).2.takeWhile isNumberChar) with
    | error fault => simp [hmantissa] at h
    | ok mantissa =>
      cases hscale : scaleOf text ((signed text.toList).2.dropWhile isNumberChar) with
      | error fault => simp [hmantissa, hscale] at h
      | ok scale =>
        obtain ⟨number, hnumber⟩ := exists_number_of_mantissaOf
          (fun c hc => List.mem_takeWhile_imp hc) hmantissa
        obtain ⟨suffix, hsuffix, -⟩ := scaleOf_eq_ok_iff.mp hscale
        obtain ⟨sign, hsign⟩ := exists_sign text.toList
        refine ⟨⟨sign, number, suffix⟩, hsign.trans ?_⟩
        rw [Written.text, hnumber, hsuffix, List.takeWhile_append_dropWhile]

/-- Exactly the written quantities whose digits fit are taken apart. -/
theorem read_eq_ok_iff {text : String} {r : Reading} :
    read text = .ok r ↔
      ∃ w : Written, text.toList = w.text ∧ w.number.value < 2 ^ 128 ∧ r = w.reading := by
  constructor
  · intro h
    obtain ⟨w, hw⟩ := exists_written_of_read h
    rw [Written.read_text hw] at h
    by_cases hfits : w.number.value < 2 ^ 128
    · rw [if_pos hfits] at h
      exact ⟨w, hw, hfits, (Except.ok.inj h).symm⟩
    · rw [if_neg hfits] at h
      cases h
  · rintro ⟨w, hw, hfits, rfl⟩
    rw [Written.read_text hw, if_pos hfits]

/-! ## Blanks around quantities -/

/-- `s` is the quantity `w` with nothing but blanks around it. -/
def Spells (s : String) (w : Written) : Prop :=
  ∃ before after, s.toList = before ++ w.text ++ after ∧
    (∀ c ∈ before, Text.isBlank c = true) ∧ ∀ c ∈ after, Text.isBlank c = true

theorem not_isBlank_of_isDigit {c : Char} (h : c.isDigit = true) : Text.isBlank c = false := by
  have hrange := Char.isDigit_iff_toNat.mp h
  have hends : '0'.toNat = 48 ∧ '9'.toNat = 57 := ⟨rfl, rfl⟩
  simp only [Text.isBlank, Bool.or_eq_false_iff, Bool.and_eq_false_iff, decide_eq_false_iff_not,
    beq_eq_false_iff_ne]
  omega

theorem not_isBlank_of_isNumberChar {c : Char} (h : isNumberChar c = true) :
    Text.isBlank c = false := by
  simp only [isNumberChar, Bool.or_eq_true, beq_iff_eq] at h
  rcases h with hdigit | rfl
  · exact not_isBlank_of_isDigit hdigit
  · rfl

theorem not_isBlank_of_mem_sign {sign : Sign} {c : Char} (h : c ∈ sign.text) :
    Text.isBlank c = false := by
  have hall : sign.text.all (!Text.isBlank ·) = true := by cases sign <;> rfl
  simpa using List.all_eq_true.mp hall c h

theorem not_isBlank_of_mem_suffix {suffix : Suffix} {c : Char} (h : c ∈ suffix.text) :
    Text.isBlank c = false := by
  cases suffix with
  | symbol s =>
    have hall : s.text.all (!Text.isBlank ·) = true := by cases s <;> rfl
    simpa using List.all_eq_true.mp hall c h
  | exponent e =>
    rcases List.mem_cons.mp h with rfl | h
    · rcases e.isMark with hmark | hmark <;> rw [hmark] <;> rfl
    · rcases List.mem_append.mp h with hsign | hdigits
      · exact not_isBlank_of_mem_sign hsign
      · exact not_isBlank_of_isDigit (e.isDigit c hdigits)

theorem Written.not_isBlank_of_mem_text {w : Written} {c : Char} (h : c ∈ w.text) :
    Text.isBlank c = false := by
  rcases List.mem_append.mp h with hsign | h
  · exact not_isBlank_of_mem_sign hsign
  · rcases List.mem_append.mp h with hnumber | hsuffix
    · exact not_isBlank_of_isNumberChar (Number.isNumberChar_of_mem_text hnumber)
    · exact not_isBlank_of_mem_suffix hsuffix

/-- What is left of a quantity without the blanks around it is the quantity. -/
theorem spells_iff {s : String} {w : Written} : Spells s w ↔ (Text.trim s).toList = w.text := by
  rw [Text.toList_trim]
  constructor
  · rintro ⟨before, after, hs, hbefore, hafter⟩
    rw [hs]
    exact Text.trimChars_blanks hbefore hafter fun c hc => Written.not_isBlank_of_mem_text hc
  · intro h
    obtain ⟨before, after, hs, hbefore, hafter⟩ := Text.exists_blanks_of_trimChars s.toList
    exact ⟨before, after, h ▸ hs, hbefore, hafter⟩

theorem Written.places_le_length (w : Written) : w.number.places ≤ w.text.length := by
  have hplaces : w.number.places ≤ w.number.text.length := by
    rw [Number.places, Number.text, List.length_append]
    cases w.number.fraction with
    | none => simp
    | some fraction =>
      rw [Option.getD_some, List.length_cons]
      omega
  rw [Written.text, List.length_append, List.length_append]
  omega

/-- A character takes up at least one byte. -/
theorem length_le_utf8ByteSize (s : String) : s.toList.length ≤ s.utf8ByteSize := by
  have hchars (cs : List Char) : cs.length ≤ String.utf8Len cs := by
    induction cs with
    | nil => simp
    | cons c cs ih =>
      have hc := Char.utf8Size_pos c
      rw [List.length_cons, String.utf8Len_cons]
      omega
  have hsize := String.utf8ByteSize_ofList s.toList
  rw [String.ofList_toList] at hsize
  exact hsize ▸ hchars s.toList

theorem Spells.places_le {s : String} {w : Written} (h : Spells s w) :
    w.number.places ≤ s.utf8ByteSize := by
  obtain ⟨before, after, hs, -, -⟩ := h
  have hlength : s.toList.length = before.length + w.text.length + after.length := by
    rw [hs, List.length_append, List.length_append]
  have hplaces := w.places_le_length
  have hbytes := length_le_utf8ByteSize s
  omega

end DatasetProvisioner.Quantity
