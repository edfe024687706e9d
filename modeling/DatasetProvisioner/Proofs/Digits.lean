import Mathlib.Data.List.TakeWhile
import Mathlib.Tactic.Ring
import DatasetProvisioner.Text.Basic
import DatasetProvisioner.Text.Numeral

/-!
# Reading digits

What the readers of whole numbers accept and which number they give: exactly the non-empty runs of
decimal digits, behind a sign where one is allowed, and the number that the digits denote.
-/
namespace DatasetProvisioner.Text

theorem digit?_of_isDigit {c : Char} (h : c.isDigit = true) :
    digit? 10 c = some (c.toNat - '0'.toNat) := by
  have hbound : c.toNat - '0'.toNat < 10 := by
    have hrange := Char.isDigit_iff_toNat.mp h
    have hends : '0'.toNat = 48 ∧ '9'.toNat = 57 := ⟨rfl, rfl⟩
    omega
  simp only [digit?, h, hbound, decide_true, Bool.and_self, if_true]

theorem mapM_digit?_of_isDigit {cs : List Char} (h : ∀ c ∈ cs, c.isDigit = true) :
    cs.mapM (digit? 10) = some (cs.map fun c => c.toNat - '0'.toNat) := by
  induction cs with
  | nil => rfl
  | cons c cs ih =>
    obtain ⟨hc, hcs⟩ := List.forall_mem_cons.mp h
    rw [List.mapM_cons, digit?_of_isDigit hc, ih hcs]
    rfl

theorem isDigit_of_mapM_digit? {cs : List Char} {digits : List Nat}
    (h : cs.mapM (digit? 10) = some digits) : ∀ c ∈ cs, c.isDigit = true := by
  induction cs generalizing digits with
  | nil => simp
  | cons c cs ih =>
    rw [List.mapM_cons] at h
    obtain ⟨d, hd, hrest⟩ := Option.bind_eq_some_iff.mp h
    obtain ⟨ds, hds, -⟩ := Option.bind_eq_some_iff.mp hrest
    have hc : c.isDigit = true := by
      by_contra hne
      simp [digit?, hne] at hd
    exact List.forall_mem_cons.mpr ⟨hc, ih hds⟩

theorem ofDigits_map (cs : List Char) :
    ofDigits 10 (cs.map fun c => c.toNat - '0'.toNat) = Nat.ofDigitChars 10 cs 0 := by
  rw [ofDigits, List.foldl_map, Nat.ofDigitChars]
  simp only [Nat.mul_comm]

theorem natural?_of_isDigit {cs : List Char} (hne : cs ≠ []) (h : ∀ c ∈ cs, c.isDigit = true) :
    natural? 10 cs = some (Nat.ofDigitChars 10 cs 0) := by
  rw [natural?, List.isEmpty_eq_false_iff.mpr hne, mapM_digit?_of_isDigit h, Option.map_some,
    ofDigits_map]
  rfl

theorem natural?_eq_some_iff {cs : List Char} {n : Nat} :
    natural? 10 cs = some n ↔
      cs ≠ [] ∧ (∀ c ∈ cs, c.isDigit = true) ∧ n = Nat.ofDigitChars 10 cs 0 := by
  constructor
  · intro h
    have hne : cs ≠ [] := by
      rintro rfl
      simp [natural?] at h
    have hdigits : ∀ c ∈ cs, c.isDigit = true := by
      rw [natural?, List.isEmpty_eq_false_iff.mpr hne] at h
      obtain ⟨digits, hread, -⟩ := Option.map_eq_some_iff.mp h
      exact isDigit_of_mapM_digit? hread
    rw [natural?_of_isDigit hne hdigits] at h
    exact ⟨hne, hdigits, (Option.some.inj h).symm⟩
  · rintro ⟨hne, hdigits, rfl⟩
    exact natural?_of_isDigit hne hdigits

/-- Digits have no sign, so that reading them without one is reading them as they stand. -/
theorem unsigned?_of_isDigit {cs : List Char} (hne : cs ≠ []) (h : ∀ c ∈ cs, c.isDigit = true)
    (limit : Nat) :
    unsigned? 10 limit cs =
      if Nat.ofDigitChars 10 cs 0 ≤ limit then some (Nat.ofDigitChars 10 cs 0) else none := by
  have hread := natural?_of_isDigit hne h
  unfold unsigned?
  split
  · next rest =>
    have hplus : '+'.isDigit = true := h '+' List.mem_cons_self
    exact absurd hplus (by decide)
  · simp only [hread, Option.filter_some, decide_eq_true_eq]

/-! ## Signs -/

/-- What may stand in front of the digits of a number. -/
inductive Sign where
  | absent
  | plus
  | minus
  deriving Repr, DecidableEq

namespace Sign

def text : Sign → List Char
  | absent => []
  | plus => ['+']
  | minus => ['-']

def factor : Sign → Int
  | absent | plus => 1
  | minus => -1

end Sign

theorem signed?_eq_some_iff {least greatest : Int} {cs : List Char} {n : Int} :
    signed? least greatest cs = some n ↔
      ∃ (sign : Sign) (digits : List Char), cs = sign.text ++ digits ∧ digits ≠ [] ∧
        (∀ c ∈ digits, c.isDigit = true) ∧ n = sign.factor * Nat.ofDigitChars 10 digits 0 ∧
        least ≤ n ∧ n ≤ greatest := by
  constructor
  · intro h
    obtain ⟨hvalue, hrange⟩ := Option.filter_eq_some_iff.mp h
    simp only [Bool.and_eq_true, decide_eq_true_eq] at hrange
    split at hvalue
    · next rest =>
      obtain ⟨_, hread, rfl⟩ := Option.map_eq_some_iff.mp hvalue
      obtain ⟨m, hm, hcast⟩ := Option.bind_eq_some_iff.mp hread
      obtain rfl := Option.some.inj hcast
      obtain ⟨hne, hdigits, rfl⟩ := natural?_eq_some_iff.mp hm
      exact ⟨.minus, rest, rfl, hne, hdigits, (Int.neg_one_mul _).symm, hrange⟩
    · next rest =>
      obtain ⟨m, hm, rfl⟩ := Option.map_eq_some_iff.mp hvalue
      obtain ⟨hne, hdigits, rfl⟩ := natural?_eq_some_iff.mp hm
      exact ⟨.plus, rest, rfl, hne, hdigits, (Int.one_mul _).symm, hrange⟩
    · obtain ⟨m, hm, rfl⟩ := Option.map_eq_some_iff.mp hvalue
      obtain ⟨hne, hdigits, rfl⟩ := natural?_eq_some_iff.mp hm
      exact ⟨.absent, cs, rfl, hne, hdigits, (Int.one_mul _).symm, hrange⟩
  · rintro ⟨sign, digits, rfl, hne, hdigits, rfl, hleast, hgreatest⟩
    have hread := natural?_of_isDigit hne hdigits
    refine Option.filter_eq_some_iff.mpr ⟨?_, by simp [hleast, hgreatest]⟩
    cases sign with
    | minus => simp [Sign.text, Sign.factor, hread]
    | plus => simp [Sign.text, Sign.factor, hread]
    | absent =>
      obtain ⟨c, rest, rfl⟩ := List.exists_cons_of_ne_nil hne
      have hc := hdigits c List.mem_cons_self
      simp only [Sign.text, List.nil_append]
      split
      · next heq =>
        rw [(List.cons.inj heq).1] at hc
        exact absurd hc (by decide)
      · next heq =>
        rw [(List.cons.inj heq).1] at hc
        exact absurd hc (by decide)
      · rw [hread, Option.map_some]
        simp [Sign.factor]

/-! ## How great a number can be -/

theorem ofDigitChars_lt {cs : List Char} (h : ∀ c ∈ cs, c.isDigit = true) (n : Nat) :
    Nat.ofDigitChars 10 cs n < (n + 1) * 10 ^ cs.length := by
  induction cs generalizing n with
  | nil => simp [Nat.ofDigitChars]
  | cons c cs ih =>
    obtain ⟨hc, hcs⟩ := List.forall_mem_cons.mp h
    have hdigit : c.toNat - '0'.toNat < 10 := by
      have hrange := Char.isDigit_iff_toNat.mp hc
      have hends : '0'.toNat = 48 ∧ '9'.toNat = 57 := ⟨rfl, rfl⟩
      omega
    have hstep : 10 * n + (c.toNat - '0'.toNat) + 1 ≤ (n + 1) * 10 := by omega
    calc Nat.ofDigitChars 10 (c :: cs) n
        = Nat.ofDigitChars 10 cs (10 * n + (c.toNat - '0'.toNat)) := rfl
      _ < (10 * n + (c.toNat - '0'.toNat) + 1) * 10 ^ cs.length := ih hcs _
      _ ≤ (n + 1) * 10 * 10 ^ cs.length := Nat.mul_le_mul_right _ hstep
      _ = (n + 1) * 10 ^ (c :: cs).length := by rw [List.length_cons, Nat.pow_succ]; ring

/-- Leading zeros do not count. -/
theorem ofDigitChars_dropWhile (cs : List Char) :
    Nat.ofDigitChars 10 (cs.dropWhile (· == '0')) 0 = Nat.ofDigitChars 10 cs 0 := by
  induction cs with
  | nil => rfl
  | cons c cs ih =>
    by_cases hzero : c = '0'
    · subst hzero
      rw [List.dropWhile_cons_of_pos (by decide), ih]
      rfl
    · rw [List.dropWhile_cons_of_neg (by simpa using hzero)]

/-! ## Blanks around a text -/

theorem dropWhile_append_of_head {p : Char → Bool} {before rest : List Char}
    (hbefore : ∀ c ∈ before, p c = true) (hrest : ∀ c, rest.head? = some c → p c = false) :
    (before ++ rest).dropWhile p = rest := by
  rw [List.dropWhile_append_of_pos hbefore]
  cases rest with
  | nil => rfl
  | cons c rest => rw [List.dropWhile_cons_of_neg (by simp [hrest c rfl])]

theorem takeWhile_append_of_head {p : Char → Bool} {before rest : List Char}
    (hbefore : ∀ c ∈ before, p c = true) (hrest : ∀ c, rest.head? = some c → p c = false) :
    (before ++ rest).takeWhile p = before := by
  rw [List.takeWhile_append_of_pos hbefore]
  cases rest with
  | nil => simp
  | cons c rest => rw [List.takeWhile_cons_of_neg (by simp [hrest c rfl]), List.append_nil]

/-- Trimming takes away blanks only. -/
theorem exists_blanks_of_trimChars (cs : List Char) :
    ∃ before after, cs = before ++ trimChars cs ++ after ∧ (∀ c ∈ before, isBlank c = true) ∧
      ∀ c ∈ after, isBlank c = true := by
  have htail := List.takeWhile_append_dropWhile (p := isBlank) (l := (cs.dropWhile isBlank).reverse)
  refine ⟨cs.takeWhile isBlank, ((cs.dropWhile isBlank).reverse.takeWhile isBlank).reverse, ?_,
    fun c hc => List.mem_takeWhile_imp hc,
    fun c hc => List.mem_takeWhile_imp (List.mem_reverse.mp hc)⟩
  rw [trimChars, dropEndWhile, List.append_assoc, ← List.reverse_append, htail,
    List.reverse_reverse, List.takeWhile_append_dropWhile]

/-- A text without blanks at its ends is what is left of it with blanks around. -/
theorem trimChars_of_ends {before text after : List Char}
    (hbefore : ∀ c ∈ before, isBlank c = true) (hafter : ∀ c ∈ after, isBlank c = true)
    (hfirst : ∀ c, text.head? = some c → isBlank c = false)
    (hlast : ∀ c, text.getLast? = some c → isBlank c = false) :
    trimChars (before ++ text ++ after) = text := by
  by_cases hempty : text = []
  · subst hempty
    have hall : ∀ c ∈ before ++ after, isBlank c = true :=
      List.forall_mem_append.mpr ⟨hbefore, hafter⟩
    rw [trimChars, List.append_nil, List.dropWhile_eq_nil_iff.mpr hall]
    rfl
  · have hhead : ∀ c, (text ++ after).head? = some c → isBlank c = false := by
      intro c hc
      obtain ⟨first, rest, rfl⟩ := List.exists_cons_of_ne_nil hempty
      exact hfirst c hc
    have hend : ∀ c, text.reverse.head? = some c → isBlank c = false := by
      intro c hc
      rw [List.head?_reverse] at hc
      exact hlast c hc
    rw [trimChars, List.append_assoc, dropWhile_append_of_head hbefore hhead, dropEndWhile,
      List.reverse_append,
      dropWhile_append_of_head (fun c hc => hafter c (List.mem_reverse.mp hc)) hend,
      List.reverse_reverse]

theorem trimChars_blanks {before text after : List Char} (hbefore : ∀ c ∈ before, isBlank c = true)
    (hafter : ∀ c ∈ after, isBlank c = true) (htext : ∀ c ∈ text, isBlank c = false) :
    trimChars (before ++ text ++ after) = text :=
  trimChars_of_ends hbefore hafter (fun c hc => htext c (List.mem_of_mem_head? hc))
    fun c hc => htext c (List.mem_of_getLast? hc)

end DatasetProvisioner.Text
