import Mathlib.Algebra.Order.Field.Power
import Mathlib.Algebra.Order.Floor.Ring
import Mathlib.Data.Rat.Floor
import Mathlib.Tactic.Linarith
import Mathlib.Tactic.NormNum
import Mathlib.Tactic.Positivity
import DatasetProvisioner.Proofs.QuantityText

/-!
# Quantities as numbers of bytes

The number of bytes of a quantity is the rational number that it denotes, rounded up. Reading it
computes in 128 bits and shifts by at most 38 places; here both are compared with the exact
number. What is read right holds without a bound but on the length of the text; what is read at
all is bounded, since a number may be refused for its digits although it would fit.
-/
namespace DatasetProvisioner.Quantity

open Text (Sign)

/-! ## Shifting -/

theorem natAbs_of_nonpos {places : Int} (h : places ≤ 0) : -places = (places.natAbs : Int) := by
  omega

/-- The powers of ten that are computed are exactly those that 128 bits hold. -/
theorem le_greatestPower_iff (k : Nat) : k ≤ greatestPower ↔ 10 ^ k < 2 ^ 128 := by
  constructor
  · intro h
    calc 10 ^ k ≤ 10 ^ greatestPower := Nat.pow_le_pow_right (by decide) h
      _ < 2 ^ 128 := by decide
  · intro h
    by_contra hgreater
    have hle : 10 ^ (greatestPower + 1) ≤ 10 ^ k := Nat.pow_le_pow_right (by decide) (by omega)
    have hover : 2 ^ 128 ≤ 10 ^ (greatestPower + 1) := by decide
    omega

theorem ceil_natCast_div (amount : Nat) {divisor : Nat} (h : 0 < divisor) :
    ⌈(amount : ℚ) / divisor⌉ = ((amount + divisor - 1) / divisor : Nat) := by
  have hdivisor : (0 : ℚ) < divisor := by exact_mod_cast h
  have hle : amount ≤ (amount + divisor - 1) / divisor * divisor := by
    have hmod := Nat.mod_lt (amount + divisor - 1) h
    have hsplit := Nat.div_add_mod' (amount + divisor - 1) divisor
    omega
  have hlt : (amount + divisor - 1) / divisor * divisor < amount + divisor := by
    have hfloor := Nat.div_mul_le_self (amount + divisor - 1) divisor
    omega
  rw [Int.ceil_eq_iff, Int.cast_natCast]
  constructor
  · rw [lt_div_iff₀ hdivisor, sub_mul, one_mul, sub_lt_iff_lt_add]
    exact_mod_cast hlt
  · rw [div_le_iff₀ hdivisor]
    exact_mod_cast hle

/-- What is left of less than `2 ^ 128` behind more than 38 places is less than one. -/
theorem ceil_of_far {amount k : Nat} (hfits : amount < 2 ^ 128) (hk : greatestPower < k) :
    ⌈(amount : ℚ) / (10 ^ k : Nat)⌉ = if amount = 0 then 0 else 1 := by
  by_cases hzero : amount = 0
  · simp [hzero]
  · have hdivisor : 2 ^ 128 ≤ 10 ^ k := by
      by_contra hless
      have hle := (le_greatestPower_iff k).mpr (by omega)
      omega
    have hpositive : 0 < amount := Nat.pos_of_ne_zero hzero
    rw [if_neg hzero, ceil_natCast_div amount (by positivity)]
    have hdiv : (amount + 10 ^ k - 1) / 10 ^ k = 1 := by
      rw [Nat.div_eq_iff (by positivity)]
      omega
    rw [hdiv]
    rfl

/-- A shift that gives a number gives the exact one rounded up, within 128 bits. -/
theorem ceil_of_shift? {amount n : Nat} {places : Int} (hfits : amount < 2 ^ 128)
    (h : shift? amount places = some n) :
    ⌈(amount : ℚ) * 10 ^ (-places)⌉ = n ∧ n < 2 ^ 128 := by
  unfold shift? at h
  by_cases hsign : places ≤ 0
  · rw [if_pos hsign] at h
    by_cases hpower : places.natAbs ≤ greatestPower
    · rw [if_pos hpower] at h
      obtain ⟨hshift, hless⟩ := Option.filter_eq_some_iff.mp h
      obtain rfl := Option.some.inj hshift
      have hexact : (amount : ℚ) * 10 ^ (-places) = (amount * Nat.pow 10 places.natAbs : Nat) := by
        rw [natAbs_of_nonpos hsign, zpow_natCast, Nat.pow_eq]
        push_cast
        rfl
      rw [hexact, Int.ceil_natCast]
      exact ⟨rfl, of_decide_eq_true hless⟩
    · rw [if_neg hpower] at h
      cases h
  · rw [if_neg hsign] at h
    have hplaces : places = (places.natAbs : Int) := by omega
    have hexact : (amount : ℚ) * 10 ^ (-places) = amount / (10 ^ places.natAbs : Nat) := by
      rw [zpow_neg, hplaces, zpow_natCast, ← div_eq_mul_inv, Int.natAbs_natCast]
      push_cast
      rfl
    rw [hexact]
    by_cases hpower : places.natAbs ≤ greatestPower
    · rw [if_pos hpower] at h
      obtain rfl := Option.some.inj h
      have hdivisor : 0 < 10 ^ places.natAbs := Nat.pow_pos (by decide)
      have hless : (amount + 10 ^ places.natAbs - 1) / 10 ^ places.natAbs < 2 ^ 128 := by
        rw [Nat.div_lt_iff_lt_mul hdivisor]
        have hstep : (amount + 1) * 10 ^ places.natAbs ≤ 2 ^ 128 * 10 ^ places.natAbs :=
          Nat.mul_le_mul_right _ hfits
        have hgrow : amount ≤ amount * 10 ^ places.natAbs := Nat.le_mul_of_pos_right _ hdivisor
        rw [Nat.add_mul, Nat.one_mul] at hstep
        omega
      exact ⟨ceil_natCast_div amount hdivisor, hless⟩
    · rw [if_neg hpower] at h
      obtain rfl := Option.some.inj h
      rw [ceil_of_far hfits (by omega)]
      by_cases hzero : amount = 0
      · simp [hzero]
      · simp [hzero]

/-- A shift gives a number unless it leaves 128 bits on the way. -/
theorem exists_shift? {amount : Nat} {places : Int} (hpower : -38 ≤ places)
    (hfits : (amount : ℚ) * 10 ^ (-places) < 2 ^ 128) : ∃ n, shift? amount places = some n := by
  unfold shift?
  by_cases hsign : places ≤ 0
  · have hle : places.natAbs ≤ greatestPower := by
      have hgreatest : greatestPower = 38 := rfl
      omega
    have hless : amount * Nat.pow 10 places.natAbs < 2 ^ 128 := by
      rw [natAbs_of_nonpos hsign, zpow_natCast] at hfits
      exact_mod_cast hfits
    rw [if_pos hsign, if_pos hle]
    exact ⟨_, Option.filter_eq_some_iff.mpr ⟨rfl, decide_eq_true hless⟩⟩
  · rw [if_neg hsign]
    by_cases hle : places.natAbs ≤ greatestPower
    · rw [if_pos hle]
      exact ⟨_, rfl⟩
    · rw [if_neg hle]
      exact ⟨_, rfl⟩

/-! ## Bounds on a reading -/

/-- Every number of a reading keeps to the width in which it is held, and so does what the shift
makes of them. -/
structure Reading.Fits (r : Reading) : Prop where
  digits : r.mantissa.digits < 2 ^ 128
  places : -2 ^ 31 ≤ r.mantissa.places ∧ r.mantissa.places < 2 ^ 31
  multiplier : r.scale.multiplier < 2 ^ 128
  exponent : -2 ^ 31 ≤ r.scale.exponent ∧ r.scale.exponent < 2 ^ 31
  shifted : r.amount < 2 ^ 128 → ∀ n, shift? r.amount r.places = some n → n < 2 ^ 128

theorem Suffix.multiplier_pos (suffix : Suffix) : 0 < suffix.multiplier := by
  cases suffix with
  | symbol s => cases s <;> decide
  | exponent e => exact Nat.one_pos

theorem Suffix.multiplier_le (suffix : Suffix) : suffix.multiplier ≤ 2 ^ 60 := by
  cases suffix with
  | symbol s => cases s <;> decide
  | exponent e => exact Nat.one_le_two_pow

theorem Suffix.power_bounds (suffix : Suffix) :
    -2 ^ 31 ≤ suffix.power ∧ suffix.power < 2 ^ 31 := by
  cases suffix with
  | symbol s => cases s <;> decide
  | exponent e => exact ⟨e.least, e.greatest⟩

theorem narrowed_bounds (n : Nat) : -2 ^ 31 ≤ Width.narrowed 32 n ∧ Width.narrowed 32 n < 2 ^ 31 := by
  have hvalues : Width.values 32 = 2 ^ 32 := rfl
  have hleast := Int.le_bmod (x := n) (m := 2 ^ 32) (by decide)
  have hgreatest := Int.bmod_lt (x := n) (m := 2 ^ 32) (by decide)
  rw [Width.narrowed, hvalues]
  omega

/-- With one bit more it is read as a negative number. -/
theorem narrowed_of_ge {n : Nat} (h : 2 ^ 31 ≤ n) (hn : n < 2 ^ 32) :
    Width.narrowed 32 n = n - 2 ^ 32 := by
  have hvalues : Width.values 32 = 4294967296 := rfl
  rw [Width.narrowed, hvalues, Int.bmod_def]
  split
  · omega
  · omega

theorem narrowed_of_lt {n : Nat} (h : n < 2 ^ 31) : Width.narrowed 32 n = n := by
  have hvalues : Width.values 32 = 2 ^ 32 := rfl
  rw [Width.narrowed, hvalues]
  apply Int.bmod_eq_of_le_mul_two
  · omega
  · omega

@[simp]
theorem Written.mantissa_reading (w : Written) :
    w.reading.mantissa = ⟨w.number.value, Width.narrowed 32 w.number.places⟩ :=
  rfl

@[simp]
theorem Written.scale_reading (w : Written) : w.reading.scale = w.suffix.scale :=
  rfl

theorem Written.fits {w : Written} (h : w.number.value < 2 ^ 128) : w.reading.Fits where
  digits := h
  places := by
    simp only [w.mantissa_reading]
    exact narrowed_bounds w.number.places
  multiplier := w.suffix.multiplier_le.trans_lt (by decide)
  exponent := w.suffix.power_bounds
  shifted := fun hamount _ hshift => (ceil_of_shift? hamount hshift).2

/-! ## The number of bytes of a reading -/

theorem Reading.bytes_eq_ok_iff {text : String} {r : Reading} {n : Nat} :
    r.bytes text = .ok n ↔
      (r.isNegative = true → r.mantissa.digits = 0) ∧ r.amount < 2 ^ 128 ∧
        (-2 ^ 31 ≤ r.places ∧ r.places < 2 ^ 31) ∧
        shift? r.amount r.places = some n ∧ n < 2 ^ 64 := by
  have hvalues : Width.values 128 = 2 ^ 128 := rfl
  have hleast : Width.least 32 = -2 ^ 31 := rfl
  have hgreatest : Width.greatest 32 = 2 ^ 31 - 1 := rfl
  have hlimit : Text.greatest64 = 2 ^ 64 - 1 := rfl
  unfold Reading.bytes
  by_cases hnegative : (r.isNegative && r.mantissa.digits != 0) = true
  · rw [if_pos hnegative]
    rw [Bool.and_eq_true, bne_iff_ne] at hnegative
    exact ⟨nofun, fun h => absurd (h.1 hnegative.1) hnegative.2⟩
  have hsign : r.isNegative = true → r.mantissa.digits = 0 := by simpa using hnegative
  rw [if_neg hnegative]
  by_cases hamount : Width.values 128 ≤ r.amount
  · rw [if_pos hamount]
    exact ⟨nofun, fun h => absurd h.2.1 (by omega)⟩
  rw [if_neg hamount]
  by_cases hplaces : r.places < Width.least 32 ∨ Width.greatest 32 < r.places
  · rw [if_pos (by simpa using hplaces)]
    exact ⟨nofun, fun h => absurd h.2.2.1 (by omega)⟩
  rw [if_neg (by simpa using hplaces)]
  have hwithin : -2 ^ 31 ≤ r.places ∧ r.places < 2 ^ 31 := by omega
  cases hshift : shift? r.amount r.places with
  | none => exact ⟨nofun, fun h => absurd h.2.2.2.1 nofun⟩
  | some m =>
    by_cases hm : m ≤ Text.greatest64
    · simp only [hm, if_true, Except.ok.injEq, Option.some.injEq]
      constructor
      · rintro rfl
        exact ⟨hsign, by omega, hwithin, rfl, by omega⟩
      · exact fun h => h.2.2.2.1
    · simp only [hm, if_false]
      refine ⟨nofun, ?_⟩
      rintro ⟨-, -, -, hsame, hn⟩
      obtain rfl := Option.some.inj hsame
      omega

namespace Written

/-- The value, out of what is read. -/
theorem value_eq (w : Written) :
    w.value = w.sign.factor *
      ((w.reading.amount : ℚ) * 10 ^ (w.suffix.power - (w.number.places : Int))) := by
  have hamount : (w.reading.amount : ℚ) = w.number.value * w.suffix.multiplier := by
    rw [Reading.amount]
    push_cast
    rfl
  rw [hamount, zpow_sub₀ (by norm_num), zpow_natCast, Written.value]
  ring

theorem nonneg_iff (w : Written) :
    0 ≤ w.value ↔ (w.sign = .minus → w.number.value = 0) := by
  have hpower : (0 : ℚ) < 10 ^ (w.suffix.power - (w.number.places : Int)) := by positivity
  have hmultiplier := w.suffix.multiplier_pos
  have hnonneg : (0 : ℚ) ≤
      w.reading.amount * 10 ^ (w.suffix.power - (w.number.places : Int)) := by positivity
  rw [w.value_eq]
  by_cases hsign : w.sign = .minus
  · rw [hsign]
    simp only [Sign.factor, forall_const, Int.cast_neg, Int.cast_one, neg_mul, one_mul]
    constructor
    · intro h
      have hzero : (w.reading.amount : ℚ) *
          10 ^ (w.suffix.power - (w.number.places : Int)) = 0 := by linarith
      have hamount : w.number.value * w.suffix.multiplier = 0 := by
        exact_mod_cast (mul_eq_zero.mp hzero).resolve_right hpower.ne'
      exact (Nat.mul_eq_zero.mp hamount).resolve_right (by omega)
    · intro h
      have hamount : w.reading.amount = 0 := by
        change w.number.value * _ = 0
        rw [h, Nat.zero_mul]
      simp [hamount]
  · have hfactor : w.sign.factor = 1 := by
      cases hcase : w.sign with
      | minus => exact absurd hcase hsign
      | plus => rfl
      | absent => rfl
    rw [hfactor, Int.cast_one, one_mul]
    exact ⟨fun _ h => absurd h hsign, fun _ => hnonneg⟩

/-- A value that is not negative has no sign that counts. -/
theorem value_of_nonneg {w : Written} (h : 0 ≤ w.value) :
    w.value = (w.reading.amount : ℚ) * 10 ^ (w.suffix.power - (w.number.places : Int)) := by
  have hzero := w.nonneg_iff.mp h
  rw [w.value_eq]
  cases hsign : w.sign with
  | minus =>
    have hamount : w.reading.amount = 0 := by
      change w.number.value * _ = 0
      rw [hzero hsign, Nat.zero_mul]
    simp [hamount]
  | plus => simp [Sign.factor]
  | absent => simp [Sign.factor]

theorem places_reading (w : Written) :
    w.reading.places = Width.narrowed 32 w.number.places - w.suffix.power := by
  simp only [Reading.places, mantissa_reading, scale_reading, Suffix.scale]

theorem isNegative_reading (w : Written) : w.reading.isNegative = true ↔ w.sign = .minus :=
  beq_iff_eq

end Written

/-! ## Texts -/

theorem bytes_of_spells {s : String} {w : Written} (h : Spells s w) :
    bytes s =
      if w.number.value < 2 ^ 128 then w.reading.bytes (Text.trim s)
      else .error (.numberOutOfRange (Text.trim s)) := by
  have hread := Written.read_text (spells_iff.mp h)
  by_cases hfits : w.number.value < 2 ^ 128
  · rw [if_pos hfits] at hread ⊢
    simp only [bytes, hread]
    rfl
  · rw [if_neg hfits] at hread ⊢
    simp only [bytes, hread]
    rfl

/-- What a quantity's bytes are read from: it fits, it is not negative, and its shift succeeds. -/
theorem reading_of_bytes {s : String} {w : Written} {n : Nat} (hw : Spells s w)
    (h : bytes s = .ok n) :
    w.number.value < 2 ^ 128 ∧ 0 ≤ w.value ∧ w.reading.amount < 2 ^ 128 ∧
      (-2 ^ 31 ≤ w.reading.places ∧ w.reading.places < 2 ^ 31) ∧
      shift? w.reading.amount w.reading.places = some n ∧ n < 2 ^ 64 := by
  rw [bytes_of_spells hw] at h
  by_cases hfits : w.number.value < 2 ^ 128
  · rw [if_pos hfits] at h
    obtain ⟨hsign, hrest⟩ := Reading.bytes_eq_ok_iff.mp h
    exact ⟨hfits, w.nonneg_iff.mpr fun hminus => hsign (w.isNegative_reading.mpr hminus), hrest⟩
  · rw [if_neg hfits] at h
    cases h

theorem exists_spells_of_bytes {s : String} {n : Nat} (h : bytes s = .ok n) :
    ∃ w, Spells s w := by
  cases hread : read (Text.trim s) with
  | error fault =>
    simp only [bytes, hread] at h
    cases h
  | ok r =>
    obtain ⟨w, hw⟩ := exists_written_of_read hread
    exact ⟨w, spells_iff.mpr hw⟩

theorem error_of_not_ok {s : String} (h : ∀ n, bytes s ≠ .ok n) :
    ∃ fault, bytes s = .error fault := by
  cases hbytes : bytes s with
  | error fault => exact ⟨fault, rfl⟩
  | ok n => exact absurd hbytes (h n)

/-- What is read right: with fewer than `2 ^ 31` places, the value rounded up. -/
theorem ceil_of_bytes {s : String} {w : Written} {n : Nat} (hw : Spells s w)
    (hplaces : w.number.places < 2 ^ 31) (h : bytes s = .ok n) : ⌈w.value⌉ = n := by
  obtain ⟨-, hnonneg, hamount, -, hshift, -⟩ := reading_of_bytes hw h
  have hceil := (ceil_of_shift? hamount hshift).1
  rw [w.places_reading, narrowed_of_lt hplaces, neg_sub] at hceil
  rw [Written.value_of_nonneg hnonneg]
  exact hceil

theorem lt_power_of_one_le {amount : Nat} {k : Int} {bound : Nat} (hamount : amount < 10 ^ bound)
    (h : 1 ≤ (amount : ℚ) * 10 ^ k) : -k < bound := by
  have hpower : (0 : ℚ) < 10 ^ k := by positivity
  have hless : (10 : ℚ) ^ (-k) < 10 ^ (bound : Int) := by
    rw [zpow_neg, zpow_natCast]
    calc ((10 : ℚ) ^ k)⁻¹ ≤ amount := by
          rw [inv_le_iff_one_le_mul₀ hpower]
          exact h
      _ < 10 ^ bound := by exact_mod_cast hamount
  exact (zpow_lt_zpow_iff_right₀ (by norm_num)).mp hless

/-- A number of places that 32 bits do not hold is never taken for a small one: the exponent that
the value needs leaves 32 bits with it. -/
theorem places_lt_of_bytes {s : String} {w : Written} {n : Nat} (hw : Spells s w)
    (hone : 1 ≤ w.value) (h : bytes s = .ok n) : w.number.places < 2 ^ 31 := by
  by_contra hmany
  obtain ⟨-, hnonneg, hamount, ⟨hleast, -⟩, -, -⟩ := reading_of_bytes hw h
  rw [Written.value_of_nonneg hnonneg] at hone
  have hpower := lt_power_of_one_le (hamount.trans (by decide : 2 ^ 128 < 10 ^ 39)) hone
  have hgreatest := w.suffix.power_bounds.2
  rw [w.places_reading, narrowed_of_ge (by omega) (by omega)] at hleast
  omega

/-- The quantities that are not refused for what they are made of. -/
structure Written.Modest (w : Written) : Prop where
  digits : (w.number.digits.dropWhile (· == '0')).length ≤ 20
  length : w.text.length < 10 ^ 6
  power : |w.suffix.power| ≤ 10 ^ 6
  zero : w.value = 0 → w.suffix.power - w.number.places ≤ 38

theorem Written.Modest.value_lt {w : Written} (h : w.Modest) : w.number.value < 10 ^ 20 := by
  have hdigits : ∀ c ∈ w.number.digits.dropWhile (· == '0'), c.isDigit = true :=
    fun c hc => w.number.isDigit c ((List.dropWhile_suffix _).subset hc)
  calc w.number.value
      = Nat.ofDigitChars 10 (w.number.digits.dropWhile (· == '0')) 0 :=
        (Text.ofDigitChars_dropWhile w.number.digits).symm
    _ < (0 + 1) * 10 ^ (w.number.digits.dropWhile (· == '0')).length :=
        Text.ofDigitChars_lt hdigits 0
    _ ≤ 10 ^ 20 := by
        rw [Nat.zero_add, Nat.one_mul]
        exact Nat.pow_le_pow_right (by decide) h.digits

theorem Written.Modest.amount_lt {w : Written} (h : w.Modest) : w.reading.amount < 2 ^ 128 :=
  calc w.number.value * w.suffix.multiplier
      ≤ 10 ^ 20 * 2 ^ 60 := Nat.mul_le_mul h.value_lt.le w.suffix.multiplier_le
    _ < 2 ^ 128 := by decide

/-- A modest value that fits 64 bits is shifted to the left by 38 places at most. -/
theorem Written.Modest.places_ge {w : Written} (h : w.Modest) (hnonneg : 0 ≤ w.value)
    (hfits : w.value < 2 ^ 64) : -38 ≤ (w.number.places : Int) - w.suffix.power := by
  by_cases hzero : w.value = 0
  · have hpower := h.zero hzero
    omega
  · have hvalue := Written.value_of_nonneg hnonneg
    have hpositive : 1 ≤ w.reading.amount := by
      by_contra hnone
      have hamount : w.reading.amount = 0 := by omega
      rw [hamount] at hvalue
      exact hzero (by simpa using hvalue)
    have hpower : (10 : ℚ) ^ (w.suffix.power - (w.number.places : Int)) < 10 ^ (20 : Int) :=
      calc (10 : ℚ) ^ (w.suffix.power - (w.number.places : Int))
          ≤ w.reading.amount * 10 ^ (w.suffix.power - (w.number.places : Int)) :=
            le_mul_of_one_le_left (by positivity) (by exact_mod_cast hpositive)
        _ = w.value := hvalue.symm
        _ < 2 ^ 64 := hfits
        _ < 10 ^ (20 : Int) := by norm_num
    have hless := (zpow_lt_zpow_iff_right₀ (by norm_num : (1 : ℚ) < 10)).mp hpower
    omega

/-- What is read at all: a modest quantity that is not negative and fits 64 bits. -/
theorem bytes_of_modest {s : String} {w : Written} (hw : Spells s w) (hmodest : w.Modest)
    (hnonneg : 0 ≤ w.value) (hceil : ⌈w.value⌉ < 2 ^ 64) : bytes s = .ok ⌈w.value⌉.toNat := by
  have hfits : w.value < 2 ^ 64 := by
    have hle : w.value ≤ ((2 ^ 64 - 1 : Int) : ℚ) := Int.ceil_le.mp (by omega)
    refine hle.trans_lt ?_
    norm_num
  have hamount := hmodest.amount_lt
  have hlength := w.places_le_length
  have hshort := hmodest.length
  have hplaces : w.number.places < 2 ^ 31 := by omega
  have hreading : w.reading.places = w.number.places - w.suffix.power := by
    rw [w.places_reading, narrowed_of_lt hplaces]
  have hpower := abs_le.mp hmodest.power
  have hvalue : (w.reading.amount : ℚ) * 10 ^ (-w.reading.places) = w.value := by
    rw [hreading, neg_sub]
    exact (Written.value_of_nonneg hnonneg).symm
  obtain ⟨n, hshift⟩ : ∃ n, shift? w.reading.amount w.reading.places = some n := by
    apply exists_shift?
    · rw [hreading]
      exact hmodest.places_ge hnonneg hfits
    · rw [hvalue]
      exact hfits.trans (by norm_num)
  have hn : ⌈w.value⌉ = n := hvalue ▸ (ceil_of_shift? hamount hshift).1
  have hdigits : w.number.value < 2 ^ 128 := hmodest.value_lt.trans (by decide)
  rw [bytes_of_spells hw, if_pos hdigits, Reading.bytes_eq_ok_iff]
  refine ⟨fun hminus => w.nonneg_iff.mp hnonneg (w.isNegative_reading.mp hminus), hamount,
    ⟨by omega, by omega⟩, ?_, by omega⟩
  rw [hshift, hn, Int.toNat_natCast]

/-- The bytes of a text are exactly its value rounded up. Where the text is shorter than `2 ^ 31`
bytes and has a number of bytes, it is a quantity that is not negative and the number is its value
rounded up, below `2 ^ 64`; a modest quantity of that range has a number of bytes; a text that is
no quantity, or one below zero or of `2 ^ 64` and more, has none; and nothing on the way leaves
the width in which it is held. -/
theorem bytes_eq_ceil (s : String) :
    (∀ n, s.utf8ByteSize < 2 ^ 31 → bytes s = .ok n →
      (∃ w, Spells s w) ∧ ∀ w, Spells s w → 0 ≤ w.value ∧ ⌈w.value⌉ = n ∧ n < 2 ^ 64) ∧
    (∀ w, Spells s w → w.Modest → 0 ≤ w.value → ⌈w.value⌉ < 2 ^ 64 →
      bytes s = .ok ⌈w.value⌉.toNat) ∧
    ((¬∃ w, Spells s w) → ∃ fault, bytes s = .error fault) ∧
    (∀ w, Spells s w → w.value < 0 ∨ 2 ^ 64 ≤ ⌈w.value⌉ → ∃ fault, bytes s = .error fault) ∧
    (∀ r, read (Text.trim s) = .ok r → r.Fits) := by
  refine ⟨?sound, ?complete, ?noQuantity, ?outOfRange, ?fits⟩
  case sound =>
    intro n hshort h
    refine ⟨exists_spells_of_bytes h, fun w hw => ?_⟩
    obtain ⟨-, hnonneg, -, -, -, hn⟩ := reading_of_bytes hw h
    exact ⟨hnonneg, ceil_of_bytes hw (hw.places_le.trans_lt hshort) h, hn⟩
  case complete => exact fun w hw hmodest => bytes_of_modest hw hmodest
  case noQuantity =>
    intro hnone
    exact error_of_not_ok fun n h => hnone (exists_spells_of_bytes h)
  case outOfRange =>
    intro w hw hrange
    refine error_of_not_ok fun n h => ?_
    obtain ⟨-, hnonneg, -, -, -, hn⟩ := reading_of_bytes hw h
    rcases hrange with hnegative | hover
    · exact absurd hnonneg (not_le.mpr hnegative)
    · have hone : 1 ≤ w.value := by
        have hlt := Int.lt_ceil.mp (show (1 : Int) < ⌈w.value⌉ by omega)
        exact_mod_cast hlt.le
      have hceil := ceil_of_bytes hw (places_lt_of_bytes hw hone h) h
      omega
  case fits =>
    intro r hread
    obtain ⟨w, -, hvalue, rfl⟩ := read_eq_ok_iff.mp hread
    exact Written.fits hvalue

/-- One and a half gibibytes. -/
def oneAndAHalfGibi : Written :=
  ⟨.absent, ⟨['1'], some ['5'], List.all_eq_true.mp rfl, by decide⟩, .symbol .gibi⟩

/-- One byte below zero. -/
def minusOne : Written :=
  ⟨.minus, ⟨['1'], none, List.all_eq_true.mp rfl, by decide⟩, .symbol .one⟩

theorem oneAndAHalfGibi_value : oneAndAHalfGibi.value = 1610612736 := by
  have hdigits : oneAndAHalfGibi.number.value = 15 := by decide
  simp only [Written.value, hdigits]
  norm_num [oneAndAHalfGibi, Sign.factor, Number.places, Suffix.multiplier, Symbol.multiplier,
    Suffix.power, Symbol.exponent]

theorem minusOne_value : minusOne.value = -1 := by
  have hdigits : minusOne.number.value = 1 := by decide
  simp only [Written.value, hdigits]
  norm_num [minusOne, Sign.factor, Number.places, Suffix.multiplier, Symbol.multiplier,
    Suffix.power, Symbol.exponent]

theorem spells_oneAndAHalfGibi : Spells " 1.5Gi" oneAndAHalfGibi :=
  ⟨[' '], [], rfl, List.all_eq_true.mp rfl, List.all_eq_true.mp rfl⟩

theorem modest_oneAndAHalfGibi : oneAndAHalfGibi.Modest where
  digits := by decide
  length := by decide
  power := by decide
  zero := fun h => absurd (oneAndAHalfGibi_value.symm.trans h) (by norm_num)

/-- A unit without a number is no quantity. -/
theorem not_spells_unit (w : Written) : ¬Spells "Gi" w := by
  intro hw
  have hread := Written.read_text (spells_iff.mp hw)
  have hfault : read (Text.trim "Gi") = .error (.invalidNumber "Gi") := by decide
  rw [hfault] at hread
  by_cases hfits : w.number.value < 2 ^ 128
  · rw [if_pos hfits] at hread
    cases hread
  · rw [if_neg hfits] at hread
    cases hread

/-- Half a gibibyte more than one is read; one byte less than none and a bare unit are refused. -/
theorem bytes_oneAndAHalfGibi :
    bytes " 1.5Gi" = .ok 1610612736 ∧
      (0 ≤ oneAndAHalfGibi.value ∧ ⌈oneAndAHalfGibi.value⌉ = (1610612736 : Nat) ∧
        1610612736 < 2 ^ 64) ∧
      (∃ fault, bytes "-1" = .error fault) ∧ ∃ fault, bytes "Gi" = .error fault := by
  have hceil : ⌈oneAndAHalfGibi.value⌉ = 1610612736 := by
    rw [oneAndAHalfGibi_value]
    norm_num
  have hbytes : bytes " 1.5Gi" = .ok 1610612736 := by
    have hread := (bytes_eq_ceil " 1.5Gi").2.1 oneAndAHalfGibi spells_oneAndAHalfGibi
      modest_oneAndAHalfGibi (by rw [oneAndAHalfGibi_value]; norm_num) (by rw [hceil]; norm_num)
    rw [hceil] at hread
    exact hread
  have hsound := ((bytes_eq_ceil " 1.5Gi").1 1610612736 (by decide) hbytes).2
    oneAndAHalfGibi spells_oneAndAHalfGibi
  have hnegative := (bytes_eq_ceil "-1").2.2.2.1 minusOne
    ⟨[], [], rfl, List.all_eq_true.mp rfl, List.all_eq_true.mp rfl⟩
    (.inl (by rw [minusOne_value]; norm_num))
  have hunit := (bytes_eq_ceil "Gi").2.2.1 fun ⟨w, hw⟩ => not_spells_unit w hw
  exact ⟨hbytes, hsound, hnegative, hunit⟩

end DatasetProvisioner.Quantity
