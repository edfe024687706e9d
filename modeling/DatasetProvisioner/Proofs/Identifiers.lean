import Mathlib.Data.List.Basic
import DatasetProvisioner.Uuid

/-!
# Volume identifiers as texts

The canonical form of an identifier is read back as the identifier, and no text that is read as
one, in any of the accepted forms, holds a character other than those of the forms.
-/
namespace DatasetProvisioner.Uuid

theorem digit?_digitChar : ∀ d : Fin 16, digit? (digitChar d) = some d := by
  decide

theorem mapM_digit?_map (ds : List (Fin 16)) : (ds.map digitChar).mapM digit? = some ds := by
  induction ds with
  | nil => rfl
  | cons d ds ih =>
    rw [List.map_cons, List.mapM_cons, digit?_digitChar, ih]
    rfl

theorem ofDigits?_map (u : Uuid) : ofDigits? (u.digits.map digitChar) = some u := by
  simp only [ofDigits?, mapM_digit?_map, u.length_digits, dite_true]

/-- Five groups of digits with a hyphen between two of them. -/
def grouped (a b c d e : List Char) : List Char :=
  a ++ '-' :: (b ++ '-' :: (c ++ '-' :: (d ++ '-' :: e)))

/-- The groups of a hyphenated text are found at their places. -/
theorem ofHyphenated?_grouped {a b c d e : List Char} (ha : a.length = 8) (hb : b.length = 4)
    (hc : c.length = 4) (hd : d.length = 4) (he : e.length = 12) :
    ofHyphenated? (grouped a b c d e) = ofDigits? (a ++ b ++ c ++ d ++ e) := by
  have places : (grouped a b c d e).length = 36 ∧ (grouped a b c d e)[8]? = some '-' ∧
      (grouped a b c d e)[13]? = some '-' ∧ (grouped a b c d e)[18]? = some '-' ∧
      (grouped a b c d e)[23]? = some '-' := by
    simp [grouped, ha, hb, hc, hd, he]
  rw [ofHyphenated?, if_pos places]
  simp (disch := omega) [grouped, List.drop_append, ha, hb, hc, hd, List.drop_of_length_le]

theorem toChars_eq (u : Uuid) :
    u.toChars = grouped ((u.digits.map digitChar).take 8) (((u.digits.map digitChar).drop 8).take 4)
      (((u.digits.map digitChar).drop 12).take 4) (((u.digits.map digitChar).drop 16).take 4)
      ((u.digits.map digitChar).drop 20) := by
  simp [toChars, grouped]

theorem length_toChars (u : Uuid) : u.toChars.length = 36 := by
  have hlength : (u.digits.map digitChar).length = 32 := by
    rw [List.length_map, u.length_digits]
  rw [toChars_eq]
  simp [grouped, hlength]

/-- Reading the canonical form of an identifier gives that identifier. -/
theorem ofString?_toString (u : Uuid) : ofString? u.toString = some u := by
  have hlength : (u.digits.map digitChar).length = 32 := by
    rw [List.length_map, u.length_digits]
  have hread : ofHyphenated? u.toChars = some u := by
    rw [toChars_eq, ofHyphenated?_grouped (by simp [hlength]) (by simp [hlength])
      (by simp [hlength]) (by simp [hlength]) (by simp [hlength]), ← ofDigits?_map u]
    congr 1
    -- Each group ends where the next one begins.
    have join (m n : Nat) (cs : List Char) : (cs.drop m).take n ++ cs.drop (m + n) = cs.drop m := by
      rw [← List.drop_drop, List.take_append_drop]
    rw [List.append_assoc, List.append_assoc, List.append_assoc, join 16 4, join 12 4, join 8 4,
      List.take_append_drop]
  have hchars := u.length_toChars
  rw [ofString?, Uuid.toString, String.toList_ofList, ofChars?, if_neg (by omega),
    if_pos hchars, hread]

theorem toString_inj {u v : Uuid} (h : u.toString = v.toString) : u = v := by
  have hread := ofString?_toString u
  rw [h, ofString?_toString v] at hread
  exact (Option.some.inj hread).symm

/-! ## The characters of an identifier -/

theorem digit?_of_mapM {cs : List Char} {ds : List (Fin 16)} (h : cs.mapM digit? = some ds) :
    ∀ c ∈ cs, digit? c ≠ none := by
  induction cs generalizing ds with
  | nil => simp
  | cons c cs ih =>
    rw [List.mapM_cons] at h
    cases hc : digit? c with
    | none => simp [hc] at h
    | some d =>
      cases hcs : cs.mapM digit? with
      | none => simp [hc, hcs] at h
      | some ds =>
        intro c' hmem
        rcases List.mem_cons.mp hmem with rfl | hmem
        · simp [hc]
        · exact ih hcs c' hmem

theorem digit?_of_ofDigits? {cs : List Char} {u : Uuid} (h : ofDigits? cs = some u) :
    ∀ c ∈ cs, digit? c ≠ none := by
  unfold ofDigits? at h
  split at h
  · next hdigits => exact digit?_of_mapM hdigits
  · cases h

theorem eq_grouped {cs : List Char} (h8 : cs[8]? = some '-') (h13 : cs[13]? = some '-')
    (h18 : cs[18]? = some '-') (h23 : cs[23]? = some '-') :
    cs = grouped (cs.take 8) ((cs.drop 9).take 4) ((cs.drop 14).take 4) ((cs.drop 19).take 4)
      (cs.drop 24) := by
  have cut {m n : Nat} (h : cs[m + n]? = some '-') :
      cs.drop m = (cs.drop m).take n ++ '-' :: cs.drop (m + n + 1) := by
    obtain ⟨hlt, hget⟩ := List.getElem?_eq_some_iff.mp h
    have hdrop := List.drop_eq_getElem_cons hlt
    rw [hget] at hdrop
    rw [← hdrop, ← List.drop_drop, List.take_append_drop]
  have h0 := cut (m := 0) (n := 8) h8
  rw [List.drop_zero, cut (m := 9) (n := 4) h13, cut (m := 14) (n := 4) h18,
    cut (m := 19) (n := 4) h23] at h0
  exact h0

/-- The characters of an identifier in one of its forms. -/
def isFormChar (c : Char) : Bool :=
  (digit? c).isSome || c == '-' || c == '{' || c == '}' || c.toLower ∈ urnStart

theorem isFormChar_of_digit {c : Char} (h : digit? c ≠ none) : isFormChar c = true := by
  simp [isFormChar, Option.isSome_iff_ne_none.mpr h]

theorem isFormChar_of_ofHyphenated? {cs : List Char} {u : Uuid} (h : ofHyphenated? cs = some u) :
    ∀ c ∈ cs, isFormChar c = true := by
  unfold ofHyphenated? at h
  split at h
  · next hplaces =>
    obtain ⟨-, h8, h13, h18, h23⟩ := hplaces
    have hdigits := digit?_of_ofDigits? h
    intro c hc
    rw [eq_grouped h8 h13 h18 h23] at hc
    simp only [grouped, List.mem_append, List.mem_cons] at hc hdigits
    have hyphen : isFormChar '-' = true := by decide
    rcases hc with hc | rfl | hc | rfl | hc | rfl | hc | rfl | hc
    · exact isFormChar_of_digit (hdigits c (.inl (.inl (.inl (.inl hc)))))
    · exact hyphen
    · exact isFormChar_of_digit (hdigits c (.inl (.inl (.inl (.inr hc)))))
    · exact hyphen
    · exact isFormChar_of_digit (hdigits c (.inl (.inl (.inr hc))))
    · exact hyphen
    · exact isFormChar_of_digit (hdigits c (.inl (.inr hc)))
    · exact hyphen
    · exact isFormChar_of_digit (hdigits c (.inr hc))
  · cases h

theorem isFormChar_of_braced {cs : List Char} {u : Uuid} (hfirst : cs.head? = some '{')
    (hlast : cs.getLast? = some '}') (h : ofHyphenated? (cs.drop 1).dropLast = some u) :
    ∀ c ∈ cs, isFormChar c = true := by
  intro c hc
  have hcs : c = '{' ∨ c ∈ (cs.drop 1).dropLast ∨ c = '}' := by
    rcases cs with _ | ⟨first, rest⟩
    · cases hc
    · rw [List.head?_cons, Option.some.injEq] at hfirst
      rcases List.mem_cons.mp hc with rfl | hc
      · exact .inl hfirst
      · rcases rest.eq_nil_or_concat with rfl | ⟨inner, last, rfl⟩
        · cases hc
        · have hlast : last = '}' := by simpa [List.getLast?_cons] using hlast
          rw [List.concat_eq_append, List.mem_append, List.mem_singleton, hlast] at hc
          rw [List.drop_succ_cons, List.drop_zero, List.concat_eq_append, List.dropLast_concat]
          exact .inr hc
  rcases hcs with rfl | hc | rfl
  · decide
  · exact isFormChar_of_ofHyphenated? h c hc
  · decide

/-- Every character of a text that is read as an identifier belongs to one of the forms. -/
theorem isFormChar_of_ofChars? {cs : List Char} {u : Uuid} (h : ofChars? cs = some u) :
    ∀ c ∈ cs, isFormChar c = true := by
  unfold ofChars? at h
  split at h
  · exact fun c hc => isFormChar_of_digit (digit?_of_ofDigits? h c hc)
  split at h
  · exact isFormChar_of_ofHyphenated? h
  split at h
  · next hbraces =>
    obtain ⟨-, hfirst, hlast⟩ := hbraces
    exact isFormChar_of_braced hfirst hlast h
  split at h
  · next hurn =>
    obtain ⟨-, hstart⟩ := hurn
    intro c hc
    rw [← List.take_append_drop 9 cs, List.mem_append] at hc
    rcases hc with hc | hc
    · have hmem : c.toLower ∈ urnStart := hstart ▸ List.mem_map_of_mem hc
      simp [isFormChar, hmem]
    · exact isFormChar_of_ofHyphenated? h c hc
  · cases h

/-- No text that is read as an identifier holds the character that begins a snapshot's name. -/
theorem at_notin_of_ofChars? {cs : List Char} {u : Uuid} (h : ofChars? cs = some u) :
    '@' ∉ cs := by
  intro hmem
  have hform := isFormChar_of_ofChars? h '@' hmem
  revert hform
  decide

theorem at_notin_toString (u : Uuid) : '@' ∉ u.toString.toList :=
  at_notin_of_ofChars? (ofString?_toString u)

theorem ne_nil_of_ofChars? {cs : List Char} {u : Uuid} (h : ofChars? cs = some u) : cs ≠ [] := by
  rintro rfl
  have hempty : ofChars? [] = none := by decide
  rw [hempty] at h
  cases h

end DatasetProvisioner.Uuid
