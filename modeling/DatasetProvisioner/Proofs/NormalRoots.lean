import Mathlib.Data.List.DropRight
import DatasetProvisioner.Dataset.Layout
import DatasetProvisioner.Proofs.Digits
import DatasetProvisioner.Proofs.Identifiers
import DatasetProvisioner.Simulation.Peers

/-!
# Normal roots

The roots of a layout are given with blanks around them and slashes at their end. Trimming takes the
blanks off first and the slashes then, so that it ends early where a blank stands before the slashes.
What it leaves elsewhere is the root that the text denotes.
-/
namespace DatasetProvisioner

namespace Text

/-! ## The end of a text -/

variable {p : Char → Bool} {cs front tail : List Char}

theorem dropEndWhile_eq_rdropWhile (p : Char → Bool) (cs : List Char) :
    dropEndWhile p cs = cs.rdropWhile p :=
  rfl

theorem exists_dropped (p : Char → Bool) (cs : List Char) :
    ∃ tail, cs = dropEndWhile p cs ++ tail ∧ ∀ c ∈ tail, p c = true :=
  ⟨cs.rtakeWhile p, List.rdropWhile_append_rtakeWhile.symm, fun _ => List.mem_rtakeWhile_imp⟩

theorem first_dropWhile {c : Char} (h : (cs.dropWhile p).head? = some c) : p c = false := by
  have hfirst := List.head?_dropWhile_not p cs
  rw [h] at hfirst
  exact hfirst

theorem last_dropEndWhile {c : Char} (h : (dropEndWhile p cs).getLast? = some c) :
    p c = false := by
  rw [dropEndWhile, List.getLast?_reverse] at h
  exact first_dropWhile h

theorem dropEndWhile_append (htail : ∀ c ∈ tail, p c = true) :
    dropEndWhile p (front ++ tail) = dropEndWhile p front := by
  have hreversed : ∀ c ∈ tail.reverse, p c = true := fun c hc => htail c (List.mem_reverse.mp hc)
  rw [dropEndWhile, List.reverse_append, List.dropWhile_append_of_pos hreversed, dropEndWhile]

theorem dropEndWhile_of_last (hlast : ∀ c, front.getLast? = some c → p c = false) :
    dropEndWhile p front = front := by
  rw [dropEndWhile_eq_rdropWhile, List.rdropWhile_eq_self_iff]
  intro hne
  rw [hlast _ (List.getLast?_eq_some_getLast hne)]
  decide

theorem dropEndWhile_append_of_last (htail : ∀ c ∈ tail, p c = true)
    (hlast : ∀ c, front.getLast? = some c → p c = false) :
    dropEndWhile p (front ++ tail) = front := by
  rw [dropEndWhile_append htail, dropEndWhile_of_last hlast]

theorem first_trimChars {c : Char} (h : (trimChars cs).head? = some c) : isBlank c = false := by
  obtain ⟨after, hcut, -⟩ := exists_dropped isBlank (cs.dropWhile isBlank)
  have hhead : (cs.dropWhile isBlank).head? = some c := by
    rw [hcut, List.head?_append, ← trimChars, h, Option.some_or]
  exact first_dropWhile hhead

theorem last_trimChars {c : Char} (h : (trimChars cs).getLast? = some c) : isBlank c = false :=
  last_dropEndWhile h

/-- Blanks around a text make no difference. -/
theorem trimChars_around {before after : List Char} (hbefore : ∀ c ∈ before, isBlank c = true)
    (hafter : ∀ c ∈ after, isBlank c = true) :
    trimChars (before ++ cs ++ after) = trimChars cs := by
  obtain ⟨first, last, hcut, hfirst, hlast⟩ := exists_blanks_of_trimChars cs
  have hall : before ++ cs ++ after = (before ++ first) ++ trimChars cs ++ (last ++ after) := by
    conv_lhs => rw [hcut]
    simp only [List.append_assoc]
  rw [hall]
  apply trimChars_of_ends
  · exact List.forall_mem_append.mpr ⟨hbefore, hfirst⟩
  · exact List.forall_mem_append.mpr ⟨hlast, hafter⟩
  · exact fun _ => first_trimChars
  · exact fun _ => last_trimChars

theorem trimChars_trimChars (cs : List Char) : trimChars (trimChars cs) = trimChars cs := by
  obtain ⟨before, after, hcut, hbefore, hafter⟩ := exists_blanks_of_trimChars cs
  have haround : trimChars (before ++ trimChars cs ++ after) = trimChars (trimChars cs) :=
    trimChars_around hbefore hafter
  rw [← hcut] at haround
  exact haround.symm

theorem trim_trim (s : String) : trim (trim s) = trim s := by
  apply String.toList_inj.mp
  rw [toList_trim, toList_trim, trimChars_trimChars]

theorem trim_around {s : String} {before after : List Char}
    (hbefore : ∀ c ∈ before, isBlank c = true) (hafter : ∀ c ∈ after, isBlank c = true) :
    trim (String.ofList (before ++ s.toList ++ after)) = trim s := by
  rw [trim, String.toList_ofList, trimChars_around hbefore hafter, trim]

end Text

namespace Dataset

open Text (isBlank isBlankText dropEndWhile trimChars)

variable {path : String}

/-! ## The root that a text denotes -/

def isBlankOrSlash (c : Char) : Bool :=
  isBlank c || c == '/'

/-- The root that a text which is not blank denotes, whatever blanks are around it and whatever
slashes at its end. -/
def rootOf (path : String) : String :=
  let root := dropEndWhile isBlankOrSlash (path.toList.dropWhile isBlank)
  if root.isEmpty then "/" else String.ofList root

/-- Two texts differ only in the blanks around them and in the slashes at their end. -/
def SameRoot (path other : String) : Prop :=
  ∃ root before before' ending ending', path.toList = before ++ root ++ ending ∧
    other.toList = before' ++ root ++ ending' ∧ (∀ c ∈ before ++ before', isBlank c = true) ∧
    ∀ c ∈ ending ++ ending', isBlankOrSlash c = true

/-- A blank stands directly before the slashes at the end of a text. -/
def BlankBeforeSlashes (path : String) : Prop :=
  ∃ front blank slashes after, path.toList = front ++ blank :: (slashes ++ after) ∧
    isBlank blank = true ∧ slashes ≠ [] ∧ (∀ c ∈ slashes, c = '/') ∧ ∀ c ∈ after, isBlank c = true

/-- Two slashes follow each other inside a root, and something else than slashes after them. -/
def HasInnerGap (path : String) : Prop :=
  ∃ front rest, trimChars path.toList = front ++ ['/', '/'] ++ rest ∧ ∃ c ∈ rest, c ≠ '/'

/-- Two slashes follow each other in a path, with an empty name between them. -/
def HasGap (path : String) : Prop :=
  ['/', '/'] <:+: path.toList

instance (path : String) : Decidable (HasGap path) :=
  inferInstanceAs (Decidable (['/', '/'] <:+: path.toList))

theorem not_isBlank_slash : isBlank '/' = false := by
  decide

theorem not_slash_of_isBlank {c : Char} (h : isBlank c = true) : (c == '/') = false := by
  rw [beq_eq_false_iff_ne]
  rintro rfl
  rw [not_isBlank_slash] at h
  cases h

/-- What stands before the slashes at the end of a text. -/
def beforeSlashes (cs : List Char) : List Char :=
  dropEndWhile (· == '/') (dropEndWhile isBlank cs)

theorem blankBeforeSlashes_iff :
    BlankBeforeSlashes path ↔
      ∃ blank, (beforeSlashes path.toList).getLast? = some blank ∧ isBlank blank = true := by
  constructor
  · rintro ⟨front, blank, slashes, after, hcut, hblank, hne, hslashes, hafter⟩
    have hlast : ∀ c, (front ++ [blank] ++ slashes).getLast? = some c → isBlank c = false := by
      intro c hc
      rw [List.getLast?_append_of_ne_nil _ hne] at hc
      rw [hslashes c (List.mem_of_getLast? hc)]
      exact not_isBlank_slash
    have hslash : ∀ c, (front ++ [blank]).getLast? = some c → (c == '/') = false := by
      intro c hc
      rw [List.getLast?_concat, Option.some.injEq] at hc
      subst hc
      exact not_slash_of_isBlank hblank
    have hblanks : dropEndWhile isBlank path.toList = front ++ [blank] ++ slashes := by
      rw [hcut, ← Text.dropEndWhile_append_of_last hafter hlast]
      simp
    refine ⟨blank, ?_, hblank⟩
    rw [beforeSlashes, hblanks, Text.dropEndWhile_append_of_last (by simpa using hslashes) hslash,
      List.getLast?_concat]
  · rintro ⟨blank, hlast, hblank⟩
    obtain ⟨after, hafter, hblanks⟩ := Text.exists_dropped isBlank path.toList
    obtain ⟨slashes, hcut, hslashes⟩ :=
      Text.exists_dropped (· == '/') (dropEndWhile isBlank path.toList)
    rw [← beforeSlashes] at hcut
    obtain ⟨front, hfront⟩ := List.getLast?_eq_some_iff.mp hlast
    refine ⟨front, blank, slashes, after, ?_, hblank, ?_, by simpa using hslashes, hblanks⟩
    · rw [hfront] at hcut
      rw [hcut] at hafter
      rw [hafter]
      simp
    · rintro rfl
      rw [List.append_nil] at hcut
      rw [← hcut] at hlast
      rw [Text.last_dropEndWhile hlast] at hblank
      cases hblank

instance (path : String) : Decidable (BlankBeforeSlashes path) :=
  decidable_of_iff ((beforeSlashes path.toList).getLast?.any isBlank = true) <| by
    rw [blankBeforeSlashes_iff, Option.any_eq_true]

/-! ## What trimming leaves -/

/-- A text that is not blank, cut into the blanks in front, what is left of it when it is trimmed,
the slashes at its end and the blanks after them. -/
structure Spelt (path before kept slashes after : List Char) : Prop where
  cut : path = before ++ (kept ++ slashes) ++ after
  leading : ∀ c ∈ before, isBlank c = true
  final : ∀ c ∈ slashes, (c == '/') = true
  trailing : ∀ c ∈ after, isBlank c = true
  nonempty : kept ++ slashes ≠ []
  first : ∀ c, (kept ++ slashes).head? = some c → isBlank c = false
  last : ∀ c, (kept ++ slashes).getLast? = some c → isBlank c = false
  keptLast : ∀ c, kept.getLast? = some c → (c == '/') = false

theorem exists_spelt (h : isBlankText path = false) :
    ∃ before kept slashes after, Spelt path.toList before kept slashes after := by
  obtain ⟨before, after, hcut, hbefore, hafter⟩ := Text.exists_blanks_of_trimChars path.toList
  obtain ⟨slashes, htrimmed, hslashes⟩ := Text.exists_dropped (· == '/') (trimChars path.toList)
  have hne : trimChars path.toList ≠ [] := by
    intro hempty
    rw [hempty, List.append_nil] at hcut
    have hall : ∀ c ∈ path.toList, isBlank c = true := by
      rw [hcut]
      exact List.forall_mem_append.mpr ⟨hbefore, hafter⟩
    rw [isBlankText, List.all_eq_true.mpr hall] at h
    cases h
  have hfirst : ∀ c, (trimChars path.toList).head? = some c → isBlank c = false :=
    fun _ => Text.first_trimChars
  have hlast : ∀ c, (trimChars path.toList).getLast? = some c → isBlank c = false :=
    fun _ => Text.last_trimChars
  have hkept : ∀ c, (dropEndWhile (· == '/') (trimChars path.toList)).getLast? = some c →
      (c == '/') = false :=
    fun _ => Text.last_dropEndWhile (p := (· == '/'))
  generalize dropEndWhile (· == '/') (trimChars path.toList) = kept at htrimmed hkept
  rw [htrimmed] at hcut hne hfirst hlast
  exact ⟨before, kept, slashes, after, hcut, hbefore, hslashes, hafter, hne, hfirst, hlast, hkept⟩

namespace Spelt

variable {before kept slashes after : List Char}

theorem trimChars_eq (spelt : Spelt path.toList before kept slashes after) :
    trimChars path.toList = kept ++ slashes := by
  rw [spelt.cut]
  exact Text.trimChars_of_ends spelt.leading spelt.trailing spelt.first spelt.last

/-- Slashes alone are the root directory, but are lost where blanks stand in front of them. -/
theorem trimPath_eq (spelt : Spelt path.toList before kept slashes after) :
    trimPath path =
      if kept = [] then if before = [] then "/" else "" else String.ofList kept := by
  have htrimmed : dropEndWhile (· == '/') (trimChars path.toList) = kept := by
    rw [spelt.trimChars_eq]
    exact Text.dropEndWhile_append_of_last spelt.final spelt.keptLast
  rw [trimPath, htrimmed]
  by_cases hkept : kept = []
  · subst hkept
    obtain ⟨slash, rest, rfl⟩ := List.exists_cons_of_ne_nil spelt.nonempty
    have hslash : slash = '/' := by simpa using spelt.final slash List.mem_cons_self
    have hcut := spelt.cut
    cases before with
    | nil => simp [hcut, hslash]
    | cons blank others =>
      have hblank := not_slash_of_isBlank (spelt.leading blank List.mem_cons_self)
      simp [hcut, beq_eq_false_iff_ne.mp hblank]
  · simp [hkept]

theorem rootOf_eq (spelt : Spelt path.toList before kept slashes after) :
    rootOf path =
      if dropEndWhile isBlankOrSlash kept = [] then "/"
      else String.ofList (dropEndWhile isBlankOrSlash kept) := by
  have hfirst : ∀ c, (kept ++ slashes ++ after).head? = some c → isBlank c = false := by
    intro c hc
    rw [List.head?_append_of_ne_nil _ spelt.nonempty] at hc
    exact spelt.first c hc
  have hbefore : path.toList.dropWhile isBlank = kept ++ (slashes ++ after) := by
    rw [spelt.cut, List.append_assoc, Text.dropWhile_append_of_head spelt.leading hfirst,
      List.append_assoc]
  have hend : ∀ c ∈ slashes ++ after, isBlankOrSlash c = true := by
    intro c hc
    rw [isBlankOrSlash, Bool.or_eq_true]
    rcases List.mem_append.mp hc with hc | hc
    · exact .inr (spelt.final c hc)
    · exact .inl (spelt.trailing c hc)
  rw [rootOf, hbefore, Text.dropEndWhile_append hend]
  simp

theorem blankBeforeSlashes_iff (spelt : Spelt path.toList before kept slashes after) :
    BlankBeforeSlashes path ↔
      ∃ blank, (before ++ kept).getLast? = some blank ∧ isBlank blank = true := by
  have hlast : ∀ c, (before ++ kept ++ slashes).getLast? = some c → isBlank c = false := by
    intro c hc
    rw [List.append_assoc, List.getLast?_append_of_ne_nil _ spelt.nonempty] at hc
    exact spelt.last c hc
  have hslash : ∀ c, (before ++ kept).getLast? = some c → (c == '/') = false := by
    intro c hc
    rw [List.getLast?_append, Option.or_eq_some_iff] at hc
    rcases hc with hc | ⟨-, hc⟩
    · exact spelt.keptLast c hc
    · exact not_slash_of_isBlank (spelt.leading c (List.mem_of_getLast? hc))
  rw [Dataset.blankBeforeSlashes_iff, beforeSlashes, spelt.cut, ← List.append_assoc before,
    Text.dropEndWhile_append_of_last spelt.trailing hlast,
    Text.dropEndWhile_append_of_last spelt.final hslash]

theorem hasInnerGap_iff (spelt : Spelt path.toList before kept slashes after) :
    HasInnerGap path ↔ ['/', '/'] <:+: kept := by
  rw [HasInnerGap, spelt.trimChars_eq]
  constructor
  · rintro ⟨front, rest, hcut, c, hc, hother⟩
    rcases List.append_eq_append_iff.mp hcut.symm with ⟨inner, hkept, -⟩ | ⟨inner, -, hslashes⟩
    · exact ⟨front, inner, hkept.symm⟩
    · have hfinal := spelt.final c (hslashes ▸ List.mem_append_right inner hc)
      exact absurd (beq_iff_eq.mp hfinal) hother
  · rintro ⟨front, rest, hkept⟩
    refine ⟨front, rest ++ slashes, by rw [← hkept, List.append_assoc _ rest], ?_⟩
    -- What is kept does not end in a slash, so that something else follows the two.
    rcases rest.eq_nil_or_concat with rfl | ⟨others, c, rfl⟩
    · have hlast := spelt.keptLast '/' (by simp [← hkept])
      cases hlast
    · have hend : kept.getLast? = some c := by
        rw [← hkept, List.concat_eq_append, ← List.append_assoc, List.getLast?_concat]
      exact ⟨c, by simp, beq_eq_false_iff_ne.mp (spelt.keptLast c hend)⟩

end Spelt

/-! ## Trimmed roots -/

/-- What becomes of a text that is not blank. It is trimmed to the root that it denotes, unless a
blank stands before its slashes. -/
inductive Trimmed (path : String) : Prop where
  | root (sound : ¬BlankBeforeSlashes path) (h : trimPath path = rootOf path)
  | lost (unsound : BlankBeforeSlashes path) (hroot : rootOf path = "/") (h : trimPath path = "")
  | blank (unsound : BlankBeforeSlashes path) (c : Char)
    (hlast : (trimPath path).toList.getLast? = some c) (hblank : isBlank c = true)

theorem trimmed (h : isBlankText path = false) : Trimmed path := by
  obtain ⟨before, kept, slashes, after, spelt⟩ := exists_spelt h
  have htrim := spelt.trimPath_eq
  have hroot := spelt.rootOf_eq
  have hunsound := spelt.blankBeforeSlashes_iff
  rcases kept.eq_nil_or_concat with rfl | ⟨init, c, rfl⟩
  · rw [Text.dropEndWhile_of_last (by simp), if_pos rfl] at hroot
    rw [if_pos rfl] at htrim
    rcases before.eq_nil_or_concat with rfl | ⟨blanks, blank, rfl⟩
    · refine .root ?_ (htrim.trans hroot.symm)
      rw [hunsound]
      simp
    · have hblank := spelt.leading blank (by simp)
      refine .lost (hunsound.mpr ⟨blank, by simp, hblank⟩) hroot ?_
      rw [htrim, if_neg (by simp)]
  · rw [if_neg (by simp)] at htrim
    have hlast : (before ++ init.concat c).getLast? = some c := by
      rw [List.concat_eq_append, ← List.append_assoc, List.getLast?_concat]
    by_cases hblank : isBlank c = true
    · refine .blank (hunsound.mpr ⟨c, hlast, hblank⟩) c ?_ hblank
      rw [htrim, String.toList_ofList, List.concat_eq_append, List.getLast?_concat]
    · have hend : isBlankOrSlash c = false := by
        rw [isBlankOrSlash, Bool.or_eq_false_iff]
        exact ⟨Bool.eq_false_of_not_eq_true hblank, spelt.keptLast c (by simp)⟩
      refine .root ?_ ?_
      · rw [hunsound, hlast]
        simpa using hblank
      · rw [hroot, Text.dropEndWhile_of_last (by simpa using hend), if_neg (by simp), htrim]

theorem rootOf_cases (path : String) :
    rootOf path = "/" ∨ ∀ c, (rootOf path).toList.getLast? = some c → isBlankOrSlash c = false := by
  rw [rootOf]
  split
  · exact .inl rfl
  · rw [String.toList_ofList]
    exact .inr fun _ => Text.last_dropEndWhile

theorem last_rootOf {c : Char} (h : (rootOf path).toList.getLast? = some c) :
    isBlank c = false := by
  rcases rootOf_cases path with hroot | hlast
  · rw [hroot] at h
    obtain rfl := Option.some.inj h
    exact not_isBlank_slash
  · exact (Bool.or_eq_false_iff.mp (hlast c h)).1

/-- The root directory is not the empty text. -/
theorem rootOf_ne_empty (path : String) : rootOf path ≠ "" := by
  rw [rootOf]
  split
  · decide
  · next hne =>
    rw [Ne, String.ofList_eq_empty_iff]
    exact fun hempty => hne (List.isEmpty_iff.mpr hempty)

/-- A text is trimmed to the root that it denotes exactly if no blank stands before its slashes. -/
theorem trimPath_eq_rootOf_iff (h : isBlankText path = false) :
    trimPath path = rootOf path ↔ ¬BlankBeforeSlashes path := by
  cases trimmed h with
  | root sound heq => exact iff_of_true heq sound
  | lost unsound hroot heq =>
    rw [heq, hroot]
    exact iff_of_false (by decide) (not_not_intro unsound)
  | blank unsound c hlast hblank =>
    refine iff_of_false (fun heq => ?_) (not_not_intro unsound)
    rw [heq] at hlast
    rw [last_rootOf hlast] at hblank
    cases hblank

theorem first_rootOf {c : Char} (h : (rootOf path).toList.head? = some c) : isBlank c = false := by
  rw [rootOf] at h
  split at h
  · obtain rfl := Option.some.inj h
    exact not_isBlank_slash
  · obtain ⟨ending, hcut, -⟩ :=
      Text.exists_dropped isBlankOrSlash (path.toList.dropWhile isBlank)
    rw [String.toList_ofList] at h
    have hhead : (path.toList.dropWhile isBlank).head? = some c := by
      rw [hcut, List.head?_append, h, Option.some_or]
    exact Text.first_dropWhile hhead

theorem trimPath_rootOf (path : String) : trimPath (rootOf path) = rootOf path := by
  rcases rootOf_cases path with hroot | hlast
  · rw [hroot]
    decide
  · have htrimmed : trimChars ([] ++ (rootOf path).toList ++ []) = (rootOf path).toList :=
      Text.trimChars_of_ends (by simp) (by simp) (fun _ => first_rootOf) fun _ => last_rootOf
    rw [List.nil_append, List.append_nil] at htrimmed
    have hkept : dropEndWhile (· == '/') (rootOf path).toList = (rootOf path).toList :=
      Text.dropEndWhile_of_last fun c hc => (Bool.or_eq_false_iff.mp (hlast c hc)).2
    rw [trimPath, htrimmed, hkept, String.ofList_toList]
    cases hchars : (rootOf path).toList with
    | nil => rfl
    | cons first rest => rfl

theorem trimPath_ne_self {c : Char} (hlast : path.toList.getLast? = some c)
    (hblank : isBlank c = true) : trimPath path ≠ path := by
  intro heq
  obtain ⟨before, after, hcut, -, -⟩ := Text.exists_blanks_of_trimChars path.toList
  obtain ⟨slashes, htrimmed, -⟩ := Text.exists_dropped (· == '/') (trimChars path.toList)
  rw [trimPath] at heq
  split at heq
  · rw [← heq] at hlast
    have hslash : '/' = c := Option.some.inj hlast
    rw [← hslash, not_isBlank_slash] at hblank
    cases hblank
  · -- Nothing can have been taken off, so that the text ends as a trimmed one does.
    have hkept := congrArg String.toList heq
    rw [String.toList_ofList] at hkept
    rw [hkept] at htrimmed
    have hlengths := congrArg List.length hcut
    have hlonger := congrArg List.length htrimmed
    simp only [List.length_append] at hlengths hlonger
    have hslashes : slashes = [] := List.length_eq_zero_iff.mp (by omega)
    rw [hslashes, List.append_nil] at htrimmed
    rw [← htrimmed] at hlast
    rw [Text.last_trimChars hlast] at hblank
    cases hblank

/-- Trimming a second time changes nothing where the first time gave a root or nothing at all. -/
theorem trimPath_trimPath_iff (h : isBlankText path = false) :
    trimPath (trimPath path) = trimPath path ↔
      ¬BlankBeforeSlashes path ∨ trimPath path = "" := by
  cases trimmed h with
  | root sound heq =>
    rw [heq]
    exact iff_of_true (trimPath_rootOf path) (.inl sound)
  | lost unsound hroot heq =>
    rw [heq]
    exact iff_of_true (by decide) (.inr rfl)
  | blank unsound c hlast hblank =>
    refine iff_of_false (trimPath_ne_self hlast hblank) ?_
    rintro (sound | hempty)
    · exact sound unsound
    · rw [hempty] at hlast
      cases hlast

/-- Blanks around a text and slashes at its end make no difference to the root. -/
theorem rootOf_around {before root ending : List Char}
    (hcut : path.toList = before ++ root ++ ending) (hbefore : ∀ c ∈ before, isBlank c = true)
    (hending : ∀ c ∈ ending, isBlankOrSlash c = true) :
    rootOf path = rootOf (String.ofList root) := by
  have hkept : dropEndWhile isBlankOrSlash (path.toList.dropWhile isBlank) =
      dropEndWhile isBlankOrSlash (root.dropWhile isBlank) := by
    rw [hcut, List.append_assoc, List.dropWhile_append_of_pos hbefore, List.dropWhile_append]
    split
    · next hempty =>
      have hdropped : ∀ c ∈ ending.dropWhile isBlank, isBlankOrSlash c = true :=
        fun c hc => hending c ((List.dropWhile_suffix isBlank).subset hc)
      have hnothing : dropEndWhile isBlankOrSlash ([] ++ ending.dropWhile isBlank) =
          dropEndWhile isBlankOrSlash [] :=
        Text.dropEndWhile_append hdropped
      rw [List.isEmpty_iff.mp hempty]
      exact hnothing
    · exact Text.dropEndWhile_append hending
  rw [rootOf, rootOf, hkept, String.toList_ofList]

theorem rootOf_eq_of_sameRoot {other : String} (same : SameRoot path other) :
    rootOf path = rootOf other := by
  obtain ⟨root, before, before', ending, ending', hpath, hother, hbefore, hending⟩ := same
  obtain ⟨hbefore, hbefore'⟩ := List.forall_mem_append.mp hbefore
  obtain ⟨hending, hending'⟩ := List.forall_mem_append.mp hending
  rw [rootOf_around hpath hbefore hending, rootOf_around hother hbefore' hending']

/-! ## Paths under a root -/

theorem hasGap_trimPath_iff (h : isBlankText path = false) :
    HasGap (trimPath path) ↔ HasInnerGap path := by
  obtain ⟨before, kept, slashes, after, spelt⟩ := exists_spelt h
  rw [spelt.hasInnerGap_iff, spelt.trimPath_eq]
  by_cases hkept : kept = []
  · subst hkept
    have hnone : ¬['/', '/'] <:+: [] := by decide
    rw [if_pos rfl]
    split
    · exact iff_of_false (by decide) hnone
    · exact iff_of_false (by decide) hnone
  · rw [if_neg hkept, HasGap, String.toList_ofList]

theorem slash_last_trimPath_iff (h : isBlankText path = false) :
    (trimPath path).toList.getLast? = some '/' ↔ rootOf path = "/" ∧ ¬BlankBeforeSlashes path := by
  cases trimmed h with
  | root sound heq =>
    rw [heq]
    rcases rootOf_cases path with hroot | hlast
    · rw [hroot]
      exact iff_of_true rfl ⟨rfl, sound⟩
    · refine iff_of_false (fun hslash => ?_) fun ⟨hroot, _⟩ => ?_
      · exact absurd (hlast _ hslash) (by decide)
      · rw [hroot] at hlast
        exact absurd (hlast '/' rfl) (by decide)
  | lost unsound hroot heq =>
    rw [heq]
    exact iff_of_false (by decide) fun hsound => hsound.2 unsound
  | blank unsound c hlast hblank =>
    refine iff_of_false (fun hslash => ?_) fun hsound => hsound.2 unsound
    rw [hlast, Option.some.injEq] at hslash
    rw [hslash, not_isBlank_slash] at hblank
    cases hblank

theorem infix_join_iff {root leaf : List Char} (hleaf : '/' ∉ leaf) :
    ['/', '/'] <:+: root ++ '/' :: leaf ↔
      ['/', '/'] <:+: root ∨ root.getLast? = some '/' := by
  constructor
  · rintro ⟨front, rest, hcut⟩
    rcases List.append_eq_append_iff.mp hcut with ⟨inner, hroot, -⟩ | ⟨inner, hfront, hrest⟩
    · exact .inl ⟨front, inner, hroot.symm⟩
    · -- Both slashes would have to lie in what follows the root, which holds only one.
      rcases inner with _ | ⟨slash, others⟩
      · rw [List.append_nil] at hfront
        exact .inl ⟨front, [], by rw [hfront, List.append_nil]⟩
      · rw [List.cons_append, List.cons.injEq] at hrest
        rcases others.eq_nil_or_concat with rfl | ⟨init, last, rfl⟩
        · have hroot : front ++ ['/'] = root := by
            have hparts : (front ++ ['/']) ++ ['/'] = root ++ [slash] := by simpa using hfront
            exact (List.append_inj' hparts rfl).1
          rw [← hroot, List.getLast?_concat]
          exact .inr rfl
        · have hparts : (front ++ ['/']) ++ ['/'] = (root ++ slash :: init) ++ [last] := by
            simpa using hfront
          have hslash : ['/'] = [last] := (List.append_inj' hparts rfl).2
          have hmem : last ∈ leaf := by
            rw [hrest.2]
            simp
          rw [← List.head_eq_of_cons_eq hslash] at hmem
          exact absurd hmem hleaf
  · rintro (⟨front, rest, hroot⟩ | hlast)
    · exact ⟨front, rest ++ '/' :: leaf, by rw [← hroot]; simp⟩
    · obtain ⟨front, rfl⟩ := List.getLast?_eq_some_iff.mp hlast
      exact ⟨front, leaf, by simp⟩

theorem slash_notin_toString (uuid : Uuid) : '/' ∉ uuid.toString.toList := by
  intro hmem
  have hform := Uuid.isFormChar_of_ofChars? (Uuid.ofString?_toString uuid) '/' hmem
  revert hform
  decide

/-- A place under a trimmed root has an empty name in its path where the root has one, and where
the root is the root directory, which is a slash itself. -/
theorem hasGap_under_iff (h : isBlankText path = false) (uuid : Uuid) :
    HasGap (trimPath path ++ "/" ++ uuid.toString) ↔
      HasInnerGap path ∨ rootOf path = "/" ∧ ¬BlankBeforeSlashes path := by
  have hchars : (trimPath path ++ "/" ++ uuid.toString).toList =
      (trimPath path).toList ++ '/' :: uuid.toString.toList := by
    simp
  rw [HasGap, hchars, infix_join_iff (slash_notin_toString uuid), ← HasGap,
    hasGap_trimPath_iff h, slash_last_trimPath_iff h]

namespace Layout

@[simp] theorem host_ofSettings (host exportRoot datasetRoot : String) :
    (ofSettings host exportRoot datasetRoot).host = Text.trim host :=
  rfl

@[simp] theorem exportRoot_ofSettings (host exportRoot datasetRoot : String) :
    (ofSettings host exportRoot datasetRoot).exportRoot = trimPath exportRoot := by
  rw [ofSettings]

@[simp] theorem datasetRoot_ofSettings (host exportRoot datasetRoot : String) :
    (ofSettings host exportRoot datasetRoot).datasetRoot = trimPath datasetRoot := by
  rw [ofSettings]

theorem ofSettings_inj {host host' exportRoot exportRoot' datasetRoot datasetRoot' : String} :
    ofSettings host exportRoot datasetRoot = ofSettings host' exportRoot' datasetRoot' ↔
      Text.trim host = Text.trim host' ∧ trimPath exportRoot = trimPath exportRoot' ∧
        trimPath datasetRoot = trimPath datasetRoot' := by
  rw [ofSettings, ofSettings, Layout.mk.injEq]

/-- A spelling of a root is trimmed as a sound one is exactly if it is sound itself. -/
theorem trimPath_eq_of_sameRoot {path other : String} (hpath : isBlankText path = false)
    (hother : isBlankText other = false) (same : SameRoot other path)
    (sound : ¬BlankBeforeSlashes path) :
    trimPath other = trimPath path ↔ ¬BlankBeforeSlashes other := by
  rw [(trimPath_eq_rootOf_iff hpath).mpr sound, ← rootOf_eq_of_sameRoot same]
  exact trimPath_eq_rootOf_iff hother

/-- The roots of a layout are in normal form where no blank stands before the slashes at their end:
then they are what the given roots denote, which is never the empty text, a layout made of them
again is the same, and so is one that is given the same roots in another such spelling. The places
of volumes have no empty name in their paths but those of the given roots, the root directory
apart. -/
theorem normal_layout_iff (host : String) {exportRoot datasetRoot : String}
    (hexport : isBlankText exportRoot = false) (hdataset : isBlankText datasetRoot = false) :
    (rootOf exportRoot ≠ "" ∧ rootOf datasetRoot ≠ "") ∧
    ((ofSettings host exportRoot datasetRoot).exportRoot = rootOf exportRoot ↔
        ¬BlankBeforeSlashes exportRoot) ∧
    ((ofSettings host exportRoot datasetRoot).datasetRoot = rootOf datasetRoot ↔
        ¬BlankBeforeSlashes datasetRoot) ∧
    (∀ layout, layout = ofSettings host exportRoot datasetRoot →
      (ofSettings layout.host layout.exportRoot layout.datasetRoot = layout ↔
        (¬BlankBeforeSlashes exportRoot ∨ layout.exportRoot = "") ∧
          (¬BlankBeforeSlashes datasetRoot ∨ layout.datasetRoot = ""))) ∧
    (¬BlankBeforeSlashes exportRoot → ¬BlankBeforeSlashes datasetRoot →
      ∀ (before after : List Char) (otherExport otherDataset : String),
        (∀ c ∈ before, isBlank c = true) → (∀ c ∈ after, isBlank c = true) →
        isBlankText otherExport = false → isBlankText otherDataset = false →
        SameRoot otherExport exportRoot → SameRoot otherDataset datasetRoot →
        (ofSettings (String.ofList (before ++ host.toList ++ after)) otherExport otherDataset =
            ofSettings host exportRoot datasetRoot ↔
          ¬BlankBeforeSlashes otherExport ∧ ¬BlankBeforeSlashes otherDataset)) ∧
    ∀ uuid,
      (HasGap ((ofSettings host exportRoot datasetRoot).exportPath uuid) ↔
        HasInnerGap exportRoot ∨ rootOf exportRoot = "/" ∧ ¬BlankBeforeSlashes exportRoot) ∧
      (HasGap ((ofSettings host exportRoot datasetRoot).datasetPath uuid) ↔
        HasInnerGap datasetRoot ∨ rootOf datasetRoot = "/" ∧ ¬BlankBeforeSlashes datasetRoot) := by
  rw [exportRoot_ofSettings, datasetRoot_ofSettings]
  refine ⟨⟨rootOf_ne_empty exportRoot, rootOf_ne_empty datasetRoot⟩,
    trimPath_eq_rootOf_iff hexport, trimPath_eq_rootOf_iff hdataset, ?_, ?_, fun uuid => ?_⟩
  · rintro _ rfl
    rw [host_ofSettings, exportRoot_ofSettings, datasetRoot_ofSettings, ofSettings_inj,
      trimPath_trimPath_iff hexport, trimPath_trimPath_iff hdataset]
    exact and_iff_right (Text.trim_trim host)
  · intro hexportSound hdatasetSound before after otherExport otherDataset hbefore hafter
      hotherExport hotherDataset sameExport sameDataset
    rw [ofSettings_inj, Text.trim_around hbefore hafter,
      trimPath_eq_of_sameRoot hexport hotherExport sameExport hexportSound,
      trimPath_eq_of_sameRoot hdataset hotherDataset sameDataset hdatasetSound]
    exact and_iff_right rfl
  · rw [exportPath, datasetPath, exportRoot_ofSettings, datasetRoot_ofSettings]
    exact ⟨hasGap_under_iff hexport uuid, hasGap_under_iff hdataset uuid⟩

/-- Blanks around the host and the roots and slashes at the end of the roots make no difference. -/
theorem sample_normal_layout_iff :
    (isBlankText "/mnt/tank/pv// " = false ∧ isBlankText " tank/pv/" = false) ∧
      (¬BlankBeforeSlashes "/mnt/tank/pv// " ∧ ¬BlankBeforeSlashes " tank/pv/") ∧
      (ofSettings "nas01" "/mnt/tank/pv// " " tank/pv/").exportRoot = rootOf "/mnt/tank/pv// " ∧
      ofSettings " nas01" "/mnt/tank/pv" "tank/pv" =
        ofSettings "nas01" "/mnt/tank/pv// " " tank/pv/" := by
  have hexport : isBlankText "/mnt/tank/pv// " = false := by decide
  have hdataset : isBlankText " tank/pv/" = false := by decide
  have hexportSound : ¬BlankBeforeSlashes "/mnt/tank/pv// " := by decide
  have hdatasetSound : ¬BlankBeforeSlashes " tank/pv/" := by decide
  have sameExport : SameRoot "/mnt/tank/pv" "/mnt/tank/pv// " :=
    ⟨"/mnt/tank/pv".toList, [], [], [], "// ".toList, rfl, rfl, List.all_eq_true.mp rfl,
      List.all_eq_true.mp rfl⟩
  have sameDataset : SameRoot "tank/pv" " tank/pv/" :=
    ⟨"tank/pv".toList, [], [' '], [], ['/'], rfl, rfl, List.all_eq_true.mp rfl,
      List.all_eq_true.mp rfl⟩
  obtain ⟨-, hroot, -, -, hsame, -⟩ := normal_layout_iff "nas01" hexport hdataset
  have hspelt := hsame hexportSound hdatasetSound [' '] [] _ _ (List.all_eq_true.mp rfl)
    (List.all_eq_true.mp rfl) (by decide) (by decide) sameExport sameDataset
  exact ⟨⟨hexport, hdataset⟩, ⟨hexportSound, hdatasetSound⟩, hroot.mpr hexportSound,
    hspelt.mpr ⟨by decide, by decide⟩⟩

/-- Trimmed roots are not always normal. A blank that stands before the final slashes stays, so that
trimming again gives another root; before the slashes of the root directory it makes the root empty
and not the root directory; and a place under the root directory has an empty name in its path. -/
theorem normal_layouts_fail :
    (∃ layout, layout = ofSettings "nas01" "/mnt/tank/pv" "tank/pv /" ∧
      ofSettings layout.host layout.exportRoot layout.datasetRoot ≠ layout) ∧
    (isBlankText " /" = false ∧ SameRoot " /" "/" ∧
      ofSettings "nas01" " /" "tank/pv" ≠ ofSettings "nas01" "/" "tank/pv" ∧
      (ofSettings "nas01" " /" "tank/pv").exportRoot = "") ∧
    (¬HasInnerGap "/" ∧ HasGap ((ofSettings "nas01" "/" "tank/pv").exportPath
      (Simulation.Peers.numberedUuid 10))) := by
  refine ⟨⟨_, rfl, by decide⟩, ⟨by decide, ?_, by decide, by decide⟩, ?_, by decide +kernel⟩
  · exact ⟨[], [' '], [], ['/'], ['/'], rfl, rfl, List.all_eq_true.mp rfl,
      List.all_eq_true.mp rfl⟩
  · rw [← hasGap_trimPath_iff (by decide)]
    decide

end Layout

end Dataset

end DatasetProvisioner
