import DatasetProvisioner.Json.Writer
import DatasetProvisioner.Proofs.CommandText
import DatasetProvisioner.Proofs.Digits

/-!
# Reading request bodies back

What the body of a request says of a dataset: its name, and the properties that it sets, with their
values as a command gives them. The reader knows the forms of the interface (whole numbers, record
sizes with a unit, values in upper case, user properties in a list of their own) and nothing of how
a body is composed. What is read of a request for a new dataset is its quota, its options without
log bias, and the name of its volume.
-/
namespace DatasetProvisioner

namespace Text

theorem toList_decimal (n : Nat) : (decimal n).toList = Nat.toDigits 10 n := by
  rw [Dataset.decimal_eq, Nat.toString_eq_repr, Nat.toList_repr]

theorem isDigit_of_mem_decimal {n : Nat} {c : Char} (h : c ∈ (decimal n).toList) :
    c.isDigit = true := by
  rw [toList_decimal] at h
  exact Nat.isDigit_of_mem_toDigits (by decide) (by decide) h

/-- A number is read back from its decimal digits. -/
theorem natural?_decimal (n : Nat) : natural? 10 (decimal n).toList = some n := by
  have hne : (decimal n).toList ≠ [] := by
    rw [toList_decimal]
    exact Nat.toDigits_ne_nil
  rw [natural?_of_isDigit hne fun c hc => isDigit_of_mem_decimal hc, toList_decimal,
    Nat.ofDigitChars_ten_toDigits]

end Text

namespace Management

/-- The members that say what a body is about and set no property. -/
def descriptive : List String := ["name", "type", "comments", "snapshot", "dataset_dst"]

/-- Read a record size, in bytes or with a letter for the unit. -/
def recordSizeOf? (label : String) : Option Nat :=
  if label.toList.getLast? = some 'K' then
    (Text.natural? 10 label.toList.dropLast).map (· * 1024)
  else Text.natural? 10 label.toList

/-- The value of a property as a command gives it. -/
def valueText? (name : String) : Json → Option String
  | .integer n => some (Json.integerText n)
  | .string s =>
    if name = "recordsize" then (recordSizeOf? s).map Text.decimal else some (Text.asciiLower s)
  | _ => none

def userProperty? (item : Json) : Option (String × String) :=
  match (item.field? "key").bind Json.string?, (item.field? "value").bind Json.string? with
  | some key, some value => some (key, value)
  | _, _ => none

/-- The properties that one member of a body sets. -/
def memberProperties? (member : String × Json) : Option (List (String × String)) :=
  if member.1 ∈ descriptive then some []
  else if member.1 = "user_properties" then member.2.array?.bind (·.mapM userProperty?)
  else (valueText? member.1 member.2).map fun value => [(member.1, value)]

/-- What is read of all items, in their order. -/
def readAll {α β : Type} (read : α → Option (List β)) (items : List α) : Option (List β) :=
  (items.mapM read).map List.flatten

def propertiesOf? : List (String × Json) → Option (List (String × String)) :=
  readAll memberProperties?

/-- The properties that a body sets on its dataset. -/
def bodyProperties? : Json → Option (List (String × String))
  | .object members => propertiesOf? members
  | _ => none

/-- The dataset that a body is about. -/
def bodyDataset? (body : Json) : Option String :=
  (body.field? "name").bind Json.string?

/-! ## Reading members -/

theorem readAll_append {α β : Type} {read : α → Option (List β)} {first rest : List α}
    {a b : List β} (hfirst : readAll read first = some a) (hrest : readAll read rest = some b) :
    readAll read (first ++ rest) = some (a ++ b) := by
  obtain ⟨parts, hparts, rfl⟩ := Option.map_eq_some_iff.mp hfirst
  obtain ⟨parts', hparts', rfl⟩ := Option.map_eq_some_iff.mp hrest
  rw [readAll, List.mapM_append, hparts, hparts']
  simp

/-- Items of which one thing each is read are read as these things in order. -/
theorem readAll_map {α β γ : Type} {read : α → Option (List β)} {item : γ → α} {thing : γ → β}
    {list : List γ} (h : ∀ c ∈ list, read (item c) = some [thing c]) :
    readAll read (list.map item) = some (list.map thing) := by
  induction list with
  | nil => rfl
  | cons c list ih =>
    obtain ⟨hc, hlist⟩ := List.forall_mem_cons.mp h
    have hone : readAll read [item c] = some [thing c] := by
      simp [readAll, hc]
    exact readAll_append hone (ih hlist)

theorem readAll_aside {α β : Type} {read : α → Option (List β)} {items : List α}
    (h : ∀ a ∈ items, read a = some []) : readAll read items = some [] := by
  induction items with
  | nil => rfl
  | cons a items ih =>
    obtain ⟨ha, hitems⟩ := List.forall_mem_cons.mp h
    have hone : readAll read [a] = some [] := by
      simp [readAll, ha]
    exact readAll_append hone (ih hitems)

/-- Members that set one property each are read as these properties in order. -/
theorem propertiesOf?_map {α : Type} {member : α → String × Json} {property : α → String × String}
    {items : List α} (h : ∀ a ∈ items, memberProperties? (member a) = some [property a]) :
    propertiesOf? (items.map member) = some (items.map property) :=
  readAll_map h

theorem memberProperties?_of_value {name : String} {value : Json} {text : String}
    (hname : name ∉ descriptive ∧ name ≠ "user_properties")
    (h : valueText? name value = some text) :
    memberProperties? (name, value) = some [(name, text)] := by
  simp only [memberProperties?, hname.1, hname.2, if_false, h, Option.map_some]

theorem valueText?_ofNat (name : String) (n : Nat) :
    valueText? name (.ofNat n) = some (Text.decimal n) := by
  have hpos : ¬(n : Int) < 0 := by omega
  simp [valueText?, Json.ofNat, Json.integerText, hpos]

/-- A record size is read back from its label. -/
theorem recordSizeOf?_label (n : Nat) : recordSizeOf? (Dataset.recordSizeLabel n) = some n := by
  unfold Dataset.recordSizeLabel
  split
  · next hwhole =>
    have hlabel : (Text.decimal (n / 1024) ++ "K").toList =
        (Text.decimal (n / 1024)).toList ++ ['K'] := by
      simp
    rw [recordSizeOf?, hlabel, List.getLast?_concat, if_pos rfl, List.dropLast_concat,
      Text.natural?_decimal, Option.map_some, Nat.div_mul_cancel (Nat.dvd_of_mod_eq_zero hwhole.2)]
  · have hlast : (Text.decimal n).toList.getLast? ≠ some 'K' := by
      intro h
      have hdigit := Text.isDigit_of_mem_decimal (List.mem_of_getLast? h)
      revert hdigit
      decide
    rw [recordSizeOf?, if_neg hlast, Text.natural?_decimal]

/-! ## Reading a request for a new dataset -/

open Dataset

theorem name_of_mem_quota {quota : Quota} {p : String × Nat} (h : p ∈ quota.properties) :
    p.1 = "quota" ∨ p.1 = "reservation" := by
  have hname := (names_quota quota).subset (List.mem_map_of_mem h)
  rwa [List.mem_cons, List.mem_singleton] at hname

theorem plain_of_quota {quota : Quota} {p : String × Nat} (h : p ∈ quota.properties) :
    p.1 ∉ descriptive ∧ p.1 ≠ "user_properties" := by
  rcases name_of_mem_quota h with hname | hname <;> rw [hname] <;> decide

theorem propertiesOf?_quota (quota : Quota) :
    propertiesOf? quota.members =
      some (quota.properties.map fun p => (p.1, Text.decimal p.2)) :=
  propertiesOf?_map fun p hp => memberProperties?_of_value (plain_of_quota hp)
    (valueText?_ofNat p.1 p.2)

theorem bodyProperties?_quota (quota : Quota) :
    bodyProperties? quota.body = some (quota.properties.map fun p => (p.1, Text.decimal p.2)) :=
  propertiesOf?_quota quota

theorem plain_name (t : Tunable) : t.name ∉ descriptive ∧ t.name ≠ "user_properties" := by
  cases t <;> decide

theorem lower_upper {t : Tunable} {value : String} (h : value ∈ t.accepted) :
    Text.asciiLower (Text.asciiUpper value) = value := by
  revert value
  cases t <;> decide

theorem valueText?_tuned {t : Tunable} {value : String} (h : value ∈ t.accepted) :
    valueText? t.name (.string (Text.asciiUpper value)) = some value := by
  have hname : t.name ≠ "recordsize" := by
    cases t <;> decide
  rw [valueText?, if_neg hname, lower_upper h]

/-- The options that the interface knows are those of a command without log bias. -/
theorem filterMap_supported {α : Type} (options : Options) (f : Tunable → String → α) :
    (Request.supported.filterMap fun t => (options.tuned t).map (f t)) =
      Tunable.all.filterMap fun t => ((options.without .logBias).tuned t).map (f t) := by
  rw [Request.supported, List.filterMap_filter]
  refine List.filterMap_congr fun t _ => ?_
  by_cases h : t = .logBias <;> simp [Options.without, h]

theorem propertiesOf?_tuned {request : Request} (restricted : request.options.Restricted) :
    propertiesOf? request.tunedMembers =
      some (request.options.without .logBias).properties := by
  have hsize : propertiesOf? (request.options.recordSize.toList.map fun n =>
      ("recordsize", .string (recordSizeLabel n))) =
      some (request.options.recordSize.toList.map fun n => ("recordsize", Text.decimal n)) :=
    propertiesOf?_map fun n _ => memberProperties?_of_value (by decide) <| by
      rw [valueText?, if_pos rfl, recordSizeOf?_label, Option.map_some]
  -- Each value that is tuned stands in upper case where a command has it as it is.
  let pairs := Request.supported.filterMap fun t => (request.options.tuned t).map (t, ·)
  have hpairs : propertiesOf? (pairs.map fun p => (p.1.name, .string (Text.asciiUpper p.2))) =
      some (pairs.map fun p => (p.1.name, p.2)) := by
    refine propertiesOf?_map fun p hp => ?_
    obtain ⟨t, -, ht⟩ := List.mem_filterMap.mp hp
    obtain ⟨value, hvalue, rfl⟩ := Option.map_eq_some_iff.mp ht
    exact memberProperties?_of_value (plain_name t)
      (valueText?_tuned (restricted.tuned t value hvalue))
  simp only [pairs, List.map_filterMap, Option.map_map, Function.comp_def] at hpairs
  rw [filterMap_supported request.options fun t value => (t.name, value)] at hpairs
  exact readAll_append hsize hpairs

/-- What a request for a new dataset sets, read back from its body. -/
theorem bodyProperties?_body {request : Request} (restricted : request.options.Restricted) :
    bodyProperties? request.body =
      some ((request.quota.properties.map fun p => (p.1, Text.decimal p.2)) ++
        (request.options.without .logBias).properties ++
        [(trackingProperty, request.volumeRef)]) := by
  have hhead : propertiesOf? [("name", .string request.name), ("type", .string "FILESYSTEM")] =
      some [] := by
    rfl
  have hlast : propertiesOf? [("user_properties", .array [.object
      [("key", .string trackingProperty), ("value", .string request.volumeRef)]]),
      ("comments", .string ("volume " ++ request.volumeRef))] =
      some [(trackingProperty, request.volumeRef)] := by
    rfl
  exact readAll_append (readAll_append (readAll_append hhead
    (propertiesOf?_quota request.quota)) (propertiesOf?_tuned restricted)) hlast

/-- A member is found where no later one has its name. -/
theorem field?_of_notin {key : String} {value : Json} {members : List (String × Json)}
    (h : ∀ member ∈ members, member.1 ≠ key) :
    (Json.object ((key, value) :: members)).field? key = some value := by
  have hrest : members.reverse.find? (fun member => member.1 == key) = none := by
    rw [List.find?_eq_none]
    intro member hmember
    rw [beq_iff_eq]
    exact h member (List.mem_reverse.mp hmember)
  rw [Json.field?, List.reverse_cons, List.find?_append, hrest, Option.none_or,
    List.find?_singleton, beq_self_eq_true, if_pos rfl, Option.map_some]

theorem bodyDataset?_body (request : Request) : bodyDataset? request.body = some request.name := by
  obtain ⟨members, hbody, hmembers⟩ : ∃ members,
      request.body = .object (("name", .string request.name) :: members) ∧
        ∀ member ∈ members, member.1 ≠ "name" := by
    refine ⟨_, rfl, ?_⟩
    have hname : "name" ∈ descriptive := by decide
    change ∀ member ∈ ("type", Json.string "FILESYSTEM") :: request.quota.members ++
      request.tunedMembers ++ _, member.1 ≠ "name"
    simp only [List.forall_mem_append, List.forall_mem_cons]
    refine ⟨⟨⟨by decide, ?_⟩, ?_⟩, by decide, by decide, by simp⟩
    · intro member hmember heq
      obtain ⟨p, hp, rfl⟩ := List.mem_map.mp hmember
      exact (plain_of_quota hp).1 (heq ▸ hname)
    · intro member hmember heq
      rcases List.mem_append.mp hmember with hmember | hmember
      · obtain ⟨n, -, rfl⟩ := List.mem_map.mp hmember
        exact absurd (show "recordsize" = "name" from heq) (by decide)
      · obtain ⟨t, -, ht⟩ := List.mem_filterMap.mp hmember
        obtain ⟨value, -, rfl⟩ := Option.map_eq_some_iff.mp ht
        have heq : t.name = "name" := heq
        exact (plain_name t).1 (heq ▸ hname)
  rw [bodyDataset?, hbody, field?_of_notin hmembers]
  rfl

end Management

end DatasetProvisioner
