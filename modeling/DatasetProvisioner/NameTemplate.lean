import DatasetProvisioner.Annotations

/-!
# Name templates

A template holds placeholders `{key}`. Rendering goes over it once from the left: a known key is
replaced by its value, an unknown one stays as written, and a value is never read again.
-/
namespace DatasetProvisioner.NameTemplate

/-- Read a key after an opening brace: at least one character, of which the first may be anything,
up to the next closing brace. Gives the key and what follows the closing brace. -/
def key? : List Char → Option (List Char × List Char)
  | [] => none
  | c :: cs =>
    match cs.dropWhile (· != '}') with
    | [] => none
    | _ :: after => some (c :: cs.takeWhile (· != '}'), after)

theorem length_of_key? {cs key after : List Char} (h : key? cs = some (key, after)) :
    after.length < cs.length := by
  match cs with
  | [] => simp [key?] at h
  | c :: cs =>
    have hle : (cs.dropWhile (· != '}')).length ≤ cs.length :=
      (List.dropWhile_sublist _).length_le
    cases hd : cs.dropWhile (· != '}') with
    | nil => simp [key?, hd] at h
    | cons d after' =>
      simp only [key?, hd, Option.some.injEq, Prod.mk.injEq] at h
      obtain ⟨_, rfl⟩ := h
      simp [hd] at hle
      simp
      omega

/-- What stands for the placeholder of `key`. -/
def filled (values : Annotations) (key : List Char) : List Char :=
  match values[String.ofList key]? with
  | some value => value.toList
  | none => '{' :: key ++ ['}']

/-- Fill in the placeholders of a template given by its characters. -/
def renderChars (values : Annotations) : List Char → List Char
  | [] => []
  | c :: cs =>
    if c = '{' then
      match _hk : key? cs with
      | some (key, after) => filled values key ++ renderChars values after
      | none => c :: cs
    else c :: renderChars values cs
termination_by cs => cs.length
decreasing_by
  · have := length_of_key? _hk
    simp
    omega
  · simp

/-- Fill in the placeholders of a template. -/
def render (template : String) (values : Annotations) : String :=
  String.ofList (renderChars values template.toList)

end DatasetProvisioner.NameTemplate
