import SchemaRegistry.Schema.Scalar
import SchemaRegistry.Text.Case
import SchemaRegistry.Text.Order

/-!
# Attributes

An attribute names a field that a host type should have. Its kind decides the category of that field; only
an enumeration lists values. A schema declares a set of attributes: at least one, and no two whose names are
equal in upper case.
-/

namespace SchemaRegistry

/-- The limits of the name of an attribute. -/
def nameLimits : Limits := ⟨1, some 256⟩

/-- The limits of the description of an attribute. -/
def attributeDescriptionLimits : Limits := ⟨0, some 1024⟩

/-- The limits of a value of an enumeration: none. -/
def noLimits : Limits := ⟨0, none⟩

/-- A declared attribute. -/
structure Attribute where
  name : TrimmedText nameLimits
  description : Option (TrimmedText attributeDescriptionLimits)
  /-- Informational: conformance does not look at it. -/
  optional : Bool
  kind : Kind
  /-- The values of an enumeration. -/
  values : List (TrimmedText noLimits)
  /-- Only an enumeration has values. -/
  values_eq_nil : kind ≠ .enumeration → values = []
deriving DecidableEq, Repr

namespace Attribute

/-- The name in upper case, under which attributes and fields are compared. -/
def folded (a : Attribute) : String := Text.upper a.name.text

/-- A field of category `c` can carry the attribute. -/
def accepts (a : Attribute) (c : Category) : Bool := a.kind.accepts c

/-- The values of an attribute of a kind: read for an enumeration, none otherwise. -/
def checkValues (kind : Kind) (fields : Checked.Fields) :
    Checked { values : List (TrimmedText noLimits) // kind ≠ .enumeration → values = [] } :=
  if h : kind = .enumeration then
    (fun values => ⟨values, fun absurd => (absurd h).elim⟩) <$>
      Checked.withDefault "values" [] (Checked.tuple (Checked.trimmed noLimits)) fields
  else .accepted ⟨[], fun _ => rfl⟩

/-- Checks the fields of an attribute of a kind. -/
def checkFields (kind : Kind) (fields : Checked.Fields) : Checked Attribute :=
  (fun name description optional values => ⟨name, description, optional, kind, values.1, values.2⟩) <$>
    Checked.required "name" (Checked.trimmed nameLimits) fields
    <*> Checked.withDefault "description" none
      (Checked.nullable (Checked.trimmed attributeDescriptionLimits)) fields
    <*> Checked.withDefault "optional" false Checked.flag fields
    <*> checkValues kind fields

/-- The kind that the tag of an attribute names. -/
def kindOfTag? : Json → Option Kind
  | .str word => Choice.ofWord? word
  | _ => none

/-- Checks an attribute. Its kind is read first, and is a step on the way to every other fault. -/
def check : Json → Checked Attribute
  | .obj fields =>
    match Json.lookup "type" fields with
    | none => .refuse .noTag
    | some tag =>
      match kindOfTag? tag with
      | none => .refuse (.unknownTag tag.plainText)
      | some kind => (checkFields kind fields).under (.name kind.word)
  | _ => .refuse .notAttribute

/-- An attribute as JSON. -/
def toJson (a : Attribute) : Json :=
  .obj <|
    [("name", .str a.name.text),
     ("description", .ofText? (a.description.map TrimmedText.text)),
     ("optional", .bool a.optional),
     ("type", .str a.kind.word)] ++
    if a.kind = .enumeration then [("values", .ofTexts (a.values.map TrimmedText.text))] else []

end Attribute

/-! ## Repeated names -/

/-- The names that a walk over names has met, and those among them that it has met again. -/
structure Tally where
  seen : List String
  repeated : List String

namespace Tally

/-- The tally before the first name. -/
def empty : Tally := ⟨[], []⟩

/-- Meets one name more. -/
def add (t : Tally) (name : String) : Tally where
  seen := t.seen.insert name
  repeated := if t.seen.contains name then t.repeated.insert name else t.repeated

/-- The tally knows which names there are, and which of them there are more than once. -/
structure Counts (t : Tally) (names : List String) : Prop where
  seen : ∀ name, name ∈ t.seen ↔ name ∈ names
  repeated : ∀ name, name ∈ t.repeated ↔ 2 ≤ names.count name

theorem counts_empty : empty.Counts [] := ⟨by simp [empty], by simp [empty]⟩

theorem Counts.add {t : Tally} {names : List String} (h : t.Counts names) (name : String) :
    (t.add name).Counts (names ++ [name]) where
  seen other := by
    rw [Tally.add, List.mem_insert_iff, h.seen, List.mem_append, List.mem_singleton, or_comm]
  repeated other := by
    have hseen : t.seen.contains name = true ↔ 1 ≤ names.count name := by
      rw [List.contains_iff_mem, h.seen, ← List.count_pos_iff]
      rfl
    have hcount : (names ++ [name]).count other = names.count other + if name = other then 1 else 0 := by
      simp [List.count_append, List.count_singleton]
    rw [hcount, Tally.add]
    by_cases hname : name = other
    · -- A name that was met before is repeated from now on, and a new one is not repeated yet.
      subst hname
      rw [if_pos rfl]
      split
      case isTrue hmet =>
        simp only [List.mem_insert_iff, true_or, true_iff]
        exact Nat.succ_le_succ (hseen.mp hmet)
      case isFalse hnew =>
        rw [hseen] at hnew
        rw [h.repeated]
        omega
    · rw [if_neg hname, Nat.add_zero, ← h.repeated]
      split
      · simp [List.mem_insert_iff, Ne.symm hname]
      · rfl

theorem Counts.addAll {t : Tally} {before : List String} (h : t.Counts before) (names : List String) :
    (names.foldl Tally.add t).Counts (before ++ names) := by
  induction names generalizing t before with
  | nil => rwa [List.append_nil]
  | cons name rest ih =>
    rw [List.append_cons]
    exact ih (h.add name)

end Tally

/-- The names that occur more than once, each once and in code-point order. -/
def repeatedNames (names : List String) : List String :=
  Text.nameSet (names.foldl Tally.add .empty).repeated

theorem mem_repeatedNames {name : String} {names : List String} :
    name ∈ repeatedNames names ↔ 2 ≤ names.count name := by
  rw [repeatedNames, Text.mem_nameSet]
  exact (Tally.counts_empty.addAll names).repeated name

theorem repeatedNames_eq_nil_iff {names : List String} : repeatedNames names = [] ↔ names.Nodup := by
  simp only [List.eq_nil_iff_forall_not_mem, mem_repeatedNames, List.nodup_iff_count, Nat.not_le,
    Nat.lt_succ_iff]

/-! ## Sets of attributes -/

/-- The attributes of a schema. -/
structure AttributeSet where
  items : List Attribute
  nonempty : items ≠ []
  /-- No two names are equal in upper case. -/
  distinct : (items.map Attribute.folded).Nodup
deriving DecidableEq, Repr

namespace AttributeSet

/-- The names in upper case, in the order of declaration. -/
def names (s : AttributeSet) : List String := s.items.map Attribute.folded

/-- One of the attributes has the name, whatever the case of its letters. -/
def has (s : AttributeSet) (name : String) : Bool := s.names.contains (Text.upper name)

/-- The set with these attributes, unless a name occurs twice. -/
def ofItems (items : { items : List Attribute // items ≠ [] }) : Checked AttributeSet :=
  if distinct : repeatedNames (items.1.map Attribute.folded) = [] then
    .accepted ⟨items.1, items.2, repeatedNames_eq_nil_iff.mp distinct⟩
  else .refuse (.repeatedNames (repeatedNames (items.1.map Attribute.folded)))

/-- Checks a set of attributes. Names are compared once every attribute is taken. -/
def check (value : Json) : Checked AttributeSet :=
  (Checked.nonemptyTuple Attribute.check value).andThen ofItems

/-- A set of attributes as JSON. -/
def toJson (s : AttributeSet) : Json := .arr (s.items.map Attribute.toJson)

end AttributeSet

end SchemaRegistry
