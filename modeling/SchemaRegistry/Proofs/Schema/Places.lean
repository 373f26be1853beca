import SchemaRegistry.Schema.Registration

/-!
# Where values are refused

The place of a refusal is a path through the value that was checked: names of fields, the kinds of attributes
and indexes. `Checked.Within` bounds the names on such paths, one lemma for each of the checks from which the
models are put together. So all places at which a registration can be refused are paths through the fields of
its own model, whatever the fields of the value are called.
-/

namespace SchemaRegistry

namespace Checked

variable {α β : Type} {names : List String} {x : Checked α}

/-- All names on the way to what is refused are among these. -/
def Within (names : List String) (x : Checked α) : Prop :=
  ∀ r ∈ x.refusals, ∀ name, Step.name name ∈ r.place → name ∈ names

/-! ## Putting checks together -/

theorem within_accepted (a : α) : (accepted a).Within names := by simp [Within, refusals]

/-- There is no way to go to the value itself. -/
theorem within_refuse (cause : Cause) : (refuse cause : Checked α).Within names := by
  simp [Within, refusals, refuse]

theorem Within.map (h : x.Within names) (f : α → β) : (f <$> x).Within names := by
  cases x with
  | accepted a => exact within_accepted (f a)
  | refused why => exact h

theorem Within.seq {f : Checked (α → β)} (hf : f.Within names) (hx : x.Within names) :
    (f <*> x).Within names := by
  cases f with
  | accepted f =>
    cases x with
    | accepted a => exact within_accepted (f a)
    | refused more => exact hx
  | refused why =>
    cases x with
    | accepted a => exact hf
    | refused more =>
      intro r hr
      rcases List.mem_append.mp hr with hr | hr
      · exact hf r hr
      · exact hx r hr

theorem Within.andThen {f : α → Checked β} (h : x.Within names) (hf : ∀ a, (f a).Within names) :
    (x.andThen f).Within names := by
  cases x with
  | accepted a => exact hf a
  | refused why => exact h

/-- One step more leads from a value to its part. -/
theorem Within.under {step : Step} (h : x.Within names) (hstep : ∀ name, step = .name name → name ∈ names) :
    (x.under step).Within names := by
  cases x with
  | accepted a => exact within_accepted a
  | refused why =>
    intro r hr name hname
    obtain ⟨inner, hinner, rfl⟩ := List.mem_map.mp hr
    rcases List.mem_cons.mp hname with hhere | hbelow
    · exact hstep name hhere.symm
    · exact h inner hinner name hbelow

theorem Within.under_name {name : String} (h : x.Within names) (hname : name ∈ names) :
    (x.under (.name name)).Within names :=
  h.under fun _ hstep => Step.name.inj hstep ▸ hname

theorem Within.under_index {index : Nat} (h : x.Within names) : (x.under (.index index)).Within names :=
  h.under fun _ hstep => nomatch hstep

/-! ## Scalars -/

theorem within_text (value : Json) : (text value).Within names := by
  unfold text
  split
  · exact within_accepted _
  · exact within_refuse _
  · exact within_refuse _

theorem within_bounded (limits : Limits) (value : Json) : (bounded limits value).Within names := by
  refine (within_text value).andThen fun s => ?_
  split
  · exact within_accepted _
  · exact within_refuse _

theorem within_trimmed (limits : Limits) (value : Json) : (trimmed limits value).Within names := by
  refine (within_text value).andThen fun s => ?_
  split
  · exact within_accepted _
  · exact within_refuse _

theorem within_choice (α : Type) [Choice α] (value : Json) : (choice α value).Within names := by
  unfold choice
  dsimp only
  split
  · exact within_accepted _
  · exact within_refuse _

theorem within_flag (value : Json) : (flag value).Within names := by
  unfold flag
  dsimp only
  repeat' split
  all_goals first | exact within_accepted _ | exact within_refuse _

theorem within_nullable {check : Json → Checked α} (h : ∀ value, (check value).Within names) (value : Json) :
    (nullable check value).Within names := by
  unfold nullable
  split
  · exact within_accepted _
  · exact (h _).map some

/-! ## Lists and fields -/

/-- The items of a list are reached by their indexes. -/
theorem within_collect {check : Json → Checked α} (h : ∀ value, (check value).Within names) (index : Nat)
    (items : List Json) : (refused (collect check index items).2 : Checked α).Within names := by
  induction items generalizing index with
  | nil => exact fun _ hr => nomatch hr
  | cons item rest ih =>
    have hitem : ((check item).under (.index index)).Within names := (h item).under_index
    rw [collect]
    dsimp only
    split
    case h_1 => exact ih (index + 1)
    case h_2 here hhere =>
      rw [hhere] at hitem
      intro r hr
      rcases List.mem_append.mp hr with hr | hr
      · exact hitem r hr
      · exact ih (index + 1) r hr

theorem within_tuple {check : Json → Checked α} (h : ∀ value, (check value).Within names) (value : Json) :
    (tuple check value).Within names := by
  unfold tuple
  split
  case h_1 items =>
    have hitems := within_collect h 0 items
    split
    case h_1 => exact within_accepted _
    case h_2 why _ hcollect =>
      rw [hcollect] at hitems
      exact hitems
  case h_2 => exact within_refuse _

theorem within_nonemptyTuple {check : Json → Checked α} (h : ∀ value, (check value).Within names)
    (value : Json) : (nonemptyTuple check value).Within names := by
  unfold nonemptyTuple
  split
  case h_1 items =>
    have hitems := within_collect h 0 items
    split
    case h_1 why hcollect =>
      rw [hcollect] at hitems
      intro r hr
      rcases List.mem_append.mp hr with hr | hr
      · exact hitems r hr
      · rw [List.mem_singleton.mp hr]
        simp
    case h_2 => exact within_accepted _
    case h_3 why _ _ hcollect =>
      rw [hcollect] at hitems
      exact hitems
  case h_2 => exact within_refuse _

theorem within_record {model : Model} {check : Fields → Checked α}
    (h : ∀ fields, (check fields).Within names) (value : Json) : (record model check value).Within names := by
  unfold record
  split
  · exact h _
  · exact within_refuse _

theorem within_required {name : String} {check : Json → Checked α} (hname : name ∈ names)
    (h : ∀ value, (check value).Within names) (fields : Fields) :
    (required name check fields).Within names := by
  refine Within.under_name ?_ hname
  split
  · exact h _
  · exact within_refuse _

theorem within_withDefault {name : String} {default : α} {check : Json → Checked α} (hname : name ∈ names)
    (h : ∀ value, (check value).Within names) (fields : Fields) :
    (withDefault name default check fields).Within names := by
  unfold withDefault
  split
  · exact (h _).under_name hname
  · exact within_accepted _

end Checked

/-! ## Registrations -/

/-- The names on the ways through a registration: those of its fields and of the fields of its key and its
attributes, and the kinds of attributes. -/
def Registration.pathNames : List String :=
  ["schema_key", "namespace", "schema_name", "version", "description", "schema_type", "validation_type",
    "attributes", "name", "optional", "values", "created_by"] ++ Choice.words Kind

open Checked Registration

theorem Key.within_check (value : Json) : (Key.check value).Within pathNames :=
  within_record (fun fields =>
    (((within_required (by decide) (within_trimmed _) fields).map _).seq
      (within_required (by decide) (within_trimmed _) fields)).seq
      (within_required (by decide) (within_trimmed _) fields)) value

theorem Attribute.within_checkValues (kind : Kind) (fields : Fields) :
    (Attribute.checkValues kind fields).Within pathNames := by
  unfold Attribute.checkValues
  split
  · exact (within_withDefault (by decide) (within_tuple (within_trimmed _)) fields).map _
  · exact within_accepted _

theorem Attribute.within_checkFields (kind : Kind) (fields : Fields) :
    (Attribute.checkFields kind fields).Within pathNames :=
  ((((within_required (by decide) (within_trimmed _) fields).map _).seq
    (within_withDefault (by decide) (within_nullable (within_trimmed _)) fields)).seq
    (within_withDefault (by decide) within_flag fields)).seq (Attribute.within_checkValues kind fields)

/-- The kind of an attribute is a step on the way to its fields. -/
theorem Attribute.within_check (value : Json) : (Attribute.check value).Within pathNames := by
  unfold Attribute.check
  split
  case h_1 fields =>
    split
    case h_1 => exact within_refuse _
    case h_2 tag _ =>
      split
      case h_1 => exact within_refuse _
      case h_2 kind _ =>
        refine (Attribute.within_checkFields kind fields).under_name ?_
        exact List.mem_append_right _ (List.mem_map_of_mem (Choice.mem_members kind))
  case h_2 => exact within_refuse _

theorem AttributeSet.within_check (value : Json) : (AttributeSet.check value).Within pathNames := by
  refine (within_nonemptyTuple Attribute.within_check value).andThen fun items => ?_
  unfold AttributeSet.ofItems
  split
  · exact within_accepted _
  · exact within_refuse _

/-- **A registration is refused at its own fields**, and at parts of them. -/
theorem Registration.within_check (value : Json) : (Registration.check value).Within pathNames :=
  within_record (fun fields =>
    ((((((within_required (by decide) Key.within_check fields).map _).seq
      (within_withDefault (by decide) (within_nullable (within_bounded _)) fields)).seq
      (within_withDefault (by decide) (within_choice Format) fields)).seq
      (within_withDefault (by decide) (within_choice Mode) fields)).seq
      (within_required (by decide) AttributeSet.within_check fields)).seq
      (within_required (by decide) (within_bounded _) fields)) value

end SchemaRegistry
