import SchemaRegistry.Proofs.Conformance.Modes
import SchemaRegistry.Proofs.Host.NearestDeclaration
import SchemaRegistry.Proofs.Host.Building

/-!
# Subclasses conform

A class that extends another one has all of its fields, and those of its own body come before them. A matching
schema that declares none of these does not see them, so its verdict is that of the class which is extended, as
`subclass_conforms` says. Both are read in lockstep: once the body of the subclass is read, the two have the same
annotations before them, and `Hides` relates what was read so far. An annotation that fails does so for both.

The body of the subclass has to be read for that. It is if its annotations evaluate, but for two things that a
class statement does not make: a key of an annotation that no field can have as its name, and a name of its module
that is no text.
-/

namespace SchemaRegistry

/-- The class is the only base of the other one. -/
def HostClass.Extends (d c : HostClass) : Prop := d.bases = [c.ref.id]

instance (d c : HostClass) : Decidable (d.Extends c) := inferInstanceAs (Decidable (d.bases = [c.ref.id]))

/-- Two computations come to the same: the same value or the same failure. Where the fields of a host type cannot
be read, each may call the host type by another name. -/
inductive SameFate {α : Type} : Except Failure α → Except Failure α → Prop where
  | value (a : α) : SameFate (.ok a) (.ok a)
  | unresolvable (host host' reason : String) :
      SameFate (.error (.service (.unresolvable host reason))) (.error (.service (.unresolvable host' reason)))
  | failure (e : Failure) : SameFate (.error e) (.error e)

theorem SameFate.isSome_eq {α : Type} {x y : Except Failure α} (h : SameFate x y) :
    x.toOption.isSome = y.toOption.isSome := by
  cases h <;> rfl

namespace Inventory

/-! ## Reading in lockstep -/

/-- The second state has the fields of the one in front, and then those of the first state that are not hidden by
these. -/
def Hides (front p q : Progress) : Prop :=
  q.fields = front.fields ++ p.fields.filter fun f => !front.has (.text f.name.text)

variable {front p q : Progress} {host host' : String}

theorem Hides.has_eq (h : Hides front p q) (name : FieldName) : q.has name = (front.has name || p.has name) := by
  rw [Progress.has, h, List.any_append, List.any_filter]
  cases hfront : front.has name with
  | true => rw [← Progress.has, hfront, Bool.true_or, Bool.true_or]
  | false =>
    rw [← Progress.has, hfront, Bool.false_or, Bool.false_or]
    refine List.any_congr rfl fun f => ?_
    by_cases hname : FieldName.text f.name.text = name <;> simp [hname, hfront]

/-- The two states that some annotations are read from, and whether they can be, are related afterwards. -/
structure Lockstep (front : Progress) (x y : Except Failure Unit × Progress) : Prop where
  fate : SameFate x.1 y.1
  hides : Hides front x.2 y.2

theorem lockstep_takeHints (h : Hides front p q) (c : HostClass) (hints : List (FieldName × Hint)) :
    Lockstep front (takeHints host c p hints) (takeHints host' c q hints) := by
  induction hints generalizing p q with
  | nil => exact ⟨.value (), h⟩
  | cons head rest ih =>
    obtain ⟨name, hint⟩ := head
    simp only [takeHints]
    split
    case isTrue => exact ih h
    case isFalse =>
      rw [h.has_eq]
      cases hp : p.has name with
      | true =>
        rw [Bool.or_true, if_pos rfl, if_pos rfl]
        exact ih h
      | false =>
        rw [Bool.or_false, if_neg Bool.false_ne_true]
        cases hfront : front.has name with
        | true =>
          -- The field is read from the first state alone, and it is hidden.
          obtain ⟨f, hf, hline⟩ := exists_ofName_eq hint (isProper_of_has hfront)
          rw [if_pos rfl, hf]
          refine ih ?_
          have hname : FieldName.text f.name.text = name := congrArg Prod.fst hline
          simpa [Hides, hname, hfront] using h
        | false =>
          rw [if_neg Bool.false_ne_true]
          cases hf : HostField.ofName hint.inferred name with
          | error e => exact ⟨.failure e, h⟩
          | ok f =>
            refine ih ?_
            have hname : FieldName.text f.name.text = name := (isProper_of_ofName hf).2.symm
            rw [Hides] at h ⊢
            simp [h, hname, hfront]

theorem sameFate_failureOf {α : Type} (e : Failure) :
    SameFate (.error (failureOf host e) : Except Failure α) (.error (failureOf host' e)) := by
  unfold failureOf
  split
  · exact .unresolvable host host' e.message
  · exact .failure e

theorem lockstep_takeClass (h : Hides front p q) (w : Workspace) (c : HostClass) :
    Lockstep front (takeClass w host p c) (takeClass w host' q c) := by
  unfold takeClass
  split
  case h_1 e _ => exact ⟨sameFate_failureOf e, h⟩
  case h_2 hints _ => exact lockstep_takeHints h c hints

theorem lockstep_takeClasses (h : Hides front p q) (w : Workspace) (row : List HostClass) :
    Lockstep front (takeClasses w host p row) (takeClasses w host' q row) := by
  induction row generalizing p q with
  | nil => exact ⟨.value (), h⟩
  | cons c rest ih =>
    simp only [takeClasses]
    cases isFramework w.classes c with
    | error e => exact ⟨.failure e, h⟩
    | ok isKnown =>
      cases isKnown with
      | true => exact ih h
      | false =>
        have hclass : Lockstep front (takeClass w host p c) (takeClass w host' q c) :=
          lockstep_takeClass h w c
        obtain ⟨hfate, hhides⟩ := hclass
        dsimp only
        generalize takeClass w host p c = x at hfate hhides ⊢
        generalize takeClass w host' q c = y at hfate hhides ⊢
        obtain ⟨answer, p'⟩ := x
        obtain ⟨answer', q'⟩ := y
        cases hfate with
        | value => exact ih hhides
        | unresolvable host host' reason => exact ⟨.unresolvable host host' reason, hhides⟩
        | failure e => exact ⟨.failure e, hhides⟩

/-- Once the classes in front of a row are taken, the others are taken from there. -/
theorem takeClasses_append {w : Workspace} {body rest : List HostClass}
    (h : takeClasses w host p body = (.ok (), q)) :
    takeClasses w host p (body ++ rest) = takeClasses w host q rest := by
  induction body generalizing p with
  | nil =>
    cases h
    rfl
  | cons c body ih =>
    rw [takeClasses] at h
    rw [List.cons_append, takeClasses]
    cases hframework : isFramework w.classes c with
    | error e => rw [hframework] at h; cases h
    | ok isKnown =>
      rw [hframework] at h
      cases isKnown with
      | true => exact ih h
      | false =>
        dsimp only at h ⊢
        cases htaken : takeClass w host p c with
        | mk answer p' =>
          rw [htaken] at h
          cases answer with
          | error e => cases h
          | ok _ => exact ih h

/-! ## The fields of a subclass -/

/-- A class is read to a state that has the fields of its row, unless they cannot be read. -/
theorem ofHint_fst {w : Workspace} {h : Hint} {c : ClassRef} (hhost : host? w h = some (host, c)) :
    (ofHint w h).1 =
      (takeClasses w host ⟨[], []⟩ (w.classes.lineage c)).1.map fun _ =>
        (takeClasses w host ⟨[], []⟩ (w.classes.lineage c)).2.fields := by
  rw [ofHint, hhost]
  dsimp only
  rw [ofClass]
  split <;> rename_i heq <;> rw [heq] <;> rfl

/-- The fields of the second list are those of the first, behind fields of the names of some declarations. What
has one of their names is hidden. -/
def Extended (own : List Declaration) (fields others : List HostField) : Prop :=
  ∃ front : Progress, (∀ f ∈ front.fields, ∃ x ∈ own, x.isField ∧ x.name = .text f.name.text) ∧
    others = front.fields ++ fields.filter fun f => !front.has (.text f.name.text)

/-- The only base of the class that the second hint is, is the first. The class has the bodies of these classes before
it comes to those of its base: its own, or none if it is a model with arguments. -/
inductive OnlyBase (w : Workspace) : Hint → Hint → List HostClass → Prop where
  | declared {h h' : Hint} {r r' : ClassRef} {host host' : String} {c d : HostClass}
      (base_host : host? w h = some (host, r)) (base_class : w.classes.find? r.id = some c)
      (sub_host : host? w h' = some (host', r')) (sub_class : w.classes.find? r'.id = some d)
      (bases : d.Extends c) : OnlyBase w h h' [d]
  | arguments {r r' : ClassRef} {sup sup' : Option Hint} {args : List Hint} (model : r.id = r'.id) :
      OnlyBase w (.cls r sup) (.submodel r' sup' args) []

/-- The row of a class comes behind its body in the row of another whose only base it is. -/
theorem OnlyBase.lineage_eq {w : Workspace} {h h' : Hint} {body : List HostClass} (hbase : OnlyBase w h h' body)
    (hbuilt : w.Built) : ∃ host host' r r', host? w h = some (host, r) ∧ host? w h' = some (host', r') ∧
      w.classes.lineage r' = body ++ w.classes.lineage r := by
  cases hbase with
  | declared hhost hc hhost' hd hextends =>
    exact ⟨_, _, _, _, hhost, hhost', hbuilt.sound.orderly.lineage_eq hc hd hextends⟩
  | arguments hsame => exact ⟨_, _, _, _, rfl, rfl, by rw [Universe.lineage, Universe.lineage, hsame]; rfl⟩

/-- A class and one whose only base it is are both read, or both fail in the same way. -/
theorem ofHint_extends {w : Workspace} {h h' : Hint} {r r' : ClassRef} {body : List HostClass}
    {own : List Declaration} (hhost : host? w h = some (host, r)) (hhost' : host? w h' = some (host', r'))
    (hrow : w.classes.lineage r' = body ++ w.classes.lineage r) (hown : declarations w body = .ok own)
    (hnamed : Declaration.Named own) :
    (∃ fields others, (ofHint w h).1 = .ok fields ∧ (ofHint w h').1 = .ok others ∧ Extended own fields others) ∨
    ∃ e e', (ofHint w h).1 = .error e ∧ (ofHint w h').1 = .error e' ∧
      ∀ α : Type, SameFate (.error e : Except Failure α) (.error e') := by
  obtain ⟨front, hfront, hshows⟩ := takeClasses_shows host' hown hnamed
  have hhides : Hides front ⟨[], []⟩ front := by simp [Hides]
  have hlockstep : Lockstep front (takeClasses w host ⟨[], []⟩ (w.classes.lineage r))
      (takeClasses w host' front (w.classes.lineage r)) :=
    lockstep_takeClasses hhides w _
  -- What stands in front are declarations of the body.
  have hnames : ∀ f ∈ front.fields, ∃ x ∈ own, x.isField ∧ x.name = .text f.name.text := by
    intro f hf
    have hline : fieldLine f ∈ front.fields.map fieldLine := List.mem_map_of_mem hf
    rw [hshows.fields] at hline
    obtain ⟨x, hx, hsame⟩ := List.mem_map.mp hline
    obtain ⟨hmem, hfield⟩ := Declaration.mem_of_mem_kept hx
    exact ⟨x, hmem, hfield, congrArg Prod.fst hsame⟩
  rw [ofHint_fst hhost, ofHint_fst hhost', hrow, takeClasses_append hfront]
  obtain ⟨hfate, hhides⟩ := hlockstep
  generalize takeClasses w host ⟨[], []⟩ (w.classes.lineage r) = x at hfate hhides ⊢
  generalize takeClasses w host' front (w.classes.lineage r) = y at hfate hhides ⊢
  obtain ⟨answer, p⟩ := x
  obtain ⟨answer', q⟩ := y
  cases hfate with
  | value => exact .inl ⟨_, _, rfl, rfl, front, hnames, hhides⟩
  | unresolvable host host' reason =>
    exact .inr ⟨_, _, rfl, rfl, fun _ => .unresolvable host host' reason⟩
  | failure e => exact .inr ⟨e, e, rfl, rfl, fun _ => .failure e⟩

end Inventory

namespace Conformance

open Inventory

variable {schema : Details} {fields others : List HostField} {own : List Declaration}

/-- The schema declares a field of one of some declarations, in whatever case. -/
def DeclaresOne (schema : Details) (own : List Declaration) : Prop :=
  ∃ x ∈ own, x.isField ∧ ∃ name ∈ x.name.text?, Declares schema (Text.upper name)

instance (schema : Details) (own : List Declaration) : Decidable (DeclaresOne schema own) :=
  inferInstanceAs (Decidable (∃ x ∈ own, x.isField ∧ ∃ name ∈ x.name.text?, Declares schema (Text.upper name)))

/-- Fields of names that the schema does not declare hide nothing that it declares. -/
theorem agreeOn_of_extended (h : Extended own fields others) (hown : ¬ DeclaresOne schema own) {name : String}
    (hdeclared : Declares schema name) : AgreeOn fields others name := by
  obtain ⟨front, hnames, rfl⟩ := h
  have hother : ∀ f ∈ front.fields, f.folded ≠ name := by
    rintro f hf rfl
    obtain ⟨x, hx, hfield, hname⟩ := hnames f hf
    exact hown ⟨x, hx, hfield, f.name.text, by rw [hname]; rfl, hdeclared⟩
  refine agreeOn_of_findField ?_
  have hfront : front.fields.find? (fun f => f.folded == name) = none :=
    List.find?_eq_none.mpr fun f hf => by simpa using hother f hf
  rw [findField, findField, List.find?_append, hfront, Option.none_or, List.find?_filter]
  refine congrArg (List.find? · fields) (funext fun f => ?_)
  by_cases hname : f.folded = name
  · have hhas : front.has (.text f.name.text) = false := by
      refine List.any_eq_false.mpr fun g hg hsame => hother g hg ?_
      have htext : g.name.text = f.name.text := by simpa using hsame
      rw [← hname, HostField.folded, HostField.folded, htext]
    simp [hname, hhas]
  · simp [hname]

/-- A matching schema reads of the fields only what has a name that it declares. -/
theorem validate_eq_of_agreeOn_declared (hmode : schema.mode = .matching) (failFast : Bool)
    (h : ∀ name, Declares schema name → AgreeOn fields others name) :
    validate schema fields failFast = validate schema others failFast := by
  have hmissing : difference schema.attributes.names (fields.map HostField.folded) =
      difference schema.attributes.names (others.map HostField.folded) := by
    refine congrArg Text.nameSet (List.filter_congr fun name hname => ?_)
    have hsame := (h name (mem_names.mp hname)).hasField_iff
    rw [← mem_map_folded, ← mem_map_folded] at hsame
    simp only [List.contains_eq_mem, hsame]
  refine validate_congr ?_ (fun a ha => (h a.folded ⟨a, ha, rfl⟩).checkAttribute_eq) failFast
  simp only [checkNames, hmode, hmissing]

theorem validateHint_fst (schema : Details) (w : Workspace) (h : Hint) (failFast : Bool) :
    (validateHint schema w h failFast).1 =
      (ofHint w h).1.map fun fields => (validate schema fields failFast).1 := by
  unfold validateHint
  split <;> rename_i heq <;> rw [heq] <;> rfl

/-- A street has a name. A bridge is a street with a span. More subclasses of streets have bodies that cannot be
read: the key of an annotation is empty, a number or half of a character, or the module has no name. -/
def streetForms : List ClassForm :=
  let declare (name : String) (bases : List Form) (key : KeyForm) (hint : String)
      (attributes : List (String × Form)) : ClassForm :=
    ⟨name, name, "app", bases, [(key, .hint (.named hint))], attributes, [], false⟩
  [declare "Street" [] "strasse" "str" [],
   declare "Bridge" [.declared "Street"] "span" "float" [],
   declare "Nameless" [.declared "Street"] "" "int" [],
   declare "Numbered" [.declared "Street"] (.value (.value (.int 1))) "int" [],
   declare "Halved" [.declared "Street"] (.text ⟨"", [(0, 0xD800)]⟩) "int" [],
   declare "Adrift" [.declared "Street"] "span" "float" [("__module__", .value .null)]]

/-- The workspace in which they are declared. -/
def streetWorkspace : Workspace := (Workspace.ofForms streetForms).toOption.getD .initial

/-- The class of a name. -/
def streetClass? (name : String) : Option HostClass :=
  (streetWorkspace.declared.find? fun known => known.name == name).bind fun known =>
    streetWorkspace.classes.find? known.ref.id

/-- The verdict on the class by a schema that allows for further fields. -/
def streetVerdict (c : HostClass) : Except Failure Verdict :=
  (validateHint (streetSchema.inMode .matching) streetWorkspace (.cls c.ref none) false).1

theorem streetWorkspace_built : streetWorkspace.Built := (Workspace.built_getD_ofForms streetForms _).1

theorem find?_streetClass {name : String} {c : HostClass} (h : c ∈ streetClass? name) :
    streetWorkspace.classes.find? c.ref.id = some c := by
  obtain ⟨known, -, hfound⟩ := Option.bind_eq_some_iff.mp h
  rw [Universe.id_of_find? hfound]
  exact hfound

/-- A subclass of streets whose annotations evaluate, and of whose fields the schema declares none, does not come
to the same as streets do. -/
def Differs (name : String) : Prop :=
  ∃ c ∈ streetClass? "Street", ∃ d ∈ streetClass? name, d.Extends c ∧
    (∃ hints, (annotationsOf d).bind (hintsOf streetWorkspace d) = .ok hints ∧
      ¬ DeclaresOne (streetSchema.inMode .matching) (declared d hints)) ∧
    ¬ SameFate (streetVerdict c) (streetVerdict d)

theorem differs_of_checked {name : String}
    (h : ∃ c ∈ streetClass? "Street", ∃ d ∈ streetClass? name, d.Extends c ∧
      (∃ hints ∈ ((annotationsOf d).bind (hintsOf streetWorkspace d)).toOption,
        ¬ DeclaresOne (streetSchema.inMode .matching) (declared d hints)) ∧
      (streetVerdict c).toOption.isSome ≠ (streetVerdict d).toOption.isSome) : Differs name := by
  obtain ⟨c, hc, d, hd, hextends, ⟨hints, hhints, hfree⟩, hdiffers⟩ := h
  exact ⟨c, hc, d, hd, hextends, ⟨hints, eq_ok_of_toOption hhints, hfree⟩,
    fun hfate => hdiffers hfate.isSome_eq⟩

end Conformance

end SchemaRegistry
