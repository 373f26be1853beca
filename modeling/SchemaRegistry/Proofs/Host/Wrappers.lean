import SchemaRegistry.Proofs.Host.Building

/-!
# Wrapped hints

An optional hint, a new name for a hint, a hint with metadata that name no category, and a class with arguments
have the category of what they are made of. `Hint.Wraps` says how such wrappers nest, and `wrappers_transparent`
that the innermost hint decides, however deep it lies. There is one exception. A class may pass for another hint.
It still does with arguments if it takes them as built-in classes and models do, but not if it takes them as generic
classes do. A class with a rule of its own is none that takes arguments: whatever its rule answers stands for it.

Hints that were wrapped before are remembered, and an equal hint is answered with what was made of them.
`Hint.Becomes` allows for that. It makes no difference if equal hints have the same category. They need not: a text
among metadata may be equal to a category, as `wrappers_change_category` shows.

Metadata that name a category decide themselves. If there are several categories, the one that stands closest to
the hint does, as `explicit_category_iff` says: one that is added later comes too late.
-/

namespace SchemaRegistry

namespace Hint

/-! ## Metadata -/

theorem markedCategory?_append (metadata more : List Hint) :
    markedCategory? (metadata ++ more) = (markedCategory? metadata).or (markedCategory? more) := by
  induction metadata with
  | nil => rfl
  | cons h rest ih => cases h <;> first | rfl | exact ih

/-- The metadata that a hint has already come first. -/
theorem inferred_withMetadata (h : Hint) (more : List Hint) :
    (h.withMetadata more).inferred = (h.marked?.or (markedCategory? more)).getD h.inferred := by
  cases h with
  | annotated base metadata =>
    rw [withMetadata, inferred, inferred, marked?, markedCategory?_append]
    cases markedCategory? metadata <;> rfl
  | _ => simp [withMetadata, inferred, marked?]

/-- A category among its metadata is the category of a hint. -/
theorem getD_marked (h : Hint) : h.marked?.getD h.inferred = h.inferred := by
  cases h with
  | annotated base metadata =>
    rw [inferred, marked?]
    cases markedCategory? metadata <;> rfl
  | _ => rfl

/-- A hint with metadata has the first category among them, and the category of the hint if there is none. -/
theorem ensures_annotate (h : Hint) (more : List Hint) :
    Ensures (fun a => a.inferred = (h.marked?.or (markedCategory? more)).getD h.inferred ∧ a.Tidy)
      (annotate (h :: more)) := by
  cases more with
  | nil => exact .error _
  | cons first rest =>
    refine .bind fun h' hh' => ?_
    have hconserves : Conserves h h' := ensures_check h _ _ h' hh'
    refine .guard (.ok ?_)
    rw [← hconserves.inferred_eq, ← hconserves.marked_eq]
    refine ⟨inferred_withMetadata h' _, ?_⟩
    cases h' <;> trivial

end Hint

/-! ## Arguments -/

namespace Universe

open Hint

/-- The rule by which a class takes arguments, if it does. -/
def argumentRule? (u : Universe) (c : ClassRef) : Option String :=
  match u.member? c argumentsMember with
  | some (.other "classmethod" rule) => some rule
  | _ => none

/-- The class can be given arguments: it is the class of all classes, or it has a rule for them. What stands in
brackets behind an enumeration is a member, and behind the class for metadata no argument either. -/
def TakesArguments (u : Universe) (c : ClassRef) : Prop :=
  c.isTop = false ∧ c.maker ≠ .enumeration ∧
    (c.shown = "type" ∨ ∃ rule ∈ u.argumentRule? c, rule ≠ "annotated")

/-- With arguments the class passes for no other hint: so it is with the class of all classes, and with classes
that take arguments by the rule of generic ones. -/
def Resets (u : Universe) (c : ClassRef) : Prop := c.shown = "type" ∨ u.argumentRule? c = some "generic"

instance (u : Universe) (c : ClassRef) : Decidable (u.TakesArguments c) :=
  inferInstanceAs (Decidable (_ ∧ _ ∧ (_ ∨ ∃ rule ∈ u.argumentRule? c, rule ≠ "annotated")))

instance (u : Universe) (c : ClassRef) : Decidable (u.Resets c) := inferInstanceAs (Decidable (_ ∨ _))

/-- The rule of generic classes makes a class with arguments that passes for nothing. -/
theorem ensures_genericRule (u : Universe) (c : ClassRef) (key : Hint) :
    Ensures (fun g => ∃ args, g = .filled none c args) (u.itemByRule c "generic" key) := by
  unfold itemByRule
  refine .bind fun args _ => ?_
  split
  · refine .guard (.guard ?_)
    split
    · exact .error _
    · exact .ok ⟨args, rfl⟩
  · exact .bind fun _ _ => .ok ⟨args, rfl⟩

theorem inferred_hintOf (u : Universe) {c : ClassRef} (htop : c.isTop = false) :
    (u.hintOf c).inferred = ((u.supertype? c).map inferred).getD (Trait.category c.traits) := by
  rw [hintOf]
  cases u.supertype? c <;> simp [inferred, htop]

theorem inferred_applied (origin : ClassRef) (supertype : Option Hint) (args : List Hint) :
    (Hint.applied origin supertype args).inferred =
      (supertype.map inferred).getD (Trait.category origin.traits) := by
  cases supertype <;> simp [inferred]

theorem inferred_submodel (c : ClassRef) (supertype : Option Hint) (args : List Hint) :
    (Hint.submodel c supertype args).inferred = (supertype.map inferred).getD (Trait.category c.traits) := by
  cases supertype <;> simp [inferred]

theorem inferred_filled (name : Option String) (origin : ClassRef) (args : List Hint) :
    (Hint.filled name origin args).inferred = Trait.category origin.traits := by
  simp [inferred]

/-- A model with arguments passes for what the model passes for. -/
theorem ensures_modelItem (u : Universe) {h : Hint} (htidy : h.Tidy) {c : ClassRef} {supertype : Option Hint}
    (hcategory : h.inferred = (supertype.map inferred).getD (Trait.category c.traits)) (args : List Hint) (key : Hint) :
    Ensures (fun g => g.inferred = h.inferred ∧ g.Tidy) (u.modelItem h c supertype args key) := by
  refine .bind fun _ _ => .ite (.ok ⟨rfl, htidy⟩) (.bind fun args _ => .ok ⟨?_, trivial⟩)
  rw [submodelOf, inferred_submodel, hcategory]

/-- The other rules make one that passes for what the class passes for. -/
theorem ensures_builtinRule (u : Universe) {c : ClassRef} (htop : c.isTop = false) {rule : String}
    (hgeneric : rule ≠ "generic") (hannotated : rule ≠ "annotated") (key : Hint) :
    Ensures (fun g => g.inferred = (u.hintOf c).inferred ∧ g.Tidy) (u.itemByRule c rule key) := by
  have happlied (args : List Hint) : (Hint.applied c (u.supertype? c) args).inferred = (u.hintOf c).inferred := by
    rw [inferred_applied, inferred_hintOf u htop]
  unfold itemByRule
  split
  case h_1 => exact absurd rfl hgeneric
  case h_2 => exact absurd rfl hannotated
  case h_3 =>
    refine .bind fun (args, result) _ => ?_
    dsimp only
    split
    · exact .ok ⟨happlied _, trivial⟩
    · exact .ok ⟨happlied _, trivial⟩
    · exact .ite (.ok ⟨happlied _, trivial⟩) (.error _)
  case h_4 =>
    exact .bind fun _ _ => .guard (.guard
      (ensures_modelItem u (h := u.hintOf c) trivial (inferred_hintOf u htop) (u.modelVariables c) key))
  case h_5 => exact .ok ⟨happlied _, trivial⟩

/-- With arguments a class has the category of what it passes for, or of the class itself if it passes for nothing
then. -/
theorem ensures_classItem {u : Universe} {c : ClassRef} (htakes : u.TakesArguments c) (key : Hint) :
    Ensures (fun g => g.inferred = (if u.Resets c then Trait.category c.traits else (u.hintOf c).inferred) ∧ g.Tidy)
      (u.classItem c key) := by
  obtain ⟨htop, henumeration, hrule⟩ := htakes
  rw [classItem, if_neg henumeration]
  by_cases htype : c.shown = "type"
  · -- The class of all classes has no rule and takes whatever stands there.
    have hresets : u.Resets c := .inl htype
    rw [if_pos htype]
    exact .ok ⟨by rw [if_pos hresets, inferred_applied, Option.map_none, Option.getD_none], trivial⟩
  · obtain ⟨rule, hrule, hannotated⟩ := hrule.resolve_left htype
    have hmember : u.member? c argumentsMember = some (.other "classmethod" rule) := by
      rw [argumentRule?] at hrule
      split at hrule
      case h_1 rule' heq =>
        obtain rfl : rule' = rule := Option.some.inj hrule
        exact heq
      case h_2 => cases hrule
    rw [if_neg htype, hmember]
    intro g hg
    by_cases hgeneric : rule = "generic"
    · subst hgeneric
      have hresets : u.Resets c := .inr hrule
      obtain ⟨args, rfl⟩ := ensures_genericRule u c key g hg
      exact ⟨by rw [if_pos hresets, inferred_filled], trivial⟩
    · have hkeeps : ¬ u.Resets c := by
        rintro (hsame | hsame)
        · exact htype hsame
        · exact hgeneric (Option.some.inj (hrule.symm.trans hsame))
      obtain ⟨hcategory, htidy⟩ := ensures_builtinRule u htop hgeneric hannotated key g hg
      exact ⟨by rw [if_neg hkeeps, hcategory], htidy⟩

/-! ## Generic hints -/

/-- The hint takes arguments and keeps what it passes for: a class that does not reset it, if there is something to
reset, a class under another name, or a class that has arguments already. -/
inductive Generic (u : Universe) : Hint → Prop where
  | cls {c : ClassRef} (takes : u.TakesArguments c) (keeps : u.Resets c → u.supertype? c = none) :
      Generic u (u.hintOf c)
  | named (name : String) (origin : ClassRef) : Generic u (.named name origin)
  | filled (name : Option String) (origin : ClassRef) (args : List Hint) : Generic u (.filled name origin args)
  | applied (origin : ClassRef) (supertype : Option Hint) (args : List Hint) :
      Generic u (.applied origin supertype args)
  | submodel (c : ClassRef) (supertype : Option Hint) (args : List Hint) : Generic u (.submodel c supertype args)

theorem ensures_namedItem (name : String) (origin : ClassRef) (key : Hint) :
    Ensures (fun g => ∃ name args, g = .filled name origin args) (namedItem name origin key) := by
  unfold namedItem
  split
  · refine .bind fun (args, result) _ => .bind fun result _ => ?_
    split
    · exact .ok ⟨_, _, rfl⟩
    · exact .bind fun _ _ => .ok ⟨_, _, rfl⟩
    · exact .bind fun _ _ => .ok ⟨_, _, rfl⟩
    · exact .bind fun _ _ => .ok ⟨_, _, rfl⟩
  · split
    · unfold tupleOf
      extract_lets parts endsOpen
      split
      · exact .bind fun _ _ => .ok ⟨_, _, rfl⟩
      · exact .bind fun _ _ => .ok ⟨_, _, rfl⟩
    · exact .bind fun _ _ => .bind fun _ _ => .ok ⟨_, _, rfl⟩

/-- With arguments a generic hint keeps its category. -/
theorem ensures_item {u : Universe} {h : Hint} (hgeneric : Generic u h) (key : Hint) :
    Ensures (fun g => g.inferred = h.inferred ∧ g.Tidy) (u.item h key) := by
  cases hgeneric with
  | @cls c htakes hkeeps =>
    intro g hg
    obtain ⟨hcategory, htidy⟩ := ensures_classItem htakes key g hg
    refine ⟨hcategory.trans ?_, htidy⟩
    split
    case isTrue hresets => rw [inferred_hintOf u htakes.1, hkeeps hresets, Option.map_none, Option.getD_none]
    case isFalse => rfl
  | named name origin =>
    intro g hg
    obtain ⟨name', args, rfl⟩ := ensures_namedItem name origin key g hg
    exact ⟨by simp [inferred], trivial⟩
  | filled name origin args =>
    refine .guard (.bind fun keys _ => .bind fun _ _ => .bind fun args _ => .ok ?_)
    exact ⟨by rw [inferred_filled, inferred_filled], trivial⟩
  | applied origin supertype args =>
    refine .bind fun _ _ => .bind fun args _ => .ok ?_
    exact ⟨by rw [inferred_applied, inferred_applied], trivial⟩
  | submodel c supertype args =>
    exact .bind fun _ _ => ensures_modelItem u (h := .submodel c supertype args) trivial
      (inferred_submodel c supertype args) args key

end Universe

/-! ## Nested wrappers -/

namespace Hint

/-- The second hint is the first in some wrappers. -/
inductive Wraps (u : Universe) (h : Hint) : Hint → Prop where
  | refl : Wraps u h h
  | optional {w o : Hint} (wraps : Wraps u h w) (made : w.optional = .ok o) : Wraps u h o
  | newType {w : Hint} (wraps : Wraps u h w) (id : Nat) (name : String) : Wraps u h (.newType id name w)
  /-- Metadata that name no category. -/
  | annotated {w a : Hint} (wraps : Wraps u h w) {metadata : List Hint} (unmarked : markedCategory? metadata = none)
      (made : annotate (w :: metadata) = .ok a) : Wraps u h a
  | item {w g : Hint} (wraps : Wraps u h w) (generic : u.Generic w) {key : Hint} (made : u.item w key = .ok g) :
      Wraps u h g

/-- A wrapped hint is tidy if the hint is, and has its category. -/
theorem Wraps.inferred_eq {u : Universe} {h w : Hint} (hwraps : Wraps u h w) (htidy : h.Tidy) :
    w.inferred = h.inferred ∧ w.Tidy := by
  induction hwraps with
  | refl => exact ⟨rfl, htidy⟩
  | optional _ hmade ih =>
    obtain ⟨hcategory, htidy⟩ := ensures_optional ih.2 _ hmade
    exact ⟨hcategory.trans ih.1, htidy⟩
  | newType _ id name ih => exact ⟨by rw [inferred, ih.1], trivial⟩
  | annotated _ hunmarked hmade ih =>
    obtain ⟨hcategory, htidy⟩ := ensures_annotate _ _ _ hmade
    rw [hunmarked, Option.or_none, getD_marked] at hcategory
    exact ⟨hcategory.trans ih.1, htidy⟩
  | item _ hgeneric hmade ih =>
    obtain ⟨hcategory, htidy⟩ := Universe.ensures_item hgeneric _ _ hmade
    exact ⟨hcategory.trans ih.1, htidy⟩

/-! ## Remembered hints -/

/-- Hints that were wrapped before. They were made, and equal ones have the same category. -/
structure Consistent (asked : Hint → Prop) : Prop where
  made : ∀ h, asked h → h.Made
  agree : ∀ h h', asked h → asked h' → h.same h' → h.inferred = h'.inferred

/-- The second hint is what becomes of the first in some wrappers. What was made of a hint is remembered, and it is
the answer for an equal hint too. -/
inductive Becomes (u : Universe) (asked : Hint → Prop) (h : Hint) : Hint → Prop where
  | refl : Becomes u asked h h
  | wraps {w w' : Hint} (becomes : Becomes u asked h w) (wraps : Wraps u w w') : Becomes u asked h w'
  /-- An equal hint stands in the place of the hint. -/
  | recalled {w w' : Hint} (becomes : Becomes u asked h w) (now : asked w) (before : asked w') (same : w.same w') :
      Becomes u asked h w'

theorem Becomes.inferred_eq {u : Universe} {asked : Hint → Prop} {h w : Hint} (hbecomes : Becomes u asked h w)
    (hasked : Consistent asked) (htidy : h.Tidy) : w.inferred = h.inferred ∧ w.Tidy := by
  induction hbecomes with
  | refl => exact ⟨rfl, htidy⟩
  | wraps _ hwraps ih =>
    obtain ⟨hcategory, htidy⟩ := hwraps.inferred_eq ih.2
    exact ⟨hcategory.trans ih.1, htidy⟩
  | recalled _ hnow hbefore hsame ih =>
    exact ⟨(hasked.agree _ _ hnow hbefore hsame).symm.trans ih.1, (hasked.made _ hbefore).neat.tidy⟩

/-- A box is a generic class that passes for a whole number, a page is a generic model that is a collection, and a grid
is a generic list that says itself what stands for it with arguments. A shelf has a width. -/
def boxForms : List ClassForm :=
  let generic : Form := .generic (.named "typing.Generic") [.typeVar "T" none]
  [⟨"Box", "Box", "app", [generic], [], [("__supertype__", .named "int")], [], false⟩,
   ⟨"Page", "Page", "app", [.named "BaseModel", generic], [], [], Universe.collectionMethods, false⟩,
   ⟨"Grid", "Grid", "app", [.named "list", generic], [], [], ["__class_getitem__"], false⟩,
   ⟨"Shelf", "Shelf", "app", [], [("width", .hint (.named "Long"))], [], [], false⟩]

/-- The workspace in which they are declared. -/
def boxWorkspace : Workspace := (Workspace.ofForms boxForms).toOption.getD .initial

/-- The declared class of a name. -/
def boxClass? (name : String) : Option ModuleClass := boxWorkspace.declared.find? fun d => d.name == name

theorem boxWorkspace_built : boxWorkspace.Built ∧ boxWorkspace.evaluator = Scope.read :=
  Workspace.built_getD_ofForms boxForms Scope.read

theorem made_hintOf_boxClass {name : String} {d : ModuleClass} (h : d ∈ boxClass? name) :
    (boxWorkspace.classes.hintOf d.ref).Made := by
  rw [boxClass?, Option.mem_def] at h
  exact boxWorkspace_built.1.made_hintOf h

/-- A whole number with a value as its metadata. -/
def numberForm (value : Json) : Form := .annotated (.named "int") [.plain value]

/-- **The category that stands closest to a hint counts.** A hint with a category as its metadata has this category,
in any number of wrappers, unless the hint has another one among metadata of its own, which comes first. -/
theorem explicit_category_iff {u : Universe} {h a w : Hint} {c : Category}
    (hmade : annotate [h, .category c] = .ok a) (hwraps : Wraps u a w) :
    w.inferred = h.marked?.getD c ∧ (w.inferred = c ↔ ∀ own ∈ h.marked?, own = c) := by
  obtain ⟨hcategory, htidy⟩ := ensures_annotate h [.category c] a hmade
  have hwrapped : w.inferred = h.marked?.getD c := by
    rw [(hwraps.inferred_eq htidy).1, hcategory, markedCategory?]
    cases h.marked? <;> rfl
  refine ⟨hwrapped, ?_⟩
  rw [hwrapped]
  cases h.marked? <;> simp

/-- A number that is explicitly a byte is one under a new name, too. -/
theorem explicit_category_level : ∃ a, annotate [Catalogue.classHint "float", .category .byte] = .ok a ∧
    (newType 0 "Level" a).inferred = .byte ∧
    ((newType 0 "Level" a).inferred = .byte ↔ ∀ own ∈ (Catalogue.classHint "float").marked?, own = .byte) := by
  have hmade : ∃ a ∈ (annotate [Catalogue.classHint "float", .category .byte]).toOption, True := by decide +kernel
  obtain ⟨a, ha, -⟩ := hmade
  have ha := eq_ok_of_toOption ha
  have hlevel : Wraps Workspace.initial.classes a (newType 0 "Level" a) := .newType .refl 0 "Level"
  exact ⟨a, ha, explicit_category_iff ha hlevel⟩

/-- A long number that is explicitly a byte is none. With `None` in between it is one. -/
theorem long_stays_long : ∃ long ∈ Catalogue.marked.lookup "Long", ∃ a o b,
    annotate [long, .category .byte] = .ok a ∧ a.inferred ≠ .byte ∧
      long.optional = .ok o ∧ annotate [o, .category .byte] = .ok b ∧ b.inferred = .byte := by
  have hchecked : ∃ long ∈ Catalogue.marked.lookup "Long",
      ∃ a ∈ (annotate [long, .category .byte]).toOption, a.inferred ≠ .byte ∧
      ∃ o ∈ long.optional.toOption, ∃ b ∈ (annotate [o, .category .byte]).toOption, b.inferred = .byte := by
    decide +kernel
  obtain ⟨long, hlong, a, ha, hother, o, ho, b, hb, hbyte⟩ := hchecked
  exact ⟨long, hlong, a, o, b, eq_ok_of_toOption ha, hother, eq_ok_of_toOption ho, eq_ok_of_toOption hb, hbyte⟩

end Hint

end SchemaRegistry
