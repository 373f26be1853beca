import SchemaRegistry.Host.Form
import SchemaRegistry.Proofs.Host.Evaluation

/-!
# Classes of neat hints

A class that is declared with neat hints holds neat hints only, whatever its ancestors say about it
(`Universe.declare_ensures_neat`), and so do the known classes (`Workspace.neat_initial`).
-/

namespace SchemaRegistry

open Hint

/-- What is said about the class has neat hints only. -/
structure ClassSpec.Neat (spec : ClassSpec) : Prop where
  bases : ∀ h ∈ spec.bases, h.Neat
  annotations : spec.annotations.Neat
  body : ∀ entry ∈ spec.body, entry.2.Neat

namespace Universe

variable {u : Universe} {c : HostClass} {given : List Hint} {spec : ClassSpec}

/-! ## Variables -/

theorem ensures_neat_genericParameters (isTable changed : Bool) (bases : List ClassRef) :
    Ensures (fun parameters => ∀ h ∈ parameters, h.Neat) (u.genericParameters isTable changed given bases) := by
  have hlisted : ∀ listed ∈ listedVariables given, ∀ h ∈ listed, h.Neat := by
    intro listed hlisted
    obtain ⟨h, -, hfound⟩ := List.mem_filterMap.mp hlisted
    split at hfound
    · split at hfound
      · cases hfound
        exact neat_of_mem_variablesOfAll _
      · cases hfound
    · cases hfound
  refine .guard (.ite (.ok (List.forall_mem_nil _)) ?_)
  split
  · exact .ok (neat_of_mem_variablesOfAll given)
  case h_2 listed heq =>
    dsimp only
    split
    · exact .ok (hlisted listed (heq ▸ List.mem_cons_self))
    · exact .error _
  · exact .error _

mutual

theorem neat_of_mem_freeIn (hu : u.Neat) : ∀ h : Hint, ∀ v ∈ u.freeIn h, v.Neat
  | .typeVar id name, _, hv => List.mem_singleton.mp hv ▸ neat_typeVar id name
  | .cls c _, v, hv => by
    rw [freeIn] at hv
    split at hv
    · exact hu.modelVariables c v hv
    · cases hv
  | .submodel _ _ args, v, hv | .applied _ _ args, v, hv | .filled _ _ args, v, hv | .formed _ args, v, hv
  | .union _ args, v, hv | .literal args, v, hv | .sequence args, v, hv => neat_of_mem_freeInAll hu args v hv
  | .annotated base metadata, v, hv => by
    rw [freeIn] at hv
    rcases List.mem_append.mp ((sublist_distinct _).subset hv) with hv | hv
    · exact neat_of_mem_freeIn hu base v hv
    · exact neat_of_mem_freeInAll hu metadata v hv
  | .nothing, _, hv | .flag _, _, hv | .whole _, _, hv | .real _, _, hv | .text _, _, hv | .ellipsis, _, hv
  | .tuple _, _, hv | .set _, _, hv | .dict _, _, hv | .category _, _, hv | .member .., _, hv | .named .., _, hv
  | .form _, _, hv | .newType .., _, hv | .initVar .., _, hv | .forward _, _, hv | .function _, _, hv
  | .slice .., _, hv | .other .., _, hv => nomatch hv

theorem neat_of_mem_freeInAll (hu : u.Neat) : ∀ hints : List Hint, ∀ v ∈ u.freeInAll hints, v.Neat
  | [], _, hv => nomatch hv
  | h :: rest, v, hv => by
    rw [freeInAll] at hv
    rcases List.mem_append.mp ((sublist_distinct _).subset hv) with hv | hv
    · exact neat_of_mem_freeIn hu h v hv
    · exact neat_of_mem_freeInAll hu rest v hv

end

theorem neat_of_mem_baseVariables (hu : u.Neat) {row : List HostClass} (hrow : ∀ a ∈ row, a.Neat) :
    ∀ v ∈ u.baseVariables given row, v.Neat := by
  unfold baseVariables
  split
  · exact (List.forall_mem_nil _)
  case h_2 base heq =>
    dsimp only
    split
    · exact neat_of_mem_freeInAll hu _
    · exact (hrow base (List.mem_of_find?_eq_some heq)).modelParameters

/-! ## Entering classes -/

/-- The ancestors of a neat class leave it neat. -/
theorem ensures_neat_afterHooks (changed : Bool) (bases : List ClassRef) (hc : c.Neat) (hooks : List Hint) :
    Ensures HostClass.Neat (u.afterHooks changed given bases c hooks) := by
  induction hooks with
  | nil => exact .ok hc
  | cons hook rest ih =>
    unfold afterHooks
    split
    case h_6 heq =>
      cases heq
      exact .seq ih fun d hd => .seq (ensures_neat_genericParameters _ _ _) fun parameters hparameters =>
        .ok { hd with parameters := hparameters }
    case h_7 heq =>
      cases heq
      exact .seq ih fun d hd => .bind fun _ _ => .ok { hd with }
    all_goals first
      | exact .ok hc
      | exact .error _

theorem ensures_neat_withModelParameters (hu : u.Neat) (bases : List ClassRef) {row : List HostClass}
    (hrow : ∀ a ∈ row, a.Neat) (hc : c.Neat) :
    Ensures HostClass.Neat (u.withModelParameters given bases row c) := by
  unfold withModelParameters
  extract_lets inherited isOwn
  refine .ite (.ok hc) (.ite ?_ (.ite ?_ (.error _)))
  · exact .ok { hc with modelParameters := neat_of_mem_baseVariables hu hrow }
  · exact .ok { hc with modelParameters := hc.parameters }

theorem Neat.cons (hu : u.Neat) (hc : c.Neat) (next : Nat) : Neat ⟨c :: u.classes, next⟩ :=
  List.forall_mem_cons.mpr ⟨hc, hu⟩

/-- A class that is entered is neat, and so are the classes then. -/
theorem enter_ensures_neat (hu : u.Neat) (hnotes : spec.annotations.Neat)
    (hbody : ∀ entry ∈ spec.body, entry.2.Neat) (maker : Maker) (changed : Bool) (bases : List ClassRef)
    (dataType : Option Nat) {enumerated : List (String × Hint)} (henumerated : ∀ entry ∈ enumerated, entry.2.Neat) :
    Ensures (fun entered : HostClass × Universe => entered.1.Neat ∧ entered.2.Neat)
      (u.enter spec maker given changed bases dataType enumerated) := by
  unfold enter
  refine .bind fun best _ => .bind fun hasSlots _ => .bind fun _ _ => .bind fun qualifiedName _ =>
    .bind fun ancestors _ => ?_
  extract_lets found moduleName heritage entered
  have hfound : ∀ a ∈ found, a.Neat := hu.row ancestors
  have hmodule : moduleName.Neat := by
    unfold moduleName
    cases hmember : spec.member? "__module__" with
    | none => exact neat_text _
    | some h => exact neat_of_lookup hbody hmember
  have hparameters : ∀ h ∈ entered.parameters, h.Neat := by
    unfold entered
    dsimp only
    cases hnearest : found.find? fun a => a.ref.id ≠ ClassRef.objectId with
    | none => exact List.forall_mem_nil _
    | some a => exact (hfound a (List.mem_of_find?_eq_some hnearest)).parameters
  have hentered : entered.Neat := {
    moduleName := hmodule
    annotations := hnotes
    members := fun entry hentry => hbody entry (List.mem_filter.mp hentry).1
    parameters := hparameters
    modelParameters := List.forall_mem_nil _
    enumerated := henumerated }
  exact .bind fun _ _ => .seq (ensures_neat_afterHooks changed _ hentered _) fun hooked hhooked =>
    .seq (ensures_neat_withModelParameters hu _ hfound hhooked) fun c hc => .ok ⟨hc, hu.cons hc _⟩

/-! ## Annotations -/

theorem ensures_neat_checkedAnnotations (complaint : AnnotationKey → String)
    {entries : List (AnnotationKey × Annotation)} (hentries : (Annotations.table entries).Neat) :
    Ensures (fun checked => (Annotations.table checked).Neat) (checkedAnnotations complaint entries) := by
  induction entries with
  | nil => exact .ok hentries
  | cons entry rest ih =>
    obtain ⟨⟨hkey, hnote⟩, hrest⟩ := List.forall_mem_cons.mp hentries
    obtain ⟨key, annotation⟩ := entry
    cases annotation with
    | hint h =>
      exact .seq (ensures_neat_check hnote _ _) fun made hmade => .seq (ih hrest) fun checked hchecked =>
        .ok (List.forall_mem_cons.mpr ⟨⟨hkey, hmade⟩, hchecked⟩)
    | failing _ message =>
      exact .seq (.ok (neat_forward message)) fun made hmade => .seq (ih hrest) fun checked hchecked =>
        .ok (List.forall_mem_cons.mpr ⟨⟨hkey, hmade⟩, hchecked⟩)

theorem neat_of_entriesOf {annotations : Annotations} (h : annotations.Neat) :
    (Annotations.table (entriesOf annotations)).Neat := by
  cases annotations with
  | table entries => exact h
  | misused => exact (List.forall_mem_nil _)

/-- Entries that are put in one after the other have what each of them and those before have. -/
theorem forall_mem_foldl {α : Type} {P : α → Prop} {put : List α → α → List α}
    (hput : ∀ known entry, ∀ a ∈ put known entry, a = entry ∨ a ∈ known) {known entries : List α}
    (hknown : ∀ a ∈ known, P a) (hentries : ∀ a ∈ entries, P a) : ∀ a ∈ entries.foldl put known, P a := by
  induction entries generalizing known with
  | nil => exact hknown
  | cons entry rest ih =>
    obtain ⟨hentry, hrest⟩ := List.forall_mem_cons.mp hentries
    refine ih (fun a ha => ?_) hrest
    rcases hput known entry a ha with rfl | ha
    · exact hentry
    · exact hknown a ha

theorem eq_or_mem_of_putAnnotation (known : List (AnnotationKey × Annotation)) (entry : AnnotationKey × Annotation) :
    ∀ a ∈ putAnnotation known entry, a = entry ∨ a ∈ known := by
  intro a ha
  unfold putAnnotation at ha
  split at ha
  · obtain ⟨old, hold, rfl⟩ := List.mem_map.mp ha
    split
    · exact .inl rfl
    · exact .inr hold
  · exact (List.mem_append.mp ha).symm.imp_left List.mem_singleton.mp

theorem eq_or_mem_of_putMember (known : List (String × Hint)) (entry : String × Hint) :
    ∀ a ∈ putMember known entry, a = entry ∨ a ∈ known := by
  intro a ha
  unfold putMember at ha
  split at ha
  · obtain ⟨old, hold, rfl⟩ := List.mem_map.mp ha
    split
    · exact .inl rfl
    · exact .inr hold
  · exact (List.mem_append.mp ha).symm.imp_left List.mem_singleton.mp

/-! ## Declaring -/

theorem declareTable_ensures_neat (hu : u.Neat) (hspec : spec.Neat) (changed : Bool) (bases : List ClassRef) :
    Ensures (fun declared : HostClass × Universe => declared.2.Neat) (u.declareTable spec given changed bases) := by
  unfold declareTable
  refine .bind fun _ _ => .seq (enter_ensures_neat hu hspec.annotations hspec.body _ _ _ _ (List.forall_mem_nil _))
    fun (c, u') ⟨hc, _⟩ => ?_
  dsimp only
  split
  · exact .error _
  · refine .seq (ensures_neat_checkedAnnotations _ (neat_of_entriesOf hspec.annotations)) fun own hown => .ok ?_
    have hinherited : ∀ entry ∈ (u.row (bases.map (·.id))).flatMap fun base => entriesOf base.annotations,
        entry.1.hint.Neat ∧ entry.2.Neat := by
      intro entry hentry
      obtain ⟨base, hbase, hmem⟩ := List.mem_flatMap.mp hentry
      exact neat_of_entriesOf (hu.row _ base hbase).annotations entry hmem
    refine List.forall_mem_cons.mpr ⟨{ hc with annotations := ?_ }, hu⟩
    exact forall_mem_foldl eq_or_mem_of_putAnnotation (List.forall_mem_nil _)
      (List.forall_mem_append.mpr ⟨hinherited, hown⟩)

theorem declareRow_ensures_neat (hu : u.Neat) (hspec : spec.Neat) (bases : List Hint) :
    Ensures (fun declared : HostClass × Universe => declared.2.Neat) (u.declareRow spec bases) := by
  unfold declareRow
  refine .bind fun resolved _ => ?_
  dsimp only
  refine .guard (.bind fun _ _ => .seq (ensures_neat_checkedAnnotations _ (neat_of_entriesOf hspec.annotations))
    fun own hown => .bind fun _ _ => .guard (.bind fun _ _ => .bind fun _ _ => .bind fun _ _ => .guard (.guard ?_)))
  have hbody : ∀ entry ∈ spec.body.filter (·.1 ≠ "__qualname__"), entry.2.Neat :=
    fun entry hentry => hspec.body entry (List.mem_filter.mp hentry).1
  intro declared hdeclared
  exact (enter_ensures_neat hu hown hbody _ _ _ _ (List.forall_mem_nil _) declared hdeclared).2

theorem ensures_neat_membersOf (family : String) {members body : List (String × Hint)}
    (hmembers : ∀ entry ∈ members, entry.2.Neat) (hbody : ∀ entry ∈ body, entry.2.Neat) :
    Ensures (fun found => ∀ entry ∈ found, entry.2.Neat) (Enumeration.membersOf family members body) := by
  induction body generalizing members with
  | nil => exact .ok hmembers
  | cons entry rest ih =>
    obtain ⟨hentry, hrest⟩ := List.forall_mem_cons.mp hbody
    have hmore : ∀ a ∈ members ++ [entry], a.2.Neat :=
      List.forall_mem_append.mpr ⟨hmembers, List.forall_mem_singleton.mpr hentry⟩
    unfold Enumeration.membersOf
    repeat' split
    all_goals first
      | exact .error _
      | exact ih hmembers hrest
      | exact ih hmore hrest

/-- A class that is declared with neat hints leaves the classes neat. -/
theorem declare_ensures_neat (hu : u.Neat) (hspec : spec.Neat) :
    Ensures (fun declared : HostClass × Universe => declared.2.Neat) (u.declare spec) := by
  have henter (maker : Maker) (changed : Bool) (bases : List ClassRef) (dataType : Option Nat)
      {enumerated : List (String × Hint)} (henumerated : ∀ entry ∈ enumerated, entry.2.Neat) :
      Ensures (fun declared : HostClass × Universe => declared.2.Neat)
        (u.enter spec maker spec.bases changed bases dataType enumerated) :=
    fun entered hentered =>
      (enter_ensures_neat hu hspec.annotations hspec.body _ _ _ _ henumerated entered hentered).2
  unfold declare
  dsimp only
  split
  · exact declareRow_ensures_neat hu hspec spec.bases
  · refine .bind fun resolved _ => .bind fun bases _ => .bind fun maker _ => ?_
    split
    · exact declareTable_ensures_neat hu hspec _ _
    · exact .bind fun _ _ => .seq (ensures_neat_membersOf _ (List.forall_mem_nil _) hspec.body)
        fun members hmembers => .bind fun _ _ => henter _ _ _ _ hmembers
    · exact henter _ _ _ _ (List.forall_mem_nil _)

/-! ## Record classes -/

theorem asRecord_ensures_neat (u : Universe) (hc : c.Neat) : Ensures HostClass.Neat (u.asRecord c) := by
  unfold asRecord
  dsimp only
  split
  · exact .error _
  · refine .bind fun own _ => ?_
    split
    · exact .error _
    · refine .bind fun _ _ => .ok { hc with members := ?_ }
      have hmore : ∀ entry ∈ recordMembers.map fun name => (name, Hint.function name), entry.2.Neat := by simp
      exact List.forall_mem_append.mpr
        ⟨List.forall_mem_append.mpr ⟨hc.members, hmore⟩, List.forall_mem_singleton.mpr neat_nothing⟩

theorem Neat.amend (hu : u.Neat) {d : HostClass} (hd : d.Neat) : (u.amend d).Neat := by
  intro made hmade
  obtain ⟨old, hold, rfl⟩ := List.mem_map.mp hmade
  split
  · exact hd
  · exact hu old hold

end Universe

/-! ## Known classes -/

namespace Catalogue

/-- The parameters of known classes are variables. -/
theorem neat_of_mem_parameters : ∀ e ∈ entries, ∀ h ∈ e.parameters, h.Neat := by
  have hchecked : entries.all fun e => e.parameters.all Hint.isVariable := by decide +kernel
  intro e he h hh
  have hvariable := List.all_eq_true.mp (List.all_eq_true.mp hchecked e he) h hh
  cases h with
  | typeVar => exact neat_typeVar _ _
  | _ => cases hvariable

theorem Entry.neat_of_mem_members (e : Entry) : ∀ entry ∈ e.members, entry.2.Neat := by
  have hgiven : ∀ entry ∈ (if e.builds then [("__new__", Hint.function "__new__")] else []), entry.2.Neat := by
    split <;> simp
  simp only [Entry.members, List.forall_mem_append]
  refine ⟨⟨⟨hgiven, by simp⟩, ?_⟩, ?_⟩
  · cases e.arguments <;> simp
  · cases e.hook <;> simp [Universe.hook]

theorem Entry.neat_of_mem_enumerated (e : Entry) : ∀ entry ∈ e.enumerated, entry.2.Neat := by
  intro entry hentry
  unfold Entry.enumerated at hentry
  split at hentry
  · obtain ⟨category, -, rfl⟩ := List.mem_map.mp hentry
    exact neat_category category
  · cases hentry

theorem Known.neat_enter {k : Known} (hk : k.classes.Neat) {e : Entry} (hparameters : ∀ h ∈ e.parameters, h.Neat) :
    (k.enter e).classes.Neat := by
  refine hk.cons ?_ _
  constructor
  case moduleName => exact neat_text _
  case annotations => exact List.forall_mem_nil _
  case members => exact e.neat_of_mem_members
  case parameters => exact hparameters
  case modelParameters => exact List.forall_mem_nil _
  case enumerated => exact e.neat_of_mem_enumerated

theorem neat_known : known.classes.Neat := by
  have hfold (rest : List Entry) (hrest : ∀ e ∈ rest, e ∈ entries) (k : Known) (hk : k.classes.Neat) :
      (rest.foldl Known.enter k).classes.Neat := by
    induction rest generalizing k with
    | nil => exact hk
    | cons e rest ih =>
      obtain ⟨he, hrest⟩ := List.forall_mem_cons.mp hrest
      exact ih hrest _ (Known.neat_enter hk (neat_of_mem_parameters e he))
  exact hfold entries (fun _ => id) _ (List.forall_mem_nil _)

end Catalogue

end SchemaRegistry
