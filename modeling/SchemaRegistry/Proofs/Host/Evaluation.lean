import SchemaRegistry.Host.Workspace
import SchemaRegistry.Proofs.Host.Neatness

/-!
# Hints that evaluation makes

Where the classes hold neat hints only and texts come to neat hints, every annotation evaluates to a neat hint
(`ensures_neat_evaluate`). Texts do with `Scope.read`, which is shown for each function that it goes through, one lemma
for each: the items and members of values, calls, operators, and then expressions.
-/

namespace SchemaRegistry

open Hint

/-! ## Classes -/

/-- The hint of an annotation is neat. -/
def Annotation.Neat : Annotation → Prop
  | hint h => h.Neat
  | failing .. => True

/-- The annotations and their keys are neat. -/
def Annotations.Neat : Annotations → Prop
  | table entries => ∀ entry ∈ entries, entry.1.hint.Neat ∧ entry.2.Neat
  | misused h => h.Neat

/-- The class holds neat hints only. -/
structure HostClass.Neat (c : HostClass) : Prop where
  moduleName : c.moduleName.Neat
  annotations : c.annotations.Neat
  members : ∀ entry ∈ c.members, entry.2.Neat
  parameters : ∀ h ∈ c.parameters, h.Neat
  modelParameters : ∀ h ∈ c.modelParameters, h.Neat
  enumerated : ∀ entry ∈ c.enumerated, entry.2.Neat

/-- The value of a name among named values that are neat. -/
theorem neat_of_lookup {entries : List (String × Hint)} (h : ∀ entry ∈ entries, entry.2.Neat) {name : String}
    {value : Hint} (hfound : entries.lookup name = some value) : value.Neat := by
  obtain ⟨front, back, rfl, -⟩ := List.lookup_eq_some_iff.mp hfound
  exact h (name, value) (by simp)

namespace Universe

/-- All classes hold neat hints only. -/
def Neat (u : Universe) : Prop := ∀ c ∈ u.classes, c.Neat

variable {u : Universe} {c : ClassRef} {h key : Hint} {args : List Hint}

theorem Neat.find? (hu : u.Neat) {id : Nat} {found : HostClass} (hfound : u.find? id = some found) : found.Neat :=
  hu found (List.mem_of_find?_eq_some hfound)

theorem Neat.row (hu : u.Neat) (ids : List Nat) : ∀ a ∈ u.row ids, a.Neat := by
  intro a ha
  obtain ⟨id, -, hfound⟩ := List.mem_filterMap.mp ha
  exact hu.find? hfound

theorem Neat.lineage (hu : u.Neat) (c : ClassRef) : ∀ a ∈ u.lineage c, a.Neat := by
  intro a ha
  unfold Universe.lineage at ha
  split at ha
  · exact hu.row _ a ha
  · cases ha

theorem neat_of_inherited {row : List HostClass} (hrow : ∀ a ∈ row, a.Neat) {name : String}
    (hfound : inherited? name row = some h) : h.Neat := by
  obtain ⟨a, ha, hmember⟩ := List.exists_of_findSome?_eq_some hfound
  exact neat_of_lookup (hrow a ha).members hmember

theorem Neat.supertype (hu : u.Neat) (c : ClassRef) : ∀ h ∈ u.supertype? c, h.Neat := by
  intro h hh
  rw [supertype?, supertypeIn?] at hh
  split at hh
  · cases hh
  · cases hh
  case h_3 found hfound =>
    cases hh
    exact neat_of_inherited (hu.lineage c) hfound

theorem Neat.hintOf (hu : u.Neat) (c : ClassRef) : (u.hintOf c).Neat := neat_cls.mpr (hu.supertype c)

theorem Neat.hintById (hu : u.Neat) (id : Nat) : (u.hintById id).Neat := by
  unfold Universe.hintById
  split
  · exact hu.hintOf _
  · exact neat_nothing

theorem Neat.enumerated (hu : u.Neat) (c : ClassRef) : ∀ entry ∈ u.enumerated c, entry.2.Neat := by
  intro entry hentry
  unfold Universe.enumerated at hentry
  cases hfound : u.find? c.id with
  | none =>
    rw [hfound] at hentry
    cases hentry
  | some found =>
    rw [hfound] at hentry
    exact (hu.find? hfound).enumerated entry hentry

theorem neat_memberOf (hh : h.Neat) (c : ClassRef) (name : String) : (memberOf c name h).Neat := by
  cases h with
  | category => exact neat_category _
  | _ => exact neat_member.mpr hh

theorem Neat.modelVariables (hu : u.Neat) (c : ClassRef) : ∀ v ∈ u.modelVariables c, v.Neat := by
  intro v hv
  unfold Universe.modelVariables at hv
  cases hfound : u.find? c.id with
  | none =>
    rw [hfound] at hv
    cases hv
  | some found =>
    rw [hfound] at hv
    exact (hu.find? hfound).modelParameters v hv

theorem neat_of_mem_bodyNames (u : Universe) {c : HostClass} (hc : c.Neat) :
    ∀ entry ∈ u.bodyNames c, entry.2.Neat := by
  have hgiven (given : Prop) [Decidable given] (name typeName : String) :
      ∀ entry ∈ (if given then [(name, ofType typeName)] else []), entry.2.Neat := by
    split <;> simp
  unfold bodyNames
  extract_lets ancestors bare annotated
  simp only [List.forall_mem_append]
  exact ⟨⟨⟨by simp [hc.moduleName], hgiven _ _ _⟩, hgiven _ _ _⟩, hgiven _ _ _⟩

/-! ## Items -/

theorem ensures_neat_baseArguments (c : ClassRef) (hargs : ∀ h ∈ args, h.Neat) :
    Ensures Hint.Neat (baseArguments c args) :=
  .guard (.guard (.guard (.ok (neat_filled.mpr hargs))))

theorem neat_submodelOf (c : ClassRef) {supertype : Option Hint} (hsupertype : ∀ h ∈ supertype, h.Neat)
    (hargs : ∀ h ∈ args, h.Neat) : (u.submodelOf c supertype args).Neat :=
  neat_submodel.mpr ⟨hsupertype, hargs⟩

mutual

theorem ensures_neat_refill (u : Universe) {given : List (Nat × Hint)} (hgiven : NeatGiven given) :
    ∀ h : Hint, h.Neat → Ensures Hint.Neat (u.refill given h)
  | .submodel c supertype args, hh => by
    obtain ⟨hsupertype, hargs⟩ := neat_submodel.mp hh
    rw [refill]
    exact .seq (ensures_neat_refillAll u hgiven args hargs) fun made hmade =>
      .ok (neat_submodelOf _ hsupertype hmade)
  | .sequence items, hh => by
    rw [refill]
    exact .seq (ensures_neat_refillAll u hgiven items (neat_sequence.mp hh)) fun made hmade =>
      .ok (neat_sequence.mpr hmade)
  | .typeVar id name, hh => by
    rw [refill]
    refine .ok ?_
    cases hfound : given.lookup id with
    | none => exact hh
    | some found => exact hgiven.lookup hfound
  | .nothing, hh | .flag _, hh | .whole _, hh | .real _, hh | .text _, hh | .ellipsis, hh | .tuple _, hh
  | .set _, hh | .dict _, hh | .category _, hh | .member .., hh | .cls .., hh | .applied .., hh | .named .., hh
  | .filled .., hh | .form _, hh | .formed .., hh | .union .., hh | .literal _, hh | .newType .., hh
  | .annotated .., hh | .initVar .., hh | .forward _, hh | .function _, hh | .slice .., hh | .other .., hh =>
    ensures_neat_substitute hgiven _ hh

theorem ensures_neat_refillAll (u : Universe) {given : List (Nat × Hint)} (hgiven : NeatGiven given) :
    ∀ hints : List Hint, (∀ h ∈ hints, h.Neat) → Ensures (fun made => ∀ h ∈ made, h.Neat) (u.refillAll given hints)
  | [], hhints => .ok hhints
  | h :: rest, hhints => by
    obtain ⟨hh, hrest⟩ := List.forall_mem_cons.mp hhints
    rw [refillAll]
    exact .seq (ensures_neat_refill u hgiven h hh) fun made hmade =>
      .seq (ensures_neat_refillAll u hgiven rest hrest) fun others hothers =>
        .ok (List.forall_mem_cons.mpr ⟨hmade, hothers⟩)

end

theorem ensures_neat_modelItem (hh : h.Neat) {supertype : Option Hint} (hsupertype : ∀ h ∈ supertype, h.Neat)
    (hargs : ∀ h ∈ args, h.Neat) (hkey : key.Neat) : Ensures Hint.Neat (u.modelItem h c supertype args key) :=
  .bind fun _ _ => .ite (.ok hh)
    (.seq (ensures_neat_refillAll u (neatGiven_zip _ (neat_of_mem_keyParts hkey)) args hargs) fun _ hmade =>
      .ok (neat_submodelOf _ hsupertype hmade))

theorem ensures_neat_itemByRule (hu : u.Neat) (c : ClassRef) (rule : String) (hkey : key.Neat) :
    Ensures Hint.Neat (u.itemByRule c rule key) := by
  have happlied {args : List Hint} (hargs : ∀ h ∈ args, h.Neat) : (applied c (u.supertype? c) args).Neat :=
    neat_applied.mpr ⟨hu.supertype c, hargs⟩
  unfold itemByRule
  split
  · refine .seq (ensures_neat_convertAll (neat_of_mem_keyParts hkey)) fun args hargs => ?_
    exact .ite (ensures_neat_baseArguments c hargs) (.bind fun _ _ => .ok (neat_filled.mpr hargs))
  · exact ensures_neat_annotate (neat_of_mem_keyParts hkey)
  · refine .seq (ensures_neat_functionParts hkey) fun (args, result) ⟨hargs, hresult⟩ => ?_
    dsimp only at hargs hresult ⊢
    split
    · exact .ok (happlied (by simpa [or_imp, forall_and, hresult] using hargs))
    · exact .ok (happlied (by simpa [or_imp, forall_and, hresult] using hargs))
    · exact .ite (.ok (happlied (by simp [hargs, hresult]))) (.error _)
  · exact .bind fun _ _ => .guard (.guard
      (ensures_neat_modelItem (hu.hintOf c) (hu.supertype c) (hu.modelVariables c) hkey))
  · exact .ok (happlied (neat_of_mem_keyParts hkey))

theorem ensures_neat_enumeratedItem (hu : u.Neat) (c : ClassRef) (key : Hint) :
    Ensures Hint.Neat (u.enumeratedItem c key) := by
  unfold enumeratedItem
  split
  · exact .error _
  · split
    case h_1 name value hfound =>
      exact .ok (neat_memberOf (hu.enumerated c _ (List.mem_of_find?_eq_some hfound)) c name)
    case h_2 => exact .error _

theorem ensures_neat_classItem (hu : u.Neat) (c : ClassRef) (hkey : key.Neat) :
    Ensures Hint.Neat (u.classItem c key) := by
  refine .ite (ensures_neat_enumeratedItem hu c key) (.ite ?_ ?_)
  · exact .ok (neat_applied.mpr ⟨(fun _ h => nomatch h), neat_of_mem_keyParts hkey⟩)
  · split
    · exact ensures_neat_itemByRule hu c _ hkey
    · exact .ok neat_nothing
    · exact .ok (neat_other _ _)
    all_goals exact .error _

theorem ensures_neat_item (hu : u.Neat) (hh : h.Neat) (hkey : key.Neat) : Ensures Hint.Neat (u.item h key) := by
  have hparts := neat_of_mem_keyParts hkey
  have hfilled : Ensures Hint.Neat (key.keyParts.mapM convert >>= h.withArguments) :=
    .seq (ensures_neat_convertAll hparts) fun args hargs => ensures_neat_withArguments hh hargs
  unfold item
  split
  · exact ensures_neat_formItem _ hkey
  · exact ensures_neat_namedItem _ _ hkey
  · exact ensures_neat_classItem hu _ hkey
  · obtain ⟨hsupertype, hargs⟩ := neat_submodel.mp hh
    exact .bind fun _ _ => ensures_neat_modelItem hh hsupertype hargs hkey
  all_goals first
    | exact .guard hfilled
    | exact ensures_neat_withArguments hh hparts
    | exact ensures_neat_valueItem hh key

/-! ## Members -/

theorem neat_classOf (h : Hint) : (classOf h).Neat := by
  unfold classOf
  split
  · exact neat_cls_none _
  · split
    · exact neat_cls_none _
    · exact neat_ofType _

theorem neat_annotationTable {c : HostClass} (hc : c.Neat) : (annotationTable c).Neat := by
  have hnotes := hc.annotations
  unfold annotationTable
  split
  case h_1 h heq =>
    rw [heq] at hnotes
    exact hnotes
  case h_2 entries heq =>
    rw [heq] at hnotes
    refine neat_dict.mpr fun made hmade => ?_
    obtain ⟨⟨key, annotation⟩, hentry, rfl⟩ := List.mem_map.mp hmade
    obtain ⟨hkey, hnote⟩ := hnotes _ hentry
    cases annotation with
    | hint h => exact neat_tuple.mpr (List.forall_mem_cons.mpr ⟨hkey, List.forall_mem_singleton.mpr hnote⟩)
    | failing _ message =>
      exact neat_tuple.mpr (List.forall_mem_cons.mpr ⟨hkey, List.forall_mem_singleton.mpr (neat_text message)⟩)

theorem neat_of_classFact (hu : u.Neat) {c : HostClass} (hc : c.Neat) {name : String}
    (hfound : u.classFact? c name = some h) : h.Neat := by
  have hrow (ids : List Nat) : (Hint.tuple (ids.map u.hintById)).Neat := by
    refine neat_tuple.mpr fun made hmade => ?_
    obtain ⟨id, -, rfl⟩ := List.mem_map.mp hmade
    exact hu.hintById id
  unfold classFact? at hfound
  split at hfound
  case h_6 =>
    obtain ⟨id, -, rfl⟩ := Option.map_eq_some_iff.mp hfound
    exact hu.hintById id
  case h_7 =>
    cases hfound
    cases hmember : inherited? "__module__" (u.row c.lineage) with
    | none => exact hc.moduleName
    | some found => exact neat_of_inherited (hu.row _) hmember
  case h_9 =>
    split at hfound
    · cases hfound
    · cases hfound
      exact neat_annotationTable hc
  case h_10 => cases hfound
  all_goals
    cases hfound
    first
      | exact neat_text _
      | exact neat_ofType _
      | exact neat_classOf _
      | exact hrow _

theorem ensures_neat_classMember (hu : u.Neat) (c : ClassRef) (name : String) :
    Ensures Hint.Neat (u.classMember c name) := by
  unfold classMember
  split
  case h_1 => exact .error _
  case h_2 found hfind =>
    extract_lets own facts
    split
    case h_1 h hfound =>
      refine .ok ?_
      cases hfact : u.classFact? found name with
      | some fact =>
        simp only [facts, hfact, Option.orElse_some, Option.some.injEq] at hfound
        exact hfound ▸ neat_of_classFact hu (hu.find? hfind) hfact
      | none =>
        simp only [facts, hfact, Option.orElse_none] at hfound
        cases hmember : (u.enumerated c).lookup name with
        | some value =>
          simp only [hmember, Option.map_some, Option.orElse_some, Option.some.injEq] at hfound
          exact hfound ▸ neat_memberOf (neat_of_lookup (hu.enumerated c) hmember) c name
        | none =>
          simp only [hmember, Option.map_none, Option.orElse_none] at hfound
          exact neat_of_inherited (hu.row _) hfound
    case h_2 => exact .ite (.ok (neat_ofType _)) (.error _)

mutual

theorem neat_of_mem_variablesOf : ∀ h : Hint, ∀ v ∈ variablesOf h, v.Neat
  | .typeVar id name, _, hv => List.mem_singleton.mp hv ▸ neat_typeVar id name
  | .applied _ _ args, v, hv | .filled _ _ args, v, hv | .formed _ args, v, hv | .union _ args, v, hv
  | .literal args, v, hv => neat_of_mem_variablesOfAll args v hv
  | .annotated base _, v, hv => neat_of_mem_variablesOf base v hv
  | .nothing, _, hv | .flag _, _, hv | .whole _, _, hv | .real _, _, hv | .text _, _, hv | .ellipsis, _, hv
  | .sequence _, _, hv | .tuple _, _, hv | .set _, _, hv | .dict _, _, hv | .category _, _, hv | .member .., _, hv
  | .cls .., _, hv | .submodel .., _, hv | .named .., _, hv | .form _, _, hv | .newType .., _, hv
  | .initVar .., _, hv | .forward _, _, hv | .function _, _, hv | .slice .., _, hv | .other .., _, hv => nomatch hv

theorem neat_of_mem_variablesOfAll : ∀ hints : List Hint, ∀ v ∈ variablesOfAll hints, v.Neat
  | [], _, hv => nomatch hv
  | h :: rest, v, hv => by
    rw [variablesOfAll] at hv
    rcases List.mem_append.mp ((sublist_distinct _).subset hv) with hv | hv
    · exact neat_of_mem_variablesOf h v hv
    · exact neat_of_mem_variablesOfAll rest v hv

end

theorem neat_of_mem_knownParts (hu : u.Neat) (hh : h.Neat) : ∀ entry ∈ u.knownParts h, entry.2.Neat := by
  have hrow (c : ClassRef) : ∀ made ∈ (u.lineage c).map fun a => u.hintOf a.ref, made.Neat := by
    intro made hmade
    obtain ⟨a, -, rfl⟩ := List.mem_map.mp hmade
    exact hu.hintOf a.ref
  have horigin (c : ClassRef) : (u.hintOf c).Neat := hu.hintOf c
  have hbase (id : Nat) : (u.hintById id).Neat := hu.hintById id
  unfold knownParts
  split
  case h_3 => simpa [hbase, or_imp, forall_and, hh] using hrow _
  all_goals simp_all

theorem neat_of_hintFact (hu : u.Neat) (hh : h.Neat) {name : String} (hfound : u.hintFact? h name = some key) :
    key.Neat := by
  unfold hintFact? at hfound
  cases hpart : (u.knownParts h).lookup name with
  | some part =>
    rw [hpart, Option.orElse_some, Option.some.injEq] at hfound
    exact hfound ▸ neat_of_lookup (neat_of_mem_knownParts hu hh) hpart
  | none =>
    rw [hpart, Option.orElse_none] at hfound
    split at hfound
    · -- How a hint is called is a text.
      split at hfound
      all_goals cases hfound
      all_goals exact neat_text _
    · split at hfound
      · split at hfound
        case h_7 => cases hfound
        all_goals
          cases hfound
          exact neat_tuple.mpr (neat_of_mem_variablesOf _)
      · cases hfound

end Universe

/-! ## Known names -/

/-- Where the first of two places has nothing, the second is looked up. -/
theorem neat_of_orElse {x : Option Hint} {y : Unit → Option Hint} (hx : ∀ h ∈ x, h.Neat) (hy : ∀ h ∈ y (), h.Neat) :
    ∀ h ∈ x.orElse y, h.Neat := by
  cases x with
  | none => exact hy
  | some _ => exact hx

namespace Catalogue

/-- A class, if there is one, is neat as a hint. -/
theorem neat_of_map_cls (found : Option ClassRef) : ∀ h ∈ found.map fun c => Hint.cls c none, h.Neat := by
  intro h hh
  obtain ⟨c, -, rfl⟩ := Option.map_eq_some_iff.mp hh
  exact neat_cls_none c

theorem neat_classHint (name : String) : (classHint name).Neat := by
  unfold classHint
  split
  · exact neat_cls_none _
  · exact neat_nothing

theorem neat_of_mem_marked : ∀ entry ∈ marked, entry.2.Neat := by
  simp [marked, neat_classHint]

theorem neat_of_marked (name : String) : ∀ h ∈ marked.lookup name, h.Neat :=
  fun _ hh => neat_of_lookup neat_of_mem_marked hh

theorem neat_of_ofModule (name : String) : ∀ h ∈ ofModule? name, h.Neat := by
  refine neat_of_orElse (fun h hh => ?_) (neat_of_orElse (fun h hh => ?_) fun h hh => ?_)
  · obtain ⟨origin, -, hh⟩ := Option.bind_eq_some_iff.mp hh
    obtain ⟨c, -, hh⟩ := Option.bind_eq_some_iff.mp hh
    cases hh
    exact neat_named name c
  · obtain ⟨f, -, rfl⟩ := Option.map_eq_some_iff.mp hh
    exact neat_form f
  · repeat' split at hh
    all_goals cases hh
    · exact neat_function name
    · exact neat_typeVar _ _
    · exact neat_flag _

theorem neat_of_builtIn (name : String) : ∀ h ∈ builtIn? name, h.Neat := by
  have hvalues : ∀ h ∈ values.lookup name, h.Neat := fun h hh => neat_of_lookup (by simp [values]) hh
  refine neat_of_orElse hvalues (neat_of_orElse (fun h hh => ?_) fun h hh => ?_)
  · unfold functionHint? at hh
    split at hh
    · cases hh
      exact neat_other _ _
    · cases hh
  · split at hh
    · exact neat_of_map_cls _ h hh
    · repeat' split at hh
      all_goals cases hh
      · exact neat_text _
      · exact neat_other _ _

theorem neat_of_hint (name : String) : ∀ h ∈ hint? name, h.Neat := by
  unfold hint?
  extract_lets known
  have hknown : ∀ h ∈ known, h.Neat := neat_of_map_cls _
  split
  · exact neat_of_orElse hknown (neat_of_ofModule _)
  · exact hknown
  · split
    · exact fun _ h => nomatch h
    · exact neat_of_orElse (neat_of_orElse (neat_of_marked name) hknown) (neat_of_builtIn name)

theorem ensures_neat_find (name : String) : Ensures Hint.Neat (find name) := by
  unfold find
  split
  case h_1 h heq => exact .ok (neat_of_hint name h heq)
  case h_2 => exact .error _

theorem neat_of_moduleMember (home name : String) : ∀ h ∈ moduleMember? home name, h.Neat := by
  unfold moduleMember?
  extract_lets ownClass
  have hown : ∀ h ∈ ownClass, h.Neat := by
    intro h hh
    obtain ⟨e, -, hh⟩ := Option.bind_eq_some_iff.mp hh
    exact neat_of_map_cls _ h hh
  split
  · exact neat_of_builtIn name
  · split
    · exact neat_of_hint _
    · split
      · refine neat_of_orElse (neat_of_marked name) ?_
        split
        · exact neat_of_hint name
        · exact fun _ h => nomatch h
      · split
        · exact neat_of_hint name
        · exact hown

end Catalogue

namespace Universe

variable {u : Universe} {h : Hint} {args : List Hint}

theorem ensures_neat_moduleMember (home name : String) : Ensures Hint.Neat (moduleMember home name) := by
  unfold moduleMember
  split
  case h_1 h heq => exact .ok (Catalogue.neat_of_moduleMember home name h heq)
  case h_2 => exact .error _

theorem ensures_neat_memberAt (hu : u.Neat) (hh : h.Neat) (name : String) : Ensures Hint.Neat (u.memberAt h name) := by
  unfold memberAt
  split
  case h_1 found heq => exact .ok (neat_of_hintFact hu hh heq)
  case h_2 =>
    extract_lets bare common
    have hcommon : Ensures Hint.Neat common :=
      .ite (.ok (neat_classOf h)) (.ite (.ok (neat_ofType _)) (.error _))
    have hclass (c : ClassRef) : Ensures Hint.Neat (if isSpecial name then common else u.classMember c name) :=
      .ite hcommon (ensures_neat_classMember hu c name)
    clear_value common
    split
    all_goals first
      | exact hcommon
      | exact hclass _
      | exact ensures_neat_classMember hu _ name
      | exact ensures_neat_moduleMember _ name
      | exact .ite (.ok (neat_classOf _)) (.ite (.ok (neat_ofType _)) (.error _))

/-! ## Calls -/

theorem ensures_neat_instanceOf (u : Universe) (c : ClassRef) (args : List Hint) :
    Ensures Hint.Neat (u.instanceOf c args) := by
  refine .ite (.ok ?_) (.ite (.error _) (.ok (neat_ofType _)))
  cases hfound : emptyValues.lookup c.shown with
  | none => exact neat_ofType _
  | some h => exact neat_of_lookup (by simp [emptyValues]) hfound

theorem ensures_neat_memberByValue (hu : u.Neat) (c : ClassRef) (args : List Hint) :
    Ensures Hint.Neat (u.memberByValue c args) := by
  unfold memberByValue
  split
  · exact .error _
  · split
    case h_1 name value hfound =>
      exact .ok (neat_memberOf (hu.enumerated c _ (List.mem_of_find?_eq_some hfound)) c name)
    case h_2 => exact .error _

theorem ensures_neat_sliceOf (hargs : ∀ h ∈ args, h.Neat) : Ensures Hint.Neat (sliceOf args) := by
  unfold sliceOf
  split
  all_goals first
    | exact .error _
    | exact .ok (by simpa using hargs)

theorem ensures_neat_classCall (hu : u.Neat) (c : ClassRef) (hargs : ∀ h ∈ args, h.Neat) :
    Ensures Hint.Neat (u.classCall c args) := by
  unfold classCall
  split
  · split
    · exact .ok (neat_classOf _)
    · exact .ok (neat_ofType _)
    · exact .error _
  · exact .ite (.error _) (.ite (ensures_neat_memberByValue hu c args)
      (.ite (ensures_neat_sliceOf hargs) (ensures_neat_instanceOf u c args)))

theorem ensures_neat_call (hu : u.Neat) (head : Hint) (hargs : ∀ h ∈ args, h.Neat) :
    Ensures Hint.Neat (u.call head args) := by
  unfold call
  split
  case h_12 =>
    split
    · exact .ok (hargs _ List.mem_cons_self)
    · exact .error _
  all_goals first
    | exact ensures_neat_classCall hu _ hargs
    | exact .ite (.error _) (ensures_neat_instanceOf u _ args)
    | exact .ok neat_nothing
    | exact .ok (neat_ofType _)
    | exact .error _

end Universe

namespace Hint

/-! ## Operators -/

variable {a b h : Hint} {items : List Hint}

theorem ensures_neat_negated (sign : String) (hh : h.Neat) : Ensures Neat (negated sign h) := by
  unfold negated
  extract_lets bad
  split
  all_goals first
    | exact .ok hh
    | exact .ok (neat_flag _)
    | exact .ok (neat_whole _)
    | exact .ok (neat_ofType _)
    | exact .error _

/-- A number and what a zero makes of it. -/
theorem ensures_neat_divided {c : Prop} [Decidable c] (message : String) (hh : h.Neat) :
    Ensures Neat (if c then .error (zeroDivision message) else .ok h) :=
  .ite (.error _) (.ok hh)

theorem ensures_neat_wholeResult? (sign : String) (m n : Int) : ∀ x ∈ wholeResult? sign m n, Ensures Neat x := by
  unfold wholeResult?
  split
  case h_12 => exact fun _ h => nomatch h
  all_goals
    rintro x ⟨⟩
    repeat' split
    all_goals first
      | exact .ok (neat_whole _)
      | exact .ok (neat_ofType _)
      | exact .error _

theorem ensures_neat_inexactResult? (sign : String) (p q : Quantity) :
    ∀ x ∈ inexactResult? sign p q, Ensures Neat x := by
  unfold inexactResult?
  extract_lets typeName result
  have hresult (divides : Option String) : ∀ x ∈ result divides, Ensures Neat x := by
    cases divides with
    | none =>
      rintro x ⟨⟩
      exact .ok (neat_ofType _)
    | some message =>
      rintro x ⟨⟩
      exact ensures_neat_divided _ (neat_ofType _)
  clear_value result typeName
  split
  all_goals first
    | exact hresult _
    | exact fun _ h => nomatch h

/-- Copies of neat values are neat. -/
theorem neat_of_mem_copies {n : Int} (hitems : ∀ h ∈ items, h.Neat) : ∀ h ∈ copies n items, h.Neat := by
  intro h hh
  unfold copies at hh
  split at hh
  · obtain ⟨row, hrow, hmem⟩ := List.mem_flatten.mp hh
    exact hitems h ((List.mem_replicate.mp hrow).2 ▸ hmem)
  · exact hitems h hh

theorem neat_of_repeated (hh : h.Neat) (n : Int) : ∀ made ∈ h.repeated? n, made.Neat := by
  intro made hmade
  unfold repeated? at hmade
  split at hmade
  · cases hmade
    exact neat_sequence.mpr (neat_of_mem_copies (neat_sequence.mp hh))
  · cases hmade
    exact neat_tuple.mpr (neat_of_mem_copies (neat_tuple.mp hh))
  · obtain ⟨s, -, rfl⟩ := Option.map_eq_some_iff.mp hmade
    exact neat_text _

theorem ensures_neat_extended (ha : a.Neat) (hb : b.Neat) : Ensures Neat (extended a b) := by
  unfold extended
  split
  · exact .ok (neat_sequence.mpr fun h hh =>
      (List.mem_append.mp hh).elim (neat_sequence.mp ha h) (neat_sequence.mp hb h))
  · exact .ok (neat_tuple.mpr fun h hh => (List.mem_append.mp hh).elim (neat_tuple.mp ha h) (neat_tuple.mp hb h))
  · split
    · exact .ok (neat_text _)
    · exact .error _

theorem ensures_neat_multiplied (ha : a.Neat) (times : Hint) : Ensures Neat (multiplied a times) := by
  unfold multiplied
  split
  case h_1 n _ =>
    refine .ok ?_
    cases hrepeated : a.repeated? n with
    | none => exact ha
    | some made => exact neat_of_repeated ha n made hrepeated
  case h_2 => exact .error _

theorem ensures_neat_formatted (s : String) (values : Hint) : Ensures Neat (formatted s values) :=
  .ite (.error _) (.ok (neat_ofType _))

theorem neat_of_setResult {items' : List Hint} (sign : String) (hitems : ∀ h ∈ items, h.Neat)
    (hitems' : ∀ h ∈ items', h.Neat) : ∀ made ∈ setResult? sign items items', made.Neat := by
  intro made hmade
  unfold setResult? at hmade
  extract_lets isIn at hmade
  split at hmade
  · cases hmade
    exact neat_set.mpr fun h hh => hitems h (List.mem_filter.mp hh).1
  · cases hmade
    exact neat_set.mpr fun h hh => hitems h (List.mem_filter.mp hh).1
  · cases hmade
    exact neat_set.mpr fun h hh => (List.mem_append.mp hh).elim (fun hh => hitems h (List.mem_filter.mp hh).1)
      fun hh => hitems' h (List.mem_filter.mp hh).1
  · cases hmade

/-- A computation that may not be there, with one that stands in for it. -/
theorem ensures_getD {P : Hint → Prop} {x : Option (Except Failure Hint)} {y : Except Failure Hint}
    (hx : ∀ z ∈ x, Ensures P z) (hy : Ensures P y) : Ensures P (x.getD y) := by
  cases x with
  | none => exact hy
  | some z => exact hx z rfl

theorem ensures_neat_combined (sign : String) (ha : a.Neat) (hb : b.Neat) : Ensures Neat (combined sign a b) := by
  unfold combined
  extract_lets bad
  have hbad : Ensures Neat bad := .error _
  split
  · exact ensures_neat_either ha hb
  · exact .ok (neat_flag _)
  · exact .ok (neat_flag _)
  · split
    case h_1 made heq => exact .ok (neat_of_setResult _ (neat_set.mp ha) (neat_set.mp hb) made heq)
    case h_2 => exact hbad
  · split
    · exact ensures_getD (ensures_neat_wholeResult? _ _ _) hbad
    · exact ensures_getD (ensures_neat_inexactResult? _ _ _) hbad
    · split
      · exact .ite (ensures_neat_extended ha hb) hbad
      · exact .ite (ensures_neat_multiplied ha b) (.ite (ensures_neat_multiplied hb a) hbad)
      · split
        · exact ensures_neat_formatted _ _
        · exact hbad
      · exact hbad

/-! ## Displays of values -/

theorem neat_of_mem_items (hh : h.Neat) (hfound : h.items? = some items) : ∀ m ∈ items, m.Neat := by
  unfold items? at hfound
  split at hfound
  · cases hfound
    exact neat_sequence.mp hh
  · cases hfound
    exact neat_tuple.mp hh
  · cases hfound
    exact neat_set.mp hh
  · cases hfound
    intro m hm
    obtain ⟨entry, hentry, hkey⟩ := List.mem_filterMap.mp hm
    have hneat : entry.Neat := neat_dict.mp hh entry hentry
    split at hkey
    · cases hkey
      exact neat_tuple.mp hneat m List.mem_cons_self
    · cases hkey
  · obtain ⟨s, -, rfl⟩ := Option.map_eq_some_iff.mp hfound
    exact neat_of_mem_characters s

theorem ensures_neat_spreadItems (hh : h.Neat) : Ensures (fun items => ∀ m ∈ items, m.Neat) h.spreadItems := by
  unfold spreadItems
  split
  case h_1 items heq => exact .ok (neat_of_mem_items hh heq)
  case h_2 => exact .error _

theorem ensures_neat_spreadEntries (hh : h.Neat) : Ensures (fun entries => ∀ m ∈ entries, m.Neat) h.spreadEntries := by
  unfold spreadEntries
  split
  · exact .ok (neat_dict.mp hh)
  · exact .error _

theorem ensures_neat_setOf (hitems : ∀ h ∈ items, h.Neat) : Ensures Neat (setOf items) := by
  unfold setOf
  split
  · exact .error _
  · exact .ok (neat_set.mpr fun h hh => hitems h ((sublist_distinct _).subset hh))

theorem neat_of_mem_putEntry (hitems : ∀ h ∈ items, h.Neat) (ha : a.Neat) (hb : b.Neat) :
    ∀ h ∈ putEntry items a b, h.Neat := by
  intro h hh
  unfold putEntry at hh
  extract_lets isKey at hh
  split at hh
  · obtain ⟨entry, hentry, rfl⟩ := List.mem_map.mp hh
    have hneat : entry.Neat := hitems entry hentry
    split
    case h_1 k old =>
      obtain ⟨hk, hold⟩ : k.Neat ∧ old.Neat := by simpa using hneat
      split <;> simp [hk, hold, hb]
    case h_2 => exact hneat
  · rcases List.mem_append.mp hh with hh | hh
    · exact hitems h hh
    · exact List.mem_singleton.mp hh ▸ neat_tuple.mpr (by simp [ha, hb])

theorem ensures_neat_dictOf (hitems : ∀ h ∈ items, h.Neat) : Ensures Neat (dictOf items) := by
  unfold dictOf
  extract_lets keys
  split
  · exact .error _
  -- Each entry is put into a neat dictionary, so the whole is kept by induction on the entries.
  · refine .ok (neat_dict.mpr ?_)
    refine List.foldlRecOn (motive := fun known : List Hint => ∀ h ∈ known, h.Neat) items _
      (List.forall_mem_nil _) ?_
    intro known hknown entry hentry
    split
    case h_1 key value =>
      obtain ⟨hkey, hvalue⟩ : key.Neat ∧ value.Neat := by simpa using hitems _ hentry
      exact neat_of_mem_putEntry hknown hkey hvalue
    case h_2 => exact hknown

end Hint

/-! ## Expressions -/

/-- All names of the scope stand for neat hints. -/
structure Scope.Neat (s : Scope) : Prop where
  classes : s.classes.Neat
  own : ∀ entry ∈ s.own, entry.2.Neat
  shared : ∀ entry ∈ s.shared, entry.2.Neat

theorem Scope.Neat.ensures_lookup {s : Scope} (hs : s.Neat) (name : String) : Ensures Hint.Neat (s.lookup name) := by
  have hlookup : ∀ h ∈ s.lookup? name, h.Neat := by
    refine neat_of_orElse (neat_of_orElse (neat_of_orElse (fun h => neat_of_lookup hs.own)
      fun h => neat_of_lookup hs.shared) fun h hh => ?_) (Catalogue.neat_of_builtIn name)
    obtain ⟨home, -, hh⟩ := Option.bind_eq_some_iff.mp hh
    exact Catalogue.neat_of_moduleMember home name h hh
  unfold Scope.lookup
  split
  case h_1 h heq => exact .ok (hlookup h heq)
  case h_2 => exact .error _

theorem Written.Constant.neat_hint (value : Constant) : value.hint.Neat := by
  cases value with
  | nothing => exact neat_nothing
  | flag => exact neat_flag _
  | whole => exact neat_whole _
  | real => exact neat_real _
  | imaginary => exact neat_other _ _
  | ellipsis => exact neat_ellipsis
  | text => exact neat_text _
  | bytes => exact neat_other _ _

namespace Expression

variable {s : Scope}

theorem ensures_neat_values_cons {e : Expression} {rest : List Expression} (he : Ensures Hint.Neat (e.value s))
    (hrest : Ensures (fun made => ∀ h ∈ made, h.Neat) (values s rest)) :
    Ensures (fun made => ∀ h ∈ made, h.Neat) (values s (e :: rest)) := by
  unfold values
  split
  case h_1 => exact .ok (List.forall_mem_nil _)
  case h_2 heq =>
    obtain ⟨rfl, rfl⟩ := List.cons.inj heq
    rw [value] at he
    exact .seq he fun h hh => .seq (ensures_neat_spreadItems hh) fun items hitems => .seq hrest fun made hmade =>
      .ok fun h hh => (List.mem_append.mp hh).elim (hitems h) (hmade h)
  case h_3 heq =>
    obtain ⟨rfl, rfl⟩ := List.cons.inj heq
    exact .seq he fun h hh => .seq hrest fun made hmade => .ok (List.forall_mem_cons.mpr ⟨hh, hmade⟩)

theorem ensures_neat_entriesOf_cons {e : Expression} {rest : List Expression} (he : Ensures Hint.Neat (e.value s))
    (hrest : Ensures (fun made => ∀ h ∈ made, h.Neat) (entriesOf s rest)) :
    Ensures (fun made => ∀ h ∈ made, h.Neat) (entriesOf s (e :: rest)) := by
  unfold entriesOf
  split
  case h_1 => exact .ok (List.forall_mem_nil _)
  case h_2 heq =>
    obtain ⟨rfl, rfl⟩ := List.cons.inj heq
    rw [value] at he
    exact .seq he fun h hh => .seq (ensures_neat_spreadEntries hh) fun items hitems => .seq hrest fun made hmade =>
      .ok fun h hh => (List.mem_append.mp hh).elim (hitems h) (hmade h)
  case h_3 heq =>
    obtain ⟨rfl, rfl⟩ := List.cons.inj heq
    exact .seq he fun h hh => .seq hrest fun made hmade => .ok (List.forall_mem_cons.mpr ⟨hh, hmade⟩)

mutual

/-- In a scope of neat hints the value of every expression is neat. -/
theorem ensures_neat_value (hs : s.Neat) : ∀ e : Expression, Ensures Hint.Neat (e.value s)
  | constant value => .ok value.neat_hint
  | name n => hs.ensures_lookup n
  | member of n => by
    rw [value]
    exact .seq (ensures_neat_value hs of) fun h hh => Universe.ensures_neat_memberAt hs.classes hh n
  | item of key => by
    rw [value]
    exact .seq (ensures_neat_value hs of) fun h hh => .seq (ensures_neat_value hs key) fun key hkey =>
      Universe.ensures_neat_item hs.classes hh hkey
  | call head args => by
    rw [value]
    exact .seq (ensures_neat_value hs head) fun head _ => .seq (ensures_neat_values hs args) fun args hargs =>
      Universe.ensures_neat_call hs.classes head hargs
  | unary sign of => by
    rw [value]
    exact .seq (ensures_neat_value hs of) fun h hh => ensures_neat_negated sign hh
  | binary sign left right => by
    rw [value]
    exact .seq (ensures_neat_value hs left) fun a ha => .seq (ensures_neat_value hs right) fun b hb =>
      ensures_neat_combined sign ha hb
  | comparison first signs operands => by
    rw [value]
    exact .seq (ensures_neat_value hs first) fun h hh => ensures_neat_chained hs h hh signs operands
  | junction both left right => by
    rw [value]
    exact .seq (ensures_neat_value hs left) fun a ha => .ite (ensures_neat_value hs right) (.ok ha)
  | choice yes condition no => by
    rw [value]
    exact .bind fun _ _ => .ite (ensures_neat_value hs yes) (ensures_neat_value hs no)
  | tuple items => by
    rw [value]
    exact .seq (ensures_neat_values hs items) fun made hmade => .ok (neat_tuple.mpr hmade)
  | sequence items => by
    rw [value]
    exact .seq (ensures_neat_values hs items) fun made hmade => .ok (neat_sequence.mpr hmade)
  | set items => by
    rw [value]
    exact .seq (ensures_neat_values hs items) fun made hmade => ensures_neat_setOf hmade
  | dict entries => by
    rw [value]
    exact .seq (ensures_neat_entriesOf hs entries) fun made hmade => ensures_neat_dictOf hmade
  | spread of | named _ of | bound _ of => by
    rw [value]
    exact ensures_neat_value hs of
  | function => .ok (neat_function _)
  | comprehension typeName source => by
    rw [value]
    refine .bind fun h _ => ?_
    split
    · exact .ok (neat_ofType _)
    · exact .ok (neat_ofType _)
    · exact .error _
  | slice start stop step => by
    rw [value]
    exact .seq (ensures_neat_value hs start) fun _ hstart => .seq (ensures_neat_value hs stop) fun _ hstop =>
      .seq (ensures_neat_value hs step) fun _ hstep => .ok (neat_slice.mpr ⟨hstart, hstop, hstep⟩)
  | misplaced .. => .ok neat_nothing

theorem ensures_neat_values (hs : s.Neat) :
    ∀ es : List Expression, Ensures (fun made => ∀ h ∈ made, h.Neat) (values s es)
  | [] => .ok (List.forall_mem_nil _)
  | e :: rest => ensures_neat_values_cons (ensures_neat_value hs e) (ensures_neat_values hs rest)

theorem ensures_neat_entriesOf (hs : s.Neat) :
    ∀ es : List Expression, Ensures (fun made => ∀ h ∈ made, h.Neat) (entriesOf s es)
  | [] => .ok (List.forall_mem_nil _)
  | e :: rest => ensures_neat_entriesOf_cons (ensures_neat_value hs e) (ensures_neat_entriesOf hs rest)

theorem ensures_neat_chained (hs : s.Neat) (left : Hint) (hleft : left.Neat) (signs : List String) :
    ∀ operands : List Expression, Ensures Hint.Neat (chained s left signs operands)
  | [] => .ok hleft
  | operand :: rest => by
    rw [chained]
    refine .seq (ensures_neat_value hs operand) fun right hright => .bind fun _ _ => ?_
    exact .ite (ensures_neat_chained hs right hright signs.tail rest) (.ok (neat_flag _))

end

end Expression

theorem Scope.Neat.ensures_read {s : Scope} (hs : s.Neat) (text : String) : Ensures Hint.Neat (s.read text) := by
  unfold Scope.read
  split
  · exact Expression.ensures_neat_value hs _
  · exact .error _

/-! ## Annotations -/

namespace Workspace

variable {w : Workspace} {c : HostClass}

theorem neat_of_mem_namesIn (hw : w.classes.Neat) (home : String) : ∀ entry ∈ w.namesIn home, entry.2.Neat := by
  intro entry hentry
  obtain ⟨d, -, rfl⟩ := List.mem_map.mp hentry
  exact hw.hintOf d.ref

theorem neat_of_mem_givenNames : ∀ entry ∈ givenNames, entry.2.Neat := by
  intro entry hentry
  rcases List.mem_append.mp hentry with hentry | hentry
  · exact Catalogue.neat_of_mem_marked entry hentry
  · obtain rfl := List.mem_singleton.mp hentry
    exact Catalogue.neat_classHint "typing.Any"

theorem neat_of_mem_moduleNames (hw : w.classes.Neat) (moduleName : Hint) :
    ∀ entry ∈ (w.moduleNames moduleName).1, entry.2.Neat := by
  unfold moduleNames
  extract_lets nowhere
  split
  · exact List.forall_mem_nil _
  · exact List.forall_mem_nil _
  case h_3 home _ _ =>
    split
    · exact neat_of_mem_namesIn hw home
    · split
      · exact List.forall_mem_nil _
      case h_2 heq =>
        intro entry hentry
        rcases List.mem_append.mp hentry with hentry | hentry
        · exact neat_of_mem_namesIn hw home entry hentry
        · exact neat_of_mem_givenNames entry hentry

theorem neat_of_member (hw : w.classes.Neat) {c : ClassRef} {name : String} {h : Hint}
    (hfound : w.classes.member? c name = some h) : h.Neat :=
  Universe.neat_of_inherited (hw.lineage c) hfound

theorem neat_of_tableOf (hw : w.classes.Neat) {h table : Hint} {steps : Nat}
    (hfound : w.tableOf h steps = some table) : table.Neat := by
  induction steps generalizing h with
  | zero => cases hfound
  | succ steps ih =>
    unfold tableOf at hfound
    split at hfound
    case h_1 =>
      split at hfound
      · exact ih hfound
      · exact neat_of_member hw hfound
    case h_2 =>
      cases hfound
      exact neat_dict.mpr (List.forall_mem_nil _)
    case h_3 => cases hfound

theorem neat_of_mem_namedEntries {entries : List Hint} (hentries : ∀ h ∈ entries, h.Neat) :
    ∀ entry ∈ namedEntries entries, entry.2.Neat := by
  intro entry hentry
  obtain ⟨h, hh, hfound⟩ := List.mem_filterMap.mp hentry
  split at hfound
  case h_1 key value =>
    obtain ⟨name, -, rfl⟩ := Option.map_eq_some_iff.mp hfound
    exact neat_tuple.mp (hentries _ hh) value (by simp)
  case h_2 => cases hfound

theorem ensures_neat_scopeOf (hw : w.classes.Neat) (hc : c.Neat) : Ensures Scope.Neat (w.scopeOf c) := by
  unfold scopeOf
  extract_lets own inModule
  have hown : ∀ entry ∈ own, entry.2.Neat := by
    intro entry hentry
    rcases List.mem_append.mp hentry with hentry | hentry
    · exact hc.members entry hentry
    · exact Universe.neat_of_mem_bodyNames _ hc entry hentry
  have hmodule (moduleName : Hint) : (inModule moduleName).Neat :=
    ⟨hw, hown, neat_of_mem_moduleNames hw moduleName⟩
  split
  · exact .ok (hmodule c.moduleName)
  · exact .ok (hmodule .nothing)
  case h_3 entries heq => exact .ok ⟨hw, hown, neat_of_mem_namedEntries (neat_dict.mp (neat_of_tableOf hw heq))⟩
  · exact .error _

/-- A text comes to a neat hint where all names stand for neat hints. -/
def EvaluatesNeatly (w : Workspace) : Prop :=
  ∀ ⦃s : Scope⦄, s.Neat → ∀ text, Ensures Hint.Neat (w.evaluator s text)

theorem evaluatesNeatly_of_eq_read (h : w.evaluator = Scope.read) : w.EvaluatesNeatly := fun _ hs text =>
  h ▸ hs.ensures_read text

/-- Where the classes hold neat hints only and texts come to neat hints, so does an annotation of a class. -/
theorem ensures_neat_evaluate (hw : w.classes.Neat) (hevaluates : w.EvaluatesNeatly) (hc : c.Neat)
    { annotation : Annotation} (hnote : annotation.Neat) : Ensures Hint.Neat (w.evaluate c annotation) := by
  unfold evaluate
  split
  case h_1 h =>
    split
    · exact .seq (ensures_neat_scopeOf hw hc) fun s hs => hevaluates hs _
    · exact .ok hnote
  · exact .bind fun _ _ => .error _

end Workspace

end SchemaRegistry
