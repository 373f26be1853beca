import SchemaRegistry.Proofs.Host.Unions

/-!
# Neat hints

A tidy hint can hold others: the arguments of a class, the items of a list, what a class passes for. An expression
takes them out again. `Hint.Neat` says that all unions in a hint are tidy, however deep they lie. Neat hints are all
that evaluation and declarations make of neat hints; here that is shown of what both use to make hints.
-/

namespace SchemaRegistry

namespace Ensures

variable {α β : Type} {P : β → Prop} {Q : α → Prop}

/-- What comes first has a property that what comes next needs. -/
theorem seq {x : Except Failure α} {f : α → Except Failure β} (hx : Ensures Q x)
    (hf : ∀ a, Q a → Ensures P (f a)) : Ensures P (x >>= f) :=
  .bind fun a ha => hf a (hx a ha)

theorem ite {c : Prop} [Decidable c] {x y : Except Failure β} (hx : Ensures P x) (hy : Ensures P y) :
    Ensures P (if c then x else y) := by
  split
  · exact hx
  · exact hy

theorem mapM {f : α → Except Failure β} {l : List α} (h : ∀ a ∈ l, Ensures P (f a)) :
    Ensures (fun bs => ∀ b ∈ bs, P b) (l.mapM f) := by
  induction l with
  | nil => exact .ok fun _ hb => nomatch hb
  | cons a l ih =>
    obtain ⟨ha, hl⟩ := List.forall_mem_cons.mp h
    rw [List.mapM_cons]
    exact .seq ha fun b hb => .seq (ih hl) fun bs hbs => .ok (List.forall_mem_cons.mpr ⟨hb, hbs⟩)

end Ensures

namespace Hint

/-! ## Neat hints -/

mutual

/-- Every union in the hint is tidy, however deep it lies. -/
def Neat : Hint → Prop
  | union bar members => (union bar members).Tidy ∧ NeatAll members
  | sequence items => NeatAll items
  | tuple items => NeatAll items
  | set items => NeatAll items
  | dict entries => NeatAll entries
  | member _ _ value => Neat value
  | cls _ supertype => NeatSome supertype
  | applied _ supertype args => NeatSome supertype ∧ NeatAll args
  | submodel _ supertype args => NeatSome supertype ∧ NeatAll args
  | filled _ _ args => NeatAll args
  | formed _ args => NeatAll args
  | literal values => NeatAll values
  | newType _ _ of => Neat of
  | annotated base metadata => Neat base ∧ NeatAll metadata
  | initVar _ of => Neat of
  | slice start stop step => Neat start ∧ Neat stop ∧ Neat step
  | _ => True

/-- The same for several hints. -/
def NeatAll : List Hint → Prop
  | [] => True
  | h :: rest => Neat h ∧ NeatAll rest

/-- The same for a hint that may be missing. -/
def NeatSome : Option Hint → Prop
  | none => True
  | some h => Neat h

end

theorem neatAll_iff {hints : List Hint} : NeatAll hints ↔ ∀ h ∈ hints, h.Neat := by
  induction hints with
  | nil => simp [NeatAll]
  | cons h rest ih => rw [NeatAll, ih, List.forall_mem_cons]

theorem neatSome_iff {supertype : Option Hint} : NeatSome supertype ↔ ∀ h ∈ supertype, h.Neat := by
  cases supertype <;> simp [NeatSome]

variable {h other : Hint} {items args members metadata : List Hint} {supertype : Option Hint}

@[simp] theorem neat_union {bar : Bool} :
    (union bar members).Neat ↔ (union bar members).Tidy ∧ ∀ h ∈ members, h.Neat :=
  and_congr_right fun _ => neatAll_iff

@[simp] theorem neat_sequence : (sequence items).Neat ↔ ∀ h ∈ items, h.Neat := neatAll_iff

@[simp] theorem neat_tuple : (tuple items).Neat ↔ ∀ h ∈ items, h.Neat := neatAll_iff

@[simp] theorem neat_set : (set items).Neat ↔ ∀ h ∈ items, h.Neat := neatAll_iff

@[simp] theorem neat_dict : (dict items).Neat ↔ ∀ h ∈ items, h.Neat := neatAll_iff

@[simp] theorem neat_member {c : ClassRef} {name : String} : (member c name h).Neat ↔ h.Neat := Iff.rfl

@[simp] theorem neat_cls {c : ClassRef} : (cls c supertype).Neat ↔ ∀ of ∈ supertype, of.Neat := neatSome_iff

@[simp] theorem neat_applied {c : ClassRef} :
    (applied c supertype args).Neat ↔ (∀ of ∈ supertype, of.Neat) ∧ ∀ h ∈ args, h.Neat :=
  and_congr neatSome_iff neatAll_iff

@[simp] theorem neat_submodel {c : ClassRef} :
    (submodel c supertype args).Neat ↔ (∀ of ∈ supertype, of.Neat) ∧ ∀ h ∈ args, h.Neat :=
  and_congr neatSome_iff neatAll_iff

@[simp] theorem neat_filled {name : Option String} {c : ClassRef} :
    (filled name c args).Neat ↔ ∀ h ∈ args, h.Neat :=
  neatAll_iff

@[simp] theorem neat_formed {f : SpecialForm} : (formed f args).Neat ↔ ∀ h ∈ args, h.Neat :=
  neatAll_iff

@[simp] theorem neat_literal : (literal items).Neat ↔ ∀ h ∈ items, h.Neat := neatAll_iff

@[simp] theorem neat_newType {id : Nat} {name : String} : (newType id name h).Neat ↔ h.Neat := Iff.rfl

@[simp] theorem neat_annotated : (annotated h metadata).Neat ↔ h.Neat ∧ ∀ m ∈ metadata, m.Neat :=
  and_congr_right fun _ => neatAll_iff

@[simp] theorem neat_initVar {id : Nat} : (initVar id h).Neat ↔ h.Neat := Iff.rfl

@[simp] theorem neat_slice {start stop step : Hint} :
    (slice start stop step).Neat ↔ start.Neat ∧ stop.Neat ∧ step.Neat :=
  Iff.rfl

@[simp] theorem neat_text (s : String) : (text s).Neat := trivial

@[simp] theorem neat_whole (n : Int) : (whole n).Neat := trivial

@[simp] theorem neat_real (value : Number.Binary64) : (real value).Neat := trivial

@[simp] theorem neat_flag (b : Bool) : (flag b).Neat := trivial

@[simp] theorem neat_nothing : nothing.Neat := trivial

@[simp] theorem neat_ofType (typeName : String) : (ofType typeName).Neat := trivial

@[simp] theorem neat_function (name : String) : (function name).Neat := trivial

@[simp] theorem neat_noneType : noneType.Neat := trivial

@[simp] theorem neat_typeVar (id : Nat) (name : String) : (typeVar id name).Neat := trivial

@[simp] theorem neat_category (c : Category) : (category c).Neat := trivial

@[simp] theorem neat_forward (name : String) : (forward name).Neat := trivial

@[simp] theorem neat_ellipsis : ellipsis.Neat := trivial

@[simp] theorem neat_other (typeName shown : String) : (Hint.other typeName shown).Neat := trivial

@[simp] theorem neat_form (f : SpecialForm) : (form f).Neat := trivial

@[simp] theorem neat_cls_none (c : ClassRef) : (cls c none).Neat := trivial

@[simp] theorem neat_named (name : String) (c : ClassRef) : (named name c).Neat := trivial

-- From here on the lemmas above say what a neat hint is.
attribute [irreducible] Neat NeatAll NeatSome

theorem Neat.tidy (h : other.Neat) : other.Tidy := by
  cases other with
  | union => exact (neat_union.mp h).1
  | _ => trivial

/-! ## Making hints of hints -/

theorem ensures_neat_convert (hh : h.Neat) : Ensures Neat h.convert := by
  unfold convert
  split
  · exact .ok neat_noneType
  · split
    case h_1 name _ =>
      intro made hmade
      rw [ensures_ofForward name made hmade]
      exact neat_forward name
    case h_2 => exact .ok hh

theorem ensures_neat_check (hh : h.Neat) (complaint : String) (place : Place) :
    Ensures Neat (h.check complaint place) := by
  refine .seq (ensures_neat_convert hh) fun made hmade => .guard ?_
  split
  · exact .ite (.ok hmade) (.error _)
  · exact .error _
  · exact .ite (.error _) (.ok hmade)

theorem ensures_neat_checkAll (complaint : String) (hmembers : ∀ h ∈ members, h.Neat) :
    Ensures (fun checked => ∀ h ∈ checked, h.Neat) (checkAll complaint members) := by
  induction members with
  | nil => exact .ok hmembers
  | cons h rest ih =>
    obtain ⟨hhead, hrest⟩ := List.forall_mem_cons.mp hmembers
    exact .seq (ensures_neat_check hhead complaint .argument) fun made hmade => .seq (ih hrest) fun checked hchecked =>
      .ok (List.forall_mem_cons.mpr ⟨hmade, hchecked⟩)

theorem neat_of_mem_unionMembers (hh : h.Neat) : ∀ m ∈ h.unionMembers, m.Neat := by
  cases h with
  | union bar members => exact (neat_union.mp hh).2
  | _ => exact List.forall_mem_singleton.mpr hh

theorem neat_of_mem_flatMap (hmembers : ∀ h ∈ members, h.Neat) : ∀ m ∈ members.flatMap unionMembers, m.Neat := by
  intro m hm
  obtain ⟨h, hh, hmember⟩ := List.mem_flatMap.mp hm
  exact neat_of_mem_unionMembers (hmembers h hh) m hmember

theorem ensures_neat_joined (hsome : members ≠ []) (hmembers : ∀ h ∈ members, h.Neat) :
    Ensures Neat (joined members) := by
  intro o ho
  have htidy : o.Tidy := ensures_tidy_joined hsome (fun h hh => (hmembers h hh).tidy) o ho
  have hkept : ∀ m ∈ distinct (members.flatMap unionMembers), m.Neat :=
    fun m hm => neat_of_mem_flatMap hmembers m ((sublist_distinct _).subset hm)
  rw [joined] at ho
  split at ho
  · cases ho
  · split at ho
    case h_1 heq =>
      cases ho
      exact hkept o (heq ▸ List.mem_cons_self)
    case h_2 =>
      cases ho
      exact neat_union.mpr ⟨htidy, hkept⟩

/-- A union of neat hints is neat. -/
theorem ensures_neat_unionOf (hmembers : ∀ h ∈ members, h.Neat) : Ensures Neat (unionOf members) := by
  cases members with
  | nil => exact .error _
  | cons h rest =>
    refine .bind fun checked hchecked => ?_
    obtain ⟨hlength, -⟩ := ensures_checkAll _ (fun h hh => (hmembers h hh).tidy) checked hchecked
    exact ensures_neat_joined (List.ne_nil_of_length_pos (by simp [hlength]))
      (ensures_neat_checkAll _ hmembers checked hchecked)

theorem ensures_neat_optional (hh : h.Neat) : Ensures Neat h.optional :=
  .seq (ensures_neat_check hh _ .argument) fun made hmade => ensures_neat_unionOf (by simp [hmade])

theorem neat_barred (hsome : members ≠ []) (hmembers : ∀ h ∈ members, h.Neat) (htakes : ∀ h ∈ members, h.takesBar) :
    (barred members).Neat := by
  have htidy := tidy_barred hsome (fun h hh => (hmembers h hh).tidy) htakes
  have hkept : ∀ m ∈ distinctMembers ((members.flatMap unionMembers).map asMember), m.Neat := by
    intro m hm
    obtain ⟨m', hm', rfl⟩ := List.mem_map.mp ((sublist_distinctMembers _).subset hm)
    have hneat : m'.Neat := neat_of_mem_flatMap hmembers m' hm'
    cases m' with
    | nothing => exact neat_noneType
    | _ => exact hneat
  rw [barred] at htidy ⊢
  split at htidy
  case h_1 m heq => exact hkept m (heq ▸ List.mem_cons_self)
  case h_2 => exact neat_union.mpr ⟨htidy, hkept⟩

theorem ensures_neat_either (hh : h.Neat) (hother : other.Neat) : Ensures Neat (either h other) := by
  have hboth : ∀ m ∈ [h, other], m.Neat := by simp [hh, hother]
  unfold either
  split
  · exact .ok (neat_flag _)
  case h_2 =>
    refine .ok (neat_set.mpr fun m hm => ?_)
    rcases List.mem_append.mp ((sublist_distinct _).subset hm) with hm | hm
    · exact neat_set.mp hh m hm
    · exact neat_set.mp hother m hm
  case h_3 =>
    refine .ok (neat_dict.mpr fun m hm => ?_)
    rcases List.mem_append.mp hm with hm | hm
    · exact neat_dict.mp hh m hm
    · exact neat_dict.mp hother m hm
  · split
    · exact .ok (neat_whole _)
    · split
      · exact ensures_neat_unionOf hboth
      · split
        case isTrue hbar =>
          simp only [Bool.and_eq_true] at hbar
          exact .ok (neat_barred (List.cons_ne_nil _ _) hboth (by simp [hbar]))
        case isFalse => exact .error _

/-- Neat hints with bars between them make a neat hint. -/
theorem ensures_neat_eitherOf (hmembers : ∀ h ∈ members, h.Neat) : Ensures Neat (eitherOf members) := by
  cases members with
  | nil => exact .error _
  | cons h rest =>
    rw [eitherOf]
    induction rest generalizing h with
    | nil => exact .ok (hmembers h List.mem_cons_self)
    | cons other rest ih =>
      rw [List.foldlM_cons]
      obtain ⟨hh, hother, hrest⟩ : h.Neat ∧ other.Neat ∧ ∀ m ∈ rest, m.Neat := by simpa using hmembers
      exact .seq (ensures_neat_either hh hother) fun first hfirst =>
        ih first (List.forall_mem_cons.mpr ⟨hfirst, hrest⟩)

theorem sublist_distinctTyped (values : List Hint) : (distinctTyped values).Sublist values := by
  induction values with
  | nil => exact .slnil
  | cons h rest ih => exact (List.filter_sublist.trans ih).cons_cons h

theorem neat_literalOf (hitems : ∀ h ∈ items, h.Neat) : (literalOf items).Neat := by
  have hvalues : ∀ h ∈ items.flatMap literalValues, h.Neat := by
    intro value hvalue
    obtain ⟨h, hh, hmem⟩ := List.mem_flatMap.mp hvalue
    cases h with
    | literal values => exact neat_literal.mp (hitems _ hh) value hmem
    | _ => exact List.mem_singleton.mp hmem ▸ hitems _ hh
  refine neat_literal.mpr fun h hh => hvalues h ?_
  split at hh
  · exact hh
  · exact (sublist_distinctTyped _).subset hh

theorem neat_withMetadata (hh : h.Neat) (hmetadata : ∀ m ∈ metadata, m.Neat) : (h.withMetadata metadata).Neat := by
  cases h with
  | annotated base own =>
    obtain ⟨hbase, hown⟩ := neat_annotated.mp hh
    refine neat_annotated.mpr ⟨hbase, fun m hm => ?_⟩
    exact (List.mem_append.mp hm).elim (hown m) (hmetadata m)
  | _ => exact neat_annotated.mpr ⟨hh, hmetadata⟩

theorem ensures_neat_annotate (hitems : ∀ h ∈ items, h.Neat) : Ensures Neat (annotate items) := by
  unfold annotate
  split
  case h_3 h metadata _ =>
    obtain ⟨hh, hmetadata⟩ := List.forall_mem_cons.mp hitems
    exact .seq (ensures_neat_check hh _ .annotated) fun made hmade =>
      .guard (.ok (neat_withMetadata hmade hmetadata))
  all_goals exact .error _

/-! ## Arguments -/

theorem neat_of_mem_keyParts (hh : h.Neat) : ∀ m ∈ h.keyParts, m.Neat := by
  cases h with
  | tuple items => exact neat_tuple.mp hh
  | _ => exact List.forall_mem_singleton.mpr hh

/-- What is given for variables is neat. -/
def NeatGiven (given : List (Nat × Hint)) : Prop := ∀ entry ∈ given, entry.2.Neat

theorem NeatGiven.lookup {given : List (Nat × Hint)} (hgiven : NeatGiven given) {id : Nat} {h : Hint}
    (hfound : given.lookup id = some h) : h.Neat := by
  obtain ⟨front, back, rfl, -⟩ := List.lookup_eq_some_iff.mp hfound
  exact hgiven (id, h) (by simp)

theorem neatGiven_zip (ids : List Nat) (hargs : ∀ h ∈ args, h.Neat) : NeatGiven (ids.zip args) :=
  fun entry hentry => hargs entry.2 (List.of_mem_zip hentry).2

mutual

theorem ensures_neat_substitute {given : List (Nat × Hint)} (hgiven : NeatGiven given) :
    ∀ h : Hint, h.Neat → Ensures Neat (h.substitute given)
  | typeVar id name, hh => by
    rw [substitute]
    split
    case h_1 found heq => exact ensures_neat_check (hgiven.lookup heq) _ .argument
    case h_2 => exact .ok hh
  | applied origin supertype args, hh => by
    obtain ⟨hsupertype, hargs⟩ := neat_applied.mp hh
    rw [substitute]
    exact .seq (ensures_neat_substituteAll hgiven args hargs) fun made hmade =>
      .ok (neat_applied.mpr ⟨hsupertype, hmade⟩)
  | filled name origin args, hh => by
    rw [substitute]
    exact .seq (ensures_neat_substituteAll hgiven args (neat_filled.mp hh)) fun made hmade =>
      .ok (neat_filled.mpr hmade)
  | formed f args, hh => by
    rw [substitute]
    exact .seq (ensures_neat_substituteAll hgiven args (neat_formed.mp hh)) fun made hmade =>
      .ok (neat_formed.mpr hmade)
  | union true members, hh => by
    rw [substitute]
    exact .seq (ensures_neat_substituteAll hgiven members (neat_union.mp hh).2) fun made hmade =>
      ensures_neat_eitherOf hmade
  | union false members, hh => by
    rw [substitute]
    exact .seq (ensures_neat_substituteAll hgiven members (neat_union.mp hh).2) fun made hmade =>
      ensures_neat_unionOf hmade
  | literal values, hh => by
    rw [substitute]
    exact .seq (ensures_neat_substituteAll hgiven values (neat_literal.mp hh)) fun made hmade =>
      .ok (neat_literal.mpr hmade)
  | annotated base metadata, hh => by
    obtain ⟨hbase, hmetadata⟩ := neat_annotated.mp hh
    rw [substitute]
    exact .seq (ensures_neat_substitute hgiven base hbase) fun made hmade =>
      .ok (neat_withMetadata hmade hmetadata)
  | nothing, hh | flag _, hh | whole _, hh | real _, hh | text _, hh | ellipsis, hh | sequence _, hh | tuple _, hh
  | set _, hh | dict _, hh | category _, hh | member .., hh | cls .., hh | submodel .., hh | named .., hh
  | form _, hh | newType .., hh | initVar .., hh | forward _, hh | function _, hh | slice .., hh | other .., hh =>
    .ok hh

theorem ensures_neat_substituteAll {given : List (Nat × Hint)} (hgiven : NeatGiven given) :
    ∀ hints : List Hint, (∀ h ∈ hints, h.Neat) → Ensures (fun made => ∀ h ∈ made, h.Neat) (substituteAll given hints)
  | [], hhints => .ok hhints
  | h :: rest, hhints => by
    obtain ⟨hh, hrest⟩ := List.forall_mem_cons.mp hhints
    rw [substituteAll]
    exact .seq (ensures_neat_substitute hgiven h hh) fun made hmade =>
      .seq (ensures_neat_substituteAll hgiven rest hrest) fun others hothers =>
        .ok (List.forall_mem_cons.mpr ⟨hmade, hothers⟩)

end

theorem ensures_neat_withArguments (hh : h.Neat) (hargs : ∀ a ∈ args, a.Neat) :
    Ensures Neat (h.withArguments args) :=
  .bind fun _ _ => ensures_neat_substitute (neatGiven_zip _ hargs) h hh

theorem ensures_neat_convertAll (hitems : ∀ h ∈ items, h.Neat) :
    Ensures (fun made => ∀ h ∈ made, h.Neat) (items.mapM convert) :=
  .mapM fun h hh => ensures_neat_convert (hitems h hh)

theorem ensures_neat_functionParts (hh : h.Neat) :
    Ensures (fun parts : Hint × Hint => parts.1.Neat ∧ parts.2.Neat) (functionParts h) := by
  unfold functionParts
  split
  · exact .ok (by simpa using hh)
  · exact .error _

theorem ensures_neat_functionOf (origin : ClassRef) (hh : h.Neat) : Ensures Neat (functionOf origin h) := by
  refine .seq (ensures_neat_functionParts hh) fun (args, result) ⟨hargs, hresult⟩ => ?_
  refine .seq (ensures_neat_check hresult _ .argument) fun made hmade => ?_
  have hlast (front : List Hint) (hfront : ∀ m ∈ front, m.Neat) :
      (filled (some "Callable") origin (front ++ [made])).Neat := by
    simpa [or_imp, forall_and, hmade] using hfront
  dsimp only at hargs ⊢
  split
  · exact .ok (hlast [ellipsis] (by simp))
  · exact .seq (ensures_neat_convertAll (neat_sequence.mp hargs)) fun front hfront => .ok (hlast front hfront)
  · exact .seq (ensures_neat_convertAll (neat_tuple.mp hargs)) fun front hfront => .ok (hlast front hfront)
  · exact .seq (ensures_neat_convert hargs) fun first hfirst =>
      .ok (hlast [first] (List.forall_mem_singleton.mpr hfirst))

theorem ensures_neat_tupleOf (origin : ClassRef) (hh : h.Neat) : Ensures Neat (tupleOf origin h) := by
  have hparts := neat_of_mem_keyParts hh
  unfold tupleOf
  extract_lets parts endsOpen
  refine .ite ?_ ?_
  · refine .seq (ensures_neat_checkAll _ fun m hm => hparts m (List.dropLast_subset _ hm)) fun args hargs => .ok ?_
    simpa [or_imp, forall_and] using hargs
  · exact .seq (ensures_neat_checkAll _ hparts) fun args hargs => .ok (neat_filled.mpr hargs)

theorem ensures_neat_namedItem (name : String) (origin : ClassRef) (hh : h.Neat) :
    Ensures Neat (namedItem name origin h) :=
  .ite (ensures_neat_functionOf origin hh) (.ite (ensures_neat_tupleOf origin hh)
    (.seq (ensures_neat_checkAll _ (neat_of_mem_keyParts hh)) fun _ hargs =>
      .bind fun _ _ => .ok (neat_filled.mpr hargs)))

theorem ensures_neat_formItem (f : SpecialForm) (hh : h.Neat) : Ensures Neat (formItem f h) := by
  have hone (complaint : String) : Ensures Neat (oneArgument f complaint h) :=
    .seq (ensures_neat_check hh complaint .argument) fun made hmade =>
      .ok (neat_formed.mpr (List.forall_mem_singleton.mpr hmade))
  cases f with
  | classVar | final | typeGuard | unpack | required | notRequired => exact hone _
  | union => exact ensures_neat_unionOf (neat_of_mem_keyParts hh)
  | optional => exact ensures_neat_optional hh
  | literal => exact .ok (neat_literalOf (neat_of_mem_keyParts hh))
  | concatenate =>
    simp only [formItem]
    split
    · exact .error _
    · refine .seq (ensures_neat_checkAll _ fun m hm => neat_of_mem_keyParts hh m (List.dropLast_subset _ hm))
        fun args hargs => .ok ?_
      simpa [or_imp, forall_and] using hargs
    · exact .error _
  | _ => exact .error _

/-! ## Parts of values -/

theorem ensures_neat_partAt (what : String) (hitems : ∀ h ∈ items, h.Neat) (index : Int) :
    Ensures Neat (partAt what items index) := by
  unfold partAt
  extract_lets place
  split
  case h_1 found heq =>
    split at heq
    · cases heq
    · exact .ok (hitems found (List.mem_of_getElem? heq))
  case h_2 => exact .error _

theorem ensures_neat_partsAt (hitems : ∀ h ∈ items, h.Neat) (start stop step : Hint) :
    Ensures (fun parts => ∀ h ∈ parts, h.Neat) (partsAt items start stop step) := by
  refine .bind fun _ _ => .guard (.bind fun _ _ => .bind fun _ _ => .ok fun h hh => ?_)
  obtain ⟨place, -, hplace⟩ := List.mem_filterMap.mp hh
  exact hitems h (List.mem_of_getElem? hplace)

theorem ensures_neat_valueAt (hitems : ∀ h ∈ items, h.Neat) (key : Hint) : Ensures Neat (valueAt items key) := by
  unfold valueAt
  split
  · exact .error _
  · dsimp only
    split
    case h_1 value heq =>
      obtain ⟨entry, hentry, hfound⟩ := List.exists_of_findSome?_eq_some heq
      have hneat : entry.Neat := hitems entry (List.mem_reverse.mp hentry)
      split at hfound
      · split at hfound
        · cases hfound
          exact .ok (neat_tuple.mp hneat value (by simp))
        · cases hfound
      · cases hfound
    case h_2 => exact .error _

theorem ensures_neat_rowItem (what : String) (hitems : ∀ h ∈ items, h.Neat) {ofParts : List Hint → Hint}
    (hparts : ∀ parts : List Hint, (∀ h ∈ parts, h.Neat) → (ofParts parts).Neat) (key : Hint) :
    Ensures Neat (rowItem what items ofParts key) := by
  unfold rowItem
  split
  · exact .seq (ensures_neat_partsAt hitems _ _ _) fun parts hneat => .ok (hparts parts hneat)
  · split
    · exact ensures_neat_partAt what hitems _
    · exact .error _

theorem neat_of_mem_characters (s : String) : ∀ h ∈ characters s, h.Neat := by
  intro h hh
  obtain ⟨c, -, rfl⟩ := List.mem_map.mp hh
  exact neat_text _

theorem ensures_neat_valueItem (hh : h.Neat) (key : Hint) : Ensures Neat (valueItem h key) := by
  unfold valueItem
  split
  · exact ensures_neat_rowItem _ (neat_sequence.mp hh) (fun _ => neat_sequence.mpr) key
  · exact ensures_neat_rowItem _ (neat_tuple.mp hh) (fun _ => neat_tuple.mpr) key
  · exact ensures_neat_valueAt (neat_dict.mp hh) key
  · split
    · exact ensures_neat_rowItem _ (neat_of_mem_characters _) (fun _ _ => neat_text _) key
    · exact .error _

end Hint

end SchemaRegistry
