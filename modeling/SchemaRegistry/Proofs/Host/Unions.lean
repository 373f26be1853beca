import SchemaRegistry.Proofs.Host.Lineage

/-!
# Unions

A union that is made of hints takes over the members of unions among them, and has each member once. `Hint.Tidy`
is what comes of that: a union has several members, no two of them are equal, and none is a union. What is made of
tidy hints is tidy, whether they are written with bars (`tidy_barred`) or not (`ensures_tidy_joined`).

A union does not say whether `None` is among its members: the category of a tidy hint is also that of the hint or
`None` (`ensures_optional`).
-/

namespace SchemaRegistry.Hint

/-! ## Tidy hints -/

/-- The hint can be a member of a union. Where unions are written with bars, members are classes, with arguments or
without. -/
def standsIn (bar : Bool) : Hint → Bool
  | union .. => false
  | cls .. | applied .. | submodel .. => true
  | _ => !bar

/-- A union has several members that can stand in it, and no two of them are equal. -/
def Tidy : Hint → Prop
  | union bar members =>
    2 ≤ members.length ∧ (members.Pairwise fun h other => h.same other = false) ∧ ∀ h ∈ members, h.standsIn bar
  | _ => True

variable {bar : Bool} {h other : Hint} {members : List Hint}

theorem standsIn_of_bar (hstands : h.standsIn bar) : h.standsIn false := by
  cases h <;> first | rfl | exact hstands

theorem tidy_of_standsIn (hstands : h.standsIn bar) : h.Tidy := by
  cases h with
  | union => cases hstands
  | _ => trivial

/-- A hint is a union or a single member. -/
theorem union_or_single (h : Hint) :
    (∃ bar members, h = union bar members) ∨ (h.unionMembers = [h] ∧ h.standsIn false) := by
  cases h with
  | union bar members => exact .inl ⟨bar, members, rfl⟩
  | _ => exact .inr ⟨rfl, rfl⟩

theorem Tidy.standsIn (htidy : h.Tidy) : ∀ m ∈ h.unionMembers, m.standsIn false := by
  rcases union_or_single h with ⟨bar, members, rfl⟩ | ⟨hsingle, hstands⟩
  · exact fun m hm => standsIn_of_bar (htidy.2.2 m hm)
  · rw [hsingle]
    exact List.forall_mem_singleton.mpr hstands

theorem Tidy.unionMembers_ne_nil (htidy : h.Tidy) : h.unionMembers ≠ [] := by
  rcases union_or_single h with ⟨bar, members, rfl⟩ | ⟨hsingle, -⟩
  · have hseveral : 2 ≤ members.length := htidy.1
    exact List.length_pos_iff.mp (Nat.lt_of_lt_of_le Nat.zero_lt_two hseveral)
  · rw [hsingle]
    exact List.cons_ne_nil h []

theorem flatMap_unionMembers_ne_nil (hsome : members ≠ []) (htidy : ∀ h ∈ members, h.Tidy) :
    members.flatMap unionMembers ≠ [] := by
  obtain ⟨h, hh⟩ := List.exists_mem_of_ne_nil members hsome
  intro hnone
  exact (htidy h hh).unionMembers_ne_nil (List.flatMap_eq_nil_iff.mp hnone h hh)

/-! ## Values in place of hints -/

/-- The first category among the metadata of a hint. -/
def marked? : Hint → Option Category
  | annotated _ metadata => markedCategory? metadata
  | _ => none

/-- The second hint has the category and the metadata of the first, and it is tidy if the first is. -/
structure Conserves (h h' : Hint) : Prop where
  inferred_eq : h'.inferred = h.inferred
  marked_eq : h'.marked? = h.marked?
  tidy : h.Tidy → h'.Tidy

theorem Conserves.refl (h : Hint) : Conserves h h := ⟨rfl, rfl, id⟩

theorem ensures_ofForward (name : String) : Ensures (fun h => h = forward name) (ofForward name) := by
  unfold ofForward
  extract_lets expression
  cases Written.readWhole expression with
  | ok _ => exact .ok rfl
  | error fault =>
    dsimp only
    split <;> exact .error _

/-- The hint that a value stands for has its category. -/
theorem ensures_convert (h : Hint) : Ensures (Conserves h) h.convert := by
  unfold convert
  split
  · exact .ok ⟨rfl, rfl, fun _ => trivial⟩
  · split
    case h_1 name htext =>
      -- A text is no hint with metadata, and its category is that of what is to be looked up.
      rintro h' hh'
      rw [ensures_ofForward name h' hh']
      cases h with
      | text | category | member => exact ⟨by simp [inferred], rfl, fun _ => trivial⟩
      | _ => cases htext
    case h_2 => exact .ok (.refl h)

/-- So does the hint that it is taken for. -/
theorem ensures_check (h : Hint) (complaint : String) (place : Place) :
    Ensures (Conserves h) (h.check complaint place) := by
  refine .bind fun h' hh' => ?_
  have hconserves : Conserves h h' := ensures_convert h h' hh'
  refine .guard ?_
  split
  · split
    · exact .ok hconserves
    · exact .error _
  · exact .error _
  · split
    · exact .error _
    · exact .ok hconserves

theorem ensures_checkAll (complaint : String) (htidy : ∀ h ∈ members, h.Tidy) :
    Ensures (fun checked => checked.length = members.length ∧ ∀ h ∈ checked, h.Tidy)
      (checkAll complaint members) := by
  induction members with
  | nil => exact .ok ⟨rfl, htidy⟩
  | cons h rest ih =>
    obtain ⟨hhead, hrest⟩ := List.forall_mem_cons.mp htidy
    refine .bind fun h' hh' => .bind fun checked hchecked => ?_
    obtain ⟨hlength, hall⟩ := ih hrest checked hchecked
    have htidy' : h'.Tidy := (ensures_check h _ _ h' hh').tidy hhead
    exact .ok ⟨by rw [List.length_cons, List.length_cons, hlength], List.forall_mem_cons.mpr ⟨htidy', hall⟩⟩

/-! ## Unions without bars -/

theorem sublist_distinct (members : List Hint) : (distinct members).Sublist members := by
  induction members with
  | nil => exact .slnil
  | cons h rest ih => exact (List.filter_sublist.trans ih).cons_cons h

theorem pairwise_distinct (members : List Hint) :
    (distinct members).Pairwise fun h other => h.same other = false := by
  induction members with
  | nil => exact .nil
  | cons h rest ih =>
    refine .cons (fun other hother => ?_) (ih.filter _)
    simpa using (List.mem_filter.mp hother).2

theorem distinct_ne_nil (hsome : members ≠ []) : distinct members ≠ [] := by
  cases members with
  | nil => exact absurd rfl hsome
  | cons h rest => exact List.cons_ne_nil _ _

theorem ensures_tidy_joined (hsome : members ≠ []) (htidy : ∀ h ∈ members, h.Tidy) :
    Ensures Tidy (joined members) := by
  rw [joined]
  split
  case h_1 => exact .error _
  case h_2 =>
    -- The members of unions are no unions, so one step makes the list flat.
    have hpairwise := pairwise_distinct (members.flatMap unionMembers)
    have hnonempty := distinct_ne_nil (flatMap_unionMembers_ne_nil hsome htidy)
    have hstands : ∀ m ∈ distinct (members.flatMap unionMembers), m.standsIn false := by
      intro m hm
      obtain ⟨h, hh, hmember⟩ := List.mem_flatMap.mp ((sublist_distinct _).subset hm)
      exact (htidy h hh).standsIn m hmember
    generalize distinct (members.flatMap unionMembers) = kept at hpairwise hnonempty hstands ⊢
    match kept with
    | [] => exact absurd rfl hnonempty
    | [h] => exact .ok (tidy_of_standsIn (hstands h List.mem_cons_self))
    | _ :: _ :: _ => exact .ok ⟨by simp, hpairwise, hstands⟩

/-! ## Unions with bars -/

theorem sublist_distinctMembers (members : List Hint) : (distinctMembers members).Sublist members := by
  induction members with
  | nil => exact .slnil
  | cons h rest ih => exact (List.filter_sublist.trans ih).cons_cons h

theorem pairwise_distinctMembers (members : List Hint) :
    (distinctMembers members).Pairwise fun h other => sameMember h other = false := by
  induction members with
  | nil => exact .nil
  | cons h rest ih =>
    refine .cons (fun other hother => ?_) (ih.filter _)
    simpa using (List.mem_filter.mp hother).2

/-- What can stand in a union with bars is the same member just if it is equal. -/
theorem same_eq_sameMember (hh : h.standsIn true) (hother : other.standsIn true) :
    h.same other = sameMember h other := by
  cases h with
  | cls c _ =>
    cases other with
    | cls d _ => simp [same, sameAtom, sameMember, ratio?, text?]
    | applied => simp [same, sameAtom, sameMember, ratio?, text?]
    | submodel => simp [same, sameAtom, sameMember, ratio?, text?]
    | _ => cases hother
  | applied origin _ _ =>
    cases other with
    | cls d _ => simp [same, sameAtom, sameMember, ratio?, text?]
    | applied => rfl
    | submodel => simp [same, sameAtom, sameMember, ratio?, text?]
    | _ => cases hother
  | submodel c _ _ =>
    cases other with
    | cls d _ => simp [same, sameAtom, sameMember, ratio?, text?]
    | applied => simp [same, sameAtom, sameMember, ratio?, text?]
    | submodel => rfl
    | _ => cases hother
  | _ => cases hh

/-- What takes a bar brings members that can stand in a union with bars, where `None` is its class. -/
theorem standsIn_of_takesBar (htidy : h.Tidy) (htakes : h.takesBar) :
    ∀ m ∈ h.unionMembers, m = nothing ∨ m.standsIn true := by
  cases h with
  | nothing => exact List.forall_mem_singleton.mpr (.inl rfl)
  | cls => exact List.forall_mem_singleton.mpr (.inr rfl)
  | applied => exact List.forall_mem_singleton.mpr (.inr rfl)
  | submodel => exact List.forall_mem_singleton.mpr (.inr rfl)
  | union bar members =>
    cases bar with
    | true => exact fun m hm => .inr (htidy.2.2 m hm)
    | false => cases htakes
  | _ => cases htakes

theorem tidy_barred (hsome : members ≠ []) (htidy : ∀ h ∈ members, h.Tidy) (htakes : ∀ h ∈ members, h.takesBar) :
    (barred members).Tidy := by
  unfold barred
  have hmap : ∀ m ∈ (members.flatMap unionMembers).map asMember, m.standsIn true := by
    intro m hm
    obtain ⟨m', hm', rfl⟩ := List.mem_map.mp hm
    obtain ⟨h, hh, hmember⟩ := List.mem_flatMap.mp hm'
    rcases standsIn_of_takesBar (htidy h hh) (htakes h hh) m' hmember with rfl | hstands
    · rfl
    · cases m' with
      | nothing => rfl
      | _ => exact hstands
  -- `None` becomes its class only after unions were opened, so the rest is as for other unions.
  have hnonempty : distinctMembers ((members.flatMap unionMembers).map asMember) ≠ [] := by
    have hflat := flatMap_unionMembers_ne_nil hsome htidy
    cases hcons : members.flatMap unionMembers with
    | nil => exact absurd hcons hflat
    | cons m rest => exact List.cons_ne_nil _ _
  have hpairwise := pairwise_distinctMembers ((members.flatMap unionMembers).map asMember)
  have hstands : ∀ m ∈ distinctMembers ((members.flatMap unionMembers).map asMember), m.standsIn true :=
    fun m hm => hmap m ((sublist_distinctMembers _).subset hm)
  generalize distinctMembers ((members.flatMap unionMembers).map asMember) = kept at *
  match kept with
  | [] => exact absurd rfl hnonempty
  | [h] => exact tidy_of_standsIn (hstands h List.mem_cons_self)
  | first :: second :: rest =>
    refine ⟨by simp, hpairwise.imp_of_mem fun hh hother hsame => ?_, hstands⟩
    rw [same_eq_sameMember (hstands _ hh) (hstands _ hother), hsame]

/-! ## Optional hints -/

theorem inferredPresent_eq (members : List Hint) :
    inferredPresent members = (members.filter fun h => !h.isNoneType).map inferred := by
  induction members with
  | nil => rfl
  | cons h rest ih =>
    rw [inferredPresent, ih, List.filter_cons]
    cases h.isNoneType <;> rfl

/-- A union does not say whether the class of `None` is among its members. -/
theorem inferred_union_append (bar bar' : Bool) (members : List Hint) {more : List Hint}
    (hmore : ∀ h ∈ more, h.isNoneType) :
    (union bar (members ++ more)).inferred = (union bar' members).inferred := by
  have hnone : (more.filter fun h => !h.isNoneType) = [] :=
    List.filter_eq_nil_iff.mpr fun h hh => by simp [hmore h hh]
  rw [inferred, inferred, inferredPresent_eq, inferredPresent_eq, List.filter_append, hnone, List.append_nil]

theorem inferred_union_single (bar : Bool) (hsome : h.isNoneType = false) :
    (union bar [h]).inferred = h.inferred := by
  simp [inferred, inferredPresent, hsome]

theorem same_noneType (h : Hint) : h.same noneType = h.isNoneType := by
  cases h <;> simp [same, sameAtom, noneType, isNoneType, ratio?, text?]

/-- The class of `None` comes last among members that are different, unless it is one of them. -/
theorem distinct_append_noneType (hdistinct : members.Pairwise fun h other => h.same other = false) :
    distinct (members ++ [noneType]) = members ++ if members.any isNoneType then [] else [noneType] := by
  induction members with
  | nil => rfl
  | cons h rest ih =>
    obtain ⟨hhead, hrest⟩ := List.pairwise_cons.mp hdistinct
    have hkept : (rest.filter fun other => !h.same other) = rest :=
      List.filter_eq_self.mpr fun other hother => by simp [hhead other hother]
    rw [List.cons_append, distinct, ih hrest, List.filter_append, hkept, List.any_cons, List.cons_append]
    cases hany : rest.any isNoneType <;> cases hnone : h.isNoneType <;> simp [same_noneType, hnone]

/-- A tidy hint or `None` has the category of the hint. -/
theorem ensures_inferred_joined (htidy : h.Tidy) :
    Ensures (fun o => o.inferred = h.inferred) (joined [h, noneType]) := by
  have hmembers : [h, noneType].flatMap unionMembers = h.unionMembers ++ [noneType] := by
    simp [unionMembers, noneType]
  have hlast : ∀ m ∈ [noneType], m.isNoneType := List.forall_mem_singleton.mpr rfl
  rw [joined, hmembers]
  split
  case h_1 => exact .error _
  case h_2 =>
    rcases union_or_single h with ⟨bar, members, rfl⟩ | ⟨hsingle, -⟩
    · obtain ⟨hseveral, hdistinct, -⟩ := htidy
      rw [unionMembers, distinct_append_noneType hdistinct]
      match members, hseveral with
      | first :: second :: rest, _ =>
        -- There are several members, so a union is made whether `None` is new among them or not.
        refine .ok (inferred_union_append false bar (first :: second :: rest) fun m hm => ?_)
        split at hm
        · cases hm
        · exact hlast m hm
    · rw [hsingle, distinct_append_noneType (List.pairwise_singleton _ h), List.any_cons, List.any_nil,
        Bool.or_false]
      cases hnone : h.isNoneType with
      | true => exact .ok rfl
      | false => exact .ok ((inferred_union_append false false [h] hlast).trans (inferred_union_single false hnone))

theorem ensures_checkAll_noneType (h : Hint) (complaint : String) :
    Ensures (fun checked => ∃ h', checked = [h', noneType] ∧ Conserves h h') (checkAll complaint [h, noneType]) := by
  have hlast : checkAll complaint [noneType] = .ok [noneType] := rfl
  refine .bind fun h' hh' => ?_
  rw [hlast]
  exact .ok ⟨h', rfl, ensures_check h _ _ h' hh'⟩

/-- An optional hint has the category of the hint, and is tidy. -/
theorem ensures_optional (htidy : h.Tidy) : Ensures (fun o => o.inferred = h.inferred ∧ o.Tidy) h.optional := by
  refine .bind fun h' hh' => .bind fun checked hchecked => ?_
  have hconserves : Conserves h h' := ensures_check h _ _ h' hh'
  obtain ⟨h'', rfl, hconserves'⟩ := ensures_checkAll_noneType h' _ checked hchecked
  have htidy'' : h''.Tidy := hconserves'.tidy (hconserves.tidy htidy)
  have hnone : noneType.Tidy := trivial
  intro o ho
  refine ⟨?_, ensures_tidy_joined (List.cons_ne_nil _ _) (by simp [htidy'', hnone]) o ho⟩
  rw [ensures_inferred_joined htidy'' o ho, hconserves'.inferred_eq, hconserves.inferred_eq]

end SchemaRegistry.Hint
