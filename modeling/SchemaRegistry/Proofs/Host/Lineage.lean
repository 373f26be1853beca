import SchemaRegistry.Host.Inventory

/-!
# The row of a subclass

A class is put in a row with its ancestors when it is declared, by merging the rows of its bases. If it has one
base only, there is nothing to merge: its row is the class itself and then the row of the base. The row is kept as
a list of numbers, so this is a property of the whole universe, and declarations of every kind have to keep it.

`Universe.Orderly` is that property. `Ensures` says what a computation results in if it succeeds; with it each way
to declare a class is looked at once.
-/

namespace SchemaRegistry

/-! ## Computations that may fail -/

/-- What the computation results in, if it succeeds, has the property. -/
def Ensures {α : Type} (P : α → Prop) (x : Except Failure α) : Prop := ∀ a, x = .ok a → P a

namespace Ensures

variable {α β : Type} {P : β → Prop}

theorem ok {b : β} (h : P b) : Ensures P (.ok b) := by
  rintro _ ⟨⟩
  exact h

theorem error (e : Failure) : Ensures P (.error e) := fun _ h => nomatch h

theorem bind {x : Except Failure α} {f : α → Except Failure β} (h : ∀ a, x = .ok a → Ensures P (f a)) :
    Ensures P (x >>= f) := by
  cases x with
  | error e => exact error e
  | ok a => exact h a rfl

/-- What comes after a check is all that counts. -/
theorem guard {c : Prop} [Decidable c] {e : Failure} {rest : Except Failure β} (h : Ensures P rest) :
    Ensures P (if c then throw e >>= fun _ : PUnit => rest else rest) := by
  split
  · exact error e
  · exact h

end Ensures

/-! ## Merging the row of a single base -/

namespace Linearization

/-- The only head of some rows is taken, unless it stands in a tail. -/
theorem merge_head {c : Nat} {rest other : List Nat} (hother : other = [] ∨ other = [c]) {merged : List Nat}
    {steps : Nat} (h : merge [c :: rest, other] (steps + 1) = .ok merged) :
    ∃ tail, merge [rest, []] steps = .ok tail ∧ merged = c :: tail := by
  have hdrop : [c :: rest, other].map (dropHead c) = [rest, []] := by
    rcases hother with rfl | rfl <;> simp [dropHead]
  by_cases hrepeated : c ∈ rest
  · -- No head is left to take, and the merge fails.
    have hnone : nextHead? [c :: rest, other] = none := by
      rcases hother with rfl | rfl <;> simp [nextHead?, inTail, hrepeated]
    rw [merge, hnone] at h
    cases h
  · have hnext : nextHead? [c :: rest, other] = some c := by
      rcases hother with rfl | rfl <;> simp [nextHead?, inTail, hrepeated]
    rw [merge, hnext] at h
    simp only [hdrop] at h
    cases hrest : merge [rest, []] steps with
    | error e =>
      rw [hrest] at h
      cases h
    | ok tail =>
      rw [hrest] at h
      cases h
      exact ⟨tail, rfl, rfl⟩

/-- A row that is merged with nothing stays as it is. -/
theorem eq_of_merge {row merged : List Nat} {steps : Nat} (h : merge [row, []] steps = .ok merged)
    (hsteps : row.length ≤ steps) : merged = row := by
  induction row generalizing merged steps with
  | nil =>
    cases steps <;> cases h <;> rfl
  | cons c rest ih =>
    obtain ⟨steps, rfl⟩ := Nat.exists_eq_add_one_of_ne_zero (Nat.ne_zero_of_lt hsteps)
    obtain ⟨tail, htail, rfl⟩ := merge_head (.inl rfl) h
    rw [ih htail (Nat.le_of_succ_le_succ hsteps)]

/-- The ancestors of a class with one base are the row of the base. -/
theorem eq_of_ancestors_singleton {base : Nat} {rest merged : List Nat}
    (h : ancestors [base] [base :: rest] = .ok merged) : merged = base :: rest := by
  have hsteps : ([base :: rest] ++ [[base]]).flatten.length = rest.length + 1 + 1 := by simp
  rw [ancestors, hsteps] at h
  obtain ⟨tail, htail, rfl⟩ := merge_head (.inr rfl) h
  rw [eq_of_merge htail (Nat.le_succ _)]

end Linearization

namespace Universe

variable {u u' : Universe} {c : HostClass}

/-! ## Orderly universes -/

/-- Where a class stands: its bases and its row. -/
def standing? (u : Universe) (id : Nat) : Option (List Nat × List Nat) :=
  (u.find? id).map fun c => (c.bases, c.lineage)

/-- Classes are numbered as they come, each after its bases, and each row begins with its class and goes on with
that of its base, if there is only one. -/
structure Orderly (u : Universe) : Prop where
  below : ∀ c ∈ u.classes, c.ref.id < u.next
  before {id : Nat} {bases row : List Nat} : u.standing? id = some (bases, row) → ∀ base ∈ bases, base < id
  first {id : Nat} {bases row : List Nat} : u.standing? id = some (bases, row) → ∃ rest, row = id :: rest
  single {id base : Nat} {row bases above : List Nat} : u.standing? id = some ([base], row) →
    u.standing? base = some (bases, above) → row = id :: above

theorem Orderly.of_standing (h : u.Orderly) (hnext : u.next ≤ u'.next)
    (hids : ∀ c ∈ u'.classes, ∃ old ∈ u.classes, old.ref.id = c.ref.id)
    (hsame : ∀ id, u'.standing? id = u.standing? id) : u'.Orderly where
  below c hc := by
    obtain ⟨old, hold, hid⟩ := hids c hc
    exact hid ▸ Nat.lt_of_lt_of_le (h.below old hold) hnext
  before hstanding := h.before (hsame _ ▸ hstanding)
  first hstanding := h.first (hsame _ ▸ hstanding)
  single hstanding hbase := h.single (hsame _ ▸ hstanding) (hsame _ ▸ hbase)

/-- The class with a number has it. -/
theorem id_of_find? {id : Nat} {c : HostClass} (h : u.find? id = some c) : c.ref.id = id := by
  rw [find?] at h
  simpa using List.find?_some h

/-- Whether some classes are orderly can be told class by class. -/
theorem Orderly.of_forall
    (h : ∀ c ∈ u.classes, c.ref.id < u.next ∧ c.lineage.head? = some c.ref.id ∧
      ∀ base ∈ c.bases, base < c.ref.id ∧ (c.bases = [base] → ∀ standing ∈ u.standing? base,
        c.lineage = c.ref.id :: standing.2)) : u.Orderly := by
  have hfound {id : Nat} {bases row : List Nat} (hstanding : u.standing? id = some (bases, row)) :
      ∃ c ∈ u.classes, c.ref.id = id ∧ c.bases = bases ∧ c.lineage = row := by
    obtain ⟨c, hc, hparts⟩ := Option.map_eq_some_iff.mp hstanding
    exact ⟨c, List.mem_of_find?_eq_some hc, id_of_find? hc, Prod.ext_iff.mp hparts⟩
  refine ⟨fun c hc => (h c hc).1, fun hstanding base hbase => ?_, fun hstanding => ?_,
    fun hstanding hbase => ?_⟩
  · obtain ⟨c, hc, rfl, rfl, -⟩ := hfound hstanding
    exact ((h c hc).2.2 base hbase).1
  · obtain ⟨c, hc, rfl, -, rfl⟩ := hfound hstanding
    exact List.head?_eq_some_iff.mp (h c hc).2.1
  · obtain ⟨c, hc, rfl, hbases, rfl⟩ := hfound hstanding
    exact ((h c hc).2.2 _ (by simp [hbases])).2 hbases _ hbase

theorem standing?_cons (c : HostClass) (classes : List HostClass) (next id : Nat) :
    standing? ⟨c :: classes, next⟩ id =
      if c.ref.id = id then some (c.bases, c.lineage) else standing? ⟨classes, next⟩ id := by
  by_cases hid : c.ref.id = id <;> simp [standing?, find?, hid]

theorem Orderly.lt_of_standing (h : u.Orderly) {id : Nat} (hstanding : (u.standing? id).isSome) :
    id < u.next := by
  obtain ⟨c, hc⟩ := Option.isSome_iff_exists.mp (Option.isSome_map.symm.trans hstanding)
  exact id_of_find? hc ▸ h.below c (List.mem_of_find?_eq_some hc)

/-- A class that is entered stands before its ancestors, and its bases are classes that were there. -/
structure Entered (u : Universe) (entered : HostClass × Universe) : Prop where
  universe_eq : entered.2 = ⟨entered.1 :: u.classes, u.next + 1⟩
  id_eq : entered.1.ref.id = u.next
  known : ∀ base ∈ entered.1.bases, (u.standing? base).isSome
  lineage : ∃ ancestors, u.ancestorsOf entered.1.bases = .ok ancestors ∧ entered.1.lineage = u.next :: ancestors

/-- The ancestors of a class with one base. -/
theorem Orderly.eq_of_ancestorsOf (h : u.Orderly) {base : Nat} {bases above ancestors : List Nat}
    (hbase : u.standing? base = some (bases, above)) (hancestors : u.ancestorsOf [base] = .ok ancestors) :
    ancestors = above := by
  obtain ⟨rest, rfl⟩ := h.first hbase
  have hrow : ((u.find? base).map (·.lineage)).getD [] = base :: rest := by
    obtain ⟨c, hc, hstanding⟩ := Option.map_eq_some_iff.mp hbase
    obtain ⟨-, hlineage⟩ := Prod.ext_iff.mp hstanding
    rw [hc]
    exact hlineage
  simp only [ancestorsOf, repeated?, List.contains_nil, Bool.false_eq_true, if_false, List.map_cons,
    List.map_nil, hrow] at hancestors
  cases hmerged : Linearization.ancestors [base] [base :: rest] with
  | error heads =>
    rw [hmerged] at hancestors
    cases hancestors
  | ok merged =>
    rw [hmerged] at hancestors
    cases hancestors
    exact Linearization.eq_of_ancestors_singleton hmerged

/-- Entering a class leaves a universe orderly. -/
theorem Entered.orderly {entered : HostClass × Universe} (h : u.Entered entered) (horderly : u.Orderly) :
    entered.2.Orderly := by
  obtain ⟨c, u'⟩ := entered
  obtain ⟨huniverse, hid, hknown, ancestors, hancestors, hlineage⟩ := h
  dsimp only at huniverse hid hknown hancestors hlineage ⊢
  subst huniverse
  constructor
  case below =>
    intro d hd
    rcases List.mem_cons.mp hd with rfl | hd
    · exact hid ▸ Nat.lt_succ_self _
    · exact Nat.lt_succ_of_lt (horderly.below d hd)
  case before =>
    intro id bases row hstanding base hbase
    rw [standing?_cons] at hstanding
    split at hstanding
    case isTrue hsame =>
      cases hstanding
      exact hsame ▸ hid ▸ horderly.lt_of_standing (hknown base hbase)
    case isFalse => exact horderly.before hstanding base hbase
  case first =>
    intro id bases row hstanding
    rw [standing?_cons] at hstanding
    split at hstanding
    case isTrue hsame =>
      cases hstanding
      exact ⟨ancestors, by rw [hlineage, ← hsame, hid]⟩
    case isFalse => exact horderly.first hstanding
  case single =>
    intro id base row bases above hstanding hbase
    rw [standing?_cons] at hstanding hbase
    split at hstanding
    case isTrue hsame =>
      obtain ⟨hbases, rfl⟩ := Prod.ext_iff.mp (Option.some.inj hstanding)
      dsimp only at hbases hlineage ⊢
      have hbefore : base < u.next := horderly.lt_of_standing (hknown base (by simp [hbases]))
      have hother : ¬ c.ref.id = base := by omega
      rw [if_neg hother] at hbase
      rw [hbases] at hancestors
      rw [hlineage, ← hid, hsame, horderly.eq_of_ancestorsOf hbase hancestors]
    case isFalse =>
      have hnext : id < u.next := horderly.lt_of_standing (hstanding ▸ Option.isSome_some)
      have hbefore : base < id := horderly.before hstanding base (by simp)
      have hother : ¬ c.ref.id = base := by omega
      rw [if_neg hother] at hbase
      exact horderly.single hstanding hbase

/-! ## Entering classes -/

/-- What the ancestors say about a class does not concern where it stands. -/
theorem afterHooks_ensures (u : Universe) (changed : Bool) (given : List Hint) (bases : List ClassRef)
    (c : HostClass) (hooks : List Hint) :
    Ensures (fun d : HostClass => d.ref = c.ref ∧ d.bases = c.bases ∧ d.lineage = c.lineage)
      (u.afterHooks changed given bases c hooks) := by
  induction hooks with
  | nil => exact .ok ⟨rfl, rfl, rfl⟩
  | cons hook rest ih =>
    unfold afterHooks
    split
    case h_6 heq =>
      cases heq
      exact .bind fun d hd => .bind fun parameters _ => .ok (ih d hd)
    case h_7 heq =>
      cases heq
      exact .bind fun d hd => .bind fun isProtocol _ => .ok (ih d hd)
    all_goals first | exact .ok ⟨rfl, rfl, rfl⟩ | exact .error _

/-- Nor do its variables. -/
theorem withModelParameters_ensures (u : Universe) (given : List Hint) (bases : List ClassRef)
    (row : List HostClass) (c : HostClass) :
    Ensures (fun d : HostClass => d.ref = c.ref ∧ d.bases = c.bases ∧ d.lineage = c.lineage)
      (u.withModelParameters given bases row c) := by
  unfold withModelParameters
  extract_lets inherited isOwn
  repeat' split
  all_goals first | exact .ok ⟨rfl, rfl, rfl⟩ | exact .error _

/-- All bases with a layout are known. -/
theorem layoutOf_ensures (u : Universe) (best : Option (HostClass × Nat)) (bases : List ClassRef) :
    Ensures (fun _ => ∀ base ∈ bases, (u.standing? base.id).isSome) (u.layoutOf best bases) := by
  induction bases generalizing best with
  | nil => exact .ok fun _ h => nomatch h
  | cons base rest ih =>
    have hfurther (c : HostClass) (hc : u.find? base.id = some c) (best : Option (HostClass × Nat)) :
        Ensures (fun _ => ∀ other ∈ base :: rest, (u.standing? other.id).isSome) (u.layoutOf best rest) := by
      intro found hfound other hother
      rcases List.mem_cons.mp hother with rfl | hother
      · rw [standing?, hc, Option.map_some, Option.isSome_some]
      · exact ih best found hfound other hother
    unfold layoutOf
    split
    case h_1 => exact .error _
    case h_2 c hc =>
      dsimp only
      repeat' split
      all_goals first | exact .error _ | exact hfurther c hc _

/-- A class that is entered. -/
theorem enter_ensures (u : Universe) (spec : ClassSpec) (maker : Maker) (given : List Hint) (changed : Bool)
    (bases : List ClassRef) (dataType : Option Nat) (enumerated : List (String × Hint)) :
    Ensures (Entered u) (u.enter spec maker given changed bases dataType enumerated) := by
  unfold enter
  refine .bind fun best hbest => .bind fun hasSlots _ => .bind fun _ _ => .bind fun qualifiedName _ =>
    .bind fun ancestors hancestors => .bind fun _ _ => .bind fun hooked hhooked => .bind fun c hc => .ok ?_
  obtain ⟨href, hbases, hlineage⟩ : c.ref = _ ∧ c.bases = _ ∧ c.lineage = _ := by
    obtain ⟨href, hbases, hlineage⟩ := withModelParameters_ensures _ _ _ _ _ c hc
    rw [href, hbases, hlineage]
    exact afterHooks_ensures _ _ _ _ _ _ hooked hhooked
  refine ⟨rfl, congrArg ClassRef.id href, fun base hbase => ?_, ancestors, by rw [hbases]; exact hancestors,
    hlineage⟩
  rw [hbases] at hbase
  obtain ⟨known, hknown, rfl⟩ := List.mem_map.mp hbase
  exact layoutOf_ensures u none _ best hbest known hknown

/-- A class that is declared is entered, and stands where it was entered. -/
structure Declared (u : Universe) (declared : HostClass × Universe) : Prop where
  orderly : u.Orderly → declared.2.Orderly
  first : ∃ classes, declared.2.classes = declared.1 :: classes

theorem Entered.declared {entered : HostClass × Universe} (h : u.Entered entered) : u.Declared entered :=
  ⟨h.orderly, u.classes, by rw [h.universe_eq]⟩

theorem declareTable_ensures (u : Universe) (spec : ClassSpec) (given : List Hint) (changed : Bool)
    (bases : List ClassRef) : Ensures (Declared u) (u.declareTable spec given changed bases) := by
  unfold declareTable
  refine .bind fun _ _ => .bind fun entered hentered => ?_
  have h := enter_ensures _ _ _ _ _ _ _ _ _ hentered
  dsimp only
  split
  · exact .error _
  · refine .bind fun own _ => .ok ⟨fun horderly => ?_, _, rfl⟩
    have huniverse := h.universe_eq
    refine (h.orderly horderly).of_standing (Nat.le_refl _) (fun d hd => ?_) fun id => ?_
    · rcases List.mem_cons.mp hd with rfl | hd
      · exact ⟨entered.1, by simp [huniverse], rfl⟩
      · exact ⟨d, by simp [huniverse, hd], rfl⟩
    · -- The class with all annotations stands where the class with its own does.
      rw [standing?_cons, huniverse, standing?_cons]

theorem declareRow_ensures (u : Universe) (spec : ClassSpec) (bases : List Hint) :
    Ensures (Declared u) (u.declareRow spec bases) := by
  have henter (spec : ClassSpec) (bases : List ClassRef) :
      Ensures (Declared u) (u.enter spec .ordinary [] false bases none []) :=
    fun entered h => (enter_ensures _ _ _ _ _ _ _ _ entered h).declared
  unfold declareRow
  refine .bind fun resolved _ => ?_
  dsimp only
  exact .guard (.bind fun _ _ => .bind fun own _ => .bind fun _ _ => .guard (.bind fun _ _ =>
    .bind fun _ _ => .bind fun _ _ => .guard (.guard (henter _ _))))

theorem declare_ensures (u : Universe) (spec : ClassSpec) : Ensures (Declared u) (u.declare spec) := by
  have henter (maker : Maker) (changed : Bool) (bases : List ClassRef) (dataType : Option Nat)
      (enumerated : List (String × Hint)) :
      Ensures (Declared u) (u.enter spec maker spec.bases changed bases dataType enumerated) :=
    fun entered h => (enter_ensures _ _ _ _ _ _ _ _ entered h).declared
  unfold declare
  dsimp only
  split
  · exact declareRow_ensures u spec spec.bases
  · refine .bind fun resolved _ => .bind fun bases _ => .bind fun maker _ => ?_
    split
    · exact declareTable_ensures u spec _ _ _
    · exact .bind fun _ _ => .bind fun _ _ => .bind fun _ _ => henter _ _ _ _ _
    · exact henter _ _ _ _ _

/-! ## Record classes -/

theorem asRecord_ensures (u : Universe) (c : HostClass) :
    Ensures (fun d : HostClass => d.ref = c.ref ∧ d.bases = c.bases ∧ d.lineage = c.lineage)
      (u.asRecord c) := by
  unfold asRecord
  dsimp only
  split
  · exact .error _
  · refine .bind fun own _ => ?_
    split
    · exact .error _
    · exact .bind fun _ _ => .ok ⟨rfl, rfl, rfl⟩

/-- A class that is replaced stands where it stood. -/
theorem Orderly.amend (h : u.Orderly) {d : HostClass} (hfind : u.find? c.ref.id = some c)
    (hsame : d.ref = c.ref ∧ d.bases = c.bases ∧ d.lineage = c.lineage) : (u.amend d).Orderly := by
  obtain ⟨href, hbases, hlineage⟩ := hsame
  refine h.of_standing (Nat.le_refl _) (fun e he => ?_) fun id => ?_
  · obtain ⟨old, hold, rfl⟩ := List.mem_map.mp he
    refine ⟨old, hold, ?_⟩
    split
    case isTrue hid => exact hid
    case isFalse => rfl
  · have hkept : (fun e : HostClass => e.ref.id == id) ∘ (fun old => if old.ref.id = d.ref.id then d else old) =
        fun e => e.ref.id == id := by
      funext old
      by_cases hid : old.ref.id = d.ref.id <;> simp [hid]
    rw [standing?, standing?, find?, Universe.amend, List.find?_map, hkept, Option.map_map]
    refine Option.map_congr fun old hold => ?_
    rw [Function.comp_apply]
    split
    case isTrue hid =>
      have hfound : old.ref.id = id := by simpa using List.find?_some hold
      rw [← hfound, hid, href] at hold
      obtain rfl := Option.some.inj (hold.symm.trans hfind)
      rw [hbases, hlineage]
    case isFalse => rfl

end Universe

/-- The row of a class with one base: the class and then the row of the base. -/
theorem Universe.Orderly.lineage_eq {u : Universe} {r r' : ClassRef} {c d : HostClass} (h : u.Orderly)
    (hc : u.find? r.id = some c) (hd : u.find? r'.id = some d) (hbase : d.bases = [c.ref.id]) :
    u.lineage r' = d :: u.lineage r := by
  have hstanding {id : Nat} {e : HostClass} (he : u.find? id = some e) :
      u.standing? id = some (e.bases, e.lineage) := by rw [standing?, he, Option.map_some]
  rw [id_of_find? hc] at hbase
  have hrow : d.lineage = r'.id :: c.lineage := h.single (hbase ▸ hstanding hd) (hstanding hc)
  simp only [lineage, hd, hc]
  rw [hrow, row, List.filterMap_cons_some hd, row]

end SchemaRegistry
