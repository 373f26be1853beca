import SchemaRegistry.Host.Inventory

/-!
# Failures of evaluation

Evaluating an annotation can fail in many ways, but not with an error of the service: such an error is what the
service makes of a failure. So an error of the service that reading a host type ends with was made there, and says
what it was made for, unless a text is evaluated that calls the service itself (`Workspace.failsPlainly_evaluate`).
`Scope.read` does not, which is shown for each function that it goes through, one lemma for each.
-/

namespace SchemaRegistry

/-- If the computation fails, then not with an error of the service. -/
def FailsPlainly {α : Type} (x : Except Failure α) : Prop := ∀ error, x ≠ .error (.service error)

namespace FailsPlainly

variable {α β : Type}

theorem ne_service {x : Except Failure α} (h : FailsPlainly x) {e : Failure} (he : x = .error e)
    {error : ServiceError} : e ≠ .service error := by
  rintro rfl
  exact h error he

theorem ok (a : α) : FailsPlainly (.ok a) := fun _ h => nomatch h

theorem raised (exception : ExceptionClass) (message : String) :
    FailsPlainly (.error (.raised exception message) : Except Failure α) :=
  fun _ h => nomatch h

theorem ofType (message : String) : FailsPlainly (.error (.ofType message) : Except Failure α) := raised _ _

theorem unhashable (typeName : String) : FailsPlainly (.error (.unhashableType typeName) : Except Failure α) :=
  ofType _

theorem bind {x : Except Failure α} {f : α → Except Failure β} (h : FailsPlainly x)
    (hf : ∀ a, FailsPlainly (f a)) : FailsPlainly (x >>= f) := by
  cases x with
  | ok a => exact hf a
  | error e =>
    rintro error ⟨⟩
    exact h error rfl

/-- A check in front of a computation. -/
theorem guard {c : Prop} [Decidable c] {message : String} {rest : Except Failure β} (h : FailsPlainly rest) :
    FailsPlainly (if c then throw (.ofType message) >>= fun _ : PUnit => rest else rest) := by
  split
  · exact ofType message
  · exact h

theorem ite {c : Prop} [Decidable c] {x y : Except Failure α} (hx : FailsPlainly x) (hy : FailsPlainly y) :
    FailsPlainly (if c then x else y) := by
  split
  · exact hx
  · exact hy

theorem map {x : Except Failure α} (h : FailsPlainly x) (f : α → β) : FailsPlainly (x.map f) := by
  cases x with
  | ok a => exact ok (f a)
  | error e =>
    rintro error ⟨⟩
    exact h error rfl

theorem mapM {f : α → Except Failure β} (hf : ∀ a, FailsPlainly (f a)) (l : List α) :
    FailsPlainly (l.mapM f) := by
  induction l with
  | nil => exact ok []
  | cons a l ih =>
    rw [List.mapM_cons]
    exact (hf a).bind fun b => ih.bind fun bs => ok (b :: bs)

theorem foldlM {f : β → α → Except Failure β} (hf : ∀ b a, FailsPlainly (f b a)) (l : List α) (b : β) :
    FailsPlainly (l.foldlM f b) := by
  induction l generalizing b with
  | nil => exact ok b
  | cons a l ih =>
    rw [List.foldlM_cons]
    exact (hf b a).bind ih

/-- A computation that may not be there, with one that stands in for it. -/
theorem getD {x : Option (Except Failure α)} {y : Except Failure α} (hx : ∀ z ∈ x, FailsPlainly z)
    (hy : FailsPlainly y) : FailsPlainly (x.getD y) := by
  cases x with
  | none => exact hy
  | some z => exact hx z rfl

end FailsPlainly

namespace Hint

/-! ## Making hints of hints -/

theorem failsPlainly_ofForward (name : String) : FailsPlainly (ofForward name) := by
  unfold ofForward
  extract_lets expression
  cases Written.readWhole expression with
  | ok _ => exact .ok _
  | error fault =>
    dsimp only
    split <;> exact .raised _ _

theorem failsPlainly_convert (h : Hint) : FailsPlainly h.convert := by
  unfold convert
  split
  · exact .ok _
  · split
    · exact failsPlainly_ofForward _
    · exact .ok _

theorem failsPlainly_check (h : Hint) (complaint : String) (place : Place) :
    FailsPlainly (h.check complaint place) := by
  refine .bind (failsPlainly_convert h) fun h' => .guard ?_
  split
  · exact .ite (.ok _) (.ofType _)
  · exact .ofType _
  · exact .ite (.ofType _) (.ok _)

theorem failsPlainly_checkAll (complaint : String) (members : List Hint) :
    FailsPlainly (checkAll complaint members) := by
  induction members with
  | nil => exact .ok []
  | cons h rest ih => exact .bind (failsPlainly_check h complaint .argument) fun _ => .bind ih fun _ => .ok _

theorem failsPlainly_joined (members : List Hint) : FailsPlainly (joined members) := by
  unfold joined
  extract_lets members
  split
  · exact .unhashable _
  · split <;> exact .ok _

theorem failsPlainly_unionOf (members : List Hint) : FailsPlainly (unionOf members) :=
  .guard (.bind (failsPlainly_checkAll _ members) failsPlainly_joined)

theorem failsPlainly_optional (h : Hint) : FailsPlainly h.optional :=
  .bind (failsPlainly_check h _ .argument) fun _ => failsPlainly_unionOf _

theorem failsPlainly_either (a b : Hint) : FailsPlainly (either a b) := by
  unfold either
  split
  case h_4 =>
    split
    · exact .ok _
    · exact .ite (failsPlainly_unionOf _) (.ite (.ok _) (.ofType _))
  all_goals exact .ok _

theorem failsPlainly_eitherOf (members : List Hint) : FailsPlainly (eitherOf members) := by
  cases members with
  | nil => exact .ofType _
  | cons h rest => exact .foldlM failsPlainly_either rest h

theorem failsPlainly_annotate (parts : List Hint) : FailsPlainly (annotate parts) := by
  unfold annotate
  split
  case h_3 =>
    refine .bind (failsPlainly_check _ _ .annotated) fun h => ?_
    split
    · exact .raised _ _
    · exact .ok _
  all_goals exact .ofType _

/-! ## Arguments -/

theorem failsPlainly_checkHashable (h : Hint) : FailsPlainly h.checkHashable := by
  unfold checkHashable
  split
  · exact .unhashable _
  · exact .ok _

theorem failsPlainly_checkCount (shown : String) (actual expected : Nat) :
    FailsPlainly (checkCount shown actual expected) :=
  .ite (.ofType _) (.ite (.ok _) (.ofType _))

mutual

theorem failsPlainly_substitute (given : List (Nat × Hint)) : ∀ h : Hint, FailsPlainly (h.substitute given)
  | typeVar id name => by
    rw [substitute]
    split
    · exact failsPlainly_check _ _ .argument
    · exact .ok _
  | applied origin supertype args => by
    rw [substitute]
    exact .bind (failsPlainly_substituteAll given args) fun _ => .ok _
  | filled name origin args => by
    rw [substitute]
    exact .bind (failsPlainly_substituteAll given args) fun _ => .ok _
  | formed f args => by
    rw [substitute]
    exact .bind (failsPlainly_substituteAll given args) fun _ => .ok _
  | union true members => by
    rw [substitute]
    exact .bind (failsPlainly_substituteAll given members) failsPlainly_eitherOf
  | union false members => by
    rw [substitute]
    exact .bind (failsPlainly_substituteAll given members) failsPlainly_unionOf
  | literal values => by
    rw [substitute]
    exact .bind (failsPlainly_substituteAll given values) fun _ => .ok _
  | annotated base metadata => by
    rw [substitute]
    exact .bind (failsPlainly_substitute given base) fun _ => .ok _
  | nothing | flag _ | whole _ | real _ | text _ | ellipsis | sequence _ | tuple _ | set _ | dict _
  | category _ | member .. | cls .. | submodel .. | named .. | form _ | newType .. | initVar .. | forward _
  | function _ | slice .. | other .. => .ok _

theorem failsPlainly_substituteAll (given : List (Nat × Hint)) :
    ∀ hints : List Hint, FailsPlainly (substituteAll given hints)
  | [] => .ok []
  | h :: rest => by
    rw [substituteAll]
    exact .bind (failsPlainly_substitute given h) fun _ => .bind (failsPlainly_substituteAll given rest) fun _ => .ok _

end

theorem failsPlainly_withArguments (h : Hint) (args : List Hint) : FailsPlainly (h.withArguments args) :=
  .bind (failsPlainly_checkCount _ _ _) fun _ => failsPlainly_substitute _ h

theorem failsPlainly_functionParts (key : Hint) : FailsPlainly (functionParts key) := by
  unfold functionParts
  split
  · exact .ok _
  · exact .ofType _

theorem failsPlainly_functionOf (origin : ClassRef) (key : Hint) : FailsPlainly (functionOf origin key) := by
  refine .bind (failsPlainly_functionParts key) fun (args, result) => ?_
  refine .bind (failsPlainly_check result _ .argument) fun _ => ?_
  split
  · exact .ok _
  · exact .bind (.mapM failsPlainly_convert _) fun _ => .ok _
  · exact .bind (.mapM failsPlainly_convert _) fun _ => .ok _
  · exact .bind (failsPlainly_convert _) fun _ => .ok _

theorem failsPlainly_tupleOf (origin : ClassRef) (key : Hint) : FailsPlainly (tupleOf origin key) := by
  unfold tupleOf
  extract_lets parts endsOpen
  exact .ite (.bind (failsPlainly_checkAll _ _) fun _ => .ok _) (.bind (failsPlainly_checkAll _ _) fun _ => .ok _)

theorem failsPlainly_namedItem (name : String) (origin : ClassRef) (key : Hint) :
    FailsPlainly (namedItem name origin key) :=
  .ite (failsPlainly_functionOf origin key)
    (.ite (failsPlainly_tupleOf origin key)
      (.bind (failsPlainly_checkAll _ _) fun _ => .bind (failsPlainly_checkCount _ _ _) fun _ => .ok _))

theorem failsPlainly_formItem (f : SpecialForm) (key : Hint) : FailsPlainly (formItem f key) := by
  have hone (complaint : String) : FailsPlainly (oneArgument f complaint key) :=
    .bind (failsPlainly_check key complaint .argument) fun _ => .ok _
  cases f with
  | classVar | final | typeGuard | unpack | required | notRequired => exact hone _
  | union => exact failsPlainly_unionOf _
  | optional => exact failsPlainly_optional key
  | literal => exact .ok _
  | concatenate =>
    simp only [formItem]
    split
    · exact .ofType _
    · exact .bind (failsPlainly_checkAll _ _) fun _ => .ok _
    · exact .ofType _
  | _ => exact .ofType _

/-! ## Parts of values -/

theorem failsPlainly_partAt (what : String) (items : List Hint) (index : Int) :
    FailsPlainly (partAt what items index) := by
  unfold partAt
  extract_lets place
  split
  · exact .ok _
  · exact .raised _ _

theorem failsPlainly_bound? (h : Hint) : FailsPlainly h.bound? := by
  unfold bound?
  split
  · exact .ok _
  · split
    · exact .ok _
    · exact .ofType _

theorem failsPlainly_partsAt {α : Type} (items : List α) (start stop step : Hint) :
    FailsPlainly (partsAt items start stop step) := by
  refine .bind (failsPlainly_bound? step) fun _ => ?_
  dsimp only
  split
  · exact .raised _ _
  · exact .bind (failsPlainly_bound? start) fun _ => .bind (failsPlainly_bound? stop) fun _ => .ok _

theorem failsPlainly_valueAt (entries : List Hint) (key : Hint) : FailsPlainly (valueAt entries key) := by
  unfold valueAt
  split
  · exact .unhashable _
  · dsimp only
    split
    · exact .ok _
    · exact .raised _ _

theorem failsPlainly_rowItem (what : String) (items : List Hint) (ofParts : List Hint → Hint) (key : Hint) :
    FailsPlainly (rowItem what items ofParts key) := by
  unfold rowItem
  split
  · exact .bind (failsPlainly_partsAt items _ _ _) fun _ => .ok _
  · split
    · exact failsPlainly_partAt what items _
    · exact .ofType _

theorem failsPlainly_valueItem (h key : Hint) : FailsPlainly (valueItem h key) := by
  unfold valueItem
  split
  · exact failsPlainly_rowItem _ _ _ key
  · exact failsPlainly_rowItem _ _ _ key
  · exact failsPlainly_valueAt _ key
  · split
    · exact failsPlainly_rowItem _ _ _ key
    · exact .ofType _

end Hint

namespace Universe

open Hint

/-! ## Items -/

theorem failsPlainly_baseArguments (c : ClassRef) (args : List Hint) : FailsPlainly (baseArguments c args) :=
  .guard (.guard (.guard (.ok _)))

mutual

theorem failsPlainly_refill (u : Universe) (given : List (Nat × Hint)) : ∀ h : Hint, FailsPlainly (u.refill given h)
  | .submodel c supertype args => by
    rw [refill]
    exact .bind (failsPlainly_refillAll u given args) fun _ => .ok _
  | .sequence items => by
    rw [refill]
    exact .bind (failsPlainly_refillAll u given items) fun _ => .ok _
  | .typeVar .. => .ok _
  | .nothing | .flag _ | .whole _ | .real _ | .text _ | .ellipsis | .tuple _ | .set _ | .dict _ | .category _
  | .member .. | .cls .. | .applied .. | .named .. | .filled .. | .form _ | .formed .. | .union .. | .literal _
  | .newType .. | .annotated .. | .initVar .. | .forward _ | .function _ | .slice .. | .other .. =>
    failsPlainly_substitute given _

theorem failsPlainly_refillAll (u : Universe) (given : List (Nat × Hint)) :
    ∀ hints : List Hint, FailsPlainly (u.refillAll given hints)
  | [] => .ok []
  | h :: rest => by
    rw [refillAll]
    exact .bind (failsPlainly_refill u given h) fun _ => .bind (failsPlainly_refillAll u given rest) fun _ => .ok _

end

theorem failsPlainly_modelItem (u : Universe) (h : Hint) (c : ClassRef) (supertype : Option Hint) (args : List Hint)
    (key : Hint) : FailsPlainly (u.modelItem h c supertype args key) :=
  .bind (failsPlainly_checkCount _ _ _) fun _ =>
    .ite (.ok _) (.bind (failsPlainly_refillAll u _ args) fun _ => .ok _)

theorem failsPlainly_itemByRule (u : Universe) (c : ClassRef) (rule : String) (key : Hint) :
    FailsPlainly (u.itemByRule c rule key) := by
  unfold itemByRule
  split
  · refine .bind (.mapM failsPlainly_convert _) fun args => ?_
    exact .ite (failsPlainly_baseArguments c args) (.bind (failsPlainly_checkCount _ _ _) fun _ => .ok _)
  · exact failsPlainly_annotate _
  · refine .bind (failsPlainly_functionParts key) fun parts => ?_
    obtain ⟨args, result⟩ := parts
    dsimp only
    split
    · exact .ok _
    · exact .ok _
    · exact .ite (.ok _) (.ofType _)
  · exact .bind (failsPlainly_checkHashable key) fun _ => .guard (.guard (failsPlainly_modelItem u _ c _ _ key))
  · exact .ok _

theorem failsPlainly_enumeratedItem (u : Universe) (c : ClassRef) (key : Hint) :
    FailsPlainly (u.enumeratedItem c key) := by
  unfold enumeratedItem
  split
  · exact .unhashable _
  · split
    · exact .ok _
    · exact .raised _ _

theorem failsPlainly_classItem (u : Universe) (c : ClassRef) (key : Hint) : FailsPlainly (u.classItem c key) := by
  refine .ite (failsPlainly_enumeratedItem u c key) (.ite (.ok _) ?_)
  split
  · exact failsPlainly_itemByRule u c _ key
  · exact .ok _
  · exact .ok _
  · exact .ofType _
  · exact .ofType _
  · exact .ofType _

theorem failsPlainly_item (u : Universe) (h key : Hint) : FailsPlainly (u.item h key) := by
  have hargs (h : Hint) : FailsPlainly (key.keyParts.mapM convert >>= h.withArguments) :=
    .bind (.mapM failsPlainly_convert _) (failsPlainly_withArguments h)
  unfold item
  split
  · exact failsPlainly_formItem _ key
  · exact failsPlainly_namedItem _ _ key
  · exact failsPlainly_classItem u _ key
  · exact .bind (failsPlainly_checkHashable key) fun _ => failsPlainly_modelItem u _ _ _ _ key
  · exact .guard (hargs _)
  all_goals first
    | exact .guard (hargs _)
    | exact failsPlainly_withArguments _ _
    | exact failsPlainly_valueItem _ key

/-! ## Members -/

theorem failsPlainly_classMember (u : Universe) (c : ClassRef) (name : String) :
    FailsPlainly (u.classMember c name) := by
  unfold classMember
  split
  · exact .raised _ _
  · extract_lets own facts
    split
    · exact .ok _
    · exact .ite (.ok _) (.raised _ _)

theorem failsPlainly_moduleMember (moduleName name : String) : FailsPlainly (moduleMember moduleName name) := by
  unfold moduleMember
  split
  · exact .ok _
  · exact .raised _ _

set_option maxRecDepth 1024 in
theorem failsPlainly_memberAt (u : Universe) (h : Hint) (name : String) : FailsPlainly (u.memberAt h name) := by
  unfold memberAt
  split
  · exact .ok _
  extract_lets bare common
  have hcommon : FailsPlainly common := .ite (.ok _) (.ite (.ok _) (.raised _ _))
  have hclass (c : ClassRef) : FailsPlainly (if isSpecial name then common else u.classMember c name) :=
    .ite hcommon (failsPlainly_classMember u c name)
  clear_value common
  split
  all_goals first
    | exact hcommon
    | exact hclass _
    | exact failsPlainly_classMember u _ name
    | exact failsPlainly_moduleMember _ name
    | exact .ite (.ok _) (.ite (.ok _) (.raised _ _))

/-! ## Calls -/

theorem failsPlainly_instanceOf (u : Universe) (c : ClassRef) (args : List Hint) :
    FailsPlainly (u.instanceOf c args) :=
  .ite (.ok _) (.ite (.ofType _) (.ok _))

theorem failsPlainly_memberByValue (u : Universe) (c : ClassRef) (args : List Hint) :
    FailsPlainly (u.memberByValue c args) := by
  unfold memberByValue
  split
  · exact .ofType _
  · split
    · exact .ok _
    · exact .raised _ _

theorem failsPlainly_sliceOf (args : List Hint) : FailsPlainly (sliceOf args) := by
  unfold sliceOf
  split
  all_goals first
    | exact .ok _
    | exact .ofType _

theorem failsPlainly_classCall (u : Universe) (c : ClassRef) (args : List Hint) :
    FailsPlainly (u.classCall c args) := by
  unfold classCall
  split
  · split
    · exact .ok _
    · exact .ok _
    · exact .ofType _
  · exact .ite (.ofType _) (.ite (failsPlainly_memberByValue u c args)
      (.ite (failsPlainly_sliceOf args) (failsPlainly_instanceOf u c args)))

theorem failsPlainly_call (u : Universe) (head : Hint) (args : List Hint) : FailsPlainly (u.call head args) := by
  unfold call
  split
  case h_12 =>
    split
    · exact .ok _
    · exact .ofType _
  all_goals first
    | exact failsPlainly_classCall u _ args
    | exact .ite (.ofType _) (failsPlainly_instanceOf u _ args)
    | exact .ok _
    | exact .ofType _

end Universe

namespace Hint

/-! ## Operators -/

theorem failsPlainly_negated (sign : String) (h : Hint) : FailsPlainly (negated sign h) := by
  unfold negated
  extract_lets bad
  split
  all_goals first
    | exact .ok _
    | exact .ofType _

/-- A division that a zero stands in the way of. -/
theorem failsPlainly_divided {c : Prop} [Decidable c] (message : String) (h : Hint) :
    FailsPlainly (if c then .error (zeroDivision message) else .ok h) :=
  .ite (.raised _ _) (.ok _)

theorem failsPlainly_wholeResult? (sign : String) (m n : Int) :
    ∀ x ∈ wholeResult? sign m n, FailsPlainly x := by
  unfold wholeResult?
  split
  case h_7 =>
    rintro x ⟨⟩
    exact .ite (.ite (.ok _) (.ok _)) (failsPlainly_divided _ _)
  case h_8 | h_9 =>
    rintro x ⟨⟩
    exact .ite (.raised _ _) (.ite (.ok _) (.ite (.ok _) (.ok _)))
  case h_12 => exact fun _ h => nomatch h
  all_goals
    rintro x ⟨⟩
    first
      | exact .ok _
      | exact failsPlainly_divided _ _

theorem failsPlainly_inexactResult? (sign : String) (a b : Quantity) :
    ∀ x ∈ inexactResult? sign a b, FailsPlainly x := by
  unfold inexactResult?
  extract_lets typeName result
  have hresult (divides : Option String) : ∀ x ∈ result divides, FailsPlainly x := by
    cases divides with
    | none =>
      rintro x ⟨⟩
      exact .ok _
    | some message =>
      rintro x ⟨⟩
      exact failsPlainly_divided _ _
  clear_value result typeName
  split
  all_goals first
    | exact hresult _
    | exact fun _ h => nomatch h

theorem failsPlainly_extended (a b : Hint) : FailsPlainly (extended a b) := by
  unfold extended
  split
  · exact .ok _
  · exact .ok _
  · split
    · exact .ok _
    · exact .ofType _

theorem failsPlainly_multiplied (row times : Hint) : FailsPlainly (multiplied row times) := by
  unfold multiplied
  split
  · exact .ok _
  · exact .ofType _

theorem failsPlainly_formatted (s : String) (values : Hint) : FailsPlainly (formatted s values) :=
  .ite (.ofType _) (.ok _)

theorem failsPlainly_combined (sign : String) (a b : Hint) : FailsPlainly (combined sign a b) := by
  unfold combined
  extract_lets bad
  have hbad : FailsPlainly bad := .ofType _
  split
  · exact failsPlainly_either _ _
  · exact .ok _
  · exact .ok _
  · split
    · exact .ok _
    · exact hbad
  · split
    · exact .getD (failsPlainly_wholeResult? _ _ _) hbad
    · exact .getD (failsPlainly_inexactResult? _ _ _) hbad
    · split
      · exact .ite (failsPlainly_extended _ _) hbad
      · exact .ite (failsPlainly_multiplied _ _) (.ite (failsPlainly_multiplied _ _) hbad)
      · split
        · exact failsPlainly_formatted _ _
        · exact hbad
      · exact hbad

/-- Two values that are not rows of one kind. -/
theorem failsPlainly_ordered_of (sign : String) {a b : Hint}
    (hsequence : ∀ items items', a = sequence items → b = sequence items' → False)
    (htuple : ∀ items items', a = tuple items → b = tuple items' → False) : FailsPlainly (ordered sign a b) := by
  unfold ordered
  split
  · exact (hsequence _ _ rfl rfl).elim
  · exact (htuple _ _ rfl rfl).elim
  · exact .ok _
  · split
    · refine .ite (.ofType _) ?_
      split <;> exact .ok _
    · exact .ok _
    · exact .ofType _

theorem failsPlainly_ordered (sign : String) : ∀ a b : Hint, FailsPlainly (ordered sign a b) := by
  refine (ordered.mutual_induct sign _ (fun l l' => FailsPlainly (orderedRows sign l l'))
    ?sequences ?tuples ?_ ?_ ?_ ?_ ?_ ?_ ?_ ?_ ?ended ?shorter ?longer ?alike ?decided).1
  case sequences | tuples =>
    intro items items' ih
    rw [ordered]
    exact ih
  case ended | shorter | longer =>
    intros
    rw [orderedRows]
    exact .ok _
  case alike | decided =>
    intro h rest h' rest' hsame ih
    simp only [orderedRows, hsame]
    exact ih
  all_goals
    intros
    exact failsPlainly_ordered_of sign (by first | assumption | nofun) (by first | assumption | nofun)

theorem failsPlainly_isPartOf (a whole : Hint) : FailsPlainly (isPartOf a whole) := by
  unfold isPartOf
  extract_lets isIn hashed
  have hhashed (items : List Hint) : FailsPlainly (hashed items) := by
    dsimp only [hashed]
    split
    · exact .unhashable _
    · exact .ok _
  split
  · exact .ok _
  · exact .ok _
  · exact hhashed _
  · exact hhashed _
  · split
    · exact .ok _
    · exact .ofType _
    · exact .ofType _

theorem failsPlainly_compared (sign : String) (a b : Hint) : FailsPlainly (compared sign a b) := by
  unfold compared
  split
  case h_5 => exact failsPlainly_isPartOf a b
  case h_6 => exact .map (failsPlainly_isPartOf a b) _
  case h_7 => exact failsPlainly_ordered _ a b
  all_goals exact .ok _

/-! ## Displays of values -/

theorem failsPlainly_spreadItems (h : Hint) : FailsPlainly h.spreadItems := by
  unfold spreadItems
  split
  · exact .ok _
  · exact .ofType _

theorem failsPlainly_spreadEntries (h : Hint) : FailsPlainly h.spreadEntries := by
  unfold spreadEntries
  split
  · exact .ok _
  · exact .ofType _

theorem failsPlainly_setOf (items : List Hint) : FailsPlainly (setOf items) := by
  unfold setOf
  split
  · exact .unhashable _
  · exact .ok _

theorem failsPlainly_dictOf (entries : List Hint) : FailsPlainly (dictOf entries) := by
  unfold dictOf
  extract_lets keys
  split
  · exact .unhashable _
  · exact .ok _

end Hint

/-! ## Expressions -/

theorem Scope.failsPlainly_lookup (s : Scope) (name : String) : FailsPlainly (s.lookup name) := by
  unfold Scope.lookup
  split
  · exact .ok _
  · exact .raised _ _

namespace Expression

open Hint

variable (s : Scope)

theorem failsPlainly_values_cons {e : Expression} {rest : List Expression} (he : FailsPlainly (e.value s))
    (hrest : FailsPlainly (values s rest)) : FailsPlainly (values s (e :: rest)) := by
  unfold values
  split
  · exact .ok _
  case h_2 heq =>
    obtain ⟨rfl, rfl⟩ := List.cons.inj heq
    rw [value] at he
    exact .bind he fun h => .bind (failsPlainly_spreadItems h) fun _ => .bind hrest fun _ => .ok _
  case h_3 heq =>
    obtain ⟨rfl, rfl⟩ := List.cons.inj heq
    exact .bind he fun _ => .bind hrest fun _ => .ok _

theorem failsPlainly_entriesOf_cons {e : Expression} {rest : List Expression} (he : FailsPlainly (e.value s))
    (hrest : FailsPlainly (entriesOf s rest)) : FailsPlainly (entriesOf s (e :: rest)) := by
  unfold entriesOf
  split
  · exact .ok _
  case h_2 heq =>
    obtain ⟨rfl, rfl⟩ := List.cons.inj heq
    rw [value] at he
    exact .bind he fun h => .bind (failsPlainly_spreadEntries h) fun _ => .bind hrest fun _ => .ok _
  case h_3 heq =>
    obtain ⟨rfl, rfl⟩ := List.cons.inj heq
    exact .bind he fun _ => .bind hrest fun _ => .ok _

mutual

theorem failsPlainly_value : ∀ e : Expression, FailsPlainly (e.value s)
  | constant _ => .ok _
  | name n => s.failsPlainly_lookup n
  | member of n => by
    rw [value]
    exact .bind (failsPlainly_value of) fun h => s.classes.failsPlainly_memberAt h n
  | item of key => by
    rw [value]
    exact .bind (failsPlainly_value of) fun h => .bind (failsPlainly_value key) (s.classes.failsPlainly_item h)
  | call head args => by
    rw [value]
    exact .bind (failsPlainly_value head) fun h => .bind (failsPlainly_values args) (s.classes.failsPlainly_call h)
  | unary sign of => by
    rw [value]
    exact .bind (failsPlainly_value of) (failsPlainly_negated sign)
  | binary sign left right => by
    rw [value]
    exact .bind (failsPlainly_value left) fun a => .bind (failsPlainly_value right) (failsPlainly_combined sign a)
  | comparison first signs operands => by
    rw [value]
    exact .bind (failsPlainly_value first) fun h => failsPlainly_chained h signs operands
  | junction both left right => by
    rw [value]
    exact .bind (failsPlainly_value left) fun a => .ite (failsPlainly_value right) (.ok a)
  | choice yes condition no => by
    rw [value]
    exact .bind (failsPlainly_value condition) fun _ => .ite (failsPlainly_value yes) (failsPlainly_value no)
  | tuple items => by
    rw [value]
    exact .bind (failsPlainly_values items) fun _ => .ok _
  | sequence items => by
    rw [value]
    exact .bind (failsPlainly_values items) fun _ => .ok _
  | set items => by
    rw [value]
    exact .bind (failsPlainly_values items) failsPlainly_setOf
  | dict entries => by
    rw [value]
    exact .bind (failsPlainly_entriesOf entries) failsPlainly_dictOf
  | spread of | named _ of | bound _ of => by
    rw [value]
    exact failsPlainly_value of
  | function => .ok _
  | comprehension typeName source => by
    rw [value]
    refine .bind (failsPlainly_value source) fun h => ?_
    split
    · exact .ok _
    · exact .ok _
    · exact fun _ h => nomatch h
  | slice start stop step => by
    rw [value]
    exact .bind (failsPlainly_value start) fun _ => .bind (failsPlainly_value stop) fun _ =>
      .bind (failsPlainly_value step) fun _ => .ok _
  | misplaced .. => .ok _

theorem failsPlainly_values : ∀ es : List Expression, FailsPlainly (values s es)
  | [] => .ok []
  | e :: rest => failsPlainly_values_cons s (failsPlainly_value e) (failsPlainly_values rest)

theorem failsPlainly_entriesOf : ∀ es : List Expression, FailsPlainly (entriesOf s es)
  | [] => .ok []
  | e :: rest => failsPlainly_entriesOf_cons s (failsPlainly_value e) (failsPlainly_entriesOf rest)

theorem failsPlainly_chained (left : Hint) (signs : List String) :
    ∀ operands : List Expression, FailsPlainly (chained s left signs operands)
  | [] => .ok left
  | operand :: rest => by
    rw [chained]
    refine .bind (failsPlainly_value operand) fun right => .bind (failsPlainly_compared _ left right) fun _ => ?_
    exact .ite (failsPlainly_chained right signs.tail rest) (.ok _)

end

end Expression

theorem Scope.failsPlainly_read (s : Scope) (text : String) : FailsPlainly (s.read text) := by
  unfold Scope.read
  split
  · exact Expression.failsPlainly_value s _
  · exact .raised _ _

namespace Workspace

theorem failsPlainly_scopeOf (w : Workspace) (c : HostClass) : FailsPlainly (w.scopeOf c) := by
  unfold scopeOf
  extract_lets own inModule
  split
  · exact .ok _
  · exact .ok _
  · exact .ok _
  · exact .ofType _

/-- If no text fails to evaluate with an error of the service, no annotation does. -/
theorem failsPlainly_evaluate {w : Workspace} (hplain : ∀ s text, FailsPlainly (w.evaluator s text)) (c : HostClass)
    (a : Annotation) : FailsPlainly (w.evaluate c a) := by
  unfold evaluate
  split
  · split
    · exact .bind (failsPlainly_scopeOf w c) fun s => hplain s _
    · exact .ok _
  · exact .bind (failsPlainly_scopeOf w c) fun _ => .raised _ _

end Workspace

end SchemaRegistry
