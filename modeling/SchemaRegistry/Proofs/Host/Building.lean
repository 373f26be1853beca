import SchemaRegistry.Proofs.Host.NeatClasses

/-!
# Workspaces that are built

Building the forms of classes and hints leaves a workspace sound: each class stands in a row with its ancestors, and
no class holds an untidy union. So it is for every workspace that is built (`Workspace.Built.sound`), and every hint
that is built or evaluated in one is neat (`Hint.Made.neat`).

`Leads` says what a step of building leads to, and `Makes` what sound steps make. There is one lemma for each form. The
evaluator of a workspace is never exchanged, so that is part of `Leads`.
-/

namespace SchemaRegistry

open Hint

/-- The classes of the workspace stand in rows with their ancestors and hold neat hints only. -/
structure Workspace.Sound (w : Workspace) : Prop where
  orderly : w.classes.Orderly
  neat : w.classes.Neat

/-! ## Steps -/

namespace Building

variable {α β : Type}

/-- If the property holds before the step and the step succeeds, the other one holds of its result and what it
leaves behind, with the same evaluator. -/
def Leads (P : Workspace → Prop) (x : Building α) (Q : α → Workspace → Prop) : Prop :=
  ∀ w, P w → Ensures (fun (a, w') => w'.evaluator = w.evaluator ∧ Q a w') (x.run w)

theorem Leads.bind {P : Workspace → Prop} {Q : α → Workspace → Prop} {R : β → Workspace → Prop} {x : Building α}
    {f : α → Building β} (hx : Leads P x Q) (hf : ∀ a, Leads (Q a) (f a) R) : Leads P (x >>= f) R := by
  intro w hw
  rw [StateT.run_bind]
  refine .bind fun result hresult final hfinal => ?_
  obtain ⟨hsame, hresult⟩ := hx w hw result hresult
  obtain ⟨hsame', hfinal⟩ := hf result.1 result.2 hresult final hfinal
  exact ⟨hsame'.trans hsame, hfinal⟩

/-- A computation that may fail leaves everything as it is. -/
theorem leads_lift {P : Workspace → Prop} {S : α → Prop} {x : Except Failure α} (h : Ensures S x) :
    Leads P (liftM x : Building α) fun a w => P w ∧ S a := by
  intro w hw
  cases x with
  | error e => exact .error e
  | ok a => exact .ok ⟨rfl, hw, h a rfl⟩

theorem leads_get {P : Workspace → Prop} : Leads P (get : Building Workspace) fun read w => P w ∧ read = w :=
  fun _ hw => .ok ⟨rfl, hw, rfl⟩

theorem leads_set {P Q : Workspace → Prop} {w : Workspace}
    (h : ∀ before, P before → w.evaluator = before.evaluator ∧ Q w) : Leads P (set w : Building PUnit) fun _ => Q :=
  fun before hbefore => .ok (h before hbefore)

variable {P : α → Prop} {Q : β → Prop}

/-- In a sound workspace the step makes something with the property and leaves the workspace sound. -/
abbrev Makes (P : α → Prop) (x : Building α) : Prop := Leads Workspace.Sound x fun a w => w.Sound ∧ P a

theorem Makes.leads {R : β → Workspace → Prop} {x : Building α} {f : α → Building β} (hx : Makes P x)
    (hf : ∀ a, P a → Leads Workspace.Sound (f a) R) : Leads Workspace.Sound (x >>= f) R :=
  .bind hx fun a w ⟨hw, ha⟩ => hf a ha w hw

theorem Makes.bind {x : Building α} {f : α → Building β} (hx : Makes P x) (hf : ∀ a, P a → Makes Q (f a)) :
    Makes Q (x >>= f) :=
  hx.leads hf

theorem Makes.pure {a : α} (h : P a) : Makes P (Pure.pure a : Building α) := fun _ hw => .ok ⟨rfl, hw, h⟩

theorem Makes.lift {x : Except Failure α} (h : Ensures P x) : Makes P (liftM x : Building α) := leads_lift h

theorem Makes.throw (e : Failure) : Makes P (throw e : Building α) := fun _ _ => .error e

theorem Makes.mapM {f : α → Building β} (h : ∀ a, Makes Q (f a)) (l : List α) :
    Makes (fun made => ∀ b ∈ made, Q b) (l.mapM f) := by
  induction l with
  | nil => exact .pure (List.forall_mem_nil _)
  | cons a l ih =>
    rw [List.mapM_cons]
    exact .bind (h a) fun b hb => .bind ih fun bs hbs => .pure (List.forall_mem_cons.mpr ⟨hb, hbs⟩)

/-- What a computation makes that nothing is known about. -/
theorem Makes.check (x : Except Failure α) : Makes (fun _ => True) (liftM x : Building α) :=
  .lift fun _ _ => trivial

theorem makes_get : Makes Workspace.Sound (get : Building Workspace) := fun _ hw => .ok ⟨rfl, hw, hw⟩

/-- A number is taken by nothing. -/
theorem makes_fresh : Makes (fun _ => True) fresh := by
  refine Leads.bind leads_get fun w => Leads.bind (Q := fun _ => Workspace.Sound) ?_ fun _ _ hw =>
    .ok ⟨rfl, hw, trivial⟩
  rintro _ ⟨hw, rfl⟩
  exact .ok ⟨rfl, hw.orderly.of_standing (Nat.le_succ _) (fun c hc => ⟨c, hc, rfl⟩) fun _ => rfl, hw.neat⟩

variable {declare : Universe → Except Failure (HostClass × Universe)}

theorem leads_enter (hdeclared : ∀ u, Ensures (Universe.Declared u) (declare u))
    (hneat : ∀ u : Universe, u.Neat → Ensures (fun declared : HostClass × Universe => declared.2.Neat) (declare u)) :
    Leads Workspace.Sound (enter declare) fun c w => w.Sound ∧ w.classes.find? c.ref.id = some c := by
  refine .bind leads_get fun w => .bind (leads_lift (S := fun entered => w.classes.Declared entered ∧
    (w.classes.Neat → entered.2.Neat)) fun entered hentered => ?_) fun entered => ?_
  · exact ⟨hdeclared _ _ hentered, fun hw => hneat _ hw _ hentered⟩
  · rintro _ ⟨⟨hw, rfl⟩, hentered, hneat⟩
    obtain ⟨classes, hfirst⟩ := hentered.first
    exact .ok ⟨rfl, ⟨hentered.orderly hw.orderly, hneat hw.neat⟩, by simp [Universe.find?, hfirst]⟩

theorem makes_hintOf (hdeclared : ∀ u, Ensures (Universe.Declared u) (declare u))
    (hneat : ∀ u : Universe, u.Neat → Ensures (fun declared : HostClass × Universe => declared.2.Neat) (declare u)) :
    Makes Hint.Neat (hintOf declare) :=
  Leads.bind (leads_enter hdeclared hneat) fun c _ hw => .ok ⟨rfl, hw.1, hw.1.neat.hintOf c.ref⟩

/-- The hint of a class that is declared with neat hints. -/
theorem makes_declare {spec : Universe → ClassSpec} (hspec : ∀ u : Universe, u.Neat → (spec u).Neat) :
    Makes Hint.Neat (hintOf fun u => u.declare (spec u)) :=
  makes_hintOf (fun u => u.declare_ensures _) fun _ hu => Universe.declare_ensures_neat hu (hspec _ hu)

end Building

open Building

/-! ## Values -/

namespace Hint

mutual

theorem neat_ofJson : ∀ value : Json, (ofJson value).Neat
  | .null => neat_nothing
  | .bool _ => neat_flag _
  | .int _ => neat_whole _
  | .float _ => neat_real _
  | .str _ => neat_text _
  | .illFormed _ => neat_ofType _
  | .arr items => by
    rw [ofJson]
    exact neat_sequence.mpr (neat_of_mem_ofJsonAll items)
  | .obj fields => by
    rw [ofJson]
    exact neat_dict.mpr (neat_of_mem_ofFields fields)

theorem neat_of_mem_ofJsonAll : ∀ values : List Json, ∀ h ∈ ofJsonAll values, h.Neat
  | [] => List.forall_mem_nil _
  | value :: rest => by
    rw [ofJsonAll]
    exact List.forall_mem_cons.mpr ⟨neat_ofJson value, neat_of_mem_ofJsonAll rest⟩

theorem neat_of_mem_ofFields : ∀ fields : List (String × Json), ∀ h ∈ ofFields fields, h.Neat
  | [] => List.forall_mem_nil _
  | (name, value) :: rest => by
    rw [ofFields]
    have hentry : (tuple [text name, ofJson value]).Neat := neat_tuple.mpr (by simp [neat_ofJson value])
    exact List.forall_mem_cons.mpr ⟨hentry, neat_of_mem_ofFields rest⟩

end

theorem ensures_neat_ofMetadatum (m : Metadatum) : Ensures Neat (ofMetadatum m) := by
  unfold ofMetadatum
  split
  · split
    · exact .ok (neat_category _)
    · exact .error _
  · exact .error _
  · exact .ok (neat_ofJson _)

end Hint

/-! ## Enumerations -/

namespace Enumeration

theorem ensures_neat_pair (value : Json) : Ensures (fun entry : String × Hint => entry.2.Neat) (pair value) := by
  unfold pair
  split
  · exact .ok (neat_ofJson _)
  · split
    · exact .ok (neat_text _)
    · exact .error _
  · exact .error _

theorem neat_generated (traits : List Trait) (isText : Bool) (index : Nat) (name : String) :
    (generated traits isText index name).Neat := by
  unfold generated
  repeat' split
  · exact neat_whole _
  · exact neat_text _
  · exact neat_whole _

theorem neat_of_mem_numbered (traits : List Trait) (isText : Bool) (names : List String) :
    ∀ entry ∈ numbered traits isText names, entry.2.Neat := by
  intro entry hentry
  obtain ⟨⟨name, index⟩, -, rfl⟩ := List.mem_map.mp hentry
  exact neat_generated traits isText index name

theorem ensures_neat_described (traits : List Trait) (isText : Bool) (members : Json) :
    Ensures (fun found => ∀ entry ∈ found, entry.2.Neat) (described traits isText members) := by
  unfold described
  extract_lets textOf
  split
  · exact .ok (neat_of_mem_numbered traits isText _)
  · refine .ok fun entry hentry => ?_
    obtain ⟨⟨name, value⟩, -, rfl⟩ := List.mem_map.mp hentry
    exact neat_ofJson value
  · exact .ok (neat_of_mem_numbered traits isText _)
  · exact .mapM fun value _ => ensures_neat_pair value
  · exact .error _

end Enumeration

theorem makes_enumerateClass (c : ClassRef) (name : String) (members : Json) :
    Makes Hint.Neat (Universe.enumerateClass c name members) := by
  refine .bind makes_get fun w _ => ?_
  dsimp only
  split
  · refine .bind (.check _) fun _ _ => .bind (.lift (Enumeration.ensures_neat_described _ _ members))
      fun found hfound => makes_declare fun u hu => ?_
    exact ⟨List.forall_mem_singleton.mpr (hu.hintOf c), List.forall_mem_nil _,
      List.forall_mem_cons.mpr ⟨neat_text _, hfound⟩⟩
  · split
    · exact .throw _
    · exact .pure (neat_other _ _)

theorem makes_enumerate (base : Hint) (name : String) (members : Json) :
    Makes Hint.Neat (Universe.enumerate base name members) := by
  unfold Universe.enumerate
  split
  · exact makes_enumerateClass _ name members
  · exact makes_enumerateClass _ name members
  · exact .bind makes_get fun w hw => .lift (Universe.ensures_neat_call hw.neat _ (by simp [neat_ofJson]))

/-! ## Forms -/

namespace Form

theorem neat_of_mem_rowMembers : ∀ entry ∈ rowMembers, entry.2.Neat := by simp [rowMembers]

/-- The members of a class that is declared on the spot. -/
theorem neat_of_mem_newMembers (methods : List String) {supertype : Option Hint} (h : ∀ of ∈ supertype, of.Neat) :
    ∀ entry ∈ (methods.map (fun m => (m, Hint.function m)) ++
      (supertype.map fun of => (Universe.supertypeMember, of)).toList).foldl Universe.putMember [], entry.2.Neat := by
  refine Universe.forall_mem_foldl Universe.eq_or_mem_of_putMember (List.forall_mem_nil _)
    (List.forall_mem_append.mpr ⟨by simp, ?_⟩)
  cases supertype with
  | none => exact List.forall_mem_nil _
  | some of => exact List.forall_mem_singleton.mpr (h of rfl)

mutual

/-- Every form builds a neat hint and leaves the workspace sound. -/
theorem makes_build : ∀ form : Form, Makes Hint.Neat form.build
  | named name => .lift (Catalogue.ensures_neat_find name)
  | declared name => by
    rw [build]
    refine .bind makes_get fun w hw => ?_
    split
    case h_1 h heq =>
      obtain ⟨d, -, rfl⟩ := Option.map_eq_some_iff.mp heq
      exact .pure (hw.neat.hintOf d.ref)
    case h_2 => exact .throw _
  | generic head args => by
    rw [build]
    refine .bind (makes_buildAll args) fun args hargs => .bind (makes_build head) fun head hhead =>
      .bind makes_get fun w hw => .lift (Universe.ensures_neat_item hw.neat hhead ?_)
    split
    · exact List.forall_mem_singleton.mp hargs
    · exact neat_tuple.mpr hargs
  | callable args result => by
    rw [build]
    refine .bind (makes_buildAll args) fun args hargs => .bind (makes_build result) fun result hresult =>
      .bind makes_get fun w hw => .bind (.lift (Catalogue.ensures_neat_find _)) fun head hhead =>
      .lift (Universe.ensures_neat_item hw.neat hhead ?_)
    exact neat_tuple.mpr (List.forall_mem_cons.mpr ⟨neat_sequence.mpr hargs, List.forall_mem_singleton.mpr hresult⟩)
  | optional of => by
    rw [build]
    exact .bind (makes_build of) fun h hh => .lift (ensures_neat_optional hh)
  | union members => by
    rw [build]
    exact .bind (makes_buildAll members) fun made hmade => .lift (ensures_neat_unionOf hmade)
  | bars members => by
    rw [build]
    exact .bind (makes_buildAll members) fun made hmade => .lift (ensures_neat_eitherOf hmade)
  | literal values => by
    rw [build]
    refine .pure (neat_literalOf fun h hh => ?_)
    obtain ⟨value, -, rfl⟩ := List.mem_map.mp hh
    exact neat_ofJson value
  | newType name of => by
    rw [build]
    exact .bind (makes_build of) fun h hh => .bind makes_fresh fun _ _ => .pure (neat_newType.mpr hh)
  | annotated of metadata => by
    rw [build]
    exact .bind (makes_build of) fun h hh =>
      .bind (.mapM (fun m => .lift (ensures_neat_ofMetadatum m)) metadata) fun made hmade =>
      .lift (ensures_neat_annotate (List.forall_mem_cons.mpr ⟨hh, hmade⟩))
  | classVar none => by
    rw [build]
    exact .pure (neat_form _)
  | classVar (some of) => by
    rw [build]
    exact .bind (makes_build of) fun h hh => .lift (ensures_neat_formItem _ hh)
  | final of => by
    rw [build]
    exact .bind (makes_build of) fun h hh => .lift (ensures_neat_formItem _ hh)
  | initVar of => by
    rw [build]
    exact .bind (makes_build of) fun h hh => .bind makes_fresh fun _ _ => .pure (neat_initVar.mpr hh)
  | typeVar _ none => by
    rw [build]
    exact .bind makes_fresh fun _ _ => .pure (neat_typeVar _ _)
  | typeVar name (some bound) => by
    rw [build]
    refine .bind (makes_build bound) fun h _ => ?_
    dsimp only
    split
    · exact .bind (.check _) fun _ _ => .bind makes_fresh fun _ _ => .pure (neat_typeVar _ _)
    · exact .bind makes_fresh fun _ _ => .pure (neat_typeVar _ _)
  | enumeration name base members => by
    rw [build]
    exact .bind (makes_build base) fun h _ => makes_enumerate h name members
  | row name => by
    rw [build]
    refine .bind (.check _) fun _ _ => makes_declare fun u _ => ?_
    exact ⟨List.forall_mem_singleton.mpr (Catalogue.neat_classHint _), List.forall_mem_nil _, neat_of_mem_rowMembers⟩
  | table name => by
    rw [build]
    refine makes_hintOf (fun u => u.declareTable_ensures _ _ _ _) fun u hu =>
      Universe.declareTable_ensures_neat hu ⟨List.forall_mem_nil _, ?_, ?_⟩ _ _
    · exact List.forall_mem_singleton.mpr ⟨neat_text _, Catalogue.neat_classHint _⟩
    · exact List.forall_mem_singleton.mpr (neat_text _)
  | newClass name bases methods supertype => by
    rw [build]
    exact .bind (makes_buildAll bases) fun bases hbases => .bind (makes_buildOption supertype)
      fun supertype hsupertype => makes_declare fun u _ =>
      ⟨hbases, List.forall_mem_nil _, neat_of_mem_newMembers methods hsupertype⟩
  | value v => by
    rw [build]
    exact .pure (neat_ofJson v)

theorem makes_buildAll : ∀ forms : List Form, Makes (fun made => ∀ h ∈ made, h.Neat) (buildAll forms)
  | [] => .pure (List.forall_mem_nil _)
  | of :: rest => by
    rw [buildAll]
    exact .bind (makes_build of) fun h hh => .bind (makes_buildAll rest) fun made hmade =>
      .pure (List.forall_mem_cons.mpr ⟨hh, hmade⟩)

theorem makes_buildOption : ∀ form : Option Form, Makes (fun made => ∀ h ∈ made, h.Neat) (buildOption form)
  | none => .pure fun _ h => nomatch h
  | some of => by
    rw [buildOption]
    refine .bind (makes_build of) fun h hh => .pure ?_
    rintro _ ⟨⟩
    exact hh

end

end Form

/-! ## Declared classes -/

theorem AnnotationForm.makes_build (form : AnnotationForm) : Makes Annotation.Neat form.build := by
  cases form with
  | hint form => exact .bind form.makes_build fun h hh => .pure hh
  | written text => exact .pure (neat_text text)
  | failing exception message => exact .pure trivial

theorem AnnotationKey.neat_ofHint {h : Hint} (hh : h.Neat) : (AnnotationKey.ofHint h).hint.Neat := by
  unfold AnnotationKey.ofHint
  split
  · exact neat_text _
  · exact hh

theorem KeyForm.makes_build (form : KeyForm) : Makes (fun key : AnnotationKey => key.hint.Neat) form.build := by
  cases form with
  | text name =>
    refine .pure ?_
    rw [AnnotationKey.hint]
    cases name.text? with
    | none => exact neat_ofType _
    | some s => exact neat_text s
  | value form =>
    refine .bind form.makes_build fun key hkey => ?_
    split
    · exact .throw _
    · exact .pure (AnnotationKey.neat_ofHint hkey)

theorem Annotations.neat_ofMember {entries : List (AnnotationKey × Annotation)} (hentries : (table entries).Neat)
    {member : Option Hint} (hmember : ∀ h ∈ member, h.Neat) : (ofMember entries member).Neat := by
  unfold ofMember
  split
  · exact hentries
  · intro entry hentry
    obtain ⟨h, hh, hfound⟩ := List.mem_filterMap.mp hentry
    have hneat : h.Neat := neat_dict.mp (hmember _ rfl) h hh
    split at hfound
    · cases hfound
      obtain ⟨hkey, hvalue⟩ : _ ∧ _ := by simpa using hneat
      exact ⟨AnnotationKey.neat_ofHint hkey, hvalue⟩
    · cases hfound
  · exact hmember _ rfl

/-- A class that was just entered becomes known to its module, as a record class if it is one. -/
theorem leads_known (form : ClassForm) (c : HostClass) (w : Workspace) (declared : List ModuleClass) :
    Leads (fun before => (before.Sound ∧ before.classes.find? c.ref.id = some c) ∧ w = before)
      (if form.isRecord then do
        Workspace.checkRecord { w with declared } c
        set { w with classes := w.classes.amend (← w.classes.asRecord c), declared }
      else set { w with declared } : Building Unit)
      fun _ => Workspace.Sound := by
  split
  · refine .bind (leads_lift (S := fun _ => True) fun _ _ => trivial) fun _ => .bind
      (leads_lift (S := fun d => (d.ref = c.ref ∧ d.bases = c.bases ∧ d.lineage = c.lineage) ∧ (c.Neat → d.Neat))
        fun d hd => ?_) fun d => leads_set ?_
    · exact ⟨Universe.asRecord_ensures _ c d hd, fun hc => Universe.asRecord_ensures_neat _ hc d hd⟩
    · rintro _ ⟨⟨⟨⟨hw, hfind⟩, rfl⟩, -⟩, hsame, hneat⟩
      exact ⟨rfl, hw.orderly.amend hfind hsame, hw.neat.amend (hneat (hw.neat.find? hfind))⟩
  · refine leads_set ?_
    rintro _ ⟨⟨hw, -⟩, rfl⟩
    exact ⟨rfl, hw.orderly, hw.neat⟩

theorem neat_of_mem_given (form : ClassForm) {attributes : List (String × Hint)}
    (hattributes : ∀ entry ∈ attributes, entry.2.Neat) :
    ∀ entry ∈ ([("__module__", Hint.text form.moduleName), ("__qualname__", .text form.qualifiedName)] ++ attributes ++
      form.methods.map fun m => (m, Hint.function m)).foldl Universe.putMember [], entry.2.Neat := by
  refine Universe.forall_mem_foldl Universe.eq_or_mem_of_putMember (List.forall_mem_nil _) ?_
  simp only [List.forall_mem_append]
  exact ⟨⟨by simp, hattributes⟩, by simp⟩

/-- Declaring a class leaves a workspace sound. -/
theorem ClassForm.leads_build (form : ClassForm) : Leads Workspace.Sound form.build fun _ => Workspace.Sound := by
  have hnote (entry : KeyForm × AnnotationForm) :
      Makes (fun made : AnnotationKey × Annotation => made.1.hint.Neat ∧ made.2.Neat)
        (do return (← entry.1.build, ← entry.2.build)) :=
    .bind entry.1.makes_build fun key hkey => .bind entry.2.makes_build fun h hh => .pure ⟨hkey, hh⟩
  have hattribute (entry : String × Form) :
      Makes (fun made : String × Hint => made.2.Neat) (do return (entry.1, ← entry.2.build)) :=
    .bind entry.2.makes_build fun h hh => .pure hh
  unfold ClassForm.build
  refine Makes.leads (Form.makes_buildAll form.bases) fun bases hbases =>
    Makes.leads (.mapM hnote form.annotations) fun annotations hnotes =>
    Makes.leads (.mapM hattribute form.attributes) fun attributes hattributes => ?_
  have hbody := neat_of_mem_given form hattributes
  refine Leads.bind (leads_enter (fun u => u.declare_ensures _) fun u hu => Universe.declare_ensures_neat hu ?_)
    fun c => .bind leads_get fun w => ?_
  · refine ⟨hbases, Annotations.neat_ofMember ?_ fun h hh => neat_of_lookup hbody hh, fun entry hentry => ?_⟩
    · exact Universe.forall_mem_foldl Universe.eq_or_mem_of_putAnnotation (List.forall_mem_nil _) hnotes
    · exact hbody entry (List.mem_filter.mp hentry).1
  · dsimp only
    split
    · refine .bind (leads_lift (S := fun _ => True) fun _ _ => trivial) fun _ => ?_
      exact fun before hbefore => leads_known form c w _ before hbefore.1
    · exact leads_known form c w _

/-! ## Built workspaces -/

namespace Workspace

/-- The known classes are orderly. -/
theorem orderly_known : Catalogue.known.classes.Orderly := by
  refine .of_forall ?_
  decide +kernel

/-- The workspace is one in which classes of forms and hints of forms were built. -/
inductive Built : Workspace → Prop
  | initial (evaluator : Scope → String → Except Failure Hint) : Built (.initial evaluator)
  | declared {w w' : Workspace} {form : ClassForm} : Built w → form.build.run w = .ok ((), w') → Built w'
  | hint {w w' : Workspace} {form : Form} {h : Hint} : Built w → w.build form = .ok (h, w') → Built w'

variable {w w' : Workspace}

theorem Built.sound (h : w.Built) : w.Sound := by
  induction h with
  | initial => exact ⟨orderly_known, Catalogue.neat_known⟩
  | declared _ hbuild ih => exact (ClassForm.leads_build _ _ ih _ hbuild).2
  | hint _ hbuild ih => exact (Form.makes_build _ _ ih _ hbuild).2.1

variable {evaluator : Scope → String → Except Failure Hint}

theorem built_of_ofForms {forms : List ClassForm} (h : ofForms forms evaluator = .ok w) :
    w.Built ∧ w.evaluator = evaluator := by
  have hkeeps (forms : List ClassForm) : Leads Built (forms.forM ClassForm.build) fun _ => Built := by
    induction forms with
    | nil => exact fun _ hw => .ok ⟨rfl, hw⟩
    | cons form rest ih =>
      refine .bind (fun w hw result hresult => ?_) fun _ => ih
      exact ⟨(ClassForm.leads_build form w hw.sound result hresult).1, .declared hw hresult⟩
  rw [ofForms] at h
  cases hrun : (forms.forM ClassForm.build : Building Unit).run (.initial evaluator) with
  | error e =>
    rw [hrun] at h
    cases h
  | ok result =>
    rw [hrun] at h
    cases h
    exact (hkeeps forms _ (.initial evaluator) _ hrun).symm

/-- Where the forms do not make a workspace, the known classes do. -/
theorem built_getD_ofForms (forms : List ClassForm) (evaluator : Scope → String → Except Failure Hint) :
    ((ofForms forms evaluator).toOption.getD (.initial evaluator)).Built ∧
      ((ofForms forms evaluator).toOption.getD (.initial evaluator)).evaluator = evaluator := by
  cases hforms : ofForms forms evaluator with
  | error e => exact ⟨.initial evaluator, rfl⟩
  | ok w => exact built_of_ofForms hforms

end Workspace

/-- The hint is that of a form, of an annotation of a class, or of an expression in the scope of a class. -/
inductive Hint.Made : Hint → Prop
  | form {w w' : Workspace} {f : Form} {h : Hint} (built : w.Built) (hint : w.build f = .ok (h, w')) : Made h
  | evaluated {w : Workspace} {c : HostClass} {entries : List (AnnotationKey × Annotation)}
      {entry : AnnotationKey × Annotation} {h : Hint} (built : w.Built) (neat : w.EvaluatesNeatly)
      (known : c ∈ w.classes.classes) (table : c.annotations = .table entries) (entry_mem : entry ∈ entries)
      (hint : w.evaluate c entry.2 = .ok h) : Made h
  | expression {w : Workspace} {c : HostClass} {s : Scope} {e : Expression} {h : Hint} (built : w.Built)
      (known : c ∈ w.classes.classes) (scope : w.scopeOf c = .ok s) (hint : e.value s = .ok h) : Made h

/-- Every hint that is made is neat. -/
theorem Hint.Made.neat {h : Hint} (hmade : h.Made) : h.Neat := by
  cases hmade with
  | form hbuilt hhint => exact (Form.makes_build _ _ hbuilt.sound _ hhint).2.2
  | evaluated hbuilt hevaluates hknown htable hentry hhint =>
    have hclass : HostClass.Neat _ := hbuilt.sound.neat _ hknown
    have htable : (Annotations.table _).Neat := htable ▸ hclass.annotations
    exact Workspace.ensures_neat_evaluate hbuilt.sound.neat hevaluates hclass (htable _ hentry).2 _ hhint
  | expression hbuilt hknown hscope hhint =>
    have hscope : Scope.Neat _ :=
      Workspace.ensures_neat_scopeOf hbuilt.sound.neat (hbuilt.sound.neat _ hknown) _ hscope
    exact Expression.ensures_neat_value hscope _ _ hhint

/-- The hint of a declared class is made by its name. -/
theorem Workspace.Built.made_hintOf {w : Workspace} (h : w.Built) {name : String} {d : ModuleClass}
    (hfound : (w.declared.find? fun d => d.name == name) = some d) : (w.classes.hintOf d.ref).Made := by
  have hdeclared : w.declared? name = some (w.classes.hintOf d.ref) := by rw [declared?, hfound, Option.map_some]
  have hbuild : w.build (.declared name) = .ok (w.classes.hintOf d.ref, w) := by
    rw [Workspace.build, Form.build, StateT.run_bind, StateT.run_get, pure_bind]
    dsimp only
    rw [hdeclared]
    rfl
  exact .form h hbuild

/-- What an annotation of a class comes to is made. -/
theorem Workspace.Built.made_of_evaluate {w : Workspace} (hbuilt : w.Built) (hevaluates : w.EvaluatesNeatly)
    {id : Nat} {c : HostClass} {entry : AnnotationKey × Annotation} {h : Hint} (hfound : w.classes.find? id = some c)
    (hentry : entry ∈ Universe.entriesOf c.annotations) (hhint : w.evaluate c entry.2 = .ok h) : h.Made := by
  have hknown : c ∈ w.classes.classes := List.mem_of_find?_eq_some hfound
  cases htable : c.annotations with
  | table entries =>
    rw [htable] at hentry
    exact .evaluated hbuilt hevaluates hknown htable hentry hhint
  | misused member =>
    rw [htable] at hentry
    cases hentry

end SchemaRegistry
