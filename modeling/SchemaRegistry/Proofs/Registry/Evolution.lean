import SchemaRegistry.Proofs.Registry.Entry
import SchemaRegistry.Registry.Command

/-!
# How tables evolve

Whatever the registry is told, it changes a table in two ways only: it inserts the row of a new schema, or it
decides on a row that is open. A table evolves into another one by such steps. This holds of every command
that does not tamper, in any session and with any rival between its steps, so what the two steps leave alone
stays as it is however long the registry is used.
-/

namespace SchemaRegistry

/-- The second table comes of the first by insertions and decisions. -/
inductive Table.Evolves (t : Table) : Table → Prop where
  | refl : Evolves t t
  | insert {t₁ t₂ : Table} (before : Evolves t t₁) (d : Draft) (step : t₁.insert? d = some t₂) :
      Evolves t t₂
  | decide {t₁ t₂ : Table} (before : Evolves t t₁) (id : Int) (d : Decision) (updatedBy : String)
      (now : Time.DateTime) (step : t₁.decide? id d updatedBy now = some t₂) : Evolves t t₂

namespace Table

theorem Evolves.trans {t t₁ t₂ : Table} (h₁ : t.Evolves t₁) (h₂ : t₁.Evolves t₂) : t.Evolves t₂ := by
  induction h₂ with
  | refl => exact h₁
  | insert _ d step ih => exact ih.insert d step
  | decide _ id d updatedBy now step ih => exact ih.decide id d updatedBy now step

/-- Inserting several rows is inserting one after the other. -/
theorem insertAll?_append (t : Table) (drafts more : List Draft) :
    t.insertAll? (drafts ++ more) = (t.insertAll? drafts).bind fun t => t.insertAll? more := by
  induction drafts generalizing t with
  | nil => rfl
  | cons d drafts ih =>
    rw [List.cons_append, insertAll?, insertAll?, Option.bind_assoc]
    exact congrArg _ (funext ih)

theorem Evolves.insertAll {t t₁ : Table} {drafts : List Draft} (h : t.insertAll? drafts = some t₁) :
    t.Evolves t₁ := by
  induction drafts generalizing t with
  | nil =>
    cases h
    exact .refl
  | cons d drafts ih =>
    obtain ⟨t', hd, hrest⟩ := Option.bind_eq_some_iff.mp h
    exact (Evolves.refl.insert d hd).trans (ih hrest)

end Table

/-! ## Operations -/

namespace Registry

variable {s : Stage} {between : Interlude}

/-- The registration of a schema, if the table evolves between its steps. -/
theorem create_evolves (hbetween : s.table.Evolves (between s.table).table) (now : Time.Reading)
    (r : Registration) : s.table.Evolves (create s now between r).table := by
  unfold create
  split
  case h_4 =>
    dsimp only
    split
    · exact hbetween
    · unfold insertNew
      split
      case h_1 => exact hbetween
      case h_2 hinsert => exact hbetween.trans (.insertAll hinsert)
  all_goals exact .refl

/-- The second step of a decision. -/
theorem decideOn_evolves (s : Stage) (now : Time.DateTime) (k : Key) (id : Int) (d : Decision)
    (updatedBy : String) : s.table.Evolves (decideOn s now k id d updatedBy).table := by
  unfold decideOn
  split
  case h_1 => exact .refl
  case h_2 hdecide =>
    have hdecided := Table.Evolves.refl.decide id d updatedBy now hdecide
    split
    case h_1 => exact .refl
    case h_2 hinsert =>
      have hafter := hdecided.trans (.insertAll hinsert)
      split
      · exact hafter
      · split <;> exact hafter

/-- A decision, if the table evolves between its steps. -/
theorem decide_evolves (hbetween : s.table.Evolves (between s.table).table) (now : Time.Reading)
    (k : Key) (d : Decision) (updatedBy : String) :
    s.table.Evolves (decide s now between k d updatedBy).table := by
  unfold decide
  split
  case h_3 =>
    dsimp only
    split
    · exact hbetween
    · exact hbetween.trans (decideOn_evolves ⟨(between s.table).table, s.pending⟩ ..)
  all_goals exact .refl

theorem validate_table (s : Stage) (k : Key) (fields : List HostField) (failFast : Bool) :
    (validate s k fields failFast).table = s.table := by
  unfold validate
  split <;> rfl

end Registry

/-! ## Commands -/

namespace Command

/-- Neither the command nor a rival of it changes a row behind the registry's back. -/
def Proper : Command → Prop
  | create _ none => True
  | create _ (some rival) => rival.Proper
  | decide _ _ _ none => True
  | decide _ _ _ (some rival) => rival.Proper
  | tamper .. => False
  | get _ | list .. | summaries | validate .. | storedAttributes _ => True

theorem proper_create {request : Json} {rival : Option Command} :
    (create request rival).Proper ↔ ∀ c ∈ rival, c.Proper := by
  cases rival <;> simp [Proper]

theorem proper_decide {d : Decision} {key : Json} {updatedBy : String} {rival : Option Command} :
    (decide d key updatedBy rival).Proper ↔ ∀ c ∈ rival, c.Proper := by
  cases rival <;> simp [Proper]

/-- A command that is checked first does no more than what it does once it is taken. -/
theorem evolves_checking {α : Type} {s : Stage} (x : Except Failure α) {next : α → Outcome Reply}
    (h : ∀ a, s.table.Evolves (next a).table) : s.table.Evolves (checking s x next).table := by
  unfold checking
  split
  · exact h _
  · exact .refl

/-- A proper command makes the table evolve, whatever drafts its session has. -/
theorem run_evolves (now : Time.Reading) : ∀ (c : Command), c.Proper →
    ∀ s : Stage, s.table.Evolves (c.run now s).table
  | create _ none, _, s => by
    rw [run]
    exact evolves_checking _ fun r => Registry.create_evolves .refl now r
  | create _ (some rival), h, s => by
    rw [run]
    exact evolves_checking _ fun r =>
      Registry.create_evolves (rival.run_evolves now h ⟨s.table, []⟩) now r
  | decide d _ updatedBy none, _, s => by
    rw [run]
    exact evolves_checking _ fun k => Registry.decide_evolves .refl now k d updatedBy
  | decide d _ updatedBy (some rival), h, s => by
    rw [run]
    exact evolves_checking _ fun k =>
      Registry.decide_evolves (rival.run_evolves now h ⟨s.table, []⟩) now k d updatedBy
  | get _, _, s => by
    rw [run]
    exact evolves_checking _ fun _ => .refl
  | list .., _, s => by
    rw [run]
    exact evolves_checking _ fun _ => .refl
  | summaries, _, s => by
    rw [run]
    exact .refl
  | validate _ _ failFast, _, s => by
    rw [run]
    refine evolves_checking _ fun k => evolves_checking _ fun fields => ?_
    rw [Outcome.reply, Registry.validate_table]
    exact .refl
  | storedAttributes _, _, s => by
    rw [run]
    exact evolves_checking _ fun _ => .refl

/-- A rival makes the table evolve. -/
theorem interlude_evolves {rival : Option Command} (hrival : ∀ c ∈ rival, c.Proper) (now : Time.Reading)
    (t : Table) : t.Evolves (run.interlude now rival t).table := by
  cases rival with
  | none => exact .refl
  | some c => exact c.run_evolves now (hrival c rfl) ⟨t, []⟩

end Command

/-! ## Turns -/

namespace Turn

/-- The sessions and the table that turns taken one after the other leave behind. -/
def leave : List Turn → Sessions → Table → Sessions × Table
  | [], sessions, t => (sessions, t)
  | turn :: rest, sessions, t =>
    let outcome := turn.command.run turn.now ⟨t, sessions.drafts turn.session⟩
    leave rest (sessions.set turn.session outcome.pending) outcome.table

theorem leave_append (turns more : List Turn) (sessions : Sessions) (t : Table) :
    leave (turns ++ more) sessions t = leave more (leave turns sessions t).1 (leave turns sessions t).2 := by
  induction turns generalizing sessions t with
  | nil => rfl
  | cons turn turns ih => exact ih _ _

/-- Proper commands make the table evolve, in any order and in any sessions. -/
theorem leave_evolves {turns : List Turn} (h : ∀ turn ∈ turns, turn.command.Proper)
    (sessions : Sessions) (t : Table) : t.Evolves (leave turns sessions t).2 := by
  induction turns generalizing sessions t with
  | nil => exact .refl
  | cons turn turns ih =>
    have hturn := turn.command.run_evolves turn.now (h turn (by simp))
      ⟨t, sessions.drafts turn.session⟩
    exact hturn.trans (ih (fun other hother => h other (by simp [hother])) ..)

end Turn

end SchemaRegistry
