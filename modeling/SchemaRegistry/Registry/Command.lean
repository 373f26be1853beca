import SchemaRegistry.Registry.Operations
import SchemaRegistry.Registry.Tamper
import SchemaRegistry.Schema.Variant

/-!
# Commands

Clients give commands to the registry, each at a point in time and in a session that has a name. Keys,
registrations and fields come as JSON and are checked before the registry sees them. A command that changes
the table may carry a rival: another command, which another writer runs between its two steps, in a session
of its own.
-/

namespace SchemaRegistry

/-- A command to the registry. -/
inductive Command where
  | create (request : Json) (rival : Option Command)
  | get (key : Json)
  | decide (decision : Decision) (key : Json) (updatedBy : String) (rival : Option Command)
  | list (space : Option String) (state : Option Json)
  /-- All schemas by reference and state. -/
  | summaries
  | validate (key : Json) (fields : List Json) (failFast : Bool)
  | storedAttributes (key : Json)
  /-- A change behind the registry's back. -/
  | tamper (key : Json) (columns : List (String × Option String))

/-- The answer to a command. -/
inductive Reply where
  | details (d : Details)
  | schemas (ds : List Details)
  | texts (texts : List String)
  | verdict (v : Verdict)
  | text (text : String)
  | count (n : Nat)

/-- A reply as JSON. -/
def Reply.toJson : Reply → Json
  | details d => d.toJson
  | schemas ds => .arr (ds.map Details.toJson)
  | texts ts => .ofTexts ts
  | verdict v => v.toJson
  | text s => .str s
  | count n => .int n

/-- An outcome with its answer turned into a reply. -/
def Outcome.reply {α : Type} (f : α → Reply) (o : Outcome α) : Outcome Reply :=
  { o with answer := o.answer.map f }

namespace Command

/-- Continues with the value of a check, or fails and changes nothing. -/
def checking {α : Type} (s : Stage) (x : Except Failure α) (next : α → Outcome Reply) : Outcome Reply :=
  match x with
  | .ok value => next value
  | .error e => Registry.reading s (.error e)

/-- The state that a value names, if a value is given. -/
def stateOf? : Option Json → Except Failure (Option State)
  | none => .ok none
  | some value => some <$> State.find value

/-- Runs a command at what the clock shows. -/
def run (now : Time.Reading) : Command → Stage → Outcome Reply
  | create request rival, s =>
    checking s (Registration.check request).run fun r =>
      (Registry.create s now (interlude now rival) r).reply .details
  | get key, s =>
    checking s (Key.check key).run fun k =>
      Registry.reading s ((Registry.get s.table k).map .details)
  | decide d key updatedBy rival, s =>
    checking s (Key.check key).run fun k =>
      (Registry.decide s now (interlude now rival) k d updatedBy).reply .details
  | list space state, s =>
    checking s (stateOf? state) fun state =>
      Registry.reading s ((Registry.list s.table space state).map .schemas)
  | summaries, s =>
    Registry.reading s
      ((Registry.list s.table none none).map fun ds => .texts (ds.map Registry.summary))
  | validate key fields failFast, s =>
    checking s (Key.check key).run fun k =>
      checking s (fields.mapM fun f => (HostField.check f).run) fun fields =>
        (Registry.validate s k fields failFast).reply .verdict
  | storedAttributes key, s =>
    checking s (Key.check key).run fun k =>
      Registry.reading s ((Registry.storedAttributes s.table k).map .text)
  | tamper key columns, s =>
    checking s (Key.check key).run fun k =>
      match s.table.tamper k columns with
      | .ok (n, t) => Registry.reading { s with table := t } (.ok (.count n))
      | .error e => Registry.reading s (.error e)
where
  /-- What a rival does between two steps. Its own answer is lost, unless it is a failure. -/
  interlude (now : Time.Reading) : Option Command → Interlude
    | none => .none
    | some rival => fun t =>
      let outcome := run now rival ⟨t, []⟩
      { table := outcome.table
        logs := outcome.logs
        failure :=
          match outcome.answer with
          | .ok _ => none
          | .error e => some e }

end Command

/-- The drafts of the sessions that have any, by name. -/
abbrev Sessions := List (String × List Table.Draft)

/-- The drafts of a session. -/
def Sessions.drafts (s : Sessions) (name : String) : List Table.Draft := (s.lookup name).getD []

/-- The sessions after one of them is left with these drafts. -/
def Sessions.set (s : Sessions) (name : String) (drafts : List Table.Draft) : Sessions :=
  (name, drafts) :: s.filter fun (other, _) => other != name

/-- A command in its session, at what the clock shows. -/
structure Turn where
  session : String
  now : Time.Reading
  command : Command

/-- Takes turns one after the other and answers what each left behind. -/
def Turn.runAll : List Turn → Sessions → Table → List (Except Failure Reply × List LogRecord)
  | [], _, _ => []
  | turn :: rest, sessions, t =>
    let outcome := turn.command.run turn.now ⟨t, sessions.drafts turn.session⟩
    (outcome.answer, outcome.logs) ::
      runAll rest (sessions.set turn.session outcome.pending) outcome.table

end SchemaRegistry
