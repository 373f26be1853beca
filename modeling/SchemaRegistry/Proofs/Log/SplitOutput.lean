import SchemaRegistry.Log.Output

/-!
# Every event is written once

A setup leaves two writers behind. The one for the standard output takes the levels from that of debugging on and stops
one below the level from which the one for the error output takes all. As the latter never starts below the level of
debugging, no level from there on is left out and none is taken twice, whatever numbers are asked for.

A setup does not depend on what was set up before it, so of several setups the last one counts. `writes_once` says how
it treats an event.
-/

namespace SchemaRegistry

/-! ## Levels that are asked for -/

/-- The words of levels and their numbers. -/
def levelTable : List (String × Int) :=
  [("CRITICAL", 50), ("FATAL", 50), ("ERROR", 40), ("WARNING", 30), ("WARN", 30), ("INFO", 20), ("DEBUG", 10),
    ("NOTSET", 0)]

/-- The level that a choice stands for. A word may be in any case, and one that the table does not have stands for
20. -/
def LevelChoice.resolved : LevelChoice → Int
  | number level => level
  | word text => (levelTable.lookup (Text.upper text)).getD 20

theorem levelOfWord?_eq_lookup (word : String) : levelOfWord? word = levelTable.lookup word := by
  unfold levelOfWord?
  split
  case h_9 =>
    symm
    rw [List.lookup_eq_none_iff]
    simp only [levelTable, List.forall_mem_cons, List.not_mem_nil, false_implies, implies_true, and_true,
      bne_iff_ne]
    and_intros <;> assumption
  all_goals rfl

theorem LevelChoice.level_eq_resolved (c : LevelChoice) : c.level = c.resolved := by
  cases c with
  | number level => rfl
  | word text => rw [level, resolved, levelOfWord?_eq_lookup, infoLevel]

/-! ## The writers of a setup -/

theorem LogWriter.takes_iff {w : LogWriter} {level : Int} :
    w.takes level ↔ w.least ≤ level ∧ ∀ greatest, w.greatest = some greatest → level ≤ greatest := by
  unfold takes
  cases w.greatest <;> simp

namespace LogRequest

variable {r : LogRequest} {level : Int}

/-- The output on which a request wants events of a level. -/
def outputOf (r : LogRequest) (level : Int) : Output :=
  if max r.errorLevel 10 ≤ level then .error else .standard

/-- The writer of a request for an output. -/
def writerFor (r : LogRequest) : Output → LogWriter
  | .standard => ⟨.standard, debugLevel, some (r.errorFrom - 1), r.layout⟩
  | .error => ⟨.error, r.errorFrom, none, r.layout⟩

@[simp]
theorem writerFor_output (r : LogRequest) (output : Output) : (r.writerFor output).output = output := by
  cases output <;> rfl

@[simp]
theorem writerFor_layout (r : LogRequest) (output : Output) : (r.writerFor output).layout = r.layout := by
  cases output <;> rfl

/-- A level from that of debugging on is taken by the writer for its output, and by no other. -/
theorem takes_writerFor (h : debugLevel ≤ level) (output : Output) :
    (r.writerFor output).takes level ↔ output = r.outputOf level := by
  have hfrom : r.errorFrom = max r.errorLevel 10 := rfl
  rw [LogWriter.takes_iff, outputOf, ← hfrom]
  cases output with
  | standard =>
    simp only [writerFor, Option.some.injEq, forall_eq']
    by_cases herror : r.errorFrom ≤ level
    · rw [if_pos herror]
      exact iff_of_false (by omega) nofun
    · rw [if_neg herror]
      exact iff_of_true ⟨h, by omega⟩ rfl
  | error =>
    simp only [writerFor, reduceCtorEq, false_implies, implies_true, and_true]
    by_cases herror : r.errorFrom ≤ level
    · rw [if_pos herror]
      exact iff_of_true herror rfl
    · rw [if_neg herror]
      exact iff_of_false herror nofun

end LogRequest

/-! ## Setups one after the other -/

namespace Logging

variable {r : LogRequest} {threshold level : Int}

/-- The last of several setups leaves what it asks for, whatever was there before. -/
theorem foldl_configure_concat (l : Logging) (earlier : List LogRequest) (r : LogRequest) :
    (earlier ++ [r]).foldl configure l =
      ⟨r.level.resolved, [r.writerFor .standard, r.writerFor .error]⟩ := by
  rw [List.foldl_append, ← LevelChoice.level_eq_resolved]
  rfl

/-- Below the threshold there is no writer. -/
theorem writersFor_of_lt (h : level < threshold) (writers : List LogWriter) :
    writersFor ⟨threshold, writers⟩ level = [] := if_pos h

/-- From the threshold on there is a single one, that for the output of the level. -/
theorem writersFor_of_le (hdebug : debugLevel ≤ level) (h : threshold ≤ level) :
    writersFor ⟨threshold, [r.writerFor .standard, r.writerFor .error]⟩ level =
      [r.writerFor (r.outputOf level)] := by
  rw [writersFor, if_neg (Int.not_lt.mpr h)]
  cases houtput : r.outputOf level <;>
    simp [LogRequest.takes_writerFor hdebug, houtput]

/-- **Every event is written once.** After any setups an event from the level of debugging on is written exactly
once if its level is that which the last of them asks for or above, and not at all if it is below. It goes to the
error output just if its level is the one from which the last setup wants this, or that of debugging if it wants
it from below there. If the event can be shown, its text is added to that output, once, and nothing to the other. -/
theorem writes_once (l : Logging) (earlier : List LogRequest) (r : LogRequest) {e : LogEvent}
    (h : 10 ≤ e.level) :
    let now := (earlier ++ [r]).foldl configure l
    (r.level.resolved ≤ e.level →
        now.outputsFor e.level = [if max r.errorLevel 10 ≤ e.level then .error else .standard]) ∧
      (e.level < r.level.resolved → now.outputsFor e.level = []) ∧
      ∀ text, e.shownBy? r.layout = some text → ∀ output,
        now.textOn output e = if output ∈ now.outputsFor e.level then text ++ "\n" else "" := by
  intro now
  have hnow : now = ⟨r.level.resolved, [r.writerFor .standard, r.writerFor .error]⟩ :=
    foldl_configure_concat l earlier r
  rw [hnow]
  rcases Int.lt_or_le e.level r.level.resolved with hbelow | hfrom
  · have hwriters := writersFor_of_lt hbelow [r.writerFor .standard, r.writerFor .error]
    refine ⟨fun hfrom => absurd hbelow (Int.not_lt.mpr hfrom), fun _ => ?_, fun text _ output => ?_⟩
    · rw [outputsFor, hwriters, List.map_nil]
    · simp [textOn, outputsFor, hwriters]
  · have hwriters := writersFor_of_le (r := r) h hfrom
    refine ⟨fun _ => ?_, fun hbelow => absurd hbelow (Int.not_lt.mpr hfrom), fun text htext output => ?_⟩
    · rw [outputsFor, hwriters, List.map_singleton, LogRequest.writerFor_output, LogRequest.outputOf]
    · rw [textOn, outputsFor, hwriters]
      by_cases houtput : r.outputOf e.level = output
      · simp [houtput, htext, String.join]
      · simp [houtput, Ne.symm houtput, String.join]

/-- A setup that lets everything through, all of it to the error output. -/
def openRequest : LogRequest := { level := .number (-3), errorLevel := 0 }

/-- A setup at a level that does not exist, with errors from a level between those that have words. -/
def loudRequest : LogRequest where
  level := .word "Loud"
  errorLevel := 25
  layout := "%(levelname)s %(message)s"

/-- An event with one argument. -/
def stampEvent (level : Int) : LogEvent := ⟨"app", level, .str "stamp %s", [.int 5]⟩

/-- The setup at no level asks for information, and none of its events is written as the setup before would have
written it. -/
theorem writes_once_loud :
    let now := ([openRequest] ++ [loudRequest]).foldl configure initial
    now.outputsFor 19 = [] ∧ now.outputsFor 24 = [.standard] ∧ now.outputsFor 25 = [.error] ∧
      now.textOn .error (stampEvent 25) = "Level 25 stamp 5\n" ∧ now.textOn .standard (stampEvent 25) = "" := by
  intro now
  have hresolved : loudRequest.level.resolved = 20 := by decide +kernel
  have hshown : (stampEvent 25).shownBy? loudRequest.layout = some "Level 25 stamp 5" := by decide +kernel
  obtain ⟨-, hbelow, -⟩ := writes_once initial [openRequest] loudRequest (e := stampEvent 19) (by decide)
  obtain ⟨hfrom, -, -⟩ := writes_once initial [openRequest] loudRequest (e := stampEvent 24) (by decide)
  obtain ⟨herror, -, htext⟩ := writes_once initial [openRequest] loudRequest (e := stampEvent 25) (by decide)
  have houtput : now.outputsFor (stampEvent 25).level = [.error] := herror (by rw [hresolved]; decide)
  refine ⟨hbelow (by rw [hresolved]; decide), hfrom (by rw [hresolved]; decide), houtput, ?_, ?_⟩
  · exact (htext _ hshown .error).trans (if_pos (by rw [houtput]; decide))
  · exact (htext _ hshown .standard).trans (if_neg (by rw [houtput]; decide))

end Logging

end SchemaRegistry
