import SchemaRegistry.Proofs.Conformance.Diagnoses

/-!
# Failing fast

Attributes are judged one after the other, and a client may want to hear of the first fault only. The judging
then stops there, so what it reports is what it had found by that time when all attributes are judged. Names
that do not fit are a single diagnostic before any attribute is looked at, with or without haste. So failing
fast shortens a report to its first diagnostic and never turns a fault into a pass.
-/

namespace SchemaRegistry.Conformance

variable {schema : Details} {fields : List HostField}

/-- Names that do not fit are reported in one diagnostic, the same whether all attributes are to be judged or
not. -/
theorem exists_diagnostics_of_not_namesFit (h : ¬ NamesFit schema fields) :
    ∃ d, ∀ failFast, (validate schema fields failFast).1.diagnostics = [d] := by
  obtain ⟨d, -, hvalidate⟩ := exists_validate_of_not_namesFit h
  exact ⟨d, fun failFast => by rw [hvalidate failFast]⟩

/-- **Failing fast reports the first diagnostic of the full report, if there is one.** So a host type passes
with haste just if it passes without. -/
theorem validate_failFast (schema : Details) (fields : List HostField) :
    (validate schema fields true).1.diagnostics = (validate schema fields false).1.diagnostics.take 1 ∧
      (validate schema fields true).1.passed = (validate schema fields false).1.passed := by
  have hfirst : (validate schema fields true).1.diagnostics =
      (validate schema fields false).1.diagnostics.take 1 := by
    by_cases hfit : NamesFit schema fields
    · rw [diagnostics_of_namesFit hfit, diagnostics_of_namesFit hfit, report, report, if_pos rfl,
        if_neg Bool.false_ne_true]
    · obtain ⟨d, hd⟩ := exists_diagnostics_of_not_namesFit hfit
      rw [hd true, hd false]
      rfl
  refine ⟨hfirst, ?_⟩
  rw [Verdict.passed, Verdict.passed, hfirst]
  cases (validate schema fields false).1.diagnostics <;> rfl

end SchemaRegistry.Conformance
