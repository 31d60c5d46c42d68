import Relocation.Command.Line
import Relocation.Proofs.JsonTexts

/-! What a script can read off the commands: the payload of a report, whatever its message holds,
and the outcome of the checks. -/

namespace Relocation.Command

open Json

/-! ### Reports -/

/-- The members of a payload; there is an error class only if something went wrong. -/
def payloadMembers (command status message : String) (errorClass : Option String) :
    List (String × Document) := [
  ("command", .string (some command)), ("status", .string (some status)),
  ("error_class", errorClass.elim .null fun c => .string (some c)),
  ("message", .string (some message))]

/-- The output is one line of JSON, an object of the members of a payload and no others, and it is
read as that. Status, error class and exit code tell alike whether the command went well. -/
structure IsPayload (o : Outcome) (command message : String) : Prop where
  oneLine : ∀ c ∈ o.output.toList, 0x20 ≤ c.toNat
  decoded : ∃ (status : String) (errorClass : Option String),
    let members := payloadMembers command status message errorClass
    IsObjectText o.output members ∧
      readDocument o.output.toList = (.object (withNames members) none, some []) ∧
      (status = "ok" ∧ o.exitCode = 0 ∧ errorClass = none ∨
        status = "error" ∧ o.exitCode ≠ 0 ∧ errorClass ≠ none)

theorem Fault.exitCode_ne_zero (f : Fault) : f.exitCode ≠ 0 := by
  cases f <;> decide

theorem Report.document_toJson (r : Report) : r.toJson.document = .object (withNames
    (payloadMembers r.command r.status r.message (r.fault.map Named.name))) none := by
  cases hf : r.fault <;>
    simp [Report.toJson, document, memberDocuments, withNames, payloadMembers, ofOption, hf]

/-- Every report, with or without a fault, becomes a payload with its message. -/
theorem Report.isPayload_outcome (r : Report) : IsPayload r.outcome r.command r.message where
  oneLine := by
    have hplain := isPlain_write r.toJson
    rwa [IsPlain, ← @String.toList_ofList r.toJson.write] at hplain
  decoded := by
    refine ⟨r.status, r.fault.map Named.name, ?_, ?_, ?_⟩
    · rw [IsObjectText, ← r.document_toJson]
      exact isText_render r.toJson
    · rw [← r.document_toJson]
      exact readDocument_render r.toJson
    · cases hf : r.fault with
      | none => exact .inl (by simp [Report.outcome, Report.status, Report.exitCode, hf])
      | some f =>
        refine .inr ?_
        simp [Report.outcome, Report.status, Report.exitCode, hf, f.exitCode_ne_zero]

/-! ### Checks -/

/-- The status of a check as it is reported, as JSON or as text. -/
def CheckStatus.reported (asJson : Bool) (status : CheckStatus) : String :=
  if asJson then Named.name status else status.marker

theorem CheckStatus.reported_eq_fail_iff {asJson : Bool} {status : CheckStatus} :
    status.reported asJson = "fail" ↔ status = .fail := by
  cases asJson <;> cases status <;> decide

/-- The output reports these checks, and the exit code is one where one of them is reported to have
failed, and else zero. -/
structure ReportsChecks (o : Outcome) (asJson : Bool) (checks : List Check) : Prop where
  json : asJson = true → ∃ overall summary, readDocument o.output.toList = (.object (withNames [
    ("overall_status", .string (some overall)), ("summary", .string (some summary)),
    ("checks", .array (checks.map fun c => .object (withNames [
      ("name", .string (some c.name)), ("status", .string (some (c.status.reported asJson))),
      ("details", .string (some c.details))]) none) none)]) none, some [])
  text : asJson = false → ∃ summary, o.output = Text.joinLines (summary :: checks.map fun c =>
    s!"- [{c.status.reported asJson}] {c.name}: {c.details}")
  failed : o.exitCode = 1 ↔ ∃ c ∈ checks, c.status.reported asJson = "fail"
  passed : o.exitCode = 0 ↔ ∀ c ∈ checks, c.status.reported asJson ≠ "fail"

theorem overall_eq_fail_iff {checks : List Check} :
    overall checks = .fail ↔ ∃ c ∈ checks, c.status = .fail := by
  unfold overall
  split
  · next h => simpa using h
  · next h => simpa using h

theorem Check.document_toJson (c : Check) : c.toJson.document = .object (withNames [
    ("name", .string (some c.name)), ("status", .string (some (c.status.reported true))),
    ("details", .string (some c.details))]) none := by
  simp [Check.toJson, document, memberDocuments, withNames, CheckStatus.reported]

theorem exitCode_doctor_eq_one_iff {w : Surroundings} {asJson : Bool} :
    (doctor w asJson).exitCode = 1 ↔ overall (checks w) = .fail := by
  simp [doctor]

theorem exitCode_doctor_eq_zero_iff {w : Surroundings} {asJson : Bool} :
    (doctor w asJson).exitCode = 0 ↔ ¬ overall (checks w) = .fail := by
  simp [doctor]

theorem reportsChecks_doctor (w : Surroundings) (asJson : Bool) :
    ReportsChecks (doctor w asJson) asJson (checks w) where
  json h := by
    subst h
    refine ⟨Named.name (overall (checks w)), verdict (checks w), ?_⟩
    have houtput : (doctor w true).output = (checksJson (checks w)).renderIndented := rfl
    rw [houtput, readDocument_renderIndented]
    simp [checksJson, document, memberDocuments, withNames, itemDocuments_eq_map,
      Check.document_toJson, Function.comp_def]
  text h := by
    subst h
    exact ⟨verdict (checks w), rfl⟩
  failed := by
    simp only [CheckStatus.reported_eq_fail_iff, ← overall_eq_fail_iff, exitCode_doctor_eq_one_iff]
  passed := by
    simp only [ne_eq, CheckStatus.reported_eq_fail_iff, exitCode_doctor_eq_zero_iff,
      overall_eq_fail_iff, not_exists, not_and]

/-- Whatever the surroundings and the arguments, the commands that report write their message as a
payload, and the checks decide on the exit code in both forms. -/
theorem payloads_are_reliable (w : Surroundings) :
    (∀ a, IsPayload ((Invocation.flow a).run w) "flow" (flow a).message) ∧
      (∀ a, IsPayload ((Invocation.summary a).run w) "summary" (summary w a).message) ∧
      IsPayload (Invocation.configuration.run w) "config" (configuration w).message ∧
      ∀ asJson, ReportsChecks ((Invocation.doctor asJson).run w) asJson (checks w) := by
  refine ⟨fun a => (flow a).isPayload_outcome, fun a => ?_, ?_, reportsChecks_doctor w⟩
  · have hcommand : (summary w a).command = "summary" := by
      unfold summary
      split <;> rfl
    exact hcommand ▸ (summary w a).isPayload_outcome
  · have hcommand : (configuration w).command = "config" := by
      unfold configuration
      split <;> rfl
    exact hcommand ▸ (configuration w).isPayload_outcome

end Relocation.Command
