import RecordSchema.Proofs.CommandLine.Arguments
import RecordSchema.Proofs.Declaration.Image
import RecordSchema.Proofs.Json.RoundTrip

/-!
# What a run of the program does

Arguments that are a call are answered by what becomes of the declaration in them: it cannot be read,
or its schema is refused, or the schema is shown (`process_cases`). All others are answered by their
fault. Each answer has a code of its own kind and goes to one stream (`Outcome.OnOneStream`), which
is all that can be seen of a run: `run_spec`.

What is written can be read again. The error output of a misuse tells which fault it is
(`isMisuse_iff_stderr_run`), and the JSON of a success is that of the schema
(`exists_decode_of_run`).
-/

namespace RecordSchema.CommandLine

open RecordSchema.Declaration

/-! ### Arguments that are read -/

theorem IsMisuse.run_eq {args : List String} {fault : UsageFault} (h : IsMisuse args fault)
    (program : String) : run program args = misused program fault := by
  unfold run
  cases h with
  | fails hargs hasks hfits hfails => rw [hargs, hasks.readArgs_fails hfits hfails]
  | missingText hasks htexts =>
      rw [hasks.readArgs_eq (by simp [htexts]), htexts]
      rfl

theorem IsCall.run_eq {args : List String} {limit : Nat} {checked : Bool} {text : String}
    (h : IsCall args limit checked text) (program : String) :
    run program args = process limit checked text := by
  unfold run
  cases h with
  | mk hasks htexts =>
      rw [hasks.readArgs_eq (by simp [htexts]), htexts]
      rfl

/-! ### What becomes of a declaration -/

/-- A declaration cannot be read, its schema is checked and refused, or the schema is shown. -/
theorem process_cases (limit : Nat) (checked : Bool) (text : String) :
    (∃ fault, parse limit text = .error fault ∧ process limit checked text = unreadable fault) ∨
    (∃ schema rejection, parse limit text = .ok schema ∧ checked = true ∧
      schema.accept = .error rejection ∧ process limit checked text = refused rejection) ∨
    ∃ schema, parse limit text = .ok schema ∧ (checked = true → schema.accept = .ok ()) ∧
      process limit checked text = shown checked schema := by
  unfold process
  cases parse limit text with
  | error fault => exact .inl ⟨fault, rfl, rfl⟩
  | ok schema =>
      cases checked with
      | false => exact .inr (.inr ⟨schema, rfl, (fun h => by cases h), rfl⟩)
      | true =>
          cases haccept : schema.accept with
          | error rejection =>
              exact .inr (.inl ⟨schema, rejection, rfl, rfl, haccept, by simp [haccept]⟩)
          | ok _ => exact .inr (.inr ⟨schema, rfl, fun _ => haccept, by simp [haccept]⟩)

theorem process_code_eq_one_iff {limit : Nat} {checked : Bool} {text : String} :
    (process limit checked text).code = 1 ↔
      (∃ fault, parse limit text = .error fault) ∨
      checked = true ∧ ∃ schema rejection, parse limit text = .ok schema ∧
        schema.accept = .error rejection := by
  rcases process_cases limit checked text with
    ⟨fault, hparse, h⟩ | ⟨schema, rejection, hparse, hchecked, haccept, h⟩ |
    ⟨schema, hparse, haccept, h⟩
  · rw [h]
    exact ⟨fun _ => .inl ⟨fault, hparse⟩, fun _ => rfl⟩
  · rw [h]
    exact ⟨fun _ => .inr ⟨hchecked, schema, rejection, hparse, haccept⟩, fun _ => rfl⟩
  · rw [h]
    constructor
    · intro hcode
      cases hcode
    · rintro (⟨fault, herror⟩ | ⟨hchecked, schema', rejection, hparse', hreject⟩)
      · rw [hparse] at herror
        cases herror
      · rw [hparse] at hparse'
        cases hparse'
        rw [haccept hchecked] at hreject
        cases hreject

theorem process_of_code_ne_one {limit : Nat} {checked : Bool} {text : String}
    (hcode : (process limit checked text).code ≠ 1) :
    ∃ schema, parse limit text = .ok schema ∧
      process limit checked text = shown checked schema := by
  rcases process_cases limit checked text with
    ⟨fault, -, h⟩ | ⟨schema, rejection, -, -, -, h⟩ | ⟨schema, hparse, -, h⟩
  · rw [h] at hcode
    exact absurd rfl hcode
  · rw [h] at hcode
    exact absurd rfl hcode
  · exact ⟨schema, hparse, h⟩

/-! ### Codes and streams -/

/-- Success writes nothing to the error output. Failure writes to the error output and nowhere
else. -/
structure Outcome.OnOneStream (outcome : Outcome) : Prop where
  stdout : outcome.code ≠ 0 → outcome.stdout = ""
  stderr : outcome.stderr = "" ↔ outcome.code = 0

theorem onOneStream_failure {code : Nat} (hcode : code ≠ 0) {start : String} (hstart : start ≠ "")
    (more : String) : Outcome.OnOneStream { code, stderr := start ++ more } := by
  refine ⟨fun _ => rfl, ?_⟩
  show start ++ more = "" ↔ code = 0
  simp [String.append_eq_empty_iff, hstart, hcode]

theorem onOneStream_misused (program : String) (fault : UsageFault) :
    (misused program fault).OnOneStream := by
  unfold misused
  rw [String.append_assoc, String.append_assoc]
  exact onOneStream_failure (by decide) (by decide) _

theorem onOneStream_process (limit : Nat) (checked : Bool) (text : String) :
    (process limit checked text).OnOneStream := by
  rcases process_cases limit checked text with
    ⟨fault, -, h⟩ | ⟨schema, rejection, -, -, -, h⟩ | ⟨schema, -, -, h⟩
  · rw [h, unreadable, String.append_assoc]
    exact onOneStream_failure (by decide) (by decide) _
  · rw [h, refused, String.append_assoc]
    exact onOneStream_failure (by decide) (by decide) _
  · rw [h]
    exact ⟨fun hcode => absurd rfl hcode, ⟨fun _ => rfl, fun _ => rfl⟩⟩

theorem onOneStream_run (program : String) (args : List String) :
    (run program args).OnOneStream := by
  rcases isCall_or_isMisuse args with ⟨limit, checked, text, hcall⟩ | ⟨fault, hmisuse⟩
  · rw [hcall.run_eq]
    exact onOneStream_process limit checked text
  · rw [hmisuse.run_eq]
    exact onOneStream_misused program fault

theorem process_code_ne_two (limit : Nat) (checked : Bool) (text : String) :
    (process limit checked text).code ≠ 2 := by
  intro hcode
  have hne : (process limit checked text).code ≠ 1 := by omega
  obtain ⟨schema, -, hshown⟩ := process_of_code_ne_one hne
  rw [hshown] at hcode
  cases hcode

/-! ### What a run tells -/

/-- The letter that the message of a fault starts with. -/
def UsageFault.initial : UsageFault → Char
  | missingLimit => '-'
  | badLimit _ => 'i'
  | unknownOption _ => 'u'
  | secondText => 'e'
  | missingText => 'm'

theorem head?_toList_append (start : String) {c : Char} (h : start.toList.head? = some c)
    (more : String) : (start ++ more).toList.head? = some c := by
  rw [String.toList_append, List.head?_append, h]
  rfl

theorem UsageFault.head?_message (fault : UsageFault) :
    fault.message.toList.head? = some fault.initial := by
  cases fault with
  | missingLimit => rfl
  | badLimit value => exact head?_toList_append "invalid --max-depth value: " rfl value
  | unknownOption option => exact head?_toList_append "unknown option: " rfl option
  | secondText => rfl
  | missingText => rfl

/-- A message tells the fault, and the argument it is about. -/
theorem UsageFault.message_injective : Function.Injective message := by
  intro fault other h
  have hinitial : fault.initial = other.initial := by
    rw [← Option.some_inj, ← head?_message, ← head?_message, h]
  -- faults of different kinds start with different letters, those of one kind end with the argument
  cases fault <;> cases other <;> simp [initial] at hinitial
  case missingLimit.missingLimit => rfl
  case badLimit.badLimit value other => rw [(String.append_right_inj _).mp h]
  case unknownOption.unknownOption option other => rw [(String.append_right_inj _).mp h]
  case secondText.secondText => rfl
  case missingText.missingText => rfl

theorem stderr_misused_injective (program : String) :
    Function.Injective fun fault => (misused program fault).stderr := by
  intro fault other h
  simp only [misused, String.append_left_inj, String.append_right_inj] at h
  exact UsageFault.message_injective h

/-- The error output of a misuse tells the fault of the arguments: no other fault is told so. -/
theorem isMisuse_iff_stderr_run {program : String} {args : List String} {fault : UsageFault}
    (hcode : (run program args).code = 2) :
    IsMisuse args fault ↔ (run program args).stderr = (misused program fault).stderr := by
  constructor
  · intro h
    rw [h.run_eq]
  · intro hstderr
    rcases isCall_or_isMisuse args with ⟨limit, checked, text, hcall⟩ | ⟨other, hmisuse⟩
    · rw [hcall.run_eq] at hcode
      exact absurd hcode (process_code_ne_two limit checked text)
    · rw [hmisuse.run_eq] at hstderr
      rwa [← stderr_misused_injective program hstderr]

/-- A run that succeeds writes the schema of its declaration as JSON, from which it is read back if no
entry lies inside more than 62 others. None lies inside more than the limit allows. -/
theorem exists_decode_of_run {program : String} {args : List String}
    (hcode : (run program args).code = 0) :
    ∃ limit checked text schema json, IsCall args limit checked text ∧
      parse limit text = .ok schema ∧
      (run program args).stdout = (if checked then "✓ Schema is valid!\n" else "") ++ json ++
        "\n\nCanonical DSL: " ++ schema.render ++ "\n" ∧
      schema.InsideAtMost limit ∧ (schema.InsideAtMost 62 → Json.decode json = .ok schema) := by
  rcases isCall_or_isMisuse args with ⟨limit, checked, text, hcall⟩ | ⟨fault, hmisuse⟩
  · rw [hcall.run_eq] at hcode ⊢
    have hne : (process limit checked text).code ≠ 1 := by omega
    obtain ⟨schema, hparse, hshown⟩ := process_of_code_ne_one hne
    refine ⟨limit, checked, text, schema, schema.toIndentedJson, hcall, hparse, ?_,
      insideAtMost_of_parse hparse, ?_⟩
    · rw [hshown]
      rfl
    · exact Json.decode_encode_of_insideAtMost Json.Layout.isBlank_indented
  · rw [hmisuse.run_eq] at hcode
    cases hcode

/-! ### Runs -/

/-- Arguments that are not a call end with code 2, and the one fault that they have is told. A call
ends with code 1 if its declaration cannot be read, or is checked and not accepted, and with 0
otherwise. What it does depends on its last limit, on its declaration and on whether that is checked.
Only success, with code 0, writes to the output, and only failure to the error output. -/
theorem run_spec (program : String) (args : List String) :
    let outcome : Outcome := run program args
    (outcome.code = 2 ↔ ¬∃ limit checked text, IsCall args limit checked text) ∧
    (outcome.code = 2 → ∃! fault, IsMisuse args fault) ∧
    (∀ fault, IsMisuse args fault →
      outcome.stderr = "Error: " ++ fault.message ++ "\n" ++ usage program) ∧
    (∀ limit checked text, IsCall args limit checked text →
      outcome = process limit checked text ∧
      (outcome.code = 1 ↔ (∃ fault, parse limit text = .error fault) ∨
        checked = true ∧ ∃ schema rejection, parse limit text = .ok schema ∧
          schema.accept = .error rejection) ∧
      (outcome.code ≠ 1 → outcome.code = 0 ∧ ∃ schema, parse limit text = .ok schema ∧
        outcome.stdout = (if checked then "✓ Schema is valid!\n" else "") ++
          schema.toIndentedJson ++ "\n\nCanonical DSL: " ++ schema.render ++ "\n")) ∧
    (outcome.code ≠ 0 → outcome.stdout = "") ∧
    (outcome.stderr = "" ↔ outcome.code = 0) := by
  intro outcome
  obtain ⟨hstdout, hstderr⟩ : outcome.OnOneStream := onOneStream_run program args
  have hcall : ∀ {limit checked text}, IsCall args limit checked text →
      outcome = process limit checked text := fun h => h.run_eq program
  have hmisuse : ∀ {fault}, IsMisuse args fault → outcome = misused program fault :=
    fun h => h.run_eq program
  have hnone : outcome.code = 2 → ¬∃ limit checked text, IsCall args limit checked text := by
    rintro hcode ⟨limit, checked, text, h⟩
    rw [hcall h] at hcode
    exact process_code_ne_two limit checked text hcode
  refine ⟨⟨hnone, ?_⟩, ?_, ?_, ?_, hstdout, hstderr⟩
  · intro hnot
    obtain ⟨fault, h⟩ := (isCall_or_isMisuse args).resolve_left hnot
    rw [hmisuse h]
    rfl
  · intro hcode
    obtain ⟨fault, h⟩ := (isCall_or_isMisuse args).resolve_left (hnone hcode)
    exact ⟨fault, h, fun other hother => hother.unique h⟩
  · intro fault h
    rw [hmisuse h]
    rfl
  · intro limit checked text h
    rw [hcall h]
    refine ⟨rfl, process_code_eq_one_iff, ?_⟩
    intro hcode
    obtain ⟨schema, hparse, hshown⟩ := process_of_code_ne_one hcode
    rw [hshown]
    exact ⟨rfl, schema, hparse, rfl⟩

/-- The last limit counts, also if it is written in another way. The key is no identifier, but nobody
asks for it to be checked. -/
theorem run_spec_unchecked :
    let args := ["--max-depth", "9", "1 s", "--no-validate", "--max-depth", "+01"]
    IsCall args 1 false "1 s" ∧ (run "schema-dsl" args).code = 0 := by
  intro args
  have hnine : IsLimit "9" 9 := readLimit?_eq_some_iff.mp (by decide +kernel)
  have hone : IsLimit "+01" 1 := readLimit?_eq_some_iff.mp (by decide +kernel)
  have htext : ¬IsDashed "1 s" := by
    rw [← isOption_iff]
    decide
  have hcall : IsCall args 1 false "1 s" :=
    .mk (.limit hnine (.text htext (.unchecked (.limit hone .nil)))) rfl
  obtain ⟨-, hfails, hshows⟩ := (run_spec "schema-dsl" args).2.2.2.1 1 false "1 s" hcall
  have hparse : parse 1 "1 s" = .ok [⟨"1", .string, false, none, []⟩] := by decide +kernel
  refine ⟨hcall, (hshows fun hcode => ?_).1⟩
  rcases hfails.mp hcode with ⟨fault, herror⟩ | ⟨hchecked, -⟩
  · rw [hparse] at herror
    cases herror
  · cases hchecked

end RecordSchema.CommandLine
