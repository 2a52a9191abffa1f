import Mathlib.Data.List.Induction
import Mathlib.Data.Nat.Digits.Defs
import RecordSchema.CommandLine
import RecordSchema.Proofs.Json.Skip

/-!
# What arguments mean

Arguments are read from left to right, and one of them may belong to the one before it. `Asks` says
without a scan what a list of arguments asks for, as a list of requests, and `FailsAt` at which
arguments there is no way to go on:

    args  =  front ++ rest,   front asks for requests,   rest is empty or fails at its first argument

(`isSettled`). Reading goes over a front that asks for something as if its requests were made one by
one (`Asks.readArgs_append`), so the first failure decides, and otherwise the last limit and the only
declaration count. All arguments are a call of the program, or a misuse of it for one reason
(`isCall_or_isMisuse`, `IsMisuse.unique`).
-/

namespace RecordSchema.CommandLine

/-! ### Limits -/

/-- `IsLimit value limit`: digits, with a plus sign in front of them or without, spell this limit in
the decimal system, and it fits into 64 bits. -/
def IsLimit (value : String) (limit : Nat) : Prop :=
  ∃ digits, (value.toList = digits ∨ value.toList = '+' :: digits) ∧ Json.IsDigits digits ∧
    Nat.ofDigits 10 (digits.reverse.map Decimal.digitValue) = limit ∧ limit < 2 ^ 64

theorem digitsValue_eq_ofDigits (digits : List Char) :
    Decimal.digitsValue digits = Nat.ofDigits 10 (digits.reverse.map Decimal.digitValue) := by
  induction digits using List.reverseRecOn with
  | nil => rfl
  | append_singleton digits c ih =>
      unfold Decimal.digitsValue at ih ⊢
      rw [List.foldl_append, ih, List.reverse_concat, List.map_cons, Nat.ofDigits_cons]
      simp only [List.foldl_cons, List.foldl_nil]
      omega

theorem checked_digits_eq_some_iff {digits : List Char} {limit : Nat} :
    (if (digits.isEmpty || !digits.all Char.isDigit) = true then none
      else if Decimal.digitsValue digits ≤ maxLimit then some (Decimal.digitsValue digits)
      else none) = some limit ↔
    Json.IsDigits digits ∧ Nat.ofDigits 10 (digits.reverse.map Decimal.digitValue) = limit ∧
      limit < 2 ^ 64 := by
  have hmax : maxLimit + 1 = 2 ^ 64 := by decide
  have hdigits : ¬(digits.isEmpty || !digits.all Char.isDigit) = true ↔ Json.IsDigits digits := by
    constructor
    · intro h
      simp only [Bool.or_eq_true, not_or, List.isEmpty_iff, Bool.not_eq_true'] at h
      exact ⟨h.1, by simpa using h.2⟩
    · intro h
      simpa [h.ne_nil] using h.isDigit
  rw [Option.ite_none_left_eq_some, hdigits, digitsValue_eq_ofDigits]
  simp only [Option.ite_none_right_eq_some, Option.some.injEq]
  constructor
  · rintro ⟨his, hle, rfl⟩
    exact ⟨his, rfl, by omega⟩
  · rintro ⟨his, rfl, hlt⟩
    exact ⟨his, by omega, rfl⟩

theorem readLimit?_eq_some_iff {value : String} {limit : Nat} :
    readLimit? value = some limit ↔ IsLimit value limit := by
  unfold readLimit? IsLimit
  dsimp only
  split
  next rest hvalue =>
    rw [checked_digits_eq_some_iff, hvalue]
    constructor
    · intro h
      exact ⟨rest, .inr rfl, h⟩
    · rintro ⟨digits, rfl | heq, h⟩
      · -- a plus sign is no digit
        exact absurd (h.1.isDigit '+' List.mem_cons_self) (by decide)
      · rwa [(List.cons.inj heq).2]
  next hnot =>
    rw [checked_digits_eq_some_iff]
    constructor
    · intro h
      exact ⟨_, .inl rfl, h⟩
    · rintro ⟨digits, rfl | heq, h⟩
      · exact h
      · exact absurd heq (hnot _)

/-! ### What arguments ask for -/

/-- One thing that arguments can ask for. -/
inductive Request where
  | limit (limit : Nat)
  | unchecked
  | text (text : String)
deriving DecidableEq

/-- The limits that are asked for, in order. -/
def limits (requests : List Request) : List Nat :=
  requests.filterMap fun
    | .limit limit => some limit
    | _ => none

/-- The declarations that are given, in order. -/
def texts (requests : List Request) : List String :=
  requests.filterMap fun
    | .text text => some text
    | _ => none

/-- An argument that begins with two dashes. -/
def IsDashed (arg : String) : Prop := ['-', '-'] <+: arg.toList

/-- `Asks args requests`: the arguments ask for these things one after the other. The argument behind
`--max-depth` is its value, whatever it looks like. -/
inductive Asks : List String → List Request → Prop
  | nil : Asks [] []
  | limit {value : String} {limit : Nat} {args : List String} {requests : List Request} :
      IsLimit value limit → Asks args requests →
      Asks ("--max-depth" :: value :: args) (.limit limit :: requests)
  | unchecked {args : List String} {requests : List Request} : Asks args requests →
      Asks ("--no-validate" :: args) (.unchecked :: requests)
  | text {arg : String} {args : List String} {requests : List Request} : ¬IsDashed arg →
      Asks args requests → Asks (arg :: args) (.text arg :: requests)

/-- `FailsAt given rest fault`: with these declarations given already, the first argument of the rest
cannot be taken. -/
inductive FailsAt (given : List String) : List String → UsageFault → Prop
  | missingLimit : FailsAt given ["--max-depth"] .missingLimit
  | badLimit {value : String} {args : List String} : (∀ limit, ¬IsLimit value limit) →
      FailsAt given ("--max-depth" :: value :: args) (.badLimit value)
  | unknownOption {arg : String} {args : List String} : IsDashed arg → arg ≠ "--max-depth" →
      arg ≠ "--no-validate" → FailsAt given (arg :: args) (.unknownOption arg)
  | secondText {arg : String} {args : List String} : ¬IsDashed arg → given ≠ [] →
      FailsAt given (arg :: args) .secondText

/-- With these declarations given already, the arguments ask for something up to their end, or up to
an argument at which they fail. -/
def IsSettled (given args : List String) : Prop :=
  ∃ front requests rest, args = front ++ rest ∧ Asks front requests ∧
    (given ++ texts requests).length ≤ 1 ∧
    (rest = [] ∨ ∃ fault, FailsAt (given ++ texts requests) rest fault)

theorem FailsAt.isSettled {given args : List String} {fault : UsageFault}
    (h : FailsAt given args fault) (hgiven : given.length ≤ 1) : IsSettled given args := by
  rw [← List.append_nil given] at h hgiven
  exact ⟨[], [], args, rfl, .nil, hgiven, .inr ⟨fault, h⟩⟩

/-- Whatever the arguments are, they ask for something up to their end or fail at one of them. -/
theorem isSettled (args given : List String) (hgiven : given.length ≤ 1) :
    IsSettled given args := by
  match args with
  | [] => exact ⟨[], [], [], rfl, .nil, by simpa [texts] using hgiven, .inl rfl⟩
  | arg :: args =>
      by_cases hdashed : IsDashed arg
      · by_cases hlimit : arg = "--max-depth"
        · subst hlimit
          match args with
          | [] => exact FailsAt.missingLimit.isSettled hgiven
          | value :: args =>
              by_cases hvalue : ∃ limit, IsLimit value limit
              · obtain ⟨limit, hvalue⟩ := hvalue
                obtain ⟨front, requests, rest, rfl, hasks, hend⟩ := isSettled args given hgiven
                exact ⟨_ :: _ :: front, _, rest, rfl, .limit hvalue hasks, hend⟩
              · have hbad : ∀ limit, ¬IsLimit value limit := fun limit h => hvalue ⟨limit, h⟩
                exact (FailsAt.badLimit hbad).isSettled hgiven
        · by_cases hunchecked : arg = "--no-validate"
          · subst hunchecked
            obtain ⟨front, requests, rest, rfl, hasks, hend⟩ := isSettled args given hgiven
            exact ⟨_ :: front, _, rest, rfl, .unchecked hasks, hend⟩
          · exact (FailsAt.unknownOption hdashed hlimit hunchecked).isSettled hgiven
      · match given with
        | [] =>
            -- from here on a declaration is given
            obtain ⟨front, requests, rest, rfl, hasks, hend⟩ := isSettled args [arg] (by simp)
            exact ⟨_ :: front, _, rest, rfl, .text hdashed hasks, hend⟩
        | first :: more => exact (FailsAt.secondText hdashed (by simp)).isSettled hgiven

/-! ### Reading arguments -/

/-- The options after one more request. -/
def Options.ask (options : Options) : Request → Options
  | .limit limit => { options with limit }
  | .unchecked => { options with checked := false }
  | .text text => { options with text := some text }

/-- The options after all requests: the last limit counts, the last declaration, and whether there was
a request not to check. -/
theorem foldl_ask (requests : List Request) :
    requests.foldl Options.ask {} =
      { limit := (limits requests).getLast?.getD 5
        checked := decide (.unchecked ∉ requests)
        text := (texts requests).getLast? } := by
  induction requests using List.reverseRecOn with
  | nil => rfl
  | append_singleton requests request ih =>
      rw [List.foldl_append, ih]
      cases request <;> simp [Options.ask, limits, texts]

theorem isOption_iff {arg : String} : isOption arg = true ↔ IsDashed arg := by
  unfold isOption IsDashed
  rw [List.prefix_iff_eq_take, beq_iff_eq, eq_comm]
  rfl

/-- Arguments other than the two options are told apart by their dashes. -/
theorem readArgs_other {arg : String} (hlimit : arg ≠ "--max-depth")
    (hunchecked : arg ≠ "--no-validate") (options : Options) (args : List String) :
    readArgs options (arg :: args) =
      if isOption arg then .error (.unknownOption arg)
      else options.text.elim (readArgs { options with text := some arg } args)
        fun _ => .error .secondText := by
  rw [readArgs]
  · cases options.text <;> rfl
  · exact fun h _ => hlimit h
  · exact fun _ _ h _ => hlimit h
  · exact hunchecked

theorem readArgs_text {arg : String} (h : ¬IsDashed arg) (options : Options) (args : List String) :
    readArgs options (arg :: args) =
      options.text.elim (readArgs { options with text := some arg } args)
        fun _ => .error .secondText := by
  rw [readArgs_other, if_neg (mt isOption_iff.mp h)]
  · rintro rfl
    exact h ⟨_, rfl⟩
  · rintro rfl
    exact h ⟨_, rfl⟩

/-- Reading passes over arguments that ask for something, request by request. -/
theorem Asks.readArgs_append {front : List String} {requests : List Request}
    (h : Asks front requests) (rest : List String) {options : Options}
    (hfits : (options.text.toList ++ texts requests).length ≤ 1) :
    readArgs options (front ++ rest) = readArgs (requests.foldl Options.ask options) rest := by
  induction h generalizing options with
  | nil => rfl
  | limit hvalue _ ih =>
      rw [List.cons_append, List.cons_append, readArgs, readLimit?_eq_some_iff.mpr hvalue]
      exact ih hfits
  | unchecked _ ih =>
      rw [List.cons_append, readArgs]
      exact ih hfits
  | text hdashed _ ih =>
      rw [List.cons_append, readArgs_text hdashed]
      cases htext : options.text with
      | some text =>
          -- there is room for one declaration only
          simp [htext, texts] at hfits
      | none =>
          rw [htext] at hfits
          exact ih hfits

theorem FailsAt.readArgs_eq {rest : List String} {fault : UsageFault} {options : Options}
    (h : FailsAt options.text.toList rest fault) : readArgs options rest = .error fault := by
  cases h with
  | missingLimit => rw [readArgs]
  | @badLimit value args hbad =>
      have hnone : readLimit? value = none := by
        rw [Option.eq_none_iff_forall_ne_some]
        intro limit hlimit
        exact hbad limit (readLimit?_eq_some_iff.mp hlimit)
      rw [readArgs, hnone]
  | unknownOption hdashed hlimit hunchecked =>
      rw [readArgs_other hlimit hunchecked, if_pos (isOption_iff.mpr hdashed)]
  | secondText hdashed hgiven =>
      rw [readArgs_text hdashed]
      cases htext : options.text with
      | some text => rfl
      | none => simp [htext] at hgiven

/-! ### Calls and misuse -/

/-- `IsCall args limit checked text`: the arguments give one declaration. The last limit counts, or 5,
and the schema is checked unless there is a request not to. -/
inductive IsCall (args : List String) : Nat → Bool → String → Prop
  | mk {requests : List Request} {text : String} : Asks args requests → texts requests = [text] →
      IsCall args ((limits requests).getLast?.getD 5) (decide (.unchecked ∉ requests)) text

/-- `IsMisuse args fault`: the arguments are not a call. They ask for something, with one declaration
at most, up to an argument at which they fail, or to their end without a declaration. -/
inductive IsMisuse (args : List String) : UsageFault → Prop
  | fails {front rest : List String} {requests : List Request} {fault : UsageFault} :
      args = front ++ rest → Asks front requests → (texts requests).length ≤ 1 →
      FailsAt (texts requests) rest fault → IsMisuse args fault
  | missingText {requests : List Request} : Asks args requests → texts requests = [] →
      IsMisuse args .missingText

theorem isCall_or_isMisuse (args : List String) :
    (∃ limit checked text, IsCall args limit checked text) ∨ ∃ fault, IsMisuse args fault := by
  obtain ⟨front, requests, rest, rfl, hasks, hfits, rfl | ⟨fault, hfails⟩⟩ :=
    isSettled args [] (by simp)
  · rw [List.append_nil]
    match htexts : texts requests with
    | [] => exact .inr ⟨_, .missingText hasks htexts⟩
    | [text] => exact .inl ⟨_, _, _, .mk hasks htexts⟩
    | _ :: _ :: _ => simp [htexts] at hfits
  · exact .inr ⟨fault, .fails rfl hasks hfits hfails⟩

/-- What the arguments ask for is what is read, if there is at most one declaration. -/
theorem Asks.readArgs_front {front : List String} {requests : List Request}
    (h : Asks front requests) (hfits : (texts requests).length ≤ 1) (rest : List String) :
    readArgs {} (front ++ rest) = readArgs
      { limit := (limits requests).getLast?.getD 5
        checked := decide (.unchecked ∉ requests)
        text := (texts requests).getLast? } rest := by
  rw [← foldl_ask]
  exact h.readArgs_append rest hfits

theorem Asks.readArgs_eq {args : List String} {requests : List Request} (h : Asks args requests)
    (hfits : (texts requests).length ≤ 1) :
    readArgs {} args = .ok
      { limit := (limits requests).getLast?.getD 5
        checked := decide (.unchecked ∉ requests)
        text := (texts requests).getLast? } := by
  have hread := h.readArgs_front hfits []
  rwa [List.append_nil] at hread

theorem Asks.readArgs_fails {front rest : List String} {requests : List Request}
    {fault : UsageFault} (h : Asks front requests) (hfits : (texts requests).length ≤ 1)
    (hfails : FailsAt (texts requests) rest fault) : readArgs {} (front ++ rest) = .error fault := by
  have hgiven : (texts requests).getLast?.toList = texts requests := by
    match texts requests, hfits with
    | [], _ => rfl
    | [given], _ => rfl
  rw [h.readArgs_front hfits]
  apply FailsAt.readArgs_eq
  rwa [hgiven]

/-- There is one reason only why arguments are not a call. -/
theorem IsMisuse.unique {args : List String} {fault fault' : UsageFault} (h : IsMisuse args fault)
    (h' : IsMisuse args fault') : fault = fault' := by
  cases h with
  | fails hargs hasks hfits hfails =>
      have hread := hasks.readArgs_fails hfits hfails
      rw [← hargs] at hread
      cases h' with
      | fails hargs' hasks' hfits' hfails' =>
          have hread' := hasks'.readArgs_fails hfits' hfails'
          rw [← hargs', hread] at hread'
          exact Except.error.inj hread'
      | missingText hasks' htexts =>
          rw [hasks'.readArgs_eq (by simp [htexts])] at hread
          cases hread
  | missingText hasks htexts =>
      cases h' with
      | fails hargs' hasks' hfits' hfails' =>
          have hread' := hasks'.readArgs_fails hfits' hfails'
          rw [← hargs', hasks.readArgs_eq (by simp [htexts])] at hread'
          cases hread'
      | missingText _ _ => rfl

end RecordSchema.CommandLine
