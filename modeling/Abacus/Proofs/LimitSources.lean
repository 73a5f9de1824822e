/-
Module: Abacus.Proofs.LimitSources
Purpose: A limit is the same whether a variable or an option sets it, and an option comes first.
Main exports: Setting, EvaluatesUnder, Hands, findLimits_eq_ok_iff, EvaluatesUnder.settable,
  EvaluatesUnder.attempt_eq, findLimits_eq_of_given, evaluatesUnder_option_iff, answer_evalLine,
  answer_of_idle, variables_agree_with_options
-/
import Mathlib.Logic.Function.Basic
import Abacus.Proofs.EnvironmentLimits
import Abacus.Proofs.OptionWords
import Abacus.Proofs.Reports

namespace Abacus.CommandLine

open Text

/-!
Each limit is settled for itself: by its option if there is one, else by its variable, but where a
variable is refused nothing is settled, whatever the option says.  So a command line is compared
with another one limit by limit, and only the limit whose source differs has to be looked at.
-/

/-- What can be set from outside: the limit on digits and the limit on nesting. -/
inductive Setting where
  | digits
  | depth
deriving Repr, DecidableEq

namespace Setting

/-- The option for the limit. -/
def switch : Setting → Switch
  | digits => .maxDigits
  | depth => .maxDepth

/-- The variable for the limit. -/
def variableName : Setting → String
  | digits => Limits.digitsVariable
  | depth => Limits.depthVariable

/-- The limit that is kept to if nothing is said about it. -/
def standard : Setting → Int
  | digits => 4300
  | depth => 200

/-- The limit, out of both. -/
def limit (limits : Limits) : Setting → Int
  | digits => limits.digits
  | depth => limits.depth

/-- What options say about the limit. -/
def given (options : Options) : Setting → Option Int
  | digits => options.maxDigits
  | depth => options.maxDepth

/-- The options with one more that gives the limit. -/
def give (options : Options) (value : Int) : Setting → Options
  | digits => { options with maxDigits := some value }
  | depth => { options with maxDepth := some value }

/-- The environment with the variable for the limit set to a value, or not set. -/
def assign (environment : Environment) (value : Option String) (setting : Setting) : Environment :=
  Function.update environment setting.variableName value

theorem switch_inj {setting other : Setting} : setting.switch = other.switch ↔ setting = other := by
  cases setting <;> cases other <;> simp [switch]

theorem variableName_inj {setting other : Setting} :
    setting.variableName = other.variableName ↔ setting = other := by
  cases setting <;> cases other <;> decide

@[simp] theorem assign_own (environment : Environment) (value : Option String)
    (setting : Setting) : setting.assign environment value setting.variableName = value :=
  Function.update_self ..

theorem assign_other (environment : Environment) (value : Option String) {setting other : Setting}
    (differs : other ≠ setting) :
    setting.assign environment value other.variableName = environment other.variableName := by
  have name : other.variableName ≠ setting.variableName :=
    fun same => differs (variableName_inj.1 same)
  rw [assign, Function.update_of_ne name]

theorem given_give (options : Options) (value : Int) (setting other : Setting) :
    other.given (setting.give options value) =
      if other = setting then some value else other.given options := by
  cases setting <;> cases other <;> rfl

theorem given_empty (setting : Setting) : setting.given {} = none := by
  cases setting <;> rfl

theorem settable_standard (setting : Setting) : Limits.Settable setting.standard := by
  cases setting with
  | digits => exact ⟨by decide, by decide +kernel⟩
  | depth => exact ⟨by decide, by decide +kernel⟩

end Setting

/-! ### Limits -/

section Sources

variable {environment : Environment} {options : Options} {limits : Limits}

/-- Each limit is the one that is given, or else the one that the variable sets; the variable has to
be accepted in any case. -/
theorem findLimits_eq_ok_iff :
    findLimits environment options = .ok limits ↔
      ∀ setting : Setting, ∃ found,
        Limits.ofVariable environment setting.variableName setting.standard = .ok found ∧
          setting.limit limits = (setting.given options).getD found := by
  constructor
  · intro settled
    rw [findLimits] at settled
    split at settled
    · rename_i defaults accepted
      obtain ⟨digits, depth⟩ := Limits.ofEnvironment_eq_ok_iff.1 accepted
      cases settled
      intro setting
      cases setting with
      | digits => exact ⟨_, digits, rfl⟩
      | depth => exact ⟨_, depth, rfl⟩
    · cases settled
  · intro settled
    obtain ⟨digits, acceptedDigits, sameDigits⟩ := settled .digits
    obtain ⟨depth, acceptedDepth, sameDepth⟩ := settled .depth
    have accepted : Limits.ofEnvironment environment = .ok { digits := digits, depth := depth } :=
      Limits.ofEnvironment_eq_ok_iff.2 ⟨acceptedDigits, acceptedDepth⟩
    have same : options.limits { digits := digits, depth := depth } = limits := by
      cases limits
      exact congrArg₂ Limits.mk sameDigits.symm sameDepth.symm
    rw [findLimits, accepted]
    dsimp only
    rw [same]

/-- Where limits are not found, nothing is printed but what is wrong, and the exit status is 2. -/
theorem findLimits_eq_error {output : Output}
    (refused : findLimits environment options = .error output) :
    output.stdout = [] ∧ output.exit = 2 := by
  rw [findLimits] at refused
  split at refused
  · cases refused
  · cases refused
    exact ⟨rfl, rfl⟩

/-- What a variable sets is a matter of its own value. -/
theorem ofVariable_congr {other : Environment} {name : String}
    (same : environment name = other name) (default : Int) :
    Limits.ofVariable environment name default = Limits.ofVariable other name default := by
  rw [Limits.ofVariable, Limits.ofVariable, same]

/-- A variable that is not set leaves the default. -/
theorem ofVariable_of_none {name : String} (unset : environment name = none) (default : Int) :
    Limits.ofVariable environment name default = .ok default := by
  refine Limits.ofVariable_eq_ok_iff.2 (.absent ?_)
  simp [unset]

/-- An option accepts the numerals that are not negative, where nothing is a separator. -/
theorem limitOf_eq_ok_iff {switch : Switch} {value : String} {limit : Int} :
    limitOf switch value = .ok limit ↔
      (Numeral.Denotes (trim value.toList) limit ∧ 0 ≤ limit) ∧
        ∀ c ∈ value.toList, isSeparator c = false := by
  rw [and_right_comm, ← Numeral.denotes_trimBy_isMargin_iff, ← Numeral.signed?_eq_some_iff,
    limitOf, Numeral.read?]
  cases Numeral.signed? (trimBy Numeral.isMargin value.toList) with
  | none => simp
  | some found =>
      dsimp only
      split
      · rename_i below
        simp only [reduceCtorEq, Option.some.injEq, false_iff]
        rintro ⟨rfl, natural⟩
        exact Int.not_lt.2 natural below
      · rename_i natural
        simp only [Except.ok.injEq, Option.some.injEq]
        constructor
        · rintro rfl
          exact ⟨rfl, Int.not_lt.1 natural⟩
        · exact And.left

theorem settable_of_limitOf {switch : Switch} {value : String} {limit : Int}
    (accepted : limitOf switch value = .ok limit) : Limits.Settable limit := by
  obtain ⟨⟨denotes, natural⟩, -⟩ := limitOf_eq_ok_iff.1 accepted
  exact ⟨natural, denotes.writable⟩

/-- An option accepts a value if a variable does and nothing in it is a separator, and then sets the
same limit, unless the value is blank. -/
theorem limitOf_eq_ok_iff_ofVariable {name value : String} (set : environment name = some value)
    (spoken : ∃ c ∈ value.toList, isBlank c = false) (switch : Switch) {default limit : Int} :
    limitOf switch value = .ok limit ↔
      Limits.ofVariable environment name default = .ok limit ∧
        ∀ c ∈ value.toList, isSeparator c = false := by
  have content : environment.content name = trim value.toList := by
    rw [Environment.content, set, Option.getD_some]
  rw [Limits.ofVariable_eq_ok_iff, limitOf_eq_ok_iff, ← content]
  refine and_congr_left' ?_
  constructor
  · rintro ⟨denotes, natural⟩
    exact .given denotes natural
  · intro sets
    cases sets with
    | absent silent =>
        obtain ⟨c, mem, shown⟩ := spoken
        cases shown.symm.trans (silent value set c mem)
    | given denotes natural => exact ⟨denotes, natural⟩

end Sources

/-! ### Options -/

section GivenOptions

variable {options next result : Options} {switch : Switch} {value : String}

theorem set_switch (setting : Setting) (options : Options) (value : String) :
    options.set setting.switch value =
      (limitOf setting.switch value).map fun limit => setting.give options limit := by
  cases setting <;> rfl

/-- One option gives its own limit, one that can be set, and leaves the other one. -/
theorem given_set (set : options.set switch value = .ok next) (setting : Setting) :
    (∃ limit, Limits.Settable limit ∧ setting.given next = some limit) ∨
      switch ≠ setting.switch ∧ setting.given next = setting.given options := by
  have gives (own : Setting) (same : switch = own.switch) :
      (∃ limit, Limits.Settable limit ∧ setting.given next = some limit) ∨
        switch ≠ setting.switch ∧ setting.given next = setting.given options := by
    subst same
    rw [set_switch] at set
    cases accepted : limitOf own.switch value with
    | error usage =>
        rw [accepted] at set
        cases set
    | ok limit =>
        rw [accepted] at set
        cases set
        rw [Setting.given_give]
        by_cases mine : setting = own
        · exact .inl ⟨limit, settable_of_limitOf accepted, by rw [if_pos mine]⟩
        · exact .inr ⟨fun same => mine (Setting.switch_inj.1 same).symm, by rw [if_neg mine]⟩
  cases switch with
  | maxDigits => exact gives .digits rfl
  | maxDepth => exact gives .depth rfl
  | json =>
      cases set
      cases setting with
      | digits => exact .inr ⟨by decide, rfl⟩
      | depth => exact .inr ⟨by decide, rfl⟩

/-- After some options a limit is given that can be set, or its option was not among them. -/
theorem given_foldlM_set {switches : List Switch} {values : Switch → String}
    (folded : switches.foldlM (fun (options : Options) switch => options.set switch (values switch))
      options = .ok result) (setting : Setting) :
    (∃ limit, Limits.Settable limit ∧ setting.given result = some limit) ∨
      setting.switch ∉ switches ∧ setting.given result = setting.given options := by
  induction switches generalizing options with
  | nil =>
      cases folded
      exact .inr ⟨List.not_mem_nil, rfl⟩
  | cons switch switches ih =>
      rw [List.foldlM_cons] at folded
      cases first : options.set switch (values switch) with
      | error usage =>
          rw [first] at folded
          cases folded
      | ok next =>
          rw [first] at folded
          rcases ih folded with found | ⟨absent, same⟩
          · exact .inl found
          · rcases given_set first setting with ⟨limit, natural, given⟩ | ⟨other, kept⟩
            · exact .inl ⟨limit, natural, same.trans given⟩
            · refine .inr ⟨?_, same.trans kept⟩
              rw [List.mem_cons, not_or]
              exact ⟨other.symm, absent⟩

/-- The limits of valid options can be set, and each option that is given has one. -/
theorem given_ofGiven {given : List (Switch × String)} (valid : Options.ofGiven given = .ok options)
    (setting : Setting) :
    (∃ limit, Limits.Settable limit ∧ setting.given options = some limit) ∨
      setting.switch ∉ given.map Prod.fst ∧ setting.given options = none := by
  rcases given_foldlM_set valid setting with found | ⟨absent, same⟩
  · exact .inl found
  · exact .inr ⟨fun mem => absent (List.mem_eraseDups.2 mem), same.trans setting.given_empty⟩

/-- One option alone is read for itself. -/
theorem ofGiven_singleton (setting : Setting) (value : String) :
    Options.ofGiven [(setting.switch, value)] =
      (limitOf setting.switch value).map fun limit => setting.give {} limit := by
  have last : ([(setting.switch, value)].reverse.lookup setting.switch).getD "" = value := by
    simp
  have once : ([(setting.switch, value)].map Prod.fst).eraseDups = [setting.switch] := rfl
  rw [Options.ofGiven, once, List.foldlM_cons, last, set_switch]
  cases limitOf setting.switch value <;> rfl

end GivenOptions

/-! ### Command lines -/

/-- The command line comes to evaluate what it is given, and keeps to those limits. -/
def EvaluatesUnder (environment : Environment) (words : List String) (limits : Limits) : Prop :=
  ∃ request, Request.ofWords words = .ok request ∧
    findLimits environment request.options = .ok limits

/-- The words hand over an expression, after two dashes or, if it does not look like an option, on
its own. -/
inductive Hands (expression : String) : List String → Prop where
  | marked : Hands expression ["--", expression]
  | plain (notOption : isOption expression = false) : Hands expression [expression]

/-- A command line that evaluates one expression. -/
def evalLine (json : Bool) (words last : List String) : List String :=
  "eval" :: (formWords json ++ (words ++ last))

/-- The options of a command line are read from some that are given. -/
theorem exists_ofGiven_of_readWords {known : List Switch} {least : List String} {most : Nat}
    {words arguments : List String} {options : Options}
    (read : readWords known least most words = .ok (options, arguments)) :
    ∃ given, Options.ofGiven given = .ok options := by
  rw [readWords] at read
  dsimp only [bind, Except.bind] at read
  split at read
  · cases read
  · rename_i sorted _
    split at read
    · cases read
    · rename_i found valid
      split at read
      · cases read
      · split at read
        · cases read
          exact ⟨sorted.options, valid⟩
        · cases read

theorem exists_ofGiven_of_ofCommand {command : String} {words : List String} {request : Request}
    (read : Request.ofCommand command words = .ok request) :
    ∃ given, Options.ofGiven given = .ok request.options := by
  unfold Request.ofCommand at read
  dsimp only [bind, Except.bind, pure, Except.pure] at read
  -- The three commands differ in the arguments that they take, but all read their words alike.
  split at read
  · split at read
    · cases read
    · rename_i found
      cases read
      exact exists_ofGiven_of_readWords found
  · split at read
    · cases read
    · rename_i found
      cases read
      exact exists_ofGiven_of_readWords found
  · split at read
    · cases read
    · rename_i found
      cases read
      exact exists_ofGiven_of_readWords found
  · cases read

theorem exists_ofGiven_of_ofWords {words : List String} {request : Request}
    (read : Request.ofWords words = .ok request) :
    ∃ given, Options.ofGiven given = .ok request.options := by
  unfold Request.ofWords at read
  split at read
  · cases read
  · exact exists_ofGiven_of_ofCommand read
  · split at read
    · cases read
    · split at read
      · cases read
      · exact exists_ofGiven_of_ofCommand read

/-- Every command line that evaluates does so under limits that can be set. -/
theorem EvaluatesUnder.settable {environment : Environment} {words : List String} {limits : Limits}
    (evaluates : EvaluatesUnder environment words limits) (setting : Setting) :
    Limits.Settable (setting.limit limits) := by
  obtain ⟨request, read, settled⟩ := evaluates
  obtain ⟨given, valid⟩ := exists_ofGiven_of_ofWords read
  obtain ⟨found, accepted, same⟩ := findLimits_eq_ok_iff.1 settled setting
  rw [same]
  rcases given_ofGiven valid setting with ⟨limit, settable, present⟩ | ⟨-, absent⟩
  · rw [present]
    exact settable
  · rw [absent]
    exact (Limits.ofVariable_eq_ok_iff.1 accepted).settable setting.settable_standard

/-- No record that a command asks for is ever refused. -/
theorem EvaluatesUnder.attempt_eq {environment : Environment} {words : List String}
    {limits : Limits} (evaluates : EvaluatesUnder environment words limits) (expression : String) :
    attempt expression limits = .ok (tryEvaluate expression limits) :=
  attempt_of_writable
    ⟨(evaluates.settable .digits).writable, (evaluates.settable .depth).writable⟩ expression

/-- A command line that is read, but for which no limits are found, exits with 2 and prints nothing
but a message. -/
theorem exists_answer_of_idle (surroundings : Surroundings) {words : List String}
    {request : Request} (read : Request.ofWords words = .ok request)
    (idle : ∀ limits, ¬ EvaluatesUnder surroundings.environment words limits) :
    ∃ stderr, answer surroundings words = .ok { stdout := [], stderr := stderr, exit := 2 } := by
  cases settled : findLimits surroundings.environment request.options with
  | ok limits => exact absurd ⟨request, read, settled⟩ (idle limits)
  | error output =>
      obtain ⟨silent, failed⟩ := findLimits_eq_error settled
      refine ⟨output.stderr, answer_of_request surroundings request read ?_⟩
      rw [Request.output, settled]
      cases output
      cases silent
      cases failed
      rfl

/-- A command line that does not come to evaluate anything is refused, or it exits with 2 and prints
nothing but a message. -/
theorem answer_of_idle (surroundings : Surroundings) {words : List String}
    (idle : ∀ limits, ¬ EvaluatesUnder surroundings.environment words limits) :
    (∃ usage, answer surroundings words = .error (.usage usage)) ∨
      ∃ stderr, answer surroundings words = .ok { stdout := [], stderr := stderr, exit := 2 } := by
  cases read : Request.ofWords words with
  | error usage => exact .inl ⟨usage, by rw [answer, read]⟩
  | ok request => exact .inr (exists_answer_of_idle surroundings read idle)

/-- The environment counts for nothing but the limits. -/
theorem answer_congr {one two : Environment} {words : List String}
    (same : ∀ request, Request.ofWords words = .ok request →
      findLimits one request.options = findLimits two request.options)
    (input : List Char) (file : String → Option (List UInt8)) :
    answer ⟨one, input, file⟩ words = answer ⟨two, input, file⟩ words := by
  rw [answer, answer]
  cases read : Request.ofWords words with
  | error usage => rfl
  | ok request =>
      have output : request.output ⟨one, input, file⟩ = request.output ⟨two, input, file⟩ := by
        rw [Request.output, Request.output, same request read]
        rfl
      dsimp only
      rw [output]

section EvalLines

variable {environment : Environment} {words last : List String} {given : List (Switch × String)}
  {expression : String} {json : Bool} {limits : Limits}

theorem sort_hands (hands : Hands expression last) (known : List Switch) :
    Words.sort known last = .ok { arguments := [expression] } := by
  cases hands with
  | marked => exact sort_mark known [expression]
  | plain notOption =>
      have notMark : expression ≠ "--" := by
        rintro rfl
        cases notOption
      rw [Words.sort, if_neg notMark, if_neg (by rw [notOption]; exact Bool.false_ne_true),
        sort_nil]
      rfl

/-- A line that gives options and hands over an expression is read as its options are. -/
theorem ofWords_evalLine (gives : Gives words given) (hands : Hands expression last) (json : Bool) :
    Request.ofWords (evalLine json words last) =
      (Options.ofGiven given).map fun options =>
        .eval expression { options with json := json } := by
  have read := readWords_form_eq gives json (sort_hands hands _) ["EXPRESSION"] 1 (by simp)
    (by simp)
  change Request.ofCommand "eval" _ = _
  rw [Request.ofCommand, read]
  cases Options.ofGiven given <;> rfl

/-- Such a line is evaluated under the limits that its options and the environment settle. -/
theorem evaluatesUnder_evalLine_iff (gives : Gives words given) (hands : Hands expression last) :
    EvaluatesUnder environment (evalLine json words last) limits ↔
      ∃ options, Options.ofGiven given = .ok options ∧
        findLimits environment options = .ok limits := by
  rw [EvaluatesUnder, ofWords_evalLine gives hands json]
  cases Options.ofGiven given with
  | error usage => simp [Except.map]
  | ok options =>
      simp only [Except.map, Except.ok.injEq, exists_eq_left']
      rfl

/-- What such a line prints is what its expression comes to under these limits. -/
theorem answer_evalLine (gives : Gives words given) (hands : Hands expression last)
    (surroundings : Surroundings)
    (evaluates : EvaluatesUnder surroundings.environment (evalLine json words last) limits) :
    answer surroundings (evalLine json words last) = .ok (evalCommand limits json expression) := by
  obtain ⟨options, valid, settled⟩ := (evaluatesUnder_evalLine_iff gives hands).1 evaluates
  have found : findLimits surroundings.environment
      (Request.eval expression { options with json := json }).options = .ok limits := settled
  refine answer_of_request surroundings (.eval expression { options with json := json }) ?_ ?_
  · rw [ofWords_evalLine gives hands json, valid]
    rfl
  · rw [Request.output, found]

end EvalLines

/-! ### Variables and options -/

section Comparison

variable {environment : Environment} {words last : List String} {given : List (Switch × String)}
  {expression value : String} {json : Bool} {limits : Limits}

/-- A limit that an option gives is not taken from a variable, if this is accepted at all. -/
theorem findLimits_eq_of_given {one two : Environment} {setting : Setting} {options : Options}
    {accepted limit : Int}
    (valid : Limits.ofVariable one setting.variableName setting.standard = .ok accepted)
    (unset : two setting.variableName = none)
    (others : ∀ other, other ≠ setting → one other.variableName = two other.variableName)
    (given : setting.given options = some limit) :
    findLimits one options = findLimits two options := by
  have standard := ofVariable_of_none unset setting.standard
  rw [findLimits, findLimits, Limits.ofEnvironment_eq, Limits.ofEnvironment_eq]
  -- What the other variable comes to is the same twice, an error included.
  cases setting with
  | digits =>
      have depth : Limits.ofVariable one Limits.depthVariable 200 =
          Limits.ofVariable two Limits.depthVariable 200 :=
        ofVariable_congr (others .depth (by decide)) 200
      change Limits.ofVariable one Limits.digitsVariable 4300 = .ok accepted at valid
      change Limits.ofVariable two Limits.digitsVariable 4300 = .ok 4300 at standard
      change options.maxDigits = some limit at given
      rw [valid, standard, depth]
      cases Limits.ofVariable two Limits.depthVariable 200 with
      | error bad => rfl
      | ok depth => simp [Except.bind, Options.limits, given]
  | depth =>
      have digits : Limits.ofVariable one Limits.digitsVariable 4300 =
          Limits.ofVariable two Limits.digitsVariable 4300 :=
        ofVariable_congr (others .digits (by decide)) 4300
      change Limits.ofVariable one Limits.depthVariable 200 = .ok accepted at valid
      change Limits.ofVariable two Limits.depthVariable 200 = .ok 200 at standard
      change options.maxDepth = some limit at given
      rw [valid, standard, digits]
      cases Limits.ofVariable two Limits.digitsVariable 4300 with
      | error bad => rfl
      | ok digits => simp [Except.bind, Options.limits, given]

/-- An option that repeats what its variable sets makes no difference. -/
theorem findLimits_give {setting : Setting} {options : Options} {accepted : Int}
    (valid : Limits.ofVariable environment setting.variableName setting.standard = .ok accepted)
    (silent : setting.given options = none) :
    findLimits environment (setting.give options accepted) = findLimits environment options := by
  rw [findLimits, findLimits]
  cases settled : Limits.ofEnvironment environment with
  | error bad => rfl
  | ok defaults =>
      obtain ⟨digits, depth⟩ := Limits.ofEnvironment_eq_ok_iff.1 settled
      dsimp only
      cases setting with
      | digits =>
          change options.maxDigits = none at silent
          cases Except.ok.inj (digits.symm.trans valid)
          simp [Options.limits, Setting.give, silent]
      | depth =>
          change options.maxDepth = none at silent
          cases Except.ok.inj (depth.symm.trans valid)
          simp [Options.limits, Setting.give, silent]

/-- A value in the option settles what it settles in the variable, if nothing in it is a
separator. -/
theorem evaluatesUnder_option_iff {one two : Environment} {setting : Setting}
    (set : one setting.variableName = some value) (unset : two setting.variableName = none)
    (others : ∀ other, other ≠ setting → one other.variableName = two other.variableName)
    (spoken : ∃ c ∈ value.toList, isBlank c = false)
    (gives : Gives words [(setting.switch, value)]) (hands : Hands expression last) :
    EvaluatesUnder two (evalLine json words last) limits ↔
      EvaluatesUnder one (evalLine json [] last) limits ∧
        ∀ c ∈ value.toList, isSeparator c = false := by
  have agree {limit : Int} : limitOf setting.switch value = .ok limit ↔
      Limits.ofVariable one setting.variableName setting.standard = .ok limit ∧
        ∀ c ∈ value.toList, isSeparator c = false :=
    limitOf_eq_ok_iff_ofVariable set spoken setting.switch
  have exchange {limit : Int}
      (valid : Limits.ofVariable one setting.variableName setting.standard = .ok limit) :
      findLimits one {} = findLimits two (setting.give {} limit) :=
    calc findLimits one {}
        = findLimits one (setting.give {} limit) :=
          (findLimits_give valid setting.given_empty).symm
      _ = findLimits two (setting.give {} limit) :=
          findLimits_eq_of_given valid unset others (by rw [Setting.given_give, if_pos rfl])
  rw [evaluatesUnder_evalLine_iff .nothing hands, evaluatesUnder_evalLine_iff gives hands,
    ofGiven_singleton]
  constructor
  · rintro ⟨options, valid, settled⟩
    cases accepted : limitOf setting.switch value with
    | error usage =>
        rw [accepted] at valid
        cases valid
    | ok limit =>
        rw [accepted] at valid
        cases valid
        obtain ⟨sets, plain⟩ := agree.1 accepted
        exact ⟨⟨{}, rfl, (exchange sets).trans settled⟩, plain⟩
  · rintro ⟨⟨options, nothing, settled⟩, plain⟩
    cases nothing
    obtain ⟨limit, accepted, -⟩ := findLimits_eq_ok_iff.1 settled setting
    refine ⟨setting.give {} limit, ?_, ?_⟩
    · rw [agree.2 ⟨accepted, plain⟩]
      rfl
    · rw [← exchange accepted, settled]

end Comparison

/-- **A limit is the same whether a variable or an option sets it.**  A value that is not blank
comes to an evaluation in the option if and only if it does in the variable and nothing in it is a
separator, and then under the same limits and with the same output.  Where valid options give the
limit, a variable that is accepted makes no difference, but one that is refused ends the command
line with 2: nothing is evaluated, and nothing written but a message.  No command line whatever
evaluates under a negative limit, and one that does not come to evaluate is refused or ends
with 2. -/
theorem variables_agree_with_options (setting : Setting) (environment : Environment) (json : Bool)
    {expression : String} {last : List String} (hands : Hands expression last) :
    (∀ value words, (∃ c ∈ value.toList, isBlank c = false) →
      Gives words [(setting.switch, value)] → ∀ limits,
        (EvaluatesUnder (setting.assign environment none) (evalLine json words last) limits ↔
          EvaluatesUnder (setting.assign environment (some value)) (evalLine json [] last) limits ∧
            ∀ c ∈ value.toList, isSeparator c = false) ∧
        (EvaluatesUnder (setting.assign environment (some value)) (evalLine json [] last) limits →
          ∀ input file, answer ⟨setting.assign environment (some value), input, file⟩
            (evalLine json [] last) = .ok (evalCommand limits json expression)) ∧
        (EvaluatesUnder (setting.assign environment none) (evalLine json words last) limits →
          ∀ input file, answer ⟨setting.assign environment none, input, file⟩
            (evalLine json words last) = .ok (evalCommand limits json expression))) ∧
    (∀ words given options, Gives words given → Options.ofGiven given = .ok options →
      ((∃ limit, Limits.Sets environment setting.variableName setting.standard limit) →
        setting.switch ∈ given.map Prod.fst → ∀ input file,
          answer ⟨environment, input, file⟩ (evalLine json words last) =
            answer ⟨setting.assign environment none, input, file⟩ (evalLine json words last)) ∧
      ((∀ limit, ¬ Limits.Sets environment setting.variableName setting.standard limit) →
        (∀ limits, ¬ EvaluatesUnder environment (evalLine json words last) limits) ∧
          ∀ input file, ∃ stderr,
            answer ⟨environment, input, file⟩ (evalLine json words last) =
              .ok { stdout := [], stderr := stderr, exit := 2 })) ∧
    ∀ words,
      (∀ limits, EvaluatesUnder environment words limits → 0 ≤ limits.digits ∧ 0 ≤ limits.depth) ∧
      ((∀ limits, ¬ EvaluatesUnder environment words limits) → ∀ input file,
        (∃ usage, answer ⟨environment, input, file⟩ words = .error (.usage usage)) ∨
          ∃ stderr, answer ⟨environment, input, file⟩ words =
            .ok { stdout := [], stderr := stderr, exit := 2 }) := by
  refine ⟨?_, ?_, ?_⟩
  · intro value words spoken gives limits
    have others (other : Setting) (differs : other ≠ setting) :
        setting.assign environment (some value) other.variableName =
          setting.assign environment none other.variableName := by
      rw [Setting.assign_other environment (some value) differs,
        Setting.assign_other environment none differs]
    refine ⟨?_, fun evaluates input file => ?_, fun evaluates input file => ?_⟩
    · exact evaluatesUnder_option_iff (setting.assign_own environment (some value))
        (setting.assign_own environment none) others spoken gives hands
    · exact answer_evalLine .nothing hands ⟨_, input, file⟩ evaluates
    · exact answer_evalLine gives hands ⟨_, input, file⟩ evaluates
  · intro words given options gives valid
    have read := ofWords_evalLine gives hands json
    rw [valid] at read
    constructor
    · rintro ⟨accepted, sets⟩ mem input file
      refine answer_congr (fun request found => ?_) input file
      rcases given_ofGiven valid setting with ⟨limit, -, present⟩ | ⟨absent, -⟩
      · have kept : setting.given { options with json := json } = some limit := by
          rw [← present]
          cases setting <;> rfl
        cases read.symm.trans found
        exact findLimits_eq_of_given (Limits.ofVariable_eq_ok_iff.2 sets)
          (setting.assign_own environment none)
          (fun other differs => (Setting.assign_other _ _ differs).symm) kept
      · exact absurd mem absent
    · intro refused
      have idle (limits : Limits) :
          ¬ EvaluatesUnder environment (evalLine json words last) limits := by
        rintro ⟨request, -, settled⟩
        obtain ⟨found, accepted, -⟩ := findLimits_eq_ok_iff.1 settled setting
        exact refused found (Limits.ofVariable_eq_ok_iff.1 accepted)
      exact ⟨idle, fun input file => exists_answer_of_idle ⟨environment, input, file⟩ read idle⟩
  · intro words
    constructor
    · exact fun limits evaluates => 
        ⟨(evaluates.settable .digits).natural, (evaluates.settable .depth).natural⟩
    · exact fun idle input file => answer_of_idle ⟨environment, input, file⟩ idle

/-- A value between blanks, a variable that gives way to an option of 0, and a variable that no
option makes up for. -/
theorem variables_agree_with_options_of_three :
    let seven : Environment := fun name => if name = Limits.digitsVariable then some "7" else none
    let wrong : Environment := fun name => if name = Limits.depthVariable then some "x" else none
    let spaced := Setting.digits.assign seven (some " 0_2\n")
    let unset := Setting.digits.assign seven none
    EvaluatesUnder spaced (evalLine false [] ["--", "-1"]) { digits := 2, depth := 200 } ∧
    answer ⟨unset, [], fun _ => none⟩ (evalLine false ["--max-digits= 0_2\n"] ["--", "-1"]) =
      .ok (evalCommand { digits := 2, depth := 200 } false "-1") ∧
    answer ⟨seven, [], fun _ => none⟩ (evalLine false ["--max-digits", "0"] ["--", "-1"]) =
      answer ⟨unset, [], fun _ => none⟩ (evalLine false ["--max-digits", "0"] ["--", "-1"]) ∧
    ∃ stderr,
      answer ⟨wrong, [], fun _ => none⟩ (evalLine false ["--max-depth", "0"] ["--", "-1"]) =
        .ok { stdout := [], stderr := stderr, exit := 2 } := by
  intro seven wrong spaced unset
  have hands : Hands "-1" ["--", "-1"] := .marked
  have evaluates : EvaluatesUnder spaced (evalLine false [] ["--", "-1"])
      { digits := 2, depth := 200 } :=
    ⟨.eval "-1" {}, by decide +kernel, by decide +kernel⟩
  have taken : limitOf .maxDigits " 0_2\n" = .ok 2 := by decide +kernel
  obtain ⟨-, plain⟩ := limitOf_eq_ok_iff.1 taken
  have accepted : Limits.Sets seven Setting.digits.variableName Setting.digits.standard 7 :=
    Limits.ofVariable_eq_ok_iff.1 (by decide +kernel)
  have refused (limit : Int) :
      ¬ Limits.Sets wrong Setting.depth.variableName Setting.depth.standard limit := by
    have said : Limits.ofVariable wrong Setting.depth.variableName Setting.depth.standard =
        .error (.notInteger Limits.depthVariable "x") := by decide +kernel
    rw [← Limits.ofVariable_eq_ok_iff, said]
    exact nofun
  obtain ⟨same, first, -⟩ := variables_agree_with_options .digits seven false hands
  obtain ⟨-, second, -⟩ := variables_agree_with_options .depth wrong false hands
  refine ⟨evaluates, ?_, ?_, ?_⟩
  · obtain ⟨agree, -, prints⟩ := same " 0_2\n" ["--max-digits= 0_2\n"] ⟨'2', by decide, by decide⟩
      (.joined .maxDigits rfl " 0_2\n" .nothing) { digits := 2, depth := 200 }
    exact prints (agree.2 ⟨evaluates, plain⟩) [] _
  · exact (first ["--max-digits", "0"] [(.maxDigits, "0")] { maxDigits := some 0 }
      (.apart .maxDigits rfl "0" .nothing) (by decide +kernel)).1 ⟨7, accepted⟩ (by decide) [] _
  · exact ((second ["--max-depth", "0"] [(.maxDepth, "0")] { maxDepth := some 0 }
      (.apart .maxDepth rfl "0" .nothing) (by decide +kernel)).2 refused).2 [] _

/-- With a separator in front, a numeral is a limit in the variable but none in the option. -/
theorem not_variable_iff_option_of_separator :
    let unset : Environment := fun _ => none
    let set := Setting.digits.assign unset (some "\x1c5")
    (∃ c ∈ "\x1c5".toList, isBlank c = false) ∧
      Gives ["--max-digits=\x1c5"] [(.maxDigits, "\x1c5")] ∧
        ¬((∃ limits, EvaluatesUnder set (evalLine false [] ["1"]) limits) ↔
          ∃ limits, EvaluatesUnder unset (evalLine false ["--max-digits=\x1c5"] ["1"]) limits) := by
  intro unset set
  refine ⟨⟨'5', by decide, by decide⟩, .joined .maxDigits rfl "\x1c5" .nothing, fun agree => ?_⟩
  have evaluates : EvaluatesUnder set (evalLine false [] ["1"]) { digits := 5, depth := 200 } :=
    ⟨.eval "1" {}, by decide +kernel, by decide +kernel⟩
  have refused : Request.ofWords (evalLine false ["--max-digits=\x1c5"] ["1"]) =
      .error (.notInteger .maxDigits "\x1c5") := by decide +kernel
  obtain ⟨limits, request, read, -⟩ := agree.1 ⟨_, evaluates⟩
  cases refused.symm.trans read

end Abacus.CommandLine
