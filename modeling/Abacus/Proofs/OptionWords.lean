/-
Module: Abacus.Proofs.OptionWords
Purpose: Command lines with valid limits reach the commands, whatever their arguments are.
Main exports: Gives, sort_append, readWords_form_eq, Settles, answer_eval, answer_repl,
  answer_batch, answer_batch_file
-/
import Abacus.CommandLine.Answer

namespace Abacus.CommandLine

/-!
Every option with a value can be written in two ways, any number of times and in any order.  Sorting
takes such words off the front of a command line one option after the other, so what stands behind
them is sorted as if it stood alone.
-/

/-! ### Words -/

/-- The words give those values to options, in that order.  The value is part of the word, or it is
the next word. -/
inductive Gives : List String → List (Switch × String) → Prop where
  | nothing : Gives [] []
  | joined (switch : Switch) (valued : switch.hasValue = true) (value : String)
      {words : List String} {given : List (Switch × String)} (others : Gives words given) :
      Gives ((switch.name ++ "=" ++ value) :: words) ((switch, value) :: given)
  | apart (switch : Switch) (valued : switch.hasValue = true) (value : String)
      {words : List String} {given : List (Switch × String)} (others : Gives words given) :
      Gives (switch.name :: value :: words) ((switch, value) :: given)

namespace Switch

theorem cutValue_name (switch : Switch) : cutValue switch.name = (switch.name, none) := by
  cases switch <;> decide

theorem cutValue_joined (switch : Switch) (value : String) :
    cutValue (switch.name ++ "=" ++ value) = (switch.name, some value) := by
  cases switch <;> simp [cutValue, name]

theorem isOption_name (switch : Switch) : isOption switch.name = true := by
  cases switch <;> decide

theorem isOption_joined (switch : Switch) (value : String) :
    isOption (switch.name ++ "=" ++ value) = true := by
  cases switch <;> simp [isOption, name]

theorem name_ne_mark (switch : Switch) : switch.name ≠ "--" := by
  cases switch <;> decide

theorem joined_ne_mark (switch : Switch) (value : String) : switch.name ++ "=" ++ value ≠ "--" := by
  intro same
  have chars := congrArg String.toList same
  cases switch <;> simp [name] at chars

end Switch

/-- The words that a command sorts know every option with a value. -/
def Complete (known : List Switch) : Prop :=
  ∀ switch : Switch, switch.hasValue = true → known.find? (·.name = switch.name) = some switch

theorem complete_all : Complete [.json, .maxDigits, .maxDepth] := by
  intro switch valued
  cases switch with
  | json => cases valued
  | maxDigits => decide
  | maxDepth => decide

theorem complete_limits : Complete [.maxDigits, .maxDepth] := by
  intro switch valued
  cases switch with
  | json => cases valued
  | maxDigits => decide
  | maxDepth => decide

/-- Words that give options are sorted for themselves, in front of all others. -/
theorem sort_append {known : List Switch} (complete : Complete known) {words : List String}
    {given : List (Switch × String)} (gives : Gives words given) (rest : List String) :
    Words.sort known (words ++ rest) =
      (Words.sort known rest).map fun sorted =>
        { sorted with options := given ++ sorted.options } := by
  induction gives with
  | nothing =>
      rw [List.nil_append]
      cases Words.sort known rest <;> rfl
  | @joined switch valued value words given others ih =>
      rw [List.cons_append, Words.sort, if_neg (switch.joined_ne_mark value),
        if_pos (switch.isOption_joined value), switch.cutValue_joined]
      dsimp only
      rw [complete switch valued]
      dsimp only
      rw [if_pos valued, ih]
      cases Words.sort known rest <;> rfl
  | @apart switch valued value words given others ih =>
      rw [List.cons_append, Words.sort, if_neg switch.name_ne_mark, if_pos switch.isOption_name,
        switch.cutValue_name]
      dsimp only
      rw [complete switch valued]
      dsimp only
      rw [if_pos valued, List.cons_append]
      dsimp only
      rw [ih]
      cases Words.sort known rest <;> rfl

/-- Only options with values are given values. -/
theorem hasValue_of_gives {words : List String} {given : List (Switch × String)}
    (gives : Gives words given) : ∀ switch ∈ given.map Prod.fst, switch.hasValue = true := by
  induction gives with
  | nothing => simp
  | joined switch valued value others ih => exact List.forall_mem_cons.2 ⟨valued, ih⟩
  | apart switch valued value others ih => exact List.forall_mem_cons.2 ⟨valued, ih⟩

/-! ### Output as JSON -/

namespace Options

/-- The options with another form of the output. -/
def withJson (json : Bool) (options : Options) : Options :=
  { options with json := json }

/-- No limit depends on the form of the output. -/
theorem set_withJson (json : Bool) (options : Options) {switch : Switch}
    (valued : switch.hasValue = true) (value : String) :
    (options.withJson json).set switch value = (options.set switch value).map (withJson json) := by
  cases switch with
  | json => cases valued
  | maxDigits =>
      unfold set
      cases limitOf .maxDigits value <;> rfl
  | maxDepth =>
      unfold set
      cases limitOf .maxDepth value <;> rfl

theorem foldlM_set_withJson (json : Bool) {switches : List Switch}
    (valued : ∀ switch ∈ switches, switch.hasValue = true) {values others : Switch → String}
    (same : ∀ switch : Switch, switch.hasValue = true → values switch = others switch)
    (options : Options) :
    switches.foldlM (fun (options : Options) switch => options.set switch (values switch))
        (options.withJson json) =
      (switches.foldlM (fun (options : Options) switch => options.set switch (others switch))
        options).map (withJson json) := by
  induction switches generalizing options with
  | nil => rfl
  | cons switch switches ih =>
      obtain ⟨first, rest⟩ := List.forall_mem_cons.1 valued
      rw [List.foldlM_cons, List.foldlM_cons, set_withJson json options first, same switch first]
      cases options.set switch (others switch) with
      | error usage => rfl
      | ok next => exact ih rest next

/-- Asking for JSON changes nothing about the limits. -/
theorem ofGiven_json {given : List (Switch × String)}
    (valued : ∀ switch ∈ given.map Prod.fst, switch.hasValue = true) :
    ofGiven ((.json, "") :: given) = (ofGiven given).map (withJson true) := by
  have others : (given.map Prod.fst).filter (fun switch => !switch == .json) =
      given.map Prod.fst := by
    rw [List.filter_eq_self]
    intro switch mem
    have value := valued switch mem
    cases switch with
    | json => cases value
    | maxDigits => rfl
    | maxDepth => rfl
  have same (switch : Switch) (value : switch.hasValue = true) :
      (((.json, "") :: given).reverse.lookup switch).getD "" =
        (given.reverse.lookup switch).getD "" := by
    have absent : List.lookup switch [(Switch.json, "")] = none := by
      cases switch with
      | json => cases value
      | maxDigits => rfl
      | maxDepth => rfl
    rw [List.reverse_cons, List.lookup_append, absent, Option.or_none]
  have valuedOnce : ∀ switch ∈ (given.map Prod.fst).eraseDups, switch.hasValue = true :=
    fun switch mem => valued switch (List.mem_eraseDups.1 mem)
  rw [ofGiven, List.map_cons, List.eraseDups_cons, others, List.foldlM_cons]
  exact foldlM_set_withJson true valuedOnce same {}

/-- Whether JSON is asked for changes nothing about the limits. -/
theorem ofGiven_form {given : List (Switch × String)}
    (valued : ∀ switch ∈ given.map Prod.fst, switch.hasValue = true) (json : Bool) :
    ofGiven ((if json then [(.json, "")] else []) ++ given) =
      (ofGiven given).map (withJson json) := by
  cases json with
  | true => exact ofGiven_json valued
  | false =>
      have valuedOnce : ∀ switch ∈ (given.map Prod.fst).eraseDups, switch.hasValue = true :=
        fun switch mem => valued switch (List.mem_eraseDups.1 mem)
      exact foldlM_set_withJson false valuedOnce (fun _ _ => rfl) {}

end Options

/-! ### Commands -/

/-- The words give valid options, the environment is valid, and these limits come of both. -/
def Settles (environment : Environment) (words : List String) (limits : Limits) : Prop :=
  ∃ given options defaults, Gives words given ∧ Options.ofGiven given = .ok options ∧
    Limits.ofEnvironment environment = .ok defaults ∧ limits = options.limits defaults

theorem sort_nil (known : List Switch) : Words.sort known [] = .ok { arguments := [] } := by
  rw [Words.sort]

/-- After two dashes every word is an argument. -/
theorem sort_mark (known : List Switch) (arguments : List String) :
    Words.sort known ("--" :: arguments) = .ok { arguments := arguments } := by
  rw [Words.sort, if_pos rfl]

/-- Sorted words with the right number of arguments are read if their options are. -/
theorem readWords_eq_of_sort {known : List Switch} {words : List String}
    {given : List (Switch × String)} {arguments : List String}
    (sorted : Words.sort known words = .ok { options := given, arguments := arguments })
    (least : List String) (most : Nat) (enough : least.length ≤ arguments.length)
    (few : arguments.length ≤ most) :
    readWords known least most words =
      (Options.ofGiven given).map fun options => (options, arguments) := by
  have present : least.drop arguments.length = [] := List.drop_eq_nil_iff.2 enough
  have none : arguments.drop most = [] := List.drop_eq_nil_iff.2 few
  rw [readWords, sorted]
  dsimp only [bind, Except.bind]
  cases Options.ofGiven given with
  | error usage => rfl
  | ok options =>
      dsimp only
      rw [present]
      dsimp only
      rw [none]
      rfl

/-- Sorted words are read if they give valid options and the right number of arguments. -/
theorem readWords_of_sort {known : List Switch} {words : List String}
    {given : List (Switch × String)} {arguments : List String}
    (sorted : Words.sort known words = .ok { options := given, arguments := arguments })
    {options : Options} (valid : Options.ofGiven given = .ok options) (least : List String)
    (most : Nat) (enough : least.length ≤ arguments.length) (few : arguments.length ≤ most) :
    readWords known least most words = .ok (options, arguments) := by
  rw [readWords_eq_of_sort sorted least most enough few, valid]
  rfl

/-- Options with values are sorted in front of arguments. -/
theorem sort_gives {known : List Switch} (complete : Complete known) {words : List String}
    {given : List (Switch × String)} (gives : Gives words given) {rest arguments : List String}
    (sorted : Words.sort known rest = .ok { arguments := arguments }) :
    Words.sort known (words ++ rest) = .ok { options := given, arguments := arguments } := by
  rw [sort_append complete gives, sorted]
  simp [Except.map]

/-- The words that ask for a form of the output. -/
def formWords (json : Bool) : List String :=
  if json then ["--json"] else []

/-- The words that ask for a form of the output are sorted in front of the limits. -/
theorem sort_form {words : List String} {given : List (Switch × String)} (gives : Gives words given)
    (json : Bool) {rest arguments : List String}
    (sorted : Words.sort [.json, .maxDigits, .maxDepth] rest = .ok { arguments := arguments }) :
    Words.sort [.json, .maxDigits, .maxDepth] (formWords json ++ (words ++ rest)) =
      .ok {
        options := (if json then [(.json, "")] else []) ++ given
        arguments := arguments } := by
  have behind := sort_gives complete_all gives sorted
  cases json with
  | false => exact behind
  | true =>
      change Words.sort _ (Switch.json.name :: (words ++ rest)) = _
      rw [Words.sort, if_neg Switch.json.name_ne_mark, if_pos Switch.json.isOption_name,
        Switch.json.cutValue_name, behind]
      rfl

/-- The form of the output is read beside the limits, if these are valid. -/
theorem readWords_form_eq {words : List String} {given : List (Switch × String)}
    (gives : Gives words given) (json : Bool) {rest arguments : List String}
    (sorted : Words.sort [.json, .maxDigits, .maxDepth] rest = .ok { arguments := arguments })
    (least : List String) (most : Nat) (enough : least.length ≤ arguments.length)
    (few : arguments.length ≤ most) :
    readWords [.json, .maxDigits, .maxDepth] least most (formWords json ++ (words ++ rest)) =
      (Options.ofGiven given).map fun options => ({ options with json := json }, arguments) := by
  rw [readWords_eq_of_sort (sort_form gives json sorted) least most enough few,
    Options.ofGiven_form (hasValue_of_gives gives)]
  cases Options.ofGiven given <;> rfl

/-- The form of the output is read beside the limits. -/
theorem readWords_form {words : List String} {given : List (Switch × String)}
    (gives : Gives words given) {options : Options} (valid : Options.ofGiven given = .ok options)
    (json : Bool) {rest arguments : List String}
    (sorted : Words.sort [.json, .maxDigits, .maxDepth] rest = .ok { arguments := arguments })
    (least : List String) (most : Nat) (enough : least.length ≤ arguments.length)
    (few : arguments.length ≤ most) :
    readWords [.json, .maxDigits, .maxDepth] least most (formWords json ++ (words ++ rest)) =
      .ok ({ options with json := json }, arguments) := by
  rw [readWords_form_eq gives json sorted least most enough few, valid]
  rfl

section Answers

variable (surroundings : Surroundings) {words : List String} {limits : Limits}

/-- A command line that is read gets the output of its request. -/
theorem answer_of_request (request : Request) (read : Request.ofWords words = .ok request)
    {output : Output} (result : request.output surroundings = .ok output) :
    answer surroundings words = .ok output := by
  rw [answer, read]
  dsimp only
  rw [result]

/-- A valid environment settles the limits that the options leave open. -/
theorem findLimits_eq {environment : Environment} {defaults : Limits}
    (found : Limits.ofEnvironment environment = .ok defaults) (options : Options) :
    findLimits environment options = .ok (options.limits defaults) := by
  rw [findLimits, found]

/-- With valid settings an expression is evaluated, whatever it looks like. -/
theorem answer_eval (settles : Settles surroundings.environment words limits) (json : Bool)
    (expression : String) :
    answer surroundings ("eval" :: (formWords json ++ (words ++ ["--", expression]))) =
      .ok (evalCommand limits json expression) := by
  obtain ⟨given, options, defaults, gives, valid, found, rfl⟩ := settles
  have read := readWords_form gives valid json (sort_mark _ [expression]) ["EXPRESSION"] 1
    (by simp) (by simp)
  refine answer_of_request _ (.eval expression { options with json := json }) ?_ ?_
  · change Request.ofCommand "eval" _ = _
    rw [Request.ofCommand, read]
    rfl
  · rw [Request.output, findLimits_eq found]
    rfl

/-- With valid settings the entered lines are evaluated. -/
theorem answer_repl (settles : Settles surroundings.environment words limits) :
    answer surroundings ("repl" :: words) = .ok (replCommand limits surroundings.input) := by
  obtain ⟨given, options, defaults, gives, valid, found, rfl⟩ := settles
  have sorted := sort_gives complete_limits gives (sort_nil _)
  rw [List.append_nil] at sorted
  have read := readWords_of_sort sorted valid [] 0 (by simp) (by simp)
  refine answer_of_request _ (.repl options) ?_ ?_
  · change Request.ofCommand "repl" _ = _
    rw [Request.ofCommand, read]
    rfl
  · rw [Request.output, findLimits_eq found]
    rfl

/-- A batch without arguments is read from the standard input. -/
theorem answer_batch (settles : Settles surroundings.environment words limits) (json : Bool) :
    answer surroundings ("batch" :: (formWords json ++ words)) =
      .ok (batchCommand limits json surroundings.input) := by
  obtain ⟨given, options, defaults, gives, valid, found, rfl⟩ := settles
  have read := readWords_form gives valid json (sort_nil _) [] 1 (by simp) (by simp)
  rw [List.append_nil] at read
  refine answer_of_request _ (.batch "-" { options with json := json }) ?_ ?_
  · change Request.ofCommand "batch" _ = _
    rw [Request.ofCommand, read]
    rfl
  · rw [Request.output, findLimits_eq found]
    rfl

/-- A batch that names a file is read from the file. -/
theorem answer_batch_file (settles : Settles surroundings.environment words limits) (json : Bool)
    {name : String} (named : name ≠ "-") {bytes : List UInt8}
    (present : surroundings.file name = some bytes) {text : List Char}
    (decoded : Text.Utf8.decode bytes = .ok text) :
    answer surroundings ("batch" :: (formWords json ++ (words ++ ["--", name]))) =
      .ok (batchCommand limits json text) := by
  obtain ⟨given, options, defaults, gives, valid, found, rfl⟩ := settles
  have read := readWords_form gives valid json (sort_mark _ [name]) [] 1 (by simp) (by simp)
  refine answer_of_request _ (.batch name { options with json := json }) ?_ ?_
  · change Request.ofCommand "batch" _ = _
    rw [Request.ofCommand, read]
    rfl
  · have source : readSource surroundings name = .ok (.ok text) := by
      rw [readSource, if_neg named, present]
      dsimp only
      rw [decoded]
      rfl
    rw [Request.output, findLimits_eq found]
    change (readSource surroundings name >>= _) = _
    rw [source]
    rfl

end Answers

end Abacus.CommandLine
