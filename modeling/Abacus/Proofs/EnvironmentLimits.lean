/-
Module: Abacus.Proofs.EnvironmentLimits
Purpose: Which environments set limits, to which numbers, and what is said of the others.
Main exports: Environment.content, Limits.Sets, Limits.Refuses, Limits.Settable,
  Limits.ofVariable_eq_ok_iff, Limits.ofEnvironment_eq_ok_iff, Limits.ofEnvironment_reads_numerals
-/
import Abacus.Limits.Environment
import Abacus.Proofs.Numerals
import Abacus.Proofs.Trimming

namespace Abacus

open Text

/-!
A variable is read for itself: it says nothing, or it says a number that is not negative, or it is
refused with a message that names it.  The three exclude each other and leave nothing out, so what
comes of two variables is a matter of which is refused first.
-/

/-- What a variable says: its value without the blanks at its ends, and nothing if it is not set. -/
def Environment.content (environment : Environment) (name : String) : List Char :=
  trim ((environment name).getD "").toList

namespace Limits

/-- The variable settles on that limit: it is not set or blank, and the limit is the default, or it
says the limit in a numeral. -/
inductive Sets (environment : Environment) (name : String) (default : Int) : Int → Prop where
  | absent (silent : ∀ value ∈ environment name, ∀ c ∈ value.toList, isBlank c = true) :
      Sets environment name default default
  | given {limit : Int} (denotes : Numeral.Denotes (environment.content name) limit)
      (natural : 0 ≤ limit) : Sets environment name default limit

/-- The variable is refused with that message: it says a negative number, or no number at all. -/
inductive Refuses (environment : Environment) (name : String) : String → Prop where
  | negative {value : Int} (denotes : Numeral.Denotes (environment.content name) value)
      (below : value < 0) :
      Refuses environment name (name ++ " must be >= 0, got " ++ toString value)
  | notInteger (spoken : ∃ value ∈ environment name, ∃ c ∈ value.toList, isBlank c = false)
      (unread : ∀ value, ¬ Numeral.Denotes (environment.content name) value) :
      Refuses environment name (name ++ " must be an integer, got " ++
        String.ofList (Quoted.encode (environment.content name)))

/-- The number can be set from outside: it is not negative, and not too long to be written. -/
structure Settable (limit : Int) : Prop where
  natural : 0 ≤ limit
  writable : Numeral.Writable limit

section OneVariable

variable {environment : Environment} {name : String} {default limit : Int}

theorem content_eq_nil_iff : environment.content name = [] ↔
    ∀ value ∈ environment name, ∀ c ∈ value.toList, isBlank c = true := by
  rw [Environment.content, trim_eq_nil_iff]
  cases environment name with
  | none => simp
  | some value => simp

theorem content_ne_nil_iff : environment.content name ≠ [] ↔
    ∃ value ∈ environment name, ∃ c ∈ value.toList, isBlank c = false := by
  rw [ne_eq, content_eq_nil_iff]
  simp only [not_forall, Bool.not_eq_true, exists_prop]

/-- A variable is read as a numeral if it says anything. -/
theorem ofVariable_eq (environment : Environment) (name : String) (default : Int) :
    ofVariable environment name default =
      if environment.content name = [] then .ok default
      else
        match Numeral.signed? (environment.content name) with
        | none => .error (.notInteger name (String.ofList (environment.content name)))
        | some limit => if limit < 0 then .error (.negative name limit) else .ok limit := by
  have value : trimmed ((environment name).getD "") =
      String.ofList (environment.content name) := rfl
  have read : Numeral.read? (String.ofList (environment.content name)) =
      Numeral.signed? (environment.content name) := by
    have tight : Tight (environment.content name) := tight_trim _
    rw [Numeral.read?, String.toList_ofList, trimBy_eq_self]
    · exact fun c head => Numeral.isMargin_eq_false (tight.first c head)
    · exact fun c last => Numeral.isMargin_eq_false (tight.last c last)
  have empty : String.ofList (environment.content name) = "" ↔ environment.content name = [] := by
    rw [← String.toList_inj, String.toList_ofList]
    rfl
  unfold ofVariable
  dsimp only
  rw [value, read]
  by_cases silent : environment.content name = []
  · exact (if_pos (empty.2 silent)).trans (if_pos silent).symm
  · exact (if_neg (mt empty.1 silent)).trans (if_neg silent).symm

/-- A variable is accepted with the limits that it sets. -/
theorem ofVariable_eq_ok_iff :
    ofVariable environment name default = .ok limit ↔ Sets environment name default limit := by
  rw [ofVariable_eq]
  constructor
  · intro accepted
    split at accepted
    · rename_i silent
      cases accepted
      exact .absent (content_eq_nil_iff.1 silent)
    · split at accepted
      · cases accepted
      · rename_i found
        split at accepted
        · cases accepted
        · rename_i natural
          cases accepted
          exact .given (Numeral.signed?_eq_some_iff.1 found) (Int.not_lt.1 natural)
  · intro sets
    cases sets with
    | absent silent => rw [if_pos (content_eq_nil_iff.2 silent)]
    | given denotes natural =>
        have spoken : environment.content name ≠ [] := by
          intro silent
          rw [silent] at denotes
          exact denotes.ne_nil rfl
        rw [if_neg spoken, Numeral.signed?_eq_some_iff.2 denotes]
        dsimp only
        rw [if_neg (Int.not_lt.2 natural)]

/-- A variable that is not accepted is refused with what is wrong about it. -/
theorem refuses_of_ofVariable {bad : BadVariable}
    (refused : ofVariable environment name default = .error bad) :
    Refuses environment name bad.message := by
  rw [ofVariable_eq] at refused
  split at refused
  · cases refused
  · rename_i spoken
    split at refused
    · rename_i unread
      cases refused
      rw [BadVariable.message, Quoted.literal, String.toList_ofList]
      refine .notInteger (content_ne_nil_iff.1 spoken) fun value denotes => ?_
      rw [Numeral.signed?_eq_some_iff.2 denotes] at unread
      cases unread
    · rename_i found
      split at refused
      · rename_i below
        cases refused
        exact .negative (Numeral.signed?_eq_some_iff.1 found) below
      · cases refused

/-- A variable settles on one limit at most. -/
theorem Sets.unique {other : Int} (one : Sets environment name default limit)
    (two : Sets environment name default other) : limit = other :=
  Except.ok.inj ((ofVariable_eq_ok_iff.2 one).symm.trans (ofVariable_eq_ok_iff.2 two))

end OneVariable

/-! ### Printed limits -/

/-- No digit of a printed number is blank. -/
theorem tight_toDigits (n : Nat) : Tight (Nat.toDigits 10 n) := by
  have shown : ∀ c ∈ Nat.toDigits 10 n, isBlank c = false := fun c mem =>
    isBlank_of_digitValue? (digitValue?_of_isDigit (isDigit_of_mem_digits n c mem))
  constructor
  · exact fun c head => shown c (List.mem_of_mem_head? head)
  · exact fun c last => shown c (List.mem_of_mem_getLast? last)

/-- A variable that is a printed number between blanks settles on the number, if this has not too
many digits. -/
theorem sets_printed {environment : Environment} {name : String} {before behind : String} {n : Nat}
    (blankBefore : ∀ c ∈ before.toList, isBlank c = true)
    (blankBehind : ∀ c ∈ behind.toList, isBlank c = true)
    (value : environment name = some (before ++ toString n ++ behind))
    (short : (toString n).length ≤ Numeral.capacity) (default : Int) :
    Sets environment name default n := by
  rw [← String.length_toList, toList_toString_nat] at short
  have content : environment.content name = Nat.toDigits 10 n := by
    rw [Environment.content, value, Option.getD_some, String.toList_append, String.toList_append,
      toList_toString_nat, List.append_assoc]
    exact trim_of_blanks_around blankBefore blankBehind Nat.toDigits_ne_nil (tight_toDigits n)
  refine .given ?_ (Int.natCast_nonneg n)
  rw [content]
  exact Numeral.denotes_toDigits short

/-! ### Both variables -/

section TwoVariables

variable {environment : Environment} {limits : Limits}

/-- The variable for digits is read first. -/
theorem ofEnvironment_eq (environment : Environment) :
    ofEnvironment environment =
      (ofVariable environment digitsVariable 4300).bind fun digits =>
        (ofVariable environment depthVariable 200).bind fun depth =>
          .ok { digits := digits, depth := depth } :=
  rfl

/-- Both variables have to be accepted. -/
theorem ofEnvironment_eq_ok_iff :
    ofEnvironment environment = .ok limits ↔
      ofVariable environment digitsVariable 4300 = .ok limits.digits ∧
        ofVariable environment depthVariable 200 = .ok limits.depth := by
  rw [ofEnvironment_eq]
  cases ofVariable environment digitsVariable 4300 with
  | error bad => simp [Except.bind]
  | ok digits =>
      cases ofVariable environment depthVariable 200 with
      | error bad => simp [Except.bind]
      | ok depth =>
          cases limits
          simp [Except.bind]

/-- The variable for the nesting is refused only where the other one is accepted. -/
theorem ofEnvironment_eq_error {bad : BadVariable}
    (refused : ofEnvironment environment = .error bad) :
    ofVariable environment digitsVariable 4300 = .error bad ∨
      (∃ digits, ofVariable environment digitsVariable 4300 = .ok digits) ∧
        ofVariable environment depthVariable 200 = .error bad := by
  rw [ofEnvironment_eq] at refused
  cases digits : ofVariable environment digitsVariable 4300 with
  | error found =>
      rw [digits] at refused
      cases refused
      exact .inl rfl
  | ok limit =>
      rw [digits] at refused
      cases depth : ofVariable environment depthVariable 200 with
      | error found =>
          rw [depth] at refused
          cases refused
          exact .inr ⟨⟨limit, rfl⟩, rfl⟩
      | ok other =>
          rw [depth] at refused
          cases refused

/-- A variable settles on a number that can be set, if the default is one. -/
theorem Sets.settable {name : String} {default limit : Int} (standard : Settable default)
    (sets : Sets environment name default limit) : Settable limit := by
  cases sets with
  | absent silent => exact standard
  | given denotes natural => exact ⟨natural, denotes.writable⟩

end TwoVariables

/-- **Limits are read by one grammar.**  The environment sets limits if and only if each variable
settles on one, and then these are the limits, none of which is negative.  A printed number is read
back from a variable, whatever blanks stand around it.  If the environment sets no limits, then
either the variable for digits is refused, or it settles on a limit and the variable for the nesting
is refused, and the message is that of the first. -/
theorem ofEnvironment_reads_numerals (environment : Environment) :
    (∀ limits, ofEnvironment environment = .ok limits ↔
      Sets environment digitsVariable 4300 limits.digits ∧
        Sets environment depthVariable 200 limits.depth) ∧
    (∀ limits, ofEnvironment environment = .ok limits → 0 ≤ limits.digits ∧ 0 ≤ limits.depth) ∧
    (∀ (name before behind : String) (n : Nat), (∀ c ∈ before.toList, isBlank c = true) →
      (∀ c ∈ behind.toList, isBlank c = true) →
        environment name = some (before ++ toString n ++ behind) →
          (toString n).length ≤ Numeral.capacity →
            ∀ default limit, Sets environment name default limit ↔ limit = n) ∧
    ∀ bad, ofEnvironment environment = .error bad →
      Refuses environment digitsVariable bad.message ∨
        (∃ digits, Sets environment digitsVariable 4300 digits) ∧
          Refuses environment depthVariable bad.message := by
  have accepted (limits : Limits) : ofEnvironment environment = .ok limits ↔
      Sets environment digitsVariable 4300 limits.digits ∧
        Sets environment depthVariable 200 limits.depth := by
    rw [ofEnvironment_eq_ok_iff, ofVariable_eq_ok_iff, ofVariable_eq_ok_iff]
  refine ⟨accepted, ?_, ?_, ?_⟩
  · intro limits found
    obtain ⟨digits, depth⟩ := (accepted limits).1 found
    exact ⟨(digits.settable ⟨by decide, by decide +kernel⟩).natural,
      (depth.settable ⟨by decide, by decide +kernel⟩).natural⟩
  · intro name before behind n blankBefore blankBehind value short default limit
    have printed := sets_printed blankBefore blankBehind value short default
    constructor
    · exact fun sets => sets.unique printed
    · rintro rfl
      exact printed
  · intro bad refused
    rcases ofEnvironment_eq_error refused with digits | ⟨⟨limit, digits⟩, depth⟩
    · exact .inl (refuses_of_ofVariable digits)
    · exact .inr ⟨⟨limit, ofVariable_eq_ok_iff.1 digits⟩, refuses_of_ofVariable depth⟩

/-- A printed limit between blanks beside a variable that is not set, and a limit in another script
beside a negative one. -/
theorem ofEnvironment_reads_numerals_of_two :
    let padded : Environment := fun name => if name = digitsVariable then some " 10\n" else none
    let signed : Environment := fun name =>
      if name = digitsVariable then some "+१_०" else some "-0_1"
    ofEnvironment padded = .ok { digits := 10, depth := 200 } ∧
      ((0 : Int) ≤ 10 ∧ (0 : Int) ≤ 200) ∧
        Sets padded digitsVariable 4300 10 ∧
          ofEnvironment signed = .error (.negative depthVariable (-1)) ∧
            (Refuses signed digitsVariable "EXPRCALC_MAX_DEPTH must be >= 0, got -1" ∨
              (∃ digits, Sets signed digitsVariable 4300 digits) ∧
                Refuses signed depthVariable "EXPRCALC_MAX_DEPTH must be >= 0, got -1") := by
  intro padded signed
  obtain ⟨-, natural, printed, -⟩ := ofEnvironment_reads_numerals padded
  obtain ⟨-, -, -, first⟩ := ofEnvironment_reads_numerals signed
  have found : ofEnvironment padded = .ok { digits := 10, depth := 200 } := by decide +kernel
  have refused : ofEnvironment signed = .error (.negative depthVariable (-1)) := by decide +kernel
  have before : ∀ c ∈ " ".toList, isBlank c = true := List.all_eq_true.1 (by decide)
  have behind : ∀ c ∈ "\n".toList, isBlank c = true := List.all_eq_true.1 (by decide)
  refine ⟨found, natural _ found, ?_, refused, first _ refused⟩
  exact (printed digitsVariable " " "\n" 10 before behind rfl (by decide) 4300 10).2 rfl

end Limits

end Abacus
