/-
Module: Abacus.Proofs.Trimming
Purpose: What is left of a text without the blanks at its ends.
Main exports: Tight, visible, trimEnd_append_blanks, exists_around_trimBy, tight_trim,
  trim_eq_self_iff, trimBy_of_around, trim_eq_nil_iff, visible_trim, head?_visible_eq
-/
import Abacus.Text.Blank

namespace Abacus.Text

/-!
Trimming cuts a text in three: blanks, what is left, and blanks.  What is left is tight, and a tight
text is left as it is.  Nothing but blanks is cut off, so all that can be seen of a text can be seen
of what is left.
-/

/-- The text has no blanks at its ends. -/
structure Tight (cs : List Char) : Prop where
  first : ∀ c ∈ cs.head?, isBlank c = false
  last : ∀ c ∈ cs.getLast?, isBlank c = false

/-- What can be seen of a text: its characters other than the blanks. -/
def visible (cs : List Char) : List Char :=
  cs.filter fun c => !isBlank c

/-! ### The three parts -/

/-- The part that is cut off the front is blank. -/
theorem exists_blanks_before_trimStart (cs : List Char) :
    ∃ before, (∀ c ∈ before, isBlank c = true) ∧ cs = before ++ trimStart cs :=
  ⟨cs.takeWhile isBlank, List.all_eq_true.1 List.all_takeWhile, by
    rw [trimStart, List.takeWhile_append_dropWhile]⟩

/-- The part that is cut off the end is blank. -/
theorem exists_blanks_behind_trimEnd (cs : List Char) :
    ∃ behind, (∀ c ∈ behind, isBlank c = true) ∧ cs = trimEnd cs ++ behind := by
  obtain ⟨before, blank, split⟩ := exists_blanks_before_trimStart cs.reverse
  refine ⟨before.reverse, fun c mem => blank c (List.mem_reverse.1 mem), ?_⟩
  rw [trimEnd, ← List.reverse_append, ← split, List.reverse_reverse]

/-- Blanks behind a text are cut off with those at its end. -/
theorem trimEnd_append_blanks (cs : List Char) {blanks : List Char}
    (blank : ∀ c ∈ blanks, isBlank c = true) : trimEnd (cs ++ blanks) = trimEnd cs := by
  rw [trimEnd, trimEnd, List.reverse_append, trimStart, List.dropWhile_append_of_pos]
  · rfl
  · exact fun c mem => blank c (List.mem_reverse.1 mem)

/-- Dropping cuts a text in three as well. -/
theorem exists_around_trimBy (drop : Char → Bool) (cs : List Char) :
    ∃ before behind, (∀ c ∈ before, drop c = true) ∧ (∀ c ∈ behind, drop c = true) ∧
      cs = before ++ (trimBy drop cs ++ behind) := by
  let inside := cs.dropWhile drop
  refine ⟨cs.takeWhile drop, (inside.reverse.takeWhile drop).reverse, ?_, ?_, ?_⟩
  · exact List.all_eq_true.1 List.all_takeWhile
  · exact fun c mem => List.all_eq_true.1 List.all_takeWhile c (List.mem_reverse.1 mem)
  · rw [trimBy, ← List.reverse_append, List.takeWhile_append_dropWhile, List.reverse_reverse,
      List.takeWhile_append_dropWhile]

theorem exists_blanks_around_trim (cs : List Char) :
    ∃ before behind, (∀ c ∈ before, isBlank c = true) ∧ (∀ c ∈ behind, isBlank c = true) ∧
      cs = before ++ (trim cs ++ behind) := by
  rw [trim_eq_trimBy]
  exact exists_around_trimBy isBlank cs

/-! ### What is left -/

theorem not_isBlank_head_trimStart (cs : List Char) :
    ∀ c ∈ (trimStart cs).head?, isBlank c = false := by
  intro c head
  have other := List.head?_dropWhile_not isBlank cs
  rw [trimStart] at head
  rw [head] at other
  exact other

theorem tight_trim (cs : List Char) : Tight (trim cs) where
  first := by
    intro c head
    obtain ⟨behind, -, split⟩ := exists_blanks_behind_trimEnd (trimStart cs)
    apply not_isBlank_head_trimStart cs
    obtain ⟨rest, start⟩ := List.head?_eq_some_iff.1 head
    rw [split, ← trim, start]
    rfl
  last := by
    intro c last
    rw [trim, trimEnd, List.getLast?_reverse] at last
    exact not_isBlank_head_trimStart _ c last

theorem trimStart_eq_self {cs : List Char} (first : ∀ c ∈ cs.head?, isBlank c = false) :
    trimStart cs = cs := by
  cases cs with
  | nil => rfl
  | cons c cs =>
      have shown := first c rfl
      rw [trimStart, List.dropWhile_cons_of_neg (by simp [shown])]

/-- Exactly the tight texts are left as they are. -/
theorem trim_eq_self_iff {cs : List Char} : trim cs = cs ↔ Tight cs := by
  constructor
  · intro same
    rw [← same]
    exact tight_trim cs
  · intro tight
    have back : trimStart cs.reverse = cs.reverse :=
      trimStart_eq_self (by simpa using tight.last)
    rw [trim, trimStart_eq_self tight.first, trimEnd, back, List.reverse_reverse]

theorem trim_trim (cs : List Char) : trim (trim cs) = trim cs :=
  trim_eq_self_iff.2 (tight_trim cs)

/-- A text is what is left if it is not empty and what stands around it is dropped, but neither end
of its own. -/
theorem trimBy_of_around {drop : Char → Bool} {before cs behind : List Char}
    (droppedBefore : ∀ c ∈ before, drop c = true) (droppedBehind : ∀ c ∈ behind, drop c = true)
    (nonempty : cs ≠ []) (first : ∀ c ∈ cs.head?, drop c = false)
    (last : ∀ c ∈ cs.getLast?, drop c = false) :
    trimBy drop (before ++ (cs ++ behind)) = cs := by
  have kept {ds : List Char} (head : ∀ c ∈ ds.head?, drop c = false) :
      ds.dropWhile drop = ds := by
    cases ds with
    | nil => rfl
    | cons c ds => exact List.dropWhile_cons_of_neg (by simp [head c rfl])
  have front : (before ++ (cs ++ behind)).dropWhile drop = cs ++ behind := by
    rw [List.dropWhile_append_of_pos droppedBefore]
    apply kept
    cases cs with
    | nil => exact absurd rfl nonempty
    | cons c cs => exact first
  have back : (cs ++ behind).reverse.dropWhile drop = cs.reverse := by
    rw [List.reverse_append, List.dropWhile_append_of_pos]
    · exact kept (by rwa [List.head?_reverse])
    · exact fun c mem => droppedBehind c (List.mem_reverse.1 mem)
  rw [trimBy, front, back, List.reverse_reverse]

/-- A text of which neither end is dropped is left as it is. -/
theorem trimBy_eq_self {drop : Char → Bool} {cs : List Char}
    (first : ∀ c ∈ cs.head?, drop c = false) (last : ∀ c ∈ cs.getLast?, drop c = false) :
    trimBy drop cs = cs := by
  cases cs with
  | nil => rfl
  | cons c cs =>
      have alone := trimBy_of_around (List.forall_mem_nil _) (List.forall_mem_nil _)
        (List.cons_ne_nil c cs) first last
      rwa [List.nil_append, List.append_nil] at alone

/-- A text that is not empty and tight is what trimming leaves, whatever blanks stand around it. -/
theorem trim_of_blanks_around {before cs behind : List Char}
    (blankBefore : ∀ c ∈ before, isBlank c = true) (blankBehind : ∀ c ∈ behind, isBlank c = true)
    (nonempty : cs ≠ []) (tight : Tight cs) : trim (before ++ (cs ++ behind)) = cs := by
  rw [trim_eq_trimBy]
  exact trimBy_of_around blankBefore blankBehind nonempty tight.first tight.last

/-- Nothing is left of blanks alone. -/
theorem trim_eq_nil_iff {cs : List Char} : trim cs = [] ↔ ∀ c ∈ cs, isBlank c = true := by
  constructor
  · intro nothing
    obtain ⟨before, behind, blankBefore, blankBehind, split⟩ := exists_blanks_around_trim cs
    rw [split, nothing, List.nil_append]
    exact List.forall_mem_append.2 ⟨blankBefore, blankBehind⟩
  · intro blank
    rw [trim, trimStart, ← List.append_nil cs, List.dropWhile_append_of_pos blank]
    rfl

theorem mem_of_mem_trim {cs : List Char} {c : Char} (mem : c ∈ trim cs) : c ∈ cs := by
  obtain ⟨before, behind, -, -, split⟩ := exists_blanks_around_trim cs
  rw [split, List.mem_append, List.mem_append]
  exact .inr (.inl mem)

/-! ### What can be seen -/

theorem visible_of_blank {cs : List Char} (blank : ∀ c ∈ cs, isBlank c = true) :
    visible cs = [] := by
  rw [visible, List.filter_eq_nil_iff]
  intro c mem
  simp [blank c mem]

theorem visible_append (cs ds : List Char) : visible (cs ++ ds) = visible cs ++ visible ds :=
  List.filter_append ..

theorem visible_trim (cs : List Char) : visible (trim cs) = visible cs := by
  obtain ⟨before, behind, blankBefore, blankBehind, split⟩ := exists_blanks_around_trim cs
  calc visible (trim cs) = visible (before ++ (trim cs ++ behind)) := by
        rw [visible_append, visible_append, visible_of_blank blankBefore,
          visible_of_blank blankBehind, List.nil_append, List.append_nil]
    _ = visible cs := by rw [← split]

/-- A tight text starts with the first character that can be seen. -/
theorem head?_visible {cs : List Char} (tight : Tight cs) : (visible cs).head? = cs.head? := by
  cases cs with
  | nil => rfl
  | cons c cs =>
      have shown := tight.first c rfl
      rw [visible, List.filter_cons_of_pos (by simp [shown])]
      rfl

/-- The first character that can be seen is the first one that trimming leaves. -/
theorem head?_visible_eq (cs : List Char) : (visible cs).head? = (trim cs).head? := by
  rw [← visible_trim, head?_visible (tight_trim cs)]

end Abacus.Text
