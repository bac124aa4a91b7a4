import Mathlib.Data.List.TakeWhile
import Mathlib.Logic.ExistsUnique
import Worksheet.Proofs.Formula.Bindings
import Worksheet.Proofs.Formula.Variables

/-!
# Cutting a text at its variables

Every text is cut in exactly one way into variables and gaps such that the gaps have no capital
letters and no variable could be longer: no gap behind a variable starts with a digit, and the next
variable follows without a gap only behind a digit. The variables of the text are those of this cut.

The cut is made from the end of the text, character by character, as the scan for variables goes.
What the scan knows at any time can be read off the cut. There is no other cut, because a cut is
what is made from its own text.
-/

namespace Worksheet.Formula

/-- A text that is cut into variables, each with the gap behind it, and the gap before the first
one. -/
structure Cut where
  opening : List Char
  parts : List (List Char × List Char)

namespace Cut

/-- The text that has been cut. -/
def text (cut : Cut) : List Char :=
  cut.opening ++ cut.parts.flatMap fun part => part.1 ++ part.2

/-- The variables in order. -/
def names (cut : Cut) : List String :=
  cut.parts.map fun part => String.ofList part.1

/-- The variables are written as such, leave no capital letter out, and go on as far as they can: no
digit follows one, and one that is followed by the next without a gap ends in a digit. -/
structure Maximal (cut : Cut) : Prop where
  opening : ∀ c ∈ cut.opening, c.isUpper = false
  named : ∀ part ∈ cut.parts, IsReference part.1
  gaps : ∀ part ∈ cut.parts, ∀ c ∈ part.2, c.isUpper = false
  digits : ∀ part ∈ cut.parts, ∀ c, part.2.head? = some c → c.isDigit = false
  apart : cut.parts.IsChain fun part _ =>
    part.2 = [] → ∃ c, part.1.getLast? = some c ∧ c.isDigit = true

/-! ### One more character -/

/-- Puts one more character before a text. A capital letter joins the variable that the text starts
with, or makes a new one out of itself and the digits at the start. -/
def extend (c : Char) (cut : Cut) : Cut :=
  if c.isUpper then
    match cut with
    | ⟨[], part :: parts⟩ => ⟨[], (c :: part.1, part.2) :: parts⟩
    | ⟨opening, parts⟩ =>
      ⟨[], (c :: opening.takeWhile Char.isDigit, opening.dropWhile Char.isDigit) :: parts⟩
  else ⟨c :: cut.opening, cut.parts⟩

/-- Cuts a text from its end. -/
def ofText (text : List Char) : Cut :=
  text.foldr extend ⟨[], []⟩

section Extend

variable {c : Char} {opening : List Char} {part : List Char × List Char}
  {parts : List (List Char × List Char)}

theorem extend_small (small : c.isUpper = false) :
    extend c ⟨opening, parts⟩ = ⟨c :: opening, parts⟩ := by
  simp [extend, small]

theorem extend_before (upper : c.isUpper = true) :
    extend c ⟨[], part :: parts⟩ = ⟨[], (c :: part.1, part.2) :: parts⟩ := by
  simp [extend, upper]

theorem extend_apart (upper : c.isUpper = true) (apart : opening = [] → parts = []) :
    extend c ⟨opening, parts⟩ =
      ⟨[], (c :: opening.takeWhile Char.isDigit, opening.dropWhile Char.isDigit) :: parts⟩ := by
  simp only [extend, upper, if_true]
  cases opening with
  | nil => rw [apart rfl]
  | cons d opening => rfl

/-- Either the text starts with a variable, or a letter before it starts a new one. -/
theorem starts_or_apart (cut : Cut) :
    (∃ part parts, cut = ⟨[], part :: parts⟩) ∨ (cut.opening = [] → cut.parts = []) := by
  obtain ⟨opening, parts⟩ := cut
  cases opening with
  | cons d opening => exact .inr fun none => by cases none
  | nil =>
    cases parts with
    | nil => exact .inr fun _ => rfl
    | cons part parts => exact .inl ⟨part, parts, rfl⟩

/-- If the digits at the start of a gap are all that there is, a variable that takes them ends in a
digit. -/
theorem exists_last_digit {gap : List Char} (c : Char) (nonempty : gap ≠ [])
    (none : gap.dropWhile Char.isDigit = []) :
    ∃ last, (c :: gap.takeWhile Char.isDigit).getLast? = some last ∧ last.isDigit = true := by
  have decimal : ∀ d ∈ gap.takeWhile Char.isDigit, d.isDigit = true :=
    fun d member => List.mem_takeWhile_imp member
  have all : gap.takeWhile Char.isDigit = gap := by
    have whole := gap.takeWhile_append_dropWhile (p := Char.isDigit)
    rwa [none, List.append_nil] at whole
  rw [all] at decimal ⊢
  exact ⟨gap.getLast nonempty,
    by simp [List.getLast?_cons, List.getLast?_eq_some_getLast nonempty],
    decimal _ (List.getLast_mem nonempty)⟩

theorem text_extend (c : Char) (cut : Cut) : (cut.extend c).text = c :: cut.text := by
  cases upper : c.isUpper with
  | false => rw [extend_small upper]; rfl
  | true =>
    rcases cut.starts_or_apart with ⟨part, parts, rfl⟩ | apart
    · rw [extend_before upper]
      rfl
    · rw [extend_apart upper apart]
      simp [text, List.takeWhile_append_dropWhile]

end Extend

namespace Maximal

variable {opening : List Char} {part : List Char × List Char}
  {parts : List (List Char × List Char)}

theorem nil : Maximal ⟨[], []⟩ :=
  ⟨by simp, by simp, by simp, by simp, .nil⟩

/-- What is left of a maximal cut behind its first variable and the gap there. -/
theorem tail (maximal : Maximal ⟨opening, part :: parts⟩) : Maximal ⟨[], parts⟩ where
  opening := by simp
  named := (List.forall_mem_cons.mp maximal.named).2
  gaps := (List.forall_mem_cons.mp maximal.gaps).2
  digits := (List.forall_mem_cons.mp maximal.digits).2
  apart := List.isChain_of_isChain_cons maximal.apart

/-- A variable with its gap before what is cut already. -/
theorem cons (maximal : Maximal ⟨opening, parts⟩) (named : IsReference part.1)
    (gap : ∀ c ∈ part.2, c.isUpper = false)
    (digit : ∀ c, part.2.head? = some c → c.isDigit = false)
    (apart : parts ≠ [] → part.2 = [] → ∃ c, part.1.getLast? = some c ∧ c.isDigit = true) :
    Maximal ⟨[], part :: parts⟩ where
  opening := by simp
  named := List.forall_mem_cons.mpr ⟨named, maximal.named⟩
  gaps := List.forall_mem_cons.mpr ⟨gap, maximal.gaps⟩
  digits := List.forall_mem_cons.mpr ⟨digit, maximal.digits⟩
  apart := by
    cases parts with
    | nil => exact .singleton _
    | cons next parts => exact .cons_cons (apart (by simp)) maximal.apart

theorem extend {cut : Cut} (maximal : cut.Maximal) (c : Char) : (cut.extend c).Maximal := by
  cases upper : c.isUpper with
  | false =>
    rw [extend_small upper]
    exact ⟨List.forall_mem_cons.mpr ⟨upper, maximal.opening⟩, maximal.named, maximal.gaps,
      maximal.digits, maximal.apart⟩
  | true =>
    rcases cut.starts_or_apart with ⟨part, parts, rfl⟩ | apart
    · rw [extend_before upper]
      obtain ⟨letters, digits, written, nonempty, letter, decimal⟩ :=
        maximal.named part List.mem_cons_self
      refine maximal.tail.cons ⟨c :: letters, digits, by rw [written]; rfl, by simp,
        List.forall_mem_cons.mpr ⟨upper, letter⟩, decimal⟩
        (maximal.gaps part List.mem_cons_self) (maximal.digits part List.mem_cons_self) ?_
      -- The last character of the variable is still the last one.
      intro more none
      obtain ⟨next, parts, rfl⟩ := List.exists_cons_of_ne_nil more
      obtain ⟨last, ends, digit⟩ := (List.isChain_cons_cons.mp maximal.apart).1 none
      exact ⟨last, by rw [List.getLast?_cons, ends]; rfl, digit⟩
    · rw [extend_apart upper apart]
      have decimal : ∀ d ∈ cut.opening.takeWhile Char.isDigit, d.isDigit = true :=
        fun d member => List.mem_takeWhile_imp member
      refine maximal.cons ⟨[c], _, rfl, by simp, by simpa using upper, decimal⟩ ?_ ?_ ?_
      · exact fun d member => maximal.opening d (List.dropWhile_sublist _ |>.subset member)
      · intro d first
        simpa [first] using List.head?_dropWhile_not Char.isDigit cut.opening
      · exact fun more none => exists_last_digit c (fun empty => more (apart empty)) none

end Maximal

theorem text_ofText (text : List Char) : (ofText text).text = text := by
  induction text with
  | nil => rfl
  | cons c text ih => rw [ofText, List.foldr_cons, text_extend]; exact congrArg (c :: ·) ih

theorem maximal_ofText (text : List Char) : (ofText text).Maximal := by
  induction text with
  | nil => exact .nil
  | cons c text ih => exact ih.extend c

/-! ### A cut is made from its own text -/

section Unique

variable {gap letters digits : List Char} {parts : List (List Char × List Char)}

theorem foldr_extend_gap (small : ∀ c ∈ gap, c.isUpper = false) (opening : List Char) :
    gap.foldr extend ⟨opening, parts⟩ = ⟨gap ++ opening, parts⟩ := by
  induction gap with
  | nil => rfl
  | cons c gap ih =>
    obtain ⟨first, others⟩ := List.forall_mem_cons.mp small
    rw [List.foldr_cons, ih others, extend_small first]
    rfl

/-- The letters of a variable before its digits take these and nothing of the gap. -/
theorem foldr_extend_letters (nonempty : letters ≠ []) (upper : ∀ c ∈ letters, c.isUpper = true)
    (decimal : ∀ c ∈ digits, c.isDigit = true)
    (stops : ∀ c, gap.head? = some c → c.isDigit = false)
    (apart : digits ++ gap = [] → parts = []) :
    letters.foldr extend ⟨digits ++ gap, parts⟩ = ⟨[], (letters ++ digits, gap) :: parts⟩ := by
  have taken : gap.takeWhile Char.isDigit = [] ∧ gap.dropWhile Char.isDigit = gap := by
    cases gap with
    | nil => exact ⟨rfl, rfl⟩
    | cons c gap => simp [stops c rfl]
  induction letters with
  | nil => exact absurd rfl nonempty
  | cons c letters ih =>
    obtain ⟨first, others⟩ := List.forall_mem_cons.mp upper
    rw [List.foldr_cons]
    cases letters with
    | nil =>
      rw [List.foldr_nil, extend_apart first apart, List.takeWhile_append_of_pos decimal,
        List.dropWhile_append_of_pos decimal, taken.1, taken.2, List.append_nil]
      rfl
    | cons d letters =>
      rw [ih (by simp) others, extend_before first]
      rfl

theorem foldr_extend_parts (maximal : Maximal ⟨[], parts⟩) :
    (parts.flatMap fun part => part.1 ++ part.2).foldr extend ⟨[], []⟩ = ⟨[], parts⟩ := by
  induction parts with
  | nil => rfl
  | cons part parts ih =>
    obtain ⟨name, gap⟩ := part
    obtain ⟨letters, digits, rfl, nonempty, upper, decimal⟩ :=
      maximal.named _ List.mem_cons_self
    have apart : digits ++ gap = [] → parts = [] := by
      intro none
      obtain ⟨rfl, rfl⟩ := List.append_eq_nil_iff.mp none
      by_contra more
      obtain ⟨next, parts, rfl⟩ := List.exists_cons_of_ne_nil more
      -- The variable would have to end in a digit, but it has letters only.
      obtain ⟨last, ends, digit⟩ := (List.isChain_cons_cons.mp maximal.apart).1 rfl
      have letter := upper last (List.mem_of_getLast? (by simpa using ends))
      simp [isUpper_of_isDigit digit] at letter
    have small : ∀ c ∈ digits, c.isUpper = false := fun c member =>
      isUpper_of_isDigit (decimal c member)
    rw [List.flatMap_cons, List.foldr_append, ih maximal.tail, List.foldr_append,
      foldr_extend_gap (maximal.gaps _ List.mem_cons_self), List.append_nil, List.foldr_append,
      foldr_extend_gap small,
      foldr_extend_letters nonempty upper decimal (maximal.digits _ List.mem_cons_self) apart]

end Unique

/-- **Uniqueness.** A maximal cut is the one that is made from its text. -/
theorem Maximal.ofText_text {cut : Cut} (maximal : cut.Maximal) : ofText cut.text = cut := by
  obtain ⟨opening, parts⟩ := cut
  have parts : (parts.flatMap fun part => part.1 ++ part.2).foldr Cut.extend ⟨[], []⟩ =
      ⟨[], parts⟩ :=
    foldr_extend_parts ⟨by simp, maximal.named, maximal.gaps, maximal.digits, maximal.apart⟩
  rw [ofText, text, List.foldr_append, parts, foldr_extend_gap maximal.opening, List.append_nil]

/-! ### The scan -/

/-- What the scan for variables knows of a text that is cut. -/
def scan (cut : Cut) : VariableScan :=
  match cut with
  | ⟨[], part :: parts⟩ => ⟨part.1, names ⟨[], parts⟩⟩
  | ⟨opening, parts⟩ => ⟨opening.takeWhile Char.isDigit, names ⟨[], parts⟩⟩

theorem scan_apart {cut : Cut} (apart : cut.opening = [] → cut.parts = []) :
    cut.scan = ⟨cut.opening.takeWhile Char.isDigit, cut.names⟩ := by
  obtain ⟨opening, parts⟩ := cut
  cases opening with
  | nil => rw [show parts = [] from apart rfl]; rfl
  | cons d opening => rfl

/-- A variable starts with a capital letter. -/
theorem Maximal.exists_letter {part : List Char × List Char}
    {parts : List (List Char × List Char)} (maximal : Maximal ⟨[], part :: parts⟩) :
    ∃ c others, part.1 = c :: others ∧ c.isUpper = true := by
  obtain ⟨letters, digits, written, nonempty, upper, -⟩ :=
    maximal.named part List.mem_cons_self
  obtain ⟨c, letters, rfl⟩ := List.exists_cons_of_ne_nil nonempty
  exact ⟨c, letters ++ digits, written, upper c List.mem_cons_self⟩

theorem isDigit_of_takeWhile {text others : List Char} {c : Char}
    (first : text.takeWhile Char.isDigit = c :: others) : c.isDigit = true :=
  List.mem_takeWhile_imp (p := Char.isDigit) (first ▸ List.mem_cons_self)

theorem names_scan {cut : Cut} (maximal : cut.Maximal) : cut.scan.names = cut.names := by
  rcases cut.starts_or_apart with ⟨⟨name, gap⟩, parts, rfl⟩ | apart
  · obtain ⟨c, others, written, upper⟩ := maximal.exists_letter
    obtain rfl : name = c :: others := written
    simp [scan, VariableScan.names, upper, names]
  · rw [scan_apart apart, VariableScan.names]
    split
    next c others first =>
      simp [isUpper_of_isDigit (isDigit_of_takeWhile first)]
    next => rfl

/-- The scan takes in a character as the cut does. -/
theorem scan_extend {cut : Cut} (maximal : cut.Maximal) (c : Char) :
    (cut.extend c).scan = cut.scan.extend c := by
  cases upper : c.isUpper with
  | true =>
    rcases cut.starts_or_apart with ⟨part, parts, rfl⟩ | apart
    · simp [extend_before upper, scan, VariableScan.extend, upper]
    · rw [extend_apart upper apart, scan_apart apart]
      simp [scan, VariableScan.extend, upper, names]
  | false =>
    rw [extend_small upper, scan_apart (fun none => by cases none), VariableScan.extend, upper,
      if_neg Bool.false_ne_true]
    by_cases digit : c.isDigit = true
    · dsimp only
      rw [if_pos digit, List.takeWhile_cons_of_pos digit]
      rcases cut.starts_or_apart with ⟨⟨name, gap⟩, parts, rfl⟩ | apart
      · -- The variable that has begun the text so far is complete.
        obtain ⟨d, others, written, letter⟩ := maximal.exists_letter
        obtain rfl : name = d :: others := written
        simp [scan, letter, VariableScan.names, Cut.names]
      · rw [scan_apart apart]
        split
        next d others first =>
          simp [isUpper_of_isDigit (isDigit_of_takeWhile first), names]
        next none =>
          dsimp only at none
          rw [none]
          rfl
    · dsimp only
      rw [if_neg digit, List.takeWhile_cons_of_neg digit, names_scan maximal]
      rfl

theorem scan_ofText (text : List Char) :
    (ofText text).scan = text.foldr VariableScan.extend ⟨[], []⟩ := by
  induction text with
  | nil => rfl
  | cons c text ih =>
    rw [List.foldr_cons, ← ih, ← scan_extend (maximal_ofText text)]
    rfl

theorem names_ofText (text : String) :
    (ofText text.toList).names = variableNames text := by
  rw [variableNames, ← scan_ofText, names_scan (maximal_ofText _)]

end Cut

/-- **The variables of a text.** Every text has exactly one maximal cut, and its variables are the
variables of this cut. If all of them name cells of a grid, they are resolved in order, each to the
cell that it names; otherwise the first one that names none is reported. -/
theorem variables_of_maximal_cut (text : String) :
    (∃! cut : Cut, cut.Maximal ∧ cut.text = text.toList) ∧
    ∀ cut : Cut, cut.Maximal → cut.text = text.toList →
      variableNames text = cut.names ∧
      ∀ rows columns : Nat,
        ((∀ name ∈ cut.names, ∃ cell, CellRef.resolve? name rows columns = some cell) →
          ∃ resolved, resolve text rows columns = .ok resolved ∧
            resolved.map Prod.fst = cut.names ∧
            ∀ entry ∈ resolved, CellRef.resolve? entry.1 rows columns = some entry.2) ∧
        ∀ before name after, cut.names = before ++ name :: after →
          (∀ other ∈ before, ∃ cell, CellRef.resolve? other rows columns = some cell) →
          CellRef.resolve? name rows columns = none →
            resolve text rows columns = .error (.unresolvedReference name) := by
  have unique {cut : Cut} (maximal : cut.Maximal) (same : cut.text = text.toList) :
      cut = Cut.ofText text.toList := by
    rw [← same, maximal.ofText_text]
  refine ⟨⟨Cut.ofText text.toList, ⟨Cut.maximal_ofText _, Cut.text_ofText _⟩,
    fun cut both => unique both.1 both.2⟩, fun cut maximal same => ?_⟩
  have names : variableNames text = cut.names := by
    rw [unique maximal same, Cut.names_ofText]
  rw [← names]
  refine ⟨rfl, fun rows columns => ⟨fun named => ?_, fun before name after => resolve_eq_error⟩⟩
  obtain ⟨resolved, done⟩ := exists_resolve named
  exact ⟨resolved, done, map_fst_of_resolve done, fun entry => resolve?_of_mem_resolve done⟩

/-- Digits before a variable, variables without a gap between them, and one without digits at the
end, which names no cell. -/
theorem variables_of_maximal_cut_adjacent :
    let cut : Cut := ⟨['7'], [(['A', '1'], []), (['B', '2'], ['.', 'é', '3']), (['C'], [])]⟩
    cut.Maximal ∧ cut.text = "7A1B2.é3C".toList ∧
      variableNames "7A1B2.é3C" = ["A1", "B2", "C"] ∧
      resolve "7A1B2.é3C" 3 3 = .error (.unresolvedReference "C") := by
  intro cut
  have maximal : cut.Maximal := by
    rw [show cut = Cut.ofText "7A1B2.é3C".toList by rfl]
    exact Cut.maximal_ofText _
  have same : cut.text = "7A1B2.é3C".toList := by decide
  obtain ⟨names, outcome⟩ := (variables_of_maximal_cut "7A1B2.é3C").2 cut maximal same
  refine ⟨maximal, same, names, (outcome 3 3).2 ["A1", "B2"] "C" [] rfl ?_ (by decide)⟩
  exact List.forall_mem_cons.mpr ⟨⟨⟨0, 0⟩, by decide⟩,
    List.forall_mem_singleton.mpr ⟨⟨1, 1⟩, by decide⟩⟩

end Worksheet.Formula
