import Mathlib.Data.List.TakeWhile
import RecurringBilling.Text

/-! Blanks around a text. A text is trimmed to the one part of it that has only blanks around it
and none at its ends, so that texts which differ in the blanks around them are the same trimmed. -/

namespace RecurringBilling.Text

variable {cs core left right left' right' : List Char} {s t : String}

/-- Blanks, or nothing at all. -/
def AllBlank (cs : List Char) : Prop := ∀ c ∈ cs, isBlank c = true

/-- A text that starts with no blank. -/
def BareStart (cs : List Char) : Prop := ∀ c ∈ cs.head?, isBlank c = false

structure BareEnds (cs : List Char) : Prop where
  start : BareStart cs
  last : BareStart cs.reverse

theorem AllBlank.append (hl : AllBlank left) (hr : AllBlank right) : AllBlank (left ++ right) := by
  intro c hc
  rcases List.mem_append.mp hc with h | h
  · exact hl c h
  · exact hr c h

theorem AllBlank.reverse (h : AllBlank cs) : AllBlank cs.reverse := fun c hc =>
  h c (List.mem_reverse.mp hc)

theorem trimStart_append (h : AllBlank left) : trimStart (left ++ cs) = trimStart cs :=
  List.dropWhile_append_of_pos h

theorem trimStart_of_allBlank (h : AllBlank cs) : trimStart cs = [] := by
  rw [← List.append_nil cs, trimStart_append h]
  rfl

theorem trimStart_of_bareStart (h : BareStart cs) : trimStart cs = cs := by
  cases cs with
  | nil => rfl
  | cons c rest => exact List.dropWhile_cons_of_neg (by simp [h c rfl])

theorem bareStart_trimStart (cs : List Char) : BareStart (trimStart cs) := by
  intro c hc
  have hstop := List.head?_dropWhile_not isBlank cs
  rw [show (List.dropWhile isBlank cs).head? = some c from hc] at hstop
  simpa using hstop

theorem exists_trimStart (cs : List Char) : ∃ gap, AllBlank gap ∧ cs = gap ++ trimStart cs :=
  ⟨cs.takeWhile isBlank, fun _ hc => List.mem_takeWhile_imp hc,
    List.takeWhile_append_dropWhile.symm⟩

theorem trimEnd_eq (cs : List Char) : trimEnd cs = (trimStart cs.reverse).reverse := rfl

theorem trimEnd_append (h : AllBlank right) : trimEnd (cs ++ right) = trimEnd cs := by
  rw [trimEnd_eq, trimEnd_eq, List.reverse_append, trimStart_append h.reverse]

theorem trimEnd_of_bareEnds (h : BareEnds cs) : trimEnd cs = cs := by
  rw [trimEnd_eq, trimStart_of_bareStart h.last, List.reverse_reverse]

/-- What is left in front stays in front when the end is trimmed. -/
theorem bareEnds_trimEnd (h : BareStart cs) : BareEnds (trimEnd cs) := by
  refine ⟨?_, by rw [trimEnd_eq, List.reverse_reverse]; exact bareStart_trimStart _⟩
  obtain ⟨gap, -, hcs⟩ := exists_trimStart cs.reverse
  have hparts : cs = trimEnd cs ++ gap.reverse := by
    rw [trimEnd_eq, ← List.reverse_append, ← hcs, List.reverse_reverse]
  intro c hc
  refine h c ?_
  rw [hparts, List.head?_append, Option.mem_def.mp hc]
  rfl

theorem trimEnd_trimStart (hl : AllBlank left) (hr : AllBlank right) (h : BareEnds core) :
    trimEnd (trimStart (left ++ core ++ right)) = core := by
  rw [List.append_assoc, trimStart_append hl]
  cases core with
  | nil =>
    rw [List.nil_append, trimStart_of_allBlank hr]
    rfl
  | cons c rest =>
    have hstart : BareStart (c :: rest ++ right) := fun _ hc => h.start _ hc
    rw [trimStart_of_bareStart hstart, trimEnd_append hr, trimEnd_of_bareEnds h]

theorem bareEnds_trim (s : String) : BareEnds (trim s).toList := by
  rw [trim, String.toList_ofList]
  exact bareEnds_trimEnd (bareStart_trimStart _)

theorem exists_padding (s : String) :
    ∃ left right, AllBlank left ∧ AllBlank right ∧ s.toList = left ++ (trim s).toList ++ right := by
  obtain ⟨left, hl, hs⟩ := exists_trimStart s.toList
  obtain ⟨right, hr, hrest⟩ := exists_trimStart (trimStart s.toList).reverse
  refine ⟨left, right.reverse, hl, hr.reverse, ?_⟩
  rw [trim, String.toList_ofList, trimEnd_eq, List.append_assoc, ← List.reverse_append, ← hrest,
    List.reverse_reverse]
  exact hs

theorem trim_eq_iff : trim s = t ↔
    BareEnds t.toList ∧
      ∃ left right, AllBlank left ∧ AllBlank right ∧ s.toList = left ++ t.toList ++ right := by
  constructor
  · rintro rfl
    exact ⟨bareEnds_trim s, exists_padding s⟩
  · rintro ⟨hbare, left, right, hl, hr, hs⟩
    rw [trim, hs, trimEnd_trimStart hl hr hbare, String.ofList_toList]

/-- The two texts are one text with blanks around it. -/
def SameButBlanks (s t : String) : Prop :=
  ∃ core left right left' right', AllBlank left ∧ AllBlank right ∧ AllBlank left' ∧
    AllBlank right' ∧ s.toList = left ++ core ++ right ∧ t.toList = left' ++ core ++ right'

theorem trim_eq_of_padding (hl : AllBlank left) (hr : AllBlank right)
    (hs : s.toList = left ++ core ++ right) : trim s = trim (String.ofList core) := by
  obtain ⟨inner, inner', hl', hr', hcore⟩ := exists_padding (String.ofList core)
  rw [String.toList_ofList] at hcore
  refine trim_eq_iff.mpr ⟨bareEnds_trim _, left ++ inner, inner' ++ right, hl.append hl',
    hr'.append hr, ?_⟩
  calc s.toList = left ++ (inner ++ (trim (String.ofList core)).toList ++ inner') ++ right := by
        rw [← hcore, hs]
    _ = _ := by simp only [List.append_assoc]

theorem sameButBlanks_iff : SameButBlanks s t ↔ trim s = trim t := by
  constructor
  · rintro ⟨core, left, right, left', right', hl, hr, hl', hr', hs, ht⟩
    rw [trim_eq_of_padding hl hr hs, trim_eq_of_padding hl' hr' ht]
  · intro h
    obtain ⟨left, right, hl, hr, hs⟩ := exists_padding s
    obtain ⟨left', right', hl', hr', ht⟩ := exists_padding t
    rw [← h] at ht
    exact ⟨_, left, right, left', right', hl, hr, hl', hr', hs, ht⟩

theorem trim_eq_empty_iff : trim s = "" ↔ AllBlank s.toList := by
  constructor
  · intro h
    obtain ⟨left, right, hl, hr, hs⟩ := exists_padding s
    rw [hs, h, String.toList_empty, List.append_nil]
    exact hl.append hr
  · intro h
    refine trim_eq_iff.mpr ⟨⟨nofun, nofun⟩, s.toList, [], h, nofun, ?_⟩
    simp

theorem nonBlank?_eq_none_iff : nonBlank? s = none ↔ AllBlank s.toList := by
  rw [← trim_eq_empty_iff, nonBlank?]
  by_cases h : trim s = ""
  · simp [h]
  · simp [h]

theorem nonBlank?_eq_some_iff : nonBlank? s = some t ↔ ¬ AllBlank s.toList ∧ trim s = t := by
  rw [← trim_eq_empty_iff, nonBlank?]
  by_cases h : trim s = ""
  · simp [h]
  · simp [h]

theorem nonBlank?_congr (h : SameButBlanks s t) : nonBlank? s = nonBlank? t := by
  rw [nonBlank?, nonBlank?, sameButBlanks_iff.mp h]

/-- Nothing that is kept of a text is blank. -/
theorem not_allBlank_of_nonBlank? (h : nonBlank? s = some t) : ¬ AllBlank t.toList := by
  obtain ⟨hs, rfl⟩ := nonBlank?_eq_some_iff.mp h
  intro hblank
  obtain ⟨left, right, hl, hr, hparts⟩ := exists_padding s
  rw [hparts] at hs
  exact hs ((hl.append hblank).append hr)

/-- Two settings of one meaning: each absent or blank, or one text with blanks around it. -/
def SameSetting : Option String → Option String → Prop
  | none, none => True
  | some s, none | none, some s => AllBlank s.toList
  | some s, some t => SameButBlanks s t

theorem bind_nonBlank?_congr {a b : Option String} (h : SameSetting a b) :
    a.bind nonBlank? = b.bind nonBlank? := by
  match a, b, h with
  | none, none, _ => rfl
  | some s, none, h => rw [Option.bind_some, nonBlank?_eq_none_iff.mpr h, Option.bind_none]
  | none, some t, h => rw [Option.bind_some, nonBlank?_eq_none_iff.mpr h, Option.bind_none]
  | some s, some t, h => rw [Option.bind_some, Option.bind_some, nonBlank?_congr h]

end RecurringBilling.Text
