import Mathlib.Data.List.Basic
import RecurringBilling.Invoice.Number
import RecurringBilling.Proofs.Calendar.Civil
import RecurringBilling.Proofs.Text.Digits

/-! Invoice numbers against their format. A format is read once from left to right, token by token;
the number is made in passes over the whole text, which also take a part of the date for what the
series and the draws happen to spell. -/

namespace RecurringBilling.NumberPattern

/-- The parts of the date that a number can show. -/
inductive DatePart where
  | year
  | month
  | day
  deriving DecidableEq

namespace DatePart

def letter : DatePart → Char
  | year => 'Y'
  | month => 'M'
  | day => 'D'

def token (part : DatePart) : List Char := [part.letter, part.letter]

def text (date : Date) : DatePart → List Char
  | year => date.shortYearText.toList
  | month => (Text.padded 2 date.month).toList
  | day => (Text.padded 2 date.dayOfMonth).toList

theorem letter_inj {part part' : DatePart} : part.letter = part'.letter ↔ part = part' := by
  cases part <;> cases part' <;> decide

theorem ne_letter_of_isDigit {c : Char} (h : c.isDigit = true) (part : DatePart) :
    c ≠ part.letter := by
  rintro rfl
  cases part <;> cases h

/-- A part of the date takes two digits, as many characters as its token. -/
theorem exists_digits (date : Date) (part : DatePart) :
    ∃ a b, part.text date = [a, b] ∧ a.isDigit = true ∧ b.isDigit = true := by
  have hpadded : ∀ n < 100, ∃ a b, (Text.padded 2 n).toList = [a, b] ∧
      a.isDigit = true ∧ b.isDigit = true := by
    intro n hn
    obtain ⟨a, b, hab⟩ := List.length_eq_two.mp (Text.length_padded (by decide) hn)
    exact ⟨a, b, hab, Text.isDigit_of_mem_padded (by rw [hab]; simp),
      Text.isDigit_of_mem_padded (by rw [hab]; simp)⟩
  cases part with
  | year => exact hpadded _ (by omega)
  | month =>
    have hmonth := (Calendar.monthOf_bounds _ date.dayOfYear_lt.2).2.1
    exact hpadded _ (Nat.lt_of_le_of_lt hmonth (by decide))
  | day => exact hpadded _ (Nat.lt_of_le_of_lt date.dayOfMonth_bounds.2 (by decide))

theorem letter_not_mem_text (date : Date) (part part' : DatePart) :
    part.letter ∉ part'.text date := by
  obtain ⟨a, b, hab, ha, hb⟩ := part'.exists_digits date
  rw [hab, List.mem_pair, not_or]
  exact ⟨(ne_letter_of_isDigit ha part).symm, (ne_letter_of_isDigit hb part).symm⟩

theorem letter_mem_token {part part' : DatePart} : part.letter ∈ part'.token ↔ part = part' := by
  rw [token, List.mem_pair, or_self, letter_inj]

end DatePart

/-- A character of a number, or a part of the date in it. -/
inductive Piece where
  | char (c : Char)
  | date (part : DatePart)

namespace Piece

/-- What a piece is before the date is put in. -/
def source : Piece → List Char
  | char c => [c]
  | date part => part.token

/-- What a piece is when some parts of the date have been put in. -/
def shown (date : Date) (done : List DatePart) : Piece → List Char
  | char c => [c]
  | .date part => if part ∈ done then part.text date else part.token

def text (date : Date) : Piece → List Char
  | char c => [c]
  | .date part => part.text date

end Piece

/-- The pieces of a number, its format read once from left to right. Each token has a draw of its
own. -/
def pieces (series : List Char) : Draws → List Char → List Piece
  | draws, 'Y' :: 'Y' :: rest => .date .year :: pieces series (fun n => draws (n + 2)) rest
  | draws, 'M' :: 'M' :: rest => .date .month :: pieces series (fun n => draws (n + 2)) rest
  | draws, 'D' :: 'D' :: rest => .date .day :: pieces series (fun n => draws (n + 2)) rest
  | draws, '#' :: rest => series.map .char ++ pieces series (fun n => draws (n + 1)) rest
  | draws, 'N' :: rest => .char (digitOf (draws 0)) :: pieces series (fun n => draws (n + 1)) rest
  | draws, 'S' :: rest => .char (letterOf (draws 0)) :: pieces series (fun n => draws (n + 1)) rest
  | draws, 'A' :: rest =>
    .char (letterOrDigitOf (draws 0)) :: pieces series (fun n => draws (n + 1)) rest
  | draws, c :: rest => .char c :: pieces series (fun n => draws (n + 1)) rest
  | _, [] => []

/-- The number that a format stands for: its tokens expanded one after the other. -/
def expansion (p : NumberPattern) (date : Date) (draws : Draws) : String :=
  String.ofList ((pieces p.series.toList draws p.format.toList).flatMap (Piece.text date))

/-- Whether a character outside the date tokens would be read as one with the character after it. -/
def Misread (ps : List Piece) : Prop :=
  ∃ before part rest, ps = before ++ .char (DatePart.letter part) :: rest ∧
    (rest.flatMap Piece.source).head? = some part.letter

/-- The date tokens of a text, read from left to right. -/
def readDates : List Char → List Piece
  | 'Y' :: 'Y' :: rest => .date .year :: readDates rest
  | 'M' :: 'M' :: rest => .date .month :: readDates rest
  | 'D' :: 'D' :: rest => .date .day :: readDates rest
  | c :: rest => .char c :: readDates rest
  | [] => []

variable {date : Date} {part : DatePart} {done : List DatePart} {ps ps' : List Piece}
  {series : List Char} {draws : Draws}

theorem not_misread_nil : ¬ Misread [] := by
  rintro ⟨before, part, rest, hps, -⟩
  simp at hps

theorem misread_cons {x : Piece} : Misread (x :: ps) ↔
    (∃ part, x = .char (DatePart.letter part) ∧
      (ps.flatMap Piece.source).head? = some part.letter) ∨ Misread ps := by
  constructor
  · rintro ⟨before, part, rest, hps, hhead⟩
    cases before with
    | nil =>
      obtain ⟨rfl, rfl⟩ := List.cons.inj hps
      exact .inl ⟨part, rfl, hhead⟩
    | cons y before => exact .inr ⟨before, part, rest, (List.cons.inj hps).2, hhead⟩
  · rintro (⟨part, rfl, hhead⟩ | ⟨before, part, rest, rfl, hhead⟩)
    · exact ⟨[], part, ps, rfl, hhead⟩
    · exact ⟨x :: before, part, rest, rfl, hhead⟩

theorem source_readDates (cs : List Char) : (readDates cs).flatMap Piece.source = cs := by
  fun_induction readDates cs <;>
    simp_all [Piece.source, DatePart.token, DatePart.letter]

theorem not_misread_readDates (cs : List Char) : ¬ Misread (readDates cs) := by
  fun_induction readDates cs with
  | case1 rest ih | case2 rest ih | case3 rest ih => simpa [misread_cons] using ih
  | case4 c rest hyear hmonth hday ih =>
    rw [misread_cons, source_readDates]
    rintro (⟨part, hc, hhead⟩ | h)
    · obtain rfl := Piece.char.inj hc
      obtain ⟨rest', rfl⟩ := List.head?_eq_some_iff.mp hhead
      cases part with
      | year => exact hyear rest' rfl rfl
      | month => exact hmonth rest' rfl rfl
      | day => exact hday rest' rfl rfl
    · exact ih h
  | case5 => exact not_misread_nil

theorem source_ne_nil (x : Piece) : x.source ≠ [] := by
  cases x <;> simp [Piece.source, DatePart.token]

/-- Two readings of one text that show the same are the same: only one of them could have a digit
where the other has the letter. -/
theorem eq_of_source_of_text (hsource : ps.flatMap Piece.source = ps'.flatMap Piece.source)
    (htext : ps.flatMap (Piece.text date) = ps'.flatMap (Piece.text date)) : ps = ps' := by
  have hclash : ∀ (part : DatePart) (rest rest' : List Char),
      part.letter :: rest ≠ part.text date ++ rest' := by
    intro part rest rest' h
    obtain ⟨a, b, hab, ha, -⟩ := part.exists_digits date
    rw [hab] at h
    exact DatePart.ne_letter_of_isDigit ha part (List.cons.inj h).1.symm
  induction ps generalizing ps' with
  | nil =>
    cases ps' with
    | nil => rfl
    | cons y rest' => simp [source_ne_nil] at hsource
  | cons x rest ih =>
    cases ps' with
    | nil => simp [source_ne_nil] at hsource
    | cons y rest' =>
      rw [List.flatMap_cons, List.flatMap_cons] at hsource htext
      cases x with
      | char c =>
        cases y with
        | char c' =>
          obtain rfl : c = c' := (List.cons.inj hsource).1
          rw [ih (List.append_cancel_left hsource) (List.append_cancel_left htext)]
        | date part =>
          obtain rfl : c = part.letter := (List.cons.inj hsource).1
          exact absurd htext (hclash part _ _)
      | date part =>
        cases y with
        | char c =>
          obtain rfl : part.letter = c := (List.cons.inj hsource).1
          exact absurd htext.symm (hclash part _ _)
        | date part' =>
          obtain rfl := DatePart.letter_inj.mp (List.cons.inj hsource).1
          rw [ih (List.append_cancel_left hsource) (List.append_cancel_left htext)]

theorem replaceFrom_cons {token replacement rest : List Char} {c : Char}
    (h : token.isPrefixOf (c :: rest) = false) :
    replaceFrom token replacement 0 (c :: rest) = c :: replaceFrom token replacement 0 rest := by
  rw [replaceFrom, h]
  rfl

theorem isPrefixOf_token {rest : List Char} {c : Char} : part.token.isPrefixOf (c :: rest) = true ↔
    c = part.letter ∧ rest.head? = some part.letter := by
  cases rest with
  | nil => simp [DatePart.token, List.isPrefixOf]
  | cons c' rest => simp [DatePart.token, List.isPrefixOf, @eq_comm _ part.letter]

/-- Parts of the date that have been put in do not look like a token. -/
theorem head?_source_of_shown
    (h : (ps.flatMap (Piece.shown date done)).head? = some part.letter) :
    (ps.flatMap Piece.source).head? = some part.letter := by
  cases ps with
  | nil => simp at h
  | cons x rest =>
    cases x with
    | char c => exact h
    | date part' =>
      obtain ⟨a, b, hab, ha, -⟩ := part'.exists_digits date
      by_cases hdone : part' ∈ done
      · have hletter : a = part.letter := by simpa [Piece.shown, hdone, hab] using h
        exact absurd hletter (DatePart.ne_letter_of_isDigit ha part)
      · simpa [Piece.shown, Piece.source, DatePart.token, hdone] using h

theorem replaceFrom_token (replacement rest : List Char) :
    replaceFrom part.token replacement 0 (part.token ++ rest) =
      replacement ++ replaceFrom part.token replacement 0 rest := by
  have hhere : part.token.isPrefixOf (part.letter :: part.letter :: rest) = true :=
    isPrefixOf_token.mpr ⟨rfl, rfl⟩
  change replaceFrom part.token replacement 0 (part.letter :: part.letter :: rest) = _
  rw [replaceFrom, if_pos hhere]
  rfl

theorem replaceFrom_append {cs : List Char} (h : part.letter ∉ cs) (replacement rest : List Char) :
    replaceFrom part.token replacement 0 (cs ++ rest) =
      cs ++ replaceFrom part.token replacement 0 rest := by
  induction cs with
  | nil => rfl
  | cons c cs ih =>
    rw [List.mem_cons, not_or] at h
    obtain ⟨hc, hcs⟩ := h
    have hother : part.token.isPrefixOf (c :: (cs ++ rest)) = false :=
      Bool.eq_false_iff.mpr (mt isPrefixOf_token.mp fun hboth => hc hboth.1.symm)
    rw [List.cons_append, replaceFrom_cons hother, ih hcs, List.cons_append]

/-- One pass puts in one part of the date, and changes nothing else. -/
theorem replaceFrom_shown (date : Date) (part : DatePart) (done : List DatePart)
    (h : ¬ Misread ps) :
    replaceFrom part.token (part.text date) 0 (ps.flatMap (Piece.shown date done)) =
      ps.flatMap (Piece.shown date (part :: done)) := by
  induction ps with
  | nil => rfl
  | cons x rest ih =>
    obtain ⟨hfirst, hrest⟩ := not_or.mp (mt misread_cons.mpr h)
    rw [List.flatMap_cons, List.flatMap_cons, ← ih hrest]
    cases x with
    | char c =>
      have hnot : part.token.isPrefixOf (c :: rest.flatMap (Piece.shown date done)) = false := by
        refine Bool.eq_false_iff.mpr (mt isPrefixOf_token.mp ?_)
        rintro ⟨rfl, hhead⟩
        exact hfirst ⟨part, rfl, head?_source_of_shown hhead⟩
      exact replaceFrom_cons hnot
    | date part' =>
      by_cases hdone : part' ∈ done
      · rw [Piece.shown, Piece.shown, if_pos hdone, if_pos (List.mem_cons_of_mem part hdone)]
        exact replaceFrom_append (part.letter_not_mem_text date part') _ _
      · rw [Piece.shown, if_neg hdone]
        by_cases hsame : part = part'
        · subst hsame
          rw [Piece.shown, if_pos List.mem_cons_self]
          exact replaceFrom_token _ _
        · have hlater : part' ∉ part :: done := by
            rw [List.mem_cons, not_or]
            exact ⟨Ne.symm hsame, hdone⟩
          rw [Piece.shown, if_neg hlater]
          exact replaceFrom_append (mt DatePart.letter_mem_token.mp hsame) _ _

/-- All passes together put in the date where the text is not misread. -/
theorem replace_dates (date : Date) (h : ¬ Misread ps) :
    (ps.flatMap Piece.source |> replace "YY" date.shortYearText
      |> replace "MM" (Text.padded 2 date.month) |> replace "DD" (Text.padded 2 date.dayOfMonth)) =
      ps.flatMap (Piece.text date) := by
  have hnone : Piece.source = Piece.shown date [] := by
    funext x
    cases x <;> rfl
  have hall : Piece.shown date [.day, .month, .year] = Piece.text date := by
    funext x
    cases x with
    | char c => rfl
    | date part => cases part <;> rfl
  have hyear := replaceFrom_shown date .year [] h
  have hmonth := replaceFrom_shown date .month [.year] h
  have hday := replaceFrom_shown date .day [.month, .year] h
  rw [← hall, ← hday, ← hmonth, ← hyear, hnone]
  rfl

theorem replaceFrom_single (c : Char) (replacement cs : List Char) :
    replaceFrom [c] replacement 0 cs = cs.flatMap fun c' => if c' = c then replacement else [c'] := by
  induction cs with
  | nil => rfl
  | cons c' rest ih =>
    rw [replaceFrom, List.flatMap_cons]
    by_cases h : c' = c
    · simp [h, List.isPrefixOf, ih]
    · simp [h, List.isPrefixOf, Ne.symm h, ih]

theorem isDigit_digitOf (n : Nat) : (digitOf n).isDigit = true := by
  have hdigits : ∀ m < 10, (Char.ofNat ('0'.toNat + m)).isDigit = true := by decide
  exact hdigits _ (Nat.mod_lt n (by decide))

theorem isUpper_letterOf (n : Nat) : (letterOf n).isUpper = true := by
  have hletters : ∀ m < 26, (Char.ofNat ('A'.toNat + m)).isUpper = true := by decide
  exact hletters _ (Nat.mod_lt n (by decide))

theorem isUpper_or_isDigit_letterOrDigitOf (n : Nat) :
    (letterOrDigitOf n).isUpper = true ∨ (letterOrDigitOf n).isDigit = true := by
  unfold letterOrDigitOf
  split
  · exact .inl (isUpper_letterOf _)
  · exact .inr (isDigit_digitOf _)

theorem drawTokens_cons (draws : Draws) (c : Char) (rest : List Char) :
    drawTokens draws (c :: rest) =
      drawToken (draws 0) c :: drawTokens (fun n => draws (n + 1)) rest := List.mapIdx_cons

/-- No character of the draws stands for the series. -/
theorem draws_ne_series (n : Nat) :
    digitOf n ≠ '#' ∧ letterOf n ≠ '#' ∧ letterOrDigitOf n ≠ '#' := by
  refine ⟨fun h => ?_, fun h => ?_, fun h => ?_⟩
  · have hdigit := isDigit_digitOf n
    rw [h] at hdigit
    cases hdigit
  · have hupper := isUpper_letterOf n
    rw [h] at hupper
    cases hupper
  · have heither := isUpper_or_isDigit_letterOrDigitOf n
    rw [h] at heither
    rcases heither with hupper | hdigit
    · cases hupper
    · cases hdigit

/-- Before the date is put in, the pieces are the text with the draws and the series in it. -/
theorem source_pieces (series : List Char) (draws : Draws) (format : List Char) :
    (pieces series draws format).flatMap Piece.source =
      replaceFrom ['#'] series 0 (drawTokens draws format) := by
  rw [replaceFrom_single]
  have hseries : (series.map Piece.char).flatMap Piece.source = series := by
    rw [List.flatMap_map]
    exact List.flatMap_singleton' series
  fun_induction pieces series draws format with
  | case1 draws rest ih | case2 draws rest ih | case3 draws rest ih =>
    rw [drawTokens_cons, drawTokens_cons, List.flatMap_cons, List.flatMap_cons, List.flatMap_cons, ih]
    rfl
  | case4 draws rest ih =>
    rw [drawTokens_cons, List.flatMap_append, List.flatMap_cons, ih, hseries]
    rfl
  | case5 draws rest ih =>
    rw [drawTokens_cons, List.flatMap_cons, List.flatMap_cons, ih]
    simp [drawToken, Piece.source, (draws_ne_series _).1]
  | case6 draws rest ih =>
    rw [drawTokens_cons, List.flatMap_cons, List.flatMap_cons, ih]
    simp [drawToken, Piece.source, (draws_ne_series _).2.1]
  | case7 draws rest ih =>
    rw [drawTokens_cons, List.flatMap_cons, List.flatMap_cons, ih]
    simp [drawToken, Piece.source, (draws_ne_series _).2.2]
  | case8 draws c rest hyear hmonth hday hseries' hN hS hA ih =>
    have hdrawn : drawToken (draws 0) c = c := by
      unfold drawToken
      split
      · exact absurd rfl hN
      · exact absurd rfl hS
      · exact absurd rfl hA
      · rfl
    rw [drawTokens_cons, List.flatMap_cons, List.flatMap_cons, ih, hdrawn, if_neg hseries']
    rfl
  | case9 => rfl

theorem numberFor_eq (p : NumberPattern) (date : Date) (draws : Draws) :
    p.numberFor date draws = String.ofList
      ((pieces p.series.toList draws p.format.toList).flatMap Piece.source
        |> replace "YY" date.shortYearText |> replace "MM" (Text.padded 2 date.month)
        |> replace "DD" (Text.padded 2 date.dayOfMonth)) := by
  rw [source_pieces]
  rfl

/-- A pattern that cannot spell a date token outside its own: its series is there and has none of
the letters, and no letter is drawn. -/
structure Plain (p : NumberPattern) : Prop where
  series_ne_nil : p.series.toList ≠ []
  letter_not_mem : ∀ part, DatePart.letter part ∉ p.series.toList
  no_letters : 'S' ∉ p.format.toList
  no_characters : 'A' ∉ p.format.toList

theorem misread_map_char (h : ∀ part, DatePart.letter part ∉ series) :
    Misread (series.map .char ++ ps) ↔ Misread ps := by
  induction series with
  | nil => rfl
  | cons c rest ih =>
    rw [List.map_cons, List.cons_append, misread_cons,
      ih fun part hpart => h part (List.mem_cons_of_mem c hpart)]
    refine or_iff_right ?_
    rintro ⟨part, hc, -⟩
    exact h part (by simp [Piece.char.inj hc])

/-- With a plain pattern, a letter of the date comes from the format itself. -/
theorem head?_source_pieces {format : List Char} (hne : series ≠ [])
    (hseries : ∀ part, DatePart.letter part ∉ series) (hS : 'S' ∉ format) (hA : 'A' ∉ format)
    (h : ((pieces series draws format).flatMap Piece.source).head? = some part.letter) :
    format.head? = some part.letter := by
  rw [source_pieces, replaceFrom_single] at h
  cases format with
  | nil => cases h
  | cons c rest =>
    rw [drawTokens_cons, List.flatMap_cons] at h
    split at h
    · rw [List.head?_append_of_ne_nil _ hne] at h
      exact absurd (List.mem_of_head? h) (hseries part)
    · have hdrawn : drawToken (draws 0) c = part.letter := Option.some.inj h
      unfold drawToken at hdrawn
      split at hdrawn
      · exact absurd hdrawn (DatePart.ne_letter_of_isDigit (isDigit_digitOf _) part)
      · exact absurd List.mem_cons_self hS
      · exact absurd List.mem_cons_self hA
      · rw [hdrawn]
        rfl

theorem not_misread_pieces {format : List Char} (hne : series ≠ [])
    (hseries : ∀ part, DatePart.letter part ∉ series) (hS : 'S' ∉ format) (hA : 'A' ∉ format) :
    ¬ Misread (pieces series draws format) := by
  have htoken : ∀ {part : DatePart} {ps : List Piece}, Misread (.date part :: ps) ↔ Misread ps := by
    simp [misread_cons]
  fun_induction pieces series draws format with
  | case1 draws rest ih | case2 draws rest ih | case3 draws rest ih =>
    rw [htoken]
    exact ih (fun h => hS (.tail _ (.tail _ h))) (fun h => hA (.tail _ (.tail _ h)))
  | case4 draws rest ih =>
    rw [misread_map_char hseries]
    exact ih (fun h => hS (.tail _ h)) (fun h => hA (.tail _ h))
  | case5 draws rest ih =>
    rw [misread_cons]
    rintro (⟨part, hdraw, -⟩ | h)
    · exact DatePart.ne_letter_of_isDigit (isDigit_digitOf _) part (Piece.char.inj hdraw)
    · exact ih (fun hm => hS (.tail _ hm)) (fun hm => hA (.tail _ hm)) h
  | case6 draws rest ih => exact absurd List.mem_cons_self hS
  | case7 draws rest ih => exact absurd List.mem_cons_self hA
  | case8 draws c rest hyear hmonth hday hseries' hN hS' hA' ih =>
    rw [List.mem_cons, not_or] at hS hA
    rw [misread_cons]
    rintro (⟨part, hc, hhead⟩ | h)
    · obtain rfl := Piece.char.inj hc
      obtain ⟨rest', rfl⟩ := List.head?_eq_some_iff.mp
        (head?_source_pieces hne hseries hS.2 hA.2 hhead)
      cases part with
      | year => exact hyear rest' rfl rfl
      | month => exact hmonth rest' rfl rfl
      | day => exact hday rest' rfl rfl
    · exact ih hS.2 hA.2 h
  | case9 => exact not_misread_nil

/-- A number is the expansion of its format exactly if, with the series and the draws in place, no
`Y`, `M` or `D` outside the date tokens comes before another one. -/
theorem numberFor_eq_expansion_iff (p : NumberPattern) (date : Date) (draws : Draws) :
    (p.numberFor date draws = p.expansion date draws ↔
      ¬ Misread (pieces p.series.toList draws p.format.toList)) ∧
    (p.Plain → p.numberFor date draws = p.expansion date draws) ∧
    (∀ part : DatePart, ∃ a b, part.text date = [a, b] ∧ a.isDigit = true ∧ b.isDigit = true) ∧
    ∀ n, (digitOf n).isDigit = true ∧ (letterOf n).isUpper = true ∧
      ((letterOrDigitOf n).isUpper = true ∨ (letterOrDigitOf n).isDigit = true) := by
  have hiff : p.numberFor date draws = p.expansion date draws ↔
      ¬ Misread (pieces p.series.toList draws p.format.toList) := by
    rw [numberFor_eq, expansion, String.ofList_inj]
    constructor
    · intro h
      -- The number is what is left of the reading of the text with the series and draws in it.
      have hread := replace_dates date (not_misread_readDates
        ((pieces p.series.toList draws p.format.toList).flatMap Piece.source))
      rw [source_readDates] at hread
      rw [← eq_of_source_of_text (source_readDates _) (hread.symm.trans h)]
      exact not_misread_readDates _
    · exact replace_dates date
  refine ⟨hiff, fun h => hiff.mpr ?_, DatePart.exists_digits date, fun n => ?_⟩
  · exact not_misread_pieces h.series_ne_nil h.letter_not_mem h.no_letters h.no_characters
  · exact ⟨isDigit_digitOf n, isUpper_letterOf n, isUpper_or_isDigit_letterOrDigitOf n⟩

def midJune : Date := ⟨19889, by decide, by decide⟩

/-- The pattern of the settings is a plain one. -/
theorem numberFor_eq_expansion_settings :
    (default : NumberPattern).Plain ∧ (default : NumberPattern).numberFor midJune (fun n => n) =
      (default : NumberPattern).expansion midJune fun n => n := by
  have hplain : (default : NumberPattern).Plain :=
    ⟨by decide, by rintro (_ | _ | _) <;> decide, by decide, by decide⟩
  exact ⟨hplain, (numberFor_eq_expansion_iff default midJune fun n => n).2.1 hplain⟩

/-- The month is put into a series that spells its token, and the year into two drawn letters. -/
theorem summer_misread :
    NumberPattern.numberFor ⟨"SUMMER", "#-YY"⟩ midJune (fun n => n) = "SU06ER-24" ∧
      NumberPattern.expansion ⟨"SUMMER", "#-YY"⟩ midJune (fun n => n) = "SUMMER-24" ∧
      NumberPattern.numberFor ⟨"INV", "#-SS"⟩ midJune (fun _ => 24) = "INV-24" ∧
      NumberPattern.expansion ⟨"INV", "#-SS"⟩ midJune (fun _ => 24) = "INV-YY" := by
  decide +kernel

end RecurringBilling.NumberPattern
