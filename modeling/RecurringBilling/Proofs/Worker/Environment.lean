import RecurringBilling.Proofs.Calendar.DateTexts
import RecurringBilling.Proofs.Results
import RecurringBilling.Worker.Config

/-! Which environments the worker takes. Four of its eight variables can stop it, and the first of
them that does is the one it names; blanks around a text are never seen. -/

namespace RecurringBilling

open Text

variable {bound m n : Nat} {cs : List Char} {s t : String}

/-! ### Counts -/

/-- The texts of counts: digits, with a plus sign in front or without. -/
inductive CountNumeral : List Char → Nat → Prop where
  | plain {ds : List Char} {n : Nat} : Numeral ds n → CountNumeral ds n
  | plus {ds : List Char} {n : Nat} : Numeral ds n → CountNumeral ('+' :: ds) n

/-- One more digit of a count. -/
def countStep (bound n : Nat) (c : Char) : Except CountFault Nat :=
  if !c.isDigit then .error .invalidDigit
  else
    let next := n * 10 + (c.toNat - '0'.toNat)
    if next < bound then .ok next else .error .tooLarge

theorem countStep_of_isDigit {c : Char} (hc : c.isDigit = true) : countStep bound n c =
    if n * 10 + (c.toNat - '0'.toNat) < bound then .ok (n * 10 + (c.toNat - '0'.toNat))
    else .error .tooLarge := by
  rw [countStep, hc]
  rfl

/-- The bound is met on the way if it is met at the end, as the count only grows. -/
theorem foldlM_countStep (hm : m < bound) : cs.foldlM (countStep bound) m = .ok n ↔
    (∀ c ∈ cs, c.isDigit = true) ∧ Nat.ofDigitChars 10 cs m = n ∧ n < bound := by
  induction cs generalizing m with
  | nil =>
    simp only [List.foldlM_nil, Nat.ofDigitChars_nil, List.not_mem_nil, false_implies, implies_true,
      true_and]
    constructor
    · rintro ⟨⟩
      exact ⟨rfl, hm⟩
    · rintro ⟨rfl, -⟩
      rfl
  | cons c rest ih =>
    rw [List.foldlM_cons, bind_eq_ok, Nat.ofDigitChars_cons, List.forall_mem_cons, Nat.mul_comm 10]
    by_cases hc : c.isDigit = true
    · rw [countStep_of_isDigit hc]
      generalize m * 10 + (c.toNat - '0'.toNat) = next
      have hgrows := le_ofDigitChars rest next
      by_cases hnext : next < bound
      · simp [hc, hnext, ih hnext]
      · simp only [hnext, if_false, reduceCtorEq, false_and, exists_false, false_iff]
        omega
    · simp [countStep, hc]

theorem readCount_eq_ok_iff (hbound : 0 < bound) :
    readCount bound s = .ok n ↔ CountNumeral s.toList n ∧ n < bound := by
  have hread (ds : List Char) : (if ds.isEmpty then .error .invalidDigit
      else ds.foldlM (countStep bound) 0) = Except.ok n ↔ Numeral ds n ∧ n < bound := by
    by_cases hds : ds = []
    · subst hds
      simpa using fun h : Numeral [] n => absurd rfl h.ne_nil
    · simp only [List.isEmpty_iff, hds, if_false, foldlM_countStep hbound]
      constructor
      · rintro ⟨hdigits, hvalue, hlt⟩
        exact ⟨⟨hds, hdigits, (natOfDigits_eq ds).trans hvalue⟩, hlt⟩
      · rintro ⟨h, hlt⟩
        exact ⟨h.digits, (natOfDigits_eq ds).symm.trans h.value, hlt⟩
  unfold readCount
  split
  · rename_i rest hs
    refine (hread rest).trans (and_congr_left fun _ => ?_)
    rw [hs]
    constructor
    · exact .plus
    · rintro (h | h)
      · exact absurd (h.digits '+' List.mem_cons_self) (by decide)
      · exact h
  · rename_i hplain
    refine (hread s.toList).trans (and_congr_left fun _ => ?_)
    constructor
    · exact .plain
    · generalize s.toList = cs at *
      rintro (h | h)
      · exact h
      · exact absurd rfl (hplain _)

/-! ### Variables -/

/-- The variable is absent or blank. -/
def IsUnset (env : Environment) (name : String) : Prop := ∀ s ∈ env name, AllBlank s.toList

/-- The variable has a text, which is this one with blanks around it. -/
def IsSet (env : Environment) (name t : String) : Prop :=
  ∃ s ∈ env name, ¬ AllBlank s.toList ∧ trim s = t

namespace WorkerConfig

variable {env env' : Environment} {key : String} {α ε : Type} {reader : String → Except ε α}

/-- The variables that the worker reads. -/
def variableNames : List String :=
  ["DATABASE_URL", "STAGE", "BILLING_CURRENCY", "INVOICE_PREFIX", "INVOICE_FORMAT",
    "INVOICE_DUE_DAYS", "PROCESS_INTERVAL_SECS", "PROCESS_DATE"]

theorem value?_eq_none_iff : value? env key = none ↔ IsUnset env key := by
  rw [value?, IsUnset]
  cases env key with
  | none => simp
  | some s => simp [nonBlank?_eq_none_iff]

theorem value?_eq_some_iff : value? env key = some t ↔ IsSet env key t := by
  rw [value?, IsSet]
  cases env key with
  | none => simp
  | some s => simp [nonBlank?_eq_some_iff]

theorem not_allBlank_of_value? (h : value? env key = some t) : ¬ AllBlank t.toList := by
  obtain ⟨s, -, hs⟩ := Option.bind_eq_some_iff.mp h
  exact not_allBlank_of_nonBlank? hs

theorem readVariable_eq_error_iff {e : ε} :
    readVariable env key reader = .error e ↔ ∃ t, IsSet env key t ∧ reader t = .error e := by
  simp only [readVariable, ← value?_eq_some_iff]
  cases value? env key with
  | none => simp
  | some t =>
    cases h : reader t with
    | error e => simp [Except.map, h]
    | ok a => simp [Except.map, h]

/-- The variables whose text may stop the worker. -/
inductive Checked where
  | databaseUrl
  | invoiceDueDays
  | processInterval
  | processDate

namespace Checked

/-- In the order in which they are read. -/
def all : List Checked := [databaseUrl, invoiceDueDays, processInterval, processDate]

def name : Checked → String
  | databaseUrl => "DATABASE_URL"
  | invoiceDueDays => "INVOICE_DUE_DAYS"
  | processInterval => "PROCESS_INTERVAL_SECS"
  | processDate => "PROCESS_DATE"

/-- The URL is missing, or one of the others has a text which is not of its kind. -/
def Offends (env : Environment) : Checked → Prop
  | databaseUrl => IsUnset env "DATABASE_URL"
  | invoiceDueDays => ∃ t, IsSet env "INVOICE_DUE_DAYS" t ∧
      ∀ n < 4294967296, ¬ CountNumeral t.toList n
  | processInterval => ∃ t, IsSet env "PROCESS_INTERVAL_SECS" t ∧
      ∀ n < 18446744073709551616, ¬ CountNumeral t.toList n
  | processDate => ∃ t, IsSet env "PROCESS_DATE" t ∧ ∀ d, ¬ Date.Spelling false d t.toList

end Checked

theorem exists_readCount_error_iff (hbound : 0 < bound) :
    (∃ e, readVariable env key (readCount bound) = .error e) ↔
      ∃ t, IsSet env key t ∧ ∀ n < bound, ¬ CountNumeral t.toList n := by
  have hcount (t : String) : (∃ e, readCount bound t = .error e) ↔
      ∀ n < bound, ¬ CountNumeral t.toList n := by
    simp only [exists_error_iff, ne_eq, readCount_eq_ok_iff hbound, not_and']
  simp only [readVariable_eq_error_iff, exists_comm (α := CountFault), exists_and_left, hcount]

theorem exists_readDate_error_iff :
    (∃ e, readVariable env key (fun s => Date.read false s.toList) = .error e) ↔
      ∃ t, IsSet env key t ∧ ∀ d, ¬ Date.Spelling false d t.toList := by
  have hdate (t : String) : (∃ e, Date.read false t.toList = .error e) ↔
      ∀ d, ¬ Date.Spelling false d t.toList := by
    simp only [exists_error_iff, ne_eq, Date.read_eq_ok_iff]
  simp only [readVariable_eq_error_iff, exists_comm (α := Date.Fault), exists_and_left, hdate]

/-! ### The loader -/

def dueDays (env : Environment) : Except CountFault (Option Nat) :=
  readVariable env "INVOICE_DUE_DAYS" (readCount 4294967296)

def interval (env : Environment) : Except CountFault (Option Nat) :=
  readVariable env "PROCESS_INTERVAL_SECS" (readCount 18446744073709551616)

def processDate (env : Environment) : Except Date.Fault (Option Date) :=
  readVariable env "PROCESS_DATE" fun s => Date.read false s.toList

/-- The configuration, once the checked variables have been read. -/
def loaded (env : Environment) (url : String) (dueDays seconds : Option Nat) (date : Option Date) :
    WorkerConfig where
  stage := ((value? env "STAGE").bind fun s => (Stage.read s).toOption).getD default
  databaseUrl := url
  billing :=
    let d : BillingSettings := {}
    { currency := ((value? env "BILLING_CURRENCY").map upperAscii).getD d.currency
      invoicePrefix := (value? env "INVOICE_PREFIX").getD d.invoicePrefix
      invoiceFormat := (value? env "INVOICE_FORMAT").getD d.invoiceFormat
      invoiceDueDays := dueDays.getD d.invoiceDueDays }
  intervalSeconds := (seconds.filter (0 < ·)).getD daySeconds
  date := date

theorem read_eq (env : Environment) : read env =
    match value? env "DATABASE_URL", dueDays env, interval env, processDate env with
    | none, _, _, _ => .error .database
    | some _, .error fault, _, _ => .error (.dueDays fault)
    | some _, .ok _, .error fault, _ => .error (.interval fault)
    | some _, .ok _, .ok _, .error fault => .error (.date fault)
    | some url, .ok days, .ok seconds, .ok date => .ok (loaded env url days seconds date) := by
  simp only [read, readBilling, readInterval, dueDays, interval, processDate]
  cases value? env "DATABASE_URL" with
  | none => rfl
  | some url =>
    cases readVariable env "INVOICE_DUE_DAYS" (readCount 4294967296) with
    | error fault => rfl
    | ok days =>
      cases readVariable env "PROCESS_INTERVAL_SECS" (readCount 18446744073709551616) with
      | error fault => rfl
      | ok seconds =>
        cases readVariable env "PROCESS_DATE" fun s => Date.read false s.toList with
        | error fault => rfl
        | ok date => rfl

theorem Checked.offends_databaseUrl :
    Offends env databaseUrl ↔ value? env "DATABASE_URL" = none :=
  value?_eq_none_iff.symm

theorem Checked.offends_invoiceDueDays :
    Offends env invoiceDueDays ↔ ∃ fault, dueDays env = .error fault :=
  (exists_readCount_error_iff (by decide)).symm

theorem Checked.offends_processInterval :
    Offends env processInterval ↔ ∃ fault, interval env = .error fault :=
  (exists_readCount_error_iff (by decide)).symm

theorem Checked.offends_processDate :
    Offends env Checked.processDate ↔ ∃ fault, WorkerConfig.processDate env = .error fault :=
  exists_readDate_error_iff.symm

theorem read_eq_ok_iff {c : WorkerConfig} : read env = .ok c ↔
    ∃ url days seconds date, value? env "DATABASE_URL" = some url ∧ dueDays env = .ok days ∧
      interval env = .ok seconds ∧ processDate env = .ok date ∧
      loaded env url days seconds date = c := by
  rw [read_eq]
  cases value? env "DATABASE_URL" with
  | none => simp
  | some url =>
    cases dueDays env with
    | error fault => simp
    | ok days =>
      cases interval env with
      | error fault => simp
      | ok seconds => cases processDate env <;> simp

theorem offends_none_iff : (∀ v, ¬ Checked.Offends env v) ↔
    (∃ url, value? env "DATABASE_URL" = some url) ∧ (∃ days, dueDays env = .ok days) ∧
      (∃ seconds, interval env = .ok seconds) ∧ ∃ date, processDate env = .ok date := by
  have hok {α ε : Type} (x : Except ε α) : (¬ ∃ e, x = .error e) ↔ ∃ a, x = .ok a := by
    rw [exists_error_iff]
    exact not_forall_not
  rw [← hok, ← hok, ← hok, ← Option.ne_none_iff_exists', ← Checked.offends_invoiceDueDays,
    ← Checked.offends_processInterval, ← Checked.offends_processDate, Ne,
    ← Checked.offends_databaseUrl]
  exact ⟨fun h => ⟨h _, h _, h _, h _⟩, fun ⟨h, h', h'', h'''⟩ v => by cases v <;> assumption⟩

theorem exists_read_ok_iff : (∃ c, read env = .ok c) ↔ ∀ v, ¬ Checked.Offends env v := by
  rw [offends_none_iff]
  constructor
  · rintro ⟨c, hc⟩
    obtain ⟨url, days, seconds, date, hurl, hdays, hseconds, hdate, -⟩ := read_eq_ok_iff.mp hc
    exact ⟨⟨url, hurl⟩, ⟨days, hdays⟩, ⟨seconds, hseconds⟩, date, hdate⟩
  · rintro ⟨⟨url, hurl⟩, ⟨days, hdays⟩, ⟨seconds, hseconds⟩, date, hdate⟩
    exact ⟨_, read_eq_ok_iff.mpr ⟨url, days, seconds, date, hurl, hdays, hseconds, hdate, rfl⟩⟩

/-- The error names the first of the checked variables that offends. -/
theorem exists_first_of_error {e : ConfigError} (h : read env = .error e) :
    ∃ before v after, Checked.all = before ++ v :: after ∧
      (∀ w ∈ before, ¬ Checked.Offends env w) ∧ Checked.Offends env v ∧
      ∃ rest, e.message = v.name ++ " is invalid" ++ rest := by
  rw [read_eq] at h
  cases hurl : value? env "DATABASE_URL" with
  | none =>
    rw [hurl] at h
    cases h
    exact ⟨[], .databaseUrl, _, rfl, nofun, Checked.offends_databaseUrl.mpr hurl, "", rfl⟩
  | some url =>
    have hgiven : ¬ Checked.Offends env .databaseUrl := by
      rw [Checked.offends_databaseUrl, hurl]
      exact nofun
    cases hdays : dueDays env with
    | error fault =>
      rw [hurl, hdays] at h
      cases h
      exact ⟨[.databaseUrl], .invoiceDueDays, _, rfl, by simpa using hgiven,
        Checked.offends_invoiceDueDays.mpr ⟨fault, hdays⟩, "", rfl⟩
    | ok days =>
      have hcounted : ¬ Checked.Offends env .invoiceDueDays := by
        rw [Checked.offends_invoiceDueDays, hdays]
        exact nofun
      cases hseconds : interval env with
      | error fault =>
        rw [hurl, hdays, hseconds] at h
        cases h
        exact ⟨[.databaseUrl, .invoiceDueDays], .processInterval, _, rfl,
          by simpa using ⟨hgiven, hcounted⟩,
          Checked.offends_processInterval.mpr ⟨fault, hseconds⟩, "", rfl⟩
      | ok seconds =>
        have htimed : ¬ Checked.Offends env .processInterval := by
          rw [Checked.offends_processInterval, hseconds]
          exact nofun
        cases hdate : processDate env with
        | error fault =>
          rw [hurl, hdays, hseconds, hdate] at h
          cases h
          exact ⟨[.databaseUrl, .invoiceDueDays, .processInterval], .processDate, _, rfl,
            by simpa using ⟨hgiven, hcounted, htimed⟩,
            Checked.offends_processDate.mpr ⟨fault, hdate⟩, ", expected YYYY-MM-DD", rfl⟩
        | ok date =>
          rw [hurl, hdays, hseconds, hdate] at h
          cases h

theorem not_allBlank_getD {d : String} (hd : ¬ AllBlank d.toList) :
    ¬ AllBlank ((value? env key).getD d).toList := by
  cases h : value? env key with
  | none => exact hd
  | some t => exact not_allBlank_of_value? h

theorem usable_of_read {c : WorkerConfig} (h : read env = .ok c) :
    1 ≤ c.intervalSeconds ∧ ¬ AllBlank c.databaseUrl.toList ∧
      ¬ AllBlank c.billing.invoicePrefix.toList ∧ ¬ AllBlank c.billing.invoiceFormat.toList := by
  obtain ⟨url, days, seconds, date, hurl, -, -, -, rfl⟩ := read_eq_ok_iff.mp h
  refine ⟨?_, not_allBlank_of_value? hurl, not_allBlank_getD ?_, not_allBlank_getD ?_⟩
  · change 1 ≤ (seconds.filter (0 < ·)).getD daySeconds
    cases hseconds : seconds.filter (0 < ·) with
    | none => decide
    | some n => exact Nat.succ_le_of_lt (by simpa using (Option.filter_eq_some_iff.mp hseconds).2)
  · intro hblank
    exact absurd (hblank 'I' (by simp)) (by decide)
  · intro hblank
    exact absurd (hblank '#' (by simp)) (by decide)

theorem read_congr (h : ∀ key ∈ variableNames, value? env key = value? env' key) :
    read env = read env' := by
  simp only [variableNames, List.forall_mem_cons] at h
  obtain ⟨hurl, hstage, hcurrency, hlabel, hformat, hdays, hseconds, hdate, -⟩ := h
  simp only [read, readBilling, readInterval, readVariable, hurl, hstage, hcurrency, hlabel,
    hformat, hdays, hseconds, hdate]

theorem value?_update (text : Option String) (h : key ≠ "STAGE") :
    value? (Function.update env "STAGE" text) key = value? env key := by
  rw [value?, value?, Function.update_of_ne h]

/-- Setting the stage touches nothing else of what is read. -/
theorem read_update_stage (env : Environment) (text : Option String) :
    ∃ st, read (Function.update env "STAGE" text) =
      (read env).map fun c => { c with stage := st } := by
  have hdays : dueDays (Function.update env "STAGE" text) = dueDays env := by
    simp only [dueDays, readVariable, value?_update text (show "INVOICE_DUE_DAYS" ≠ _ by decide)]
  have hseconds : interval (Function.update env "STAGE" text) = interval env := by
    simp only [interval, readVariable,
      value?_update text (show "PROCESS_INTERVAL_SECS" ≠ _ by decide)]
  have hdate : processDate (Function.update env "STAGE" text) = processDate env := by
    simp only [processDate, readVariable, value?_update text (show "PROCESS_DATE" ≠ _ by decide)]
  refine ⟨((value? (Function.update env "STAGE" text) "STAGE").bind fun s =>
    (Stage.read s).toOption).getD default, ?_⟩
  rw [read_eq, read_eq, hdays, hseconds, hdate, value?_update text (by decide)]
  cases value? env "DATABASE_URL" with
  | none => rfl
  | some url =>
    cases dueDays env with
    | error fault => rfl
    | ok days =>
      cases interval env with
      | error fault => rfl
      | ok seconds =>
        cases processDate env with
        | error fault => rfl
        | ok date =>
          simp only [Except.map, loaded, value?_update text (show "BILLING_CURRENCY" ≠ _ by decide),
            value?_update text (show "INVOICE_PREFIX" ≠ _ by decide),
            value?_update text (show "INVOICE_FORMAT" ≠ _ by decide)]

/-- The words that a stage may be set to, in letters of either case. -/
def stageWords : List String := ["local", "development", "dev", "production", "prod"]

theorem stage_of_unknown {c : WorkerConfig} (h : read env = .ok c) (ht : IsSet env "STAGE" t)
    (hunknown : lowerAscii t ∉ stageWords) : c.stage = default := by
  obtain ⟨url, days, seconds, date, -, -, -, -, rfl⟩ := read_eq_ok_iff.mp h
  have htrim : trim t = t := by
    obtain ⟨s, -, -, rfl⟩ := ht
    exact trim_eq_iff.mpr ⟨bareEnds_trim s, [], [], nofun, nofun, by simp⟩
  have hread : (Stage.read t).toOption = none := by
    rw [Stage.read, htrim]
    split
    all_goals simp_all [stageWords, Except.toOption]
  change ((value? env "STAGE").bind fun s => (Stage.read s).toOption).getD default = default
  rw [value?_eq_some_iff.mpr ht, Option.bind_some, hread]
  rfl

/-- What the worker does with an environment. -/
structure Judges (env : Environment) : Prop where
  /-- It takes the environments in which none of the checked variables offends. -/
  accepted : (∃ c, read env = .ok c) ↔ ∀ v, ¬ Checked.Offends env v
  /-- It names the first variable that does. -/
  refused : ∀ e, read env = .error e → ∃ before v after, Checked.all = before ++ v :: after ∧
    (∀ w ∈ before, ¬ Checked.Offends env w) ∧ Checked.Offends env v ∧
    ∃ rest, e.message = v.name ++ " is invalid" ++ rest
  usable : ∀ c, read env = .ok c → 1 ≤ c.intervalSeconds ∧ ¬ AllBlank c.databaseUrl.toList ∧
    ¬ AllBlank c.billing.invoicePrefix.toList ∧ ¬ AllBlank c.billing.invoiceFormat.toList
  /-- Blanks make no difference, and a blank variable is as good as an absent one. -/
  blanks : ∀ env' : Environment,
    (∀ key ∈ variableNames, SameSetting (env key) (env' key)) → read env = read env'
  /-- Whatever the stage is set to, nothing but the stage depends on it. -/
  anyStage : ∀ text, ∃ st, read (Function.update env "STAGE" text) =
    (read env).map fun c => { c with stage := st }
  unknownStage : ∀ c t, read env = .ok c → IsSet env "STAGE" t → lowerAscii t ∉ stageWords →
    c.stage = default

theorem read_judges (env : Environment) : Judges env where
  accepted := exists_read_ok_iff
  refused := fun _ => exists_first_of_error
  usable := fun _ => usable_of_read
  blanks := fun _ h => read_congr fun key hkey => bind_nonBlank?_congr (h key hkey)
  anyStage := read_update_stage env
  unknownStage := fun _ _ => stage_of_unknown

end WorkerConfig

end RecurringBilling
