import Mathlib.Data.List.Basic
import RecurringBilling.Proofs.Sql.Readings

/-! What is sent in a transaction. However its statements are answered, they stand between a begin
and what closes it, and it is committed if and only if each of them came to a good end. -/

namespace RecurringBilling

/-- Whether the request takes a transaction. -/
def Request.isTransactional : Request → Bool
  | upsertFeature _ | upsertPackage _ | syncFeatures .. | createSubscription ..
  | switchPlan .. => true
  | _ => false

namespace Sql

/-- The rows that come back, none if nothing else is in store; an error brings no answer. -/
def answerOf : Option Reply → Option (List ResultRow)
  | some (.rows rows _) => some (rows.map ResultRow.received)
  | some (.error _) => none
  | _ => some []

namespace Statement

/-- The columns that come back. -/
def returned : Statement → List Ref
  | select s => s.selected.filterMap fun
    | .column c => some c
    | _ => none
  | update u => u.returning
  | insert i => i.returning

/-- What changes a row and returns it has to come back with one. -/
def needsRow : Statement → Bool
  | select _ => false
  | update u => !u.returning.isEmpty
  | insert i => !i.returning.isEmpty

/-- Whether the reply is no error, has a row where one is needed, and a first row that can be read
if there is one. -/
def SatisfiedBy (s : Statement) (reply : Option Reply) : Prop :=
  ∃ rows, answerOf reply = some rows ∧ (s.needsRow = true → rows ≠ []) ∧
    ∀ r ∈ rows.head?, ∀ c ∈ s.returned, c.IsReadable r

end Statement

/-- Whether each statement is satisfied by the reply in its place. -/
def AllSatisfied (data : List Statement) (replies : List Reply) : Prop :=
  ∀ (k : Nat) (s : Statement), data[k]? = some s → s.SatisfiedBy replies[k]?

/-- Whether the begin of a transaction does not fail. -/
def Opens (replies : List Reply) : Prop := ∀ message, replies.head? ≠ some (.beginFails message)

/-- Whether a commit does not fail. -/
def Commits (replies : List Reply) : Prop := ∀ message, replies.head? ≠ some (.commitFails message)

/-- What a transaction with the given replies sends, which of it are its own statements, and
whether it comes to a good end. -/
structure Bracketed (replies : List Reply) (sent : List Sent) (data : List Statement)
    (isOk : Bool) : Prop where
  begins : sent.head? = some .begin
  unopened : ¬ Opens replies → sent = [.begin] ∧ data = []
  opened : Opens replies → ∃ closing ∈ [[.commit], [.commit, .rollback], [.rollback]],
    sent = .begin :: (data.map .statement ++ closing)
  stops : ∀ (k : Nat) (s : Statement), data[k]? = some s → ¬ s.SatisfiedBy replies[k]? →
    k + 1 = data.length
  commits : .commit ∈ sent ↔ Opens replies ∧ AllSatisfied data replies
  rollsBack : Opens replies → ¬ AllSatisfied data replies → .rollback ∈ sent
  succeeds : isOk = true ↔ .commit ∈ sent ∧ Commits (replies.drop data.length)

variable {α β : Type} {s : Statement} {data data' : List Statement} {replies : List Reply}

theorem opens_iff : Opens replies ↔ replies.head?.bind Reply.beginRefusal? = none := by
  cases replies with
  | nil => simp [Opens]
  | cons reply rest => cases reply <;> simp [Opens, Reply.beginRefusal?]

theorem commits_iff : Commits replies ↔ replies.head?.bind Reply.commitRefusal? = none := by
  cases replies with
  | nil => simp [Commits]
  | cons reply rest => cases reply <;> simp [Commits, Reply.commitRefusal?]

theorem allSatisfied_nil (replies : List Reply) : AllSatisfied [] replies := by
  simp [AllSatisfied]

theorem allSatisfied_singleton : AllSatisfied [s] replies ↔ s.SatisfiedBy replies[0]? := by
  constructor
  · intro h
    exact h 0 s rfl
  · intro h k s' hs
    cases k with
    | zero =>
      obtain rfl : s = s' := Option.some.inj hs
      exact h
    | succ k => simp at hs

theorem allSatisfied_append : AllSatisfied (data ++ data') replies ↔
    AllSatisfied data replies ∧ AllSatisfied data' (replies.drop data.length) := by
  constructor
  · intro h
    refine ⟨fun k s hs => h k s ?_, fun k s hs => ?_⟩
    · rw [List.getElem?_append_left (List.getElem?_eq_some_iff.mp hs).1, hs]
    · rw [List.getElem?_drop]
      refine h (data.length + k) s ?_
      rw [List.getElem?_append_right (Nat.le_add_right _ _), Nat.add_sub_cancel_left, hs]
  · rintro ⟨h, h'⟩ k s hs
    rcases Nat.lt_or_ge k data.length with hk | hk
    · rw [List.getElem?_append_left hk] at hs
      exact h k s hs
    · rw [List.getElem?_append_right hk] at hs
      have hsatisfied := h' _ s hs
      rwa [List.getElem?_drop, Nat.add_sub_cancel' hk] at hsatisfied

/-- Whether the last statement is the first that is not satisfied. -/
def BreaksOff (data : List Statement) (replies : List Reply) : Prop :=
  ∃ earlier last, data = earlier ++ [last] ∧ AllSatisfied earlier replies ∧
    ¬ last.SatisfiedBy replies[earlier.length]?

theorem BreaksOff.not_allSatisfied (h : BreaksOff data replies) : ¬ AllSatisfied data replies := by
  obtain ⟨earlier, last, rfl, _, hlast⟩ := h
  intro hall
  exact hlast (hall earlier.length last (by simp))

theorem BreaksOff.stops (h : BreaksOff data replies) {k : Nat} (hs : data[k]? = some s)
    (hnot : ¬ s.SatisfiedBy replies[k]?) : k + 1 = data.length := by
  obtain ⟨earlier, last, rfl, hearlier, _⟩ := h
  have hk : k < earlier.length + 1 := by simpa using (List.getElem?_eq_some_iff.mp hs).1
  have hge : ¬ k < earlier.length := by
    intro hlt
    rw [List.getElem?_append_left hlt] at hs
    exact hnot (hearlier k s hs)
  rw [List.length_append, List.length_singleton]
  omega

section

variable (hopens : Opens replies)

include hopens

theorem bracketed_rollback (h : BreaksOff data replies) :
    Bracketed replies (.begin :: (data.map .statement ++ [.rollback])) data false where
  begins := rfl
  unopened hnot := absurd hopens hnot
  opened _ := ⟨[.rollback], by simp, rfl⟩
  stops k s hs hnot := h.stops hs hnot
  commits := by simp [h.not_allSatisfied]
  rollsBack _ _ := by simp
  succeeds := by simp

variable (h : AllSatisfied data replies)

include h

/-- Whatever comes of the commit. -/
theorem bracketed_commit {closing : List Sent} {isOk : Bool}
    (hclosing : closing = [.commit] ∨ closing = [.commit, .rollback])
    (hok : isOk = true ↔ Commits (replies.drop data.length)) :
    Bracketed replies (.begin :: (data.map .statement ++ closing)) data isOk where
  begins := rfl
  unopened hnot := absurd hopens hnot
  opened _ := ⟨closing, by rcases hclosing with rfl | rfl <;> simp, rfl⟩
  stops k s hs hnot := absurd (h k s hs) hnot
  commits := by rcases hclosing with rfl | rfl <;> simp [hopens, h]
  rollsBack _ hnot := absurd h hnot
  succeeds := by rcases hclosing with rfl | rfl <;> simp [hok]

end

theorem bracketed_unopened (h : ¬ Opens replies) : Bracketed replies [.begin] [] false where
  begins := rfl
  unopened _ := ⟨rfl, rfl⟩
  opened hopens := absurd hopens h
  stops k s hs := by simp at hs
  commits := by simp [h]
  rollsBack hopens := absurd hopens h
  succeeds := by simp

/-- How a conversation ends goes by the statements that it sent. -/
def Ends (data : List Statement) (replies : List Reply) : Except Refusal α → Prop
  | .ok _ => AllSatisfied data replies
  | .error _ => BreaksOff data replies

/-- The exchange after some statements, a reply having been taken for each. -/
def Exchange.after (x : Exchange) (data : List Statement) : Exchange :=
  { x with
    sent := (data.map Sent.statement).reverse ++ x.sent
    replies := x.replies.drop data.length }

theorem Exchange.after_append (x : Exchange) (data data' : List Statement) :
    x.after (data ++ data') = (x.after data).after data' := by
  simp [after, List.drop_drop]

namespace Talk

def outcome (t : Talk α) (x : Exchange) : Except Refusal α × Exchange := t.run.run x

theorem outcome_bind (t : Talk α) (f : α → Talk β) (x : Exchange) :
    (t >>= f).outcome x = match t.outcome x with
      | (.ok a, x) => (f a).outcome x
      | (.error e, x) => (.error e, x) := by
  unfold outcome
  rw [ExceptT.run_bind, StateT.run_bind]
  obtain ⟨result, x'⟩ := t.run.run x
  cases result <;> rfl

theorem outcome_pure (a : α) (x : Exchange) : (pure a : Talk α).outcome x = (.ok a, x) := rfl

theorem outcome_get (x : Exchange) : (get : Talk Exchange).outcome x = (.ok x, x) := rfl

theorem outcome_send (s : Sent) (x : Exchange) :
    (send s).outcome x = (.ok (), { x with sent := s :: x.sent }) := rfl

theorem outcome_reading (r : Cells.Reading α) (x : Exchange) :
    (reading r).outcome x = (r.mapError .error, x) := by
  cases r <;> rfl

theorem outcome_execute (s : Statement) (x : Exchange) :
    ∃ result, (execute s).outcome x = (result, x.after [s]) ∧
      match answerOf x.replies[0]? with
      | some rows => ∃ n, result = .ok (rows, n)
      | none => ∃ e, result = .error e := by
  obtain ⟨clock, replies, sent⟩ := x
  cases replies with
  | nil => exact ⟨_, rfl, 0, rfl⟩
  | cons reply rest =>
    cases reply with
    | rows rows affected => exact ⟨_, rfl, affected, rfl⟩
    | error message => exact ⟨_, rfl, _, rfl⟩
    | beginFails message => exact ⟨_, rfl, 0, rfl⟩
    | commitFails message => exact ⟨_, rfl, 0, rfl⟩

theorem outcome_orRollback (work : Talk α) (x : Exchange) :
    (orRollback work).outcome x = match work.outcome x with
      | (.ok a, x) => (.ok a, x)
      | (.error e, x) => (.error e, { x with sent := .rollback :: x.sent }) := by
  cases h : work.outcome x with
  | mk result x' =>
    have h : StateT.run (work : StateM Exchange (Except Refusal α)) x = (result, x') := h
    simp only [outcome, orRollback, tryCatch, tryCatchThe, MonadExceptOf.tryCatch,
      ExceptT.tryCatch, ExceptT.run_mk, StateT.run_bind, h]
    cases result <;> rfl

/-- Whether the conversation sends statements as long as each is satisfied, and gives up with the
first that is not. -/
def Orderly (t : Talk α) : Prop :=
  ∀ x, ∃ data, (t.outcome x).2 = x.after data ∧ Ends data x.replies (t.outcome x).1

theorem orderly_pure (a : α) : Orderly (pure a) :=
  fun x => ⟨[], by simp [outcome_pure, Exchange.after], allSatisfied_nil _⟩

theorem Orderly.bind {t : Talk α} {f : α → Talk β} (ht : Orderly t) (hf : ∀ a, Orderly (f a)) :
    Orderly (t >>= f) := by
  intro x
  obtain ⟨data, hx, hends⟩ := ht x
  cases h : t.outcome x with
  | mk result x' =>
  rw [h] at hx hends
  obtain rfl : x' = x.after data := hx
  rw [outcome_bind, h]
  cases result with
  | error e => exact ⟨data, rfl, hends⟩
  | ok a =>
    obtain ⟨data', hx', hends'⟩ := hf a (x.after data)
    refine ⟨data ++ data', by rw [Exchange.after_append]; exact hx', ?_⟩
    dsimp only at hends' ⊢
    cases hresult : ((f a).outcome (x.after data)).1 with
    | ok b =>
      rw [hresult] at hends'
      exact allSatisfied_append.mpr ⟨hends, hends'⟩
    | error e =>
      rw [hresult] at hends'
      obtain ⟨earlier, last, rfl, hearlier, hlast⟩ := hends'
      refine ⟨data ++ earlier, last, by simp, allSatisfied_append.mpr ⟨hends, hearlier⟩, ?_⟩
      rw [List.length_append, ← List.getElem?_drop]
      exact hlast

/-- A conversation of one statement, which goes on if that is satisfied. -/
theorem orderly_of_statement {t : Talk α} (h : ∀ x, (t.outcome x).2 = x.after [s] ∧
    (s.SatisfiedBy x.replies[0]? ↔ ∃ a, (t.outcome x).1 = .ok a)) : Orderly t := by
  intro x
  obtain ⟨hx, hiff⟩ := h x
  refine ⟨[s], hx, ?_⟩
  cases hresult : (t.outcome x).1 with
  | ok a => exact allSatisfied_singleton.mpr (hiff.mpr ⟨a, hresult⟩)
  | error e =>
    refine ⟨[], s, rfl, allSatisfied_nil _, fun hs => ?_⟩
    obtain ⟨a, ha⟩ := hiff.mp hs
    rw [hresult] at ha
    cases ha

theorem orderly_affected (hneeds : s.needsRow = false) (hreturned : s.returned = []) :
    Orderly (affected s) := by
  refine orderly_of_statement (s := s) fun x => ?_
  obtain ⟨result, hx, hresult⟩ := outcome_execute s x
  rw [affected, outcome_bind, hx]
  cases hrows : answerOf x.replies[0]? with
  | none =>
    rw [hrows] at hresult
    obtain ⟨e, rfl⟩ := hresult
    simp [Statement.SatisfiedBy, hrows]
  | some rows =>
    rw [hrows] at hresult
    obtain ⟨n, rfl⟩ := hresult
    simp [Statement.SatisfiedBy, hrows, hneeds, hreturned, outcome_pure]

theorem outcome_row? (s : Statement) (read : ResultRow → Cells.Reading α) (x : Exchange) :
    ∃ result, (row? s read).outcome x = (result, x.after [s]) ∧
      match answerOf x.replies[0]? with
      | none => ∃ e, result = .error e
      | some [] => result = .ok none
      | some (r :: _) => result = ((read r).mapError .error).map some := by
  obtain ⟨result, hx, hresult⟩ := outcome_execute s x
  rw [row?, outcome_bind, hx]
  cases hrows : answerOf x.replies[0]? with
  | none =>
    rw [hrows] at hresult
    obtain ⟨e, rfl⟩ := hresult
    exact ⟨_, rfl, e, rfl⟩
  | some rows =>
    rw [hrows] at hresult
    obtain ⟨n, rfl⟩ := hresult
    cases rows with
    | nil => exact ⟨_, rfl, rfl⟩
    | cons r rest =>
      dsimp only
      rw [outcome_bind, outcome_reading]
      cases hread : read r with
      | ok a => exact ⟨_, rfl, rfl⟩
      | error e => exact ⟨_, rfl, rfl⟩

section

variable {read : ResultRow → Cells.Reading α}
  (hread : ∀ r, (∃ a, read r = .ok a) ↔ ∀ c ∈ s.returned, c.IsReadable r)

include hread

/-- The first row is read, and what is made of it or of its absence does not go to the database. -/
theorem orderly_row?_bind {f : Option α → Talk β} {absent : Except Refusal β}
    (hsome : ∀ a, ∃ b, ∀ x, (f (some a)).outcome x = (.ok b, x))
    (hnone : ∀ x, (f none).outcome x = (absent, x))
    (habsent : (∃ b, absent = .ok b) ↔ s.needsRow = false) : Orderly (row? s read >>= f) := by
  refine orderly_of_statement (s := s) fun x => ?_
  obtain ⟨result, hx, hresult⟩ := outcome_row? s read x
  rw [outcome_bind, hx]
  cases hrows : answerOf x.replies[0]? with
  | none =>
    rw [hrows] at hresult
    obtain ⟨e, rfl⟩ := hresult
    simp [Statement.SatisfiedBy, hrows]
  | some rows =>
    rw [hrows] at hresult
    cases rows with
    | nil =>
      subst hresult
      simp [Statement.SatisfiedBy, hrows, hnone, habsent]
    | cons r rest =>
      have hsatisfied : s.SatisfiedBy x.replies[0]? ↔ ∃ a, read r = .ok a := by
        simp [Statement.SatisfiedBy, hrows, hread r]
      rw [hsatisfied, hresult]
      cases read r with
      | error e => simp [Except.mapError, Except.map]
      | ok a =>
        obtain ⟨b, hb⟩ := hsome a
        simp [Except.mapError, Except.map, hb]

theorem orderly_row? (hneeds : s.needsRow = false) : Orderly (row? s read) := by
  rw [← bind_pure (row? s read)]
  exact orderly_row?_bind hread (fun a => ⟨some a, outcome_pure _⟩) (outcome_pure _)
    (by simp [hneeds])

theorem orderly_row (hneeds : s.needsRow = true) : Orderly (row s read) :=
  orderly_row?_bind hread (fun a => ⟨a, fun _ => rfl⟩) (fun _ => rfl) (by simp [hneeds])

end

/-- What begins or commits goes out in any case, and takes a reply only if that refuses it. -/
theorem outcome_control (s : Sent) (refusal? : Reply → Option String) (x : Exchange) :
    (control s refusal?).outcome x = match x.replies.head?.bind refusal? with
      | none => (.ok (), { x with sent := s :: x.sent })
      | some message => (.error (.error (.refused message)),
          { x with sent := s :: x.sent, replies := x.replies.tail }) := by
  rw [control, outcome_bind, outcome_send]
  dsimp only
  rw [outcome_bind, outcome_get]
  dsimp only
  cases x.replies.head?.bind refusal? <;> rfl

theorem outcome_transaction {work : Talk α} {x : Exchange} (hopens : Opens x.replies) :
    (transaction work).outcome x = match work.outcome { x with sent := .begin :: x.sent } with
      | (.error e, x) => (.error e, { x with sent := .rollback :: x.sent })
      | (.ok a, x) => match commit.outcome x with
        | (.error e, x) => (.error e, { x with sent := .rollback :: x.sent })
        | (.ok (), x) => (.ok a, x) := by
  rw [transaction, outcome_bind, begin, outcome_control, opens_iff.mp hopens]
  dsimp only
  rw [outcome_orRollback, outcome_bind]
  obtain ⟨result, worked⟩ := work.outcome { x with sent := .begin :: x.sent }
  cases result with
  | error e => rfl
  | ok a =>
    dsimp only
    rw [outcome_bind]
    obtain ⟨result, committed⟩ := commit.outcome worked
    cases result <;> rfl

/-- Work that is orderly is bracketed by its transaction. -/
theorem bracketed_transaction {work : Talk α} (hwork : Orderly work) (x : Exchange) :
    ∃ sent data, ((transaction work).outcome x).2.sent = sent.reverse ++ x.sent ∧
      Bracketed x.replies sent data ((transaction work).outcome x).1.isOk := by
  by_cases hopens : Opens x.replies
  case neg =>
    obtain ⟨message, hbegin⟩ := Option.ne_none_iff_exists'.mp (mt opens_iff.mpr hopens)
    rw [transaction, outcome_bind, begin, outcome_control, hbegin]
    exact ⟨[.begin], [], rfl, bracketed_unopened hopens⟩
  rw [outcome_transaction hopens]
  obtain ⟨data, hx, hends⟩ := hwork { x with sent := .begin :: x.sent }
  generalize work.outcome { x with sent := .begin :: x.sent } = worked at hx hends ⊢
  obtain ⟨result, x'⟩ := worked
  obtain rfl : x' = _ := hx
  cases result with
  | error e =>
    exact ⟨.begin :: (data.map .statement ++ [.rollback]), data, by simp [Exchange.after],
      bracketed_rollback hopens hends⟩
  | ok a =>
    have hreplies : (Exchange.after { x with sent := .begin :: x.sent } data).replies =
        x.replies.drop data.length := rfl
    dsimp only
    rw [commit, outcome_control, hreplies]
    cases hcommit : (x.replies.drop data.length).head?.bind Reply.commitRefusal? with
    | none =>
      have hcommits : Commits (x.replies.drop data.length) := commits_iff.mpr hcommit
      exact ⟨.begin :: (data.map .statement ++ [.commit]), data, by simp [Exchange.after],
        bracketed_commit hopens hends (.inl rfl) (iff_of_true rfl hcommits)⟩
    | some message =>
      have hcommits : ¬ Commits (x.replies.drop data.length) := fun hcommits =>
        Option.some_ne_none message (hcommit.symm.trans (commits_iff.mp hcommits))
      exact ⟨.begin :: (data.map .statement ++ [.commit, .rollback]), data, by
        simp [Exchange.after],
        bracketed_commit hopens hends (.inr rfl) (iff_of_false Bool.false_ne_true hcommits)⟩

end Talk

end Sql

end RecurringBilling
