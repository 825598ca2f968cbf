import ClusterOperator.Program

/-!
# Runs of programs

A run is one course of the conversation: the questions in their order, each with some answer, and
the result. Nothing is assumed about the answers, so what holds of every run holds in every world,
whatever fails there and whoever acts between two questions.

> **`runs_bind`** — a run of two programs in sequence is a run of the first followed by a run of the
> second.

That is all the structure there is. A statement about a program is proved along its text: one
question at a time, and at a sequence by splitting the run in two.
-/

set_option autoImplicit false

namespace ClusterOperator

/-- A question and its answer. The type of the answer depends on the question, so a turn cannot pair
a question with what does not answer it. -/
structure Turn {Question : Type} (Answer : Question → Type) where
  question : Question
  answer : Answer question

namespace Program

variable {Question : Type} {Answer : Question → Type} {α β : Type}

/-- That a program asks and is answered in a certain way, and ends with a certain result. Nothing is
asked of the answers: a run is one of all the ways in which the world may behave, and what holds of
every run holds in each of them. -/
inductive Runs : Program Question Answer α → List (Turn Answer) → α → Prop
  | done (a : α) : Runs (done a) [] a
  | ask {question : Question} {next : Answer question → Program Question Answer α}
      {trace : List (Turn Answer)} {a : α} (answer : Answer question)
      (rest : Runs (next answer) trace a) : Runs (ask question next) (⟨question, answer⟩ :: trace) a

variable {trace : List (Turn Answer)} {a b : α}

@[simp] theorem runs_done : Runs (done a : Program Question Answer α) trace b ↔
    trace = [] ∧ b = a := by
  constructor
  · rintro ⟨⟩
    exact ⟨rfl, rfl⟩
  · rintro ⟨rfl, rfl⟩
    exact .done b

@[simp] theorem runs_ask {question : Question}
    {next : Answer question → Program Question Answer α} :
    Runs (ask question next) trace b ↔
      ∃ answer rest, trace = ⟨question, answer⟩ :: rest ∧ Runs (next answer) rest b := by
  constructor
  · intro h
    cases h with
    | ask answer rest => exact ⟨answer, _, rfl, rest⟩
  · rintro ⟨answer, rest, rfl, h⟩
    exact .ask answer h

theorem runs_query {question : Question} {answer : Answer question} :
    Runs (query question) trace answer ↔ trace = [⟨question, answer⟩] := by
  unfold query
  simp only [runs_ask, runs_done]
  constructor
  · rintro ⟨_, rest, rfl, rfl, rfl⟩
    rfl
  · rintro rfl
    exact ⟨answer, [], rfl, rfl, rfl⟩

/-- **A run of a sequence is a run of its first part followed by a run of its second.** -/
theorem runs_bind {p : Program Question Answer α} {f : α → Program Question Answer β} {c : β} :
    Runs (p.bind f) trace c ↔
      ∃ before a after, trace = before ++ after ∧ Runs p before a ∧ Runs (f a) after c := by
  -- By the questions of the first program: each takes one turn off the front of the trace.
  induction p generalizing trace with
  | done a =>
    rw [bind_done]
    constructor
    · exact fun h => ⟨[], a, trace, rfl, .done a, h⟩
    · rintro ⟨_, _, after, rfl, ⟨⟩, h⟩
      exact h
  | ask question next ih =>
    rw [bind_ask, runs_ask]
    constructor
    · rintro ⟨answer, rest, rfl, h⟩
      obtain ⟨before, a, after, rfl, first, second⟩ := (ih answer).mp h
      exact ⟨_, a, after, rfl, .ask answer first, second⟩
    · rintro ⟨_, a, after, rfl, first, second⟩
      cases first with
      | ask answer first =>
        exact ⟨answer, _, rfl, (ih answer).mpr ⟨_, a, after, rfl, first, second⟩⟩

/-- **A run of a sequence that may fail either fails in its first part or is a run of both.** -/
theorem runs_bind_except {ε : Type} {p : ExceptT ε (Program Question Answer) α}
    {f : α → ExceptT ε (Program Question Answer) β} {r : Except ε β} :
    Runs (p >>= f).run trace r ↔
      (∃ e, r = .error e ∧ Runs p.run trace (.error e)) ∨
        ∃ before a after, trace = before ++ after ∧ Runs p.run before (.ok a) ∧
          Runs (f a).run after r := by
  refine runs_bind.trans ⟨?_, ?_⟩
  · rintro ⟨before, result, after, rfl, first, second⟩
    cases result with
    | ok a => exact .inr ⟨before, a, after, rfl, first, second⟩
    | error e =>
      obtain ⟨rfl, rfl⟩ := runs_done.mp second
      rw [List.append_nil]
      exact .inl ⟨e, rfl, first⟩
  · rintro (⟨e, rfl, first⟩ | ⟨before, a, after, rfl, first, second⟩)
    · exact ⟨trace, .error e, [], (List.append_nil trace).symm, first, .done _⟩
    · exact ⟨before, .ok a, after, rfl, first, second⟩

/-- **The answers determine a run**: of two courses of the same answers neither is a first part of
the other. -/
theorem Runs.unique {p : Program Question Answer α} {s s' t t' : List (Turn Answer)}
    (h : Runs p s a) (h' : Runs p s' b) (heq : s ++ t = s' ++ t') : s = s' ∧ a = b := by
  induction h generalizing s' with
  | done a =>
    obtain ⟨rfl, rfl⟩ := runs_done.mp h'
    exact ⟨rfl, rfl⟩
  | ask answer _ ih =>
    obtain ⟨answer', rest, rfl, hrest⟩ := runs_ask.mp h'
    obtain ⟨hturn, hafter⟩ := List.cons.inj heq
    cases hturn
    obtain ⟨rfl, rfl⟩ := ih hrest hafter
    exact ⟨rfl, rfl⟩

end Program

/-! ## The order of a trace -/

/-- What comes after the end of a list comes after everything in it. -/
theorem exists_eq_append_of_not_mem {α : Type} {xs ys before after : List α} {a : α}
    (h : xs ++ ys = before ++ a :: after) (ha : a ∉ xs) :
    ∃ mid, before = xs ++ mid ∧ ys = mid ++ a :: after := by
  rcases List.append_eq_append_iff.mp h with ⟨mid, hbefore, hys⟩ | ⟨mid, hxs, hafter⟩
  · exact ⟨mid, hbefore, hys⟩
  · cases mid with
    | nil =>
      rw [List.append_nil] at hxs
      exact ⟨[], by rw [hxs, List.append_nil], hafter.symm⟩
    | cons b mid =>
      rw [hxs, (List.cons.inj hafter).1] at ha
      exact absurd (List.mem_append_right _ List.mem_cons_self) ha

/-- What comes before the start of a list comes before everything in it. -/
theorem exists_eq_append_cons_of_not_mem {α : Type} {xs ys before after : List α} {a : α}
    (h : xs ++ ys = before ++ a :: after) (ha : a ∉ ys) : ∃ mid, xs = before ++ a :: mid := by
  rcases List.append_eq_append_iff.mp h with ⟨mid, -, hys⟩ | ⟨mid, hxs, hafter⟩
  · exact absurd (hys ▸ List.mem_append_right _ List.mem_cons_self) ha
  · cases mid with
    | nil =>
      rw [List.nil_append] at hafter
      exact absurd (hafter ▸ List.mem_cons_self) ha
    | cons b mid => exact ⟨mid, by rw [hxs, (List.cons.inj hafter).1]⟩

/-- What is neither at the start of a list nor at its end is in between. -/
theorem exists_between_of_not_mem {α : Type} {xs ys zs before after : List α} {a : α}
    (h : xs ++ (ys ++ zs) = before ++ a :: after) (hx : a ∉ xs) (hz : a ∉ zs) :
    ∃ mid rest, before = xs ++ mid ∧ ys = mid ++ a :: rest ∧ after = rest ++ zs := by
  obtain ⟨mid, hbefore, hmid⟩ := exists_eq_append_of_not_mem h hx
  obtain ⟨rest, rfl⟩ := exists_eq_append_cons_of_not_mem hmid hz
  refine ⟨mid, rest, hbefore, rfl, ?_⟩
  rw [List.append_assoc, List.append_cancel_left_eq, List.cons_append] at hmid
  exact (List.cons.inj hmid).2.symm

/-- Where two lists in sequence are cut, the second is cut too, perhaps before it starts. -/
theorem exists_append_of_append_eq {α : Type} {xs ys before after : List α}
    (h : xs ++ ys = before ++ after) :
    ∃ first rest last, before = first ++ rest ∧ ys = rest ++ last ∧ first ⊆ xs ∧ last ⊆ after := by
  rcases List.append_eq_append_iff.mp h with ⟨mid, hbefore, hys⟩ | ⟨mid, hxs, hafter⟩
  · exact ⟨xs, mid, after, hbefore, hys, List.Subset.refl _, List.Subset.refl _⟩
  · refine ⟨before, [], ys, (List.append_nil _).symm, rfl, ?_, ?_⟩
    · rw [hxs]
      exact List.subset_append_left _ _
    · rw [hafter]
      exact List.subset_append_right _ _

/-- What stands later in a list is not reached before what stands earlier. -/
theorem mem_of_earlier {α : Type} {xs ys before after : List α} {a d : α}
    (h : before ++ d :: after <+: xs ++ a :: ys) (hd : d ∉ xs) (hne : d ≠ a) : a ∈ before := by
  obtain ⟨rest, hrest⟩ := h
  rw [List.append_assoc, List.cons_append] at hrest
  obtain ⟨mid, hbefore, hys⟩ := exists_eq_append_of_not_mem hrest.symm hd
  cases mid with
  | nil => exact absurd (List.cons.inj hys).1.symm hne
  | cons b mid =>
    rw [hbefore, ← (List.cons.inj hys).1]
    exact List.mem_append_right _ List.mem_cons_self

end ClusterOperator
