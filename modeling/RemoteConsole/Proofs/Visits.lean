/-!
# Calls in a row

What is called again and again, with any arguments: the state after the calls, and the record of all
of them.

* `Visit`: a call that was made.
* `visits`, `stateAfter`: the record of calls, and the state that they leave.
* `visits_induction`: what ties the record to the state after the first calls still does after more,
  if every single call keeps it. `forall_visits`: the same for what is said of the state alone, and
  of each call by itself.
* `visits_cut`: a call in a record, and the calls before it.
-/

namespace RemoteConsole

/-- A call that was made: what it found, what it was given, what it answered, and what it left. -/
structure Visit (State Input Output : Type) where
  before : State
  input : Input
  output : Output
  after : State

variable {State Input Output : Type} (step : State → Input → State × Output)

/-- A call in a state. -/
def visit (s : State) (i : Input) : Visit State Input Output where
  before := s
  input := i
  output := (step s i).2
  after := (step s i).1

/-- The record of calls. -/
def visits : State → List Input → List (Visit State Input Output)
  | _, [] => []
  | s, i :: rest => visit step s i :: visits (step s i).1 rest

/-- The state after calls. -/
def stateAfter : State → List Input → State
  | s, [] => s
  | s, i :: rest => stateAfter (step s i).1 rest

variable {step}

/-- What ties a record to the state after it, and is kept by every call, is kept by any number. -/
theorem visits_induction {P : List (Visit State Input Output) → State → Prop}
    (hstep : ∀ past s i, P past s → P (past ++ [visit step s i]) (step s i).1)
    {past : List (Visit State Input Output)} {s : State} (h : P past s) (inputs : List Input) :
    P (past ++ visits step s inputs) (stateAfter step s inputs) := by
  induction inputs generalizing past s with
  | nil => rwa [visits, List.append_nil]
  | cons i inputs ih =>
    have hrest := ih (hstep past s i h)
    rwa [List.append_assoc] at hrest

/-- What is kept by every call, and makes it a call of a kind, makes all calls of that kind. -/
theorem forall_visits {P : State → Prop} {Q : Visit State Input Output → Prop}
    (hstep : ∀ s i, P s → P (step s i).1 ∧ Q (visit step s i)) {s : State} (h : P s)
    (inputs : List Input) :
    P (stateAfter step s inputs) ∧ ∀ v ∈ visits step s inputs, Q v := by
  induction inputs generalizing s with
  | nil => exact ⟨h, List.forall_mem_nil _⟩
  | cons i inputs ih =>
    obtain ⟨hnext, hcall⟩ := hstep s i h
    obtain ⟨hlast, hrest⟩ := ih hnext
    exact ⟨hlast, List.forall_mem_cons.mpr ⟨hcall, hrest⟩⟩

/-- What is in a record is a call. -/
theorem eq_visit_of_mem {s : State} {inputs : List Input} {v : Visit State Input Output}
    (hv : v ∈ visits step s inputs) : v = visit step v.before v.input := by
  induction inputs generalizing s with
  | nil => cases hv
  | cons i inputs ih =>
    rcases List.mem_cons.mp hv with rfl | hrest
    · rfl
    · exact ih hrest

/-- A record that is cut at a call: what stands before it is the record of the calls before it, and it
was made in the state that these left. -/
theorem visits_cut {s : State} {inputs : List Input} {pre post : List (Visit State Input Output)}
    {v : Visit State Input Output} (h : visits step s inputs = pre ++ v :: post) :
    ∃ earlier, pre = visits step s earlier ∧ v = visit step (stateAfter step s earlier) v.input := by
  induction pre generalizing s inputs with
  | nil =>
    cases inputs with
    | nil => cases h
    | cons i inputs =>
      obtain ⟨rfl, -⟩ := List.cons.inj h
      exact ⟨[], rfl, rfl⟩
  | cons u pre ih =>
    cases inputs with
    | nil => cases h
    | cons i inputs =>
      obtain ⟨rfl, hrest⟩ := List.cons.inj h
      obtain ⟨earlier, rfl, hv⟩ := ih hrest
      exact ⟨i :: earlier, rfl, hv⟩

/-- The inputs of a record are those that the calls were given. -/
theorem map_input_visits (s : State) (inputs : List Input) :
    (visits step s inputs).map Visit.input = inputs := by
  induction inputs generalizing s with
  | nil => rfl
  | cons i inputs ih => exact congrArg (i :: ·) (ih _)

end RemoteConsole
