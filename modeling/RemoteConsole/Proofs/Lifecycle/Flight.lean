import Mathlib.Data.List.Basic
import RemoteConsole.Proofs.Lifecycle.Calls

/-!
# One fetch at a time

Whatever calls are made on a lifecycle, in turn or out of turn, it asks for a fetch only when the
outcome of the last one was taken, and hands on what it took.

* `Turn.fetches`, `Turn.accepts`: the call asked for a fetch; it took the outcome of one.
* `Turn.accepted?`, `Turn.handed?`: the chunk that a call took, and the one that it handed on.
* `Ledger`: how many fetches there were when so many outcomes were taken, by the phase. One call
  keeps it (`Ledger.step`), so any number of calls do (`Ledger.turns`).
* `Lifecycle.single_flight`: between a fetch and the next one outcome is taken, and each chunk that
  is taken is handed on once.
-/

namespace RemoteConsole

namespace Turn

variable (t : Turn)

/-- The call asked for a fetch. -/
def fetches : Bool :=
  match t.output with
  | .command (.fetch _) => true
  | _ => false

/-- The call took the outcome of a fetch. -/
def accepts : Bool :=
  match t.input with
  | .receive _ _ => t.before.phase = .polling
  | _ => false

/-- The chunk that the call took. -/
def accepted? : Option Chunk :=
  match t.input with
  | .receive (.ok chunk) _ => if t.before.phase = .polling then chunk else none
  | _ => none

/-- The chunk that the call handed on. -/
def handed? : Option Chunk :=
  match t.output with
  | .command (.deliver chunk) => chunk
  | _ => none

end Turn

/-- How many fetches were asked for, and how many outcomes were taken, when a phase is reached. -/
def Ledger (fetched accepted : Nat) : Phase → Prop
  | .idle => fetched = 0 ∧ accepted = 0
  | .polling => fetched = accepted + 1
  | .delivering => fetched = accepted
  | .backoff => fetched = accepted
  | .closed => fetched = accepted ∨ fetched = accepted + 1

namespace Lifecycle

variable {l l' : Lifecycle} {i : Input} {output : Output}

/-! ## One call -/

/-- The command for a call that changes nothing asks for no fetch and hands on no chunk. -/
theorem currentCommand_cases :
    (∃ reason, l.currentCommand = .close reason) ∨ l.currentCommand = .wait := by
  unfold currentCommand
  split
  · split
    · exact .inl ⟨_, rfl⟩
    · exact .inr rfl
  · exact .inr rfl

theorem Response.ledger (hr : l.Response i l' output) {fetched accepted : Nat}
    (h : Ledger fetched accepted l.phase) :
    Ledger (fetched + if Turn.fetches ⟨l, i, output, l'⟩ then 1 else 0)
      (accepted + if Turn.accepts ⟨l, i, output, l'⟩ then 1 else 0) l'.phase := by
  cases hr with
  | ignored hi =>
    have hfetches : Turn.fetches ⟨l, i, .command l.currentCommand, l⟩ = false := by
      rcases l.currentCommand_cases with ⟨reason, hc⟩ | hc <;> simp [Turn.fetches, hc]
    have haccepts : Turn.accepts ⟨l, i, .command l.currentCommand, l⟩ = false := by
      cases i <;> simp_all [Turn.accepts, Input.isHeard]
    simpa [hfetches, haccepts] using h
  | started hphase => simp_all [Turn.fetches, Turn.accepts, Ledger]
  | brought hphase => simp_all [Turn.fetches, Turn.accepts, Ledger]
  | failedLast hphase => simp_all [Turn.fetches, Turn.accepts, Ledger]
  | retried hphase => simp_all [Turn.fetches, Turn.accepts, Ledger]
  | broken hphase hbackoff => simp_all [Turn.fetches, Turn.accepts, Ledger]
  | continued hphase => simp_all [Turn.fetches, Turn.accepts, Ledger]
  | closed hphase =>
    rcases hphase with hphase | hphase | hphase <;> simp_all [Turn.fetches, Turn.accepts, Ledger]
  | asked => simpa [Turn.fetches, Turn.accepts] using h
  | awaited => simpa [Turn.fetches, Turn.accepts] using h

/-- A call that asks for a fetch ends in polling. -/
theorem Response.polling_of_fetches (hr : l.Response i l' output)
    (h : Turn.fetches ⟨l, i, output, l'⟩ = true) : l'.phase = .polling := by
  cases hr with
  | ignored =>
    rcases l.currentCommand_cases with ⟨reason, hc⟩ | hc <;> simp [Turn.fetches, hc] at h
  | started | retried | continued => rfl
  | brought | failedLast | broken | closed | asked | awaited => cases h

/-- Once closed, a stream stays so. -/
theorem Response.closed_of_closed (hr : l.Response i l' output) (h : l.phase = .closed) :
    l'.phase = .closed := by
  cases hr with
  | ignored | asked | awaited => exact h
  | closed => rfl
  | started hphase | brought hphase | failedLast hphase | retried hphase | broken hphase
  | continued hphase => rw [h] at hphase; cases hphase

/-- An outcome that comes when none is waited for is ignored. -/
theorem Response.ignores {outcome : Outcome} {now : Nat}
    (hr : l.Response (.receive outcome now) l' output) (h : l.phase ≠ .polling) :
    l' = l ∧ output = .command l.currentCommand := by
  cases hr with
  | ignored => exact ⟨rfl, rfl⟩
  | brought hphase | failedLast hphase | retried hphase | broken hphase => exact absurd hphase h

/-- The chunk that is taken is handed on, and no other. -/
theorem Response.accepted_eq_handed (hr : l.Response i l' output) :
    Turn.accepted? ⟨l, i, output, l'⟩ = Turn.handed? ⟨l, i, output, l'⟩ := by
  cases hr with
  | ignored hi =>
    have hhanded : Turn.handed? ⟨l, i, .command l.currentCommand, l⟩ = none := by
      rcases l.currentCommand_cases with ⟨reason, hc⟩ | hc <;> simp [Turn.handed?, hc]
    rw [hhanded]
    cases i with
    | receive outcome now => cases outcome <;> simp_all [Turn.accepted?, Input.isHeard]
    | start | delivered | requestClose | awaitHealth => rfl
  | brought hphase => simp [Turn.accepted?, Turn.handed?, hphase]
  | started | failedLast | retried | broken | continued | closed | asked | awaited => rfl

/-! ## Any calls -/

/-- The state that the last of some calls left. -/
theorem after_of_turns {inputs : List Input} {xs : List Turn} {t : Turn}
    (h : l.turns inputs = xs ++ [t]) : l.after inputs = t.after := by
  obtain ⟨earlier, later, rfl, -, hlast⟩ := l.turns_cut h
  rw [after_append]
  match later with
  | [] => cases hlast
  | [i] =>
    obtain ⟨rfl, -⟩ := List.cons.inj hlast
    rfl
  | i :: j :: later => cases (List.cons.inj hlast).2

/-- Any number of calls keep the ledger. -/
theorem ledger_turns {fetched accepted : Nat} (h : Ledger fetched accepted l.phase)
    (inputs : List Input) :
    Ledger (fetched + (l.turns inputs).countP Turn.fetches)
      (accepted + (l.turns inputs).countP Turn.accepts) (l.after inputs).phase := by
  induction inputs generalizing l fetched accepted with
  | nil => exact h
  | cons i inputs ih =>
    have hrest := ih ((l.response i).ledger h)
    unfold turns
    rw [List.countP_cons, List.countP_cons, Nat.add_comm (List.countP _ _) (ite _ _ _),
      Nat.add_comm (List.countP _ _) (ite _ _ _), ← Nat.add_assoc, ← Nat.add_assoc]
    exact hrest

/-- Each call in a record came to one of the cases. -/
theorem response_of_mem {inputs : List Input} {t : Turn} (h : t ∈ l.turns inputs) :
    t.before.Response t.input t.after t.output := by
  obtain ⟨earlier, hbefore, hrespond⟩ := l.mem_turns h
  have hr := t.before.response t.input
  rwa [hrespond] at hr

/-- When a call has asked for a fetch, one more fetch was asked for than outcomes were taken. -/
theorem countP_fetches (o : Options) {inputs : List Input} {xs ys : List Turn} {t : Turn}
    (h : (ofOptions o).turns inputs = (xs ++ [t]) ++ ys) (ht : t.fetches = true) :
    (xs ++ [t]).countP Turn.fetches = (xs ++ [t]).countP Turn.accepts + 1 := by
  obtain ⟨earlier, later, -, hturns, -⟩ := turns_cut _ h
  have hmem : t ∈ (ofOptions o).turns earlier := by rw [hturns]; simp
  have hpolling : ((ofOptions o).after earlier).phase = .polling := by
    rw [after_of_turns hturns]
    exact (response_of_mem hmem).polling_of_fetches ht
  have hidle : Ledger 0 0 (ofOptions o).phase := ⟨rfl, rfl⟩
  have hledger := ledger_turns hidle earlier
  rw [hpolling, hturns, Nat.zero_add, Nat.zero_add] at hledger
  exact hledger

/-- A closed stream asks for no fetch. -/
theorem turns_closed (h : l.phase = .closed) (inputs : List Input) :
    ∀ t ∈ l.turns inputs, t.fetches = false := by
  induction inputs generalizing l with
  | nil =>
    intro t ht
    exact absurd ht List.not_mem_nil
  | cons i inputs ih =>
    have hclosed := (l.response i).closed_of_closed h
    intro t ht
    rcases List.mem_cons.mp ht with rfl | ht
    · refine Bool.eq_false_iff.mpr fun hfetches => ?_
      have hpolling := (l.response i).polling_of_fetches hfetches
      rw [hclosed] at hpolling
      cases hpolling
    · exact ih hclosed t ht

/-- Whatever is called, and in whatever order: from a fetch to the next one outcome is taken, by the
calls between them or by the one that asks for the next; an outcome that comes when none is waited
for changes nothing; a call that asks for a fetch ends in polling; a closed stream asks for none;
and the chunks that were taken are those that were handed on, in that order. -/
theorem single_flight (o : Options) (inputs : List Input) :
    let ts := (ofOptions o).turns inputs
    (∀ pre t between t' post, ts = pre ++ t :: between ++ t' :: post →
      t.fetches = true → t'.fetches = true → (∀ u ∈ between, u.fetches = false) →
      (between ++ [t']).countP Turn.accepts = 1) ∧
    (∀ t ∈ ts, ∀ outcome now, t.input = .receive outcome now → t.accepts = false →
      t.after = t.before ∧ t.output = .command t.before.currentCommand) ∧
    (∀ t ∈ ts, t.fetches = true → t.after.phase = .polling) ∧
    (∀ pre t post, ts = pre ++ t :: post → t.after.phase = .closed →
      ∀ u ∈ post, u.fetches = false) ∧
    ts.filterMap Turn.accepted? = ts.filterMap Turn.handed? := by
  intro ts
  refine ⟨?_, ?_, fun t ht => (response_of_mem ht).polling_of_fetches, ?_,
    List.filterMap_congr fun t ht => (response_of_mem ht).accepted_eq_handed⟩
  · intro pre t between t' post hcut ht ht' hbetween
    have hfirst : (pre ++ [t]).countP Turn.fetches = _ :=
      countP_fetches o (hcut.trans (by rw [List.append_assoc, List.append_assoc]; rfl)) ht
    have hsecond : ((pre ++ t :: between) ++ [t']).countP Turn.fetches = _ :=
      countP_fetches o (hcut.trans (by rw [List.append_assoc _ [t'], List.singleton_append])) ht'
    have hnone : between.countP Turn.fetches = 0 :=
      List.countP_eq_zero.mpr fun u hu => by simp [hbetween u hu]
    simp only [List.countP_append, List.countP_cons, List.countP_nil, ht, ht', hnone,
      ↓reduceIte] at hfirst hsecond ⊢
    omega
  · intro t ht outcome now hinput hrefused
    have hr := response_of_mem ht
    rw [hinput] at hr
    refine hr.ignores fun hpolling => ?_
    simp [Turn.accepts, hinput, hpolling] at hrefused
  · intro pre t post hcut hclosed
    obtain ⟨earlier, later, -, hearlier, rfl⟩ := turns_cut _
      (show (ofOptions o).turns inputs = (pre ++ [t]) ++ post by rw [List.append_assoc]; exact hcut)
    rw [← after_of_turns hearlier] at hclosed
    exact turns_closed hclosed later

/-- A chunk, an outcome that comes too early, and the next fetch. -/
theorem single_flight_brief :
    let ts := (ofOptions .default).turns
      [.start 0, .receive (.ok (some (.text "ready"))) 2, .receive (.ok none) 3,
        .delivered .continue 4]
    ts.map Turn.fetches = [true, false, false, true] ∧
      ([ts[1], ts[2]] ++ [ts[3]]).countP Turn.accepts = 1 := by
  intro ts
  have h := single_flight .default
    [.start 0, .receive (.ok (some (.text "ready"))) 2, .receive (.ok none) 3,
      .delivered .continue 4]
  exact ⟨by decide, h.1 [] ts[0] [ts[1], ts[2]] ts[3] [] rfl (by decide) (by decide) (by decide)⟩

end Lifecycle

end RemoteConsole
