import RemoteConsole.Proofs.Backoff.Laws
import RemoteConsole.Proofs.Chunk.Tips
import RemoteConsole.Server

/-!
# What a server brings, and when

A `Feed` lists the outcomes of all fetches and how long each takes. A stream of a given policy that
is served by a feed has its whole timetable laid down by it:

* `Feed.failuresInRow`, `Feed.streak`: the errors, and the errors that are retried, at the end of
  the first outcomes.
* `Feed.ending?`: the reason for which an outcome closes the stream, if it does.
* `Feed.pause`, `Feed.beginning`, `Feed.arrival`: the time between a fetch and the next, and when
  each fetch begins and ends.
-/

namespace RemoteConsole

/-- The outcomes of all fetches, and the times that they take. -/
structure Feed where
  answer : Nat → Outcome
  latency : Nat → Nat

namespace Feed

variable (feed : Feed) (p : Backoff.Policy)

/-- A fetch that is served by the feed. -/
def call (n : Nat) : Call := ⟨feed.latency n, .answer (feed.answer n)⟩

/-- The errors at the end of the first `n` outcomes, after the last success among them. -/
def failuresInRow : Nat → Nat
  | 0 => 0
  | n + 1 =>
    match feed.answer n with
    | .ok _ => 0
    | .error _ => failuresInRow n + 1

/-- The errors after the last success among the first `n` outcomes, terminal ones aside. -/
def streak : Nat → Nat
  | 0 => 0
  | n + 1 =>
    match feed.answer n with
    | .ok _ => 0
    | .error e => if e.isTerminal then streak n else streak n + 1

/-- Why the outcome `i` closes the stream, if it does: the console was closed, a notice came, the
session is gone, or the error is one more than the policy retries. -/
def ending? (i : Nat) : Option CloseReason :=
  match feed.answer i with
  | .ok none => some .serverClosed
  | .ok (some c) => (c.tips.findSome? Chunk.flag?).map .shutdown
  | .error e =>
    if e.isTerminal then some (.sessionInvalid e)
    else if feed.streak (i + 1) = p.maxRetries.toNat + 1 then some (.retriesExhausted e)
    else none

/-- The time between the end of the fetch `i` and the beginning of the next. -/
def pause (i : Nat) : Nat :=
  match feed.answer i with
  | .ok _ => 0
  | .error _ => p.wait (feed.streak (i + 1))

/-- When the fetch `i` begins. -/
def beginning : Nat → Nat
  | 0 => 0
  | i + 1 => beginning i + feed.latency i + feed.pause p i

/-- When the fetch `i` ends. -/
def arrival (i : Nat) : Nat := feed.beginning p i + feed.latency i

variable {feed p}

theorem failuresInRow_ok {n : Nat} {chunk : Option Chunk} (h : feed.answer n = .ok chunk) :
    feed.failuresInRow (n + 1) = 0 := by
  rw [failuresInRow, h]

theorem failuresInRow_error {n : Nat} {e : FetchError} (h : feed.answer n = .error e) :
    feed.failuresInRow (n + 1) = feed.failuresInRow n + 1 := by
  rw [failuresInRow, h]

theorem streak_ok {n : Nat} {chunk : Option Chunk} (h : feed.answer n = .ok chunk) :
    feed.streak (n + 1) = 0 := by
  rw [streak, h]

theorem streak_error {n : Nat} {e : FetchError} (h : feed.answer n = .error e)
    (ht : e.isTerminal = false) : feed.streak (n + 1) = feed.streak n + 1 := by
  rw [streak, h]
  simp only [ht, Bool.false_eq_true, ↓reduceIte]

theorem ending?_chunk {i : Nat} {c : Chunk} (h : feed.answer i = .ok (some c)) :
    feed.ending? p i = c.notice?.map .shutdown := by
  rw [ending?, h, Chunk.notice?_eq]

theorem ending?_terminal {i : Nat} {e : FetchError} (h : feed.answer i = .error e)
    (ht : e.isTerminal = true) : feed.ending? p i = some (.sessionInvalid e) := by
  rw [ending?, h]
  exact if_pos ht

theorem ending?_error {i : Nat} {e : FetchError} (h : feed.answer i = .error e)
    (ht : e.isTerminal = false) :
    feed.ending? p i =
      if feed.streak i + 1 = p.maxRetries.toNat + 1 then some (.retriesExhausted e) else none := by
  rw [ending?, h]
  simp only [ht, Bool.false_eq_true, ↓reduceIte, streak_error h ht]

/-- An outcome that leaves the stream open is no terminal error. -/
theorem isTerminal_eq_false {i : Nat} {e : FetchError} (h : feed.answer i = .error e)
    (hopen : feed.ending? p i = none) : e.isTerminal = false := by
  cases ht : e.isTerminal with
  | false => rfl
  | true => rw [ending?_terminal h ht] at hopen; cases hopen

theorem open_succ {i : Nat} (hopen : ∀ j < i, feed.ending? p j = none)
    (h : feed.ending? p i = none) : ∀ j < i + 1, feed.ending? p j = none := by
  intro j hj
  rcases Nat.lt_succ_iff_lt_or_eq.mp hj with hj | rfl
  · exact hopen j hj
  · exact h

theorem pause_ok {i : Nat} {chunk : Option Chunk} (h : feed.answer i = .ok chunk) :
    feed.pause p i = 0 := by
  rw [pause, h]

theorem pause_error {i : Nat} {e : FetchError} (h : feed.answer i = .error e)
    (ht : e.isTerminal = false) : feed.pause p i = p.wait (feed.streak i + 1) := by
  rw [pause, h, streak_error h ht]

theorem beginning_succ (i : Nat) :
    feed.beginning p (i + 1) = feed.arrival p i + feed.pause p i := rfl

/-- As long as the stream stays open, all errors in a row are retried. -/
theorem failuresInRow_eq_streak {n : Nat} (h : ∀ i < n, feed.ending? p i = none) :
    feed.failuresInRow n = feed.streak n := by
  induction n with
  | zero => rfl
  | succ n ih =>
    have ih' := ih fun i hi => h i (Nat.lt_succ_of_lt hi)
    cases ha : feed.answer n with
    | ok chunk => rw [failuresInRow_ok ha, streak_ok ha]
    | error e =>
      have ht := isTerminal_eq_false ha (h n (Nat.lt_succ_self n))
      rw [failuresInRow_error ha, streak_error ha ht, ih']

/-- As long as the stream stays open, its streaks stay within the retries of the policy. -/
theorem streak_le {n : Nat} (h : ∀ i < n, feed.ending? p i = none) :
    feed.streak n ≤ p.maxRetries.toNat := by
  induction n with
  | zero => exact Nat.zero_le _
  | succ n ih =>
    have ih' := ih fun i hi => h i (Nat.lt_succ_of_lt hi)
    have hopen := h n (Nat.lt_succ_self n)
    cases ha : feed.answer n with
    | ok chunk => rw [streak_ok ha]; exact Nat.zero_le _
    | error e =>
      have ht := isTerminal_eq_false ha hopen
      rw [ending?, ha] at hopen
      simp only [ht, Bool.false_eq_true, ↓reduceIte] at hopen
      rw [streak_error ha ht] at hopen ⊢
      split at hopen
      · cases hopen
      · omega

/-! ## A short feed -/

/-- A server that is there, and that the feed serves. -/
def server (feed : Feed) : Server := ⟨⟨"in-process"⟩, ⟨"console"⟩, none, feed.call⟩

/-- An error, a text, and then the end, each after three milliseconds. -/
def brief : Feed where
  answer
    | 0 => .error (.transport "refused")
    | 1 => .ok (some (.text "ready"))
    | _ + 2 => .ok none
  latency _ := 3

theorem failuresInRow_brief_le (n : Nat) : brief.failuresInRow n ≤ 1 := by
  match n with
  | 0 => exact Nat.zero_le _
  | 1 => exact Nat.le_refl _
  | 2 => exact Nat.zero_le _
  | _ + 3 => exact Nat.zero_le _

end Feed

end RemoteConsole
