import KeysetPaging.Query

/-!
# Traced computations

A computation that may fail and that reports events: a token made for a neighbouring page, a token that
verified or was rejected, and a page that was put together. The events of a sequence are those of its
parts, one after another, up to the part that fails; a failure keeps what was reported before it.
-/

namespace KeysetPaging

/-- The neighbouring page that a token leads to. -/
inductive Neighbour where
  | prev
  | next
  deriving DecidableEq

inductive Event where
  | issued (neighbour : Neighbour)
  | verified
  | rejected (kind : FaultClass)
  | composed (heading : Heading) (records : Nat) (reachedEnd : Bool)
  deriving DecidableEq

structure Traced (ε α : Type) where
  outcome : Except ε α
  events : List Event

namespace Traced

variable {ε δ α β : Type}

/-- Succeeds without an event. -/
def succeed (value : α) : Traced ε α :=
  ⟨.ok value, []⟩

/-- Fails without an event. -/
def fail (fault : ε) : Traced ε α :=
  ⟨.error fault, []⟩

/-- Reports one event. -/
def report (event : Event) : Traced ε Unit :=
  ⟨.ok (), [event]⟩

/-- A computation without events. -/
def ofExcept (outcome : Except ε α) : Traced ε α :=
  ⟨outcome, []⟩

/-- Goes on with the value of a computation, if it has one. -/
def andThen (first : Traced ε α) (next : α → Traced ε β) : Traced ε β :=
  match first.outcome with
  | .ok value => ⟨(next value).outcome, first.events ++ (next value).events⟩
  | .error fault => ⟨.error fault, first.events⟩

/-- Restates the fault. -/
def mapFault (restate : ε → δ) (traced : Traced ε α) : Traced δ α :=
  ⟨traced.outcome.mapError restate, traced.events⟩

/-- Puts events in front. -/
def after (events : List Event) (traced : Traced ε α) : Traced ε α :=
  ⟨traced.outcome, events ++ traced.events⟩

instance : Monad (Traced ε) where
  pure := succeed
  bind := andThen

@[simp] theorem pure_eq (value : α) : (pure value : Traced ε α) = ⟨.ok value, []⟩ := rfl

theorem bind_eq (first : Traced ε α) (next : α → Traced ε β) :
    first >>= next = first.andThen next := rfl

@[simp] theorem bind_ok (value : α) (events : List Event) (next : α → Traced ε β) :
    ((⟨.ok value, events⟩ : Traced ε α) >>= next) =
      ⟨(next value).outcome, events ++ (next value).events⟩ := rfl

@[simp] theorem bind_error (fault : ε) (events : List Event) (next : α → Traced ε β) :
    ((⟨.error fault, events⟩ : Traced ε α) >>= next) = ⟨.error fault, events⟩ := rfl

/-- What comes behind without reporting anything leaves the events as they are. -/
theorem events_bind_of_silent (first : Traced ε α) {next : α → Traced ε β}
    (silent : ∀ value, (next value).events = []) : (first >>= next).events = first.events := by
  cases first with
  | mk outcome events =>
      cases outcome with
      | error fault => rfl
      | ok value => rw [bind_ok, silent, List.append_nil]

theorem after_succeed (value : α) (events : List Event) :
    (succeed value : Traced ε α).after events = ⟨.ok value, events⟩ := by
  rw [after, succeed, List.append_nil]

theorem after_fail (fault : ε) (events : List Event) :
    (fail fault : Traced ε α).after events = ⟨.error fault, events⟩ := by
  rw [after, fail, List.append_nil]

theorem outcome_bind (first : Traced ε α) (next : α → Traced ε β) :
    (first >>= next).outcome = first.outcome >>= fun value => (next value).outcome := by
  cases first with
  | mk outcome events => cases outcome <;> rfl

theorem outcome_bind_eq_ok_iff {first : Traced ε α} {next : α → Traced ε β} {result : β} :
    (first >>= next).outcome = .ok result ↔
      ∃ value, first.outcome = .ok value ∧ (next value).outcome = .ok result := by
  cases first with
  | mk outcome events =>
      cases outcome with
      | error fault => simp
      | ok value => simp

theorem outcome_bind_eq_error_iff {first : Traced ε α} {next : α → Traced ε β} {fault : ε} :
    (first >>= next).outcome = .error fault ↔ first.outcome = .error fault ∨
      ∃ value, first.outcome = .ok value ∧ (next value).outcome = .error fault := by
  cases first with
  | mk outcome events =>
      cases outcome with
      | error other => simp
      | ok value => simp

theorem andThen_succeed (traced : Traced ε α) : traced.andThen succeed = traced := by
  cases traced with
  | mk outcome events => cases outcome <;> simp [andThen, succeed]

theorem succeed_andThen (value : α) (next : α → Traced ε β) :
    (succeed value).andThen next = next value := by
  simp [andThen, succeed]

theorem andThen_assoc {γ : Type} (first : Traced ε α) (next : α → Traced ε β)
    (last : β → Traced ε γ) :
    (first.andThen next).andThen last = first.andThen fun value => (next value).andThen last := by
  cases first with
  | mk outcome events =>
      cases outcome with
      | error fault => rfl
      | ok value =>
          cases second : next value with
          | mk outcome others => cases outcome <;> simp [andThen, second]

instance : LawfulMonad (Traced ε) :=
  LawfulMonad.mk' (Traced ε) andThen_succeed succeed_andThen andThen_assoc

end Traced

end KeysetPaging
