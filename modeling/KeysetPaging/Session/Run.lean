import KeysetPaging.Session.Action

/-!
# Running a session

A session is a tree of steps: single actions, failures, and scopes that run steps of their own and
receive their events. A failure unwinds the steps that it stands among, so those behind it do not run,
and goes on to unwind the steps around their scope unless it is caught there. A scope drops its guard
on the way out, before the failure goes on.
-/

namespace KeysetPaging.Session

inductive Step where
  | act (action : Action)
  | fail
  | within (steps : List Step) (caught : Bool)

/-- A scope around steps, perhaps with a failure behind them that is caught outside of the scope. -/
def Step.scope (steps : List Step) (fails : Bool) : Step :=
  .within (if fails then steps ++ [.fail] else steps) true

/-- How steps come to their end. -/
inductive Ending where
  | returned
  | unwound
  deriving DecidableEq

/-- The ending of a scope for the steps around it. -/
def Ending.outside (ending : Ending) (caught : Bool) : Ending :=
  if caught then .returned else ending

/-- What comes of steps: the state after them, the answers of those that ran, and their ending. -/
structure Outcome where
  state : State
  answers : List Answer
  ending : Ending

mutual

/-- Runs one step. -/
def runStep (state : State) : Step → Outcome
  | .act action =>
      let (state, answer) := state.perform action
      ⟨state, [answer], .returned⟩
  | .fail => ⟨state, [], .unwound⟩
  | .within steps caught =>
      let (metrics, guard) := state.metrics.enter
      let inner := runSteps { state with metrics } steps
      let events := inner.state.metrics.receivedBy state.metrics.opened
      { state := { inner.state with metrics := guard.drop inner.state.metrics }
        answers := [.scope inner.answers events]
        ending := inner.ending.outside caught }

/-- Runs steps one after another, up to a failure. -/
def runSteps (state : State) : List Step → Outcome
  | [] => ⟨state, [], .returned⟩
  | step :: rest =>
      let first := runStep state step
      match first.ending with
      | .unwound => first
      | .returned =>
          let last := runSteps first.state rest
          ⟨last.state, first.answers ++ last.answers, last.ending⟩

end

/-- What a session answered, and the tally at its end. -/
structure Transcript where
  answers : List Answer
  tally : Tally

/-- Runs a session from its start. -/
def run (policy : Policy) (table : Table) (steps : List Step) : Transcript :=
  let outcome := runSteps (.start policy table) steps
  ⟨outcome.answers, outcome.state.metrics.tally⟩

end KeysetPaging.Session
