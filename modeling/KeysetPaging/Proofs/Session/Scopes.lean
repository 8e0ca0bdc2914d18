import KeysetPaging.Session.Run

/-!
# What scopes do to a session

How steps lie under scopes can be read off them before they run: which actions run, which scope is
the innermost around each, and whether a failure is left at the end. At a desk alone, without any
metrics, these actions leave a log. A run is the log and nothing else: each event of it goes to the
receiver of the innermost scope around its action, or into the tally where there is none, one after
another, and the answers and the desk are those of the same actions without scopes. However steps end,
the receiver from before them is in place again.
-/

namespace KeysetPaging.Session

/-- An action with the innermost scope around it. -/
structure Placed where
  scope : Option Nat
  action : Action

/-- The actions of steps that run, the number of the next scope, and the ending. -/
structure Layout where
  actions : List Placed
  next : Nat
  ending : Ending

mutual

/-- How a step lies, in a scope or in none, when the next scope has a number. -/
def layoutStep (around : Option Nat) (number : Nat) : Step → Layout
  | .act action => ⟨[⟨around, action⟩], number, .returned⟩
  | .fail => ⟨[], number, .unwound⟩
  | .within steps caught =>
      let inner := layoutSteps (some number) (number + 1) steps
      ⟨inner.actions, inner.next, inner.ending.outside caught⟩

/-- How steps lie one after another, up to a failure. -/
def layoutSteps (around : Option Nat) (number : Nat) : List Step → Layout
  | [] => ⟨[], number, .returned⟩
  | step :: rest =>
      let first := layoutStep around number step
      match first.ending with
      | .unwound => first
      | .returned =>
          let last := layoutSteps around first.next rest
          ⟨first.actions ++ last.actions, last.next, last.ending⟩

end

/-- An action that ran, and what came of it. -/
structure Entry where
  placed : Placed
  deed : Deed

namespace Entry

/-- The events of an entry, each with the innermost scope around it. -/
def emissions (entry : Entry) : List (Option Nat × Event) :=
  entry.deed.events.map fun event => (entry.placed.scope, event)

/-- The tally behind an entry. -/
def counted (tally : Tally) (entry : Entry) : Tally :=
  match entry.placed.action with
  | .resetTally => .zero
  | _ => if entry.placed.scope = none then tally.countAll entry.deed.events else tally

/-- Only a reset stops the tally from counting what no scope receives. -/
theorem counted_of_ne {placed : Placed} {deed : Deed} (other : placed.action ≠ .resetTally)
    (tally : Tally) : counted tally ⟨placed, deed⟩ =
      if placed.scope = none then tally.countAll deed.events else tally := by
  unfold counted
  split
  · exact absurd ‹_› other
  · rfl

end Entry

namespace Desk

/-- The entries of actions that run at a desk one after another. -/
def log (desk : Desk) : List Placed → List Entry
  | [] => []
  | placed :: rest =>
      let deed := desk.perform placed.action
      ⟨placed, deed⟩ :: deed.desk.log rest

/-- The desk behind actions that run one after another. -/
def after (desk : Desk) : List Placed → Desk
  | [] => desk
  | placed :: rest => (desk.perform placed.action).desk.after rest

variable (desk : Desk) (first last : List Placed)

theorem after_append : desk.after (first ++ last) = (desk.after first).after last := by
  induction first generalizing desk with
  | nil => rfl
  | cons placed rest ih => exact ih _

theorem log_append : desk.log (first ++ last) = desk.log first ++ (desk.after first).log last := by
  induction first generalizing desk with
  | nil => rfl
  | cons placed rest ih => exact congrArg (_ :: ·) (ih _)

end Desk

/-- The events of a log in the order in which they were reported. -/
def emissions (log : List Entry) : List (Option Nat × Event) :=
  log.flatMap Entry.emissions

/-- The deliveries to receivers of scopes among reported events. -/
def deliveries (emissions : List (Option Nat × Event)) : List (Nat × Event) :=
  emissions.filterMap fun emission => emission.1.map fun scope => (scope, emission.2)

theorem emissions_append (first last : List Entry) :
    emissions (first ++ last) = emissions first ++ emissions last :=
  List.flatMap_append

theorem deliveries_append (first last : List (Option Nat × Event)) :
    deliveries (first ++ last) = deliveries first ++ deliveries last :=
  List.filterMap_append

namespace Answer

mutual

/-- The answers of single actions in an answer. -/
def single : Answer → List Answer
  | .scope answers _ => singles answers
  | answer => [answer]

/-- The answers of single actions in answers. -/
def singles : List Answer → List Answer
  | [] => []
  | answer :: rest => answer.single ++ singles rest

end

/-- An answer without the numbers of a tally that it shows. -/
def unread : Answer → Answer
  | .tally _ => .tally .zero
  | answer => answer

theorem singles_append (first last : List Answer) :
    singles (first ++ last) = singles first ++ singles last := by
  induction first with
  | nil => rfl
  | cons answer rest ih =>
      rw [List.cons_append, singles, singles, ih, List.append_assoc]

end Answer

/-- A deed whose answer is a single one. -/
def Deed.Answers (deed : Deed) : Prop :=
  deed.answer.single = [deed.answer]

namespace Desk

variable {desk : Desk}

theorem answers_needing {α : Type} {needed : Option α} {next : α → Deed}
    (answers : ∀ found, (next found).Answers) : (desk.needing needed next).Answers := by
  cases needed with
  | none => rfl
  | some found => exact answers found

theorem answers_takePolicy (outcome : Except QueryFault Policy) :
    (desk.takePolicy outcome).Answers := by
  cases outcome <;> rfl

theorem answers_takeQuery (outcome : Except QueryFault Query) :
    (desk.takeQuery outcome).Answers := by
  cases outcome <;> rfl

theorem answers_checked (outcome : Except QueryFault Unit) : (desk.checked outcome).Answers := by
  cases outcome <;> rfl

theorem answers_turnTo (turned : Option Query) : (desk.turnTo turned).Answers := by
  cases turned <;> rfl

/-- No single action answers like a scope. -/
theorem answers_perform (action : Action) : (desk.perform action).Answers := by
  cases action with
  | setMaximum maximum => exact answers_takePolicy _
  | checkSize size => exact answers_checked _
  | checkOrder order => exact answers_checked _
  | build construction => exact answers_needing answers_takeQuery
  | appendToRows suffix => exact answers_needing fun _ => rfl
  | pageText => exact answers_needing fun _ => rfl
  | filterBy filter => exact answers_needing fun _ => rfl
  | resize size => exact answers_needing fun _ => answers_takeQuery _
  | head neighbour token =>
      refine answers_needing fun query => answers_needing fun cursor => ?_
      cases neighbour <;> rfl
  | restart => exact answers_needing fun _ => rfl
  | makeToken value page =>
      refine answers_needing fun query => ?_
      unfold callMakeToken
      dsimp only
      split <;> rfl
  | readToken token => exact answers_needing fun _ => answers_needing fun _ => rfl
  | currentPage => exact answers_needing fun _ => rfl
  | positions => exact answers_needing fun _ => rfl
  | seek =>
      refine answers_needing fun query => ?_
      unfold reporting
      dsimp only [Deed.Answers]
      split <;> rfl
  | compose rows total =>
      refine answers_needing fun query => ?_
      unfold takeComposed
      split <;> rfl
  | serve canCount => exact answers_needing fun _ => rfl
  | turn neighbour =>
      refine answers_needing fun query => answers_needing fun page => ?_
      cases neighbour <;> exact answers_turnTo _
  | _ => rfl

end Desk

/-- Away from the tally, an action is performed at the desk and its events are delivered. -/
theorem State.perform_of_ne (state : State) {action : Action} (shows : action ≠ .showTally)
    (resets : action ≠ .resetTally) :
    state.perform action =
      (⟨(state.desk.perform action).desk,
        state.metrics.deliver (state.desk.perform action).events⟩,
        (state.desk.perform action).answer) := by
  cases action <;> first | rfl | contradiction

/-- The receiver in place is handed all events of a delivery. -/
theorem received_deliver (metrics : Metrics) (events : List Event) :
    (metrics.deliver events).received =
      metrics.received ++ deliveries (events.map fun event => (metrics.receiver, event)) := by
  cases place : metrics.receiver with
  | none => simp [Metrics.deliver_of_none place, deliveries]
  | some scope =>
      have named : deliveries (events.map fun event => (some scope, event)) =
          events.map fun event => (scope, event) := by
        induction events with
        | nil => rfl
        | cons event rest ih => exact congrArg ((scope, event) :: ·) ih
      rw [Metrics.deliver_of_some place, named]

/-- What comes of steps that lie as laid out: the log of their actions and nothing else. -/
structure Follows (state : State) (layout : Layout) (outcome : Outcome) : Prop where
  ending : outcome.ending = layout.ending
  opened : outcome.state.metrics.opened = layout.next
  receiver : outcome.state.metrics.receiver = state.metrics.receiver
  desk : outcome.state.desk = state.desk.after layout.actions
  answers : (Answer.singles outcome.answers).map Answer.unread =
    (state.desk.log layout.actions).map fun entry => entry.deed.answer.unread
  received : outcome.state.metrics.received =
    state.metrics.received ++ deliveries (emissions (state.desk.log layout.actions))
  tally : outcome.state.metrics.tally =
    (state.desk.log layout.actions).foldl Entry.counted state.metrics.tally

theorem follows_act (state : State) (action : Action) :
    Follows state (layoutStep state.metrics.receiver state.metrics.opened (.act action))
      (runStep state (.act action)) := by
  by_cases shows : action = .showTally
  · subst shows
    exact {
      ending := rfl
      opened := rfl
      receiver := rfl
      desk := rfl
      answers := rfl
      received := (List.append_nil _).symm
      tally := by cases state.metrics.receiver <;> rfl }
  · by_cases resets : action = .resetTally
    · subst resets
      exact {
        ending := rfl
        opened := rfl
        receiver := rfl
        desk := rfl
        answers := rfl
        received := (List.append_nil _).symm
        tally := rfl }
    · have ran : runStep state (.act action) =
          ⟨⟨(state.desk.perform action).desk,
            state.metrics.deliver (state.desk.perform action).events⟩,
            [(state.desk.perform action).answer], .returned⟩ := by
        rw [runStep, state.perform_of_ne shows resets]
      rw [ran]
      exact {
        ending := rfl
        opened := Metrics.opened_deliver _ _
        receiver := Metrics.receiver_deliver _ _
        desk := rfl
        answers := by
          have single : (state.desk.perform action).Answers := Desk.answers_perform action
          rw [Answer.singles, Answer.singles, List.append_nil, single]
          rfl
        received := by
          rw [received_deliver, layoutStep, Desk.log, Desk.log, emissions, List.flatMap_singleton]
          rfl
        tally := by
          have other : (Placed.mk state.metrics.receiver action).action ≠ .resetTally := resets
          rw [Metrics.tally_deliver]
          exact (Entry.counted_of_ne other state.metrics.tally).symm }

/-- Where no action runs, nothing comes of it. -/
theorem follows_idle (state : State) (ending : Ending) :
    Follows state ⟨[], state.metrics.opened, ending⟩ ⟨state, [], ending⟩ where
  ending := rfl
  opened := rfl
  receiver := rfl
  desk := rfl
  answers := rfl
  received := (List.append_nil _).symm
  tally := rfl

/-- A scope leaves what its steps leave, with the receiver from before. -/
theorem follows_within {state : State} {steps : List Step} (caught : Bool)
    (inner : Follows { state with metrics := state.metrics.enter.1 }
      (layoutSteps (some state.metrics.opened) (state.metrics.opened + 1) steps)
      (runSteps { state with metrics := state.metrics.enter.1 } steps)) :
    Follows state
      (layoutStep state.metrics.receiver state.metrics.opened (.within steps caught))
      (runStep state (.within steps caught)) where
  ending := congrArg (Ending.outside · caught) inner.ending
  opened := inner.opened
  receiver := rfl
  desk := inner.desk
  answers := by
    rw [runStep, Answer.singles, Answer.singles, List.append_nil]
    exact inner.answers
  received := inner.received
  tally := inner.tally

theorem follows_cons {state : State} {step : Step} {rest : List Step}
    (first : Follows state (layoutStep state.metrics.receiver state.metrics.opened step)
      (runStep state step))
    (last : ∀ next : State, Follows next
      (layoutSteps next.metrics.receiver next.metrics.opened rest) (runSteps next rest)) :
    Follows state (layoutSteps state.metrics.receiver state.metrics.opened (step :: rest))
      (runSteps state (step :: rest)) := by
  have ending := first.ending
  cases layout : layoutStep state.metrics.receiver state.metrics.opened step with
  | mk actions next left =>
      rw [layout] at first ending
      cases left with
      | unwound =>
          -- Neither side has anything behind the failure.
          rw [runSteps, layoutSteps, layout, ending]
          exact first
      | returned =>
          -- The rest starts with the receiver and the number that its layout starts with.
          rw [runSteps, layoutSteps, layout, ending]
          have rest := last (runStep state step).state
          rw [first.receiver, first.opened] at rest
          exact {
            ending := rest.ending
            opened := rest.opened
            receiver := rest.receiver.trans first.receiver
            desk := by
              rw [Desk.after_append, ← first.desk]
              exact rest.desk
            answers := by
              rw [Answer.singles_append, List.map_append, first.answers, rest.answers,
                Desk.log_append, List.map_append, ← first.desk]
            received := by
              rw [Desk.log_append, ← first.desk, emissions_append, deliveries_append,
                ← List.append_assoc, ← first.received]
              exact rest.received
            tally := by
              rw [Desk.log_append, List.foldl_append, ← first.desk, ← first.tally]
              exact rest.tally }

-- One case for each kind of step; a scope and the steps in it are the only ones to need each other.
mutual

theorem follows_step : ∀ (step : Step) (state : State),
    Follows state (layoutStep state.metrics.receiver state.metrics.opened step)
      (runStep state step)
  | .act action, state => follows_act state action
  | .fail, state => follows_idle state .unwound
  | .within steps caught, _ => follows_within caught (follows_steps steps _)

theorem follows_steps : ∀ (steps : List Step) (state : State),
    Follows state (layoutSteps state.metrics.receiver state.metrics.opened steps)
      (runSteps state steps)
  | [], state => follows_idle state .returned
  | step :: rest, state => follows_cons (follows_step step state) (follows_steps rest)

end

namespace State

/-- How steps lie when they run from a state. -/
def layout (state : State) (steps : List Step) : Layout :=
  layoutSteps state.metrics.receiver state.metrics.opened steps

/-- The log that steps leave when they run from a state. -/
def log (state : State) (steps : List Step) : List Entry :=
  state.desk.log (state.layout steps).actions

/-- The actions of steps that run from a state, without scopes. -/
def bare (state : State) (steps : List Step) : List Step :=
  (state.layout steps).actions.map fun placed => .act placed.action

end State

/-- Actions without scopes lie one after another in the scope around them all. -/
theorem layoutSteps_map_act (around : Option Nat) (number : Nat) (actions : List Placed) :
    layoutSteps around number (actions.map fun placed => .act placed.action) =
      ⟨actions.map fun placed => ⟨around, placed.action⟩, number, .returned⟩ := by
  induction actions with
  | nil => rfl
  | cons placed rest ih => simp [layoutSteps, layoutStep, ih]

/-- A desk does not know where its actions lie. -/
theorem Desk.deeds_replaced (desk : Desk) (around : Option Nat) (actions : List Placed) :
    (desk.log (actions.map fun placed => ⟨around, placed.action⟩)).map Entry.deed =
        (desk.log actions).map Entry.deed ∧
      desk.after (actions.map fun placed => ⟨around, placed.action⟩) = desk.after actions := by
  induction actions generalizing desk with
  | nil => exact ⟨rfl, rfl⟩
  | cons placed rest ih =>
      exact ⟨congrArg (_ :: ·) (ih _).1, (ih _).2⟩

/-- A receiver that serves some of the scopes is handed what is reported in them. -/
theorem map_filter_deliveries (emissions : List (Option Nat × Event)) (serves : Nat → Bool) :
    ((deliveries emissions).filter fun delivery => serves delivery.1).map Prod.snd =
      (emissions.filter fun emission => emission.1.any serves).map Prod.snd := by
  induction emissions with
  | nil => rfl
  | cons emission rest ih =>
      obtain ⟨place, event⟩ := emission
      cases place with
      | none => simpa [deliveries] using ih
      | some scope =>
          cases served : serves scope with
          | false => simpa [deliveries, served] using ih
          | true => simpa [deliveries, served] using ih

/-- Steps that run from a state leave their log with the receivers of their scopes, and beside that
what their actions leave without scopes. -/
structure Routed (state : State) (steps : List Step) (outcome : Outcome) : Prop where
  delivered : outcome.state.metrics.received =
    state.metrics.received ++ deliveries (emissions (state.log steps))
  handed : ∀ serves : Nat → Bool, outcome.state.metrics.handedTo serves =
    state.metrics.handedTo serves ++
      ((emissions (state.log steps)).filter fun emission => emission.1.any serves).map Prod.snd
  tally : outcome.state.metrics.tally = (state.log steps).foldl Entry.counted state.metrics.tally
  receiver : outcome.state.metrics.receiver = state.metrics.receiver
  desk : outcome.state.desk = (runSteps state (state.bare steps)).state.desk
  answers : (Answer.singles outcome.answers).map Answer.unread =
    (Answer.singles (runSteps state (state.bare steps)).answers).map Answer.unread

/-- Scopes hand every event to one receiver, and do nothing else. -/
theorem routed (state : State) (steps : List Step) : Routed state steps (runSteps state steps) := by
  have ran := follows_steps steps state
  have plain := follows_steps (state.bare steps) state
  have replaced := state.desk.deeds_replaced state.metrics.receiver (state.layout steps).actions
  have around : layoutSteps state.metrics.receiver state.metrics.opened (state.bare steps) =
      ⟨_, _, _⟩ := layoutSteps_map_act _ _ _
  rw [around] at plain
  exact {
    delivered := ran.received
    handed := by
      intro serves
      rw [Metrics.handedTo, ran.received, List.filter_append, List.map_append,
        map_filter_deliveries]
      rfl
    tally := ran.tally
    receiver := ran.receiver
    desk := ran.desk.trans (replaced.2.symm.trans plain.desk.symm)
    answers := by
      have deeds := congrArg (List.map fun deed => deed.answer.unread) replaced.1
      rw [List.map_map, List.map_map] at deeds
      exact ran.answers.trans (deeds.symm.trans plain.answers.symm) }

end KeysetPaging.Session
