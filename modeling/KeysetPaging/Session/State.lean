import KeysetPaging.Json.Form
import KeysetPaging.Metrics
import KeysetPaging.Query.Draft
import KeysetPaging.Table

/-!
# Sessions

What a client works with over several steps is a desk: a policy, a store, and the query, the page and
the token that it made last. The metrics of a session stand beside its desk, and nothing on the desk
knows of them.
-/

namespace KeysetPaging.Session

structure Desk where
  policy : Policy
  store : Store
  query : Option Query
  page : Option (Page Row)
  token : Option String

def Desk.start (policy : Policy) (table : Table) : Desk where
  policy := policy
  store := Store.ofTable table
  query := none
  page := none
  token := none

/-- A token, by its text or by where it came from. -/
inductive TokenRef where
  | literal (text : String)
  | lastMade
  | ofPage (neighbour : Neighbour)

/-- The text of a token, if there is one. -/
def Desk.token? (desk : Desk) : TokenRef → Option String
  | .literal text => some text
  | .lastMade => desk.token
  | .ofPage .prev => desk.page.bind Page.prevCursor
  | .ofPage .next => desk.page.bind Page.nextCursor

structure State where
  desk : Desk
  metrics : Metrics

def State.start (policy : Policy) (table : Table) : State where
  desk := .start policy table
  metrics := .start

end KeysetPaging.Session
