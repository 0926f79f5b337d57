/-
**Queries as dialogues with a store.**

A `Querying` computation asks a store calls, lets events and measures be observed, and may fail. It
does not say which store answers; `call` and `report` are its two steps.
-/

import SecondaryIndex.Dialogue
import SecondaryIndex.Event
import SecondaryIndex.Store.Request

namespace SecondaryIndex

/-- A computation that asks a store calls. -/
abbrev Querying := Dialogue Request.Answer Observation QueryError

/-- Asks a store a single call. -/
def call (request : Request) : Querying request.Answer :=
  Dialogue.request request

/-- Lets an event be observed. -/
def report (event : Event) : Querying Unit :=
  Dialogue.observe (.event event)

end SecondaryIndex
