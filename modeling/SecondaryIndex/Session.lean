/-
**A session: queries held with one store after the other call, and an account of each.**

* a `Backend` is a store in the same process or a line to a remote one;
* a `Session` adds the label of the store, the calls that are made to fail, and the running totals;
* `Session.hold` holds a query. Its `Account` lists the calls in order, failed ones included, and
  what could be observed;
* a call that is made to fail is still listed, but the store never sees it.
-/

import SecondaryIndex.Query.Basic
import SecondaryIndex.Remote.Link
import SecondaryIndex.Store.Local

namespace SecondaryIndex

/-- Where a session keeps its entities. -/
inductive Backend where
  | inProcess (store : Store)
  | remote (link : Remote.Link)

/-- Calls that are made to fail. -/
structure Refusal where
  kinds : List Request.Kind
  error : StoreError

/-- No call is made to fail. -/
def Refusal.empty : Refusal :=
  ⟨[], .connection none⟩

/-- A store in use. -/
structure Session where
  /-- The name of the store in a log. -/
  label : String
  backend : Backend
  refusal : Refusal
  metrics : Metrics

/-- What a log shows of a query. -/
structure Account where
  calls : List Request
  events : List Event

/-- A session in the middle of a query. -/
structure Progress where
  session : Session
  account : Account

namespace Backend

/-- The answer to a call, the events on the way to it, and the backend after it. -/
def answer (label : String) (request : Request) :
    Backend → Except StoreError request.Answer × List Event × Backend
  | .inProcess store =>
    (.ok (store.reply request), store.events label request, .inProcess (store.after request))
  | .remote link =>
    let (outcome, events, link) :=
      (Remote.Exchange.reply label request).run
        (fun transmission (state : List Event × Remote.Link) =>
          let (outcome, link) := Remote.Link.transmit transmission state.2
          (outcome, state.1, link))
        (fun event state => (state.1 ++ [event], state.2))
        ([], link)
    (outcome, events, .remote link)

end Backend

namespace Session

/-- A session with an empty store in the same process. -/
def inProcess (label : String) : Session :=
  ⟨label, .inProcess .empty, .empty, .empty⟩

/-- A session with a line to a remote store. -/
def remote (label : String) (link : Remote.Link) : Session :=
  ⟨label, .remote link, .empty, .empty⟩

/-- A call and its answer, in the middle of a query. -/
def answer (request : Request) (progress : Progress) :
    Except QueryError request.Answer × Progress :=
  let session := progress.session
  let account := { progress.account with calls := progress.account.calls ++ [request] }
  if request.kind ∈ session.refusal.kinds then
    (.error (.store session.refusal.error), ⟨session, account⟩)
  else
    let (outcome, events, backend) := session.backend.answer session.label request
    (outcome.mapError .store,
      ⟨{ session with backend := backend }, { account with events := account.events ++ events }⟩)

/-- An observation, in the middle of a query. -/
def see (seen : Observation) (progress : Progress) : Progress where
  session := { progress.session with metrics := progress.session.metrics.observe seen }
  account :=
    match seen with
    | .event event => { progress.account with events := progress.account.events ++ [event] }
    | _ => progress.account

/-- Holds a query. -/
def hold {α : Type} (session : Session) (query : Querying α) : Except QueryError α × Progress :=
  query.run answer see ⟨session, ⟨[], []⟩⟩

end Session

end SecondaryIndex
