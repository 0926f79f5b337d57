/-
**A store in the same process answers every call, at once and without failure.**

* `Store.after` is the store that a call leaves, and only `put` and `delete` leave another one;
* `Store.reply` is the answer to a call;
* `Store.events` is what a log shows of it.
-/

import SecondaryIndex.Event
import SecondaryIndex.Store.Lookup
import SecondaryIndex.Store.Request
import SecondaryIndex.Store.Update

namespace SecondaryIndex.Store

/-- The store after a call. -/
def after (store : Store) : Request → Store
  | .put write => store.put write
  | .delete keyspace id paths => store.delete keyspace id paths
  | _ => store

/-- The answer to a call. -/
def reply (store : Store) : (request : Request) → request.Answer
  | .connection => ()
  | .intersect keys => store.intersect keys
  | .union keys => store.union keys
  | .within key circle limit => store.within key circle limit
  | .fieldsOf keys => keys.map store.fieldsAt
  | .pageOf keyspace page => store.pageOf keyspace page
  | .count keyspace => store.count keyspace
  | .get keyspace id => store.get? keyspace id
  | .put _ => ()
  | .delete keyspace id paths => (store.removal keyspace id paths).status

/-- What a log shows of a call, under the label of the store. -/
def events (store : Store) (label : String) : Request → List Event
  | .put write => [.entityWritten label write.keyspace write.indexes.length none]
  | .delete keyspace id paths =>
    [.entityRemoved label keyspace (store.removal keyspace id paths).existed]
  | _ => []

end SecondaryIndex.Store
