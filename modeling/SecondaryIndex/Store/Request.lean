/-
**What queries ask of a store, and how a store or a query fails.**

* a `Request` is one call of a store, and `Request.Answer` the type of its answer;
* `Request.name` is the name under which a log shows the call;
* a `StoreError` says why a call failed, a `QueryError` why a query did. A remote server's own words
  are not kept, so its errors have no message.
-/

import SecondaryIndex.Entity.Basic
import SecondaryIndex.Page
import SecondaryIndex.Record

namespace SecondaryIndex

/-- One call of a store. -/
inductive Request where
  /-- A connection, needed before any of the four look-ups that follow. -/
  | connection
  | intersect (keys : List Bytes)
  | union (keys : List Bytes)
  | within (key : Bytes) (circle : Circle) (limit : Option Nat)
  /-- The fields at each of some keys. -/
  | fieldsOf (keys : List Bytes)
  | pageOf (keyspace : Keyspace) (page : Page)
  | count (keyspace : Keyspace)
  | get (keyspace : Keyspace) (id : Bytes)
  | put (write : Write)
  | delete (keyspace : Keyspace) (id : Bytes) (paths : List String)

namespace Request

/-- The type of the answers to a call. -/
@[reducible] def Answer : Request → Type
  | .connection => Unit
  | .intersect _ => List Bytes
  | .union _ => List Bytes
  | .within .. => List Bytes
  | .fieldsOf _ => List Fields
  | .pageOf .. => List Record
  | .count _ => Nat
  | .get .. => Option Record
  | .put _ => Unit
  | .delete .. => DeleteStatus

/-- The kinds of calls. -/
inductive Kind where
  | connection
  | intersect
  | union
  | within
  | fieldsOf
  | pageOf
  | count
  | get
  | put
  | delete
deriving DecidableEq

/-- The kind of a call. -/
def kind : Request → Kind
  | .connection => .connection
  | .intersect _ => .intersect
  | .union _ => .union
  | .within .. => .within
  | .fieldsOf _ => .fieldsOf
  | .pageOf .. => .pageOf
  | .count _ => .count
  | .get .. => .get
  | .put _ => .put
  | .delete .. => .delete

/-- The name of a kind of call in a log. -/
def Kind.name : Kind → String
  | .connection => "connection"
  | .intersect => "intersect"
  | .union => "union"
  | .within => "geo_radius"
  | .fieldsOf => "hash_get_all"
  | .pageOf => "get_all_of"
  | .count => "count"
  | .get => "get"
  | .put => "put"
  | .delete => "delete"

end Request

/-- Why a call of a store failed. -/
inductive StoreError where
  /-- The store could not be reached. -/
  | connection (detail : Option String)
  /-- The store was reached, but the call went wrong. -/
  | internal (detail : Option String)
  | conversion (error : ConversionError)
deriving DecidableEq

/-- The wording of a failed call, if it has one. -/
def StoreError.message? : StoreError → Option String
  | .connection detail => detail
  | .internal detail => detail
  | .conversion error => some error.message

/-- Why a query failed. -/
inductive QueryError where
  | store (error : StoreError)
  /-- A path does not fit the schema; the store was not asked anything. -/
  | mapping (error : MappingError)
  | conversion (error : ConversionError)
deriving DecidableEq

/-- The wording of a failed query, if it has one. -/
def QueryError.message? : QueryError → Option String
  | .store error => error.message?
  | .mapping error => some error.message
  | .conversion error => some error.message

end SecondaryIndex
