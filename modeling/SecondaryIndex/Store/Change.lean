/-
**Changing single keys of a store, beside all entities.**

* `Change.apply` makes a change;
* `Change.hasEffect` tells whether there is anything to change: a member that is not there yet, or
  something that is there to be removed.

Such changes can leave what no sequence of entity updates leaves, for instance registered ids
without fields.
-/

import SecondaryIndex.Store.Basic

namespace SecondaryIndex

/-- A change of single keys. -/
inductive Change where
  | addMember (key member : Bytes)
  | removeMember (key member : Bytes)
  /-- Also fields of which there are none make the key exist. -/
  | setFields (key : Bytes) (fields : Fields)
  | dropFields (key : Bytes)
  /-- Removes every key. -/
  | clear

namespace Change

/-- The store after a change. -/
def apply (store : Store) : Change → Store
  | .addMember key member => store.addMember key member
  | .removeMember key member => store.removeMember key member
  | .setFields key fields => store.setFields key fields
  | .dropFields key => store.dropFields key
  | .clear => .empty

/-- The change finds something to add or to remove. -/
def hasEffect (store : Store) : Change → Bool
  | .addMember key member => member ∉ store.members key
  | .removeMember key member => member ∈ store.members key
  | .dropFields key => store.fields.contains key
  | .setFields .. | .clear => true

end Change

end SecondaryIndex
