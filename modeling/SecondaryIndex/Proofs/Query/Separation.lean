/-
**Keyspaces that are apart do not interfere.**

All keyspaces share the tables of a store, and an update leaves sets whose keys it reads from the
store. Still the keys of one keyspace hold, in the same order, what its own updates alone would have
left, and no question about it can tell the difference:

* `Neighbourly.sameAt_inside` — what is at the keys of a keyspace, the order of members included;
* `Request.About` and `Querying.Confined` — a call that reads keys of one keyspace only, and a query
  all of whose calls are of that kind;
* `Querying.Asks.eval_eq` — such a query ends alike on stores that have the same at the keys of that
  keyspace;
* `Catalogue.confined_findIn`, `Catalogue.confined_countIn` — looking for entities of a keyspace and
  counting them are such queries, whatever the criteria, the sorting and the page;
* `keyspaces_do_not_interfere` — after updates of two keyspaces, nothing that can be asked of one of
  them depends on the updates of the other.
-/

import SecondaryIndex.Proofs.Query.Calls
import SecondaryIndex.Proofs.Query.Local
import SecondaryIndex.Proofs.Store.Order

namespace SecondaryIndex

/-! ## Part 1 — what is at the keys of a keyspace -/

section Stores

variable {keyspace : Keyspace} {history : History} {update : Update} {place : Bytes}

/-- An update of another keyspace leaves everything at the keys of this one: its entity is in sets
of its own keyspace only. -/
theorem Neighbourly.sameAt_apply (neighbourly : Neighbourly keyspace (history ++ [update]))
    (apart : update.keyspace.Apart keyspace) (owned : keyspace.Owns place) :
    (update.apply history.store).SameAt history.store place := by
  have last : update ∈ history ++ [update] := List.mem_append_right _ List.mem_cons_self
  have foreign : ∀ {key}, update.keyspace.Owns key → place ≠ key :=
    fun owns equal => apart.not_owns owns (equal ▸ owned)
  have own : update.keyspace.helperKey update.id ∉ update.indexKeys := by
    intro named
    exact neighbourly.lists _ (List.mem_map.mpr ⟨update, last, rfl⟩)
      (List.mem_flatMap.mpr ⟨update, last, named⟩)
  refine Update.sameAt_apply own (foreign (update.keyspace.owns_helperKey _)) (foreign (.inl rfl))
    (fun named => foreign (Update.owns_of_mem_indexKeys named) rfl) ?_
    (foreign (update.keyspace.owns_entityKey _))
    fun entry _ => foreign (update.keyspace.owns_geoKey entry.path)
  -- the list of the entity names keys of its own keyspace
  rw [neighbourly.of_last.mem_members_inside (update.keyspace.owns_helperKey _),
    neighbourly.of_last.orderly_inside.mem_helper_store _ neighbourly.helperKey_notMem_indexKeys]
  rintro ⟨write, stands, named⟩
  obtain ⟨_, _, space⟩ := History.of_standing_inside stands
  have writes : write.keyspace.Owns place := (Update.put write).owns_of_mem_indexKeys named
  exact foreign (space ▸ writes) rfl

/-- **The keys of a keyspace hold what its own updates alone leave**, the order of members
included. -/
theorem Neighbourly.sameAt_inside (neighbourly : Neighbourly keyspace history)
    (owned : keyspace.Owns place) :
    history.store.SameAt (history.inside keyspace).store place := by
  induction history using List.reverseRecOn generalizing keyspace place with
  | nil => exact ⟨rfl, rfl, rfl⟩
  | append_singleton history update ih =>
    have last : update ∈ history ++ [update] := List.mem_append_right _ List.mem_cons_self
    rw [History.inside_concat]
    rcases neighbourly.own update last with rfl | apart
    · have own : update.keyspace.helperKey update.id ∉ update.indexKeys := by
        intro named
        exact neighbourly.lists _ (List.mem_map.mpr ⟨update, last, rfl⟩)
          (List.mem_flatMap.mpr ⟨update, last, named⟩)
      have list := (ih neighbourly.left (update.keyspace.owns_helperKey update.id)).members
      rw [if_pos rfl, History.store_concat, History.store_concat]
      exact Update.sameAt_apply_congr own list (ih neighbourly.left owned)
    · rw [if_neg apart.ne, History.store_concat]
      exact (neighbourly.sameAt_apply apart owned).trans (ih neighbourly.left owned)

/-- Neither run holds more than the other at a key of the keyspace. -/
theorem Neighbourly.equalAt_inside (neighbourly : Neighbourly keyspace history)
    (owned : keyspace.Owns place) :
    history.store.EqualAt (history.inside keyspace).store place :=
  (History.tidy_store _).equalAt (History.tidy_store _) (neighbourly.sameAt_inside owned)

/-- Stores that have the same at all keys of a keyspace. -/
def Keyspace.Agree (keyspace : Keyspace) (first second : Store) : Prop :=
  ∀ key, keyspace.Owns key → first.SameAt second key

end Stores

/-! ## Part 2 — calls about one keyspace -/

section Calls

variable {keyspace : Keyspace} {first second : Store} {request : Request}

/-- A call that reads, and only at keys of the keyspace. -/
def Request.About (keyspace : Keyspace) : Request → Prop
  | .connection => True
  | .intersect keys => ∀ key ∈ keys, keyspace.Owns key
  | .union keys => ∀ key ∈ keys, keyspace.Owns key
  | .within key _ _ => keyspace.Owns key
  | .fieldsOf keys => ∀ key ∈ keys, keyspace.Owns key
  | .pageOf space _ => space = keyspace
  | .count space => space = keyspace
  | .get space _ => space = keyspace
  | .put _ => False
  | .delete .. => False

theorem Keyspace.Agree.get?_eq (agree : keyspace.Agree first second) (id : Bytes) :
    first.get? keyspace id = second.get? keyspace id := by
  rw [Store.get?, Store.get?, Store.fieldsAt, Store.fieldsAt,
    (agree _ (keyspace.owns_entityKey id)).fields]

theorem Keyspace.Agree.intersect_eq (agree : keyspace.Agree first second) {keys : List Bytes}
    (owned : ∀ key ∈ keys, keyspace.Owns key) : first.intersect keys = second.intersect keys := by
  cases keys with
  | nil => rfl
  | cons key rest =>
    rw [List.forall_mem_cons] at owned
    have others : ∀ other ∈ rest, first.members other = second.members other :=
      fun other listed => (agree other (owned.2 other listed)).members
    rw [Store.intersect, Store.intersect, (agree key owned.1).members]
    refine List.filter_congr fun member _ => ?_
    rw [Bool.eq_iff_iff, List.all_eq_true, List.all_eq_true]
    refine forall₂_congr fun other listed => ?_
    rw [others other listed]

theorem Keyspace.Agree.union_eq (agree : keyspace.Agree first second) {keys : List Bytes}
    (owned : ∀ key ∈ keys, keyspace.Owns key) : first.union keys = second.union keys := by
  have members : keys.flatMap (fun key => (first.members key).toList) =
      keys.flatMap fun key => (second.members key).toList :=
    List.flatMap_congr fun key listed => by rw [(agree key (owned key listed)).members]
  rw [Store.union, Store.union, members]

/-- **A call about a keyspace has the same answer** wherever the keys of the keyspace hold the same,
and it changes nothing. -/
theorem Keyspace.Agree.reply_eq (agree : keyspace.Agree first second)
    (about : request.About keyspace) :
    first.reply request = second.reply request ∧ first.after request = first ∧
      second.after request = second := by
  refine ⟨?_, ?_, ?_⟩
  · cases request with
    | connection => rfl
    | intersect keys => exact agree.intersect_eq about
    | union keys => exact agree.union_eq about
    | within key circle limit =>
      show first.within key circle limit = second.within key circle limit
      rw [Store.within, Store.within, (agree key about).positions]
    | fieldsOf keys =>
      refine List.map_congr_left fun key listed => ?_
      rw [Store.fieldsAt, Store.fieldsAt, (agree key (about key listed)).fields]
    | pageOf space page =>
      subst about
      show first.pageOf space page = second.pageOf space page
      rw [Store.pageOf, Store.pageOf, (agree _ (.inl rfl)).members, funext agree.get?_eq]
    | count space =>
      subst about
      show first.count space = second.count space
      rw [Store.count, Store.count, (agree _ (.inl rfl)).members]
    | get space id =>
      subst about
      exact agree.get?_eq id
    | put write => cases about
    | delete space id paths => cases about
  all_goals
    cases request with
    | put write => cases about
    | delete space id paths => cases about
    | _ => rfl

end Calls

/-! ## Part 3 — queries about one keyspace -/

namespace Querying

variable {α : Type} {keyspace : Keyspace}

/-- All calls of a query are about the keyspace. -/
abbrev Confined (keyspace : Keyspace) (query : Querying α) : Prop :=
  query.Asks (Request.About keyspace) fun _ => True

/-- **A query about a keyspace ends alike** on stores that have the same at the keys of that
keyspace. -/
theorem Asks.eval_eq {query : Querying α} {holds : α → Prop} {first second : Store}
    (confined : query.Asks (Request.About keyspace) holds)
    (agree : keyspace.Agree first second) :
    (query.eval first).1 = (query.eval second).1 := by
  induction query with
  | done value => rfl
  | fail error => rfl
  | note seen query ih => exact ih confined
  | ask request query ih =>
    obtain ⟨same, firstStays, secondStays⟩ := agree.reply_eq confined.1
    show (eval (query (first.reply request)) (first.after request)).1 =
      (eval (query (second.reply request)) (second.after request)).1
    rw [firstStays, secondStays, same]
    exact ih _ (confined.2 _)

end Querying

/-! ## Part 4 — looking for entities, and counting them -/

namespace Catalogue

variable {catalogue : Catalogue} {keyspace : Keyspace} {plan : Plan} {group : Group}

open Querying

theorem confined_common (owned : ∀ key ∈ group.keys, keyspace.Owns key) :
    Confined keyspace (common group) := by
  unfold common
  split
  · trivial
  · exact ⟨owned, fun _ => trivial⟩

theorem confined_joint (owned : ∀ key ∈ group.keys, keyspace.Owns key) :
    Confined keyspace (joint group) := by
  unfold joint
  split
  · trivial
  · exact ⟨owned, fun _ => trivial⟩

theorem confined_inArea {area? : Option Area} (limit : Option Nat)
    (owned : ∀ area, area? = some area → keyspace.Owns area.key) :
    Confined keyspace (inArea limit area?) := by
  cases area? with
  | none => trivial
  | some area => exact ⟨owned area rfl, fun _ => trivial⟩

theorem confined_collect (about : plan.About keyspace) (limit : Option Nat) :
    Confined keyspace (collect plan limit) :=
  (confined_common about.all).bind fun _ _ =>
    (confined_joint about.any).bind fun _ _ =>
      (confined_inArea limit about.near).bind fun _ _ => trivial

theorem confined_findPage (page : Page) : Confined keyspace (catalogue.findPage keyspace page) :=
  ⟨rfl, fun records => (catalogue.settles_mapM_load records).asks.bind fun _ _ => trivial⟩

/-- The fields of entities are at keys of their keyspace. -/
theorem owns_of_mem_entityKeys {ids : List Bytes} {key : Bytes}
    (listed : key ∈ ids.map keyspace.entityKey) : keyspace.Owns key := by
  obtain ⟨id, _, rfl⟩ := List.mem_map.mp listed
  exact keyspace.owns_entityKey id

theorem confined_findPlanned (about : plan.About keyspace) (page : Page) :
    Confined keyspace (catalogue.findPlanned keyspace plan page) :=
  ⟨trivial, fun _ => (confined_collect about _).bind fun _ _ =>
    ⟨fun _ => owns_of_mem_entityKeys, fun _ => (catalogue.settles_loadAll keyspace _).asks⟩⟩

/-- **Looking for entities of a keyspace asks about that keyspace only**, whatever is looked for. -/
theorem confined_findIn (catalogue : Catalogue) (keyspace : Keyspace) (criteria : Criteria)
    (sorting : Option (Sorting Json)) (page : Page) :
    Confined keyspace (catalogue.findIn keyspace criteria sorting page) := by
  rw [findIn]
  split
  · exact Asks.bind (confined_findPage page) fun _ _ => trivial
  · refine (Plan.asks_resolve criteria).bind fun plan about => ?_
    exact Asks.bind (confined_findPlanned about page) fun _ _ => trivial

theorem confined_stored (ids : List Bytes) : Confined keyspace (stored keyspace ids) := by
  unfold stored
  split
  · trivial
  · exact ⟨fun _ => owns_of_mem_entityKeys, fun _ => trivial⟩

theorem confined_countGroup {members : Querying (List Bytes)}
    (asked : Confined keyspace members) :
    Confined keyspace (countGroup keyspace group members) :=
  asked.bind fun _ _ => (confined_stored group.direct).bind fun _ _ => trivial

/-- **Counting entities of a keyspace asks about that keyspace only.** -/
theorem confined_countIn (catalogue : Catalogue) (keyspace : Keyspace) (criteria : Criteria) :
    Confined keyspace (catalogue.countIn keyspace criteria) := by
  rw [countIn]
  show Confined keyspace (if _ then _ else _)
  split
  · exact ⟨rfl, fun _ => trivial⟩
  · exact (Plan.asks_resolve criteria).bind fun plan about =>
      ⟨trivial, fun _ => (confined_countGroup (confined_common about.all)).bind fun _ _ =>
        (confined_countGroup (confined_joint about.any)).bind fun _ _ => trivial⟩

theorem confined_findById (catalogue : Catalogue) (id : IndexValue) :
    Confined catalogue.keyspace (catalogue.findById id) := by
  refine ⟨rfl, fun record? => ?_⟩
  cases record? with
  | none => trivial
  | some record => exact (catalogue.settles_load record).asks.bind fun _ _ => trivial

end Catalogue

/-! ## Part 5 — two keyspaces -/

/-- A removal of an id of the keyspace finds the same wherever the keys of the keyspace hold the
same. -/
theorem Keyspace.Agree.removal_eq {keyspace : Keyspace} {first second : Store} {id : Bytes}
    {paths : List String} (agree : keyspace.Agree first second)
    (unlisted : keyspace.registryKey ∉ second.members (keyspace.helperKey id)) :
    first.removal keyspace id paths = second.removal keyspace id paths := by
  have list := (agree _ (keyspace.owns_helperKey id)).members
  rw [Store.removal_eq (list ▸ unlisted), Store.removal_eq unlisted, (agree _ (.inl rfl)).members,
    ByteMap.contains, ByteMap.contains, (agree _ (keyspace.owns_entityKey id)).fields]

/-- **Two keyspaces that are apart do not interfere.** After any interleaving of updates of both,
the keys of the second one hold exactly what its own updates alone leave, so every way to look for its
entities, to load them and to count them ends alike, and every removal of one reports the same. -/
theorem keyspaces_do_not_interfere {first second : Keyspace} {history : History}
    (apart : first.Apart second)
    (two : ∀ update ∈ history, update.keyspace = first ∨ update.keyspace = second)
    (lists : ∀ key ∈ history.helperKeys, key ∉ history.indexKeys) :
    (∀ key, second.Owns key → history.store.EqualAt (history.inside second).store key) ∧
    (∀ (catalogue : Catalogue) criteria,
      (∀ sorting page,
        ((catalogue.findIn second criteria sorting page).eval history.store).1 =
          ((catalogue.findIn second criteria sorting page).eval (history.inside second).store).1) ∧
      ((catalogue.countIn second criteria).eval history.store).1 =
        ((catalogue.countIn second criteria).eval (history.inside second).store).1 ∧
      (catalogue.keyspace = second → ∀ id, ((catalogue.findById id).eval history.store).1 =
        ((catalogue.findById id).eval (history.inside second).store).1)) ∧
    (∀ id, history.store.get? second id = (history.inside second).store.get? second id) ∧
    (∀ page, history.store.pageOf second page = (history.inside second).store.pageOf second page) ∧
    history.store.count second = (history.inside second).store.count second ∧
    ∀ (earlier later : History) id paths, history = earlier ++ .delete second id paths :: later →
      (earlier.store.removal second id paths).status =
        ((earlier.inside second).store.removal second id paths).status := by
  have neighbourly : Neighbourly second history := by
    refine ⟨fun update listed => ?_, fun one oneListed other otherListed => ?_, lists⟩
    · rcases two update listed with same | same
      · exact .inr (same ▸ apart)
      · exact .inl same
    · rcases two one oneListed with same | same <;>
        rcases two other otherListed with otherSame | otherSame
      · exact .inl (same.trans otherSame.symm)
      · exact .inr (same ▸ otherSame ▸ apart)
      · exact .inr (same ▸ otherSame ▸ apart.symm)
      · exact .inl (same.trans otherSame.symm)
  have agree : second.Agree history.store (history.inside second).store :=
    fun key owned => neighbourly.sameAt_inside owned
  refine ⟨fun key owned => neighbourly.equalAt_inside owned, fun catalogue criteria =>
    ⟨?_, ?_, ?_⟩,
    agree.get?_eq, fun page => ?_, ?_, fun earlier later id paths split => ?_⟩
  · exact fun sorting page =>
      (catalogue.confined_findIn second criteria sorting page).eval_eq agree
  · exact (catalogue.confined_countIn second criteria).eval_eq agree
  · rintro rfl id
    exact (catalogue.confined_findById id).eval_eq agree
  · exact (@Keyspace.Agree.reply_eq _ _ _ (.pageOf second page) agree rfl).1
  · exact (@Keyspace.Agree.reply_eq _ _ _ (.count second) agree rfl).1
  · subst split
    have upTo : Neighbourly second (earlier ++ [.delete second id paths]) := by
      rw [← List.singleton_append, ← List.append_assoc] at neighbourly
      exact neighbourly.left
    have agreeBefore : second.Agree earlier.store (earlier.inside second).store :=
      fun key owned => upTo.left.sameAt_inside owned
    have unlisted : second.registryKey ∉
        (earlier.inside second).store.members (second.helperKey id) := by
      exact upTo.left.orderly_inside.registryKey_notMem_list upTo.helperKey_notMem_indexKeys
    rw [agreeBefore.removal_eq unlisted]

/-- Updates of two keyspaces whose names begin alike, in turns. -/
def turns : History :=
  [.put (.ofTexts "person" "1" [("city", "\"Tear\"")] [("city", "Tear")]
      [("location", some ⟨1.0, 2.0⟩)]),
    .put (.ofTexts "persons" "1" [("city", "\"Tear\"")] [("city", "Tear"), ("tag", "Tear")]
      [("location", none)]),
    .put (.ofTexts "persons" "2" [("city", "\"Tear\"")] [("city", "Tear")] []),
    .put (.ofTexts "person" "1" [("city", "\"Caemlyn\"")] [("city", "Caemlyn")]
      [("location", none)]),
    .delete ⟨"persons"⟩ (Bytes.ofString "1") ["location"],
    .delete ⟨"person"⟩ (Bytes.ofString "2") ["location"]]

theorem keyspaces_do_not_interfere_turns :
    Keyspace.Apart ⟨"person"⟩ ⟨"persons"⟩ ∧
      (∀ update ∈ turns, update.keyspace = ⟨"person"⟩ ∨ update.keyspace = ⟨"persons"⟩) ∧
      (∀ key ∈ turns.helperKeys, key ∉ turns.indexKeys) ∧
      (∀ key, Keyspace.Owns ⟨"persons"⟩ key →
        turns.store.EqualAt (turns.inside ⟨"persons"⟩).store key) ∧
      ∀ catalogue : Catalogue, ∀ criteria sorting page,
        ((catalogue.findIn ⟨"persons"⟩ criteria sorting page).eval turns.store).1 =
          ((catalogue.findIn ⟨"persons"⟩ criteria sorting page).eval
            (turns.inside ⟨"persons"⟩).store).1 := by
  have apart : Keyspace.Apart ⟨"person"⟩ ⟨"persons"⟩ := ⟨by decide, by decide, by decide⟩
  have two : ∀ update ∈ turns, update.keyspace = ⟨"person"⟩ ∨ update.keyspace = ⟨"persons"⟩ := by
    decide
  have lists : ∀ key ∈ turns.helperKeys, key ∉ turns.indexKeys := by decide
  obtain ⟨content, queries, _⟩ := keyspaces_do_not_interfere apart two lists
  exact ⟨apart, two, lists, content, fun catalogue criteria => (queries catalogue criteria).1⟩

end SecondaryIndex
