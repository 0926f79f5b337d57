/-
**A line to a remote store whose replies are known beforehand.**

* a `Link` has the replies that are still to come and keeps the commands that were sent;
* `Link.transmit` makes a trip. Each command takes one reply, a block takes one reply for all its
  commands, and where no reply is left the answer is an error;
* a store may also drop the line: the trip fails, and what was to be sent after that is not.
-/

import SecondaryIndex.Remote.Exchange

namespace SecondaryIndex.Remote

/-- What a store does when a command reaches it. -/
inductive Reaction where
  | answers (reply : Reply)
  | hangsUp

/-- A line to a remote store. -/
structure Link where
  /-- The store can be reached at all. -/
  reachable : Bool
  /-- The store has been reached. -/
  isOpen : Bool
  /-- What the store will do, command by command. -/
  reactions : List Reaction
  /-- The commands that the store got, in their order. -/
  sent : List (List Bytes)

namespace Link

/-- The line could not be used. -/
def broken {α : Type} : Except StoreError α :=
  .error (.connection none)

/-- An error reply, or a reply that does not fit. -/
def refused {α : Type} : Except StoreError α :=
  .error (.internal none)

/-- What a store says when it has no reply left. -/
def exhausted : Reaction :=
  .answers (.error "no reply")

/-- The line after the store got some words. -/
def record (link : Link) (words : List Bytes) : Link :=
  { link with sent := link.sent ++ [words] }

/-- The next reaction, and the line after it. -/
def react (link : Link) : Reaction × Link :=
  match link.reactions with
  | [] => (exhausted, link)
  | reaction :: rest => (reaction, { link with reactions := rest })

/-- The reply to some words. -/
def exchange (link : Link) (words : List Bytes) : Except StoreError Reply × Link :=
  match (link.record words).react with
  | (.answers reply, link) => (.ok reply, link)
  | (.hangsUp, link) => (broken, link)

/-- A reply that is no error. -/
def accepted : Except StoreError Reply × Link → Except StoreError Reply × Link
  | (.ok reply, link) => (if reply.isError then refused else .ok reply, link)
  | (.error error, link) => (.error error, link)

/-- The replies to commands that are sent together. -/
def exchangeAll (link : Link) : List Command → Except StoreError (List Reply) × Link
  | [] => (.ok [], link)
  | command :: rest =>
    match link.exchange command.words with
    | (.ok reply, link) =>
      match link.exchangeAll rest with
      | (.ok replies, link) => (.ok (reply :: replies), link)
      | (.error error, link) => (.error error, link)
    | (.error error, link) => (.error error, link)

/-- Replies of which none is an error. -/
def acceptedAll : Except StoreError (List Reply) × Link → Except StoreError (List Reply) × Link
  | (.ok replies, link) => (if replies.any Reply.isError then refused else .ok replies, link)
  | (.error error, link) => (.error error, link)

/-- Makes a trip. -/
def transmit : (transmission : Transmission) → Link → Except StoreError transmission.Answer × Link
  | .opened, link => (.ok link.isOpen, link)
  | .opening, link =>
    if link.reachable then (.ok (), { link with isOpen := true }) else (broken, link)
  | .single command, link => accepted (link.exchange command.words)
  | .pipeline commands, link => acceptedAll (link.exchangeAll commands)
  | .block commands, link =>
    let sent := (beginWords :: commands.map Command.words).foldl record link
    accepted (sent.exchange commitWords)

end Link

end SecondaryIndex.Remote
