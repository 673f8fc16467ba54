import Recollection.Number.Reading
import Recollection.Service.Basic
import Recollection.Service.InMemory.State
/-!
# Retrieval in memory

A memory answers a query if they share a word. Its score is the share of the words of the query that
it holds, and a cursor is the position of the first hit of a page, in decimal digits.
-/

set_option autoImplicit false

namespace Recollection.InMemory

open Retrieval (Hit QueryRefusal)

/-- The hit that a memory makes, if it shares a word with those that are wanted. -/
def hit? (wanted : Terms) (id : MemoryId) (memory : StoredMemory) : Option Hit :=
  let score := wanted.overlap memory.terms
  if Binary64.zero.lt score then some ⟨id, memory.layer, score⟩ else none

/-- Every hit of a query in a store, in order. -/
def allHits (store : Store) (spaceId : SpaceId) (query : String) : List Hit :=
  let wanted := Terms.ofText query
  Retrieval.rankHits
    ((store.inSpace spaceId).filterMap fun (id, memory) => hit? wanted id memory)

/-- The position at which a page begins. -/
def offset? (cursor : Option String) : Except String Nat :=
  match cursor with
  | none => .ok 0
  | some text =>
    match Numeral.readUInt64? text with
    | some position => .ok position.toNat
    | none => .error ("cursor `" ++ text ++ "` is not a page offset")

/-- The page of some hits that begins at a position. -/
def page (spaceId : SpaceId) (limit offset : Nat) (hits : List Hit) :
    Except String Retrieval.Response :=
  let total := hits.length
  if total < offset then
    .error ("cursor `" ++ toString offset ++ "` is past the last of " ++ toString total ++ " hits")
  else
    let stop := min (offset + limit) total
    .ok {
      spaceId
      hits := (hits.drop offset).take (stop - offset)
      totalHits := .ofNat total
      nextCursor := if stop < total then some (toString stop) else none }

/-- Answers a query from a store, or says why it cannot be run. -/
def answerQuery (maxLimit : UInt32) (store : Store) (request : Retrieval.Request) :
    Except String Retrieval.Response := do
  if maxLimit < request.limit then
    .error ("limit " ++ toString request.limit.toNat ++ " exceeds the configured maximum of " ++
      toString maxLimit.toNat)
  let offset ← offset? request.cursor
  page request.spaceId request.limit.toNat offset (allHits store request.spaceId request.query)

/-- Answers a query from a store. -/
def query (maxLimit : UInt32) (store : Store) (request : Retrieval.Request) :
    Except Retrieval.Fault Retrieval.Response := do
  (Retrieval.Request.contract.validate request).mapError .rejected
  (answerQuery maxLimit store request).mapError fun reason => .refused ⟨request.spaceId, reason⟩

/-- Retrieval over the shared store, with pages up to a maximum. -/
def retrieval (maxLimit : UInt32) : RetrievalService State where
  query _ request state := (query maxLimit state.store request, state)

end Recollection.InMemory
