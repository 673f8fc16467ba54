import Recollection.Contract.Basic
import Recollection.Identity.Identifier
import Recollection.Memory.Layer
/-!
# The retrieval boundary

A query finds memories of one space and gets them page by page, the best first. Hits are ordered by
descending score, and hits of one score by identifier; scores are compared in the total order of
binary64 numbers. A page may be followed by another one, which its cursor asks for.
-/

set_option autoImplicit false

namespace Recollection.Retrieval

/-- The greatest size of a page. -/
def maxLimit : UInt32 := 1000

/-- Query one space. -/
structure Request where
  /-- The space to search. -/
  spaceId : SpaceId
  /-- The text to look for. -/
  query : String
  /-- The size of the page. -/
  limit : UInt32
  /-- Where the page begins, as an earlier response said. -/
  cursor : Option String
deriving DecidableEq

/-- A memory that was found. -/
structure Hit where
  /-- The memory. -/
  memoryId : MemoryId
  /-- Its layer. -/
  layer : MemoryLayer
  /-- How well it answers the query. -/
  score : Binary64
deriving DecidableEq

/-- One page of hits. -/
structure Response where
  /-- The space searched. -/
  spaceId : SpaceId
  /-- The hits on this page. -/
  hits : List Hit
  /-- The number of hits on all pages. -/
  totalHits : UInt64
  /-- Where the next page begins, if there is one. -/
  nextCursor : Option String
deriving DecidableEq

/-! ## Order of hits -/

/-- Compares hits by descending score and then by identifier. -/
def Hit.compare (a b : Hit) : Ordering :=
  (Ord.compare b.score.rank a.score.rank).then (Ord.compare a.memoryId b.memoryId)

/-- Whether a hit may stand before another one. -/
def Hit.notAfter (a b : Hit) : Bool :=
  (a.compare b).isLE

/-- Puts hits in order, keeping the order of hits that compare equal. -/
def rankHits (hits : List Hit) : List Hit :=
  hits.mergeSort Hit.notAfter

/-! ## Contracts -/

/-- The shape of a hit. -/
def Hit.shape : Shape Hit :=
  .record
    (.required "memoryId" (.leaf (Identifier.leaf .memory)) <|
      .required "layer" (.leaf MemoryLayer.leaf) <|
      .required "score" (.leaf .number) .done)
    (fun (memoryId, layer, score, ()) => ⟨memoryId, layer, score⟩)
    (fun hit => (hit.memoryId, hit.layer, hit.score, ()))

/-- The contract of queries: the text is visible, the page is neither empty nor too large, and a
cursor is visible too. -/
def Request.contract : Contract Request where
  name := "RetrievalRequest"
  shape := .record
    (.required "spaceId" (.leaf (Identifier.leaf .space)) <|
      .required "query" (.leaf .text) <|
      .required "limit" (.leaf .word32) <|
      .optional "cursor" .omitted (.leaf .text) .done)
    (fun (spaceId, query, limit, cursor, ()) => ⟨spaceId, query, limit, cursor⟩)
    (fun request => (request.spaceId, request.query, request.limit, request.cursor, ()))
  check request := do
    requireVisible (Path.root.member "query") request.query
    if request.limit < 1 ∨ maxLimit < request.limit then
      .error ⟨Path.root.member "limit", "an integer in 1..=" ++ toString maxLimit.toNat,
        toString request.limit.toNat⟩
    match request.cursor with
    | some cursor => requireVisible (Path.root.member "cursor") cursor
    | none => .ok ()

/-- The hits from `index` on are in order, `last` being the hit before them. -/
def requireOrder (path : Path) : Nat → Hit → List Hit → Except Mismatch Unit
  | _, _, [] => .ok ()
  | index, last, hit :: rest =>
    if last.compare hit = .gt then
      .error ⟨path.item index, "hits ordered by descending score, then ascending memory id",
        hit.memoryId.text ++ " ranked after " ++ last.memoryId.text⟩
    else requireOrder path (index + 1) hit rest

/-- The hits of a page are in order. -/
def requireRanked (path : Path) : List Hit → Except Mismatch Unit
  | [] => .ok ()
  | hit :: rest => requireOrder path 1 hit rest

/-- The contract of pages: scores are in range, no memory is found twice, the hits are in order,
and there are no more of them than hits in total. -/
def Response.contract : Contract Response where
  name := "RetrievalResponse"
  shape := .record
    (.required "spaceId" (.leaf (Identifier.leaf .space)) <|
      .required "hits" (.list Hit.shape) <|
      .required "totalHits" (.leaf .word64) <|
      .optional "nextCursor" .null (.leaf .text) .done)
    (fun (spaceId, hits, totalHits, nextCursor, ()) => ⟨spaceId, hits, totalHits, nextCursor⟩)
    (fun response => (response.spaceId, response.hits, response.totalHits, response.nextCursor,
      ()))
  check response := do
    let path := Path.root.member "hits"
    requireScores path 0 (response.hits.map Hit.score)
    requireDistinct Identifier.text path (response.hits.map Hit.memoryId)
    requireRanked path response.hits
    if response.totalHits.toNat < response.hits.length then
      .error ⟨Path.root.member "totalHits",
        "at least the " ++ toString response.hits.length ++ " hits returned",
        toString response.totalHits.toNat⟩

/-! ## Answers to queries -/

/-- A page without hits. -/
def Response.empty (spaceId : SpaceId) : Response :=
  ⟨spaceId, [], 0, none⟩

/-- Whether a page answers a query: it is about the space asked for and not too large. -/
def Response.conformsTo (response : Response) (request : Request) : Except Rejection Unit :=
  Except.mapError Response.contract.pairingRejection do
    if response.spaceId ≠ request.spaceId then
      .error ⟨Path.root.member "spaceId", "the requested space " ++ request.spaceId.text,
        response.spaceId.text⟩
    if request.limit.toNat < response.hits.length then
      .error ⟨Path.root.member "hits", "at most " ++ toString request.limit.toNat ++ " hits",
        toString response.hits.length ++ " hits"⟩

end Recollection.Retrieval
