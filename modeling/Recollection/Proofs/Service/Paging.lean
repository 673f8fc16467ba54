import Recollection.Proofs.Boundary.Invariants
import Recollection.Proofs.Number.Reading
import Recollection.Proofs.Service.Hits
import Recollection.Proofs.Service.Transcript
/-!
# Paging

A client reads the hits of a query page by page: it asks without a cursor, and then with the cursor
of the page before until there is none. However large it wants each page to be, as long as the store
stays the same it gets every hit once and in order.
-/

set_option autoImplicit false

namespace Recollection.InMemory

open Retrieval (Hit)

/-! ## One page -/

/-- The hits from one position up to another, with a cursor to those that are left. -/
def cut (spaceId : SpaceId) (offset stop : Nat) (hits : List Hit) : Retrieval.Response where
  spaceId := spaceId
  hits := hits.extract offset stop
  totalHits := .ofNat hits.length
  nextCursor := if stop < hits.length then some (toString stop) else none

theorem hits_cut_sublist (spaceId : SpaceId) (offset stop : Nat) (hits : List Hit) :
    (cut spaceId offset stop hits).hits.Sublist hits := by
  rw [cut, List.extract_eq_take_drop]
  exact (List.take_sublist _ _).trans (List.drop_sublist _ _)

section Page

variable {spaceId : SpaceId} {limit offset : Nat} {hits : List Hit}

theorem page_eq_cut (hle : offset ≤ hits.length) :
    page spaceId limit offset hits =
      .ok (cut spaceId offset (min (offset + limit) hits.length) hits) := by
  rw [page, if_neg (Nat.not_lt_of_le hle)]
  rfl

variable (spaceId limit) in
theorem page_eq_error (hpast : hits.length < offset) :
    ∃ reason, page spaceId limit offset hits = .error reason := by
  rw [page, if_pos hpast]
  exact ⟨_, rfl⟩

end Page

section Query

variable {maxLimit : UInt32} {store : Store} {request : Retrieval.Request}

/-- A query within the limits is answered from where its cursor points to. -/
theorem query_eq (hvalid : Retrieval.Request.contract.validate request = .ok ())
    (hlimit : request.limit ≤ maxLimit) :
    query maxLimit store request =
      ((offset? request.cursor).bind fun offset =>
        page request.spaceId request.limit.toNat offset
          (allHits store request.spaceId request.query)).mapError
        fun reason => .refused ⟨request.spaceId, reason⟩ := by
  rw [query, hvalid, answerQuery, if_neg (UInt32.not_lt.2 hlimit)]
  rfl

theorem query_eq_cut (hvalid : Retrieval.Request.contract.validate request = .ok ())
    (hlimit : request.limit ≤ maxLimit) {offset : Nat}
    (hoffset : offset? request.cursor = .ok offset)
    (hle : offset ≤ (allHits store request.spaceId request.query).length) :
    query maxLimit store request = .ok (cut request.spaceId offset
      (min (offset + request.limit.toNat) (allHits store request.spaceId request.query).length)
      (allHits store request.spaceId request.query)) := by
  rw [query_eq hvalid hlimit, hoffset]
  show (page _ _ _ _).mapError _ = _
  rw [page_eq_cut hle]
  rfl

/-- A query that is answered gets a page that is cut from all hits, from where its cursor points
to. -/
theorem exists_cut_of_query {response : Retrieval.Response}
    (hok : query maxLimit store request = .ok response) :
    ∃ offset, offset? request.cursor = .ok offset ∧
      offset ≤ (allHits store request.spaceId request.query).length ∧
      response = cut request.spaceId offset
        (min (offset + request.limit.toNat) (allHits store request.spaceId request.query).length)
        (allHits store request.spaceId request.query) := by
  cases hvalid : Retrieval.Request.contract.validate request with
  | error rejection =>
    rw [query, hvalid] at hok
    cases hok
  | ok _ =>
    by_cases hlimit : request.limit ≤ maxLimit
    · rw [query_eq hvalid hlimit, mapError_eq_ok_iff] at hok
      cases hoffset : offset? request.cursor with
      | error reason =>
        rw [hoffset] at hok
        cases hok
      | ok offset =>
        rw [hoffset] at hok
        rcases Nat.lt_or_ge (allHits store request.spaceId request.query).length offset with
          hpast | hle
        · obtain ⟨reason, hpage⟩ := page_eq_error request.spaceId request.limit.toNat hpast
          cases hpage.symm.trans hok
        · exact ⟨offset, rfl, hle, Except.ok.inj (hok.symm.trans (page_eq_cut hle))⟩
    · rw [query, hvalid, answerQuery, if_pos (UInt32.not_le.1 hlimit)] at hok
      cases hok

end Query

/-! ## All pages -/

/-- Asks for a page with a limit and a cursor, and then for the rest of them with the cursor of that
page, until a page has none. The limits are chosen freely. -/
inductive Walk (ask : Nat → Option String → Except Retrieval.Fault Retrieval.Response) :
    Nat → Option String → List Retrieval.Response → Prop
  /-- The last page. -/
  | last {index : Nat} {cursor : Option String} {page : Retrieval.Response}
    (hask : ask index cursor = .ok page) (hlast : page.nextCursor = none) :
    Walk ask index cursor [page]
  /-- A page that is followed by others. -/
  | next {index : Nat} {cursor : Option String} {page : Retrieval.Response} {text : String}
    {rest : List Retrieval.Response} (hask : ask index cursor = .ok page)
    (hnext : page.nextCursor = some text) (hrest : Walk ask (index + 1) (some text) rest) :
    Walk ask index cursor (page :: rest)

/-- Whether a cursor points at a position among some hits. -/
structure PointsAt (total : Nat) (cursor : Option String) (offset : Nat) : Prop where
  /-- It passes the check of requests. -/
  visible : ∀ text, cursor = some text → Text.isBlankText text = false
  /-- It is the position in digits, or left out. -/
  read : offset? cursor = .ok offset
  /-- The position is not past the last hit. -/
  inside : offset ≤ total

theorem pointsAt_none (total : Nat) : PointsAt total none 0 where
  visible := by
    intro text hcursor
    cases hcursor
  read := rfl
  inside := Nat.zero_le _

theorem pointsAt_toString {total offset : Nat} (hle : offset ≤ total)
    (hsize : total < UInt64.size) :
    PointsAt total (some (toString offset)) offset where
  visible := by
    rintro text ⟨⟩
    exact Numeral.isBlankText_toString offset
  read := by
    have hless : offset < UInt64.size := Nat.lt_of_le_of_lt hle hsize
    rw [offset?, Numeral.readUInt64?_toString hless]
    exact congrArg _ (UInt64.toNat_ofNat_of_lt' hless)
  inside := hle

section Walk

variable (maxLimit : UInt32) (store : Store) (spaceId : SpaceId) (text : String)
  (limits : Nat → UInt32)

/-- Asks for a page of a query, with a limit that is allowed to change from page to page. -/
def askPage (index : Nat) (cursor : Option String) :
    Except Retrieval.Fault Retrieval.Response :=
  query maxLimit store ⟨spaceId, text, limits index, cursor⟩

/-- A text that can be asked for, and limits that the contract and the service allow. -/
structure Askable : Prop where
  /-- The text is visible. -/
  visible : Text.isBlankText text = false
  /-- No page is empty or too large. -/
  inRange : ∀ index,
    1 ≤ limits index ∧ limits index ≤ maxLimit ∧ limits index ≤ Retrieval.maxLimit

variable {maxLimit store spaceId text limits} (haskable : Askable maxLimit text limits)

include haskable

/-- Where the cursor points at a hit, the page is cut from there. -/
theorem askPage_eq_cut (index : Nat) {cursor : Option String} {offset : Nat}
    (hpoints : PointsAt (allHits store spaceId text).length cursor offset) :
    askPage maxLimit store spaceId text limits index cursor = .ok (cut spaceId offset
      (min (offset + (limits index).toNat) (allHits store spaceId text).length)
      (allHits store spaceId text)) := by
  obtain ⟨hpositive, hlimit, hsmall⟩ := haskable.inRange index
  have hvalid : Retrieval.Request.contract.validate ⟨spaceId, text, limits index, cursor⟩ =
      .ok () := by
    rw [Retrieval.Request.validate_eq_ok_iff]
    exact ⟨haskable.visible, ⟨hpositive, hsmall⟩, hpoints.visible⟩
  exact query_eq_cut hvalid hlimit hpoints.read hpoints.inside

theorem limit_pos (index : Nat) : 0 < (limits index).toNat := by
  have hpositive := UInt32.le_iff_toNat_le.1 (haskable.inRange index).1
  exact hpositive

/-- A walk ends with the hits that are left if they fit on the page, and goes on behind them
otherwise. -/
theorem walk_cases {index : Nat} {cursor : Option String} {offset : Nat}
    {pages : List Retrieval.Response}
    (hpoints : PointsAt (allHits store spaceId text).length cursor offset)
    (hwalk : Walk (askPage maxLimit store spaceId text limits) index cursor pages) :
    ((allHits store spaceId text).length ≤ offset + (limits index).toNat ∧
      pages = [cut spaceId offset (allHits store spaceId text).length
        (allHits store spaceId text)]) ∨
    ∃ rest, offset + (limits index).toNat < (allHits store spaceId text).length ∧
      pages = cut spaceId offset (offset + (limits index).toNat)
        (allHits store spaceId text) :: rest ∧
      Walk (askPage maxLimit store spaceId text limits) (index + 1)
        (some (toString (offset + (limits index).toNat))) rest := by
  have hcut := askPage_eq_cut haskable index hpoints
  rcases Nat.lt_or_ge (offset + (limits index).toNat) (allHits store spaceId text).length with
    hmore | hdone
  · rw [Nat.min_eq_left (Nat.le_of_lt hmore)] at hcut
    right
    cases hwalk with
    | last hask hlast =>
      obtain rfl := Except.ok.inj (hcut.symm.trans hask)
      rw [cut, if_pos hmore] at hlast
      cases hlast
    | next hask hnext hrest =>
      obtain rfl := Except.ok.inj (hcut.symm.trans hask)
      rw [cut, if_pos hmore] at hnext
      obtain rfl := Option.some.inj hnext
      exact ⟨_, hmore, rfl, hrest⟩
  · rw [Nat.min_eq_right hdone] at hcut
    left
    cases hwalk with
    | last hask hlast =>
      obtain rfl := Except.ok.inj (hcut.symm.trans hask)
      exact ⟨hdone, rfl⟩
    | next hask hnext hrest =>
      obtain rfl := Except.ok.inj (hcut.symm.trans hask)
      rw [cut, if_neg (Nat.lt_irrefl _)] at hnext
      cases hnext

variable (hsize : store.size < UInt64.size)

include hsize

/-- Whatever holds of the last page, and of a full page before others of which it holds, holds of
all pages from a cursor on. -/
theorem walk_induction {motive : Nat → Nat → List Retrieval.Response → Prop}
    (last : ∀ index offset, offset ≤ (allHits store spaceId text).length →
      motive index offset [cut spaceId offset (allHits store spaceId text).length
        (allHits store spaceId text)])
    (next : ∀ index offset rest,
      offset + (limits index).toNat < (allHits store spaceId text).length →
      motive (index + 1) (offset + (limits index).toNat) rest →
      motive index offset (cut spaceId offset (offset + (limits index).toNat)
        (allHits store spaceId text) :: rest))
    {index : Nat} {cursor : Option String} {offset : Nat} {pages : List Retrieval.Response}
    (hpoints : PointsAt (allHits store spaceId text).length cursor offset)
    (hwalk : Walk (askPage maxLimit store spaceId text limits) index cursor pages) :
    motive index offset pages := by
  have htotal := Nat.lt_of_le_of_lt (length_allHits_le store spaceId text) hsize
  induction pages generalizing index cursor offset with
  | nil => cases hwalk
  | cons page rest ih =>
    rcases walk_cases haskable hpoints hwalk with ⟨-, hpage⟩ | ⟨later, hmore, hpages, hrest⟩
    · rw [hpage]
      exact last index offset hpoints.inside
    · obtain ⟨rfl, rfl⟩ := List.cons.inj hpages
      have hnext := pointsAt_toString (Nat.le_of_lt hmore) htotal
      exact next index offset rest hmore (ih hnext hrest)

/-- From every cursor that points at a hit, the pages come to an end. -/
theorem exists_walk (index : Nat) {cursor : Option String} {offset : Nat}
    (hpoints : PointsAt (allHits store spaceId text).length cursor offset) :
    ∃ pages, Walk (askPage maxLimit store spaceId text limits) index cursor pages := by
  have htotal := Nat.lt_of_le_of_lt (length_allHits_le store spaceId text) hsize
  -- every page takes at least one hit from those that are left
  induction hleft : (allHits store spaceId text).length - offset using Nat.strong_induction_on
    generalizing index cursor offset with
  | _ left ih =>
    have hpositive := limit_pos haskable index
    have hcut := askPage_eq_cut haskable index hpoints
    rcases Nat.lt_or_ge (offset + (limits index).toNat) (allHits store spaceId text).length with
      hmore | hdone
    · rw [Nat.min_eq_left (Nat.le_of_lt hmore)] at hcut
      have hnext := pointsAt_toString (Nat.le_of_lt hmore) htotal
      obtain ⟨rest, hrest⟩ := ih _ (by omega) (index + 1) hnext rfl
      exact ⟨_, .next hcut (if_pos hmore) hrest⟩
    · rw [Nat.min_eq_right hdone] at hcut
      exact ⟨_, .last hcut (if_neg (Nat.lt_irrefl _))⟩

section Pages

variable {index : Nat} {cursor : Option String} {offset : Nat} {pages : List Retrieval.Response}
  (hpoints : PointsAt (allHits store spaceId text).length cursor offset)
  (hwalk : Walk (askPage maxLimit store spaceId text limits) index cursor pages)

include hpoints hwalk

/-- The pages hold the hits that are left, one after the other. -/
theorem flatMap_hits_of_walk :
    pages.flatMap Retrieval.Response.hits = (allHits store spaceId text).drop offset := by
  refine walk_induction haskable hsize (motive := fun _ offset pages =>
    pages.flatMap Retrieval.Response.hits = (allHits store spaceId text).drop offset)
    ?last ?next hpoints hwalk
  case last =>
    intro index offset _
    rw [List.flatMap_singleton, cut, List.extract_eq_take_drop, List.take_of_length_le]
    rw [List.length_drop]
  case next =>
    intro index offset rest _ ih
    rw [List.flatMap_cons, ih, cut, List.extract_eq_take_drop, Nat.add_sub_cancel_left,
      ← List.drop_drop, List.take_append_drop]

theorem totalHits_of_walk :
    ∀ page ∈ pages, page.totalHits.toNat = (allHits store spaceId text).length := by
  have htotal := Nat.lt_of_le_of_lt (length_allHits_le store spaceId text) hsize
  have hcount := UInt64.toNat_ofNat_of_lt' htotal
  refine walk_induction haskable hsize (motive := fun _ _ pages =>
    ∀ page ∈ pages, page.totalHits.toNat = (allHits store spaceId text).length)
    ?last ?next hpoints hwalk
  case last =>
    intro index offset _ page hpage
    rw [List.mem_singleton.1 hpage]
    exact hcount
  case next =>
    intro index offset rest _ ih
    exact List.forall_mem_cons.2 ⟨hcount, ih⟩

/-- Every page but the last one is full. -/
theorem full_of_walk :
    ∀ position page, position + 1 < pages.length → pages[position]? = some page →
      page.hits.length = (limits (index + position)).toNat := by
  refine walk_induction haskable hsize (motive := fun index _ pages =>
    ∀ position page, position + 1 < pages.length → pages[position]? = some page →
      page.hits.length = (limits (index + position)).toNat) ?last ?next hpoints hwalk
  case last =>
    intro index offset _ position page hearlier
    rw [List.length_singleton] at hearlier
    omega
  case next =>
    intro index offset rest hmore ih position page hearlier hpage
    cases position with
    | zero =>
      obtain rfl := Option.some.inj hpage
      rw [cut, List.extract_eq_take_drop, List.length_take, List.length_drop, Nat.add_zero]
      omega
    | succ position =>
      rw [List.length_cons] at hearlier
      rw [ih position page (by omega) hpage, Nat.add_right_comm, Nat.add_assoc]

end Pages

end Walk

/-- What is asked for tells the pages. -/
theorem Walk.unique
    {ask : Nat → Option String → Except Retrieval.Fault Retrieval.Response} {index : Nat}
    {cursor : Option String} {pages others : List Retrieval.Response}
    (hwalk : Walk ask index cursor pages) (hother : Walk ask index cursor others) :
    others = pages := by
  induction hwalk generalizing others with
  | last hask hlast =>
    cases hother with
    | last hagain _ => rw [Except.ok.inj (hagain.symm.trans hask)]
    | next hagain hnext _ =>
      obtain rfl := Except.ok.inj (hagain.symm.trans hask)
      cases hlast.symm.trans hnext
  | next hask hnext _ ih =>
    cases hother with
    | last hagain hlast =>
      obtain rfl := Except.ok.inj (hagain.symm.trans hask)
      cases hlast.symm.trans hnext
    | next hagain hnext' hrest =>
      obtain rfl := Except.ok.inj (hagain.symm.trans hask)
      obtain rfl := Option.some.inj (hnext'.symm.trans hnext)
      rw [ih hrest]

/-! ## Paging is complete -/

/-- What the pages of a query are to a client that has read all of them. -/
structure ReadsAll (store : Store) (spaceId : SpaceId) (text : String) (limits : Nat → UInt32)
    (pages : List Retrieval.Response) : Prop where
  /-- One after the other, they hold every hit once and in order. -/
  complete : IsHitList store spaceId text (pages.flatMap Retrieval.Response.hits)
  /-- Every page tells how many hits there are. -/
  total : ∀ page ∈ pages,
    page.totalHits.toNat = (pages.flatMap Retrieval.Response.hits).length
  /-- Every page but the last one is full. -/
  full : ∀ position page, position + 1 < pages.length → pages[position]? = some page →
    page.hits.length = (limits position).toNat

/-- A client that asks for page after page is refused none of them, comes to an end, and has read
every hit once and in order, whatever limits it chooses on its way. The number of memories is one
that a machine word can hold. -/
theorem paging_complete (maxLimit : UInt32) (store : Store) (spaceId : SpaceId) (text : String)
    (limits : Nat → UInt32) (haskable : Askable maxLimit text limits)
    (hsize : store.size < UInt64.size) :
    ∃ pages, Walk (askPage maxLimit store spaceId text limits) 0 none pages ∧
      (∀ others, Walk (askPage maxLimit store spaceId text limits) 0 none others →
        others = pages) ∧
      ReadsAll store spaceId text limits pages := by
  have hpoints := pointsAt_none (allHits store spaceId text).length
  obtain ⟨pages, hwalk⟩ := exists_walk haskable hsize 0 hpoints
  have hhits := flatMap_hits_of_walk haskable hsize hpoints hwalk
  rw [List.drop_zero] at hhits
  refine ⟨pages, hwalk, fun _ => hwalk.unique, ?complete, ?total, ?full⟩
  case complete =>
    rw [hhits]
    exact isHitList_allHits store spaceId text
  case total =>
    rw [hhits]
    exact totalHits_of_walk haskable hsize hpoints hwalk
  case full =>
    intro position page hearlier hpage
    rw [full_of_walk haskable hsize hpoints hwalk position page hearlier hpage, Nat.zero_add]

/-- The store that the first batch of the small run makes. -/
def smithyStore : Store :=
  (stateAfter .deterministic .deterministic [⟨0, .ingest firstBatch⟩]).store

/-- Both memories of the small store answer a query, equally well. -/
theorem allHits_smithyStore :
    allHits smithyStore village "Heavy, old!" =
      [⟨anvil, .episodic, half⟩, ⟨bellows, .episodic, half⟩] := by
  have hfound : ((smithyStore.inSpace village).filterMap fun entry =>
      hit? (.ofText "Heavy, old!") entry.1 entry.2) =
        [⟨anvil, .episodic, half⟩, ⟨bellows, .episodic, half⟩] := by
    decide +kernel
  refine (congrArg Retrieval.rankHits hfound).trans ?_
  rw [Retrieval.rankHits, List.mergeSort_of_pairwise]
  decide +kernel

/-- Page by page, they are read one after the other. -/
theorem smithyStore_paged :
    Askable 10 "Heavy, old!" (fun _ => 1) ∧ smithyStore.size < UInt64.size ∧
      Walk (askPage 10 smithyStore village "Heavy, old!" fun _ => 1) 0 none
        [⟨village, [⟨anvil, .episodic, half⟩], 2, some "1"⟩,
          ⟨village, [⟨bellows, .episodic, half⟩], 2, none⟩] ∧
      ReadsAll smithyStore village "Heavy, old!" (fun _ => 1)
        [⟨village, [⟨anvil, .episodic, half⟩], 2, some "1"⟩,
          ⟨village, [⟨bellows, .episodic, half⟩], 2, none⟩] := by
  have haskable : Askable 10 "Heavy, old!" (fun _ => 1) :=
    ⟨by decide +kernel, fun _ => by decide⟩
  have hsize : smithyStore.size < UInt64.size := by decide +kernel
  have hwalk : Walk (askPage 10 smithyStore village "Heavy, old!" fun _ => 1) 0 none
      [⟨village, [⟨anvil, .episodic, half⟩], 2, some "1"⟩,
        ⟨village, [⟨bellows, .episodic, half⟩], 2, none⟩] := by
    refine .next ?first rfl (.last ?second rfl)
    case first =>
      rw [askPage_eq_cut haskable 0 (pointsAt_none _), allHits_smithyStore]
      rfl
    case second =>
      have hpoints : PointsAt (allHits smithyStore village "Heavy, old!").length (some "1") 1 := by
        have hle : 1 ≤ (allHits smithyStore village "Heavy, old!").length := by
          rw [allHits_smithyStore]
          decide
        exact pointsAt_toString hle (Nat.lt_of_le_of_lt (length_allHits_le _ _ _) hsize)
      rw [askPage_eq_cut haskable 1 hpoints, allHits_smithyStore]
      rfl
  obtain ⟨pages, -, hunique, hreads⟩ :=
    paging_complete 10 smithyStore village "Heavy, old!" (fun _ => 1) haskable hsize
  rw [← hunique _ hwalk] at hreads
  exact ⟨haskable, hsize, hwalk, hreads⟩

end Recollection.InMemory
