import ElectroneumClassic.Lib.Containers
import ElectroneumClassic.Lib.Machine
import ElectroneumClassic.Basic.Types
import Mathlib.Data.List.Induction

/-!
# The block download queue

`cryptonote::block_queue` keeps the spans of blocks being downloaded in a
`std::set` ordered by start height alone, and the hashes requested from peers
in `requested_hashes`.  A span with a start height already present is not
inserted, and `erase_block` forgets every hash of the span it erases, whether
or not another span lists it too.

The bookkeeping is `Consistent` (the requested hashes are those the spans
list, and no hash is listed by two spans) after every operation exactly as
long as no operation gives a span a hash another span lists
(`Operation.overlaps`): `set_span_hashes` takes the hashes it is given, and
`reserve_span` skips only the requested hashes at the front of the list it
is offered.  `reserve_span` reports the span it asked `add_blocks` for, which
is the connection's only if no span started at that height already
(`reserveSpan_owns_iff`).
-/

namespace ElectroneumClassic

open Machine Containers

/-- `block_complete_entry`: a block blob and its transaction blobs. -/
structure BlockCompleteEntry where
  block : String
  txs : List String
  deriving DecidableEq, Repr

/-- A `boost::uuids::uuid` naming a connection. -/
abbrev ConnectionId := Nat

/-- `boost::uuids::nil_uuid()`. -/
def nilUuid : ConnectionId := 0

/-- `block_queue::span`, without the rate, size and time only statistics read. -/
structure Span where
  startBlockHeight : Nat
  hashes : List Hash
  blocks : List BlockCompleteEntry
  connectionId : ConnectionId
  nblocks : Nat
  deriving DecidableEq, Repr

/-- `block_queue::block_map`: a `std::set` of spans compared by start height. -/
abbrev BlockMap := KeyedSet Span Span.startBlockHeight

/-- `block_queue`. -/
structure BlockQueue where
  blocks : BlockMap
  requestedHashes : Finset Hash
  deriving DecidableEq

namespace BlockQueue

def empty : BlockQueue := ⟨.empty, ∅⟩

/-- `requested`. -/
def requested (q : BlockQueue) (hash : Hash) : Bool := hash ∈ q.requestedHashes

/-- `erase_block`: forget the hashes of the span and remove it. -/
def eraseBlock (q : BlockQueue) (j : Span) : BlockQueue where
  blocks := q.blocks.erase j.startBlockHeight
  requestedHashes := j.hashes.foldl (fun requested h => requested.erase h) q.requestedHashes

/-- The loops of `flush_spans`, `flush_stale_spans` and `remove_spans`: walk
the spans in order and erase those `doErase` selects. -/
def eraseEach (q : BlockQueue) (doErase : Span → Bool) (spans : List Span) : BlockQueue :=
  spans.foldl (fun q j => if doErase j then q.eraseBlock j else q) q

/-- `flush_spans`: the spans of a connection, or only those not yet filled. -/
def flushSpans (q : BlockQueue) (connectionId : ConnectionId) (all : Bool) : BlockQueue :=
  q.eraseEach (fun j => j.connectionId == connectionId && (all || j.blocks.length == 0)) q.blocks.elems

/-- `is_blockchain_placeholder`. -/
def isBlockchainPlaceholder (span : Span) : Bool := span.connectionId == nilUuid

/-- `flush_stale_spans`: the unfilled spans of connections no longer live. -/
def flushStaleSpans (q : BlockQueue) (liveConnections : List ConnectionId) : BlockQueue :=
  -- the loop starts past the placeholder span of the blockchain when it comes first
  let spans := match q.blocks.elems with
    | first :: rest => if isBlockchainPlaceholder first then rest else first :: rest
    | [] => []
  q.eraseEach (fun j => !liveConnections.contains j.connectionId && j.blocks.length == 0) spans

/-- `remove_span`: erase the span at a start height, giving its hashes if there was one. -/
def removeSpan (q : BlockQueue) (startBlockHeight : Nat) : Option (List Hash) × BlockQueue :=
  match q.blocks.elems.find? (·.startBlockHeight == startBlockHeight) with
  | some span => (some span.hashes, q.eraseBlock span)
  | none => (none, q)

/-- `remove_spans`: the spans of a connection starting at or below a height. -/
def removeSpans (q : BlockQueue) (connectionId : ConnectionId) (startBlockHeight : Nat) : BlockQueue :=
  q.eraseEach (fun j => j.connectionId == connectionId && decide (j.startBlockHeight ≤ startBlockHeight))
    q.blocks.elems

/-- `set_span_hashes`: the span of a connection at a start height gets the
hashes, which become requested. -/
def setSpanHashes (q : BlockQueue) (startHeight : Nat) (connectionId : ConnectionId) (hashes : List Hash) :
    BlockQueue :=
  match q.blocks.elems.find? fun span => span.startBlockHeight == startHeight && span.connectionId == connectionId with
  | some span =>
    let q := q.eraseBlock span
    { blocks := q.blocks.insert { span with hashes := hashes }
      requestedHashes := hashes.foldl (fun requested h => insert h requested) q.requestedHashes }
  | none => q

/-- `add_blocks` with downloaded blocks: they take the place of the span at
that height, whose hashes they keep. -/
def addBlocks (q : BlockQueue) (height : Nat) (bcel : List BlockCompleteEntry) (connectionId : ConnectionId) :
    BlockQueue :=
  let (hashes?, q) := q.removeSpan height
  let q := { q with blocks := q.blocks.insert ⟨height, [], bcel, connectionId, bcel.length⟩ }
  match hashes? with
  | some hashes =>
    let q := { q with requestedHashes := hashes.foldl (fun requested h => insert h requested) q.requestedHashes }
    q.setSpanHashes height connectionId hashes
  | none => q

/-- The overload of `add_blocks` that schedules `nblocks` blocks from a height. -/
def addBlocksScheduled (q : BlockQueue) (height nblocks : Nat) (connectionId : ConnectionId) :
    Except String BlockQueue :=
  if nblocks = 0 then .error "Empty span"
  else .ok { q with blocks := q.blocks.insert ⟨height, [], [], connectionId, nblocks⟩ }

/-- The first loop of `reserve_span`: skip the requested hashes, moving the
start height one block on for each. -/
def skipRequested (requested : Finset Hash) : List Hash → Nat → List Hash × Nat
  | hash :: rest, height =>
    if hash ∈ requested then skipRequested requested rest (wrapU64 (height + 1)) else (hash :: rest, height)
  | [], height => ([], height)

/-- The start height and the hashes `reserve_span` reserves; none on its early outs. -/
def reservation (q : BlockQueue) (firstBlockHeight lastBlockHeight maxBlocks : Nat) (blockHashes : List Hash) :
    Option (Nat × List Hash) :=
  if lastBlockHeight < firstBlockHeight ∨ maxBlocks = 0 then none
  else
    let (rest, spanStartHeight) := skipRequested q.requestedHashes blockHashes
      (wrapU64 (subU64 lastBlockHeight blockHashes.length + 1))
    -- the second loop takes at most `max_blocks` hashes
    let hashes := rest.take maxBlocks
    if hashes.length = 0 then none else some (spanStartHeight, hashes)

/-- `reserve_span`: the start height and length of the span reserved, `(0, 0)` for none. -/
def reserveSpan (q : BlockQueue) (firstBlockHeight lastBlockHeight maxBlocks : Nat)
    (connectionId : ConnectionId) (blockHashes : List Hash) : Except String ((Nat × Nat) × BlockQueue) :=
  match q.reservation firstBlockHeight lastBlockHeight maxBlocks blockHashes with
  | none => .ok ((0, 0), q)
  | some (spanStartHeight, hashes) => do
    let q ← q.addBlocksScheduled spanStartHeight hashes.length connectionId
    pure ((spanStartHeight, hashes.length), q.setSpanHashes spanStartHeight connectionId hashes)

/-- The calls that change the queue. -/
inductive Operation where
  | addBlocks (height : Nat) (bcel : List BlockCompleteEntry) (connectionId : ConnectionId)
  | addBlocksScheduled (height nblocks : Nat) (connectionId : ConnectionId)
  | flushSpans (connectionId : ConnectionId) (all : Bool)
  | flushStaleSpans (liveConnections : List ConnectionId)
  | removeSpan (startBlockHeight : Nat)
  | removeSpans (connectionId : ConnectionId) (startBlockHeight : Nat)
  | reserveSpan (firstBlockHeight lastBlockHeight maxBlocks : Nat) (connectionId : ConnectionId)
      (blockHashes : List Hash)
  | setSpanHashes (startHeight : Nat) (connectionId : ConnectionId) (hashes : List Hash)
  deriving DecidableEq, Repr

def Operation.call : Operation → BlockQueue → Except String BlockQueue
  | .addBlocks height bcel connectionId, q => .ok (q.addBlocks height bcel connectionId)
  | .addBlocksScheduled height nblocks connectionId, q => q.addBlocksScheduled height nblocks connectionId
  | .flushSpans connectionId all, q => .ok (q.flushSpans connectionId all)
  | .flushStaleSpans liveConnections, q => .ok (q.flushStaleSpans liveConnections)
  | .removeSpan startBlockHeight, q => .ok (q.removeSpan startBlockHeight).2
  | .removeSpans connectionId startBlockHeight, q => .ok (q.removeSpans connectionId startBlockHeight)
  | .reserveSpan first last maxBlocks connectionId blockHashes, q =>
    (q.reserveSpan first last maxBlocks connectionId blockHashes).map Prod.snd
  | .setSpanHashes startHeight connectionId hashes, q => .ok (q.setSpanHashes startHeight connectionId hashes)

/-- The queue after a call; one that throws does so before it changes anything. -/
def Operation.apply (op : Operation) (q : BlockQueue) : BlockQueue :=
  match op.call q with
  | .ok q' => q'
  | .error _ => q

/-- The queue after a sequence of calls. -/
def run (ops : List Operation) (q : BlockQueue) : BlockQueue :=
  ops.foldl (fun q op => op.apply q) q

/-! ## The bookkeeping -/

/-- The hashes the spans list. -/
def listedHashes (q : BlockQueue) : Finset Hash := (q.blocks.elems.flatMap Span.hashes).toFinset

/-- The requested hashes are those the spans list, and no hash is listed by two spans. -/
structure Consistent (q : BlockQueue) : Prop where
  requestedHashes_eq : q.requestedHashes = q.listedHashes
  disjoint : ∀ s ∈ q.blocks.elems, ∀ t ∈ q.blocks.elems, s.startBlockHeight ≠ t.startBlockHeight →
    ∀ hash ∈ s.hashes, hash ∉ t.hashes

instance (q : BlockQueue) : Decidable (Consistent q) :=
  decidable_of_iff (q.requestedHashes = q.listedHashes ∧ ∀ s ∈ q.blocks.elems, ∀ t ∈ q.blocks.elems,
      s.startBlockHeight ≠ t.startBlockHeight → ∀ hash ∈ s.hashes, hash ∉ t.hashes)
    ⟨fun ⟨requested, disjoint⟩ => ⟨requested, disjoint⟩, fun ⟨requested, disjoint⟩ => ⟨requested, disjoint⟩⟩

/-- Setting `hashes` on the span of `connectionId` at `startHeight` gives it a
hash another span lists. -/
def GivesListedHash (spans : List Span) (startHeight : Nat) (connectionId : ConnectionId) (hashes : List Hash) :
    Prop :=
  (∃ span ∈ spans, span.startBlockHeight = startHeight ∧ span.connectionId = connectionId) ∧
    ∃ other ∈ spans, other.startBlockHeight ≠ startHeight ∧ ∃ hash ∈ hashes, hash ∈ other.hashes

instance (spans : List Span) (startHeight : Nat) (connectionId : ConnectionId) (hashes : List Hash) :
    Decidable (GivesListedHash spans startHeight connectionId hashes) :=
  inferInstanceAs (Decidable (_ ∧ _))

/-- The call gives a span a hash another span lists: `set_span_hashes`, and
`reserve_span` through it. -/
def Operation.overlaps : Operation → BlockQueue → Bool
  | .reserveSpan first last maxBlocks connectionId blockHashes, q =>
    match q.reservation first last maxBlocks blockHashes with
    | some (start, hashes) =>
      decide (GivesListedHash (q.blocks.insert ⟨start, [], [], connectionId, hashes.length⟩).elems start
        connectionId hashes)
    | none => false
  | .setSpanHashes startHeight connectionId hashes, q =>
    decide (GivesListedHash q.blocks.elems startHeight connectionId hashes)
  | _, _ => false

/-- A span of the connection starts at the height and has `nblocks` blocks. -/
def Owns (q : BlockQueue) (connectionId : ConnectionId) (startHeight nblocks : Nat) : Prop :=
  ∃ span ∈ q.blocks.elems, span.startBlockHeight = startHeight ∧ span.nblocks = nblocks ∧
    span.connectionId = connectionId

instance (q : BlockQueue) (connectionId : ConnectionId) (startHeight nblocks : Nat) :
    Decidable (q.Owns connectionId startHeight nblocks) :=
  inferInstanceAs (Decidable (∃ span ∈ q.blocks.elems, _))

/-! ## What each call does to the bookkeeping -/

variable {q : BlockQueue}

@[simp] theorem mem_listedHashes {hash : Hash} :
    hash ∈ q.listedHashes ↔ ∃ span ∈ q.blocks.elems, hash ∈ span.hashes := by
  simp [listedHashes]

@[simp] theorem eraseBlock_blocks (j : Span) : (q.eraseBlock j).blocks = q.blocks.erase j.startBlockHeight := rfl

@[simp] theorem eraseBlock_requestedHashes (j : Span) :
    (q.eraseBlock j).requestedHashes = q.requestedHashes \ j.hashes.toFinset :=
  foldl_erase_eq _ _

theorem eraseEach_cons (doErase : Span → Bool) (j : Span) (rest : List Span) :
    q.eraseEach doErase (j :: rest) = (if doErase j then q.eraseBlock j else q).eraseEach doErase rest := rfl

/-- Erasing a span of the queue forgets only hashes no other span lists. -/
theorem Consistent.eraseBlock {j : Span} (consistent : Consistent q) (member : j ∈ q.blocks.elems) :
    Consistent (q.eraseBlock j) where
  requestedHashes_eq := by
    ext hash
    simp only [eraseBlock_requestedHashes, Finset.mem_sdiff, consistent.requestedHashes_eq, mem_listedHashes,
      List.mem_toFinset, eraseBlock_blocks, KeyedSet.mem_erase]
    constructor
    · rintro ⟨⟨span, present, listed⟩, notErased⟩
      -- the span listing the hash is not `j`, so it starts elsewhere
      refine ⟨span, ⟨present, fun same => notErased ?_⟩, listed⟩
      rwa [← q.blocks.eq_of_key_eq present member same]
    · rintro ⟨span, ⟨present, apart⟩, listed⟩
      exact ⟨⟨span, present, listed⟩, consistent.disjoint span present j member apart hash listed⟩
  disjoint := by
    intro s sMember t tMember apart
    simp only [eraseBlock_blocks, KeyedSet.mem_erase] at sMember tMember
    exact consistent.disjoint s sMember.1 t tMember.1 apart

/-- The erasing loops walk spans of the queue in order, each still there when reached. -/
theorem Consistent.eraseEach {doErase : Span → Bool} {spans : List Span} (consistent : Consistent q)
    (walked : spans.Sublist q.blocks.elems) : Consistent (q.eraseEach doErase spans) := by
  induction spans generalizing q with
  | nil => exact consistent
  | cons j rest inductionHypothesis =>
    rw [eraseEach_cons]
    split
    · exact inductionHypothesis (consistent.eraseBlock (walked.subset List.mem_cons_self))
        (KeyedSet.sublist_erase walked)
    · exact inductionHypothesis consistent (List.sublist_of_cons_sublist walked)

/-- A span of a new start height whose hashes become requested keeps the queue
consistent exactly when no span lists one of them. -/
theorem Consistent.insert_iff {span : Span} (consistent : Consistent q)
    (fresh : ∀ t ∈ q.blocks.elems, t.startBlockHeight ≠ span.startBlockHeight) :
    Consistent ⟨q.blocks.insert span, q.requestedHashes ∪ span.hashes.toFinset⟩ ↔
      ∀ t ∈ q.blocks.elems, ∀ hash ∈ span.hashes, hash ∉ t.hashes := by
  have members : ∀ t, t ∈ (q.blocks.insert span).elems ↔ t ∈ q.blocks.elems ∨ t = span := by
    intro t
    rw [KeyedSet.mem_insert]
    constructor
    · rintro (member | ⟨rfl, -⟩)
      · exact .inl member
      · exact .inr rfl
    · rintro (member | rfl)
      · exact .inl member
      · exact .inr ⟨rfl, fresh⟩
  constructor
  · intro inserted t member hash listed present
    exact inserted.disjoint span ((members span).2 (.inr rfl)) t ((members t).2 (.inl member))
      (fresh t member).symm hash listed present
  · intro unlisted
    constructor
    · ext hash
      simp only [Finset.mem_union, consistent.requestedHashes_eq, mem_listedHashes, List.mem_toFinset, members]
      constructor
      · rintro (⟨t, member, listed⟩ | listed)
        · exact ⟨t, .inl member, listed⟩
        · exact ⟨span, .inr rfl, listed⟩
      · rintro ⟨t, member | rfl, listed⟩
        · exact .inl ⟨t, member, listed⟩
        · exact .inr listed
    · intro s sMember t tMember apart hash listed
      rw [members] at sMember tMember
      rcases sMember with sMember | rfl <;> rcases tMember with tMember | rfl
      · exact consistent.disjoint s sMember t tMember apart hash listed
      · exact fun present => unlisted s sMember hash present listed
      · exact unlisted t tMember hash listed
      · exact absurd rfl apart

/-- A span with no hashes, inserted or not, keeps the queue consistent. -/
theorem Consistent.insertUnhashed {span : Span} (consistent : Consistent q) (unhashed : span.hashes = []) :
    Consistent { q with blocks := q.blocks.insert span } := by
  rcases em (∃ t ∈ q.blocks.elems, t.startBlockHeight = span.startBlockHeight) with ⟨t, member, same⟩ | fresh
  · rw [KeyedSet.insert_of_key_mem member same]
    exact consistent
  · have inserted := (consistent.insert_iff fun t member same => fresh ⟨t, member, same⟩).2
      (by simp [unhashed])
    simpa [unhashed] using inserted

/-- `set_span_hashes` when the connection has a span at the height. -/
theorem setSpanHashes_of_mem {span : Span} {startHeight : Nat} {connectionId : ConnectionId} (hashes : List Hash)
    (member : span ∈ q.blocks.elems) (start : span.startBlockHeight = startHeight)
    (owner : span.connectionId = connectionId) :
    q.setSpanHashes startHeight connectionId hashes =
      ⟨(q.blocks.erase startHeight).insert { span with hashes := hashes },
        (q.requestedHashes \ span.hashes.toFinset) ∪ hashes.toFinset⟩ := by
  have found : q.blocks.elems.find? (fun s => s.startBlockHeight == startHeight && s.connectionId == connectionId) =
      some span := by
    cases lookup : q.blocks.elems.find? fun s => s.startBlockHeight == startHeight && s.connectionId == connectionId with
    | none =>
      rw [List.find?_eq_none] at lookup
      exact absurd (by simp [start, owner]) (lookup span member)
    | some other =>
      have matched := List.find?_some lookup
      simp only [Bool.and_eq_true, beq_iff_eq] at matched
      rw [q.blocks.eq_of_key_eq (List.mem_of_find?_eq_some lookup) member (matched.1.trans start.symm)]
  simp only [setSpanHashes, found, eraseBlock_blocks, eraseBlock_requestedHashes, foldl_insert_eq, start]

/-- `set_span_hashes` when the connection has no span at the height. -/
theorem setSpanHashes_of_absent {startHeight : Nat} {connectionId : ConnectionId} (hashes : List Hash)
    (absent : ∀ span ∈ q.blocks.elems, span.startBlockHeight = startHeight → span.connectionId ≠ connectionId) :
    q.setSpanHashes startHeight connectionId hashes = q := by
  have missing : q.blocks.elems.find? (fun s => s.startBlockHeight == startHeight && s.connectionId == connectionId) =
      none := by
    rw [List.find?_eq_none]
    intro span member matched
    simp only [Bool.and_eq_true, beq_iff_eq] at matched
    exact absent span member matched.1 matched.2
  simp only [setSpanHashes, missing]

/-- `set_span_hashes` keeps the queue consistent exactly when it gives no span
a hash another span lists. -/
theorem Consistent.setSpanHashes_iff {startHeight : Nat} {connectionId : ConnectionId} {hashes : List Hash}
    (consistent : Consistent q) :
    Consistent (q.setSpanHashes startHeight connectionId hashes) ↔
      ¬GivesListedHash q.blocks.elems startHeight connectionId hashes := by
  rcases em (∃ span ∈ q.blocks.elems, span.startBlockHeight = startHeight ∧ span.connectionId = connectionId)
    with ⟨span, member, start, owner⟩ | absent
  · rw [setSpanHashes_of_mem hashes member start owner]
    subst start owner
    have fresh : ∀ t ∈ (q.eraseBlock span).blocks.elems,
        t.startBlockHeight ≠ ({ span with hashes := hashes } : Span).startBlockHeight := by
      simp
    have inserted := (consistent.eraseBlock member).insert_iff fresh
    rw [eraseBlock_blocks, eraseBlock_requestedHashes] at inserted
    rw [inserted]
    simp only [GivesListedHash, KeyedSet.mem_erase]
    constructor
    · rintro unlisted ⟨-, other, present, apart, hash, listed, inOther⟩
      exact unlisted other ⟨present, apart⟩ hash listed inOther
    · rintro notGiven t ⟨present, apart⟩ hash listed inOther
      exact notGiven ⟨⟨span, member, rfl, rfl⟩, t, present, apart, hash, listed, inOther⟩
  · rw [setSpanHashes_of_absent hashes fun span member start owner => absent ⟨span, member, start, owner⟩]
    exact iff_of_true consistent fun given => absent given.1

/-- The downloaded blocks of `add_blocks` take over the hashes of the span they
replace, which no other span lists. -/
theorem Consistent.addBlocks {height : Nat} {bcel : List BlockCompleteEntry} {connectionId : ConnectionId}
    (consistent : Consistent q) : Consistent (q.addBlocks height bcel connectionId) := by
  unfold BlockQueue.addBlocks removeSpan
  cases found : q.blocks.elems.find? (·.startBlockHeight == height) with
  | none => exact consistent.insertUnhashed rfl
  | some span =>
    have member := List.mem_of_find?_eq_some found
    have start : span.startBlockHeight = height := by simpa using List.find?_some found
    -- once the old span is erased the downloaded one is new at its height
    have fresh : ∀ t ∈ (q.eraseBlock span).blocks.elems, t.startBlockHeight ≠ height := by simp [start]
    have placed : (⟨height, [], bcel, connectionId, bcel.length⟩ : Span) ∈
        ((q.eraseBlock span).blocks.insert ⟨height, [], bcel, connectionId, bcel.length⟩).elems :=
      KeyedSet.mem_insert.2 (.inr ⟨rfl, fresh⟩)
    have restored : ((q.eraseBlock span).blocks.insert ⟨height, [], bcel, connectionId, bcel.length⟩).erase height =
        (q.eraseBlock span).blocks :=
      KeyedSet.erase_insert_of_fresh (a := (⟨height, [], bcel, connectionId, bcel.length⟩ : Span)) fresh
    have unlisted : ∀ t ∈ (q.eraseBlock span).blocks.elems, ∀ hash ∈ span.hashes, hash ∉ t.hashes := by
      intro t present hash listed
      simp only [eraseBlock_blocks, KeyedSet.mem_erase] at present
      exact consistent.disjoint span member t present.1 (Ne.symm present.2) hash listed
    have replaced := setSpanHashes_of_mem (q := ⟨(q.eraseBlock span).blocks.insert
        ⟨height, [], bcel, connectionId, bcel.length⟩, span.hashes.foldl (fun requested h => insert h requested)
        (q.eraseBlock span).requestedHashes⟩) span.hashes placed rfl rfl
    dsimp only at replaced
    simp only
    rw [replaced, restored, foldl_insert_eq, List.toFinset_nil, Finset.sdiff_empty, Finset.union_assoc,
      Finset.union_self]
    exact ((consistent.eraseBlock member).insert_iff fresh).2 unlisted

theorem reservation_length_pos {first last maxBlocks : Nat} {blockHashes : List Hash} {start : Nat}
    {hashes : List Hash} (reserved : q.reservation first last maxBlocks blockHashes = some (start, hashes)) :
    0 < hashes.length := by
  unfold reservation at reserved
  cases skipped : skipRequested q.requestedHashes blockHashes (wrapU64 (subU64 last blockHashes.length + 1)) with
  | mk rest spanStartHeight =>
    simp only [skipped] at reserved
    split_ifs at reserved with early nonempty
    simp only [Option.some.injEq, Prod.mk.injEq] at reserved
    rw [← reserved.2]
    exact Nat.pos_of_ne_zero nonempty

/-- `reserve_span` when it reserves: `add_blocks` does not throw on the
nonempty span, and `set_span_hashes` gives it the hashes. -/
theorem reserveSpan_of_reservation {first last maxBlocks : Nat} {connectionId : ConnectionId}
    {blockHashes : List Hash} {start : Nat} {hashes : List Hash}
    (reserved : q.reservation first last maxBlocks blockHashes = some (start, hashes)) :
    q.reserveSpan first last maxBlocks connectionId blockHashes =
      .ok ((start, hashes.length), { q with blocks := q.blocks.insert ⟨start, [], [], connectionId, hashes.length⟩ }
        |>.setSpanHashes start connectionId hashes) := by
  have nonempty : hashes.length ≠ 0 := Nat.pos_iff_ne_zero.1 (reservation_length_pos reserved)
  simp only [reserveSpan, reserved, addBlocksScheduled, nonempty, if_false, bind, Except.bind, pure, Except.pure]

theorem reserveSpan_of_none {first last maxBlocks : Nat} {connectionId : ConnectionId} {blockHashes : List Hash}
    (early : q.reservation first last maxBlocks blockHashes = none) :
    q.reserveSpan first last maxBlocks connectionId blockHashes = .ok ((0, 0), q) := by
  simp only [reserveSpan, early]

/-- One call keeps a consistent queue consistent exactly when it gives no span
a hash another span lists. -/
theorem Consistent.apply_iff (consistent : Consistent q) (op : Operation) :
    Consistent (op.apply q) ↔ op.overlaps q = false := by
  cases op with
  | addBlocks height bcel connectionId => exact iff_of_true consistent.addBlocks rfl
  | addBlocksScheduled height nblocks connectionId =>
    refine iff_of_true ?_ rfl
    by_cases empty : nblocks = 0
    · simp only [Operation.apply, Operation.call, addBlocksScheduled, empty, if_true]
      exact consistent
    · simp only [Operation.apply, Operation.call, addBlocksScheduled, empty, if_false]
      exact consistent.insertUnhashed rfl
  | flushSpans connectionId all => exact iff_of_true (consistent.eraseEach (List.Sublist.refl _)) rfl
  | flushStaleSpans liveConnections =>
    refine iff_of_true (consistent.eraseEach ?_) rfl
    -- the loop walks the spans, or all but the first
    split
    · rename_i first rest listed
      rw [listed]
      split
      · exact List.sublist_cons_self first rest
      · exact List.Sublist.refl _
    · exact List.nil_sublist _
  | removeSpan startBlockHeight =>
    refine iff_of_true ?_ rfl
    simp only [Operation.apply, Operation.call, removeSpan]
    split
    · rename_i span found
      exact consistent.eraseBlock (List.mem_of_find?_eq_some found)
    · exact consistent
  | removeSpans connectionId startBlockHeight =>
    exact iff_of_true (consistent.eraseEach (List.Sublist.refl _)) rfl
  | reserveSpan first last maxBlocks connectionId blockHashes =>
    cases reserved : q.reservation first last maxBlocks blockHashes with
    | none =>
      simp only [Operation.apply, Operation.call, reserveSpan_of_none reserved, Except.map, Operation.overlaps,
        reserved]
      exact iff_of_true consistent trivial
    | some reservedSpan =>
      obtain ⟨start, hashes⟩ := reservedSpan
      simp only [Operation.apply, Operation.call, reserveSpan_of_reservation reserved, Except.map,
        Operation.overlaps, reserved, decide_eq_false_iff_not]
      exact (consistent.insertUnhashed rfl).setSpanHashes_iff
  | setSpanHashes startHeight connectionId hashes =>
    simp only [Operation.apply, Operation.call, Operation.overlaps, decide_eq_false_iff_not]
    exact consistent.setSpanHashes_iff

/-- The span `reserve_span` reports is the connection's exactly when any span
already at that height is the connection's and has as many blocks. -/
theorem reserveSpan_owns_iff {first last maxBlocks : Nat} {connectionId : ConnectionId} {blockHashes : List Hash}
    {start nblocks : Nat} {q' : BlockQueue}
    (reserved : q.reserveSpan first last maxBlocks connectionId blockHashes = .ok ((start, nblocks), q'))
    (positive : 0 < nblocks) :
    q'.Owns connectionId start nblocks ↔
      ∀ t ∈ q.blocks.elems, t.startBlockHeight = start → t.connectionId = connectionId ∧ t.nblocks = nblocks := by
  cases picked : q.reservation first last maxBlocks blockHashes with
  | none =>
    rw [reserveSpan_of_none picked] at reserved
    simp only [Except.ok.injEq, Prod.mk.injEq] at reserved
    omega
  | some reservedSpan =>
    obtain ⟨start', hashes⟩ := reservedSpan
    rw [reserveSpan_of_reservation picked] at reserved
    simp only [Except.ok.injEq, Prod.mk.injEq] at reserved
    obtain ⟨⟨rfl, rfl⟩, rfl⟩ := reserved
    rcases em (∃ t ∈ q.blocks.elems, t.startBlockHeight = start') with ⟨t, member, same⟩ | fresh
    · -- a span is at the height already, so `add_blocks` inserts nothing
      have unchanged : q.blocks.insert ⟨start', [], [], connectionId, hashes.length⟩ = q.blocks :=
        KeyedSet.insert_of_key_mem member same
      simp only [unchanged]
      by_cases owner : t.connectionId = connectionId
      · rw [setSpanHashes_of_mem hashes member same owner]
        constructor
        · rintro ⟨span, present, spanStart, spanBlocks, -⟩ other otherMember otherStart
          rw [q.blocks.eq_of_key_eq otherMember member (otherStart.trans same.symm)]
          rcases KeyedSet.mem_insert.1 present with present | ⟨rfl, -⟩
          · exact absurd spanStart (KeyedSet.mem_erase.1 present).2
          · exact ⟨owner, spanBlocks⟩
        · intro atHeight
          refine ⟨{ t with hashes := hashes }, KeyedSet.mem_insert.2 (.inr ⟨rfl, ?_⟩), same,
            (atHeight t member same).2, owner⟩
          intro other present
          simpa [same] using (KeyedSet.mem_erase.1 present).2
      · -- the span there is another connection's: `set_span_hashes` finds nothing
        have absent : ∀ span ∈ q.blocks.elems, span.startBlockHeight = start' → span.connectionId ≠ connectionId :=
          fun span present spanStart => q.blocks.eq_of_key_eq present member (spanStart.trans same.symm) ▸ owner
        rw [setSpanHashes_of_absent hashes absent]
        refine iff_of_false ?_ fun atHeight => owner (atHeight t member same).1
        rintro ⟨span, present, spanStart, -, spanOwner⟩
        exact absent span present spanStart spanOwner
    · -- the height is new: the reserved span is the connection's
      have notThere : ∀ t ∈ q.blocks.elems, t.startBlockHeight ≠ start' := fun t member same => fresh ⟨t, member, same⟩
      have placed : (⟨start', [], [], connectionId, hashes.length⟩ : Span) ∈
          (q.blocks.insert ⟨start', [], [], connectionId, hashes.length⟩).elems :=
        KeyedSet.mem_insert.2 (.inr ⟨rfl, notThere⟩)
      have replaced := setSpanHashes_of_mem
        (q := { q with blocks := q.blocks.insert ⟨start', [], [], connectionId, hashes.length⟩ }) hashes placed rfl rfl
      dsimp only at replaced
      rw [replaced]
      refine iff_of_true ⟨⟨start', hashes, [], connectionId, hashes.length⟩, KeyedSet.mem_insert.2 (.inr ⟨rfl, ?_⟩),
        rfl, rfl, rfl⟩ fun t member same => absurd same (notThere t member)
      intro other present
      exact (KeyedSet.mem_erase.1 present).2

@[simp] theorem run_nil (q : BlockQueue) : run [] q = q := rfl

theorem run_append_singleton (ops : List Operation) (op : Operation) (q : BlockQueue) :
    run (ops ++ [op]) q = op.apply (run ops q) := by
  simp [run, List.foldl_append]

theorem consistent_empty : Consistent empty where
  requestedHashes_eq := by simp [empty, listedHashes]
  disjoint := by simp [empty]

/-- Over a whole run from the empty queue, the bookkeeping holds after every
call exactly when no call gives a span a hash another span lists. -/
theorem consistent_prefixes_iff (ops : List Operation) :
    (∀ pre, pre <+: ops → Consistent (run pre empty)) ↔
      ∀ pre op, pre ++ [op] <+: ops → op.overlaps (run pre empty) = false := by
  induction ops using List.reverseRecOn with
  | nil =>
    constructor
    · intro _ pre op prefixed
      exact absurd (List.prefix_nil.1 prefixed) (by simp)
    · intro _ pre prefixed
      rw [List.prefix_nil.1 prefixed]
      exact consistent_empty
  | append_singleton ops last inductionHypothesis =>
    have prefixes : (∀ pre, pre <+: ops ++ [last] → Consistent (run pre empty)) ↔
        (∀ pre, pre <+: ops → Consistent (run pre empty)) ∧ Consistent (run (ops ++ [last]) empty) := by
      constructor
      · intro all
        exact ⟨fun pre prefixed => all pre (prefixed.trans (List.prefix_append ops [last])),
          all _ (List.prefix_refl _)⟩
      · rintro ⟨earlier, whole⟩ pre prefixed
        rcases List.prefix_concat_iff.1 prefixed with rfl | prefixed
        · exact whole
        · exact earlier pre prefixed
    have calls : (∀ pre op, pre ++ [op] <+: ops ++ [last] → op.overlaps (run pre empty) = false) ↔
        (∀ pre op, pre ++ [op] <+: ops → op.overlaps (run pre empty) = false) ∧
          last.overlaps (run ops empty) = false := by
      constructor
      · intro all
        exact ⟨fun pre op prefixed => all pre op (prefixed.trans (List.prefix_append ops [last])),
          all ops last (List.prefix_refl _)⟩
      · rintro ⟨earlier, final⟩ pre op prefixed
        rcases List.prefix_concat_iff.1 prefixed with same | prefixed
        · obtain ⟨rfl, lastSame⟩ := List.append_inj' same rfl
          rw [List.singleton_inj.1 lastSame]
          exact final
        · exact earlier pre op prefixed
    rw [prefixes, calls, ← inductionHypothesis, run_append_singleton]
    constructor
    · rintro ⟨earlier, whole⟩
      exact ⟨earlier, ((earlier ops (List.prefix_refl _)).apply_iff last).1 whole⟩
    · rintro ⟨earlier, final⟩
      exact ⟨earlier, ((earlier ops (List.prefix_refl _)).apply_iff last).2 final⟩

theorem block_queue_bookkeeping_iff (ops : List Operation) :
    ((∀ pre, pre <+: ops → Consistent (run pre empty)) ↔
        ∀ pre op, pre ++ [op] <+: ops → op.overlaps (run pre empty) = false) ∧
      ∀ (q q' : BlockQueue) (first last maxBlocks : Nat) (connectionId : ConnectionId) (blockHashes : List Hash)
        (start nblocks : Nat), q.reserveSpan first last maxBlocks connectionId blockHashes = .ok ((start, nblocks), q') →
          0 < nblocks →
          (q'.Owns connectionId start nblocks ↔
            ∀ t ∈ q.blocks.elems, t.startBlockHeight = start → t.connectionId = connectionId ∧ t.nblocks = nblocks) :=
  ⟨consistent_prefixes_iff ops, fun _ _ _ _ _ _ _ _ _ reserved positive => reserveSpan_owns_iff reserved positive⟩

/-- Two connections offered overlapping hashes; then the first is flushed. -/
def overlappingReservations : List Operation :=
  [.reserveSpan 0 1 10 1 [1, 2], .reserveSpan 0 2 10 2 [3, 2], .flushSpans 1 false]

theorem overlapping_reservations_break_bookkeeping :
    (Operation.reserveSpan 0 2 10 2 [3, 2]).overlaps (run [.reserveSpan 0 1 10 1 [1, 2]] empty) = true ∧
      ¬(∀ pre, pre <+: overlappingReservations → Consistent (run pre empty)) ∧
      (run overlappingReservations empty).requested 2 = false ∧
      (∃ span ∈ (run overlappingReservations empty).blocks.elems, 2 ∈ span.hashes) ∧
      (run [.reserveSpan 0 1 10 1 [1, 2]] empty).reserveSpan 0 0 10 2 [3] =
        .ok ((0, 1), run [.reserveSpan 0 1 10 1 [1, 2]] empty) ∧
      ¬(run [.reserveSpan 0 1 10 1 [1, 2]] empty).Owns 2 0 1 := by
  have overlapping :
      (Operation.reserveSpan 0 2 10 2 [3, 2]).overlaps (run [.reserveSpan 0 1 10 1 [1, 2]] empty) = true := by
    decide
  have collision : (run [.reserveSpan 0 1 10 1 [1, 2]] empty).reserveSpan 0 0 10 2 [3] =
      .ok ((0, 1), run [.reserveSpan 0 1 10 1 [1, 2]] empty) := by
    decide
  have bookkeeping := block_queue_bookkeeping_iff overlappingReservations
  refine ⟨overlapping, fun consistent => ?_, by decide, by decide, collision, fun owned => ?_⟩
  · have fresh := bookkeeping.1.1 consistent [.reserveSpan 0 1 10 1 [1, 2]] (.reserveSpan 0 2 10 2 [3, 2])
      ⟨[.flushSpans 1 false], rfl⟩
    rw [overlapping] at fresh
    cases fresh
  · have atHeight := (bookkeeping.2 _ _ 0 0 10 2 [3] 0 1 collision Nat.one_pos).1 owned
    exact absurd atHeight (by decide)

end BlockQueue

end ElectroneumClassic
