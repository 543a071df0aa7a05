import ElectroneumClassic.Core.AltChain
import ElectroneumClassic.Core.FastSync

/-!
# What the blockchain's methods can do to its state

Every method of the model changes its state by a sequence of `Effect`s: it
computes the next difficulty and caches it, invalidates the difficulty window,
stores a block through `add_block`, pops one through `pop_block`, reorganises
the hard-fork object, or changes only the bookkeeping beside the database and
the caches (the pool, the alternative and invalid blocks, the fast-sync
tables).  A block reaches `add_block` only with pool transactions and a
coinbase miner transaction, and a block is popped only after the window cache
was invalidated.

Each method is shown once to move along `Effect`s (`Moves`); an invariant then
needs one lemma per effect and holds at the end of every run, whether the run
returns or throws.
-/

namespace ElectroneumClassic

open Cryptonote BlockchainDB Effects Relation

variable {Pool : Type}

namespace Blockchain

/-- `s'` keeps the database, the hard-fork object and both difficulty caches
of `s`. -/
structure Frames (s s' : Blockchain Pool) : Prop where
  db : s'.db = s.db
  hardfork : s'.hardfork = s.hardfork
  windowHeight : s'.timestampsAndDifficultiesHeight = s.timestampsAndDifficultiesHeight
  timestamps : s'.timestamps = s.timestamps
  difficulties : s'.difficulties = s.difficulties
  topHash : s'.difficultyForNextBlockTopHash = s.difficultyForNextBlockTopHash
  difficulty : s'.difficultyForNextBlock = s.difficultyForNextBlock
  hashOfHashes : s'.blocksHashOfHashes = s.blocksHashOfHashes
  hashCheck : s'.blocksHashCheck = s.blocksHashCheck

/-- The state `add_block` leaves behind, returned or thrown. -/
def withBlockStored (env : Env Pool) (s : Blockchain Pool) (bl : Block)
    (weight cumulativeDifficulty coinsGenerated : Nat) (txs : List Transaction) : Blockchain Pool :=
  let outcome := addBlock env.hashing s.hardfork bl weight cumulativeDifficulty coinsGenerated txs s.db
  { s with db := outcome.db, hardfork := outcome.hardfork }

/-- The primitive changes the methods make to a `Blockchain`. -/
inductive Effect (env : Env Pool) : Blockchain Pool → Blockchain Pool → Prop
  | cacheDifficulty (s : Blockchain Pool) : Effect env s s.withDifficultyCached
  | resetDifficultyCache (s : Blockchain Pool) :
      Effect env s { s with timestampsAndDifficultiesHeight := 0 }
  | storeBlock (s : Blockchain Pool) (bl : Block) (weight cumulativeDifficulty coinsGenerated : Nat)
      (txs : List Transaction) (hsupported : ∀ tx ∈ txs, checkInputsTypesSupported tx = true)
      (hminer : isCoinbase bl.minerTx = true) :
      Effect env s (withBlockStored env s bl weight cumulativeDifficulty coinsGenerated txs)
  | popBlock (s : Blockchain Pool) (hreset : s.timestampsAndDifficultiesHeight = 0) :
      Effect env s { s with db := (popBlock env.hashing s.db).1 }
  | reorganize (s : Blockchain Pool) (height : Nat) : Effect env s (s.hardForkReorganized height)
  | prevalidate (s : Blockchain Pool) (height : Nat) (hashes : List Hash) :
      Effect env s { s with
        blocksHashCheck := checkWritten (prevalidateBlockHashesResult env s height hashes) }
  | bookkeeping (s s' : Blockchain Pool) (hframes : Frames s s') : Effect env s s'

/-- A state reachable by effects. -/
abbrev Evolves (env : Env Pool) : Blockchain Pool → Blockchain Pool → Prop :=
  ReflTransGen (Effect env)

variable {env : Env Pool}

theorem frames_refl (s : Blockchain Pool) : Frames s s := ⟨rfl, rfl, rfl, rfl, rfl, rfl, rfl, rfl, rfl⟩

theorem moves_modify_of_frames {f : Blockchain Pool → Blockchain Pool} (hf : ∀ s, Frames s (f s)) :
    Moves (Effect env) (modify f : BcM Pool PUnit) :=
  fun s => movesFrom_modify (.single (.bookkeeping _ _ (hf s)))

theorem movesFrom_set_of_frames {s s' : Blockchain Pool} (h : Frames s s') :
    MovesFrom (Effect env) (set s' : BcM Pool PUnit) s :=
  movesFrom_set (.single (.bookkeeping _ _ h))

theorem addBlockAsInvalid_moves (bei : BlockExtendedInfo) (h : Hash) :
    Moves (Effect env) (addBlockAsInvalid bei h : BcM Pool Unit) :=
  moves_modify_of_frames fun s => by
    by_cases hmem : h ∈ s.invalidBlocks
    · simp only [hmem, if_true]; exact frames_refl s
    · simp only [hmem, if_false]; constructor <;> rfl

theorem returnTxToPool_moves (txs : List Transaction) :
    Moves (Effect env) (returnTxToPool env txs) := by
  intro s
  refine movesFrom_get_bind ?_
  exact Moves.bind (Moves.forIn fun _ _ => Moves.bind
    (moves_modify_of_frames fun _ => by constructor <;> rfl) fun _ => Moves.pure _)
    (fun _ => Moves.pure _) s

theorem getDifficultyForNextBlock_moves : Moves (Effect env) (getDifficultyForNextBlock : BcM Pool Nat) := by
  intro s
  unfold MovesFrom
  rw [getDifficultyForNextBlock_run]
  -- only the fresh computation changes the state
  split_ifs <;> simp only [final_ok] <;> first | exact .refl | exact .single (.cacheDifficulty s)

theorem takeTransactions_moves (bl : Block) (id : Hash) (fastCheck : Bool) :
    ∀ (txIds : List Hash) (txIndex : Nat) (taken : List Transaction × Nat × Nat),
      Moves (Effect env) (takeTransactions env bl id fastCheck txIds txIndex taken)
  | [], _, _ => Moves.pure _
  | txId :: rest, txIndex, (txs, feeSummary, cumulativeBlockWeight) => by
    have hrefuse : ∀ (txs : List Transaction), Moves (Effect env)
        (do addBlockAsInvalid ⟨bl, 0, 0⟩ id; returnTxToPool env txs; pure none :
          BcM Pool (Option (List Transaction × Nat × Nat))) := fun _ =>
      Moves.bind (addBlockAsInvalid_moves _ _) fun _ =>
        Moves.bind (returnTxToPool_moves _) fun _ => Moves.pure _
    intro s
    simp only [takeTransactions]
    refine movesFrom_get_bind ?_
    split
    · exact Moves.bind (returnTxToPool_moves _) (fun _ => Moves.pure _) s
    · split
      · exact Moves.bind (returnTxToPool_moves _) (fun _ => Moves.pure _) s
      · refine movesFrom_bind (movesFrom_set_of_frames (by constructor <;> rfl)) fun _ s1 _ => ?_
        -- the check passed or refused, under `fast_check` or not
        split <;> split
        all_goals first
          | exact hrefuse _ s1
          | exact takeTransactions_moves bl id fastCheck rest _ _ s1

theorem takeTransactions_supported (bl : Block) (id : Hash) (fastCheck : Bool) :
    ∀ (txIds : List Hash) (txIndex : Nat) (taken : List Transaction × Nat × Nat),
      (∀ tx ∈ taken.1, checkInputsTypesSupported tx = true) →
      Returns BcError (Blockchain Pool) (fun r => ∀ p ∈ r, ∀ tx ∈ p.1, checkInputsTypesSupported tx = true)
        (takeTransactions env bl id fastCheck txIds txIndex taken)
  | [], _, _, htaken => Returns.pure fun _ hp => by cases hp; exact htaken
  | txId :: rest, txIndex, (txs, feeSummary, cumulativeBlockWeight), htaken => by
    have hnone : ∀ x : BcM Pool Unit, Returns BcError (Blockchain Pool)
        (fun r : Option (List Transaction × Nat × Nat) => ∀ p ∈ r, ∀ tx ∈ p.1, checkInputsTypesSupported tx = true)
        (x >>= fun _ => pure none) := fun _ => Returns.bind fun _ => Returns.pure fun _ hp => by cases hp
    simp only [takeTransactions]
    refine Returns.bind fun s => ?_
    split
    · exact hnone _
    · split
      · exact hnone _
      · rename_i tx _ _ _ _
        refine Returns.bind fun _ => ?_
        have htaken' : ∀ t ∈ txs ++ [tx.val], checkInputsTypesSupported t = true := by
          intro t ht
          rcases List.mem_append.1 ht with ht | ht
          · exact htaken t ht
          · rw [List.mem_singleton.1 ht]; exact tx.property
        split <;> split
        all_goals first
          | exact Returns.bind fun _ => hnone _
          | exact takeTransactions_supported bl id fastCheck rest _ _ htaken'

theorem isCoinbase_of_prevalidate {b : Block} {height : Nat}
    (h : prevalidateMinerTransaction b height = true) : isCoinbase b.minerTx = true := by
  unfold prevalidateMinerTransaction at h
  unfold isCoinbase
  split at h
  · rename_i hvin
    simp [hvin, TxinV.isGen]
  · cases h

/-- The checks before the transaction loop change the state only through
`get_difficulty_for_next_block`. -/
theorem checkMainChainBlock_moves_of {r : Blockchain Pool → Blockchain Pool → Prop}
    (hdifficulty : Moves r (getDifficultyForNextBlock : BcM Pool Nat)) (bl : Block) (id : Hash) :
    Moves r (checkMainChainBlock env bl id) := by
  intro s
  simp only [checkMainChainBlock]
  refine movesFrom_get_bind ?_
  split
  · exact .refl
  split
  · exact .refl
  split
  · exact .refl
  refine movesFrom_bind (hdifficulty s) fun _ s1 _ => ?_
  split
  · exact .refl
  refine movesFrom_get_bind ?_
  split
  · exact .refl
  split
  · exact .refl
  split
  · exact .refl
  · exact .refl

theorem checkMainChainBlock_moves (bl : Block) (id : Hash) :
    Moves (Effect env) (checkMainChainBlock env bl id) :=
  checkMainChainBlock_moves_of getDifficultyForNextBlock_moves bl id

theorem checkMainChainBlock_coinbase (bl : Block) (id : Hash) :
    Returns BcError (Blockchain Pool) (fun r => r.isSome → isCoinbase bl.minerTx = true)
      (checkMainChainBlock env bl id) := by
  have hnone : Returns BcError (Blockchain Pool)
      (fun r : Option (Nat × Bool) => r.isSome → isCoinbase bl.minerTx = true) (pure none) :=
    Returns.pure fun h => by simp at h
  simp only [checkMainChainBlock]
  refine Returns.bind fun s => ?_
  split
  · exact hnone
  split
  · exact hnone
  split
  · exact hnone
  refine Returns.bind fun currentDiffic => ?_
  split
  · exact hnone
  refine Returns.bind fun s1 => ?_
  split
  · exact hnone
  split
  · exact hnone
  split
  · exact hnone
  · rename_i hprevalidate
    exact Returns.pure fun _ => isCoinbase_of_prevalidate (by simpa using hprevalidate)

theorem storeBlock_moves (bl : Block) (currentDiffic : Nat) (txs : List Transaction)
    (feeSummary cumulativeBlockWeight : Nat)
    (hsupported : ∀ tx ∈ txs, checkInputsTypesSupported tx = true)
    (hminer : isCoinbase bl.minerTx = true) :
    Moves (Effect env) (storeBlock env bl currentDiffic txs feeSummary cumulativeBlockWeight) := by
  intro s
  simp only [storeBlock]
  refine movesFrom_get_bind ?_
  split
  · exact Moves.bind (returnTxToPool_moves _) (fun _ => Moves.pure _) s
  · refine movesFrom_bind (movesFrom_set (.single (.storeBlock s bl _ _ _ txs hsupported hminer)))
      fun _ s1 _ => ?_
    split
    · exact Moves.bind (returnTxToPool_moves _) (fun _ => Moves.pure _) s1
    · exact Moves.bind getDifficultyForNextBlock_moves (fun _ => Moves.pure _) s1

theorem handleBlockToMainChain_moves (bl : Block) (id : Hash) :
    Moves (Effect env) (handleBlockToMainChain env bl id) := by
  intro s
  simp only [handleBlockToMainChain]
  refine movesFrom_bind (checkMainChainBlock_moves bl id s) fun checked s1 hchecked => ?_
  split
  · exact .refl
  · rename_i currentDiffic fastCheck
    have hminer := checkMainChainBlock_coinbase bl id s _ s1 hchecked (by simp)
    refine movesFrom_bind (takeTransactions_moves bl id fastCheck _ _ _ s1) fun taken s2 htaken => ?_
    split
    · exact .refl
    · rename_i txs feeSummary cumulativeBlockWeight
      have hsupported := takeTransactions_supported bl id fastCheck _ _ _ (by simp) s1 _ s2 htaken
        ⟨txs, feeSummary, cumulativeBlockWeight⟩ rfl
      refine movesFrom_bind (moves_modify_of_frames (fun _ => by constructor <;> rfl) s2) fun _ s3 _ => ?_
      exact storeBlock_moves bl currentDiffic txs feeSummary cumulativeBlockWeight hsupported hminer s3

theorem popBlockFromBlockchain_moves : Moves (Effect env) (popBlockFromBlockchain env) := by
  intro s
  simp only [popBlockFromBlockchain]
  refine movesFrom_bind (movesFrom_modify (.single (.resetDifficultyCache s))) fun _ s1 h1 => ?_
  rw [run_modify] at h1
  cases h1
  refine movesFrom_get_bind ?_
  refine movesFrom_bind (movesFrom_set (.single (.popBlock _ rfl))) fun _ s2 _ => ?_
  split
  · exact .refl
  · refine Moves.bind (Moves.forIn fun _ _ => ?_) (fun _ => Moves.bind
      (moves_modify_of_frames fun _ => by constructor <;> rfl) fun _ => Moves.pure _) s2
    split
    · exact Moves.bind (moves_modify_of_frames fun _ => by constructor <;> rfl) fun _ => Moves.pure _
    · exact Moves.pure _

/-- Reorganising the hard-fork object rewrites only `hf_versions` in the
database. -/
theorem hardForkReorganized_db (s : Blockchain Pool) (height : Nat) :
    ∃ table, (s.hardForkReorganized height).db = { s.db with hfVersions := table } := by
  unfold hardForkReorganized
  split
  · exact ⟨_, rfl⟩
  · exact ⟨s.db.hfVersions, rfl⟩

theorem reorganizeFromChainHeight_moves (height : Nat) :
    Moves (Effect env) (reorganizeFromChainHeight height : BcM Pool Unit) :=
  fun s => movesFrom_modify (.single (.reorganize s height))

theorem popBlocks_moves : ∀ count, Moves (Effect env) (popBlocks env count)
  | 0 => Moves.pure _
  | count + 1 => Moves.bind popBlockFromBlockchain_moves fun _ => popBlocks_moves count

theorem popUntil_moves (target : Hash) :
    ∀ fuel disconnected, Moves (Effect env) (popUntil env target fuel disconnected)
  | 0, _ => Moves.pure _
  | fuel + 1, disconnected => by
    intro s
    simp only [popUntil]
    refine movesFrom_get_bind ?_
    split
    · exact .refl
    · exact Moves.bind popBlockFromBlockchain_moves (fun b => popUntil_moves target fuel _) s

theorem rollbackBlockchainSwitching_moves (originalChain : List Block) (rollbackHeight : Nat) :
    Moves (Effect env) (rollbackBlockchainSwitching env originalChain rollbackHeight) := by
  intro s
  simp only [rollbackBlockchainSwitching]
  refine movesFrom_get_bind ?_
  split
  · exact .refl
  · refine movesFrom_bind (movesFrom_set (.single (.resetDifficultyCache s))) fun _ s1 _ => ?_
    refine Moves.bind (popBlocks_moves _) (fun _ => Moves.bind (reorganizeFromChainHeight_moves _)
      fun _ => Moves.bind (Moves.forIn fun bl _ => ?_) fun r => ?_) s1
    · exact Moves.bind (handleBlockToMainChain_moves _ _) fun added => by
        split
        · exact Moves.pure _
        · exact Moves.pure _
    · split
      · exact Moves.pure _
      · exact Moves.bind (reorganizeFromChainHeight_moves _) fun _ => Moves.pure _

theorem connectAlternatives_moves :
    ∀ altChain, Moves (Effect env) (connectAlternatives env altChain)
  | [] => Moves.pure _
  | entry :: rest => by
    intro s
    simp only [connectAlternatives]
    refine Moves.bind (handleBlockToMainChain_moves _ _) (fun added => ?_) s
    split
    · exact connectAlternatives_moves rest
    · exact Moves.pure _

theorem switchToAlternativeBlockchain_moves {handleAlternative : Block → Hash → BcM Pool Bool}
    (hhandle : ∀ b id, Moves (Effect env) (handleAlternative b id))
    (altChain : List (Hash × BlockExtendedInfo)) (discard : Bool) :
    Moves (Effect env) (switchToAlternativeBlockchain env handleAlternative altChain discard) := by
  have herase : ∀ h, Moves (Effect env) (modify fun s : Blockchain Pool =>
      { s with alternativeChains := s.alternativeChains.erase h }) :=
    fun _ => moves_modify_of_frames fun _ => by constructor <;> rfl
  intro s
  simp only [switchToAlternativeBlockchain]
  refine movesFrom_bind (movesFrom_modify (.single (.resetDifficultyCache s))) fun _ s1 _ => ?_
  split
  · exact .refl
  · refine movesFrom_get_bind ?_
    split
    · exact .refl
    · refine Moves.bind (popUntil_moves _ _ _) (fun disconnected => Moves.bind ?_ fun _ => ?_) s1
      · intro s2
        exact movesFrom_get_bind .refl
      · refine Moves.bind (connectAlternatives_moves altChain) fun connected => ?_
        split
        · exact Moves.bind (rollbackBlockchainSwitching_moves _ _) fun _ =>
            Moves.bind (addBlockAsInvalid_moves _ _) fun _ => Moves.bind (herase _) fun _ =>
              Moves.bind (Moves.forIn fun _ _ => Moves.bind (addBlockAsInvalid_moves _ _) fun _ =>
                Moves.bind (herase _) fun _ => Moves.pure _) fun _ => Moves.pure _
        · have hfinish : ∀ height, Moves (Effect env) (do
                for x in altChain do
                  modify fun s : Blockchain Pool =>
                    { s with alternativeChains := s.alternativeChains.erase x.1 }
                reorganizeFromChainHeight height
                pure true) := fun _ =>
            Moves.bind (Moves.forIn fun _ _ => Moves.bind (herase _) fun _ => Moves.pure _) fun _ =>
              Moves.bind (reorganizeFromChainHeight_moves _) fun _ => Moves.pure _
          split
          · exact Moves.bind (Moves.forIn fun _ _ => Moves.bind (hhandle _ _) fun _ => Moves.pure _)
              fun _ => hfinish _
          · exact hfinish _

theorem handleAlternativeBlock_moves :
    ∀ fuel b id, Moves (Effect env) (handleAlternativeBlock env fuel b id)
  | 0, _, _ => fun _ => .refl
  | fuel + 1, b, id => by
    intro s
    simp only [handleAlternativeBlock]
    refine movesFrom_bind (movesFrom_modify (.single (.resetDifficultyCache s))) fun _ s1 _ => ?_
    refine movesFrom_get_bind ?_
    -- every check before the block is stored only returns
    refine movesFrom_ite (fun _ => .refl) fun _ => ?_
    refine movesFrom_ite (fun _ => .refl) fun _ => ?_
    refine movesFrom_ite (fun _ => .refl) fun _ => ?_
    refine movesFrom_ite (fun _ => .refl) fun _ => ?_
    split
    · exact .refl
    split
    · exact .refl
    refine movesFrom_ite (fun _ => .refl) fun _ => ?_
    refine movesFrom_ite (fun _ => .refl) fun _ => ?_
    refine movesFrom_ite (fun _ => .refl) fun _ => ?_
    refine movesFrom_ite (fun _ => .refl) fun _ => ?_
    refine movesFrom_ite (fun _ => .refl) fun _ => ?_
    refine movesFrom_ite (fun _ => .refl) fun _ => ?_
    refine movesFrom_bind (movesFrom_set_of_frames (by constructor <;> rfl)) fun _ s2 _ => ?_
    -- a checkpoint or a heavier branch reorganises
    exact movesFrom_ite
      (fun _ => switchToAlternativeBlockchain_moves (handleAlternativeBlock_moves fuel) _ _ s2)
      fun _ => movesFrom_ite
        (fun _ => switchToAlternativeBlockchain_moves (handleAlternativeBlock_moves fuel) _ _ s2)
        fun _ => .refl

theorem addNewBlock_moves (fuel : Nat) (bl : Block) :
    Moves (Effect env) (addNewBlock env fuel bl) := by
  intro s
  simp only [addNewBlock]
  refine movesFrom_get_bind ?_
  refine movesFrom_ite (fun _ => ?_) fun _ => movesFrom_ite (fun _ => ?_) fun _ => ?_
  · exact movesFrom_bind (movesFrom_set_of_frames (by constructor <;> rfl)) fun _ _ _ => .refl
  · exact Moves.bind (handleAlternativeBlock_moves fuel _ _) (fun _ =>
      Moves.bind (moves_modify_of_frames fun _ => by constructor <;> rfl) fun _ => Moves.pure _) s
  · exact handleBlockToMainChain_moves _ _ s

theorem prevalidateBlockHashes_moves (height : Nat) (hashes : List Hash) :
    Moves (Effect env) (prevalidateBlockHashes env height hashes) := by
  intro s
  simp only [prevalidateBlockHashes]
  refine movesFrom_get_bind ?_
  exact movesFrom_bind (movesFrom_set (.single (.prevalidate s height hashes))) fun _ _ _ => .refl

theorem onNewTxFromBlock_moves (tx : Transaction) :
    Moves (Effect env) (onNewTxFromBlock env tx) :=
  moves_modify_of_frames fun s => by
    by_cases hzone : s.db.height < s.blocksHashCheck.length
    · simp only [hzone, if_true]; constructor <;> rfl
    · simp only [hzone, if_false]; exact frames_refl s

/-- What happens to a node's `Blockchain` between two observations: a block
arrives, a transaction of a block arrives, the protocol pre-validates block
hashes, relayed transactions change the pool, or the clock moves. -/
inductive Action (Pool : Type) where
  | addNewBlock (bl : Block) (fuel : Nat)
  | onNewTxFromBlock (tx : Transaction)
  | prevalidateBlockHashes (height : Nat) (hashes : List Hash)
  | receiveTxs (pool : Pool)
  | tick (now : Nat)

/-- The method an action runs. -/
def Action.run (env : Env Pool) : Action Pool → BcM Pool Unit
  | .addNewBlock bl fuel => do let _ ← Blockchain.addNewBlock env fuel bl
  | .onNewTxFromBlock tx => Blockchain.onNewTxFromBlock env tx
  | .prevalidateBlockHashes height hashes => do
    let _ ← Blockchain.prevalidateBlockHashes env height hashes
  | .receiveTxs pool => modify fun s => { s with pool := pool }
  | .tick now => modify fun s => { s with now := now }

/-- The state after an action, whether its method returns or throws. -/
def step (env : Env Pool) (s : Blockchain Pool) (a : Action Pool) : Blockchain Pool :=
  final ((a.run env).run s)

/-- The states a node reaches from `init` by actions. -/
inductive Reachable (env : Env Pool) (init : Blockchain Pool) : Blockchain Pool → Prop
  | init : Reachable env init init
  | step {s : Blockchain Pool} (a : Action Pool) :
      Reachable env init s → Reachable env init (step env s a)

theorem Action.run_moves (a : Action Pool) : Moves (Effect env) (a.run env) := by
  cases a with
  | addNewBlock bl fuel => exact Moves.bind (addNewBlock_moves fuel bl) fun _ => Moves.pure _
  | onNewTxFromBlock tx => exact onNewTxFromBlock_moves tx
  | prevalidateBlockHashes height hashes =>
    exact Moves.bind (prevalidateBlockHashes_moves height hashes) fun _ => Moves.pure _
  | receiveTxs pool => exact moves_modify_of_frames fun _ => by constructor <;> rfl
  | tick now => exact moves_modify_of_frames fun _ => by constructor <;> rfl

theorem Reachable.evolves {init s : Blockchain Pool} (hreach : Reachable env init s) :
    Evolves env init s := by
  induction hreach with
  | init => exact .refl
  | step a _ ih => exact ih.trans (Action.run_moves a _)

/-- An invariant of every effect holds in every reachable state. -/
theorem Reachable.invariant {I : Blockchain Pool → Prop}
    (hstep : ∀ s s', Effect env s s' → I s → I s') {init s : Blockchain Pool}
    (hreach : Reachable env init s) (hinit : I init) : I s :=
  invariant_of_reflTransGen hstep hreach.evolves hinit

end Blockchain

end ElectroneumClassic
