import ElectroneumClassic.Config
import ElectroneumClassic.Lib.Machine
import ElectroneumClassic.Lib.Effects
import ElectroneumClassic.Lib.WriteOnce
import ElectroneumClassic.Lib.IStream
import ElectroneumClassic.Lib.Tally
import ElectroneumClassic.Lib.Containers
import ElectroneumClassic.Lib.Positional
import ElectroneumClassic.Lib.Merkle
import ElectroneumClassic.Lib.Limbs
import ElectroneumClassic.Basic.Types
import ElectroneumClassic.Basic.Difficulty
import ElectroneumClassic.Basic.Reward
import ElectroneumClassic.Basic.HardFork
import ElectroneumClassic.Voting.Window
import ElectroneumClassic.Voting.Replay
import ElectroneumClassic.Voting.Sequential
import ElectroneumClassic.Db.Tables
import ElectroneumClassic.Db.Update
import ElectroneumClassic.Db.Writes
import ElectroneumClassic.Db.Ledger
import ElectroneumClassic.Db.Undo
import ElectroneumClassic.Checkpoints
import ElectroneumClassic.Core.State
import ElectroneumClassic.Core.Difficulty
import ElectroneumClassic.Core.MainChain
import ElectroneumClassic.Core.AltChain
import ElectroneumClassic.Core.FastSync
import ElectroneumClassic.Chain.AlternativeDifficulty
import ElectroneumClassic.Chain.Steps
import ElectroneumClassic.Chain.DifficultyCache
import ElectroneumClassic.Chain.SpentKeys
import ElectroneumClassic.Chain.Atomicity
import ElectroneumClassic.Chain.HashCheck
import ElectroneumClassic.Chain.Reorganize
import ElectroneumClassic.Chain.Timestamps
import ElectroneumClassic.Pool.TxPool
import ElectroneumClassic.Pool.KeyImages
import ElectroneumClassic.Pool.Runs
import ElectroneumClassic.Pool.SortedEntries
import ElectroneumClassic.Pool.NotKeptSpenders
import ElectroneumClassic.Mining.MinerTx
import ElectroneumClassic.Mining.BlockTemplate
import ElectroneumClassic.Mining.Selection
import ElectroneumClassic.Core.OutputDistribution
import ElectroneumClassic.Serialization.Varint
import ElectroneumClassic.Serialization.BinaryArchive
import ElectroneumClassic.Serialization.TxExtra
import ElectroneumClassic.Serialization.Transaction
import ElectroneumClassic.Basic.TransactionWeight
import ElectroneumClassic.Basic.OutputOffsets
import ElectroneumClassic.Basic.Money
import ElectroneumClassic.Crypto.TreeHash
import ElectroneumClassic.Crypto.Scalar
import ElectroneumClassic.Common.Base58
import ElectroneumClassic.Mnemonics.LanguageBase
import ElectroneumClassic.Mnemonics.WordLists
import ElectroneumClassic.Mnemonics.ElectrumWords
import ElectroneumClassic.Mnemonics.RoundTrip
import ElectroneumClassic.Protocol.BlockQueue
