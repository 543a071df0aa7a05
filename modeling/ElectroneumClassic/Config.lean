import Mathlib.Algebra.Group.Nat.Defs

/-!
# Network constants

The constants of `cryptonote_config.h` that the modelled consensus code reads.
`DIFFICULTY_BLOCKS_COUNT` is a macro without parentheses; every use of it in
the modelled code is a plain assignment, so its value is the sum.
-/

namespace ElectroneumClassic.Config

def CRYPTONOTE_MINED_MONEY_UNLOCK_WINDOW : Nat := 18
def CURRENT_TRANSACTION_VERSION : Nat := 2
def CRYPTONOTE_BLOCK_FUTURE_TIME_LIMIT : Nat := 60 * 60 * 2
def BLOCKCHAIN_TIMESTAMP_CHECK_WINDOW : Nat := 11

def MONEY_SUPPLY : Nat := 2100000000000
def EMISSION_SPEED_FACTOR_PER_MINUTE : Nat := 20
def FINAL_SUBSIDY_PER_MINUTE : Nat := 30

def CRYPTONOTE_REWARD_BLOCKS_WINDOW : Nat := 100
def CRYPTONOTE_BLOCK_GRANTED_FULL_REWARD_ZONE_V1 : Nat := 20000
def CRYPTONOTE_BLOCK_GRANTED_FULL_REWARD_ZONE_V2 : Nat := 60000
def CRYPTONOTE_BLOCK_GRANTED_FULL_REWARD_ZONE_V5 : Nat := 150000

def HARDFORK_EMERGENCY_V6_HEIGHT : Nat := 12500

def DIFFICULTY_TARGET : Nat := 60
def DIFFICULTY_WINDOW : Nat := 720
def DIFFICULTY_WINDOW_V6_OLD : Nat := 360
def DIFFICULTY_WINDOW_V6 : Nat := 60
def DIFFICULTY_WINDOW_V9 : Nat := 90
def DIFFICULTY_LAG : Nat := 15
def DIFFICULTY_CUT : Nat := 60
def DIFFICULTY_BLOCKS_COUNT : Nat := DIFFICULTY_WINDOW + DIFFICULTY_LAG
def DIFFICULTY_BLOCKS_COUNT_V6 : Nat := DIFFICULTY_WINDOW_V6 + 1
def DIFFICULTY_BLOCKS_COUNT_V9 : Nat := DIFFICULTY_WINDOW_V9 + 1
def CRYPTONOTE_BLOCK_FUTURE_TIME_LIMIT_V6 : Nat := 3 * DIFFICULTY_TARGET

def HF_VERSION_MIN_MIXIN_10 : Nat := 9
def HF_VERSION_ENFORCE_RCT : Nat := 9

def HASH_OF_HASHES_STEP : Nat := 256

def CRYPTONOTE_COINBASE_BLOB_RESERVED_SIZE : Nat := 600
def HF_VERSION_PER_BYTE_FEE : Nat := 20
def DEFAULT_TXPOOL_MAX_WEIGHT : Nat := 648000000
def CRYPTONOTE_MEMPOOL_TX_LIVETIME : Nat := 86400 * 3
def CRYPTONOTE_MEMPOOL_TX_FROM_ALT_BLOCK_LIVETIME : Nat := 604800

def CRYPTONOTE_DISPLAY_DECIMAL_POINT : Nat := 2

def DEFAULT_DUST_THRESHOLD : Nat := 1
def BASE_REWARD_CLAMP_THRESHOLD : Nat := 100000000

end ElectroneumClassic.Config
