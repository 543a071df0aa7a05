import ElectroneumClassic.Basic.Types
import ElectroneumClassic.Mnemonics.WordLists
import Mathlib.Data.List.GetD
import Mathlib.Data.List.ModifyLast
import Mathlib.Data.Nat.Digits.Defs

/-!
# Mnemonic seeds

`mnemonics/electrum-words.cpp`: a secret key written as words and read back.
Each four bytes become three word indices in base `NWORDS` with chained
offsets, and a checksum word chosen by the CRC-32 of the words' prefixes is
appended. Reading a seed first finds its language: the first of
`find_seed_language`'s thirteen languages whose trimmed map knows every word's
prefix and whose checksum test passes. A seed of one repeated word passes every
checksum test, so it is read in the first language that knows the prefix of
that word, which need not be the language it was written in.
-/

namespace ElectroneumClassic

namespace Epee.WipeableString

open ElectroneumClassic.Language

/-- One byte of `wipeable_string::split`: a byte other than a space opens a field
after a space, and is appended to the last field. -/
def splitStep (state : List Bytes × Bool) (c : UInt8) : List Bytes × Bool :=
  if c ≠ 32 then
    let fields := if state.2 then state.1 ++ [[]] else state.1
    (fields.modifyLast (· ++ [c]), false)
  else (state.1, true)

/-- `wipeable_string::split`: the maximal runs of bytes other than a space. -/
def split (s : Bytes) : List Bytes := (s.foldl splitStep ([], true)).1

theorem foldl_splitStep_inside (fields : List Bytes) (current w : Bytes) (spaceFree : 32 ∉ w) :
    w.foldl splitStep (fields ++ [current], false) = (fields ++ [current ++ w], false) := by
  induction w generalizing current with
  | nil => simp
  | cons c rest inductionHypothesis =>
    have notSpace : c ≠ 32 := fun h => spaceFree (h ▸ List.mem_cons_self)
    have restFree : 32 ∉ rest := fun h => spaceFree (List.mem_cons_of_mem c h)
    rw [List.foldl_cons, splitStep, if_pos notSpace]
    simp only [Bool.false_eq_true, if_false, List.modifyLast_concat]
    rw [inductionHypothesis (current ++ [c]) restFree, List.append_assoc, List.singleton_append]

theorem foldl_splitStep_word (fields : List Bytes) (w : Bytes) (nonempty : w ≠ [])
    (spaceFree : 32 ∉ w) : w.foldl splitStep (fields, true) = (fields ++ [w], false) := by
  obtain ⟨c, rest, rfl⟩ := List.exists_cons_of_ne_nil nonempty
  have notSpace : c ≠ 32 := fun h => spaceFree (h ▸ List.mem_cons_self)
  have restFree : 32 ∉ rest := fun h => spaceFree (List.mem_cons_of_mem c h)
  rw [List.foldl_cons, splitStep, if_pos notSpace]
  simp only [if_true, List.modifyLast_concat, List.nil_append]
  rw [foldl_splitStep_inside fields [c] rest restFree, List.singleton_append]

theorem foldl_splitStep_spaced (fields ws : List Bytes)
    (words : ∀ w ∈ ws, w ≠ [] ∧ 32 ∉ w) :
    (ws.flatMap (· ++ [32])).foldl splitStep (fields, true) = (fields ++ ws, true) := by
  induction ws generalizing fields with
  | nil => simp
  | cons w rest inductionHypothesis =>
    obtain ⟨nonempty, spaceFree⟩ := words w List.mem_cons_self
    rw [List.flatMap_cons, List.foldl_append, List.foldl_append,
      foldl_splitStep_word fields w nonempty spaceFree]
    simp only [List.foldl_cons, List.foldl_nil, splitStep, ne_eq, not_true_eq_false, if_false]
    rw [inductionHypothesis (fields ++ [w]) (fun v member => words v (List.mem_cons_of_mem w member)),
      List.append_assoc, List.singleton_append]

/-- Words written each followed by a space, then a last word, split back into
the words. -/
theorem split_spaced (ws : List Bytes) (last : Bytes) (words : ∀ w ∈ ws, w ≠ [] ∧ 32 ∉ w)
    (lastNonempty : last ≠ []) (lastSpaceFree : 32 ∉ last) :
    split (ws.flatMap (· ++ [32]) ++ last) = ws ++ [last] := by
  rw [split, List.foldl_append, foldl_splitStep_spaced [] ws words,
    foldl_splitStep_word _ last lastNonempty lastSpaceFree, List.nil_append]

end Epee.WipeableString

namespace Crypto.ElectrumWords

open ElectroneumClassic.Language Epee

/-- `crypto::ElectrumWords::seed_length`. -/
def seedLength : Nat := 24

/-- One bit of the reflected CRC-32 of `boost::crc_32_type`. -/
def crcBit (crc : UInt32) : UInt32 :=
  if crc &&& 1 = 1 then (crc >>> 1) ^^^ 0xEDB88320 else crc >>> 1

def crcByte (crc : UInt32) (b : UInt8) : UInt32 := crcBit^[8] (crc ^^^ b.toUInt32)

/-- `boost::crc_32_type`: `process_bytes`, then `checksum()`. -/
def crc32 (bytes : Bytes) : UInt32 := bytes.foldl crcByte 0xFFFFFFFF ^^^ 0xFFFFFFFF

example : crc32 [0x31, 0x32, 0x33, 0x34, 0x35, 0x36, 0x37, 0x38, 0x39] = 0xCBF43926 := by
  decide +kernel

/-- `create_checksum_index`: the CRC-32 of the trimmed words, modulo the seed length. -/
def createChecksumIndex (wordList : List Bytes) (uniquePrefixLength : Nat) : Nat :=
  (crc32 (wordList.flatMap (trimWord uniquePrefixLength))).toNat % seedLength

/-- `checksum_test`: the last word against the word the other words' checksum
index picks, both trimmed. An index past the words is undefined behaviour in the
source; seeds of `seed_length + 1` words, the only ones the callers test, never
reach it. -/
def checksumTest (seed : List Bytes) (uniquePrefixLength : Nat) : Bool :=
  match seed.getLast? with
  | none => false
  | some lastWord =>
    let seed := seed.dropLast
    let checksum := seed.getD (createChecksumIndex seed uniquePrefixLength) []
    trimWord uniquePrefixLength checksum == trimWord uniquePrefixLength lastWord

/-- The inner loop of `find_seed_language`: the indices of the seed's words in
one language, by trimmed word when the seed has a checksum word and by whole
word otherwise, or `none` at the first word the language lacks. -/
def matchIndices (l : Base) (seed : List Bytes) (hasChecksum : Bool) : Option (List Nat) :=
  seed.mapM fun w =>
    if hasChecksum then l.trimmedWordMap (utf8Prefix w l.uniquePrefixLength) else l.wordMap w

/-- The outer loop of `find_seed_language` over the languages left. A language
that knows every word but fails the checksum test becomes the fallback, which is
returned with the indices cleared when no language passes. -/
def scanLanguages (seed : List Bytes) (hasChecksum : Bool) :
    List Base → Option Base → Option (List Nat × Base)
  | [], fallback => fallback.map fun l => ([], l)
  | l :: rest, fallback =>
    match matchIndices l seed hasChecksum with
    | none => scanLanguages seed hasChecksum rest fallback
    | some matched =>
      if hasChecksum && !checksumTest seed l.uniquePrefixLength then
        scanLanguages seed hasChecksum rest (some l)
      else some (matched, l)

/-- `language_instances` of `find_seed_language`, in its order. -/
def languageInstances : List Base :=
  [chineseSimplified, english, dutch, french, spanish, german, italian, portuguese, japanese,
    russian, esperanto, lojban, englishOld]

/-- `find_seed_language`: the matched indices and the language. -/
def findSeedLanguage (seed : List Bytes) (hasChecksum : Bool) : Option (List Nat × Base) :=
  scanLanguages seed hasChecksum languageInstances none

/-- The loop body of `words_to_bytes`: three word indices back to the 32-bit
group they encode, in `uint32_t` arithmetic, or `none` where the group's first
index does not come back. -/
def decodeGroup (wordListLength w1 w2 w3 : UInt32) : Option UInt32 :=
  let w0 := w1 + wordListLength * ((wordListLength - w1 + w2) % wordListLength) +
    wordListLength * wordListLength * ((wordListLength - w2 + w3) % wordListLength)
  if w0 % wordListLength = w1 then some w0 else none

/-- `dst.append((const char*)&w[0], 4)` on a little-endian host. -/
def le32Bytes (w : UInt32) : Bytes :=
  [w.toUInt8, (w >>> 8).toUInt8, (w >>> 16).toUInt8, (w >>> 24).toUInt8]

@[simp]
theorem length_le32Bytes (w : UInt32) : (le32Bytes w).length = 4 := rfl

/-- The decoding loop of `words_to_bytes` over `groups` triples of indices. -/
def decodeIndices (wordListLength : UInt32) (matched : List Nat) (groups : Nat) :
    Option Bytes :=
  ((List.range groups).mapM fun i =>
    (decodeGroup wordListLength (matched.getD (i * 3) 0).toUInt32
      (matched.getD (i * 3 + 1) 0).toUInt32 (matched.getD (i * 3 + 2) 0).toUInt32).map
        le32Bytes).map List.flatten

/-- `words_to_bytes(words, dst, len, duplicate, language_name)` from an empty
`dst`: the bytes and the language's name. -/
def wordsToBytes (words : Bytes) (len : Nat) (duplicate : Bool) : Option (Bytes × String) := do
  let seed := WipeableString.split words
  if len % 4 ≠ 0 then none
  let expected := len * 8 * 3 / 32
  if len ≠ 0 ∧ seed.length ≠ expected / 2 ∧ seed.length ≠ expected ∧
      seed.length ≠ expected + 1 then none
  let hasChecksum := if len ≠ 0 then decide (seed.length = expected + 1) else true
  let (matched, language) ← findSeedLanguage seed hasChecksum
  let seed ← if hasChecksum then
      if checksumTest seed language.uniquePrefixLength then some seed.dropLast else none
    else some seed
  let dst ← decodeIndices language.wordList.length.toUInt32 matched (seed.length / 3)
  -- an Electrum 12-word seed is written twice, separated by a space
  let dst := if len > 0 ∧ duplicate ∧ seed.length = len * 3 / 32 / 2 then dst ++ [32] ++ dst
    else dst
  return (dst, language.languageName)

/-- `*(const crypto::secret_key*)s.data()`: the key is the number its bytes
encode, least significant first. -/
def keyOfBytes (bytes : Bytes) : Key := Nat.ofDigits 256 (bytes.map UInt8.toNat)

/-- `words_to_bytes(words, crypto::secret_key&, language_name)`. -/
def wordsToSecretKey (words : Bytes) : Option (Key × String) := do
  let (s, languageName) ← wordsToBytes words 32 true
  if s.length ≠ 32 then none
  return (keyOfBytes s, languageName)

/-- `get_language_list()`, in its order. -/
def getLanguageList : List Base :=
  [german, english, spanish, french, italian, dutch, portuguese, russian, japanese,
    chineseSimplified, esperanto, lojban]

/-- The language loop of `bytes_to_words`: the last of `get_language_list()`
named `languageName` in its own language or in English. -/
def languageNamed (languageName : String) : Option Base :=
  (getLanguageList.filter fun l =>
    languageName == l.languageName || languageName == l.englishLanguageName).getLast?

/-- The loop body of `bytes_to_words`: a 32-bit group as three word indices. -/
def encodeGroup (wordListLength w0 : UInt32) : UInt32 × UInt32 × UInt32 :=
  let w1 := w0 % wordListLength
  let w2 := (w0 / wordListLength + w1) % wordListLength
  let w3 := (w0 / wordListLength / wordListLength + w2) % wordListLength
  (w1, w2, w3)

/-- `SWAP32LE(*(const uint32_t*)(src + offset))`. -/
def readLe32 (src : Bytes) (offset : Nat) : UInt32 :=
  (src.getD offset 0).toUInt32 ||| (src.getD (offset + 1) 0).toUInt32 <<< 8 |||
    (src.getD (offset + 2) 0).toUInt32 <<< 16 ||| (src.getD (offset + 3) 0).toUInt32 <<< 24

/-- `bytes_to_words(src, len, words, language_name)` with `len` the length of
`src`: the words appended to `words`. -/
def bytesToWords (src : Bytes) (words : Bytes) (languageName : String) : Option Bytes := do
  let len := src.length
  if len % 4 ≠ 0 ∨ len = 0 then none
  let language ← languageNamed languageName
  let wordList := language.words
  let wordListLength := wordList.length.toUInt32
  let groups := (List.range (len / 4)).map fun i =>
    encodeGroup wordListLength (readLe32 src (i * 4))
  let word := fun (j : UInt32) => wordList.getD j.toNat []
  let text := groups.flatMap fun g =>
    word g.1 ++ [32] ++ word g.2.1 ++ [32] ++ word g.2.2 ++ [32]
  let wordsStore := groups.flatMap fun g => [word g.1, word g.2.1, word g.2.2]
  return words ++ text ++
    wordsStore.getD (createChecksumIndex wordsStore language.uniquePrefixLength) []

/-- The 32 bytes of a secret key, least significant first. -/
def keyBytes (k : Key) : Bytes := (List.range 32).map fun i => (k / 256 ^ i).toUInt8

/-- `bytes_to_words(const crypto::secret_key&, words, language_name)`. -/
def secretKeyToWords (k : Key) (words : Bytes) (languageName : String) : Option Bytes :=
  bytesToWords (keyBytes k) words languageName

/-! ## Seeds of one repeated word -/

/-- The checksum word of a seed of one repeated word is that word. -/
theorem checksumTest_replicate (w : Bytes) (p : Nat) :
    checksumTest (List.replicate (seedLength + 1) w) p = true := by
  have below : createChecksumIndex (List.replicate seedLength w) p < seedLength :=
    Nat.mod_lt _ (by decide)
  rw [checksumTest, List.getLast?_replicate, if_neg (Nat.succ_ne_zero _)]
  simp only [List.dropLast_replicate, Nat.add_sub_cancel]
  rw [List.getD_replicate w below, beq_self_eq_true]

theorem matchIndices_replicate (l : Base) (n : Nat) (w : Bytes) :
    matchIndices l (List.replicate (n + 1) w) true =
      (l.trimmedWordMap (utf8Prefix w l.uniquePrefixLength)).map (List.replicate (n + 1)) := by
  induction n with
  | zero =>
    cases found : l.trimmedWordMap (utf8Prefix w l.uniquePrefixLength) <;>
      simp [matchIndices, found]
  | succ n inductionHypothesis =>
    rw [matchIndices, List.replicate_succ, List.mapM_cons, ← matchIndices, inductionHypothesis]
    cases l.trimmedWordMap (utf8Prefix w l.uniquePrefixLength) <;> simp [List.replicate_succ]

/-- The first of `languages` whose trimmed map knows the prefix of `w`, with the
index it gives. -/
def firstTrimmedMatch (w : Bytes) : List Base → Option (Nat × Base)
  | [] => none
  | l :: rest =>
    match l.trimmedWordMap (utf8Prefix w l.uniquePrefixLength) with
    | some i => some (i, l)
    | none => firstTrimmedMatch w rest

/-- A seed of one repeated word with its checksum word is read in the first
language that knows the word's prefix: the checksum test cannot tell the
languages apart. -/
theorem scanLanguages_replicate (w : Bytes) (languages : List Base) (fallback : Option Base) :
    scanLanguages (List.replicate (seedLength + 1) w) true languages fallback =
      match firstTrimmedMatch w languages with
      | some (i, l) => some (List.replicate (seedLength + 1) i, l)
      | none => fallback.map fun l => ([], l) := by
  induction languages generalizing fallback with
  | nil => rfl
  | cons l rest inductionHypothesis =>
    rw [scanLanguages, matchIndices_replicate, firstTrimmedMatch]
    cases l.trimmedWordMap (utf8Prefix w l.uniquePrefixLength) with
    | none => exact inductionHypothesis fallback
    | some i => simp [checksumTest_replicate]

theorem mapM_range_of_forall {β : Type} {f : Nat → Option β} {b : β} {n : Nat}
    (each : ∀ j ∈ List.range n, f j = some b) :
    (List.range n).mapM f = some (List.replicate n b) := by
  induction n with
  | zero => rfl
  | succ n inductionHypothesis =>
    have earlier : ∀ j ∈ List.range n, f j = some b := fun j member =>
      each j (List.mem_range.mpr (Nat.lt_succ_of_lt (List.mem_range.mp member)))
    rw [List.range_succ, List.mapM_append, inductionHypothesis earlier, List.mapM_cons,
      each n (List.mem_range.mpr (Nat.lt_succ_self n))]
    simp [List.replicate_succ']

/-- Three equal indices decode to the index itself. -/
theorem decodeGroup_same (i : UInt32) (below : i.toNat < nwords) :
    decodeGroup 1626 i i i = some i := by
  have reduced : i % 1626 = i := by
    apply UInt32.toNat_inj.mp
    rw [UInt32.toNat_mod]
    exact Nat.mod_eq_of_lt below
  simp [decodeGroup, reduced]

theorem decodeIndices_replicate (i : Nat) (below : i < nwords) (groups count : Nat)
    (enough : groups * 3 ≤ count) :
    decodeIndices 1626 (List.replicate count i) groups =
      some (List.replicate groups (le32Bytes i.toUInt32)).flatten := by
  have fits : i.toUInt32.toNat < nwords := by
    rw [Nat.toUInt32_eq, UInt32.toNat_ofNat_of_lt' (lt_trans below (by decide))]
    exact below
  have entry : ∀ j, j < count → (List.replicate count i).getD j 0 = i :=
    fun j inside => List.getD_replicate i inside
  have step : ∀ j ∈ List.range groups,
      (decodeGroup 1626 ((List.replicate count i).getD (j * 3) 0).toUInt32
        ((List.replicate count i).getD (j * 3 + 1) 0).toUInt32
        ((List.replicate count i).getD (j * 3 + 2) 0).toUInt32).map le32Bytes =
        some (le32Bytes i.toUInt32) := fun j member => by
    have inside := List.mem_range.mp member
    rw [entry _ (by omega), entry _ (by omega), entry _ (by omega), decodeGroup_same _ fits,
      Option.map_some]
  rw [decodeIndices, mapM_range_of_forall step, Option.map_some]

theorem firstTrimmedMatch_lt {w : Bytes} {languages : List Base} {i : Nat} {l : Base}
    (found : firstTrimmedMatch w languages = some (i, l)) : i < nwords := by
  induction languages with
  | nil => cases found
  | cons m rest inductionHypothesis =>
    rw [firstTrimmedMatch] at found
    cases known : m.trimmedWordMap (utf8Prefix w m.uniquePrefixLength) with
    | none => exact inductionHypothesis (by rw [known] at found; exact found)
    | some j =>
      rw [known] at found
      cases found
      exact Base.trimmedWordMap_lt known

/-- A seed of `seed_length` copies of `w`, each followed by a space, and `w`
once more as its checksum word. -/
def constantSeed (w : Bytes) : Bytes := (List.replicate seedLength w).flatMap (· ++ [32]) ++ w

theorem split_constantSeed (w : Bytes) (nonempty : w ≠ []) (spaceFree : 32 ∉ w) :
    WipeableString.split (constantSeed w) = List.replicate (seedLength + 1) w := by
  have copies : ∀ v ∈ List.replicate seedLength w, v ≠ [] ∧ 32 ∉ v := fun v member => by
    rw [List.eq_of_mem_replicate member]
    exact ⟨nonempty, spaceFree⟩
  rw [constantSeed, WipeableString.split_spaced _ _ copies nonempty spaceFree,
    ← List.replicate_succ']

/-- `words_to_bytes` on a seed of `seed_length + 1` words for a secret key: the
seed has a checksum word, and eight groups are decoded once the checksum test
passes again in the language found. -/
theorem wordsToBytes_of_checksum (words : Bytes)
    (sized : (WipeableString.split words).length = seedLength + 1) :
    wordsToBytes words 32 true =
      (findSeedLanguage (WipeableString.split words) true).bind fun found =>
        if checksumTest (WipeableString.split words) found.2.uniquePrefixLength then
          (decodeIndices found.2.wordList.length.toUInt32 found.1 8).bind
            fun dst => some (dst, found.2.languageName)
        else none := by
  rw [seedLength] at sized
  simp [wordsToBytes, sized]

theorem wordsToSecretKey_constantSeed (w : Bytes) (nonempty : w ≠ []) (spaceFree : 32 ∉ w) :
    wordsToSecretKey (constantSeed w) =
      (firstTrimmedMatch w languageInstances).map fun found =>
        (keyOfBytes (List.replicate 8 (le32Bytes found.1.toUInt32)).flatten,
          found.2.languageName) := by
  have split25 : WipeableString.split (constantSeed w) = List.replicate (seedLength + 1) w :=
    split_constantSeed w nonempty spaceFree
  rw [wordsToSecretKey, wordsToBytes_of_checksum _ (by rw [split25, List.length_replicate]),
    split25, findSeedLanguage, scanLanguages_replicate]
  cases found : firstTrimmedMatch w languageInstances with
  | none => rfl
  | some entry =>
    obtain ⟨i, l⟩ := entry
    have length : l.wordList.length.toUInt32 = 1626 := by
      rw [l.length_wordList]
      rfl
    have decoded := decodeIndices_replicate i (firstTrimmedMatch_lt found) 8 (seedLength + 1)
      (by decide)
    simp [checksumTest_replicate, length, decoded]

/-- The words `bytes_to_words` writes for `src` in language `l`, before the
checksum word. -/
def seedWords (l : Base) (src : Bytes) : List Bytes :=
  ((List.range (src.length / 4)).map fun i => encodeGroup 1626 (readLe32 src (i * 4))).flatMap
    fun g => [l.words.getD g.1.toNat [], l.words.getD g.2.1.toNat [], l.words.getD g.2.2.toNat []]

/-- `bytes_to_words` writes each word followed by a space, then the checksum
word. -/
theorem bytesToWords_eq {src : Bytes} (words : Bytes) {languageName : String} {l : Base}
    (named : languageNamed languageName = some l) (aligned : src.length % 4 = 0)
    (nonempty : src.length ≠ 0) :
    bytesToWords src words languageName =
      some (words ++ (seedWords l src).flatMap (· ++ [32]) ++
        (seedWords l src).getD (createChecksumIndex (seedWords l src) l.uniquePrefixLength) []) := by
  have length : l.words.length.toUInt32 = 1626 := by
    rw [l.length_words]
    rfl
  simp [bytesToWords, named, aligned, nonempty, length, seedWords, List.flatMap_assoc]

theorem readLe32_zero (n offset : Nat) : readLe32 (List.replicate n 0) offset = 0 := by
  simp only [readLe32, List.getD_eq_getElem?_getD, List.getElem?_getD_replicate_default_eq]
  decide

/-- Every index of the zero key is zero, so its words are the first word of its
language throughout. -/
theorem secretKeyToWords_zero {languageName : String} {l : Base}
    (named : languageNamed languageName = some l) :
    secretKeyToWords 0 [] languageName = some (constantSeed (l.words.getD 0 [])) := by
  have zeroBytes : keyBytes 0 = List.replicate 32 0 := by decide
  have groups : (List.range 8).map (fun i => encodeGroup 1626 (readLe32 (List.replicate 32 0) (i * 4))) =
      List.replicate 8 (0, 0, 0) := by
    simp only [readLe32_zero]
    decide
  have zeroWords : seedWords l (List.replicate 32 0) =
      List.replicate seedLength (l.words.getD 0 []) := by
    rw [seedWords, List.length_replicate, show 32 / 4 = 8 from rfl, groups]
    rfl
  have checksumWord : (List.replicate seedLength (l.words.getD 0 [])).getD
      (createChecksumIndex (List.replicate seedLength (l.words.getD 0 [])) l.uniquePrefixLength) [] =
      l.words.getD 0 [] :=
    List.getD_replicate _ (Nat.mod_lt _ (by decide))
  rw [secretKeyToWords, zeroBytes, bytesToWords_eq [] named rfl (by decide), zeroWords,
    checksumWord, constantSeed, List.nil_append]

/-- The zero key written in any language is read back in the first language of
`find_seed_language` that knows the prefix of that language's first word, as the
key whose every group is the index found there. -/
theorem zero_key_read_back {languageName : String} {l : Base}
    (named : languageNamed languageName = some l) (nonempty : l.words.getD 0 [] ≠ [])
    (spaceFree : 32 ∉ l.words.getD 0 []) :
    (secretKeyToWords 0 [] languageName).bind wordsToSecretKey =
      (firstTrimmedMatch (l.words.getD 0 []) languageInstances).map fun found =>
        (keyOfBytes (List.replicate 8 (le32Bytes found.1.toUInt32)).flatten,
          found.2.languageName) := by
  rw [secretKeyToWords_zero named, Option.bind_some,
    wordsToSecretKey_constantSeed _ nonempty spaceFree]

end Crypto.ElectrumWords

end ElectroneumClassic
