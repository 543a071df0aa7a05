import ElectroneumClassic.Mnemonics.ElectrumWords
import Mathlib.Data.List.Nodup
import Mathlib.Data.List.Chain

/-!
# The seed round trip

`bytes_to_words` followed by `words_to_bytes` gives back the secret key and
the language it was written in, provided no language that
`find_seed_language` tries earlier both knows every word's prefix and passes
the checksum test. The arithmetic half holds for every 32-bit group: the three
indices with their chained offsets decode back in `uint32_t` arithmetic,
although the decoding sum can exceed `2 ^ 32` for indices that no group
produces. The language half needs the two facts `populate_maps` enforces: the
words are distinct by their prefixes, and no word is empty or holds a space.
Where an earlier language knows the prefixes, the seed changes language: the
zero key written in Lojban, whose first word shares its English prefix with
"bacon", is read back in English.
-/

namespace ElectroneumClassic.Crypto.ElectrumWords

open ElectroneumClassic.Language Epee

/-! ## One group of four bytes -/

/-- The offset step of the encoding undone: `w2 = (b + r) % n` with the offset
`n - r` gives back `b` modulo `n`. -/
theorem offset_mod (b r : Nat) (below : r < 1626) :
    (1626 - r + (b + r) % 1626) % 1626 = b % 1626 := by
  omega

/-- The three base-1626 digits of a 32-bit value sum back to it; the top digit
is below 1626 since `1626 ^ 3 > 2 ^ 32`. -/
theorem offsets_recover (a : Nat) (bound : a < 2 ^ 32) :
    a % 1626 + 1626 * ((1626 - a % 1626 + (a / 1626 + a % 1626) % 1626) % 1626) +
      1626 * 1626 * ((1626 - (a / 1626 + a % 1626) % 1626 +
        (a / 1626 / 1626 + (a / 1626 + a % 1626) % 1626) % 1626) % 1626) = a := by
  rw [offset_mod _ _ (Nat.mod_lt _ (by decide)), offset_mod _ _ (Nat.mod_lt _ (by decide))]
  have top : a / 1626 / 1626 < 1626 := by omega
  rw [Nat.mod_eq_of_lt top]
  have low := Nat.div_add_mod a 1626
  have middle := Nat.div_add_mod (a / 1626) 1626
  omega

/-- `((word_list_length - w1) + w2) % word_list_length` on indices below the
word count: the subtraction does not wrap. -/
theorem offset_toNat (u v : UInt32) (small : u.toNat < 1626) (small' : v.toNat < 1626) :
    ((1626 - u + v) % 1626).toNat = (1626 - u.toNat + v.toNat) % 1626 := by
  have le : u ≤ 1626 := by
    rw [UInt32.le_iff_toNat_le]
    simp only [UInt32.reduceToNat]
    omega
  rw [UInt32.toNat_mod, UInt32.toNat_add, UInt32.toNat_sub_of_le _ _ le]
  simp only [UInt32.reduceToNat]
  omega

/-- The decoding loop of `words_to_bytes` inverts the encoding loop of
`bytes_to_words` on every 32-bit group. -/
theorem decodeGroup_encodeGroup (x : UInt32) :
    decodeGroup 1626 (encodeGroup 1626 x).1 (encodeGroup 1626 x).2.1 (encodeGroup 1626 x).2.2 =
      some x := by
  have bound := x.toNat_lt
  have first : (encodeGroup 1626 x).1.toNat = x.toNat % 1626 := by
    simp [encodeGroup]
  have second : (encodeGroup 1626 x).2.1.toNat = (x.toNat / 1626 + x.toNat % 1626) % 1626 := by
    simp only [encodeGroup, UInt32.toNat_mod, UInt32.toNat_add, UInt32.toNat_div, UInt32.reduceToNat]
    rw [Nat.mod_eq_of_lt (by omega : x.toNat / 1626 + x.toNat % 1626 < 2 ^ 32)]
  have third : (encodeGroup 1626 x).2.2.toNat =
      (x.toNat / 1626 / 1626 + (x.toNat / 1626 + x.toNat % 1626) % 1626) % 1626 := by
    simp only [encodeGroup, UInt32.toNat_mod, UInt32.toNat_add, UInt32.toNat_div, UInt32.reduceToNat]
    rw [Nat.mod_eq_of_lt (by omega : x.toNat / 1626 + x.toNat % 1626 < 2 ^ 32),
      Nat.mod_eq_of_lt (by omega :
        x.toNat / 1626 / 1626 + (x.toNat / 1626 + x.toNat % 1626) % 1626 < 2 ^ 32)]
  have top : x.toNat / 1626 / 1626 < 1626 := by omega
  have low : (1626 - (encodeGroup 1626 x).1 + (encodeGroup 1626 x).2.1) % 1626 =
      UInt32.ofNat (x.toNat / 1626 % 1626) := by
    apply UInt32.toNat_inj.mp
    rw [offset_toNat _ _ (by omega) (by omega), first, second,
      offset_mod _ _ (Nat.mod_lt _ (by decide)),
      UInt32.toNat_ofNat_of_lt' (lt_trans (Nat.mod_lt _ (by decide)) (by decide))]
  have high : (1626 - (encodeGroup 1626 x).2.1 + (encodeGroup 1626 x).2.2) % 1626 =
      UInt32.ofNat (x.toNat / 1626 / 1626) := by
    apply UInt32.toNat_inj.mp
    rw [offset_toNat _ _ (by omega) (by omega), second, third,
      offset_mod _ _ (Nat.mod_lt _ (by decide)), Nat.mod_eq_of_lt top,
      UInt32.toNat_ofNat_of_lt' (lt_trans top (by decide))]
  have remainder : (encodeGroup 1626 x).1 = UInt32.ofNat (x.toNat % 1626) := by
    apply UInt32.toNat_inj.mp
    rw [first, UInt32.toNat_ofNat_of_lt' (lt_trans (Nat.mod_lt _ (by decide)) (by decide))]
  have digits := offsets_recover x.toNat bound
  rw [offset_mod _ _ (Nat.mod_lt _ (by decide)), offset_mod _ _ (Nat.mod_lt _ (by decide)),
    Nat.mod_eq_of_lt top] at digits
  -- the sum may wrap in `uint32_t`, but it is the value's digits taken modulo `2 ^ 32`
  have whole : (encodeGroup 1626 x).1 + 1626 * UInt32.ofNat (x.toNat / 1626 % 1626) +
      1626 * 1626 * UInt32.ofNat (x.toNat / 1626 / 1626) = x :=
    calc (encodeGroup 1626 x).1 + 1626 * UInt32.ofNat (x.toNat / 1626 % 1626) +
          1626 * 1626 * UInt32.ofNat (x.toNat / 1626 / 1626)
        _ = UInt32.ofNat (x.toNat % 1626 + 1626 * (x.toNat / 1626 % 1626) +
            1626 * 1626 * (x.toNat / 1626 / 1626)) := by
          rw [remainder, UInt32.ofNat_add, UInt32.ofNat_add, UInt32.ofNat_mul, UInt32.ofNat_mul,
            UInt32.ofNat_mul]
          rfl
        _ = x := by rw [digits, UInt32.ofNat_toNat]
  simp only [decodeGroup, low, high, whole]
  exact if_pos rfl

/-- Or-ing in a value shifted past the bits of `x` adds it. -/
theorem or_mul_two_pow {x : Nat} (y k : Nat) (small : x < 2 ^ k) :
    x ||| y * 2 ^ k = x + 2 ^ k * y := by
  rw [Nat.or_comm, Nat.mul_comm, ← Nat.two_pow_add_eq_or_of_lt small, Nat.add_comm]

/-- The value `SWAP32LE` reads: four bytes, least significant first. -/
theorem readLe32_toNat (src : Bytes) (offset : Nat) :
    (readLe32 src offset).toNat = (src.getD offset 0).toNat + 2 ^ 8 * (src.getD (offset + 1) 0).toNat +
      2 ^ 16 * (src.getD (offset + 2) 0).toNat + 2 ^ 24 * (src.getD (offset + 3) 0).toNat := by
  have b0 := (src.getD offset 0).toNat_lt
  have b1 := (src.getD (offset + 1) 0).toNat_lt
  have b2 := (src.getD (offset + 2) 0).toNat_lt
  have b3 := (src.getD (offset + 3) 0).toNat_lt
  simp only [readLe32, UInt32.toNat_or, UInt32.toNat_shiftLeft, UInt8.toNat_toUInt32,
    UInt32.reduceToNat, Nat.reduceMod, Nat.shiftLeft_eq]
  rw [Nat.mod_eq_of_lt (by omega), Nat.mod_eq_of_lt (by omega), Nat.mod_eq_of_lt (by omega),
    or_mul_two_pow _ 8 b0, or_mul_two_pow _ 16 (by omega), or_mul_two_pow _ 24 (by omega)]

/-- Writing back the four bytes `SWAP32LE` read gives them again. -/
theorem le32Bytes_readLe32 (src : Bytes) (offset : Nat) :
    le32Bytes (readLe32 src offset) =
      [src.getD offset 0, src.getD (offset + 1) 0, src.getD (offset + 2) 0, src.getD (offset + 3) 0] := by
  have value := readLe32_toNat src offset
  have b0 := (src.getD offset 0).toNat_lt
  have b1 := (src.getD (offset + 1) 0).toNat_lt
  have b2 := (src.getD (offset + 2) 0).toNat_lt
  have b3 := (src.getD (offset + 3) 0).toNat_lt
  simp only [le32Bytes, List.cons.injEq, and_true]
  refine ⟨?_, ?_, ?_, ?_⟩ <;> apply UInt8.toNat_inj.mp <;>
    simp only [UInt32.toNat_toUInt8, UInt32.toNat_shiftRight, UInt32.reduceToNat, Nat.reduceMod,
      Nat.shiftRight_eq_div_pow, value] <;> omega


/-! ## Eight groups of four bytes -/

theorem flatten_le32Bytes (src : Bytes) (n : Nat) (inside : n * 4 ≤ src.length) :
    ((List.range n).map fun i => le32Bytes (readLe32 src (i * 4))).flatten = src.take (n * 4) := by
  induction n with
  | zero => simp
  | succ n inductionHypothesis =>
    have four : (src.drop (n * 4)).take 4 =
        [src.getD (n * 4) 0, src.getD (n * 4 + 1) 0, src.getD (n * 4 + 2) 0, src.getD (n * 4 + 3) 0] := by
      rw [List.drop_eq_getElem_cons (by omega), List.drop_eq_getElem_cons (by omega),
        List.drop_eq_getElem_cons (by omega), List.drop_eq_getElem_cons (by omega),
        List.getD_eq_getElem _ _ (by omega), List.getD_eq_getElem _ _ (by omega),
        List.getD_eq_getElem _ _ (by omega), List.getD_eq_getElem _ _ (by omega)]
      rfl
    rw [List.range_succ, List.map_append, List.flatten_append, inductionHypothesis (by omega),
      List.map_singleton, List.flatten_singleton, le32Bytes_readLe32, Nat.succ_mul, List.take_add, four]

theorem ofDigits_range_digits (k n : Nat) :
    Nat.ofDigits 256 ((List.range n).map fun i => k / 256 ^ i % 256) = k % 256 ^ n := by
  induction n with
  | zero => simp [Nat.mod_one]
  | succ n inductionHypothesis =>
    rw [List.range_succ, List.map_append, Nat.ofDigits_append, inductionHypothesis,
      List.length_map, List.length_range, Nat.mod_pow_succ]
    simp

@[simp]
theorem length_keyBytes (k : Key) : (keyBytes k).length = 32 := by
  simp [keyBytes]

theorem keyOfBytes_keyBytes {k : Key} (fits : k < 2 ^ 256) : keyOfBytes (keyBytes k) = k := by
  have digits : (keyBytes k).map UInt8.toNat = (List.range 32).map fun i => k / 256 ^ i % 256 := by
    simp [keyBytes, Function.comp_def]
  rw [keyOfBytes, digits, ofDigits_range_digits, Nat.mod_eq_of_lt (by simpa using fits)]

/-! ## The indices of the words -/

/-- The word indices `bytes_to_words` picks for `src`, three for each group of
four bytes. -/
def seedIndices (src : Bytes) : List Nat :=
  ((List.range (src.length / 4)).map fun i => encodeGroup 1626 (readLe32 src (i * 4))).flatMap
    fun g => [g.1.toNat, g.2.1.toNat, g.2.2.toNat]

theorem seedWords_eq_map (l : Base) (src : Bytes) :
    seedWords l src = (seedIndices src).map fun i => l.words.getD i [] := by
  simp [seedWords, seedIndices, List.map_flatMap]

/-- Each index of a group is taken modulo the word count. -/
theorem encodeGroup_lt (x : UInt32) :
    (encodeGroup 1626 x).1.toNat < nwords ∧ (encodeGroup 1626 x).2.1.toNat < nwords ∧
      (encodeGroup 1626 x).2.2.toNat < nwords := by
  simp only [encodeGroup, UInt32.toNat_mod, UInt32.reduceToNat, nwords]
  exact ⟨Nat.mod_lt _ (by decide), Nat.mod_lt _ (by decide), Nat.mod_lt _ (by decide)⟩

theorem seedIndices_lt (src : Bytes) : ∀ i ∈ seedIndices src, i < nwords := by
  intro i member
  simp only [seedIndices, List.mem_flatMap, List.mem_map, List.mem_cons, List.not_mem_nil,
    or_false] at member
  obtain ⟨g, ⟨j, -, rfl⟩, component⟩ := member
  obtain ⟨first, second, third⟩ := encodeGroup_lt (readLe32 src (j * 4))
  rcases component with rfl | rfl | rfl
  · exact first
  · exact second
  · exact third

theorem length_flatMap_triple {α β : Type} (f g h : α → β) (xs : List α) :
    (xs.flatMap fun x => [f x, g x, h x]).length = xs.length * 3 := by
  induction xs with
  | nil => rfl
  | cons x rest inductionHypothesis =>
    rw [List.flatMap_cons, List.length_append, inductionHypothesis, List.length_cons]
    simp only [List.length_cons, List.length_nil]
    omega

theorem getD_flatMap_triple {α β : Type} (f g h : α → β) (xs : List α) (d : β) {i : Nat}
    (inside : i < xs.length) :
    (xs.flatMap fun x => [f x, g x, h x]).getD (i * 3) d = f xs[i] ∧
      (xs.flatMap fun x => [f x, g x, h x]).getD (i * 3 + 1) d = g xs[i] ∧
      (xs.flatMap fun x => [f x, g x, h x]).getD (i * 3 + 2) d = h xs[i] := by
  induction xs generalizing i with
  | nil => cases inside
  | cons x rest inductionHypothesis =>
    cases i with
    | zero => simp
    | succ i =>
      have bound : i < rest.length := by simpa using inside
      obtain ⟨first, second, third⟩ := inductionHypothesis bound
      rw [List.flatMap_cons, List.getElem_cons_succ]
      refine ⟨?_, ?_, ?_⟩ <;>
        rw [List.getD_append_right _ _ _ _ (by simp only [List.length_cons, List.length_nil]; omega)] <;>
        simp only [List.length_cons, List.length_nil]
      · rw [show (i + 1) * 3 - 3 = i * 3 by omega, first]
      · rw [show (i + 1) * 3 + 1 - 3 = i * 3 + 1 by omega, second]
      · rw [show (i + 1) * 3 + 2 - 3 = i * 3 + 2 by omega, third]

theorem mapM_of_forall_eq_some {β : Type} {f : Nat → Option β} (g : Nat → β) (l : List Nat)
    (each : ∀ j ∈ l, f j = some (g j)) : l.mapM f = some (l.map g) := by
  induction l with
  | nil => rfl
  | cons j rest inductionHypothesis =>
    rw [List.mapM_cons, each j List.mem_cons_self,
      inductionHypothesis (fun i member => each i (List.mem_cons_of_mem j member))]
    rfl

/-- The decoding loop reads the groups back from the indices the encoding loop
wrote, whatever follows them. -/
theorem decodeIndices_seedIndices (src : Bytes) (extra : List Nat) (aligned : src.length % 4 = 0) :
    decodeIndices 1626 (seedIndices src ++ extra) (src.length / 4) = some src := by
  have step : ∀ i ∈ List.range (src.length / 4),
      (decodeGroup 1626 ((seedIndices src ++ extra).getD (i * 3) 0).toUInt32
        ((seedIndices src ++ extra).getD (i * 3 + 1) 0).toUInt32
        ((seedIndices src ++ extra).getD (i * 3 + 2) 0).toUInt32).map le32Bytes =
        some (le32Bytes (readLe32 src (i * 4))) := by
    intro i member
    have inside : i < ((List.range (src.length / 4)).map fun i =>
        encodeGroup 1626 (readLe32 src (i * 4))).length := by
      simpa using member
    have length := length_flatMap_triple (fun g => g.1.toNat) (fun g => g.2.1.toNat)
      (fun g => g.2.2.toNat) ((List.range (src.length / 4)).map fun i =>
        encodeGroup 1626 (readLe32 src (i * 4)))
    obtain ⟨first, second, third⟩ := getD_flatMap_triple (fun g => g.1.toNat) (fun g => g.2.1.toNat)
      (fun g => g.2.2.toNat) _ 0 inside
    rw [← seedIndices] at length first second third
    rw [List.getD_append _ _ _ _ (by omega), List.getD_append _ _ _ _ (by omega),
      List.getD_append _ _ _ _ (by omega), first, second, third]
    simp only [List.getElem_map, List.getElem_range, Nat.toUInt32_eq, UInt32.ofNat_toNat,
      decodeGroup_encodeGroup, Option.map_some]
  rw [decodeIndices, mapM_of_forall_eq_some _ _ step, Option.map_some,
    flatten_le32Bytes src _ (Nat.div_mul_le_self _ _),
    Nat.div_mul_cancel (Nat.dvd_of_mod_eq_zero aligned), List.take_length]


/-! ## The language found -/

/-- Looked up by their prefixes, the words at `is` give back `is` in a
language whose prefixes are distinct. -/
theorem matchIndices_words (l : Base) (distinct : (l.words.map (trimWord l.uniquePrefixLength)).Nodup)
    (is : List Nat) (below : ∀ i ∈ is, i < nwords) :
    matchIndices l (is.map fun i => l.words.getD i []) true = some is := by
  induction is with
  | nil => rfl
  | cons i rest inductionHypothesis =>
    rw [List.map_cons, matchIndices, List.mapM_cons, ← matchIndices,
      inductionHypothesis (fun j member => below j (List.mem_cons_of_mem i member))]
    simp only [if_true, Base.trimmedWordMap_utf8Prefix l distinct (below i List.mem_cons_self)]
    rfl

/-- The checksum word `bytes_to_words` appends passes `checksum_test`. -/
theorem checksumTest_append (ws : List Bytes) (p : Nat) :
    checksumTest (ws ++ [ws.getD (createChecksumIndex ws p) []]) p = true := by
  simp [checksumTest]

/-- The languages that either lack a word's prefix or fail the checksum test
are passed over, each at most leaving itself as the fallback. -/
theorem scanLanguages_append (seed : List Bytes) (before rest : List Base) (fallback : Option Base)
    (undetected : ∀ m ∈ before, matchIndices m seed true = none ∨
      checksumTest seed m.uniquePrefixLength = false) :
    ∃ fallback', scanLanguages seed true (before ++ rest) fallback =
      scanLanguages seed true rest fallback' := by
  induction before generalizing fallback with
  | nil => exact ⟨fallback, rfl⟩
  | cons m before inductionHypothesis =>
    have later := fun m' member => undetected m' (List.mem_cons_of_mem m member)
    rw [List.cons_append, scanLanguages]
    cases known : matchIndices m seed true with
    | none => exact inductionHypothesis fallback later
    | some matched =>
      have failed : checksumTest seed m.uniquePrefixLength = false := by
        rcases undetected m List.mem_cons_self with unknown | failed
        · rw [known] at unknown
          cases unknown
        · exact failed
      simp only [failed, Bool.not_false, Bool.and_self, if_true]
      exact inductionHypothesis (some m) later

theorem scanLanguages_cons_of_checksum {seed : List Bytes} {l : Base} {matched : List Nat}
    (known : matchIndices l seed true = some matched)
    (passes : checksumTest seed l.uniquePrefixLength = true) (rest : List Base)
    (fallback : Option Base) :
    scanLanguages seed true (l :: rest) fallback = some (matched, l) := by
  simp [scanLanguages, known, passes]

/-! ## The round trip -/

/-- The seed `bytes_to_words` writes for `src` in `l`, as `words_to_bytes`
splits it: the words, then the checksum word. -/
def writtenSeed (l : Base) (src : Bytes) : List Bytes :=
  seedWords l src ++
    [(seedWords l src).getD (createChecksumIndex (seedWords l src) l.uniquePrefixLength) []]

theorem length_seedIndices (src : Bytes) : (seedIndices src).length = src.length / 4 * 3 := by
  rw [seedIndices, length_flatMap_triple, List.length_map, List.length_range]

/-- The words of a key's seed are the words at its indices, the checksum word
at one more index. -/
theorem writtenSeed_indices (l : Base) {src : Bytes} (sized : src.length = 32) :
    ∃ j < nwords, writtenSeed l src = (seedIndices src ++ [j]).map fun i => l.words.getD i [] := by
  have below : createChecksumIndex (seedWords l src) l.uniquePrefixLength < seedLength :=
    Nat.mod_lt _ (by decide)
  rw [writtenSeed]
  generalize createChecksumIndex (seedWords l src) l.uniquePrefixLength = checksumIndex at below ⊢
  have inside : checksumIndex < (seedIndices src).length := by
    rw [length_seedIndices, sized]
    exact below
  refine ⟨(seedIndices src)[checksumIndex], seedIndices_lt src _ (List.getElem_mem inside), ?_⟩
  rw [seedWords_eq_map, List.map_append, List.map_singleton,
    List.getD_eq_getElem _ _ (by rw [List.length_map]; exact inside), List.getElem_map]

/-- A secret key written in a language whose words are nonempty, free of
spaces and distinct by their prefixes reads back as the key and that language,
unless `find_seed_language` settles on a language it tries earlier: one that
knows every word's prefix and passes the checksum test. -/
theorem secretKeyToWords_read_back {k : Key} (fits : k < 2 ^ 256) {languageName : String}
    {l : Base} (named : languageNamed languageName = some l)
    (wellFormed : ∀ w ∈ l.words, w ≠ [] ∧ 32 ∉ w)
    (distinctPrefixes : (l.words.map (trimWord l.uniquePrefixLength)).Nodup)
    {before after : List Base} (order : languageInstances = before ++ l :: after)
    (undetected : ∀ m ∈ before, matchIndices m (writtenSeed l (keyBytes k)) true = none ∨
      checksumTest (writtenSeed l (keyBytes k)) m.uniquePrefixLength = false) :
    (secretKeyToWords k [] languageName).bind wordsToSecretKey = some (k, l.languageName) := by
  have sized : (keyBytes k).length = 32 := length_keyBytes k
  obtain ⟨j, below, indexed⟩ := writtenSeed_indices l sized
  have indices : ∀ i ∈ seedIndices (keyBytes k) ++ [j], i < nwords := by
    intro i member
    rcases List.mem_append.mp member with written | checksum
    · exact seedIndices_lt _ i written
    · rw [List.mem_singleton.mp checksum]
      exact below
  have members : ∀ w ∈ writtenSeed l (keyBytes k), w ∈ l.words := by
    intro w member
    rw [indexed] at member
    obtain ⟨i, index, rfl⟩ := List.mem_map.mp member
    exact l.getD_words_mem (indices i index)
  -- the text splits back into the seed, the checksum word last
  have split : WipeableString.split ((seedWords l (keyBytes k)).flatMap (· ++ [32]) ++
      (seedWords l (keyBytes k)).getD (createChecksumIndex (seedWords l (keyBytes k))
        l.uniquePrefixLength) []) = writtenSeed l (keyBytes k) := by
    have written : ∀ w ∈ seedWords l (keyBytes k), w ≠ [] ∧ 32 ∉ w := fun w member =>
      wellFormed w (members w (List.mem_append_left _ member))
    have checksumWord := wellFormed _ (members _ (List.mem_append_right _ (List.mem_singleton_self _)))
    exact WipeableString.split_spaced _ _ written checksumWord.1 checksumWord.2
  have length : (writtenSeed l (keyBytes k)).length = seedLength + 1 := by
    rw [indexed, List.length_map, List.length_append, length_seedIndices, sized]
    rfl
  have passes : checksumTest (writtenSeed l (keyBytes k)) l.uniquePrefixLength = true :=
    checksumTest_append _ _
  have found : findSeedLanguage (writtenSeed l (keyBytes k)) true =
      some (seedIndices (keyBytes k) ++ [j], l) := by
    have matched := matchIndices_words l distinctPrefixes _ indices
    rw [← indexed] at matched
    obtain ⟨fallback, skipped⟩ := scanLanguages_append _ before (l :: after) none undetected
    rw [findSeedLanguage, order, skipped, scanLanguages_cons_of_checksum matched passes]
  have wordListLength : l.wordList.length.toUInt32 = 1626 := by
    rw [l.length_wordList]
    rfl
  have decoded := decodeIndices_seedIndices (keyBytes k) [j] (by rw [sized])
  rw [sized] at decoded
  rw [secretKeyToWords, bytesToWords_eq [] named (by rw [sized]) (by rw [sized]; decide),
    List.nil_append, Option.bind_some, wordsToSecretKey,
    wordsToBytes_of_checksum _ (by rw [split, length]), split, found, Option.bind_some,
    if_pos passes, wordListLength]
  simp [decoded, sized, keyOfBytes_keyBytes fits]

/-! ## English seeds -/

/-- A check of every element, made on a list's first `n` elements and on the
rest. -/
theorem all_of_take_drop {α : Type} (p : α → Bool) (l : List α) (n : Nat) (first : (l.take n).all p = true)
    (rest : (l.drop n).all p = true) : l.all p = true := by
  rw [← List.take_append_drop n l, List.all_append, first, rest, Bool.and_self]

/-- A chain, made of two pieces that share the element at `n`. -/
theorem isChain_of_take_drop {α : Type} {R : α → α → Prop} {l : List α} (n : Nat)
    (first : (l.take (n + 1)).IsChain R) (rest : (l.drop n).IsChain R) : l.IsChain R := by
  rcases Nat.lt_or_ge n l.length with inside | outside
  · rw [← List.take_append_drop n l, List.drop_eq_getElem_cons inside, List.isChain_split]
    rw [List.take_add_one, List.getElem?_eq_getElem inside, Option.toList_some] at first
    rw [List.drop_eq_getElem_cons inside] at rest
    exact ⟨first, rest⟩
  · rwa [List.take_of_length_le (by omega)] at first

/-- What the English round trip needs of the two word lists: English words are
nonempty ASCII without spaces and their prefixes ascend, Chinese words start
with a lead byte. -/
theorem word_lists_checked :
    (english.words.all fun w => !w.isEmpty && !w.contains 32 && w.all (· < 0x80)) = true ∧
      (english.words.map (trimWord english.uniquePrefixLength)).IsChain (· < ·) ∧
      (chineseSimplified.words.all fun v => decide (0x80 ≤ v.headD 0)) = true := by
  rw [Base.words_eq, Base.words_eq]
  -- each quarter of a list is evaluated on its own, so that no check holds a whole list
  refine ⟨all_of_take_drop _ _ 813 (all_of_take_drop _ _ 406 (by decide +kernel) (by decide +kernel))
      (all_of_take_drop _ _ 406 (by decide +kernel) (by decide +kernel)),
    isChain_of_take_drop 813 (isChain_of_take_drop 406 (by decide +kernel) (by decide +kernel))
      (isChain_of_take_drop 406 (by decide +kernel) (by decide +kernel)),
    all_of_take_drop _ _ 813 (all_of_take_drop _ _ 406 (by decide +kernel) (by decide +kernel))
      (all_of_take_drop _ _ 406 (by decide +kernel) (by decide +kernel))⟩

theorem english_word_checked {w : Bytes} (member : w ∈ english.words) :
    w ≠ [] ∧ 32 ∉ w ∧ ∀ b ∈ w, b < 0x80 := by
  have checked := List.all_eq_true.mp word_lists_checked.1 w member
  simpa [and_assoc] using checked

theorem english_wellFormed : ∀ w ∈ english.words, w ≠ [] ∧ 32 ∉ w := fun _ member =>
  ⟨(english_word_checked member).1, (english_word_checked member).2.1⟩

/-- The English prefixes ascend byte by byte, so no two are equal. -/
theorem english_distinctPrefixes :
    (english.words.map (trimWord english.uniquePrefixLength)).Nodup :=
  (List.isChain_iff_pairwise.mp word_lists_checked.2.1).nodup

/-- Every Chinese word starts with the lead byte of a multi-byte character. -/
theorem chineseSimplified_lead {v : Bytes} (member : v ∈ chineseSimplified.words) :
    0x80 ≤ v.headD 0 := by
  have checked := List.all_eq_true.mp word_lists_checked.2.2 v member
  simpa using checked

/-- The Chinese trimmed map, which `find_seed_language` tries first, knows the
prefix of no English word: an English prefix of one character is one ASCII
byte, a Chinese one starts with a lead byte. -/
theorem chineseSimplified_trimmedWordMap_of_english {w : Bytes} (member : w ∈ english.words) :
    chineseSimplified.trimmedWordMap (utf8Prefix w chineseSimplified.uniquePrefixLength) = none := by
  obtain ⟨b, rest, rfl⟩ := List.exists_cons_of_ne_nil (english_wellFormed w member).1
  have ascii := (english_word_checked member).2.2
  have first : utf8Prefix (b :: rest) chineseSimplified.uniquePrefixLength = [b] :=
    utf8Prefix_one_of_ascii b rest fun c inside => ascii c (List.mem_cons_of_mem b inside)
  have unknown : [b] ∉ chineseSimplified.words.map (trimWord chineseSimplified.uniquePrefixLength) := by
    intro known
    obtain ⟨v, chinese, trimmed⟩ := List.mem_map.mp known
    have lead := chineseSimplified_lead chinese
    cases v with
    | nil => cases trimmed
    | cons c tail =>
      obtain ⟨rest', same⟩ := trimWord_cons 0 c tail
      rw [show chineseSimplified.uniquePrefixLength = 0 + 1 from rfl, same] at trimmed
      rw [List.headD_cons, (List.cons.inj trimmed).1, UInt8.le_iff_toNat_le] at lead
      have small := ascii b List.mem_cons_self
      rw [UInt8.lt_iff_toNat_lt] at small
      simp only [UInt8.reduceToNat] at lead small
      omega
  rw [first, Base.trimmedWordMap, lookup, foldl_assign_of_not_mem _ _ _ _ _ unknown]

/-- No seed written in English is read as Chinese. -/
theorem matchIndices_chineseSimplified_english {src : Bytes} (sized : src.length = 32) :
    matchIndices chineseSimplified (writtenSeed english src) true = none := by
  obtain ⟨j, below, indexed⟩ := writtenSeed_indices english sized
  obtain ⟨i, is, first⟩ := List.exists_cons_of_ne_nil (List.append_ne_nil_of_right_ne_nil
    (seedIndices src) (List.cons_ne_nil j []))
  have inside : i < nwords := by
    have member : i ∈ seedIndices src ++ [j] := by
      rw [first]
      exact List.mem_cons_self
    rcases List.mem_append.mp member with written | checksum
    · exact seedIndices_lt src i written
    · rw [List.mem_singleton.mp checksum]
      exact below
  rw [indexed, first, List.map_cons, matchIndices, List.mapM_cons]
  simp only [if_true, chineseSimplified_trimmedWordMap_of_english (english.getD_words_mem inside)]
  rfl

/-- Every secret key written in English reads back as itself, in English. -/
theorem english_seed_round_trip {k : Key} (fits : k < 2 ^ 256) :
    (secretKeyToWords k [] "English").bind wordsToSecretKey = some (k, "English") :=
  @secretKeyToWords_read_back k fits "English" english rfl english_wellFormed
    english_distinctPrefixes [chineseSimplified] _ rfl fun m member => by
      rw [List.mem_singleton.mp member]
      exact Or.inl (matchIndices_chineseSimplified_english (length_keyBytes k))

theorem english_seed_round_trip_on_key :
    (secretKeyToWords 0x0f3a9c51e27b64d8a1c05f93e6b2d847190e5ac3f6d82b7049e1c35a8f2d6b04 []
      "English").bind wordsToSecretKey =
      some (0x0f3a9c51e27b64d8a1c05f93e6b2d847190e5ac3f6d82b7049e1c35a8f2d6b04, "English") :=
  english_seed_round_trip (by decide)

/-! ## A Lojban seed read in English -/

theorem languageNamed_lojban : languageNamed "Lojban" = some lojban := by
  rfl

theorem lojban_first_word : lojban.words.getD 0 [] = "backi".toUTF8.toList := by
  decide +kernel

/-- The first Lojban word is unknown to the Chinese trimmed map and is "bacon",
index 141, to the English one. -/
theorem firstTrimmedMatch_backi :
    firstTrimmedMatch "backi".toUTF8.toList languageInstances = some (141, english) := by
  -- "backi" shares its prefix in both languages with "bacon", English word 141
  have prefixes : utf8Prefix "backi".toUTF8.toList chineseSimplified.uniquePrefixLength =
        utf8Prefix (english.words.getD 141 []) chineseSimplified.uniquePrefixLength ∧
      utf8Prefix "backi".toUTF8.toList english.uniquePrefixLength =
        utf8Prefix (english.words.getD 141 []) english.uniquePrefixLength := by
    rw [Base.words_eq]
    decide +kernel
  have notChinese : chineseSimplified.trimmedWordMap
      (utf8Prefix "backi".toUTF8.toList chineseSimplified.uniquePrefixLength) = none := by
    rw [prefixes.1]
    exact chineseSimplified_trimmedWordMap_of_english (english.getD_words_mem (by decide))
  have bacon : english.trimmedWordMap
      (utf8Prefix "backi".toUTF8.toList english.uniquePrefixLength) = some 141 := by
    rw [prefixes.2]
    exact english.trimmedWordMap_utf8Prefix english_distinctPrefixes (by decide)
  rw [languageInstances, firstTrimmedMatch, notChinese, firstTrimmedMatch, bacon]

theorem lojban_zero_key_read_as_english :
    ∃ words, secretKeyToWords 0 [] "Lojban" = some words ∧
      wordsToSecretKey words =
        some (keyOfBytes (List.replicate 8 [141, 0, 0, 0]).flatten, "English") := by
  have read := zero_key_read_back languageNamed_lojban
    (by rw [lojban_first_word]; decide +kernel) (by rw [lojban_first_word]; decide +kernel)
  have group : le32Bytes (141 : Nat).toUInt32 = [141, 0, 0, 0] := by decide
  have name : english.languageName = "English" := rfl
  rw [lojban_first_word, firstTrimmedMatch_backi, Option.map_some, group, name,
    secretKeyToWords_zero languageNamed_lojban, Option.bind_some] at read
  exact ⟨_, secretKeyToWords_zero languageNamed_lojban, read⟩

end ElectroneumClassic.Crypto.ElectrumWords
