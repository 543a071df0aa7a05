import Mathlib.Data.List.Basic
import Mathlib.Data.List.GetD

/-!
# Seed languages

`mnemonics/language_base.h`: a seed language is a list of `NWORDS` words, each
also known by its first `unique_prefix_length` characters. Words are UTF-8 byte
strings, as `std::string` and `epee::wipeable_string` hold them. The two maps
that `populate_maps` fills are lookups into the list in which a later word
overwrites an earlier one with the same key, as the `unordered_map` assignments
do. The throws of `populate_maps` on a short word or a repeated prefix are not
modelled; the word count it checks is a field of `Base`.
-/

namespace ElectroneumClassic.Language

/-- A byte string. -/
abbrev Bytes := List UInt8

/-- `Base::NWORDS`. -/
def nwords : Nat := 1626

/-- The copy loop of `utf8prefix`. Once a character's lead byte is copied
(`inside`), the continuation bytes `10xxxxxx` after it are copied with it; any
other byte starts the next character, while `count` lasts. -/
def copyCharacters : Bytes → Nat → Bool → Bytes
  | [], _, _ => []
  | b :: rest, count, inside =>
    if inside && b &&& 0xc0 == 0x80 then b :: copyCharacters rest count true
    else
      match count with
      | 0 => []
      | count + 1 => b :: copyCharacters rest count true

/-- `Language::utf8prefix`: the first `count` characters of `s`. -/
def utf8Prefix (s : Bytes) (count : Nat) : Bytes := copyCharacters s count false

theorem copyCharacters_of_length_le (s : Bytes) (count : Nat) (inside : Bool)
    (short : s.length ≤ count) : copyCharacters s count inside = s := by
  induction s generalizing count inside with
  | nil => rfl
  | cons b rest inductionHypothesis =>
    simp only [List.length_cons] at short
    unfold copyCharacters
    split
    · rw [inductionHypothesis count true (by omega)]
    · obtain ⟨count, rfl⟩ : ∃ c, count = c + 1 := ⟨count - 1, by omega⟩
      exact congrArg (b :: ·) (inductionHypothesis count true (by omega))

theorem utf8Prefix_of_length_le {s : Bytes} {count : Nat} (short : s.length ≤ count) :
    utf8Prefix s count = s :=
  copyCharacters_of_length_le s count false short

/-- A word's trimmed form as `populate_maps`, `create_checksum_index` and
`checksum_test` write it: its first `p` characters when it is longer than `p`
bytes, the whole word otherwise. -/
def trimWord (p : Nat) (w : Bytes) : Bytes := if w.length > p then utf8Prefix w p else w

/-- `find_seed_language` trims a seed word with `utf8prefix` alone; on a word of
at most `p` bytes that is the whole word, so it agrees with `trimWord`. -/
theorem trimWord_eq_utf8Prefix (p : Nat) (w : Bytes) : trimWord p w = utf8Prefix w p := by
  unfold trimWord
  split
  · rfl
  · rw [utf8Prefix_of_length_le (by omega)]

/-- A prefix of at least one character starts with the word's first byte. -/
theorem trimWord_cons (p : Nat) (b : UInt8) (rest : Bytes) :
    ∃ tail, trimWord (p + 1) (b :: rest) = b :: tail := by
  rw [trimWord_eq_utf8Prefix]
  exact ⟨copyCharacters rest p true, rfl⟩

/-- A byte below `0x80` is not a continuation byte `10xxxxxx`. -/
theorem and_lead_ne_of_lt {c : UInt8} (ascii : c < 0x80) : c &&& 0xc0 ≠ 0x80 := by
  intro continuation
  have below : (c &&& 0xc0).toNat ≤ c.toNat := by
    rw [UInt8.toNat_and]
    exact Nat.and_le_left
  rw [continuation] at below
  rw [UInt8.lt_iff_toNat_lt] at ascii
  simp only [UInt8.reduceToNat] at below ascii
  omega

/-- The first character of a word whose bytes are all ASCII is its first byte. -/
theorem utf8Prefix_one_of_ascii (b : UInt8) (rest : Bytes) (ascii : ∀ c ∈ rest, c < 0x80) :
    utf8Prefix (b :: rest) 1 = [b] := by
  cases rest with
  | nil => rfl
  | cons c rest =>
    have lead := and_lead_ne_of_lt (ascii c List.mem_cons_self)
    simp [utf8Prefix, copyCharacters, lead]

/-- `Language::Base`: the constructor's arguments; `populate_maps` throws unless
the list has `NWORDS` words. -/
structure Base where
  languageName : String
  englishLanguageName : String
  wordList : List String
  uniquePrefixLength : Nat
  length_wordList : wordList.length = nwords

/-- The words as the byte strings `get_word_list` hands out. -/
def Base.words (l : Base) : List Bytes := l.wordList.map fun w => w.toUTF8.toList

theorem Base.length_words (l : Base) : l.words.length = nwords := by
  rw [Base.words, List.length_map, l.length_wordList]

theorem ByteArray.toList_loop_eq (bs : ByteArray) (i : Nat) (r : List UInt8) :
    ByteArray.toList.loop bs i r = r.reverse ++ bs.data.toList.drop i := by
  fun_induction ByteArray.toList.loop bs i r with
  | case1 i r inside inductionHypothesis =>
    have inData : i < bs.data.toList.length := by
      rw [Array.length_toList]
      exact inside
    have byte : bs.get! i = bs.data.toList[i] := by
      rw [Array.getElem_toList]
      exact getElem!_pos bs.data i inside
    rw [inductionHypothesis, List.reverse_cons, List.append_assoc, List.singleton_append, byte,
      ← List.drop_eq_getElem_cons inData]
  | case2 i r outside =>
    rw [List.drop_eq_nil_of_le (by rw [Array.length_toList]; exact Nat.le_of_not_lt outside),
      List.append_nil]

/-- The bytes of a byte array, read without its index loop. -/
theorem ByteArray.toList_eq_data_toList (bs : ByteArray) : bs.toList = bs.data.toList := by
  rw [ByteArray.toList, ByteArray.toList_loop_eq, List.reverse_nil, List.nil_append, List.drop_zero]

/-- The words with the bytes read off the arrays directly, the form in which
facts about a whole word list are evaluated. -/
theorem Base.words_eq (l : Base) : l.words = l.wordList.map fun w => w.toUTF8.data.toList := by
  simp only [Base.words, ByteArray.toList_eq_data_toList]

/-- One assignment `map[key w] = i`, seen from the entry at `t`. -/
def assign (key : Bytes → Bytes) (t : Bytes) (found : Option Nat) (entry : Bytes × Nat) :
    Option Nat :=
  if key entry.1 = t then some entry.2 else found

/-- A map filled by assigning `key w ↦ i` for the words `w` at positions `i`
from the first on, read at `t`. -/
def lookup (key : Bytes → Bytes) (ws : List Bytes) (t : Bytes) : Option Nat :=
  ws.zipIdx.foldl (assign key t) none

/-- `word_map`: each word to its index. -/
def Base.wordMap (l : Base) : Bytes → Option Nat := lookup id l.words

/-- `trimmed_word_map`: each word's trimmed form to its index. -/
def Base.trimmedWordMap (l : Base) : Bytes → Option Nat :=
  lookup (trimWord l.uniquePrefixLength) l.words

theorem foldl_lookup_bound (key : Bytes → Bytes) (t : Bytes) (ws : List Bytes) (start : Nat)
    (found : Option Nat) (i : Nat)
    (result : (ws.zipIdx start).foldl (assign key t) found = some i) :
    found = some i ∨ i < start + ws.length := by
  induction ws generalizing start found with
  | nil => exact Or.inl result
  | cons w rest inductionHypothesis =>
    rw [List.zipIdx_cons, List.foldl_cons] at result
    rcases inductionHypothesis (start + 1) _ result with earlier | inside
    · unfold assign at earlier
      split at earlier
      · simp only [Option.some.injEq] at earlier
        right
        simp only [List.length_cons]
        omega
      · exact Or.inl earlier
    · right
      simp only [List.length_cons]
      omega

/-- Every index a map gives back is a position of the list. -/
theorem lookup_lt {key : Bytes → Bytes} {ws : List Bytes} {t : Bytes} {i : Nat}
    (found : lookup key ws t = some i) : i < ws.length := by
  rcases foldl_lookup_bound key t ws 0 none i found with absent | inside
  · cases absent
  · omega

theorem Base.trimmedWordMap_lt {l : Base} {t : Bytes} {i : Nat}
    (found : l.trimmedWordMap t = some i) : i < nwords := by
  rw [← l.length_words]
  exact lookup_lt found

/-- A map read at a key that no word has keeps what it held. -/
theorem foldl_assign_of_not_mem (key : Bytes → Bytes) (t : Bytes) (ws : List Bytes) (start : Nat)
    (found : Option Nat) (absent : t ∉ ws.map key) :
    (ws.zipIdx start).foldl (assign key t) found = found := by
  induction ws generalizing start with
  | nil => rfl
  | cons w rest inductionHypothesis =>
    rw [List.map_cons, List.mem_cons, not_or] at absent
    rw [List.zipIdx_cons, List.foldl_cons, assign, if_neg (Ne.symm absent.1)]
    exact inductionHypothesis (start + 1) absent.2

theorem foldl_assign_of_nodup (key : Bytes → Bytes) (ws : List Bytes) (start : Nat)
    (found : Option Nat) (j : Nat) (inside : j < ws.length) (distinct : (ws.map key).Nodup) :
    (ws.zipIdx start).foldl (assign key (key ws[j])) found = some (start + j) := by
  induction ws generalizing start found j with
  | nil => cases inside
  | cons w rest inductionHypothesis =>
    rw [List.map_cons, List.nodup_cons] at distinct
    rw [List.zipIdx_cons, List.foldl_cons]
    cases j with
    | zero =>
      rw [List.getElem_cons_zero, assign, if_pos rfl]
      exact foldl_assign_of_not_mem key _ rest (start + 1) _ distinct.1
    | succ j =>
      have bound : j < rest.length := by simpa using inside
      -- the key of a later word is not the key of this one
      have later : key rest[j] ∈ rest.map key := List.mem_map_of_mem (List.getElem_mem _)
      have differ : key w ≠ key rest[j] := fun same => distinct.1 (same ▸ later)
      rw [List.getElem_cons_succ, assign, if_neg differ,
        inductionHypothesis (start + 1) found j bound distinct.2, Nat.add_assoc, Nat.add_comm 1 j]

/-- With keys that tell the words apart, a map gives each word's key its
position. -/
theorem lookup_of_nodup {key : Bytes → Bytes} {ws : List Bytes} {j : Nat} (inside : j < ws.length)
    (distinct : (ws.map key).Nodup) : lookup key ws (key ws[j]) = some j := by
  rw [lookup, foldl_assign_of_nodup key ws 0 none j inside distinct, Nat.zero_add]

theorem Base.getD_words_mem (l : Base) {j : Nat} (inside : j < nwords) : l.words.getD j [] ∈ l.words := by
  have position : j < l.words.length := by rw [l.length_words]; exact inside
  rw [List.getD_eq_getElem _ _ position]
  exact List.getElem_mem position

/-- The prefix of a word, looked up in the trimmed map of a language whose
prefixes are distinct, gives the word's index. -/
theorem Base.trimmedWordMap_utf8Prefix (l : Base)
    (distinct : (l.words.map (trimWord l.uniquePrefixLength)).Nodup) {j : Nat} (inside : j < nwords) :
    l.trimmedWordMap (utf8Prefix (l.words.getD j []) l.uniquePrefixLength) = some j := by
  have position : j < l.words.length := by rw [l.length_words]; exact inside
  rw [← trimWord_eq_utf8Prefix, List.getD_eq_getElem _ _ position, Base.trimmedWordMap]
  exact lookup_of_nodup position distinct

end ElectroneumClassic.Language
