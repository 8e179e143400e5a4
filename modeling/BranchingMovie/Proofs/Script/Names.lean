import BranchingMovie.Proofs.Asset.KeyLaws
import BranchingMovie.Proofs.Outcome
import BranchingMovie.Script.Reader

/-!
# Names and sizes of scripts

The name of an entry is a word of the script, so it has no blank and its key is its own key
(`key_key_name`).  A script has no more entries than its file has bytes (`length_readBytes_le`).
-/

namespace BranchingMovie

namespace Text.Utf8

theorem length_charsFrom_le (done : List (Option Char)) (bytes : List UInt8) :
    (charsFrom done bytes).length ≤ done.length + bytes.length := by
  induction done, bytes using charsFrom.induct with
  | case1 done =>
    rw [charsFrom, List.length_reverse]
    exact Nat.le_refl _
  | case2 done b bytes ih =>
    have hRest := length_nextChar_le b bytes
    rw [charsFrom]
    simp only [List.length_cons] at ih ⊢
    omega

/-- There are no more characters than bytes. -/
theorem length_decodeLossy_le (bytes : List UInt8) : (decodeLossy bytes).length ≤ bytes.length := by
  rw [decodeLossy, List.length_map]
  exact (length_charsFrom_le [] bytes).trans (Nat.le_of_eq (Nat.zero_add _))

end Text.Utf8

namespace Script

/-- The name of a record is one of its words. -/
theorem name_of_readRecord {record : Nat} {words : List (List Char)} {entry : Entry}
    (h : readRecord record words = .ok entry) : entry.name.toList ∈ words := by
  cases words with
  | nil => cases h
  | cons word words =>
    simp only [readRecord, bind, Except.bind, throw, throwThe, MonadExceptOf.throw] at h
    split at h
    · cases h
    · split at h
      · cases h
      · cases words with
        | nil => cases h
        | cons name numbers =>
          simp only at h
          split at h
          · cases h
          · split at h
            · cases h
              rw [String.toList_ofList]
              exact List.mem_cons_of_mem word List.mem_cons_self
            · cases h

/-- Names are words, and each record takes one word at least. -/
theorem readRecords_ok {record : Nat} {words : List (List Char)} {entries : List Entry}
    (h : readRecords record words = .ok entries) :
    entries.length ≤ words.length ∧ ∀ entry ∈ entries, entry.name.toList ∈ words := by
  induction record, words using readRecords.induct generalizing entries with
  | case1 record =>
    rw [readRecords, dif_pos rfl] at h
    cases h
    exact ⟨Nat.le_refl _, fun entry hEntry => absurd hEntry List.not_mem_nil⟩
  | case2 record words hWords ih =>
    rw [readRecords, dif_neg hWords] at h
    obtain ⟨first, hFirst, h⟩ := Outcome.bind_ok.1 h
    obtain ⟨others, hOthers, h⟩ := Outcome.bind_ok.1 h
    cases h
    obtain ⟨hLength, hNames⟩ := ih hOthers
    have hPositive := List.length_pos_iff.2 hWords
    refine ⟨?_, fun entry hEntry => ?_⟩
    · rw [List.length_drop, recordLength] at hLength
      rw [List.length_cons]
      omega
    · rcases List.mem_cons.1 hEntry with rfl | hRest
      · exact List.mem_of_mem_take (name_of_readRecord hFirst)
      · exact List.mem_of_mem_drop (hNames entry hRest)

/-- A script has no more entries than its file has bytes. -/
theorem length_readBytes_le {bytes : List UInt8} {entries : List Entry}
    (h : readBytes bytes = .ok entries) : entries.length ≤ bytes.length :=
  (readRecords_ok h).1.trans <|
    (Text.length_words_le _).trans (Text.Utf8.length_decodeLossy_le bytes)

/-- The names of a script have keys that stay what they are. -/
theorem key_key_name {bytes : List UInt8} {entries : List Entry}
    (h : readBytes bytes = .ok entries) {entry : Entry} (hEntry : entry ∈ entries) :
    Asset.key (Asset.key entry.name) = Asset.key entry.name :=
  Asset.key_key <| Asset.noBlankAfterSeparator_of_no_blank <|
    Text.isBlank_of_mem_words ((readRecords_ok h).2 entry hEntry)

end Script
end BranchingMovie
