import DhcpLeasing.Disk
import Mathlib.Tactic.Common

/-!
# Files, written and read

Where there can be a file, a text can be written, and it is read as it was written.
-/

namespace DhcpLeasing.Disk

variable {d d' : Disk} {s path content : String}

/-- A path leads to the file of its own text, or to no file. -/
lemma locate_cases (d : Disk) (s : String) :
    d.locate s = .file (Path.ofText s).toText ∨ ∀ path, d.locate s ≠ .file path := by
  unfold locate
  simp only
  split
  · exact .inr (by simp)
  · split
    · exact .inr (by simp)
    · split
      · exact .inl rfl
      · exact .inr (by simp)

lemma writeText_of_locate (h : d.locate s = .file path) (content : String) :
    d.writeText s content = some { d with files := d.files.insert path (.text content) } := by
  rw [writeText, h]

lemma writeText_of_locate_ne (h : ∀ path, d.locate s ≠ .file path) (content : String) :
    d.writeText s content = none := by
  unfold writeText
  split
  · next path heq => exact absurd heq (h path)
  · rfl

/-- A file is read as it was written. -/
lemma readText_of_writeText (h : d.writeText s content = some d') :
    d'.readText s = some content := by
  unfold writeText at h
  split at h
  · next path hplace =>
    obtain rfl := Option.some.inj h
    -- writing leaves the directories as they are, so the path leads to the same place
    have hplace' : Disk.locate { d with files := d.files.insert path (.text content) } s =
        .file path := hplace
    simp only [readText, hplace', SortedMap.get?_insert, if_true]
  · cases h

/-- Writing leaves the directories as they are, so every path leads where it led before. -/
lemma locate_of_writeText (h : d.writeText s content = some d') (other : String) :
    d'.locate other = d.locate other := by
  unfold writeText at h
  split at h
  · obtain rfl := Option.some.inj h
    rfl
  · cases h

/-- What is written to one file is not read from another one. -/
lemma readText_of_writeText_ne {other : String} (h : d.writeText s content = some d')
    (hne : d.locate other ≠ d.locate s) : d'.readText other = d.readText other := by
  unfold readText
  rw [locate_of_writeText h]
  cases hother : d.locate other with
  | file place =>
    unfold writeText at h
    split at h
    · next path hplace =>
      obtain rfl := Option.some.inj h
      have hdiffer : place ≠ path := by
        rintro rfl
        exact hne (hother.trans hplace.symm)
      simp only [SortedMap.get?_insert, if_neg hdiffer]
    · cases h
  | directory => rfl
  | nowhere => rfl

/-- Writing the same text once more changes nothing. -/
lemma writeText_again (h : d.writeText s content = some d') :
    d'.writeText s content = some d' := by
  unfold writeText at h
  split at h
  · next path hplace =>
    obtain rfl := Option.some.inj h
    have hplace' : Disk.locate { d with files := d.files.insert path (.text content) } s =
        .file path := hplace
    rw [writeText_of_locate hplace', SortedMap.insert_insert]
  · cases h

/-- A text that can be read is at a path that is there. -/
lemma hasPath_of_readText (h : d.readText s = some content) : d.hasPath s = true := by
  unfold readText at h
  split at h
  · next place hplace =>
    split at h
    · next content hget =>
      simp only [hasPath, hplace, SortedMap.contains, hget, Option.isSome]
    · cases h
  · cases h

end DhcpLeasing.Disk
