import Kompositum.Proofs.Files.Path
import Kompositum.Proofs.Ngram.Sizes
import Kompositum.Proofs.Text.Digits

/-!
# Segments and count files serve the same

An order is looked up in its segment, or in its count file if it has none. Both know the rows of
the count file, and find them by the same queries.

* `CountFile.ofOrder?_absolute`: a count file in a folder by its absolute path.
* `GramSource.Serves`: what a source says about an order of a count file.
* `GramSource.serves_segment`, `GramSource.serves_counts`: both kinds of sources do.
-/

namespace Kompositum

namespace CountFile

/-- The name of a count file is one that a file may have. -/
theorem isName_fileName (n : Nat) : Path.IsName (fileName n) := by
  have hlast : (fileName n).getLast? = some 't' := by
    have hend : "gms.txt".toList.getLast? = some 't' := by decide
    unfold fileName
    rw [List.getLast?_append, hend, Option.some_or]
  refine ⟨?_, ?_, ?_, fun hslash => ?_⟩
  · rintro heq
    rw [heq] at hlast
    exact absurd hlast (by decide)
  · rintro heq
    rw [heq] at hlast
    exact absurd hlast (by decide)
  · rintro heq
    rw [heq] at hlast
    exact absurd hlast (by decide)
  · rcases List.mem_append.1 hslash with hdigit | hend
    · exact Text.not_mem_ofNat rfl n hdigit
    · exact absurd hend (by decide)

/-- **A count file in a folder** is the one in this folder by its absolute path. -/
theorem ofOrder?_absolute {files : Files} (h : files.HasHome) {dir : Text} {n : Nat}
    {f : CountFile} (hf : ofOrder? files dir n = .ok f) :
    ofOrder? files (Path.absolute files.homePath dir) n =
      .ok ⟨Path.join (Path.absolute files.homePath dir) (fileName n), f.content⟩ := by
  rw [ofOrder?_eq_ok] at hf ⊢
  refine ⟨?_, rfl⟩
  rw [← hf.1]
  unfold Files.map Files.entry
  rw [Files.find_absolute h dir (isName_fileName n)]

end CountFile

namespace GramSource

variable {foldsCase : Bool} {n : Nat} {f : CountFile}

/-- **What a source says about an order of a count file**: its grams are those that scanning finds,
and their frequencies are the tallies of their rows, up to the largest count. -/
structure Serves (foldsCase : Bool) (n : Nat) (f : CountFile) (source : GramSource) : Prop where
  find_eq : ∀ query, source.find foldsCase query n = f.find n query foldsCase
  freq_eq : ∀ tokens, tokens ≠ [] → tokens.length = n → (∀ t ∈ tokens, Ngram.IsToken t) →
    source.freq foldsCase (Ngram.unwords tokens) = min (f.tally foldsCase tokens) Count.largest

/-- **A segment** looks grams up by its positions and by halving. -/
theorem serves_segment (foldsCase : Bool) (n : Nat) (f : CountFile) :
    Serves foldsCase n f (.segment (Indexer.segmentOf foldsCase n f)) := by
  refine ⟨Segment.find_ofCounts n (Indexer.counts foldsCase n f), ?_⟩
  rintro tokens hne rfl htoken
  have hsorted : Text.Table.Sorted (Indexer.segmentOf foldsCase tokens.length f).grams :=
    Indexer.sorted_counts tokens.length f
  rw [← Indexer.getD_counts foldsCase f hne htoken]
  exact congrArg (·.getD 0) (Segment.freq?_eq_get? hsorted _)

/-- **A count file** is scanned anew for every query, wherever it is. -/
theorem serves_counts (foldsCase : Bool) (n : Nat) (f : CountFile) (path : Text) :
    Serves foldsCase n f (.counts ⟨path, f.content⟩) :=
  ⟨fun _ => rfl, fun _ _ _ htoken => CountFile.freq_unwords ⟨path, f.content⟩ htoken⟩

end GramSource

end Kompositum
