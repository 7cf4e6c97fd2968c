import Kompositum.Proofs.Ngram.Corpus
import Kompositum.Proofs.Ngram.Sources
import Kompositum.Proofs.Ranking.Table

/-!
# Lines as queries

A count file is read line by line, and a query is read word by word. Both come to the same tokens:
a line is put in small letters as a whole, but no letter looks across the spaces between its words.
What has been tokenized stays as it is when it is tokenized again. So a query that is written like a
line finds the gram of this line.

* `Ngram.tokenize_unwords_tokenize`: tokenizing twice is tokenizing once.
* `parseCount?_eq_some_iff`: the gram of a line by its fields.
* `Index.Covers`: where an index has the grams of an order from.
* `Index.Covers.exists_mem_find`: an index finds the rows of its count files.
* `FrequencyTable.le_freq_ofEntries`: a table finds its entries.
* `Ngram.queries_findLines`: a query that is written like a line finds its gram.
-/

namespace Kompositum

namespace Ngram

/-! ## Tokens of tokens -/

/-- Tokens depend on the words of a text alone. -/
theorem tokenize_congr {foldsCase : Bool} {t u : Text} (h : Text.words t = Text.words u) :
    tokenize foldsCase t = tokenize foldsCase u := by
  unfold tokenize
  rw [h]

/-- A text has as many tokens as words. -/
theorem length_tokenize (foldsCase : Bool) (t : Text) :
    (tokenize foldsCase t).length = (Text.words t).length := by
  cases foldsCase with
  | false => rfl
  | true => exact List.length_map _

/-- The words of tokens, written as a gram, are these tokens. -/
theorem words_unwords_tokenize (foldsCase : Bool) (t : Text) :
    Text.words (unwords (tokenize foldsCase t)) = tokenize foldsCase t :=
  words_unwords fun _ hw => isToken_of_mem_tokenize hw

/-- Small letters are the same whether or not case has been folded before. -/
theorem tokenize_true_unwords_tokenize (foldsCase : Bool) (t : Text) :
    tokenize true (unwords (tokenize foldsCase t)) = tokenize true t := by
  have hsmall : tokenize true (unwords (tokenize foldsCase t)) =
      (tokenize foldsCase t).map Text.lower :=
    tokenize_unwords fun _ hw => isToken_of_mem_tokenize hw
  have hwords : tokenize true t = (Text.words t).map Text.lower := rfl
  rw [hsmall]
  cases foldsCase with
  | false => exact hwords.symm
  | true =>
    rw [hwords, List.map_map]
    exact List.map_congr_left fun w _ => Text.lower_lower w

/-- **Tokenizing twice** is tokenizing once. -/
theorem tokenize_unwords_tokenize (foldsCase : Bool) (t : Text) :
    tokenize foldsCase (unwords (tokenize foldsCase t)) = tokenize foldsCase t := by
  cases foldsCase with
  | false => exact tokenize_congr (words_unwords_tokenize false t)
  | true => exact tokenize_true_unwords_tokenize true t

end Ngram

open Ngram (tokenize unwords)

variable {foldsCase : Bool}

/-! ## The gram of a line -/

/-- **The gram of a line** is that of the tokens of all its fields but the last, which is the
count. -/
theorem parseCount?_eq_some_iff {line gram : Text} {count : Nat} :
    parseCount? foldsCase line = some (gram, count) ↔
      ∃ fields last, Text.words line = fields ++ [last] ∧ fields ≠ [] ∧
        Count.ofText? last = some count ∧ gram = unwords (tokenize foldsCase (unwords fields)) := by
  -- the tokens of the fields, each of them a word of the line
  have htokens : ∀ fields last, Text.words line = fields ++ [last] →
      (if foldsCase then fields.map Text.lower else fields) =
        tokenize foldsCase (unwords fields) := by
    intro fields last hline
    rw [tokenize, Ngram.words_unwords (CountFile.isToken_of_words hline)]
  rw [CountFile.parseCount?_eq, Option.map_eq_some_iff]
  constructor
  · rintro ⟨r, hr, hgram⟩
    obtain ⟨rfl, rfl⟩ := Prod.mk.inj hgram
    obtain ⟨fields, last, hne, hline, hcount, hrow⟩ := CountFile.rowOf?_eq_some_iff.1 hr
    refine ⟨fields, last, hline, hne, hcount, ?_⟩
    rw [hrow, htokens fields last hline]
  · rintro ⟨fields, last, hline, hne, hcount, rfl⟩
    refine ⟨(tokenize foldsCase (unwords fields), count), ?_, rfl⟩
    apply CountFile.rowOf?_eq_some_iff.2
    exact ⟨fields, last, hne, hline, hcount, (htokens fields last hline).symm⟩

/-- **The row of a line** of a count file is that of the tokens of its gram. -/
theorem CountFile.mem_rows {f : CountFile} {raw : Bytes} (hraw : raw ∈ f.rawLines) {line : Text}
    (hline : Utf8.decode raw = .ok line) {gram : Text} {count : Nat}
    (h : parseCount? foldsCase line = some (gram, count)) :
    (Text.words gram, count) ∈ f.rows foldsCase := by
  rw [parseCount?_eq, Option.map_eq_some_iff] at h
  obtain ⟨r, hr, hgram⟩ := h
  obtain ⟨rfl, rfl⟩ := Prod.mk.inj hgram
  have hrow : r ∈ f.rows foldsCase := by
    refine List.mem_filterMap.2 ⟨raw, hraw, ?_⟩
    rw [row?, hline]
    exact hr
  rwa [Ngram.words_unwords (isToken_of_mem_rows hrow).2]

/-! ## What is found -/

namespace Index

/-- **Where the grams of an order come from**: a count file that is scanned, or its segment. -/
def Covers (i : Index) (n : Nat) (f : CountFile) : Prop :=
  i.sources.lookup n = some (.counts f) ∨
    i.sources.lookup n = some (.segment (Indexer.segmentOf i.about.foldsCase n f))

variable {i : Index} {n : Nat} {f : CountFile}

theorem Covers.exists_serves (h : i.Covers n f) :
    ∃ source, i.sources.lookup n = some source ∧ source.Serves i.about.foldsCase n f := by
  rcases h with hcounts | hsegment
  · exact ⟨.counts f, hcounts, GramSource.serves_counts i.about.foldsCase n f f.path⟩
  · exact ⟨_, hsegment, GramSource.serves_segment i.about.foldsCase n f⟩

/-- **An index finds the rows of its count files** by every query with the tokens of a row, and
counts them at least as often as their lines do. -/
theorem Covers.exists_mem_find (h : i.Covers n f) {row : List Text × Nat}
    (hrow : row ∈ f.rows i.about.foldsCase) (hlen : row.1.length = n) {query : Text}
    (hquery : tokenize i.about.foldsCase query = row.1) :
    ∃ g ∈ i.find query, g.text = unwords row.1 ∧ row.2 ≤ g.freq ∧ i.freq query = g.freq := by
  obtain ⟨source, hsource, hserves⟩ := h.exists_serves
  obtain ⟨hne, htoken⟩ := CountFile.isToken_of_mem_rows hrow
  have hfilled : ¬(tokenize i.about.foldsCase query).isEmpty = true := by
    rw [hquery]
    simpa using hne
  have hfreq : i.freq query = min (f.tally i.about.foldsCase row.1) Count.largest := by
    unfold Index.freq
    simp only [if_neg hfilled]
    rw [hquery, hlen, hsource]
    exact hserves.freq_eq row.1 hne hlen htoken
  have hfind : ⟨unwords row.1, n, i.freq query⟩ ∈ f.find n row.1 i.about.foldsCase := by
    apply Corpus.mem_find_iff.2
    exact ⟨rfl, row.1, ⟨row.2, hrow⟩, hlen, rfl, hfreq, hne, List.infix_refl row.1⟩
  refine ⟨⟨unwords row.1, n, i.freq query⟩, ?_, rfl, ?_, rfl⟩
  · obtain ⟨before, behind, hsources, -⟩ := List.lookup_eq_some_iff.1 hsource
    have hmem : (n, source) ∈ i.sources := by
      rw [hsources]
      exact List.mem_append_right before List.mem_cons_self
    unfold Index.find
    simp only [if_neg hfilled]
    refine List.mem_flatMap.2 ⟨(n, source), hmem, ?_⟩
    dsimp only
    rwa [hserves.find_eq, hquery]
  · rw [hfreq]
    exact CountFile.le_tally hrow

end Index

/-- **A table finds its entries** by any query with the same small letters, and with at least the
count of an entry. -/
theorem FrequencyTable.le_freq_ofEntries {es : List (Text × Nat)} {e : Text × Nat} (he : e ∈ es)
    (hcount : e.2 ≤ Count.largest) (hne : tokenize true e.1 ≠ []) {query : Text}
    (hquery : tokenize true query = tokenize true e.1) : e.2 ≤ (ofEntries es).freq query := by
  have hrow : (tokenize true e.1, e.2) ∈ rows es := by
    refine List.mem_filter.2 ⟨List.mem_map.2 ⟨e, he, rfl⟩, ?_⟩
    simpa using hne
  rw [freq_ofEntries, hquery]
  apply Nat.le_min.2 ⟨?_, hcount⟩
  apply Count.le_sum
  refine List.mem_map.2 ⟨(tokenize true e.1, e.2), List.mem_filter.2 ⟨hrow, ?_⟩, rfl⟩
  exact beq_self_eq_true (tokenize true e.1)

namespace Ngram

/-- **A query that is written like a line finds it.** Tokens are not empty, are without white space
and stay as they are when they are tokenized again. The gram of a line is the tokens of its fields
but the last, one for each field. Every query with these tokens, like one with the same fields,
finds the gram, whether the count file of the line is scanned or has been indexed, and in a table
that the line has been added to. -/
theorem queries_findLines (foldsCase : Bool) :
    (∀ t, (∀ w ∈ tokenize foldsCase t, IsToken w) ∧
      tokenize foldsCase (unwords (tokenize foldsCase t)) = tokenize foldsCase t) ∧
    ∀ line gram count, parseCount? foldsCase line = some (gram, count) →
      ∃ fields last, Text.words line = fields ++ [last] ∧
        gram = unwords (tokenize foldsCase (unwords fields)) ∧
        (Text.words gram).length = fields.length ∧
        (∀ query, Text.words query = fields → tokenize foldsCase query = Text.words gram) ∧
        ∀ query, tokenize foldsCase query = Text.words gram →
          (∀ f, ∀ raw ∈ f.rawLines, Utf8.decode raw = .ok line →
            ∀ i : Index, i.about.foldsCase = foldsCase → i.Covers fields.length f →
              ∃ g ∈ i.find query, g.text = gram ∧ count ≤ g.freq ∧ i.freq query = g.freq) ∧
          ∀ es, (gram, count) ∈ es → count ≤ (FrequencyTable.ofEntries es).freq query := by
  refine ⟨fun t => ⟨fun w hw => isToken_of_mem_tokenize hw, tokenize_unwords_tokenize foldsCase t⟩,
    ?_⟩
  intro line gram count hgram
  obtain ⟨fields, last, hline, hne, hcount, heq⟩ := parseCount?_eq_some_iff.1 hgram
  have hfields := words_unwords (CountFile.isToken_of_words hline)
  have hwords : Text.words gram = tokenize foldsCase (unwords fields) := by
    rw [heq, words_unwords_tokenize]
  have hlen : (Text.words gram).length = fields.length := by
    rw [hwords, length_tokenize, hfields]
  refine ⟨fields, last, hline, heq, hlen, ?_, ?_⟩
  · intro query hquery
    rw [hwords]
    apply tokenize_congr
    rw [hquery, hfields]
  · intro query hquery
    have hunwords : unwords (tokenize foldsCase query) = gram := by
      rw [hquery, hwords, heq]
    constructor
    · intro f raw hraw hdecode i hcase hcovers
      subst hcase
      have hrow := CountFile.mem_rows hraw hdecode hgram
      have hfound := hcovers.exists_mem_find hrow hlen hquery
      rwa [← hquery, hunwords] at hfound
    · intro es hes
      have hfilled : tokenize true gram ≠ [] := by
        apply List.ne_nil_of_length_pos
        rw [length_tokenize, hlen]
        exact List.length_pos_iff.2 hne
      apply FrequencyTable.le_freq_ofEntries hes (Count.le_of_ofText? hcount) hfilled
      rw [← hunwords, tokenize_true_unwords_tokenize]

/-- A line of two words that end in a capital sigma, a tab between them. -/
def sigmaLine : Text := "ΟΔΟΣ\tΑΣ 3".toList

/-- The count file with this line. -/
def sigmaFile : CountFile := ⟨['2'], Utf8.encode sigmaLine⟩

/-- An index that scans this file. -/
def sigmaIndex : Index :=
  { about :=
      { version := 1, minOrder := 3, maxOrder := 3, foldsCase := true, orders := [],
        totalUnigrams := 0, createdAt := Moment.ofSeconds 0 0, sourceDir := ['.'] }
    sources := [(2, .counts sigmaFile)] }

/-- Both sigmas are final ones in the gram and in the query, whatever stands between the words. -/
theorem queries_findLines_sigma :
    parseCount? true sigmaLine = some ("οδος ας".toList, 3) ∧
      ∃ g ∈ sigmaIndex.find "ΟΔΟΣ  ΑΣ".toList, g.text = "οδος ας".toList ∧ 3 ≤ g.freq ∧
        sigmaIndex.freq "ΟΔΟΣ  ΑΣ".toList = g.freq := by
  have hgram : parseCount? true sigmaLine = some ("οδος ας".toList, 3) := by decide +kernel
  refine ⟨hgram, ?_⟩
  obtain ⟨fields, last, hline, -, -, hlike, hfinds⟩ :=
    (queries_findLines true).2 sigmaLine "οδος ας".toList 3 hgram
  have hwords : Text.words sigmaLine = ["ΟΔΟΣ".toList, "ΑΣ".toList] ++ ["3".toList] := by
    decide +kernel
  obtain ⟨rfl, -⟩ := List.append_inj' (hline.symm.trans hwords) rfl
  have hquery := hlike "ΟΔΟΣ  ΑΣ".toList (by decide +kernel)
  have hraw : Utf8.encode sigmaLine ∈ sigmaFile.rawLines := by decide +kernel
  exact (hfinds "ΟΔΟΣ  ΑΣ".toList hquery).1 sigmaFile (Utf8.encode sigmaLine) hraw
    (Utf8.decode_encode sigmaLine) sigmaIndex rfl (.inl rfl)

end Ngram

end Kompositum
