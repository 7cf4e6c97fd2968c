import Kompositum.Command.Report
import Kompositum.Pipeline.Basic

/-!
# Running commands

A command works on a snapshot of the files and leaves another one. It fails as a whole, but for
decompounding, where each word may fail on its own. The patterns of affix rules are those of a
language `P`.

* `Command.run`: the report of a command and the files after it.
* `Command.paths`: the files that a command looks at.
-/

namespace Kompositum.Command

variable (P : Type) [PatternLanguage P]

/-- The candidates of words. -/
def splitWords (words : List Text) (c : PipelineConfig) (files : Files) : Except Error Report := do
  let s ← c.loadSplitter P files
  return .split (words.map fun w => ⟨w, s.name, (s.split w).candidates⟩)

/-- The ranked candidates of words. -/
def rankWords (words : List Text) (c : PipelineConfig) (files : Files) : Except Error Report := do
  let p ← Pipeline.ofConfig P c files
  return .rank (← words.mapM fun w => return ⟨w, p.ranker.name, ← p.rank w⟩)

/-- What became of a word. -/
def bestReport (word : Text) : Except Error Candidate → BestReport
  | .ok c => ⟨word, some c, none⟩
  | .error e => ⟨word, none, some e.message⟩

/-- The words of the input, one to a line. -/
def inputWords (input : Bytes) : Except Error (List Text) :=
  match Utf8.decode input with
  | .ok t => .ok (((Text.lines t).map Text.trim).filter (!·.isEmpty))
  | .error _ => .error (.io .notText)

/-- The best candidates of words, by default of those of the input. -/
def decompoundWords (path : Text) (words : List Text) (files : Files) (input : Bytes) :
    Except Error Report := do
  let c ← PipelineConfig.load files path
  let words ← if words.isEmpty then inputWords input else pure words
  let p ← Pipeline.ofConfig P c files
  return .best ((words.zip (p.decompoundAll words)).map fun (w, r) => bestReport w r)

/-- The size of the files of a storage. -/
def totalSize (d : Directory) : Except Error Nat := do
  let sizes ← (Store.names d).mapM fun name => (d.size name).mapError .store
  return sizes.foldl (· + ·) 0

/-- The description of an index. -/
def describe (indexDir : Text) (files : Files) : Except Error Report := do
  let d ← (Directory.open? files indexDir).mapError .store
  let m ← IndexMeta.load d
  return .stats indexDir (← totalSize d) m

/-- **The report of a command and the files after it**, where building an index takes `elapsed`
milliseconds. Only this changes files. -/
def run (c : Command) (now : Moment) (elapsed : Nat) (files : Files) (input : Bytes) :
    Except Error Report × Files :=
  match c with
  | .index o =>
    let (r, files) := Indexer.intoFolder o now elapsed files
    (r.map (.index o.indexDir), files)
  | .split words c => (splitWords P words c files, files)
  | .rank words c => (rankWords P words c files, files)
  | .decompound path words _ => (decompoundWords P path words files input, files)
  | .stats indexDir => (describe indexDir files, files)

/-- Whether a command takes its words from the input. -/
def readsInput : Command → Bool
  | .decompound _ words _ => words.isEmpty
  | _ => false

/-- The files and folders that an index in a folder needs. -/
def indexPaths (indexDir : Text) (files : Files) : List Text :=
  match (Directory.open? files indexDir).toOption.bind fun d => (IndexMeta.load d).toOption with
  | some m => [indexDir, m.sourceDir]
  | none => [indexDir]

/-- The files that a configuration names. -/
def configPaths (c : PipelineConfig) : List Text :=
  c.dictionary.path :: (c.dictionary.affix.toList ++ c.morphemes.toList ++ c.analyses.toList)

/-- **The files and folders that a command looks at**, as far as the files known so far tell. -/
def paths (c : Command) (files : Files) : List Text :=
  match c with
  | .index o => [o.sourceDir, o.indexDir]
  | .split _ c => configPaths c
  | .rank _ c => configPaths c ++ indexPaths c.indexDir files
  | .decompound path _ _ =>
    match PipelineConfig.load files path with
    | .ok c => path :: (configPaths c ++ indexPaths c.indexDir files)
    | .error _ => [path]
  | .stats indexDir => [indexDir]

end Kompositum.Command
