import Kompositum.Candidate.Format
import Kompositum.Candidate.Tree
import Kompositum.Lexicon.Affix
import Kompositum.Ngram.Segment.Codec
import Kompositum.Storage.Basic

/-!
# Errors

Everything that can go wrong on the way from files to ranked candidates.

* `Error.message`: the wording of an error.
-/

namespace Kompositum

/-- Why the content of a file is of no use. -/
inductive ResourceFault where
  | noWords
  | noMorphemes
deriving DecidableEq, Repr

/-- The wording of a fault. -/
def ResourceFault.message : ResourceFault → Text
  | noWords => "no words found"
  | noMorphemes => "no linking morphemes found"

/-- Why an index cannot be built or used. -/
inductive IndexFault where
  /-- There are more grams of an order than positions. -/
  | tooManyGrams (order count : Nat)
  | segment (order : Nat) (fault : Segment.Fault)
  /-- A segment does not have as many grams as the index says. -/
  | otherCount (order found stated : Nat)
  /-- The index is given up for a reason that its user states. -/
  | abandoned (reason : Text)
deriving DecidableEq, Repr

/-- The wording of a fault. -/
def IndexFault.message : IndexFault → Text
  | tooManyGrams order n =>
    "order " ++ Text.ofNat order ++ " has too many grams (" ++ Text.ofNat n ++ ")"
  | segment order fault => Segment.fileName order ++ ": " ++ fault.message
  | otherCount order found stated =>
    "order " ++ Text.ofNat order ++ " has " ++ Text.ofNat found ++ " grams, metadata says " ++
      Text.ofNat stated
  | abandoned reason => reason

/-- Why options make no sense. -/
inductive OptionFault where
  | lowestOrderZero
  | ordersReversed (lowest highest : Nat)
  | noAnalyses
deriving DecidableEq, Repr

/-- The wording of a fault. -/
def OptionFault.message : OptionFault → Text
  | lowestOrderZero => "min_order must be at least 1"
  | ordersReversed lowest highest =>
    "min_order " ++ Text.ofNat lowest ++ " exceeds max_order " ++ Text.ofNat highest
  | noAnalyses => "external splitter needs \x60analyses\x60"

/-- What can go wrong. -/
inductive Error where
  /-- A file that is needed cannot be used. -/
  | load (path : Text) (cause : FileFault)
  /-- A file cannot be written, or input is no text. -/
  | io (cause : FileFault)
  | resource (path : Text) (fault : ResourceFault)
  | affix (fault : AffixFault)
  /-- The condition of an affix rule is no pattern. -/
  | condition
  | format (text : Text) (fault : FormatFault)
  /-- A candidate does not refine the one that it is put below. -/
  | notRefining (child parent : Candidate)
  | store (fault : StoreFault)
  | record (fault : ReadFault)
  | index (fault : IndexFault)
  /-- An index is used that has been closed. -/
  | closed (location : Text)
  | options (fault : OptionFault)
  | json
  /-- Any other reason. -/
  | other (reason : Text)
deriving DecidableEq, Repr

namespace Error

/-- The wording of a fault of a storage. Faults in the use of an output or in reading are told as
such. -/
def ofStore (fault : StoreFault) : Text :=
  match fault with
  | .unreadable _ | .closed _ => "I/O error: " ++ fault.message
  | _ => "Storage error: " ++ fault.message

/-- The wording of a fault of reading. The end of the file is told as such. -/
def ofRecord (fault : ReadFault) : Text :=
  match fault with
  | .ended => "I/O error: " ++ fault.message
  | _ => "Storage error: " ++ fault.message

/-- **The wording of an error.** -/
def message : Error → Text
  | load path cause => "Failed to load " ++ path ++ ": " ++ cause.message
  | io cause => "I/O error: " ++ cause.message
  | resource path fault => "Invalid resource " ++ path ++ ": " ++ fault.message
  | affix fault => fault.message
  | condition => "Invalid argument: Invalid affix condition"
  | format text fault => "Parse error: " ++ fault.message ++ " in " ++ Text.quoted text
  | notRefining child parent =>
    "Invalid argument: " ++ child.render ++ " does not refine " ++ parent.render
  | store fault => ofStore fault
  | record fault => ofRecord fault
  | index fault => "Index error: " ++ fault.message
  | closed location => "Resource not ready: finder for " ++ location ++ " is closed"
  | options fault => "Invalid argument: Invalid configuration: " ++ fault.message
  | json => "JSON error: malformed document"
  | other reason => "Error: " ++ reason

/-- The error of a segment of an order. Its bytes may end too early or hold no value of the kind
looked for, or they may be no such segment. -/
def ofSegment (order : Nat) : Segment.Fault → Error
  | .read fault => record fault
  | fault => index (.segment order fault)

end Error

/-- The candidate of a text. -/
def Candidate.read (t : Text) : Except Error Candidate :=
  (Candidate.parse t).mapError (.format t)

end Kompositum
