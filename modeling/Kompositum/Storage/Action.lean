import Kompositum.Storage.Basic

/-!
# Working with a storage

A file is written through an output, which is created, written to in pieces and closed. Outputs
are known by handles, so that several can be open on one file.

* `StorageAction`: the steps of working with a storage.
* `runActions`: the answers to a row of steps.
-/

namespace Kompositum

/-- A step of working with a storage. -/
inductive StorageAction where
  /-- A new output on a file. Another output of this handle is dropped after that. -/
  | create (handle name : Text)
  | write (handle : Text) (bytes : Bytes)
  /-- What has been written is passed on. -/
  | flush (handle : Text)
  /-- What has been written is passed on and made to last. -/
  | sync (handle : Text)
  | close (handle : Text)
  /-- The output is given up. -/
  | drop (handle : Text)
  | delete (name : Text)
  | contains (name : Text)
  | size (name : Text)
  | read (name : Text)
  | names
deriving DecidableEq, Repr

/-- The answer to a step. -/
inductive StorageAnswer where
  | done
  | truth (b : Bool)
  | number (n : Nat)
  | content (bytes : Bytes)
  | names (ns : List Text)
deriving DecidableEq, Repr

/-- The answers to a row of steps, and the storage after them. -/
def runActions {σ : Type} (step : σ → StorageAction → Except StoreFault StorageAnswer × σ) (s : σ) :
    List StorageAction → List (Except StoreFault StorageAnswer) × σ
  | [] => ([], s)
  | a :: as =>
    let (answer, s) := step s a
    let (answers, s) := runActions step s as
    (answer :: answers, s)

end Kompositum
