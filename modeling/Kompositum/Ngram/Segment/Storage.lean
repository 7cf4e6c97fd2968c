import Kompositum.Error

/-!
# Segments in a storage

The segment of an order has a file of its own, whose name tells the order.

* `Segment.save`, `Segment.load`: a segment put into a storage, and taken from it.
-/

namespace Kompositum.Segment

variable {σ : Type} [Store σ]

/-- **A segment put into a storage**, in the file of its order. -/
def save (s : Segment) (st : σ) : Except Error σ :=
  (Store.write st (fileName s.order) s.encode).mapError .store

/-- **The segment of an order**, from its file in a storage. -/
def load (order : Nat) (st : σ) : Except Error Segment := do
  let bytes ← (Store.read st (fileName order)).mapError .store
  (decode order bytes).mapError (.ofSegment order)

end Kompositum.Segment
