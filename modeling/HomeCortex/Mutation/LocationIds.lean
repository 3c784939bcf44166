/-
# The edge identities that the item service and ingestion share

`_location_edge_id` of `mutation/writing.py` writes the text that
`implicit_edge_record_id` writes, so what holds of implicit identities
(`HomeCortex.Persistence.ImplicitIds`) holds of the location edges a service creates.
-/

import HomeCortex.Mutation.ItemStore
import HomeCortex.Persistence.ImplicitIds

namespace HomeCortex

open Ingestion

/-- The service names an edge as ingestion does. -/
theorem locationEdgeId_eq (service : ItemWritingService) (item location : RecordID) :
    service.locationEdgeId item location
      = implicitEdgeRecordId service.location_relation item location := rfl

/-- Two edges without ids, between four different nodes. -/
def clashingEdges : SourceFile :=
  ⟨"edges/located_in.json", .ok (.arr [
    .obj [("from", .str "item:a"), ("to", .str "space:x__space_b")],
    .obj [("from", .str "item:a__space_x"), ("to", .str "space:b")]])⟩

/-- The two pairs clash: `__space_x` moves from one endpoint to the other. -/
example : Clash (⟨"item", "a"⟩, ⟨"space", "x__space_b"⟩) (⟨"item", "a__space_x"⟩, ⟨"space", "b"⟩) :=
  Or.inr (Or.inl (Or.inr ⟨"space_x", by decide, by decide⟩))

end HomeCortex
