/-
# Named write requests

`mutation/ir.py`: the four intents the planner may produce, which name items and
places by what the user calls them.
-/

import HomeCortex.Mutation.Writing

namespace HomeCortex

/-- `NamedWriteRequest`. -/
inductive NamedWriteRequest where
  | create (item_name location_name name_en name_zh item_key : String) (attributes : Fields)
      (mode : WriteMode)
  | updateLocation (item_name location_name : String) (mode : WriteMode)
  | updateAttributes (item_name : String) (attributes : Fields) (mode : WriteMode)
  | delete (item_name : String) (mode : WriteMode)
deriving DecidableEq

end HomeCortex
