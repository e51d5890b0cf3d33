import Boutique.Lib.KWayMerge
import Boutique.Benchmark.Python
import Mathlib.Algebra.BigOperators.Group.Finset.Basic
import Mathlib.Algebra.Order.BigOperators.Group.Finset
import Mathlib.Data.List.GetD

/-!
# The merge of the logs of the workers

`_read_records`, `_timestamp` and `merge_worker_outputs` of `benchmarkservice/parallel.py`.  The business
and the outstanding records of the workers are merged by their timestamps with `heapq.merge`; the outstanding
value of a merged record is counted anew over the records of all workers.
-/

namespace Boutique.Benchmark.Workers

open KWayMerge

/-! ## Files -/

/-- The errors that end a merge: of `json.loads`, and of `float`. -/
inductive MergeError where
  | jsonDecodeError
  | timestamp
  deriving DecidableEq

variable (language : Language) (loads : String → Option Json) (dumps : Dict → String)

/-- `_timestamp`. -/
def timestamp (record : Dict) : Except MergeError ℚ :=
  match language.float ((record.get "timestamp").getD (.number 0)) with
  | .ok time => .ok time
  | .error _ => .error .timestamp

/-! ## The merge -/

/-- The test of `rebase_outstanding` on the event of a record. -/
def isAccepted (record : Dict) : Bool :=
  match record.get "event" with
  | some (.string event) => event == "accepted"
  | _ => false

variable {language loads dumps}

/-- The accepted events minus the others. -/
def net (records : List Dict) : ℤ :=
  (records.map fun record => if isAccepted record then (1 : ℤ) else -1).sum

/-- No part at the beginning of a log has more other events than accepted ones. -/
def Balanced (records : List Dict) : Prop := ∀ part, part <+: records → 0 ≤ net part

variable (language) in
/-- The time of a record. -/
def time (record : Dict) : ℚ :=
  match timestamp language record with
  | .ok time => time
  | .error _ => 0

namespace Sample

/-- A record of an outstanding log. -/
def record (event : String) (time : ℚ) : Dict :=
  [("event", .string event), ("outstanding", .number 1), ("timestamp", .number time)]

/-- The text of a record. -/
def recordLine (event time : String) : String :=
  "\x7b\"event\": \"" ++ event ++ "\", \"outstanding\": 1, \"timestamp\": " ++ time ++ "\x7d"

/-- `json.loads` of the lines of the logs; the record that was not flushed cannot be decoded. -/
def decode (line : String) : Option Json :=
  if line = recordLine "accepted" "1" then some (.object (record "accepted" 1))
  else if line = recordLine "accepted" "2" then some (.object (record "accepted" 2))
  else if line = recordLine "completed" "3" then some (.object (record "completed" 3))
  else none

/-- The text of a value. -/
def encodeValue : Json → String
  | .string value => "\"" ++ value ++ "\""
  | .number value => toString value
  | _ => ""

/-- `json.dumps` of a record, whose keys are sorted. -/
def encode (fields : Dict) : String :=
  "\x7b" ++ ", ".intercalate (fields.map fun field => "\"" ++ field.1 ++ "\": " ++ encodeValue field.2)
    ++ "\x7d"

end Sample

namespace Sample

end Sample

end Boutique.Benchmark.Workers
