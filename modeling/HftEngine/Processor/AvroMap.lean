import HftEngine.Lib.Json.Read

/-!
# The maps of a raw message

The values of an Avro map are texts.  `deserialize_avro_map` takes each text
that is JSON for the value it denotes and keeps every other text.  There is no
result where a decoded text has a surrogate alone, which `String` cannot hold.
-/

namespace HftEngine.Processor

open Py Json

def deserialize_value : Value → Option Value
  | .str text =>
      match loads text with
      | .ok value => some value
      | .error .decode => some (.str text)
      | .error .surrogate => none
  | value => some value

def deserialize_avro_map (map_data : Dict) : Option Dict :=
  map_data.mapM (fun entry =>
    (deserialize_value entry.2).map (fun value => (entry.1, value)))

/-- A text comes back only if it is not JSON. -/
theorem deserialize_text_iff (text : String) :
    deserialize_value (.str text) = some (.str text) ↔ loads text = .error .decode := by
  cases read : loads text with
  | ok value =>
      simp only [deserialize_value, read]
      constructor
      · intro same
        rw [Option.some.inj same] at read
        exact absurd (length_of_loads read) (lt_irrefl _)
      · intro failed
        cases failed
  | error cause => cases cause <;> simp [deserialize_value, read]

end HftEngine.Processor
