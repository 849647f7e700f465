import HftEngine.Ingestion.RawMessage
import HftEngine.Processor.AvroMap

/-!
# The maps of a raw message from ingestion to the processor

The encoding carries no mark that tells a text from a value written as JSON, so
that a text which is JSON comes back as the value it denotes.  Everything else
comes back as it was.
-/

namespace HftEngine.Pipeline

open Py Json Ingestion Processor

theorem deserialize_asText_iff (value : Value) (distinct : DistinctKeys value) :
    deserialize_value (asText value) = some value ↔
      ∀ text, value = .str text → loads text = .error .decode := by
  have written : (∀ text, value ≠ .str text) →
      (deserialize_value (.str (dumps value)) = some value ↔
        ∀ text, value = .str text → loads text = .error .decode) := by
    intro notText
    simp [deserialize_value, loads_dumps value distinct, notText]
  cases value with
  | str text =>
      rw [asText, deserialize_text_iff]
      simp
  | _ => exact written (by simp)

theorem deserialize_serialized_cons (entry : String × Value) (data : Dict) :
    deserialize_avro_map (serialized (entry :: data)) = some (entry :: data) ↔
      deserialize_value (asText entry.2) = some entry.2 ∧
        deserialize_avro_map (serialized data) = some data := by
  obtain ⟨key, value⟩ := entry
  simp [deserialize_avro_map, serialized, Option.bind_eq_some_iff]

/-- A dictionary comes back exactly when none of the texts in it is JSON. -/
theorem deserialize_serialized_iff (data : Dict)
    (distinct : DistinctKeys (.dict data)) :
    deserialize_avro_map (serialized data) = some data ↔
      ∀ key text, (key, Value.str text) ∈ data → loads text = .error .decode := by
  have values : DistinctKeysEntries data := distinct.2
  clear distinct
  induction data with
  | nil => simp [deserialize_avro_map, serialized]
  | cons entry data ih =>
      obtain ⟨key, value⟩ := entry
      have first := deserialize_asText_iff value values.1
      have rest := ih values.2
      apply (deserialize_serialized_cons (key, value) data).trans
      apply (and_congr first rest).trans
      constructor
      · intro kept name text member
        rcases List.mem_cons.mp member with first | later
        · exact kept.1 text (Prod.mk.inj first).2.symm
        · exact kept.2 name text later
      · intro kept
        constructor
        · intro text same
          exact kept key text (by rw [same]; exact List.mem_cons_self)
        · intro name text member
          exact kept name text (List.mem_cons_of_mem _ member)

/-- A leg of an option chain and a remark. -/
def chainWith (remark : String) : Dict :=
  [("24000", .dict [("ce", .dict [("ltp", .float 10.5), ("vol", .int 3)])]),
   ("remark", .str remark)]

theorem deserialize_serialized_iff_remark :
    deserialize_avro_map (serialized (chainWith "n/a")) = some (chainWith "n/a") ↔
      ∀ key text, (key, Value.str text) ∈ chainWith "n/a" →
        loads text = .error .decode :=
  deserialize_serialized_iff _
    (by simp [chainWith, DistinctKeys, DistinctKeysEntries, DistinctKeysEntry])

/-- A text that reads like a number becomes that number. -/
theorem deserialize_serialized_fails :
    deserialize_avro_map (serialized (chainWith "123")) ≠ some (chainWith "123") := by
  decide +kernel

end HftEngine.Pipeline
