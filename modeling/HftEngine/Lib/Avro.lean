import HftEngine.Lib.Python.Number
import HftEngine.Lib.Traversal

/-!
# Avro records as Python values

Schemas, the values that a reader returns under a schema, and what it returns
for a value that was written.  A union with null has null for its default.
-/

namespace Avro

open Py

inductive Schema where
  | boolean
  | int
  | long
  | double
  | string
  | nullable (schema : Schema)
  | array (items : Schema)
  | map (values : Schema)
  | record (fields : List (String × Schema))

def inBits (bits : ℕ) (n : ℤ) : Bool :=
  -2 ^ (bits - 1) ≤ n && n < 2 ^ (bits - 1)

/-! ## What a reader returns -/

mutual

/-- The values of a schema; the entries of a record come in its order. -/
def Conforms : Schema → Value → Prop
  | .boolean, value => ∃ b, value = .bool b
  | .int, value => ∃ n, value = .int n ∧ inBits 32 n = true
  | .long, value => ∃ n, value = .int n ∧ inBits 64 n = true
  | .double, value => ∃ x, value = .float x
  | .string, value => ∃ s, value = .str s
  | .nullable schema, value => value = .null ∨ Conforms schema value
  | .array schema, value =>
      ∃ items, value = .list items ∧ ∀ item ∈ items, Conforms schema item
  | .map schema, value =>
      ∃ entries, value = .dict entries ∧
        ∀ entry ∈ entries, Conforms schema entry.2
  | .record fields, value =>
      ∃ entries, value = .dict entries ∧ ConformsFields fields entries
termination_by structural schema => schema

def ConformsFields : List (String × Schema) → Dict → Prop
  | [], entries => entries = []
  | field :: fields, entries =>
      ∃ value rest, entries = (field.1, value) :: rest ∧
        ConformsField field value ∧ ConformsFields fields rest
termination_by structural fields => fields

def ConformsField : String × Schema → Value → Prop
  | (_, schema), value => Conforms schema value
termination_by structural field => field

end

/-- Entries in the order of the fields of a record. -/
abbrev Matched (holds : String × Schema → Value → Prop)
    (fields : List (String × Schema)) (entries : Dict) : Prop :=
  List.Forall₂ (fun field entry => entry.1 = field.1 ∧ holds field entry.2) fields
    entries

theorem Matched.lookup {holds : String × Schema → Value → Prop}
    {fields : List (String × Schema)} {entries : Dict}
    (matched : Matched holds fields entries) (distinct : (fields.map Prod.fst).Nodup)
    {field : String × Schema} (member : field ∈ fields) :
    ∃ value, lookup? field.1 entries = some value ∧ holds field value := by
  induction matched with
  | nil => cases member
  | @cons first entry fields entries head _ ih =>
      obtain ⟨name, value⟩ := entry
      obtain ⟨rfl, typed⟩ := head
      rw [List.map_cons, List.nodup_cons] at distinct
      rcases List.mem_cons.mp member with rfl | among
      · exact ⟨value, by simp [lookup?], typed⟩
      · have different : first.1 ≠ field.1 := by
          intro same
          exact distinct.1 (same ▸ List.mem_map_of_mem among)
        obtain ⟨found, looked, typed⟩ := ih distinct.2 among
        exact ⟨found, by simpa [lookup?, different] using looked, typed⟩

theorem Matched.lookup_none {holds : String × Schema → Value → Prop}
    {fields : List (String × Schema)} {entries : Dict}
    (matched : Matched holds fields entries) {name : String}
    (missing : name ∉ fields.map Prod.fst) : lookup? name entries = none := by
  induction matched with
  | nil => rfl
  | @cons first entry fields entries head _ ih =>
      rw [List.map_cons, List.mem_cons, not_or] at missing
      have different : entry.1 ≠ name := by
        rw [head.1]
        exact Ne.symm missing.1
      simpa [lookup?, different] using ih missing.2

theorem ConformsFields.matched {fields : List (String × Schema)} {entries : Dict}
    (conforms : ConformsFields fields entries) :
    Matched ConformsField fields entries := by
  induction fields generalizing entries with
  | nil =>
      cases conforms
      exact .nil
  | cons first fields ih =>
      obtain ⟨value, rest, rfl, typed, later⟩ := conforms
      exact .cons ⟨rfl, typed⟩ (ih later)

theorem ConformsFields.lookup {fields : List (String × Schema)} {entries : Dict}
    (conforms : ConformsFields fields entries)
    (distinct : (fields.map Prod.fst).Nodup) {name : String} {schema : Schema}
    (field : (name, schema) ∈ fields) :
    ∃ value, lookup? name entries = some value ∧ Conforms schema value :=
  conforms.matched.lookup distinct field

/-! ## What comes back of a value that was written -/

mutual

/-- A value that was sent under a schema, and what is received for it.  Null is
refused where the schema has no null; of values of another type nothing is
known. -/
def Reads : Schema → (sent received : Value) → Prop
  | .boolean, .bool b, received => received = .bool b
  | .int, .int n, received => received = .int n
  | .long, .int n, received => received = .int n
  | .double, .float x, received => received = .float x
  | .double, .int n, received => ∀ x, ofInt n = .ok x → received = .float x
  | .string, .str s, received => received = .str s
  | .nullable _, .null, received => received = .null
  | .nullable schema, sent, received => Reads schema sent received
  | .array schema, .list sent, received =>
      ∃ items, received = .list items ∧ List.Forall₂ (Reads schema) sent items
  | .map schema, .dict sent, received =>
      ∃ entries, received = .dict entries ∧ List.Forall₂
        (fun entry other => other.1 = entry.1 ∧ Reads schema entry.2 other.2)
        sent entries
  | .record fields, .dict sent, received =>
      ∃ entries, received = .dict entries ∧ ReadsFields fields sent entries
  | _, .null, _ => False
  | _, _, _ => True
termination_by structural schema => schema

/-- A field that is missing counts as null. -/
def ReadsFields : List (String × Schema) → (sent received : Dict) → Prop
  | [], _, received => received = []
  | field :: fields, sent, received =>
      ∃ value rest, received = (field.1, value) :: rest ∧
        ReadsField field sent value ∧ ReadsFields fields sent rest
termination_by structural fields => fields

def ReadsField : String × Schema → (sent : Dict) → (received : Value) → Prop
  | (name, schema), sent, received => Reads schema (Dict.get sent name .null) received
termination_by structural field => field

end

theorem ReadsFields.matched {fields : List (String × Schema)} {sent received : Dict}
    (reads : ReadsFields fields sent received) :
    Matched (fun field value => ReadsField field sent value) fields received := by
  induction fields generalizing received with
  | nil =>
      cases reads
      exact .nil
  | cons first fields ih =>
      obtain ⟨value, rest, rfl, read, later⟩ := reads
      exact .cons ⟨rfl, read⟩ (ih later)

theorem ReadsFields.lookup {fields : List (String × Schema)} {sent received : Dict}
    (reads : ReadsFields fields sent received)
    (distinct : (fields.map Prod.fst).Nodup) {name : String} {schema : Schema}
    (field : (name, schema) ∈ fields) :
    ∃ value, lookup? name received = some value ∧
      Reads schema (Dict.get sent name .null) value :=
  reads.matched.lookup distinct field

/-! ## Values that come back as they were -/

/-- The scalar values of a schema that no conversion applies to. -/
def Plain : Schema → Value → Bool
  | .boolean, .bool _ => true
  | .int, .int _ => true
  | .long, .int _ => true
  | .double, .float _ => true
  | .string, .str _ => true
  | .nullable _, .null => true
  | .nullable schema, value => Plain schema value
  | _, _ => false

theorem plain_nullable {schema : Schema} {value : Value}
    (plain : Plain schema value = true) : Plain (.nullable schema) value = true := by
  cases value with
  | null => rfl
  | _ => simpa only [Plain] using plain

theorem plain_orNull {α : Type} {schema : Schema} {value : α → Value}
    (plain : ∀ a, Plain schema (value a) = true) (option : Option α) :
    Plain (.nullable schema) (orNull value option) = true := by
  cases option with
  | none => rfl
  | some a => exact plain_nullable (plain a)

theorem Reads.plain (schema : Schema) {sent received : Value}
    (reads : Reads schema sent received) (plain : Plain schema sent = true) :
    received = sent := by
  cases schema with
  | nullable schema =>
      cases sent with
      | null => exact reads
      | _ =>
          simp only [Reads] at reads
          simp only [Plain] at plain
          exact Reads.plain schema reads plain
  | _ =>
      -- the schemas that are left are read as they are, or are not plain
      cases sent <;> first
        | exact reads
        | cases plain
termination_by structural schema

/-- A record of plain values comes back as its entries in the order of the
fields, null for each field that is missing. -/
theorem ReadsFields.plain {fields : List (String × Schema)}
    {sent entries received : Dict} (reads : ReadsFields fields sent received)
    (taken : fields.map (fun field => (field.1, Dict.get sent field.1 .null)) = entries)
    (plain : Matched (fun field value => Plain field.2 value = true) fields entries) :
    received = entries := by
  induction plain generalizing received with
  | nil => exact reads
  | @cons field entry fields entries head _ ih =>
      obtain ⟨value, rest, rfl, first, later⟩ := reads
      obtain ⟨name, schema⟩ := field
      rw [List.map_cons, List.cons.injEq] at taken
      obtain ⟨rfl, others⟩ := taken
      have same : value = Dict.get sent name .null := Reads.plain schema first head.2
      rw [same, ih later others]

/-- A map of texts comes back as it was. -/
theorem Reads.map_string {sent : Dict} {received : Value}
    (reads : Reads (.map .string) (.dict sent) received)
    (texts : ∀ entry ∈ sent, ∃ s, entry.2 = .str s) : received = .dict sent := by
  obtain ⟨entries, rfl, related⟩ := reads
  have same : entries = sent := by
    induction related with
    | nil => rfl
    | @cons entry other sent entries head _ ih =>
        obtain ⟨s, text⟩ := texts entry List.mem_cons_self
        obtain ⟨key, value⟩ := head
        rw [text] at value
        have equal : other = entry := by
          apply Prod.ext key
          rw [text]
          exact value
        rw [equal, ih (fun entry member => texts entry (List.mem_cons_of_mem _ member))]
  rw [same]

/-- What is documented of writing a value and reading it back. -/
def Documented (schema : Schema) (hop : Value → Option Value) : Prop :=
  ∀ sent received, hop sent = some received → Reads schema sent received

mutual

/-- Writing and reading back of the values that have the types of the schema. -/
def transcode : Schema → Value → Option Value
  | .boolean, .bool b => some (.bool b)
  | .int, .int n => if inBits 32 n then some (.int n) else none
  | .long, .int n => if inBits 64 n then some (.int n) else none
  | .double, .float x => some (.float x)
  | .double, .int n => (ofInt n).toOption.map .float
  | .string, .str s => some (.str s)
  | .nullable _, .null => some .null
  | .nullable schema, sent => transcode schema sent
  | .array schema, .list sent => (sent.mapM (transcode schema)).map .list
  | .map schema, .dict sent =>
      (sent.mapM (fun entry =>
        (transcode schema entry.2).map (fun value => (entry.1, value)))).map .dict
  | .record fields, .dict sent => (transcodeFields fields sent).map .dict
  | _, _ => none
termination_by structural schema => schema

def transcodeFields : List (String × Schema) → Dict → Option Dict
  | [], _ => some []
  | field :: fields, sent =>
      (transcodeField field sent).bind (fun value =>
        (transcodeFields fields sent).map ((field.1, value) :: ·))
termination_by structural fields => fields

def transcodeField : String × Schema → Dict → Option Value
  | (name, schema), sent => transcode schema (Dict.get sent name .null)
termination_by structural field => field

end

mutual

theorem transcode_reads (schema : Schema) {sent received : Value}
    (hopped : transcode schema sent = some received) : Reads schema sent received := by
  cases schema with
  | boolean => cases sent <;> simp_all [transcode, Reads]
  | int => cases sent <;> simp_all [transcode, Reads]
  | long => cases sent <;> simp_all [transcode, Reads]
  | string => cases sent <;> simp_all [transcode, Reads]
  | double =>
      cases sent with
      | int n =>
          simp only [transcode, Option.map_eq_some_iff] at hopped
          obtain ⟨x, converted, rfl⟩ := hopped
          intro y other
          rw [other] at converted
          rw [Option.some.inj converted]
      | _ => simp_all [transcode, Reads]
  | nullable schema =>
      cases sent with
      | null => simp_all [transcode, Reads]
      | _ =>
          simp only [transcode] at hopped
          simpa only [Reads] using transcode_reads schema hopped
  | array schema =>
      cases sent with
      | list items =>
          simp only [transcode, Option.map_eq_some_iff] at hopped
          obtain ⟨others, mapped, rfl⟩ := hopped
          exact ⟨others, rfl,
            (Traversal.mapM_eq_some.mp mapped).imp (fun _ _ => transcode_reads schema)⟩
      | _ => simp_all [transcode]
  | map schema =>
      cases sent with
      | dict entries =>
          simp only [transcode, Option.map_eq_some_iff] at hopped
          obtain ⟨others, mapped, rfl⟩ := hopped
          refine ⟨others, rfl, (Traversal.mapM_eq_some.mp mapped).imp ?_⟩
          intro entry other found
          rw [Option.map_eq_some_iff] at found
          obtain ⟨value, read, rfl⟩ := found
          exact ⟨rfl, transcode_reads schema read⟩
      | _ => simp_all [transcode]
  | record fields =>
      cases sent with
      | dict entries =>
          simp only [transcode, Option.map_eq_some_iff] at hopped
          obtain ⟨others, read, rfl⟩ := hopped
          exact ⟨others, rfl, transcodeFields_reads fields read⟩
      | _ => simp_all [transcode]
termination_by structural schema

theorem transcodeFields_reads (fields : List (String × Schema)) {sent received : Dict}
    (hopped : transcodeFields fields sent = some received) :
    ReadsFields fields sent received := by
  cases fields with
  | nil =>
      cases Option.some.inj hopped
      rfl
  | cons field fields =>
      simp only [transcodeFields, Option.bind_eq_some_iff, Option.map_eq_some_iff]
        at hopped
      obtain ⟨value, first, rest, later, rfl⟩ := hopped
      exact ⟨value, rest, rfl, transcodeField_reads field first,
        transcodeFields_reads fields later⟩
termination_by structural fields

theorem transcodeField_reads (field : String × Schema) {sent : Dict} {received : Value}
    (hopped : transcodeField field sent = some received) :
    ReadsField field sent received := by
  obtain ⟨name, schema⟩ := field
  exact transcode_reads schema hopped
termination_by structural field

end

theorem transcode_documented (schema : Schema) : Documented schema (transcode schema) :=
  fun _ _ => transcode_reads schema

end Avro
