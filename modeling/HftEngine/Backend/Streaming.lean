import HftEngine.Lib.Json.Lines
import HftEngine.Lib.Partition
import Mathlib.Data.List.Induction

/-!
# Streamed responses

`JSONStreamEncoder` and the two generators over it, with the bytes each one yields.
A client joins the bytes and reads one value from each line.
-/

namespace HftEngine.Backend.Streaming

open Py Json Partition

/-! ## The encoder -/

def encode_line (data : Value) : ByteArray :=
  (dumpsCompact data ++ "\n").toUTF8

def encode_start (metadata : Value) : ByteArray :=
  encode_line (.dict [("_stream", .str "start"), ("_metadata", metadata.or (.dict []))])

def encode_end (summary : Value) : ByteArray :=
  encode_line (.dict [("_stream", .str "end"), ("_summary", summary.or (.dict []))])

/-! ## `stream_json_array` -/

/-- The generator after some of the items. -/
structure ArrayStream where
  buffer : List Value
  count : ℕ
  yielded : List ByteArray

/-- One pass of `async for item in items`. -/
def receive (chunk_size : ℤ) (stream : ArrayStream) (item : Value) : ArrayStream :=
  let buffer := stream.buffer ++ [item]
  let count := stream.count + 1
  if chunk_size ≤ buffer.length then
    ⟨[], count, stream.yielded ++ [encode_line (.dict [("data", .list buffer)])]⟩
  else
    ⟨buffer, count, stream.yielded⟩

def stream_json_array (items : List Value) (chunk_size : ℤ) : List ByteArray :=
  let stream := items.foldl (receive chunk_size)
    ⟨[], 0, [encode_start (.dict [("chunk_size", .int chunk_size)])]⟩
  let flushed :=
    if stream.buffer.isEmpty then []
    else [encode_line (.dict [("data", .list stream.buffer)])]
  stream.yielded ++ flushed ++ [encode_end (.dict [("total_items", .int stream.count)])]

/-! ## `stream_option_chain` -/

/-- `len(value)` -/
def len : Value → Result ℕ
  | .str text => .ok text.length
  | .list items => .ok items.length
  | .dict entries => .ok entries.length
  | _ => .error .typeError

/-- `range(0, stop, step)` -/
def range (stop : ℕ) (step : ℤ) : Result (List ℕ) :=
  if step = 0 then .error .valueError
  else if step < 0 then .ok []
  else .ok (starts step.toNat stop)

/-- `entries.update(items)` -/
def update (entries items : Dict) : Dict :=
  items.foldl (fun entries item => setItem item.1 item.2 entries) entries

/-- What is yielded, and whether the generator ends or raises. -/
def stream_option_chain (data : Dict) (strikes_per_chunk : ℤ) : List ByteArray × Result Unit :=
  let oc_data := Dict.get data "oc" (.dict [])
  match len oc_data with
  | .error error => ([], .error error)
  | .ok total =>
      let opening :=
        [encode_start (.dict
          [("symbol", Dict.get data "symbol" .null),
            ("expiry", Dict.get data "expiry" .null),
            ("total_strikes", .int total)]),
          encode_line (.dict
            [("type", .str "metadata"),
              ("data", .dict (data.filter (fun entry => entry.1 ≠ "oc")))])]
      match oc_data with
      | .dict strikes =>
          match range strikes.length strikes_per_chunk with
          | .error error => (opening, .error error)
          | .ok starts =>
              let chunks := starts.map (fun i =>
                encode_line (.dict
                  [("type", .str "strikes"),
                    ("data", .dict (update []
                      (slice i (i + strikes_per_chunk.toNat) strikes)))]))
              (opening ++ chunks ++
                [encode_end (.dict [("strikes_sent", .int strikes.length)])], .ok ())
      | _ => (opening, .error .attributeError)

/-! ## The client -/

/-- What a client reads, with none where the bytes are not lines of JSON. -/
def decode (received : List ByteArray) : Option (List Value) := do
  let text ← String.fromUTF8? (received.foldl (· ++ ·) ByteArray.empty)
  (loadLines text).toOption

theorem foldl_encode_line (values : List Value) (before : String) :
    (values.map encode_line).foldl (· ++ ·) before.toUTF8 =
      (before ++ dumpLines values).toUTF8 := by
  induction values generalizing before with
  | nil => simp [dumpLines]
  | cons value values ih =>
      have line : before.toUTF8 ++ encode_line value =
          (before ++ (dumpsCompact value ++ "\n")).toUTF8 := rfl
      rw [List.map_cons, List.foldl_cons, line, ih]
      congr 1
      simp [dumpLines, dumpsCompact, String.append_assoc]

/-- The lines of a stream are read as the values they were encoded from. -/
theorem decode_encode_line {values : List Value}
    (distinct : ∀ value ∈ values, DistinctKeys value) :
    decode (values.map encode_line) = some values := by
  have joined := foldl_encode_line values ""
  rw [String.empty_append] at joined
  have bytes : (values.map encode_line).foldl (· ++ ·) ByteArray.empty =
      (dumpLines values).toUTF8 := joined
  have text : String.fromUTF8? (dumpLines values).toUTF8 = some (dumpLines values) :=
    dif_pos (dumpLines values).isValidUTF8
  rw [decode, bytes, text]
  simp only [Option.bind_eq_bind, Option.bind_some, loadLines_dumpLines distinct]
  rfl

/-! ## A list comes in chunks -/

/-- After `items`, of which the buffer has the last ones. -/
structure Received (size : ℕ) (items : List Value) (stream : ArrayStream)
    (chunks : List (List Value)) : Prop where
  sent : stream.yielded =
    encode_start (.dict [("chunk_size", .int size)]) ::
      chunks.map (fun chunk => encode_line (.dict [("data", .list chunk)]))
  cut : ∃ done, Chunks size done chunks ∧ done ++ stream.buffer = items
  short : stream.buffer.length < size
  count : stream.count = items.length

theorem Received.next {size : ℕ} {items : List Value} {stream : ArrayStream}
    {chunks : List (List Value)} (before : Received size items stream chunks)
    (item : Value) :
    ∃ more, Received size (items ++ [item]) (receive size stream item) more := by
  obtain ⟨done, cut, joined⟩ := before.cut
  have short := before.short
  have longer : (stream.buffer ++ [item]).length = stream.buffer.length + 1 := by simp
  have counted : stream.count + 1 = (items ++ [item]).length := by
    rw [before.count, List.length_append, List.length_singleton]
  unfold receive
  by_cases full : (size : ℤ) ≤ (stream.buffer ++ [item]).length
  · refine ⟨chunks ++ [stream.buffer ++ [item]], ?_⟩
    rw [if_pos full]
    refine ⟨?_, ⟨done ++ (stream.buffer ++ [item]), ?_, ?_⟩, ?_, counted⟩
    · rw [before.sent, List.map_append, List.cons_append, List.map_singleton]
    · exact cut.snoc (by simp) (by omega)
    · rw [List.append_nil, ← List.append_assoc, joined]
    · exact Nat.zero_lt_of_lt short
  · refine ⟨chunks, ?_⟩
    rw [if_neg full]
    refine ⟨before.sent, ⟨done, cut, ?_⟩, ?_, counted⟩
    · rw [← List.append_assoc, joined]
    · change (stream.buffer ++ [item]).length < size
      omega

theorem received {size : ℕ} (positive : 0 < size) (items : List Value) :
    ∃ chunks, Received size items
      (items.foldl (receive size)
        ⟨[], 0, [encode_start (.dict [("chunk_size", .int size)])]⟩) chunks := by
  induction items using List.reverseRecOn with
  | nil => exact ⟨[], rfl, ⟨[], Chunks.nil size, rfl⟩, positive, rfl⟩
  | append_singleton items item ih =>
      obtain ⟨chunks, before⟩ := ih
      rw [List.foldl_append]
      exact before.next item

theorem stream_json_array_eq {size : ℕ} (positive : 0 < size) (items : List Value) :
    ∃ chunks, Chunks size items chunks ∧
      stream_json_array items size =
        encode_start (.dict [("chunk_size", .int size)]) ::
          chunks.map (fun chunk => encode_line (.dict [("data", .list chunk)])) ++
            [encode_end (.dict [("total_items", .int items.length)])] := by
  obtain ⟨chunks, last⟩ := received positive items
  obtain ⟨done, cut, joined⟩ := last.cut
  unfold stream_json_array
  simp only [last.sent, last.count]
  by_cases empty : (items.foldl (receive size)
      ⟨[], 0, [encode_start (.dict [("chunk_size", .int size)])]⟩).buffer = []
  · rw [empty, List.append_nil] at joined
    refine ⟨chunks, joined ▸ cut, ?_⟩
    simp [empty]
  · refine ⟨chunks ++ [_], joined ▸ cut.snoc empty last.short.le, ?_⟩
    simp [empty]

/-! ## The strikes of a chain come in chunks -/

theorem update_fresh {entries items : Dict} (keys : ((entries ++ items).map Prod.fst).Nodup) :
    update entries items = entries ++ items := by
  induction items generalizing entries with
  | nil => simp [update]
  | cons item items ih =>
      have fresh : item.1 ∉ entries.map Prod.fst := by
        rw [List.map_append, List.nodup_append] at keys
        intro member
        exact keys.2.2 _ member item.1 (by simp) rfl
      have next : update entries (item :: items) = update (entries ++ [item]) items := by
        rw [update, List.foldl_cons, setItem_fresh fresh]
        rfl
      rw [next, ih (by simpa using keys), List.append_assoc, List.singleton_append]

/-- Chunks merged one by one are the dictionary they were cut from. -/
theorem foldl_update {size : ℕ} {entries : Dict} {chunks : List Dict}
    (keys : (entries.map Prod.fst).Nodup) (cut : Chunks size entries chunks) :
    chunks.foldl update [] = entries := by
  have joined : chunks.foldl update [] = update [] chunks.flatten := by
    rw [update, List.foldl_flatten]
    rfl
  have fresh : (([] ++ entries).map Prod.fst).Nodup := keys
  rw [joined, cut.whole, update_fresh fresh, List.nil_append]

theorem stream_option_chain_eq {size : ℕ} (positive : 0 < size) {data oc : Dict}
    (chain : Dict.get data "oc" (.dict []) = .dict oc) (keys : (oc.map Prod.fst).Nodup) :
    ∃ chunks, Chunks size oc chunks ∧
      stream_option_chain data size =
        (encode_start (.dict
            [("symbol", Dict.get data "symbol" .null),
              ("expiry", Dict.get data "expiry" .null),
              ("total_strikes", .int oc.length)]) ::
          encode_line (.dict
            [("type", .str "metadata"),
              ("data", .dict (data.filter (fun entry => entry.1 ≠ "oc")))]) ::
          chunks.map (fun chunk =>
            encode_line (.dict [("type", .str "strikes"), ("data", .dict chunk)])) ++
          [encode_end (.dict [("strikes_sent", .int oc.length)])], .ok ()) := by
  refine ⟨_, chunks_slices positive oc, ?_⟩
  have counted : range oc.length size = .ok (starts size oc.length) := by
    rw [range, if_neg (by omega), if_neg (by omega), Int.toNat_natCast]
  have same : ∀ start, update [] (slice start (start + size) oc) =
      slice start (start + size) oc := by
    intro start
    have among : (slice start (start + size) oc).Sublist oc :=
      (List.drop_sublist _ _).trans (List.take_sublist _ _)
    exact update_fresh (keys.sublist (among.map Prod.fst))
  simp only [stream_option_chain, chain, len, counted, Int.toNat_natCast, same, List.map_map]
  rfl

/-! ## Reassembly -/

/-- What is read of a streamed list. -/
def ArrayReassembles (chunk_size : ℤ) (items : List Value) : Prop :=
  ∃ chunks : List (List Value),
    decode (stream_json_array items chunk_size) = some
      (.dict [("_stream", .str "start"),
          ("_metadata", .dict [("chunk_size", .int chunk_size)])] ::
        chunks.map (fun chunk => .dict [("data", .list chunk)]) ++
        [.dict [("_stream", .str "end"),
          ("_summary", .dict [("total_items", .int items.length)])]]) ∧
    (∀ chunk ∈ chunks, chunk ≠ [] ∧ (chunk.length : ℤ) ≤ chunk_size) ∧
    chunks.flatten = items

/-- What is read of the streamed chain `data`, whose strikes are `oc`. -/
def ChainReassembles (chunk_size : ℤ) (data oc : Dict) : Prop :=
  ∃ (yielded : List ByteArray) (chunks : List Dict),
    stream_option_chain data chunk_size = (yielded, .ok ()) ∧
    decode yielded = some
      (.dict [("_stream", .str "start"),
          ("_metadata", .dict
            [("symbol", Dict.get data "symbol" .null),
              ("expiry", Dict.get data "expiry" .null),
              ("total_strikes", .int oc.length)])] ::
        .dict [("type", .str "metadata"),
          ("data", .dict (data.filter (fun entry => entry.1 ≠ "oc")))] ::
        chunks.map (fun chunk => .dict [("type", .str "strikes"), ("data", .dict chunk)]) ++
        [.dict [("_stream", .str "end"),
          ("_summary", .dict [("strikes_sent", .int oc.length)])]]) ∧
    (∀ chunk ∈ chunks, chunk ≠ [] ∧ (chunk.length : ℤ) ≤ chunk_size) ∧
    chunks.flatten = oc ∧ chunks.foldl update [] = oc

theorem distinct_single {key : String} {value : Value} (distinct : DistinctKeys value) :
    DistinctKeys (.dict [(key, value)]) :=
  ⟨List.nodup_singleton key, distinct, trivial⟩

theorem distinct_pair {key other : String} {value second : Value} (apart : key ≠ other)
    (distinct : DistinctKeys value) (also_distinct : DistinctKeys second) :
    DistinctKeys (.dict [(key, value), (other, second)]) :=
  ⟨by simpa using apart, distinct, also_distinct, trivial⟩

theorem array_reassembles {size : ℕ} (positive : 0 < size) {items : List Value}
    (distinct : ∀ item ∈ items, DistinctKeys item) : ArrayReassembles size items := by
  obtain ⟨chunks, cut, streamed⟩ := stream_json_array_eq positive items
  refine ⟨chunks, ?_, fun chunk among => ?_, cut.whole⟩
  · rw [streamed, ← decode_encode_line]
    · simp [Function.comp_def, encode_start, encode_end, Value.or, Value.truthy]
    · intro value member
      rw [List.mem_append, List.mem_cons, List.mem_map, List.mem_singleton] at member
      rcases member with (rfl | ⟨chunk, among, rfl⟩) | rfl
      · exact distinct_pair (by decide) trivial (distinct_single trivial)
      · apply distinct_single
        refine distinctKeysItems_iff.mpr (fun item inside => distinct item ?_)
        rw [← cut.whole]
        exact List.mem_flatten_of_mem among inside
      · exact distinct_pair (by decide) trivial (distinct_single trivial)
  · obtain ⟨filled, short⟩ := cut.within chunk among
    exact ⟨filled, Int.ofNat_le.mpr short⟩

theorem chain_reassembles {size : ℕ} (positive : 0 < size) {data oc : Dict}
    (distinct : DistinctKeys (.dict data))
    (chain : Dict.get data "oc" (.dict []) = .dict oc) : ChainReassembles size data oc := by
  have strikes : DistinctKeys (.dict oc) := by
    rw [← chain]
    exact distinct_get distinct "oc" ⟨List.nodup_nil, trivial⟩
  obtain ⟨chunks, cut, streamed⟩ := stream_option_chain_eq positive chain strikes.1
  refine ⟨_, chunks, streamed, ?_, fun chunk among => ?_, cut.whole,
    foldl_update strikes.1 cut⟩
  · rw [← decode_encode_line]
    · simp [Function.comp_def, encode_start, encode_end, Value.or, Value.truthy]
    · intro value member
      rw [List.mem_append, List.mem_cons, List.mem_cons, List.mem_map, List.mem_singleton]
        at member
      rcases member with (rfl | rfl | ⟨chunk, among, rfl⟩) | rfl
      · refine distinct_pair (by decide) trivial ⟨by simp, ?_, ?_, trivial, trivial⟩
        · exact distinct_get distinct "symbol" trivial
        · exact distinct_get distinct "expiry" trivial
      · exact distinct_pair (by decide) trivial
          (distinct_sublist List.filter_sublist distinct)
      · refine distinct_pair (by decide) trivial (distinct_sublist ?_ strikes)
        rw [← cut.whole]
        exact List.sublist_flatten_of_mem among
      · exact distinct_pair (by decide) trivial (distinct_single trivial)
  · obtain ⟨filled, short⟩ := cut.within chunk among
    exact ⟨filled, Int.ofNat_le.mpr short⟩

/-- Both streams are read as a start, chunks of what was streamed and its number. -/
theorem streams_reassemble {chunk_size : ℤ} (positive : 1 ≤ chunk_size)
    {items : List Value} (values : ∀ item ∈ items, DistinctKeys item) {data oc : Dict}
    (dictionary : DistinctKeys (.dict data))
    (chain : Dict.get data "oc" (.dict []) = .dict oc) :
    ArrayReassembles chunk_size items ∧ ChainReassembles chunk_size data oc := by
  lift chunk_size to ℕ using by omega
  have size_pos : 0 < chunk_size := by omega
  exact ⟨array_reassembles size_pos values, chain_reassembles size_pos dictionary chain⟩

theorem streams_reassemble_three :
    ArrayReassembles 2 [.int 1, .str "\n", .null] ∧
      ChainReassembles 2
        [("symbol", .str "NIFTY"),
          ("oc", .dict [("100", .int 1), ("110", .int 2), ("120", .null)])]
        [("100", .int 1), ("110", .int 2), ("120", .null)] := by
  refine streams_reassemble (by decide) ?_ ?_ rfl
  · simp [DistinctKeys]
  · simp [DistinctKeys, DistinctKeysEntries, DistinctKeysEntry]

end HftEngine.Backend.Streaming
