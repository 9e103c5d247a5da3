import ContraGate.AuditLog
import ContraGate.Library.EventStream
import ContraGate.Library.JsonText
import ContraGate.StatusStream

/-!
# The text of a status stream (`stream_approval_status` in `proxy/async_protocol.py`)

The generator yields every event as a block of an event stream, and a heartbeat when nothing has
come for 30 seconds. The events hold texts that others wrote (reasons, results, error messages); in
`json.dumps` no character of them breaks a line. So a client gets the events that were sent, in
order and each as one message, however the text is cut on its way (`messages_of_run`).
-/

/-- A stream, and what its generator has yielded. -/
structure StatusText where
  stream : StatusStream
  yielded : List Char

/-- One step. -/
inductive TextAction
  | stream (a : StreamAction)
  /-- `queue.get` has timed out. -/
  | heartbeat

namespace StatusStream

variable {cfg : PipelineConfig} {approvalId : String} {manifest : Py.Dict}
  {isoformat : Time → String} {s t : StatusStream} {a : StreamAction}

/-- What was sent stays sent. -/
theorem sent_prefix (hstep : (machine cfg approvalId manifest isoformat).step s a = some t) :
    s.sent <+: t.sent := by
  cases a with
  | gateway a =>
    obtain ⟨g, -, rfl⟩ := Option.map_eq_some_iff.mp hstep
    exact List.prefix_refl _
  | notify | subscribe | check =>
    simp only [machine] at hstep
    split_ifs at hstep
    all_goals
      obtain rfl := Option.some.inj hstep
      exact List.prefix_refl _
  | read =>
    simp only [machine] at hstep
    split_ifs at hstep
    split at hstep
    all_goals obtain rfl := Option.some.inj hstep
    · exact List.prefix_append _ _
    · exact List.prefix_refl _
  | send =>
    simp only [machine] at hstep
    split at hstep
    · obtain rfl := Option.some.inj hstep
      exact List.prefix_append _ _
    · cases hstep

end StatusStream

namespace StatusText

open EventStream

variable {F : Type} (floats : Py.Floats F) (read : Py.Json → Py.JsonData F)

/-- `json.dumps(event)`. -/
def payload (event : Py.Dict) : List Char := (read (.obj event)).text floats

/-- `f"data: {payload}\n\n"`. -/
def eventText (event : Py.Dict) : List Char :=
  "data: ".toList ++ (payload floats read event ++ "\n\n".toList)

def heartbeatText : List Char := ": heartbeat\n\n".toList

/-- The stream with its text. -/
def machine (cfg : PipelineConfig) (approvalId : String) (manifest : Py.Dict)
    (isoformat : Time → String) : Machine StatusText TextAction where
  step s
    | .stream a =>
      ((StatusStream.machine cfg approvalId manifest isoformat).step s.stream a).map fun stream =>
        { stream
          yielded := s.yielded ++
            (stream.sent.drop s.stream.sent.length).flatMap (eventText floats read) }
    | .heartbeat =>
      if s.stream.stream = .waiting then some { s with yielded := s.yielded ++ heartbeatText }
      else none

/-- The message that a client gets for an event. -/
def message (event : Py.Dict) : Message where
  type := "message".toList
  data := payload floats read event

/-- What was yielded are the blocks of the events that were sent, and comments. -/
def Blocks (s : StatusText) : Prop :=
  ∃ blocks : List Block, (∀ b ∈ blocks, b.LineFree) ∧ s.yielded = blocks.flatMap Block.text ∧
    blocks.filterMap Block.data? = s.stream.sent.map (payload floats read)

/-- The text of a value breaks no line. -/
theorem lineFree_payload (event : Py.Dict) : LineFree (payload floats read event) := by
  intro c hc
  have hprintable := Py.JsonData.printable_text floats _ c hc
  constructor
  · rintro rfl
    exact absurd hprintable.1 (by decide)
  · rintro rfl
    exact absurd hprintable.1 (by decide)

variable {floats read} {cfg : PipelineConfig} {approvalId : String} {manifest : Py.Dict}
  {isoformat : Time → String} {s t : StatusText}

theorem blocks_step {a : TextAction} (h : s.Blocks floats read)
    (hstep : (machine floats read cfg approvalId manifest isoformat).step s a = some t) :
    t.Blocks floats read := by
  obtain ⟨blocks, hfree, hyielded, hsent⟩ := h
  cases a with
  | stream a =>
    obtain ⟨stream, hstream, rfl⟩ := Option.map_eq_some_iff.mp hstep
    obtain ⟨events, hevents⟩ := StatusStream.sent_prefix hstream
    refine ⟨blocks ++ events.map fun e => .message (payload floats read e), ?_, ?_, ?_⟩
    · intro b hb
      rcases List.mem_append.mp hb with hb | hb
      · exact hfree b hb
      · obtain ⟨e, -, rfl⟩ := List.mem_map.mp hb
        exact lineFree_payload floats read e
    · dsimp only
      rw [hyielded, ← hevents, List.drop_left, List.flatMap_append, List.flatMap_map]
      rfl
    · dsimp only
      rw [List.filterMap_append, hsent, ← hevents, List.map_append, List.filterMap_map,
        ← List.filterMap_eq_map]
      rfl
  | heartbeat =>
    simp only [machine] at hstep
    split_ifs at hstep
    obtain rfl := Option.some.inj hstep
    refine ⟨blocks ++ [.comment "heartbeat".toList], ?_, ?_, ?_⟩
    · intro b hb
      rcases List.mem_append.mp hb with hb | hb
      · exact hfree b hb
      · obtain rfl := List.mem_singleton.mp hb
        exact (by decide : LineFree "heartbeat".toList)
    · rw [List.flatMap_append, ← hyielded]
      rfl
    · rw [List.filterMap_append, hsent]
      exact List.append_nil _

/-- **The client gets what was sent.** In every run, whatever part of the text has arrived, and in
whatever chunks, the reader has dispatched a beginning of the events, one message each; when all
of the text has arrived, these are all events. -/
theorem messages_of_run {actions : List TextAction} {chunks : List (List Char)}
    (hsent : s.stream.sent = []) (hyielded : s.yielded = [])
    (hrun : (machine floats read cfg approvalId manifest isoformat).exec s actions = some t)
    (harrived : chunks.flatten <+: t.yielded) :
    Reader.start.chunks chunks <+: t.stream.sent.map (message floats read) ∧
      (chunks.flatten = t.yielded →
        Reader.start.chunks chunks = t.stream.sent.map (message floats read)) := by
  have hstart : s.Blocks floats read :=
    ⟨[], by simp, by rw [hyielded]; rfl, by rw [hsent]; rfl⟩
  obtain ⟨blocks, hfree, htext, hdata⟩ :=
    (machine floats read cfg approvalId manifest isoformat).exec_preserves
      (fun _ _ _ hs hst => blocks_step hs hst) hstart hrun
  have hall : Reader.start.dispatched t.yielded = t.stream.sent.map (message floats read) := by
    rw [htext, Reader.dispatched_blocks hfree, hdata, List.map_map]
    rfl
  rw [Reader.chunks_eq, ← hall]
  exact ⟨Reader.dispatched_prefix harrived, fun heq => by rw [heq]⟩

/-- An event that holds texts only. -/
def sampleRead : Py.Json → Py.JsonData AuditLog.SampleFloat
  | .obj entries => .obj (entries.map fun entry => (entry.1, .str (entry.2.str?.getD "")))
  | _ => .null

/-- A stream sends the current state, and later a heartbeat. -/
def firstText : Option StatusText :=
  (machine AuditLog.sampleFloats sampleRead Gateway.sampleConfig "cg_1" sampleManifest
    fun _ => "").exec ⟨StatusStream.sampleStream, []⟩
    [.stream .subscribe, .stream .read, .stream .check, .heartbeat]

/-- The text is cut within the event. -/
theorem messages_of_run_first :
    ∃ t, firstText = some t ∧ t.stream.sent.length = 1 ∧
      Reader.start.chunks [t.yielded.take 10, t.yielded.drop 10] =
        t.stream.sent.map (message AuditLog.sampleFloats sampleRead) := by
  have hsent : firstText.map (·.stream.sent.length) = some 1 := rfl
  obtain ⟨t, hrun, hlength⟩ := Option.map_eq_some_iff.mp hsent
  have hall : [t.yielded.take 10, t.yielded.drop 10].flatten = t.yielded := by simp
  have harrived : [t.yielded.take 10, t.yielded.drop 10].flatten <+: t.yielded := by rw [hall]
  exact ⟨t, hrun, hlength, (messages_of_run rfl rfl hrun harrived).2 hall⟩

end StatusText
