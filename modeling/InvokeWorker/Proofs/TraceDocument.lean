import InvokeWorker.Proofs.FailureContent

/-!
# What a trace document says

Beside the report of a failure goes its trace document: a working directory, one error with its
frames, and the paths of these frames. Each path is listed once, in the order in which the paths
come up first (`Text.Lists`); the list is made in one pass, and what was listed of the frames so far
is what the pass keeps up.

* `Run.traceDocument_traces`: a report whose fields have their declared types and that has no
  surrogate in its texts has a trace document, which says what is in the report, and says it on one
  line.
* `Run.not_forall_traces`: a report with a lone surrogate in it has none.
-/

namespace InvokeWorker

open Text

/-! ## First occurrences -/

namespace Text

/-- The texts of a list without repetitions, in the order in which they come up first. -/
structure Lists (once all : List Text) : Prop where
  nodup : once.Nodup
  mem_iff : ∀ t, t ∈ once ↔ t ∈ all
  order : once.Pairwise fun t u => all.idxOf t < all.idxOf u

variable {once seen : List Text} {t : Text}

/-- A text that is listed is passed over, any other one is listed last. -/
theorem Lists.step (lists : Lists once seen) (t : Text) :
    Lists (if once.contains t then once else once ++ [t]) (seen ++ [t]) := by
  have kept : ∀ u ∈ once, (seen ++ [t]).idxOf u = seen.idxOf u := fun u mem =>
    List.idxOf_append_of_mem ((lists.mem_iff u).1 mem)
  have order : once.Pairwise fun t' u => (seen ++ [t]).idxOf t' < (seen ++ [t]).idxOf u :=
    lists.order.imp_of_mem fun mem mem' less => by rwa [kept _ mem, kept _ mem']
  split
  · next known =>
    have known : t ∈ seen := (lists.mem_iff t).1 (List.contains_iff_mem.1 known)
    refine ⟨lists.nodup, fun u => ?_, order⟩
    rw [lists.mem_iff, List.mem_append, List.mem_singleton]
    exact ⟨.inl, fun mem => mem.elim id fun same => same ▸ known⟩
  · next unknown =>
    have new : t ∉ once := fun mem => unknown (List.contains_iff_mem.2 mem)
    have new' : t ∉ seen := fun mem => new ((lists.mem_iff t).2 mem)
    refine ⟨List.nodup_append.2 ⟨lists.nodup, List.nodup_singleton t, ?_⟩, fun u => ?_,
      List.pairwise_append.2 ⟨order, List.pairwise_singleton _ t, ?_⟩⟩
    · rintro u mem _ last rfl
      exact new (List.mem_singleton.1 last ▸ mem)
    · rw [List.mem_append, List.mem_append, lists.mem_iff]
    · intro u mem _ last
      have in_seen := (lists.mem_iff u).1 mem
      rw [List.mem_singleton.1 last, kept u mem, List.idxOf_append_of_notMem new']
      exact Nat.lt_add_right _ (List.idxOf_lt_length_of_mem in_seen)

/-- The pass that removes repetitions lists what it has seen. -/
theorem lists_distinct (ts : List Text) : Lists (distinct ts) ts := by
  have pass : ∀ rest once seen, Lists once seen →
      Lists (rest.foldl (fun once t => if once.contains t then once else once ++ [t]) once)
        (seen ++ rest) := by
    intro rest
    induction rest with
    | nil =>
      intro once seen lists
      rwa [List.append_nil]
    | cons t rest ih =>
      intro once seen lists
      have next := ih _ _ (lists.step t)
      rwa [List.append_assoc, List.singleton_append] at next
  exact pass ts [] [] ⟨List.nodup_nil, fun _ => Iff.rfl, List.Pairwise.nil⟩

end Text

/-! ## The document -/

/-- Of a report that is sent as it is, every place can be sent. -/
theorem Report.Sound.exists_of {r : Report} (sound : r.Sound) :
    ∃ (type message : Text) (sites : List Site) (exit : Bool),
      r = .of type message (sites.map Site.frame) exit ∧ type.Scalar ∧ message.Scalar ∧
        ∀ s ∈ sites, s.Plain := by
  obtain ⟨type, message, sites, exit, rfl⟩ := Report.exists_of_isValid sound.valid
  have texts_eq : (Report.of type message (sites.map Site.frame) exit).texts =
      type :: message :: (sites.map Site.frame).flatMap Frame.texts := rfl
  have integers_eq : (Report.of type message (sites.map Site.frame) exit).integers =
      (sites.map Site.frame).flatMap Frame.integers := rfl
  have scalar := sound.scalar
  have short := sound.short
  rw [texts_eq, List.forall_mem_cons, List.forall_mem_cons, List.flatMap_map] at scalar
  rw [integers_eq, List.flatMap_map] at short
  refine ⟨type, message, sites, exit, rfl, scalar.1, scalar.2.1, fun s mem => ?_⟩
  have text : ∀ t ∈ s.frame.texts, t.Scalar := fun t in_site =>
    scalar.2.2 t (List.mem_flatMap.2 ⟨s, mem, in_site⟩)
  rw [Site.texts_frame, List.forall_mem_cons, List.forall_mem_singleton] at text
  exact ⟨text.1, text.2, short s.line (List.mem_flatMap.2 ⟨s, mem, List.mem_singleton_self _⟩)⟩

/-- What is said of the error in a trace document. -/
def Report.exception (type message : Text) (sites : List Site) : Document :=
  .object [("type", .text type), ("message", .text message),
    ("stack", .array (sites.map Site.document))]

/-- What a trace document says. -/
def Report.traced (directory type message : Text) (sites : List Site) (paths : List Text) :
    Document :=
  .object [("working_directory", .text directory),
    ("exceptions", .array [exception type message sites]), ("paths", .array (paths.map .text))]

namespace Report

section Traced

variable {directory type message : Text} {sites : List Site} {paths : List Text}

theorem echo_exception (number : Double → Document) :
    (exception type message sites).echo number id = exception type message sites := by
  have distinct : [("type" : Text), "message", "stack"].Nodup := by decide
  simp only [exception, Document.echo, Document.echoMembers, Site.echoItems_documents, id]
  exact congrArg Document.object (Document.mergeMembers_of_nodup distinct)

theorem echo_traced (number : Double → Document) :
    (traced directory type message sites paths).echo number id =
      traced directory type message sites paths := by
  have texts : Document.echoItems number id (paths.map .text) = paths.map .text := by
    induction paths with
    | nil => rfl
    | cons path paths ih => rw [List.map_cons, Document.echoItems, ih]; rfl
  have distinct : [("working_directory" : Text), "exceptions", "paths"].Nodup := by decide
  simp only [traced, Document.echo, Document.echoMembers, Document.echoItems, echo_exception, texts,
    id]
  exact congrArg Document.object (Document.mergeMembers_of_nodup distinct)

theorem madeOf_traced (in_directory : directory.Scalar) (in_type : type.Scalar)
    (in_message : message.Scalar) (plain : ∀ s ∈ sites, s.Plain) (listed : ∀ t ∈ paths, t.Scalar) :
    (traced directory type message sites paths).MadeOf Scalar Json.Short 5 := by
  have name : ∀ {t : Text}, t.hasSurrogate = false → t.Scalar := scalar_iff.2
  have stack : Document.ItemsMadeOf Scalar Json.Short 1 (sites.map Site.document) := by
    refine Document.itemsMadeOf_iff.2 fun d in_stack => ?_
    obtain ⟨s, mem, rfl⟩ := List.mem_map.1 in_stack
    have site := plain s mem
    exact ⟨name rfl, site.path, name rfl, site.line, name rfl, site.label, trivial⟩
  have texts : Document.ItemsMadeOf Scalar Json.Short 3 (paths.map .text) := by
    refine Document.itemsMadeOf_iff.2 fun d in_list => ?_
    obtain ⟨t, mem, rfl⟩ := List.mem_map.1 in_list
    exact listed t mem
  exact ⟨name rfl, in_directory, name rfl,
    ⟨⟨name rfl, in_type, name rfl, in_message, name rfl, stack, trivial⟩, trivial⟩, name rfl, texts,
    trivial⟩

theorem paths_of (exit : Bool) :
    (of type message (sites.map Site.frame) exit).paths = distinct (sites.map Site.path) := by
  have paths : (sites.map Site.frame).filterMap Frame.path? = sites.map Site.path := by
    rw [List.filterMap_map, ← List.filterMap_eq_map]
    rfl
  exact congrArg distinct paths

theorem mapM_wireText {ts : List Text} (scalar : ∀ t ∈ ts, t.Scalar) :
    ts.mapM Wire.text = .ok ts := by
  induction ts with
  | nil => rfl
  | cons t ts ih =>
    rw [List.forall_mem_cons] at scalar
    have first : Wire.text t = .ok t := by
      rw [Wire.text, Utf8.unencodable?_eq_none_iff.2 (scalar_iff.1 scalar.1)]
    rw [List.mapM_cons, first, ih scalar.2]
    rfl

/-- The trace document of a report that is sent as it is says what is in it. -/
theorem trace?_of [Interpreter] (in_directory : directory.Scalar) (in_type : type.Scalar)
    (in_message : message.Scalar) (plain : ∀ s ∈ sites, s.Plain) (exit : Bool) :
    (of type message (sites.map Site.frame) exit).trace? directory =
      .ok (traced directory type message sites (distinct (sites.map Site.path))) := by
  have sound := sound_of in_type in_message plain exit
  have stack : Frame.wires (of type message (sites.map Site.frame) exit).frames =
      .ok (sites.map Site.document) := wiresOnto_frames (fun t mem =>
    sound.scalar t (List.mem_append_right _ (List.mem_append_right _ mem))) []
  have listed : ∀ t ∈ distinct (sites.map Site.path), t.Scalar := fun t in_list => by
    obtain ⟨s, mem, rfl⟩ := List.mem_map.1 (((lists_distinct _).mem_iff t).1 in_list)
    exact (plain s mem).path
  have directory_wire : Wire.text directory = .ok directory := by
    rw [Wire.text, Utf8.unencodable?_eq_none_iff.2 (scalar_iff.1 in_directory)]
  rw [trace?, directory_wire, stack, paths_of, mapM_wireText listed, of, wire_text in_type,
    wire_text in_message]
  rfl

end Traced

end Report

/-- The bytes are a trace document of the report: one line, which says where the code runs and what
    type, message and frames the report has, and lists the paths of the frames. -/
structure Report.Traces [Interpreter] (r : Report) (directory : Text) (b : Bytes) : Prop where
  line : ∀ o ∈ b, 0x20 ≤ o.toNat
  told : ∃ type message sites paths, r.errorType = .text type ∧ r.message = .text message ∧
    r.stack = some (sites.map Site.frame) ∧
    Payload.decode b = .ok (traced directory type message sites paths) ∧
    Lists paths (sites.map Site.path)

/-- What is written of the trace document of a report that is sent as it is. -/
theorem Report.traces_render [Interpreter] {directory type message : Text} {sites : List Site}
    (in_directory : directory.Scalar) (in_type : type.Scalar) (in_message : message.Scalar)
    (plain : ∀ s ∈ sites, s.Plain) (exit : Bool) :
    (of type message (sites.map Site.frame) exit).Traces directory (Utf8.encodeLax
      ((traced directory type message sites (distinct (sites.map Site.path))).render .wire)) := by
  have lists := lists_distinct (sites.map Site.path)
  have listed : ∀ t ∈ distinct (sites.map Site.path), t.Scalar := fun t in_list => by
    obtain ⟨s, mem, rfl⟩ := List.mem_map.1 ((lists.mem_iff t).1 in_list)
    exact (plain s mem).path
  have made := madeOf_traced in_directory in_type in_message plain listed
  have shown := Document.only_render JsonStyle.spares_wire made
  have first : ∀ c ∈ ((traced directory type message sites
      (distinct (sites.map Site.path))).render .wire).head?, c.isVisible = true := by
    rw [traced, Document.render_eq]
    rintro _ ⟨⟩
    rfl
  obtain ⟨number, legible⟩ := JsonStyle.legible_wire Payload.rules
  have decoded := Payload.decode_render legible
    (made.mono (fun _ _ => trivial) (fun _ => id) _ (Payload.le_nestingLimit (by decide)))
    shown first
  rw [echo_traced] at decoded
  exact ⟨fun o mem => Utf8.le_of_mem_encodeLax shown mem, type, message, sites, _, rfl, rfl, rfl,
    decoded, lists⟩

namespace Run

variable {r : Report} {w : Worker}

/-- Where the paths can be listed, the document that is made is written, or dropped. -/
theorem traceDocument_eq [Interpreter] (lists : r.ListsPaths) :
    traceDocument r w = match r.trace? (w.directory.getD []) with
      | .ok d => .ok (some (Utf8.encodeLax (d.render .wire))) w
      | .error fault => .ok none (w.log (.of "WARNING" failureLogger
        ("Dropping X-Ray error cause that could not be serialized: " ++ fault.message))) := by
  have listed : ofExcept r.checkPaths w = .ok () w := by
    rw [show r.checkPaths = .ok () from lists]
    rfl
  have started : (get : Run Worker) w = .ok w w := rfl
  rw [traceDocument, bind_of_ok listed, bind_of_ok started]
  cases r.trace? (w.directory.getD []) <;> rfl

/-- A report that is sent as it is has a trace document, unless there is a surrogate in the name of
    the working directory. -/
theorem traceDocument_traces [Interpreter] (r : Report) (w : Worker) (sound : r.Sound)
    (in_directory : ∀ t ∈ w.directory, t.Scalar) :
    ∃ b, traceDocument r w = .ok (some b) w ∧ r.Traces (w.directory.getD []) b := by
  have lists := Report.listsPaths_of_isValid sound.valid
  obtain ⟨type, message, sites, exit, rfl, in_type, in_message, plain⟩ := sound.exists_of
  have in_directory : (w.directory.getD []).Scalar := by
    cases directory : w.directory with
    | none => exact only_nil
    | some t => exact in_directory t directory
  refine ⟨_, ?_, Report.traces_render in_directory in_type in_message plain exit⟩
  rw [traceDocument_eq lists, Report.trace?_of in_directory in_type in_message plain exit]

/-- The report of a failure with a line break in its message and two frames in one file, with a
    third one between them in a file with a line break in its path. -/
def recursing : Report :=
  .of "E" "split\r\nhere"
    (List.map Site.frame [⟨"a.py", 3, "f"⟩, ⟨"b\n", 7, "g"⟩, ⟨"a.py", 4, "f"⟩]) false

theorem sound_recursing : recursing.Sound := by
  have text : ∀ {t : Text}, t.hasSurrogate = false → t.Scalar := scalar_iff.2
  refine Report.sound_of (text rfl) (text rfl) ?_ false
  simp only [List.forall_mem_cons]
  exact ⟨⟨text rfl, text rfl, Json.short_of_lt_ten (by decide)⟩,
    ⟨text rfl, text rfl, Json.short_of_lt_ten (by decide)⟩,
    ⟨text rfl, text rfl, Json.short_of_lt_ten (by decide)⟩, nofun⟩

/-- Its trace document is one line, and lists the two files in their order. -/
theorem traceDocument_traces_recursing : recursing.Sound ∧
    (∀ t ∈ (Worker.start 0 (some "/var/task")).directory, t.Scalar) ∧
    ∃ b, traceDocument recursing (.start 0 (some "/var/task")) =
        .ok (some b) (.start 0 (some "/var/task")) ∧
      recursing.Traces "/var/task" b := by
  have in_directory : ∀ t ∈ (Worker.start 0 (some "/var/task")).directory, t.Scalar := by
    rintro _ ⟨⟩
    exact scalar_iff.2 rfl
  exact ⟨sound_recursing, in_directory,
    traceDocument_traces recursing _ sound_recursing in_directory⟩

/-- A valid report with a surrogate in its message has no trace document. -/
theorem not_forall_traces :
    ¬ ∀ (r : Report) (w : Worker), r.isValid = true → (∀ n ∈ r.integers, Json.Short n) →
      (∀ t ∈ w.directory, t.Scalar) →
        ∃ b, traceDocument r w = .ok (some b) w ∧ r.Traces (w.directory.getD []) b := by
  intro all
  obtain ⟨b, made, -⟩ := all (.of "T" [0xD800] [] false) (.start 0 none) rfl nofun nofun
  have lists : (Report.of "T" [0xD800] [] false).ListsPaths := rfl
  have failed : ∃ fault, (Report.of "T" [0xD800] [] false).trace? [] = .error fault := ⟨_, rfl⟩
  obtain ⟨fault, failed⟩ := failed
  have directory : (Worker.start 0 none).directory.getD [] = [] := rfl
  rw [traceDocument_eq lists, directory, failed] at made
  cases made

end Run

end InvokeWorker
