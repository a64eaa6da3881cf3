import Testbed.Proofs.Files
import Testbed.Proofs.Message.Line

/-!
# Delivery of messages

A set of sinks passes every message on to each of its sinks. Each file gets one line for each
message and each sink that names it, in the order of the messages, and memory gets each message
once for each time that it is in the set.
-/
namespace Testbed

namespace Sink

/-- Whether a sink writes to the file at a place. -/
def names (files : Files) (place : String) : Sink → Bool
  | file path => files.fileAt? path = some place
  | log | memory => false

/-- Messages in order, each once for every sink of a set that is wanted. -/
def copies (wanted : Sink → Bool) (sinks : List Sink) (messages : List Message) : List Message :=
  messages.flatMap (List.replicate (sinks.countP wanted))

theorem names_eq {files others : Files} (within : files.Within others)
    (without : others.Within files) (place : String) : names others place = names files place := by
  funext sink
  cases sink with
  | file path => simp [names, Files.fileAt?_eq within without]
  | log | memory => rfl

/-- What has been passed on between two moments, given by the messages that every kind of sink got. -/
structure Passed (before after : Delivered) (got : (Sink → Bool) → List Message) : Prop where
  memory : after.memory = before.memory ++ got (· = .memory)
  events : after.events = before.events ++ (got (· = .log)).map Message.summary
  files : ∀ place, after.files.get? place = (before.files.get? place).map
    (.extended (String.join ((got (names before.files place)).map Message.line)))

namespace Passed

variable {before between after : Delivered} {first second : (Sink → Bool) → List Message}

/-- Entries come and go with no delivery, and none changes its kind. -/
theorem within (passed : Passed before after first) :
    before.files.Within after.files ∧ after.files.Within before.files := by
  constructor
  · intro place entry held
    refine ⟨_, by rw [passed.files, held]; rfl, entry.isText_extended _⟩
  · intro place entry held
    rw [passed.files] at held
    obtain ⟨old, kept, rfl⟩ := Option.map_eq_some_iff.1 held
    exact ⟨old, kept, (old.isText_extended _).symm⟩

theorem refl (d : Delivered) : Passed d d (fun _ => []) where
  memory := by simp
  events := by simp
  files place := by simp

theorem trans (early : Passed before between first) (late : Passed between after second) :
    Passed before after (fun wanted => first wanted ++ second wanted) where
  memory := by rw [late.memory, early.memory, List.append_assoc]
  events := by rw [late.events, early.events, List.map_append, List.append_assoc]
  files place := by
    rw [late.files, early.files, names_eq early.within.1 early.within.2, List.map_append,
      String.join_append, Option.map_map]
    congr
    funext entry
    exact entry.extended_extended ..

end Passed

/-- A sink gets the message that it is notified of. -/
theorem notify_passed (sink : Sink) (message : Message) (d : Delivered) :
    Passed d (sink.notify message d) (fun wanted => if wanted sink then [message] else []) := by
  cases sink with
  | log => exact ⟨by simp [notify], by simp [notify], fun place => by simp [notify, names]⟩
  | memory => exact ⟨by simp [notify], by simp [notify], fun place => by simp [notify, names]⟩
  | file path =>
    refine ⟨by simp [notify], by simp [notify], fun place => ?_⟩
    rw [notify, Files.get?_append]
    by_cases named : d.files.fileAt? path = some place <;> simp [names, named]

theorem notifyAll_passed (sinks : List Sink) (message : Message) (d : Delivered) :
    Passed d (notifyAll sinks message d)
      (fun wanted => List.replicate (sinks.countP wanted) message) := by
  induction sinks generalizing d with
  | nil => exact .refl d
  | cons sink sinks ih =>
    have counted : (fun wanted => List.replicate ((sink :: sinks).countP wanted) message) =
        fun wanted => (if wanted sink then [message] else []) ++
          List.replicate (sinks.countP wanted) message := by
      funext wanted
      rw [List.countP_cons]
      split <;> simp [List.replicate_succ]
    rw [counted]
    exact (notify_passed sink message d).trans (ih (sink.notify message d))

theorem deliver_passed (sinks : List Sink) (messages : List Message) (d : Delivered) :
    Passed d (deliver sinks messages d) (fun wanted => copies wanted sinks messages) := by
  induction messages generalizing d with
  | nil => exact .refl d
  | cons message messages ih =>
    exact (notifyAll_passed sinks message d).trans (ih (notifyAll sinks message d))

/-! ## Opening -/

theorem names_of_within {files others : Files} (within : files.Within others) {place : String}
    {sink : Sink} (named : names files place sink = true) : names others place sink = true := by
  cases sink with
  | file path => exact decide_eq_true (Files.fileAt?_within within (of_decide_eq_true named))
  | log | memory => cases named

theorem prepare_ok {files others : Files} {sink : Sink} (ready : prepare files sink = .ok others) :
    (∀ path, sink = file path → ∃ place, others.fileAt? path = some place) ∧
      files.Grown others (fun place => names others place sink = true) := by
  cases sink with
  | log | memory =>
    obtain rfl := Except.ok.inj ready
    exact ⟨nofun, .refl files _⟩
  | file path =>
    cases made : files.touch path with
    | error error => simp [prepare, made, Except.mapError] at ready
    | ok touched =>
      obtain rfl : touched = others := by simpa [prepare, made, Except.mapError] using ready
      obtain ⟨leads, grown⟩ := Files.touch_ok made
      exact ⟨fun _ same => Sink.file.inj same ▸ leads, grown.mono fun _ here => decide_eq_true here⟩

/-- Sinks that are ready each have their file, and only files that some sink names are new. -/
theorem prepareAll_ok {files opened : Files} {sinks : List Sink}
    (ready : prepareAll files sinks = .ok opened) :
    (∀ path, file path ∈ sinks → ∃ place, opened.fileAt? path = some place) ∧
      files.Grown opened (fun place => sinks.any (names opened place) = true) := by
  induction sinks generalizing files with
  | nil =>
    obtain rfl := Except.ok.inj ready
    exact ⟨nofun, .refl files _⟩
  | cons sink sinks ih =>
    rw [prepareAll, List.foldlM_cons] at ready
    cases prepared : sink.prepare files with
    | error error => rw [prepared] at ready; cases ready
    | ok others =>
      rw [prepared] at ready
      obtain ⟨leads, grown⟩ := prepare_ok prepared
      obtain ⟨others_lead, later⟩ := ih ready
      simp only [List.any_cons, Bool.or_eq_true]
      constructor
      · intro path member
        rcases List.mem_cons.1 member with same | member
        · obtain ⟨place, here⟩ := leads path same.symm
          exact ⟨place, Files.fileAt?_within later.within here⟩
        · exact others_lead path member
      · have first := grown.mono fun place named => names_of_within later.within named
        exact (first.mono fun _ => .inl).trans (later.mono fun _ => .inr)

/-! ## Lines -/

/-- The lines of a text; behind the last line end stands an empty one. -/
def linesOf (text : String) : List (List Char) := text.toList.splitOn '\n'

/-- Whether a text is empty or ends with the end of a line. -/
def Framed (text : String) : Prop := text = "" ∨ ∃ before, text = before ++ "\n"

theorem linesOf_append_line (before after : String) :
    linesOf (before ++ "\n" ++ after) = linesOf before ++ linesOf after := by
  have split : List.splitOnP (· == '\n') (before.toList ++ '\n' :: after.toList) = _ :=
    List.splitOnP_append_cons before.toList after.toList (by decide)
  simpa [linesOf, List.splitOn, String.toList_append] using split

/-- The text of a message is one line. -/
theorem linesOf_record (m : Message) : linesOf m.record = [m.record.toList] := by
  refine List.splitOn_eq_singleton (fun inside => ?_)
  exact absurd (m.printable_record _ inside) (by decide)

theorem linesOf_lines (messages : List Message) :
    linesOf (String.join (messages.map Message.line)) =
      messages.map (fun m => m.record.toList) ++ [[]] := by
  induction messages with
  | nil => rfl
  | cons m messages ih =>
    rw [List.map_cons, String.join_cons, Message.line_eq, linesOf_append_line, linesOf_record, ih]
    rfl

theorem linesOf_append {before : String} (framed : Framed before) (after : String) :
    linesOf (before ++ after) = (linesOf before).dropLast ++ linesOf after := by
  obtain rfl | ⟨start, rfl⟩ := framed
  · simp [linesOf]
  · have alone := linesOf_append_line start ""
    rw [String.append_empty] at alone
    rw [linesOf_append_line, alone]
    simp [linesOf]

/-- Every set of sinks that is ready passes messages on in order: memory holds each message once for
each time that it is in the set, and a file holds what it held before and then, message by message
and for each sink that names it, one line, which the message is decoded from if its doubles are
legible. -/
theorem deliver_appends_lines {files opened : Files} {sinks : List Sink}
    (ready : prepareAll files sinks = .ok opened) (messages : List Message) :
    let delivered := deliver sinks messages { files := opened }
    delivered.memory = copies (· = .memory) sinks messages ∧
    delivered.events = (copies (· = .log) sinks messages).map Message.summary ∧
    (∀ path, file path ∈ sinks → ∃ place, opened.fileAt? path = some place) ∧
    (∀ place, sinks.any (names opened place) = false →
      delivered.files.get? place = files.get? place) ∧
    (∀ place, sinks.any (names opened place) = true →
      let got := copies (names opened place) sinks messages
      ∃ content, (files.get? place).getD (.text "") = .text content ∧
        delivered.files.get? place =
          some (.text (content ++ String.join (got.map Message.line))) ∧
        (Framed content → linesOf (content ++ String.join (got.map Message.line)) =
          (linesOf content).dropLast ++ got.map (fun m => m.record.toList) ++ [[]])) ∧
    ∀ m ∈ messages, m.line = m.record ++ "\n" ∧ '\n' ∉ m.record.toList ∧
      ((∀ t ∈ m.times, t.Valid) → (∀ x ∈ m.floats, Json.Legible x) →
        (Json.parse m.record).bind decode = some m) := by
  intro delivered
  obtain ⟨leads, grown⟩ := prepareAll_ok ready
  have passed := deliver_passed sinks messages { files := opened }
  refine ⟨by simpa using passed.memory, by simpa using passed.events, leads, ?others, ?named, ?lines⟩
  case others =>
    intro place unnamed
    have nothing : copies (names opened place) sinks messages = [] := by
      have none' : sinks.countP (names opened place) = 0 := by
        rw [List.countP_eq_zero]
        simpa using unnamed
      rw [copies, none']
      exact List.flatMap_eq_nil_iff.2 (fun _ _ => rfl)
    have same : opened.get? place = files.get? place := by
      rcases grown place with same | ⟨-, -, named⟩
      · exact same
      · rw [unnamed] at named; cases named
    have held := passed.files place
    simpa [nothing, same] using held
  case named =>
    intro place named got
    obtain ⟨sink, member, names'⟩ := List.any_eq_true.1 named
    -- A place that a sink names holds a text once the sinks are ready.
    obtain ⟨content, held⟩ : ∃ content, opened.get? place = some (.text content) := by
      cases sink with
      | file path => exact Files.get?_of_fileAt? (of_decide_eq_true names')
      | log | memory => cases names'
    refine ⟨content, ?_, ?_, fun framed => ?_⟩
    · rcases grown place with same | ⟨absent, empty, -⟩
      · rw [← same, held]
        rfl
      · rw [absent]
        exact Option.some.inj (empty.symm.trans held)
    · rw [passed.files place, held]
      rfl
    · rw [linesOf_append framed, linesOf_lines, List.append_assoc]
  case lines =>
    intro m _
    refine ⟨m.line_eq, fun inside => ?_, m.decode_record⟩
    exact absurd (m.printable_record _ inside) (by decide)

theorem target_out (files : Files) : files.target "out" = files.follow [] ["out"] := by
  have split : "out".splitOn "/" = ["out"] := by
    rw [String.splitOn, if_neg (by decide)]
    iterate 3 rw [String.splitOnAux.eq_def, if_neg (by decide +kernel), if_neg (by decide +kernel)]
    rw [String.splitOnAux.eq_def, if_pos (by decide +kernel)]
    decide +kernel
  rw [Files.target, if_neg (by decide), if_neg (by decide), if_neg (by decide +kernel), split]

theorem target_dot_out (files : Files) : files.target "./out" = files.follow [] [".", "out"] := by
  have split : "./out".splitOn "/" = [".", "out"] := by
    rw [String.splitOn, if_neg (by decide)]
    rw [String.splitOnAux.eq_def, if_neg (by decide +kernel), if_neg (by decide +kernel)]
    rw [String.splitOnAux.eq_def, if_neg (by decide +kernel), if_pos (by decide +kernel),
      if_pos (by decide +kernel)]
    iterate 3 rw [String.splitOnAux.eq_def, if_neg (by decide +kernel), if_neg (by decide +kernel)]
    rw [String.splitOnAux.eq_def, if_pos (by decide +kernel)]
    decide +kernel
  rw [Files.target, if_neg (by decide), if_neg (by decide), if_neg (by decide +kernel), split]

/-- A file with one line that is named twice gets two more lines for each message. -/
theorem deliver_appends_lines_twice :
    let files : Files := Dict.ofList [("out", .text "earlier\n")]
    let sinks := [file "out", memory, file "./out"]
    let built := Message.kernelBuild { isSuccess := true }
    let failed := Message.kernelBuild { errorMessage := "no\r\nspace" }
    let delivered := deliver sinks [built, failed] { files }
    prepareAll files sinks = .ok files ∧ delivered.memory = [built, failed] ∧
      delivered.files.get? "out" = some (.text ("earlier\n" ++
        String.join [built.line, built.line, failed.line, failed.line])) ∧
      (Json.parse failed.record).bind decode = some failed := by
  intro files sinks built failed delivered
  have plain : files.target "out" = .file "out" "earlier\n" := (target_out files).trans (by decide)
  have dotted : files.target "./out" = .file "out" "earlier\n" :=
    (target_dot_out files).trans (by decide)
  have first : prepare files (file "out") = .ok files := by
    rw [prepare, Files.touch, plain]
    rfl
  have last : prepare files (file "./out") = .ok files := by
    rw [prepare, Files.touch, dotted]
    rfl
  have ready : prepareAll files sinks = .ok files := by
    rw [prepareAll, List.foldlM_cons, first]
    change prepare files (file "./out") >>= _ = _
    rw [last]
    rfl
  have count : sinks.countP (names files "out") = 2 := by
    simp [sinks, names, Files.fileAt?, plain, dotted]
  obtain ⟨memory, -, -, -, named, lines⟩ := deliver_appends_lines ready [built, failed]
  obtain ⟨content, before, after, -⟩ := named "out" (by simp [sinks, names, Files.fileAt?, plain])
  obtain rfl : "earlier\n" = content := FileEntry.text.inj before
  refine ⟨ready, memory, ?_, (lines failed (by simp)).2.2 ?_ ?_⟩
  · rw [after, copies, count]
    rfl
  · have epoch : Timestamp.epoch.Valid := by constructor <;> decide
    simp [failed, Message.times, epoch]
  · have zero : Json.Legible .zero := by decide +kernel
    simp [failed, Message.floats, zero]

/-- The next double above 1.4 is not read back, so the line of a message with it is decoded to
another message. -/
theorem deliver_loses_double :
    let files : Files := Dict.ofList [("out", .text "")]
    let measured := Message.kernelBuild { elapsed := ⟨0x3ff6666666666667⟩ }
    let delivered := deliver [file "out"] [measured] { files }
    prepareAll ∅ [file "out"] = .ok files ∧
      delivered.files.get? "out" = some (.text measured.line) ∧
      (Json.parse measured.record).bind decode =
        some (Message.kernelBuild { elapsed := ⟨0x3ff6666666666666⟩ }) ∧
      (Json.parse measured.record).bind decode ≠ some measured := by
  intro files measured delivered
  have vacant : Files.target ∅ "out" = .vacant "out" := (target_out ∅).trans (by decide)
  have there : files.target "out" = .file "out" "" := (target_out files).trans (by decide)
  have decoded : (Json.parse measured.record).bind decode =
      some (Message.kernelBuild { elapsed := ⟨0x3ff6666666666666⟩ }) := by
    decide +kernel
  refine ⟨?_, ?_, decoded, ?_⟩
  · simp [prepareAll, prepare, Files.touch, vacant, Except.mapError]
    rfl
  · simp [delivered, deliver, notifyAll, notify, Files.append, there]
  · rw [decoded]
    decide

end Sink

end Testbed
