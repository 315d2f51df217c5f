import Dialogue.Proofs.EventStream.Framing

/-!
# Frames, written

A frame is written as a line with its name, a line for each line of its data, and an empty
line. What is written is read again (`framesOf_written`), if the frame can be written at
all (`Frame.Writable`): no name and no data hold a line end, but for the line feeds between
the lines of the data.
-/

namespace Dialogue.EventStream

/-- The frames that the rules of framing find in octets. -/
def framesOf (octets : List UInt8) : List Frame :=
  (({} : Backlog).take octets).2

/-- How a writer ends its lines. -/
inductive LineBreak where
  | feed
  | returnAndFeed
  deriving DecidableEq, Repr

/-- The characters at the end of a line. -/
def LineBreak.chars : LineBreak → List Char
  | .feed => ['\n']
  | .returnAndFeed => ['\r', '\n']

/-- The lines of a frame before the empty one. -/
def Frame.lines (f : Frame) : List (List Char) :=
  ("event: ".toList ++ f.event.toList) ::
    (f.data.toList.splitOn '\n').map ("data: ".toList ++ ·)

/-- Frames as octets. -/
def written (b : LineBreak) (frames : List Frame) : List UInt8 :=
  Text.Utf8.encode (String.ofList
    ((frames.flatMap fun f => f.lines ++ [[]]).flatMap (· ++ b.chars)))

/-- A frame that can be written: it has a name of one line, and no carriage return in its
    data. -/
structure Frame.Writable (f : Frame) : Prop where
  event_ne : f.event ≠ ""
  event : ∀ c ∈ f.event.toList, lineEnd.isEnd c = false
  data : '\r' ∉ f.data.toList

/-- A line break ends a line. -/
theorem next?_lineBreak (b : LineBreak) (rest : List Char) :
    lineEnd.cutter.next? (b.chars ++ rest) = some ([], rest) := by
  cases b <;> rfl

/-- A line of a text is part of it and holds no line feed. -/
theorem mem_of_mem_splitOn {text line : List Char} (h : line ∈ text.splitOn '\n') :
    ∀ c ∈ line, c ∈ text ∧ c ≠ '\n' := by
  induction text generalizing line with
  | nil =>
    rw [List.splitOn_nil, List.mem_singleton] at h
    rw [h]
    exact List.forall_mem_nil _
  | cons a text ih =>
    have htail {line : List Char} (h : line ∈ text.splitOn '\n') :
        ∀ c ∈ line, c ∈ a :: text ∧ c ≠ '\n' :=
      fun c hc => (ih h c hc).imp_left (List.mem_cons_of_mem a)
    rw [List.splitOn_cons_eq_if_modifyHead] at h
    split at h
    · obtain rfl | h := List.mem_cons.1 h
      · exact List.forall_mem_nil _
      · exact htail h
    · next ha =>
      obtain ⟨first, more, hs⟩ := List.exists_cons_of_ne_nil (List.splitOn_ne_nil '\n' text)
      rw [hs, List.modifyHead_cons] at h
      obtain rfl | h := List.mem_cons.1 h
      · exact List.forall_mem_cons.2 ⟨⟨List.mem_cons_self, fun e => ha (beq_iff_eq.2 e)⟩,
          htail (hs ▸ List.mem_cons_self)⟩
      · exact htail (hs ▸ List.mem_cons_of_mem first h)

theorem splitField_event (name : List Char) :
    Block.splitField ("event: ".toList ++ name) = ("event".toList, name) := rfl

/-- The lines of a frame make the frame. -/
theorem Frame.frameOf?_lines {f : Frame} (h : f.event ≠ "") : frameOf? f.lines = some f := by
  have hdata : valuesOf "data" f.lines = f.data.toList.splitOn '\n' := by
    rw [valuesOf, lines, List.filterMap_cons, splitField_event, List.filterMap_map]
    exact List.filterMap_some
  have hevent : valuesOf "event" f.lines = [f.event.toList] := by
    rw [valuesOf, lines, List.filterMap_cons, splitField_event, List.filterMap_map]
    exact congrArg _ (List.filterMap_none _)
  have hname : f.event.toList ≠ [] := mt String.toList_eq_nil_iff.1 h
  simp only [frameOf?, hdata, hevent, List.splitOn_ne_nil, if_false, List.intercalate_splitOn,
    List.getLastD_cons, List.getLastD_nil, hname, String.ofList_toList]

/-- A text of one line, told by looking at its characters. -/
theorem isEnd_of_all {text : List Char} (h : text.all (!lineEnd.isEnd ·) = true) :
    ∀ c ∈ text, lineEnd.isEnd c = false :=
  fun c hc => Bool.not_eq_true' _ ▸ List.all_eq_true.1 h c hc

/-- A frame that can be written holds no line end in any of its lines. -/
theorem Frame.Writable.lines {f : Frame} (h : f.Writable) :
    ∀ line ∈ f.lines, ∀ c ∈ line, lineEnd.isEnd c = false := by
  have hend {c : Char} (hn : c ≠ '\n') (hr : c ≠ '\r') : lineEnd.isEnd c = false := by
    simp [lineEnd, hn, hr]
  refine List.forall_mem_cons.2 ⟨List.forall_mem_append.2 ⟨isEnd_of_all rfl, h.event⟩,
    fun line hl => ?_⟩
  obtain ⟨text, ht, rfl⟩ := List.mem_map.1 hl
  refine List.forall_mem_append.2 ⟨isEnd_of_all rfl, fun c hc => ?_⟩
  obtain ⟨hd, hn⟩ := mem_of_mem_splitOn ht c hc
  exact hend hn fun hr => h.data (hr ▸ hd)

/-- What is written begins with the name of a field, if there is any of it. -/
theorem head?_written (b : LineBreak) (frames : List Frame) :
    ((frames.flatMap fun f => f.lines ++ [[]]).flatMap (· ++ b.chars)).head? ≠
      some byteOrderMark := by
  cases frames with
  | nil => exact nofun
  | cons f frames =>
    change some 'e' ≠ some byteOrderMark
    decide

/-- The frames that were written are read. -/
theorem framesOf_written (b : LineBreak) {frames : List Frame} (h : ∀ f ∈ frames, f.Writable) :
    framesOf (written b frames) = frames := by
  have hlines : ∀ line ∈ frames.flatMap fun f => f.lines ++ [[]],
      ∀ c ∈ line, lineEnd.isEnd c = false := by
    intro line hl
    obtain ⟨f, hf, hl⟩ := List.mem_flatMap.1 hl
    exact List.forall_mem_append.2 ⟨(h f hf).lines,
      List.forall_mem_singleton.2 (List.forall_mem_nil _)⟩ line hl
  have hblocks : ∀ block ∈ frames.map Frame.lines, ∀ line ∈ block,
      blockEnd.isEnd line = false := by
    intro block hb line hl
    obtain ⟨f, _, rfl⟩ := List.mem_map.1 hb
    obtain rfl | hl := List.mem_cons.1 hl
    · rfl
    · obtain ⟨_, _, rfl⟩ := List.mem_map.1 hl
      rfl
  have hend : ∀ rest, blockEnd.cutter.next? ([[]] ++ rest) = some ([], rest) := fun _ => rfl
  have hcut := blockEnd.cut_flatMap hend hblocks
  rw [List.flatMap_map] at hcut
  simp only [framesOf, written, Backlog.take, Backlog.takeChars, Backlog.takeText,
    List.nil_append, Text.Utf8.cut_encode, String.toList_ofList,
    unmarked_of_head? false (head?_written b frames),
    lineEnd.cut_flatMap (next?_lineBreak b) hlines, hcut]
  rw [List.filterMap_map]
  exact (List.filterMap_congr fun f hf => Frame.frameOf?_lines (h f hf).event_ne).trans
    List.filterMap_some

end Dialogue.EventStream
