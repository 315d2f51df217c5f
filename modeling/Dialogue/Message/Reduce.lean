import Dialogue.Ids
import Dialogue.Message

/-!
# How events change a message

Text goes to the end: it extends the last segment if that is text, and else
starts a new one. An update of a call goes to the segment of that call, wherever
it stands; only if there is none yet, and the event may create one, it starts a
new one at the end. So segments never move and never disappear.
-/

namespace Dialogue

/-- What became of an update. -/
inductive ToolMerge where
  | created
  | merged
  | ignored
  deriving DecidableEq, Repr

namespace ToolMerge

/-- Whether the message changed. -/
def changed (m : ToolMerge) : Bool :=
  m != .ignored

end ToolMerge

namespace Segment

/-- Extend the last segment if it is text. -/
def extendLast? (text : String) : List Segment → Option (List Segment)
  | [] => none
  | [.text id last] => some [.text id (last ++ text)]
  | [.tool ..] => none
  | s :: s' :: rest => (extendLast? text (s' :: rest)).map (s :: ·)

/-- Merge an update into the first segment of its call. -/
def mergeCall? (u : ToolUpdate) : List Segment → Option (List Segment)
  | [] => none
  | .tool id e :: rest =>
    if e.callId = u.callId then some (.tool id (e.merge u) :: rest)
    else (mergeCall? u rest).map (.tool id e :: ·)
  | .text id words :: rest => (mergeCall? u rest).map (.text id words :: ·)

end Segment

namespace Message

/-- Append text. A new segment takes an identifier from the supply. -/
def appendText (m : Message) (ids : Ids) (text : String) : Message × Ids :=
  if text = "" then (m, ids)
  else
    match Segment.extendLast? text m.segments with
    | some segments => ({ m with content := m.content ++ text, segments }, ids)
    | none =>
      ({ m with
          content := m.content ++ text
          segments := m.segments ++ [.text ids.next text] }, ids.advance)

/-- Apply an update of a call, which creates a segment only if `create` says so. -/
def applyUpdate (m : Message) (u : ToolUpdate) (create : Bool) : ToolMerge × Message :=
  match Segment.mergeCall? u m.segments with
  | some segments => (.merged, { m with segments })
  | none =>
    if create then
      let e := ToolExecution.ofUpdate u (u.status.getD .pending)
      (.created, { m with segments := m.segments ++ [.ofExecution e] })
    else (.ignored, m)

/-- Apply updates in order, each of which may create a segment; also whether any
    changed the message. -/
def applyPending (m : Message) (us : List ToolUpdate) : Bool × Message :=
  us.foldl (fun (changed, m) u =>
    let (merge, m) := m.applyUpdate u true
    (changed || merge.changed, m)) (false, m)

end Message

end Dialogue
