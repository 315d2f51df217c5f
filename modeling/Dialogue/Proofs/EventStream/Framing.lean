import Dialogue.EventStream.Frame
import Dialogue.Proofs.Text.Utf8

/-!
# The rules of framing

How the octets of a stream become frames, said for pieces of any size: octets are text
as far as they can be, text is lines as far as their ends have come, and lines are blocks
as far as these are ended by an empty line. What is left over at each stage waits for the
next piece (`Backlog`). A byte order mark in front of all the text is no part of it
(`unmarked`).

* `Backlog.take_append`: taking one piece and then another is taking both at once;
* `Reader.Keeps.feed`: the reader that takes in octet by octet dispatches the frames that
  the rules give.
-/

namespace Dialogue.EventStream

open Text.Utf8

/-! ## The mark in front -/

/-- Characters without the mark that may stand in front of all others, given whether others
    came before. -/
def unmarked : Bool → List Char → List Char
  | false, c :: chars => if c == byteOrderMark then chars else c :: chars
  | _, chars => chars

/-- Once a character has come, none is a mark in front. -/
theorem unmarked_true (chars : List Char) : unmarked true chars = chars := by
  cases chars <;> rfl

theorem unmarked_nil (begun : Bool) : unmarked begun [] = [] := by
  cases begun <;> rfl

theorem unmarked_of_head? {chars : List Char} (begun : Bool)
    (h : chars.head? ≠ some byteOrderMark) : unmarked begun chars = chars := by
  cases begun with
  | true => exact unmarked_true chars
  | false =>
    cases chars with
    | nil => rfl
    | cons c chars => exact if_neg fun hc => h (congrArg some (beq_iff_eq.1 hc))

/-- Only what comes first can begin with the mark. -/
theorem unmarked_append (begun : Bool) (xs ys : List Char) :
    unmarked begun (xs ++ ys) = unmarked begun xs ++ unmarked (begun || !xs.isEmpty) ys := by
  cases begun with
  | true => simp only [unmarked_true, Bool.true_or]
  | false =>
    cases xs with
    | nil => rfl
    | cons c xs =>
      rw [List.isEmpty_cons, Bool.not_false, Bool.or_true, unmarked_true, List.cons_append,
        unmarked, unmarked]
      split <;> rfl

/-! ## Lines -/

/-- What follows the end of a line: a line feed, a carriage return or both in that order.
    After a carriage return it takes one more character to tell. -/
def afterLine? : List Char → Option (List Char)
  | '\n' :: rest => some rest
  | '\r' :: '\n' :: rest => some rest
  | '\r' :: c :: rest => some (c :: rest)
  | _ => none

/-- How lines end. -/
def lineEnd : Terminator Char where
  isEnd c := c == '\n' || c == '\r'
  after? := afterLine?
  after?_nil := rfl
  shorter h := by
    unfold afterLine? at h
    split at h <;> cases h <;> simp
  stable {xs} rest more h := by
    rcases xs with _ | ⟨a, _ | ⟨c, xs⟩⟩ <;> unfold afterLine? at * <;> grind

/-- The line that is still being read, as far as it has come, and perhaps a carriage
    return after it. -/
structure LineReader.Holds (r : LineReader) (left : List Char) : Prop where
  text : r.chars.reverse ++ (if r.ended then ['\r'] else []) = left
  line : ∀ c ∈ r.chars.reverse, lineEnd.isEnd c = false

theorem LineReader.holds_start : ({} : LineReader).Holds [] where
  text := rfl
  line := fun _ h => by cases h

theorem LineReader.Holds.next? {r : LineReader} {left : List Char} (h : r.Holds left) :
    lineEnd.cutter.next? left = none := by
  rw [← h.text, lineEnd.next?_append h.line]
  cases r.ended <;> rfl

/-- After a carriage return, a line feed is no line of its own. -/
theorem afterLine?_return (c : Char) :
    afterLine? ['\r', c] = some (if c = '\n' then [] else [c]) := by
  unfold afterLine?
  grind

/-- What the line reader holds of the next line when a character tells that a carriage return
    ended the last one. -/
theorem LineReader.holds_afterReturn (c : Char) :
    (if c = '\n' then {} else if c = '\r' then { ended := true } else { chars := [c] } :
      LineReader).Holds (if c = '\n' then [] else [c]) := by
  split_ifs with hn hr
  · exact holds_start
  · subst hr
    exact ⟨rfl, fun _ h => by cases h⟩
  · refine ⟨rfl, fun a ha => ?_⟩
    obtain rfl := List.mem_singleton.1 ha
    simp [lineEnd, hn, hr]

/-- With one character more the line reader gives out the line that is complete, if any,
    and holds back what is left. -/
theorem LineReader.Holds.step {r : LineReader} {left : List Char} (h : r.Holds left) (c : Char) :
    (r.step c).2.toList = (lineEnd.cutter.cut (left ++ [c])).1 ∧
      (r.step c).1.Holds (lineEnd.cutter.cut (left ++ [c])).2 := by
  have hnext := lineEnd.next?_append h.line
  rw [← h.text, List.append_assoc, LineReader.step]
  cases he : r.ended with
  | true =>
    -- The line ended before; the character tells where the next one begins.
    have htext : lineEnd.cutter.next? (r.chars.reverse ++ ['\r', c]) =
        some (r.chars.reverse, if c = '\n' then [] else [c]) := by
      rw [hnext, lineEnd.next?_cutter]
      change (((afterLine? ['\r', c]).map _).map _) = _
      rw [afterLine?_return]
      exact congrArg (fun l => some (l, _)) (List.append_nil _)
    have hrest := holds_afterReturn c
    simp only [if_true, List.singleton_append]
    rw [lineEnd.cutter.cut_of_some htext, lineEnd.cutter.cut_of_none hrest.next?]
    exact ⟨rfl, hrest⟩
  | false =>
    simp only [Bool.false_eq_true, if_false, List.nil_append]
    split_ifs with hn hr
    · subst hn
      have htext : lineEnd.cutter.next? (r.chars.reverse ++ ['\n']) =
          some (r.chars.reverse, []) := by
        rw [hnext]
        exact congrArg (fun l => some (l, _)) (List.append_nil _)
      rw [lineEnd.cutter.cut_of_some htext, lineEnd.cutter.cut_of_none holds_start.next?]
      exact ⟨rfl, holds_start⟩
    · subst hr
      have hrest : ({ chars := r.chars, ended := true } : LineReader).Holds
          (r.chars.reverse ++ ['\r']) := ⟨rfl, h.line⟩
      rw [lineEnd.cutter.cut_of_none hrest.next?]
      exact ⟨rfl, hrest⟩
    · have hrest : ({ chars := c :: r.chars } : LineReader).Holds
          (r.chars.reverse ++ [c]) := by
        refine ⟨by simp, fun a ha => ?_⟩
        rw [List.reverse_cons, List.mem_append, List.mem_singleton] at ha
        obtain ha | rfl := ha
        · exact h.line a ha
        · simp [lineEnd, hn, hr]
      rw [lineEnd.cutter.cut_of_none hrest.next?]
      exact ⟨rfl, hrest⟩

/-! ## Blocks -/

/-- An empty line ends a block. -/
def blockEnd : Terminator (List Char) where
  isEnd := List.isEmpty
  after?
    | [] => none
    | _ :: rest => some rest
  after?_nil := rfl
  shorter {xs} rest h := by
    cases xs <;> cases h
    exact Nat.lt_succ_self _
  stable {xs} rest more h := by
    cases xs <;> cases h
    rfl

/-- The values that the lines of a block give a field, in their order. -/
def valuesOf (field : String) (lines : List (List Char)) : List (List Char) :=
  lines.filterMap fun line =>
    let (name, value) := Block.splitField line
    if name = field.toList then some value else none

/-- The frame that the lines of a block make: none without data, else its data are joined
    by line feeds, and it has its last name, or is a `message` if that is empty. -/
def frameOf? (lines : List (List Char)) : Option Frame :=
  let data := valuesOf "data" lines
  let name := (valuesOf "event" lines).getLastD []
  if data = [] then none
  else
    some {
      event := if name = [] then "message" else String.ofList name
      data := String.ofList (['\n'].intercalate data) }

/-- The block that lines have filled. -/
def Block.ofLines (lines : List (List Char)) : Block where
  event := (valuesOf "event" lines).getLastD []
  data := (valuesOf "data" lines).reverse

theorem Block.joinLines_eq (lines : List (List Char)) :
    joinLines lines = ['\n'].intercalate lines := by
  fun_induction joinLines lines with
  | case1 => rfl
  | case2 line => simp [List.intercalate]
  | case3 line rest hne ih =>
    obtain ⟨next, more, rfl⟩ := List.exists_cons_of_ne_nil hne
    rw [ih]
    simp [List.intercalate]

theorem Block.frame?_ofLines (lines : List (List Char)) :
    (Block.ofLines lines).frame? = frameOf? lines := by
  simp only [frame?, ofLines, frameOf?, List.isEmpty_iff, List.reverse_eq_nil_iff,
    List.reverse_reverse, joinLines_eq]

theorem valuesOf_concat (field : String) (lines : List (List Char)) (line : List Char) :
    valuesOf field (lines ++ [line]) = valuesOf field lines ++
      if (Block.splitField line).1 = field.toList then [(Block.splitField line).2] else [] := by
  rw [valuesOf, valuesOf, List.filterMap_append]
  split_ifs with h <;> simp [h]

/-- A line that is not empty goes into the block. -/
theorem Block.step_ofLines {line : List Char} (lines : List (List Char))
    (h : line.isEmpty = false) :
    (Block.ofLines lines).step line = (Block.ofLines (lines ++ [line]), none) := by
  simp only [step, h, Bool.false_eq_true, if_false, ofLines, valuesOf_concat,
    (by decide : "event".toList = ['e', 'v', 'e', 'n', 't']),
    (by decide : "data".toList = ['d', 'a', 't', 'a'])]
  generalize splitField line = field
  by_cases he : field.1 = ['e', 'v', 'e', 'n', 't']
  · simp [he]
  · by_cases hd : field.1 = ['d', 'a', 't', 'a']
    · simp [hd]
    · simp [he, hd]

/-- The block that is still being read, as far as it has come. -/
structure Block.Holds (b : Block) (left : List (List Char)) : Prop where
  block : b = .ofLines left
  lines : ∀ line ∈ left, blockEnd.isEnd line = false

theorem Block.holds_start : ({} : Block).Holds [] where
  block := rfl
  lines := fun _ h => by cases h

theorem Block.Holds.next? {b : Block} {left : List (List Char)} (h : b.Holds left) :
    blockEnd.cutter.next? left = none := by
  rw [← List.append_nil left, blockEnd.next?_append h.lines]
  rfl

/-- With one line more the frame of the block that is complete comes out, if any, and the
    block holds what is left. -/
theorem Block.Holds.step {b : Block} {left : List (List Char)} (h : b.Holds left)
    (line : List Char) :
    (b.step line).2.toList = (blockEnd.cutter.cut (left ++ [line])).1.filterMap frameOf? ∧
      (b.step line).1.Holds (blockEnd.cutter.cut (left ++ [line])).2 := by
  cases he : line.isEmpty with
  | true =>
    have hnext : blockEnd.cutter.next? (left ++ [line]) = some (left, []) := by
      rw [blockEnd.next?_append h.lines]
      obtain rfl := List.isEmpty_iff.1 he
      exact congrArg (fun l => some (l, _)) (List.append_nil _)
    rw [blockEnd.cutter.cut_of_some hnext, blockEnd.cutter.cut_of_none holds_start.next?,
      Block.step, if_pos he, h.block, frame?_ofLines]
    refine ⟨?_, holds_start⟩
    cases hf : frameOf? left <;> simp [hf]
  | false =>
    have hrest : (Block.ofLines (left ++ [line])).Holds (left ++ [line]) := by
      refine ⟨rfl, fun l hl => ?_⟩
      rw [List.mem_append, List.mem_singleton] at hl
      obtain hl | rfl := hl
      · exact h.lines l hl
      · exact he
    rw [blockEnd.cutter.cut_of_none hrest.next?, h.block, step_ofLines left he]
    exact ⟨rfl, hrest⟩

/-! ## All of it -/

/-- What has come of a stream and is still to be completed: octets that are no character
    yet, characters that are no line yet and lines that are no block yet. -/
structure Backlog where
  octets : List UInt8 := []
  /-- Whether a character has come, be it a mark. -/
  begun : Bool := false
  text : List Char := []
  lines : List (List Char) := []
  deriving DecidableEq, Repr

namespace Backlog

/-- Take in characters; the frames of the blocks that they complete come out. -/
def takeText (k : Backlog) (chars : List Char) : Backlog × List Frame :=
  let (lines, text) := lineEnd.cutter.cut (k.text ++ chars)
  let (blocks, lines) := blockEnd.cutter.cut (k.lines ++ lines)
  ({ k with text, lines }, blocks.filterMap frameOf?)

/-- Take in characters, the first of which may be a mark. -/
def takeChars (k : Backlog) (chars : List Char) : Backlog × List Frame :=
  { k with begun := k.begun || !chars.isEmpty }.takeText (unmarked k.begun chars)

/-- Take in a piece; the frames of the blocks that it completes come out. -/
def take (k : Backlog) (piece : List UInt8) : Backlog × List Frame :=
  let (chars, octets) := characters.cut (k.octets ++ piece)
  { k with octets }.takeChars chars

theorem takeText_append (k : Backlog) (xs ys : List Char) :
    k.takeText (xs ++ ys) =
      (((k.takeText xs).1.takeText ys).1,
        (k.takeText xs).2 ++ ((k.takeText xs).1.takeText ys).2) := by
  simp only [takeText, ← List.append_assoc, Cutter.cut_append _ (k.text ++ xs)]
  simp only [Cutter.cut_append _ (k.lines ++ _), List.filterMap_append]

theorem takeChars_append (k : Backlog) (xs ys : List Char) :
    k.takeChars (xs ++ ys) =
      (((k.takeChars xs).1.takeChars ys).1,
        (k.takeChars xs).2 ++ ((k.takeChars xs).1.takeChars ys).2) := by
  have hbegun : (k.begun || !(xs ++ ys).isEmpty) = (k.begun || !xs.isEmpty || !ys.isEmpty) := by
    cases xs <;> simp
  rw [takeChars, unmarked_append, takeText_append, hbegun]
  rfl

/-- Taking one piece and then another is taking both at once. -/
theorem take_append (k : Backlog) (a b : List UInt8) :
    k.take (a ++ b) =
      (((k.take a).1.take b).1, (k.take a).2 ++ ((k.take a).1.take b).2) := by
  simp only [take, ← List.append_assoc, Cutter.cut_append _ (k.octets ++ a), takeChars_append]
  rfl

/-- Nothing in a backlog is complete. -/
structure Settled (k : Backlog) : Prop where
  octets : characters.next? k.octets = none
  text : lineEnd.cutter.next? k.text = none
  lines : blockEnd.cutter.next? k.lines = none

theorem settled_take (k : Backlog) (piece : List UInt8) : (k.take piece).1.Settled where
  octets := characters.cut_left _
  text := lineEnd.cutter.cut_left _
  lines := blockEnd.cutter.cut_left _

variable {k : Backlog}

theorem Settled.takeText_nil (h : k.Settled) : k.takeText [] = (k, []) := by
  simp only [takeText, List.append_nil, lineEnd.cutter.cut_of_none h.text,
    blockEnd.cutter.cut_of_none h.lines, List.filterMap_nil]

theorem Settled.takeChars_nil (h : k.Settled) : k.takeChars [] = (k, []) := by
  simp only [takeChars, unmarked_nil, List.isEmpty_nil, Bool.not_true, Bool.or_false,
    h.takeText_nil]

theorem Settled.take_nil (h : k.Settled) : k.take [] = (k, []) := by
  simp only [take, List.append_nil, characters.cut_of_none h.octets, h.takeChars_nil]

end Backlog

/-- What a reader holds back at each of its stages. -/
structure Reader.Keeps (r : Reader) (k : Backlog) : Prop where
  octets : r.decoder.Holds k.octets
  begun : r.begun = k.begun
  text : r.line.Holds k.text
  lines : r.block.Holds k.lines

namespace Reader

variable {r : Reader} {k : Backlog}

theorem keeps_start : ({} : Reader).Keeps {} where
  octets := Decoder.holds_start
  begun := rfl
  text := LineReader.holds_start
  lines := Block.holds_start

theorem Keeps.settled (h : r.Keeps k) : k.Settled where
  octets := h.octets.next?
  text := h.text.next?
  lines := h.lines.next?

theorem Keeps.stepText (h : r.Keeps k) (c : Char) :
    (r.stepText c).2.toList = (k.takeText [c]).2 ∧ (r.stepText c).1.Keeps (k.takeText [c]).1 := by
  obtain ⟨hline, htext⟩ := h.text.step c
  simp only [Reader.stepText, Backlog.takeText, ← hline]
  cases (r.line.step c).2 with
  | none =>
    simp only [Option.toList_none, List.append_nil, blockEnd.cutter.cut_of_none h.lines.next?]
    exact ⟨rfl, h.octets, h.begun, htext, h.lines⟩
  | some line =>
    obtain ⟨hframe, hlines⟩ := h.lines.step line
    exact ⟨hframe, h.octets, h.begun, htext, hlines⟩

theorem Keeps.stepChar (h : r.Keeps k) (c : Char) :
    (r.stepChar c).2.toList = (k.takeChars [c]).2 ∧
      (r.stepChar c).1.Keeps (k.takeChars [c]).1 := by
  have hr : ({ r with begun := true } : Reader).Keeps { k with begun := true } :=
    ⟨h.octets, rfl, h.text, h.lines⟩
  simp only [Reader.stepChar, Backlog.takeChars, h.begun, List.isEmpty_cons, Bool.not_false,
    Bool.or_true]
  cases k.begun with
  | true => exact hr.stepText c
  | false =>
    simp only [unmarked, Bool.not_false, Bool.true_and]
    split
    · rw [hr.settled.takeText_nil]
      exact ⟨rfl, hr⟩
    · exact hr.stepText c

/-- With one octet more the reader dispatches the frame that is complete, if any. -/
theorem Keeps.step (h : r.Keeps k) (b : UInt8) :
    (r.step b).2.toList = (k.take [b]).2 ∧ (r.step b).1.Keeps (k.take [b]).1 := by
  obtain ⟨hchar, hoctets⟩ := h.octets.step b
  have hr : ({ r with decoder := (r.decoder.step b).1 } : Reader).Keeps
      { k with octets := (characters.cut (k.octets ++ [b])).2 } :=
    ⟨hoctets, h.begun, h.text, h.lines⟩
  simp only [Reader.step, Backlog.take, ← hchar]
  cases (r.decoder.step b).2 with
  | none =>
    simp only [Option.toList_none, hr.settled.takeChars_nil, true_and]
    exact hr
  | some c => exact hr.stepChar c

/-- The reader dispatches the frames that the rules give. -/
theorem Keeps.feed (h : r.Keeps k) (piece : List UInt8) :
    (r.feed piece).2 = (k.take piece).2 ∧ (r.feed piece).1.Keeps (k.take piece).1 := by
  induction piece generalizing r k with
  | nil =>
    rw [h.settled.take_nil]
    exact ⟨rfl, h⟩
  | cons b bs ih =>
    obtain ⟨hs, hk⟩ := h.step b
    obtain ⟨hf, hk⟩ := ih hk
    rw [← List.singleton_append, k.take_append, ← hs, ← hf]
    exact ⟨rfl, hk⟩

end Reader

end Dialogue.EventStream
