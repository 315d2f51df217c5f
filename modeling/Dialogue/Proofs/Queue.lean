import Dialogue.Queue

/-!
# What is taken out of the input queue

Taking an entry out, in order or out of order, leaves all others where they are.
-/

namespace Dialogue.InputQueue

variable {q q' : InputQueue} {entry : QueuedInput} {id : String}

/-- An entry is removed from between the others, the first with its identifier. -/
theorem of_remove? (h : q.remove? id = some (entry, q')) :
    ∃ before after, q.entries = before ++ entry :: after ∧ entry.id = id ∧
      (∀ e ∈ before, e.id ≠ id) ∧ q' = { q with entries := before ++ after } := by
  obtain ⟨e, he, h⟩ := Option.map_eq_some_iff.1 h
  obtain ⟨rfl, rfl⟩ := Prod.mk.inj h
  obtain ⟨hid, before, after, hq, hb⟩ := List.find?_eq_some_iff_append.1 he
  have hne : ∀ e' ∈ before, ¬(e'.id == id) = true := fun e' he' => by
    simpa using hb e' he'
  refine ⟨before, after, hq, beq_iff_eq.1 hid, fun e' he' => ?_, ?_⟩
  · exact fun h => hne e' he' (beq_iff_eq.2 h)
  · have he : (e :: after).eraseP (fun e => e.id == id) = after := List.eraseP_cons_of_pos hid
    rw [hq, List.eraseP_append_right _ hne, he]

/-- An entry that goes out of order takes the latch with it. -/
theorem of_takeImmediate (h : q.takeImmediate id = .ok (entry, q')) :
    q.immediate = false ∧ ∃ before after, q.entries = before ++ entry :: after ∧ entry.id = id ∧
      (∀ e ∈ before, e.id ≠ id) ∧ q' = ⟨before ++ after, true⟩ := by
  unfold takeImmediate at h
  split at h
  · exact nomatch h
  · next hi =>
    split at h
    · exact nomatch h
    · next e q'' hr =>
      obtain ⟨rfl, rfl⟩ := Prod.mk.inj (Except.ok.inj h)
      obtain ⟨before, after, hq, hid, hb, rfl⟩ := of_remove? hr
      exact ⟨Bool.not_eq_true _ ▸ hi, before, after, hq, hid, hb, rfl⟩

end Dialogue.InputQueue
