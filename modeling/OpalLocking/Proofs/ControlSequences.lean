/-
No control sequence is printed.

What is left of a text without its control sequences is made of characters that are seen and of those that only move the
print position (`ControlState.Plain`), and so is what a stream passes on. A text of such characters is left alone. Both are
read off one character at a time: whatever state the automaton is in, it shows no other characters.
-/
import OpalLocking.LogFilter

namespace OpalLocking

namespace Text

namespace ControlState

/-- A character that is seen, or that only moves the print position. -/
def Plain (c : Char) : Prop :=
  (0x20 ≤ c.toNat ∧ c.toNat ≠ 0x7F) ∨ c ∈ ['\t', '\n', '\x0C', '\r']

/-- On the ground these characters are shown. -/
theorem ground_shows_iff {c : Char} : ControlState.ground.shows c = true ↔ Plain c := by
  simp [shows, isMovement, Plain, or_comm, or_assoc]

/-- In no state are others shown. -/
theorem plain_of_shows {s : ControlState} {c : Char} (shows : s.shows c = true) : Plain c := by
  refine ground_shows_iff.1 ?_
  cases s with
  | ground => exact shows
  | escape | escapeIntermediate | control => exact Bool.or_eq_true_iff.2 (.inl shows)
  | system | deviceEntry | deviceParameter | deviceIntermediate | string => cases shows

theorem not_plain_escape : ¬ Plain '\x1B' := by
  unfold Plain
  decide

end ControlState

open ControlState

theorem plain_push {shown : String} {c : Char} (plain : ∀ c ∈ shown.toList, Plain c) (more : Plain c) :
    ∀ c' ∈ (shown.push c).toList, Plain c' := by
  intro c' mem
  rw [String.toList_push, List.mem_append, List.mem_singleton] at mem
  rcases mem with mem | rfl
  · exact plain c' mem
  · exact more

/-! ## Whole texts -/

theorem plain_of_mem_foldl_showNext {cs : List Char} {so : ControlState × String} (plain : ∀ c ∈ so.2.toList, Plain c) :
    ∀ c ∈ (cs.foldl showNext so).2.toList, Plain c := by
  induction cs generalizing so with
  | nil => exact plain
  | cons c cs ih =>
    refine ih ?_
    unfold showNext
    split
    · next shows => exact plain_push plain (plain_of_shows shows)
    · exact plain

/-- Nothing but characters that are seen or move the print position is left of a text. -/
theorem plain_withoutControls (text : String) : ∀ c ∈ (withoutControls text).toList, Plain c :=
  plain_of_mem_foldl_showNext (by simp)

theorem foldl_showNext_of_plain {cs : List Char} (plain : ∀ c ∈ cs, Plain c) (shown : String) :
    cs.foldl showNext (.ground, shown) = (.ground, shown ++ String.ofList cs) := by
  induction cs generalizing shown with
  | nil => simp
  | cons c cs ih =>
    have first : showNext (.ground, shown) c = (.ground, shown.push c) := if_pos (ground_shows_iff.2 (plain c (.head _)))
    rw [List.foldl_cons, first, ih fun other mem => plain other (.tail _ mem)]
    refine congrArg (Prod.mk _) (String.toList_inj.1 ?_)
    simp

/-- A text without control sequences is left alone. -/
theorem withoutControls_of_plain {text : String} (plain : ∀ c ∈ text.toList, Plain c) : withoutControls text = text := by
  rw [withoutControls, foldl_showNext_of_plain plain]
  simp

theorem withoutControls_withoutControls (text : String) : withoutControls (withoutControls text) = withoutControls text :=
  withoutControls_of_plain (plain_withoutControls text)

/-! ## Streams -/

theorem plain_of_mem_foldl_next {cs : List Char} {so : Streaming} (plain : ∀ c ∈ so.shown.toList, Plain c) :
    ∀ c ∈ (cs.foldl Streaming.next so).shown.toList, Plain c := by
  induction cs generalizing so with
  | nil => exact plain
  | cons c cs ih =>
    refine ih ?_
    unfold Streaming.next
    by_cases shows : (if so.inRun then .ground else so.state : ControlState).shows c = true
    · rw [if_pos shows]
      exact plain_push plain (plain_of_shows shows)
    · rw [if_neg shows]
      exact plain

theorem plain_streamed (text : String) : ∀ c ∈ (streamed text).toList, Plain c :=
  plain_of_mem_foldl_next (by simp)

end Text

/-- Whatever a record says, its line starts no command on a terminal unless it is painted. -/
theorem Record.escape_not_mem_render (r : Record) : '\x1B' ∉ (r.render false).toList :=
  fun mem => Text.ControlState.not_plain_escape (Text.plain_streamed _ _ mem)

end OpalLocking
