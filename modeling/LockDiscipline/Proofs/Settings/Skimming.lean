import LockDiscipline.Proofs.Settings.Contract

/-!
# Values that are ignored

A lawful reader passes a value that is ignored, whatever it holds (`passes_ignored`).  The proof
follows the grammar: inside a list or an object the reader remembers its frame, in which the
elements are passed one after another, and behind the closing bracket it is where it would be
behind any other value.
-/

namespace LockDiscipline.Settings

open Json

variable {r : Reader} {cs : List Char}

/-- A text is passed where a part of the given shape is ignored. -/
def Skims (r : Reader) : Shape → List Char → Prop
  | .value, cs => ∀ us frames due, Frame.list.Admits due →
    Passes r (.ignored us frames due) cs (.beyond us frames)
  | .element f, cs | .row f, cs => ∀ us frames due, f.Admits due →
    Passes r (.ignored us (f :: frames) due) cs (.ignored us (f :: frames) .separator)

theorem closing_mem (f : Frame) :
  f.closing ∈ [',', ']', '\x7d']
  := by cases f <;> decide

/-- Every well-formed part of a text is passed where it is ignored. -/
theorem skims_of_formed (lawful : r.Lawful) {shape : Shape} (h : Formed shape cs) :
  Skims r shape cs
  := by
  -- The induction follows the grammar.  What a part is inside of is not part of its shape, so
  -- `Skims` is about all frames.
  induction h with
  | null => exact fun us frames _ admits => lawful.scalar .null admits us frames
  | yes => exact fun us frames _ admits => lawful.scalar .yes admits us frames
  | no => exact fun us frames _ admits => lawful.scalar .no admits us frames
  | number number =>
    exact fun us frames _ admits => lawful.scalar (.number number) admits us frames
  | string string =>
    exact fun us frames _ admits => lawful.scalar (.string string) admits us frames
  | @empty f w blanks =>
    intro us frames due admits
    have enter := lawful.enter admits us frames f
    have leave := lawful.leave (f := f) (.inl rfl) us frames
    exact ((enter.append (lawful.blanks blanks _)).append leave).passes
  | @full f cs _ ih =>
    intro us frames due admits
    have row := ih us frames f.first (.inl rfl)
    exact (((lawful.enter admits us frames f).append_passes row).append_stop (closing_mem f)
      (lawful.leave (.inr rfl) us frames)).passes
  | item _ ih =>
    intro us frames due admits
    exact ih us (.list :: frames) due admits
  | @member n w w' cs name past between _ ih =>
    intro us frames due admits
    have label := lawful.label name admits us frames
    have colon := lawful.labelColon us frames
    exact ((label.append (lawful.blanks past _)).append
      (colon.append (lawful.blanks between _))).append_passes
      (ih us (.object :: frames) .value (.inr rfl))
  | last before _ after ih =>
    intro us frames due admits
    have element := (lawful.blanks before _).append_passes (ih us frames due admits)
    exact element.append_blanks lawful after
  | @more f w e w' cs before _ after _ ih ih' =>
    intro us frames due admits
    have element := (lawful.blanks before _).append_passes (ih us frames due admits)
    have rest := ih' us frames f.next (.inr rfl)
    rw [List.append_cons]
    exact ((element.append_blanks lawful after).append_stop (by decide)
      (lawful.separator us frames f)).append_passes rest

/-- An ignored value is passed, whatever it holds. -/
theorem passes_ignored (lawful : r.Lawful) (h : Formed .value cs) (us : List Update) :
  Passes r (.ignored us [] .value) cs (.after .object us)
  := skims_of_formed lawful h us [] _ (.inr rfl)

end LockDiscipline.Settings
