import Mathlib.Data.List.Basic
import Mathlib.Data.List.Induction
import LockDiscipline.Proofs.Json.Grammar

/-!
# Texts of settings

What an object or a list of settings sets, said without a reader.  A `Piece` is a member of an
object or a value in a list, an `Opening` is the text up to a piece, and a `Document` is what
completes it.  The `Update`s that such a text makes are read off it.

After updates of different fields settings have what was set, and otherwise what they had before
(`has_foldl_update`).
-/

namespace LockDiscipline.Settings

open Json

/-! ### The grammar -/

/-- The field that an update sets. -/
def Update.field : Update → Field
  | .guardPolicy _ => .guardPolicy
  | .strategy _ => .strategy
  | .echo _ => .echo

/-- The name of what an update sets its field to, if it has one. -/
def Update.variant? : Update → Option String
  | .guardPolicy p => some p.name
  | .strategy t => some t.name
  | .echo _ => none

/-- How the value that an update sets may be written: by its name, or by an object that wraps
the name. -/
inductive Denotes : List Char → Update → Prop where
  | name {cs : List Char} {u : Update} {s : String} (variant : u.variant? = some s)
      (spelled : Spelled cs s.toList) :
    Denotes (quoted cs) u
  | wrapped {w cs w' w'' w''' : List Char} {u : Update} {s : String}
      (variant : u.variant? = some s) (spelled : Spelled cs s.toList) (inside : Blanks w)
      (past : Blanks w') (between : Blanks w'') (behind : Blanks w''') :
    Denotes ('\x7b' :: w ++ quoted cs ++ w' ++ ':' :: w'' ++ ['n', 'u', 'l', 'l'] ++ w'''
      ++ ['\x7d']) u
  | yes : Denotes ['t', 'r', 'u', 'e'] (.echo true)
  | no : Denotes ['f', 'a', 'l', 's', 'e'] (.echo false)

/-- A member of an object or a value in a list, and what it sets.  A member whose name is unknown
sets nothing. -/
inductive Piece : Frame → List Char → Option Update → Prop where
  | field {w n w' w'' v w''' : List Char} {u : Update} (before : Blanks w)
      (name : Spelled n u.field.name.toList) (past : Blanks w') (between : Blanks w'')
      (value : Denotes v u) (after : Blanks w''') :
    Piece .object (w ++ quoted n ++ w' ++ ':' :: w'' ++ v ++ w''') (some u)
  | other {w n s w' w'' v w''' : List Char} (before : Blanks w) (name : Spelled n s)
      (unknown : ∀ f : Field, s ≠ f.name.toList) (past : Blanks w') (between : Blanks w'')
      (value : Formed .value v) (after : Blanks w''') :
    Piece .object (w ++ quoted n ++ w' ++ ':' :: w'' ++ v ++ w''') none
  | value {w v w' : List Char} {u : Update} (before : Blanks w) (value : Denotes v u)
      (after : Blanks w') :
    Piece .list (w ++ v ++ w') (some u)

/-- What an object or a list begins with, its bracket and any number of pieces with a comma
behind each, and what they set. -/
inductive Opening (f : Frame) : List Char → List Update → Prop where
  | bracket {w : List Char} (before : Blanks w) : Opening f (w ++ [f.opening]) []
  | piece {cs m : List Char} {us : List Update} {u : Option Update} (opening : Opening f cs us)
      (piece : Piece f m u) :
    Opening f (cs ++ m ++ [',']) (us ++ u.toList)

/-- An object or a list, and what it sets. -/
inductive Document (f : Frame) : List Char → List Update → Prop where
  | empty {w w' w'' : List Char} (before : Blanks w) (inside : Blanks w') (after : Blanks w'') :
    Document f (w ++ [f.opening] ++ w' ++ [f.closing] ++ w'') []
  | full {cs m w : List Char} {us : List Update} {u : Option Update} (opening : Opening f cs us)
      (last : Piece f m u) (after : Blanks w) :
    Document f (cs ++ m ++ [f.closing] ++ w) (us ++ u.toList)

/-- The fields in the order in which a list sets them. -/
def Field.all : List Field := [.guardPolicy, .strategy, .echo]

/-! ### What is set -/

/-- Settings have what an update would set. -/
def Has (s : Settings) : Update → Prop
  | .guardPolicy p => s.guardPolicy = p
  | .strategy t => s.strategy = t
  | .echo b => s.echo = b

/-- Settings are determined by what they have. -/
theorem eq_of_has {s s' : Settings} (same : ∀ u, s.Has u → s'.Has u) :
  s' = s
  := by
  obtain ⟨p, t, b⟩ := s
  obtain ⟨p', t', b'⟩ := s'
  congr
  · exact same (.guardPolicy p) rfl
  · exact same (.strategy t) rfl
  · exact same (.echo b) rfl

/-- An update sets its field, and leaves the others. -/
theorem has_update (s : Settings) (u v : Update) :
  (s.update u).Has v ↔ v = u ∨ v.field ≠ u.field ∧ s.Has v
  := by
  cases u <;> cases v <;> simp [update, Has, Update.field, eq_comm]

/-- The last of different fields was not set before. -/
theorem nodup_append {us : List Update} {u : Option Update} :
  ((us ++ u.toList).map Update.field).Nodup
    ↔ (us.map Update.field).Nodup ∧ ∀ v ∈ u, v.field ∉ us.map Update.field
  := by
  rw [List.map_append, List.nodup_append]
  cases u with
  | none => simp
  | some u => simp

/-- After updates of different fields settings have what was set, and what they had before of
the other fields. -/
theorem has_foldl_update (s : Settings) {us : List Update} (once : (us.map Update.field).Nodup)
    (v : Update) :
  (us.foldl update s).Has v ↔ v ∈ us ∨ v.field ∉ us.map Update.field ∧ s.Has v
  := by
  -- The last update decides about its field, so the induction is from the end.
  induction us using List.reverseRecOn with
  | nil => simp
  | append_singleton us u ih =>
    obtain ⟨once, fresh⟩ := (nodup_append (u := some u)).mp once
    rw [List.foldl_concat, has_update, ih once]
    constructor
    · rintro (rfl | ⟨other, mem | ⟨unset, has⟩⟩)
      · exact .inl List.mem_concat_self
      · exact .inl (List.mem_append_left _ mem)
      · refine .inr ⟨?_, has⟩
        rw [List.map_append, List.mem_append]
        rintro (mem | mem)
        · exact unset mem
        · exact other (List.mem_singleton.mp mem)
    · rintro (mem | ⟨unset, has⟩)
      · obtain earlier | last := List.mem_append.mp mem
        · have other : v.field ≠ u.field := by
            intro same
            exact fresh u rfl (same ▸ List.mem_map_of_mem earlier)
          exact .inr ⟨other, .inl earlier⟩
        · exact .inl (List.mem_singleton.mp last)
      · rw [List.map_append, List.mem_append, not_or] at unset
        refine .inr ⟨?_, .inr ⟨unset.1, has⟩⟩
        intro same
        exact unset.2 (List.mem_singleton.mpr same)

end LockDiscipline.Settings
