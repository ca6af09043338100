/-!
# Violations

A `Violation` is a breach of the discipline that a handle is initialised, locked, unlocked
and freed in order.  `kind` is its stable name in logs, `tag` the text shown to people,
`code` the name together with the number it carries; `ofCode?` reads a code back.
-/

namespace LockDiscipline

/-- A breach of the discipline.  `missingFree` carries the surplus of live handles over
the baseline, negative when too many were freed. -/
inductive Violation where
  | doubleFree
  | freeWithoutUnlock
  | lockWithoutInit
  | doubleLock
  | unlockWithoutInit
  | unlockWithoutLock
  | corruptedState (byte : UInt8)
  | missingFree (leaked : Int)
  deriving DecidableEq, Repr

namespace Violation

/-- The stable name of a violation in logs. -/
def kind : Violation → String
  | doubleFree => "double_free"
  | freeWithoutUnlock => "free_without_unlock"
  | lockWithoutInit => "lock_without_init"
  | doubleLock => "double_lock"
  | unlockWithoutInit => "unlock_without_init"
  | unlockWithoutLock => "unlock_without_lock"
  | corruptedState _ => "corrupted_state"
  | missingFree _ => "missing_free"

/-- The text shown to people. -/
def tag : Violation → String
  | doubleFree => "free without init or double free"
  | freeWithoutUnlock => "free without unlock"
  | lockWithoutInit => "lock without init"
  | doubleLock => "double lock"
  | unlockWithoutInit => "unlock without init"
  | unlockWithoutLock => "unlock without lock"
  | corruptedState _ => "corrupted state"
  | missingFree _ => "missing free"

/-- The kind, followed by a colon and the number carried, if there is one. -/
def code : Violation → String
  | corruptedState b => "corrupted_state:" ++ toString b.toNat
  | missingFree n => "missing_free:" ++ toString n
  | v => v.kind

/-- The name of a violation with its data spelled out. -/
def expanded : Violation → String
  | doubleFree => "DoubleFree"
  | freeWithoutUnlock => "FreeWithoutUnlock"
  | lockWithoutInit => "LockWithoutInit"
  | doubleLock => "DoubleLock"
  | unlockWithoutInit => "UnlockWithoutInit"
  | unlockWithoutLock => "UnlockWithoutLock"
  | corruptedState b => "CorruptedState \x7b raw: " ++ toString b.toNat ++ " \x7d"
  | missingFree n => "MissingFree \x7b leaked: " ++ toString n ++ " \x7d"

/-- The violation that has a given code. -/
def ofCode? (s : String) : Option Violation :=
  match s.splitOn ":" with
  | ["double_free"] => some doubleFree
  | ["free_without_unlock"] => some freeWithoutUnlock
  | ["lock_without_init"] => some lockWithoutInit
  | ["double_lock"] => some doubleLock
  | ["unlock_without_init"] => some unlockWithoutInit
  | ["unlock_without_lock"] => some unlockWithoutLock
  | ["corrupted_state", n] => n.toNat?.bind fun k =>
      if k < 256 then some (corruptedState (UInt8.ofNat k)) else none
  | ["missing_free", n] => n.toInt?.map missingFree
  | _ => none

end Violation

end LockDiscipline
