import LockDiscipline.Proofs.Settings.Running
import LockDiscipline.Proofs.Settings.Skimming

/-!
# Reading documents

A lawful reader takes the opening of an object that sets every field once at most
(`takes_opening_object`), or of a list that sets the fields in order (`takes_opening_list`), and
then knows what was set.  So it reads documents to their ends (`read_object`, `read_list`), and
the settings are the defaults, updated (`Reader.read_documents`).

What the reader answers is decided by the first problem: behind an opening, a field that was set
before or a variant that is unknown is reported, whatever follows (`Reader.read_of_opening`).
-/

namespace LockDiscipline.Settings

open Json

variable {r : Reader} {f : Field} {cs m n v w w' w'' : List Char} {u : Update}
  {us vs : List Update}

/-! ### Pieces -/

/-- The name of a field that was not set is taken, with the colon behind it. -/
theorem takes_field (lawful : r.Lawful) (unset : f ∉ us.map Update.field) (before : Blanks w)
    (name : Spelled n f.name.toList) (past : Blanks w') (between : Blanks w'') (first : Bool) :
  Takes r (.piece .object us first) (w ++ quoted n ++ w' ++ ':' :: w'') (.value us f)
  := by
  have named := lawful.name name unset first
  have colon := lawful.colon us f
  exact (((lawful.blanks before _).append named).append (lawful.blanks past _)).append
    (colon.append (lawful.blanks between _))

/-- A name that is unknown is taken, with the colon behind it. -/
theorem takes_stranger (lawful : r.Lawful) {s : List Char} (before : Blanks w)
    (name : Spelled n s) (unknown : ∀ f : Field, s ≠ f.name.toList) (past : Blanks w')
    (between : Blanks w'') (us : List Update) (first : Bool) :
  Takes r (.piece .object us first) (w ++ quoted n ++ w' ++ ':' :: w'') (.ignored us [] .value)
  := by
  have named := lawful.stranger name unknown us first
  have colon := lawful.ignore us
  exact (((lawful.blanks before _).append named).append (lawful.blanks past _)).append
    (colon.append (lawful.blanks between _))

/-- A member is passed that does not set a field again. -/
theorem passes_member (lawful : r.Lawful) {u : Option Update} (piece : Piece .object m u)
    (unset : ∀ v ∈ u, v.field ∉ us.map Update.field) (first : Bool) :
  Passes r (.piece .object us first) m (.after .object (us ++ u.toList))
  := by
  cases piece with
  | field before name past between value after =>
    have head := takes_field lawful (unset _ rfl) before name past between first
    exact ((head.append (lawful.value value us)).append (lawful.blanks after _)).passes
  | other before name unknown past between value after =>
    have head := takes_stranger lawful before name unknown past between us first
    rw [Option.toList_none, List.append_nil]
    exact (head.append_passes (passes_ignored lawful value us)).append_blanks lawful after

/-- The value of the field that is due in a list is taken. -/
theorem takes_item (lawful : r.Lawful) {next : List Field}
    (due : us.map Update.field ++ u.field :: next = Field.all) (before : Blanks w)
    (value : Denotes v u) (after : Blanks w') (first : Bool) :
  Takes r (.piece .list us first) (w ++ v ++ w') (.after .list (us ++ [u]))
  := by
  have item := lawful.item due value first
  exact ((lawful.blanks before _).append item).append (lawful.blanks after _)

/-! ### Openings -/

/-- The bracket of a document is taken, with the blanks before it. -/
theorem takes_bracket (lawful : r.Lawful) (f : Frame) (before : Blanks w) :
  Takes r .start (w ++ [f.opening]) (.piece f [] true)
  := (lawful.blanks before _).append (lawful.bracket f)

/-- The opening of an object is taken, if it sets no field again. -/
theorem takes_opening_object (lawful : r.Lawful) (opening : Opening .object cs us)
    (once : (us.map Update.field).Nodup) :
  ∃ first, Takes r .start cs (.piece .object us first)
  := by
  induction opening with
  | bracket before => exact ⟨true, takes_bracket lawful .object before⟩
  | @piece cs m us u _ piece ih =>
    obtain ⟨once, fresh⟩ := nodup_append.mp once
    obtain ⟨first, takes⟩ := ih once
    have member := takes.append_passes (passes_member lawful piece fresh first)
    exact ⟨false, member.append_stop (by decide) (lawful.comma _)⟩

/-- The opening of a list is taken, if it sets the fields in order and another one is due. -/
theorem takes_opening_list (lawful : r.Lawful) (opening : Opening .list cs us) {next : List Field}
    (due : us.map Update.field ++ f :: next = Field.all) :
  ∃ first, Takes r .start cs (.piece .list us first)
  := by
  -- Every field but the last is the next one of a shorter opening, so the fields that are due vary.
  induction opening generalizing f next with
  | bracket before => exact ⟨true, takes_bracket lawful .list before⟩
  | @piece cs m us u _ piece ih =>
    cases piece with
    | @value _ _ _ u before value after =>
      have earlier : us.map Update.field ++ u.field :: f :: next = Field.all := by
        simpa using due
      obtain ⟨first, takes⟩ := ih earlier
      have item := takes_item lawful earlier before value after first
      exact ⟨false, (takes.append item).append (lawful.commaItem due)⟩

/-! ### Documents -/

/-- A bracket completes settings, and blanks may follow. -/
theorem read_of_passes (lawful : r.Lawful) {p : Place} {text : String} {f : Frame} {s : Settings}
    (parts : text.toList = cs ++ [f.closing] ++ w) (passes : Passes r .start cs p)
    (closes : Takes r p [f.closing] (.done s)) (after : Blanks w) :
  r.read text = .ok s
  := by
  have whole := ((passes.append_stop (closing_mem f) closes).append (lawful.blanks after _)) []
  rw [List.append_nil] at whole
  rw [Reader.read, parts, whole, lawful.finish]

/-- A text whose beginning is refused is not read, whatever follows. -/
theorem read_of_refuses {text : String} {e : Fault} (refuses : Refuses r .start cs (.error e))
    (begins : cs <+: text.toList) :
  r.read text = .error e
  := by
  obtain ⟨rest, parts⟩ := begins
  rw [Reader.read, ← parts, refuses]

/-- An object that sets every field once at most is read. -/
theorem read_object (lawful : r.Lawful) {text : String} (document : Document .object text.toList us)
    (once : (us.map Update.field).Nodup) :
  r.read text = .ok (us.foldl update {})
  := by
  generalize parts : text.toList = cs at document
  cases document with
  | empty before inside after =>
    have bracket := (takes_bracket lawful .object before).append (lawful.blanks inside _)
    exact read_of_passes lawful parts bracket.passes (lawful.empty .object) after
  | @full cs m w us u opening last after =>
    obtain ⟨once, fresh⟩ := nodup_append.mp once
    obtain ⟨first, takes⟩ := takes_opening_object lawful opening once
    have member := takes.append_passes (passes_member lawful last fresh first)
    exact read_of_passes lawful parts member (lawful.closing .object _) after

/-- A list that sets the fields in order is read. -/
theorem read_list (lawful : r.Lawful) {text : String} (document : Document .list text.toList us)
    (ordered : us.map Update.field <+: Field.all) :
  r.read text = .ok (us.foldl update {})
  := by
  generalize parts : text.toList = cs at document
  cases document with
  | empty before inside after =>
    have bracket := (takes_bracket lawful .list before).append (lawful.blanks inside _)
    exact read_of_passes lawful parts bracket.passes (lawful.empty .list) after
  | @full cs m w us u opening last after =>
    obtain ⟨next, ordered⟩ := ordered
    cases last with
    | @value _ _ _ u before value behind =>
      have due : us.map Update.field ++ u.field :: next = Field.all := by simpa using ordered
      obtain ⟨first, takes⟩ := takes_opening_list lawful opening due
      have item := takes.append (takes_item lawful due before value behind first)
      exact read_of_passes lawful parts item.passes (lawful.closing .list _) after

/-- Settings are set field by field, in order. -/
theorem fields_updates (s : Settings) :
  s.updates.map Update.field = Field.all
  := rfl

/-- Settings that are written are read back. -/
theorem read_written (lawful : r.Lawful) {write : Settings → String} (conforms : Conforms write)
    (s : Settings) :
  r.read (write s) = .ok s
  := by
  have once : (s.updates.map Update.field).Nodup := by
    rw [fields_updates]
    decide
  exact read_object lawful (conforms s) once

/-! ### The answers -/

/-- What is read from an object depends on what it sets alone: settings have what was set, and
otherwise their defaults.  A list that sets the fields in order is read as an object that sets
the same, and settings that are written are read back. -/
theorem Reader.read_documents (lawful : r.Lawful) {write : Settings → String}
    (conforms : Conforms write) :
  (∀ (text : String) (us : List Update), Document .object text.toList us →
    (us.map Update.field).Nodup →
    ∃ s, r.read text = .ok s
      ∧ ∀ u, s.Has u ↔ u ∈ us ∨ u.field ∉ us.map Update.field ∧ ({} : Settings).Has u)
  ∧ (∀ (row text : String) (us vs : List Update), Document .list row.toList us →
    us.map Update.field <+: Field.all → Document .object text.toList vs → vs.Perm us →
    ∃ s, r.read row = .ok s ∧ r.read text = .ok s)
  ∧ ∀ s : Settings, r.read (write s) = .ok s
  := by
  refine ⟨?_, ?_, read_written lawful conforms⟩
  · intro text us document once
    exact ⟨_, read_object lawful document once, has_foldl_update {} once⟩
  · intro row text us vs list ordered object same
    have once : (us.map Update.field).Nodup :=
      ordered.sublist.nodup (by decide : Field.all.Nodup)
    have once' : (vs.map Update.field).Nodup :=
      (same.map Update.field).nodup_iff.mpr once
    refine ⟨_, read_list lawful list ordered, ?_⟩
    have equal : vs.foldl update {} = us.foldl update {} := by
      apply eq_of_has
      intro u has
      rw [has_foldl_update _ once] at has
      rw [has_foldl_update _ once', same.mem_iff, (same.map Update.field).mem_iff]
      exact has
    rw [read_object lawful object once', equal]

/-- The beginning of an object whose first member has an unknown name. -/
def foreign : List Char := " \x7b\"x\":[\x7b\"\x7d\":-1.5e400\x7d,\n\"\\ud800\"],".toList

theorem opening_foreign :
  Opening .object foreign []
  := by
  have exponent := @Exponent.present 'e' [] ['4', '0', '0'] (.inl rfl) (by decide) (by decide)
  have number := @Numeric.number ['-'] ['1'] ['.', '5'] _ (by decide)
    (.digits (by decide) (by decide)) (.present (by decide)) exponent
  have brace : Quotable ['\x7d'] := .plain (by decide) .nil
  have half : Code ['d', '8', '0', '0'] 0xd800 :=
    .digits (k := 13) (l := 8) (m := 0) (n := 0) (.inl rfl) (.inl rfl) (.inl rfl) (.inl rfl)
  have object := Formed.full (.last .nil (.member brace .nil .nil (.number number)) .nil)
  have list := Formed.full (.more .nil (.item object) .nil
    (.last (w := ['\n']) (by decide) (.item (.string (.code half .nil))) .nil))
  have name : Spelled ['x'] ['x'] := .of_plain (by decide)
  have unknown : ∀ f : Field, ['x'] ≠ f.name.toList := by
    intro f
    cases f with
    | guardPolicy | strategy | echo => decide
  exact (Opening.bracket (w := [' ']) (by decide)).piece
    (.other .nil name unknown .nil .nil list .nil)

theorem spelled_escape {a b : List Char} (plain : a.all (Plain ·) = true)
    (plain' : b.all (Plain ·) = true) :
  Spelled (a ++ "\\u0065".toList ++ b) (a ++ ['e'] ++ b)
  := by
  have code : Code ['0', '0', '6', '5'] 'e'.toNat :=
    .digits (k := 0) (l := 0) (m := 6) (n := 5) (.inl rfl) (.inl rfl) (.inl rfl) (.inl rfl)
  exact ((Spelled.of_plain plain).append (.code code .nil)).append (.of_plain plain')

/-- An object that sets two fields, one of them with escapes. -/
def jumbled : List Char :=
  foreign
    ++ "\"strat\\u0065gy\":\x7b\"hooks\" :null\x7d,\"guard_policy\":\"skip_when_busy\"\x7d".toList

theorem document_jumbled :
  Document .object jumbled [.strategy .hooks, .guardPolicy .skipWhenBusy]
  := by
  have name : Spelled "strat\\u0065gy".toList "strategy".toList :=
    spelled_escape (a := "strat".toList) (b := "gy".toList) (by decide) (by decide)
  have hooks : Denotes "\x7b\"hooks\" :null\x7d".toList (.strategy .hooks) :=
    @Denotes.wrapped [] "hooks".toList [' '] [] [] (.strategy .hooks) "hooks" rfl
      (.of_plain (by decide)) .nil (by decide) .nil .nil
  have opening := opening_foreign.piece (.field (u := .strategy .hooks) .nil name .nil .nil hooks
    .nil)
  have document := Document.full opening (piece_written (.guardPolicy .skipWhenBusy)) .nil
  rw [List.append_assoc, List.append_assoc, List.append_assoc, List.append_assoc] at document
  exact document

/-- The reader and the writer that run, on three texts. -/
theorem read_documents_jumbled :
  (∃ s, read (String.ofList jumbled) = .ok s
    ∧ s.guardPolicy = .skipWhenBusy ∧ s.strategy = .hooks ∧ s.echo = true)
  ∧ (∃ s, read "[\"skip_when_busy\", \"hooks\"]" = .ok s ∧ read (String.ofList jumbled) = .ok s)
  ∧ read ({} : Settings).render = .ok {}
  := by
  have object : Document .object (String.ofList jumbled).toList
      [.strategy .hooks, .guardPolicy .skipWhenBusy] := by
    rw [String.toList_ofList]
    exact document_jumbled
  have list : Document .list "[\"skip_when_busy\", \"hooks\"]".toList
      [.guardPolicy .skipWhenBusy, .strategy .hooks] :=
    .full (.piece (.bracket .nil) (.value .nil (Update.denotes_text (.guardPolicy .skipWhenBusy))
      .nil)) (.value (w := [' ']) (by decide) (Update.denotes_text (.strategy .hooks)) .nil) .nil
  simp only [← read_running]
  obtain ⟨objects, lists, texts⟩ := Reader.read_documents lawful_running conforms_render
  obtain ⟨s, answer, has⟩ := objects _ _ object (by decide)
  refine ⟨⟨s, answer, ?_, ?_, ?_⟩, ?_, texts {}⟩
  · exact (has (.guardPolicy .skipWhenBusy)).mpr (.inl (by decide))
  · exact (has (.strategy .hooks)).mpr (.inl (by decide))
  · exact (has (.echo true)).mpr (.inr ⟨by decide, rfl⟩)
  · exact lists _ _ _ _ list (by decide) object (by decide)

/-- Behind the opening of an object the first problem decides, whatever follows it: a field that
was set before, or the name of an unknown variant. -/
theorem Reader.read_of_opening (lawful : r.Lawful) (opening : Opening .object cs us)
    (once : (us.map Update.field).Nodup) (before : Blanks w) (name : Spelled n f.name.toList)
    (text : String) :
  (f ∈ us.map Update.field → cs ++ (w ++ quoted n) <+: text.toList →
    r.read text = .error (.misfit (.duplicateField f)))
  ∧ (f ∉ us.map Update.field → f ≠ .echo →
    ∀ {w' w'' v : List Char} {s : String}, Blanks w' → Blanks w'' → Spelled v s.toList →
    s ∉ f.variants → cs ++ (w ++ quoted n ++ w' ++ ':' :: w'' ++ quoted v) <+: text.toList →
    r.read text = .error (.misfit (.unknownVariant f s)))
  := by
  obtain ⟨first, takes⟩ := takes_opening_object lawful opening once
  constructor
  · intro set begins
    have again := (lawful.blanks before _).append_refuses (lawful.again name set first)
    exact read_of_refuses (takes.append_refuses again) begins
  · intro unset named w' w'' v s past between spelled unknown begins
    have head := takes_field lawful unset before name past between first
    have other := head.append_refuses (lawful.variant named spelled unknown us)
    exact read_of_refuses (takes.append_refuses other) begins

/-- The reader that runs, on two texts that go on in no sensible way. -/
theorem read_of_opening_foreign :
  read (String.ofList (foreign ++ "\"strategy\":\"hooks\", \"strat\\u0065gy\"]".toList))
    = .error (.misfit (.duplicateField .strategy))
  ∧ read (String.ofList (foreign
    ++ "\"strategy\":\"hooks\",\"guard_policy\": \"n\\u0065ver\"".toList))
    = .error (.misfit (.unknownVariant .guardPolicy "never"))
  := by
  have opening := opening_foreign.piece (piece_written (.strategy .hooks))
  have blank : Blanks [' '] := by decide
  have once : ([.strategy .hooks].map Update.field).Nodup := by decide
  simp only [← read_running]
  constructor
  · have name : Spelled "strat\\u0065gy".toList Field.strategy.name.toList :=
      spelled_escape (a := "strat".toList) (b := "gy".toList) (by decide) (by decide)
    refine (Reader.read_of_opening lawful_running opening once blank name _).1 (by decide) ?_
    rw [String.toList_ofList, List.append_assoc, List.append_assoc]
    exact (List.prefix_append_right_inj foreign).mpr ⟨[']'], rfl⟩
  · have name : Spelled "guard_policy".toList Field.guardPolicy.name.toList :=
      .of_plain (by decide)
    have never : Spelled "n\\u0065ver".toList "never".toList :=
      spelled_escape (a := "n".toList) (b := "ver".toList) (by decide) (by decide)
    refine (Reader.read_of_opening lawful_running opening once .nil name _).2 (by decide)
      (by decide) .nil blank never (by decide) ?_
    rw [String.toList_ofList, List.append_assoc, List.append_assoc]
    exact (List.prefix_append_right_inj foreign).mpr ⟨[], rfl⟩

end LockDiscipline.Settings
