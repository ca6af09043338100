import LockDiscipline.Proofs.Json.Lexing
import LockDiscipline.Proofs.Settings.Contract

/-!
# The reader and the writer that run

`Settings.read` cuts a text into tokens and takes one after another, from state to state.  At every
place it stands in a state that holds the draft of what was set (`Place.state`), and every law is
about one or a few tokens there; so it is a lawful reader (`lawful_running`).  `Settings.render`
writes an object of all fields (`conforms_render`).
-/

namespace LockDiscipline

namespace Json

variable {c : Char} {t : Token}

/-- No blank is a mark. -/
theorem tokens_mark (mark : mark? c = some t) (rest : List Char) :
  tokens (c :: rest) = t :: tokens rest
  := by
  apply tokens_of_lexeme
  · cases blank : isBlank c with
    | false => rfl
    | true =>
      simp only [isBlank, Bool.or_eq_true, decide_eq_true_eq] at blank
      obtain ((rfl | rfl) | rfl) | rfl := blank
      all_goals cases mark
  · rw [lexeme, mark]

namespace Frame

/-- The token of the opening bracket. -/
def beginning : Frame → Token
  | list => .beginList
  | object => .beginObject

/-- The token of the closing bracket. -/
def ending : Frame → Token
  | list => .endList
  | object => .endObject

theorem mark?_opening (f : Frame) :
  mark? f.opening = some f.beginning
  := by cases f <;> rfl

theorem mark?_closing (f : Frame) :
  mark? f.closing = some f.ending
  := by cases f <;> rfl

end Frame

end Json

namespace Settings

open Json

/-! ### Drafts -/

namespace Draft

/-- The draft with a field set. -/
def put (d : Draft) : Update → Draft
  | .guardPolicy p => { d with guardPolicy := some p }
  | .strategy t => { d with strategy := some t }
  | .echo b => { d with echo := some b }

theorem has_put (d : Draft) (u : Update) (f : Field) :
  (d.put u).has f = (u.field = f || d.has f)
  := by cases u <;> cases f <;> simp [put, has, Update.field]

theorem settings_put (d : Draft) (u : Update) :
  (d.put u).settings = d.settings.update u
  := by cases u <;> rfl

/-- The draft in which some fields were set. -/
def of (us : List Update) : Draft := us.foldl put {}

theorem of_concat (us : List Update) (u : Update) :
  of (us ++ [u]) = (of us).put u
  := List.foldl_concat ..

/-- A draft knows the fields that were set. -/
theorem has_of (us : List Update) (f : Field) :
  (of us).has f = true ↔ f ∈ us.map Update.field
  := by
  induction us using List.reverseRecOn with
  | nil => cases f <;> simp [of, has]
  | append_singleton us u ih =>
    rw [of_concat, has_put, Bool.or_eq_true, ih, decide_eq_true_eq, List.map_append,
      List.mem_append, or_comm]
    simp [eq_comm]

/-- The settings of a draft are the defaults, updated. -/
theorem settings_of (us : List Update) :
  (of us).settings = us.foldl update {}
  := by
  induction us using List.reverseRecOn with
  | nil => rfl
  | append_singleton us u ih =>
    rw [of_concat, settings_put, ih, List.foldl_concat]

end Draft

/-! ### Names -/

theorem ofName?_name (f : Field) :
  Field.ofName? f.name = some f
  := by cases f <;> rfl

/-- Any other name is unknown. -/
theorem ofName?_of_unknown {s : List Char} (unknown : ∀ f : Field, s ≠ f.name.toList) :
  Field.ofName? (String.ofList s) = none
  := by
  have other (f : Field) : String.ofList s ≠ f.name := by
    intro same
    apply unknown f
    rw [← same, String.toList_ofList]
  exact ((if_neg (other .guardPolicy)).trans (if_neg (other .strategy))).trans
    (if_neg (other .echo))

/-- A field with a variant is not a boolean one. -/
theorem field_of_variant {u : Update} {s : String} (variant : u.variant? = some s) :
  u.field ≠ .echo
  := by
  cases u with
  | guardPolicy _ | strategy _ => simp [Update.field]
  | echo b => cases variant

/-- What an update sets its field to is chosen by its name. -/
theorem choose_of_variant {u : Update} {s : String} (variant : u.variant? = some s) (d : Draft) :
  choose d u.field s = .ok (d.put u)
  := by
  cases u with
  | guardPolicy p =>
    obtain rfl := Option.some.inj variant
    cases p <;> rfl
  | strategy t =>
    obtain rfl := Option.some.inj variant
    cases t <;> rfl
  | echo b => cases variant

/-- Nothing is chosen by any other name. -/
theorem choose_of_unknown {f : Field} {s : String} (unknown : s ∉ f.variants) (d : Draft) :
  choose d f s = .error (.misfit (.unknownVariant f s))
  := by
  have none : d.choose? f s = none := by
    cases f with
    | guardPolicy =>
      simp only [Field.variants, GuardPolicy.name, List.mem_cons, List.not_mem_nil, or_false,
        not_or] at unknown
      simp [Draft.choose?, GuardPolicy.ofName?, unknown]
    | strategy =>
      simp only [Field.variants, Strategy.name, List.mem_cons, List.not_mem_nil, or_false,
        not_or] at unknown
      simp [Draft.choose?, Strategy.ofName?, unknown]
    | echo => rfl
  rw [choose, none]

/-! ### Tokens -/

/-- What the reader comes to when it has taken the tokens of a text. -/
def advance (s : State) (cs : List Char) : Except Fault State := feedAll s (tokens cs)

variable {s s' : State} {cs v : List Char} {t : Token}

theorem feedAll_of_ok (feeds : s.feed t = .ok s') (ts : List Token) :
  feedAll s (t :: ts) = feedAll s' ts
  := by
  rw [feedAll, List.foldlM_cons, feeds]
  rfl

theorem feedAll_of_error {e : Fault} (fails : s.feed t = .error e) (ts : List Token) :
  feedAll s (t :: ts) = .error e
  := by
  rw [feedAll, List.foldlM_cons, fails]
  rfl

theorem takes_blanks {w : List Char} (blanks : Blanks w) (s : State) :
  Takes advance s w s
  := fun rest => by rw [advance, tokens_blanks blanks, advance]

/-- A text that is cut into one token is taken as the token is. -/
theorem takes_token (cut : ∀ rest, tokens (cs ++ rest) = t :: tokens rest)
    (feeds : s.feed t = .ok s') :
  Takes advance s cs s'
  := fun rest => by rw [advance, cut, feedAll_of_ok feeds, advance]

theorem takes_mark {c : Char} (mark : mark? c = some t) (feeds : s.feed t = .ok s') :
  Takes advance s [c] s'
  := takes_token (tokens_mark mark) feeds

/-- A text that is cut into one token is refused as the token is. -/
theorem refuses_token {e : Fault} (cut : ∀ rest, tokens (cs ++ rest) = t :: tokens rest)
    (fails : s.feed t = .error e) :
  Refuses advance s cs (.error e)
  := fun rest => by rw [advance, cut, feedAll_of_error fails]

/-! ### Values -/

variable {d : Draft} {f : Field} {u : Update} {us : List Update} {place : Within}

/-- The reader takes the first token of the value of a field, unless it closes a list. -/
def AwaitsValue (s : State) (d : Draft) (f : Field) (place : Within) : Prop :=
  ∀ t, t ≠ .endList → s.feed t = State.feedValue d f place t

theorem feedValue_text (named : f ≠ .echo) (d : Draft) (place : Within) (s : String) :
  State.feedValue d f place (.text s) = (choose d f s).map (.separator · place)
  := by
  cases f with
  | echo => exact absurd rfl named
  | guardPolicy | strategy => rfl

theorem feedValue_beginObject (named : f ≠ .echo) (d : Draft) (place : Within) :
  State.feedValue d f place .beginObject = .ok (.variantName d f place)
  := by
  cases f with
  | echo => exact absurd rfl named
  | guardPolicy | strategy => rfl

/-- A value is taken. -/
theorem takes_value (denotes : Denotes v u) (awaits : AwaitsValue s d u.field place) :
  Takes advance s v (.separator (d.put u) place)
  := by
  cases denotes with
  | name variant spelled =>
    apply takes_token (tokens_spelled spelled)
    rw [awaits _ (by simp), String.ofList_toList, feedValue_text (field_of_variant variant),
      choose_of_variant variant]
    rfl
  | @wrapped _ cs _ _ _ _ _ variant spelled inside past between behind =>
    have named := field_of_variant variant
    have bracket : Takes advance s ['\x7b'] (.variantName d u.field place) := by
      apply takes_mark rfl
      rw [awaits _ (by simp), feedValue_beginObject named]
    have name : Takes advance (.variantName d u.field place) (quoted cs)
        (.variantColon (d.put u) place) := by
      apply takes_token (tokens_spelled spelled)
      rw [String.ofList_toList, State.feed, choose_of_variant variant]
      rfl
    have colon : Takes advance (.variantColon (d.put u) place) [':']
        (.variantUnit (d.put u) place) := takes_mark rfl rfl
    have unit : Takes advance (.variantUnit (d.put u) place) ['n', 'u', 'l', 'l']
        (.variantEnd (d.put u) place) :=
      takes_token (t := .null) (fun rest => tokens_of_lexeme rfl rfl) rfl
    have closing : Takes advance (.variantEnd (d.put u) place) ['\x7d']
        (.separator (d.put u) place) := takes_mark rfl rfl
    exact ((((((bracket.append (takes_blanks inside _)).append name).append
      (takes_blanks past _)).append (colon.append (takes_blanks between _))).append unit).append
      (takes_blanks behind _)).append closing
  | yes =>
    apply takes_token fun rest => tokens_of_lexeme rfl rfl
    exact awaits (.boolean true) (by simp)
  | no =>
    apply takes_token fun rest => tokens_of_lexeme rfl rfl
    exact awaits (.boolean false) (by simp)

/-! ### Members -/

theorem feed_name (d : Draft) (first : Bool) (s : String) :
  (State.name d first).feed (.text s) = State.feedName d (.text s)
  := if_neg (by simp)

/-- The name of a field that was not set is accepted. -/
theorem feedName_of_unset (unset : d.has f = false) :
  State.feedName d (.text f.name) = .ok (.colon d (some f))
  := by
  rw [State.feedName, ofName?_name]
  exact if_neg (Bool.eq_false_iff.mp unset)

/-- The name of a field that was set is refused. -/
theorem feedName_of_set (set : d.has f = true) :
  State.feedName d (.text f.name) = .error (.misfit (.duplicateField f))
  := by
  rw [State.feedName, ofName?_name]
  exact if_pos set

/-- A name that is unknown is accepted. -/
theorem feedName_of_unknown {x : List Char} (unknown : ∀ f : Field, x ≠ f.name.toList)
    (d : Draft) :
  State.feedName d (.text (String.ofList x)) = .ok (.colon d none)
  := by rw [State.feedName, ofName?_of_unknown unknown]

/-- A name is taken if it is accepted, whether or not the object may end there. -/
theorem takes_name {n x : List Char} (spelled : Spelled n x)
    (accepts : State.feedName d (.text (String.ofList x)) = .ok s) (first : Bool) :
  Takes advance (.name d first) (quoted n) s
  := takes_token (tokens_spelled spelled) ((feed_name d first _).trans accepts)

/-- A name is refused if it is not accepted. -/
theorem refuses_name {n x : List Char} {e : Fault} (spelled : Spelled n x)
    (fails : State.feedName d (.text (String.ofList x)) = .error e) (first : Bool) :
  Refuses advance (.name d first) (quoted n) (.error e)
  := refuses_token (tokens_spelled spelled) ((feed_name d first _).trans fails)

/-- A variant that is unknown is refused. -/
theorem refuses_variant {x : String} (named : f ≠ .echo) (spelled : Spelled v x.toList)
    (unknown : x ∉ f.variants) (d : Draft) (place : Within) :
  Refuses advance (.value d f place) (quoted v) (.error (.misfit (.unknownVariant f x)))
  := by
  apply refuses_token (tokens_spelled spelled)
  rw [State.feed, String.ofList_toList, feedValue_text named, choose_of_unknown unknown]
  rfl

/-! ### Values that are ignored -/

variable {frames : List Frame} {due : Due}

/-- The state after an ignored value inside the given frames. -/
def beyond (d : Draft) : List Frame → State
  | [] => .separator d .object
  | frames => .ignored d ⟨frames, .separator⟩

theorem feed_ignored_after {k : Skim} (feeds : k.feed t = .ok (Skim.after frames)) :
  (State.ignored d k).feed t = .ok (beyond d frames)
  := by
  rw [State.feed, feeds]
  cases frames <;> rfl

theorem feed_ignored_some {k k' : Skim} (feeds : k.feed t = .ok (some k')) :
  (State.ignored d k).feed t = .ok (.ignored d k')
  := by rw [State.feed, feeds]

/-- Where a value may begin, every token that does not close a list is taken as one of a value. -/
theorem skim_feed_value (admits : Frame.list.Admits due) (frames : List Frame)
    (unclosed : t ≠ .endList) :
  Skim.feed ⟨frames, due⟩ t = Skim.value frames t
  := by
  obtain rfl | rfl := admits
  · exact if_neg unclosed
  · rfl

/-- Where a name may begin, every token that does not close an object is taken as one. -/
theorem skim_feed_name (admits : Frame.object.Admits due) (frames : List Frame)
    (unclosed : t ≠ .endObject) :
  Skim.feed ⟨frames, due⟩ t = Skim.name frames t
  := by
  obtain rfl | rfl := admits
  · exact if_neg unclosed
  · rfl

/-- A scalar is cut into one token, which is a value by itself. -/
theorem tokens_scalar (scalar : Scalar cs) {rest : List Char} (delimits : Delimits rest) :
  ∃ t, tokens (cs ++ rest) = t :: tokens rest ∧ t ≠ .endList
    ∧ ∀ frames, Skim.value frames t = .ok (Skim.after frames)
  := by
  cases scalar with
  | null => exact ⟨.null, tokens_of_lexeme rfl rfl, by simp, fun _ => rfl⟩
  | yes => exact ⟨.boolean true, tokens_of_lexeme rfl rfl, by simp, fun _ => rfl⟩
  | no => exact ⟨.boolean false, tokens_of_lexeme rfl rfl, by simp, fun _ => rfl⟩
  | number number =>
    obtain ⟨t, ⟨x, rfl⟩ | ⟨l, rfl⟩, cut⟩ := tokens_number number delimits
    · exact ⟨_, cut, by simp, fun _ => rfl⟩
    · exact ⟨_, cut, by simp, fun _ => rfl⟩
  | string string =>
    have cut := tokens_quoted string rest
    rw [textToken] at cut
    split at cut
    · exact ⟨_, cut, by simp, fun _ => rfl⟩
    · exact ⟨_, cut, by simp, fun _ => rfl⟩

/-- A scalar is passed where a value may begin. -/
theorem passes_scalar (scalar : Scalar cs) (admits : Frame.list.Admits due) (d : Draft)
    (frames : List Frame) :
  Passes advance (.ignored d ⟨frames, due⟩) cs (beyond d frames)
  := by
  intro rest delimits
  obtain ⟨t, cut, unclosed, lone⟩ := tokens_scalar scalar delimits
  rw [advance, cut]
  apply feedAll_of_ok
  apply feed_ignored_after
  rw [skim_feed_value admits frames unclosed, lone]

/-- An opening bracket is taken where a value may begin. -/
theorem takes_enter (admits : Frame.list.Admits due) (d : Draft) (frames : List Frame)
    (f : Frame) :
  Takes advance (.ignored d ⟨frames, due⟩) [f.opening] (.ignored d ⟨f :: frames, f.first⟩)
  := by
  apply takes_mark f.mark?_opening
  apply feed_ignored_some
  cases f with
  | list | object =>
    rw [skim_feed_value admits frames (by simp [Frame.beginning])]
    rfl

/-- A closing bracket is taken where its frame may end. -/
theorem takes_leave {f : Frame} (closable : due = f.first ∨ due = .separator) (d : Draft)
    (frames : List Frame) :
  Takes advance (.ignored d ⟨f :: frames, due⟩) [f.closing] (beyond d frames)
  := by
  apply takes_mark f.mark?_closing
  apply feed_ignored_after
  obtain rfl | rfl := closable
  · cases f <;> rfl
  · cases f <;> rfl

/-- A comma is taken between elements. -/
theorem takes_separator (d : Draft) (frames : List Frame) (f : Frame) :
  Takes advance (.ignored d ⟨f :: frames, .separator⟩) [','] (.ignored d ⟨f :: frames, f.next⟩)
  := by
  apply takes_mark (t := .comma) rfl
  cases f <;> rfl

/-- A name is taken where it may begin, even if it denotes nothing. -/
theorem takes_label {n : List Char} (name : Quotable n) (admits : Frame.object.Admits due)
    (d : Draft) (frames : List Frame) :
  Takes advance (.ignored d ⟨.object :: frames, due⟩) (quoted n)
    (.ignored d ⟨.object :: frames, .colon⟩)
  := by
  intro rest
  rw [advance, tokens_quoted name]
  apply feedAll_of_ok
  apply feed_ignored_some
  rw [textToken]
  split
  · rw [skim_feed_name admits _ (by simp)]
    rfl
  · rw [skim_feed_name admits _ (by simp)]
    rfl

/-! ### Places -/

/-- The state in which the reader stands at a place. -/
def Place.state : Place → State
  | .start => .start
  | .piece .object us first => .name (Draft.of us) first
  | .piece .list us first =>
    match Field.all.drop us.length with
    | [] => .separator (Draft.of us) (.list [])
    | f :: next => if first && us.isEmpty then .items else .value (Draft.of us) f (.list next)
  | .colon us f => .colon (Draft.of us) f
  | .value us f => .value (Draft.of us) f .object
  | .after .object us => .separator (Draft.of us) .object
  | .after .list us => .separator (Draft.of us) (.list (Field.all.drop us.length))
  | .ignored us frames due => .ignored (Draft.of us) ⟨frames, due⟩
  | .done s => .closed s

theorem state_beyond (us : List Update) (frames : List Frame) :
  (Place.beyond us frames).state = beyond (Draft.of us) frames
  := by cases frames <;> rfl

/-- The fields that are due after those that were set in order. -/
theorem drop_of_due {next : List Field} (due : us.map Update.field ++ next = Field.all) :
  Field.all.drop us.length = next
  := by rw [← due, ← List.length_map (f := Update.field), List.drop_left]

/-- Between the values of a list the next one is awaited. -/
theorem awaits_state_piece {next : List Field}
    (due : us.map Update.field ++ f :: next = Field.all) (first : Bool) :
  AwaitsValue (Place.piece .list us first).state (Draft.of us) f (.list next)
  := by
  intro t unclosed
  rw [Place.state, drop_of_due due]
  cases begins : first && us.isEmpty with
  | false => rfl
  | true =>
    obtain ⟨rfl, empty⟩ := (Bool.and_eq_true _ _).mp begins
    obtain rfl := List.isEmpty_iff.mp empty
    obtain ⟨rfl, rfl⟩ := List.cons.inj due
    exact if_neg unclosed

/-- The reader that runs, at every place. -/
def running : Reader := fun p cs => advance p.state cs >>= State.finish

theorem read_running (text : String) :
  running.read text = read text
  := rfl

section

variable {p p' : Place}

theorem takes_running (h : Takes advance p.state cs p'.state) :
  Takes running p cs p'
  := fun rest => congrArg (· >>= State.finish) (h rest)

theorem passes_running (h : Passes advance p.state cs p'.state) :
  Passes running p cs p'
  := fun rest delimits => congrArg (· >>= State.finish) (h rest delimits)

theorem refuses_running {e : Fault} (h : Refuses advance p.state cs (.error e)) :
  Refuses running p cs (.error e)
  := fun rest => congrArg (· >>= State.finish) (h rest)

end

/-- A field that was not set is not in the draft. -/
theorem has_of_eq_false (unset : f ∉ us.map Update.field) :
  (Draft.of us).has f = false
  := by
  rw [Bool.eq_false_iff, ne_eq, Draft.has_of]
  exact unset

/-- A value in a list is taken if it is that of the field that is due. -/
theorem takes_state_item {next : List Field}
    (due : us.map Update.field ++ u.field :: next = Field.all) (denotes : Denotes v u)
    (first : Bool) :
  Takes advance (Place.piece .list us first).state v (Place.after .list (us ++ [u])).state
  := by
  have later : (us ++ [u]).map Update.field ++ next = Field.all := by simpa using due
  have taken := takes_value denotes (awaits_state_piece due first)
  rwa [← Draft.of_concat, ← drop_of_due later] at taken

/-- A comma in a list is taken if another field is due. -/
theorem feed_comma_list {next : List Field}
    (due : us.map Update.field ++ f :: next = Field.all) :
  (Place.after .list us).state.feed .comma = .ok (Place.piece .list us false).state
  := by
  rw [Place.state, Place.state, drop_of_due due]
  rfl

/-- A closing bracket completes the settings of the draft. -/
theorem feed_ending (f : Frame) (us : List Update) :
  (Place.after f us).state.feed f.ending = .ok (.closed (us.foldl update {}))
  := by
  have list (next : List Field) : (State.separator (Draft.of us) (.list next)).feed .endList
      = .ok (.closed (Draft.of us).settings) := by cases next <;> rfl
  rw [← Draft.settings_of]
  cases f with
  | object => rfl
  | list => exact list _

/-- The reader that runs is lawful. -/
theorem lawful_running :
  running.Lawful
  := by
  constructor
  case blanks => exact fun blanks p => takes_running (takes_blanks blanks p.state)
  case bracket =>
    exact fun f => takes_running (takes_mark f.mark?_opening (by cases f <;> rfl))
  case name =>
    intro n f us spelled unset first
    apply takes_running
    apply takes_name spelled
    rw [String.ofList_toList, feedName_of_unset (has_of_eq_false unset)]
    rfl
  case again =>
    intro n f us spelled set first
    apply refuses_running
    apply refuses_name spelled
    rw [String.ofList_toList, feedName_of_set ((Draft.has_of us f).mpr set)]
  case stranger =>
    exact fun spelled unknown us first =>
      takes_running (takes_name spelled (feedName_of_unknown unknown _) first)
  case colon => exact fun us f => takes_running (takes_mark (t := .colon) rfl rfl)
  case value =>
    intro v u denotes us
    apply takes_running
    rw [Place.state, Place.state, Draft.of_concat]
    exact takes_value denotes fun _ _ => rfl
  case variant =>
    exact fun named spelled unknown us =>
      refuses_running (refuses_variant named spelled unknown _ .object)
  case item => exact fun due denotes first => takes_running (takes_state_item due denotes first)
  case comma => exact fun us => takes_running (takes_mark (t := .comma) rfl rfl)
  case commaItem => exact fun due => takes_running (takes_mark rfl (feed_comma_list due))
  case empty =>
    exact fun f => takes_running (takes_mark f.mark?_closing (by cases f <;> rfl))
  case closing => exact fun f us => takes_running (takes_mark f.mark?_closing (feed_ending f us))
  case finish =>
    intro s
    rw [running, advance, tokens]
    rfl
  case ignore => exact fun us => takes_running (takes_mark (t := .colon) rfl rfl)
  case scalar =>
    intro cs due scalar admits us frames
    apply passes_running
    rw [state_beyond]
    exact passes_scalar scalar admits _ frames
  case enter => exact fun admits us frames f => takes_running (takes_enter admits _ frames f)
  case leave =>
    intro f due closable us frames
    apply takes_running
    rw [state_beyond]
    exact takes_leave closable _ frames
  case separator => exact fun us frames f => takes_running (takes_separator _ frames f)
  case label =>
    exact fun name admits us frames => takes_running (takes_label name admits _ frames)
  case labelColon => exact fun us frames => takes_running (takes_mark (t := .colon) rfl rfl)

/-! ### Written settings -/

/-- What is written for the value that an update sets. -/
def Update.text : Update → List Char
  | .guardPolicy p => quoted p.name.toList
  | .strategy t => quoted t.name.toList
  | .echo true => ['t', 'r', 'u', 'e']
  | .echo false => ['f', 'a', 'l', 's', 'e']

theorem Update.denotes_text (u : Update) :
  Denotes u.text u
  := by
  cases u with
  | guardPolicy p =>
    refine .name rfl (.of_plain ?_)
    cases p <;> decide
  | strategy t =>
    refine .name rfl (.of_plain ?_)
    cases t <;> decide
  | echo b => cases b with
    | true => exact .yes
    | false => exact .no

/-- A member that is written is a piece. -/
theorem piece_written (u : Update) :
  Piece .object (quoted u.field.name.toList ++ ':' :: u.text) (some u)
  := by
  have plain : u.field.name.toList.all (Plain ·) = true := by
    cases u.field with
    | guardPolicy | strategy | echo => decide
  have piece := Piece.field .nil (.of_plain plain) .nil .nil u.denotes_text .nil
  simpa using piece

/-- The characters of written settings. -/
theorem toList_render (s : Settings) :
  s.render.toList
    = "\x7b\"guard_policy\":\"".toList ++ (s.guardPolicy.name.toList
      ++ ("\",\"strategy\":\"".toList ++ (s.strategy.name.toList
      ++ ("\",\"echo_to_stdout\":".toList
      ++ ((if s.echo then "true" else "false").toList ++ "\x7d".toList)))))
  := by
  have parts (a b c d e f g : String) :
      (a ++ b ++ c ++ d ++ e ++ f ++ g).toList = a.toList ++ (b.toList ++ (c.toList
        ++ (d.toList ++ (e.toList ++ (f.toList ++ g.toList))))) := by
    simp only [String.toList_append, List.append_assoc]
  exact parts ..

/-- Settings are written as an object that sets them. -/
theorem conforms_render :
  Conforms render
  := by
  intro s
  have opening := ((Opening.bracket (f := .object) .nil).piece
    (piece_written (.guardPolicy s.guardPolicy))).piece (piece_written (.strategy s.strategy))
  have document := Document.full opening (piece_written (.echo s.echo)) .nil
  convert document using 1
  -- The parts are compared one by one: evaluating the whole text would take much longer.
  · rw [toList_render]
    obtain ⟨p, t, b⟩ := s
    cases p <;> cases t <;> cases b <;> rfl
  · rfl

end Settings

end LockDiscipline
