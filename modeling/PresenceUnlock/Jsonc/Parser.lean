import Mathlib.Data.List.Forall2
import PresenceUnlock.Jsonc.Lexer

/-!
# The values of JSON with comments

Tokens are read by a pushdown machine; a comma may follow the last item of an array and the last
member of an object.  The members of an object are kept in their order, with duplicates.
-/

namespace Jsonc

/-- A value; an object has its members in order. -/
inductive Json
  | scalar (value : Scalar)
  | array (items : List Json)
  | object (members : List (List Nat × Json))

/-- A name and its value. -/
abbrev Member : Type := List Nat × Json

/-- The members of an object. -/
def Json.members : Json → List Member
  | .object members => members
  | _ => []

/-- An array or object in which a value is read. -/
inductive Frame
  | array (items : List Json)
  | object (members : List Member) (key : List Nat)

/-- What is expected next, inside of which frames. -/
inductive State
  | value (frames : List Frame)
  /-- A value, or the end of the array. -/
  | item (frames : List Frame) (items : List Json)
  | afterItem (frames : List Frame) (items : List Json)
  /-- A key, or the end of the object. -/
  | key (frames : List Frame) (members : List Member)
  | colon (frames : List Frame) (members : List Member) (key : List Nat)
  | afterMember (frames : List Frame) (members : List Member)
  | done (value : Json)

namespace State

/-- A value is complete. -/
def complete (json : Json) : List Frame → State
  | [] => done json
  | .array items :: frames => afterItem frames (items ++ [json])
  | .object members name :: frames => afterMember frames (members ++ [(name, json)])

/-- A value begins. -/
def begin (frames : List Frame) : Token → Option State
  | .scalar scalar => some (complete (.scalar scalar) frames)
  | .openBrace => some (key frames [])
  | .openBracket => some (item frames [])
  | _ => none

/-- The next token. -/
def step : State → Token → Option State
  | value frames, token => begin frames token
  | item frames items, .closeBracket => some (complete (.array items) frames)
  | item frames items, token => begin (.array items :: frames) token
  | afterItem frames items, .comma => some (item frames items)
  | afterItem frames items, .closeBracket => some (complete (.array items) frames)
  | key frames members, .scalar (.string name) => some (colon frames members name)
  | key frames members, .closeBrace => some (complete (.object members) frames)
  | colon frames members name, .colon => some (value (.object members name :: frames))
  | afterMember frames members, .comma => some (key frames members)
  | afterMember frames members, .closeBrace => some (complete (.object members) frames)
  | _, _ => none

/-- The next tokens. -/
def run (state : State) (tokens : List Token) : Option State := tokens.foldlM step state

/-- A value is expected. -/
def start : State := value []

/-- The value, once it is complete. -/
def result : State → Option Json
  | done json => some json
  | _ => none

end State

/-- The value that tokens spell. -/
def parseTokens (tokens : List Token) : Option Json := (State.start.run tokens).bind State.result

/-- The value that a text spells. -/
def parse (text : List Char) : Option Json := (lex text).bind parseTokens

variable {state state' : State} {token : Token} {tokens later : List Token} {value : Json}

namespace State

@[simp]
theorem run_nil : state.run [] = some state := rfl

@[simp]
theorem run_cons :
    state.run (token :: tokens) = (state.step token).bind fun state => state.run tokens :=
  List.foldlM_cons ..

theorem run_append :
    state.run (tokens ++ later) = (state.run tokens).bind fun state => state.run later :=
  List.foldlM_append ..

theorem run_append_eq_some :
    state.run (tokens ++ later) = some state' ↔
      ∃ middle, state.run tokens = some middle ∧ middle.run later = some state' := by
  rw [run_append, Option.bind_eq_some_iff]

theorem run_concat_eq_some :
    state.run (tokens ++ [token]) = some state' ↔
      ∃ middle, state.run tokens = some middle ∧ middle.step token = some state' := by
  simp [run_append_eq_some]

end State

theorem parseTokens_eq_some :
    parseTokens tokens = some value ↔ State.start.run tokens = some (.done value) := by
  rw [parseTokens, Option.bind_eq_some_iff]
  constructor
  · rintro ⟨state, ran, same⟩
    cases state <;> cases same
    exact ran
  · exact fun ran => ⟨_, ran, rfl⟩

namespace State

/-- A value may begin here, inside of these frames. -/
inductive Opens : State → List Frame → Prop
  | value (frames : List Frame) : Opens (.value frames) frames
  | item (frames : List Frame) (items : List Json) :
      Opens (.item frames items) (.array items :: frames)

/-- An object may end here. -/
inductive Closes : State → List Frame → List Member → Prop
  | key (frames : List Frame) (members : List Member) : Closes (.key frames members) frames members
  | afterMember (frames : List Frame) (members : List Member) :
      Closes (.afterMember frames members) frames members

/-- What one step can do. -/
inductive Steps : State → Token → State → Prop
  | scalar {state : State} {frames : List Frame} (scalar : Scalar) (opens : Opens state frames) :
      Steps state (.scalar scalar) (complete (.scalar scalar) frames)
  | openBrace {state : State} {frames : List Frame} (opens : Opens state frames) :
      Steps state .openBrace (.key frames [])
  | openBracket {state : State} {frames : List Frame} (opens : Opens state frames) :
      Steps state .openBracket (.item frames [])
  | closeItem (frames : List Frame) (items : List Json) :
      Steps (.item frames items) .closeBracket (complete (.array items) frames)
  | closeAfterItem (frames : List Frame) (items : List Json) :
      Steps (.afterItem frames items) .closeBracket (complete (.array items) frames)
  | nextItem (frames : List Frame) (items : List Json) :
      Steps (.afterItem frames items) .comma (.item frames items)
  | name (frames : List Frame) (members : List Member) (name : List Nat) :
      Steps (.key frames members) (.scalar (.string name)) (.colon frames members name)
  | colon (frames : List Frame) (members : List Member) (name : List Nat) :
      Steps (.colon frames members name) .colon (.value (.object members name :: frames))
  | closeBrace {state : State} {frames : List Frame} {members : List Member}
      (closes : Closes state frames members) :
      Steps state .closeBrace (complete (.object members) frames)
  | nextMember (frames : List Frame) (members : List Member) :
      Steps (.afterMember frames members) .comma (.key frames members)

theorem steps_of_step (stepped : state.step token = some state') : Steps state token state' := by
  have begun : ∀ {frames}, Opens state frames → begin frames token = some state' →
      Steps state token state' := by
    intro frames opens begins
    cases token with
    | scalar scalar =>
        cases Option.some.inj begins
        exact .scalar scalar opens
    | openBrace =>
        cases Option.some.inj begins
        exact .openBrace opens
    | openBracket =>
        cases Option.some.inj begins
        exact .openBracket opens
    | closeBrace | closeBracket | comma | colon => cases begins
  unfold step at stepped
  split at stepped
  · exact begun (.value _) stepped
  · cases Option.some.inj stepped
    exact .closeItem _ _
  · exact begun (.item _ _) stepped
  · cases Option.some.inj stepped
    exact .nextItem _ _
  · cases Option.some.inj stepped
    exact .closeAfterItem _ _
  · cases Option.some.inj stepped
    exact .name _ _ _
  · cases Option.some.inj stepped
    exact .closeBrace (.key _ _)
  · cases Option.some.inj stepped
    exact .colon _ _ _
  · cases Option.some.inj stepped
    exact .nextMember _ _
  · cases Option.some.inj stepped
    exact .closeBrace (.afterMember _ _)
  · cases stepped

theorem step_of_steps (steps : Steps state token state') : state.step token = some state' := by
  cases steps with
  | scalar scalar opens => cases opens <;> rfl
  | openBrace opens => cases opens <;> rfl
  | openBracket opens => cases opens <;> rfl
  | closeBrace closes => cases closes <;> rfl
  | closeItem | closeAfterItem | nextItem | name | colon | nextMember => rfl

theorem complete_eq_done {json : Json} {frames : List Frame} :
    complete json frames = done value ↔ frames = [] ∧ json = value := by
  match frames with
  | [] => simp [complete]
  | .array _ :: _ | .object _ _ :: _ => simp [complete]

theorem complete_ne_key {json : Json} {frames frames' : List Frame} {members : List Member} :
    complete json frames ≠ key frames' members := by
  match frames with
  | [] | .array _ :: _ | .object _ _ :: _ => exact State.noConfusion

/-- Only a brace completes an object. -/
theorem eq_closeBrace_of_step {members : List Member}
    (last : state.step token = some (done (.object members))) :
    token = .closeBrace ∧ Closes state [] members := by
  generalize same : done (.object members) = final at last
  cases steps_of_step last with
  | scalar scalar opens => cases (complete_eq_done.mp same.symm).2
  | closeItem frames items => cases (complete_eq_done.mp same.symm).2
  | closeAfterItem frames items => cases (complete_eq_done.mp same.symm).2
  | closeBrace closes =>
      obtain ⟨rfl, ⟨⟩⟩ := complete_eq_done.mp same.symm
      exact ⟨rfl, closes⟩
  | openBrace | openBracket | nextItem | name | colon | nextMember => cases same

/-- Where a key is expected, an object has just begun or a comma was read. -/
theorem eq_of_step_key {frames : List Frame} {members : List Member}
    (last : state.step token = some (key frames members)) :
    token = .openBrace ∨ token = .comma := by
  generalize same : key frames members = final at last
  cases steps_of_step last with
  | openBrace => exact .inl rfl
  | nextMember => exact .inr rfl
  | scalar | closeItem | closeAfterItem | closeBrace => exact (complete_ne_key same.symm).elim
  | openBracket | nextItem | name | colon => cases same

/-- After a member, neither has an object just begun nor was a comma read. -/
theorem ne_of_step_afterMember {frames : List Frame} {members : List Member}
    (last : state.step token = some (afterMember frames members)) :
    token ≠ .openBrace ∧ token ≠ .comma := by
  generalize same : afterMember frames members = final at last
  cases steps_of_step last with
  | scalar | closeItem | closeAfterItem | closeBrace => exact ⟨nofun, nofun⟩
  | openBrace | openBracket | nextItem | name | colon | nextMember => cases same

theorem not_run_done (nonempty : tokens ≠ []) : (done value).run tokens = none := by
  obtain ⟨token, tokens, rfl⟩ := List.exists_cons_of_ne_nil nonempty
  rw [run_cons]
  cases token <;> rfl

theorem step_comma_ne_done : state.step .comma ≠ some (done value) := by
  intro stepped
  generalize same : done value = final at stepped
  cases steps_of_step stepped <;> cases same

section Object

variable {members : List Member} {last : Token}

/-- An object ends in a brace, which closes it. -/
theorem exists_of_run_object (ran : start.run tokens = some (done (.object members))) :
    ∃ init state, tokens = init ++ [.closeBrace] ∧ start.run init = some state ∧
      Closes state [] members := by
  rcases List.eq_nil_or_concat tokens with rfl | ⟨init, last, rfl⟩
  · cases ran
  · rw [List.concat_eq_append] at ran ⊢
    obtain ⟨state, reached, stepped⟩ := run_concat_eq_some.mp ran
    obtain ⟨rfl, closes⟩ := eq_closeBrace_of_step stepped
    exact ⟨init, state, rfl, reached, closes⟩

theorem run_closeBrace (ran : start.run tokens = some state) (closes : Closes state [] members) :
    start.run (tokens ++ [.closeBrace]) = some (done (.object members)) :=
  run_concat_eq_some.mpr ⟨state, ran, step_of_steps (.closeBrace closes)⟩

/-- After a brace or a comma, another member may follow. -/
theorem run_eq_key_of_last (ran : start.run (tokens ++ [last]) = some state)
    (closes : Closes state [] members) (separates : last = .openBrace ∨ last = .comma) :
    state = key [] members := by
  cases closes with
  | key => rfl
  | afterMember =>
      obtain ⟨_, _, stepped⟩ := run_concat_eq_some.mp ran
      obtain ⟨no_brace, no_comma⟩ := ne_of_step_afterMember stepped
      exact (separates.elim no_brace no_comma).elim

/-- After anything else, it takes a comma. -/
theorem run_eq_afterMember_of_last (ran : start.run (tokens ++ [last]) = some state)
    (closes : Closes state [] members) (ends : last ≠ .openBrace ∧ last ≠ .comma) :
    state = afterMember [] members := by
  cases closes with
  | key =>
      obtain ⟨_, _, stepped⟩ := run_concat_eq_some.mp ran
      exact ((eq_of_step_key stepped).elim ends.1 ends.2).elim
  | afterMember => rfl

theorem run_comma (ran : start.run tokens = some (afterMember [] members)) :
    start.run (tokens ++ [.comma]) = some (key [] members) :=
  run_concat_eq_some.mpr ⟨_, ran, rfl⟩

/-- Without the comma after its last member, an object is the same. -/
theorem closes_of_run_comma (ran : start.run (tokens ++ [.comma]) = some state)
    (closes : Closes state [] members) : start.run tokens = some (afterMember [] members) := by
  have same := run_eq_key_of_last ran closes (.inr rfl)
  subst same
  obtain ⟨middle, ran, stepped⟩ := run_concat_eq_some.mp ran
  generalize same : key [] members = final at stepped
  cases steps_of_step stepped with
  | nextItem => cases same
  | nextMember =>
      cases same
      exact ran

end Object

/-- Tokens that add members to an object, whatever it is in. -/
structure Adds (tokens : List Token) (added : List Member) : Prop where
  /-- They begin with a name and a colon. -/
  begins : ∃ name rest, tokens = .scalar (.string name) :: .colon :: rest
  /-- Where a name is expected, they add the members. -/
  run : ∀ frames members,
    (key frames members).run tokens = some (afterMember frames (members ++ added))

theorem Adds.append {tokens' : List Token} {added added' : List Member} (adds : Adds tokens added)
    (adds' : Adds tokens' added') : Adds (tokens ++ .comma :: tokens') (added ++ added') where
  begins := by
    obtain ⟨name, rest, rfl⟩ := adds.begins
    exact ⟨name, rest ++ .comma :: tokens', rfl⟩
  run frames members := by
    have separated : (afterMember frames (members ++ added)).step .comma =
        some (key frames (members ++ added)) := rfl
    rw [run_append, adds.run, Option.bind_some, run_cons, separated, Option.bind_some, adds'.run,
      List.append_assoc]

/-- Frames of one kind, around as many members. -/
inductive Alike : Frame → Frame → Prop
  | array (items items' : List Json) : Alike (.array items) (.array items')
  | object {members members' : List Member} (name name' : List Nat)
      (counts : members.length = members'.length) :
      Alike (.object members name) (.object members' name')

/-- States of one kind, inside of alike frames and after as many members. -/
inductive Similar : State → State → Prop
  | value {frames frames' : List Frame} (alike : List.Forall₂ Alike frames frames') :
      Similar (.value frames) (.value frames')
  | item {frames frames' : List Frame} (items items' : List Json)
      (alike : List.Forall₂ Alike frames frames') :
      Similar (.item frames items) (.item frames' items')
  | afterItem {frames frames' : List Frame} (items items' : List Json)
      (alike : List.Forall₂ Alike frames frames') :
      Similar (.afterItem frames items) (.afterItem frames' items')
  | key {frames frames' : List Frame} {members members' : List Member}
      (alike : List.Forall₂ Alike frames frames') (counts : members.length = members'.length) :
      Similar (.key frames members) (.key frames' members')
  | colon {frames frames' : List Frame} {members members' : List Member} (name name' : List Nat)
      (alike : List.Forall₂ Alike frames frames') (counts : members.length = members'.length) :
      Similar (.colon frames members name) (.colon frames' members' name')
  | afterMember {frames frames' : List Frame} {members members' : List Member}
      (alike : List.Forall₂ Alike frames frames') (counts : members.length = members'.length) :
      Similar (.afterMember frames members) (.afterMember frames' members')
  | done {json json' : Json} (counts : json.members.length = json'.members.length) :
      Similar (.done json) (.done json')

/-- Inside of a frame, it does not matter which value is complete. -/
theorem similar_complete {frame frame' : Frame} {frames frames' : List Frame} (json json' : Json)
    (alike : Alike frame frame') (alikes : List.Forall₂ Alike frames frames') :
    Similar (complete json (frame :: frames)) (complete json' (frame' :: frames')) := by
  cases alike with
  | array items items' => exact .afterItem _ _ alikes
  | object name name' counts => exact .afterMember alikes (by simp [counts])

theorem similar_complete_of_counts {frames frames' : List Frame} {json json' : Json}
    (alike : List.Forall₂ Alike frames frames')
    (counts : json.members.length = json'.members.length) :
    Similar (complete json frames) (complete json' frames') := by
  cases alike with
  | nil => exact .done counts
  | cons alike alikes => exact similar_complete json json' alike alikes

/-- The same token leads from similar states to similar ones. -/
theorem Similar.step {other : State} (similar : Similar state other)
    (stepped : state.step token = some state') :
    ∃ other', other.step token = some other' ∧ Similar state' other' := by
  have opened : ∀ {frames}, Opens state frames →
      ∃ frames', Opens other frames' ∧ List.Forall₂ Alike frames frames' := by
    intro frames opens
    cases opens with
    | value =>
        cases similar with
        | value alike => exact ⟨_, .value _, alike⟩
    | item frames items =>
        cases similar with
        | item items items' alike => exact ⟨_, .item _ _, .cons (.array items items') alike⟩
  have closed : ∀ {frames members}, Closes state frames members → ∃ frames' members',
      Closes other frames' members' ∧ List.Forall₂ Alike frames frames' ∧
        members.length = members'.length := by
    intro frames members closes
    cases closes with
    | key =>
        cases similar with
        | key alike counts => exact ⟨_, _, .key _ _, alike, counts⟩
    | afterMember =>
        cases similar with
        | afterMember alike counts => exact ⟨_, _, .afterMember _ _, alike, counts⟩
  cases steps_of_step stepped with
  | scalar scalar opens =>
      obtain ⟨frames', opens', alike⟩ := opened opens
      exact ⟨_, step_of_steps (.scalar scalar opens'), similar_complete_of_counts alike rfl⟩
  | openBrace opens =>
      obtain ⟨frames', opens', alike⟩ := opened opens
      exact ⟨_, step_of_steps (.openBrace opens'), .key alike rfl⟩
  | openBracket opens =>
      obtain ⟨frames', opens', alike⟩ := opened opens
      exact ⟨_, step_of_steps (.openBracket opens'), .item _ _ alike⟩
  | closeItem frames items =>
      cases similar with
      | item items items' alike => exact ⟨_, rfl, similar_complete_of_counts alike rfl⟩
  | closeAfterItem frames items =>
      cases similar with
      | afterItem items items' alike => exact ⟨_, rfl, similar_complete_of_counts alike rfl⟩
  | nextItem frames items =>
      cases similar with
      | afterItem items items' alike => exact ⟨_, rfl, .item _ _ alike⟩
  | name frames members name =>
      cases similar with
      | key alike counts => exact ⟨_, rfl, .colon _ _ alike counts⟩
  | colon frames members name =>
      cases similar with
      | colon name name' alike counts => exact ⟨_, rfl, .value (.cons (.object _ _ counts) alike)⟩
  | closeBrace closes =>
      obtain ⟨frames', members', closes', alike, counts⟩ := closed closes
      exact ⟨_, step_of_steps (.closeBrace closes'), similar_complete_of_counts alike counts⟩
  | nextMember frames members =>
      cases similar with
      | afterMember alike counts => exact ⟨_, rfl, .key alike counts⟩

theorem Similar.run {other : State} (similar : Similar state other)
    (ran : state.run tokens = some state') :
    ∃ other', other.run tokens = some other' ∧ Similar state' other' := by
  induction tokens generalizing state other with
  | nil =>
      cases ran
      exact ⟨other, rfl, similar⟩
  | cons token tokens induction =>
      obtain ⟨middle, stepped, ran⟩ := Option.bind_eq_some_iff.mp (run_cons ▸ ran)
      obtain ⟨middle', stepped', similar'⟩ := similar.step stepped
      obtain ⟨other', ran', similar''⟩ := induction similar' ran
      exact ⟨other', by rw [run_cons, stepped', Option.bind_some, ran'], similar''⟩

theorem Alike.refl (frame : Frame) : Alike frame frame := by
  cases frame with
  | array items => exact .array items items
  | object members name => exact .object name name rfl

/-- A key that is followed by a colon is read where a key is expected. -/
theorem eq_key_of_run {name : List Nat}
    (ran : state.run (.scalar (.string name) :: .colon :: tokens) = some state') :
    ∃ frames members, state = key frames members := by
  obtain ⟨middle, stepped, ran⟩ := Option.bind_eq_some_iff.mp (run_cons ▸ ran)
  obtain ⟨_, stepped', _⟩ := Option.bind_eq_some_iff.mp (run_cons ▸ ran)
  cases steps_of_step stepped with
  | scalar scalar opens =>
      rename_i frames
      match frames, stepped' with
      | [], stepped' | .array _ :: _, stepped' | .object _ _ :: _, stepped' => cases stepped'
  | name frames members name => exact ⟨frames, members, rfl⟩

/-- What is read where a key is expected and also after a member begins with a brace. -/
theorem exists_of_run_key_of_run_afterMember {frames : List Frame} {members members' : List Member}
    {final final' : Json} (ran : (key frames members).run tokens = some (done final))
    (ran' : (afterMember frames members').run tokens = some (done final')) :
    ∃ rest, tokens = .closeBrace :: rest ∧
      (complete (.object members) frames).run rest = some (done final) ∧
      (complete (.object members') frames).run rest = some (done final') := by
  cases tokens with
  | nil => cases ran
  | cons token rest =>
      obtain ⟨middle, stepped, ran⟩ := Option.bind_eq_some_iff.mp (run_cons ▸ ran)
      obtain ⟨middle', stepped', ran'⟩ := Option.bind_eq_some_iff.mp (run_cons ▸ ran')
      cases steps_of_step stepped with
      | scalar scalar opens | openBrace opens | openBracket opens => cases opens
      | name frames members name => cases stepped'
      | closeBrace closes =>
          cases closes
          cases stepped'
          exact ⟨rest, rfl, ran, ran'⟩

/-- Members that are not inserted last do not count: what is read either fails, or has as many
members as without them. -/
theorem length_eq_of_inserted {inserted : List Token} {added members members' : List Member}
    (adds : Adds inserted added) (later_ne : later ≠ [.closeBrace])
    (ran : start.run (tokens ++ later) = some (done (.object members)))
    (ran' : start.run (tokens ++ (inserted ++ later)) = some (done (.object members'))) :
    members.length = members'.length := by
  obtain ⟨middle, reached, finished⟩ := run_append_eq_some.mp ran
  obtain ⟨middle', reached', finished'⟩ := run_append_eq_some.mp ran'
  cases Option.some.inj (reached.symm.trans reached')
  obtain ⟨name, rest, begins⟩ := adds.begins
  have begun := finished'
  rw [begins] at begun
  obtain ⟨frames, inside, rfl⟩ := eq_key_of_run begun
  rw [run_append, adds.run, Option.bind_some] at finished'
  obtain ⟨rest, rfl, ran, ran'⟩ := exists_of_run_key_of_run_afterMember finished finished'
  cases frames with
  | nil =>
      have more : rest ≠ [] := fun empty => later_ne (by rw [empty])
      rw [complete, not_run_done more] at ran
      cases ran
  | cons frame frames =>
      have alikes : List.Forall₂ Alike frames frames := List.forall₂_same.mpr fun f _ => .refl f
      obtain ⟨final, ran'', similar⟩ :=
        (similar_complete (.object inside) (.object (inside ++ added)) (.refl frame) alikes).run ran
      cases Option.some.inj (ran''.symm.trans ran')
      cases similar with
      | done counts => exact counts

end State

end Jsonc
