import Mathlib.Logic.Basic

/-!
# Programs that change a world and may fail

A program keeps what it did to the world even when it fails.  A triple says what a program leaves
behind in either case; its rules follow the way programs are put together.
-/

namespace Effects

/-- A program over a world, with failures that do not undo anything. -/
def Program (World Failure Result : Type) : Type := World → Except Failure Result × World

variable {World Failure Result Next : Type}

namespace Program

/-- Succeed. -/
def result (value : Result) : Program World Failure Result := fun world => (.ok value, world)

/-- Go on with the result of a program, unless it fails. -/
def andThen (program : Program World Failure Result) (next : Result → Program World Failure Next) :
    Program World Failure Next := fun world =>
  match program world with
  | (.ok value, world) => next value world
  | (.error failure, world) => (.error failure, world)

instance : Monad (Program World Failure) where
  pure := result
  bind := andThen

/-- Fail. -/
def fail (failure : Failure) : Program World Failure Result := fun world => (.error failure, world)

/-- Look at the world. -/
def read : Program World Failure World := fun world => (.ok world, world)

/-- Change it. -/
def change (effect : World → World) : Program World Failure Unit := fun world =>
  (.ok (), effect world)

/-- Go on with the outcome of a program, whether it failed or not. -/
def catching (program : Program World Failure Result) :
    Program World Failure (Except Failure Result) := fun world =>
  (.ok (program world).1, (program world).2)

/-- A program on a part of a world, whose failures are failures of the whole. -/
def within {Whole Failed : Type} (get : Whole → World) (set : Whole → World → Whole)
    (inject : Failure → Failed) (program : Program World Failure Result) :
    Program Whole Failed Result := fun whole =>
  ((program (get whole)).1.mapError inject, set whole (program (get whole)).2)

/-- One turn for each item, in order. -/
def each {Item : Type} (turn : Item → Program World Failure Unit) :
    List Item → Program World Failure Unit
  | [] => pure ()
  | item :: items => do
      turn item
      each turn items

variable {program : Program World Failure Result} {next : Result → Program World Failure Next}
  {world world' : World}

theorem bind_of_ok {result : Result} (ran : program world = (.ok result, world')) :
    (program >>= next) world = next result world' := by
  change program.andThen next world = _
  rw [andThen, ran]

end Program

/-- From a world with `before`, success leaves a world with `after`, and failure one with
`failed`. -/
def Leaves (program : Program World Failure Result) (before : World → Prop)
    (after : Result → World → Prop) (failed : Failure → World → Prop) : Prop :=
  ∀ world, before world →
    match program world with
    | (.ok result, world) => after result world
    | (.error failure, world) => failed failure world

variable {program : Program World Failure Result} {next : Result → Program World Failure Next}
  {before : World → Prop} {after : Result → World → Prop} {after' : Next → World → Prop}
  {failed : Failure → World → Prop}

theorem leaves_pure {result : Result} (holds : ∀ world, before world → after result world) :
    Leaves (pure result : Program World Failure Result) before after failed := holds

theorem leaves_fail {failure : Failure} (holds : ∀ world, before world → failed failure world) :
    Leaves (Program.fail failure : Program World Failure Result) before after failed := holds

theorem leaves_change {effect : World → World} {after : Unit → World → Prop}
    (holds : ∀ world, before world → after () (effect world)) :
    Leaves (Program.change effect : Program World Failure Unit) before after failed := holds

/-- What a program reads is the world it starts in. -/
theorem leaves_read : Leaves (Program.read : Program World Failure World) before
    (fun read world => read = world ∧ before world) failed :=
  fun _ holds => ⟨rfl, holds⟩

theorem Leaves.bind (first : Leaves program before after failed)
    (rest : ∀ result, Leaves (next result) (after result) after' failed) :
    Leaves (program >>= next) before after' failed := by
  intro world holds
  have middle := first world holds
  change match program.andThen next world with
    | (.ok result, world) => after' result world
    | (.error failure, world) => failed failure world
  rw [Program.andThen]
  match program world, middle with
  | (.ok result, world'), middle => exact rest result world' middle
  | (.error _, _), middle => exact middle

theorem Leaves.weaken {before' : World → Prop} {after'' : Result → World → Prop}
    {failed' : Failure → World → Prop} (leaves : Leaves program before after failed)
    (starts : ∀ world, before' world → before world)
    (ends : ∀ result world, after result world → after'' result world)
    (fails : ∀ failure world, failed failure world → failed' failure world) :
    Leaves program before' after'' failed' := by
  intro world holds
  have left := leaves world (starts world holds)
  match program world, left with
  | (.ok result, _), left => exact ends result _ left
  | (.error failure, _), left => exact fails failure _ left

/-- A fact that does not depend on the world may be used to see what a program leaves. -/
theorem leaves_given {fact : Prop} (leaves : fact → Leaves program before after failed) :
    Leaves program (fun world => fact ∧ before world) after failed :=
  fun world holds => leaves holds.1 world holds.2

/-- What holds of a caught program, by how it ended. -/
def Outcome (after : Result → World → Prop) (failed : Failure → World → Prop) :
    Except Failure Result → World → Prop
  | .ok result => after result
  | .error failure => failed failure

/-- A caught program does not fail; its outcome tells which world it left. -/
theorem Leaves.catching {outcome : Except Failure Result → World → Prop}
    {failed' : Failure → World → Prop} (leaves : Leaves program before after failed)
    (ok : ∀ result world, after result world → outcome (.ok result) world)
    (error : ∀ failure world, failed failure world → outcome (.error failure) world) :
    Leaves program.catching before outcome failed' := by
  intro world holds
  have left := leaves world holds
  change outcome (program world).1 (program world).2
  match program world, left with
  | (.ok result, _), left => exact ok result _ left
  | (.error failure, _), left => exact error failure _ left

theorem Leaves.caught {failed' : Failure → World → Prop}
    (leaves : Leaves program before after failed) :
    Leaves program.catching before (Outcome after failed) failed' :=
  leaves.catching (fun _ _ holds => holds) fun _ _ holds => holds

/-- How a program ends tells which world it leaves. -/
theorem Leaves.ends {world : World} (leaves : Leaves program before after failed)
    (holds : before world) : Outcome after failed (program world).1 (program world).2 :=
  (leaves.caught : Leaves program.catching before (Outcome after failed) failed) world holds

/-- A program that does not fail leaves what its success leaves. -/
theorem Leaves.of_ok {failed' : Failure → World → Prop}
    (leaves : Leaves program before after failed)
    (succeeds : Leaves program before (fun _ _ => True) fun _ _ => False) :
    Leaves program before after failed' := by
  intro world holds
  have left := leaves world holds
  have ran := succeeds world holds
  match program world, left, ran with
  | (.ok _, _), left, _ => exact left

/-- What every turn of a loop keeps, the loop keeps. -/
theorem leaves_each {Item : Type} {turn : Item → Program World Failure Unit} {items : List Item}
    (keeps : ∀ item ∈ items, Leaves (turn item) before (fun _ => before) failed) :
    Leaves (Program.each turn items) before (fun _ => before) failed := by
  induction items with
  | nil => exact leaves_pure fun _ holds => holds
  | cons item items induction =>
      apply (keeps item List.mem_cons_self).bind
      intro _
      exact induction fun later member => keeps later (List.mem_cons_of_mem item member)

/-- A program on a part of a world leaves the part as the program does, and the rest alone. -/
theorem Leaves.within {Whole Failed : Type} {get : Whole → World} {set : Whole → World → Whole}
    {inject : Failure → Failed} (frame : Whole → Prop)
    (gets : ∀ whole part, get (set whole part) = part)
    (framed : ∀ whole part, frame whole → frame (set whole part))
    (leaves : Leaves program before after failed) :
    Leaves (program.within get set inject) (fun whole => before (get whole) ∧ frame whole)
      (fun result whole => after result (get whole) ∧ frame whole)
      fun failure whole =>
        (∃ inner, failure = inject inner ∧ failed inner (get whole)) ∧ frame whole := by
  rintro whole ⟨holds, kept⟩
  have left := leaves (get whole) holds
  rw [Program.within]
  match program (get whole), left with
  | (.ok result, part), left => exact ⟨(gets whole part).symm ▸ left, framed whole part kept⟩
  | (.error failure, part), left =>
      exact ⟨⟨failure, rfl, (gets whole part).symm ▸ left⟩, framed whole part kept⟩

/-- Success and failure alike keep an invariant. -/
def Keeps (invariant : World → Prop) (program : Program World Failure Result) : Prop :=
  Leaves program invariant (fun _ => invariant) fun _ => invariant

variable {invariant : World → Prop}

theorem keeps_pure {result : Result} :
    Keeps invariant (pure result : Program World Failure Result) :=
  leaves_pure fun _ holds => holds

theorem keeps_fail {failure : Failure} :
    Keeps invariant (Program.fail failure : Program World Failure Result) :=
  leaves_fail fun _ holds => holds

theorem Keeps.bind (first : Keeps invariant program)
    (rest : ∀ result, Keeps invariant (next result)) : Keeps invariant (program >>= next) :=
  Leaves.bind first rest

theorem Keeps.catching (keeps : Keeps invariant program) : Keeps invariant program.catching :=
  Leaves.catching keeps (fun _ _ holds => holds) fun _ _ holds => holds

end Effects
