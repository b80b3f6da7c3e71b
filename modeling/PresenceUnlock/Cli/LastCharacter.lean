import PresenceUnlock.Cli.Menu

/-!
# The last meaningful character

Setup puts a comma behind the last meaningful character before the closing brace, and a removal
takes out the comma that it finds there.
-/

namespace PresenceUnlock.Cli.Menu

open RustStd

section Scan

variable {mode : ScanMode} {text more front gap rest : Text} {c : Char} {next : Option Char}
  {position : Nat}

theorem scan_cons_eq_none : scan mode position none (c :: rest) = none ↔
    mode.notes c rest.head? = false ∧
      scan (mode.step c rest.head?) (position + 1) none rest = none := by
  rw [scan, scan_eq_or]
  cases noted : mode.notes c rest.head? <;> simp

/-- The scan takes note of nothing. -/
def Quiet (mode : ScanMode) : Text → Prop
  | [] => True
  | c :: rest => mode.notes c rest.head? = false ∧ Quiet (mode.step c rest.head?) rest

theorem scan_eq_none_iff : scan mode position none text = none ↔ Quiet mode text := by
  induction text generalizing mode position with
  | nil => simp [scan, Quiet]
  | cons c rest induction => rw [scan_cons_eq_none, induction, Quiet]

theorem after_append : mode.after next (text ++ more) =
    (mode.after (more.head?.or next) text).after next more := by
  induction text generalizing mode with
  | nil => rfl
  | cons c text induction =>
      rw [List.cons_append, ScanMode.after, ScanMode.after, induction, List.head?_append,
        Option.or_assoc]

/-- A character that is noted ends something, or begins a string. -/
theorem step_of_notes (noted : mode.notes c next = true) :
    mode.step c next = .code ∨ mode = .code ∧ c = '"' := by
  cases mode with
  | code =>
      rw [ScanMode.notes] at noted
      rw [ScanMode.step]
      split_ifs at noted ⊢ with quote
      · exact .inr ⟨rfl, quote⟩
      · exact .inl rfl
  | string escaped =>
      simp only [ScanMode.notes, Bool.and_eq_true, Bool.not_eq_true', decide_eq_true_eq] at noted
      obtain ⟨⟨rfl, _⟩, rfl⟩ := noted
      exact .inl rfl
  | lineComment | blockComment => cases noted

/-- In a string without an end, everything goes without notice. -/
theorem Quiet.after_string {escaped : Bool} (quiet : Quiet (.string escaped) (text ++ more)) :
    ∃ escaped', (ScanMode.string escaped).after next text = .string escaped' := by
  induction text generalizing escaped with
  | nil => exact ⟨escaped, rfl⟩
  | cons c rest induction =>
      obtain ⟨unnoted, quiet⟩ := quiet
      have stays :
          ∃ escaped', ∀ next, (ScanMode.string escaped).step c next = .string escaped' := by
        cases escaped with
        | true => exact ⟨false, fun _ => rfl⟩
        | false =>
            by_cases backslash : c = '\\'
            · subst backslash
              exact ⟨true, fun _ => rfl⟩
            · have unquoted : c ≠ '"' := by
                rintro rfl
                cases unnoted
              exact ⟨false, by simp [ScanMode.step, backslash, unquoted]⟩
      obtain ⟨escaped', goes_on⟩ := stays
      rw [goes_on] at quiet
      rw [ScanMode.after, goes_on]
      exact induction quiet

/-- A string does not begin without notice. -/
theorem Quiet.after_ne_string (outside : ∀ escaped, mode ≠ .string escaped)
    (quiet : Quiet mode text) (escaped : Bool) : mode.after none text ≠ .string escaped := by
  induction text generalizing mode with
  | nil => exact outside escaped
  | cons c rest induction =>
      obtain ⟨unnoted, quiet⟩ := quiet
      rw [ScanMode.after, Option.or_none]
      refine induction (fun escaped => ?_) quiet
      cases mode with
      | code =>
          have unquoted : c ≠ '"' := by
            rintro rfl
            cases unnoted
          rw [ScanMode.step, if_neg unquoted]
          split_ifs <;> exact nofun
      | string escaped => exact (outside escaped rfl).elim
      | lineComment | blockComment =>
          rw [ScanMode.step]
          split_ifs <;> exact nofun

end Scan

/-- The last meaningful character stands between these texts. -/
def Ends (front : Text) (c : Char) (gap : Text) : Prop :=
  (ScanMode.code.after (some c) front).notes c gap.head? = true ∧
    Quiet ((ScanMode.code.after (some c) front).step c gap.head?) gap

section Ends

variable {head front gap : Text} {c : Char}

theorem scan_of_notes {mode : ScanMode} {position : Nat}
    (noted : (mode.after (some c) front).notes c gap.head? = true)
    (quiet : Quiet ((mode.after (some c) front).step c gap.head?) gap) :
    scan mode position none (front ++ c :: gap) = some (position + front.length, c) := by
  induction front generalizing mode position with
  | nil =>
      rw [ScanMode.after] at noted quiet
      rw [List.nil_append, scan, if_pos noted, scan_eq_or, scan_eq_none_iff.mpr quiet]
      rfl
  | cons first front induction =>
      have next : (front ++ c :: gap).head? = front.head?.or (some c) := by
        cases front <;> rfl
      rw [ScanMode.after] at noted quiet
      rw [List.cons_append, scan, scan_eq_or, next, induction noted quiet, Option.some_or,
        List.length_cons]
      congr 2
      omega

theorem exists_ends {position : Nat} (found : lastMeaningful head = some (position, c)) :
    ∃ front gap, head = front ++ c :: gap ∧ position = front.length ∧ Ends front c gap := by
  obtain ⟨front, gap, rfl, rfl, noted, quiet⟩ := exists_split_of_scan found
  exact ⟨front, gap, rfl, Nat.zero_add _, noted, scan_eq_none_iff.mp quiet⟩

theorem lastMeaningful_eq_iff :
    lastMeaningful (front ++ c :: gap) = some (front.length, c) ↔ Ends front c gap := by
  constructor
  · intro found
    obtain ⟨front', gap', split, lengths, ends⟩ := exists_ends found
    obtain ⟨rfl, behind⟩ := List.append_inj split lengths
    cases behind
    exact ends
  · rintro ⟨noted, quiet⟩
    rw [lastMeaningful, scan_of_notes noted quiet, Nat.zero_add]

theorem lastMeaningful_cases (head : Text) :
    lastMeaningful head = none ∨ ∃ front c gap, head = front ++ c :: gap ∧ Ends front c gap := by
  cases found : lastMeaningful head with
  | none => exact .inl rfl
  | some last =>
      obtain ⟨front, gap, split, _, ends⟩ := exists_ends found
      exact .inr ⟨front, last.2, gap, split, ends⟩

/-- The scan ends in a string if the last meaningful character begins one. -/
theorem Ends.after_string_iff (ends : Ends front c gap) :
    (∃ escaped, ScanMode.code.after none (front ++ c :: gap) = .string escaped) ↔
      ScanMode.code.after (some c) front = .code ∧ c = '"' := by
  obtain ⟨noted, quiet⟩ := ends
  have run : ScanMode.code.after none (front ++ c :: gap) =
      ((ScanMode.code.after (some c) front).step c gap.head?).after none gap := by
    rw [after_append, ScanMode.after, Option.or_none, Option.or_none, List.head?_cons]
  rw [run]
  constructor
  · rintro ⟨escaped, inside⟩
    refine (step_of_notes noted).resolve_left fun closed => ?_
    rw [closed] at quiet inside
    have outside : ∀ escaped, ScanMode.code ≠ .string escaped := nofun
    exact quiet.after_ne_string outside escaped inside
  · rintro ⟨code, rfl⟩
    rw [code] at quiet ⊢
    rw [← List.append_nil gap] at quiet
    exact quiet.after_string

end Ends

/-- What separates an entry that ends with this character from one to come. -/
def commaAfter (c : Char) : Text := if c ≠ '\x7b' ∧ c ≠ ',' then [','] else []

/-- The text before the closing brace, with a comma that separates its last entry. -/
def separated (head : Text) : Text :=
  match lastMeaningful head with
  | some (position, c) =>
      if c ≠ '\x7b' ∧ c ≠ ',' then head.insertStr (position + 1) [','] else head
  | none => head

/-- The text before the closing brace, without the comma after its last entry. -/
def unseparated (head : Text) : Text :=
  match lastMeaningful head with
  | some (position, ',') => head.eraseIdx position
  | _ => head

section Comma

variable {head front gap before after : Text} {c : Char}

theorem commaAfter_cases (c : Char) : commaAfter c = [] ∨ commaAfter c = [','] := by
  rw [commaAfter]
  split
  · exact .inr rfl
  · exact .inl rfl

theorem newline_notMem_commaAfter (c : Char) : '\n' ∉ commaAfter c := by
  rcases commaAfter_cases c with same | same <;> simp [same]

theorem Ends.separated_eq (ends : Ends front c gap) :
    separated (front ++ c :: gap) = front ++ c :: (commaAfter c ++ gap) := by
  rw [separated, lastMeaningful_eq_iff.mpr ends, commaAfter]
  dsimp only
  split
  · have whole : front ++ c :: gap = (front ++ [c]) ++ gap := by simp
    have position : front.length + 1 = (front ++ [c]).length := by simp
    rw [Text.insertStr, whole, position, List.take_left, List.drop_left]
    simp
  · rfl

theorem Ends.unseparated_comma (ends : Ends front ',' gap) :
    unseparated (front ++ ',' :: gap) = front ++ gap := by
  rw [unseparated, lastMeaningful_eq_iff.mpr ends]
  change (front ++ ',' :: gap).eraseIdx front.length = _
  rw [List.eraseIdx_append_of_length_le le_rfl, Nat.sub_self]
  rfl

theorem Ends.unseparated_of_ne (ends : Ends front c gap) (other : c ≠ ',') :
    unseparated (front ++ c :: gap) = front ++ c :: gap := by
  rw [unseparated, lastMeaningful_eq_iff.mpr ends]
  split
  · rename_i same
    cases same
    exact (other rfl).elim
  · rfl

theorem separate_append (head after : Text) :
    separate (head ++ '\x7d' :: after) head.length = separated head ++ '\x7d' :: after := by
  rw [separate, List.take_left]
  rcases lastMeaningful_cases head with none | ⟨front, c, gap, rfl, ends⟩
  · rw [separated, none]
  · rw [ends.separated_eq, lastMeaningful_eq_iff.mpr ends, commaAfter]
    dsimp only
    split
    · have whole :
          front ++ c :: gap ++ '\x7d' :: after = (front ++ [c]) ++ (gap ++ '\x7d' :: after) := by
        simp
      have position : front.length + 1 = (front ++ [c]).length := by simp
      rw [Text.insertStr, whole, position, List.take_left, List.drop_left]
      simp
    · rfl

theorem dropTrailingComma_append (head : Text) (absent : '\x7d' ∉ after) :
    dropTrailingComma (head ++ '\x7d' :: after) = unseparated head ++ '\x7d' :: after := by
  rw [dropTrailingComma, Text.rfind_append_cons _ absent]
  dsimp only
  rw [List.take_left]
  rcases lastMeaningful_cases head with none | ⟨front, c, gap, rfl, ends⟩
  · rw [unseparated, none]
  · by_cases comma : c = ','
    · subst comma
      rw [ends.unseparated_comma, lastMeaningful_eq_iff.mpr ends, List.append_assoc,
        List.append_assoc]
      change (front ++ ',' :: (gap ++ '\x7d' :: after)).eraseIdx front.length = _
      rw [List.eraseIdx_append_of_length_le le_rfl, Nat.sub_self]
      rfl
    · rw [ends.unseparated_of_ne comma, lastMeaningful_eq_iff.mpr ends]
      split
      · rename_i same
        cases same
        exact (comma rfl).elim
      · rfl

/-- A comma behind the last meaningful character is found, unless that character begins a string. -/
theorem Ends.comma (ends : Ends front c gap)
    (closed : ¬ (ScanMode.code.after (some c) front = .code ∧ c = '"')) :
    Ends (front ++ [c]) ',' gap := by
  obtain ⟨noted, quiet⟩ := ends
  have code : (ScanMode.code.after (some c) front).step c (some ',') = .code := by
    generalize ScanMode.code.after (some c) front = mode at noted closed
    cases mode with
    | code =>
        have unquoted : c ≠ '"' := fun quote => closed ⟨rfl, quote⟩
        simp [ScanMode.step, unquoted]
    | string escaped =>
        simp only [ScanMode.notes, Bool.and_eq_true, Bool.not_eq_true', decide_eq_true_eq] at noted
        obtain ⟨⟨rfl, _⟩, rfl⟩ := noted
        rfl
    | lineComment | blockComment => cases noted
  have run : ScanMode.code.after (some ',') (front ++ [c]) = .code := by
    rw [after_append, ScanMode.after, List.head?_cons, Option.some_or]
    exact code
  rw [(step_of_notes noted).resolve_right closed] at quiet
  rw [Ends, run]
  exact ⟨rfl, quiet⟩

/-- A comma in a string goes without notice. -/
theorem Ends.comma_of_opens (ends : Ends front '"' gap)
    (code : ScanMode.code.after (some '"') front = .code) : Ends front '"' (',' :: gap) := by
  obtain ⟨noted, quiet⟩ := ends
  rw [Ends, code] at *
  exact ⟨rfl, rfl, quiet⟩

/-- The comma after the last entry stands where setup would put one. -/
def Tight (front gap : Text) : Prop :=
  ∃ before c, front = before ++ [c] ∧ lastMeaningful (front ++ gap) = some (before.length, c) ∧
    c ≠ '\x7b' ∧ c ≠ ','

/-- The comma that is put back comes to stand right behind the last meaningful character. -/
theorem eq_concat_of_comma {back : Text} (ends : Ends front ',' gap) (ends' : Ends before c back)
    (other : c ≠ ',') (same : before ++ c :: back = front ++ gap)
    (same' : before ++ c :: ',' :: back = front ++ ',' :: gap) : front = before ++ [c] := by
  have cut : (before ++ [c]) ++ back = front ++ gap := by simpa using same
  have cut' : (before ++ [c]) ++ ',' :: back = front ++ ',' :: gap := by simpa using same'
  rcases List.append_eq_append_iff.mp cut with ⟨more, rfl, rfl⟩ | ⟨more, split, rfl⟩
  · cases more with
    | nil => simp
    | cons first more =>
        exfalso
        rw [List.append_assoc (before ++ [c]), List.append_cancel_left_eq] at cut'
        obtain ⟨rfl, _⟩ := List.cons.inj cut'
        obtain ⟨noted, quiet⟩ := ends'
        -- only in a string does the comma behind `c` go without notice, and then all that follows
        rcases step_of_notes noted with code | ⟨code, rfl⟩
        · rw [code] at quiet
          cases quiet.1
        · rw [code] at quiet
          have opened : Quiet (.string false) ((',' :: more) ++ gap) := quiet
          obtain ⟨escaped, inside⟩ :
              ∃ escaped, (ScanMode.string false).after (some ',') (',' :: more) =
                .string escaped := opened.after_string
          have whole : before ++ ['"'] ++ ',' :: more = before ++ '"' :: ',' :: more := by simp
          have run : ScanMode.code.after (some ',') (before ++ ['"'] ++ ',' :: more) =
              .string escaped := by
            rw [whole, after_append, List.head?_cons, Option.some_or, code]
            exact inside
          obtain ⟨noted', _⟩ := ends
          rw [run] at noted'
          simp [ScanMode.notes] at noted'
  · rw [split, List.append_assoc, List.append_cancel_left_eq] at cut'
    rcases List.eq_nil_or_concat more with rfl | ⟨more, last, rfl⟩
    · simpa using split.symm
    · exfalso
      rw [List.concat_eq_append] at split cut'
      have joined : ((more ++ [last]) ++ [',']) ++ back = ((',' :: more) ++ [last]) ++ back := by
        simpa using cut'
      have shifted := List.append_cancel_right joined
      rw [← List.append_assoc] at split
      have last_eq := List.singleton_inj.mp (List.append_inj' split rfl).2
      have comma := List.singleton_inj.mp (List.append_inj' shifted rfl).2
      exact other (last_eq.trans comma.symm)

/-- Put back, the comma comes to stand where it stood exactly if it is tight. -/
theorem separated_eq_iff_tight (ends : Ends front ',' gap) :
    separated (front ++ gap) = front ++ ',' :: gap ↔ Tight front gap := by
  constructor
  · intro same
    rcases lastMeaningful_cases (front ++ gap) with none | ⟨before, c, back, split, ends'⟩
    · rw [separated, none] at same
      have lengths := congrArg List.length same
      simp at lengths
    · rw [split, ends'.separated_eq, commaAfter] at same
      split at same
      · rename_i other
        refine ⟨before, c, eq_concat_of_comma ends ends' other.2 split.symm same, ?_, other⟩
        rw [split, lastMeaningful_eq_iff]
        exact ends'
      · have lengths := congrArg List.length (split.trans same)
        simp at lengths
  · rintro ⟨before, c, rfl, found, other⟩
    have whole : before ++ [c] ++ gap = before ++ c :: gap := by simp
    rw [whole, lastMeaningful_eq_iff] at found
    rw [whole, found.separated_eq, commaAfter, if_pos other]
    simp

theorem Ends.separated_comma (ends : Ends front ',' gap) :
    separated (front ++ ',' :: gap) = front ++ ',' :: gap := by
  rw [ends.separated_eq]
  rfl

/-- The comma that setup puts behind the last entry is the one that a removal takes out. -/
theorem unseparated_separated
    (closed : ∀ escaped, ScanMode.code.after none head ≠ .string escaped)
    (comma : ∀ front gap, head = front ++ ',' :: gap → ¬ Ends front ',' gap) :
    unseparated (separated head) = head := by
  rcases lastMeaningful_cases head with none | ⟨front, c, gap, rfl, ends⟩
  · rw [separated, none]
    dsimp only
    rw [unseparated, none]
  · have other : c ≠ ',' := by
      rintro rfl
      exact comma front gap rfl ends
    rw [ends.separated_eq]
    rcases commaAfter_cases c with same | same
    · rw [same, List.nil_append, ends.unseparated_of_ne other]
    · have closed' : ¬ (ScanMode.code.after (some c) front = .code ∧ c = '"') := by
        rw [← ends.after_string_iff]
        rintro ⟨escaped, inside⟩
        exact closed escaped inside
      have whole :
          front ++ c :: (commaAfter c ++ gap) = (front ++ [c]) ++ ',' :: gap := by simp [same]
      rw [whole, (ends.comma closed').unseparated_comma]
      simp

/-- A comma that is put into a string stays there, and the next one is put in front of it. -/
theorem not_stable_of_opens (ends : Ends front '"' gap)
    (code : ScanMode.code.after (some '"') front = .code) :
    separated (unseparated (separated (front ++ '"' :: gap))) ≠
      separated (front ++ '"' :: gap) := by
  have comma : commaAfter '"' = [','] := rfl
  have ends' := ends.comma_of_opens code
  have quoted : '"' ≠ ',' := by decide
  have inserted : separated (front ++ '"' :: gap) = front ++ '"' :: ',' :: gap := by
    rw [ends.separated_eq, comma]
    rfl
  rw [inserted, ends'.unseparated_of_ne quoted, ends'.separated_eq, comma]
  intro same
  have lengths := congrArg List.length same
  simp at lengths

/-- When setup, run again after a removal, puts the comma where it was. -/
theorem stable_iff (head : Text) :
    separated (unseparated (separated head)) = separated head ↔
      (∀ escaped, ScanMode.code.after none head ≠ .string escaped) ∧
        ∀ front gap, head = front ++ ',' :: gap → Ends front ',' gap → Tight front gap := by
  by_cases trailing : ∃ front gap, head = front ++ ',' :: gap ∧ Ends front ',' gap
  · obtain ⟨front, gap, rfl, ends⟩ := trailing
    rw [ends.separated_comma, ends.unseparated_comma, separated_eq_iff_tight ends]
    constructor
    · intro tight
      refine ⟨fun escaped inside => ?_, fun front' gap' same ends' => ?_⟩
      · have opens := ends.after_string_iff.mp ⟨escaped, inside⟩
        exact absurd opens.2 (by decide)
      · have found := lastMeaningful_eq_iff.mpr ends
        rw [same, lastMeaningful_eq_iff.mpr ends'] at found
        have lengths := (Prod.mk.inj (Option.some.inj found)).1
        obtain ⟨rfl, behind⟩ := List.append_inj same lengths.symm
        cases behind
        exact tight
    · rintro ⟨_, tight⟩
      exact tight front gap rfl ends
  · have comma : ∀ front gap, head = front ++ ',' :: gap → ¬ Ends front ',' gap :=
      fun front gap split ends => trailing ⟨front, gap, split, ends⟩
    have vacuous : ∀ front gap, head = front ++ ',' :: gap → Ends front ',' gap → Tight front gap :=
      fun front gap split ends => (comma front gap split ends).elim
    constructor
    · intro stable
      refine ⟨fun escaped inside => ?_, vacuous⟩
      rcases lastMeaningful_cases head with none | ⟨front, c, gap, rfl, ends⟩
      · have outside : ∀ escaped, ScanMode.code ≠ .string escaped := nofun
        exact (scan_eq_none_iff.mp none).after_ne_string outside escaped inside
      · obtain ⟨code, rfl⟩ := ends.after_string_iff.mp ⟨escaped, inside⟩
        exact not_stable_of_opens ends code stable
    · rintro ⟨closed, _⟩
      rw [unseparated_separated closed comma]

end Comma

end PresenceUnlock.Cli.Menu
